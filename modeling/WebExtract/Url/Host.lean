import WebExtract.Url.Domain
import WebExtract.Url.Percent

/-!
# Hosts

A host is a name, an IPv4 address or an IPv6 address. In addresses of well-known schemes a name is
a domain name, and one that ends in a number is an IPv4 address.
-/
namespace WebExtract.Url

inductive Host
  | name (text : String)
  | ipv4 (address : UInt32)
  | ipv6 (pieces : Vector UInt16 8)
  deriving DecidableEq, Repr

namespace Host

open Text (isDigit isHexDigit)

/-! ## IPv4 -/

/-- The parts of a name; a point at its end separates nothing. -/
def parts (cs : List Char) : List (List Char) :=
  match (Domain.labels cs).reverse with
  | [] :: l :: ls => (l :: ls).reverse
  | ls => ls.reverse

def startsHex : List Char → Bool
  | '0' :: 'x' :: ds => ds.all isHexDigit
  | '0' :: 'X' :: ds => ds.all isHexDigit
  | _ => false

/-- Whether a name must be an IPv4 address. -/
def endsInNumber (cs : List Char) : Bool :=
  match (parts cs).getLast? with
  | some l => (!l.isEmpty && l.all isDigit) || startsHex l
  | none => false

/-- A number in hexadecimal behind `0x`, in octal behind `0`, or in decimal. -/
def number? (cs : List Char) : Option Nat :=
  if startsHex cs then some (Text.number 16 (cs.drop 2))
  else
    match cs with
    | [] => none
    | '0' :: d :: ds =>
      if (d :: ds).all fun c => '0' ≤ c && c ≤ '7' then some (Text.number 8 (d :: ds)) else none
    | ds => if ds.all isDigit then some (Text.number 10 ds) else none

/-- The value of up to four numbers. All but the last are bytes; the last fills what is left. -/
def ipv4Value? (ns : List Nat) : Option Nat :=
  let bytes := ns.dropLast
  match ns.getLast? with
  | some last =>
    if ns.length ≤ 4 ∧ bytes.all (· < 256) ∧ last < Nat.pow 256 (4 - bytes.length) then
      some (bytes.foldl (fun n b => n * 256 + b) 0 * Nat.pow 256 (4 - bytes.length) + last)
    else none
  | none => none

def ipv4? (cs : List Char) : Option Host := do
  return .ipv4 (UInt32.ofNat (← ipv4Value? (← (parts cs).mapM number?)))

/-! ## IPv6 -/

/-- The text before and after the first double colon. -/
def divide : List Char → List Char × Option (List Char)
  | ':' :: ':' :: cs => ([], some cs)
  | c :: cs => ((c :: (divide cs).1), (divide cs).2)
  | [] => ([], none)

def piece? (cs : List Char) : Option Nat :=
  if 1 ≤ cs.length ∧ cs.length ≤ 4 ∧ cs.all isHexDigit then some (Text.number 16 cs) else none

/-- A byte in decimal, with no zero before its digits. -/
def byte? (cs : List Char) : Option Nat :=
  let n := Text.number 10 cs
  let padded := 1 < cs.length ∧ cs.head? = some '0'
  if 1 ≤ cs.length ∧ cs.length ≤ 3 ∧ cs.all isDigit ∧ n < 256 ∧ ¬padded then some n else none

/-- Four bytes in decimal, as two pieces. -/
def dotted? (cs : List Char) : Option (List Nat) := do
  match ← (cs.splitOn '.').mapM byte? with
  | [a, b, c, d] => return [a * 256 + b, c * 256 + d]
  | _ => none

/-- The pieces with colons between them; four bytes may stand for the last two if `last` allows. -/
def pieces? (last : Bool) (cs : List Char) : Option (List Nat) :=
  if cs.isEmpty then some []
  else
    let fs := cs.splitOn ':'
    match fs.getLast? with
    | none => none
    | some f =>
      if last && f.contains '.' then do
        return (← fs.dropLast.mapM piece?) ++ (← dotted? f)
      else fs.mapM piece?

/-- The eight pieces. A double colon stands for at least one piece that is zero. -/
def eightPieces? (cs : List Char) : Option (List Nat) :=
  match divide cs with
  | (cs, none) => pieces? true cs
  | (left, some right) => do
    let left ← pieces? false left
    let right ← pieces? true right
    if left.length + right.length < 8 then
      return left ++ List.replicate (8 - left.length - right.length) 0 ++ right
    else none

def ipv6? (cs : List Char) : Option Host := do
  let ps ← eightPieces? cs
  if h : ps.length = 8 then return .ipv6 ⟨(ps.map UInt16.ofNat).toArray, by simp [h]⟩ else none

/-- The address in brackets that a host begins with. -/
def bracketed? (cs : List Char) : Option Host :=
  if cs.getLast? = some ']' then ipv6? cs.dropLast else none

/-! ## Reading -/

/-- The host of an address of a well-known scheme. -/
def ofDomain? (cs : List Char) : Option Host :=
  match cs with
  | '[' :: cs => bracketed? cs
  | cs => do
    let name ← Domain.ascii? (Text.ofUtf8 (Percent.decode cs))
    if name.isEmpty then none
    else if endsInNumber name then ipv4? name
    else return .name (String.ofList name)

/-- Characters that no host has. -/
def isForbidden (c : Char) : Bool :=
  c = '\x00' || c = '\t' || c = '\n' || c = '\r' || c = ' ' || c = '#' || c = '/' || c = ':' ||
    c = '<' || c = '>' || c = '?' || c = '@' || c = '[' || c = '\\' || c = ']' || c = '^' || c = '|'

/-- The host of an address of any other scheme, which may be empty. -/
def ofName? (cs : List Char) : Option Host :=
  match cs with
  | '[' :: cs => bracketed? cs
  | cs =>
    if cs.any isForbidden then none
    else some (.name (String.ofList (Percent.encode Percent.inNone cs)))

/-! ## Writing -/

def renderIpv4 (address : UInt32) : String :=
  let n := address.toNat
  let byte (i : Nat) : String := toString (n / Nat.pow 256 i % 256)
  byte 3 ++ "." ++ byte 2 ++ "." ++ byte 1 ++ "." ++ byte 0

def renderPieces (ps : List UInt16) : String :=
  ":".intercalate (ps.map fun p => String.ofList (Nat.toDigits 16 p.toNat))

/-- How many zeros are at the front. -/
def zeros (ps : List UInt16) : Nat := (ps.takeWhile (· = 0)).length

/-- Where the longest run of zeros begins, the first of equals, and how long it is; `i` is the place
of the first piece. -/
def longestZeros (i : Nat) : List UInt16 → Nat × Nat
  | [] => (i, 0)
  | p :: ps =>
    let here := zeros (p :: ps)
    let later := longestZeros (i + 1) ps
    if later.2 ≤ here then (i, here) else later

/-- The pieces with the longest run of two or more zeros left out. -/
def renderIpv6 (ps : List UInt16) : String :=
  let (start, length) := longestZeros 0 ps
  if length < 2 then renderPieces ps
  else renderPieces (ps.take start) ++ "::" ++ renderPieces (ps.drop (start + length))

def render : Host → String
  | .name text => text
  | .ipv4 address => renderIpv4 address
  | .ipv6 pieces => "[" ++ renderIpv6 pieces.toList ++ "]"

end Host

end WebExtract.Url
