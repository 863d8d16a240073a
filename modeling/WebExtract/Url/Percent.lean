import WebExtract.Text.Utf8

/-!
# Percent-coding

A byte that may not stand in a part of an address is written as a percent sign and two hexadecimal
digits. Each part has its own set of such characters, `escaped`; controls and all that lies beyond
ASCII are in every set.
-/
namespace WebExtract.Url.Percent

open Text (isHexDigit hexValue utf8)

def hexDigit (n : Nat) : Char := if n < 10 then Char.ofNat (48 + n) else Char.ofNat (55 + n)

def escape (b : UInt8) : List Char := ['%', hexDigit (b.toNat / 16), hexDigit (b.toNat % 16)]

def encodeChar (escaped : Char → Bool) (c : Char) : List Char :=
  if c.toNat < 0x20 || 0x7F ≤ c.toNat || escaped c then (String.utf8EncodeChar c).flatMap escape
  else [c]

def encode (escaped : Char → Bool) (cs : List Char) : List Char := cs.flatMap (encodeChar escaped)

/-- The bytes that a text stands for. A percent sign without two digits stands for itself. -/
def decode : List Char → List UInt8
  | '%' :: a :: b :: cs =>
    if isHexDigit a && isHexDigit b then UInt8.ofNat (hexValue a * 16 + hexValue b) :: decode cs
    else utf8 ['%'] ++ decode (a :: b :: cs)
  | c :: cs => String.utf8EncodeChar c ++ decode cs
  | [] => []

/-! ## The sets -/

def inFragment (c : Char) : Bool := c = ' ' || c = '"' || c = '<' || c = '>' || c = '`'

def inQuery (c : Char) : Bool := c = ' ' || c = '"' || c = '#' || c = '<' || c = '>'

/-- The query of an address of a well-known scheme. -/
def inSpecialQuery (c : Char) : Bool := inQuery c || c = '\''

def inPath (c : Char) : Bool :=
  inFragment c || c = '#' || c = '?' || c = '^' || c = '\x7b' || c = '\x7d'

def inCredentials (c : Char) : Bool :=
  inPath c || c = '/' || c = ':' || c = ';' || c = '=' || c = '@' || c = '[' || c = '\\' ||
    c = ']' || c = '|'

/-- Nothing beyond controls and non-ASCII. -/
def inNone (_ : Char) : Bool := false

end WebExtract.Url.Percent
