import WebExtract.Css.Component
import WebExtract.Text.Ascii

/-!
# Tokens of a selector text

Comments fall away. A name may hold escapes; a NUL counts as the replacement character.
-/
namespace WebExtract.Css.Lexer

open Text (isAlpha isDigit isHexDigit hexValue replacement)

def isNewline (c : Char) : Bool := c = '\n' || c = '\r' || c = '\x0c'

def isBlank (c : Char) : Bool := c = ' ' || c = '\t' || isNewline c

/-- Letters, the underscore, NUL and everything beyond ASCII. -/
def startsName (c : Char) : Bool :=
  isAlpha c || c = '_' || c = '\x00' || 0x80 ≤ c.toNat

def isNameChar (c : Char) : Bool := startsName c || isDigit c || c = '-'

def unNull (c : Char) : Char := if c = '\x00' then replacement else c

/-- Whether an escape is at the front: a backslash that does not end its line. -/
def atEscape : List Char → Bool
  | '\\' :: c :: _ => !isNewline c
  | ['\\'] => true
  | _ => false

/-- Whether an identifier is at the front. -/
def atIdent (cs : List Char) : Bool :=
  match cs with
  | '-' :: c :: _ => startsName c || c = '-' || c = '\\'
  | c :: _ => startsName c || atEscape cs
  | [] => false

/-- Whether a number is at the front. -/
def atNumber : List Char → Bool
  | '.' :: c :: _ => isDigit c
  | '+' :: '.' :: c :: _ => isDigit c
  | '-' :: '.' :: c :: _ => isDigit c
  | '+' :: c :: _ => isDigit c
  | '-' :: c :: _ => isDigit c
  | c :: _ => isDigit c
  | [] => false

def ofCodePoint (n : Nat) : Char :=
  if n = 0 ∨ 0x10FFFF < n ∨ (0xD800 ≤ n ∧ n ≤ 0xDFFF) then replacement else Char.ofNat n

/-- One blank after a code point belongs to the escape. -/
def dropBlank : List Char → List Char
  | '\r' :: '\n' :: cs => cs
  | c :: cs => if isBlank c then cs else c :: cs
  | [] => []

/-- What follows the backslash of an escape: the character meant and the text after it. -/
def escape (cs : List Char) : Char × List Char :=
  let ds := (cs.take 6).takeWhile isHexDigit
  if ds.isEmpty then
    match cs with
    | [] => (replacement, [])
    | c :: cs => (unNull c, cs)
  else
    (ofCodePoint (Text.number 16 ds), dropBlank (cs.drop ds.length))

/-- A name. The first `skip` characters belong to an escape that has been read. -/
def name : (skip : Nat) → List Char → List Char × List Char
  | _, [] => ([], [])
  | skip + 1, _ :: cs => name skip cs
  | 0, c :: cs =>
    if isNameChar c then
      let (n, rest) := name 0 cs
      (unNull c :: n, rest)
    else if atEscape (c :: cs) then
      let (e, rest) := escape cs
      let (n, rest) := name (cs.length - rest.length) cs
      (e :: n, rest)
    else ([], c :: cs)

/-- A string up to its closing quote. A newline breaks it. -/
def string (quote : Char) : (skip : Nat) → List Char → Option (List Char) × List Char
  | _, [] => (some [], [])
  | skip + 1, _ :: cs => string quote skip cs
  | 0, c :: cs =>
    if c = quote then (some [], cs)
    else if isNewline c then (none, c :: cs)
    else if c = '\\' then
      match cs with
      | [] => (some [], [])
      | '\r' :: '\n' :: _ => string quote 2 cs
      | d :: _ =>
        if isNewline d then string quote 1 cs
        else
          let (e, rest) := escape cs
          let (s, rest) := string quote (cs.length - rest.length) cs
          (s.map (e :: ·), rest)
    else
      let (s, rest) := string quote 0 cs
      (s.map (unNull c :: ·), rest)

/-- Skips the rest of an address that is broken. -/
def afterAddress : List Char → List Char
  | [] => []
  | '\\' :: _ :: cs => afterAddress cs
  | c :: cs => if c = ')' then cs else afterAddress cs

/-- Whether an address without quotes is sound up to its closing bracket. The first `skip`
characters belong to an escape that has been read. -/
def addressIsSound : (skip : Nat) → List Char → Bool
  | _, [] => true
  | skip + 1, _ :: cs => addressIsSound skip cs
  | 0, c :: cs =>
    if c = ')' then true
    else if isBlank c then
      match cs.dropWhile isBlank with
      | [] => true
      | c :: _ => c = ')'
    else if c = '\\' then
      atEscape (c :: cs) && addressIsSound (cs.length - (escape cs).2.length) cs
    else if c = '"' ∨ c = '\'' ∨ c = '(' ∨ (c < ' ' ∧ c ≠ '\x00') ∨ c = '\x7f' then false
    else addressIsSound 0 cs

/-- A name and what it turns out to be by what follows it. -/
def identLike (cs : List Char) : Token × List Char :=
  let (n, rest) := name 0 cs
  let n := String.ofList n
  match rest with
  | '(' :: rest =>
    if n.toLower = "url" then
      let inner := rest.dropWhile isBlank
      match inner with
      | '"' :: _ => (.function n, rest)
      | '\'' :: _ => (.function n, rest)
      | _ => (if addressIsSound 0 inner then .other else .broken, afterAddress inner)
    else (.function n, rest)
  | rest => (.ident n, rest)

/-- Whole values stop at the ends of 32 bits. -/
def clamp (n : Int) : Int := max (-2147483648) (min 2147483647 n)

def fraction (cs : List Char) : Option (List Char) :=
  match cs with
  | '.' :: c :: _ => if isDigit c then some ((cs.drop 1).dropWhile isDigit) else none
  | _ => none

def exponent (cs : List Char) : Option (List Char) :=
  let afterSign (cs : List Char) : List Char :=
    match cs with
    | '+' :: cs => cs
    | '-' :: cs => cs
    | cs => cs
  match cs with
  | c :: cs =>
    if c = 'e' ∨ c = 'E' then
      match afterSign cs with
      | d :: ds => if isDigit d then some (ds.dropWhile isDigit) else none
      | [] => none
    else none
  | [] => none

/-- Whether there is a sign, whether it is a minus, and the text after it. -/
def sign : List Char → Bool × Bool × List Char
  | '-' :: cs => (true, true, cs)
  | '+' :: cs => (true, false, cs)
  | cs => (false, false, cs)

def number (cs : List Char) : Token × List Char :=
  let (signed, negative, cs) := sign cs
  let digits := cs.takeWhile isDigit
  let n : Int := Text.number 10 digits
  let rest := cs.dropWhile isDigit
  let (whole, rest) :=
    match fraction rest with
    | some rest => (false, rest)
    | none => (true, rest)
  let (whole, rest) :=
    match exponent rest with
    | some rest => (false, rest)
    | none => (whole, rest)
  let value := if whole then some (clamp (if negative then -n else n)) else none
  match rest with
  | '%' :: rest => (.other, rest)
  | rest =>
    if atIdent rest then
      let (unit, rest) := name 0 rest
      (.dimension signed value (String.ofList unit), rest)
    else (.number signed value, rest)

/-- The text after a comment. -/
def afterComment : List Char → List Char
  | [] => []
  | '*' :: '/' :: cs => cs
  | _ :: cs => afterComment cs

/-- The token at the front, none for a comment, and the text after it. -/
def token (c : Char) (cs : List Char) : Option Token × List Char :=
  if isBlank c then (some .blank, cs.dropWhile isBlank)
  else if c = '"' ∨ c = '\'' then
    match string c 0 cs with
    | (some s, rest) => (some (.string (String.ofList s)), rest)
    | (none, rest) => (some .broken, rest)
  else if atNumber (c :: cs) then
    let (t, rest) := number (c :: cs)
    (some t, rest)
  else if ['-', '-', '>'].isPrefixOf (c :: cs) then (some .other, cs.drop 2)
  else if atIdent (c :: cs) then
    let (t, rest) := identLike (c :: cs)
    (some t, rest)
  else
    match c, cs with
    | '#', cs =>
      if atIdent cs then
        let (n, rest) := name 0 cs
        (some (.idHash (String.ofList n)), rest)
      else if cs.head?.any fun c => isDigit c || c = '-' then (some .other, (name 0 cs).2)
      else (some (.delim '#'), cs)
    | '$', '=' :: cs => (some (.sign .finish), cs)
    | '*', '=' :: cs => (some (.sign .within), cs)
    | '^', '=' :: cs => (some (.sign .start), cs)
    | '|', '=' :: cs => (some (.sign .dash), cs)
    | '~', '=' :: cs => (some (.sign .includes), cs)
    | '/', '*' :: cs => (none, afterComment cs)
    | '<', '!' :: '-' :: '-' :: cs => (some .other, cs)
    | '@', cs => if atIdent cs then (some .other, (name 0 cs).2) else (some (.delim '@'), cs)
    | ':', cs => (some .colon, cs)
    | ',', cs => (some .comma, cs)
    | ';', cs => (some .other, cs)
    | c, cs =>
      if c = '(' ∨ c = '[' ∨ c = '\x7b' then (some (.opening c), cs)
      else if c = ')' ∨ c = ']' ∨ c = '\x7d' then (some (.closing c), cs)
      else (some (.delim c), cs)

/-- The tokens of a text, read in at most `fuel` steps of one character or more. -/
def tokensFrom : (fuel : Nat) → List Char → List Token
  | 0, _ => []
  | _, [] => []
  | fuel + 1, c :: cs =>
    match token c cs with
    | (some t, rest) => t :: tokensFrom fuel rest
    | (none, rest) => tokensFrom fuel rest

def tokens (text : String) : List Token := tokensFrom text.length text.toList

end WebExtract.Css.Lexer
