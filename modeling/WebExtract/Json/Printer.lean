import WebExtract.Json.Basic

/-!
# The compact text of a JSON value

No blanks, members in order. In a string the quote, the backslash and the characters below U+0020
are escaped, and nothing else.
-/
namespace WebExtract.Json

/-- Four lower-case hexadecimal digits, for a number below 256. -/
def hex4 (n : Nat) : List Char :=
  ['0', '0', Nat.digitChar (n / 16), Nat.digitChar (n % 16)]

def escapeChar (c : Char) : List Char :=
  if c = '"' then ['\\', '"']
  else if c = '\\' then ['\\', '\\']
  else if c = '\n' then ['\\', 'n']
  else if c = '\r' then ['\\', 'r']
  else if c = '\t' then ['\\', 't']
  else if c = '\x08' then ['\\', 'b']
  else if c = '\x0c' then ['\\', 'f']
  else if c < ' ' then '\\' :: 'u' :: hex4 c.toNat
  else [c]

def renderString (s : String) : List Char :=
  '"' :: s.toList.flatMap escapeChar ++ ['"']

def renderNumber : Number → List Char
  | .integer n => n.repr.toList
  | .float x => x.render.toList

mutual

def renderChars : Json → List Char
  | .null => "null".toList
  | .bool true => "true".toList
  | .bool false => "false".toList
  | .number n => renderNumber n
  | .string s => renderString s
  | .array elements => '[' :: renderElements true elements
  | .object members => '\x7b' :: renderMembers true members

/-- The elements with the closing bracket; `first` tells whether no comma is due. -/
def renderElements (first : Bool) : List Json → List Char
  | [] => [']']
  | v :: vs => (if first then [] else [',']) ++ v.renderChars ++ renderElements false vs

def renderMembers (first : Bool) : List (String × Json) → List Char
  | [] => ['\x7d']
  | (k, v) :: ms =>
    (if first then [] else [',']) ++ renderString k ++ ':' :: v.renderChars ++
      renderMembers false ms

end

def render (v : Json) : String := String.ofList v.renderChars

end WebExtract.Json
