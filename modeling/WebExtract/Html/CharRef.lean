import WebExtract.Html.Chars
import WebExtract.Html.Entity

/-!
# Character references

`CharRef.scan` reads what follows an ampersand: a named reference, or a number in decimal or
hexadecimal. An ampersand that begins no reference stands for itself.
-/
namespace WebExtract.Html

namespace CharRef

/-- What the numbers from 0x80 to 0x9F stand for; 0 where a number stands for itself. -/
def controls : List Nat :=
  [0x20AC, 0, 0x201A, 0x0192, 0x201E, 0x2026, 0x2020, 0x2021, 0x02C6, 0x2030, 0x0160, 0x2039,
   0x0152, 0, 0x017D, 0, 0, 0x2018, 0x2019, 0x201C, 0x201D, 0x2022, 0x2013, 0x2014, 0x02DC,
   0x2122, 0x0161, 0x203A, 0x0153, 0, 0x017E, 0x0178]

def ofNumber (n : Nat) : Char :=
  if n = 0 ∨ 0x10FFFF < n ∨ (0xD800 ≤ n ∧ n ≤ 0xDFFF) then Text.replacement
  else if 0x80 ≤ n ∧ n ≤ 0x9F then
    match controls[n - 0x80]? with
    | some 0 => Char.ofNat n
    | some m => Char.ofNat m
    | none => Char.ofNat n
  else Char.ofNat n

/-- The value of the digits in the given base; a value above all code points stays there. -/
def number (base : Nat) (ds : List Char) : Nat :=
  ds.foldl (fun n d => min 0x110000 (n * base + Text.hexValue d)) 0

def dropSemicolon : List Char → List Char
  | ';' :: cs => cs
  | cs => cs

/-- A number: the digits at the front of `cs`, and a semicolon if there is one. -/
def scanNumber (base : Nat) (isDigit : Char → Bool) (cs : List Char) :
    Option (List Char × List Char) :=
  let ds := cs.takeWhile isDigit
  if ds.isEmpty then none
  else some ([ofNumber (number base ds)], dropSemicolon (cs.dropWhile isDigit))

/-- A name. In an attribute value a name without its semicolon counts only if neither a letter,
a digit nor an equals sign comes next. -/
def scanName (inAttribute : Bool) (cs : List Char) : Option (List Char × List Char) :=
  let run := (cs.take Entity.longestName).takeWhile Text.isAlnum
  let most := min Entity.longestName (run.length + 1)
  match Entity.longestAt cs (min most cs.length) with
  | none => none
  | some (value, length) =>
    let rest := cs.drop length
    let closed := (cs.take length).getLast? = some ';'
    let goesOn :=
      match rest with
      | c :: _ => c = '=' || Text.isAlnum c
      | [] => false
    if inAttribute && !closed && goesOn then none else some (value, rest)

/-- What follows an ampersand: the characters referred to and the text after the reference; none if
it begins no reference. -/
def scan (inAttribute : Bool) (cs : List Char) : Option (List Char × List Char) :=
  match cs with
  | '#' :: 'x' :: cs => scanNumber 16 Text.isHexDigit cs
  | '#' :: 'X' :: cs => scanNumber 16 Text.isHexDigit cs
  | '#' :: cs => scanNumber 10 Text.isDigit cs
  | c :: _ => if Text.isAlnum c then scanName inAttribute cs else none
  | [] => none

end CharRef

end WebExtract.Html
