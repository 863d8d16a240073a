import WebExtract.Json.Reader

/-!
# Passing over JSON values

A value that nobody asks for is passed over without being built. Its nesting is not limited and its
numbers and escapes need not make sense, as long as their form is right.
-/
namespace WebExtract.Json

open Text (isDigit)

/-- Passes an escape, after its backslash. -/
def skipEscape : List Char → Except Stop (List Char)
  | [] => stopAt [] .endInString
  | 'u' :: cs => do return (← scanHex4 cs).2
  | c :: cs =>
    if ['"', '\\', '/', 'b', 'f', 'n', 'r', 't'].contains c then .ok cs
    else stopBefore (c :: cs) .invalidEscape

/-- Passes a string whose opening quote has been read; the first `skip` characters belong to an
escape. -/
def skipString : (skip : Nat) → List Char → Except Stop (List Char)
  | _, [] => stopAt [] .endInString
  | skip + 1, _ :: cs => skipString skip cs
  | 0, c :: cs =>
    if c = '"' then .ok cs
    else if c = '\\' then do
      let rest ← skipEscape cs
      skipString (cs.length - rest.length) cs
    else if c < ' ' then stopAt (c :: cs) .controlCharacter
    else skipString 0 cs

/-- Passes the exponent part of a number, after its letter. -/
def skipExponent (cs : List Char) : Except Stop (List Char) :=
  let cs :=
    match cs with
    | '+' :: cs => cs
    | '-' :: cs => cs
    | cs => cs
  match cs with
  | [] => stopAt [] .invalidNumber
  | c :: rest => if isDigit c then .ok (afterDigits rest) else stopBefore (c :: rest) .invalidNumber

def skipOptionalExponent : List Char → Except Stop (List Char)
  | 'e' :: cs => skipExponent cs
  | 'E' :: cs => skipExponent cs
  | cs => .ok cs

/-- Passes a number without its sign. -/
def skipNumber (cs : List Char) : Except Stop (List Char) :=
  match cs with
  | [] => stopAt [] .invalidNumber
  | c :: rest =>
    if !isDigit c then stopBefore cs .invalidNumber
    else if c = '0' ∧ !(digitsOf rest).isEmpty then stopBefore rest .invalidNumber
    else
      match afterDigits cs with
      | '.' :: rest =>
        if (digitsOf rest).isEmpty then stopBefore rest .invalidNumber
        else skipOptionalExponent (afterDigits rest)
      | rest => skipOptionalExponent rest

/-- The next part of an array or object that ends with `close`, `first` before its first part. -/
def nextSkipped (close : Char) (atEnd expected : Fault) (first : Bool) (cs : List Char) :
    Except Stop Next :=
  match skipBlanks cs with
  | [] => stopBefore [] atEnd
  | c :: cs =>
    if c = close then .ok (.close cs)
    else if first then .ok (.part (c :: cs))
    else if c = ',' then .ok (.part cs)
    else stopBefore (c :: cs) expected

/-- Passes a key. -/
def skipKey (cs : List Char) : Except Stop (List Char) :=
  match skipBlanks cs with
  | [] => stopBefore [] .endInObject
  | '"' :: cs => skipString 0 cs
  | cs => stopBefore cs .keyNotString

mutual

/-- Passes the value at the front, in at most `fuel` steps; twice the length of the text and one
more is enough. -/
def skipValue (fuel : Nat) (cs : List Char) : Except Stop (List Char) :=
  match fuel with
  | 0 => stopAt cs .tooDeep
  | fuel + 1 =>
    match skipBlanks cs with
    | [] => stopBefore [] .endInValue
    | 'n' :: cs => scanWord ['u', 'l', 'l'] cs
    | 't' :: cs => scanWord ['r', 'u', 'e'] cs
    | 'f' :: cs => scanWord ['a', 'l', 's', 'e'] cs
    | '"' :: cs => skipString 0 cs
    | '-' :: cs => skipNumber cs
    | '[' :: cs => skipElements fuel true cs
    | '\x7b' :: cs => skipMembers fuel true cs
    | c :: cs => if isDigit c then skipNumber (c :: cs) else stopBefore (c :: cs) .expectedValue

/-- Passes the rest of an array, `first` before its first element. -/
def skipElements (fuel : Nat) (first : Bool) (cs : List Char) : Except Stop (List Char) :=
  match fuel with
  | 0 => stopAt cs .tooDeep
  | fuel + 1 => do
    match ← nextSkipped ']' .endInList .expectedCommaOrBracket first cs with
    | .close cs => return cs
    | .part cs => skipElements fuel false (← skipValue fuel cs)

/-- Passes the rest of an object, `first` before its first member. -/
def skipMembers (fuel : Nat) (first : Bool) (cs : List Char) : Except Stop (List Char) :=
  match fuel with
  | 0 => stopAt cs .tooDeep
  | fuel + 1 => do
    match ← nextSkipped '\x7d' .endInObject .expectedCommaOrBrace first cs with
    | .close cs => return cs
    | .part cs =>
      let cs ← scanColon (← skipKey cs)
      skipMembers fuel false (← skipValue fuel cs)

end

end WebExtract.Json
