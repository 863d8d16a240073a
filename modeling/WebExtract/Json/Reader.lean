import WebExtract.Json.Basic
import WebExtract.Text.Utf8

/-!
# Reading JSON texts

A scanner takes the unread text and returns what it read and the text after it, or the place where
it stopped and why. `readWritten` reads a whole text as written, with repeated keys; `read` merges
them. At most 127 arrays and objects may be open at once.

An error is reported at the line and column up to which the text was looked at, columns counted in
bytes: that is the end of what was read, or one byte further if the next byte is to blame.
-/
namespace WebExtract.Json

open Text (isDigit hexValue utf8)

/-- Why a text is not what was asked for. -/
inductive Fault
  | endInList | endInObject | endInString | endInValue
  | expectedColon | expectedCommaOrBracket | expectedCommaOrBrace | expectedWord | expectedValue
  | invalidEscape | invalidNumber | numberOutOfRange | controlCharacter | keyNotString
  | loneSurrogate | unfinishedSurrogate | trailingComma | trailingCharacters | tooDeep
  | invalidType (found expected : String)
  | duplicateField (name : String)
  deriving DecidableEq, Repr

def Fault.message : Fault → String
  | .endInList => "EOF while parsing a list"
  | .endInObject => "EOF while parsing an object"
  | .endInString => "EOF while parsing a string"
  | .endInValue => "EOF while parsing a value"
  | .expectedColon => "expected `:`"
  | .expectedCommaOrBracket => "expected `,` or `]`"
  | .expectedCommaOrBrace => "expected `,` or `\x7d`"
  | .expectedWord => "expected ident"
  | .expectedValue => "expected value"
  | .invalidEscape => "invalid escape"
  | .invalidNumber => "invalid number"
  | .numberOutOfRange => "number out of range"
  | .controlCharacter => "control character (\\u0000-\\u001F) found while parsing a string"
  | .keyNotString => "key must be a string"
  | .loneSurrogate => "lone leading surrogate in hex escape"
  | .unfinishedSurrogate => "unexpected end of hex escape"
  | .trailingComma => "trailing comma"
  | .trailingCharacters => "trailing characters"
  | .tooDeep => "recursion limit exceeded"
  | .invalidType found expected => "invalid type: " ++ found ++ ", expected " ++ expected
  | .duplicateField name => "duplicate field `" ++ name ++ "`"

structure ReadError where
  fault : Fault
  line : Nat
  column : Nat
  deriving DecidableEq, Repr

def ReadError.message (e : ReadError) : String :=
  e.fault.message ++ " at line " ++ toString e.line ++ " column " ++ toString e.column

/-- A scan that failed: the text not yet read, and how many bytes of it were looked at. -/
structure Stop where
  fault : Fault
  rest : List Char
  seen : Nat

/-- Failure at the end of what was read. -/
def stopAt {α : Type} (rest : List Char) (fault : Fault) : Except Stop α := .error ⟨fault, rest, 0⟩

/-- Failure with the next byte to blame. -/
def stopBefore {α : Type} (rest : List Char) (fault : Fault) : Except Stop α :=
  .error ⟨fault, rest, 1⟩

/-- The line and column reached after `bytes`. -/
def positionAfter (bytes : List UInt8) : Nat × Nat :=
  bytes.foldl (fun p b => if b = 10 then (p.1 + 1, 0) else (p.1, p.2 + 1)) (1, 0)

/-- The error that a failed scan of `input` is reported as. -/
def Stop.toError (input : List Char) (s : Stop) : ReadError :=
  let read := utf8 (input.take (input.length - s.rest.length)) ++ (utf8 s.rest).take s.seen
  let (line, column) := positionAfter read
  ⟨s.fault, line, column⟩

/-! ## Words, strings, numbers -/

def isBlank (c : Char) : Bool := c = ' ' || c = '\n' || c = '\t' || c = '\r'

def skipBlanks (cs : List Char) : List Char := cs.dropWhile isBlank

/-- The rest of a word that has to follow. -/
def scanWord : List Char → List Char → Except Stop (List Char)
  | [], cs => .ok cs
  | _ :: _, [] => stopAt [] .endInValue
  | w :: ws, c :: cs => if c = w then scanWord ws cs else stopBefore (c :: cs) .expectedWord

def hexDigit? (c : Char) : Option Nat :=
  if '0' ≤ c ∧ c ≤ '9' then some (c.toNat - 48)
  else if 'a' ≤ c ∧ c ≤ 'f' then some (c.toNat - 87)
  else if 'A' ≤ c ∧ c ≤ 'F' then some (c.toNat - 55)
  else none

/-- Four hexadecimal digits at the front. -/
def scanHex4 (cs : List Char) : Except Stop (Nat × List Char) :=
  if (utf8 cs).length < 4 then stopAt [] .endInString
  else
    match cs with
    | a :: b :: c :: d :: rest =>
      match hexDigit? a, hexDigit? b, hexDigit? c, hexDigit? d with
      | some a, some b, some c, some d => .ok (((a * 16 + b) * 16 + c) * 16 + d, rest)
      | _, _, _, _ => .error ⟨.invalidEscape, cs, 4⟩
    | _ => .error ⟨.invalidEscape, cs, 4⟩

/-- What follows `\u` in a string: one unit of 16 bits, or two that make up one character. -/
def scanUnicodeEscape (cs : List Char) : Except Stop (Char × List Char) := do
  let (n, cs) ← scanHex4 cs
  if 0xDC00 ≤ n ∧ n ≤ 0xDFFF then stopAt cs .loneSurrogate
  else if n < 0xD800 ∨ 0xDBFF < n then return (Char.ofNat n, cs)
  else
    match cs with
    | [] => stopAt [] .endInString
    | '\\' :: [] => stopAt [] .endInString
    | '\\' :: 'u' :: cs =>
      let (m, cs) ← scanHex4 cs
      if m < 0xDC00 ∨ 0xDFFF < m then stopAt cs .loneSurrogate
      else return (Char.ofNat ((n - 0xD800) * 0x400 + (m - 0xDC00) + 0x10000), cs)
    | '\\' :: cs => stopBefore cs .unfinishedSurrogate
    | cs => stopBefore cs .unfinishedSurrogate

/-- What follows a backslash in a string. -/
def scanEscape : List Char → Except Stop (Char × List Char)
  | [] => stopAt [] .endInString
  | '"' :: cs => .ok ('"', cs)
  | '\\' :: cs => .ok ('\\', cs)
  | '/' :: cs => .ok ('/', cs)
  | 'b' :: cs => .ok ('\x08', cs)
  | 'f' :: cs => .ok ('\x0c', cs)
  | 'n' :: cs => .ok ('\n', cs)
  | 'r' :: cs => .ok ('\r', cs)
  | 't' :: cs => .ok ('\t', cs)
  | 'u' :: cs => scanUnicodeEscape cs
  | cs => stopBefore cs .invalidEscape

/-- The characters of a string up to its closing quote, the first `skip` left out: those belong to
an escape that has been read. -/
def scanStringBody : Nat → List Char → Except Stop (List Char × List Char)
  | _, [] => stopAt [] .endInString
  | skip + 1, _ :: cs => scanStringBody skip cs
  | 0, c :: cs =>
    if c = '"' then .ok ([], cs)
    else if c = '\\' then do
      let (e, rest) ← scanEscape cs
      let (s, rest) ← scanStringBody (cs.length - rest.length) cs
      return (e :: s, rest)
    else if c < ' ' then stopBefore (c :: cs) .controlCharacter
    else do
      let (s, rest) ← scanStringBody 0 cs
      return (c :: s, rest)

/-- A string whose opening quote has been read. -/
def scanString (cs : List Char) : Except Stop (String × List Char) := do
  let (s, rest) ← scanStringBody 0 cs
  return (String.ofList s, rest)

/-- The digits at the front. -/
def digitsOf (cs : List Char) : List Char := cs.takeWhile isDigit

def afterDigits (cs : List Char) : List Char := cs.dropWhile isDigit

/-- The number that the longest run of leading digits below 2^64 spells, after `n`, and the digits
left over. -/
def leading (n : Nat) : List Char → Nat × List Char
  | [] => (n, [])
  | d :: ds =>
    if n * 10 + hexValue d < Nat.pow 2 64 then leading (n * 10 + hexValue d) ds else (n, d :: ds)

def finishFloat (negative : Bool) (significand : Nat) (k : Int) (cs : List Char) :
    Except Stop (Number × List Char) :=
  match Binary64.ofDecimal negative significand k with
  | some x => .ok (.float x, cs)
  | none => stopAt cs .numberOutOfRange

/-- The exponent part of a number, after the letter. -/
def scanExponent (negative : Bool) (significand : Nat) (k : Int) (cs : List Char) :
    Except Stop (Number × List Char) :=
  let (positive, cs) : Bool × List Char :=
    match cs with
    | '+' :: cs => (true, cs)
    | '-' :: cs => (false, cs)
    | cs => (true, cs)
  match cs with
  | [] => stopAt [] .endInValue
  | c :: rest =>
    if !isDigit c then stopBefore (c :: rest) .invalidNumber
    else
      let ds := digitsOf cs
      -- an exponent of 2^31 or more settles the matter at the digit that takes it there
      let tooLong := (List.range ds.length).find? fun i =>
        decide (Nat.pow 2 31 ≤ Text.number 10 (ds.take (i + 1)))
      match tooLong with
      | some i =>
        if significand ≠ 0 ∧ positive then stopAt (cs.drop (i + 1)) .numberOutOfRange
        else .ok (.float (Binary64.zero negative), afterDigits cs)
      | none =>
        let e : Int := Text.number 10 ds
        finishFloat negative significand (if positive then k + e else k - e) (afterDigits cs)

/-- The exponent part, if there is one. -/
def scanOptionalExponent (negative : Bool) (significand : Nat) (k : Int) :
    List Char → Except Stop (Number × List Char)
  | 'e' :: cs => scanExponent negative significand k cs
  | 'E' :: cs => scanExponent negative significand k cs
  | cs => finishFloat negative significand k cs

/-- The part of a number after its point. -/
def scanFraction (negative : Bool) (significand : Nat) (k : Int) (cs : List Char) :
    Except Stop (Number × List Char) :=
  let ds := digitsOf cs
  let (n, left) := leading significand ds
  let rest := afterDigits cs
  if ds.isEmpty then
    if rest.isEmpty then stopBefore rest .endInValue else stopBefore rest .invalidNumber
  else scanOptionalExponent negative n (k - (ds.length - left.length : Nat)) rest

/-- A number without its sign. -/
def scanNumber (negative : Bool) (cs : List Char) : Except Stop (Number × List Char) :=
  match cs with
  | [] => stopAt [] .endInValue
  | c :: rest =>
    if !isDigit c then stopBefore cs .invalidNumber
    else if c = '0' ∧ !(digitsOf rest).isEmpty then stopBefore rest .invalidNumber
    else
      let (n, left) := leading 0 (digitsOf cs)
      let rest := afterDigits cs
      match rest with
      | '.' :: rest => scanFraction negative n left.length rest
      | 'e' :: rest => scanExponent negative n left.length rest
      | 'E' :: rest => scanExponent negative n left.length rest
      | rest =>
        if !left.isEmpty then finishFloat negative n left.length rest
        else if !negative then .ok (.integer n, rest)
        -- minus zero and what lies below -2^63 are floats
        else if n = 0 ∨ Nat.pow 2 63 < n then finishFloat true n 0 rest
        else .ok (.integer (-n), rest)

/-! ## Values -/

/-- How many arrays and objects may be open at once. -/
def depthLimit : Nat := 127

/-- How the rest of an array or object goes on: it closes, or another part comes. -/
inductive Next
  | close (rest : List Char)
  | part (rest : List Char)

/-- The next element of an array, `first` before its first one. -/
def nextElement (first : Bool) (cs : List Char) : Except Stop Next :=
  match skipBlanks cs with
  | [] => stopBefore [] .endInList
  | ']' :: cs => .ok (.close cs)
  | c :: cs =>
    if first then .ok (.part (c :: cs))
    else if c = ',' then
      match skipBlanks cs with
      | [] => stopBefore [] .endInValue
      | ']' :: cs => stopBefore (']' :: cs) .trailingComma
      | cs => .ok (.part cs)
    else stopBefore (c :: cs) .expectedCommaOrBracket

/-- The key of the next member of an object, its opening quote read. -/
def nextKey (first : Bool) (cs : List Char) : Except Stop Next :=
  match skipBlanks cs with
  | [] => stopBefore [] .endInObject
  | '\x7d' :: cs => .ok (.close cs)
  | c :: cs =>
    if first then if c = '"' then .ok (.part cs) else stopBefore (c :: cs) .keyNotString
    else if c = ',' then
      match skipBlanks cs with
      | [] => stopBefore [] .endInValue
      | '"' :: cs => .ok (.part cs)
      | '\x7d' :: cs => stopBefore ('\x7d' :: cs) .trailingComma
      | cs => stopBefore cs .keyNotString
    else stopBefore (c :: cs) .expectedCommaOrBrace

def scanColon (cs : List Char) : Except Stop (List Char) :=
  match skipBlanks cs with
  | [] => stopBefore [] .endInObject
  | ':' :: cs => .ok cs
  | cs => stopBefore cs .expectedColon

mutual

/-- The value at the front. `depth` is how many containers may still be opened; `fuel` bounds the
number of steps, and twice the length of the text and one more is enough. -/
def scanValue (fuel depth : Nat) (cs : List Char) : Except Stop (Json × List Char) :=
  match fuel with
  | 0 => stopAt cs .tooDeep
  | fuel + 1 =>
    match skipBlanks cs with
    | [] => stopBefore [] .endInValue
    | 'n' :: cs => do return (.null, ← scanWord ['u', 'l', 'l'] cs)
    | 't' :: cs => do return (.bool true, ← scanWord ['r', 'u', 'e'] cs)
    | 'f' :: cs => do return (.bool false, ← scanWord ['a', 'l', 's', 'e'] cs)
    | '"' :: cs => do
      let (s, cs) ← scanString cs
      return (.string s, cs)
    | '[' :: cs =>
      match depth with
      | 0 => stopBefore ('[' :: cs) .tooDeep
      | depth + 1 => do
        let (vs, cs) ← scanElements fuel depth true cs
        return (.array vs, cs)
    | '\x7b' :: cs =>
      match depth with
      | 0 => stopBefore ('\x7b' :: cs) .tooDeep
      | depth + 1 => do
        let (ms, cs) ← scanMembers fuel depth true cs
        return (.object ms, cs)
    | '-' :: cs => do
      let (n, cs) ← scanNumber true cs
      return (.number n, cs)
    | c :: cs =>
      if isDigit c then do
        let (n, cs) ← scanNumber false (c :: cs)
        return (.number n, cs)
      else stopBefore (c :: cs) .expectedValue

/-- The rest of an array, `first` before its first element. -/
def scanElements (fuel depth : Nat) (first : Bool) (cs : List Char) :
    Except Stop (List Json × List Char) :=
  match fuel with
  | 0 => stopAt cs .tooDeep
  | fuel + 1 => do
    match ← nextElement first cs with
    | .close cs => return ([], cs)
    | .part cs =>
      let (v, cs) ← scanValue fuel depth cs
      let (vs, cs) ← scanElements fuel depth false cs
      return (v :: vs, cs)

/-- The rest of an object, `first` before its first member. -/
def scanMembers (fuel depth : Nat) (first : Bool) (cs : List Char) :
    Except Stop (List (String × Json) × List Char) :=
  match fuel with
  | 0 => stopAt cs .tooDeep
  | fuel + 1 => do
    match ← nextKey first cs with
    | .close cs => return ([], cs)
    | .part cs =>
      let (k, cs) ← scanString cs
      let cs ← scanColon cs
      let (v, cs) ← scanValue fuel depth cs
      let (ms, cs) ← scanMembers fuel depth false cs
      return ((k, v) :: ms, cs)

end

/-- Nothing but blanks may follow. -/
def scanEnd (cs : List Char) : Except Stop Unit :=
  match skipBlanks cs with
  | [] => .ok ()
  | cs => stopBefore cs .trailingCharacters

/-- The value of a text with at most `depth` containers open at once, keys repeated as written. -/
def readWrittenTo (depth : Nat) (text : String) : Except ReadError Json :=
  let input := text.toList
  let scan : Except Stop Json := do
    let (v, rest) ← scanValue (2 * input.length + 2) depth input
    scanEnd rest
    return v
  scan.mapError (Stop.toError input)

/-- The value of a text, keys repeated as written. -/
def readWritten (text : String) : Except ReadError Json := readWrittenTo depthLimit text

/-- The value of a text, a repeated key with its first position and its last value. -/
def read (text : String) : Except ReadError Json := (readWritten text).map mergeRepeats

end WebExtract.Json
