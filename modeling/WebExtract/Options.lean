import WebExtract.Json.Printer
import WebExtract.Json.Skip
import WebExtract.Text.Outline

/-!
# Options of a scrape

Options are written as a JSON object with the member `js`, or as an array of its values. What is
left out has its default, and members that are not known are passed over.
-/
namespace WebExtract

/-- `js` asks for scripts to be run. They never are: a page is queried as served.
mirrors options:11-15 (`ScrapeOptions`) -/
structure Options where
  js : Bool
  deriving DecidableEq, Repr

namespace Options

def default : Options := ⟨false⟩

/-- mirrors options:18-21 (`ScrapeOptions::with_js`) -/
def withJs (o : Options) (js : Bool) : Options := { o with js }

def toJson (o : Options) : Json := .object [("js", .bool o.js)]

def line (o : Options) : String :=
  String.ofList
    (Text.Outline.record "ScrapeOptions"
      [("js", .word (if o.js then "true" else "false"))]).line

/-! ## Reading -/

open Json
open Text (isDigit)

def ticked (s : String) : String := "`" ++ s ++ "`"

def describeNumber : Number → String
  | .integer n => "integer " ++ ticked n.repr
  | .float x => "floating point " ++ ticked x.render

/-- The failure for a value at the front of `cs` that is not what was expected. It is reported after
the value, or before it if that is a container. -/
def mismatch {α : Type} (expected : String) (cs : List Char) : Except Stop α :=
  let found (what : String) (rest : List Char) : Except Stop α :=
    stopAt rest (.invalidType what expected)
  match cs with
  | 'n' :: cs => do found "null" (← scanWord ['u', 'l', 'l'] cs)
  | 't' :: cs => do found ("boolean " ++ ticked "true") (← scanWord ['r', 'u', 'e'] cs)
  | 'f' :: cs => do found ("boolean " ++ ticked "false") (← scanWord ['a', 'l', 's', 'e'] cs)
  | '-' :: cs => do
    let (n, rest) ← scanNumber true cs
    found (describeNumber n) rest
  | '"' :: cs => do
    let (s, rest) ← scanString cs
    found ("string " ++ String.ofList (Text.quote s)) rest
  | '[' :: _ => found "sequence" cs
  | '\x7b' :: _ => found "map" cs
  | c :: _ =>
    if isDigit c then do
      let (n, rest) ← scanNumber false cs
      found (describeNumber n) rest
    else stopBefore cs .expectedValue
  | [] => stopBefore [] .expectedValue

def scanBool (cs : List Char) : Except Stop (Bool × List Char) :=
  match skipBlanks cs with
  | [] => stopBefore [] .endInValue
  | 't' :: cs => do return (true, ← scanWord ['r', 'u', 'e'] cs)
  | 'f' :: cs => do return (false, ← scanWord ['a', 'l', 's', 'e'] cs)
  | cs => mismatch "a boolean" cs

/-- Options as an array, after its opening bracket. -/
def scanArray (cs : List Char) : Except Stop (Options × List Char) :=
  match skipBlanks cs with
  | [] => stopBefore [] .endInList
  | ']' :: cs => .ok (default, cs)
  | cs => do
    let (js, cs) ← scanBool cs
    match skipBlanks cs with
    | [] => stopBefore [] .endInList
    | ']' :: cs => .ok (⟨js⟩, cs)
    | ',' :: cs =>
      match skipBlanks cs with
      | ']' :: cs => stopBefore (']' :: cs) .trailingComma
      | cs => stopBefore cs .trailingCharacters
    | cs => stopBefore cs .trailingCharacters

/-- The text after the blanks and the closing brace, if it is there. -/
def afterClosing (cs : List Char) : List Char :=
  match skipBlanks cs with
  | '\x7d' :: cs => cs
  | cs => cs

/-- The members of an object, in at most `fuel` steps; `js` is what was given so far. -/
def scanMembers (js : Option Bool) (first : Bool) :
    (fuel : Nat) → List Char → Except Stop (Options × List Char)
  | 0, cs => stopAt cs .tooDeep
  | fuel + 1, cs => do
    match ← nextKey first cs with
    | .close cs => return (⟨js.getD false⟩, cs)
    | .part cs =>
      let (key, cs) ← scanString cs
      if key = "js" then
        if js.isSome then stopAt (afterClosing cs) (.duplicateField key)
        else
          let (b, cs) ← scanBool (← scanColon cs)
          scanMembers (some b) false fuel cs
      else
        let cs ← scanColon cs
        scanMembers js false fuel (← skipValue (2 * cs.length + 2) cs)

def scan (cs : List Char) : Except Stop (Options × List Char) :=
  match skipBlanks cs with
  | [] => stopBefore [] .endInValue
  | '[' :: cs => scanArray cs
  | '\x7b' :: cs => scanMembers none true (cs.length + 1) cs
  | cs => mismatch "struct ScrapeOptions" cs

/-- The options that a text describes. -/
def read (text : String) : Except ReadError Options :=
  let input := text.toList
  let all : Except Stop Options := do
    let (o, rest) ← scan input
    scanEnd rest
    return o
  all.mapError (Stop.toError input)

end Options

end WebExtract
