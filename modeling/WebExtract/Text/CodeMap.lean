import WebExtract.Text.Ascii

/-!
# Tables from characters to texts

A table is written as lines of entries in ascending order with one blank between them. An entry
`a>t` gives the code points `t`, with points between them, for the code point `a`. An entry `a-b>t`
with a single code point `t` gives `t` for `a`, `t + 1` for `a + 1` and so on up to `b`, and
`a-b/>t` does so for every other code point only. Nothing behind the mark means the empty text.
-/
namespace WebExtract.Text

/-- A stretch of code points that go to others in step. -/
structure CodeMap.Entry where
  low : Nat
  high : Nat
  step : Nat
  target : List Nat

structure CodeMap where
  entries : Array CodeMap.Entry

namespace CodeMap

/-- The number that the digits before the first of the marks write, and the text after them. -/
def number (cs : List Char) : Nat × List Char :=
  (Text.number 16 (cs.takeWhile isHexDigit), cs.dropWhile isHexDigit)

/-- The numbers with points between them; each step reads one. -/
def numbers : (steps : Nat) → List Char → List Nat
  | _, [] => []
  | 0, _ => []
  | steps + 1, cs =>
    let (n, rest) := number cs
    n :: numbers steps (rest.drop 1)

def Entry.ofChars (cs : List Char) : Entry :=
  let (low, rest) := number cs
  let (high, rest) :=
    match rest with
    | '-' :: rest => number rest
    | rest => (low, rest)
  let (step, rest) :=
    match rest with
    | '/' :: rest => (2, rest)
    | rest => (1, rest)
  let rest := rest.drop 1
  ⟨low, high, step, numbers rest.length rest⟩

/-- Reads the entries of a line; `entry` holds the characters of the one that has begun, the last
first. -/
def readLine (entry : List Char) (done : Array Entry) : List Char → Array Entry
  | [] => done.push (.ofChars entry.reverse)
  | ' ' :: cs => readLine [] (done.push (.ofChars entry.reverse)) cs
  | c :: cs => readLine (c :: entry) done cs

def ofLines (lines : List String) : CodeMap :=
  ⟨lines.foldl (fun done line => readLine [] done line.toList) #[]⟩

/-- Halves the stretch of entries from `low` up to `high`, at most `steps` times. -/
def search (entries : Array Entry) (n : Nat) : (steps low high : Nat) → Option Entry
  | 0, _, _ => none
  | steps + 1, low, high =>
    if low < high then
      let mid := (low + high) / 2
      match entries[mid]? with
      | none => none
      | some e =>
        if n < e.low then search entries n steps low mid
        else if e.high < n then search entries n steps (mid + 1) high
        else if (n - e.low) % e.step = 0 then some e
        else none
    else none

/-- What the table has for a code point. -/
def get? (m : CodeMap) (n : Nat) : Option (List Nat) :=
  (search m.entries n (m.entries.size + 1) 0 m.entries.size).map fun e =>
    match e.target with
    | [t] => [t + (n - e.low)]
    | target => target

end CodeMap

end WebExtract.Text
