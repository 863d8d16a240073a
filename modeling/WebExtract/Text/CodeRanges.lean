import WebExtract.Text.Ascii

/-!
# Sets of characters as sorted ranges of code points

A table is written as lines of hexadecimal ranges in ascending order, `a-b` or `a` alone, with one
blank between them.
-/
namespace WebExtract.Text

/-- Sorted, disjoint ranges of code points, both ends included. -/
structure CodeRanges where
  ranges : Array (Nat × Nat)

namespace CodeRanges

/-- Reads on in a range whose first number is `start` and whose second number began with `n`. -/
def read (start : Option Nat) (n : Nat) (done : Array (Nat × Nat)) :
    List Char → Array (Nat × Nat)
  | [] => done.push (start.getD n, n)
  | ' ' :: cs => read none 0 (done.push (start.getD n, n)) cs
  | '-' :: cs => read (some n) 0 done cs
  | c :: cs => read start (n * 16 + hexValue c) done cs

def ofLines (lines : List String) : CodeRanges :=
  ⟨lines.foldl (fun done line => read none 0 done line.toList) #[]⟩

/-- Halves the stretch of ranges from `low` up to `high`, at most `steps` times. -/
def search (r : Array (Nat × Nat)) (n : Nat) : (steps low high : Nat) → Bool
  | 0, _, _ => false
  | steps + 1, low, high =>
    if low < high then
      let mid := (low + high) / 2
      match r[mid]? with
      | none => false
      | some (a, b) =>
        if n < a then search r n steps low mid
        else if b < n then search r n steps (mid + 1) high
        else true
    else false

def contains (s : CodeRanges) (c : Char) : Bool :=
  search s.ranges c.toNat (s.ranges.size + 1) 0 s.ranges.size

end CodeRanges

end WebExtract.Text
