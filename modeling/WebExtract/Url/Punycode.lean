import WebExtract.Text.Ascii

/-!
# Punycode

A label with characters beyond ASCII is written with its ASCII characters first and then, in order
of code points, where each of the others goes: the distance from the place before, counted over code
points and positions, as a number of variable length in base 36. The weights of the digits adapt to
the distances seen.
-/
namespace WebExtract.Url.Punycode

/-- The digits are `a` to `z` and then `0` to `9`. -/
def digit (n : Nat) : Char := if n < 26 then Char.ofNat (97 + n) else Char.ofNat (22 + n)

def digitValue? (c : Char) : Option Nat :=
  if 'a' ≤ c && c ≤ 'z' then some (c.toNat - 97)
  else if 'A' ≤ c && c ≤ 'Z' then some (c.toNat - 65)
  else if Text.isDigit c then some (c.toNat - 22)
  else none

/-- A digit below its threshold ends a number; `k` is the position of the digit times 36. -/
def threshold (k bias : Nat) : Nat :=
  if k ≤ bias then 1 else if bias + 26 ≤ k then 26 else k - bias

/-- Divides by 35 until at most 455 is left, and counts 36 for each time. -/
def shrink : (steps delta k : Nat) → Nat × Nat
  | 0, delta, k => (delta, k)
  | steps + 1, delta, k => if 455 < delta then shrink steps (delta / 35) (k + 36) else (delta, k)

/-- The bias after a distance, with the number of characters that are there now. -/
def adapt (delta characters : Nat) (first : Bool) : Nat :=
  let delta := if first then delta / 700 else delta / 2
  let delta := delta + delta / characters
  let (delta, k) := shrink delta delta 0
  k + 36 * delta / (delta + 38)

/-! ## Writing -/

/-- The digits of a distance, the lowest first. -/
def digits (bias : Nat) : (steps k q : Nat) → List Char
  | 0, _, q => [digit q]
  | steps + 1, k, q =>
    let t := threshold k bias
    if q < t then [digit q]
    else digit (t + (q - t) % (36 - t)) :: digits bias steps (k + 36) ((q - t) / (36 - t))

structure Writer where
  written : List Char
  delta : Nat
  bias : Nat
  /-- How many characters are placed. -/
  placed : Nat

/-- Passes over a character while characters with code point `n` are placed. -/
def Writer.pass (basic n : Nat) (w : Writer) (c : Char) : Writer :=
  if c.toNat < n then { w with delta := w.delta + 1 }
  else if c.toNat = n then
    ⟨w.written ++ digits w.bias (w.delta + 1) 36 w.delta, 0,
      adapt w.delta (w.placed + 1) (w.placed = basic), w.placed + 1⟩
  else w

/-- Places the characters of the code points listed; `n` is the first code point not yet passed. -/
def place (cs : List Char) (basic : Nat) : (points : List Nat) → (n : Nat) → Writer → Writer
  | [], _, w => w
  | m :: points, n, w =>
    let w := cs.foldl (Writer.pass basic m)
      { w with delta := w.delta + (m - n) * (w.placed + 1) }
    place cs basic points (m + 1) { w with delta := w.delta + 1 }

/-- Into an ascending list without repetitions. -/
def insertPoint (n : Nat) : List Nat → List Nat
  | [] => [n]
  | m :: ms => if n < m then n :: m :: ms else if n = m then m :: ms else m :: insertPoint n ms

def encode (cs : List Char) : List Char :=
  let basic := cs.filter (·.toNat < 0x80)
  let points := ((cs.filter (0x80 ≤ ·.toNat)).map Char.toNat).foldr insertPoint []
  let w := place cs basic.length points 0x80 ⟨[], 0, 72, basic.length⟩
  basic ++ (if basic.isEmpty then [] else ['-']) ++ w.written

/-! ## Reading -/

structure Reader where
  text : List Char
  n : Nat
  bias : Nat
  /-- The place reached, and the one before the number that is being read. -/
  i : Nat
  start : Nat
  weight : Nat
  k : Nat

def Reader.initial (basic : List Char) : Reader := ⟨basic, 0x80, 72, 0, 0, 1, 36⟩

/-- Takes in a digit. The text ends if the numbers grow beyond 32 bits or no character has the code
point reached. -/
def Reader.take? (r : Reader) (d : Nat) : Option Reader :=
  let i := r.i + d * r.weight
  if Nat.pow 2 32 ≤ i then none
  else
    let t := threshold r.k r.bias
    if t ≤ d then some { r with i, weight := r.weight * (36 - t), k := r.k + 36 }
    else
      let size := r.text.length + 1
      let n := r.n + i / size
      let i' := i % size
      if h : n.isValidChar then
        let text := r.text.take i' ++ Char.ofNatAux n h :: r.text.drop i'
        some ⟨text, n, adapt (i - r.start) size (r.start = 0), i' + 1, i' + 1, 1, 36⟩
      else none

def decodeDigits (r : Reader) : List Char → Option (List Char)
  | [] => if r.weight = 1 ∧ r.k = 36 then some r.text else none
  | c :: cs => do decodeDigits (← r.take? (← digitValue? c)) cs

/-- The part before the last hyphen, and what follows it. Without a hyphen the first part is
empty; so it is if the hyphen is at the front, and then it belongs to what follows. -/
def divide (cs : List Char) : List Char × List Char :=
  let after := (cs.reverse.takeWhile (· ≠ '-')).reverse
  match cs.take (cs.length - after.length - 1) with
  | [] => ([], cs)
  | basic => (basic, after)

def decode (cs : List Char) : Option (List Char) :=
  let (basic, digits) := divide cs
  if basic.all (·.toNat < 0x80) then decodeDigits (.initial basic) digits else none

end WebExtract.Url.Punycode
