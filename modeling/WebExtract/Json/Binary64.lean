/-!
# 64-bit floating-point numbers

A finite number in the 64-bit binary format is `± significand * 2 ^ exponent`. `ofRatio` rounds a
fraction to the nearest such number, a tie going to the even significand. `ofDecimal` is the rule
by which a decimal number in a text is read: the leading digits that fit into 64 bits are rounded,
and the result is scaled by one rounded power of ten. `render` writes the fewest digits that
identify the number among all numbers of the format, the nearest if there is a choice.
-/
namespace WebExtract

/-- A finite number of the 64-bit binary format. -/
structure Binary64 where
  negative : Bool
  significand : Nat
  exponent : Int
  deriving DecidableEq, Repr

namespace Binary64

/-- Exponent of the smallest positive number. -/
def leastExponent : Int := -1074

def greatestExponent : Int := 971

def zero (negative : Bool) : Binary64 := ⟨negative, 0, leastExponent⟩

/-- The quotient rounded to a whole number, a tie going to the even neighbour. -/
def divRound (num den : Nat) : Nat :=
  let q := num / den
  let r := num % den
  if 2 * r < den then q
  else if 2 * r = den ∧ q % 2 = 0 then q
  else q + 1

/-- `num / den` in units of `2 ^ e`, rounded. -/
def inUnits (num den : Nat) (e : Int) : Nat :=
  divRound (num * Nat.pow 2 (-e).toNat) (den * Nat.pow 2 e.toNat)

/-- The number nearest to `num / den`; none if that is beyond the largest one. -/
def ofRatio (negative : Bool) (num den : Nat) : Option Binary64 :=
  if num = 0 then some (zero negative)
  else
    let guess : Int := (Nat.log2 num : Int) - (Nat.log2 den : Int) - 52
    -- the quotient is in [2 ^ 51, 2 ^ 53] units of `2 ^ guess`
    let short :=
      decide (num * Nat.pow 2 (-guess).toNat < den * Nat.pow 2 guess.toNat * Nat.pow 2 52)
    let e := max leastExponent (if short then guess - 1 else guess)
    let m := inUnits num den e
    let (m, e) := if m = Nat.pow 2 53 then (Nat.pow 2 52, e + 1) else (m, e)
    if greatestExponent < e then none else some ⟨negative, m, e⟩

/-- The magnitude as a fraction. -/
def ratio (x : Binary64) : Nat × Nat :=
  (x.significand * Nat.pow 2 x.exponent.toNat, Nat.pow 2 (-x.exponent).toNat)

/-- The number nearest to `10 ^ k`, for `k` up to 308. -/
def powerOfTen (k : Nat) : Binary64 := (ofRatio false (Nat.pow 10 k) 1).getD (zero false)

def mul (x y : Binary64) : Option Binary64 :=
  ofRatio (x.negative != y.negative) (x.ratio.1 * y.ratio.1) (x.ratio.2 * y.ratio.2)

/-- The quotient by a number other than zero. -/
def div (x y : Binary64) : Option Binary64 :=
  ofRatio (x.negative != y.negative) (x.ratio.1 * y.ratio.2) (x.ratio.2 * y.ratio.1)

/-- `x` times `10 ^ k`, or divided by it for a negative `k`, in at most two roundings: no number
is left of 64 bits divided by `10 ^ 617`. -/
def scale (x : Binary64) (k : Int) : Option Binary64 :=
  if x.significand = 0 then some x
  else if 308 < k then none
  else if 0 ≤ k then mul x (powerOfTen k.toNat)
  else if -308 ≤ k then div x (powerOfTen (-k).toNat)
  else if -616 ≤ k then (div x (powerOfTen 308)).bind (div · (powerOfTen (-k - 308).toNat))
  else some (zero x.negative)

/-- The reading of `digits * 10 ^ k`, for `digits` below `2 ^ 64`; none if it is too large. -/
def ofDecimal (negative : Bool) (digits : Nat) (k : Int) : Option Binary64 :=
  (ofRatio negative digits 1).bind (scale · k)

/-! ## Text -/

/-- The largest `k` with `10 ^ k ≤ num / den`, for a positive fraction of at least `10 ^ -400`. -/
def log10 (num den : Nat) : Int :=
  if den ≤ num then ((Nat.toDigits 10 (num / den)).length : Int) - 1
  else
    match (List.range 400).find? fun k => decide (den ≤ num * Nat.pow 10 (k + 1)) with
    | some k => -((k : Int) + 1)
    | none => -400

/-- The numbers that round to a positive `x` reach from `low / den` to `high / den`; the two ends
are among them if the significand is even. -/
def interval (x : Binary64) : Nat × Nat × Nat :=
  let (num, den) := x.ratio
  let step := Nat.pow 2 x.exponent.toNat
  -- below a power of two the numbers lie twice as close
  if x.significand = Nat.pow 2 52 ∧ leastExponent < x.exponent then
    (4 * num - step, 4 * num + 2 * step, 4 * den)
  else (4 * num - 2 * step, 4 * num + 2 * step, 4 * den)

/-- Among the multiples of `10 ^ k` next to `x`, the one that rounds to `x`, and the nearer of
two. -/
def onGrid (x : Binary64) (k : Int) : Option Nat :=
  let (low, high, den) := x.interval
  let (num, xden) := x.ratio
  let up := Nat.pow 10 k.toNat
  let down := Nat.pow 10 (-k).toNat
  let d := num * down / (xden * up)
  let inside (d : Nat) : Bool :=
    let v := d * up * den
    if x.significand % 2 = 0 then decide (low * down ≤ v ∧ v ≤ high * down)
    else decide (low * down < v ∧ v < high * down)
  match inside d, inside (d + 1) with
  | true, true => some (divRound (num * down) (xden * up))
  | true, false => some d
  | false, true => some (d + 1)
  | false, false => none

/-- The fewest digits `d` and the exponent `k` for which `d * 10 ^ k` rounds to a positive `x`.
Seventeen digits identify every number. -/
def shortest (x : Binary64) : Nat × Int :=
  let top := log10 x.ratio.1 x.ratio.2
  let hit? (n : Nat) : Option (Nat × Int) := (x.onGrid (top - n)).map fun d => (d, top - n)
  match (List.range 17).findSome? hit? with
  | some r => r
  | none => (0, 0)

/-- Numbers from `10 ^ -5` up to `10 ^ 16` are written without an exponent and with a point, all
others with one digit before the point and a signed exponent. -/
def renderDigits (digits : List Char) (k : Int) : List Char :=
  let n : Int := digits.length
  let point := n + k
  if 0 ≤ k ∧ point ≤ 16 then digits ++ List.replicate k.toNat '0' ++ ['.', '0']
  else if 0 < point ∧ point ≤ 16 then
    digits.take point.toNat ++ '.' :: digits.drop point.toNat
  else if -5 < point ∧ point ≤ 0 then
    '0' :: '.' :: List.replicate (-point).toNat '0' ++ digits
  else
    let e := point - 1
    digits.take 1 ++ (if digits.length = 1 then [] else '.' :: digits.drop 1) ++
      'e' :: (if e < 0 then '-' else '+') :: Nat.toDigits 10 e.natAbs

def render (x : Binary64) : String :=
  let sign := if x.negative then ['-'] else []
  if x.significand = 0 then String.ofList (sign ++ ['0', '.', '0'])
  else
    let (d, k) := x.shortest
    let all := Nat.toDigits 10 d
    let kept := (all.reverse.dropWhile (· = '0')).reverse
    String.ofList (sign ++ renderDigits kept (k + (all.length - kept.length : Nat)))

end Binary64

end WebExtract
