/-!
# Blanks at the ends of a text

`isBlank` is the Unicode property White_Space. `trim` removes blanks from both ends.

* `trimmed_trim`: what is left neither begins nor ends with a blank.
* `trim_isInfix_trim`: trimming a text does not cut into the trimmed text of one of its parts.
-/
namespace WebExtract.Text

/-- The Unicode property White_Space. -/
def isBlank (c : Char) : Bool :=
  let n := c.toNat
  n = 0x20 || (0x09 ≤ n && n ≤ 0x0D) ||
    (0x85 ≤ n && (n = 0x85 || n = 0xA0 || n = 0x1680 || (0x2000 ≤ n && n ≤ 0x200A) ||
      n = 0x2028 || n = 0x2029 || n = 0x202F || n = 0x205F || n = 0x3000))

def trimStart (cs : List Char) : List Char := cs.dropWhile isBlank

def trimEnd (cs : List Char) : List Char := (trimStart cs.reverse).reverse

/-- The text without blanks at its ends. -/
def trim (cs : List Char) : List Char := trimEnd (trimStart cs)

/-- The text neither begins nor ends with a blank. -/
def Trimmed (cs : List Char) : Prop :=
  (∀ c, cs.head? = some c → isBlank c = false) ∧ (∀ c, cs.getLast? = some c → isBlank c = false)

theorem head?_trimStart {cs : List Char} {c : Char} (h : (trimStart cs).head? = some c) :
    isBlank c = false := by
  have := List.head?_dropWhile_not isBlank cs
  rw [← trimStart, h] at this
  simpa using this

theorem getLast?_trimEnd {cs : List Char} {c : Char} (h : (trimEnd cs).getLast? = some c) :
    isBlank c = false := by
  rw [trimEnd, List.getLast?_reverse] at h
  exact head?_trimStart h

/-- Trimming the end leaves the beginning as it is, unless nothing is left. -/
theorem trimEnd_isPrefix (cs : List Char) : trimEnd cs <+: cs := by
  have h : (trimStart cs.reverse).reverse <+: cs.reverse.reverse :=
    List.reverse_prefix.2 (List.dropWhile_suffix isBlank)
  rwa [List.reverse_reverse] at h

theorem trimmed_trim (cs : List Char) : Trimmed (trim cs) := by
  refine ⟨fun c h => ?_, fun c h => getLast?_trimEnd h⟩
  rw [trim] at h
  obtain ⟨rest, hr⟩ := trimEnd_isPrefix (trimStart cs)
  have hc : (trimStart cs).head? = some c := by rw [← hr, List.head?_append, h]; rfl
  exact head?_trimStart hc

/-- Blanks at the beginning do not reach into a part that begins with no blank. -/
theorem isInfix_trimStart {cs ds : List Char} (h : cs <:+: ds)
    (hc : ∀ c, cs.head? = some c → isBlank c = false) : cs <:+: trimStart ds := by
  induction ds with
  | nil => exact h
  | cons d ds ih =>
    rw [trimStart, List.dropWhile_cons]
    split
    · next hd =>
      rcases List.infix_cons_iff.1 h with h | h
      · cases cs with
        | nil => exact List.nil_infix
        | cons c cs =>
          obtain ⟨rfl, -⟩ := List.cons_prefix_cons.1 h
          rw [hc c rfl] at hd
          cases hd
      · exact ih h
    · exact h

theorem isInfix_trimEnd {cs ds : List Char} (h : cs <:+: ds)
    (hc : ∀ c, cs.getLast? = some c → isBlank c = false) : cs <:+: trimEnd ds := by
  rw [trimEnd, ← List.reverse_infix, List.reverse_reverse]
  refine isInfix_trimStart (List.reverse_infix.2 h) ?_
  rwa [List.head?_reverse]

theorem trim_isInfix (cs : List Char) : trim cs <:+: cs :=
  (trimEnd_isPrefix (trimStart cs)).isInfix.trans (List.dropWhile_suffix isBlank).isInfix

theorem trim_isInfix_trim {cs ds : List Char} (h : cs <:+: ds) : trim cs <:+: trim ds := by
  have hc : trim cs <:+: ds := (trim_isInfix cs).trans h
  exact isInfix_trimEnd (isInfix_trimStart hc (trimmed_trim cs).1) (trimmed_trim cs).2

end WebExtract.Text
