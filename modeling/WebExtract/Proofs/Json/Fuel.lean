import WebExtract.Options
import WebExtract.Proofs.Reader

/-!
# The JSON readers have fuel enough

The scanners of values count their steps down (`fuel`), and a scan that has no steps left stops.
Here this is shown never to happen: each scanner leaves a text that is shorter than what it was
given, so a text of length `n` takes `2 * n + 1` steps at most, and with more of them the scan comes
to the same.

**Results.**
* `length_of_scanValue`: what is left after a value is shorter, and so on for each scanner.
* `scanValue_eq_of_le`, `skipValue_eq_of_le`: with fuel enough, its amount makes no difference.
-/
namespace WebExtract.Json

open Reader
open Text (isDigit)

variable {cs rest : List Char}

/-! ## Words, strings, numbers -/

theorem length_skipBlanks_le (cs : List Char) : (skipBlanks cs).length ≤ cs.length :=
  List.length_dropWhile_le _ cs

theorem length_lt_of_skipBlanks {c : Char} (h : skipBlanks cs = c :: rest) :
    rest.length < cs.length := by
  have hle := length_skipBlanks_le cs
  rw [h] at hle
  exact hle

theorem length_afterDigits_le (cs : List Char) : (afterDigits cs).length ≤ cs.length :=
  List.length_dropWhile_le _ cs

theorem length_afterDigits_cons_le {c : Char} (hc : isDigit c = true) (cs : List Char) :
    (afterDigits (c :: cs)).length ≤ cs.length :=
  length_dropWhile_cons_le hc cs

theorem length_of_scanWord {ws : List Char} (h : scanWord ws cs = .ok rest) :
    rest.length ≤ cs.length := by
  fun_induction scanWord ws cs <;> grind [stopAt, stopBefore]

theorem length_of_scanStringBody {skip : Nat} {s : List Char}
    (h : scanStringBody skip cs = .ok (s, rest)) : rest.length < cs.length := by
  fun_induction scanStringBody skip cs generalizing s rest with
  | case1 => cases h
  | case2 skip c cs ih => exact Nat.lt_succ_of_lt (ih h)
  | case3 cs =>
    cases h
    exact Nat.lt_succ_self _
  | case4 cs _ ih =>
    obtain ⟨⟨e, r⟩, -, h⟩ := bind_eq_ok_iff.1 h
    obtain ⟨⟨t, r'⟩, hr, h⟩ := bind_eq_ok_iff.1 h
    cases h
    exact Nat.lt_succ_of_lt (ih _ hr)
  | case5 => cases h
  | case6 c cs _ _ _ ih =>
    obtain ⟨⟨t, r'⟩, hr, h⟩ := bind_eq_ok_iff.1 h
    cases h
    exact Nat.lt_succ_of_lt (ih hr)

theorem length_of_scanString {s : String} (h : scanString cs = .ok (s, rest)) :
    rest.length < cs.length := by
  obtain ⟨⟨t, r⟩, hr, h⟩ := bind_eq_ok_iff.1 h
  cases h
  exact length_of_scanStringBody hr

section

variable {negative : Bool} {significand : Nat} {k : Int} {n : Number}

theorem eq_of_finishFloat (h : finishFloat negative significand k cs = .ok (n, rest)) :
    rest = cs := by
  grind [finishFloat, stopAt]

theorem length_of_scanExponent (h : scanExponent negative significand k cs = .ok (n, rest)) :
    rest.length ≤ cs.length := by
  unfold scanExponent at h
  grind [stopAt, stopBefore, → eq_of_finishFloat, length_afterDigits_le]

theorem length_of_scanOptionalExponent
    (h : scanOptionalExponent negative significand k cs = .ok (n, rest)) :
    rest.length ≤ cs.length := by
  unfold scanOptionalExponent at h
  grind [→ length_of_scanExponent, → eq_of_finishFloat]

theorem length_of_scanFraction (h : scanFraction negative significand k cs = .ok (n, rest)) :
    rest.length ≤ cs.length := by
  unfold scanFraction at h
  grind [stopBefore, → length_of_scanOptionalExponent, length_afterDigits_le]

theorem length_of_scanNumber (h : scanNumber negative cs = .ok (n, rest)) :
    rest.length < cs.length := by
  unfold scanNumber at h
  grind [stopAt, stopBefore, → length_of_scanFraction, → length_of_scanExponent,
    → eq_of_finishFloat, length_afterDigits_cons_le]

end

/-! ## Parts of arrays and objects -/

/-- The text that is still to be read. -/
def Next.unread : Next → List Char
  | close cs => cs
  | part cs => cs

theorem length_of_nextElement {first : Bool} {next : Next} (h : nextElement first cs = .ok next) :
    next.unread.length ≤ cs.length := by
  unfold nextElement at h
  grind [stopBefore, Next.unread, length_skipBlanks_le]

/-- The end of an array is passed; an element is still to be read, all of it. -/
theorem length_of_nextElement_close {first : Bool} (h : nextElement first cs = .ok (.close rest)) :
    rest.length < cs.length := by
  unfold nextElement at h
  grind [stopBefore, length_skipBlanks_le]

theorem length_of_nextKey {first : Bool} {next : Next} (h : nextKey first cs = .ok next) :
    next.unread.length < cs.length := by
  unfold nextKey at h
  grind [stopBefore, Next.unread, length_skipBlanks_le]

theorem length_of_scanColon (h : scanColon cs = .ok rest) : rest.length < cs.length := by
  unfold scanColon at h
  grind [stopBefore, length_skipBlanks_le]

/-! ## Values -/

mutual

theorem length_of_scanValue {fuel depth : Nat} {cs rest : List Char} {v : Json}
    (h : scanValue fuel depth cs = .ok (v, rest)) : rest.length < cs.length := by
  cases fuel with
  | zero => cases h
  | succ fuel =>
    have hle := length_skipBlanks_le cs
    unfold scanValue at h
    split at h
    · cases h
    iterate 3
      · obtain ⟨r, hr, h⟩ := bind_eq_ok_iff.1 h
        cases h
        grind [length_of_scanWord hr]
    · obtain ⟨⟨t, r⟩, hr, h⟩ := bind_eq_ok_iff.1 h
      cases h
      grind [length_of_scanString hr]
    · cases depth with
      | zero => cases h
      | succ depth =>
        obtain ⟨⟨vs, r⟩, hr, h⟩ := bind_eq_ok_iff.1 h
        cases h
        grind [length_of_scanElements hr]
    · cases depth with
      | zero => cases h
      | succ depth =>
        obtain ⟨⟨ms, r⟩, hr, h⟩ := bind_eq_ok_iff.1 h
        cases h
        grind [length_of_scanMembers hr]
    · obtain ⟨⟨n, r⟩, hr, h⟩ := bind_eq_ok_iff.1 h
      cases h
      grind [length_of_scanNumber hr]
    · split at h
      · obtain ⟨⟨n, r⟩, hr, h⟩ := bind_eq_ok_iff.1 h
        cases h
        grind [length_of_scanNumber hr]
      · cases h

theorem length_of_scanElements {fuel depth : Nat} {first : Bool} {cs rest : List Char}
    {vs : List Json} (h : scanElements fuel depth first cs = .ok (vs, rest)) :
    rest.length < cs.length := by
  cases fuel with
  | zero => cases h
  | succ fuel =>
    obtain ⟨next, hnext, h⟩ := bind_eq_ok_iff.1 h
    cases next with
    | close r =>
      cases h
      exact length_of_nextElement_close hnext
    | part r =>
      obtain ⟨⟨v, r₁⟩, hv, h⟩ := bind_eq_ok_iff.1 h
      obtain ⟨⟨vs, r₂⟩, hvs, h⟩ := bind_eq_ok_iff.1 h
      cases h
      calc rest.length < r₁.length := length_of_scanElements hvs
        _ < r.length := length_of_scanValue hv
        _ ≤ cs.length := length_of_nextElement hnext

theorem length_of_scanMembers {fuel depth : Nat} {first : Bool} {cs rest : List Char}
    {ms : List (String × Json)} (h : scanMembers fuel depth first cs = .ok (ms, rest)) :
    rest.length < cs.length := by
  cases fuel with
  | zero => cases h
  | succ fuel =>
    obtain ⟨next, hnext, h⟩ := bind_eq_ok_iff.1 h
    cases next with
    | close r =>
      cases h
      exact length_of_nextKey hnext
    | part r =>
      obtain ⟨⟨k, r₁⟩, hk, h⟩ := bind_eq_ok_iff.1 h
      obtain ⟨r₂, hcolon, h⟩ := bind_eq_ok_iff.1 h
      obtain ⟨⟨v, r₃⟩, hv, h⟩ := bind_eq_ok_iff.1 h
      obtain ⟨⟨ms, r₄⟩, hms, h⟩ := bind_eq_ok_iff.1 h
      cases h
      calc rest.length < r₃.length := length_of_scanMembers hms
        _ < r₂.length := length_of_scanValue hv
        _ < r₁.length := length_of_scanColon hcolon
        _ < r.length := length_of_scanString hk
        _ < cs.length := length_of_nextKey hnext

end

mutual

/-- With steps enough, their number does not matter. -/
theorem scanValue_eq_of_le {m n depth : Nat} {cs : List Char} (hm : 2 * cs.length + 1 ≤ m)
    (hn : 2 * cs.length + 1 ≤ n) : scanValue m depth cs = scanValue n depth cs := by
  obtain ⟨m, rfl⟩ := Nat.exists_eq_add_one_of_ne_zero (n := m) (by omega)
  obtain ⟨n, rfl⟩ := Nat.exists_eq_add_one_of_ne_zero (n := n) (by omega)
  unfold scanValue
  split
  case h_6 r hr =>
    have hlt : r.length < cs.length := length_lt_of_skipBlanks hr
    cases depth with
    | zero => rfl
    | succ depth =>
      simp only
      rw [scanElements_eq_of_le (m := m) (n := n) (by omega) (by omega)]
  case h_7 r hr =>
    have hlt : r.length < cs.length := length_lt_of_skipBlanks hr
    cases depth with
    | zero => rfl
    | succ depth =>
      simp only
      rw [scanMembers_eq_of_le (m := m) (n := n) (by omega) (by omega)]
  all_goals rfl

theorem scanElements_eq_of_le {m n depth : Nat} {first : Bool} {cs : List Char}
    (hm : 2 * cs.length + 2 ≤ m) (hn : 2 * cs.length + 2 ≤ n) :
    scanElements m depth first cs = scanElements n depth first cs := by
  obtain ⟨m, rfl⟩ := Nat.exists_eq_add_one_of_ne_zero (n := m) (by omega)
  obtain ⟨n, rfl⟩ := Nat.exists_eq_add_one_of_ne_zero (n := n) (by omega)
  refine bind_congr_of_ok fun next hnext => ?_
  cases next with
  | close r => rfl
  | part r =>
    have hr : r.length ≤ cs.length := length_of_nextElement hnext
    simp only
    rw [scanValue_eq_of_le (m := m) (n := n) (by omega) (by omega)]
    refine bind_congr_of_ok fun (v, r₁) hv => ?_
    have hlt : r₁.length < r.length := length_of_scanValue hv
    simp only
    rw [scanElements_eq_of_le (m := m) (n := n) (by omega) (by omega)]

theorem scanMembers_eq_of_le {m n depth : Nat} {first : Bool} {cs : List Char}
    (hm : 2 * cs.length + 2 ≤ m) (hn : 2 * cs.length + 2 ≤ n) :
    scanMembers m depth first cs = scanMembers n depth first cs := by
  obtain ⟨m, rfl⟩ := Nat.exists_eq_add_one_of_ne_zero (n := m) (by omega)
  obtain ⟨n, rfl⟩ := Nat.exists_eq_add_one_of_ne_zero (n := n) (by omega)
  refine bind_congr_of_ok fun next hnext => ?_
  cases next with
  | close r => rfl
  | part r =>
    refine bind_congr_of_ok fun (k, r₁) hk => bind_congr_of_ok fun r₂ hcolon => ?_
    have hr₂ : r₂.length < cs.length :=
      calc r₂.length < r₁.length := length_of_scanColon hcolon
        _ < r.length := length_of_scanString hk
        _ < cs.length := length_of_nextKey hnext
    rw [scanValue_eq_of_le (m := m) (n := n) (by omega) (by omega)]
    refine bind_congr_of_ok fun (v, r₃) hv => ?_
    have hlt : r₃.length < r₂.length := length_of_scanValue hv
    simp only
    rw [scanMembers_eq_of_le (m := m) (n := n) (by omega) (by omega)]

end

/-! ## Values passed over -/

theorem length_of_skipString {skip : Nat} (h : skipString skip cs = .ok rest) :
    rest.length < cs.length := by
  fun_induction skipString skip cs with
  | case1 => cases h
  | case2 skip c cs ih => exact Nat.lt_succ_of_lt (ih h)
  | case3 cs =>
    cases h
    exact Nat.lt_succ_self _
  | case4 cs _ ih =>
    obtain ⟨r, -, h⟩ := bind_eq_ok_iff.1 h
    exact Nat.lt_succ_of_lt (ih _ h)
  | case5 => cases h
  | case6 c cs _ _ _ ih => exact Nat.lt_succ_of_lt (ih h)

theorem length_of_skipExponent (h : skipExponent cs = .ok rest) : rest.length ≤ cs.length := by
  unfold skipExponent at h
  grind [stopAt, stopBefore, length_afterDigits_le]

theorem length_of_skipOptionalExponent (h : skipOptionalExponent cs = .ok rest) :
    rest.length ≤ cs.length := by
  unfold skipOptionalExponent at h
  grind [→ length_of_skipExponent]

theorem length_of_skipNumber (h : skipNumber cs = .ok rest) : rest.length < cs.length := by
  unfold skipNumber at h
  grind [stopAt, stopBefore, → length_of_skipOptionalExponent, length_afterDigits_cons_le,
    length_afterDigits_le]

theorem length_of_nextSkipped {close : Char} {atEnd expected : Fault} {first : Bool} {next : Next}
    (h : nextSkipped close atEnd expected first cs = .ok next) :
    next.unread.length ≤ cs.length := by
  unfold nextSkipped at h
  grind [stopBefore, Next.unread, length_skipBlanks_le]

theorem length_of_nextSkipped_close {close : Char} {atEnd expected : Fault} {first : Bool}
    (h : nextSkipped close atEnd expected first cs = .ok (.close rest)) :
    rest.length < cs.length := by
  unfold nextSkipped at h
  grind [stopBefore, length_skipBlanks_le]

theorem length_of_skipKey (h : skipKey cs = .ok rest) : rest.length < cs.length := by
  unfold skipKey at h
  grind [stopBefore, → length_of_skipString, length_skipBlanks_le]

mutual

theorem length_of_skipValue {fuel : Nat} {cs rest : List Char}
    (h : skipValue fuel cs = .ok rest) : rest.length < cs.length := by
  cases fuel with
  | zero => cases h
  | succ fuel =>
    have hle := length_skipBlanks_le cs
    unfold skipValue at h
    split at h
    case h_1 => cases h
    case h_7 => grind [length_of_skipElements h]
    case h_8 => grind [length_of_skipMembers h]
    all_goals
      grind [stopBefore, → length_of_scanWord, → length_of_skipString, → length_of_skipNumber]

theorem length_of_skipElements {fuel : Nat} {first : Bool} {cs rest : List Char}
    (h : skipElements fuel first cs = .ok rest) : rest.length < cs.length := by
  cases fuel with
  | zero => cases h
  | succ fuel =>
    obtain ⟨next, hnext, h⟩ := bind_eq_ok_iff.1 h
    cases next with
    | close r =>
      cases h
      exact length_of_nextSkipped_close hnext
    | part r =>
      obtain ⟨r₁, hv, h⟩ := bind_eq_ok_iff.1 h
      calc rest.length < r₁.length := length_of_skipElements h
        _ < r.length := length_of_skipValue hv
        _ ≤ cs.length := length_of_nextSkipped hnext

theorem length_of_skipMembers {fuel : Nat} {first : Bool} {cs rest : List Char}
    (h : skipMembers fuel first cs = .ok rest) : rest.length < cs.length := by
  cases fuel with
  | zero => cases h
  | succ fuel =>
    obtain ⟨next, hnext, h⟩ := bind_eq_ok_iff.1 h
    cases next with
    | close r =>
      cases h
      exact length_of_nextSkipped_close hnext
    | part r =>
      obtain ⟨r₁, hk, h⟩ := bind_eq_ok_iff.1 h
      obtain ⟨r₂, hcolon, h⟩ := bind_eq_ok_iff.1 h
      obtain ⟨r₃, hv, h⟩ := bind_eq_ok_iff.1 h
      calc rest.length < r₃.length := length_of_skipMembers h
        _ < r₂.length := length_of_skipValue hv
        _ < r₁.length := length_of_scanColon hcolon
        _ < r.length := length_of_skipKey hk
        _ ≤ cs.length := length_of_nextSkipped hnext

end

mutual

theorem skipValue_eq_of_le {m n : Nat} {cs : List Char} (hm : 2 * cs.length + 1 ≤ m)
    (hn : 2 * cs.length + 1 ≤ n) : skipValue m cs = skipValue n cs := by
  obtain ⟨m, rfl⟩ := Nat.exists_eq_add_one_of_ne_zero (n := m) (by omega)
  obtain ⟨n, rfl⟩ := Nat.exists_eq_add_one_of_ne_zero (n := n) (by omega)
  unfold skipValue
  split
  case h_7 r hr =>
    have hlt : r.length < cs.length := length_lt_of_skipBlanks hr
    exact skipElements_eq_of_le (by omega) (by omega)
  case h_8 r hr =>
    have hlt : r.length < cs.length := length_lt_of_skipBlanks hr
    exact skipMembers_eq_of_le (by omega) (by omega)
  all_goals rfl

theorem skipElements_eq_of_le {m n : Nat} {first : Bool} {cs : List Char}
    (hm : 2 * cs.length + 2 ≤ m) (hn : 2 * cs.length + 2 ≤ n) :
    skipElements m first cs = skipElements n first cs := by
  obtain ⟨m, rfl⟩ := Nat.exists_eq_add_one_of_ne_zero (n := m) (by omega)
  obtain ⟨n, rfl⟩ := Nat.exists_eq_add_one_of_ne_zero (n := n) (by omega)
  refine bind_congr_of_ok fun next hnext => ?_
  cases next with
  | close r => rfl
  | part r =>
    have hr : r.length ≤ cs.length := length_of_nextSkipped hnext
    simp only
    rw [skipValue_eq_of_le (m := m) (n := n) (by omega) (by omega)]
    refine bind_congr_of_ok fun r₁ hv => ?_
    have hlt : r₁.length < r.length := length_of_skipValue hv
    exact skipElements_eq_of_le (by omega) (by omega)

theorem skipMembers_eq_of_le {m n : Nat} {first : Bool} {cs : List Char}
    (hm : 2 * cs.length + 2 ≤ m) (hn : 2 * cs.length + 2 ≤ n) :
    skipMembers m first cs = skipMembers n first cs := by
  obtain ⟨m, rfl⟩ := Nat.exists_eq_add_one_of_ne_zero (n := m) (by omega)
  obtain ⟨n, rfl⟩ := Nat.exists_eq_add_one_of_ne_zero (n := n) (by omega)
  refine bind_congr_of_ok fun next hnext => ?_
  cases next with
  | close r => rfl
  | part r =>
    have hr : r.length ≤ cs.length := length_of_nextSkipped hnext
    refine bind_congr_of_ok fun r₁ hk => bind_congr_of_ok fun r₂ hcolon => ?_
    have hr₂ : r₂.length < r.length :=
      Nat.lt_trans (length_of_scanColon hcolon) (length_of_skipKey hk)
    rw [skipValue_eq_of_le (m := m) (n := n) (by omega) (by omega)]
    refine bind_congr_of_ok fun r₃ hv => ?_
    have hlt : r₃.length < r₂.length := length_of_skipValue hv
    exact skipMembers_eq_of_le (by omega) (by omega)

end

end WebExtract.Json

/-! ## Options -/

namespace WebExtract.Options

open Json Reader

variable {cs rest : List Char}

theorem mismatch_ne_ok {α : Type} {expected : String} {a : α} : mismatch expected cs ≠ .ok a := by
  unfold mismatch
  grind [stopAt, stopBefore, bind_eq_ok_iff]

theorem length_of_scanBool {b : Bool} (h : scanBool cs = .ok (b, rest)) :
    rest.length < cs.length := by
  have hle := length_skipBlanks_le cs
  unfold scanBool at h
  split at h
  case h_1 => cases h
  case h_4 => exact absurd h mismatch_ne_ok
  all_goals
    obtain ⟨r, hr, h⟩ := bind_eq_ok_iff.1 h
    cases h
    grind [length_of_scanWord hr]

theorem scanMembers_eq_of_lt {js : Option Bool} {first : Bool} {m n : Nat} {cs : List Char}
    (hm : cs.length < m) (hn : cs.length < n) :
    scanMembers js first m cs = scanMembers js first n cs := by
  induction m generalizing js first n cs with
  | zero => omega
  | succ m ih =>
    obtain ⟨n, rfl⟩ := Nat.exists_eq_add_one_of_ne_zero (n := n) (by omega)
    refine bind_congr_of_ok fun next hnext => ?_
    cases next with
    | close r => rfl
    | part r =>
      refine bind_congr_of_ok fun (key, r₁) hkey => ?_
      have hr₁ : r₁.length < cs.length :=
        Nat.lt_trans (length_of_scanString hkey) (length_of_nextKey hnext)
      dsimp only
      split
      · split
        · rfl
        · refine bind_congr_of_ok fun r₂ hcolon => bind_congr_of_ok fun (b, r₃) hb => ?_
          have hr₃ : r₃.length < r₁.length :=
            Nat.lt_trans (length_of_scanBool hb) (length_of_scanColon hcolon)
          dsimp only
          exact ih (by omega) (by omega)
      · refine bind_congr_of_ok fun r₂ hcolon => bind_congr_of_ok fun r₃ hskip => ?_
        have hr₃ : r₃.length < r₁.length :=
          Nat.lt_trans (length_of_skipValue hskip) (length_of_scanColon hcolon)
        exact ih (by omega) (by omega)

end WebExtract.Options
