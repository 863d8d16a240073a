import WebExtract.Css.Parser
import WebExtract.Proofs.Reader

/-!
# The reader of selectors has fuel enough

A selector text is cut into tokens, and an alternative read compound by compound, in steps that are
counted down (`fuel`). Each step passes a character or a component, so there are never too few.

Functions are read down to a number of levels (`depth`). Each level has a function of its own around
it, which takes a character at least (`Component.count`). What a reader of components makes of them
depends on the functions among them only (`Parser.Agree`), so that levels nobody gets to make no
difference.

**Results.**
* `Lexer.tokensFrom_eq_of_le`, `Parser.chain_eq_of_lt`: with fuel enough, its amount makes no
  difference.
* `Parser.function?_eq_of_lt`: nor does the number of levels.
* `Selector.parse?_eq_of_le`: a selector text gets levels enough.
-/
namespace WebExtract.Css

open Reader

namespace Lexer

open Text (isDigit)

/-! ## Tokens -/

theorem length_name_le (skip : Nat) (cs : List Char) : (name skip cs).2.length ≤ cs.length := by
  fun_induction name skip cs <;> grind

theorem length_string_le (quote : Char) (skip : Nat) (cs : List Char) :
    (string quote skip cs).2.length ≤ cs.length := by
  induction cs generalizing skip with
  | nil => cases skip <;> simp [string]
  | cons c cs ih =>
    cases skip with
    | succ skip => exact Nat.le_succ_of_le (ih skip)
    | zero =>
      unfold string
      grind

theorem length_afterAddress_le (cs : List Char) : (afterAddress cs).length ≤ cs.length := by
  fun_induction afterAddress cs <;> grind

theorem length_afterComment_le (cs : List Char) : (afterComment cs).length ≤ cs.length := by
  fun_induction afterComment cs <;> grind

theorem isNameChar_or_atEscape {c : Char} {cs : List Char} (h : atIdent (c :: cs) = true) :
    isNameChar c = true ∨ atEscape (c :: cs) = true := by
  unfold atIdent at h
  grind [isNameChar]

theorem length_name_cons_le {c : Char} {cs : List Char} (h : atIdent (c :: cs) = true) :
    (name 0 (c :: cs)).2.length ≤ cs.length := by
  have hc := isNameChar_or_atEscape h
  unfold name
  grind [length_name_le]

theorem length_identLike_le {c : Char} {cs : List Char} (h : atIdent (c :: cs) = true) :
    (identLike (c :: cs)).2.length ≤ cs.length := by
  have := length_name_cons_le h
  unfold identLike
  grind [List.length_dropWhile_le, length_afterAddress_le]

theorem length_of_fraction {cs rest : List Char} (h : fraction cs = some rest) :
    rest.length < cs.length := by
  unfold fraction at h
  grind [List.length_dropWhile_le]

theorem length_of_exponent {cs rest : List Char} (h : exponent cs = some rest) :
    rest.length < cs.length := by
  unfold exponent at h
  grind [List.length_dropWhile_le]

/-- The sign and the digits are passed, unless the number begins with its point. -/
theorem length_digits {c : Char} {cs : List Char} (h : atNumber (c :: cs) = true) :
    ((sign (c :: cs)).2.2.dropWhile isDigit).length ≤ cs.length ∨
      (sign (c :: cs)).2.2.dropWhile isDigit = c :: cs ∧ (fraction (c :: cs)).isSome = true := by
  by_cases hsign : c = '-' ∨ c = '+'
  · refine .inl ?_
    rcases hsign with rfl | rfl <;> exact List.length_dropWhile_le _ _
  · have hcs : (sign (c :: cs)).2.2 = c :: cs := by
      unfold sign
      grind
    rw [hcs]
    by_cases hc : isDigit c = true
    · exact .inl (length_dropWhile_cons_le hc cs)
    · refine .inr ⟨List.dropWhile_cons_of_neg hc, ?_⟩
      unfold atNumber at h
      grind [fraction]

theorem length_number_le {c : Char} {cs : List Char} (h : atNumber (c :: cs) = true) :
    (number (c :: cs)).2.length ≤ cs.length := by
  have hdigits := length_digits h
  unfold number
  generalize sign (c :: cs) = s at *
  obtain ⟨signed, negative, unsigned⟩ := s
  simp only at *
  generalize unsigned.dropWhile isDigit = r at *
  cases hf : fraction r with
  | some r₁ =>
    have hlt := length_of_fraction hf
    cases he : exponent r₁ <;> grind [length_name_le, → length_of_exponent]
  | none => cases he : exponent r <;> grind [length_name_le, → length_of_exponent]

theorem length_token_le (c : Char) (cs : List Char) : (token c cs).2.length ≤ cs.length := by
  unfold token
  grind [List.length_dropWhile_le, length_string_le, length_number_le, length_identLike_le,
    length_name_le, length_afterComment_le]

/-- With steps enough, their number does not matter. -/
theorem tokensFrom_eq_of_le {m n : Nat} {cs : List Char} (hm : cs.length ≤ m)
    (hn : cs.length ≤ n) : tokensFrom m cs = tokensFrom n cs := by
  induction m generalizing n cs with
  | zero =>
    obtain rfl := List.length_eq_zero_iff.1 (Nat.le_zero.1 hm)
    cases n <;> rfl
  | succ m ih =>
    cases cs with
    | nil => cases n <;> rfl
    | cons c cs =>
      simp only [List.length_cons] at hm hn
      obtain ⟨n, rfl⟩ := Nat.exists_eq_add_one_of_ne_zero (n := n) (by omega)
      have hle := length_token_le c cs
      have hrest : tokensFrom m (token c cs).2 = tokensFrom n (token c cs).2 :=
        ih (by omega) (by omega)
      unfold tokensFrom
      grind

end Lexer

namespace Component

/-! ## Components -/

mutual

/-- How many components there are, those inside functions and blocks included. -/
def count : Component → Nat
  | .token _ => 1
  | .function _ cs => countAll cs + 1
  | .block _ cs => countAll cs + 1

def countAll : List Component → Nat
  | [] => 0
  | c :: cs => c.count + countAll cs

end

theorem countAll_append (cs cs' : List Component) :
    countAll (cs ++ cs') = countAll cs + countAll cs' := by
  induction cs with
  | nil => simp [countAll]
  | cons c cs ih => simp [countAll, ih, Nat.add_assoc]

theorem countAll_reverse (cs : List Component) : countAll cs.reverse = countAll cs := by
  induction cs with
  | nil => rfl
  | cons c cs ih => simp [countAll_append, countAll, ih, Nat.add_comm]

theorem countAll_lt_of_mem {name : String} {inner cs : List Component}
    (h : .function name inner ∈ cs) : countAll inner < countAll cs := by
  induction cs with
  | nil => cases h
  | cons c cs ih =>
    rcases List.mem_cons.1 h with rfl | h
    · simp only [countAll, count]
      omega
    · have := ih h
      simp only [countAll]
      omega

namespace Reading

def countOpen : List Open → Nat
  | [] => 0
  | o :: outer => countAll o.before + 1 + countOpen outer

/-- What has been read, and the components that the open functions and blocks will be. -/
def count (r : Reading) : Nat := countOpen r.outer + countAll r.done

/-- Completing a function or a block makes one component of its contents. -/
def Whole (r : Reading) : Prop :=
  ∀ o ∈ r.outer, ∀ cs, (o.complete cs).count = countAll cs + 1

variable {r : Reading}

theorem Whole.add (h : r.Whole) (t : Token) : (r.add t).Whole := by
  cases t with
  | function name => exact List.forall_mem_cons.2 ⟨fun cs => by simp [Component.count], h⟩
  | opening c => exact List.forall_mem_cons.2 ⟨fun cs => by simp [Component.count], h⟩
  | closing c =>
    unfold Reading.add
    grind [Whole]
  | _ => exact h

/-- A token makes one component at most. -/
theorem Whole.count_add_le (h : r.Whole) (t : Token) : (r.add t).count ≤ r.count + 1 := by
  cases t with
  | function name | opening c =>
    simp only [Reading.add, count, countAll, countOpen]
    omega
  | closing c =>
    unfold Reading.add
    simp only
    cases hr : r.outer with
    | nil =>
      simp only [hr, count, countAll, Component.count]
      omega
    | cons o outer =>
      have ho := h o (hr ▸ List.mem_cons_self)
      by_cases hc : o.close = c
      · simp only [hr, hc, if_true, count, countAll, countOpen, ho _,
          countAll_reverse]
        omega
      · simp only [hr, if_neg hc, count, countAll, Component.count]
        omega
  | _ =>
    simp only [Reading.add, count, countAll, Component.count]
    omega

theorem Whole.foldl_add (h : r.Whole) (ts : List Token) :
    (ts.foldl Reading.add r).Whole ∧ (ts.foldl Reading.add r).count ≤ r.count + ts.length := by
  induction ts generalizing r with
  | nil => exact ⟨h, Nat.le_refl _⟩
  | cons t ts ih =>
    obtain ⟨hwhole, hle⟩ := ih (h.add t)
    have hadd := h.count_add_le t
    refine ⟨hwhole, ?_⟩
    rw [List.foldl_cons, List.length_cons]
    omega

theorem Whole.countAll_closeAll {outer : List Open} {done : List Component}
    (h : Whole ⟨outer, done⟩) : countAll (closeAll outer done) = count ⟨outer, done⟩ := by
  induction outer generalizing done with
  | nil => simp [closeAll, countAll_reverse, count, countOpen]
  | cons o outer ih =>
    have ho := h o List.mem_cons_self
    rw [closeAll, ih fun o ho => h o (List.mem_cons_of_mem _ ho)]
    simp only [count, countAll, countOpen, ho _, countAll_reverse]
    omega

end Reading

theorem countAll_ofTokens_le (ts : List Token) : countAll (ofTokens ts) ≤ ts.length := by
  have hstart : Reading.Whole ⟨[], []⟩ := by simp [Reading.Whole]
  obtain ⟨hwhole, hle⟩ := hstart.foldl_add ts
  rw [ofTokens, hwhole.countAll_closeAll]
  simpa [Reading.count, Reading.countOpen, countAll] using hle

end Component

namespace Parser

/-! ## Compounds -/

theorem suffix_dropBlanks (cs : List Component) : dropBlanks cs <:+ cs := by
  fun_induction dropBlanks cs with
  | case1 cs ih => exact ih.trans (List.suffix_cons _ _)
  | case2 => exact List.suffix_refl _

variable {f g : FunctionReader} {cs rest : List Component}

theorem suffix_of_conditions {ss : List Simple} (h : conditions f cs = .ok (ss, rest)) :
    rest <:+ cs := by
  fun_induction conditions f cs generalizing ss rest
  case case1 | case10 =>
    cases h
    exact List.suffix_refl _
  case case4 | case8 | case9 => cases h
  case case2 ih | case3 ih =>
    obtain ⟨⟨ss', r⟩, hr, h⟩ := bind_eq_ok_iff.1 h
    cases h
    grind [ih hr, List.suffix_cons_iff]
  case case5 ih | case6 ih | case7 ih =>
    obtain ⟨found, -, h⟩ := bind_eq_ok_iff.1 h
    obtain ⟨⟨ss', r⟩, hr, h⟩ := bind_eq_ok_iff.1 h
    cases h
    grind [ih hr, List.suffix_cons_iff]

theorem suffix_of_typeCondition {ss : List Simple} (h : typeCondition cs = .ok (ss, rest)) :
    rest <:+ cs := by
  unfold typeCondition at h
  grind [List.suffix_cons_iff]

theorem suffix_of_compound {ss : List Simple} (h : compound f cs = .ok (ss, rest)) :
    rest <:+ cs := by
  obtain ⟨⟨t, r⟩, ht, h⟩ := bind_eq_ok_iff.1 h
  obtain ⟨⟨ss', r'⟩, hss, h⟩ := bind_eq_ok_iff.1 h
  have hr : r' = rest := by
    by_cases hempty : (t ++ ss').isEmpty = true
    · simp only [if_pos hempty, reduceCtorEq] at h
    · simp only [if_neg hempty] at h
      cases h
      rfl
  subst hr
  exact (suffix_of_conditions hss).trans ((suffix_of_typeCondition ht).trans
    (suffix_dropBlanks cs))

theorem suffix_of_combinator {k : Combinator} (h : combinator? cs = (some k, rest)) :
    rest <:+ cs := by
  refine List.IsSuffix.trans ?_ (suffix_dropBlanks cs)
  unfold combinator? at h
  generalize dropBlanks cs = ds at *
  grind [List.suffix_cons]

/-- A combinator is passed, or blanks. -/
theorem length_of_combinator {k : Combinator} (h : combinator? cs = (some k, rest)) :
    rest.length < cs.length := by
  have hs : ∀ cs, (dropBlanks cs).length ≤ cs.length := fun cs => (suffix_dropBlanks cs).length_le
  unfold combinator? at h
  grind [dropBlanks]

theorem chain_eq_of_lt {left : Complex} {m n : Nat} {cs : List Component} (hm : cs.length < m)
    (hn : cs.length < n) : chain f left m cs = chain f left n cs := by
  induction m generalizing left n cs with
  | zero => omega
  | succ m ih =>
    obtain ⟨n, rfl⟩ := Nat.exists_eq_add_one_of_ne_zero (n := n) (by omega)
    unfold chain
    split
    case h_3 k r hk =>
      have hr : r.length < cs.length := length_of_combinator hk
      refine bind_congr_of_ok fun (ss, r') hss => ?_
      have hr' : r'.length ≤ r.length := (suffix_of_compound hss).length_le
      exact ih (by omega) (by omega)
    all_goals rfl

/-! ## Functions -/

/-- Two readers of functions agree on the functions among the components. -/
def Agree (f g : FunctionReader) (cs : List Component) : Prop :=
  ∀ name inner, .function name inner ∈ cs → f name inner = g name inner

theorem Agree.of_subset (h : Agree f g cs) (hs : rest ⊆ cs) : Agree f g rest :=
  fun name inner hmem => h name inner (hs hmem)

theorem conditions_congr (h : Agree f g cs) : conditions f cs = conditions g cs := by
  fun_induction conditions f cs
  case case2 ih | case3 ih | case5 ih | case6 ih =>
    simp only [conditions, ih (h.of_subset (by simp))]
  case case7 name inner cs ih =>
    simp only [conditions, ih (h.of_subset (by simp)), h name inner (by simp)]
  all_goals grind [conditions]

theorem compound_congr (h : Agree f g cs) : compound f cs = compound g cs := by
  refine bind_congr_of_ok fun (t, r) ht => ?_
  have hs := (suffix_of_typeCondition ht).trans (suffix_dropBlanks cs)
  simp only [conditions_congr (h.of_subset hs.subset)]

theorem chain_congr {left : Complex} {n : Nat} (h : Agree f g cs) :
    chain f left n cs = chain g left n cs := by
  induction n generalizing left cs with
  | zero => rfl
  | succ n ih =>
    unfold chain
    split
    case h_3 k r hk =>
      have hr := h.of_subset (suffix_of_combinator hk).subset
      rw [compound_congr hr]
      refine bind_congr_of_ok fun (ss, r') hss => ?_
      exact ih (hr.of_subset (suffix_of_compound hss).subset)
    all_goals rfl

theorem complex_congr (h : Agree f g cs) : complex f cs = complex g cs := by
  unfold complex
  rw [compound_congr h]
  refine bind_congr_of_ok fun (ss, r) hss => ?_
  exact chain_congr (h.of_subset (suffix_of_compound hss).subset)

/-! ## Levels -/

theorem subset_of_mem_splitCommas {part : List Component} (h : part ∈ splitCommas cs) :
    part ⊆ cs := by
  fun_induction splitCommas cs generalizing part with
  | case1 => simp_all
  | case2 cs ih =>
    rcases List.mem_cons.1 h with rfl | h
    · exact List.nil_subset _
    · exact List.Subset.trans (ih h) (List.subset_cons_self _ _)
  | case3 cs c first parts _ hparts ih =>
    rw [hparts] at ih
    rcases List.mem_cons.1 h with rfl | h
    · exact List.cons_subset_cons c (ih List.mem_cons_self)
    · exact List.Subset.trans (ih (List.mem_cons_of_mem _ h)) (List.subset_cons_self _ _)
  | case4 cs c =>
    rw [List.mem_singleton.1 h]
    simp

theorem alternatives?_congr (h : Agree f g cs) : alternatives? f cs = alternatives? g cs :=
  mapM_congr fun part hpart => by rw [complex_congr (h.of_subset (subset_of_mem_splitCommas hpart))]

theorem soundAlternatives?_congr (h : Agree f g cs) :
    soundAlternatives? f cs = soundAlternatives? g cs := by
  unfold soundAlternatives?
  congr 1
  exact mapM_congr fun part hpart => by
    rw [complex_congr (h.of_subset (subset_of_mem_splitCommas hpart))]

theorem relative?_congr (h : Agree f g cs) : relative? f cs = relative? g cs := by
  have hs := (suffix_dropBlanks cs).subset
  unfold relative?
  grind [complex_congr, Agree]

theorem relatives?_congr (h : Agree f g cs) : relatives? f cs = relatives? g cs :=
  mapM_congr fun _ hpart => relative?_congr (h.of_subset (subset_of_mem_splitCommas hpart))

/-- Functions are read with levels enough. -/
theorem function?_eq_of_lt {inHas : Bool} {name : String} {m n : Nat} {cs : List Component}
    (hm : Component.countAll cs < m) (hn : Component.countAll cs < n) :
    function? m inHas name cs = function? n inHas name cs := by
  induction m generalizing inHas name n cs with
  | zero => omega
  | succ m ih =>
    obtain ⟨n, rfl⟩ := Nat.exists_eq_add_one_of_ne_zero (n := n) (by omega)
    have hagree (inHas : Bool) : Agree (function? m inHas) (function? n inHas) cs := by
      intro name inner hmem
      have hlt := Component.countAll_lt_of_mem hmem
      exact ih (by omega) (by omega)
    simp only [function?, soundAlternatives?_congr (hagree inHas),
      alternatives?_congr (hagree inHas), relatives?_congr (hagree true)]

end Parser

theorem Lexer.length_tokensFrom_le (fuel : Nat) (cs : List Char) :
    (tokensFrom fuel cs).length ≤ fuel := by
  fun_induction tokensFrom fuel cs <;> simp <;> omega

/-- A selector text has no more functions inside each other than characters. -/
theorem Selector.parse?_eq_of_le {text : String} {n : Nat} (hn : text.length ≤ n) :
    parse? text = (Parser.alternatives? (Parser.function? n false)
      (Component.ofTokens (Lexer.tokens text))).map (⟨·⟩) := by
  have hle : Component.countAll (Component.ofTokens (Lexer.tokens text)) ≤ text.length :=
    Nat.le_trans (Component.countAll_ofTokens_le _) (Lexer.length_tokensFrom_le _ _)
  unfold parse?
  rw [Parser.alternatives?_congr fun name inner hmem => ?_]
  have hlt := Component.countAll_lt_of_mem hmem
  exact Parser.function?_eq_of_lt (by omega) (by omega)

end WebExtract.Css
