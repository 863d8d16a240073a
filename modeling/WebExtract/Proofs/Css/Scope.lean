import WebExtract.Css.Match

/-!
# Selectors that do not mention the scope

The element that a search starts from takes part in matching through `:scope` alone, at whatever
depth of `:is`, `:not` and `:has` that may stand.

**Results.**
* `Selector.matches_anyScope`: for other selectors it does not matter where the search started.
-/
namespace WebExtract.Css

open Dom

variable (s₁ s₂ : Option Place)

mutual

theorem Simple.matches_anyScope (p : Place) : ∀ s : Simple, s.usesScope = false →
    s.Matches s₁ p = s.Matches s₂ p
  | .scope, h => by
    unfold Simple.usesScope at h
    cases h
  | .oneOf cs, h => by
    simp only [Simple.usesScope] at h
    simp only [Simple.Matches, Complex.anyMatches_anyScope p cs h]
  | .noneOf cs, h => by
    simp only [Simple.usesScope] at h
    simp only [Simple.Matches, Complex.anyMatches_anyScope p cs h]
  | .has rs, h => by
    simp only [Simple.usesScope] at h
    simp only [Simple.Matches, Relative.anyMatches_anyScope p rs h]
  | .any, _ | .type _, _ | .noSpace, _ | .id _, _ | .cls _, _ | .attribute _, _ | .root, _
  | .empty, _ | .nth _ _ _, _ => by
    simp only [Simple.Matches]

theorem Simple.allMatch_anyScope (p : Place) : ∀ ss : List Simple,
    Simple.anyUsesScope ss = false → Simple.AllMatch s₁ p ss = Simple.AllMatch s₂ p ss
  | [], _ => by
    simp only [Simple.AllMatch]
  | s :: ss, h => by
    simp only [Simple.anyUsesScope, Bool.or_eq_false_iff] at h
    have hs := Simple.matches_anyScope p s h.1
    have hss := Simple.allMatch_anyScope p ss h.2
    simp only [Simple.AllMatch, hs, hss]

theorem Complex.matches_anyScope (anchor : Anchor) : ∀ (c : Complex) (p : Place),
    c.usesScope = false → c.Matches s₁ anchor p = c.Matches s₂ anchor p
  | .compound ss, p, h => by
    simp only [Complex.usesScope] at h
    simp only [Complex.Matches, Simple.allMatch_anyScope p ss h]
  | .combined left k ss, p, h => by
    simp only [Complex.usesScope, Bool.or_eq_false_iff] at h
    have hl : ∀ q, left.Matches s₁ anchor q = left.Matches s₂ anchor q := fun q =>
      Complex.matches_anyScope anchor left q h.1
    simp only [Complex.Matches, Simple.allMatch_anyScope p ss h.2, hl]

theorem Complex.anyMatches_anyScope (p : Place) : ∀ cs : List Complex,
    Complex.anyUsesScope cs = false → Complex.AnyMatches s₁ p cs = Complex.AnyMatches s₂ p cs
  | [], _ => by
    simp only [Complex.AnyMatches]
  | c :: cs, h => by
    simp only [Complex.anyUsesScope, Bool.or_eq_false_iff] at h
    have hc := Complex.matches_anyScope none c p h.1
    have hcs := Complex.anyMatches_anyScope p cs h.2
    simp only [Complex.AnyMatches, hc, hcs]

theorem Relative.matches_anyScope (p : Place) : ∀ r : Relative, r.usesScope = false →
    r.Matches s₁ p = r.Matches s₂ p
  | .mk k c, h => by
    simp only [Relative.usesScope] at h
    have hc : ∀ q, c.Matches s₁ (some (k, p)) q = c.Matches s₂ (some (k, p)) q := fun q =>
      Complex.matches_anyScope (some (k, p)) c q h
    simp only [Relative.Matches, hc]

theorem Relative.anyMatches_anyScope (p : Place) : ∀ rs : List Relative,
    Relative.anyUsesScope rs = false → Relative.AnyMatches s₁ p rs = Relative.AnyMatches s₂ p rs
  | [], _ => by
    simp only [Relative.AnyMatches]
  | r :: rs, h => by
    simp only [Relative.anyUsesScope, Bool.or_eq_false_iff] at h
    have hr := Relative.matches_anyScope p r h.1
    have hrs := Relative.anyMatches_anyScope p rs h.2
    simp only [Relative.AnyMatches, hr, hrs]

end

/-- A selector without `:scope` matches the same elements wherever the search started. -/
theorem Selector.matches_anyScope {s : Selector} (h : s.usesScope = false) :
    s.Matches s₁ = s.Matches s₂ := by
  funext p
  simp only [Selector.Matches, Complex.anyMatches_anyScope s₁ s₂ p s.alternatives h]

end WebExtract.Css
