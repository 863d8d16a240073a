import WebExtract.Proofs.Document.Queries

/-!
# Texts inside scopes

`Document.textsWithin` looks for the selector once, in the whole context, and keeps what has one of
the scopes among its ancestors. This is what one gets by searching each scope on its own, with what
lies in several scopes taken once.

**Results.**
* `Document.value_matchesWithin`: leaving early when there is no scope makes no difference.
* `Document.mem_matchesWithin_iff`: what is kept has a scope above it.
* `textsWithin_perScope`: the texts are those of what is found below the scopes, each element once,
  in the order of the context.
-/
namespace WebExtract

open Dom

namespace Document

variable {d : Document} {roots : List Tree} {c : Context} {p e : Place} {s q : String}

theorem value_matchesWithin (d : Document) (s q : String) (c : Context) :
    (d.matchesWithin s q c).value = (d.find s c).filter fun p => (d.find q c).any p.isBelow := by
  simp only [matchesWithin, Logged.value_bind, value_query]
  cases hq : d.find q c with
  | nil => simp
  | cons e es => simp

/-- What is kept has a scope above it. -/
theorem mem_matchesWithin_iff (hc : c.In d roots) :
    p ∈ (d.matchesWithin s q c).value ↔
      p ∈ d.find s c ∧ ∃ e ∈ d.find q c, e ∈ p.ancestors := by
  rw [value_matchesWithin, List.mem_filter, List.any_eq_true]
  refine and_congr_right fun hp => exists_congr fun e => and_congr_right fun he => ?_
  exact (in_of_mem_find hc hp).isBelow_iff (in_of_mem_find hc he)

/-- What is kept is what is found below the scopes. -/
theorem mem_matchesWithin_iff_below (hc : c.In d roots)
    (hs : ∀ sel, Css.Selector.parse? s = some sel → sel.usesScope = false) :
    p ∈ (d.matchesWithin s q c).value ↔ ∃ e ∈ d.find q c, p ∈ d.find s (.node e) := by
  rw [mem_matchesWithin_iff hc]
  constructor
  · rintro ⟨hp, e, he, hep⟩
    have h := mem_find_node_iff (p := p) hc (in_of_mem_find hc he) (covers_of_mem_find hc he) hs
    exact ⟨e, he, h.2 ⟨hp, hep⟩⟩
  · rintro ⟨e, he, hp⟩
    have h := mem_find_node_iff (p := p) hc (in_of_mem_find hc he) (covers_of_mem_find hc he) hs
    exact ⟨(h.1 hp).1, e, he, (h.1 hp).2⟩

theorem not_mem_find_node (he : e.In roots) {a : Place} (ha : a = e ∨ a ∈ e.ancestors) :
    a ∉ d.find q (.node e) := by
  intro h
  have hc : (Context.node e).In d roots := he
  have hea : e.Precedes a := Place.precedes_of_mem_ancestors (covers_of_mem_find hc h)
  rcases ha with rfl | ha
  · exact hea.ne rfl
  · have hae : a ∈ a.ancestors := Place.mem_ancestors_trans ha (covers_of_mem_find hc h)
    exact (Place.precedes_of_mem_ancestors hae).ne rfl

theorem exists_context_in (d : Document) {c : Context}
    (hc : ∀ e, c = .node e → ∃ d' : Document, e ∈ d'.places) : ∃ roots, c.In d roots := by
  cases c with
  | document => exact ⟨d.trees, rfl⟩
  | node e =>
    obtain ⟨d', he⟩ := hc e rfl
    exact ⟨d'.trees, mem_places_iff.1 he⟩

end Document

/-! ## Headline property -/

/-- **Texts inside scopes.** For a selector that does not mention the scope, in the whole document
or below an element: the texts are those of the elements found below the scopes, each element once,
in the order in which the context has them. So an element lies below a scope other than itself; the
context's element and what is above it are no scopes; and there is nothing if one of the two texts
cannot be read. -/
theorem textsWithin_perScope (d : Document) (c : Context) (s q : String)
    (hc : ∀ e, c = .node e → ∃ d' : Document, e ∈ d'.places)
    (hs : ∀ sel, Css.Selector.parse? s = some sel → sel.usesScope = false) :
    ∃ found : List Place,
      (d.textsWithin s q c).value = found.map textOf ∧
      found.Sublist (d.find s c) ∧ found.Nodup ∧
      (∀ p, p ∈ found ↔ ∃ e ∈ d.find q c, p ∈ d.find s (.node e)) ∧
      (∀ p ∈ found, ∃ e ∈ d.find q c, e ∈ p.ancestors ∧ e ≠ p) ∧
      (∀ e, c = .node e → ∀ a, a = e ∨ a ∈ e.ancestors → a ∉ d.find q c) ∧
      (Css.Selector.parse? s = none ∨ Css.Selector.parse? q = none → found = []) := by
  obtain ⟨roots, hr⟩ := Document.exists_context_in d hc
  refine ⟨(d.matchesWithin s q c).value, rfl, ?_, ?_, ?_, ?_, ?_, ?_⟩
  · rw [Document.value_matchesWithin]
    exact List.filter_sublist
  · rw [Document.value_matchesWithin]
    exact (Document.nodup_find d s c).filter _
  · exact fun p => Document.mem_matchesWithin_iff_below hr hs
  · intro p hp
    obtain ⟨-, e, he, hep⟩ := (Document.mem_matchesWithin_iff hr).1 hp
    exact ⟨e, he, hep, (Place.precedes_of_mem_ancestors hep).ne⟩
  · rintro e rfl a ha
    exact Document.not_mem_find_node hr ha
  · intro h
    rw [Document.value_matchesWithin]
    rcases h with h | h
    · simp [Document.find, h]
    · simp [Document.find, h]

/-- `<main><div><b>outer</b><div><b>inner</b></div></div><b>beside</b></main>` -/
def nestedBoxes : Tree :=
  .node 1 (.element ⟨.html, "main", []⟩)
    [.node 2 (.element ⟨.html, "div", []⟩)
      [.node 3 (.element ⟨.html, "b", []⟩) [.node 4 (.text "outer") []],
        .node 5 (.element ⟨.html, "div", []⟩)
          [.node 6 (.element ⟨.html, "b", []⟩) [.node 7 (.text "inner") []]]],
      .node 8 (.element ⟨.html, "b", []⟩) [.node 9 (.text "beside") []]]

def boxPage : Document := ⟨.node 0 .document [nestedBoxes], []⟩

def boxPageMain : Place := .child boxPage.root [] nestedBoxes []

/-- The inner `div` lies in the outer one, and the inner `b` in both. -/
theorem textsWithin_perScope_boxPage :
    (boxPage.textsWithin "b, div" "div" (.node boxPageMain)).value =
      ["outer", "inner", "inner"] ∧
    ∃ found : List Place,
      found.map textOf = ["outer", "inner", "inner"] ∧
      found.Nodup ∧
      (∀ p, p ∈ found ↔ ∃ e ∈ boxPage.find "div" (.node boxPageMain),
        p ∈ boxPage.find "b, div" (.node e)) ∧
      boxPageMain ∉ boxPage.find "div" (.node boxPageMain) := by
  have hv : (boxPage.textsWithin "b, div" "div" (.node boxPageMain)).value =
      ["outer", "inner", "inner"] := rfl
  have hin : boxPageMain ∈ boxPage.places := Document.mem_places_iff.2 ⟨rfl, rfl⟩
  have hc : ∀ e, Context.node boxPageMain = .node e → ∃ d' : Document, e ∈ d'.places := by
    rintro e h
    cases h
    exact ⟨boxPage, hin⟩
  have hs : ∀ sel, Css.Selector.parse? "b, div" = some sel → sel.usesScope = false := by
    intro sel h
    cases h
    rfl
  obtain ⟨found, ht, -, hn, hm, -, ha, -⟩ :=
    textsWithin_perScope boxPage (.node boxPageMain) "b, div" "div" hc hs
  exact ⟨hv, found, ht.symm.trans hv, hn, hm, ha boxPageMain rfl boxPageMain (.inl rfl)⟩

end WebExtract
