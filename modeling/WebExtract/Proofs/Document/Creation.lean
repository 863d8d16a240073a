import WebExtract.Proofs.Document.Queries
import WebExtract.Proofs.Html.Rules

/-!
# Queries in the whole document

A query in the whole document gives its matches in the order in which their nodes were created, and
looks at all nodes that have a parent. On most pages this is document order and the document's own
tree. It is not where the page made the reader put a later node before an earlier one, or take a
node out with all that is below it.

That the order of creation leaves nothing open rests on the tree that is read: a number belongs to
one place only, because the links between the nodes stay in order (`Html.sound_build`).

**Results.**
* `Document.eq_of_serial`: a node is at one place of its document.
* `Document.pairwise_find_document`: what is found in the whole document is in strict order of
  creation.
* `query_document_created`: what is found, in which order, and exactly when this is document order.
-/
namespace WebExtract

open Dom

namespace Document

variable {p q : Place}

/-! ## A node has one place -/

theorem trees_parse (page : String) : (parse page).trees = (Html.build page).store.allTrees := rfl

/-- In a document that was read a node is at one place. -/
theorem eq_of_serial (page : String) (hp : p.In (parse page).trees) (hq : q.In (parse page).trees)
    (h : p.serial = q.serial) : p = q := by
  rw [trees_parse] at hp hq
  exact (Html.sound_build page).linked.eq_of_serial hp hq h

/-! ## Sorting by creation -/

theorem pairwise_byCreation (ps : List Place) :
    (byCreation ps).Pairwise (·.serial ≤ ·.serial) := by
  have : Std.Total fun p q : Place => p.serial ≤ q.serial := ⟨fun p q => Nat.le_total _ _⟩
  have : IsTrans Place fun p q => p.serial ≤ q.serial := ⟨fun p q r => Nat.le_trans⟩
  rw [byCreation_eq]
  exact ps.pairwise_insertionSort _

/-- What is found in the whole document is in strict order of creation. -/
theorem pairwise_find_document (page s : String) :
    ((parse page).find s .document).Pairwise (·.serial < ·.serial) := by
  have hc : Context.document.In (parse page) (parse page).trees := rfl
  have hle : ((parse page).find s .document).Pairwise (·.serial ≤ ·.serial) := by
    unfold find
    cases Css.Selector.parse? s with
    | none => exact .nil
    | some sel => exact pairwise_byCreation _
  refine (hle.and (nodup_find (parse page) s .document)).imp_of_mem ?_
  rintro p q hp hq ⟨hpq, hne⟩
  refine Nat.lt_of_le_of_ne hpq fun h => hne ?_
  exact eq_of_serial page (in_of_mem_find hc hp) (in_of_mem_find hc hq) h

/-- What is below the document node has a parent. -/
theorem mem_descendants_root_iff (d : Document) :
    p ∈ d.root.descendants ↔ p ∈ d.places ∧ d.root ∈ p.ancestors := by
  have hr : d.root.In d.trees := rfl
  rw [hr.mem_descendants_iff, mem_places_iff]

end Document

/-! ## Headline property -/

/-- **Queries in the whole document.** What is found are the matches among all nodes that have a
parent, in the order in which the nodes were created. It is what lies below the document node, in
document order, exactly when no match is in a tree that was taken out and the matches below the
document node have been created in document order. -/
theorem query_document_created (page s : String) (sel : Css.Selector)
    (hs : Css.Selector.parse? s = some sel) :
    (∀ p, p ∈ ((Document.parse page).query s .document).value ↔
      p ∈ (Document.parse page).places ∧ p.parent?.isSome = true ∧ sel.Matches none p = true) ∧
    ((Document.parse page).query s .document).value.Pairwise (·.serial < ·.serial) ∧
    (((Document.parse page).query s .document).value =
        (Document.parse page).root.descendants.filter (sel.Matches none) ↔
      (∀ p ∈ ((Document.parse page).query s .document).value,
        (Document.parse page).root ∈ p.ancestors) ∧
      ((Document.parse page).root.descendants.filter (sel.Matches none)).Pairwise
        (·.serial < ·.serial)) := by
  rw [Document.value_query]
  have hc : Context.document.In (Document.parse page) (Document.parse page).trees := rfl
  have hmem : ∀ p, p ∈ (Document.parse page).find s .document ↔
      p ∈ (Document.parse page).places ∧ p.parent?.isSome = true ∧ sel.Matches none p = true := by
    intro p
    rw [Document.mem_find_iff hc, Document.mem_places_iff]
    simp only [hs, Option.some.injEq, exists_eq_left', Context.Covers, Context.scope]
  have hsorted := Document.pairwise_find_document page s
  refine ⟨hmem, hsorted, ?_, ?_⟩
  · intro h
    refine ⟨fun p hp => ?_, h ▸ hsorted⟩
    rw [h] at hp
    exact ((Document.mem_descendants_root_iff _).1 (List.mem_filter.1 hp).1).2
  · rintro ⟨hbelow, hcreated⟩
    have hnodup := Document.nodup_find (Document.parse page) s .document
    have hnodup' := hcreated.imp fun {p q} h => fun hpq : p = q => Nat.lt_irrefl _ (hpq ▸ h)
    have hperm : ((Document.parse page).find s .document).Perm
        ((Document.parse page).root.descendants.filter (sel.Matches none)) := by
      refine (List.perm_ext_iff_of_nodup hnodup hnodup').2 fun p => ?_
      rw [List.mem_filter, Document.mem_descendants_root_iff]
      constructor
      · intro hp
        exact ⟨⟨((hmem p).1 hp).1, hbelow p hp⟩, ((hmem p).1 hp).2.2⟩
      · rintro ⟨⟨hp, hroot⟩, hm⟩
        refine (hmem p).2 ⟨hp, ?_, hm⟩
        cases p with
        | root i t => cases hroot
        | child q before t after => rfl
    exact hperm.eq_of_pairwise (fun p q _ _ h h' => absurd h' (Nat.lt_asymm h)) hsorted hcreated

/-- What does not belong into a table is put before it, although it was created later. -/
def fosteredPage : String := "<table><b>x"

def boldOrTable : Css.Selector := (Css.Selector.parse? "b, table").get (by decide +kernel)

theorem query_document_created_fostered :
    Css.Selector.parse? "b, table" = some boldOrTable ∧
      ((Document.parse fosteredPage).query "b, table" .document).value.map Place.serial = [4, 5] ∧
      ((Document.parse fosteredPage).query "b, table" .document).value ≠
        (Document.parse fosteredPage).root.descendants.filter (boldOrTable.Matches none) := by
  have hs : Css.Selector.parse? "b, table" = some boldOrTable := (Option.some_get _).symm
  obtain ⟨-, -, hdocument⟩ := query_document_created fosteredPage "b, table" boldOrTable hs
  refine ⟨hs, by decide +kernel, fun h => ?_⟩
  have hcreated := (hdocument.1 h).2
  rw [← List.pairwise_map] at hcreated
  revert hcreated
  decide +kernel

/-- Document order of the matches below the document node is not what a query gives on every page:
here the table comes first, in front of which the bold text was put. -/
theorem query_document_not_documentOrder :
    ¬ ∀ (page s : String) (sel : Css.Selector), Css.Selector.parse? s = some sel →
      ((Document.parse page).query s .document).value =
        (Document.parse page).root.descendants.filter (sel.Matches none) := by
  intro h
  have hs : Css.Selector.parse? "b, table" = some boldOrTable := (Option.some_get _).symm
  have hserials := congrArg (List.map Place.serial) (h fosteredPage "b, table" boldOrTable hs)
  revert hserials
  decide +kernel

end WebExtract
