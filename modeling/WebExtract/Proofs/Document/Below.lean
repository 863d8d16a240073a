import Mathlib.Data.List.Sort
import WebExtract.Proofs.Document.Queries

/-!
# Queries below an element

A query in the whole document goes through all nodes in the order of their creation and takes those
that have a parent; a query below an element walks down from it. The second gives what the first
gives, as far as it has the element above it, and puts it into document order. Nothing of this
depends on where the element stands: below the document node, inside a template, or in a tree that
was taken out of the document.

**Results.**
* `Document.pairwise_find_node`: what is found below an element is in document order.
* `Document.find_node_sublist`: further down less is found, in the same order.
* `query_node_restricts`: both, and the comparison with the whole document, for the elements that
  queries lead to.
-/
namespace WebExtract

open Dom

/-! ## Document order -/

namespace Dom.Place

instance : Std.Antisymm Precedes where
  antisymm _ _ h h' := absurd h' (List.lt_asymm h)

end Dom.Place

namespace Document

variable {d : Document} {p e b : Place} {s : String}

/-- The elements that queries lead to, from the whole document or from such an element. -/
inductive Reached (d : Document) : Place → Prop
  | document {e : Place} (s : String) : e ∈ (d.query s .document).value → Reached d e
  | node {a e : Place} (s : String) : Reached d a → e ∈ (d.query s (.node a)).value → Reached d e

theorem Reached.in_trees (h : d.Reached e) : e.In d.trees := by
  induction h with
  | document s he =>
    rw [value_query] at he
    have hc : Context.document.In d d.trees := rfl
    exact in_of_mem_find hc he
  | node s _ he ih =>
    rw [value_query] at he
    exact in_of_mem_find (c := .node _) ih he

/-- An element that was found has a parent: this is asked for in the whole document, and below an
element it goes without saying. -/
theorem Reached.covers (h : d.Reached e) : Context.document.Covers e := by
  cases h with
  | document s he =>
    rw [value_query] at he
    have hc : Context.document.In d d.trees := rfl
    exact covers_of_mem_find hc he
  | @node a e s ha he =>
    rw [value_query] at he
    have hae : a ∈ e.ancestors := covers_of_mem_find (c := .node a) ha.in_trees he
    cases e with
    | root i t => cases hae
    | child q before t after => rfl

theorem pairwise_find_node (d : Document) (s : String) (e : Place) :
    (d.find s (.node e)).Pairwise Place.Precedes := by
  unfold find
  cases Css.Selector.parse? s with
  | none => exact .nil
  | some sel => exact (Place.pairwise_descendants e).filter _

/-- Below an element of an element less is found, in the same order. -/
theorem find_node_sublist (he : e.In d.trees) (hb : b ∈ e.descendants)
    (hs : ∀ sel, Css.Selector.parse? s = some sel → sel.usesScope = false) :
    (d.find s (.node b)).Sublist (d.find s (.node e)) := by
  obtain ⟨hb, heb⟩ := he.mem_descendants_iff.1 hb
  have hsub : d.find s (.node b) ⊆ d.find s (.node e) := by
    intro p hp
    exact ((mem_find_node_iff (c := .node e) he hb heb hs).1 hp).1
  exact List.sublist_of_subperm_of_pairwise (List.subperm_of_subset (nodup_find d s (.node b)) hsub)
    (pairwise_find_node d s b) (pairwise_find_node d s e)

end Document

/-! ## Headline property -/

/-- **Queries below an element.** For an element that queries lead to and a selector that does not
mention the scope: found below the element is exactly what is found in the whole document and has
the element above it, in document order and nothing twice, and never the element itself. Below a
place further down one finds a part of that, in the same order. -/
theorem query_node_restricts (d : Document) (e : Place) (he : d.Reached e) (s : String)
    (hs : ∀ sel, Css.Selector.parse? s = some sel → sel.usesScope = false) :
    (∀ p, p ∈ (d.query s (.node e)).value ↔
      p ∈ (d.query s .document).value ∧ e ∈ p.ancestors) ∧
    (d.query s (.node e)).value.Pairwise Place.Precedes ∧
    (d.query s (.node e)).value.Nodup ∧
    e ∉ (d.query s (.node e)).value ∧
    ∀ b ∈ e.descendants, (d.query s (.node b)).value.Sublist (d.query s (.node e)).value := by
  simp only [Document.value_query]
  have hc : Context.document.In d d.trees := rfl
  have hmem : ∀ p, p ∈ d.find s (.node e) ↔ p ∈ d.find s .document ∧ e ∈ p.ancestors := fun p =>
    Document.mem_find_node_iff hc he.in_trees he.covers hs
  refine ⟨hmem, Document.pairwise_find_node d s e, Document.nodup_find d s (.node e), ?_, ?_⟩
  · intro h
    exact (Place.precedes_of_mem_ancestors ((hmem e).1 h).2).ne rfl
  · exact fun b hb => Document.find_node_sublist he.in_trees hb hs

/-- The frameset takes the body out of the document, with the paragraph that was in it. -/
def takenOutPage : Document := .parse "<p><b><i></i></b><b></b><frameset>"

def takenOutParagraph : Place :=
  (takenOutPage.query "p" .document).value.get ⟨0, by decide +kernel⟩

theorem query_node_restricts_takenOut :
    takenOutPage.detached.length = 1 ∧ takenOutPage.Reached takenOutParagraph ∧
      (takenOutPage.query "i, b" (.node takenOutParagraph)).value.map Place.serial = [5, 6, 7] ∧
      (∀ p, p ∈ (takenOutPage.query "i, b" (.node takenOutParagraph)).value ↔
        p ∈ (takenOutPage.query "i, b" .document).value ∧ takenOutParagraph ∈ p.ancestors) ∧
      takenOutParagraph ∉ (takenOutPage.query "i, b" (.node takenOutParagraph)).value := by
  have he : takenOutPage.Reached takenOutParagraph := .document "p" (List.get_mem _ _)
  have hs : ∀ sel, Css.Selector.parse? "i, b" = some sel → sel.usesScope = false := by
    intro sel h
    cases h
    rfl
  obtain ⟨hmem, -, -, hself, -⟩ :=
    query_node_restricts takenOutPage takenOutParagraph he "i, b" hs
  exact ⟨by decide +kernel, he, by decide +kernel, hmem, hself⟩

end WebExtract
