import Mathlib.Data.List.Sort
import WebExtract.Document
import WebExtract.Proofs.Css.Scope
import WebExtract.Proofs.Dom.Places

/-!
# What a query finds

**Results.**
* `Document.mem_places_iff`, `Document.pairwise_places`: the places of a document are those of its
  trees, in tree order.
* `Document.mem_find_iff`: what is found in a context.
* `Document.mem_find_node_iff`: what is found below an element is what is found around it, as far as
  the element is above it.
* `Document.nodup_find`: nothing is found twice.
-/
namespace WebExtract

open Dom

namespace Document

variable {d : Document} {p q : Place}

/-- The tree of the document and those that were taken out. -/
def trees (d : Document) : List Tree := d.tree :: d.detached

/-! ## The places of a document -/

theorem in_of_mem_placesOf {roots : List Tree} : ∀ (ts : List Tree) (i : Nat),
    (∀ j t, ts[j]? = some t → roots[i + j]? = some t) → p ∈ placesOf i ts → p.In roots
  | t :: ts, i, hr, h => by
    rw [placesOf] at h
    rcases List.mem_append.1 h with h | h
    · have hi : (Place.root i t).In roots := hr 0 t rfl
      exact Tree.in_of_mem_walk t _ hi rfl h
    · refine in_of_mem_placesOf ts (i + 1) (fun j u hj => ?_) h
      rw [Nat.add_assoc, Nat.add_comm 1 j]
      exact hr (j + 1) u hj

theorem root_mem_placesOf {t : Tree} : ∀ (ts : List Tree) (i j : Nat), ts[j]? = some t →
    Place.root (i + j) t ∈ placesOf i ts
  | u :: ts, i, 0, h => by
    obtain rfl := Option.some.inj h
    rw [placesOf]
    exact List.mem_append_left _ (Tree.self_mem_walk u _)
  | u :: ts, i, j + 1, h => by
    rw [placesOf, Nat.add_comm j 1, ← Nat.add_assoc]
    exact List.mem_append_right _ (root_mem_placesOf ts (i + 1) j h)

theorem mem_placesOf_trans : ∀ (ts : List Tree) (i : Nat), p ∈ placesOf i ts →
    q ∈ p.descendants → q ∈ placesOf i ts
  | t :: ts, i, hp, hq => by
    rw [placesOf] at hp ⊢
    rcases List.mem_append.1 hp with hp | hp
    · exact List.mem_append_left _ (Tree.mem_walk_trans t _ rfl hp hq)
    · exact List.mem_append_right _ (mem_placesOf_trans ts (i + 1) hp hq)

/-- The places of a document are those of its trees. -/
theorem mem_places_iff : p ∈ d.places ↔ p.In d.trees := by
  constructor
  · exact in_of_mem_placesOf _ 0 fun j t h => by rwa [Nat.zero_add]
  · intro h
    induction p with
    | root i t =>
      have hm := root_mem_placesOf d.trees 0 i h
      rwa [Nat.zero_add] at hm
    | child r before t after ih =>
      refine mem_placesOf_trans _ 0 (ih h.1) ?_
      exact h.1.mem_descendants_iff.2 ⟨h, List.mem_cons_self⟩

theorem path_of_mem_placesOf : ∀ (ts : List Tree) (i : Nat), p ∈ placesOf i ts →
    ∃ n ns, i ≤ n ∧ p.path = n :: ns
  | t :: ts, i, h => by
    rw [placesOf] at h
    rcases List.mem_append.1 h with h | h
    · obtain ⟨ns, hp⟩ := Tree.path_of_mem_walk h
      exact ⟨i, ns, Nat.le_refl i, hp⟩
    · obtain ⟨n, ns, hn, hp⟩ := path_of_mem_placesOf ts (i + 1) h
      exact ⟨n, ns, Nat.le_of_succ_le hn, hp⟩

theorem pairwise_placesOf : ∀ (ts : List Tree) (i : Nat),
    (placesOf i ts).Pairwise Place.Precedes
  | [], i => .nil
  | t :: ts, i => by
    rw [placesOf, List.pairwise_append]
    refine ⟨Tree.pairwise_walk t _, pairwise_placesOf ts (i + 1), ?_⟩
    intro p hp q hq
    obtain ⟨ms, hp⟩ := Tree.path_of_mem_walk hp
    obtain ⟨n, ns, hn, hq⟩ := path_of_mem_placesOf ts (i + 1) hq
    rw [Place.Precedes, hp, hq]
    exact List.cons_lt_cons_iff.2 (.inl hn)

theorem pairwise_places (d : Document) : d.places.Pairwise Place.Precedes :=
  pairwise_placesOf _ 0

/-! ## The order of creation -/

theorem insertByCreation_eq (p : Place) (ps : List Place) :
    insertByCreation p ps = ps.orderedInsert (·.serial ≤ ·.serial) p := by
  induction ps with
  | nil => rfl
  | cons q ps ih => rw [insertByCreation, ih, List.orderedInsert_cons]

theorem byCreation_eq (ps : List Place) :
    byCreation ps = ps.insertionSort (·.serial ≤ ·.serial) := by
  induction ps with
  | nil => rfl
  | cons p ps ih =>
    rw [byCreation, List.foldr_cons, insertByCreation_eq, List.insertionSort_cons, ← ih, byCreation]

theorem byCreation_perm (ps : List Place) : (byCreation ps).Perm ps := by
  rw [byCreation_eq]
  exact ps.perm_insertionSort _

end Document

/-! ## Contexts -/

/-- Whether the context lies in the trees `roots`: the whole document in its own, an element in any
that it is a place of. -/
def Context.In (d : Document) (roots : List Tree) : Context → Prop
  | .document => roots = d.trees
  | .node e => e.In roots

/-- What a query in the context looks at. -/
def Context.Covers : Context → Place → Prop
  | .document, p => p.parent?.isSome = true
  | .node e, p => e ∈ p.ancestors

/-- Where the search in a context starts from. -/
def Context.scope : Context → Option Place
  | .document => none
  | .node e => some e

theorem Context.Covers.below {c : Context} {p q : Place} (h : c.Covers p) (hq : p ∈ q.ancestors) :
    c.Covers q := by
  cases c with
  | document =>
    cases q with
    | root i t => cases hq
    | child r before t after => rfl
  | node e => exact Place.mem_ancestors_trans h hq

namespace Document

variable {d : Document} {roots : List Tree} {c : Context} {p e : Place} {s : String}

/-! ## Queries -/

theorem mem_find_iff (hc : c.In d roots) :
    p ∈ d.find s c ↔ ∃ sel, Css.Selector.parse? s = some sel ∧ p.In roots ∧ c.Covers p ∧
      sel.Matches c.scope p = true := by
  unfold find
  cases Css.Selector.parse? s with
  | none => simp
  | some sel =>
    cases c with
    | document =>
      obtain rfl : roots = d.trees := hc
      simp only [select, (byCreation_perm _).mem_iff, List.mem_filter, mem_places_iff,
        Bool.and_eq_true, Context.Covers, Context.scope, Option.some.injEq, exists_eq_left']
    | node e =>
      have he : e.In roots := hc
      simp only [select, List.mem_filter, he.mem_descendants_iff, Context.Covers, Context.scope,
        Option.some.injEq, exists_eq_left', and_assoc]

theorem in_of_mem_find (hc : c.In d roots) (h : p ∈ d.find s c) : p.In roots := by
  obtain ⟨_, -, hp, -⟩ := (mem_find_iff hc).1 h
  exact hp

theorem covers_of_mem_find (hc : c.In d roots) (h : p ∈ d.find s c) : c.Covers p := by
  obtain ⟨_, -, -, hp, -⟩ := (mem_find_iff hc).1 h
  exact hp

/-- Below an element of a context is found what is found in the context and has the element above
it, if the selector does not mention the scope. -/
theorem mem_find_node_iff (hc : c.In d roots) (he : e.In roots) (hce : c.Covers e)
    (hs : ∀ sel, Css.Selector.parse? s = some sel → sel.usesScope = false) :
    p ∈ d.find s (.node e) ↔ p ∈ d.find s c ∧ e ∈ p.ancestors := by
  have he' : (Context.node e).In d roots := he
  rw [mem_find_iff hc, mem_find_iff he']
  constructor
  · rintro ⟨sel, hsel, hp, hep, hm⟩
    rw [Css.Selector.matches_anyScope _ c.scope (hs sel hsel)] at hm
    exact ⟨⟨sel, hsel, hp, hce.below hep, hm⟩, hep⟩
  · rintro ⟨⟨sel, hsel, hp, -, hm⟩, hep⟩
    rw [Css.Selector.matches_anyScope _ (Context.node e).scope (hs sel hsel)] at hm
    exact ⟨sel, hsel, hp, hep, hm⟩

/-- Nothing is found twice. -/
theorem nodup_find (d : Document) (s : String) (c : Context) : (d.find s c).Nodup := by
  unfold find
  cases Css.Selector.parse? s with
  | none => exact .nil
  | some sel =>
    cases c with
    | document =>
      simp only [select, (byCreation_perm _).nodup_iff]
      exact ((pairwise_places d).imp Place.Precedes.ne).filter _
    | node e => exact ((Place.pairwise_descendants e).imp Place.Precedes.ne).filter _

end Document

end WebExtract
