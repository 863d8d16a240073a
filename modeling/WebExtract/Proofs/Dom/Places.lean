import WebExtract.Dom.Place

/-!
# Going down and going up

The walk through a tree goes down; the ancestors and the address of a place go up. Here the two are
shown to agree, for the places of given trees: `p.In roots` says that `p` starts at one of the trees
`roots`, and that the siblings it carries are those that its parent has.

**Results.**
* `Place.In.mem_descendants_iff`: what is below `p` is what has `p` among its ancestors.
* `Place.In.isBelow_iff`: the test on addresses finds the ancestors.
* `Place.pairwise_descendants`: the walk is in document order, so that it lists no place twice.
* `Place.text_isInfix`: the text of what is below a place is one piece of the place's text.
-/
namespace WebExtract.Dom

namespace Place

/-- Whether `p` is a place of the trees `roots`. -/
def In (roots : List Tree) : Place → Prop
  | .root i t => roots[i]? = some t
  | .child p before t after => p.In roots ∧ p.tree.children = before.reverse ++ t :: after

/-- The number of the root, and how many siblings stand before each place on the way down. -/
def path (p : Place) : List Nat := p.address.reverse

/-- Document order: what is above or before comes first. -/
def Precedes (p q : Place) : Prop := p.path < q.path

variable {roots : List Tree} {p q r : Place}

/-! ## Ancestors -/

theorem mem_ancestors_trans (h : p ∈ q.ancestors) (h' : q ∈ r.ancestors) : p ∈ r.ancestors := by
  induction r with
  | root i t => cases h'
  | child r before t after ih =>
    rcases List.mem_cons.1 h' with rfl | h'
    · exact List.mem_cons_of_mem _ h
    · exact List.mem_cons_of_mem _ (ih h')

@[simp] theorem path_child (p : Place) (before : List Tree) (t : Tree) (after : List Tree) :
    (Place.child p before t after).path = p.path ++ [before.length] := by
  simp [path, address]

/-- The path of an ancestor goes on to the place. -/
theorem path_of_mem_ancestors (h : p ∈ q.ancestors) : ∃ n ns, q.path = p.path ++ n :: ns := by
  induction q with
  | root i t => cases h
  | child q before t after ih =>
    rw [path_child]
    rcases List.mem_cons.1 h with rfl | h
    · exact ⟨_, _, rfl⟩
    · obtain ⟨n, ns, h⟩ := ih h
      exact ⟨n, ns ++ [before.length], by rw [h, List.append_assoc, List.cons_append]⟩

theorem precedes_of_mem_ancestors (h : p ∈ q.ancestors) : p.Precedes q := by
  obtain ⟨n, ns, hq⟩ := path_of_mem_ancestors h
  rw [Precedes, hq]
  have hlt : p.path ++ [] < p.path ++ n :: ns := List.append_left_lt (List.nil_lt_cons n ns)
  rwa [List.append_nil] at hlt

theorem Precedes.ne (h : p.Precedes q) : p ≠ q := by
  rintro rfl
  exact List.lt_irrefl _ h

theorem nodup_ancestors (p : Place) : (p :: p.ancestors).Nodup := by
  induction p with
  | root i t => simp [ancestors]
  | child p before t after ih =>
    refine List.nodup_cons.2 ⟨fun h => ?_, ih⟩
    exact (precedes_of_mem_ancestors h).ne rfl

theorem In.of_mem_ancestors (hp : p.In roots) (h : q ∈ p :: p.ancestors) : q.In roots := by
  induction p with
  | root i t => exact List.mem_singleton.1 h ▸ hp
  | child p before t after ih =>
    rcases List.mem_cons.1 h with rfl | h
    · exact hp
    · exact ih hp.1 h

/-! ## Addresses -/

theorem address_ne_nil (p : Place) : p.address ≠ [] := by
  cases p <;> simp [address]

theorem In.eq_of_address (hp : p.In roots) (hq : q.In roots) (h : p.address = q.address) :
    p = q := by
  induction p generalizing q with
  | root i t =>
    cases q with
    | root j u =>
      simp only [address, List.cons.injEq, and_true] at h
      simp only [In, h] at hp hq
      rw [h, Option.some.inj (hp.symm.trans hq)]
    | child q before u after =>
      simp only [address, List.cons.injEq] at h
      exact absurd h.2.symm q.address_ne_nil
  | child p before t after ih =>
    cases q with
    | root j u =>
      simp only [address, List.cons.injEq] at h
      exact absurd h.2 p.address_ne_nil
    | child q before' u after' =>
      simp only [address, List.cons.injEq] at h
      obtain ⟨hn, h⟩ := h
      obtain rfl := ih hp.1 hq.1 h
      have hs := List.append_inj (hp.2.symm.trans hq.2) (by simp [hn])
      rw [List.reverse_inj, List.cons.injEq] at hs
      rw [hs.1, hs.2.1, hs.2.2]

theorem In.mem_of_suffix (hp : p.In roots) (hq : q.In roots) (h : q.address <:+ p.address) :
    q = p ∨ q ∈ p.ancestors := by
  induction p with
  | root i t =>
    rcases List.suffix_cons_iff.1 h with h | h
    · exact .inl (hq.eq_of_address hp h)
    · exact absurd (List.suffix_nil.1 h) q.address_ne_nil
  | child p before t after ih =>
    rcases List.suffix_cons_iff.1 h with h | h
    · exact .inl (hq.eq_of_address hp h)
    · exact .inr (List.mem_cons.2 (ih hp.1 h))

theorem suffix_of_mem_ancestors (h : q ∈ p.ancestors) : q.address <:+ p.address := by
  obtain ⟨n, ns, h⟩ := path_of_mem_ancestors h
  rw [← List.reverse_prefix]
  exact ⟨n :: ns, h.symm⟩

/-- The test on addresses finds the ancestors. -/
theorem In.isBelow_iff (hp : p.In roots) (hq : q.In roots) :
    p.isBelow q = true ↔ q ∈ p.ancestors := by
  cases p with
  | root i t => simp [isBelow, address, ancestors, q.address_ne_nil]
  | child p before t after =>
    simp only [isBelow, address, ancestors, List.isSuffixOf_iff_suffix, List.mem_cons]
    constructor
    · exact hp.1.mem_of_suffix hq
    · rintro (rfl | h)
      · exact List.suffix_refl _
      · exact suffix_of_mem_ancestors h

end Place

/-! ## The walk -/

section

variable {roots : List Tree} {q r : Place}

theorem Tree.self_mem_walk (t : Tree) (here : Place) : here ∈ t.walk here := by
  cases t with
  | node n c ts => exact List.mem_cons_self

mutual

theorem Tree.mem_ancestors_of_mem_walk : ∀ (t : Tree) (here : Place), q ∈ t.walk here →
    q = here ∨ here ∈ q.ancestors
  | .node _ _ ts, here, h => by
    rw [Tree.walk] at h
    rcases List.mem_cons.1 h with rfl | h
    · exact .inl rfl
    · exact .inr (Tree.mem_ancestors_of_mem_walkAll ts here [] h)

theorem Tree.mem_ancestors_of_mem_walkAll : ∀ (ts : List Tree) (parent : Place)
    (before : List Tree), q ∈ Tree.walkAll parent before ts → parent ∈ q.ancestors
  | t :: ts, parent, before, h => by
    rw [Tree.walkAll] at h
    rcases List.mem_append.1 h with h | h
    · rcases Tree.mem_ancestors_of_mem_walk t _ h with rfl | h
      · exact List.mem_cons_self
      · exact Place.mem_ancestors_trans List.mem_cons_self h
    · exact Tree.mem_ancestors_of_mem_walkAll ts parent (t :: before) h

end

mutual

theorem Tree.in_of_mem_walk : ∀ (t : Tree) (here : Place), here.In roots → here.tree = t →
    q ∈ t.walk here → q.In roots
  | .node n c ts, here, hi, ht, h => by
    rw [Tree.walk] at h
    rcases List.mem_cons.1 h with rfl | h
    · exact hi
    · exact Tree.in_of_mem_walkAll ts here [] hi (by rw [ht]; rfl) h

theorem Tree.in_of_mem_walkAll : ∀ (ts : List Tree) (parent : Place) (before : List Tree),
    parent.In roots → parent.tree.children = before.reverse ++ ts →
      q ∈ Tree.walkAll parent before ts → q.In roots
  | t :: ts, parent, before, hi, ht, h => by
    rw [Tree.walkAll] at h
    rcases List.mem_append.1 h with h | h
    · have hc : (Place.child parent before t ts).In roots := ⟨hi, ht⟩
      exact Tree.in_of_mem_walk t _ hc rfl h
    · exact Tree.in_of_mem_walkAll ts parent (t :: before) hi (by simp [ht]) h

end

mutual

/-- What is below a place of the walk is in the walk too. -/
theorem Tree.mem_walk_trans : ∀ (t : Tree) (here : Place), here.tree = t → r ∈ t.walk here →
    q ∈ r.descendants → q ∈ t.walk here
  | .node n c ts, here, ht, hr, hq => by
    rw [Tree.walk] at hr ⊢
    rcases List.mem_cons.1 hr with rfl | hr
    · rw [Place.descendants, ht] at hq
      exact List.mem_cons_of_mem _ hq
    · exact List.mem_cons_of_mem _ (Tree.mem_walkAll_trans ts here [] hr hq)

theorem Tree.mem_walkAll_trans : ∀ (ts : List Tree) (parent : Place) (before : List Tree),
    r ∈ Tree.walkAll parent before ts → q ∈ r.descendants → q ∈ Tree.walkAll parent before ts
  | t :: ts, parent, before, hr, hq => by
    rw [Tree.walkAll] at hr ⊢
    rcases List.mem_append.1 hr with hr | hr
    · exact List.mem_append_left _ (Tree.mem_walk_trans t _ rfl hr hq)
    · exact List.mem_append_right _ (Tree.mem_walkAll_trans ts parent (t :: before) hr hq)

end

theorem Tree.child_mem_walkAll (parent : Place) (t : Tree) (after : List Tree) :
    ∀ (ts before : List Tree),
      .child parent (ts.reverse ++ before) t after ∈ Tree.walkAll parent before (ts ++ t :: after)
  | [], before => by
    rw [List.nil_append, Tree.walkAll]
    exact List.mem_append_left _ (Tree.self_mem_walk t _)
  | u :: ts, before => by
    rw [List.cons_append, Tree.walkAll]
    have h := Tree.child_mem_walkAll parent t after ts (u :: before)
    rw [List.reverse_cons, List.append_assoc]
    exact List.mem_append_right _ h

theorem Tree.path_of_mem_walk {t : Tree} {here : Place} (h : q ∈ t.walk here) :
    ∃ ns, q.path = here.path ++ ns := by
  rcases Tree.mem_ancestors_of_mem_walk t here h with rfl | h
  · exact ⟨[], (List.append_nil _).symm⟩
  · obtain ⟨n, ns, hq⟩ := Place.path_of_mem_ancestors h
    exact ⟨n :: ns, hq⟩

/-- Each place of the walk below `parent` goes through one of the children that are walked. -/
theorem Tree.path_of_mem_walkAll : ∀ (ts : List Tree) (parent : Place) (before : List Tree),
    q ∈ Tree.walkAll parent before ts →
      ∃ n ns, before.length ≤ n ∧ q.path = parent.path ++ n :: ns
  | t :: ts, parent, before, h => by
    rw [Tree.walkAll] at h
    rcases List.mem_append.1 h with h | h
    · obtain ⟨ns, hq⟩ := Tree.path_of_mem_walk h
      rw [Place.path_child, List.append_assoc, List.singleton_append] at hq
      exact ⟨before.length, ns, Nat.le_refl _, hq⟩
    · obtain ⟨n, ns, hn, hq⟩ := Tree.path_of_mem_walkAll ts parent (t :: before) h
      exact ⟨n, ns, Nat.le_of_succ_le hn, hq⟩

mutual

theorem Tree.pairwise_walk : ∀ (t : Tree) (here : Place), (t.walk here).Pairwise Place.Precedes
  | .node _ _ ts, here => by
    rw [Tree.walk, List.pairwise_cons]
    refine ⟨fun q hq => ?_, Tree.pairwise_walkAll ts here []⟩
    exact Place.precedes_of_mem_ancestors (Tree.mem_ancestors_of_mem_walkAll ts here [] hq)

theorem Tree.pairwise_walkAll : ∀ (ts : List Tree) (parent : Place) (before : List Tree),
    (Tree.walkAll parent before ts).Pairwise Place.Precedes
  | [], _, _ => by
    rw [Tree.walkAll]
    exact .nil
  | t :: ts, parent, before => by
    rw [Tree.walkAll, List.pairwise_append]
    refine ⟨Tree.pairwise_walk t _, Tree.pairwise_walkAll ts parent (t :: before), ?_⟩
    intro p hp q hq
    obtain ⟨ms, hp⟩ := Tree.path_of_mem_walk hp
    rw [Place.path_child, List.append_assoc, List.singleton_append] at hp
    obtain ⟨n, ns, hn, hq⟩ := Tree.path_of_mem_walkAll ts parent (t :: before) hq
    rw [Place.Precedes, hp, hq]
    exact List.append_left_lt (List.cons_lt_cons_iff.2 (.inl hn))

end

end

namespace Place

variable {roots : List Tree} {p q : Place}

/-- What is below `p` is what has `p` among its ancestors. -/
theorem In.mem_descendants_iff (hp : p.In roots) :
    q ∈ p.descendants ↔ q.In roots ∧ p ∈ q.ancestors := by
  constructor
  · intro h
    exact ⟨Tree.in_of_mem_walkAll _ p [] hp rfl h, Tree.mem_ancestors_of_mem_walkAll _ p [] h⟩
  · rintro ⟨hq, h⟩
    induction q with
    | root i t => cases h
    | child r before t after ih =>
      have hr : .child r before t after ∈ r.descendants := by
        have h := Tree.child_mem_walkAll r t after before.reverse []
        rw [List.reverse_reverse, List.append_nil, ← hq.2] at h
        exact h
      rcases List.mem_cons.1 h with rfl | h
      · exact hr
      · exact Tree.mem_walkAll_trans _ p [] (ih hq.1 h) hr

theorem pairwise_descendants (p : Place) : p.descendants.Pairwise Precedes :=
  Tree.pairwise_walkAll _ p []

end Place

/-! ## Texts -/

section

variable {p q : Place}

mutual

theorem Tree.text_isInfix_of_mem_walk : ∀ (t : Tree) (here : Place), here.tree = t →
    q ∈ t.walk here → q.tree.text <:+: t.text
  | .node n c ts, here, ht, h => by
    rw [Tree.walk] at h
    rcases List.mem_cons.1 h with rfl | h
    · exact ht ▸ List.infix_refl _
    · have hq : q.tree.text <:+: Tree.texts ts := Tree.text_isInfix_of_mem_walkAll ts here [] h
      exact hq.trans (Tree.texts_children_isSuffix (.node n c ts)).isInfix

theorem Tree.text_isInfix_of_mem_walkAll : ∀ (ts : List Tree) (parent : Place)
    (before : List Tree), q ∈ Tree.walkAll parent before ts → q.tree.text <:+: Tree.texts ts
  | t :: ts, parent, before, h => by
    rw [Tree.walkAll] at h
    rw [Tree.texts]
    rcases List.mem_append.1 h with h | h
    · have hq : q.tree.text <:+: t.text := Tree.text_isInfix_of_mem_walk t _ rfl h
      exact hq.trans (List.prefix_append t.text (Tree.texts ts)).isInfix
    · have hq : q.tree.text <:+: Tree.texts ts :=
        Tree.text_isInfix_of_mem_walkAll ts parent (t :: before) h
      exact hq.trans (List.suffix_append t.text (Tree.texts ts)).isInfix

end

/-- The text of what is below a place is one piece of the place's text. -/
theorem Place.text_isInfix (h : q ∈ p.descendants) : q.tree.text <:+: p.tree.text :=
  (Tree.text_isInfix_of_mem_walkAll _ p [] h).trans (Tree.texts_children_isSuffix p.tree).isInfix

end

end WebExtract.Dom
