import Mathlib.Data.List.InsertIdx
import Mathlib.Data.List.Nodup
import Mathlib.Data.List.Perm.Subperm
import WebExtract.Dom.Store
import WebExtract.Proofs.Dom.Places

/-!
# Links between nodes

The nodes of a store know their parents and their children. `Store.Linked` says that the two agree:
whatever is listed among the children of a node has this node as its parent, and is listed there
once. All changes of a store keep it so, as long as what they put somewhere has been created before
and is not the document node.

**Results.**
* `Linked.detach`, `Linked.append`, `Linked.insertBefore`, `Linked.moveChildren`, …: one for each
  change of a store.
* `Linked.parent?_serial`: in the trees of a linked store, a place has the parent that the store
  says.
* `Linked.eq_of_serial`: no node is at two places of these trees. A node comes to its place through
  its parents, up to a root, and no step of this way is open to choice.
* `Linked.serial_children`: the trees, made down to a number of levels, go down to their leaves.
-/
namespace WebExtract.Dom

namespace Store

variable {s s' : Store} {n m p q : NodeId}

/-- The node has been created, and is not the document node. -/
def Owns (s : Store) (n : NodeId) : Prop := n ≠ documentId ∧ n < s.nodes.size

/-- What is listed among the children of a node has it as its parent, and is listed there once. The
document node has no parent. -/
structure Linked (s : Store) : Prop where
  documentId_lt : documentId < s.nodes.size
  parent?_documentId : s.parent? documentId = none
  parent?_of_mem : ∀ p n, n ∈ s.children p → s.parent? n = some p
  nodup_children : ∀ p, (s.children p).toList.Nodup

theorem Owns.mono (h : s.Owns n) (hs : s.nodes.size ≤ s'.nodes.size) : s'.Owns n :=
  ⟨h.1, Nat.lt_of_lt_of_le h.2 hs⟩

theorem lt_of_parent? (h : s.parent? n = some p) : n < s.nodes.size := by
  unfold parent? at h
  cases hr : s.nodes[n]? with
  | none =>
    rw [hr] at h
    cases h
  | some r => exact (Array.getElem?_eq_some_iff.1 hr).1

/-- A node that has a parent is not the document node. -/
theorem Linked.owns_of_parent? (h : s.Linked) (hn : s.parent? n = some p) : s.Owns n := by
  refine ⟨?_, lt_of_parent? hn⟩
  rintro rfl
  rw [h.parent?_documentId] at hn
  cases hn

/-! ## Changes of one node -/

@[simp] theorem size_update (s : Store) (n : NodeId) (f : Record → Record) :
    (s.update n f).nodes.size = s.nodes.size := by
  simp [update]

theorem nodes_update (s : Store) (n m : NodeId) (f : Record → Record) :
    (s.update n f).nodes[m]? = if n = m then s.nodes[m]?.map f else s.nodes[m]? := by
  rw [update, Array.getElem?_modify]

/-- A change that leaves the parent alone. -/
theorem parent?_update {f : Record → Record} (hf : ∀ r, (f r).parent = r.parent) :
    (s.update n f).parent? m = s.parent? m := by
  rw [parent?, parent?, nodes_update]
  by_cases h : n = m
  · rw [if_pos h]
    cases s.nodes[m]? with
    | none => rfl
    | some r => exact hf r
  · rw [if_neg h]

/-- A change that leaves the children alone. -/
theorem children_update {f : Record → Record} (hf : ∀ r, (f r).children = r.children) :
    (s.update n f).children m = s.children m := by
  rw [children, children, nodes_update]
  by_cases h : n = m
  · rw [if_pos h]
    cases s.nodes[m]? with
    | none => rfl
    | some r => exact hf r
  · rw [if_neg h]

theorem parent?_setParent (o : Option NodeId) (hn : n < s.nodes.size) :
    (s.update n fun r => { r with parent := o }).parent? m = if n = m then o else s.parent? m := by
  rw [parent?, parent?, nodes_update]
  by_cases h : n = m
  · subst h
    rw [if_pos rfl, if_pos rfl, Array.getElem?_eq_getElem hn]
    rfl
  · rw [if_neg h, if_neg h]

theorem children_setParent (s : Store) (n : NodeId) (o : Option NodeId) :
    (s.update n fun r => { r with parent := o }).children m = s.children m :=
  children_update fun _ => rfl

/-- The children of all other nodes, and those of a node that does not exist, stay as they are. -/
theorem children_setChildren (s : Store) (p q : NodeId) (g : Array NodeId → Array NodeId) :
    (s.update p fun r => { r with children := g r.children }).children q =
      if p = q ∧ p < s.nodes.size then g (s.children q) else s.children q := by
  rw [children, children, nodes_update]
  by_cases h : p = q
  · subst h
    by_cases hp : p < s.nodes.size
    · simp [hp]
    · simp [hp]
  · simp [h]

/-- A change of the content alone keeps the links. -/
theorem Linked.update (h : s.Linked) {f : Record → Record} (hp : ∀ r, (f r).parent = r.parent)
    (hc : ∀ r, (f r).children = r.children) : (s.update n f).Linked where
  documentId_lt := by
    rw [size_update]
    exact h.documentId_lt
  parent?_documentId := by
    rw [parent?_update hp]
    exact h.parent?_documentId
  parent?_of_mem q m hm := by
    rw [children_update hc] at hm
    rw [parent?_update hp]
    exact h.parent?_of_mem q m hm
  nodup_children q := by
    rw [children_update hc]
    exact h.nodup_children q

/-! ## Creating nodes -/

theorem linked_empty : empty.Linked where
  documentId_lt := by decide
  parent?_documentId := rfl
  parent?_of_mem p n h := by
    cases p with
    | zero => simp [children, empty] at h
    | succ p => simp [children, empty] at h
  nodup_children p := by
    cases p with
    | zero => simp [children, empty]
    | succ p => simp [children, empty]

theorem size_create (s : Store) (c : Content) :
    (s.create c).2.nodes.size = s.nodes.size + 1 := by
  simp [create]

theorem Linked.owns_create (h : s.Linked) (c : Content) : (s.create c).2.Owns (s.create c).1 := by
  refine ⟨Nat.ne_of_gt h.documentId_lt, ?_⟩
  rw [size_create]
  exact Nat.lt_succ_self _

theorem parent?_create (s : Store) (c : Content) (m : NodeId) :
    (s.create c).2.parent? m = s.parent? m := by
  simp only [create, parent?, Array.getElem?_push]
  by_cases hm : m = s.nodes.size
  · simp [hm]
  · simp [hm]

theorem children_create (s : Store) (c : Content) (m : NodeId) :
    (s.create c).2.children m = s.children m := by
  simp only [create, children, Array.getElem?_push]
  by_cases hm : m = s.nodes.size
  · simp [hm]
  · simp [hm]

theorem Linked.create (h : s.Linked) (c : Content) : (s.create c).2.Linked where
  documentId_lt := by
    rw [size_create]
    exact Nat.lt_succ_of_lt h.documentId_lt
  parent?_documentId := by
    rw [parent?_create]
    exact h.parent?_documentId
  parent?_of_mem q m hm := by
    rw [children_create] at hm
    rw [parent?_create]
    exact h.parent?_of_mem q m hm
  nodup_children q := by
    rw [children_create]
    exact h.nodup_children q

/-! ## Taking nodes out -/

@[simp] theorem size_detach (s : Store) (n : NodeId) : (s.detach n).nodes.size = s.nodes.size := by
  unfold detach
  cases s.parent? n <;> simp

theorem parent?_detach (s : Store) (n m : NodeId) :
    (s.detach n).parent? m = if n = m then none else s.parent? m := by
  unfold detach
  cases hp : s.parent? n with
  | none =>
    by_cases h : n = m
    · subst h
      rw [if_pos rfl]
      exact hp
    · rw [if_neg h]
  | some p =>
    have hn : n <
        (s.update p fun r => { r with children := r.children.filter (· ≠ n) }).nodes.size := by
      rw [size_update]
      exact lt_of_parent? hp
    have hu : (s.update p fun r => { r with children := r.children.filter (· ≠ n) }).parent? m =
        s.parent? m := parent?_update fun _ => rfl
    simp only [parent?_setParent none hn, hu]

/-- The node is listed by its parent alone, so that it is listed nowhere afterwards. -/
theorem Linked.children_detach (h : s.Linked) (n q : NodeId) :
    (s.detach n).children q = (s.children q).filter (· ≠ n) := by
  have hother (hq : s.parent? n ≠ some q) : s.children q = (s.children q).filter (· ≠ n) := by
    refine (Array.filter_eq_self.2 fun m hm => ?_).symm
    have hne : m ≠ n := by
      rintro rfl
      exact hq (h.parent?_of_mem q m hm)
    exact decide_eq_true hne
  unfold detach
  cases hp : s.parent? n with
  | none => exact hother (by simp [hp])
  | some p =>
    dsimp only
    rw [children_setParent, children_setChildren s p q fun c => c.filter (· ≠ n)]
    by_cases hq : p = q ∧ p < s.nodes.size
    · rw [if_pos hq]
    · rw [if_neg hq]
      by_cases hpq : p = q
      · -- the parent does not exist and lists nothing
        subst hpq
        have hs : s.nodes[p]? = none :=
          Array.getElem?_eq_none (Nat.le_of_not_lt fun hl => hq ⟨rfl, hl⟩)
        simp [children, hs]
      · exact hother fun hs => hpq (Option.some.inj (hp.symm.trans hs))

theorem Linked.not_mem_detach (h : s.Linked) (n q : NodeId) : n ∉ (s.detach n).children q := by
  rw [h.children_detach]
  simp

theorem Linked.detach (h : s.Linked) (n : NodeId) : (s.detach n).Linked where
  documentId_lt := by
    rw [size_detach]
    exact h.documentId_lt
  parent?_documentId := by
    rw [parent?_detach]
    split
    · rfl
    · exact h.parent?_documentId
  parent?_of_mem q m hm := by
    rw [h.children_detach, Array.mem_filter] at hm
    rw [parent?_detach, if_neg (Ne.symm (of_decide_eq_true hm.2))]
    exact h.parent?_of_mem q m hm.1
  nodup_children q := by
    rw [h.children_detach, Array.toList_filter]
    exact (h.nodup_children q).filter _

/-! ## Putting nodes in -/

/-- A node that is listed nowhere gets a parent and is put among its children. -/
theorem Linked.attach (h : s.Linked) (hn : s.Owns n) (hnew : ∀ q, n ∉ s.children q) (p : NodeId)
    {g : Array NodeId → Array NodeId} (hg : ∀ c m, m ∈ g c → m = n ∨ m ∈ c)
    (hd : ∀ c : Array NodeId, n ∉ c → c.toList.Nodup → (g c).toList.Nodup) :
    ((s.update p fun r => { r with children := g r.children }).update n
      fun r => { r with parent := some p }).Linked := by
  have hparent : ∀ m, ((s.update p fun r => { r with children := g r.children }).update n
      fun r => { r with parent := some p }).parent? m = if n = m then some p else s.parent? m := by
    intro m
    have hs : n < (s.update p fun r => { r with children := g r.children }).nodes.size := by
      rw [size_update]
      exact hn.2
    rw [parent?_setParent _ hs]
    by_cases hm : n = m
    · rw [if_pos hm, if_pos hm]
    · rw [if_neg hm, if_neg hm]
      exact parent?_update fun _ => rfl
  have hchildren : ∀ q, ((s.update p fun r => { r with children := g r.children }).update n
      fun r => { r with parent := some p }).children q =
        if p = q ∧ p < s.nodes.size then g (s.children q) else s.children q := by
    intro q
    rw [children_setParent, children_setChildren]
  refine ⟨?_, ?_, ?_, ?_⟩
  · rw [size_update, size_update]
    exact h.documentId_lt
  · rw [hparent, if_neg hn.1]
    exact h.parent?_documentId
  · intro q m hm
    rw [hchildren] at hm
    rw [hparent]
    have hold (hm : m ∈ s.children q) : (if n = m then some p else s.parent? m) = some q := by
      have hne : n ≠ m := by
        rintro rfl
        exact hnew q hm
      rw [if_neg hne]
      exact h.parent?_of_mem q m hm
    split at hm
    · next hq =>
      rcases hg _ m hm with rfl | hm
      · rw [if_pos rfl, hq.1]
      · exact hold hm
    · exact hold hm
  · intro q
    rw [hchildren]
    split
    · exact hd _ (hnew q) (h.nodup_children q)
    · exact h.nodup_children q

theorem Owns.detach (h : s.Owns n) (m : NodeId) : (s.detach m).Owns n :=
  h.mono (Nat.le_of_eq (size_detach s m).symm)

@[simp] theorem size_append (s : Store) (p n : NodeId) :
    (s.append p n).nodes.size = s.nodes.size := by
  simp [append]

theorem Linked.append (h : s.Linked) (p : NodeId) (hn : s.Owns n) : (s.append p n).Linked := by
  refine (h.detach n).attach (g := fun c => c.push n) (hn.detach n) (h.not_mem_detach n) p ?_ ?_
  · intro c m hm
    rcases Array.mem_push.1 hm with hm | rfl
    · exact .inr hm
    · exact .inl rfl
  · intro c hc hd
    rw [Array.toList_push, List.nodup_append]
    refine ⟨hd, List.pairwise_singleton _ n, ?_⟩
    rintro a ha b hb rfl
    rw [List.mem_singleton.1 hb] at ha
    exact hc (Array.mem_toList_iff.1 ha)

@[simp] theorem size_insertBefore (s : Store) (sibling n : NodeId) :
    (s.insertBefore sibling n).nodes.size = s.nodes.size := by
  simp only [insertBefore]
  cases (s.detach n).parent? sibling <;> simp

theorem Linked.insertBefore (h : s.Linked) (sibling : NodeId) (hn : s.Owns n) :
    (s.insertBefore sibling n).Linked := by
  simp only [Store.insertBefore]
  cases (s.detach n).parent? sibling with
  | none => exact h.detach n
  | some p =>
    dsimp only
    generalize (((s.detach n).children p).idxOf? sibling).getD 0 = i
    refine (h.detach n).attach (g := fun c => c.insertIdxIfInBounds i n) (hn.detach n)
      (h.not_mem_detach n) p ?_ ?_
    · intro c m hm
      unfold Array.insertIdxIfInBounds at hm
      split at hm
      · next hi => exact Array.mem_insertIdx.1 hm
      · exact .inr hm
    · intro c hc hd
      unfold Array.insertIdxIfInBounds
      split
      · next hi =>
        rw [Array.toList_insertIdx]
        refine ((List.perm_insertIdx n c.toList hi).nodup_iff).2 (List.nodup_cons.2 ⟨?_, hd⟩)
        exact fun hm => hc (Array.mem_toList_iff.1 hm)
      · exact hd

/-! ## Texts -/

theorem extendText_eq {text : String} (h : s.extendText n text = some s') :
    ∃ t, s' = s.update n fun r => { r with content := .text (t ++ text) } := by
  unfold extendText at h
  split at h
  · next t _ => exact ⟨t, (Option.some.inj h).symm⟩
  · cases h

/-- A text is added to one that is there already, or it becomes a new node. -/
theorem appendText_cases (s : Store) (p : NodeId) (text : String) :
    (∃ n t, s.appendText p text = s.update n fun r => { r with content := .text (t ++ text) }) ∨
      s.appendText p text = (s.create (.text text)).2.append p (s.create (.text text)).1 := by
  unfold appendText
  cases h : (s.children p).back?.bind (s.extendText · text) with
  | none => exact .inr rfl
  | some s' =>
    obtain ⟨n, -, hn⟩ := Option.bind_eq_some_iff.1 h
    obtain ⟨t, ht⟩ := extendText_eq hn
    exact .inl ⟨n, t, ht⟩

theorem insertTextBefore_cases (s : Store) (sibling : NodeId) (text : String) :
    s.insertTextBefore sibling text = s ∨
    (∃ n t, s.insertTextBefore sibling text =
      s.update n fun r => { r with content := .text (t ++ text) }) ∨
    s.insertTextBefore sibling text =
      (s.create (.text text)).2.insertBefore sibling (s.create (.text text)).1 := by
  unfold insertTextBefore
  cases s.parent? sibling with
  | none => exact .inl rfl
  | some p =>
    refine .inr ?_
    dsimp only
    generalize ((s.children p).idxOf? sibling).getD 0 = i
    cases h : (if i = 0 then none else (s.children p)[i - 1]?).bind (s.extendText · text) with
    | none => exact .inr rfl
    | some s' =>
      obtain ⟨n, -, hn⟩ := Option.bind_eq_some_iff.1 h
      obtain ⟨t, ht⟩ := extendText_eq hn
      exact .inl ⟨n, t, ht⟩

theorem Linked.appendText (h : s.Linked) (p : NodeId) (text : String) :
    (s.appendText p text).Linked := by
  rcases appendText_cases s p text with ⟨n, t, hs⟩ | hs
  · rw [hs]
    exact h.update (fun _ => rfl) fun _ => rfl
  · rw [hs]
    exact (h.create _).append p (h.owns_create _)

theorem le_size_appendText (s : Store) (p : NodeId) (text : String) :
    s.nodes.size ≤ (s.appendText p text).nodes.size := by
  rcases appendText_cases s p text with ⟨n, t, hs⟩ | hs <;> simp [hs, size_create]

theorem Linked.insertTextBefore (h : s.Linked) (sibling : NodeId) (text : String) :
    (s.insertTextBefore sibling text).Linked := by
  rcases insertTextBefore_cases s sibling text with hs | ⟨n, t, hs⟩ | hs
  · rwa [hs]
  · rw [hs]
    exact h.update (fun _ => rfl) fun _ => rfl
  · rw [hs]
    exact (h.create _).insertBefore sibling (h.owns_create _)

theorem le_size_insertTextBefore (s : Store) (sibling : NodeId) (text : String) :
    s.nodes.size ≤ (s.insertTextBefore sibling text).nodes.size := by
  rcases insertTextBefore_cases s sibling text with hs | ⟨n, t, hs⟩ | hs <;>
    simp [hs, size_create]

/-! ## Moving all children -/

@[simp] theorem size_moveChildren (s : Store) (source target : NodeId) :
    (s.moveChildren source target).nodes.size = s.nodes.size := by
  unfold moveChildren
  rw [← Array.foldl_toList]
  refine List.foldlRecOn (motive := fun s' : Store => s'.nodes.size = s.nodes.size) _ _ rfl ?_
  intro s' hs n _
  rw [size_append, hs]

/-- A child is not the document node and may be put anywhere. -/
theorem Linked.moveChildren (h : s.Linked) (source target : NodeId) :
    (s.moveChildren source target).Linked := by
  unfold Store.moveChildren
  rw [← Array.foldl_toList]
  refine (List.foldlRecOn (motive := fun s' : Store => s'.Linked ∧ s'.nodes.size = s.nodes.size) _ _
    ⟨h, rfl⟩ ?_).1
  intro s' hs n hn
  have ho : s.Owns n := h.owns_of_parent? (h.parent?_of_mem _ n (Array.mem_toList_iff.1 hn))
  have ho' : s'.Owns n := ho.mono (Nat.le_of_eq hs.2.symm)
  exact ⟨hs.1.append target ho', (size_append s' target n).trans hs.2⟩

/-! ## Trees -/

@[simp] theorem serial_tree (s : Store) (k : Nat) (n : NodeId) : (s.tree k n).serial = n := by
  cases k <;> rfl

/-- All trees: the document's and those of the other nodes without a parent. -/
def allTrees (s : Store) : List Tree := s.trees.1 :: s.trees.2

theorem mem_allTrees {t : Tree} (ht : t ∈ s.allTrees) : t = s.tree s.nodes.size t.serial ∧
    (t.serial = documentId ∨ s.parent? t.serial = none ∧ t.serial < s.nodes.size) := by
  rcases List.mem_cons.1 ht with rfl | ht
  · simp [trees]
  · obtain ⟨n, hmem, rfl⟩ := List.mem_map.1 ht
    obtain ⟨hlt, hn⟩ := List.mem_filter.1 hmem
    have hn := of_decide_eq_true hn
    rw [serial_tree]
    exact ⟨rfl, .inr ⟨Option.isNone_iff_eq_none.1 hn.2, List.mem_range.1 hlt⟩⟩

theorem nodup_serial_allTrees (s : Store) : (s.allTrees.map Tree.serial).Nodup := by
  simp only [allTrees, trees, List.map_cons, List.map_map, serial_tree, List.nodup_cons]
  have hid : (Tree.serial ∘ s.tree s.nodes.size) = id := funext fun n => serial_tree s _ n
  rw [hid, List.map_id]
  constructor
  · simp
  · exact List.nodup_range.filter _

section

variable {p q : Place}

/-- In the trees a place has the parent that the store says, and as many levels below it as are
left. -/
theorem Linked.parent?_serial (h : s.Linked) (hp : p.In s.allTrees) :
    s.parent? p.serial = p.parent?.map Place.serial ∧
      p.tree = s.tree (s.nodes.size - p.ancestors.length) p.serial := by
  induction p with
  | root i t =>
    obtain ⟨ht, hn⟩ := mem_allTrees (List.mem_of_getElem? hp)
    refine ⟨?_, ht⟩
    rcases hn with hn | hn
    · exact (congrArg s.parent? hn).trans h.parent?_documentId
    · exact hn.1
  | child p before t after ih =>
    have hmem : t ∈ p.tree.children := by
      rw [hp.2]
      exact List.mem_append_right _ List.mem_cons_self
    rw [(ih hp.1).2] at hmem
    rw [Place.ancestors, List.length_cons, ← Nat.sub_sub]
    cases hk : s.nodes.size - p.ancestors.length with
    | zero =>
      rw [hk] at hmem
      cases hmem
    | succ k =>
      rw [hk] at hmem
      obtain ⟨n, hn, rfl⟩ := List.mem_map.1 hmem
      have hs : (Place.child p before (s.tree k n) after).serial = n := serial_tree s k n
      rw [hs]
      exact ⟨h.parent?_of_mem _ n (Array.mem_toList_iff.1 hn), rfl⟩

theorem Linked.nodup_serial_children (h : s.Linked) (hp : p.In s.allTrees) :
    (p.tree.children.map Tree.serial).Nodup := by
  rw [(h.parent?_serial hp).2]
  cases s.nodes.size - p.ancestors.length with
  | zero => exact .nil
  | succ k =>
    have hid : Tree.serial ∘ s.tree k = id := funext fun n => serial_tree s k n
    simp only [tree, Tree.children, List.map_map, hid, List.map_id]
    exact h.nodup_children _

/-- In a list without repetitions a node's place is known from its number. -/
theorem position_of_serial {serials : List Nat} (hs : serials.Nodup) {i j : Nat}
    (hi : serials[i]? = some n) (hj : serials[j]? = some n) : i = j :=
  (List.getElem?_inj (List.getElem?_eq_some_iff.1 hi).1 hs).1 (hi.trans hj.symm)

theorem Linked.parent?_congr (h : s.Linked) (hp : p.In s.allTrees) (hq : q.In s.allTrees)
    (hpq : p.serial = q.serial) : p.parent?.map Place.serial = q.parent?.map Place.serial := by
  rw [← (h.parent?_serial hp).1, ← (h.parent?_serial hq).1, hpq]

/-- No node is at two places. -/
theorem Linked.eq_of_serial (h : s.Linked) (hp : p.In s.allTrees) (hq : q.In s.allTrees)
    (hpq : p.serial = q.serial) : p = q := by
  refine hp.eq_of_address hq ?_
  have hparent := h.parent?_congr hp hq hpq
  -- up from both places at once: the parents are one place, and in its list of children the
  -- number stands once
  induction p generalizing q with
  | root i t =>
    cases q with
    | child q before' u after' => cases hparent
    | root j u =>
      have hi : (s.allTrees.map Tree.serial)[i]? = some t.serial := by
        rw [List.getElem?_map, show s.allTrees[i]? = some t from hp, Option.map_some]
      have hj : (s.allTrees.map Tree.serial)[j]? = some t.serial := by
        rw [List.getElem?_map, show s.allTrees[j]? = some u from hq, Option.map_some]
        exact congrArg some hpq.symm
      rw [Place.address, Place.address, position_of_serial s.nodup_serial_allTrees hi hj]
  | child p before t after ih =>
    cases q with
    | root j u => cases hparent
    | child q before' u after' =>
      have hserial : p.serial = q.serial := Option.some.inj hparent
      have haddress := ih hp.1 hq.1 hserial (h.parent?_congr hp.1 hq.1 hserial)
      obtain rfl := hp.1.eq_of_address hq.1 haddress
      have hi : (p.tree.children.map Tree.serial)[before.length]? = some t.serial := by
        simp [hp.2]
      have hj : (p.tree.children.map Tree.serial)[before'.length]? = some t.serial := by
        rw [show t.serial = u.serial from hpq]
        simp [hq.2]
      rw [Place.address, Place.address, position_of_serial (h.nodup_serial_children hp.1) hi hj]

/-! ## Nothing is cut off -/

theorem Linked.serial_lt (h : s.Linked) (hp : p.In s.allTrees) : p.serial < s.nodes.size := by
  cases p with
  | root i t =>
    rcases (mem_allTrees (List.mem_of_getElem? hp)).2 with hn | hn
    · rw [Place.serial, Place.tree, hn]
      exact h.documentId_lt
    · exact hn.2
  | child p before t after => exact lt_of_parent? (h.parent?_serial hp).1

/-- On the way up from a place no node is met twice. -/
theorem Linked.nodup_serial_ancestors (h : s.Linked) (hp : p.In s.allTrees) :
    ((p :: p.ancestors).map Place.serial).Nodup := by
  refine List.Nodup.map_on (fun q hq r hr => ?_) p.nodup_ancestors
  exact h.eq_of_serial (hp.of_mem_ancestors hq) (hp.of_mem_ancestors hr)

theorem Linked.length_ancestors_lt (h : s.Linked) (hp : p.In s.allTrees) :
    p.ancestors.length < s.nodes.size := by
  have hsub : (p :: p.ancestors).map Place.serial ⊆ List.range s.nodes.size := by
    intro n hn
    obtain ⟨q, hq, rfl⟩ := List.mem_map.1 hn
    exact List.mem_range.2 (h.serial_lt (hp.of_mem_ancestors hq))
  have hle := (List.subperm_of_subset (h.nodup_serial_ancestors hp) hsub).length_le
  rw [List.length_map, List.length_cons, List.length_range] at hle
  exact hle

/-- A place has all the children that the store says. -/
theorem Linked.serial_children (h : s.Linked) (hp : p.In s.allTrees) :
    p.tree.children.map Tree.serial = (s.children p.serial).toList := by
  obtain ⟨k, hk⟩ := Nat.exists_eq_add_one_of_ne_zero
    (Nat.sub_ne_zero_of_lt (h.length_ancestors_lt hp))
  have hid : Tree.serial ∘ s.tree k = id := funext fun n => serial_tree s k n
  rw [(h.parent?_serial hp).2, hk, tree, Tree.children, List.map_map, hid, List.map_id]

end

end Store
end WebExtract.Dom
