import Mathlib
import WebExtract.Html.Formatting
import WebExtract.Proofs.Dom.Links

/-!
# The tree under construction

What a page does to the tree is made of a few actions: creating a node, inserting it, opening and
closing elements, splitting formatting elements. Each of them leaves the links between the nodes in
order (`Builder.Sound`), and puts nothing into the tree but what has been created for it.

A node that an action gives has to be there when a later action puts it somewhere, so that the
actions that come in between are said to keep it: `Builder.Holds l` is `Sound` together with the
nodes `l`.
-/
namespace WebExtract.Html

open Std.Do
open WebExtract.Dom

set_option mvcgen.warning false

/-- The links of the nodes agree, and the elements that the rules put nodes into or open again are
nodes of the tree other than the document node. -/
structure Intact (s : Store) (stack : List NodeId) (head : Option NodeId) : Prop where
  linked : s.Linked
  owns_stack : ∀ n ∈ stack, s.Owns n
  owns_head : ∀ n ∈ head, s.Owns n

/-- The rest of the state does not matter; as an abbreviation this shows that changes of the rest
keep it. -/
abbrev Builder.Sound (b : Builder) : Prop := Intact b.store b.stack b.head

theorem Intact.withStore {s s' : Store} {stack : List NodeId} {head : Option NodeId}
    (h : Intact s stack head) (hl : s'.Linked) (hs : s.nodes.size ≤ s'.nodes.size) :
    Intact s' stack head where
  linked := hl
  owns_stack n hn := (h.owns_stack n hn).mono hs
  owns_head n hn := (h.owns_head n hn).mono hs

theorem Intact.withStack {s : Store} {stack stack' : List NodeId} {head : Option NodeId}
    (h : Intact s stack head) (hs : stack' ⊆ stack) : Intact s stack' head where
  linked := h.linked
  owns_stack n hn := h.owns_stack n (hs hn)
  owns_head := h.owns_head

/-- The state is sound and the nodes given are nodes of the tree too. -/
def Builder.Holds (l : List NodeId) (b : Builder) : Prop := b.Sound ∧ ∀ n ∈ l, b.store.Owns n

namespace Builder

variable {b : Builder} {l l' : List NodeId}

theorem Sound.holds_nil (h : b.Sound) : b.Holds [] := ⟨h, by simp⟩

theorem Holds.mono (h : b.Holds l) (hl : l' ⊆ l) : b.Holds l' :=
  ⟨h.1, fun n hn => h.2 n (hl hn)⟩

theorem Holds.withStore (h : b.Holds l) {s : Store} (hl : s.Linked)
    (hs : b.store.nodes.size ≤ s.nodes.size) : { b with store := s }.Holds l :=
  ⟨h.1.withStore hl hs, fun n hn => (h.2 n hn).mono hs⟩

/-- A node that the state has may become the head. -/
theorem Holds.withHead {n : NodeId} (h : b.Holds [n]) : { b with head := some n }.Sound where
  linked := h.1.linked
  owns_stack := h.1.owns_stack
  owns_head m hm := by
    cases hm
    exact h.2 n List.mem_cons_self

end Builder

namespace Build

open Builder

/-- An action does not fail, so that a triple speaks of the one state that it leads to. -/
theorem triple_iff {α : Type} {x : Build α} {P : Builder → Prop} {Q : α → Builder → Prop} :
    ⦃fun b => ⌜P b⌝⦄ x ⦃⇓ a b => ⌜Q a b⌝⦄ ↔ ∀ b, P b → Q (x b).1 (x b).2 := by
  rfl

@[spec]
theorem setMode_sound (m : Mode) : ⦃fun b => ⌜b.Sound⌝⦄ setMode m ⦃⇓ _ b => ⌜b.Sound⌝⦄ :=
  triple_iff.2 fun _ h => h

@[spec]
theorem forbidFrameset_sound : ⦃fun b => ⌜b.Sound⌝⦄ forbidFrameset ⦃⇓ _ b => ⌜b.Sound⌝⦄ :=
  triple_iff.2 fun _ h => h

@[spec]
theorem pushMarker_sound : ⦃fun b => ⌜b.Sound⌝⦄ pushMarker ⦃⇓ _ b => ⌜b.Sound⌝⦄ :=
  triple_iff.2 fun _ h => h

@[spec]
theorem resetMode_sound : ⦃fun b => ⌜b.Sound⌝⦄ resetMode ⦃⇓ _ b => ⌜b.Sound⌝⦄ :=
  triple_iff.2 fun _ h => h

/-! ## Closing elements -/

theorem drop_dropWhile_subset (k : Nat) (p : NodeId → Bool) (ns : List NodeId) :
    (ns.dropWhile p).drop k ⊆ ns :=
  ((List.drop_sublist k _).trans (List.dropWhile_sublist p)).subset

@[spec]
theorem pop_sound : ⦃fun b => ⌜b.Sound⌝⦄ pop ⦃⇓ _ b => ⌜b.Sound⌝⦄ :=
  triple_iff.2 fun _ h => h.withStack (List.tail_sublist _).subset

@[spec]
theorem removeFromStack_sound (n : NodeId) :
    ⦃fun b => ⌜b.Sound⌝⦄ removeFromStack n ⦃⇓ _ b => ⌜b.Sound⌝⦄ :=
  triple_iff.2 fun _ h => h.withStack List.erase_subset

@[spec]
theorem popWhile_sound (p : Builder → NodeId → Bool) :
    ⦃fun b => ⌜b.Sound⌝⦄ popWhile p ⦃⇓ _ b => ⌜b.Sound⌝⦄ :=
  triple_iff.2 fun _ h => h.withStack (List.dropWhile_sublist _).subset

@[spec]
theorem popThrough_sound (p : Builder → NodeId → Bool) :
    ⦃fun b => ⌜b.Sound⌝⦄ popThrough p ⦃⇓ _ b => ⌜b.Sound⌝⦄ :=
  triple_iff.2 fun _ h => h.withStack (drop_dropWhile_subset _ _ _)

@[spec]
theorem popThroughNamed_sound (name : String) :
    ⦃fun b => ⌜b.Sound⌝⦄ popThroughNamed name ⦃⇓ _ b => ⌜b.Sound⌝⦄ :=
  popThrough_sound _

@[spec]
theorem popToAmong_sound (names : List String) :
    ⦃fun b => ⌜b.Sound⌝⦄ popToAmong names ⦃⇓ _ b => ⌜b.Sound⌝⦄ :=
  popWhile_sound _

@[spec]
theorem closeImplied_sound : ⦃fun b => ⌜b.Sound⌝⦄ closeImplied ⦃⇓ _ b => ⌜b.Sound⌝⦄ :=
  popWhile_sound _

@[spec]
theorem closeImpliedExcept_sound (name : String) :
    ⦃fun b => ⌜b.Sound⌝⦄ closeImpliedExcept name ⦃⇓ _ b => ⌜b.Sound⌝⦄ :=
  popWhile_sound _

@[spec]
theorem closeParagraph_sound : ⦃fun b => ⌜b.Sound⌝⦄ closeParagraph ⦃⇓ _ b => ⌜b.Sound⌝⦄ := by
  mvcgen [closeParagraph]

@[spec]
theorem closeParagraphInScope_sound :
    ⦃fun b => ⌜b.Sound⌝⦄ closeParagraphInScope ⦃⇓ _ b => ⌜b.Sound⌝⦄ := by
  mvcgen [closeParagraphInScope]

/-! ## Inserting nodes -/

@[spec]
theorem push_holds (n : NodeId) :
    ⦃fun b => ⌜b.Holds [n]⌝⦄ push n ⦃⇓ _ b => ⌜b.Holds [n]⌝⦄ := by
  refine triple_iff.2 fun b h => ⟨⟨h.1.linked, fun m hm => ?_, h.1.owns_head⟩, h.2⟩
  rcases List.mem_cons.1 hm with rfl | hm
  · exact h.2 m List.mem_cons_self
  · exact h.1.owns_stack m hm

theorem create_holds (l : List NodeId) (c : Content) :
    ⦃fun b => ⌜b.Holds l⌝⦄ create c ⦃⇓ n b => ⌜b.Holds (n :: l)⌝⦄ := by
  refine triple_iff.2 fun b h => ?_
  have hs : b.store.nodes.size ≤ (b.store.create c).2.nodes.size := by simp [Store.size_create]
  have hc := h.withStore (h.1.linked.create c) hs
  exact ⟨hc.1, List.forall_mem_cons.2 ⟨h.1.linked.owns_create c, hc.2⟩⟩

theorem createElement_holds (l : List NodeId) (v : Vocabulary) (name : String)
    (attributes : List Attribute) :
    ⦃fun b => ⌜b.Holds l⌝⦄ createElement v name attributes ⦃⇓ n b => ⌜b.Holds (n :: l)⌝⦄ := by
  have hfragment n := create_holds (n :: l) .fragment
  refine Triple.bind _ _ (create_holds l _) fun n => ?_
  mvcgen [hfragment]
  next b hb _ =>
    have hf := hb.2 _ List.mem_cons_self
    exact (hb.withStore (hb.1.linked.append n hf) (by simp)).mono (List.subset_cons_self _ _)

theorem insertNodeAt_holds (l : List NodeId) (spot : Spot) (n : NodeId) (hn : n ∈ l) :
    ⦃fun b => ⌜b.Holds l⌝⦄ insertNodeAt spot n ⦃⇓ _ b => ⌜b.Holds l⌝⦄ := by
  refine triple_iff.2 fun b h => ?_
  have ho := h.2 n hn
  cases spot with
  | lastIn p => exact h.withStore (h.1.linked.append p ho) (by simp)
  | beforeTable table holder =>
    change Builder.Holds l { b with store := if _ then _ else _ }
    split
    · exact h.withStore (h.1.linked.insertBefore table ho) (by simp)
    · exact h.withStore (h.1.linked.append holder ho) (by simp)

@[spec]
theorem appendText_sound (text : String) :
    ⦃fun b => ⌜b.Sound⌝⦄ appendText text ⦃⇓ _ b => ⌜b.Sound⌝⦄ := by
  mvcgen [appendText]
  next b hb newState =>
    unfold newState
    dsimp only
    split
    · next p _ =>
      exact hb.withStore (hb.linked.appendText p text) (b.store.le_size_appendText p text)
    · next table holder _ =>
      split
      · exact hb.withStore (hb.linked.insertTextBefore table text)
          (b.store.le_size_insertTextBefore table text)
      · exact hb.withStore (hb.linked.appendText holder text)
          (b.store.le_size_appendText holder text)

theorem insertClosed_holds (v : Vocabulary) (name : String) (attributes : List Attribute) :
    ⦃fun b => ⌜b.Sound⌝⦄ insertClosed v name attributes ⦃⇓ n b => ⌜b.Holds [n]⌝⦄ := by
  have hc := createElement_holds [] v name attributes
  have hi spot n := insertNodeAt_holds [n] spot n List.mem_cons_self
  mvcgen [insertClosed, hc, hi]
  next b hb => exact hb.holds_nil

theorem insertOpen_holds (v : Vocabulary) (name : String) (attributes : List Attribute) :
    ⦃fun b => ⌜b.Sound⌝⦄ insertOpen v name attributes ⦃⇓ n b => ⌜b.Holds [n]⌝⦄ := by
  mvcgen [insertOpen, insertClosed_holds, push_holds]

/-- What an action gives is often not used again. -/
theorem sound_of_holds {α : Type} {x : Build α} {l : α → List NodeId}
    (h : ⦃fun b => ⌜b.Sound⌝⦄ x ⦃⇓ a b => ⌜b.Holds (l a)⌝⦄) :
    ⦃fun b => ⌜b.Sound⌝⦄ x ⦃⇓ _ b => ⌜b.Sound⌝⦄ :=
  triple_iff.2 fun b hb => (triple_iff.1 h b hb).1

@[spec]
theorem insertClosed_sound (v : Vocabulary) (name : String) (attributes : List Attribute) :
    ⦃fun b => ⌜b.Sound⌝⦄ insertClosed v name attributes ⦃⇓ _ b => ⌜b.Sound⌝⦄ :=
  sound_of_holds (insertClosed_holds v name attributes)

@[spec]
theorem insertOpen_sound (v : Vocabulary) (name : String) (attributes : List Attribute) :
    ⦃fun b => ⌜b.Sound⌝⦄ insertOpen v name attributes ⦃⇓ _ b => ⌜b.Sound⌝⦄ :=
  sound_of_holds (insertOpen_holds v name attributes)

theorem insertTag_holds (t : Tag) :
    ⦃fun b => ⌜b.Sound⌝⦄ insertTag t ⦃⇓ n b => ⌜b.Holds [n]⌝⦄ :=
  insertOpen_holds _ _ _

@[spec]
theorem insertTag_sound (t : Tag) : ⦃fun b => ⌜b.Sound⌝⦄ insertTag t ⦃⇓ _ b => ⌜b.Sound⌝⦄ :=
  sound_of_holds (insertTag_holds t)

@[spec]
theorem insertVoid_sound (t : Tag) : ⦃fun b => ⌜b.Sound⌝⦄ insertVoid t ⦃⇓ _ b => ⌜b.Sound⌝⦄ := by
  mvcgen [insertVoid]

theorem insertImplied_holds (name : String) :
    ⦃fun b => ⌜b.Sound⌝⦄ insertImplied name ⦃⇓ n b => ⌜b.Holds [n]⌝⦄ :=
  insertOpen_holds _ _ _

@[spec]
theorem insertImplied_sound (name : String) :
    ⦃fun b => ⌜b.Sound⌝⦄ insertImplied name ⦃⇓ _ b => ⌜b.Sound⌝⦄ :=
  sound_of_holds (insertImplied_holds name)

@[spec]
theorem appendCommentTo_sound (parent : NodeId) (text : String) :
    ⦃fun b => ⌜b.Sound⌝⦄ appendCommentTo parent text ⦃⇓ _ b => ⌜b.Sound⌝⦄ := by
  have hc := create_holds [] (.comment text)
  mvcgen [appendCommentTo, hc]
  · next b hb => exact hb.holds_nil
  · next n b hb _ =>
    have ho := hb.2 n List.mem_cons_self
    exact (hb.withStore (hb.1.linked.append parent ho) (by simp)).1

@[spec]
theorem appendComment_sound (text : String) :
    ⦃fun b => ⌜b.Sound⌝⦄ appendComment text ⦃⇓ _ b => ⌜b.Sound⌝⦄ := by
  have hc := create_holds [] (.comment text)
  have hi spot n := insertNodeAt_holds [n] spot n List.mem_cons_self
  mvcgen [appendComment, hc, hi]
  · next b hb => exact hb.holds_nil
  · exact fun hb => hb.1

@[spec]
theorem addAttributes_sound (n : NodeId) (t : Tag) :
    ⦃fun b => ⌜b.Sound⌝⦄ addAttributes n t ⦃⇓ _ b => ⌜b.Sound⌝⦄ := by
  mvcgen [addAttributes]
  next b hb newState =>
    unfold newState
    dsimp only
    split
    · exact hb
    · exact hb.withStore (hb.linked.update (fun _ => rfl) fun _ => rfl) (by simp)

@[spec]
theorem insertText_sound (t : Tag) (reading : Reading) :
    ⦃fun b => ⌜b.Sound⌝⦄ insertText t reading ⦃⇓ _ b => ⌜b.Sound⌝⦄ := by
  mvcgen [insertText]

/-! ## Formatting elements -/

@[spec]
theorem clearFormatting_sound : ⦃fun b => ⌜b.Sound⌝⦄ clearFormatting ⦃⇓ _ b => ⌜b.Sound⌝⦄ :=
  triple_iff.2 fun _ h => h

@[spec]
theorem reopen_sound (fs : List Formatting) :
    ⦃fun b => ⌜b.Sound⌝⦄ reopen fs ⦃⇓ _ b => ⌜b.Sound⌝⦄ := by
  induction fs with
  | nil => mvcgen [reopen]
  | cons f fs ih =>
    cases f with
    | marker => exact ih
    | element n t =>
      mvcgen [reopen, ih]

@[spec]
theorem reconstruct_sound : ⦃fun b => ⌜b.Sound⌝⦄ reconstruct ⦃⇓ _ b => ⌜b.Sound⌝⦄ := by
  mvcgen [reconstruct]

@[spec]
theorem insertFormatting_sound (t : Tag) :
    ⦃fun b => ⌜b.Sound⌝⦄ insertFormatting t ⦃⇓ _ b => ⌜b.Sound⌝⦄ := by
  mvcgen [insertFormatting]
  next b hb newState =>
    unfold newState
    dsimp only
    split
    · exact hb
    · exact hb

@[spec]
theorem closeByName_sound (name : String) :
    ⦃fun b => ⌜b.Sound⌝⦄ closeByName name ⦃⇓ _ b => ⌜b.Sound⌝⦄ := by
  mvcgen [closeByName]
  next hb _ => exact hb.withStack (drop_dropWhile_subset _ _ _)

/-- The nodes `l` are open elements that the split does not look at and that are opened again after
it. -/
theorem splitBetween_holds (l : List NodeId) (block : NodeId) (s : Split) (count : Nat)
    (ns : List NodeId) :
    ⦃fun b => ⌜b.Holds (s.last :: s.passed ++ l)⌝⦄ splitBetween block s count ns
    ⦃⇓ r b => ⌜b.Holds (r.last :: r.passed ++ l)⌝⦄ := by
  induction ns generalizing s count with
  | nil => mvcgen [splitBetween]
  | cons n ns ih =>
    have hc name attributes := createElement_holds (s.last :: s.passed ++ l) .html name attributes
    mvcgen [splitBetween, ih, hc]
    -- the new element `m` takes in what was split last and is the last one now
    next m b hb _ _ =>
      have hlast := hb.2 s.last (by simp)
      have hb := hb.withStore (hb.1.linked.append m hlast) (by simp)
      exact ⟨hb.1, fun n hn => hb.2 n (by grind)⟩

theorem splitAt_sound (n : NodeId) (t : Tag) (inner : List NodeId) (block : NodeId)
    (between outer : List NodeId) :
    ⦃fun b => ⌜b.Holds (block :: inner ++ outer)⌝⦄ splitAt n t inner block between outer
    ⦃⇓ _ b => ⌜b.Sound⌝⦄ := by
  have hs : ⦃fun b => ⌜b.Holds (block :: inner ++ outer)⌝⦄
      splitBetween block ⟨block, [], none⟩ 0 between
      ⦃⇓ r b => ⌜b.Holds (r.last :: r.passed ++ (block :: inner ++ outer))⌝⦄ := by
    refine triple_iff.2 fun b hb => ?_
    exact triple_iff.1 (splitBetween_holds _ _ _ _ _) b (hb.mono (by simp))
  refine Triple.bind _ _ hs fun r => ?_
  have hi spot := insertNodeAt_holds (r.last :: r.passed ++ (block :: inner ++ outer)) spot r.last
    List.mem_cons_self
  have hc name attributes :=
    createElement_holds (r.last :: r.passed ++ (block :: inner ++ outer)) .html name attributes
  -- what was split comes out of its parent, goes to its new place, and the block's content into `m`
  mvcgen [hi, hc]
  · next hb _ => exact hb.withStore (hb.1.linked.detach r.last) (by simp)
  · next m b hb _ =>
    have hb := hb.withStore (hb.1.linked.moveChildren block m) (by simp)
    have hb := hb.withStore (hb.1.linked.append block (hb.2 m List.mem_cons_self)) (by simp)
    exact ⟨hb.1.linked, fun n hn => hb.2 n (by grind), hb.1.owns_head⟩

@[spec]
theorem closeFormattingRounds_sound (name : String) (rounds : Nat) :
    ⦃fun b => ⌜b.Sound⌝⦄ closeFormattingRounds name rounds ⦃⇓ _ b => ⌜b.Sound⌝⦄ := by
  induction rounds with
  | zero => mvcgen [closeFormattingRounds]
  | succ rounds ih =>
    mvcgen [closeFormattingRounds, splitAt_sound, ih]
    · next hb _ _ _ _ _ _ _ _ _ => exact hb.withStack (drop_dropWhile_subset _ _ _)
    · next b hb n _ _ _ _ inside outer block hblock inner between =>
      have hinside : inside ⊆ b.stack := (List.takeWhile_sublist _).subset
      have hinner : inner ⊆ inside := (List.takeWhile_sublist _).subset
      have houter : outer ⊆ b.stack := drop_dropWhile_subset _ _ _
      have hmem : block ∈ inside := List.mem_reverse.1 (List.mem_of_find?_eq_some hblock)
      refine ⟨hb, fun m hm => hb.owns_stack m ?_⟩
      grind

@[spec]
theorem closeFormatting_sound (name : String) :
    ⦃fun b => ⌜b.Sound⌝⦄ closeFormatting name ⦃⇓ _ b => ⌜b.Sound⌝⦄ := by
  mvcgen [closeFormatting]

@[spec]
theorem closeOpenLink_sound : ⦃fun b => ⌜b.Sound⌝⦄ closeOpenLink ⦃⇓ _ b => ⌜b.Sound⌝⦄ := by
  mvcgen [closeOpenLink]
  next hb _ => exact hb.withStack List.erase_subset

end Build
end WebExtract.Html
