import Mathlib
import WebExtract.Html.Page
import WebExtract.Proofs.Html.Builder

/-!
# The rules keep the tree in order

Every rule is made of the actions of `Proofs.Html.Builder`, so that whatever a page holds, the
links between the nodes are in order after each token (`Build.step_sound`), and at the end.

**Results.**
* `Rules.inMode_sound`, `Rules.foreign_sound`: what a rule preserves, for all tokens.
* `Build.receive_sound`: what a token preserves, however many rules take part in it.
* `sound_build`: the state after a page.
-/
namespace WebExtract.Html

open Std.Do
open WebExtract.Dom

set_option mvcgen.warning false

namespace Rules

open Builder Build

@[spec]
theorem again_sound (m : Mode) (t : Token) :
    ⦃fun b => ⌜b.Sound⌝⦄ again m t ⦃⇓ _ b => ⌜b.Sound⌝⦄ := by
  mvcgen [again]

/-! ## Head and templates -/

@[spec]
theorem mergeHtml_sound (t : Tag) :
    ⦃fun b => ⌜b.Sound⌝⦄ mergeHtml t ⦃⇓ _ b => ⌜b.Sound⌝⦄ := by
  mvcgen [mergeHtml]

@[spec]
theorem openTemplate_sound (t : Tag) :
    ⦃fun b => ⌜b.Sound⌝⦄ openTemplate t ⦃⇓ _ b => ⌜b.Sound⌝⦄ := by
  mvcgen [openTemplate]

@[spec]
theorem closeTemplate_sound :
    ⦃fun b => ⌜b.Sound⌝⦄ closeTemplate ⦃⇓ _ b => ⌜b.Sound⌝⦄ := by
  mvcgen [closeTemplate]

@[spec]
theorem endInTemplate_sound :
    ⦃fun b => ⌜b.Sound⌝⦄ endInTemplate ⦃⇓ _ b => ⌜b.Sound⌝⦄ := by
  mvcgen [endInTemplate]

@[spec]
theorem replaceTemplateMode_sound (m : Mode) (t : Token) :
    ⦃fun b => ⌜b.Sound⌝⦄ replaceTemplateMode m t ⦃⇓ _ b => ⌜b.Sound⌝⦄ := by
  mvcgen [replaceTemplateMode]

@[spec]
theorem leaveHead_sound (t : Token) :
    ⦃fun b => ⌜b.Sound⌝⦄ leaveHead t ⦃⇓ _ b => ⌜b.Sound⌝⦄ := by
  mvcgen [leaveHead]

@[spec]
theorem inHead_sound (t : Token) :
    ⦃fun b => ⌜b.Sound⌝⦄ inHead t ⦃⇓ _ b => ⌜b.Sound⌝⦄ := by
  mvcgen [inHead]

/-! ## Body -/

@[spec]
theorem closeItem_sound (names : List String) :
    ⦃fun b => ⌜b.Sound⌝⦄ closeItem names ⦃⇓ _ b => ⌜b.Sound⌝⦄ := by
  mvcgen [closeItem]

@[spec]
theorem openFrameset_sound (t : Tag) :
    ⦃fun b => ⌜b.Sound⌝⦄ openFrameset t ⦃⇓ _ b => ⌜b.Sound⌝⦄ := by
  mvcgen [openFrameset]
  next b hb _ root _ _ =>
    exact (hb.withStore (hb.linked.detach root) (by simp)).withStack (List.drop_sublist _ _).subset

@[spec]
theorem openForeign_sound (v : Vocabulary) (name : String) (t : Tag) :
    ⦃fun b => ⌜b.Sound⌝⦄ openForeign v name t ⦃⇓ _ b => ⌜b.Sound⌝⦄ := by
  mvcgen [openForeign]

@[spec]
theorem openBlock_sound (t : Tag) :
    ⦃fun b => ⌜b.Sound⌝⦄ openBlock t ⦃⇓ _ b => ⌜b.Sound⌝⦄ := by
  mvcgen [openBlock]

@[spec]
theorem openForm_sound (t : Tag) :
    ⦃fun b => ⌜b.Sound⌝⦄ openForm t ⦃⇓ _ b => ⌜b.Sound⌝⦄ := by
  mvcgen [openForm]

@[spec]
theorem openButton_sound (t : Tag) :
    ⦃fun b => ⌜b.Sound⌝⦄ openButton t ⦃⇓ _ b => ⌜b.Sound⌝⦄ := by
  mvcgen [openButton]

@[spec]
theorem openSelect_sound (t : Tag) :
    ⦃fun b => ⌜b.Sound⌝⦄ openSelect t ⦃⇓ _ b => ⌜b.Sound⌝⦄ := by
  mvcgen [openSelect]

@[spec]
theorem openRuby_sound (keep : Option String) (t : Tag) :
    ⦃fun b => ⌜b.Sound⌝⦄ openRuby keep t ⦃⇓ _ b => ⌜b.Sound⌝⦄ := by
  mvcgen [openRuby]

@[spec]
theorem openNobr_sound (t : Tag) :
    ⦃fun b => ⌜b.Sound⌝⦄ openNobr t ⦃⇓ _ b => ⌜b.Sound⌝⦄ := by
  mvcgen [openNobr]

@[spec]
theorem insertVoidInText_sound (t : Tag) :
    ⦃fun b => ⌜b.Sound⌝⦄ insertVoidInText t ⦃⇓ _ b => ⌜b.Sound⌝⦄ := by
  mvcgen [insertVoidInText]

@[spec]
theorem startInBody_sound (t : Tag) :
    ⦃fun b => ⌜b.Sound⌝⦄ startInBody t ⦃⇓ _ b => ⌜b.Sound⌝⦄ := by
  mvcgen [startInBody]

@[spec]
theorem closeForm_sound :
    ⦃fun b => ⌜b.Sound⌝⦄ closeForm ⦃⇓ _ b => ⌜b.Sound⌝⦄ := by
  mvcgen [closeForm]

@[spec]
theorem endInBody_sound (t : Tag) :
    ⦃fun b => ⌜b.Sound⌝⦄ endInBody t ⦃⇓ _ b => ⌜b.Sound⌝⦄ := by
  mvcgen [endInBody]

@[spec]
theorem inBody_sound (t : Token) :
    ⦃fun b => ⌜b.Sound⌝⦄ inBody t ⦃⇓ _ b => ⌜b.Sound⌝⦄ := by
  mvcgen [inBody]

/-! ## Tables -/

@[spec]
theorem foster_sound (t : Token) :
    ⦃fun b => ⌜b.Sound⌝⦄ foster t ⦃⇓ _ b => ⌜b.Sound⌝⦄ := by
  mvcgen [foster]

@[spec]
theorem charactersInTable_sound (t : Token) :
    ⦃fun b => ⌜b.Sound⌝⦄ charactersInTable t ⦃⇓ _ b => ⌜b.Sound⌝⦄ := by
  mvcgen [charactersInTable]

@[spec]
theorem inTable_sound (t : Token) :
    ⦃fun b => ⌜b.Sound⌝⦄ inTable t ⦃⇓ _ b => ⌜b.Sound⌝⦄ := by
  mvcgen [inTable]

/-- What handling one token preserves, a run of tokens preserves. -/
theorem forIn_sound (l : List Token) (f : Token → PUnit → Build (ForInStep PUnit))
    (hf : ∀ t, ⦃fun b => ⌜b.Sound⌝⦄ f t ⟨⟩ ⦃⇓ _ b => ⌜b.Sound⌝⦄) :
    ⦃fun b => ⌜b.Sound⌝⦄ forIn l ⟨⟩ f ⦃⇓ _ b => ⌜b.Sound⌝⦄ := by
  induction l with
  | nil => exact triple_iff.2 fun b h => h
  | cons t l ih =>
    rw [List.forIn_cons]
    refine Triple.bind _ _ (hf t) fun r => ?_
    cases r with
    | done => exact triple_iff.2 fun b h => h
    | yield => exact ih

@[spec]
theorem insertTableText_sound (run : List Token) :
    ⦃fun b => ⌜b.Sound⌝⦄ insertTableText run ⦃⇓ _ b => ⌜b.Sound⌝⦄ := by
  -- the general rule for loops would ask for an invariant of the tokens handled so far
  mvcgen [insertTableText, forIn_sound, -Spec.forIn_list]

@[spec]
theorem inTableText_sound (found : List Token) (t : Token) :
    ⦃fun b => ⌜b.Sound⌝⦄ inTableText found t ⦃⇓ _ b => ⌜b.Sound⌝⦄ := by
  mvcgen [inTableText]

@[spec]
theorem inCaption_sound (t : Token) :
    ⦃fun b => ⌜b.Sound⌝⦄ inCaption t ⦃⇓ _ b => ⌜b.Sound⌝⦄ := by
  mvcgen [inCaption]

@[spec]
theorem inColumnGroup_sound (t : Token) :
    ⦃fun b => ⌜b.Sound⌝⦄ inColumnGroup t ⦃⇓ _ b => ⌜b.Sound⌝⦄ := by
  mvcgen [inColumnGroup]

@[spec]
theorem inTableBody_sound (t : Token) :
    ⦃fun b => ⌜b.Sound⌝⦄ inTableBody t ⦃⇓ _ b => ⌜b.Sound⌝⦄ := by
  mvcgen [inTableBody]

@[spec]
theorem inRow_sound (t : Token) :
    ⦃fun b => ⌜b.Sound⌝⦄ inRow t ⦃⇓ _ b => ⌜b.Sound⌝⦄ := by
  mvcgen [inRow]

@[spec]
theorem inCell_sound (t : Token) :
    ⦃fun b => ⌜b.Sound⌝⦄ inCell t ⦃⇓ _ b => ⌜b.Sound⌝⦄ := by
  mvcgen [inCell]

/-! ## Select elements -/

@[spec]
theorem inSelect_sound (t : Token) :
    ⦃fun b => ⌜b.Sound⌝⦄ inSelect t ⦃⇓ _ b => ⌜b.Sound⌝⦄ := by
  mvcgen [inSelect]

@[spec]
theorem inSelectInTable_sound (t : Token) :
    ⦃fun b => ⌜b.Sound⌝⦄ inSelectInTable t ⦃⇓ _ b => ⌜b.Sound⌝⦄ := by
  mvcgen [inSelectInTable]

/-! ## The frame of the page -/

@[spec]
theorem initial_sound (t : Token) :
    ⦃fun b => ⌜b.Sound⌝⦄ initial t ⦃⇓ _ b => ⌜b.Sound⌝⦄ := by
  mvcgen [initial]

@[spec]
theorem createRoot_sound (attributes : List Attribute) :
    ⦃fun b => ⌜b.Sound⌝⦄ createRoot attributes ⦃⇓ _ b => ⌜b.Sound⌝⦄ := by
  have hc := createElement_holds [] .html "html" attributes
  mvcgen [createRoot, hc, push_holds]
  · next hb => exact hb.holds_nil
  · next n b hb _ =>
    exact hb.withStore (hb.1.linked.append _ (hb.2 n List.mem_cons_self)) (by simp)
  · exact fun hb => hb.1

@[spec]
theorem beforeHtml_sound (t : Token) :
    ⦃fun b => ⌜b.Sound⌝⦄ beforeHtml t ⦃⇓ _ b => ⌜b.Sound⌝⦄ := by
  mvcgen [beforeHtml]

@[spec]
theorem beforeHead_sound (t : Token) :
    ⦃fun b => ⌜b.Sound⌝⦄ beforeHead t ⦃⇓ _ b => ⌜b.Sound⌝⦄ := by
  mvcgen [beforeHead, insertTag_holds, insertImplied_holds, -insertTag_sound,
    -insertImplied_sound]
  all_goals next hb _ => exact hb.withHead

@[spec]
theorem afterHead_sound (t : Token) :
    ⦃fun b => ⌜b.Sound⌝⦄ afterHead t ⦃⇓ _ b => ⌜b.Sound⌝⦄ := by
  mvcgen [afterHead, push_holds]
  · next b hb head hhead =>
    refine ⟨hb, fun n hn => ?_⟩
    rw [List.mem_singleton.1 hn]
    exact hb.owns_head head hhead
  · next hb => exact hb.1

@[spec]
theorem text_sound (t : Token) :
    ⦃fun b => ⌜b.Sound⌝⦄ text t ⦃⇓ _ b => ⌜b.Sound⌝⦄ := by
  mvcgen [text]

@[spec]
theorem inTemplate_sound (t : Token) :
    ⦃fun b => ⌜b.Sound⌝⦄ inTemplate t ⦃⇓ _ b => ⌜b.Sound⌝⦄ := by
  mvcgen [inTemplate]

@[spec]
theorem afterBody_sound (t : Token) :
    ⦃fun b => ⌜b.Sound⌝⦄ afterBody t ⦃⇓ _ b => ⌜b.Sound⌝⦄ := by
  mvcgen [afterBody]

@[spec]
theorem inFrameset_sound (t : Token) :
    ⦃fun b => ⌜b.Sound⌝⦄ inFrameset t ⦃⇓ _ b => ⌜b.Sound⌝⦄ := by
  mvcgen [inFrameset]

@[spec]
theorem afterFrameset_sound (t : Token) :
    ⦃fun b => ⌜b.Sound⌝⦄ afterFrameset t ⦃⇓ _ b => ⌜b.Sound⌝⦄ := by
  mvcgen [afterFrameset]

@[spec]
theorem afterAfterBody_sound (t : Token) :
    ⦃fun b => ⌜b.Sound⌝⦄ afterAfterBody t ⦃⇓ _ b => ⌜b.Sound⌝⦄ := by
  mvcgen [afterAfterBody]

@[spec]
theorem afterAfterFrameset_sound (t : Token) :
    ⦃fun b => ⌜b.Sound⌝⦄ afterAfterFrameset t ⦃⇓ _ b => ⌜b.Sound⌝⦄ := by
  mvcgen [afterAfterFrameset]

/-! ## All rules together -/

@[spec]
theorem inMode_sound (m : Mode) (t : Token) :
    ⦃fun b => ⌜b.Sound⌝⦄ inMode m t ⦃⇓ _ b => ⌜b.Sound⌝⦄ := by
  cases m with
  | initial => exact initial_sound t
  | beforeHtml => exact beforeHtml_sound t
  | beforeHead => exact beforeHead_sound t
  | inHead => exact inHead_sound t
  | afterHead => exact afterHead_sound t
  | inBody => exact inBody_sound t
  | inTable => exact inTable_sound t
  | inCaption => exact inCaption_sound t
  | inColumnGroup => exact inColumnGroup_sound t
  | inTableBody => exact inTableBody_sound t
  | inRow => exact inRow_sound t
  | inCell => exact inCell_sound t
  | inSelect => exact inSelect_sound t
  | inSelectInTable => exact inSelectInTable_sound t
  | inTemplate => exact inTemplate_sound t
  | afterBody => exact afterBody_sound t
  | inFrameset => exact inFrameset_sound t
  | afterFrameset => exact afterFrameset_sound t
  | afterAfterBody => exact afterAfterBody_sound t
  | afterAfterFrameset => exact afterAfterFrameset_sound t

@[spec]
theorem ruleFor_sound (b : Builder) (t : Token) :
    ⦃fun b => ⌜b.Sound⌝⦄ ruleFor b t ⦃⇓ _ b => ⌜b.Sound⌝⦄ := by
  unfold ruleFor
  cases b.textRun with
  | none => exact inMode_sound b.mode t
  | inElement => exact text_sound t
  | inTable found => exact inTableText_sound found t

/-! ## Foreign content -/

@[spec]
theorem breakOut_sound (t : Token) :
    ⦃fun b => ⌜b.Sound⌝⦄ breakOut t ⦃⇓ _ b => ⌜b.Sound⌝⦄ := by
  mvcgen [breakOut]

@[spec]
theorem startInForeign_sound (t : Tag) :
    ⦃fun b => ⌜b.Sound⌝⦄ startInForeign t ⦃⇓ _ b => ⌜b.Sound⌝⦄ := by
  mvcgen [startInForeign]

/-- The elements that are looked at are open ones, or were when the search began. -/
theorem endInForeign_sound (t : Tag) (first : Bool) (ns : List NodeId) :
    ⦃fun b => ⌜b.Holds ns⌝⦄ endInForeign t first ns ⦃⇓ _ b => ⌜b.Sound⌝⦄ := by
  fun_induction endInForeign t first ns with
  | case1 => exact triple_iff.2 fun b hb => hb.1
  | case2 => exact triple_iff.2 fun b hb => hb.1
  | case3 first n ns _ ih =>
    mvcgen [ih]
    · next hb _ => exact hb.mono (List.subset_cons_self n ns)
    · next hb _ _ _ => exact hb.1
    · next b hb _ _ _ _ _ =>
      exact ⟨hb.1.linked, fun m hm => hb.2 m (List.mem_cons_of_mem n hm), hb.1.owns_head⟩
    · next hb _ _ _ _ => exact hb.mono (List.subset_cons_self n ns)

@[spec]
theorem foreign_sound (t : Token) : ⦃fun b => ⌜b.Sound⌝⦄ foreign t ⦃⇓ _ b => ⌜b.Sound⌝⦄ := by
  mvcgen [foreign, endInForeign_sound]
  next b hb => exact ⟨hb, hb.owns_stack⟩

end Rules

/-! ## Tokens in turn -/

namespace Build

@[spec]
theorem step_sound (t : Token) : ⦃fun b => ⌜b.Sound⌝⦄ step t ⦃⇓ _ b => ⌜b.Sound⌝⦄ := by
  mvcgen [step]

@[spec]
theorem handle_sound (fuel : Nat) (t : Token) :
    ⦃fun b => ⌜b.Sound⌝⦄ handle fuel t ⦃⇓ _ b => ⌜b.Sound⌝⦄ := by
  induction fuel generalizing t with
  | zero => mvcgen [handle]
  | succ fuel ih => mvcgen [handle, ih]

@[spec]
theorem receiveDoctype_sound (d : Doctype) :
    ⦃fun b => ⌜b.Sound⌝⦄ receiveDoctype d ⦃⇓ _ b => ⌜b.Sound⌝⦄ := by
  have hc := create_holds [] .doctype
  mvcgen [receiveDoctype, hc]
  · next hb _ => exact hb.holds_nil
  · next n b hb _ =>
    exact (hb.withStore (hb.1.linked.append _ (hb.2 n List.mem_cons_self)) (by simp)).1

@[spec]
theorem receive_sound (t : Token) :
    ⦃fun b => ⌜b.Sound⌝⦄ receive t ⦃⇓ _ b => ⌜b.Sound⌝⦄ := by
  mvcgen [receive, handleFully]

@[spec]
theorem forM_receive_sound (ts : List Token) :
    ⦃fun b => ⌜b.Sound⌝⦄ ts.forM receive ⦃⇓ _ b => ⌜b.Sound⌝⦄ := by
  induction ts with
  | nil => exact triple_iff.2 fun b h => h
  | cons t ts ih => exact Triple.bind _ _ (receive_sound t) fun _ => ih

end Build

@[spec]
theorem readTokens_sound (fuel : Nat) (cs : List Char) :
    ⦃fun b => ⌜b.Sound⌝⦄ readTokens fuel cs ⦃⇓ _ b => ⌜b.Sound⌝⦄ := by
  induction fuel generalizing cs with
  | zero => mvcgen [readTokens]
  | succ fuel ih =>
    cases cs with
    | nil => mvcgen [readTokens]
    | cons c cs => mvcgen [readTokens, ih]

theorem sound_start : Builder.start.Sound where
  linked := Store.linked_empty
  owns_stack n h := by cases h
  owns_head n h := by cases h

/-- Whatever a page holds, the links between its nodes are in order when it has been read. -/
theorem sound_build (page : String) : (build page).Sound := by
  let cs := unifyNewlines (dropMark page.toList)
  let read : Build Unit := do
    readTokens (cs.length + 1) cs
    Build.receive .eof
  have hread : ⦃fun b => ⌜b.Sound⌝⦄ read ⦃⇓ _ b => ⌜b.Sound⌝⦄ := by
    mvcgen [read]
  exact Build.triple_iff.1 hread Builder.start sound_start

end WebExtract.Html
