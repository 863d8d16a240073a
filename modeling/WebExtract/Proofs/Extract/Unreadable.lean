import Mathlib.Data.List.Forall2
import WebExtract.Proofs.Document.Within
import WebExtract.Proofs.Extract.Evaluations

/-!
# Selectors that cannot be read

A selector that cannot be read matches nothing. `S.Mended d S'` says that `S'` is `S` with such
selectors replaced, each by one that can be read and finds nothing in the document `d`; a selector
may be the one of a field or of a text list, or the context of a text list or of a list.

The two schemas are extracted side by side. The acts correspond to each other one by one
(`Schema.Mended.forall₂_acts`), and what is found is the same, so the results and the states are.
Only the reports on selectors that cannot be read are missing.

**Results.**
* `Document.Mends.find_eq`: both selectors find the same.
* `Schema.Mended.agrees`: both schemas come to the same result and the same state.
* `interleaved_events`: the events of the one are those of the other, with the reports in between.
* `extractIn_mended`: all this for whole extractions, and the calls that are made are the same.
-/
namespace WebExtract

open Dom

variable {σ : Type}

/-! ## Mended selectors and schemas -/

namespace Document

/-- The selector can be read, and no query in the document finds anything with it. -/
structure FindsNothing (d : Document) (s : String) : Prop where
  readable : Css.readable s = true
  find_eq_nil : ∀ c, c.In d d.trees → d.find s c = []

inductive Mends (d : Document) : String → String → Prop
  | readable {s : String} : Css.readable s = true → Mends d s s
  | unreadable {s s' : String} : Css.readable s = false → d.FindsNothing s' → Mends d s s'

theorem find_of_not_readable {d : Document} {s : String} (h : Css.readable s = false)
    (c : Context) : d.find s c = [] := by
  rw [Css.readable, Option.isSome_eq_false_iff, Option.isNone_iff_eq_none] at h
  rw [find, h]

theorem Mends.find_eq {d : Document} {s s' : String} (h : d.Mends s s') {c : Context}
    (hc : c.In d d.trees) : d.find s' c = d.find s c := by
  cases h with
  | readable _ => rfl
  | unreadable hs hs' => rw [hs'.find_eq_nil c hc, find_of_not_readable hs]

/-- A selector that no element of the document satisfies, wherever a search starts from. -/
theorem findsNothing_of_not_matches {d : Document} {s : String} {sel : Css.Selector}
    (hs : Css.Selector.parse? s = some sel)
    (h : ∀ p ∈ d.places, ∀ scope, sel.Matches scope p = false) : d.FindsNothing s := by
  have hr : Css.readable s = true := by
    rw [Css.readable, hs]
    rfl
  refine ⟨hr, fun c hc => List.eq_nil_iff_forall_not_mem.2 fun p hp => ?_⟩
  obtain ⟨sel', hs', hin, -, hm⟩ := (mem_find_iff hc).1 hp
  cases hs.symm.trans hs'
  rw [h p (mem_places_iff.2 hin)] at hm
  cases hm

end Document

mutual

inductive Schema.Mended (d : Document) : Schema σ → Schema σ → Prop
  | mk {fields fields' : List (String × Node σ)} : FieldsMended d fields fields' →
    Schema.Mended d (.mk fields) (.mk fields')

inductive FieldsMended (d : Document) : List (String × Node σ) → List (String × Node σ) → Prop
  | nil : FieldsMended d [] []
  | cons {key : String} {n n' : Node σ} {fields fields' : List (String × Node σ)} :
    n.Mended d n' → FieldsMended d fields fields' →
      FieldsMended d ((key, n) :: fields) ((key, n') :: fields')

inductive Node.Mended (d : Document) : Node σ → Node σ → Prop
  | selector {s s' : String} : d.Mends s s' → Node.Mended d (.selector s) (.selector s')
  | textList {s s' : String} {context context' : Option String} : d.Mends s s' →
    Option.Rel d.Mends context context' →
      Node.Mended d (.textList s context) (.textList s' context')
  | list {item item' : Schema σ} {context context' : Option String} : item.Mended d item' →
    Option.Rel d.Mends context context' → Node.Mended d (.list item context) (.list item' context')
  | computed (f : Computed σ) : Node.Mended d (.computed f) (.computed f)
  | nested {S S' : Schema σ} : S.Mended d S' → Node.Mended d (.nested S) (.nested S')

end

/-! ## The same results -/

section

variable {d : Document}

theorem value_listTexts_mended {s s' : String} {context context' : Option String}
    (hs : d.Mends s s') (hq : Option.Rel d.Mends context context') {c : Context}
    (hc : c.In d d.trees) :
    (d.listTexts s' context' c).value = (d.listTexts s context c).value := by
  cases hq with
  | none =>
    simp only [Document.listTexts, Logged.value_bind, Logged.value_pure, Document.value_query,
      hs.find_eq hc]
  | some hq =>
    simp only [Document.listTexts, Document.textsWithin, Logged.value_bind, Logged.value_pure,
      Document.value_matchesWithin, hs.find_eq hc, hq.find_eq hc]

theorem value_queryContext_mended {context context' : Option String}
    (hq : Option.Rel d.Mends context context') {c : Context} (hc : c.In d d.trees) :
    (d.queryContext context' c).value = (d.queryContext context c).value := by
  cases hq with
  | none => rfl
  | some hq => simp only [Document.value_queryContext_some, hq.find_eq hc]

theorem in_of_mem_queryContext {context : Option String} {c : Context} (hc : c.In d d.trees)
    {e : Place} (he : e ∈ (d.queryContext context c).value) : (Context.node e).In d d.trees := by
  cases context with
  | none => cases he
  | some scope =>
    rw [Document.value_queryContext_some] at he
    exact Document.in_of_mem_find hc he

mutual

theorem Schema.Mended.agrees : ∀ {S S' : Schema σ} {c : Context}, S.Mended d S' →
    c.In d d.trees → (S.extractIn d c).Agrees (S'.extractIn d c)
  | _, _, _, .mk h, hc => by
    simp only [Schema.extractIn]
    exact (h.agrees hc).bind fun ms => .refl _

theorem FieldsMended.agrees : ∀ {fields fields' : List (String × Node σ)} {c : Context},
    FieldsMended d fields fields' → c.In d d.trees →
      (Schema.extractFields d fields c).Agrees (Schema.extractFields d fields' c)
  | _, _, _, .nil, _ => .refl _
  | _, _, _, .cons hn h, hc => by
    simp only [Schema.extractFields]
    refine (Run.Agrees.refl _).bind fun _ => ?_
    refine (hn.agrees _ hc).bind fun v => ?_
    exact (h.agrees hc).bind fun ms => .refl _

theorem Node.Mended.agrees : ∀ {n n' : Node σ} {c : Context}, n.Mended d n' → ∀ key : String,
    c.In d d.trees → (n.extract d key c).Agrees (n'.extract d key c)
  | _, _, _, .selector hs, _, hc => by
    simp only [Node.extract]
    refine Run.Agrees.ofLogged_bind ?_ (.refl _)
    simp only [Document.firstText, Logged.value_bind, Logged.value_pure, Document.value_query,
      hs.find_eq hc]
  | _, _, _, .textList hs hq, _, hc => by
    simp only [Node.extract]
    exact Run.Agrees.ofLogged_bind (value_listTexts_mended hs hq hc).symm (.refl _)
  | _, _, _, .list hi hq, _, hc => by
    simp only [Node.extract]
    refine Run.Agrees.ofLogged_bind (value_queryContext_mended hq hc).symm ?_
    refine (Run.Agrees.mapM fun e he => ?_).bind fun vs => .refl _
    exact hi.agrees (in_of_mem_queryContext hc he)
  | _, _, _, .computed _, _, _ => .refl _
  | _, _, _, .nested h, _, hc => by
    simp only [Node.extract]
    exact h.agrees hc

end

/-! ## The same acts -/

inductive Act.Mended (d : Document) : Act σ → Act σ → Prop
  | enter (key : String) : Act.Mended d (.enter key) (.enter key)
  | evaluate {s s' : String} : d.Mends s s' → Act.Mended d (.evaluate s) (.evaluate s')
  | call (k : Call σ) : Act.Mended d (.call k) (.call k)

theorem forall₂_flatMap {l : List Place} {f f' : Place → List (Act σ)}
    (h : ∀ e ∈ l, List.Forall₂ (Act.Mended d) (f e) (f' e)) :
    List.Forall₂ (Act.Mended d) (l.flatMap f) (l.flatMap f') :=
  List.rel_flatMap (R := fun e e' => List.Forall₂ (Act.Mended d) (f e) (f' e'))
    (List.forall₂_same.2 h) fun _ _ hacts => hacts

mutual

theorem Schema.Mended.forall₂_acts : ∀ {S S' : Schema σ} {c : Context}, S.Mended d S' →
    c.In d d.trees → List.Forall₂ (Act.Mended d) (S.acts d c) (S'.acts d c)
  | _, _, _, .mk h, hc => by
    simp only [Schema.acts]
    exact h.forall₂_acts hc

theorem FieldsMended.forall₂_acts : ∀ {fields fields' : List (String × Node σ)} {c : Context},
    FieldsMended d fields fields' → c.In d d.trees →
      List.Forall₂ (Act.Mended d) (Schema.fieldActs d fields c) (Schema.fieldActs d fields' c)
  | _, _, _, .nil, _ => .nil
  | _, _, _, .cons hn h, hc => by
    simp only [Schema.fieldActs]
    exact .cons (.enter _) (List.rel_append (hn.forall₂_acts _ hc) (h.forall₂_acts hc))

theorem Node.Mended.forall₂_acts : ∀ {n n' : Node σ} {c : Context}, n.Mended d n' →
    ∀ key : String, c.In d d.trees →
      List.Forall₂ (Act.Mended d) (n.acts d key c) (n'.acts d key c)
  | _, _, _, .selector hs, _, _ => by
    simp only [Node.acts]
    exact .cons (.evaluate hs) .nil
  | _, _, _, .textList hs .none, _, _ => by
    simp only [Node.acts]
    exact .cons (.evaluate hs) .nil
  | _, _, _, .textList hs (.some hq), _, hc => by
    simp only [Node.acts, hq.find_eq hc]
    split
    · exact .cons (.evaluate hq) .nil
    · exact .cons (.evaluate hq) (.cons (.evaluate hs) .nil)
  | _, _, _, .list _ .none, _, _ => by
    simp only [Node.acts]
    exact .nil
  | _, _, _, .list hi (.some hq), _, hc => by
    simp only [Node.acts, hq.find_eq hc]
    refine .cons (.evaluate hq) (forall₂_flatMap fun e he => ?_)
    exact hi.forall₂_acts (Document.in_of_mem_find hc he)
  | _, _, _, .computed f, key, c => by
    simp only [Node.acts]
    exact .cons (.call _) .nil
  | _, _, _, .nested h, _, hc => by
    simp only [Node.acts]
    exact h.forall₂_acts hc

end

/-- The calls are the same, with the same contexts. -/
theorem calls_mended {as as' : List (Act σ)} (h : List.Forall₂ (Act.Mended d) as as') :
    (as'.flatMap Act.steps).filterMap Step.call? = (as.flatMap Act.steps).filterMap Step.call? := by
  induction h with
  | nil => rfl
  | cons ha _ ih =>
    simp only [List.flatMap_cons, List.filterMap_append, ih]
    cases ha with
    | enter key => rfl
    | evaluate hs => simp only [Act.steps, filterMap_emit]
    | call k => rfl

mutual

theorem Schema.Mended.recording : ∀ {S S' : Schema σ}, S.Mended d S' →
    S.recording.Mended d S'.recording
  | _, _, .mk h => by
    simp only [Schema.recording]
    exact .mk h.recording

theorem FieldsMended.recording : ∀ {fields fields' : List (String × Node σ)},
    FieldsMended d fields fields' →
      FieldsMended d (Schema.recordingFields fields) (Schema.recordingFields fields')
  | _, _, .nil => .nil
  | _, _, .cons hn h => by
    simp only [Schema.recordingFields]
    exact .cons (hn.recording _) h.recording

theorem Node.Mended.recording : ∀ {n n' : Node σ}, n.Mended d n' → ∀ key : String,
    (n.recording key).Mended d (n'.recording key)
  | _, _, .selector hs, _ => .selector hs
  | _, _, .textList hs hq, _ => .textList hs hq
  | _, _, .list hi hq, _ => .list hi.recording hq
  | _, _, .computed f, _ => .computed _
  | _, _, .nested h, _ => .nested h.recording

end

/-! ## The reports in between -/

/-- The members of the third list are those of the first two, in their order. -/
inductive Interleaved {α : Type} : List α → List α → List α → Prop
  | nil : Interleaved [] [] []
  | left {a : α} {as bs cs : List α} : Interleaved as bs cs → Interleaved (a :: as) bs (a :: cs)
  | right {b : α} {as bs cs : List α} : Interleaved as bs cs → Interleaved as (b :: bs) (b :: cs)

theorem Interleaved.append_left {α : Type} {as bs cs : List α} (h : Interleaved as bs cs)
    (front : List α) : Interleaved (front ++ as) bs (front ++ cs) := by
  induction front with
  | nil => exact h
  | cons a front ih => exact ih.left

/-- The selectors that are evaluated, up to the first call that fails. -/
def evaluated (d : Document) : List (Act σ) → σ → List String
  | [], _ => []
  | .enter _ :: as, s => evaluated d as s
  | .evaluate q :: as, s => q :: evaluated d as s
  | .call k :: as, s =>
    match (k.outcome d s).result with
    | .ok _ => evaluated d as (k.outcome d s).state
    | .error _ => []

/-- The reports on those that cannot be read. -/
def unreadableReports (selectors : List String) : List Event :=
  (selectors.filter fun s => !Css.readable s).map .unreadableSelector

theorem interleaved_events {as as' : List (Act σ)} (h : List.Forall₂ (Act.Mended d) as as')
    (s : σ) : Interleaved (eventsOf d (as'.flatMap Act.steps) s)
      (unreadableReports (evaluated d as s)) (eventsOf d (as.flatMap Act.steps) s) := by
  induction h generalizing s with
  | nil => exact .nil
  | cons ha _ ih =>
    simp only [List.flatMap_cons]
    cases ha with
    | enter key => exact (ih s).left
    | evaluate hs =>
      cases hs with
      | readable hr =>
        simpa [Act.steps, evaluationEvents, evaluated, unreadableReports, hr] using ih s
      | unreadable hu hf =>
        -- The report is all that the first run has more than the second here.
        simpa [Act.steps, evaluationEvents, evaluated, unreadableReports, eventsOf, hu,
          hf.readable] using (ih s).right
    | call k =>
      simp only [Act.steps, List.singleton_append, eventsOf, evaluated]
      cases (k.outcome d s).result with
      | ok v => exact (ih _).append_left _
      | error source => exact Interleaved.nil.append_left _

end

/-! ## Headline property -/

/-- **Unreadable selectors.** Take a schema with selectors that cannot be read, and replace each of
them, wherever it stands, by one that can be read and finds nothing in the document. Extracted from
the document or from an element in it, both schemas come to the same result or the same error and to
the same state, and make the same calls in the same order and contexts. They do the same act by act;
the events are the same too, but for one report, in the first, on each selector that cannot be read
whenever it is evaluated. -/
theorem extractIn_mended (d : Document) (S S' : Schema σ) (h : S.Mended d S') (c : Context)
    (hc : ∀ e, c = .node e → e ∈ d.places) (s : σ) :
    ((S'.extractIn d c).run s).result = ((S.extractIn d c).run s).result ∧
    ((S'.extractIn d c).run s).state = ((S.extractIn d c).run s).state ∧
    S'.calls d c = S.calls d c ∧
    ((S'.recording.extractIn d c).run (s, [])).state =
      ((S.recording.extractIn d c).run (s, [])).state ∧
    List.Forall₂ (Act.Mended d) (S.acts d c) (S'.acts d c) ∧
    (∀ T : Schema σ,
      ((T.extractIn d c).run s).events = eventsOf d ((T.acts d c).flatMap Act.steps) s) ∧
    Interleaved ((S'.extractIn d c).run s).events (unreadableReports (evaluated d (S.acts d c) s))
      ((S.extractIn d c).run s).events := by
  have hin : c.In d d.trees := by
    cases c with
    | document => rfl
    | node e => exact Document.mem_places_iff.1 (hc e rfl)
  have hacts := h.forall₂_acts hin
  have hrun := h.agrees hin s
  refine ⟨hrun.1.symm, hrun.2.symm, ?_, (h.recording.agrees hin (s, [])).2.symm, hacts,
    fun T => T.events_extractIn d c s, ?_⟩
  · rw [S'.calls_eq_acts, S.calls_eq_acts, calls_mended hacts]
  · rw [S'.events_extractIn, S.events_extractIn]
    exact interleaved_events hacts s

theorem boxPage_findsNothing : boxPage.FindsNothing "i" := by
  have hi : ∀ sel, Css.Selector.parse? "i" = some sel →
      sel.usesScope = false ∧ ∀ p ∈ boxPage.places, sel.Matches none p = false := by
    intro sel h
    cases h
    exact ⟨rfl, by decide +kernel⟩
  cases hs : Css.Selector.parse? "i" with
  | none => cases hs
  | some sel =>
    refine Document.findsNothing_of_not_matches hs fun p hp scope => ?_
    rw [Css.Selector.matches_anyScope scope none (hi sel hs).1]
    exact (hi sel hs).2 p hp

/-- Counts its calls, and fails when it is called for the third time. -/
def twice : Computed Nat := fun _ _ => do
  let n ← Run.get
  Run.set (n + 1)
  if n < 2 then return .nat n else Run.fail (.message "too often")

/-- A schema with the selector `s` in each place where one can stand. -/
def manySelectors (s : String) : Schema Nat :=
  let row := (Schema.empty.computed "n" twice).field "text" (.selector s)
  ((((Schema.empty.field "in" (.textList s (some "div"))).field "out"
    (.textList "b" (some s))).field "rows" (.list row (some "div"))).field "none"
    (.list row (some s))).computed "last" twice

theorem extractIn_mended_manySelectors :
    Css.readable "b[" = false ∧ (manySelectors "b[").Mended boxPage (manySelectors "i") ∧
    (((manySelectors "b[").extractIn boxPage (.node boxPageMain)).run 0).result =
      .error (.computed "last" (.message "too often")) ∧
    (((manySelectors "i").extractIn boxPage (.node boxPageMain)).run 0).result =
      .error (.computed "last" (.message "too often")) ∧
    (manySelectors "i").calls boxPage (.node boxPageMain) =
      (manySelectors "b[").calls boxPage (.node boxPageMain) ∧
    Interleaved (((manySelectors "i").extractIn boxPage (.node boxPageMain)).run 0).events
      (List.replicate 5 (.unreadableSelector "b["))
      (((manySelectors "b[").extractIn boxPage (.node boxPageMain)).run 0).events := by
  have hr : Css.readable "b[" = false := rfl
  have hb : boxPage.Mends "b[" "i" := .unreadable hr boxPage_findsNothing
  have hdiv : boxPage.Mends "div" "div" := .readable rfl
  have hp : boxPage.Mends "b" "b" := .readable rfl
  have hrow : Schema.Mended boxPage
      ((Schema.empty.computed "n" twice).field "text" (.selector "b["))
      ((Schema.empty.computed "n" twice).field "text" (.selector "i")) :=
    .mk (.cons (.computed _) (.cons (.selector hb) .nil))
  have hm : (manySelectors "b[").Mended boxPage (manySelectors "i") :=
    .mk (.cons (.textList hb (.some hdiv)) (.cons (.textList hp (.some hb))
      (.cons (.list hrow (.some hdiv)) (.cons (.list hrow (.some hb)) (.cons (.computed _) .nil)))))
  have hin : ∀ e, Context.node boxPageMain = .node e → e ∈ boxPage.places := by
    rintro e h
    cases h
    exact Document.mem_places_iff.2 ⟨rfl, rfl⟩
  have hresult : (((manySelectors "b[").extractIn boxPage (.node boxPageMain)).run 0).result =
      .error (.computed "last" (.message "too often")) := rfl
  obtain ⟨hsame, -, hcalls, -, -, -, hevents⟩ :=
    extractIn_mended boxPage _ _ hm (.node boxPageMain) hin 0
  exact ⟨hr, hm, hresult, hsame.trans hresult, hcalls, hevents⟩

end WebExtract
