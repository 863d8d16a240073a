import WebExtract.Extract
import WebExtract.Proofs.Run

/-!
# The calls of computed fields

Which computed fields an extraction calls, in which order, and what a failure does.

**Calls.** `Schema.calls d S c` lists the computed fields of `S` with the contexts in which they are
to be evaluated: fields in the schema's order, a nested schema in the same context, a list's item
once in each match of its context, in the order of the matches. A call carries the key that its
field stands under.

**Steps.** `Schema.walk d S c` has the events between the calls as well: one for each field, before
its node, and one for each selector that cannot be read, when it is evaluated. An extraction makes
these steps one after the other and nothing else (`Schema.follows_extractIn`): it ends with the
first call that fails.

**Recording.** The functions of `S.recording` do what those of `S` do and also add their own call to
a list in the state. What that list holds after an extraction is what was called.

**Results.**
* `perform_of_allSucceed`, `perform_of_firstFailure`: making a list of steps makes all calls if they
  succeed, and otherwise ends with the first that fails.
* `extractIn_calls`: so does an extraction. The calls made are all of `Schema.calls`, each once, or
  those up to the first that fails, whose error is reported with the key of its own field.
-/
namespace WebExtract

variable {σ : Type}

/-! ## Calls and steps -/

structure Call (σ : Type) where
  key : String
  function : Computed σ
  context : Context

/-- What the function does in a state. -/
def Call.outcome (d : Document) (k : Call σ) (s : σ) : Outcome σ Cause Json :=
  (k.function d k.context).run s

mutual

def Schema.calls (d : Document) : Schema σ → Context → List (Call σ)
  | .mk fields, c => Schema.fieldCalls d fields c

def Schema.fieldCalls (d : Document) : List (String × Node σ) → Context → List (Call σ)
  | [], _ => []
  | (key, node) :: fields, c => node.calls d key c ++ Schema.fieldCalls d fields c

def Node.calls (d : Document) (key : String) : Node σ → Context → List (Call σ)
  | .selector _, _ => []
  | .textList _ _, _ => []
  | .list item (some scope), c => (d.find scope c).flatMap fun e => item.calls d (.node e)
  | .list _ none, _ => []
  | .computed f, c => [⟨key, f, c⟩]
  | .nested s, c => s.calls d c

end

inductive Step (σ : Type)
  | emit (e : Event)
  | call (k : Call σ)

def Step.call? : Step σ → Option (Call σ)
  | .emit _ => none
  | .call k => some k

mutual

def Schema.walk (d : Document) : Schema σ → Context → List (Step σ)
  | .mk fields, c => Schema.fieldWalk d fields c

def Schema.fieldWalk (d : Document) : List (String × Node σ) → Context → List (Step σ)
  | [], _ => []
  | (key, node) :: fields, c =>
    [.emit (.field key)] ++ (node.walk d key c ++ Schema.fieldWalk d fields c)

def Node.walk (d : Document) (key : String) : Node σ → Context → List (Step σ)
  | .selector s, c => (d.firstText s c).events.map .emit
  | .textList s context, c => (d.listTexts s context c).events.map .emit
  | .list item context, c =>
    (d.queryContext context c).events.map .emit ++
      (d.queryContext context c).value.flatMap fun e => item.walk d (.node e)
  | .computed f, c => [.call ⟨key, f, c⟩]
  | .nested s, c => s.walk d c

end

theorem filterMap_emit (es : List Event) :
    (es.map Step.emit).filterMap (Step.call? (σ := σ)) = [] := by
  induction es with
  | nil => rfl
  | cons e es ih => simp [Step.call?]

/-! ## Calls are the steps that are no events -/

mutual

theorem Schema.calls_walk (d : Document) : ∀ (S : Schema σ) (c : Context),
    (S.walk d c).filterMap Step.call? = S.calls d c
  | .mk fields, c => by
    simp only [Schema.walk, Schema.calls]
    exact Schema.calls_fieldWalk d fields c

theorem Schema.calls_fieldWalk (d : Document) : ∀ (fields : List (String × Node σ)) (c : Context),
    (Schema.fieldWalk d fields c).filterMap Step.call? = Schema.fieldCalls d fields c
  | [], _ => by simp only [Schema.fieldWalk, Schema.fieldCalls, List.filterMap_nil]
  | (key, node) :: fields, c => by
    simp only [Schema.fieldWalk, Schema.fieldCalls, List.filterMap_append]
    rw [Node.calls_walk d key node c, Schema.calls_fieldWalk d fields c]
    rfl

theorem Node.calls_walk (d : Document) (key : String) : ∀ (n : Node σ) (c : Context),
    (n.walk d key c).filterMap Step.call? = n.calls d key c
  | .selector _, _ => by simp only [Node.walk, Node.calls, filterMap_emit]
  | .textList _ _, _ => by simp only [Node.walk, Node.calls, filterMap_emit]
  | .list item context, c => by
    have ih : ∀ e, (item.walk d (.node e)).filterMap Step.call? = item.calls d (.node e) :=
      fun e => Schema.calls_walk d item (.node e)
    simp only [Node.walk, List.filterMap_append, filterMap_emit, List.nil_append,
      List.filterMap_flatMap, ih]
    cases context with
    | none => simp [Node.calls]
    | some scope => simp [Node.calls]
  | .computed _, _ => by simp [Node.walk, Node.calls, Step.call?]
  | .nested s, c => by
    simp only [Node.walk, Node.calls]
    exact Schema.calls_walk d s c

end

/-! ## Making steps -/

/-- Makes the steps one after the other, up to the first call that fails. -/
def perform (d : Document) : List (Step σ) → Run σ ScrapeError PUnit
  | [] => return
  | .emit e :: w => do
    Run.emit e
    perform d w
  | .call k :: w => do
    let _ ← (k.function d k.context).mapError (.computed k.key)
    perform d w

theorem perform_append (d : Document) (w w' : List (Step σ)) :
    perform d (w ++ w') = perform d w >>= fun _ => perform d w' := by
  induction w with
  | nil => simp [perform]
  | cons step w ih =>
    cases step with
    | emit e => simp only [List.cons_append, perform, ih, bind_assoc]
    | call k => simp only [List.cons_append, perform, ih, bind_assoc]

/-- The computation makes these steps, whatever it gives. -/
def Follows (d : Document) {α : Type} (x : Run σ ScrapeError α) (w : List (Step σ)) : Prop :=
  (fun _ => PUnit.unit) <$> x = perform d w

section

variable {d : Document} {α β : Type}

theorem follows_pure (a : α) : Follows d (pure a : Run σ ScrapeError α) [] := by
  simp only [Follows, map_pure, perform]

theorem follows_emit (e : Event) : Follows d (Run.emit e : Run σ ScrapeError PUnit) [.emit e] := by
  simp only [Follows, perform]
  rfl

theorem follows_ofLogged (x : Logged α) :
    Follows d (Run.ofLogged x : Run σ ScrapeError α) (x.events.map .emit) := by
  obtain ⟨a, es⟩ := x
  simp only [Follows]
  induction es with
  | nil => rfl
  | cons e es ih =>
    simp only [List.map_cons, perform, ← ih]
    rfl

theorem Follows.bind {x : Run σ ScrapeError α} {f : α → Run σ ScrapeError β}
    {w w' : List (Step σ)} (hx : Follows d x w) (hf : ∀ a, Follows d (f a) w') :
    Follows d (x >>= f) (w ++ w') := by
  unfold Follows at hx hf ⊢
  calc (fun _ => PUnit.unit) <$> (x >>= f)
    _ = x >>= fun a => (fun _ => PUnit.unit) <$> f a := map_bind _ x f
    _ = x >>= fun _ => perform d w' := by simp only [hf]
    _ = (fun _ => PUnit.unit) <$> x >>= fun _ => perform d w' := by rw [bind_map_left]
    _ = perform d (w ++ w') := by rw [hx, perform_append]

/-- Events come first; what comes after them may depend on the value. -/
theorem Follows.ofLogged_bind {x : Logged α} {f : α → Run σ ScrapeError β} {w : List (Step σ)}
    (hf : Follows d (f x.value) w) :
    Follows d (Run.ofLogged x >>= f) (x.events.map .emit ++ w) := by
  have : Run.ofLogged x >>= f = Run.ofLogged x >>= fun _ => f x.value := by ext1; funext s; simp
  rw [this]
  exact (follows_ofLogged x).bind fun _ => hf

/-- What comes last may depend on what was there before, but makes no steps. -/
theorem Follows.map {x : Run σ ScrapeError α} {w : List (Step σ)} (hx : Follows d x w)
    (f : α → β) : Follows d (x >>= fun a => pure (f a)) w := by
  simpa using hx.bind fun a => follows_pure (f a)

theorem Follows.mapM {f : α → Run σ ScrapeError β} {w : α → List (Step σ)}
    (h : ∀ a, Follows d (f a) (w a)) : ∀ l : List α, Follows d (l.mapM f) (l.flatMap w)
  | [] => by rw [List.mapM_nil]; exact follows_pure []
  | a :: l => by
    rw [List.mapM_cons, List.flatMap_cons]
    exact (h a).bind fun b => (Follows.mapM h l).map (b :: ·)

end

/-! ## An extraction makes the steps of its walk -/

mutual

theorem Schema.follows_extractIn (d : Document) : ∀ (S : Schema σ) (c : Context),
    Follows d (S.extractIn d c) (S.walk d c)
  | .mk fields, c => by
    simp only [Schema.extractIn, Schema.walk]
    exact (Schema.follows_extractFields d fields c).map _

theorem Schema.follows_extractFields (d : Document) : ∀ (fields : List (String × Node σ))
    (c : Context), Follows d (Schema.extractFields d fields c) (Schema.fieldWalk d fields c)
  | [], _ => by
    simp only [Schema.extractFields, Schema.fieldWalk]
    exact follows_pure []
  | (key, node) :: fields, c => by
    simp only [Schema.extractFields, Schema.fieldWalk]
    refine (follows_emit _).bind fun _ => ?_
    refine (Node.follows_extract d key node c).bind fun v => ?_
    exact (Schema.follows_extractFields d fields c).map _

theorem Node.follows_extract (d : Document) (key : String) : ∀ (n : Node σ) (c : Context),
    Follows d (n.extract d key c) (n.walk d key c)
  | .selector s, c => by
    simp only [Node.extract, Node.walk]
    exact (follows_ofLogged _).map _
  | .textList s context, c => by
    simp only [Node.extract, Node.walk]
    exact (follows_ofLogged _).map _
  | .list item context, c => by
    simp only [Node.extract, Node.walk]
    refine Follows.ofLogged_bind ?_
    exact (Follows.mapM (fun e => Schema.follows_extractIn d item (.node e)) _).map _
  | .computed f, c => by
    simp only [Node.extract, Node.walk, Follows, perform]
    rfl
  | .nested s, c => by
    simp only [Node.extract, Node.walk]
    exact Schema.follows_extractIn d s c

end

/-! ## What making steps comes to -/

/-- Each call succeeds in the state that the one before it leaves. -/
def AllSucceed (d : Document) : List (Call σ) → σ → Prop
  | [], _ => True
  | k :: ks, s => (∃ v, (k.outcome d s).result = .ok v) ∧ AllSucceed d ks (k.outcome d s).state

/-- The state after the calls. -/
def stateAfter (d : Document) : List (Call σ) → σ → σ
  | [], s => s
  | k :: ks, s => stateAfter d ks (k.outcome d s).state

/-- The events of the steps, up to the first call that fails. -/
def eventsOf (d : Document) : List (Step σ) → σ → List Event
  | [], _ => []
  | .emit e :: w, s => e :: eventsOf d w s
  | .call k :: w, s => (k.outcome d s).events ++
    match (k.outcome d s).result with
    | .ok _ => eventsOf d w (k.outcome d s).state
    | .error _ => []

/-- The calls from the first one to the first that fails, which is `k`. -/
structure FirstFailure (d : Document) (ks : List (Call σ)) (s : σ) (before : List (Call σ))
    (k : Call σ) (source : Cause) : Prop where
  isPrefix : before ++ [k] <+: ks
  succeed : AllSucceed d before s
  fails : (k.outcome d (stateAfter d before s)).result = .error source

theorem FirstFailure.not_allSucceed {d : Document} {ks : List (Call σ)} {s : σ}
    {before : List (Call σ)} {k : Call σ} {source : Cause}
    (h : FirstFailure d ks s before k source) : ¬ AllSucceed d ks s := by
  intro hs
  obtain ⟨⟨rest, rfl⟩, -, hf⟩ := h
  induction before generalizing s with
  | nil =>
    obtain ⟨⟨v, hv⟩, -⟩ := hs
    simp only [stateAfter] at hf
    rw [hf] at hv
    cases hv
  | cons k' before ih => exact ih hf hs.2

theorem FirstFailure.cons {d : Document} {ks : List (Call σ)} {s : σ} {before : List (Call σ)}
    {k k' : Call σ} {source : Cause} {v : Json} (hv : (k'.outcome d s).result = .ok v)
    (h : FirstFailure d ks (k'.outcome d s).state before k source) :
    FirstFailure d (k' :: ks) s (k' :: before) k source where
  isPrefix := by simpa using h.isPrefix
  succeed := ⟨⟨v, hv⟩, h.succeed⟩
  fails := h.fails

theorem allSucceed_or_firstFailure (d : Document) (ks : List (Call σ)) (s : σ) :
    AllSucceed d ks s ∨ ∃ before k source, FirstFailure d ks s before k source := by
  induction ks generalizing s with
  | nil => exact .inl trivial
  | cons k ks ih =>
    cases hk : (k.outcome d s).result with
    | error source =>
      exact .inr ⟨[], k, source, ⟨by simp, trivial, hk⟩⟩
    | ok v =>
      rcases ih (k.outcome d s).state with hs | ⟨before, k', source, hf⟩
      · exact .inl ⟨⟨v, hk⟩, hs⟩
      · exact .inr ⟨k :: before, k', source, hf.cons hk⟩

theorem perform_call (d : Document) (k : Call σ) (w : List (Step σ)) (s : σ) :
    (perform d (.call k :: w)).run s =
      match (k.outcome d s).result with
      | .ok _ => ⟨((perform d w).run (k.outcome d s).state).result,
          ((perform d w).run (k.outcome d s).state).state,
          (k.outcome d s).events ++ ((perform d w).run (k.outcome d s).state).events⟩
      | .error source =>
        ⟨.error (.computed k.key source), (k.outcome d s).state, (k.outcome d s).events⟩ := by
  simp only [perform, Run.run_bind, Run.mapError, Call.outcome]
  generalize (k.function d k.context).run s = o
  obtain ⟨r, s', events⟩ := o
  cases r <;> rfl

theorem perform_of_allSucceed (d : Document) {w : List (Step σ)} {s : σ}
    (h : AllSucceed d (w.filterMap Step.call?) s) :
    (perform d w).run s =
      ⟨.ok ⟨⟩, stateAfter d (w.filterMap Step.call?) s, eventsOf d w s⟩ := by
  induction w generalizing s with
  | nil => rfl
  | cons step w ih =>
    cases step with
    | emit e => simp [perform, ih h, eventsOf, List.filterMap_cons, Step.call?]
    | call k =>
      obtain ⟨⟨v, hv⟩, h⟩ := h
      rw [perform_call]
      simp only [hv, ih h, eventsOf, List.filterMap_cons, Step.call?, stateAfter]

theorem perform_of_firstFailure (d : Document) {w : List (Step σ)} {s : σ}
    {before : List (Call σ)} {k : Call σ} {source : Cause}
    (h : FirstFailure d (w.filterMap Step.call?) s before k source) :
    (perform d w).run s =
      ⟨.error (.computed k.key source), stateAfter d (before ++ [k]) s, eventsOf d w s⟩ := by
  induction w generalizing s before with
  | nil => simpa using h.isPrefix
  | cons step w ih =>
    cases step with
    | emit e => simp [perform, ih h, eventsOf]
    | call k' =>
      rw [perform_call]
      cases before with
      | nil =>
        obtain ⟨⟨rest, hr⟩, -, hf⟩ := h
        have hk : k = k' := by
          simp only [List.filterMap_cons, Step.call?, List.nil_append, List.cons_append,
            List.cons.injEq] at hr
          exact hr.1
        subst hk
        simp only [stateAfter] at hf
        simp [hf, eventsOf, stateAfter]
      | cons k₁ before =>
        obtain ⟨hp, ⟨⟨v, hv⟩, hs⟩, hf⟩ := h
        simp only [List.filterMap_cons, Step.call?, List.cons_append,
          List.cons_prefix_cons] at hp
        obtain ⟨rfl, hp⟩ := hp
        simp only [hv, ih ⟨hp, hs, hf⟩, eventsOf, List.cons_append, stateAfter]

section

variable {d : Document} {α : Type} {x : Run σ ScrapeError α} {w : List (Step σ)}

theorem Follows.run (h : Follows d x w) (s : σ) : (perform d w).run s =
    ⟨(x.run s).result.map fun _ => ⟨⟩, (x.run s).state, (x.run s).events⟩ := by
  rw [← h, Run.run_map]

theorem Follows.of_allSucceed (h : Follows d x w) {s : σ}
    (hs : AllSucceed d (w.filterMap Step.call?) s) :
    (∃ a, (x.run s).result = .ok a) ∧
      (x.run s).state = stateAfter d (w.filterMap Step.call?) s ∧
      (x.run s).events = eventsOf d w s := by
  have hr := h.run s
  rw [perform_of_allSucceed d hs, Outcome.mk.injEq] at hr
  obtain ⟨h1, h2, h3⟩ := hr
  refine ⟨?_, h2.symm, h3.symm⟩
  cases hx : (x.run s).result with
  | error e => rw [hx] at h1; cases h1
  | ok a => exact ⟨a, rfl⟩

theorem Follows.of_firstFailure (h : Follows d x w) {s : σ} {before : List (Call σ)} {k : Call σ}
    {source : Cause} (hf : FirstFailure d (w.filterMap Step.call?) s before k source) :
    (x.run s).result = .error (.computed k.key source) ∧
      (x.run s).state = stateAfter d (before ++ [k]) s ∧
      (x.run s).events = eventsOf d w s := by
  have hr := h.run s
  rw [perform_of_firstFailure d hf, Outcome.mk.injEq] at hr
  obtain ⟨h1, h2, h3⟩ := hr
  refine ⟨?_, h2.symm, h3.symm⟩
  cases hx : (x.run s).result with
  | error e => rw [hx] at h1; cases h1; rfl
  | ok a => rw [hx] at h1; cases h1

end

/-- An extraction fails only with the error of a computed field. -/
theorem Schema.error_extractIn {S : Schema σ} {d : Document} {c : Context} {s : σ} {e : ScrapeError}
    (h : ((S.extractIn d c).run s).result = .error e) :
    ∃ k ∈ S.calls d c, ∃ source, e = .computed k.key source := by
  have hw := S.follows_extractIn d c
  rcases allSucceed_or_firstFailure d (S.calls d c) s with hs | ⟨before, k, source, hf⟩
  · rw [← S.calls_walk d c] at hs
    obtain ⟨v, hv⟩ := (hw.of_allSucceed hs).1
    rw [hv] at h
    cases h
  · have hk : k ∈ S.calls d c := hf.isPrefix.subset (by simp)
    rw [← S.calls_walk d c] at hf
    rw [(hw.of_firstFailure hf).1] at h
    cases h
    exact ⟨k, hk, source, rfl⟩

/-! ## Recording calls -/

def Computed.recording (key : String) (f : Computed σ) : Computed (σ × List (Call σ)) :=
  fun d c => ⟨fun (s, made) =>
    let o := (f d c).run s
    ⟨o.result, (o.state, made ++ [⟨key, f, c⟩]), o.events⟩⟩

mutual

def Schema.recording : Schema σ → Schema (σ × List (Call σ))
  | .mk fields => .mk (Schema.recordingFields fields)

def Schema.recordingFields :
    List (String × Node σ) → List (String × Node (σ × List (Call σ)))
  | [] => []
  | (key, node) :: fields => (key, node.recording key) :: Schema.recordingFields fields

def Node.recording (key : String) : Node σ → Node (σ × List (Call σ))
  | .selector s => .selector s
  | .textList s context => .textList s context
  | .list item context => .list item.recording context
  | .computed f => .computed (Computed.recording key f)
  | .nested s => .nested s.recording

end

def Call.recording (k : Call σ) : Call (σ × List (Call σ)) :=
  ⟨k.key, Computed.recording k.key k.function, k.context⟩

def Step.recording : Step σ → Step (σ × List (Call σ))
  | .emit e => .emit e
  | .call k => .call k.recording

mutual

theorem Schema.walk_recording (d : Document) : ∀ (S : Schema σ) (c : Context),
    S.recording.walk d c = (S.walk d c).map Step.recording
  | .mk fields, c => by
    simp only [Schema.recording, Schema.walk]
    exact Schema.fieldWalk_recording d fields c

theorem Schema.fieldWalk_recording (d : Document) : ∀ (fields : List (String × Node σ))
    (c : Context), Schema.fieldWalk d (Schema.recordingFields fields) c =
      (Schema.fieldWalk d fields c).map Step.recording
  | [], _ => by simp only [Schema.recordingFields, Schema.fieldWalk, List.map_nil]
  | (key, node) :: fields, c => by
    simp only [Schema.recordingFields, Schema.fieldWalk, List.map_append]
    rw [Node.walk_recording d key node c, Schema.fieldWalk_recording d fields c]
    rfl

theorem Node.walk_recording (d : Document) (key : String) : ∀ (n : Node σ) (c : Context),
    (n.recording key).walk d key c = (n.walk d key c).map Step.recording
  | .selector _, _ => by simp [Node.recording, Node.walk, Step.recording]
  | .textList _ _, _ => by simp [Node.recording, Node.walk, Step.recording]
  | .list item context, c => by
    have ih : ∀ e, item.recording.walk d (.node e) = (item.walk d (.node e)).map Step.recording :=
      fun e => Schema.walk_recording d item (.node e)
    simp [Node.recording, Node.walk, Step.recording, ih, List.map_flatMap]
  | .computed _, _ => by
    simp only [Node.recording, Node.walk, List.map_cons, List.map_nil, Step.recording]
    rfl
  | .nested s, c => by
    simp only [Node.recording, Node.walk]
    exact Schema.walk_recording d s c

end

section

variable {d : Document}

@[simp] theorem outcome_recording (k : Call σ) (s : σ) (made : List (Call σ)) :
    k.recording.outcome d (s, made) =
      ⟨(k.outcome d s).result, ((k.outcome d s).state, made ++ [k]), (k.outcome d s).events⟩ :=
  rfl

theorem allSucceed_recording (ks : List (Call σ)) (s : σ) (made : List (Call σ)) :
    AllSucceed d (ks.map Call.recording) (s, made) ↔ AllSucceed d ks s := by
  induction ks generalizing s made with
  | nil => exact Iff.rfl
  | cons k ks ih => simp [AllSucceed, ih]

theorem stateAfter_recording (ks : List (Call σ)) (s : σ) (made : List (Call σ)) :
    stateAfter d (ks.map Call.recording) (s, made) = (stateAfter d ks s, made ++ ks) := by
  induction ks generalizing s made with
  | nil => simp [stateAfter]
  | cons k ks ih => simp [stateAfter, ih]

theorem filterMap_recording (w : List (Step σ)) :
    (w.map Step.recording).filterMap Step.call? =
      (w.filterMap Step.call?).map Call.recording := by
  induction w with
  | nil => rfl
  | cons step w ih => cases step <;> simp [Step.recording, Step.call?, List.filterMap_cons, ih]

theorem FirstFailure.recording {ks : List (Call σ)} {s : σ} {before : List (Call σ)}
    {k : Call σ} {source : Cause} (h : FirstFailure d ks s before k source) :
    FirstFailure d (ks.map Call.recording) (s, []) (before.map Call.recording) k.recording
      source where
  isPrefix := by simpa using h.isPrefix.map Call.recording
  succeed := (allSucceed_recording before s []).2 h.succeed
  fails := by rw [stateAfter_recording]; exact h.fails

end

/-! ## Headline property -/

/-- **Calls.** An extraction calls computed fields exactly as `Schema.calls` lists them, each in the
state that the one before it left, and ends with the first that fails. It has a result if none
fails; the error of one that does comes with the key of that very field. The events are those of the
steps made. -/
theorem extractIn_calls (S : Schema σ) (d : Document) (c : Context) (s : σ) :
    ((∃ v, ((S.extractIn d c).run s).result = .ok v) ↔ AllSucceed d (S.calls d c) s) ∧
    ((AllSucceed d (S.calls d c) s ∧
        ((S.extractIn d c).run s).state = stateAfter d (S.calls d c) s ∧
        ((S.recording.extractIn d c).run (s, [])).state =
          (stateAfter d (S.calls d c) s, S.calls d c)) ∨
      ∃ before k source, FirstFailure d (S.calls d c) s before k source ∧
        ((S.extractIn d c).run s).result = .error (.computed k.key source) ∧
        ((S.extractIn d c).run s).state = stateAfter d (before ++ [k]) s ∧
        ((S.recording.extractIn d c).run (s, [])).state =
          (stateAfter d (before ++ [k]) s, before ++ [k])) ∧
    ((S.extractIn d c).run s).events = eventsOf d (S.walk d c) s := by
  have hw := S.calls_walk d c
  have hx := S.follows_extractIn d c
  have hr := S.recording.follows_extractIn d c
  rw [S.walk_recording d c] at hr
  rcases allSucceed_or_firstFailure d (S.calls d c) s with hs | ⟨before, k, source, hf⟩
  · have hs' := hs
    rw [← hw] at hs'
    obtain ⟨hok, hst, hev⟩ := hx.of_allSucceed hs'
    refine ⟨⟨fun _ => hs, fun _ => hok⟩, .inl ⟨hs, hw ▸ hst, ?_⟩, hev⟩
    have hrs : AllSucceed d (((S.walk d c).map Step.recording).filterMap Step.call?) (s, []) := by
      rw [filterMap_recording, hw]
      exact (allSucceed_recording _ s []).2 hs
    rw [(hr.of_allSucceed hrs).2.1, filterMap_recording, hw, stateAfter_recording, List.nil_append]
  · have hf' := hf
    rw [← hw] at hf'
    obtain ⟨herr, hst, hev⟩ := hx.of_firstFailure hf'
    refine ⟨⟨?_, fun hs => (hf.not_allSucceed hs).elim⟩,
      .inr ⟨before, k, source, hf, herr, hst, ?_⟩, hev⟩
    · rintro ⟨v, hv⟩
      rw [herr] at hv
      cases hv
    · have hrf := hf.recording
      rw [← hw, ← filterMap_recording] at hrf
      have h := (hr.of_firstFailure hrf).2.1
      rw [← List.map_singleton, ← List.map_append, stateAfter_recording, List.nil_append] at h
      exact h

end WebExtract
