import WebExtract.Proofs.Extract.Calls
import WebExtract.Proofs.Extract.Path

/-!
# Computed fields that stand in for nodes

What a node gives can be computed as well by a function that uses queries and extractions as any
caller may: the text of the first match, the texts of all matches, an extraction in each match or in
the same context. Such a function, as a computed field, stands in for the node.

`S.withStandIns chosen` is `S` with the nodes at the chosen positions replaced. It does what `S`
does, call by call. Only a failure looks different: a stand-in that fails is a computed field that
fails, so the error is reported once more, with the key of the stand-in.

**Whose failure it is.** `Schema.markedCalls` lists the calls of `S`, each with the key of the
chosen node that it is made for, if there is one. The first call that fails decides what is reported
(`blame`), as it decides that the extraction ends.

**Results.**
* `Recasts.bind`, `Recasts.mapM`: two computations that differ in this way only do so too when they
  are put together with others. Which call fails first has to be known of the first part alone, and
  that is what `Makes` says.
* `Node.recasts_standIn`: a stand-in does what its node does.
* `Schema.recasts_withStandIns`: so does the whole schema, by induction on it.
* `extractIn_withStandIns`: the results are the same, or both fail in the same call.
-/
namespace WebExtract

variable {σ : Type}

/-! ## Stand-ins -/

namespace Computed

/-- The text of the first match, if there is one and it is not empty. -/
def firstText (s : String) : Computed σ := fun d c => do
  match ← Run.ofLogged (d.firstText s c) with
  | none => return .null
  | some text => if text = "" then return .null else return .string text

/-- The texts of all matches. -/
def texts (s : String) : Computed σ := fun d c => do
  return .strings ((← Run.ofLogged (d.query s c)).map textOf)

/-- The texts of all matches inside a match of `scope`. -/
def textsWithin (s scope : String) : Computed σ := fun d c => do
  return .strings (← Run.ofLogged (d.textsWithin s scope c))

/-- What a schema gives in each match, up to the first in which it fails. -/
def eachMatch (item : Schema σ) (scope : String) : Computed σ := fun d c => do
  let elements ← Run.ofLogged (d.query scope c)
  return .array (← elements.mapM fun e => (item.extractIn d (.node e)).mapError .error)

/-- What a schema gives in the same context. -/
def object (S : Schema σ) : Computed σ := fun d c => (S.extractIn d c).mapError .error

end Computed

/-- Where a node stands in a schema: the number of its field, behind the numbers of the fields
around it. The fields of a nested schema and of a list's item are numbered alike. -/
abbrev Position := List Nat

mutual

/-- The nodes at the chosen positions are replaced by their stand-ins. Inside a chosen node nothing
is replaced; a computed field and a list without a context have no stand-in. -/
def Schema.withStandIns (chosen : Position → Bool) : Schema σ → Schema σ
  | .mk fields => .mk (Schema.fieldsWithStandIns chosen 0 fields)

def Schema.fieldsWithStandIns (chosen : Position → Bool) (i : Nat) :
    List (String × Node σ) → List (String × Node σ)
  | [] => []
  | (key, node) :: fields =>
    (key, node.withStandIns fun p => chosen (i :: p)) ::
      Schema.fieldsWithStandIns chosen (i + 1) fields

def Node.withStandIns (chosen : Position → Bool) : Node σ → Node σ
  | .selector s => if chosen [] then .computed (Computed.firstText s) else .selector s
  | .textList s none => if chosen [] then .computed (Computed.texts s) else .textList s none
  | .textList s (some scope) =>
    if chosen [] then .computed (Computed.textsWithin s scope) else .textList s (some scope)
  | .list item (some scope) =>
    if chosen [] then .computed (Computed.eachMatch item scope)
    else .list (item.withStandIns chosen) (some scope)
  | .list item none => .list (item.withStandIns chosen) none
  | .computed f => .computed f
  | .nested S =>
    if chosen [] then .computed (Computed.object S) else .nested (S.withStandIns chosen)

end

/-! ## Marked calls -/

/-- A call, with the key of the chosen node that it is made for, if there is one. -/
structure MarkedCall (σ : Type) where
  call : Call σ
  inside : Option String

def markAll (inside : Option String) (ks : List (Call σ)) : List (MarkedCall σ) :=
  ks.map fun k => ⟨k, inside⟩

mutual

def Schema.markedCalls (d : Document) (chosen : Position → Bool) :
    Schema σ → Context → List (MarkedCall σ)
  | .mk fields, c => Schema.markedFieldCalls d chosen 0 fields c

def Schema.markedFieldCalls (d : Document) (chosen : Position → Bool) (i : Nat) :
    List (String × Node σ) → Context → List (MarkedCall σ)
  | [], _ => []
  | (key, node) :: fields, c =>
    node.markedCalls d (fun p => chosen (i :: p)) key c ++
      Schema.markedFieldCalls d chosen (i + 1) fields c

def Node.markedCalls (d : Document) (chosen : Position → Bool) (key : String) :
    Node σ → Context → List (MarkedCall σ)
  | .selector _, _ => []
  | .textList _ _, _ => []
  | .list item (some scope), c =>
    if chosen [] then markAll (some key) ((Node.list item (some scope)).calls d key c)
    else (d.find scope c).flatMap fun e => item.markedCalls d chosen (.node e)
  | .list _ none, _ => []
  | .computed f, c => [⟨⟨key, f, c⟩, none⟩]
  | .nested S, c =>
    if chosen [] then markAll (some key) ((Node.nested S).calls d key c)
    else S.markedCalls d chosen c

end

@[simp] theorem map_call_markAll (inside : Option String) (ks : List (Call σ)) :
    (markAll inside ks).map MarkedCall.call = ks := by
  simp [markAll, Function.comp_def]

mutual

/-- The marks leave the calls as they are. -/
theorem Schema.map_call_markedCalls (d : Document) : ∀ (chosen : Position → Bool) (S : Schema σ)
    (c : Context), (S.markedCalls d chosen c).map MarkedCall.call = S.calls d c
  | chosen, .mk fields, c => by
    simp only [Schema.markedCalls, Schema.calls]
    exact Schema.map_call_markedFieldCalls d chosen 0 fields c

theorem Schema.map_call_markedFieldCalls (d : Document) : ∀ (chosen : Position → Bool) (i : Nat)
    (fields : List (String × Node σ)) (c : Context),
      (Schema.markedFieldCalls d chosen i fields c).map MarkedCall.call =
        Schema.fieldCalls d fields c
  | _, _, [], _ => by simp only [Schema.markedFieldCalls, Schema.fieldCalls, List.map_nil]
  | chosen, i, (key, node) :: fields, c => by
    simp only [Schema.markedFieldCalls, Schema.fieldCalls, List.map_append]
    rw [Node.map_call_markedCalls d _ key node c,
      Schema.map_call_markedFieldCalls d chosen (i + 1) fields c]

theorem Node.map_call_markedCalls (d : Document) : ∀ (chosen : Position → Bool) (key : String)
    (n : Node σ) (c : Context), (n.markedCalls d chosen key c).map MarkedCall.call = n.calls d key c
  | _, _, .selector _, _ => by simp only [Node.markedCalls, Node.calls, List.map_nil]
  | _, _, .textList _ _, _ => by simp only [Node.markedCalls, Node.calls, List.map_nil]
  | chosen, key, .list item (some scope), c => by
    simp only [Node.markedCalls]
    split
    · exact map_call_markAll _ _
    · simp only [Node.calls, List.map_flatMap]
      congr 1
      funext e
      exact Schema.map_call_markedCalls d chosen item (.node e)
  | _, _, .list _ none, _ => by simp only [Node.markedCalls, Node.calls, List.map_nil]
  | _, _, .computed _, _ => by
    simp only [Node.markedCalls, Node.calls, List.map_cons, List.map_nil]
  | chosen, key, .nested S, c => by
    simp only [Node.markedCalls]
    split
    · exact map_call_markAll _ _
    · simp only [Node.calls]
      exact Schema.map_call_markedCalls d chosen S c

end

/-! ## The first call that fails -/

section

variable {d : Document}

/-- The key of the chosen node that the first call that fails is made for, if it is made for one. -/
def blame (d : Document) : List (MarkedCall σ) → σ → Option String
  | [], _ => none
  | m :: ms, s =>
    match (m.call.outcome d s).result with
    | .ok _ => blame d ms (m.call.outcome d s).state
    | .error _ => m.inside

theorem blame_append_of_allSucceed {ms ms' : List (MarkedCall σ)} {s : σ}
    (h : AllSucceed d (ms.map MarkedCall.call) s) :
    blame d (ms ++ ms') s = blame d ms' (stateAfter d (ms.map MarkedCall.call) s) := by
  induction ms generalizing s with
  | nil => rfl
  | cons m ms ih =>
    obtain ⟨⟨v, hv⟩, h⟩ := h
    simp only [List.cons_append, List.map_cons, blame, hv, stateAfter]
    exact ih h

theorem blame_append_of_not_allSucceed {ms ms' : List (MarkedCall σ)} {s : σ}
    (h : ¬ AllSucceed d (ms.map MarkedCall.call) s) : blame d (ms ++ ms') s = blame d ms s := by
  induction ms generalizing s with
  | nil => exact (h trivial).elim
  | cons m ms ih =>
    simp only [List.cons_append, blame]
    cases hm : (m.call.outcome d s).result with
    | error source => rfl
    | ok v =>
      refine ih fun hs => h ?_
      exact ⟨⟨v, hm⟩, hs⟩

/-- The call to blame is the first that fails, with its mark. -/
theorem blame_of_firstFailure {ms : List (MarkedCall σ)} {s : σ} {before : List (Call σ)}
    {k : Call σ} {source : Cause}
    (h : FirstFailure d (ms.map MarkedCall.call) s before k source) :
    ∃ front m, front ++ [m] <+: ms ∧ front.map MarkedCall.call = before ∧ m.call = k ∧
      blame d ms s = m.inside := by
  induction ms generalizing s before with
  | nil => simpa using h.isPrefix
  | cons m ms ih =>
    obtain ⟨hp, hs, hf⟩ := h
    rw [List.map_cons] at hp
    cases before with
    | nil =>
      rw [List.nil_append, List.cons_prefix_cons] at hp
      obtain ⟨rfl, -⟩ := hp
      have hm : (m.call.outcome d s).result = .error source := hf
      refine ⟨[], m, by simp, rfl, rfl, ?_⟩
      simp only [blame, hm]
    | cons k' before =>
      rw [List.cons_append, List.cons_prefix_cons] at hp
      obtain ⟨rfl, hp⟩ := hp
      obtain ⟨⟨v, hv⟩, hs⟩ := hs
      obtain ⟨front, m', hfront, rfl, hk, hblame⟩ := ih ⟨hp, hs, hf⟩
      refine ⟨m :: front, m', ?_, rfl, hk, ?_⟩
      · rw [List.cons_append, List.cons_prefix_cons]
        exact ⟨rfl, hfront⟩
      · simp only [blame, hv, hblame]

/-- Calls that are made for one node are blamed on it. -/
theorem blame_markAll {inside : Option String} {ks : List (Call σ)} {s : σ}
    (h : ¬ AllSucceed d ks s) : blame d (markAll inside ks) s = inside := by
  rcases allSucceed_or_firstFailure d ks s with hs | ⟨before, k, source, hf⟩
  · exact (h hs).elim
  rw [← map_call_markAll inside ks] at hf
  obtain ⟨front, m, hp, -, -, hblame⟩ := blame_of_firstFailure hf
  have hm : m ∈ markAll inside ks := hp.subset (by simp)
  obtain ⟨k', -, rfl⟩ := List.mem_map.1 hm
  exact hblame

theorem blame_unmarked (k : Call σ) (s : σ) : blame d [⟨k, none⟩] s = none := by
  simp only [blame]
  split <;> rfl

end

/-! ## Computations that make calls -/

section

variable {d : Document} {α β : Type}

/-- The computation has a result if all these calls succeed, and then leaves the state after them;
otherwise it fails. -/
def Makes (d : Document) (x : Run σ ScrapeError α) (ks : List (Call σ)) : Prop :=
  ∀ s, ((∃ a, (x.run s).result = .ok a) ∧ AllSucceed d ks s ∧
      (x.run s).state = stateAfter d ks s) ∨
    ((∃ e, (x.run s).result = .error e) ∧ ¬ AllSucceed d ks s)

theorem Follows.makes {x : Run σ ScrapeError α} {w : List (Step σ)} (h : Follows d x w) :
    Makes d x (w.filterMap Step.call?) := by
  intro s
  rcases allSucceed_or_firstFailure d (w.filterMap Step.call?) s with hs | ⟨before, k, source, hf⟩
  · obtain ⟨hok, hst, -⟩ := h.of_allSucceed hs
    exact .inl ⟨hok, hs, hst⟩
  · exact .inr ⟨⟨_, (h.of_firstFailure hf).1⟩, hf.not_allSucceed⟩

theorem Schema.makes_extractIn (S : Schema σ) (d : Document) (c : Context) :
    Makes d (S.extractIn d c) (S.calls d c) := by
  rw [← S.calls_walk d c]
  exact (S.follows_extractIn d c).makes

theorem Node.makes_extract (n : Node σ) (d : Document) (key : String) (c : Context) :
    Makes d (n.extract d key c) (n.calls d key c) := by
  rw [← n.calls_walk d key c]
  exact (n.follows_extract d key c).makes

/-! ## Failures reported for a stand-in -/

/-- A failure in a stand-in is reported with the key of the stand-in, and the error is the cause. -/
def reportedFor : Option String → ScrapeError → ScrapeError
  | none, e => e
  | some key, e => .computed key (.error e)

/-- `y` does what `x` does, but reports a failure for the stand-in in which it occurs. -/
def Recasts (d : Document) (ms : List (MarkedCall σ)) (x y : Run σ ScrapeError α) : Prop :=
  ∀ s, y.run s = ⟨(x.run s).result.mapError (reportedFor (blame d ms s)), (x.run s).state,
    (x.run s).events⟩

theorem mapError_reportedFor_none (r : Except ScrapeError α) :
    r.mapError (reportedFor none) = r := by
  cases r <;> rfl

theorem Recasts.refl {ms : List (MarkedCall σ)} (h : ∀ s, blame d ms s = none)
    (x : Run σ ScrapeError α) : Recasts d ms x x := by
  intro s
  rw [h s, mapError_reportedFor_none]

theorem Recasts.bind {ms ms' : List (MarkedCall σ)} {x y : Run σ ScrapeError α}
    {f g : α → Run σ ScrapeError β} (hx : Recasts d ms x y)
    (hm : Makes d x (ms.map MarkedCall.call)) (hf : ∀ a, Recasts d ms' (f a) (g a)) :
    Recasts d (ms ++ ms') (x >>= f) (y >>= g) := by
  intro s
  have hs := hm s
  rw [Run.run_bind, Run.run_bind, hx s]
  generalize x.run s = o at hs ⊢
  obtain ⟨r, t, events⟩ := o
  rcases hs with ⟨⟨a, ha⟩, hs, hst⟩ | ⟨⟨e, he⟩, hs⟩
  · -- No call of `x` fails, so the rest decides, from the state after them.
    simp only at ha hst
    subst ha hst
    rw [blame_append_of_allSucceed hs]
    simp only [Except.mapError, Run.andThen_ok]
    rw [hf a]
    rfl
  · simp only at he
    subst he
    rw [blame_append_of_not_allSucceed hs]
    rfl

theorem Recasts.map {ms : List (MarkedCall σ)} {x y : Run σ ScrapeError α} (hx : Recasts d ms x y)
    (f : α → β) : Recasts d ms (x >>= fun a => pure (f a)) (y >>= fun a => pure (f a)) := by
  intro s
  rw [Run.run_bind, Run.run_bind, hx s]
  generalize x.run s = o
  obtain ⟨r, t, events⟩ := o
  cases r <;> simp [Except.mapError]

theorem Recasts.ofLogged_bind {ms : List (MarkedCall σ)} {x : Logged α}
    {f g : α → Run σ ScrapeError β} (hf : Recasts d ms (f x.value) (g x.value)) :
    Recasts d ms (Run.ofLogged x >>= f) (Run.ofLogged x >>= g) := by
  intro s
  simp only [Run.run_bind, Run.run_ofLogged, Run.andThen_ok, hf s]

theorem Recasts.mapM {f g : α → Run σ ScrapeError β} {ms : α → List (MarkedCall σ)}
    (h : ∀ a, Recasts d (ms a) (f a) (g a))
    (hm : ∀ a, Makes d (f a) ((ms a).map MarkedCall.call)) :
    ∀ l : List α, Recasts d (l.flatMap ms) (l.mapM f) (l.mapM g)
  | [] => by
    rw [List.mapM_nil, List.mapM_nil]
    exact .refl (fun _ => rfl) _
  | a :: l => by
    rw [List.mapM_cons, List.mapM_cons, List.flatMap_cons]
    exact (h a).bind (hm a) fun b => (Recasts.mapM h hm l).map (b :: ·)

end

/-! ## Nodes and their stand-ins -/

/-- The function does what the node does, and passes an error of an extraction on. -/
def Computed.StandsFor (f : Computed σ) (n : Node σ) : Prop :=
  ∀ (d : Document) (key : String) (c : Context), f d c = (n.extract d key c).mapError .error

namespace Computed

theorem standsFor_selector (s : String) : (firstText s : Computed σ).StandsFor (.selector s) := by
  intro d key c
  simp only [firstText, Node.extract, Run.mapError_bind, Run.mapError_ofLogged, Run.mapError_pure]
  congr 1
  funext text
  cases text with
  | none => rfl
  | some text =>
    simp only [textOrNull]
    split <;> rfl

theorem standsFor_textList (s : String) : (texts s : Computed σ).StandsFor (.textList s none) := by
  intro d key c
  simp only [texts, Node.extract, Document.listTexts, Run.mapError_bind, Run.mapError_ofLogged,
    Run.mapError_pure]
  ext1
  funext t
  simp [Except.map]

theorem standsFor_textList_some (s scope : String) :
    (textsWithin s scope : Computed σ).StandsFor (.textList s (some scope)) := by
  intro d key c
  simp only [textsWithin, Node.extract, Document.listTexts, Run.mapError_bind,
    Run.mapError_ofLogged, Run.mapError_pure]

theorem standsFor_list (item : Schema σ) (scope : String) :
    (eachMatch item scope).StandsFor (.list item (some scope)) := by
  intro d key c
  simp only [eachMatch, Node.extract, Document.queryContext, Run.mapError_bind,
    Run.mapError_ofLogged, Run.mapError_mapM, Run.mapError_pure]

theorem standsFor_nested (S : Schema σ) : (object S).StandsFor (.nested S) := by
  intro d key c
  simp only [object, Node.extract]

end Computed

/-- A stand-in makes the calls of its node, and reports all failures for itself. -/
theorem Node.recasts_standIn {n : Node σ} {f : Computed σ} (h : f.StandsFor n) (d : Document)
    (key : String) (c : Context) :
    Recasts d (markAll (some key) (n.calls d key c)) (n.extract d key c)
      ((Node.computed f).extract d key c) := by
  intro s
  have hy : ((Node.computed f).extract d key c).run s =
      ⟨((n.extract d key c).run s).result.mapError fun e => .computed key (.error e),
        ((n.extract d key c).run s).state, ((n.extract d key c).run s).events⟩ := by
    simp only [Node.extract, h d key c, Run.run_mapError]
    cases ((n.extract d key c).run s).result <;> rfl
  rw [hy]
  rcases n.makes_extract d key c s with ⟨⟨a, ha⟩, -, -⟩ | ⟨⟨e, he⟩, hs⟩
  · simp only [ha, Except.mapError]
  · simp only [he, Except.mapError, blame_markAll hs, reportedFor]

/-! ## Schemas with stand-ins -/

mutual

theorem Schema.recasts_withStandIns (d : Document) : ∀ (chosen : Position → Bool) (S : Schema σ)
    (c : Context), Recasts d (S.markedCalls d chosen c) (S.extractIn d c)
      ((S.withStandIns chosen).extractIn d c)
  | chosen, .mk fields, c => by
    simp only [Schema.withStandIns, Schema.extractIn, Schema.markedCalls]
    exact (Schema.recasts_fieldsWithStandIns d chosen 0 fields c).map _

theorem Schema.recasts_fieldsWithStandIns (d : Document) : ∀ (chosen : Position → Bool) (i : Nat)
    (fields : List (String × Node σ)) (c : Context),
      Recasts d (Schema.markedFieldCalls d chosen i fields c) (Schema.extractFields d fields c)
        (Schema.extractFields d (Schema.fieldsWithStandIns chosen i fields) c)
  | _, _, [], _ => .refl (fun _ => by simp only [Schema.markedFieldCalls, blame]) _
  | chosen, i, (key, node) :: fields, c => by
    simp only [Schema.fieldsWithStandIns, Schema.extractFields, Schema.markedFieldCalls]
    refine Recasts.ofLogged_bind (x := Logged.emit (.field key)) ?_
    refine (Node.recasts_withStandIns d _ key node c).bind ?_ fun v => ?_
    · rw [Node.map_call_markedCalls]
      exact node.makes_extract d key c
    · exact (Schema.recasts_fieldsWithStandIns d chosen (i + 1) fields c).map _

theorem Node.recasts_withStandIns (d : Document) : ∀ (chosen : Position → Bool) (key : String)
    (n : Node σ) (c : Context), Recasts d (n.markedCalls d chosen key c) (n.extract d key c)
      ((n.withStandIns chosen).extract d key c)
  | _, key, .selector s, c => by
    simp only [Node.withStandIns, Node.markedCalls]
    split
    · exact Node.recasts_standIn (Computed.standsFor_selector s) d key c
    · exact .refl (fun _ => rfl) _
  | _, key, .textList s none, c => by
    simp only [Node.withStandIns, Node.markedCalls]
    split
    · exact Node.recasts_standIn (Computed.standsFor_textList s) d key c
    · exact .refl (fun _ => rfl) _
  | _, key, .textList s (some scope), c => by
    simp only [Node.withStandIns, Node.markedCalls]
    split
    · exact Node.recasts_standIn (Computed.standsFor_textList_some s scope) d key c
    · exact .refl (fun _ => rfl) _
  | chosen, key, .list item (some scope), c => by
    simp only [Node.withStandIns, Node.markedCalls]
    split
    · exact Node.recasts_standIn (Computed.standsFor_list item scope) d key c
    · simp only [Node.extract]
      refine Recasts.ofLogged_bind ?_
      rw [Document.value_queryContext_some]
      refine (Recasts.mapM (fun e => ?_) (fun e => ?_) _).map _
      · exact Schema.recasts_withStandIns d chosen item (.node e)
      · rw [Schema.map_call_markedCalls]
        exact item.makes_extractIn d (.node e)
  | _, _, .list _ none, _ => by
    simp only [Node.withStandIns, Node.markedCalls, Node.extract]
    refine Recasts.ofLogged_bind ?_
    rw [Document.value_queryContext_none, List.mapM_nil, List.mapM_nil]
    exact .refl (fun _ => rfl) _
  | _, _, .computed _, _ => by
    simp only [Node.withStandIns, Node.markedCalls]
    exact .refl (fun s => blame_unmarked _ s) _
  | chosen, key, .nested S, c => by
    simp only [Node.withStandIns, Node.markedCalls]
    split
    · exact Node.recasts_standIn (Computed.standsFor_nested S) d key c
    · simp only [Node.extract]
      exact Schema.recasts_withStandIns d chosen S c

end

/-! ## Headline property -/

/-- **Stand-ins.** Replace nodes of a schema, any set of them at any depth, by computed fields that
query and extract as a caller does. From every state, in every document and context, both schemas
give the same value, or both fail in the same call of a computed field. If that call is made for a
node that was replaced, the error is reported with the key of the node and the error itself as the
cause; otherwise it is the same. The state that is left and the events are the same, too. -/
theorem extractIn_withStandIns (S : Schema σ) (chosen : Position → Bool) (d : Document)
    (c : Context) (s : σ) :
    ((∃ v, ((S.extractIn d c).run s).result = .ok v ∧
        (((S.withStandIns chosen).extractIn d c).run s).result = .ok v) ∨
      ∃ before m source, before ++ [m] <+: S.markedCalls d chosen c ∧
        FirstFailure d (S.calls d c) s (before.map MarkedCall.call) m.call source ∧
        ((S.extractIn d c).run s).result = .error (.computed m.call.key source) ∧
        (((S.withStandIns chosen).extractIn d c).run s).result =
          .error (reportedFor m.inside (.computed m.call.key source))) ∧
    (S.markedCalls d chosen c).map MarkedCall.call = S.calls d c ∧
    (((S.withStandIns chosen).extractIn d c).run s).state = ((S.extractIn d c).run s).state ∧
    (((S.withStandIns chosen).extractIn d c).run s).events = ((S.extractIn d c).run s).events := by
  have hcalls := S.map_call_markedCalls d chosen c
  have hrun := S.recasts_withStandIns d chosen c s
  have hfollows := S.follows_extractIn d c
  refine ⟨?_, hcalls, by rw [hrun], by rw [hrun]⟩
  rcases allSucceed_or_firstFailure d (S.calls d c) s with hs | ⟨before, k, source, hf⟩
  · rw [← S.calls_walk d c] at hs
    obtain ⟨v, hv⟩ := (hfollows.of_allSucceed hs).1
    refine .inl ⟨v, hv, ?_⟩
    rw [hrun, hv]
    rfl
  · have hmarked := hf
    rw [← hcalls] at hmarked
    obtain ⟨front, m, hp, rfl, rfl, hblame⟩ := blame_of_firstFailure hmarked
    have hwalk := hf
    rw [← S.calls_walk d c] at hwalk
    have he := (hfollows.of_firstFailure hwalk).1
    refine .inr ⟨front, m, source, hp, hf, he, ?_⟩
    rw [hrun, he, hblame]
    rfl

/-- Rows of bold texts, and a field that fails, in a nested schema. -/
def rowsAndFailure : Schema Nat :=
  (Schema.empty.field "rows" (.list boldText (some "p"))).field "meta"
    (.nested (Schema.empty.computed "author" fun _ _ => Run.fail (.message "none")))

/-- The nested schema and the list are replaced: the error is reported for the key `meta`. -/
example : (((rowsAndFailure.withStandIns fun p => p = [0] || p = [1]).extractIn boldPage
    .document).run 0).result =
      .error (.computed "meta" (.error (.computed "author" (.message "none")))) := rfl

end WebExtract
