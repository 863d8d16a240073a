import WebExtract.Proofs.Extract.Calls

/-!
# The selectors that an extraction evaluates

`Schema.acts d S c` lists what an extraction of `S` does, in order: it enters fields, evaluates
selectors and calls computed fields. A text list evaluates its context first and its own selector
only if the context has a match; a list with a context evaluates it once, and then does what its
item does in each match.

Acts say less than steps about events and more about selectors: a selector is evaluated whether it
can be read or not, and there is an event only if it cannot.

**Results.**
* `Schema.walk_eq_acts`: the steps of an extraction are those of its acts.
* `Schema.events_extractIn`: so are its events, up to the first call that fails.
* `Schema.calls_eq_acts`: the calls are the acts that are calls.
-/
namespace WebExtract

variable {σ : Type}

/-! ## Acts -/

inductive Act (σ : Type)
  /-- Enters the field with a key. -/
  | enter (key : String)
  | evaluate (selector : String)
  | call (k : Call σ)

mutual

def Schema.acts (d : Document) : Schema σ → Context → List (Act σ)
  | .mk fields, c => Schema.fieldActs d fields c

def Schema.fieldActs (d : Document) : List (String × Node σ) → Context → List (Act σ)
  | [], _ => []
  | (key, node) :: fields, c => .enter key :: (node.acts d key c ++ Schema.fieldActs d fields c)

def Node.acts (d : Document) (key : String) : Node σ → Context → List (Act σ)
  | .selector s, _ => [.evaluate s]
  | .textList s none, _ => [.evaluate s]
  | .textList s (some scope), c =>
    .evaluate scope :: if (d.find scope c).isEmpty then [] else [.evaluate s]
  | .list item (some scope), c =>
    .evaluate scope :: (d.find scope c).flatMap fun e => item.acts d (.node e)
  | .list _ none, _ => []
  | .computed f, c => [.call ⟨key, f, c⟩]
  | .nested S, c => S.acts d c

end

/-! ## Steps of acts -/

def Css.readable (s : String) : Bool := (Css.Selector.parse? s).isSome

/-- What is reported when a selector is evaluated. -/
def evaluationEvents (s : String) : List Event :=
  if Css.readable s then [] else [.unreadableSelector s]

def Act.steps : Act σ → List (Step σ)
  | .enter key => [.emit (.field key)]
  | .evaluate s => (evaluationEvents s).map .emit
  | .call k => [.call k]

theorem Document.events_query (d : Document) (s : String) (c : Context) :
    (d.query s c).events = evaluationEvents s := by
  unfold Document.query evaluationEvents Css.readable
  cases Css.Selector.parse? s <;> rfl

theorem Document.events_firstText (d : Document) (s : String) (c : Context) :
    (d.firstText s c).events = evaluationEvents s := by
  simp [Document.firstText, Document.events_query]

/-- The selector is looked at only if the context has a match. -/
theorem Document.events_matchesWithin (d : Document) (s scope : String) (c : Context) :
    (d.matchesWithin s scope c).events = evaluationEvents scope ++
      if (d.find scope c).isEmpty then [] else evaluationEvents s := by
  simp only [Document.matchesWithin, Logged.events_bind, Document.value_query,
    Document.events_query]
  cases d.find scope c <;> simp [Document.events_query]

mutual

theorem Schema.walk_eq_acts (d : Document) : ∀ (S : Schema σ) (c : Context),
    S.walk d c = (S.acts d c).flatMap Act.steps
  | .mk fields, c => by
    simp only [Schema.walk, Schema.acts]
    exact Schema.fieldWalk_eq_acts d fields c

theorem Schema.fieldWalk_eq_acts (d : Document) : ∀ (fields : List (String × Node σ))
    (c : Context), Schema.fieldWalk d fields c = (Schema.fieldActs d fields c).flatMap Act.steps
  | [], _ => by simp only [Schema.fieldWalk, Schema.fieldActs, List.flatMap_nil]
  | (key, node) :: fields, c => by
    simp only [Schema.fieldWalk, Schema.fieldActs, List.flatMap_cons, List.flatMap_append,
      Node.walk_eq_acts d key node c, Schema.fieldWalk_eq_acts d fields c]
    rfl

theorem Node.walk_eq_acts (d : Document) (key : String) : ∀ (n : Node σ) (c : Context),
    n.walk d key c = (n.acts d key c).flatMap Act.steps
  | .selector s, c => by
    simp only [Node.walk, Node.acts, List.flatMap_singleton, Document.events_firstText]
    rfl
  | .textList s none, c => by
    simp [Node.walk, Node.acts, Act.steps, Document.listTexts, Document.events_query]
  | .textList s (some scope), c => by
    simp only [Node.walk, Node.acts, List.flatMap_cons, Act.steps, Document.listTexts,
      Document.textsWithin, Logged.events_bind, Logged.events_pure, List.append_nil,
      Document.events_matchesWithin, List.map_append]
    split <;> simp [Act.steps]
  | .list item (some scope), c => by
    have ih : ∀ e, item.walk d (.node e) = (item.acts d (.node e)).flatMap Act.steps :=
      fun e => Schema.walk_eq_acts d item (.node e)
    simp only [Node.walk, Node.acts, Document.queryContext, Document.events_query,
      Document.value_query, ih, List.flatMap_cons, Act.steps, List.flatMap_assoc]
  | .list item none, c => by
    simp [Node.walk, Node.acts, Document.queryContext]
  | .computed f, c => by
    simp only [Node.walk, Node.acts, List.flatMap_singleton, Act.steps]
  | .nested S, c => by
    simp only [Node.walk, Node.acts]
    exact Schema.walk_eq_acts d S c

end

/-! ## Events and calls of an extraction -/

theorem Follows.events_eq {d : Document} {α : Type} {x : Run σ ScrapeError α} {w : List (Step σ)}
    (h : Follows d x w) (s : σ) : (x.run s).events = eventsOf d w s := by
  rcases allSucceed_or_firstFailure d (w.filterMap Step.call?) s with hs | ⟨before, k, source, hf⟩
  · exact (h.of_allSucceed hs).2.2
  · exact (h.of_firstFailure hf).2.2

theorem Schema.events_extractIn (S : Schema σ) (d : Document) (c : Context) (s : σ) :
    ((S.extractIn d c).run s).events = eventsOf d ((S.acts d c).flatMap Act.steps) s := by
  rw [(S.follows_extractIn d c).events_eq, S.walk_eq_acts]

theorem Schema.calls_eq_acts (S : Schema σ) (d : Document) (c : Context) :
    S.calls d c = ((S.acts d c).flatMap Act.steps).filterMap Step.call? := by
  rw [← S.calls_walk, S.walk_eq_acts]

end WebExtract
