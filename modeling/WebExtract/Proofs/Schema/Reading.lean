import WebExtract.Schema.OfJson

/-!
# Reading below the top cannot fail

The readers of `Schema.OfJson` check at every depth that what they read as an object is one, and
pass a failure on. Below the top the check never fails, since a value is read as an object only if
it is one. So each of them does what a plain reader does that has no way to fail.

**Results.**
* `nodeAt_eq`, `listAt_eq`, `fieldsAt_eq`: the readers of members' values, lists and members are
  plain readers, for all values at all depths; by induction on the value.
* `objectAt_object`, `objectAt_of_not_object`: so reading an object fails exactly for what is none,
  and then at once.
* `exists_ofJson_iff`, `ofJson_eq_error_iff`: the same for whole values.
-/
namespace WebExtract

theorem Json.isObject_iff (v : Json) : v.isObject = true ↔ ∃ members, v = .object members := by
  cases v <;> simp [isObject]

namespace Schema

variable {σ : Type}

/-! ## Plain readers -/

mutual

def nodeOfJson (path : String) : Json → Logged (Node σ)
  | .string s => return .selector s
  | .array elements => listOfJson path elements
  | .object members => return .nested (.mk (← fieldsOfJson path members))
  | v => return .nested (← ofOddValue path v)

def listOfJson (path : String) : List Json → Logged (Node σ)
  | [] => return .list .empty none
  | item :: rest => do
    let context ← listContext path rest
    itemOfJson path context item

/-- The list with the given context that an item makes. -/
def itemOfJson (path : String) (context : Option String) : Json → Logged (Node σ)
  | .string s => return .textList s context
  | .object members => return .list (.mk (← fieldsOfJson (itemPath path) members)) context
  | v => return .list (← ofOddValue (itemPath path) v) context

def fieldsOfJson (path : String) : List (String × Json) → Logged (List (String × Node σ))
  | [] => return []
  | (key, v) :: members => do
    let node ← nodeOfJson (childPath path key) v
    let rest ← fieldsOfJson path members
    return (key, node) :: rest

end

/-! ## The readers are plain -/

theorem liftM_eq_lift {α : Type} (x : Logged α) : (liftM x : Attempt α) = ExceptT.lift x := rfl

mutual

/-- No value makes the reading of a member fail. -/
theorem nodeAt_eq : ∀ (path : String) (v : Json),
    nodeAt (σ := σ) path v = ExceptT.lift (nodeOfJson path v)
  | path, .string s => by simp only [nodeAt, nodeOfJson]; rfl
  | path, .array vs => by simp only [nodeAt, nodeOfJson, listAt_eq path vs]
  | path, .object ms => by
    apply ExceptT.ext
    simp [nodeAt, nodeOfJson, objectAt, fieldsAt_eq path ms, Except.map]
  | path, .null | path, .bool _ | path, .number _ => by
    apply ExceptT.ext
    simp [nodeAt, nodeOfJson, Except.map]

theorem listAt_eq : ∀ (path : String) (vs : List Json),
    listAt (σ := σ) path vs = ExceptT.lift (listOfJson path vs)
  | path, [] => by
    apply ExceptT.ext
    simp [listAt, listOfJson, listContext]
  | path, .string s :: rest => by
    apply ExceptT.ext
    simp [listAt, listOfJson, itemOfJson, liftM_eq_lift, Except.map]
  | path, .object ms :: rest => by
    apply ExceptT.ext
    simp [listAt, listOfJson, itemOfJson, objectAt, fieldsAt_eq (itemPath path) ms, liftM_eq_lift,
      Except.map]
  | path, .array _ :: rest | path, .null :: rest | path, .bool _ :: rest
  | path, .number _ :: rest => by
    apply ExceptT.ext
    simp [listAt, listOfJson, itemOfJson, liftM_eq_lift, Except.map]

theorem fieldsAt_eq : ∀ (path : String) (ms : List (String × Json)),
    fieldsAt (σ := σ) path ms = ExceptT.lift (fieldsOfJson path ms)
  | path, [] => by simp only [fieldsAt, fieldsOfJson]; rfl
  | path, (key, v) :: ms => by
    apply ExceptT.ext
    simp [fieldsAt, fieldsOfJson, nodeAt_eq (childPath path key) v, fieldsAt_eq path ms, Except.map]

end

theorem exists_nodeAt (path : String) (v : Json) :
    ∃ n : Node σ, (nodeAt path v).run.value = .ok n :=
  ⟨(nodeOfJson path v).value, by rw [nodeAt_eq]; rfl⟩

/-! ## Objects -/

theorem objectAt_object (path : String) (ms : List (String × Json)) :
    objectAt (σ := σ) path (.object ms) = ExceptT.lift (Schema.mk <$> fieldsOfJson path ms) := by
  apply ExceptT.ext
  simp [objectAt, fieldsAt_eq path ms, Except.map]

theorem objectAt_of_not_object (path : String) {v : Json} (h : v.isObject = false) :
    objectAt (σ := σ) path v = throw (.notAnObject v.kind) := by
  cases v with
  | object ms => cases h
  | _ => simp [objectAt]

theorem exists_objectAt_iff (path : String) (v : Json) :
    (∃ S : Schema σ, (objectAt path v).run.value = .ok S) ↔ v.isObject = true := by
  cases h : v.isObject with
  | true =>
    obtain ⟨ms, rfl⟩ := v.isObject_iff.1 h
    exact iff_of_true ⟨.mk (fieldsOfJson path ms).value, by rw [objectAt_object]; rfl⟩ rfl
  | false =>
    rw [objectAt_of_not_object path h]
    exact iff_of_false (fun ⟨S, hS⟩ => by cases hS) (by simp)

theorem Attempt.outcome_lift {α : Type} (x : Logged α) :
    Attempt.outcome (ExceptT.lift x) = .ok x := by
  simp [outcome, Functor.map, Logged.bind]

theorem ofJson_object (ms : List (String × Json)) :
    ofJson (σ := σ) (.object ms) = .ok (Schema.mk <$> fieldsOfJson "" ms) := by
  rw [ofJson, objectAt_object, Attempt.outcome_lift]

theorem ofJson_of_not_object {v : Json} (h : v.isObject = false) :
    ofJson (σ := σ) v = .error (.notAnObject v.kind) := by
  rw [ofJson, objectAt_of_not_object "" h]
  rfl

theorem exists_ofJson_iff (v : Json) :
    (∃ l : Logged (Schema σ), ofJson v = .ok l) ↔ v.isObject = true := by
  cases h : v.isObject with
  | true =>
    obtain ⟨ms, rfl⟩ := v.isObject_iff.1 h
    exact iff_of_true ⟨_, ofJson_object ms⟩ rfl
  | false =>
    rw [ofJson_of_not_object h]
    simp

theorem ofJson_eq_error_iff (v : Json) :
    ofJson (σ := σ) v = .error (.notAnObject v.kind) ↔ v.isObject = false := by
  refine ⟨fun he => ?_, ofJson_of_not_object⟩
  cases h : v.isObject with
  | true =>
    obtain ⟨l, hl⟩ := (exists_ofJson_iff (σ := σ) v).2 h
    rw [hl] at he
    cases he
  | false => rfl

end Schema

end WebExtract
