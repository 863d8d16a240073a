import WebExtract.Schema.Basic

/-!
# Schemas from JSON

A string is a selector; an object is a nested schema; an array is a list, of which the first
element is the item and the second the context. Anything else becomes an empty object, and is
reported with its path. Only the value at the top has to be an object; the readers check it wherever
they read an object.

A path is made of keys with points between them; the item of a list has the path of the list
followed by brackets.
-/
namespace WebExtract

namespace Schema

variable {σ : Type}

def childPath (path key : String) : String := if path = "" then key else path ++ "." ++ key

def itemPath (path : String) : String := path ++ "[]"

/-- A reading of JSON that may fail, with the reports up to there. -/
abbrev Attempt (α : Type) := ExceptT SchemaError Logged α

/-- How a reading ended. There are reports on a schema, none on a failure. -/
def Attempt.outcome {α : Type} (x : Attempt α) : Except SchemaError (Logged α) :=
  match x.run with
  | ⟨.ok a, events⟩ => .ok ⟨a, events⟩
  | ⟨.error e, _⟩ => .error e

/-- The schema of a value that has no fields to read.
mirrors schema:89-96 (`empty_schema`) -/
def ofOddValue (path : String) (v : Json) : Logged (Schema σ) := do
  Logged.emit (.oddValue path v)
  return .empty

/-- The context of a list, from the elements after its first.
mirrors schema:100-107 (`list_from_json`) -/
def listContext (path : String) : List Json → Logged (Option String)
  | [] => return none
  | .string s :: _ => return some s
  | v :: _ => do
    Logged.emit (.oddContext path v)
    return none

mutual

/-- mirrors schema:77-84 (`SchemaNode::from_json_at`) -/
def nodeAt (path : String) (v : Json) : Attempt (Node σ) := do
  match v with
  | .string s => return .selector s
  | .array elements => listAt path elements
  | .object members => return .nested (← objectAt path (.object members))
  | v => return .nested (← ofOddValue path v)
termination_by (sizeOf v, 1)

/-- mirrors schema:99-123 (`list_from_json`) -/
def listAt (path : String) (elements : List Json) : Attempt (Node σ) := do
  let context ← listContext path elements.tail
  match elements with
  | .string s :: _ => return .textList s context
  | .object members :: _ => return .list (← objectAt (itemPath path) (.object members)) context
  | v :: _ => return .list (← ofOddValue (itemPath path) v) context
  | [] => return .list .empty context
termination_by (sizeOf elements, 1)

/-- mirrors schema:221-238 (`Schema::from_object_at`) -/
def objectAt (path : String) (v : Json) : Attempt (Schema σ) := do
  match v with
  | .object members => return .mk (← fieldsAt path members)
  | v => throw (.notAnObject v.kind)
termination_by (sizeOf v, 0)

/-- The fields that the members of an object make, in their order. -/
def fieldsAt (path : String) (members : List (String × Json)) :
    Attempt (List (String × Node σ)) := do
  match members with
  | [] => return []
  | (key, v) :: members =>
    let node ← nodeAt (childPath path key) v
    let rest ← fieldsAt path members
    return (key, node) :: rest
termination_by (sizeOf members, 1)

end

/-- The schema that a JSON value describes, with the reports on it.
mirrors schema:217-219 (`Schema::from_json`) -/
def ofJson (v : Json) : Except SchemaError (Logged (Schema σ)) := (objectAt "" v).outcome

/-- The schema that a JSON text describes.
mirrors schema:244-247 (`Schema::from_str`) -/
def ofText (text : String) : Except SchemaError (Logged (Schema σ)) := do
  let v ← (Json.read text).mapError .json
  ofJson v

end Schema

end WebExtract
