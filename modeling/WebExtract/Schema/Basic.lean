import WebExtract.Document
import WebExtract.Error

/-!
# Schemas

A schema says what to extract: an ordered map from output keys to nodes. Computed nodes are
functions of the document and the context; they may use a state `σ` of the caller.

* `keys_field`, `get?_field`: a key that is given again keeps its position and takes the new node.
-/
namespace WebExtract

/-- A function that derives a value from where it is evaluated.
mirrors schema:26-27 (`ComputedFn`) -/
abbrev Computed (σ : Type) := Document → Context → Run σ Cause Json

mutual

/-- mirrors schema:165-167 (`Schema`) -/
inductive Schema (σ : Type)
  | mk (fields : List (String × Node σ))

/-- mirrors schema:30-49 (`SchemaNode`) -/
inductive Node (σ : Type)
  /-- The text of the first match. -/
  | selector (selector : String)
  /-- The texts of all matches, inside the matches of the context if there is one. -/
  | textList (selector : String) (context : Option String)
  /-- An object for each match of the context, with that match as the context of the item. -/
  | list (item : Schema σ) (context : Option String)
  | computed (f : Computed σ)
  /-- An object in the same context. -/
  | nested (schema : Schema σ)

end

namespace Schema

variable {σ : Type}

def fields : Schema σ → Entries (Node σ)
  | .mk fs => fs

def empty : Schema σ := .mk []

/-- Adds a field. A known key keeps its position and takes the new node.
mirrors schema:175-183 (`Schema::field`) -/
def field (s : Schema σ) (key : String) (node : Node σ) : Schema σ := .mk (s.fields.put key node)

/-- mirrors schema:185-190 (`Schema::computed`) -/
def computed (s : Schema σ) (key : String) (f : Computed σ) : Schema σ :=
  s.field key (.computed f)

/-- mirrors schema:196-198 (`Schema::keys`) -/
def keys (s : Schema σ) : List String := s.fields.keys

/-- mirrors schema:200-202 (`Schema::get`) -/
def get? (s : Schema σ) (key : String) : Option (Node σ) := s.fields.get? key

/-- mirrors schema:204-206 (`Schema::len`) -/
def length (s : Schema σ) : Nat := s.fields.length

/-- mirrors schema:208-210 (`Schema::is_empty`) -/
def isEmpty (s : Schema σ) : Bool := s.fields.isEmpty

@[simp] theorem fields_mk (fs : List (String × Node σ)) : (mk fs).fields = fs := rfl

theorem keys_field (s : Schema σ) (key : String) (node : Node σ) :
    (s.field key node).keys = if key ∈ s.keys then s.keys else s.keys ++ [key] :=
  Entries.keys_put key node s.fields

theorem get?_field (s : Schema σ) (key key' : String) (node : Node σ) :
    (s.field key node).get? key' = if key = key' then some node else s.get? key' :=
  Entries.get?_put key key' node s.fields

end Schema

end WebExtract
