import WebExtract.Proofs.Entries
import WebExtract.Proofs.Schema.Constructible

/-!
# Schemas from JSON texts, field by field

A JSON text may repeat a key. Reading it merges the repeated members, and only then are the fields
made, one for each member that is left (`Schema.ofText`). Here the same schema is made without
merging: each member as it was written adds a field to the empty schema, and so for the objects
inside (`Schema.ofMembers`). The two routes overwrite in two different places, the one in JSON
objects and the other in schemas.

**Results.**
* `keys_withFields`, `get?_withFields`: several fields added in a row keep the first position and
  the last node of each key.
* `value_fieldsOfJson_put`: it makes no difference whether a member is put into an object that is
  read, or its field into the schema.
* `ofText_withFields`: so both routes lead to the same schema, at every depth.
-/
namespace WebExtract

namespace Schema

variable {σ : Type}

/-! ## Fields in a row -/

/-- The schema with fields added one after the other. -/
def withFields (S : Schema σ) (calls : List (String × Node σ)) : Schema σ :=
  calls.foldl (fun S call => S.field call.1 call.2) S

theorem fields_withFields (S : Schema σ) (calls : List (String × Node σ)) :
    (S.withFields calls).fields = S.fields.putAll calls := by
  induction calls generalizing S with
  | nil => rfl
  | cons call calls ih => exact ih (S.field call.1 call.2)

theorem empty_withFields (calls : List (String × Node σ)) :
    empty.withFields calls = mk (Entries.putAll [] calls) := by
  have h := fields_withFields empty calls
  generalize empty.withFields calls = S at h ⊢
  obtain ⟨fields⟩ := S
  exact congrArg mk h

theorem keys_withFields (S : Schema σ) (calls : List (String × Node σ)) :
    (S.withFields calls).keys =
      S.keys ++ ((Entries.keys calls).removeAll S.keys).eraseDups := by
  rw [keys, fields_withFields, Entries.keys_putAll]
  rfl

theorem get?_withFields (S : Schema σ) (calls : List (String × Node σ)) (key : String) :
    (S.withFields calls).get? key = (Entries.get? key calls.reverse).or (S.get? key) := by
  rw [get?, fields_withFields, Entries.get?_putAll]
  rfl

/-! ## Fields from members as written -/

/-- The context that the elements after the first of an array stand for. -/
def contextOf : List Json → Option String
  | .string s :: _ => some s
  | _ => none

mutual

/-- The node that a member's value stands for. Objects add their fields to the empty schema. -/
def nodeOfMember : Json → Node σ
  | .string s => .selector s
  | .array elements => nodeOfElements elements
  | .object members => .nested (empty.withFields (fieldsOfMembers members))
  | _ => .nested .empty

def nodeOfElements : List Json → Node σ
  | [] => .list .empty none
  | item :: rest => nodeOfItem (contextOf rest) item

def nodeOfItem (context : Option String) : Json → Node σ
  | .string s => .textList s context
  | .object members => .list (empty.withFields (fieldsOfMembers members)) context
  | _ => .list .empty context

def fieldsOfMembers : List (String × Json) → List (String × Node σ)
  | [] => []
  | (key, v) :: members => (key, nodeOfMember v) :: fieldsOfMembers members

end

/-- The schema made by adding a field for each member, in the order of the members. -/
def ofMembers (members : List (String × Json)) : Schema σ :=
  empty.withFields (fieldsOfMembers members)

theorem fieldsOfMembers_eq_map (members : List (String × Json)) :
    fieldsOfMembers (σ := σ) members = members.map fun m => (m.1, nodeOfMember m.2) := by
  induction members with
  | nil => simp only [fieldsOfMembers, List.map_nil]
  | cons m members ih => simp only [fieldsOfMembers, List.map_cons, ih]

/-! ## Merging members and adding fields -/

/-- A member put into an object shows as a field put into the schema. -/
theorem value_fieldsOfJson_put (path key : String) (v : Json) (ms : Entries Json) :
    (fieldsOfJson (σ := σ) path (ms.put key v)).value =
      Entries.put key (nodeOfJson (childPath path key) v).value (fieldsOfJson path ms).value := by
  induction ms with
  | nil => simp [Entries.put, fieldsOfJson]
  | cons m ms ih =>
    obtain ⟨key', v'⟩ := m
    by_cases h : key' = key
    · subst h
      simp [Entries.put, fieldsOfJson]
    · simp [Entries.put, fieldsOfJson, h, ih]

theorem value_listContext_mergeElements (path : String) (rest : List Json) :
    (listContext path (Json.mergeElements rest)).value = contextOf rest := by
  cases rest with
  | nil => rfl
  | cons v rest => cases v <;> rfl

mutual

theorem value_nodeOfJson_mergeRepeats : ∀ (path : String) (v : Json),
    (nodeOfJson (σ := σ) path v.mergeRepeats).value = nodeOfMember v
  | _, .string _ => by simp only [Json.mergeRepeats, nodeOfJson, nodeOfMember, Logged.value_pure]
  | path, .array vs => by
    simp only [Json.mergeRepeats, nodeOfJson, nodeOfMember]
    exact value_listOfJson_mergeElements path vs
  | path, .object ms => by
    simp only [Json.mergeRepeats, nodeOfJson, nodeOfMember, Logged.value_bind, Logged.value_pure]
    rw [value_fieldsOfJson_mergeMembers path [] ms, empty_withFields]
    simp only [fieldsOfJson, Logged.value_pure]
  | _, .null | _, .bool _ | _, .number _ => by
    simp only [Json.mergeRepeats, nodeOfJson, nodeOfMember, Logged.value_bind, Logged.value_pure]
    rfl

theorem value_listOfJson_mergeElements : ∀ (path : String) (vs : List Json),
    (listOfJson (σ := σ) path (Json.mergeElements vs)).value = nodeOfElements vs
  | _, [] => by simp only [Json.mergeElements, listOfJson, nodeOfElements, Logged.value_pure]
  | path, item :: rest => by
    simp only [Json.mergeElements, listOfJson, nodeOfElements, Logged.value_bind]
    rw [value_listContext_mergeElements]
    exact value_itemOfJson_mergeRepeats path _ item

theorem value_itemOfJson_mergeRepeats : ∀ (path : String) (context : Option String) (v : Json),
    (itemOfJson (σ := σ) path context v.mergeRepeats).value = nodeOfItem context v
  | _, _, .string _ => by simp only [Json.mergeRepeats, itemOfJson, nodeOfItem, Logged.value_pure]
  | path, _, .object ms => by
    simp only [Json.mergeRepeats, itemOfJson, nodeOfItem, Logged.value_bind, Logged.value_pure]
    rw [value_fieldsOfJson_mergeMembers (itemPath path) [] ms, empty_withFields]
    simp only [fieldsOfJson, Logged.value_pure]
  | _, _, .array _ | _, _, .null | _, _, .bool _ | _, _, .number _ => by
    simp only [Json.mergeRepeats, itemOfJson, nodeOfItem, Logged.value_bind, Logged.value_pure]
    rfl

theorem value_fieldsOfJson_mergeMembers : ∀ (path : String) (done ms : List (String × Json)),
    (fieldsOfJson (σ := σ) path (Json.mergeMembers done ms)).value =
      Entries.putAll (fieldsOfJson path done).value (fieldsOfMembers ms)
  | _, _, [] => by simp only [Json.mergeMembers, fieldsOfMembers, Entries.putAll_nil]
  | path, done, (key, v) :: ms => by
    simp only [Json.mergeMembers, fieldsOfMembers, Entries.putAll_cons]
    rw [value_fieldsOfJson_mergeMembers path _ ms, value_fieldsOfJson_put,
      value_nodeOfJson_mergeRepeats (childPath path key) v]

end

/-! ## Whole texts -/

theorem ofJson_mergeRepeats (members : List (String × Json)) :
    ∃ l : Logged (Schema σ), ofJson (Json.object members).mergeRepeats = .ok l ∧
      l.value = ofMembers members := by
  rw [Json.mergeRepeats, ofJson_object]
  refine ⟨_, rfl, ?_⟩
  rw [Logged.value_map, value_fieldsOfJson_mergeMembers, ofMembers, empty_withFields]
  simp only [fieldsOfJson, Logged.value_pure]

theorem keys_ofMembers (members : List (String × Json)) :
    (ofMembers (σ := σ) members).keys = (members.map Prod.fst).eraseDups := by
  rw [ofMembers, keys_withFields, fieldsOfMembers_eq_map]
  simp [Entries.keys, keys, empty, List.removeAll, Function.comp_def]

theorem get?_ofMembers (members : List (String × Json)) (key : String) :
    (ofMembers (σ := σ) members).get? key =
      (Entries.get? key members.reverse).map nodeOfMember := by
  rw [ofMembers, get?_withFields, fieldsOfMembers_eq_map, ← List.map_reverse, Entries.get?_map]
  simp [get?, empty, Entries.get?]

end Schema

/-! ## Headline property -/

/-- **Texts and fields.** A text that is accepted as an object is read as the schema to which each
member, as it is written and in the order of the text, adds a field; the value that the text stands
for describes the same schema, with the same reports. In every schema made in this way, at whatever
depth, a key has the position of its first member and the node of its last. -/
theorem ofText_withFields {σ : Type} (text : String) (members : List (String × Json))
    (h : Json.readWritten text = .ok (.object members)) :
    (∃ l : Logged (Schema σ), Schema.ofText text = .ok l ∧
      l.value = Schema.ofMembers members ∧
      ∃ v, Json.read text = .ok v ∧ Schema.ofJson v = .ok l) ∧
    ∀ ms : List (String × Json),
      (Schema.ofMembers (σ := σ) ms).keys = (ms.map Prod.fst).eraseDups ∧
      ∀ key, (Schema.ofMembers (σ := σ) ms).get? key =
        (Entries.get? key ms.reverse).map Schema.nodeOfMember := by
  have hread : Json.read text = .ok (Json.object members).mergeRepeats := by
    rw [Json.read, h]
    rfl
  obtain ⟨l, hjson, hl⟩ := Schema.ofJson_mergeRepeats (σ := σ) members
  refine ⟨⟨l, ?_, hl, _, hread, hjson⟩, fun ms => ?_⟩
  · rw [Schema.ofText, hread]
    exact hjson
  · exact ⟨Schema.keys_ofMembers ms, Schema.get?_ofMembers ms⟩

/-- `{"a": "x", "r": [{"k": "p", "j": 5, "k": ["q", "u", 0]}, "li"], "a": {"n": null, "n": "b"}}` -/
def repeatingText : String :=
  "\x7b\"a\": \"x\", " ++
    "\"r\": [\x7b\"k\": \"p\", \"j\": 5, \"k\": [\"q\", \"u\", 0]\x7d, \"li\"], " ++
    "\"a\": \x7b\"n\": null, \"n\": \"b\"\x7d\x7d"

def repeatingMembers : List (String × Json) :=
  [("a", .string "x"),
    ("r", .array [.object [("k", .string "p"), ("j", .nat 5),
      ("k", .array [.string "q", .string "u", .nat 0])], .string "li"]),
    ("a", .object [("n", .null), ("n", .string "b")])]

def repeatingSchema : Schema Nat :=
  let row : Schema Nat := .field .empty "k" (.textList "q" (some "u"))
  let inner : Schema Nat := .field .empty "n" (.selector "b")
  (Schema.empty.field "a" (.nested inner)).field "r"
    (.list (row.field "j" (.nested .empty)) (some "li"))

theorem ofText_withFields_repeating :
    Json.readWritten repeatingText = .ok (.object repeatingMembers) ∧
    (∃ l : Logged (Schema Nat), Schema.ofText repeatingText = .ok l ∧ l.value = repeatingSchema) ∧
    (Schema.ofMembers (σ := Nat) repeatingMembers).keys = ["a", "r"] := by
  have h : Json.readWritten repeatingText = .ok (.object repeatingMembers) := by
    have ho : (Json.readWritten repeatingText).toOption = some (.object repeatingMembers) := by
      decide +kernel
    cases hr : Json.readWritten repeatingText with
    | error e => rw [hr] at ho; cases ho
    | ok v => rw [hr] at ho; cases ho; rfl
  obtain ⟨⟨l, hl, hv, -⟩, hm⟩ := ofText_withFields (σ := Nat) repeatingText repeatingMembers h
  exact ⟨h, ⟨l, hl, hv⟩, (hm repeatingMembers).1⟩

end WebExtract
