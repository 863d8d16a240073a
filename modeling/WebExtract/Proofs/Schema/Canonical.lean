import WebExtract.Proofs.Schema.Constructible

/-!
# Canonical JSON of schemas

Different JSON values may describe one schema: what cannot be read counts as an empty object, and of
an array only the first two elements are looked at. `Json.canon` leaves out of a value all that
makes no difference. In the other direction `Schema.toJson` writes a schema without computed fields
as JSON.

**Results.**
* `value_nodeOfJson_canon`: the canonical form describes the same schema, at whatever path.
* `toJson_nodeOfJson`: writing the schema that a value describes gives the value's canonical form.
* `nodeOfJson_toJson`: what is written is read back.
* `ofJson_canon`: so objects are read as the same schema exactly if their canonical forms are equal,
  and each schema without computed fields is described by one canonical object.
-/
namespace WebExtract

/-! ## Canonical form -/

namespace Json

/-- What is kept of the elements after the first of an array. -/
def canonContext : List Json → List Json
  | .string s :: _ => [.string s]
  | _ => []

mutual

/-- The canonical form of a member's value. -/
def canon : Json → Json
  | .string s => .string s
  | .array elements => .array (canonList elements)
  | .object members => .object (canonMembers members)
  | _ => .object []

def canonList : List Json → List Json
  | [] => [.object []]
  | item :: rest => item.canonItem :: canonContext rest

/-- The canonical form of the first element of an array. -/
def canonItem : Json → Json
  | .string s => .string s
  | .object members => .object (canonMembers members)
  | _ => .object []

def canonMembers : List (String × Json) → List (String × Json)
  | [] => []
  | (key, v) :: members => (key, v.canon) :: canonMembers members

end

end Json

section

variable {σ : Type}

/-! ## Schemas as JSON -/

def contextToJson (context : Option String) : List Json := (context.map Json.string).toList

mutual

def Schema.toJson : Schema σ → Json
  | .mk fields => .object (Schema.fieldsToJson fields)

def Schema.fieldsToJson : List (String × Node σ) → List (String × Json)
  | [] => []
  | (key, node) :: fields => (key, node.toJson) :: Schema.fieldsToJson fields

/-- Functions are not written. -/
def Node.toJson : Node σ → Json
  | .selector s => .string s
  | .textList s context => .array (.string s :: contextToJson context)
  | .list item context => .array (item.toJson :: contextToJson context)
  | .computed _ => .null
  | .nested s => s.toJson

end

namespace Schema

@[simp] theorem value_ofOddValue (path : String) (v : Json) :
    (ofOddValue (σ := σ) path v).value = .empty := rfl

/-! ## Contexts of lists -/

theorem value_listContext_canonContext (path path' : String) (rest : List Json) :
    (listContext path' (Json.canonContext rest)).value = (listContext path rest).value := by
  cases rest with
  | nil => rfl
  | cons v rest => cases v <;> rfl

theorem contextToJson_listContext (path : String) (rest : List Json) :
    contextToJson (listContext path rest).value = Json.canonContext rest := by
  cases rest with
  | nil => rfl
  | cons v rest => cases v <;> rfl

theorem value_listContext_contextToJson (path : String) (context : Option String) :
    (listContext path (contextToJson context)).value = context := by
  cases context <;> rfl

/-! ## The canonical form describes the same schema -/

mutual

theorem value_nodeOfJson_canon : ∀ (path path' : String) (v : Json),
    (nodeOfJson (σ := σ) path' v.canon).value = (nodeOfJson path v).value
  | _, _, .string _ => by simp only [Json.canon, nodeOfJson, Logged.value_pure]
  | path, path', .array vs => by
    simp only [Json.canon, nodeOfJson]
    exact value_listOfJson_canon path path' vs
  | path, path', .object ms => by
    simp only [Json.canon, nodeOfJson, Logged.value_bind, Logged.value_pure]
    rw [value_fieldsOfJson_canon path path' ms]
  | _, _, .null | _, _, .bool _ | _, _, .number _ => by
    simp only [Json.canon, nodeOfJson, fieldsOfJson, Logged.value_bind, Logged.value_pure,
      value_ofOddValue]
    rfl

theorem value_listOfJson_canon : ∀ (path path' : String) (vs : List Json),
    (listOfJson (σ := σ) path' (Json.canonList vs)).value = (listOfJson path vs).value
  | _, _, [] => by
    simp only [Json.canonList, listOfJson, itemOfJson, fieldsOfJson, Logged.value_bind,
      Logged.value_pure]
    rfl
  | path, path', item :: rest => by
    simp only [Json.canonList, listOfJson, Logged.value_bind]
    rw [value_listContext_canonContext path path' rest]
    exact value_itemOfJson_canon path path' _ item

theorem value_itemOfJson_canon : ∀ (path path' : String) (context : Option String) (v : Json),
    (itemOfJson (σ := σ) path' context v.canonItem).value = (itemOfJson path context v).value
  | _, _, _, .string _ => by simp only [Json.canonItem, itemOfJson, Logged.value_pure]
  | path, path', _, .object ms => by
    simp only [Json.canonItem, itemOfJson, Logged.value_bind, Logged.value_pure]
    rw [value_fieldsOfJson_canon (itemPath path) (itemPath path') ms]
  | _, _, _, .array _ | _, _, _, .null | _, _, _, .bool _ | _, _, _, .number _ => by
    simp only [Json.canonItem, itemOfJson, fieldsOfJson, Logged.value_bind, Logged.value_pure,
      value_ofOddValue]
    rfl

theorem value_fieldsOfJson_canon : ∀ (path path' : String) (ms : List (String × Json)),
    (fieldsOfJson (σ := σ) path' (Json.canonMembers ms)).value = (fieldsOfJson path ms).value
  | _, _, [] => by simp only [Json.canonMembers, fieldsOfJson, Logged.value_pure]
  | path, path', (key, v) :: ms => by
    simp only [Json.canonMembers, fieldsOfJson, Logged.value_bind, Logged.value_pure]
    rw [value_nodeOfJson_canon (childPath path key) (childPath path' key) v,
      value_fieldsOfJson_canon path path' ms]

end

/-! ## Writing what was read -/

mutual

theorem toJson_nodeOfJson : ∀ (path : String) (v : Json),
    (nodeOfJson (σ := σ) path v).value.toJson = v.canon
  | _, .string _ => by simp only [nodeOfJson, Logged.value_pure, Node.toJson, Json.canon]
  | path, .array vs => by
    simp only [nodeOfJson, Json.canon]
    exact toJson_listOfJson path vs
  | path, .object ms => by
    simp only [nodeOfJson, Logged.value_bind, Logged.value_pure, Node.toJson, Schema.toJson,
      Json.canon]
    rw [fieldsToJson_fieldsOfJson path ms]
  | _, .null | _, .bool _ | _, .number _ => by
    simp only [nodeOfJson, Logged.value_bind, Logged.value_pure, value_ofOddValue, Node.toJson,
      empty, Schema.toJson, fieldsToJson, Json.canon]

theorem toJson_listOfJson : ∀ (path : String) (vs : List Json),
    (listOfJson (σ := σ) path vs).value.toJson = .array (Json.canonList vs)
  | _, [] => by
    simp only [listOfJson, Logged.value_pure, Node.toJson, empty, Schema.toJson, fieldsToJson,
      Json.canonList]
    rfl
  | path, item :: rest => by
    simp only [listOfJson, Logged.value_bind, Json.canonList]
    rw [toJson_itemOfJson path _ item, contextToJson_listContext]

theorem toJson_itemOfJson : ∀ (path : String) (context : Option String) (v : Json),
    (itemOfJson (σ := σ) path context v).value.toJson =
      .array (v.canonItem :: contextToJson context)
  | _, _, .string _ => by simp only [itemOfJson, Logged.value_pure, Node.toJson, Json.canonItem]
  | path, _, .object ms => by
    simp only [itemOfJson, Logged.value_bind, Logged.value_pure, Node.toJson, Schema.toJson,
      Json.canonItem]
    rw [fieldsToJson_fieldsOfJson (itemPath path) ms]
  | _, _, .array _ | _, _, .null | _, _, .bool _ | _, _, .number _ => by
    simp only [itemOfJson, Logged.value_bind, Logged.value_pure, value_ofOddValue, Node.toJson,
      empty, Schema.toJson, fieldsToJson, Json.canonItem]

theorem fieldsToJson_fieldsOfJson : ∀ (path : String) (ms : List (String × Json)),
    fieldsToJson (fieldsOfJson (σ := σ) path ms).value = Json.canonMembers ms
  | _, [] => by simp only [fieldsOfJson, Logged.value_pure, fieldsToJson, Json.canonMembers]
  | path, (key, v) :: ms => by
    simp only [fieldsOfJson, Logged.value_bind, Logged.value_pure, fieldsToJson,
      Json.canonMembers]
    rw [toJson_nodeOfJson (childPath path key) v, fieldsToJson_fieldsOfJson path ms]

end

/-! ## Reading what was written -/

mutual

theorem nodeOfJson_toJson : ∀ (path : String) (n : Node σ),
    n.All (fun _ => True) (fun _ => False) → (nodeOfJson path n.toJson).value = n
  | _, .selector _, _ => by simp only [Node.toJson, nodeOfJson, Logged.value_pure]
  | path, .textList s context, _ => by
    simp only [Node.toJson, nodeOfJson, listOfJson, itemOfJson, Logged.value_bind,
      Logged.value_pure, value_listContext_contextToJson]
  | path, .list (.mk fields) context, h => by
    simp only [Node.toJson, Schema.toJson, nodeOfJson, listOfJson, itemOfJson, Logged.value_bind,
      Logged.value_pure, value_listContext_contextToJson]
    rw [fieldsOfJson_fieldsToJson (itemPath path) fields h.2]
  | _, .computed _, h => h.elim
  | path, .nested (.mk fields), h => by
    simp only [Node.toJson, Schema.toJson, nodeOfJson, Logged.value_bind, Logged.value_pure]
    rw [fieldsOfJson_fieldsToJson path fields h.2]

theorem fieldsOfJson_fieldsToJson : ∀ (path : String) (fields : List (String × Node σ)),
    AllFields (fun _ => True) (fun _ => False) fields →
      (fieldsOfJson path (fieldsToJson fields)).value = fields
  | _, [], _ => by simp only [fieldsToJson, fieldsOfJson, Logged.value_pure]
  | path, (key, node) :: fields, h => by
    simp only [fieldsToJson, fieldsOfJson, Logged.value_bind, Logged.value_pure]
    rw [nodeOfJson_toJson (childPath path key) node h.1, fieldsOfJson_fieldsToJson path fields h.2]

end

/-! ## What is written repeats no key -/

theorem distinctElements_contextToJson (context : Option String) :
    Json.DistinctElements (contextToJson context) := by
  cases context with
  | none => trivial
  | some s => exact ⟨trivial, trivial⟩

theorem keys_fieldsToJson (fields : List (String × Node σ)) :
    Entries.keys (fieldsToJson fields) = Entries.keys fields := by
  induction fields with
  | nil => rfl
  | cons f fields ih => obtain ⟨key, node⟩ := f; simp [fieldsToJson, ih]

mutual

theorem WellFormed.distinct_toJson : ∀ {S : Schema σ}, S.WellFormed → S.toJson.Distinct
  | .mk fields, h => by
    have hk : (Entries.keys (fieldsToJson fields)).Nodup := by
      rw [keys_fieldsToJson]
      exact h.1
    simp only [toJson, Json.Distinct]
    exact ⟨hk, distinctMembers_fieldsToJson h.2⟩

theorem distinctMembers_fieldsToJson : ∀ {fields : List (String × Node σ)},
    AllFields List.Nodup (fun _ => True) fields → Json.DistinctMembers (fieldsToJson fields)
  | [], _ => trivial
  | (_, _) :: _, h => by
    simp only [fieldsToJson, Json.DistinctMembers]
    exact ⟨distinct_nodeToJson h.1, distinctMembers_fieldsToJson h.2⟩

theorem distinct_nodeToJson : ∀ {n : Node σ}, n.WellFormed → n.toJson.Distinct
  | .selector _, _ => trivial
  | .textList _ context, _ => ⟨trivial, distinctElements_contextToJson context⟩
  | .list item context, h => by
    have hi : item.WellFormed := h
    simp only [Node.toJson, Json.Distinct]
    exact ⟨hi.distinct_toJson, distinctElements_contextToJson context⟩
  | .computed _, _ => trivial
  | .nested S, h => by
    have hS : S.WellFormed := h
    simp only [Node.toJson]
    exact hS.distinct_toJson

end

/-! ## Objects -/

/-- The schema that a value describes, without the reports on it. -/
def described (v : Json) : Except SchemaError (Schema σ) := (ofJson v).map (·.value)

theorem described_object (ms : List (String × Json)) :
    described (σ := σ) (.object ms) = .ok (.mk (fieldsOfJson "" ms).value) := by
  rw [described, ofJson_object]
  rfl

theorem described_canon (ms : List (String × Json)) :
    described (σ := σ) (Json.object ms).canon = described (.object ms) := by
  rw [Json.canon, described_object, described_object, value_fieldsOfJson_canon "" "" ms]

/-- The canonical form of an object can be told from the schema that it describes. -/
theorem canon_eq_toJson {ms : List (String × Json)} {S : Schema σ}
    (h : described (.object ms) = .ok S) : (Json.object ms).canon = S.toJson := by
  rw [described_object, Except.ok.injEq] at h
  rw [← h, toJson, fieldsToJson_fieldsOfJson, Json.canon]

theorem ComputedFree.described_toJson : ∀ {S : Schema σ}, S.ComputedFree →
    described S.toJson = .ok S
  | .mk fields, h => by
    rw [toJson, described_object, fieldsOfJson_fieldsToJson "" fields h.2]

theorem ComputedFree.canon_toJson : ∀ {S : Schema σ}, S.ComputedFree → S.toJson.canon = S.toJson
  | .mk fields, h => by
    have hd : described (Schema.mk fields).toJson = .ok (Schema.mk fields) := h.described_toJson
    rw [toJson] at hd ⊢
    rw [canon_eq_toJson hd, toJson]

end Schema

/-! ## Headline property -/

/-- **Schemas from JSON.** A value describes a schema exactly if it is an object; any other is
refused with its kind. What is read below the top, a member's value at whatever path, has a node, so
that no value inside an object is refused; a value that is read as an object is refused only if it
is none. An object describes the same schema as its canonical form, and two objects
describe the same schema exactly if they have the same canonical form. Each schema that can be made
without computed fields is described by one canonical object, and this one repeats no key. -/
theorem ofJson_canon :
    (∀ v, (∃ l : Logged (Schema σ), Schema.ofJson v = .ok l) ↔ v.isObject = true) ∧
    (∀ v, Schema.ofJson (σ := σ) v = .error (.notAnObject v.kind) ↔ v.isObject = false) ∧
    (∀ path v, ∃ n : Node σ, (Schema.nodeAt path v).run.value = .ok n) ∧
    (∀ path v, (∃ S : Schema σ, (Schema.objectAt path v).run.value = .ok S) ↔
      v.isObject = true) ∧
    (∀ ms, Schema.described (σ := σ) (Json.object ms).canon = Schema.described (.object ms)) ∧
    (∀ ms ms', Schema.described (σ := σ) (.object ms) = Schema.described (.object ms') ↔
      (Json.object ms).canon = (Json.object ms').canon) ∧
    (∀ S : Schema σ, S.Constructible → S.ComputedFree →
      ∃ v : Json, v.isObject = true ∧ v.canon = v ∧ v.Distinct ∧ Schema.described v = .ok S ∧
        ∀ w : Json, w.isObject = true → w.canon = w → Schema.described w = .ok S → w = v) := by
  refine ⟨Schema.exists_ofJson_iff, Schema.ofJson_eq_error_iff, Schema.exists_nodeAt,
    Schema.exists_objectAt_iff, Schema.described_canon, ?_, ?_⟩
  · intro ms ms'
    constructor
    · intro h
      rw [Schema.described_object ms'] at h
      rw [Schema.canon_eq_toJson h, Schema.canon_eq_toJson (Schema.described_object ms')]
    · intro h
      rw [← Schema.described_canon ms, h, Schema.described_canon ms']
  · intro S hS hc
    refine ⟨S.toJson, ?_, hc.canon_toJson, hS.wellFormed.distinct_toJson, hc.described_toJson, ?_⟩
    · cases S
      rfl
    · intro w hw hcw hd
      obtain ⟨ms, rfl⟩ := (Json.isObject_iff w).1 hw
      rw [← hcw, Schema.canon_eq_toJson hd]

/-- `{"off": null, "rows": [{"x": [5, "i"]}, "li", true], "tags": ["b", []], "none": []}` -/
def oddListing : List (String × Json) :=
  [("off", .null), ("rows", .array [.object [("x", .array [.nat 5, .string "i"])], .string "li",
    .bool true]), ("tags", .array [.string "b", .array []]), ("none", .array [])]

/-- `{"off": {}, "rows": [{"x": [{}, "i"]}, "li"], "tags": ["b"], "none": [{}]}` -/
def plainListing : List (String × Json) :=
  [("off", .object []), ("rows", .array [.object [("x", .array [.object [], .string "i"])],
    .string "li"]), ("tags", .array [.string "b"]), ("none", .array [.object []])]

def listingSchema : Schema Nat :=
  let row : Schema Nat := .field .empty "x" (.list .empty (some "i"))
  (Schema.field .empty "rows" (.list row (some "li"))).field "tags" (.textList "b" none)

theorem ofJson_canon_listing :
    Schema.described (σ := Nat) (.object oddListing) = Schema.described (.object plainListing) ∧
    (∃ l : Logged (Schema Nat), Schema.ofJson (.object oddListing) = .ok l) ∧
    Schema.ofJson (σ := Nat) (.array [.object plainListing]) = .error (.notAnObject "an array") ∧
    listingSchema.Constructible ∧ listingSchema.ComputedFree ∧
    ∃ v : Json, v.isObject = true ∧ v.canon = v ∧ v.Distinct ∧
      Schema.described v = .ok listingSchema ∧
      ∀ w : Json, w.isObject = true → w.canon = w → Schema.described w = .ok listingSchema →
        w = v := by
  have hS : listingSchema.Constructible :=
    .field "tags" (.field "rows" .empty (.list (some "li") (.field "x" .empty
      (.list (some "i") .empty)))) (.textList "b" none)
  have hc : listingSchema.ComputedFree :=
    ⟨trivial, ⟨trivial, ⟨trivial, trivial⟩, trivial⟩, trivial, trivial⟩
  obtain ⟨hok, herror, -, -, -, hiff, hcanon⟩ := ofJson_canon (σ := Nat)
  exact ⟨(hiff oddListing plainListing).2 rfl, (hok _).2 rfl, (herror _).2 rfl, hS, hc,
    hcanon listingSchema hS hc⟩

end

end WebExtract
