import WebExtract.Proofs.Schema.Reading

/-!
# Schemas that can be made

A schema is made by adding fields to the empty one, or is read from JSON; what its nodes hold is
made in the same way. `Constructible` is the least such family. The keys of a constructible schema
are distinct, and so are those of every schema in it: a field that is given again replaces the
earlier one, and no object that was read has two members of one name.

**Hereditary properties.** `Schema.All K Q` says that `K` holds of the keys of the schema and of
every schema in it, and `Q` of every computed function in it. `WellFormed` and `ComputedFree` are
instances.

**Results.**
* `Json.distinct_read`: a JSON text is read as a value in which no object repeats a key.
* `Schema.all_ofJson`: a schema that is read from such a value is well-formed and has no computed
  field.
* `Schema.Constructible.wellFormed`: a constructible schema is well-formed.
-/
namespace WebExtract

/-! ## JSON values without repeated keys -/

namespace Json

theorem distinctMembers_iff (ms : List (String × Json)) :
    DistinctMembers ms ↔ ∀ e ∈ ms, e.2.Distinct := by
  induction ms with
  | nil => simp [DistinctMembers]
  | cons e ms ih => obtain ⟨k, v⟩ := e; simp [DistinctMembers, ih]

theorem distinctMembers_put {k : String} {v : Json} {ms : Entries Json} (hv : v.Distinct)
    (h : DistinctMembers ms) : DistinctMembers (ms.put k v) := by
  rw [distinctMembers_iff] at h ⊢
  intro e he
  rcases Entries.mem_put he with rfl | he
  · exact hv
  · exact h e he

mutual

theorem distinct_mergeRepeats : ∀ v : Json, v.mergeRepeats.Distinct
  | .null | .bool _ | .number _ | .string _ => by simp [mergeRepeats, Distinct]
  | .array vs => by
    simp only [mergeRepeats, Distinct]
    exact distinct_mergeElements vs
  | .object ms => by
    simp only [mergeRepeats, Distinct]
    exact distinct_mergeMembers ms [] (by simp) (by simp [DistinctMembers])

theorem distinct_mergeElements : ∀ vs : List Json, DistinctElements (mergeElements vs)
  | [] => by simp [mergeElements, DistinctElements]
  | v :: vs => by
    simp only [mergeElements, DistinctElements]
    exact ⟨distinct_mergeRepeats v, distinct_mergeElements vs⟩

theorem distinct_mergeMembers : ∀ (ms : List (String × Json)) (done : Entries Json),
    done.keys.Nodup → DistinctMembers done →
      (mergeMembers done ms).keys.Nodup ∧ DistinctMembers (mergeMembers done ms)
  | [], done, hn, hd => by simp only [mergeMembers]; exact ⟨hn, hd⟩
  | (k, v) :: ms, done, hn, hd => by
    simp only [mergeMembers]
    exact distinct_mergeMembers ms _ (Entries.nodup_keys_put hn)
      (distinctMembers_put (distinct_mergeRepeats v) hd)

end

theorem distinct_read {text : String} {v : Json} (h : read text = .ok v) : v.Distinct := by
  unfold read at h
  cases hr : readWritten text with
  | error e => rw [hr] at h; cases h
  | ok w => rw [hr] at h; cases h; exact distinct_mergeRepeats w

end Json

/-! ## Hereditary properties -/

section

variable {σ : Type}

mutual

def Schema.All (K : List String → Prop) (Q : Computed σ → Prop) : Schema σ → Prop
  | .mk fields => K (Entries.keys fields) ∧ Schema.AllFields K Q fields

def Schema.AllFields (K : List String → Prop) (Q : Computed σ → Prop) :
    List (String × Node σ) → Prop
  | [] => True
  | (_, node) :: fields => node.All K Q ∧ Schema.AllFields K Q fields

def Node.All (K : List String → Prop) (Q : Computed σ → Prop) : Node σ → Prop
  | .selector _ => True
  | .textList _ _ => True
  | .list item _ => item.All K Q
  | .computed f => Q f
  | .nested s => s.All K Q

end

/-- The keys are distinct, at every depth. -/
def Schema.WellFormed (s : Schema σ) : Prop := s.All List.Nodup fun _ => True

def Node.WellFormed (n : Node σ) : Prop := n.All List.Nodup fun _ => True

/-- There is no computed field, at any depth. -/
def Schema.ComputedFree (s : Schema σ) : Prop := s.All (fun _ => True) fun _ => False

variable {K K' : List String → Prop} {Q Q' : Computed σ → Prop}

theorem Schema.allFields_iff (fields : List (String × Node σ)) :
    Schema.AllFields K Q fields ↔ ∀ e ∈ fields, e.2.All K Q := by
  induction fields with
  | nil => simp [Schema.AllFields]
  | cons e fields ih => obtain ⟨k, n⟩ := e; simp [Schema.AllFields, ih]

theorem Schema.all_iff (s : Schema σ) :
    s.All K Q ↔ K s.keys ∧ ∀ e ∈ s.fields, e.2.All K Q := by
  obtain ⟨fields⟩ := s
  simp only [Schema.All, Schema.allFields_iff, Schema.keys, Schema.fields_mk]

mutual

theorem Schema.All.mono (hK : ∀ l, K l → K' l) (hQ : ∀ f, Q f → Q' f) :
    ∀ s : Schema σ, s.All K Q → s.All K' Q'
  | .mk fields, h => by
    simp only [Schema.All] at h ⊢
    exact ⟨hK _ h.1, Schema.AllFields.mono hK hQ fields h.2⟩

theorem Schema.AllFields.mono (hK : ∀ l, K l → K' l) (hQ : ∀ f, Q f → Q' f) :
    ∀ fields : List (String × Node σ), Schema.AllFields K Q fields → Schema.AllFields K' Q' fields
  | [], _ => by simp [Schema.AllFields]
  | (_, node) :: fields, h => by
    simp only [Schema.AllFields] at h ⊢
    exact ⟨Node.All.mono hK hQ node h.1, Schema.AllFields.mono hK hQ fields h.2⟩

theorem Node.All.mono (hK : ∀ l, K l → K' l) (hQ : ∀ f, Q f → Q' f) :
    ∀ n : Node σ, n.All K Q → n.All K' Q'
  | .selector _, _ => by simp [Node.All]
  | .textList _ _, _ => by simp [Node.All]
  | .list item _, h => by
    simp only [Node.All] at h ⊢
    exact Schema.All.mono hK hQ item h
  | .computed f, h => by
    simp only [Node.All] at h ⊢
    exact hQ f h
  | .nested s, h => by
    simp only [Node.All] at h ⊢
    exact Schema.All.mono hK hQ s h

end

theorem Schema.wellFormed_empty : (Schema.empty : Schema σ).WellFormed := by
  simp [Schema.WellFormed, Schema.empty, Schema.All, Schema.AllFields]

theorem Schema.WellFormed.field {s : Schema σ} (hs : s.WellFormed) (key : String) {n : Node σ}
    (hn : n.WellFormed) : (s.field key n).WellFormed := by
  unfold Schema.WellFormed at hs ⊢
  rw [Schema.all_iff] at hs ⊢
  refine ⟨Entries.nodup_keys_put hs.1, ?_⟩
  intro e he
  rcases Entries.mem_put he with rfl | he
  · exact hn
  · exact hs.2 e he

theorem Schema.WellFormed.nodup_keys {s : Schema σ} (hs : s.WellFormed) : s.keys.Nodup :=
  ((Schema.all_iff s).1 hs).1

/-- What holds throughout a schema holds throughout the node of each field. -/
theorem Schema.All.get {s : Schema σ} (hs : s.All K Q) {key : String} {n : Node σ}
    (h : s.get? key = some n) : n.All K Q :=
  ((Schema.all_iff s).1 hs).2 _ (Entries.mem_of_get? h)

/-! ## Schemas from JSON -/

namespace Schema

theorem keys_fieldsOfJson (path : String) (ms : List (String × Json)) :
    Entries.keys (fieldsOfJson (σ := σ) path ms).value = Entries.keys ms := by
  induction ms with
  | nil => simp [fieldsOfJson]
  | cons e ms ih => obtain ⟨k, v⟩ := e; simp [fieldsOfJson, ih]

variable {Q : Computed σ → Prop}

theorem all_ofOddValue (path : String) (v : Json) :
    (ofOddValue (σ := σ) path v).value.All List.Nodup Q := by
  simp [ofOddValue, empty, All, AllFields]

mutual

theorem all_nodeOfJson : ∀ (path : String) (v : Json), v.Distinct →
    (nodeOfJson (σ := σ) path v).value.All List.Nodup Q
  | _, .string _, _ => by simp [nodeOfJson, Node.All]
  | path, .array vs, h => by
    simp only [Json.Distinct] at h
    simp only [nodeOfJson]
    exact all_listOfJson path vs h
  | path, .object ms, h => by
    simp only [Json.Distinct] at h
    simp only [nodeOfJson, Logged.value_bind, Logged.value_pure, Node.All, All, keys_fieldsOfJson]
    exact ⟨h.1, all_fieldsOfJson path ms h.2⟩
  | path, .null, _ | path, .bool _, _ | path, .number _, _ => by
    simp only [nodeOfJson, Logged.value_bind, Logged.value_pure, Node.All]
    exact all_ofOddValue path _

theorem all_listOfJson : ∀ (path : String) (vs : List Json), Json.DistinctElements vs →
    (listOfJson (σ := σ) path vs).value.All List.Nodup Q
  | _, [], _ => by simp [listOfJson, Node.All, empty, All, AllFields]
  | path, item :: rest, h => by
    simp only [Json.DistinctElements] at h
    simp only [listOfJson, Logged.value_bind]
    exact all_itemOfJson path _ item h.1

theorem all_itemOfJson : ∀ (path : String) (context : Option String) (v : Json), v.Distinct →
    (itemOfJson (σ := σ) path context v).value.All List.Nodup Q
  | _, _, .string _, _ => by simp [itemOfJson, Node.All]
  | path, _, .object ms, h => by
    simp only [Json.Distinct] at h
    simp only [itemOfJson, Logged.value_bind, Logged.value_pure, Node.All, All, keys_fieldsOfJson]
    exact ⟨h.1, all_fieldsOfJson (itemPath path) ms h.2⟩
  | path, _, .array _, _ | path, _, .null, _ | path, _, .bool _, _ | path, _, .number _, _ => by
    simp only [itemOfJson, Logged.value_bind, Logged.value_pure, Node.All]
    exact all_ofOddValue (itemPath path) _

theorem all_fieldsOfJson : ∀ (path : String) (ms : List (String × Json)),
    Json.DistinctMembers ms → AllFields List.Nodup Q (fieldsOfJson (σ := σ) path ms).value
  | _, [], _ => by simp [fieldsOfJson, AllFields]
  | path, (key, v) :: ms, h => by
    simp only [Json.DistinctMembers] at h
    simp only [fieldsOfJson, Logged.value_bind, Logged.value_pure, AllFields]
    exact ⟨all_nodeOfJson (childPath path key) v h.1, all_fieldsOfJson path ms h.2⟩

end

/-- What is read from JSON is well-formed, and whatever is asked of computed fields holds, since
there are none. -/
theorem all_ofJson {v : Json} (hv : v.Distinct) {l : Logged (Schema σ)} (h : ofJson v = .ok l) :
    l.value.All List.Nodup Q := by
  cases v with
  | object ms =>
    simp only [Json.Distinct] at hv
    rw [ofJson_object, Except.ok.injEq] at h
    subst h
    simp only [Logged.value_map, All, keys_fieldsOfJson]
    exact ⟨hv.1, all_fieldsOfJson "" ms hv.2⟩
  | null | bool _ | number _ | string _ | array _ =>
    rw [ofJson_of_not_object rfl] at h
    cases h

theorem all_ofText {text : String} {l : Logged (Schema σ)} (h : ofText text = .ok l) :
    l.value.All List.Nodup Q := by
  unfold ofText at h
  cases hr : Json.read text with
  | error e => rw [hr] at h; cases h
  | ok v => rw [hr] at h; exact all_ofJson (Json.distinct_read hr) h

end Schema

/-! ## Constructible schemas -/

mutual

/-- The schemas that the library's functions make. The values of `ofJson` are JSON values as a
program holds them, without repeated keys. -/
inductive Schema.Constructible : Schema σ → Prop
  | empty : Schema.Constructible .empty
  | field {s : Schema σ} {n : Node σ} (key : String) :
    s.Constructible → n.Constructible → Schema.Constructible (s.field key n)
  | computed {s : Schema σ} (key : String) (f : Computed σ) :
    s.Constructible → Schema.Constructible (s.computed key f)
  | ofJson {v : Json} {l : Logged (Schema σ)} :
    v.Distinct → Schema.ofJson v = .ok l → Schema.Constructible l.value
  | ofText {text : String} {l : Logged (Schema σ)} :
    Schema.ofText text = .ok l → Schema.Constructible l.value

inductive Node.Constructible : Node σ → Prop
  | selector (s : String) : Node.Constructible (.selector s)
  | textList (s : String) (context : Option String) : Node.Constructible (.textList s context)
  | list {item : Schema σ} (context : Option String) :
    item.Constructible → Node.Constructible (.list item context)
  | computed (f : Computed σ) : Node.Constructible (.computed f)
  | nested {s : Schema σ} : s.Constructible → Node.Constructible (.nested s)

end

mutual

theorem Schema.Constructible.wellFormed : ∀ {s : Schema σ}, s.Constructible → s.WellFormed
  | _, .empty => Schema.wellFormed_empty
  | _, .field key hs hn => hs.wellFormed.field key hn.wellFormed
  | _, .computed key _ hs => hs.wellFormed.field key trivial
  | _, .ofJson hv h => Schema.all_ofJson hv h
  | _, .ofText h => Schema.all_ofText h

theorem Node.Constructible.wellFormed : ∀ {n : Node σ}, n.Constructible → n.WellFormed
  | _, .selector _ | _, .textList _ _ | _, .computed _ => trivial
  | _, .list _ h => h.wellFormed
  | _, .nested h => h.wellFormed

end

end

end WebExtract
