import WebExtract.Proofs.Schema.Builder

/-!
# Schemas as ordered maps

A schema is looked at in two ways: its fields are gone through in order, and the node of a key is
looked up. The look-up takes the first field with the key and the builder overwrites the first field
with the key, so the two views agree as long as no key occurs twice. That none does, at any depth,
is `WellFormed`, and every schema that can be made has it.

`S.build adds` makes the additions of `adds` to `S`, one after the other.

**Results.**
* `Schema.build_eq_withFields`: a computed field is added like any other field.
* `Schema.WellFormed.build`: additions of well-formed nodes keep a schema well-formed.
* `build_orderedMap`: a well-formed schema with additions is the ordered map with these insertions.
-/
namespace WebExtract

/-! ## Additions -/

/-- What is added to a schema: a field with a node, or a computed field. -/
inductive Addition (σ : Type)
  | field (key : String) (node : Node σ)
  | computed (key : String) (f : Computed σ)

variable {σ : Type}

namespace Addition

def key : Addition σ → String
  | .field key _ => key
  | .computed key _ => key

def node : Addition σ → Node σ
  | .field _ node => node
  | .computed _ f => .computed f

def addTo (S : Schema σ) : Addition σ → Schema σ
  | .field key node => S.field key node
  | .computed key f => S.computed key f

end Addition

namespace Schema

def build (S : Schema σ) (adds : List (Addition σ)) : Schema σ := adds.foldl Addition.addTo S

/-- A computed field is a field with a computed node. -/
theorem build_eq_withFields (S : Schema σ) (adds : List (Addition σ)) :
    S.build adds = S.withFields (adds.map fun a => (a.key, a.node)) := by
  induction adds generalizing S with
  | nil => rfl
  | cons a adds ih => cases a <;> exact ih _

theorem fields_build (S : Schema σ) (adds : List (Addition σ)) :
    (S.build adds).fields = S.fields.putAll (adds.map fun a => (a.key, a.node)) := by
  rw [build_eq_withFields, fields_withFields]

theorem keys_additions (adds : List (Addition σ)) :
    Entries.keys (adds.map fun a => (a.key, a.node)) = adds.map Addition.key := by
  rw [Entries.keys, List.map_map]
  rfl

theorem WellFormed.build {S : Schema σ} (hS : S.WellFormed) {adds : List (Addition σ)}
    (h : ∀ a ∈ adds, a.node.WellFormed) : (S.build adds).WellFormed := by
  unfold WellFormed at hS ⊢
  rw [all_iff] at hS ⊢
  rw [keys, fields_build]
  refine ⟨Entries.nodup_keys_putAll hS.1 _, fun e he => ?_⟩
  rcases Entries.mem_putAll he with he | he
  · exact hS.2 e he
  · obtain ⟨a, ha, rfl⟩ := List.mem_map.1 he
    exact h a ha

end Schema

/-! ## Headline property -/

/-- **Ordered maps.** In every schema that can be made the keys are distinct, at every depth. Adding
fields to a schema in which they are distinct keeps its keys where they are and puts the new ones
behind them, in the order in which they first occur; each key has the node of the last addition with
that key, or else the node it had; there are as many fields as distinct keys; and going through the
fields meets each key with the node that is found by looking it up. -/
theorem build_orderedMap :
    (∀ S : Schema σ, S.Constructible → S.WellFormed) ∧
    ∀ (S : Schema σ) (adds : List (Addition σ)), S.WellFormed →
      ((∀ a ∈ adds, a.node.WellFormed) → (S.build adds).WellFormed) ∧
      (S.build adds).keys =
        S.keys ++ ((adds.map Addition.key).filter fun key => key ∉ S.keys).eraseDups ∧
      (∀ before a after, adds = before ++ a :: after → a.key ∉ after.map Addition.key →
        (S.build adds).get? a.key = some a.node) ∧
      (∀ key, key ∉ adds.map Addition.key → (S.build adds).get? key = S.get? key) ∧
      (S.build adds).length = (S.keys ++ adds.map Addition.key).toFinset.card ∧
      ((S.build adds).isEmpty = true ↔ (S.build adds).length = 0) ∧
      (S.build adds).fields.map (fun field => (field.1, some field.2)) =
        (S.build adds).keys.map fun key => (key, (S.build adds).get? key) := by
  refine ⟨fun S hS => hS.wellFormed, fun S adds hS => ⟨hS.build, ?_, ?_, ?_, ?_, ?_, ?_⟩⟩
  · rw [Schema.build_eq_withFields, Schema.keys_withFields, Schema.keys_additions]
    simp [List.removeAll]
  · rintro before a after rfl ha
    rw [← Schema.keys_additions] at ha
    rw [Schema.get?, Schema.fields_build, List.map_append, List.map_cons]
    exact Entries.get?_putAll_last _ _ _ _ ha
  · intro key hkey
    rw [← Schema.keys_additions] at hkey
    rw [Schema.get?, Schema.fields_build]
    exact Entries.get?_putAll_of_not_mem _ _ hkey
  · rw [Schema.length, Schema.fields_build, Entries.length_putAll hS.nodup_keys,
      Schema.keys_additions]
    rfl
  · rw [Schema.isEmpty, Schema.length, List.isEmpty_iff_length_eq_zero]
  · have hkeys : (S.build adds).keys.Nodup := by
      rw [Schema.keys, Schema.fields_build]
      exact Entries.nodup_keys_putAll hS.nodup_keys _
    exact (Entries.map_get?_keys hkeys).symm

/-- `{"a": "x", "b": {"c": "y"}}`, read from JSON. -/
def pairSchema : Schema Nat :=
  (Schema.mk <$> Schema.fieldsOfJson "" [("a", .string "x"), ("b", .object [("c", .string "y")])] :
    Logged (Schema Nat)).value

def counting : Computed Nat := fun _ _ => do
  let n ← Run.get
  Run.set (n + 1)
  return .nat n

/-- Two new keys, one of them twice, and a new node for a key that was read. -/
def pairAdditions : List (Addition Nat) :=
  [.field "d" (.selector "p"), .computed "a" counting, .field "e" (.nested pairSchema),
    .computed "d" counting]

theorem build_orderedMap_pair :
    pairSchema.Constructible ∧ pairSchema.WellFormed ∧
    (pairSchema.build pairAdditions).WellFormed ∧
    (pairSchema.build pairAdditions).keys = ["a", "b", "d", "e"] ∧
    (pairSchema.build pairAdditions).get? "d" = some (.computed counting) ∧
    (pairSchema.build pairAdditions).get? "b" = pairSchema.get? "b" ∧
    (pairSchema.build pairAdditions).length = 4 := by
  have hd : (Json.object [("a", .string "x"), ("b", .object [("c", .string "y")])]).Distinct := by
    simp [Json.Distinct, Json.DistinctMembers]
  have hc : pairSchema.Constructible := .ofJson hd (Schema.ofJson_object _)
  obtain ⟨hmade, hbuild⟩ := build_orderedMap (σ := Nat)
  have hw := hmade pairSchema hc
  obtain ⟨hwf, hkeys, hlast, hold, hlen, -, -⟩ := hbuild pairSchema pairAdditions hw
  have hnodes : ∀ a ∈ pairAdditions, a.node.WellFormed := by
    intro a ha
    simp only [pairAdditions, List.mem_cons, List.not_mem_nil, or_false] at ha
    rcases ha with rfl | rfl | rfl | rfl
    · exact trivial
    · exact trivial
    · exact hw
    · exact trivial
  refine ⟨hc, hw, hwf hnodes, hkeys.trans (by decide), ?_, hold "b" (by decide), hlen.trans ?_⟩
  · exact hlast (pairAdditions.take 3) (.computed "d" counting) [] rfl (by simp)
  · decide

end WebExtract
