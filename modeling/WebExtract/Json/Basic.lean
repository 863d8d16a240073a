import WebExtract.Entries
import WebExtract.Json.Binary64

/-!
# JSON values

A value keeps the members of an object in order. A text may repeat a key: `mergeRepeats` is the rule
for that, the first position and the last value, at every level.
-/
namespace WebExtract

namespace Json

/-- A whole number from -2^63 to 2^64 - 1, or any other number as a float. -/
inductive Number
  | integer (value : Int)
  | float (value : Binary64)
  deriving DecidableEq, Repr

end Json

inductive Json
  | null
  | bool (value : Bool)
  | number (value : Json.Number)
  | string (value : String)
  | array (elements : List Json)
  | object (members : List (String × Json))
  deriving Repr

namespace Json

def nat (n : Nat) : Json := .number (.integer n)

def strings (l : List String) : Json := .array (l.map .string)

/-- What kind of value this is, in words.
mirrors schema:258-267 (`json_kind`) -/
def kind : Json → String
  | .null => "null"
  | .bool _ => "a boolean"
  | .number _ => "a number"
  | .string _ => "a string"
  | .array _ => "an array"
  | .object _ => "an object"

def isObject : Json → Bool
  | .object _ => true
  | _ => false

mutual

/-- Each repeated key with its first position and its last value. -/
def mergeRepeats : Json → Json
  | .array elements => .array (mergeElements elements)
  | .object members => .object (mergeMembers [] members)
  | v => v

def mergeElements : List Json → List Json
  | [] => []
  | v :: vs => v.mergeRepeats :: mergeElements vs

/-- The members put into `done` one after the other. -/
def mergeMembers (done : Entries Json) : List (String × Json) → Entries Json
  | [] => done
  | (k, v) :: ms => mergeMembers (done.put k v.mergeRepeats) ms

end

mutual

/-- In no object does a key occur twice. -/
def Distinct : Json → Prop
  | .array elements => DistinctElements elements
  | .object members => (members.map Prod.fst).Nodup ∧ DistinctMembers members
  | _ => True

def DistinctElements : List Json → Prop
  | [] => True
  | v :: vs => v.Distinct ∧ DistinctElements vs

def DistinctMembers : List (String × Json) → Prop
  | [] => True
  | (_, v) :: ms => v.Distinct ∧ DistinctMembers ms

end

/-! ## Equality -/

mutual

/-- Whether two values are equal, by comparing their parts. -/
def same : Json → Json → Bool
  | .null, .null => true
  | .bool a, .bool b => a = b
  | .number a, .number b => a = b
  | .string a, .string b => a = b
  | .array vs, .array ws => sameElements vs ws
  | .object ms, .object ns => sameMembers ms ns
  | _, _ => false

def sameElements : List Json → List Json → Bool
  | [], [] => true
  | v :: vs, w :: ws => v.same w && sameElements vs ws
  | _, _ => false

def sameMembers : List (String × Json) → List (String × Json) → Bool
  | [], [] => true
  | (k, v) :: ms, (l, w) :: ns => k = l && v.same w && sameMembers ms ns
  | _, _ => false

end

mutual

theorem same_iff : ∀ v w : Json, v.same w = true ↔ v = w
  | .null, w | .bool _, w | .number _, w | .string _, w => by cases w <;> simp [same]
  | .array vs, w => by
    have ih := sameElements_iff vs
    cases w <;> simp [same, ih]
  | .object ms, w => by
    have ih := sameMembers_iff ms
    cases w <;> simp [same, ih]

theorem sameElements_iff : ∀ vs ws : List Json, sameElements vs ws = true ↔ vs = ws
  | [], ws => by cases ws <;> simp [sameElements]
  | v :: vs, ws => by
    have ihv := same_iff v
    have ih := sameElements_iff vs
    cases ws <;> simp [sameElements, ihv, ih]

theorem sameMembers_iff : ∀ ms ns : List (String × Json), sameMembers ms ns = true ↔ ms = ns
  | [], ns => by cases ns <;> simp [sameMembers]
  | (k, v) :: ms, ns => by
    have ihv := same_iff v
    have ih := sameMembers_iff ms
    cases ns <;> simp [sameMembers, ihv, ih, Prod.ext_iff, and_assoc]

end

instance : DecidableEq Json := fun v w => decidable_of_iff _ (same_iff v w)

end Json

end WebExtract
