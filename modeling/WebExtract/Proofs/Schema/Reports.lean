import WebExtract.Proofs.Schema.Reading

/-!
# What is reported of a schema that is read

Reading an object as a schema goes through it depth first and from left to right. A value is looked
at in one of four roles (`Role`): as the value at the top, as a member of an object, as the context
of a list or as its item. What a role asks for is `Role.accepts`; a value that it does not accept is
odd and is reported, with its path.

**Ways.** `r.Leads t r'` says that the turn `t` leads from one reading to the next: from an object
to its members, and from an array that is a member to its second and its first element. There is no
turn into an array that is an item, into a context, or to an element behind the second. `r.Reaches p
r'` is a way of several turns.

**Order.** Ways are ordered as the turns are at which they part, members by their position and the
context of a list before its item, and a way comes before those that it is the beginning of
(`Earlier`).

**Results.**
* `mem_readings_iff`, `pairwise_readings`: `Json.readings` lists what is reached, in this order.
* `events_nodeOfJson`: reading a node reports what is odd in that list.
* `ofJson_reports`: so an object is read with one report for each odd value that is reached, in this
  order, and with none exactly if every value that is reached is accepted.
-/
namespace WebExtract

/-! ## Roles and readings -/

/-- What a value is looked at as. -/
inductive Role
  /-- What the schema is read from. -/
  | top
  /-- The value of a member. -/
  | member
  /-- The second element of a list. -/
  | context
  /-- The first element of a list. -/
  | item
  deriving DecidableEq

def Role.accepts : Role → Json → Bool
  | .top, .object _ => true
  | .member, .string _ => true
  | .member, .array _ => true
  | .member, .object _ => true
  | .context, .string _ => true
  | .item, .string _ => true
  | .item, .object _ => true
  | _, _ => false

/-- A value with the role that it is looked at in, and the path that is reported for it. -/
structure Reading where
  role : Role
  path : String
  value : Json

namespace Reading

def odd (r : Reading) : Bool := !r.role.accepts r.value

def report (r : Reading) : Event :=
  match r.role with
  | .context => .oddContext r.path r.value
  | .top | .member | .item => .oddValue r.path r.value

theorem level_report (r : Reading) : r.report.level = .warn := by
  obtain ⟨role, path, v⟩ := r
  cases role <;> rfl

end Reading

/-! ## Ways -/

inductive Turn
  /-- Into the member at a position, which has this key. -/
  | member (i : Nat) (key : String)
  | context
  | item

namespace Reading

inductive Leads : Reading → Turn → Reading → Prop
  | member {role : Role} {path key : String} {ms : List (String × Json)} {i : Nat} {v : Json} :
    role ≠ .context → ms[i]? = some (key, v) →
      Leads ⟨role, path, .object ms⟩ (.member i key) ⟨.member, Schema.childPath path key, v⟩
  | context {path : String} {vs : List Json} {v : Json} : vs[1]? = some v →
    Leads ⟨.member, path, .array vs⟩ .context ⟨.context, path, v⟩
  | item {path : String} {vs : List Json} {v : Json} : vs[0]? = some v →
    Leads ⟨.member, path, .array vs⟩ .item ⟨.item, Schema.itemPath path, v⟩

inductive Reaches : Reading → List Turn → Reading → Prop
  | here (r : Reading) : Reaches r [] r
  | turn {r r' r'' : Reading} {t : Turn} {p : List Turn} :
    r.Leads t r' → r'.Reaches p r'' → Reaches r (t :: p) r''

theorem reaches_iff {r r' : Reading} {p : List Turn} : r.Reaches p r' ↔
    (p = [] ∧ r' = r) ∨ ∃ t q r₁, p = t :: q ∧ r.Leads t r₁ ∧ r₁.Reaches q r' := by
  constructor
  · intro h
    cases h with
    | here r => exact .inl ⟨rfl, rfl⟩
    | turn ht hp => exact .inr ⟨_, _, _, rfl, ht, hp⟩
  · rintro (⟨rfl, rfl⟩ | ⟨t, q, r₁, rfl, ht, hq⟩)
    · exact .here _
    · exact .turn ht hq

/-! ### Where turns lead -/

theorem leads_object_iff {role : Role} {path : String} {ms : List (String × Json)} {t : Turn}
    {r : Reading} : (⟨role, path, .object ms⟩ : Reading).Leads t r ↔
      role ≠ .context ∧ ∃ i key v, ms[i]? = some (key, v) ∧ t = .member i key ∧
        r = ⟨.member, Schema.childPath path key, v⟩ := by
  constructor
  · intro h
    cases h with
    | member hr hm => exact ⟨hr, _, _, _, hm, rfl, rfl⟩
  · rintro ⟨hr, i, key, v, hm, rfl, rfl⟩
    exact .member hr hm

theorem leads_array_iff {role : Role} {path : String} {vs : List Json} {t : Turn} {r : Reading} :
    (⟨role, path, .array vs⟩ : Reading).Leads t r ↔ role = .member ∧
      ((∃ v, vs[1]? = some v ∧ t = .context ∧ r = ⟨.context, path, v⟩) ∨
        ∃ v, vs[0]? = some v ∧ t = .item ∧ r = ⟨.item, Schema.itemPath path, v⟩) := by
  constructor
  · intro h
    cases h with
    | context hv => exact ⟨rfl, .inl ⟨_, hv, rfl, rfl⟩⟩
    | item hv => exact ⟨rfl, .inr ⟨_, hv, rfl, rfl⟩⟩
  · rintro ⟨rfl, ⟨v, hv, rfl, rfl⟩ | ⟨v, hv, rfl, rfl⟩⟩
    · exact .context hv
    · exact .item hv

/-- There is no turn into a context. -/
theorem reaches_context_iff {path : String} {v : Json} {p : List Turn} {r : Reading} :
    (⟨.context, path, v⟩ : Reading).Reaches p r ↔ p = [] ∧ r = ⟨.context, path, v⟩ := by
  rw [reaches_iff, or_iff_left]
  rintro ⟨t, q, r₁, -, ht, -⟩
  cases ht with
  | member hr _ => exact hr rfl

end Reading

inductive Turn.Before : Turn → Turn → Prop
  | member {i j : Nat} {key key' : String} : i < j → Before (.member i key) (.member j key')
  | context : Before .context .item

/-- Depth first and from left to right. -/
def Earlier (p q : List Turn) : Prop := List.Lex Turn.Before p q

theorem Earlier.ne {p q : List Turn} (h : Earlier p q) : p ≠ q := by
  rintro rfl
  refine List.lex_irrefl (fun t ht => ?_) p h
  cases ht with
  | member h => exact Nat.lt_irrefl _ h

/-! ## All readings, in order -/

abbrev Located := List Turn × Reading

/-- What is reached after the turn. -/
def Turn.into (t : Turn) (ls : List Located) : List Located := ls.map fun l => (t :: l.1, l.2)

def contextReadings (path : String) : List Json → List Located
  | [] => []
  | v :: _ => [([], ⟨.context, path, v⟩)]

mutual

/-- What is reached from a reading with at least one turn. -/
def Json.inside (role : Role) (path : String) : Json → List Located
  | .object ms => if role = .context then [] else memberReadings path 0 ms
  | .array vs => if role = .member then elementReadings path vs else []
  | _ => []

def elementReadings (path : String) : List Json → List Located
  | [] => []
  | item :: rest =>
    Turn.context.into (contextReadings path rest) ++
      Turn.item.into (([], ⟨.item, Schema.itemPath path, item⟩) ::
        item.inside .item (Schema.itemPath path))

/-- The readings in the members from position `i` on. -/
def memberReadings (path : String) (i : Nat) : List (String × Json) → List Located
  | [] => []
  | (key, v) :: ms =>
    (Turn.member i key).into (([], ⟨.member, Schema.childPath path key, v⟩) ::
      v.inside .member (Schema.childPath path key)) ++ memberReadings path (i + 1) ms

end

def Json.readings (role : Role) (path : String) (v : Json) : List Located :=
  ([], ⟨role, path, v⟩) :: v.inside role path

/-! ### What is listed is what is reached -/

theorem mem_into_iff {t : Turn} {ls : List Located} {p : List Turn} {r : Reading} :
    (p, r) ∈ t.into ls ↔ ∃ q, p = t :: q ∧ (q, r) ∈ ls := by
  simp only [Turn.into, List.mem_map, Prod.mk.injEq, Prod.exists]
  constructor
  · rintro ⟨q, r', h, rfl, rfl⟩
    exact ⟨q, rfl, h⟩
  · rintro ⟨q, rfl, h⟩
    exact ⟨q, r, h, rfl, rfl⟩

theorem mem_contextReadings_iff {path : String} {rest : List Json} {p : List Turn} {r : Reading} :
    (p, r) ∈ contextReadings path rest ↔
      ∃ v, rest[0]? = some v ∧ Reading.Reaches ⟨.context, path, v⟩ p r := by
  cases rest <;> simp [contextReadings, Reading.reaches_context_iff]

theorem mem_readings_of_inside {role : Role} {path : String} {v : Json} {p : List Turn}
    {r : Reading} (h : (p, r) ∈ v.inside role path ↔
      ∃ t q r', p = t :: q ∧ Reading.Leads ⟨role, path, v⟩ t r' ∧ r'.Reaches q r) :
    (p, r) ∈ v.readings role path ↔ Reading.Reaches ⟨role, path, v⟩ p r := by
  rw [Json.readings, List.mem_cons, h, Reading.reaches_iff, Prod.mk.injEq]

mutual

theorem mem_inside_iff : ∀ (role : Role) (path : String) (v : Json) {p : List Turn} {r : Reading},
    (p, r) ∈ v.inside role path ↔
      ∃ t q r', p = t :: q ∧ Reading.Leads ⟨role, path, v⟩ t r' ∧ r'.Reaches q r
  | role, path, .object ms, p, r => by
    have hms := mem_memberReadings_iff path 0 ms (p := p) (r := r)
    simp only [Nat.zero_add] at hms
    simp only [Json.inside, Reading.leads_object_iff]
    by_cases hr : role = .context
    · simp [hr]
    · rw [if_neg hr, hms]
      constructor
      · rintro ⟨i, key, v, q, hm, rfl, h⟩
        exact ⟨_, q, _, rfl, ⟨hr, i, key, v, hm, rfl, rfl⟩, h⟩
      · rintro ⟨_, q, _, rfl, ⟨-, i, key, v, hm, rfl, rfl⟩, h⟩
        exact ⟨i, key, v, q, hm, rfl, h⟩
  | role, path, .array vs, p, r => by
    have hvs := mem_elementReadings_iff path vs (p := p) (r := r)
    simp only [Json.inside, Reading.leads_array_iff]
    by_cases hr : role = .member
    · rw [if_pos hr, hvs]
      constructor
      · rintro (⟨v, q, hv, rfl, h⟩ | ⟨v, q, hv, rfl, h⟩)
        · exact ⟨_, q, _, rfl, ⟨hr, .inl ⟨v, hv, rfl, rfl⟩⟩, h⟩
        · exact ⟨_, q, _, rfl, ⟨hr, .inr ⟨v, hv, rfl, rfl⟩⟩, h⟩
      · rintro ⟨_, q, _, rfl, ⟨-, ⟨v, hv, rfl, rfl⟩ | ⟨v, hv, rfl, rfl⟩⟩, h⟩
        · exact .inl ⟨v, q, hv, rfl, h⟩
        · exact .inr ⟨v, q, hv, rfl, h⟩
    · simp [hr]
  | role, path, .null, p, r | role, path, .bool _, p, r | role, path, .number _, p, r
  | role, path, .string _, p, r => by
    simp only [Json.inside, List.not_mem_nil, false_iff]
    rintro ⟨t, q, r', -, h, -⟩
    cases h

theorem mem_elementReadings_iff : ∀ (path : String) (vs : List Json) {p : List Turn} {r : Reading},
    (p, r) ∈ elementReadings path vs ↔
      (∃ v q, vs[1]? = some v ∧ p = .context :: q ∧ Reading.Reaches ⟨.context, path, v⟩ q r) ∨
      ∃ v q, vs[0]? = some v ∧ p = .item :: q ∧
        Reading.Reaches ⟨.item, Schema.itemPath path, v⟩ q r
  | path, [], p, r => by simp [elementReadings]
  | path, item :: rest, p, r => by
    have hitem := fun q => mem_readings_of_inside
      (mem_inside_iff .item (Schema.itemPath path) item (p := q) (r := r))
    simp only [Json.readings] at hitem
    simp only [elementReadings, List.mem_append, mem_into_iff, hitem, mem_contextReadings_iff]
    constructor
    · rintro (⟨q, rfl, v, hv, h⟩ | ⟨q, rfl, h⟩)
      · exact .inl ⟨v, q, hv, rfl, h⟩
      · exact .inr ⟨item, q, rfl, rfl, h⟩
    · rintro (⟨v, q, hv, rfl, h⟩ | ⟨v, q, hv, rfl, h⟩)
      · exact .inl ⟨q, rfl, v, hv, h⟩
      · cases hv
        exact .inr ⟨q, rfl, h⟩

theorem mem_memberReadings_iff : ∀ (path : String) (i : Nat) (ms : List (String × Json))
    {p : List Turn} {r : Reading}, (p, r) ∈ memberReadings path i ms ↔
      ∃ j key v q, ms[j]? = some (key, v) ∧ p = .member (i + j) key :: q ∧
        Reading.Reaches ⟨.member, Schema.childPath path key, v⟩ q r
  | path, i, [], p, r => by simp [memberReadings]
  | path, i, (key, v) :: ms, p, r => by
    have hv := fun q => mem_readings_of_inside
      (mem_inside_iff .member (Schema.childPath path key) v (p := q) (r := r))
    simp only [Json.readings] at hv
    have hms := mem_memberReadings_iff path (i + 1) ms (p := p) (r := r)
    simp only [memberReadings, List.mem_append, mem_into_iff, hv, hms]
    constructor
    · rintro (⟨q, rfl, h⟩ | ⟨j, key', v', q, hm, rfl, h⟩)
      · exact ⟨0, key, v, q, rfl, rfl, h⟩
      · exact ⟨j + 1, key', v', q, hm, by rw [Nat.add_assoc, Nat.add_comm 1 j], h⟩
    · rintro ⟨j, key', v', q, hm, rfl, h⟩
      cases j with
      | zero =>
        cases hm
        exact .inl ⟨q, rfl, h⟩
      | succ j =>
        exact .inr ⟨j, key', v', q, hm, by rw [Nat.add_assoc, Nat.add_comm 1 j], h⟩

end

theorem mem_readings_iff (role : Role) (path : String) (v : Json) {p : List Turn} {r : Reading} :
    (p, r) ∈ v.readings role path ↔ Reading.Reaches ⟨role, path, v⟩ p r :=
  mem_readings_of_inside (mem_inside_iff role path v)

/-! ### Order -/

theorem pairwise_into {t : Turn} {ls : List Located}
    (h : ls.Pairwise fun a b => Earlier a.1 b.1) :
    (t.into ls).Pairwise fun a b => Earlier a.1 b.1 := by
  rw [Turn.into, List.pairwise_map]
  exact h.imp fun hab => .cons hab

/-- A reading comes before what is reached from it. -/
theorem pairwise_readings_of_inside {role : Role} {path : String} {v : Json}
    (h : (v.inside role path).Pairwise fun a b => Earlier a.1 b.1) :
    (v.readings role path).Pairwise fun a b => Earlier a.1 b.1 := by
  refine .cons ?_ h
  rintro ⟨p, r⟩ hl
  obtain ⟨t, q, r', rfl, -, -⟩ := (mem_inside_iff role path v).1 hl
  exact .nil

mutual

theorem pairwise_inside : ∀ (role : Role) (path : String) (v : Json),
    (v.inside role path).Pairwise fun a b => Earlier a.1 b.1
  | role, path, .object ms => by
    simp only [Json.inside]
    split
    · exact .nil
    · exact pairwise_memberReadings path 0 ms
  | role, path, .array vs => by
    simp only [Json.inside]
    split
    · exact pairwise_elementReadings path vs
    · exact .nil
  | _, _, .null | _, _, .bool _ | _, _, .number _ | _, _, .string _ => by
    simp only [Json.inside]
    exact .nil

theorem pairwise_elementReadings : ∀ (path : String) (vs : List Json),
    (elementReadings path vs).Pairwise fun a b => Earlier a.1 b.1
  | _, [] => by simp only [elementReadings]; exact .nil
  | path, item :: rest => by
    simp only [elementReadings]
    have hitem := pairwise_readings_of_inside (pairwise_inside .item (Schema.itemPath path) item)
    rw [List.pairwise_append]
    refine ⟨pairwise_into ?_, pairwise_into hitem, ?_⟩
    · cases rest with
      | nil => exact .nil
      | cons v rest => exact List.pairwise_singleton _ _
    · rintro ⟨p, r⟩ hp ⟨q, r'⟩ hq
      obtain ⟨p', rfl, -⟩ := mem_into_iff.1 hp
      obtain ⟨q', rfl, -⟩ := mem_into_iff.1 hq
      exact .rel .context

theorem pairwise_memberReadings : ∀ (path : String) (i : Nat) (ms : List (String × Json)),
    (memberReadings path i ms).Pairwise fun a b => Earlier a.1 b.1
  | _, _, [] => by simp only [memberReadings]; exact .nil
  | path, i, (key, v) :: ms => by
    simp only [memberReadings]
    have hv := pairwise_readings_of_inside
      (pairwise_inside .member (Schema.childPath path key) v)
    rw [List.pairwise_append]
    refine ⟨pairwise_into hv, pairwise_memberReadings path (i + 1) ms, ?_⟩
    rintro ⟨p, r⟩ hp ⟨q, r'⟩ hq
    obtain ⟨p', rfl, -⟩ := mem_into_iff.1 hp
    obtain ⟨j, key', v', q', -, rfl, -⟩ := (mem_memberReadings_iff path (i + 1) ms).1 hq
    have hi : i < i + 1 + j := by omega
    exact .rel (.member hi)

end

theorem pairwise_readings (role : Role) (path : String) (v : Json) :
    (v.readings role path).Pairwise fun a b => Earlier a.1 b.1 :=
  pairwise_readings_of_inside (pairwise_inside role path v)

/-! ## Reports -/

/-- What is reported of the readings: those that are odd. -/
def reports (ls : List Located) : List Event := (ls.filter (·.2.odd)).map (·.2.report)

@[simp] theorem reports_append (ls ls' : List Located) :
    reports (ls ++ ls') = reports ls ++ reports ls' := by
  rw [reports, List.filter_append, List.map_append]
  rfl

@[simp] theorem reports_into (t : Turn) (ls : List Located) : reports (t.into ls) = reports ls := by
  rw [reports, Turn.into, List.filter_map, List.map_map]
  rfl

theorem reports_cons (l : Located) (ls : List Located) :
    reports (l :: ls) = (if l.2.odd then [l.2.report] else []) ++ reports ls := by
  by_cases h : l.2.odd <;> simp [reports, h]

theorem events_listContext (path : String) (rest : List Json) :
    (Schema.listContext path rest).events = reports (contextReadings path rest) := by
  cases rest with
  | nil => rfl
  | cons v rest => cases v <;> rfl

section

variable {σ : Type}

mutual

theorem events_nodeOfJson : ∀ (path : String) (v : Json),
    (Schema.nodeOfJson (σ := σ) path v).events = reports (v.readings .member path)
  | path, .object ms => by
    simp only [Schema.nodeOfJson, Json.readings, Json.inside, Logged.events_bind,
      Logged.events_pure, List.append_nil, reports_cons, events_fieldsOfJson path 0 ms]
    rfl
  | path, .array vs => by
    simp only [Schema.nodeOfJson, Json.readings, Json.inside, reports_cons,
      events_listOfJson path vs]
    rfl
  | path, .string _ | path, .null | path, .bool _ | path, .number _ => by
    simp only [Schema.nodeOfJson, Json.readings, Json.inside]
    rfl

theorem events_listOfJson : ∀ (path : String) (vs : List Json),
    (Schema.listOfJson (σ := σ) path vs).events = reports (elementReadings path vs)
  | path, [] => by
    simp only [Schema.listOfJson, elementReadings]
    rfl
  | path, item :: rest => by
    have hitem := fun context => events_itemOfJson path context item
    simp only [Json.readings] at hitem
    simp only [Schema.listOfJson, elementReadings, Logged.events_bind, reports_append,
      reports_into, events_listContext, hitem]

theorem events_itemOfJson : ∀ (path : String) (context : Option String) (v : Json),
    (Schema.itemOfJson (σ := σ) path context v).events =
      reports (v.readings .item (Schema.itemPath path))
  | path, context, .object ms => by
    simp only [Schema.itemOfJson, Json.readings, Json.inside, Logged.events_bind,
      Logged.events_pure, List.append_nil, reports_cons,
      events_fieldsOfJson (Schema.itemPath path) 0 ms]
    rfl
  | path, context, .array vs => by
    simp only [Schema.itemOfJson, Json.readings, Json.inside]
    rfl
  | path, context, .string _ | path, context, .null | path, context, .bool _
  | path, context, .number _ => by
    simp only [Schema.itemOfJson, Json.readings, Json.inside]
    rfl

theorem events_fieldsOfJson : ∀ (path : String) (i : Nat) (ms : List (String × Json)),
    (Schema.fieldsOfJson (σ := σ) path ms).events = reports (memberReadings path i ms)
  | path, i, [] => by
    simp only [Schema.fieldsOfJson, memberReadings]
    rfl
  | path, i, (key, v) :: ms => by
    have hv := events_nodeOfJson (Schema.childPath path key) v
    simp only [Json.readings] at hv
    simp only [Schema.fieldsOfJson, memberReadings, Logged.events_bind, Logged.events_pure,
      List.append_nil, reports_append, reports_into, hv, events_fieldsOfJson path (i + 1) ms]

end

end

/-! ## Whole objects -/

/-- The reading that an object is read as a schema with. -/
def Reading.ofMembers (ms : List (String × Json)) : Reading := ⟨.top, "", .object ms⟩

/-- What is odd in an object, in order. -/
def oddReadings (ms : List (String × Json)) : List Located :=
  ((Json.object ms).readings .top "").filter (·.2.odd)

theorem mem_oddReadings_iff {ms : List (String × Json)} {p : List Turn} {r : Reading} :
    (p, r) ∈ oddReadings ms ↔ (Reading.ofMembers ms).Reaches p r ∧ r.odd = true := by
  rw [oddReadings, List.mem_filter, mem_readings_iff .top "" (.object ms)]
  rfl

theorem pairwise_oddReadings (ms : List (String × Json)) :
    (oddReadings ms).Pairwise fun a b => Earlier a.1 b.1 :=
  (pairwise_readings .top "" (.object ms)).filter _

theorem events_ofJson {σ : Type} (ms : List (String × Json)) :
    ∃ l : Logged (Schema σ), Schema.ofJson (.object ms) = .ok l ∧
      l.events = (oddReadings ms).map fun a => a.2.report := by
  refine ⟨_, Schema.ofJson_object ms, ?_⟩
  rw [Logged.events_map, events_fieldsOfJson "" 0 ms]
  change _ = reports ((Json.object ms).readings .top "")
  simp only [Json.readings, Json.inside, reports_cons]
  rfl

/-! ## Headline property -/

/-- **Reports.** Reading an object as a schema reports each odd value that is reached, once, with
the value and its path, in the order in which a reader who goes depth first and from left to right
meets them; and nothing else. So nothing is reported exactly if every value that is reached is
accepted in its role. -/
theorem ofJson_reports {σ : Type} (ms : List (String × Json)) :
    ∃ l : Logged (Schema σ), Schema.ofJson (.object ms) = .ok l ∧
      (∃ odd : List Located,
        odd.Pairwise (fun a b => Earlier a.1 b.1) ∧
        (∀ p r, (p, r) ∈ odd ↔ (Reading.ofMembers ms).Reaches p r ∧ r.odd = true) ∧
        l.events = odd.map fun a => a.2.report) ∧
      (∀ e ∈ l.events, e.level = .warn) ∧
      (l.events = [] ↔
        ∀ p r, (Reading.ofMembers ms).Reaches p r → r.role.accepts r.value = true) := by
  obtain ⟨l, hl, hevents⟩ := events_ofJson (σ := σ) ms
  refine ⟨l, hl, ⟨oddReadings ms, pairwise_oddReadings ms, fun p r => mem_oddReadings_iff,
    hevents⟩, fun e he => ?_, ?_⟩
  · rw [hevents] at he
    obtain ⟨a, -, rfl⟩ := List.mem_map.1 he
    exact a.2.level_report
  · rw [hevents, List.map_eq_nil_iff]
    constructor
    · intro h p r hr
      cases hodd : r.role.accepts r.value with
      | true => rfl
      | false =>
        have hmem : (p, r) ∈ oddReadings ms :=
          mem_oddReadings_iff.2 ⟨hr, by rw [Reading.odd, hodd]; rfl⟩
        rw [h] at hmem
        cases hmem
    · intro h
      refine List.eq_nil_iff_forall_not_mem.2 fun l hl => ?_
      obtain ⟨hr, hodd⟩ := mem_oddReadings_iff.1 hl
      simp [Reading.odd, h _ _ hr] at hodd

/-- `{"a": null, "rows": [5, 7, null], "more": [{"x": true, "y": [[null], "b"]}, {"k": null}]}` -/
example : (Schema.fieldsOfJson (σ := Nat) "" [("a", .null),
    ("rows", .array [.nat 5, .nat 7, .null]),
    ("more", .array [.object [("x", .bool true), ("y", .array [.array [.null], .string "b"])],
      .object [("k", .null)]])]).events =
    [.oddValue "a" .null, .oddContext "rows" (.nat 7), .oddValue "rows[]" (.nat 5),
      .oddContext "more" (.object [("k", .null)]), .oddValue "more[].x" (.bool true),
      .oddValue "more[].y[]" (.array [.null])] := rfl

end WebExtract
