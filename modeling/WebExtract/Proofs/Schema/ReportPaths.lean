import WebExtract.Proofs.Extract.Path
import WebExtract.Proofs.Schema.Reports

/-!
# Paths of reports

A report names a place in the object that was read by a text: keys with points between them, and
brackets behind the key of a list for its item. `readPath` reads such a text as the steps of a path
into a JSON value: it cuts the text at the points and takes the brackets off the end of each piece.

If the keys are plain, that is not empty and without `.` and `[`, nothing is lost in the text:
reading it leads to the value that was reported, or to the list whose context was. Two reports from
one object never have the same path.

**Results.**
* `readPath_renderPath`: the steps are read back from the text that they are written as.
* `Reading.Reaches.path_eq`, `Reading.Reaches.at?`: the path of a reading is written from the steps
  of its way, and these lead to its value.
* `Reading.Reaches.eq_of_steps`: the steps of an odd reading determine its way.
* `ofJson_reportPaths`: so the paths of the reports are distinct and lead to what is reported.
-/
namespace WebExtract

/-! ## Paths as texts -/

namespace PathStep

/-- The text of a path with one more step. -/
def extend (path : String) : PathStep → String
  | .key k => Schema.childPath path k
  | .index _ => Schema.itemPath path

end PathStep

def renderPath (steps : List PathStep) : String := steps.foldl PathStep.extend ""

/-- The steps that a piece of a path stands for, which is given from its end. -/
def readPiece : List Char → List PathStep
  | ']' :: '[' :: cs => readPiece cs ++ [.index 0]
  | cs => [.key (String.ofList cs.reverse)]

def readPath (path : String) : List PathStep :=
  (path.toList.splitOn '.').flatMap fun piece => readPiece piece.reverse

/-- The keys that a path can be read with. -/
structure PlainKey (key : String) : Prop where
  ne_empty : key ≠ ""
  no_point : '.' ∉ key.toList
  no_bracket : '[' ∉ key.toList

instance (key : String) : Decidable (PlainKey key) :=
  decidable_of_iff (key ≠ "" ∧ '.' ∉ key.toList ∧ '[' ∉ key.toList)
    ⟨fun h => ⟨h.1, h.2.1, h.2.2⟩, fun h => ⟨h.ne_empty, h.no_point, h.no_bracket⟩⟩

/-- The steps that occur in paths of reports: only the first element of a list is entered. -/
def PathStep.Plain : PathStep → Prop
  | .key k => PlainKey k
  | .index i => i = 0

/-- The value at the top is an object, so a path begins with a key. -/
def PlainSteps : List PathStep → Prop
  | .key k :: steps => PlainKey k ∧ ∀ step ∈ steps, step.Plain
  | _ => False

/-! ## Reading what was written -/

theorem splitOn_of_not_mem {cs : List Char} (h : '.' ∉ cs) : cs.splitOn '.' = [cs] := by
  refine List.splitOnP_eq_singleton fun c hc => ?_
  have hne : c ≠ '.' := by
    rintro rfl
    exact h hc
  simpa using hne

/-- What is added without a point becomes part of the last piece. -/
theorem splitOn_append (xs : List Char) {ys : List Char} (h : '.' ∉ ys) :
    ∃ init last, xs.splitOn '.' = init ++ [last] ∧
      (xs ++ ys).splitOn '.' = init ++ [last ++ ys] := by
  induction xs with
  | nil => exact ⟨[], [], rfl, splitOn_of_not_mem h⟩
  | cons c cs ih =>
    obtain ⟨init, last, hcs, happ⟩ := ih
    simp only [List.splitOn] at hcs happ ⊢
    rw [List.cons_append, List.splitOnP_cons_eq_if_modifyHead,
      List.splitOnP_cons_eq_if_modifyHead, hcs, happ]
    by_cases hc : c = '.'
    · exact ⟨[] :: init, last, by simp [hc], by simp [hc]⟩
    · cases init with
      | nil => exact ⟨[], c :: last, by simp [hc], by simp [hc]⟩
      | cons piece init => exact ⟨(c :: piece) :: init, last, by simp [hc], by simp [hc]⟩

theorem readPiece_of_not_mem {cs : List Char} (h : '[' ∉ cs) :
    readPiece cs.reverse = [.key (String.ofList cs)] := by
  unfold readPiece
  split
  · rename_i rest hcs
    have hm : '[' ∈ cs.reverse := by simp [hcs]
    exact absurd (List.mem_reverse.1 hm) h
  · rw [List.reverse_reverse]

theorem readPath_key {key : String} (hk : PlainKey key) : readPath key = [.key key] := by
  rw [readPath, splitOn_of_not_mem hk.no_point, List.flatMap_singleton,
    readPiece_of_not_mem hk.no_bracket, String.ofList_toList]

theorem readPath_childPath {path key : String} (hp : path ≠ "") (hk : PlainKey key) :
    readPath (Schema.childPath path key) = readPath path ++ [.key key] := by
  have hl : (path ++ "." ++ key).toList = path.toList ++ '.' :: key.toList := by
    simp [String.toList_append]
  have hs : (path.toList ++ '.' :: key.toList).splitOn '.' =
      path.toList.splitOn '.' ++ key.toList.splitOn '.' :=
    List.splitOnP_append_cons _ _ rfl
  have hkey := readPath_key hk
  rw [readPath] at hkey
  rw [Schema.childPath, if_neg hp, readPath, hl, hs, List.flatMap_append, hkey]
  rfl

theorem readPath_itemPath (path : String) :
    readPath (Schema.itemPath path) = readPath path ++ [.index 0] := by
  have hl : (path ++ "[]").toList = path.toList ++ ['[', ']'] := by
    simp [String.toList_append]
  have hpoint : '.' ∉ ['[', ']'] := by decide
  obtain ⟨init, last, hs, happ⟩ := splitOn_append path.toList hpoint
  rw [Schema.itemPath, readPath, readPath, hl, hs, happ]
  simp [readPiece]

theorem extend_ne_empty {path : String} {step : PathStep} (hp : path ≠ "") :
    step.extend path ≠ "" := by
  cases step with
  | key k => simp [PathStep.extend, Schema.childPath, hp]
  | index i => simp [PathStep.extend, Schema.itemPath]

theorem readPath_extend {path : String} (hp : path ≠ "") {step : PathStep} (hs : step.Plain) :
    readPath (step.extend path) = readPath path ++ [step] := by
  cases step with
  | key k => exact readPath_childPath hp hs
  | index i =>
    obtain rfl : i = 0 := hs
    exact readPath_itemPath path

theorem readPath_foldl {path : String} (hp : path ≠ "") {steps : List PathStep}
    (hs : ∀ step ∈ steps, step.Plain) :
    readPath (steps.foldl PathStep.extend path) = readPath path ++ steps := by
  induction steps generalizing path with
  | nil => simp
  | cons step steps ih =>
    rw [List.forall_mem_cons] at hs
    rw [List.foldl_cons, ih (extend_ne_empty hp) hs.2, readPath_extend hp hs.1]
    simp

/-- The steps are read back. -/
theorem readPath_renderPath {steps : List PathStep} (hs : PlainSteps steps) :
    readPath (renderPath steps) = steps := by
  match steps, hs with
  | .key k :: steps, ⟨hk, hs⟩ =>
    have hfirst : PathStep.extend "" (.key k) = k := by simp [PathStep.extend, Schema.childPath]
    rw [renderPath, List.foldl_cons, hfirst, readPath_foldl hk.ne_empty hs, readPath_key hk]
    rfl

/-! ## The steps of a way -/

def Turn.key? : Turn → Option String
  | .member _ key => some key
  | .context => none
  | .item => none

def Turn.steps : Turn → List PathStep
  | .member _ key => [.key key]
  | .context => []
  | .item => [.index 0]

/-- A context has no step of its own: what leads to it is the path of its list. -/
def stepsOf (p : List Turn) : List PathStep := p.flatMap Turn.steps

namespace Reading

/-- The steps lead from `v` to the value of the reading, or to the list whose context it is. -/
def IsAt (r : Reading) (v : Json) (steps : List PathStep) : Prop :=
  match r.role with
  | .context => ∃ vs, v.at? steps = some (.array vs) ∧ vs[1]? = some r.value
  | .top | .member | .item => v.at? steps = some r.value

theorem IsAt.cons {r : Reading} {v w : Json} {step : PathStep} {steps : List PathStep}
    (hw : v.child? step = some w) (h : r.IsAt w steps) : r.IsAt v (step :: steps) := by
  obtain ⟨role, path, x⟩ := r
  have hat : v.at? (step :: steps) = w.at? steps := by rw [Json.at?, hw, Option.bind_some]
  cases role with
  | context =>
    obtain ⟨vs, hvs, hx⟩ := h
    exact ⟨vs, hat.trans hvs, hx⟩
  | top | member | item => exact hat.trans h

theorem Reaches.path_eq {r r' : Reading} {p : List Turn} (h : r.Reaches p r') :
    r'.path = (stepsOf p).foldl PathStep.extend r.path := by
  induction h with
  | here r => rfl
  | turn ht _ ih =>
    rw [ih, stepsOf, stepsOf, List.flatMap_cons, List.foldl_append]
    cases ht <;> rfl

theorem distinct_of_mem {ms : List (String × Json)} (hd : (Json.object ms).Distinct) {i : Nat}
    {key : String} {v : Json} (h : ms[i]? = some (key, v)) :
    v.Distinct ∧ Entries.get? key ms = some v := by
  simp only [Json.Distinct] at hd
  have hm : (key, v) ∈ ms := List.mem_of_getElem? h
  exact ⟨(Json.distinctMembers_iff ms).1 hd.2 _ hm, Entries.get?_of_mem hd.1 hm⟩

/-- A key stands at one position. -/
theorem position_of_key {ms : List (String × Json)} (hd : (Json.object ms).Distinct) {i j : Nat}
    {key : String} {v w : Json} (hi : ms[i]? = some (key, v)) (hj : ms[j]? = some (key, w)) :
    i = j := by
  simp only [Json.Distinct] at hd
  have hki : (ms.map Prod.fst)[i]? = some key := by simp [hi]
  have hkj : (ms.map Prod.fst)[j]? = some key := by simp [hj]
  have hlt : i < (ms.map Prod.fst).length := (List.getElem?_eq_some_iff.1 hki).1
  exact (List.getElem?_inj hlt hd.1).1 (hki.trans hkj.symm)

theorem distinct_of_first {vs : List Json} (hd : (Json.array vs).Distinct) {v : Json}
    (h : vs[0]? = some v) : v.Distinct := by
  cases vs with
  | nil => cases h
  | cons w vs =>
    cases h
    simp only [Json.Distinct, Json.DistinctElements] at hd
    exact hd.1

theorem Reaches.at? {r r' : Reading} {p : List Turn} (h : r.Reaches p r')
    (hr : r.role ≠ .context) (hd : r.value.Distinct) : r'.IsAt r.value (stepsOf p) := by
  induction h with
  | here r =>
    obtain ⟨role, path, v⟩ := r
    cases role with
    | context => exact absurd rfl hr
    | top | member | item => rfl
  | @turn r r₁ r' t p ht hp ih =>
    cases ht with
    | @member role path key ms i v _ hm =>
      obtain ⟨hv, hget⟩ := distinct_of_mem hd hm
      have hchild : (Json.object ms).child? (.key key) = some v := hget
      exact IsAt.cons hchild (ih (by simp) hv)
    | @context path vs v hv =>
      obtain ⟨rfl, rfl⟩ := reaches_context_iff.1 hp
      exact ⟨vs, rfl, hv⟩
    | @item path vs v hv =>
      have hchild : (Json.array vs).child? (.index 0) = some v := hv
      exact IsAt.cons hchild (ih (by simp) (distinct_of_first hd hv))

/-- Only a context is reached without a step, from a list, which is not odd itself. -/
theorem Reaches.eq_nil_of_steps {r r' : Reading} {p : List Turn} (h : r.Reaches p r')
    (hr : r.odd = true) (hs : stepsOf p = []) : p = [] := by
  cases h with
  | here r => rfl
  | turn ht _ =>
    cases ht with
    | member _ _ => cases hs
    | item _ => cases hs
    | context _ => cases hr

/-- The steps of two odd readings tell their ways apart. -/
theorem Reaches.eq_of_steps {r a b : Reading} {p q : List Turn} (ha : r.Reaches p a)
    (hb : r.Reaches q b) (hr : r.role ≠ .context) (hd : r.value.Distinct) (hoa : a.odd = true)
    (hob : b.odd = true) (hs : stepsOf p = stepsOf q) : p = q := by
  -- On the first way: its first step tells which turn the second way takes, and where that leads.
  -- The turn into a context has no step, but ends the way.
  induction ha generalizing q with
  | here r => exact (hb.eq_nil_of_steps hoa hs.symm).symm
  | @turn r r₁ a t p ht hp ih =>
    cases hb with
    | here r => exact (Reaches.turn ht hp).eq_nil_of_steps hob hs
    | @turn _ r₂ _ t' q ht' hq =>
      rw [stepsOf, stepsOf, List.flatMap_cons, List.flatMap_cons] at hs
      cases ht with
      | @member role path key ms i v hrole hm =>
        obtain ⟨-, j, key', v', hm', rfl, rfl⟩ := leads_object_iff.1 ht'
        obtain ⟨hv, hget⟩ := distinct_of_mem hd hm
        simp only [Turn.steps, List.singleton_append, List.cons.injEq, PathStep.key.injEq] at hs
        obtain ⟨rfl, hs⟩ := hs
        obtain rfl : i = j := position_of_key hd hm hm'
        cases hm.symm.trans hm'
        rw [ih hq (by simp) hv hoa hs]
      | @context path vs v hv =>
        obtain ⟨rfl, -⟩ := reaches_context_iff.1 hp
        obtain ⟨-, ⟨v', -, rfl, rfl⟩ | ⟨v', -, rfl, rfl⟩⟩ := leads_array_iff.1 ht'
        · obtain ⟨rfl, -⟩ := reaches_context_iff.1 hq
          rfl
        · cases hs
      | @item path vs v hv =>
        obtain ⟨-, ⟨v', -, rfl, rfl⟩ | ⟨v', hv', rfl, rfl⟩⟩ := leads_array_iff.1 ht'
        · obtain ⟨rfl, -⟩ := reaches_context_iff.1 hq
          cases hs
        · cases hv.symm.trans hv'
          simp only [Turn.steps, List.singleton_append, List.cons.injEq, true_and] at hs
          rw [ih hq (by simp) (distinct_of_first hd hv) hoa hs]

end Reading

/-! ## From the top -/

section

variable {ms : List (String × Json)} {p q : List Turn} {r r' : Reading}

/-- The keys are plain, in every object that is entered. -/
def PlainKeys (ms : List (String × Json)) : Prop :=
  ∀ p r, (Reading.ofMembers ms).Reaches p r → ∀ key ∈ p.filterMap Turn.key?, PlainKey key

theorem plainKeys_iff : PlainKeys ms ↔ ∀ l ∈ (Json.object ms).readings .top "",
    ∀ key ∈ l.1.filterMap Turn.key?, PlainKey key := by
  constructor
  · rintro h ⟨p, r⟩ hl
    exact h p r ((mem_readings_iff .top "" (.object ms)).1 hl)
  · intro h p r hr
    exact h (p, r) ((mem_readings_iff .top "" (.object ms)).2 hr)

instance (ms : List (String × Json)) : Decidable (PlainKeys ms) :=
  decidable_of_iff _ plainKeys_iff.symm

/-- An odd value is not the one at the top, and the way to it begins with a member. -/
theorem plainSteps_of_reaches (hk : PlainKeys ms) (h : (Reading.ofMembers ms).Reaches p r)
    (hr : r.odd = true) : PlainSteps (stepsOf p) := by
  have hplain : ∀ t ∈ p, ∀ step ∈ t.steps, step.Plain := by
    intro t ht step hstep
    cases t with
    | member i key =>
      obtain rfl := List.mem_singleton.1 hstep
      exact hk p r h key (List.mem_filterMap.2 ⟨_, ht, rfl⟩)
    | context => cases hstep
    | item =>
      obtain rfl := List.mem_singleton.1 hstep
      rfl
  cases h with
  | here r => cases hr
  | @turn _ _ _ t p ht _ =>
    obtain ⟨-, i, key, v, -, rfl, -⟩ := Reading.leads_object_iff.1 ht
    refine ⟨hplain _ List.mem_cons_self _ List.mem_cons_self, fun step hstep => ?_⟩
    obtain ⟨t, ht, hstep⟩ := List.mem_flatMap.1 hstep
    exact hplain t (List.mem_cons_of_mem _ ht) step hstep

theorem path_of_reaches (h : (Reading.ofMembers ms).Reaches p r) :
    r.path = renderPath (stepsOf p) := h.path_eq

theorem readPath_of_reaches (hk : PlainKeys ms) (h : (Reading.ofMembers ms).Reaches p r)
    (hr : r.odd = true) : readPath r.path = stepsOf p := by
  rw [path_of_reaches h, readPath_renderPath (plainSteps_of_reaches hk h hr)]

/-- Odd readings on different ways have different paths. -/
theorem path_ne_of_reaches (hd : (Json.object ms).Distinct) (hk : PlainKeys ms)
    (h : (Reading.ofMembers ms).Reaches p r) (hr : r.odd = true)
    (h' : (Reading.ofMembers ms).Reaches q r') (hr' : r'.odd = true) (hne : p ≠ q) :
    r.path ≠ r'.path := by
  intro hpath
  have hs : stepsOf p = stepsOf q := by
    rw [← readPath_of_reaches hk h hr, ← readPath_of_reaches hk h' hr', hpath]
  exact hne (h.eq_of_steps h' (by simp [Reading.ofMembers]) hd hr hr' hs)

end

/-! ## Headline property -/

/-- The path that a report on a schema names. -/
def Event.path? : Event → Option String
  | .oddValue path _ => some path
  | .oddContext path _ => some path
  | _ => none

theorem Reading.path?_report (r : Reading) : r.report.path? = some r.path := by
  obtain ⟨role, path, v⟩ := r
  cases role <;> rfl

/-- **Paths.** If the keys of the objects that are entered are distinct and plain, no two reports on
an object name the same path. Each path, cut at the points and with the brackets taken off the ends
of the pieces, is a sequence of keys and first elements, the only one that is written like this, and
leads from the object to the value that was reported, or to the list that it is the second element
of. -/
theorem ofJson_reportPaths {σ : Type} (ms : List (String × Json)) (hd : (Json.object ms).Distinct)
    (hk : PlainKeys ms) :
    ∃ l : Logged (Schema σ), Schema.ofJson (.object ms) = .ok l ∧
      l.events.Pairwise (fun e e' => e.path? ≠ e'.path?) ∧
      ∀ e ∈ l.events, ∃ path v,
        ((e = .oddValue path v ∧ (Json.object ms).at? (readPath path) = some v) ∨
          (e = .oddContext path v ∧ ∃ vs,
            (Json.object ms).at? (readPath path) = some (.array vs) ∧ vs[1]? = some v)) ∧
        PlainSteps (readPath path) ∧ renderPath (readPath path) = path ∧
        ∀ steps, PlainSteps steps → renderPath steps = path → steps = readPath path := by
  obtain ⟨l, hl, hevents⟩ := events_ofJson (σ := σ) ms
  refine ⟨l, hl, ?_, fun e he => ?_⟩
  · rw [hevents, List.pairwise_map]
    refine (pairwise_oddReadings ms).imp_of_mem ?_
    rintro ⟨p, r⟩ ⟨q, r'⟩ hp hq hpq
    obtain ⟨hr, hodd⟩ := mem_oddReadings_iff.1 hp
    obtain ⟨hr', hodd'⟩ := mem_oddReadings_iff.1 hq
    rw [Reading.path?_report, Reading.path?_report, ne_eq, Option.some.injEq]
    exact path_ne_of_reaches hd hk hr hodd hr' hodd' hpq.ne
  · rw [hevents] at he
    obtain ⟨⟨p, r⟩, hmem, rfl⟩ := List.mem_map.1 he
    obtain ⟨hr, hodd⟩ := mem_oddReadings_iff.1 hmem
    have hsteps : readPath r.path = stepsOf p := readPath_of_reaches hk hr hodd
    have hat : r.IsAt (.object ms) (stepsOf p) := hr.at? (by simp [Reading.ofMembers]) hd
    refine ⟨r.path, r.value, ?_, ?_, ?_, fun steps hplain hrender => ?_⟩
    · rw [hsteps]
      obtain ⟨role, path, v⟩ := r
      cases role with
      | context => exact .inr ⟨rfl, hat⟩
      | top | member | item => exact .inl ⟨rfl, hat⟩
    · rw [hsteps]
      exact plainSteps_of_reaches hk hr hodd
    · rw [hsteps]
      exact (path_of_reaches hr).symm
    · rw [← hrender, readPath_renderPath hplain]

/-- `{"rows": [{"x]": null, "y": ["b", 7]}, {}], "x]": [5], "y": {"x]": true}}` -/
def crossedListing : List (String × Json) :=
  [("rows", .array [.object [("x]", .null), ("y", .array [.string "b", .nat 7])], .object []]),
    ("x]", .array [.nat 5]), ("y", .object [("x]", .bool true)])]

theorem ofJson_reportPaths_crossedListing :
    (Json.object crossedListing).Distinct ∧ PlainKeys crossedListing ∧
    ∃ l : Logged (Schema Nat), Schema.ofJson (.object crossedListing) = .ok l ∧
      l.events.map Event.path? =
        [some "rows", some "rows[].x]", some "rows[].y", some "x][]", some "y.x]"] ∧
      l.events.Pairwise (fun e e' => e.path? ≠ e'.path?) ∧
      ∃ path v, Event.oddContext "rows[].y" (.nat 7) = .oddContext path v ∧
        ∃ vs, (Json.object crossedListing).at? (readPath path) = some (.array vs) ∧
          vs[1]? = some v := by
  have hd : (Json.object crossedListing).Distinct := by
    simp [crossedListing, Json.nat, Json.Distinct, Json.DistinctMembers, Json.DistinctElements]
  have hk : PlainKeys crossedListing := by decide +kernel
  obtain ⟨l, hl, hpaths, hreports⟩ := ofJson_reportPaths (σ := Nat) crossedListing hd hk
  rw [Schema.ofJson_object, Except.ok.injEq] at hl
  subst hl
  refine ⟨hd, hk, _, Schema.ofJson_object _, rfl, hpaths, ?_⟩
  have hmem : Event.oddContext "rows[].y" (.nat 7) ∈
      (Schema.mk <$> Schema.fieldsOfJson "" crossedListing : Logged (Schema Nat)).events :=
    List.mem_of_getElem? (i := 2) rfl
  obtain ⟨path, v, h | ⟨he, vs, hvs⟩, -⟩ := hreports _ hmem
  · cases h.1
  · exact ⟨path, v, he, vs, hvs⟩

end WebExtract
