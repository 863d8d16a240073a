import Mathlib.Data.List.Perm.Basic
import WebExtract.Proofs.Extract.Path
import WebExtract.Proofs.Schema.Builder

/-!
# Adding fields and extracting

Adding a field to a schema puts a node under a key; extracting puts values under keys. If computed
fields depend on the document and the context alone, the one carries over to the other: the object
of a schema with a field added is the object of the schema with the field's own value put into it,
in place if the key is known, and at the end otherwise.

`Gathers d c fields ms` says that each field gives, from every state, the value in `ms` at its
place.

**Results.**
* `Gathers.put`, `Gathers.putAll`: a field added and its value put into the object stay together.
* `Gathers.fails_put`: a field that fails ends the extraction, wherever its key stands.
* `extractIn_withFields`: so extracting turns fields added in a row into the same insertions on
  objects.

A field in the middle is replaced while those behind it are extracted in another state than before.
That this changes none of their values is what `Steady` is for.
-/
namespace WebExtract

variable {σ : Type} {d : Document} {c : Context}

/-! ## Fields and values side by side -/

theorem forall₂_put {α β : Type} {R : String → α → β → Prop} {l : List (String × α)}
    {ms : List (String × β)} (h : List.Forall₂ (fun f m => m.1 = f.1 ∧ R f.1 f.2 m.2) l ms)
    {k : String} {a : α} {b : β} (hb : R k a b) :
    List.Forall₂ (fun f m => m.1 = f.1 ∧ R f.1 f.2 m.2) (Entries.put k a l)
      (Entries.put k b ms) := by
  induction h with
  | nil => exact .cons ⟨rfl, hb⟩ .nil
  | @cons f m l ms hm hrest ih =>
    obtain ⟨k₁, a'⟩ := f
    obtain ⟨k₂, b'⟩ := m
    obtain ⟨hk', hr⟩ : k₂ = k₁ ∧ R k₁ a' b' := hm
    subst hk'
    by_cases hk : k₂ = k
    · subst hk
      simp only [Entries.put, if_true]
      exact .cons ⟨rfl, hb⟩ hrest
    · simp only [Entries.put, hk, if_false]
      exact .cons ⟨rfl, hr⟩ ih

def Gathers (d : Document) (c : Context) (fields : List (String × Node σ))
    (ms : List (String × Json)) : Prop :=
  List.Forall₂ (fun f m => m.1 = f.1 ∧ (f.2.extract d f.1 c).Always (.ok m.2)) fields ms

namespace Gathers

variable {fields : List (String × Node σ)} {ms : List (String × Json)}

theorem keys_eq (h : Gathers d c fields ms) : Entries.keys ms = Entries.keys fields :=
  keys_of_forall₂ (R := fun f v => (f.2.extract d f.1 c).Always (.ok v)) h

theorem put (h : Gathers d c fields ms) {key : String} {n : Node σ} {x : Json}
    (hx : (n.extract d key c).Always (.ok x)) :
    Gathers d c (Entries.put key n fields) (Entries.put key x ms) :=
  forall₂_put (R := fun k (n : Node σ) v => (n.extract d k c).Always (.ok v)) h hx

theorem putAll {calls : List (String × Node σ)} {xs : List (String × Json)}
    (hx : Gathers d c calls xs) : ∀ {fields : List (String × Node σ)} {ms : List (String × Json)},
      Gathers d c fields ms → Gathers d c (Entries.putAll fields calls) (Entries.putAll ms xs) := by
  induction hx with
  | nil => exact fun h => h
  | @cons call x calls xs hcall _ ih =>
    intro fields ms h
    obtain ⟨key, n⟩ := call
    obtain ⟨key', v⟩ := x
    obtain ⟨rfl, hv⟩ := hcall
    exact ih (h.put hv)

/-- The fields are extracted to their values. -/
theorem always_extractFields (h : Gathers d c fields ms) :
    (Schema.extractFields d fields c).Always (.ok ms) := by
  induction h with
  | nil =>
    simp only [Schema.extractFields]
    exact Run.always_pure []
  | @cons f m fields ms hm _ ih =>
    obtain ⟨key, n⟩ := f
    obtain ⟨key', v⟩ := m
    obtain ⟨rfl, hv⟩ := hm
    simp only [Schema.extractFields]
    exact (Run.always_emit _).bind (hv.bind (ih.bind (Run.always_pure _)))

/-- Whatever stands before it gives its values, so it is the failure of the new node that is
reported. -/
theorem fails_put (h : Gathers d c fields ms) {key : String} {n : Node σ} {e : ScrapeError}
    (he : (n.extract d key c).Always (.error e)) :
    (Schema.extractFields d (Entries.put key n fields) c).Always (.error e) := by
  have hhere : ∀ fields : List (String × Node σ),
      (Schema.extractFields d ((key, n) :: fields) c).Always (.error e) := by
    intro fields
    simp only [Schema.extractFields]
    exact (Run.always_emit _).bind (he.bind_error _)
  induction h with
  | nil => exact hhere []
  | @cons f m fields ms hm _ ih =>
    obtain ⟨key', n'⟩ := f
    by_cases hk : key' = key
    · simp only [Entries.put, hk, if_true]
      exact hhere fields
    · simp only [Entries.put, hk, if_false, Schema.extractFields]
      exact (Run.always_emit _).bind (hm.2.bind (ih.bind_error _))

end Gathers

namespace Schema

variable {S : Schema σ} {m : Entries Json}

/-- A schema with distinct keys is extracted to the object of its fields' values. -/
theorem always_extractIn (hn : m.keys.Nodup) (h : Gathers d c S.fields m) :
    (S.extractIn d c).Always (.ok (.object m)) := by
  obtain ⟨fields⟩ := S
  simp only [extractIn]
  refine h.always_extractFields.bind ?_
  rw [Entries.ofList_of_nodup hn]
  exact Run.always_pure _

theorem fails_extractIn {e : ScrapeError} (h : (extractFields d S.fields c).Always (.error e)) :
    (S.extractIn d c).Always (.error e) := by
  obtain ⟨fields⟩ := S
  simp only [extractIn]
  exact h.bind_error _

/-- An extraction with a result has gathered the values of the fields. -/
theorem gathers_of_gives (hS : S.WellFormed) (hst : S.Steady) {v : Json}
    (hv : (S.extractIn d c).Gives v) :
    ∃ m : Entries Json, v = .object m ∧ m.keys = S.keys ∧ Gathers d c S.fields m := by
  obtain ⟨fields⟩ := S
  simp only [extractIn] at hv
  obtain ⟨ms, hms, hv⟩ := hv.bind
  have hf := gives_extractFields hms
  have hk : Entries.keys ms = Entries.keys fields := keys_of_forall₂ hf
  rw [hv.eq_of_pure, Entries.ofList_of_nodup (hk ▸ hS.nodup_keys)]
  refine ⟨ms, rfl, hk, ?_⟩
  have hsteady := (allFields_iff fields).1 hst.2
  refine ((List.forall₂_and_left _ _).2 ⟨hsteady, hf⟩).imp ?_
  rintro f m ⟨hn, hm, s, hr⟩
  exact ⟨hm, (Node.steady_extract hn d f.1 c).always hr⟩

end Schema

/-! ## One field alone -/

theorem Node.always_of_single {n : Node σ} (hn : n.Steady) {key : String} {e : String × Json}
    {s : σ} (h : (((Schema.empty.field key n).extractIn d c).run s).result = .ok (.object [e])) :
    e.1 = key ∧ (n.extract d key c).Always (.ok e.2) := by
  rw [Schema.result_single] at h
  cases hr : ((n.extract d key c).run s).result with
  | error err => rw [hr] at h; cases h
  | ok x =>
    rw [hr] at h
    cases h
    exact ⟨rfl, (Node.steady_extract hn d key c).always hr⟩

theorem Node.always_of_single_error {n : Node σ} (hn : n.Steady) {key : String} {e : ScrapeError}
    {s : σ} (h : (((Schema.empty.field key n).extractIn d c).run s).result = .error e) :
    (n.extract d key c).Always (.error e) := by
  rw [Schema.result_single] at h
  cases hr : ((n.extract d key c).run s).result with
  | error err =>
    rw [hr] at h
    cases h
    exact (Node.steady_extract hn d key c).always hr
  | ok x => rw [hr] at h; cases h

/-! ## Headline property -/

/-- **Fields and members.** Take a schema that has a result. With a field added that alone gives a
value, its object has that value in place of the one that stood under the key, or at the end; with
a field added that alone fails, it fails in the same way. So fields added in a row, each of which
has a value alone, do to the object what the same insertions do; and if their keys are distinct,
adding them in another order permutes the members and changes no value. -/
theorem extractIn_withFields (S : Schema σ) (hS : S.Constructible) (hst : S.Steady) (d : Document)
    (c : Context) (s : σ) (v : Json) (hv : ((S.extractIn d c).run s).result = .ok v) :
    ∃ m : Entries Json, v = .object m ∧ m.keys = S.keys ∧
      (∀ key n, n.Steady →
        (∀ x s₁, (((Schema.empty.field key n).extractIn d c).run s₁).result =
            .ok (.object [(key, x)]) →
          ∃ m' : Entries Json,
            (∀ s₂, (((S.field key n).extractIn d c).run s₂).result = .ok (.object m')) ∧
            ((∃ before old after, m = before ++ (key, old) :: after ∧
                m' = before ++ (key, x) :: after) ∨
              (key ∉ S.keys ∧ m' = m ++ [(key, x)]))) ∧
        (∀ e s₁, (((Schema.empty.field key n).extractIn d c).run s₁).result = .error e →
          ∀ s₂, (((S.field key n).extractIn d c).run s₂).result = .error e)) ∧
      (∀ (calls : List (String × Node σ)) (xs : List (String × Json)),
        (∀ call ∈ calls, call.2.Steady) →
        List.Forall₂ (fun call x => ∃ s₁, (((Schema.empty.field call.1 call.2).extractIn d c).run
          s₁).result = .ok (.object [x])) calls xs →
        (∀ s₂, (((S.withFields calls).extractIn d c).run s₂).result =
          .ok (.object (m.putAll xs))) ∧
        (∀ calls', calls'.Perm calls → (calls.map Prod.fst).Nodup →
          ∃ m' : Entries Json,
            (∀ s₂, (((S.withFields calls').extractIn d c).run s₂).result = .ok (.object m')) ∧
            m'.Perm (m.putAll xs) ∧ ∀ key, m'.get? key = (m.putAll xs).get? key)) := by
  obtain ⟨m, rfl, hk, hg⟩ := Schema.gathers_of_gives hS.wellFormed hst ⟨s, hv⟩
  have hnodup : m.keys.Nodup := hk ▸ hS.wellFormed.nodup_keys
  have hrow : ∀ {calls : List (String × Node σ)} {xs : List (String × Json)},
      Gathers d c calls xs →
        ((S.withFields calls).extractIn d c).Always (.ok (.object (m.putAll xs))) := by
    intro calls xs hx
    refine Schema.always_extractIn (Entries.nodup_keys_putAll hnodup xs) ?_
    rw [Schema.fields_withFields]
    exact hx.putAll hg
  refine ⟨m, rfl, hk, fun key n hn => ⟨fun x s₁ hx => ?_, fun e s₁ he => ?_⟩, ?_⟩
  · have hput := hg.put (Node.always_of_single hn hx).2
    refine ⟨m.put key x, Schema.always_extractIn (Entries.nodup_keys_put hnodup) hput, ?_⟩
    rcases Entries.put_cases key x m with ⟨before, old, after, hm, -, hp⟩ | ⟨hnew, hp⟩
    · exact .inl ⟨before, old, after, hm, hp⟩
    · exact .inr ⟨hk ▸ hnew, hp⟩
  · exact Schema.fails_extractIn (hg.fails_put (Node.always_of_single_error hn he))
  · intro calls xs hsteady hsingle
    have hx : Gathers d c calls xs := by
      refine ((List.forall₂_and_left _ _).2 ⟨hsteady, hsingle⟩).imp ?_
      rintro call x ⟨hn, s₁, hr⟩
      exact Node.always_of_single hn hr
    refine ⟨hrow hx, fun calls' hp hdistinct => ?_⟩
    obtain ⟨xs', hx', hperm⟩ := List.perm_comp_forall₂ hp hx
    have hxs : (Entries.keys xs).Nodup := hx.keys_eq ▸ hdistinct
    have hxs' : (Entries.keys xs').Nodup := (hperm.map Prod.fst).nodup_iff.2 hxs
    exact ⟨m.putAll xs', hrow hx', Entries.putAll_perm hnodup hxs' hperm,
      Entries.get?_putAll_perm hxs' hperm m⟩

def boldTextsResult : Entries Json :=
  [("count", .null),
    ("rows", .array [.object [("text", .string "x")], .object [("text", .string "y")]])]

def allBold : String × Node Nat := ("all", .textList "b" none)

def firstBold : String × Node Nat := ("count", .selector "b")

def refused : Computed Nat := fun _ _ => Run.fail (.message "none")

theorem extractIn_withFields_boldPage :
    ((boldTexts.extractIn boldPage .document).run 0).result = .ok (.object boldTextsResult) ∧
    (∃ m' : Entries Json,
      (∀ s, (((boldTexts.field "count" (.selector "b")).extractIn boldPage .document).run
        s).result = .ok (.object m')) ∧
      ((∃ before old after, boldTextsResult = before ++ ("count", old) :: after ∧
          m' = before ++ ("count", .string "x") :: after) ∨
        ("count" ∉ boldTexts.keys ∧ m' = boldTextsResult ++ [("count", .string "x")]))) ∧
    (∀ s, (((boldTexts.computed "count" refused).extractIn boldPage .document).run s).result =
      .error (.computed "count" (.message "none"))) ∧
    (∀ s, (((boldTexts.withFields [allBold, firstBold]).extractIn boldPage .document).run
      s).result = .ok (.object [("count", .string "x"),
        ("rows", .array [.object [("text", .string "x")], .object [("text", .string "y")]]),
        ("all", .strings ["x", "y"])])) ∧
    ∃ m' : Entries Json,
      (∀ s, (((boldTexts.withFields [firstBold, allBold]).extractIn boldPage .document).run
        s).result = .ok (.object m')) ∧
      m'.get? "all" = some (.strings ["x", "y"]) := by
  have hS : boldTexts.Constructible :=
    .field "rows" (.computed "count" _ .empty) (.list (some "p") boldText_constructible)
  have hst : boldTexts.Steady :=
    ⟨trivial, fun _ _ _ _ => rfl, ⟨trivial, trivial, trivial⟩, trivial⟩
  have hv : ((boldTexts.extractIn boldPage .document).run 0).result =
      .ok (.object boldTextsResult) := rfl
  obtain ⟨m, hm, -, hone, hrow⟩ :=
    extractIn_withFields boldTexts hS hst boldPage .document 0 _ hv
  cases hm
  have hsteady : ∀ call ∈ [allBold, firstBold], call.2.Steady := by
    intro call hc
    simp only [List.mem_cons, List.not_mem_nil, or_false] at hc
    rcases hc with rfl | rfl <;> trivial
  obtain ⟨hall, hperm⟩ := hrow [allBold, firstBold]
    [("all", .strings ["x", "y"]), ("count", .string "x")] hsteady
    (.cons ⟨0, rfl⟩ (.cons ⟨0, rfl⟩ .nil))
  obtain ⟨m', hm', -, hget⟩ := hperm [firstBold, allBold] (.swap _ _ _) (by decide)
  refine ⟨hv, ?_, ?_, hall, m', hm', hget "all"⟩
  · exact (hone "count" (.selector "b") trivial).1 (.string "x") 0 rfl
  · exact (hone "count" (.computed refused) fun _ _ _ _ => rfl).2 _ 0 rfl

end WebExtract
