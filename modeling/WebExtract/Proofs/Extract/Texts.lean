import WebExtract.Proofs.Document.Within
import WebExtract.Proofs.Extract.Path

/-!
# Where extracted texts come from

Without computed fields all texts of an extracted value are texts of elements. Below an element only
elements below it are found, so each of these texts is one piece of the element's own text: what
selectors see further up decides which elements are found, and adds nothing to what they say.

Texts are trimmed. Trimming the text of the element takes nothing away from the trimmed text of an
element below it (`Text.trim_isInfix_trim`).

**Results.**
* `textOf_isInfix`: the text of an element below another is a piece of the other's.
* `Schema.within_of_gives`: what is extracted in the context of an element has texts from inside.
* `extractIn_within`: the same at every path. A path through a list leads into one of its matches,
  and the texts there come from inside this match.
-/
namespace WebExtract

open Dom

/-! ## The texts of a value -/

namespace Json

mutual

/-- All strings among the values, at whatever depth. Keys are no values. -/
def texts : Json → List String
  | .string s => [s]
  | .array elements => elementTexts elements
  | .object members => memberTexts members
  | _ => []

def elementTexts : List Json → List String
  | [] => []
  | v :: vs => v.texts ++ elementTexts vs

def memberTexts : List (String × Json) → List String
  | [] => []
  | (_, v) :: ms => v.texts ++ memberTexts ms

end

variable {t : String}

theorem mem_elementTexts {vs : List Json} : t ∈ elementTexts vs ↔ ∃ v ∈ vs, t ∈ v.texts := by
  induction vs with
  | nil => simp [elementTexts]
  | cons v vs ih => simp [elementTexts, ih]

theorem mem_memberTexts {ms : List (String × Json)} :
    t ∈ memberTexts ms ↔ ∃ m ∈ ms, t ∈ m.2.texts := by
  induction ms with
  | nil => simp [memberTexts]
  | cons m ms ih => obtain ⟨k, v⟩ := m; simp [memberTexts, ih]

theorem texts_strings (l : List String) : (Json.strings l).texts = l := by
  simp only [strings, texts]
  induction l with
  | nil => rfl
  | cons s l ih => simp [elementTexts, texts, ih]

/-- All texts of the value are pieces of the element's text. -/
def Within (v : Json) (e : Place) : Prop := ∀ t ∈ v.texts, t.toList <:+: (textOf e).toList

end Json

/-! ## Texts of elements -/

variable {d : Document} {e p : Place} {s : String}

theorem textOf_isInfix (h : p ∈ e.descendants) : (textOf p).toList <:+: (textOf e).toList := by
  rw [textOf, textOf, String.toList_ofList, String.toList_ofList]
  exact Text.trim_isInfix_trim (Place.text_isInfix h)

theorem Json.Within.of_mem_descendants {v : Json} (hv : v.Within p) (h : p ∈ e.descendants) :
    v.Within e :=
  fun t ht => (hv t ht).trans (textOf_isInfix h)

theorem Document.mem_descendants_of_mem_find (h : p ∈ d.find s (.node e)) : p ∈ e.descendants := by
  unfold Document.find at h
  cases hs : Css.Selector.parse? s with
  | none => simp [hs] at h
  | some sel =>
    simp only [hs, Document.select] at h
    exact (List.mem_filter.1 h).1

theorem Document.mem_listTexts {context : Option String} {c : Context} {t : String}
    (h : t ∈ (d.listTexts s context c).value) : ∃ p ∈ d.find s c, t = textOf p := by
  cases context with
  | none =>
    simp only [listTexts, Logged.value_bind, Logged.value_pure, value_query] at h
    obtain ⟨p, hp, rfl⟩ := List.mem_map.1 h
    exact ⟨p, hp, rfl⟩
  | some scope =>
    simp only [listTexts, textsWithin, Logged.value_bind, Logged.value_pure,
      value_matchesWithin] at h
    obtain ⟨p, hp, rfl⟩ := List.mem_map.1 h
    exact ⟨p, (List.mem_filter.1 hp).1, rfl⟩

theorem within_textOrNull (ps : List Place) (h : ∀ p ∈ ps, p ∈ e.descendants) :
    (textOrNull (ps.head?.map textOf)).Within e := by
  cases ps with
  | nil => simp [textOrNull, Json.Within, Json.texts]
  | cons p ps =>
    simp only [List.head?_cons, Option.map_some, textOrNull]
    split
    · simp [Json.Within, Json.texts]
    · intro t ht
      simp only [Json.texts, List.mem_singleton] at ht
      rw [ht]
      exact textOf_isInfix (h p List.mem_cons_self)

/-! ## Extracted values -/

variable {σ : Type}

mutual

theorem Schema.within_of_gives (d : Document) : ∀ (S : Schema σ) (e : Place) (v : Json),
    S.ComputedFree → (S.extractIn d (.node e)).Gives v → v.Within e
  | .mk fields, e, v, hS, h => by
    simp only [Schema.extractIn] at h
    obtain ⟨ms, hms, h⟩ := h.bind
    rw [h.eq_of_pure]
    intro t ht
    simp only [Json.texts] at ht
    obtain ⟨m, hm, ht⟩ := Json.mem_memberTexts.1 ht
    have hf := Schema.gives_extractFields hms
    exact Schema.within_of_forall₂ d fields e ms hS.2 hf m (Entries.mem_ofList hm) t ht

theorem Schema.within_of_forall₂ (d : Document) : ∀ (fields : List (String × Node σ)) (e : Place)
    (ms : List (String × Json)), Schema.AllFields (fun _ => True) (fun _ => False) fields →
      List.Forall₂ (fun f m => m.1 = f.1 ∧ (f.2.extract d f.1 (.node e)).Gives m.2) fields ms →
        ∀ m ∈ ms, m.2.Within e
  | [], _, _, _, .nil => by simp
  | (key, node) :: fields, e, m :: ms, hS, .cons hm hms => by
    intro m' hm'
    rcases List.mem_cons.1 hm' with rfl | hm'
    · exact Node.within_of_gives d key node e _ hS.1 hm.2
    · exact Schema.within_of_forall₂ d fields e ms hS.2 hms m' hm'

theorem Node.within_of_gives (d : Document) (key : String) : ∀ (n : Node σ) (e : Place) (v : Json),
    n.All (fun _ => True) (fun _ => False) → (n.extract d key (.node e)).Gives v → v.Within e
  | .selector s, e, v, _, h => by
    rw [Node.gives_selector h]
    exact within_textOrNull _ fun p hp => Document.mem_descendants_of_mem_find hp
  | .textList s context, e, v, _, h => by
    rw [Node.gives_textList h]
    intro t ht
    rw [Json.texts_strings] at ht
    obtain ⟨p, hp, rfl⟩ := Document.mem_listTexts ht
    exact textOf_isInfix (Document.mem_descendants_of_mem_find hp)
  | .list item (some scope), e, v, hS, h => by
    obtain ⟨vs, rfl, hvs⟩ := Node.gives_list h
    intro t ht
    simp only [Json.texts] at ht
    obtain ⟨x, hx, ht⟩ := Json.mem_elementTexts.1 ht
    obtain ⟨i, hi, rfl⟩ := List.getElem_of_mem hx
    have hi' : i < (d.find scope (.node e)).length := hvs.length_eq ▸ hi
    have hw : (vs[i]).Within (d.find scope (.node e))[i] :=
      Schema.within_of_gives d item _ _ hS (hvs.get hi' hi)
    have he : (d.find scope (.node e))[i] ∈ e.descendants :=
      Document.mem_descendants_of_mem_find (List.getElem_mem hi')
    exact hw.of_mem_descendants he t ht
  | .list _ none, e, v, _, h => by
    rw [Node.gives_list_none h]
    simp [Json.Within, Json.texts, Json.elementTexts]
  | .computed _, _, _, hS, _ => hS.elim
  | .nested S, e, v, hS, h => Schema.within_of_gives d S e v hS (Node.gives_nested h)

end

/-! ## Headline property -/

/-- **Texts from inside.** A schema without computed fields gives a value in every context. If the
context is an element, all texts of the value are pieces of the element's text. Wherever a path
leads to a node that is evaluated in an element, as each path through a list does, all texts of what
is found there are pieces of that element's text. -/
theorem extractIn_within (S : Schema σ) (hS : S.ComputedFree) (d : Document) (c : Context)
    (s : σ) :
    ∃ v, ((S.extractIn d c).run s).result = .ok v ∧
      (∀ e, c = .node e → ∀ t ∈ v.texts, t.toList <:+: (textOf e).toList) ∧
      (S.Constructible → ∀ p n e, S.resolve d c p = some (n, .node e) →
        ∃ x, v.at? p = some x ∧ ∀ t ∈ x.texts, t.toList <:+: (textOf e).toList) := by
  obtain ⟨v, hv⟩ := Schema.settled_extractIn hS d c
  have hg : (S.extractIn d c).Gives v := ⟨s, (hv s).1⟩
  refine ⟨v, (hv s).1, ?_, ?_⟩
  · rintro e rfl
    exact Schema.within_of_gives d S e v hS hg
  · intro hc p n e hr
    have hn : n.All (fun _ => True) (fun _ => False) := Node.All.resolve (n := .nested S) hS hr
    have hg' : ((Node.nested S).extract d "" c).Gives v := by simpa only [Node.extract] using hg
    obtain ⟨x, hx, hgx⟩ := gives_at? (n := .nested S) hc.wellFormed hg' hr
    exact ⟨x, hx, Node.within_of_gives d "" n e x hn hgx⟩

/-- The boxes inside an element, each with its first bold text and with the bold texts of the boxes
inside it. -/
def boxes : Schema Nat :=
  let inner := Schema.empty.field "bold" (.textList "b" none)
  let box := (Schema.empty.field "first" (.selector "b")).field "inner" (.list inner (some "div"))
  Schema.empty.field "boxes" (.list box (some "div"))

def boxesResult : Json :=
  .object [("boxes", .array [
    .object [("first", .string "outer"),
      ("inner", .array [.object [("bold", .strings ["inner"])]])],
    .object [("first", .string "inner"), ("inner", .array [])]])]

/-- `<div><b>inner</b></div>` -/
def innerBox : Place :=
  .child (.child boxPageMain []
    (.node 2 (.element ⟨.html, "div", []⟩)
      [.node 3 (.element ⟨.html, "b", []⟩) [.node 4 (.text "outer") []],
        .node 5 (.element ⟨.html, "div", []⟩)
          [.node 6 (.element ⟨.html, "b", []⟩) [.node 7 (.text "inner") []]]])
    [.node 8 (.element ⟨.html, "b", []⟩) [.node 9 (.text "beside") []]])
    [.node 3 (.element ⟨.html, "b", []⟩) [.node 4 (.text "outer") []]]
    (.node 5 (.element ⟨.html, "div", []⟩)
      [.node 6 (.element ⟨.html, "b", []⟩) [.node 7 (.text "inner") []]]) []

def innerBoxPath : List PathStep := [.key "boxes", .index 0, .key "inner", .index 0]

/-- The inner box says nothing of what stands around it. -/
theorem extractIn_within_boxPage :
    boxes.ComputedFree ∧ boxes.Constructible ∧
    ((boxes.extractIn boxPage (.node boxPageMain)).run 0).result = .ok boxesResult ∧
    textOf boxPageMain = "outerinnerbeside" ∧
    (∀ t ∈ boxesResult.texts, t.toList <:+: (textOf boxPageMain).toList) ∧
    textOf innerBox = "inner" ∧
    ∃ x, boxesResult.at? innerBoxPath = some x ∧
      ∀ t ∈ x.texts, t.toList <:+: (textOf innerBox).toList := by
  have hc : boxes.ComputedFree :=
    ⟨trivial, ⟨trivial, trivial, ⟨trivial, trivial, trivial⟩, trivial⟩, trivial⟩
  have hk : boxes.Constructible :=
    .field "boxes" .empty (.list (some "div")
      (.field "inner" (.field "first" .empty (.selector "b"))
        (.list (some "div") (.field "bold" .empty (.textList "b" none)))))
  have hr : ((boxes.extractIn boxPage (.node boxPageMain)).run 0).result = .ok boxesResult := rfl
  have hp : ∃ n, boxes.resolve boxPage (.node boxPageMain) innerBoxPath =
      some (n, .node innerBox) := ⟨_, rfl⟩
  obtain ⟨n, hn⟩ := hp
  obtain ⟨v, hv, hin, hpath⟩ := extractIn_within boxes hc boxPage (.node boxPageMain) 0
  obtain rfl : boxesResult = v := Except.ok.inj (hr.symm.trans hv)
  exact ⟨hc, hk, hr, by decide +kernel, hin boxPageMain rfl, by decide +kernel,
    hpath hk innerBoxPath n innerBox hn⟩

end WebExtract
