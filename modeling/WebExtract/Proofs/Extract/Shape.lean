import WebExtract.Proofs.Extract.Results

/-!
# The shape of what is extracted

`Schema.Conforms d S c v` says that `v` has the shape that the schema `S` prescribes in the context
`c` of the document `d`:

* `v` is an object with the schema's keys, each once, in the schema's order;
* a selector gives null or a text that is not empty; a text list gives a list of texts; no text
  begins or ends with a blank;
* a list with a context has one element for each match of the context, which conforms to the item
  in that match; a list without one is empty;
* a nested schema is conformed to in the same context; a computed field may hold anything.

**Results.**
* `Schema.conforms_of_gives`: what a well-formed schema gives conforms to it.
* `extractIn_conforms`: the same for schemas as they can be made, with the result that is always
  there if no field is computed.

The values are put into the object one after the other, and a repeated key would displace an
earlier one. It is `Schema.WellFormed` that rules this out (`Schema.gives_extractIn`).
-/
namespace WebExtract

variable {σ : Type}

/-! ## Conformance -/

mutual

def Schema.Conforms (d : Document) : Schema σ → Context → Json → Prop
  | .mk fields, c, v => ∃ members : Entries Json, v = .object members ∧
      members.keys = Entries.keys fields ∧ members.keys.Nodup ∧
      Schema.FieldsConform d members fields c

/-- Each field has a value among the members, which conforms to its node. -/
def Schema.FieldsConform (d : Document) (members : Entries Json) :
    List (String × Node σ) → Context → Prop
  | [], _ => True
  | (key, node) :: fields, c =>
    (∃ v, members.get? key = some v ∧ node.Conforms d c v) ∧
      Schema.FieldsConform d members fields c

def Node.Conforms (d : Document) : Node σ → Context → Json → Prop
  | .selector _, _, v =>
    v = .null ∨ ∃ text : String, v = .string text ∧ text ≠ "" ∧ Text.Trimmed text.toList
  | .textList _ _, _, v =>
    ∃ texts : List String, v = .strings texts ∧ ∀ t ∈ texts, Text.Trimmed t.toList
  | .list item (some scope), c, v =>
    ∃ vs : List Json, v = .array vs ∧ vs.length = (d.find scope c).length ∧
      ∀ (i : Nat) (e : Dom.Place) (x : Json), (d.find scope c)[i]? = some e →
        vs[i]? = some x → item.Conforms d (.node e) x
  | .list _ none, _, v => v = .array []
  | .computed _, _, _ => True
  | .nested s, c, v => s.Conforms d c v

end

/-! ## Texts -/

theorem trimmed_textOf (p : Dom.Place) : Text.Trimmed (textOf p).toList := by
  rw [textOf, String.toList_ofList]
  exact Text.trimmed_trim p.tree.text

theorem conforms_textOrNull (d : Document) (s : String) (c : Context) (p : Option Dom.Place) :
    (Node.selector s : Node σ).Conforms d c (textOrNull (p.map textOf)) := by
  simp only [Node.Conforms]
  cases p with
  | none => exact .inl rfl
  | some p =>
    simp only [Option.map_some, textOrNull]
    split
    · exact .inl rfl
    · rename_i hne
      exact .inr ⟨_, rfl, hne, trimmed_textOf p⟩

/-- The texts of a text list are those of some elements, with a context or without. -/
theorem listTexts_eq_map (d : Document) (s : String) (context : Option String) (c : Context) :
    ∃ ps : List Dom.Place, (d.listTexts s context c).value = ps.map textOf := by
  cases context with
  | none => exact ⟨(d.query s c).value, rfl⟩
  | some scope => exact ⟨(d.matchesWithin s scope c).value, rfl⟩

/-! ## Results conform -/

mutual

theorem Schema.conforms_of_gives (d : Document) : ∀ (S : Schema σ) (c : Context) (v : Json),
    S.WellFormed → (S.extractIn d c).Gives v → S.Conforms d c v
  | .mk fields, c, v, hS, h => by
    obtain ⟨members, rfl, hk, hf⟩ := Schema.gives_extractIn hS h
    exact ⟨members, rfl, hk, hk ▸ hS.1, Schema.fieldsConform_of_gives d members fields c hS.2 hf⟩

theorem Schema.fieldsConform_of_gives (d : Document) (members : Entries Json) :
    ∀ (fields : List (String × Node σ)) (c : Context),
      Schema.AllFields List.Nodup (fun _ => True) fields →
      (∀ f ∈ fields, ∃ x, members.get? f.1 = some x ∧ (f.2.extract d f.1 c).Gives x) →
        Schema.FieldsConform d members fields c
  | [], _, _, _ => trivial
  | (key, node) :: fields, c, hS, h => by
    obtain ⟨x, hx, hg⟩ := h _ List.mem_cons_self
    refine ⟨⟨x, hx, Node.conforms_of_gives d key node c x hS.1 hg⟩, ?_⟩
    exact Schema.fieldsConform_of_gives d members fields c hS.2
      fun f hf => h f (List.mem_cons_of_mem _ hf)

theorem Node.conforms_of_gives (d : Document) (key : String) : ∀ (n : Node σ) (c : Context)
    (v : Json), n.WellFormed → (n.extract d key c).Gives v → n.Conforms d c v
  | .selector s, c, v, _, h => by
    rw [Node.gives_selector h]
    exact conforms_textOrNull d s c _
  | .textList s context, c, v, _, h => by
    obtain ⟨ps, hps⟩ := listTexts_eq_map d s context c
    rw [Node.gives_textList h, hps]
    refine ⟨_, rfl, fun t ht => ?_⟩
    obtain ⟨p, -, rfl⟩ := List.mem_map.1 ht
    exact trimmed_textOf p
  | .list item (some scope), c, v, hS, h => by
    obtain ⟨vs, rfl, hvs⟩ := Node.gives_list h
    refine ⟨vs, rfl, hvs.length_eq.symm, fun i e x he hx => ?_⟩
    obtain ⟨hi, rfl⟩ := List.getElem?_eq_some_iff.1 he
    obtain ⟨hj, rfl⟩ := List.getElem?_eq_some_iff.1 hx
    exact Schema.conforms_of_gives d item _ _ hS (hvs.get hi hj)
  | .list _ none, _, _, _, h => Node.gives_list_none h
  | .computed _, _, _, _, _ => trivial
  | .nested s, c, v, hS, h => Schema.conforms_of_gives d s c v hS (Node.gives_nested h)

end

/-! ## Headline property -/

/-- **Shape.** Whatever a schema that can be made extracts conforms to it, in every document,
context and state. If it has no computed field, as is the case if it was read from JSON, there is
always a result, the same from every state. -/
theorem extractIn_conforms (S : Schema σ) (hS : S.Constructible) (d : Document) (c : Context) :
    (∀ s v, ((S.extractIn d c).run s).result = .ok v → S.Conforms d c v) ∧
    (S.ComputedFree → ∃ v, ∀ s, ((S.extractIn d c).run s).result = .ok v) ∧
    (∀ (j : Json) (l : Logged (Schema σ)), j.Distinct → Schema.ofJson j = .ok l → l.value = S →
      S.ComputedFree) := by
  refine ⟨?_, ?_, ?_⟩
  · exact fun s v h => Schema.conforms_of_gives d S c v hS.wellFormed ⟨s, h⟩
  · intro h
    obtain ⟨v, hv⟩ := Schema.settled_extractIn h d c
    exact ⟨v, fun s => (hv s).1⟩
  · rintro j l hj hl rfl
    exact Schema.All.mono (fun _ _ => trivial) (fun _ h => h) _ (Schema.all_ofJson hj hl)

/-- `<ul><li> a </li><li> </li></ul>` -/
def listPage : Document :=
  ⟨.node 0 .document [.node 1 (.element ⟨.html, "ul", []⟩)
    [.node 2 (.element ⟨.html, "li", []⟩) [.node 3 (.text " a ") []],
     .node 4 (.element ⟨.html, "li", []⟩) [.node 5 (.text " ") []]]], []⟩

/-- The items of a list, numbered by the caller's counter, after a field that is given twice. -/
def numberedRows : Schema Nat :=
  let number : Computed Nat := fun _ _ => do
    let n ← Run.get
    Run.set (n + 1)
    return .nat n
  let row := (Schema.empty.field "text" (.selector "b")).computed "n" number
  ((Schema.empty.field "all" (.selector "li")).field "rows" (.list row (some "li"))).field "all"
    (.nested (Schema.empty.field "texts" (.textList "li" (some "ul"))))

theorem numberedRows_constructible : numberedRows.Constructible :=
  .field "all" (.field "rows" (.field "all" .empty (.selector "li"))
    (.list (some "li") (.computed "n" _ (.field "text" .empty (.selector "b")))))
    (.nested (.field "texts" .empty (.textList "li" (some "ul"))))

def numberedRowsResult : Json :=
  .object [("all", .object [("texts", .strings ["a", ""])]),
    ("rows", .array [.object [("text", .null), ("n", .nat 7)],
      .object [("text", .null), ("n", .nat 8)]])]

theorem extractIn_conforms_listPage :
    ((numberedRows.extractIn listPage .document).run 7).result = .ok numberedRowsResult ∧
    numberedRows.Conforms listPage .document numberedRowsResult ∧
    ∃ l : Logged (Schema Nat), Schema.ofJson (.object [("t", .string "li")]) = .ok l ∧
      ∃ v, ∀ s, ((l.value.extractIn listPage .document).run s).result = .ok v := by
  have hr : ((numberedRows.extractIn listPage .document).run 7).result = .ok numberedRowsResult :=
    rfl
  refine ⟨hr, ?_, _, Schema.ofJson_object _, ?_⟩
  · exact (extractIn_conforms numberedRows numberedRows_constructible listPage .document).1 7 _ hr
  · have hd : (Json.object [("t", .string "li")]).Distinct := by
      simp [Json.Distinct, Json.DistinctMembers]
    have hl : (Schema.mk <$> Schema.fieldsOfJson "" [("t", Json.string "li")] :
        Logged (Schema Nat)).value.Constructible := .ofJson hd (Schema.ofJson_object _)
    have h := extractIn_conforms _ hl listPage .document
    exact h.2.1 (h.2.2 _ _ hd (Schema.ofJson_object _) rfl)

end WebExtract
