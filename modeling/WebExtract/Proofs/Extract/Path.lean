import WebExtract.Proofs.Extract.Results

/-!
# Values at a path

A path leads into a value by keys of objects and positions in lists. The same path leads into the
schema that the value was extracted with, and into the document: a key leads to the node of the
field, in the same context; a position in a list leads to the list's item, with the match at that
position as the context. `Node.resolve` follows it there.

**Results**, for schemas whose computed fields depend on the document and the context alone.
* `gives_child?`: one step. What a node gave has at the step what the node there gives.
* `gives_at?`: a whole path, by induction on it.
* `extractIn_at`: what is found at a path is what the node there gives when it is extracted alone,
  under any key. So a nested schema adds a key to each path and no more, and what stands beside a
  node or above it has no part in its value.

A context that reached a sibling of the list, or an item of the list after its own, would break
`gives_child?` and nothing else here.
-/
namespace WebExtract

variable {σ : Type} {d : Document} {c c' : Context}

/-! ## Paths -/

inductive PathStep
  | key (k : String)
  | index (i : Nat)

def Json.child? : Json → PathStep → Option Json
  | .object members, .key k => Entries.get? k members
  | .array elements, .index i => elements[i]?
  | _, _ => none

def Json.at? : Json → List PathStep → Option Json
  | v, [] => some v
  | v, step :: p => (v.child? step).bind (·.at? p)

/-- The node that a step leads to, and where it is evaluated. A list's item is evaluated as a nested
schema in the match. -/
def Node.child? (d : Document) : Node σ → Context → PathStep → Option (Node σ × Context)
  | .nested S, c, .key k => (S.get? k).map (·, c)
  | .list item (some scope), c, .index i =>
    ((d.find scope c)[i]?).map fun e => (.nested item, .node e)
  | _, _, _ => none

def Node.resolve (d : Document) : Node σ → Context → List PathStep → Option (Node σ × Context)
  | n, c, [] => some (n, c)
  | n, c, step :: p => (n.child? d c step).bind fun m => m.1.resolve d m.2 p

def Schema.resolve (d : Document) (S : Schema σ) (c : Context) (p : List PathStep) :
    Option (Node σ × Context) :=
  (Node.nested S).resolve d c p

/-! ## One step -/

theorem Node.All.child? {K : List String → Prop} {Q : Computed σ → Prop} {n n' : Node σ}
    {step : PathStep} (hn : n.All K Q) (h : n.child? d c step = some (n', c')) : n'.All K Q := by
  cases n with
  | nested S =>
    cases step with
    | index i => cases h
    | key k =>
      simp only [Node.child?, Option.map_eq_some_iff, Prod.mk.injEq] at h
      obtain ⟨m, hm, rfl, -⟩ := h
      exact Schema.All.get hn hm
  | list item context =>
    cases context with
    | none => cases step <;> cases h
    | some scope =>
      cases step with
      | key k => cases h
      | index i =>
        simp only [Node.child?, Option.map_eq_some_iff, Prod.mk.injEq] at h
        obtain ⟨e, -, rfl, -⟩ := h
        exact hn
  | selector _ | textList _ _ | computed _ => cases step <;> cases h

/-- Where a step leads to, the node there gave the value there. -/
theorem gives_child? {n n' : Node σ} (hn : n.WellFormed) {key : String} {v : Json}
    (hv : (n.extract d key c).Gives v) {step : PathStep}
    (h : n.child? d c step = some (n', c')) :
    ∃ x, v.child? step = some x ∧ (n'.extract d key c').Gives x := by
  cases n with
  | nested S =>
    cases step with
    | index i => cases h
    | key k =>
      simp only [Node.child?, Option.map_eq_some_iff, Prod.mk.injEq] at h
      obtain ⟨m, hm, rfl, rfl⟩ := h
      obtain ⟨members, rfl, -, hf⟩ := Schema.gives_extractIn hn (Node.gives_nested hv)
      obtain ⟨x, hx, hg⟩ := hf _ (Entries.mem_of_get? hm)
      exact ⟨x, hx, Node.gives_anyKey hg key⟩
  | list item context =>
    cases context with
    | none => cases step <;> cases h
    | some scope =>
      cases step with
      | key k => cases h
      | index i =>
        simp only [Node.child?, Option.map_eq_some_iff, Prod.mk.injEq] at h
        obtain ⟨e, he, rfl, rfl⟩ := h
        obtain ⟨vs, rfl, hvs⟩ := Node.gives_list hv
        obtain ⟨hi, rfl⟩ := List.getElem?_eq_some_iff.1 he
        have hi' : i < vs.length := hvs.length_eq ▸ hi
        refine ⟨vs[i], List.getElem?_eq_getElem hi', ?_⟩
        simp only [Node.extract]
        exact hvs.get hi hi'
  | selector _ | textList _ _ | computed _ => cases step <;> cases h

/-! ## Whole paths -/

theorem Node.All.resolve {K : List String → Prop} {Q : Computed σ → Prop} {p : List PathStep}
    {n n' : Node σ} (hn : n.All K Q) (h : n.resolve d c p = some (n', c')) : n'.All K Q := by
  induction p generalizing n c with
  | nil => cases h; exact hn
  | cons step p ih =>
    simp only [Node.resolve, Option.bind_eq_some_iff] at h
    obtain ⟨⟨m, cm⟩, hm, h⟩ := h
    exact ih (hn.child? hm) h

theorem gives_at? {p : List PathStep} {n n' : Node σ} (hn : n.WellFormed) {key : String} {v : Json}
    (hv : (n.extract d key c).Gives v) (h : n.resolve d c p = some (n', c')) :
    ∃ x, v.at? p = some x ∧ (n'.extract d key c').Gives x := by
  induction p generalizing n c v with
  | nil => cases h; exact ⟨v, rfl, hv⟩
  | cons step p ih =>
    simp only [Node.resolve, Option.bind_eq_some_iff] at h
    obtain ⟨⟨m, cm⟩, hm, h⟩ := h
    obtain ⟨y, hy, hg⟩ := gives_child? hn hv hm
    obtain ⟨x, hx, hg'⟩ := ih (Node.All.child? hn hm) hg h
    refine ⟨x, ?_, hg'⟩
    rw [Json.at?, hy, Option.bind_some, hx]

theorem Schema.gives_at? {S : Schema σ} (hS : S.Constructible) (hst : S.Steady) {v : Json}
    (hv : (S.extractIn d c).Gives v) {p : List PathStep} {n : Node σ}
    (h : S.resolve d c p = some (n, c')) :
    ∃ x, v.at? p = some x ∧ n.Steady ∧ (n.extract d "" c').Gives x := by
  have hg : ((Node.nested S).extract d "" c).Gives v := by simpa only [Node.extract] using hv
  obtain ⟨x, hx, hg⟩ := WebExtract.gives_at? (n := .nested S) hS.wellFormed hg h
  exact ⟨x, hx, Node.All.resolve (n := .nested S) hst h, hg⟩

/-! ## A node alone -/

/-- What a steady node gives, it gives under every key and from every state, also as the only field
of a schema. -/
theorem extractIn_single {n : Node σ} (hn : n.Steady) {key : String} {x : Json}
    (h : (n.extract d key c).Gives x) (k : String) (s : σ) :
    (((Schema.empty.field k n).extractIn d c).run s).result = .ok (.object [(k, x)]) := by
  have hx := (Node.steady_extract hn d k c).result_eq (Node.gives_anyKey h k) s
  rw [Schema.result_single, hx]
  rfl

/-! ## Headline property -/

/-- **Paths.** What a schema gives has, at each path, what the node there gives alone in the context
there, under any key. In particular a nested schema gives, under its key, what it gives in the same
context without the schema around it; and where two schemas, in whatever contexts, lead to the same
node in the same context, they have the same value. -/
theorem extractIn_at (S : Schema σ) (hS : S.Constructible) (hst : S.Steady) (d : Document)
    (c : Context) (s : σ) (v : Json) (hv : ((S.extractIn d c).run s).result = .ok v) :
    (∀ p n c', S.resolve d c p = some (n, c') →
      ∃ x, v.at? p = some x ∧
        ∀ k s', (((Schema.empty.field k n).extractIn d c').run s').result =
          .ok (.object [(k, x)])) ∧
    (∀ a T, S.get? a = some (.nested T) →
      ∃ w, (∀ s', ((T.extractIn d c).run s').result = .ok w) ∧
        ∀ q, v.at? (.key a :: q) = w.at? q) ∧
    (∀ S₂ : Schema σ, S₂.Constructible → S₂.Steady → ∀ c₂ s₂ v₂,
      ((S₂.extractIn d c₂).run s₂).result = .ok v₂ →
      ∀ p p₂ n c', S.resolve d c p = some (n, c') → S₂.resolve d c₂ p₂ = some (n, c') →
        v.at? p = v₂.at? p₂) := by
  refine ⟨?_, ?_, ?_⟩
  · intro p n c' hr
    obtain ⟨x, hx, hn, hg⟩ := Schema.gives_at? hS hst ⟨s, hv⟩ hr
    exact ⟨x, hx, fun k s' => extractIn_single hn hg k s'⟩
  · intro a T ha
    have hr : S.resolve d c [.key a] = some (.nested T, c) := by
      simp [Schema.resolve, Node.resolve, Node.child?, ha]
    obtain ⟨w, hw, hn, hg⟩ := Schema.gives_at? hS hst ⟨s, hv⟩ hr
    refine ⟨w, fun s' => (Schema.steady_extractIn hn d c).result_eq (Node.gives_nested hg) s', ?_⟩
    intro q
    simp only [Json.at?, Option.bind_eq_some_iff, Option.some.injEq, exists_eq_right] at hw ⊢
    rw [hw, Option.bind_some]
  · intro S₂ hS₂ hst₂ c₂ s₂ v₂ hv₂ p p₂ n c' hr hr₂
    obtain ⟨x, hx, hn, hg⟩ := Schema.gives_at? hS hst ⟨s, hv⟩ hr
    obtain ⟨x₂, hx₂, -, hg₂⟩ := Schema.gives_at? hS₂ hst₂ ⟨s₂, hv₂⟩ hr₂
    rw [hx, hx₂]
    have h := (Node.steady_extract hn d "" c').result_eq hg
    obtain ⟨s', h₂⟩ := hg₂
    rw [h s'] at h₂
    cases h₂
    rfl

/-- `<p><b>text</b></p>` -/
def boldParagraph (serial : Nat) (text : String) : Dom.Tree :=
  .node serial (.element ⟨.html, "p", []⟩)
    [.node (serial + 1) (.element ⟨.html, "b", []⟩) [.node (serial + 2) (.text text) []]]

def boldPage : Document :=
  ⟨.node 0 .document [boldParagraph 1 "x", boldParagraph 4 "y"], []⟩

def secondParagraph : Dom.Place :=
  .child boldPage.root [boldParagraph 1 "x"] (boldParagraph 4 "y") []

def boldPath : List PathStep := [.key "all", .key "rows", .index 1, .key "text"]

/-- The bold text of a paragraph. -/
def boldText : Schema Nat := Schema.empty.field "text" (.selector "b")

/-- The bold texts of all paragraphs, after a field that counts how often it is asked and always
gives null. -/
def boldTexts : Schema Nat :=
  let count : Computed Nat := fun _ _ => do
    let n ← Run.get
    Run.set (n + 1)
    return .null
  (Schema.empty.computed "count" count).field "rows" (.list boldText (some "p"))

/-- The same under a key. -/
def nestedBoldTexts : Schema Nat := Schema.empty.field "all" (.nested boldTexts)

theorem boldText_constructible : boldText.Constructible := .field "text" .empty (.selector "b")

theorem nestedBoldTexts_constructible : nestedBoldTexts.Constructible :=
  .field "all" .empty (.nested (.field "rows" (.computed "count" _ .empty)
    (.list (some "p") boldText_constructible)))

theorem nestedBoldTexts_steady : nestedBoldTexts.Steady :=
  ⟨trivial, ⟨trivial, fun _ _ _ _ => rfl, ⟨trivial, trivial, trivial⟩, trivial⟩, trivial⟩

def nestedBoldTextsResult : Json :=
  .object [("all", .object [("count", .null),
    ("rows", .array [.object [("text", .string "x")], .object [("text", .string "y")]])])]

theorem extractIn_at_boldPage :
    ((nestedBoldTexts.extractIn boldPage .document).run 0).result = .ok nestedBoldTextsResult ∧
    (nestedBoldTexts.resolve boldPage .document boldPath =
        some (.selector "b", .node secondParagraph) ∧
      nestedBoldTextsResult.at? boldPath = some (.string "y") ∧
      ∀ k s', (((Schema.empty.field k (.selector "b")).extractIn boldPage
        (.node secondParagraph)).run (s' : Nat)).result = .ok (.object [(k, .string "y")])) ∧
    (nestedBoldTexts.get? "all" = some (.nested boldTexts) ∧
      ∃ w, (∀ s', ((boldTexts.extractIn boldPage .document).run s').result = .ok w) ∧
        ∀ q, nestedBoldTextsResult.at? (.key "all" :: q) = w.at? q) ∧
    ((boldText.extractIn boldPage (.node secondParagraph)).run 3).result =
        .ok (.object [("text", .string "y")]) ∧
      nestedBoldTextsResult.at? boldPath =
        (Json.object [("text", .string "y")]).at? [.key "text"] := by
  have hv : ((nestedBoldTexts.extractIn boldPage .document).run 0).result =
      .ok nestedBoldTextsResult := rfl
  have hr : nestedBoldTexts.resolve boldPage .document boldPath =
      some (.selector "b", .node secondParagraph) := rfl
  have hv₂ : ((boldText.extractIn boldPage (.node secondParagraph)).run 3).result =
      .ok (.object [("text", .string "y")]) := rfl
  obtain ⟨h1, h2, h3⟩ := extractIn_at nestedBoldTexts nestedBoldTexts_constructible
    nestedBoldTexts_steady boldPage .document 0 nestedBoldTextsResult hv
  obtain ⟨x, hx, hk⟩ := h1 boldPath _ _ hr
  cases hx
  exact ⟨hv, ⟨hr, rfl, hk⟩, ⟨rfl, h2 "all" boldTexts rfl⟩, hv₂,
    h3 boldText boldText_constructible ⟨trivial, trivial, trivial⟩ _ 3 _ hv₂ boldPath
      [.key "text"] _ _ hr rfl⟩

end WebExtract
