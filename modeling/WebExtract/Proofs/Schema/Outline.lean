import WebExtract.Proofs.Schema.Constructible
import WebExtract.Proofs.Text.Layout
import WebExtract.Proofs.Text.Quoted
import WebExtract.Schema.Outline

/-!
# Schemas as text are unambiguous

Two schemas look the same, on one line or on several, only if they are alike.

`S.Alike T` says that `S` and `T` are equal but for the functions of their computed fields: they
have the same keys in the same order, with nodes of the same kind under them, that have the same
selectors and contexts, and so on inside lists and nested schemas.

What a schema looks like is read from the front. Whatever is written there is either the same for
all schemas, or says itself where it ends: a quoted text by its closing quote, a node by its first
letter and then by its parts, a list of fields by its bracket. The texts may hold anything, brackets
and quotes included.

**Results.**
* `Schema.Alike.outline_eq`: schemas that are alike look the same.
* `Schema.Alike.eq_of_computedFree`: without computed fields they are the same.
* `Schema.alike_of_write`: schemas that look the same in a clear layout, with whatever comes behind
  them, are alike.
* `texts_eq_iff_alike`: so both ways of writing schemas tell them apart.
-/
namespace WebExtract

open Text

variable {σ τ : Type}

/-! ## Schemas that are alike -/

mutual

inductive Schema.Alike : Schema σ → Schema τ → Prop
  | mk {fields : List (String × Node σ)} {fields' : List (String × Node τ)} :
    FieldsAlike fields fields' → Schema.Alike (.mk fields) (.mk fields')

inductive FieldsAlike : List (String × Node σ) → List (String × Node τ) → Prop
  | nil : FieldsAlike [] []
  | cons {key : String} {n : Node σ} {n' : Node τ} {fields : List (String × Node σ)}
    {fields' : List (String × Node τ)} : n.Alike n' → FieldsAlike fields fields' →
      FieldsAlike ((key, n) :: fields) ((key, n') :: fields')

inductive Node.Alike : Node σ → Node τ → Prop
  | selector (s : String) : Node.Alike (.selector s) (.selector s)
  | textList (s : String) (context : Option String) :
    Node.Alike (.textList s context) (.textList s context)
  | list {item : Schema σ} {item' : Schema τ} (context : Option String) : item.Alike item' →
    Node.Alike (.list item context) (.list item' context)
  | computed (f : Computed σ) (g : Computed τ) : Node.Alike (.computed f) (.computed g)
  | nested {S : Schema σ} {T : Schema τ} : S.Alike T → Node.Alike (.nested S) (.nested T)

end

mutual

theorem Schema.Alike.outline_eq : ∀ {S : Schema σ} {T : Schema τ}, S.Alike T →
    S.outline = T.outline
  | _, _, .mk h => by simp only [Schema.outline, h.outline_eq]

theorem FieldsAlike.outline_eq : ∀ {fields : List (String × Node σ)}
    {fields' : List (String × Node τ)}, FieldsAlike fields fields' →
      Schema.outlineFields fields = Schema.outlineFields fields'
  | _, _, .nil => by simp only [Schema.outlineFields]
  | _, _, .cons hn h => by simp only [Schema.outlineFields, hn.outline_eq, h.outline_eq]

theorem Node.Alike.outline_eq : ∀ {n : Node σ} {n' : Node τ}, n.Alike n' → n.outline = n'.outline
  | _, _, .selector _ => by simp only [Node.outline]
  | _, _, .textList _ _ => by simp only [Node.outline]
  | _, _, .list _ h => by simp only [Node.outline, h.outline_eq]
  | _, _, .computed _ _ => by simp only [Node.outline]
  | _, _, .nested h => by simp only [Node.outline, h.outline_eq]

end

/-! Without computed fields, being alike is being equal. -/

mutual

theorem Schema.Alike.eq_of_computedFree : ∀ {S T : Schema σ}, S.Alike T → S.ComputedFree → S = T
  | _, _, .mk h, hS => by rw [h.eq_of_computedFree hS.2]

theorem FieldsAlike.eq_of_computedFree : ∀ {fields fields' : List (String × Node σ)},
    FieldsAlike fields fields' →
      Schema.AllFields (fun _ => True) (fun _ => False) fields → fields = fields'
  | _, _, .nil, _ => rfl
  | _, _, .cons hn h, hS => by rw [hn.eq_of_computedFree hS.1, h.eq_of_computedFree hS.2]

theorem Node.Alike.eq_of_computedFree : ∀ {n n' : Node σ}, n.Alike n' →
    n.All (fun _ => True) (fun _ => False) → n = n'
  | _, _, .selector _, _ => rfl
  | _, _, .textList _ _, _ => rfl
  | _, _, .list _ h, hS => by rw [h.eq_of_computedFree hS]
  | _, _, .computed _ _, hS => hS.elim
  | _, _, .nested h, hS => by rw [h.eq_of_computedFree hS]

end

/-! ## Reading from the front -/

section

variable {m : Layout} {level : Nat} {cs cs' : List Char}

theorem write_quoted_append_inj {s t : String}
    (h : (Outline.quoted s).write m level ++ cs = (Outline.quoted t).write m level ++ cs') :
    s = t ∧ cs = cs' := by
  simp only [Outline.write] at h
  exact quote_append_inj h

theorem write_context_append_inj {context context' : Option String}
    (h : (contextOutline context).write m level ++ cs =
      (contextOutline context').write m level ++ cs') : context = context' ∧ cs = cs' := by
  cases context with
  | none =>
    cases context' with
    | none => exact ⟨rfl, List.append_cancel_left h⟩
    | some q => simp [contextOutline, Outline.option, Outline.write] at h
  | some q =>
    cases context' with
    | none => simp [contextOutline, Outline.option, Outline.write] at h
    | some q' =>
      simp only [contextOutline, Option.map_some, Outline.option,
        Outline.write_tuple_one, List.append_cancel_left_eq] at h
      obtain ⟨rfl, hrest⟩ := write_quoted_append_inj h
      exact ⟨rfl, by simpa using hrest⟩

/-- A list that has fields goes on with a bracket for the first of them. -/
theorem writeParts_cons_append (m : Layout) (level : Nat) (first : Bool) (key : String) (n : Node σ)
    (fields : List (String × Node σ)) (cs : List Char) :
    ∃ rest, Outline.writeParts m level first (Schema.outlineFields ((key, n) :: fields)) ++ cs =
      m.before level first ++ '(' :: rest := by
  simp only [Schema.outlineFields, Outline.writeParts, List.append_assoc, Outline.write_tuple_two]
  exact ⟨_, rfl⟩

theorem write_list_nil_ne (hm : m.Clear) (key : String) (n : Node σ)
    (fields : List (String × Node σ)) :
    (Outline.list []).write m level ++ cs ≠
      (Outline.list (Schema.outlineFields ((key, n) :: fields))).write m level ++ cs' := by
  intro h
  obtain ⟨rest, hrest⟩ := writeParts_cons_append m (level + 1) true key n fields
    (m.close level ++ ']' :: cs')
  rw [Schema.outlineFields] at h hrest
  simp only [Outline.write, List.cons_append, List.append_assoc, List.nil_append, hrest,
    List.cons.injEq, true_and] at h
  exact hm.start level _ _ h.symm

/-- An empty list, whose brackets stand side by side, looks like no other. So the parts of lists
that look the same do so as well, up to the bracket that closes. -/
theorem writeParts_of_list (hm : m.Clear) {fields : List (String × Node σ)}
    {fields' : List (String × Node τ)}
    (h : (Outline.list (Schema.outlineFields fields)).write m level ++ cs =
      (Outline.list (Schema.outlineFields fields')).write m level ++ cs') :
    Outline.writeParts m (level + 1) true (Schema.outlineFields fields) ++
        (m.close level ++ ']' :: cs) =
      Outline.writeParts m (level + 1) true (Schema.outlineFields fields') ++
        (m.close level ++ ']' :: cs') := by
  cases fields with
  | nil =>
    cases fields' with
    | nil => simpa [Schema.outlineFields, Outline.write, Outline.writeParts] using h
    | cons field' fields' => exact (write_list_nil_ne hm _ _ _ h).elim
  | cons field fields =>
    cases fields' with
    | nil => exact (write_list_nil_ne hm _ _ _ h.symm).elim
    | cons field' fields' => simpa [Schema.outlineFields, Outline.write] using h

mutual

theorem Schema.alike_of_write (hm : m.Clear) : ∀ (S : Schema σ) (T : Schema τ) {level : Nat}
    {cs cs' : List Char}, S.outline.write m level ++ cs = T.outline.write m level ++ cs' →
      S.Alike T ∧ cs = cs'
  | .mk fields, .mk fields', level, cs, cs', h => by
    simp only [Schema.outline, Outline.write_record_one, List.append_cancel_left_eq] at h
    obtain ⟨hfields, hrest⟩ := fieldsAlike_of_write hm fields fields' (writeParts_of_list hm h)
    exact ⟨.mk hfields, by simpa using hrest⟩

theorem fieldsAlike_of_write (hm : m.Clear) : ∀ (fields : List (String × Node σ))
    (fields' : List (String × Node τ)) {level : Nat} {first : Bool} {cs cs' : List Char},
      Outline.writeParts m (level + 1) first (Schema.outlineFields fields) ++
          (m.close level ++ ']' :: cs) =
        Outline.writeParts m (level + 1) first (Schema.outlineFields fields') ++
          (m.close level ++ ']' :: cs') →
      FieldsAlike fields fields' ∧ cs = cs'
  | [], [], level, first, cs, cs', h => by
    simp only [Schema.outlineFields, List.append_cancel_left_eq, List.cons.injEq, true_and] at h
    exact ⟨.nil, h⟩
  | [], (key', n') :: fields', level, first, cs, cs', h => by
    -- One list ends where the other goes on: this is what a clear layout shows.
    obtain ⟨rest, hrest⟩ := writeParts_cons_append m (level + 1) first key' n' fields'
      (m.close level ++ ']' :: cs')
    rw [hrest] at h
    exact (hm.next level first _ _ h.symm).elim
  | (key, n) :: fields, [], level, first, cs, cs', h => by
    obtain ⟨rest, hrest⟩ := writeParts_cons_append m (level + 1) first key n fields
      (m.close level ++ ']' :: cs)
    rw [hrest] at h
    exact (hm.next level first _ _ h).elim
  | (key, n) :: fields, (key', n') :: fields', level, first, cs, cs', h => by
    simp only [Schema.outlineFields, Outline.writeParts, List.append_assoc,
      Outline.write_tuple_two, List.append_cancel_left_eq] at h
    obtain ⟨rfl, hrest⟩ := write_quoted_append_inj h
    simp only [List.append_cancel_left_eq] at hrest
    obtain ⟨hn, hrest⟩ := Node.alike_of_write hm n n' hrest
    simp only [List.cons_append, List.append_cancel_left_eq, List.cons.injEq, true_and] at hrest
    obtain ⟨hfields, hcs⟩ := fieldsAlike_of_write hm fields fields' hrest
    exact ⟨.cons hn hfields, hcs⟩

theorem Node.alike_of_write (hm : m.Clear) : ∀ (n : Node σ) (n' : Node τ) {level : Nat}
    {cs cs' : List Char}, n.outline.write m level ++ cs = n'.outline.write m level ++ cs' →
      n.Alike n' ∧ cs = cs'
  | .selector s, n', level, cs, cs', h => by
    cases n' with
    | selector s' =>
      simp only [Node.outline, Outline.write_tuple_one, List.append_cancel_left_eq] at h
      obtain ⟨rfl, hrest⟩ := write_quoted_append_inj h
      exact ⟨.selector s, by simpa using hrest⟩
    -- Nodes of different kinds begin with different letters.
    | _ => simp [Node.outline, Outline.write] at h
  | .textList s context, n', level, cs, cs', h => by
    cases n' with
    | textList s' context' =>
      simp only [Node.outline, Outline.write_record_two, List.append_cancel_left_eq] at h
      obtain ⟨rfl, hrest⟩ := write_quoted_append_inj h
      obtain ⟨rfl, hrest⟩ := write_context_append_inj (List.append_cancel_left hrest)
      exact ⟨.textList s context, by simpa using hrest⟩
    | _ => simp [Node.outline, Outline.write] at h
  | .list item context, n', level, cs, cs', h => by
    cases n' with
    | list item' context' =>
      simp only [Node.outline, Outline.write_record_two, List.append_cancel_left_eq] at h
      obtain ⟨hitem, hrest⟩ := Schema.alike_of_write hm item item' h
      obtain ⟨rfl, hrest⟩ := write_context_append_inj (List.append_cancel_left hrest)
      exact ⟨.list context hitem, by simpa using hrest⟩
    | _ => simp [Node.outline, Outline.write] at h
  | .computed f, n', level, cs, cs', h => by
    cases n' with
    | computed g =>
      simp only [Node.outline, List.append_cancel_left_eq] at h
      exact ⟨.computed f g, h⟩
    | _ => simp [Node.outline, Outline.write] at h
  | .nested S, n', level, cs, cs', h => by
    cases n' with
    | nested T =>
      simp only [Node.outline, Outline.write_tuple_one, List.append_cancel_left_eq] at h
      obtain ⟨hS, hrest⟩ := Schema.alike_of_write hm S T h
      exact ⟨.nested hS, by simpa using hrest⟩
    | _ => simp [Node.outline, Outline.write] at h

end

end

/-! ## Headline property -/

/-- **Schemas as text.** Two schemas look the same on one line exactly if they are equal but for the
functions of their computed fields, and they look the same on several lines exactly if that is so,
whatever texts they hold as keys, selectors and contexts. -/
theorem texts_eq_iff_alike (S : Schema σ) (T : Schema τ) :
    (S.line = T.line ↔ S.Alike T) ∧ (S.lines = T.lines ↔ S.Alike T) := by
  have hsame : ∀ m : Layout, m.Clear → S.outline.write m 0 = T.outline.write m 0 → S.Alike T := by
    intro m hm h
    have hrest : S.outline.write m 0 ++ [] = T.outline.write m 0 ++ [] := by rw [h]
    exact (S.alike_of_write hm T hrest).1
  constructor
  · constructor
    · intro h
      refine hsame .oneLine Layout.clear_oneLine ?_
      rw [Outline.write_oneLine, Outline.write_oneLine]
      exact String.ofList_injective h
    · intro h
      rw [Schema.line, Schema.line, h.outline_eq]
  · constructor
    · intro h
      refine hsame .indented Layout.clear_indented ?_
      rw [Outline.write_indented, Outline.write_indented]
      exact String.ofList_injective h
    · intro h
      rw [Schema.lines, Schema.lines, h.outline_eq]

/-- A selector that holds what would end it stays inside its quotes. -/
example : (Schema.empty.field "k" (.selector "a\")") : Schema Nat).line =
    "Schema \x7b fields: [(\"k\", Selector(\"a\\\")\"))] \x7d" := rfl

end WebExtract
