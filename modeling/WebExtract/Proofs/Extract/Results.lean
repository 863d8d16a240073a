import WebExtract.Extract
import WebExtract.Proofs.Run
import WebExtract.Proofs.Schema.Constructible

/-!
# Taking the result of an extraction apart

Whatever is to be known of an extracted value follows from what its parts were extracted from. One
theorem for each way in which a value is put together:

* `Schema.gives_extractIn`: an object has a member for each field, which the field's node gave.
* `Node.gives_list`: a list has an element for each match, which the item gave in that match.
* `Node.gives_anyKey`: the key that a node stands under has no part in what it gives.
* `Schema.result_single`: a node alone, as the only field of a schema.

The states in which the parts gave something are left open. They do not matter if computed fields
depend on the document and the context alone: then so does the extraction
(`Schema.steady_extractIn`). Without computed fields there is always a result
(`Schema.settled_extractIn`).
-/
namespace WebExtract

variable {σ : Type} {d : Document} {c : Context}

/-! ## Objects -/

/-- Each field has an entry, with its key and a value that its node gave. -/
theorem Schema.gives_extractFields {fields : List (String × Node σ)} {ms : List (String × Json)}
    (h : (Schema.extractFields d fields c).Gives ms) :
    List.Forall₂ (fun f m => m.1 = f.1 ∧ (f.2.extract d f.1 c).Gives m.2) fields ms := by
  induction fields generalizing ms with
  | nil =>
    simp only [Schema.extractFields] at h
    rw [h.eq_of_pure]
    exact .nil
  | cons f fields ih =>
    obtain ⟨key, node⟩ := f
    simp only [Schema.extractFields] at h
    obtain ⟨_, -, h⟩ := h.bind
    obtain ⟨v, hv, h⟩ := h.bind
    obtain ⟨ms', hms, h⟩ := h.bind
    rw [h.eq_of_pure]
    exact .cons ⟨rfl, hv⟩ (ih hms)

section

variable {R : String × Node σ → Json → Prop} {fields : List (String × Node σ)}
  {ms : List (String × Json)}

theorem keys_of_forall₂ (h : List.Forall₂ (fun f m => m.1 = f.1 ∧ R f m.2) fields ms) :
    Entries.keys ms = Entries.keys fields := by
  induction h with
  | nil => rfl
  | cons hm _ ih => simp only [Entries.keys_cons, hm.1, ih]

theorem mem_of_forall₂ (h : List.Forall₂ (fun f m => m.1 = f.1 ∧ R f m.2) fields ms)
    {f : String × Node σ} (hf : f ∈ fields) : ∃ v, (f.1, v) ∈ ms ∧ R f v := by
  induction h with
  | nil => cases hf
  | @cons f' m fields ms hm _ ih =>
    rcases List.mem_cons.1 hf with rfl | hf
    · exact ⟨m.2, by rw [← hm.1]; exact List.mem_cons_self, hm.2⟩
    · obtain ⟨v, hv, hr⟩ := ih hf
      exact ⟨v, List.mem_cons_of_mem _ hv, hr⟩

end

/-- The members of an extracted object are the schema's fields: since the keys are distinct, putting
a value into the object displaces none. -/
theorem Schema.gives_extractIn {S : Schema σ} (hS : S.WellFormed) {v : Json}
    (h : (S.extractIn d c).Gives v) :
    ∃ members : Entries Json, v = .object members ∧ members.keys = S.keys ∧
      ∀ f ∈ S.fields, ∃ x, members.get? f.1 = some x ∧ (f.2.extract d f.1 c).Gives x := by
  obtain ⟨fields⟩ := S
  simp only [Schema.extractIn] at h
  obtain ⟨ms, hms, h⟩ := h.bind
  have hf := Schema.gives_extractFields hms
  have hk : Entries.keys ms = Entries.keys fields := keys_of_forall₂ hf
  have hn : (Entries.keys ms).Nodup := hk ▸ hS.nodup_keys
  rw [h.eq_of_pure, Entries.ofList_of_nodup hn]
  refine ⟨ms, rfl, hk, fun f hmem => ?_⟩
  obtain ⟨x, hx, hg⟩ := mem_of_forall₂ hf hmem
  exact ⟨x, Entries.get?_of_mem hn hx, hg⟩

/-- A schema with one field gives what the field's node gives, under its key, and fails with the
failure of the node. -/
theorem Schema.result_single (d : Document) (c : Context) (key : String) (n : Node σ) (s : σ) :
    (((Schema.empty.field key n).extractIn d c).run s).result =
      ((n.extract d key c).run s).result.map fun x => .object [(key, x)] := by
  simp only [Schema.empty, Schema.field, Schema.fields_mk, Entries.put, Schema.extractIn,
    Schema.extractFields, Run.result_bind, Run.run_emit, Except.bind]
  cases ((n.extract d key c).run s).result <;> rfl

/-! ## Nodes -/

theorem Node.gives_selector {key s : String} {v : Json}
    (h : ((Node.selector s : Node σ).extract d key c).Gives v) :
    v = textOrNull ((d.find s c).head?.map textOf) := by
  simp only [Node.extract] at h
  obtain ⟨t, ht, h⟩ := h.bind
  rw [h.eq_of_pure, ht.eq_of_ofLogged]
  simp [Document.firstText]

theorem Node.gives_textList {key s : String} {context : Option String} {v : Json}
    (h : ((Node.textList s context : Node σ).extract d key c).Gives v) :
    v = .strings (d.listTexts s context c).value := by
  simp only [Node.extract] at h
  obtain ⟨t, ht, h⟩ := h.bind
  rw [h.eq_of_pure, ht.eq_of_ofLogged]

theorem Node.gives_list {key scope : String} {item : Schema σ} {v : Json}
    (h : ((Node.list item (some scope)).extract d key c).Gives v) :
    ∃ vs, v = .array vs ∧
      List.Forall₂ (fun e x => (item.extractIn d (.node e)).Gives x) (d.find scope c) vs := by
  simp only [Node.extract] at h
  obtain ⟨es, hes, h⟩ := h.bind
  obtain ⟨vs, hvs, h⟩ := h.bind
  have he : es = d.find scope c := by rw [hes.eq_of_ofLogged, Document.value_queryContext_some]
  have hr := hvs.mapM
  rw [he] at hr
  exact ⟨vs, h.eq_of_pure, hr⟩

theorem Node.gives_list_none {key : String} {item : Schema σ} {v : Json}
    (h : ((Node.list item none).extract d key c).Gives v) : v = .array [] := by
  simp only [Node.extract] at h
  obtain ⟨es, hes, h⟩ := h.bind
  rw [hes.eq_of_ofLogged, Document.value_queryContext_none, List.mapM_nil, pure_bind] at h
  exact h.eq_of_pure

theorem Node.gives_nested {key : String} {T : Schema σ} {v : Json}
    (h : ((Node.nested T).extract d key c).Gives v) : (T.extractIn d c).Gives v := by
  simpa only [Node.extract] using h

/-- The key matters only to the error of a computed field. -/
theorem Node.gives_anyKey {n : Node σ} {key : String} {v : Json} (h : (n.extract d key c).Gives v)
    (key' : String) : (n.extract d key' c).Gives v := by
  cases n with
  | computed f =>
    obtain ⟨s, h⟩ := h
    refine ⟨s, ?_⟩
    simp only [Node.extract, Run.mapError] at h ⊢
    cases hf : ((f d c).run s).result with
    | error e => rw [hf] at h; cases h
    | ok x => rw [hf] at h; cases h; rfl
  | selector _ | textList _ _ | list _ _ | nested _ => simpa only [Node.extract] using h

/-! ## Properties of the computed fields that an extraction has too -/

section

variable {P : ∀ α : Type, Run σ ScrapeError α → Prop} {K : List String → Prop}

mutual

theorem Schema.closed_extractIn (hP : Run.Closed P) (d : Document) : ∀ (S : Schema σ) (c : Context),
    S.All K (fun f => ∀ key d c, P Json ((f d c).mapError (.computed key))) →
      P Json (S.extractIn d c)
  | .mk fields, c, h => by
    simp only [Schema.extractIn]
    exact hP.bind (Schema.closed_extractFields hP d fields c h.2) fun ms => hP.pure _

theorem Schema.closed_extractFields (hP : Run.Closed P) (d : Document) :
    ∀ (fields : List (String × Node σ)) (c : Context),
      Schema.AllFields K (fun f => ∀ key d c, P Json ((f d c).mapError (.computed key))) fields →
        P (List (String × Json)) (Schema.extractFields d fields c)
  | [], _, _ => by
    simp only [Schema.extractFields]
    exact hP.pure []
  | (key, node) :: fields, c, h => by
    simp only [Schema.extractFields]
    refine hP.bind (hP.emit _) fun _ => ?_
    refine hP.bind (Node.closed_extract hP d key node c h.1) fun v => ?_
    exact hP.bind (Schema.closed_extractFields hP d fields c h.2) fun ms => hP.pure _

theorem Node.closed_extract (hP : Run.Closed P) (d : Document) (key : String) :
    ∀ (n : Node σ) (c : Context),
      n.All K (fun f => ∀ key d c, P Json ((f d c).mapError (.computed key))) →
        P Json (n.extract d key c)
  | .selector s, c, _ => by
    simp only [Node.extract]
    exact hP.bind (hP.ofLogged _) fun _ => hP.pure _
  | .textList s context, c, _ => by
    simp only [Node.extract]
    exact hP.bind (hP.ofLogged _) fun _ => hP.pure _
  | .list item context, c, h => by
    simp only [Node.extract]
    refine hP.bind (hP.ofLogged _) fun es => ?_
    refine hP.bind (hP.mapM (fun e => ?_) es) fun vs => hP.pure _
    exact Schema.closed_extractIn hP d item (.node e) h
  | .computed f, c, h => by
    simp only [Node.extract]
    exact h key d c
  | .nested s, c, h => by
    simp only [Node.extract]
    exact Schema.closed_extractIn hP d s c h

end

end

/-- Computed fields depend on the document and the context alone. -/
def Schema.Steady (S : Schema σ) : Prop := S.All (fun _ => True) fun f => ∀ d c, (f d c).Steady

def Node.Steady (n : Node σ) : Prop := n.All (fun _ => True) fun f => ∀ d c, (f d c).Steady

theorem Node.steady_extract {n : Node σ} (h : n.Steady) (d : Document) (key : String)
    (c : Context) : (n.extract d key c).Steady :=
  Node.closed_extract Run.closed_steady d key n c
    (Node.All.mono (fun _ h => h) (fun _ hf _ d c => (hf d c).mapError _) n h)

theorem Schema.steady_extractIn {S : Schema σ} (h : S.Steady) (d : Document) (c : Context) :
    (S.extractIn d c).Steady :=
  Schema.closed_extractIn Run.closed_steady d S c
    (Schema.All.mono (fun _ h => h) (fun _ hf _ d c => (hf d c).mapError _) S h)

theorem Schema.settled_extractIn {S : Schema σ} (h : S.ComputedFree) (d : Document) (c : Context) :
    (S.extractIn d c).Settled :=
  Schema.closed_extractIn Run.closed_settled d S c
    (Schema.All.mono (fun _ h => h) (fun _ hf => hf.elim) S h)

end WebExtract
