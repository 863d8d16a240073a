import Mathlib.Data.Finset.Card
import Mathlib.Data.Finset.Dedup
import Mathlib.Data.List.Nodup
import WebExtract.Entries

/-!
# Putting several entries

`m.putAll l` puts the entries of `l` into `m`, one after the other.

**Results.**
* `keys_putAll`: the keys are those of `m`, and then the new ones in the order in which they first
  occur.
* `length_putAll`: so there are as many entries as different keys.
* `get?_putAll`: the value of a key is the last one that was put, and what it was in `m` if none
  was; `get?_putAll_last` and `get?_putAll_of_not_mem` say the two cases.
* `map_get?_keys`: with distinct keys, looking up each key gives the entries back.
* `put_cases`: one entry replaces a value in place, or is added at the end.
* `putAll_perm`: entries with distinct keys can be put in any order; only the order of the result
  depends on it.
-/
namespace WebExtract.Entries

variable {α : Type u}

def putAll (m : Entries α) (l : List (String × α)) : Entries α :=
  l.foldl (fun m e => put e.1 e.2 m) m

@[simp] theorem putAll_nil (m : Entries α) : m.putAll [] = m := rfl

@[simp] theorem putAll_cons (m : Entries α) (e : String × α) (l : List (String × α)) :
    m.putAll (e :: l) = (m.put e.1 e.2).putAll l := rfl

/-! ## Keys and values -/

theorem keys_putAll (m : Entries α) (l : List (String × α)) :
    keys (m.putAll l) = keys m ++ ((keys l).removeAll (keys m)).eraseDups := by
  induction l generalizing m with
  | nil => simp [List.removeAll]
  | cons e l ih =>
    obtain ⟨k, v⟩ := e
    rw [putAll_cons, ih, keys_put]
    by_cases hk : k ∈ keys m
    · simp [List.removeAll, hk]
    · have hrest : (keys l).removeAll (keys m ++ [k]) =
          ((keys l).removeAll (keys m)).filter fun k' => !k' == k := by
        simp only [List.removeAll, List.filter_filter, List.elem_eq_contains, List.contains_append]
        refine List.filter_congr fun k' _ => ?_
        by_cases h : k' = k <;> simp [h]
      simp only [hk, if_false, hrest]
      simp [List.removeAll, hk, List.eraseDups_cons]

theorem nodup_keys_putAll {m : Entries α} (h : (keys m).Nodup) (l : List (String × α)) :
    (keys (m.putAll l)).Nodup := by
  induction l generalizing m with
  | nil => exact h
  | cons e l ih => exact ih (nodup_keys_put h)

theorem mem_putAll {m l : Entries α} {e : String × α} (h : e ∈ m.putAll l) : e ∈ m ∨ e ∈ l :=
  mem_foldl_put h

/-- The keys that are there in the end, each once. -/
theorem length_putAll {m : Entries α} (hm : (keys m).Nodup) (l : Entries α) :
    (m.putAll l).length = (keys m ++ keys l).toFinset.card := by
  have hk : (keys (m.putAll l)).toFinset = (keys m ++ keys l).toFinset := by
    ext k
    rw [keys_putAll]
    by_cases h : k ∈ keys m <;> simp [List.removeAll, h]
  rw [← hk, List.toFinset_card_of_nodup (nodup_keys_putAll hm l), keys, List.length_map]

theorem get?_append (k : String) (m m' : Entries α) :
    get? k (m ++ m') = (get? k m).or (get? k m') := by
  induction m with
  | nil => rfl
  | cons e m ih =>
    obtain ⟨k', v⟩ := e
    by_cases h : k' = k <;> simp [get?, h, ih]

theorem get?_map {β : Type v} (f : α → β) (k : String) (m : Entries α) :
    get? k (m.map fun e => (e.1, f e.2)) = (get? k m).map f := by
  induction m with
  | nil => rfl
  | cons e m ih =>
    obtain ⟨k', v⟩ := e
    by_cases h : k' = k <;> simp [get?, h, ih]

theorem get?_putAll (k : String) (m : Entries α) (l : List (String × α)) :
    get? k (m.putAll l) = (get? k l.reverse).or (get? k m) := by
  induction l generalizing m with
  | nil => simp [get?]
  | cons e l ih =>
    obtain ⟨k', v⟩ := e
    rw [putAll_cons, ih, get?_put, List.reverse_cons, get?_append]
    by_cases h : k' = k <;> simp [get?, h]

theorem get?_putAll_of_not_mem (m l : Entries α) {k : String} (h : k ∉ keys l) :
    get? k (m.putAll l) = get? k m := by
  have hl : get? k l.reverse = none := by
    rw [← Option.not_isSome_iff_eq_none, get?_isSome_iff, keys, List.map_reverse, List.mem_reverse]
    exact h
  rw [get?_putAll, hl, Option.none_or]

/-- The last entry with the key is what is left. -/
theorem get?_putAll_last (m before after : Entries α) {k : String} (v : α) (h : k ∉ keys after) :
    get? k (m.putAll (before ++ (k, v) :: after)) = some v := by
  have hsplit : m.putAll (before ++ (k, v) :: after) = ((m.putAll before).put k v).putAll after :=
    List.foldl_append
  rw [hsplit, get?_putAll_of_not_mem _ _ h, get?_put, if_pos rfl]

theorem map_get?_keys {m : Entries α} (h : (keys m).Nodup) :
    (keys m).map (fun k => (k, get? k m)) = m.map fun e => (e.1, some e.2) := by
  rw [keys, List.map_map]
  refine List.map_congr_left fun e he => ?_
  simp only [Function.comp_apply, get?_of_mem h he]

/-! ## One entry -/

theorem put_of_mem {k : String} (v : α) {m : Entries α} (h : k ∈ keys m) :
    ∃ before old after, m = before ++ (k, old) :: after ∧ k ∉ keys before ∧
      put k v m = before ++ (k, v) :: after := by
  induction m with
  | nil => cases h
  | cons e m ih =>
    obtain ⟨k', v'⟩ := e
    by_cases hk : k' = k
    · subst hk
      exact ⟨[], v', m, rfl, by simp, by simp [put]⟩
    · obtain ⟨before, old, after, rfl, hb, hp⟩ := ih (by simpa [Ne.symm hk] using h)
      refine ⟨(k', v') :: before, old, after, rfl, by simp [Ne.symm hk, hb], ?_⟩
      simp [put, hk, hp]

/-- Where an entry goes. -/
theorem put_cases (k : String) (v : α) (m : Entries α) :
    (∃ before old after, m = before ++ (k, old) :: after ∧ k ∉ keys before ∧
      put k v m = before ++ (k, v) :: after) ∨ (k ∉ keys m ∧ put k v m = m ++ [(k, v)]) := by
  by_cases h : k ∈ keys m
  · exact .inl (put_of_mem v h)
  · exact .inr ⟨h, put_of_not_mem v h⟩

/-! ## Order -/

theorem mem_iff_get? {m : Entries α} (hm : (keys m).Nodup) (k : String) (v : α) :
    (k, v) ∈ m ↔ get? k m = some v :=
  ⟨get?_of_mem hm, mem_of_get?⟩

theorem nodup_of_nodup_keys {m : Entries α} (h : (keys m).Nodup) : m.Nodup := h.of_map Prod.fst

/-- Maps with the same values are the same up to the order of their entries. -/
theorem perm_of_get?_eq {m m' : Entries α} (hm : (keys m).Nodup) (hm' : (keys m').Nodup)
    (h : ∀ k, get? k m = get? k m') : m.Perm m' := by
  refine (List.perm_ext_iff_of_nodup (nodup_of_nodup_keys hm) (nodup_of_nodup_keys hm')).2 ?_
  rintro ⟨k, v⟩
  rw [mem_iff_get? hm, mem_iff_get? hm', h k]

theorem get?_eq_of_perm {m m' : Entries α} (hm : (keys m).Nodup) (h : m.Perm m') (k : String) :
    get? k m = get? k m' := by
  have hm' : (keys m').Nodup := (h.map Prod.fst).nodup_iff.1 hm
  refine Option.ext fun v => ?_
  rw [← mem_iff_get? hm, ← mem_iff_get? hm', h.mem_iff]

theorem get?_putAll_perm {l l' : List (String × α)} (hl : (keys l).Nodup) (h : l.Perm l')
    (m : Entries α) (k : String) : get? k (m.putAll l) = get? k (m.putAll l') := by
  have hr : (keys l.reverse).Nodup := ((List.reverse_perm l).map Prod.fst).nodup_iff.2 hl
  have hp : l.reverse.Perm l'.reverse :=
    (List.reverse_perm l).trans (h.trans (List.reverse_perm l').symm)
  rw [get?_putAll, get?_putAll, get?_eq_of_perm hr hp k]

theorem putAll_perm {m : Entries α} (hm : (keys m).Nodup) {l l' : List (String × α)}
    (hl : (keys l).Nodup) (h : l.Perm l') : (m.putAll l).Perm (m.putAll l') :=
  perm_of_get?_eq (nodup_keys_putAll hm l) (nodup_keys_putAll hm l') (get?_putAll_perm hl h m)

end WebExtract.Entries
