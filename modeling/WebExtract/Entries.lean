/-!
# Ordered maps

An ordered map is the list of its entries, a key and a value each, in the order in which the keys
were first given. `put` replaces the value of a key in place, or adds a new entry at the end.

* `keys_put`: a known key leaves the keys as they are, a new key comes last.
* `get?_put`: after `put k v` the value at `k` is `v`, and no other value has changed.
* `nodup_keys_put`: distinct keys stay distinct.
* `get?_of_mem`: with distinct keys every entry is found.
* `ofList_of_nodup`: entries with distinct keys are all kept, in their order.
-/
namespace WebExtract

abbrev Entries (α : Type u) := List (String × α)

namespace Entries

variable {α : Type u} {β : Type v}

def keys (m : Entries α) : List String := m.map Prod.fst

/-- The value of the first entry with key `k`. -/
def get? (k : String) : Entries α → Option α
  | [] => none
  | (k', v) :: m => if k' = k then some v else get? k m

/-- A known key keeps its position and takes the new value; a new key comes last. -/
def put (k : String) (v : α) : Entries α → Entries α
  | [] => [(k, v)]
  | (k', v') :: m => if k' = k then (k', v) :: m else (k', v') :: put k v m

/-- The entries of `l`, put one after the other. -/
def ofList (l : List (String × α)) : Entries α :=
  l.foldl (fun m e => put e.1 e.2 m) []

@[simp] theorem keys_nil : keys ([] : Entries α) = [] := rfl

@[simp] theorem keys_cons (e : String × α) (m : Entries α) :
    keys (e :: m) = e.1 :: keys m := rfl

theorem keys_put (k : String) (v : α) (m : Entries α) :
    keys (put k v m) = if k ∈ keys m then keys m else keys m ++ [k] := by
  induction m with
  | nil => simp [put]
  | cons e m ih =>
    obtain ⟨k', v'⟩ := e
    by_cases h : k' = k
    · simp [put, h]
    · have h' : k ≠ k' := fun e => h e.symm
      by_cases hm : k ∈ keys m <;> simp [put, h, h', ih, hm]

theorem mem_put {k : String} {v : α} {m : Entries α} {e : String × α} (h : e ∈ put k v m) :
    e = (k, v) ∨ e ∈ m := by
  induction m with
  | nil => simpa [put] using h
  | cons e' m ih =>
    obtain ⟨k', v'⟩ := e'
    simp only [put] at h
    split at h
    · next hk =>
      rcases List.mem_cons.1 h with rfl | h
      · exact .inl (by rw [hk])
      · exact .inr (List.mem_cons_of_mem _ h)
    · rcases List.mem_cons.1 h with rfl | h
      · exact .inr List.mem_cons_self
      · exact (ih h).imp_right (List.mem_cons_of_mem _)

theorem get?_put (k k' : String) (v : α) (m : Entries α) :
    get? k' (put k v m) = if k = k' then some v else get? k' m := by
  induction m with
  | nil => simp [put, get?]
  | cons e m ih =>
    obtain ⟨k₁, v₁⟩ := e
    by_cases h : k₁ = k
    · subst h; by_cases h' : k₁ = k' <;> simp [put, get?, h']
    · by_cases h₁ : k₁ = k'
      · subst h₁; simp [put, get?, h, Ne.symm h]
      · simp [put, get?, h, h₁, ih]

theorem nodup_keys_put {k : String} {v : α} {m : Entries α} (h : (keys m).Nodup) :
    (keys (put k v m)).Nodup := by
  rw [keys_put]
  split
  · exact h
  · next hk =>
    refine List.nodup_append.2 ⟨h, by simp, fun a ha b hb hab => hk ?_⟩
    rw [List.mem_singleton] at hb
    exact hb ▸ hab ▸ ha

/-- A key is listed exactly if it has a value. -/
theorem get?_isSome_iff (k : String) (m : Entries α) : (get? k m).isSome ↔ k ∈ keys m := by
  induction m with
  | nil => simp [get?]
  | cons e m ih =>
    obtain ⟨k', v'⟩ := e
    by_cases h : k' = k
    · simp [get?, h]
    · simp [get?, h, ih, Ne.symm h]

theorem mem_of_get? {k : String} {v : α} {m : Entries α} (h : get? k m = some v) :
    (k, v) ∈ m := by
  induction m with
  | nil => cases h
  | cons e m ih =>
    obtain ⟨k', v'⟩ := e
    simp only [get?] at h
    split at h
    · next hk => cases h; exact hk ▸ List.mem_cons_self
    · exact List.mem_cons_of_mem _ (ih h)

theorem get?_of_mem {k : String} {v : α} {m : Entries α} (hm : (keys m).Nodup)
    (h : (k, v) ∈ m) : get? k m = some v := by
  induction m with
  | nil => cases h
  | cons e m ih =>
    obtain ⟨k', v'⟩ := e
    obtain ⟨hk', hm⟩ := List.nodup_cons.1 hm
    rcases List.mem_cons.1 h with h | h
    · cases h; simp [get?]
    · have hk : k ∈ keys m := List.mem_map.2 ⟨(k, v), h, rfl⟩
      have hne : k' ≠ k := by rintro rfl; exact hk' hk
      simp [get?, hne, ih hm h]

theorem put_of_not_mem {k : String} (v : α) {m : Entries α} (h : k ∉ keys m) :
    put k v m = m ++ [(k, v)] := by
  induction m with
  | nil => rfl
  | cons e m ih =>
    obtain ⟨k', v'⟩ := e
    simp only [keys_cons, List.mem_cons, not_or] at h
    simp [put, Ne.symm h.1, ih h.2]

theorem foldl_put_of_nodup {l m : List (String × α)} (h : (keys (m ++ l)).Nodup) :
    l.foldl (fun m e => put e.1 e.2 m) m = m ++ l := by
  induction l generalizing m with
  | nil => simp
  | cons e l ih =>
    obtain ⟨k, v⟩ := e
    have hk : k ∉ keys m := by
      simp only [keys, List.map_append, List.map_cons, List.nodup_append] at h
      exact fun hk => h.2.2 k hk k List.mem_cons_self rfl
    rw [List.foldl_cons, put_of_not_mem v hk, ih (by simpa using h)]
    simp

theorem mem_foldl_put {l : List (String × α)} {m : Entries α} {e : String × α}
    (h : e ∈ l.foldl (fun m e => put e.1 e.2 m) m) : e ∈ m ∨ e ∈ l := by
  induction l generalizing m with
  | nil => exact .inl h
  | cons e' l ih =>
    rcases ih h with h | h
    · rcases mem_put h with rfl | h
      · exact .inr List.mem_cons_self
      · exact .inl h
    · exact .inr (List.mem_cons_of_mem e' h)

/-- Putting entries one after the other makes no new ones. -/
theorem mem_ofList {l : List (String × α)} {e : String × α} (h : e ∈ ofList l) : e ∈ l := by
  rcases mem_foldl_put h with h | h
  · cases h
  · exact h

/-- Entries with distinct keys make up an ordered map as they are. -/
theorem ofList_of_nodup {l : List (String × α)} (h : (keys l).Nodup) : ofList l = l := by
  simpa [ofList] using foldl_put_of_nodup (m := []) h

end Entries

end WebExtract
