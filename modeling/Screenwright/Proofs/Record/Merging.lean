import Mathlib.Data.List.Nodup
import Screenwright.Proofs.Record.Reading

/-! Fields laid over others: a key has the value of its last entry among the fields on top, and else
the value below. -/
namespace Screenwright.Fields
variable {α : Type _} {fs gs : Fields α} {k : String} {v : α}

@[simp] lemma merge_nil (fs : Fields α) : merge fs [] = fs := rfl

lemma get?_append (fs gs : Fields α) (k : String) :
    get? (fs ++ gs) k = (get? fs k).or (get? gs k) := List.lookup_append

lemma mem_keys_of_get? (h : fs.get? k = some v) : k ∈ fs.keys :=
  List.mem_map_of_mem (mem_of_get? h)

lemma get?_eq_none (h : k ∉ gs.keys) : gs.get? k = none := by
  by_contra hsome
  obtain ⟨v, hv⟩ := Option.ne_none_iff_exists'.1 hsome
  exact h (mem_keys_of_get? hv)

lemma keys_set : (fs.set k v).keys = if k ∈ fs.keys then fs.keys else fs.keys ++ [k] := by
  induction fs with
  | nil => simp [set, keys]
  | cons e fs ih =>
    obtain ⟨k', v'⟩ := e
    by_cases hk : k' = k
    · simp [set, keys, hk]
    · have hkeys : keys (set ((k', v') :: fs) k v) = k' :: keys (set fs k v) := by
        simp [set, keys, hk]
      have hmem : k ∈ keys ((k', v') :: fs) ↔ k ∈ keys fs := by
        simp [keys, Ne.symm hk]
      rw [hkeys, ih]
      simp only [hmem]
      split <;> rfl

lemma nodup_keys_set (h : fs.keys.Nodup) : (fs.set k v).keys.Nodup := by
  rw [keys_set]
  split
  · exact h
  · next hk => exact List.concat_eq_append ▸ (List.nodup_concat _ _).2 ⟨hk, h⟩

lemma nodup_keys_merge (h : fs.keys.Nodup) : (merge fs gs).keys.Nodup := by
  induction gs generalizing fs with
  | nil => exact h
  | cons e gs ih => exact ih (nodup_keys_set h)

lemma set_of_notMem (h : k ∉ fs.keys) : fs.set k v = fs ++ [(k, v)] := by
  induction fs with
  | nil => rfl
  | cons e fs ih =>
    rw [keys, List.map_cons, List.mem_cons, not_or] at h
    rw [set, if_neg (Ne.symm h.1), ih h.2, List.cons_append]

lemma merge_of_nodup (h : (keys (fs ++ gs)).Nodup) : merge fs gs = fs ++ gs := by
  induction gs generalizing fs with
  | nil => rw [merge_nil, List.append_nil]
  | cons e gs ih =>
    have hnew : e.1 ∉ fs.keys := by
      intro hmem
      rw [keys, List.map_append] at h
      exact (List.nodup_append.1 h).2.2 _ hmem _ (List.mem_map_of_mem List.mem_cons_self) rfl
    rw [merge, List.foldl_cons, ← merge, set_of_notMem hnew, ih (by simpa using h),
      List.append_assoc, List.singleton_append]

lemma ofEntries_of_nodup (h : fs.keys.Nodup) : ofEntries fs = fs := by
  have hkeys : (keys ([] ++ fs)).Nodup := h
  exact merge_of_nodup hkeys

lemma notMem_keys (h : fs.get? k = none) : k ∉ fs.keys := by
  intro hk
  obtain ⟨e, he, hkey⟩ := List.mem_map.1 hk
  have hhas := has_eq_true_iff.2 ⟨e, he, hkey⟩
  simp [has, h] at hhas

/-- The look-up in fields laid over others; of two entries of a key the later one counts. -/
theorem get?_merge (fs gs : Fields α) (k : String) :
    (merge fs gs).get? k = (get? gs.reverse k).or (fs.get? k) := by
  induction gs generalizing fs with
  | nil => simp
  | cons e gs ih =>
    obtain ⟨k', v'⟩ := e
    rw [merge, List.foldl_cons, ← merge, ih, get?_set, List.reverse_cons, get?_append,
      Option.or_assoc]
    by_cases hk : k = k' <;> simp [hk]

lemma get?_merge_ofEntries (fs gs : Fields α) (k : String) :
    (merge fs gs).get? k = ((ofEntries gs).get? k).or (fs.get? k) := by
  rw [ofEntries, get?_merge, get?_merge, get?_nil, Option.or_none]

/-- What is laid on top wins. -/
lemma get?_merge_of_get? (hkeys : gs.keys.Nodup) (h : gs.get? k = some v) :
    (merge fs gs).get? k = some v := by
  have hreverse : (keys gs.reverse).Nodup := by
    rwa [keys, List.map_reverse, List.nodup_reverse]
  have hmem : (k, v) ∈ gs.reverse := List.mem_reverse.2 (mem_of_get? h)
  rw [get?_merge, get?_of_mem hreverse hmem, Option.some_or]

/-- With each key once on top, a key has the value on top or else the one below. -/
lemma get?_merge_of_nodup (hkeys : gs.keys.Nodup) :
    (merge fs gs).get? k = (gs.get? k).or (fs.get? k) := by
  cases hv : gs.get? k with
  | none =>
    have hk := notMem_keys hv
    rw [get?_merge, get?_eq_none (by rwa [keys, List.map_reverse, List.mem_reverse])]
  | some v => rw [get?_merge_of_get? hkeys hv, Option.some_or]

/-- Keys that are not laid on top keep their values. -/
lemma get?_merge_of_notMem (h : k ∉ gs.keys) : (merge fs gs).get? k = fs.get? k := by
  have hreverse : k ∉ keys gs.reverse := by
    rwa [keys, List.map_reverse, List.mem_reverse]
  rw [get?_merge, get?_eq_none hreverse, Option.none_or]

lemma get?_eraseAll (fs : Fields α) (ks : List String) (k : String) :
    (fs.eraseAll ks).get? k = if k ∈ ks then none else fs.get? k := by
  induction fs with
  | nil => simp [eraseAll]
  | cons e fs ih =>
    obtain ⟨k', v⟩ := e
    rw [eraseAll] at ih
    by_cases hk' : k' ∈ ks <;> by_cases hk : k = k' <;> simp_all [eraseAll]

lemma get?_mapValues {β : Type _} (f : α → β) (fs : Fields α) (k : String) :
    (fs.mapValues f).get? k = (fs.get? k).map f := by
  induction fs with
  | nil => rfl
  | cons e fs ih =>
    obtain ⟨k', v⟩ := e
    rw [mapValues] at ih
    by_cases hk : k = k' <;> simp [mapValues, hk, ih]

@[simp] lemma keys_mapValues {β : Type _} (f : α → β) (fs : Fields α) :
    (fs.mapValues f).keys = fs.keys := by
  simp [mapValues, keys, Function.comp_def]

/-- Each value of the result stands below or among the fields on top. -/
lemma mem_or_get?_of_get?_merge (h : (merge fs gs).get? k = some v) :
    (k, v) ∈ gs ∨ fs.get? k = some v := by
  rw [get?_merge, Option.or_eq_some_iff] at h
  rcases h with h | ⟨-, h⟩
  · exact .inl (List.mem_reverse.1 (mem_of_get? h))
  · exact .inr h

end Screenwright.Fields
