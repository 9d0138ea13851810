import Screenwright.Proofs.Compilation.Isolation

/-! What becomes of a batch does not depend on how it is shared out, nor on the order in which its
screens are finished. -/
namespace Screenwright

/-- Where a batch of the given size is shared, each of its screens is finished once. -/
def Schedule.Completes (s : Schedule) (size : Nat) : Prop :=
  s.isShared size = true → s.finished.Perm (List.range size)

namespace Compiler
variable {c : Compiler} {s : Schedule} {screens : List SourceScreen} {results : List ScreenResult}

/-! ### Arrivals -/

section
variable {arrived : List (Nat × ScreenResult)} (h : ∀ a ∈ arrived, results[a.1]? = some a.2)
include h

/-- Whatever the order of the arrivals, each of them comes to its own place. -/
lemma getElem?_arrived {slots : List (Option ScreenResult)} (hslots : slots.length = results.length)
    (i : Nat) :
    (arrived.foldl (fun slots a => slots.set a.1 (some a.2)) slots)[i]? =
      if i ∈ arrived.map Prod.fst then results[i]?.map some else slots[i]? := by
  induction arrived generalizing slots with
  | nil => simp
  | cons a arrived ih =>
    obtain ⟨ha, harrived⟩ := List.forall_mem_cons.1 h
    rw [List.foldl_cons, ih harrived (by rw [List.length_set, hslots]), List.getElem?_set]
    by_cases hi : a.1 = i
    · subst hi
      have hlt : a.1 < slots.length := hslots ▸ (List.getElem?_eq_some_iff.1 ha).1
      simp [hlt, ha]
    · simp only [List.map_cons, List.mem_cons, Ne.symm hi, false_or, if_neg hi]

/-- When the result of every place has arrived, they are arranged as they belong. -/
lemma arranged_eq (hall : ∀ i < results.length, i ∈ arrived.map Prod.fst) :
    arranged results.length arrived = results := by
  have hslots : arrived.foldl (fun slots a => slots.set a.1 (some a.2))
      (List.replicate results.length none) = results.map some := by
    refine List.ext_getElem? fun i => ?_
    rw [getElem?_arrived h List.length_replicate, List.getElem?_map]
    split
    · rfl
    · next hi =>
      have hlength : results.length ≤ i := Nat.le_of_not_lt fun hlt => hi (hall i hlt)
      simp [hlength]
  rw [arranged, hslots, List.filterMap_map]
  exact List.filterMap_some

end

/-! ### Results -/

/-- What is known of the places of two related lists. -/
lemma rel_getElem? {α β : Type} {R : α → β → Prop} {xs : List α} {ys : List β}
    (h : List.Forall₂ R xs ys) (i : Nat) : Option.Rel R xs[i]? ys[i]? := by
  induction h generalizing i with
  | nil => exact .none
  | cons hxy _ ih =>
    cases i with
    | zero => exact .some hxy
    | succ i => exact ih i

lemma arrivals_eq_ok (h : c.Results screens results) (finished : List Nat) :
    c.arrivals screens finished =
      .ok (finished.filterMap fun i => results[i]?.map fun r => (i, r)) := by
  rw [arrivals, mapM_eq_ok_iff]
  induction finished with
  | nil => exact .nil
  | cons i finished ih =>
    have hi := rel_getElem? h i
    cases hscreen : screens[i]? <;> cases hresult : results[i]? <;> rw [hscreen, hresult] at hi
    · simpa [hscreen, hresult] using ih
    · cases hi
    · cases hi
    · cases hi with
      | some hx => simpa [hscreen, hresult, hx, Except.map] using ih

/-- With the result of every screen there are those of the batch, in its order. -/
lemma results_eq_ok (hs : s.Completes screens.length) (h : c.Results screens results) :
    c.results s screens = .ok results := by
  rw [Compiler.results]
  split
  · next hshared =>
    have hmem : ∀ i, i ∈ s.finished ↔ i < results.length := fun i => by
      rw [(hs hshared).mem_iff, List.mem_range, h.length_eq]
    rw [arrivals_eq_ok h, h.length_eq]
    refine congrArg Except.ok (arranged_eq ?_ fun i hi => ?_)
    · intro a ha
      obtain ⟨i, -, hi⟩ := List.mem_filterMap.1 ha
      obtain ⟨r, hr, rfl⟩ := Option.map_eq_some_iff.1 hi
      exact hr
    · refine List.mem_map.2 ⟨(i, results[i]), List.mem_filterMap.2 ⟨i, (hmem i).2 hi, ?_⟩, rfl⟩
      simp [hi]
  · exact mapM_eq_ok_iff.2 h

/-- A batch ends without results when one of its screens does. -/
lemma breaks_results (hs : s.Completes screens.length) :
    Breaks (c.results s screens) ↔ ∃ x ∈ screens, Breaks (c.compileScreen x) := by
  rw [Compiler.results]
  split
  · next hshared =>
    rw [breaks_map, arrivals, breaks_mapM]
    constructor
    · rintro ⟨e, he, hbreaks⟩
      obtain ⟨i, -, hi⟩ := List.mem_filterMap.1 he
      obtain ⟨x, hx, rfl⟩ := Option.map_eq_some_iff.1 hi
      exact ⟨x, List.mem_of_getElem? hx, (breaks_map _ _).1 hbreaks⟩
    · rintro ⟨x, hx, hbreaks⟩
      obtain ⟨i, hi, rfl⟩ := List.mem_iff_getElem.1 hx
      have hfinished : i ∈ s.finished := (hs hshared).mem_iff.2 (List.mem_range.2 hi)
      exact ⟨(i, screens[i]), List.mem_filterMap.2 ⟨i, hfinished, by simp [hi]⟩,
        (breaks_map _ _).2 hbreaks⟩
  · exact breaks_mapM

/-- The results of a batch are those of its screens, one by one. -/
theorem results_eq_ok_iff (hs : s.Completes screens.length) :
    c.results s screens = .ok results ↔ c.Results screens results := by
  refine ⟨fun h => ?_, results_eq_ok hs⟩
  obtain ⟨results', hresults'⟩ := exists_ok_of_not_breaks (x := screens.mapM c.compileScreen) (by
    rw [breaks_mapM, ← breaks_results hs, h]
    exact breaks_ok _)
  have hown : c.Results screens results' := mapM_eq_ok_iff.1 hresults'
  obtain rfl : results = results' := Except.ok.inj (h.symm.trans (results_eq_ok hs hown))
  exact hown

lemma compile_eq_ok_iff (hs : s.Completes screens.length) {r : Compilation} :
    c.compile screens s = .ok r ↔ ∃ results, c.Results screens results ∧ c.collect results = r := by
  simp only [compile, map_eq_ok_iff, results_eq_ok_iff hs]

/-! ### What each screen contributes -/

end Compiler
end Screenwright
