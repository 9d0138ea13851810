import Mathlib.Data.List.Infix

/-! Lists that are split at an element, and lists that are put together with it between them. What
lies within one of the pieces lies in the whole, and what lies in the whole without the element lies
within one of the pieces. -/
namespace Screenwright.Text
variable {α : Type} {piece front back : List α} {separator : α}

/-- The pieces of a list are free of what separates them. -/
lemma notMem_of_mem_splitOn [BEq α] [LawfulBEq α] {xs : List α}
    (h : piece ∈ xs.splitOn separator) : separator ∉ piece := by
  induction xs generalizing piece with
  | nil =>
    rw [List.splitOn_nil, List.mem_singleton] at h
    simp [h]
  | cons x xs ih =>
    rw [List.splitOn_cons_eq_if_modifyHead] at h
    split at h
    · rcases List.mem_cons.1 h with rfl | h
      · simp
      · exact ih h
    · next hx =>
      cases hpieces : xs.splitOn separator with
      | nil => exact absurd hpieces (List.splitOn_ne_nil _ xs)
      | cons first rest =>
        rw [hpieces, List.modifyHead_cons] at h
        rcases List.mem_cons.1 h with rfl | h
        · have hfirst : separator ∉ first := ih (hpieces ▸ List.mem_cons_self)
          rw [List.mem_cons, not_or]
          exact ⟨fun heq => hx (by simp [heq]), hfirst⟩
        · exact ih (hpieces ▸ List.mem_cons_of_mem _ h)

/-- A piece without the separator lies on one side of it. -/
lemma infix_append_cons (hpiece : separator ∉ piece)
    (h : piece <:+: front ++ separator :: back) : piece <:+: front ∨ piece <:+: back := by
  obtain ⟨before, after, h⟩ := h
  rcases List.append_eq_append_iff.1 h with ⟨rest, hfront, -⟩ | ⟨rest, hbefore, hback⟩
  · exact .inl ⟨before, rest, hfront.symm⟩
  · cases rest with
    | nil => exact .inl ⟨before, [], by simpa using hbefore⟩
    | cons c rest =>
      obtain ⟨hc, htail⟩ := List.cons.inj hback
      subst hc
      rcases List.append_eq_append_iff.1 hbefore with ⟨rest', -, hpiece'⟩ | ⟨rest', hb, hrest⟩
      · exact absurd (hpiece' ▸ List.mem_append_right _ List.mem_cons_self) hpiece
      · cases rest' with
        | nil =>
          refine absurd ?_ hpiece
          rw [List.nil_append] at hrest
          rw [← hrest]
          exact List.mem_cons_self
        | cons d rest' =>
          obtain ⟨-, hrest⟩ := List.cons.inj hrest
          exact .inr ⟨rest', after, by rw [htail, hrest]; rfl⟩

lemma infix_of_intercalate (hpiece : separator ∉ piece) {ls : List (List α)}
    (h : piece <:+: [separator].intercalate ls) : piece = [] ∨ ∃ l ∈ ls, piece <:+: l := by
  induction ls with
  | nil => exact .inl (List.infix_nil.1 (by simpa using h))
  | cons l ls ih =>
    cases ls with
    | nil => exact .inr ⟨l, List.mem_cons_self, by simpa using h⟩
    | cons k ls =>
      rw [List.intercalate_cons_cons, List.append_assoc, List.singleton_append] at h
      rcases infix_append_cons hpiece h with h | h
      · exact .inr ⟨l, List.mem_cons_self, h⟩
      · exact (ih h).imp_right fun ⟨l', hl', h⟩ => ⟨l', List.mem_cons_of_mem _ hl', h⟩

lemma infix_intercalate (between : List α) {l : List α} {ls : List (List α)} (h : l ∈ ls) :
    l <:+: between.intercalate ls := by
  induction ls with
  | nil => cases h
  | cons k ls ih =>
    cases ls with
    | nil =>
      rw [List.mem_singleton.1 h]
      simp
    | cons k' ls =>
      rw [List.intercalate_cons_cons]
      rcases List.mem_cons.1 h with rfl | h
      · exact ⟨[], between ++ between.intercalate (k' :: ls), by simp⟩
      · exact (ih h).trans (List.suffix_append _ _).isInfix

lemma prefix_intercalate (between : List α) {l : List α} {ls : List (List α)}
    (h : ls.head? = some l) : l <+: between.intercalate ls := by
  obtain ⟨rest, rfl⟩ := List.head?_eq_some_iff.1 h
  cases rest with
  | nil => simp
  | cons k rest =>
    rw [List.intercalate_cons_cons, List.append_assoc]
    exact List.prefix_append l _

lemma suffix_intercalate (between : List α) {l : List α} {ls : List (List α)}
    (h : ls.getLast? = some l) : l <:+ between.intercalate ls := by
  induction ls with
  | nil => cases h
  | cons k ls ih =>
    cases ls with
    | nil =>
      cases h
      simp
    | cons k' ls =>
      rw [List.intercalate_cons_cons]
      exact (ih (by simpa using h)).trans (List.suffix_append _ _)

lemma subset_of_mem_splitOn [BEq α] [LawfulBEq α] {xs : List α}
    (h : piece ∈ xs.splitOn separator) : piece ⊆ xs := by
  have hpiece := (infix_intercalate [separator] h).subset
  rwa [List.intercalate_splitOn] at hpiece

end Screenwright.Text
