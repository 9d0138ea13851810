import Mathlib.Data.List.Forall2

/-! Computations that may end without an answer, alone and in sequence. -/
namespace Screenwright
variable {ε α β : Type}

/-- The computation ends without an answer. -/
def Breaks (x : Except ε α) : Prop := ∃ e, x = .error e

@[simp] lemma breaks_ok (a : α) : ¬ Breaks (.ok a : Except ε α) := by simp [Breaks]

@[simp] lemma breaks_error (e : ε) : Breaks (.error e : Except ε α) := ⟨e, rfl⟩

@[simp] lemma breaks_map (f : α → β) (x : Except ε α) : Breaks (x.map f) ↔ Breaks x := by
  cases x <;> simp [Except.map]

@[simp] lemma breaks_mapError {δ : Type} (f : ε → δ) (x : Except ε α) :
    Breaks (x.mapError f) ↔ Breaks x := by
  cases x <;> simp [Except.mapError]

lemma breaks_bind_pure (x : Except ε α) (f : α → β) :
    Breaks (x >>= fun a => pure (f a)) ↔ Breaks x := by
  cases x <;> simp [bind, Except.bind, pure, Except.pure]

/-- What never breaks does not matter for a sequence. -/
lemma breaks_bind_of_ok {f : α → Except ε β} (h : ∀ a, ¬ Breaks (f a)) (x : Except ε α) :
    Breaks (x >>= f) ↔ Breaks x := by
  cases x with
  | error e => simp [bind, Except.bind]
  | ok a => simpa [bind, Except.bind] using h a

/-- Two computations one after the other end without an answer when one of them does. -/
lemma breaks_bind_bind_pure (x : Except ε α) (y : Except ε β) {γ : Type} (f : α → β → γ) :
    Breaks (x >>= fun a => y >>= fun b => pure (f a b)) ↔ Breaks x ∨ Breaks y := by
  cases x <;> cases y <;> simp [bind, Except.bind, pure, Except.pure]

lemma bind_eq_ok_iff {x : Except ε α} {f : α → Except ε β} {b : β} :
    x >>= f = .ok b ↔ ∃ a, x = .ok a ∧ f a = .ok b := by
  cases x <;> simp [bind, Except.bind]

lemma map_eq_ok_iff {f : α → β} {x : Except ε α} {b : β} :
    x.map f = .ok b ↔ ∃ a, x = .ok a ∧ f a = b := by
  cases x <;> simp [Except.map]

lemma mapError_eq_ok_iff {δ : Type} {f : ε → δ} {x : Except ε α} {a : α} :
    x.mapError f = .ok a ↔ x = .ok a := by
  cases x <;> simp [Except.mapError]

lemma toOption_eq_some_iff {x : Except ε α} {a : α} : x.toOption = some a ↔ x = .ok a := by
  cases x <;> simp [Except.toOption]

lemma exists_ok_of_not_breaks {x : Except ε α} (h : ¬ Breaks x) : ∃ a, x = .ok a := by
  cases x with
  | error e => exact absurd (breaks_error e) h
  | ok a => exact ⟨a, rfl⟩

/-- What is known of an answer that has been worked out. -/
lemma exists_ok_of_toOption {x : Except ε α} {f : α → β} {b : β}
    (h : x.toOption.map f = some b) : ∃ a, x = .ok a ∧ f a = b := by
  cases x with
  | error e => cases h
  | ok a => exact ⟨a, rfl, Option.some.inj h⟩

/-! ### Sequences -/

/-- A member of the second of two related lists has its partner in the first. -/
lemma exists_left_of_forall₂ {R : α → β → Prop} {xs : List α} {ys : List β}
    (h : List.Forall₂ R xs ys) {y : β} (hy : y ∈ ys) : ∃ x ∈ xs, R x y := by
  induction h with
  | nil => cases hy
  | @cons x y' xs ys hx _ ih =>
    rcases List.mem_cons.1 hy with rfl | hy
    · exact ⟨x, List.mem_cons_self, hx⟩
    · obtain ⟨x', hx', hxy⟩ := ih hy
      exact ⟨x', List.mem_cons_of_mem _ hx', hxy⟩

lemma exists_right_of_forall₂ {R : α → β → Prop} {xs : List α} {ys : List β}
    (h : List.Forall₂ R xs ys) {x : α} (hx : x ∈ xs) : ∃ y ∈ ys, R x y :=
  exists_left_of_forall₂ h.flip hx

section
variable {f : α → Except ε β}

lemma mapM_eq_ok_iff {xs : List α} {ys : List β} :
    xs.mapM f = .ok ys ↔ List.Forall₂ (fun x y => f x = .ok y) xs ys := by
  induction xs generalizing ys with
  | nil => cases ys <;> simp [pure, Except.pure]
  | cons x xs ih =>
    rw [List.mapM_cons, List.forall₂_cons_left_iff]
    simp only [← ih]
    cases f x <;> cases xs.mapM f <;> simp [bind, Except.bind, pure, Except.pure, eq_comm]

lemma exists_ok_of_mapM {xs : List α} {ys : List β} (h : xs.mapM f = .ok ys) {x : α}
    (hx : x ∈ xs) : ∃ y ∈ ys, f x = .ok y :=
  exists_right_of_forall₂ (mapM_eq_ok_iff.1 h) hx

lemma exists_of_mem_mapM {xs : List α} {ys : List β} (h : xs.mapM f = .ok ys) {y : β}
    (hy : y ∈ ys) : ∃ x ∈ xs, f x = .ok y :=
  exists_left_of_forall₂ (mapM_eq_ok_iff.1 h) hy

/-- A sequence of computations ends without an answer when one of them does. -/
lemma breaks_mapM {xs : List α} : Breaks (xs.mapM f) ↔ ∃ x ∈ xs, Breaks (f x) := by
  induction xs with
  | nil => simp [pure, Except.pure, Breaks]
  | cons x xs ih =>
    rw [List.mapM_cons, breaks_bind_bind_pure, ih, List.exists_mem_cons_iff]

end

end Screenwright
