import Mathlib.Data.List.Basic
import Mathlib.Data.List.Count
import Screenwright.Text.Lines

/-! Texts with a part put shorter. The letters that are missing add up where texts are put together,
so that a whole text is the same as before exactly when all its parts are. -/
namespace Screenwright

/-! ### Sums over lists -/

/-- Lists of the same length whose members are related one by one, the numbers added up. -/
inductive Totals {α : Type} (R : ℕ → α → α → Prop) : ℕ → List α → List α → Prop
  | nil : Totals R 0 [] []
  | cons {k l : ℕ} {y x : α} {ys xs : List α} (h : R k y x) (hs : Totals R l ys xs) :
    Totals R (k + l) (y :: ys) (x :: xs)

namespace Totals
variable {α β : Type} {R : ℕ → α → α → Prop} {S : ℕ → β → β → Prop} {k l : ℕ}
  {ys xs ys' xs' : List α}

lemma refl (hR : ∀ x, R 0 x x) (xs : List α) : Totals R 0 xs xs := by
  induction xs with
  | nil => exact .nil
  | cons x xs ih => exact .cons (hR x) ih

lemma append (h : Totals R k ys xs) (h' : Totals R l ys' xs') :
    Totals R (k + l) (ys ++ ys') (xs ++ xs') := by
  induction h with
  | nil => simpa using h'
  | cons hx _ ih =>
    rw [Nat.add_assoc]
    exact .cons hx ih

lemma append_left (hR : ∀ x, R 0 x x) (ts : List α) (h : Totals R k ys xs) :
    Totals R k (ts ++ ys) (ts ++ xs) := by
  simpa using (refl hR ts).append h

lemma append_right (hR : ∀ x, R 0 x x) (h : Totals R k ys xs) (ts : List α) :
    Totals R k (ys ++ ts) (xs ++ ts) := by
  simpa using h.append (refl hR ts)

/-- A difference in the head of a list. -/
lemma head {y x : α} (hR : ∀ x, R 0 x x) (h : R k y x) (ts : List α) :
    Totals R k (y :: ts) (x :: ts) := by
  simpa using cons h (refl hR ts)

lemma mapIdx {g : ℕ → α → β} (h : Totals R k ys xs) (hg : ∀ i k y x, R k y x → S k (g i y) (g i x))
    (i : ℕ) :
    Totals S k ((ys.zipIdx i).map fun c => g c.2 c.1) ((xs.zipIdx i).map fun c => g c.2 c.1) := by
  induction h generalizing i with
  | nil => exact .nil
  | cons hx _ ih => exact .cons (hg i _ _ _ hx) (ih (i + 1))

/-- Relations between the values of two functions add up over a list. -/
lemma exists_of_forall {γ : Type} {f g : γ → α} {p : γ → Prop} {cs : List γ}
    (h : ∀ c ∈ cs, ∃ k, R k (f c) (g c) ∧ (0 < k ↔ p c)) :
    ∃ k, Totals R k (cs.map f) (cs.map g) ∧ (0 < k ↔ ∃ c ∈ cs, p c) := by
  induction cs with
  | nil => exact ⟨0, .nil, by simp⟩
  | cons c cs ih =>
    obtain ⟨k, hk, hpos⟩ := h c List.mem_cons_self
    obtain ⟨l, hl, hpos'⟩ := ih fun c hc => h c (List.mem_cons_of_mem _ hc)
    refine ⟨k + l, .cons hk hl, ?_⟩
    rw [List.exists_mem_cons_iff, ← hpos, ← hpos']
    omega

end Totals

namespace Text

/-- How often the letter `r` stands in a text. -/
def letters (t : String) : ℕ := t.toList.count 'r'

@[simp] lemma letters_append (s t : String) : letters (s ++ t) = letters s + letters t := by
  rw [letters, String.toList_append, List.count_append, letters, letters]

lemma intercalate_lines (s : String) : "\n".intercalate (lines s) = s := by
  apply String.toList_inj.1
  rw [String.toList_intercalate, lines, List.map_map, Function.comp_def]
  simp only [String.toList_ofList, List.map_id']
  exact List.intercalate_splitOn '\n'

lemma letters_intercalate_map {f : String → String} (hf : ∀ t, letters (f t) = letters t)
    (between : String) (ts : List String) :
    letters (between.intercalate (ts.map f)) = letters (between.intercalate ts) := by
  induction ts with
  | nil => rfl
  | cons t ts ih =>
    cases ts with
    | nil => simp [hf]
    | cons t' ts =>
      rw [List.map_cons] at ih
      rw [List.map_cons, List.map_cons, String.intercalate_cons_cons, letters_append,
        letters_append, ih, hf, String.intercalate_cons_cons, letters_append, letters_append]

/-- Moving lines to the right brings blanks only. -/
lemma letters_indent (width : ℕ) (s : String) : letters (indent width s) = letters s := by
  have hline : ∀ l : String, letters (if hasInk l then spaces width ++ l else l) = letters l := by
    intro l
    have hspaces : letters (spaces width) = 0 := by simp [letters, spaces, List.count_replicate]
    split
    · rw [letters_append, hspaces, Nat.zero_add]
    · rfl
  rw [indent, unlines, letters_intercalate_map hline, intercalate_lines]

lemma indent_eq_empty (width : ℕ) (s : String) : indent width s = "" ↔ s = "" := by
  constructor
  · intro h
    have hs := intercalate_lines s
    unfold indent unlines at h
    cases hlines : lines s with
    | nil => rw [← hs, hlines]; rfl
    | cons l ls =>
      rw [hlines] at h hs
      cases ls with
      | cons l' ls => simp [String.intercalate_cons_cons] at h
      | nil =>
        rw [List.map_cons, List.map_nil, String.intercalate_singleton] at h
        rw [String.intercalate_singleton] at hs
        subst hs
        split at h
        · exact (String.append_eq_empty_iff.1 h).2
        · exact h
  · rintro rfl
    rfl

/-- Whether a text starts with an expression. -/
def OpensBrace (t : String) : Prop := t.toList.head? = some '\x7b'

lemma opensBrace_append {s t : String} :
    OpensBrace (s ++ t) ↔ OpensBrace s ∨ s = "" ∧ OpensBrace t := by
  rw [OpensBrace, String.toList_append, List.head?_append, OpensBrace, OpensBrace,
    ← String.toList_eq_nil_iff]
  cases s.toList <;> simp

lemma not_opensBrace_indent {width : ℕ} (hwidth : 0 < width) (s : String) :
    ¬ OpensBrace (indent width s) := by
  have hline : ∀ l : String, ¬ OpensBrace (if hasInk l then spaces width ++ l else l) := by
    intro l
    split
    · rw [opensBrace_append]
      obtain ⟨n, rfl⟩ := Nat.exists_eq_succ_of_ne_zero (Nat.ne_of_gt hwidth)
      simp [OpensBrace, spaces, List.replicate_succ]
    · next hink =>
      intro hopen
      refine hink (List.any_eq_true.2 ⟨'\x7b', List.mem_of_head? hopen, by decide⟩)
  unfold indent unlines
  cases lines s with
  | nil => simp [OpensBrace]
  | cons l ls =>
    cases ls with
    | nil => simpa using hline l
    | cons l' ls =>
      rw [List.map_cons, List.map_cons, String.intercalate_cons_cons, opensBrace_append,
        opensBrace_append]
      rintro ((hopen | ⟨-, hopen⟩) | ⟨hnone, -⟩)
      · exact hline l hopen
      · simp [OpensBrace] at hopen
      · exact absurd (String.append_eq_empty_iff.1 hnone).2 (by decide)

/-- A text with fewer letters than another one. With none fewer it is the other text, and in any case
the two are empty together and start with an expression together. -/
structure Shortens (k : ℕ) (y x : String) : Prop where
  empty : y = "" ↔ x = ""
  opens : OpensBrace y ↔ OpensBrace x
  count : letters x = letters y + k
  same : k = 0 → y = x

namespace Shortens
variable {k l : ℕ} {y x y' x' : String}

lemma refl (t : String) : Shortens 0 t t := ⟨Iff.rfl, Iff.rfl, rfl, fun _ => rfl⟩

lemma append (h : Shortens k y x) (h' : Shortens l y' x') :
    Shortens (k + l) (y ++ y') (x ++ x') where
  empty := by rw [String.append_eq_empty_iff, String.append_eq_empty_iff, h.empty, h'.empty]
  opens := by rw [opensBrace_append, opensBrace_append, h.opens, h.empty, h'.opens]
  count := by
    rw [letters_append, letters_append, h.count, h'.count]
    omega
  same hkl := by rw [h.same (by omega), h'.same (by omega)]

lemma prepend (h : Shortens k y x) (front : String) : Shortens k (front ++ y) (front ++ x) := by
  simpa using (refl front).append h

lemma postpend (h : Shortens k y x) (back : String) : Shortens k (y ++ back) (x ++ back) :=
  h.append (refl back)

lemma eq_zero (h : Shortens k y "") : k = 0 := by
  have hcount := h.count
  have hnone : letters "" = 0 := rfl
  omega

lemma eq_iff (h : Shortens k y x) : y = x ↔ k = 0 := by
  refine ⟨?_, h.same⟩
  rintro rfl
  have hcount := h.count
  omega

/-- A text that is put together otherwise when it is empty. -/
lemma ite_empty (h : Shortens k y x) {y₀ x₀ y₁ x₁ : String} (h₀ : k = 0 → Shortens k y₀ x₀)
    (h₁ : Shortens k y₁ x₁) :
    Shortens k (if y = "" then y₀ else y₁) (if x = "" then x₀ else x₁) := by
  by_cases hx : x = ""
  · rw [if_pos hx, if_pos (h.empty.2 hx)]
    subst hx
    exact h₀ h.eq_zero
  · rwa [if_neg hx, if_neg (mt h.empty.1 hx)]

lemma indent (h : Shortens k y x) {width : ℕ} (hwidth : 0 < width) :
    Shortens k (Text.indent width y) (Text.indent width x) where
  empty := by rw [indent_eq_empty, indent_eq_empty, h.empty]
  opens := iff_of_false (not_opensBrace_indent hwidth y) (not_opensBrace_indent hwidth x)
  count := by rw [letters_indent, letters_indent, h.count]
  same hk := by rw [h.same hk]

lemma intercalate {ys xs : List String} (h : Totals Shortens k ys xs) (between : String) :
    Shortens k (between.intercalate ys) (between.intercalate xs) := by
  induction h with
  | nil => exact refl _
  | @cons k l y x ys xs hx hs ih =>
    cases hs with
    | nil => simpa using hx
    | cons hx' hs' =>
      rw [String.intercalate_cons_cons, String.intercalate_cons_cons, String.append_assoc,
        String.append_assoc]
      exact hx.append (ih.prepend between)

/-- Lines with a text behind them, left out when it is empty. -/
lemma behind (h : Shortens k y x) (ts : List String) (between : String) :
    Shortens k (between.intercalate (if y = "" then ts else ts ++ [y]))
      (between.intercalate (if x = "" then ts else ts ++ [x])) := by
  by_cases hx : x = ""
  · rw [if_pos hx, if_pos (h.empty.2 hx)]
    subst hx
    exact h.eq_zero ▸ refl _
  · rw [if_neg hx, if_neg (mt h.empty.1 hx)]
    exact intercalate (.append_left refl ts (.head refl h [])) between

lemma filled {ys xs : List String} (h : Totals Shortens k ys xs) :
    Totals Shortens k (ys.filter (· != "")) (xs.filter (· != "")) := by
  induction h with
  | nil => exact .nil
  | @cons k l y x ys xs hx _ ih =>
    by_cases hempty : x = ""
    · subst hempty
      obtain rfl := hx.eq_zero
      rw [hx.empty.2 rfl, Nat.zero_add]
      simpa using ih
    · have hy : y ≠ "" := mt hx.empty.1 hempty
      rw [List.filter_cons_of_pos (by simpa using hy),
        List.filter_cons_of_pos (by simpa using hempty)]
      exact .cons hx ih

end Shortens
end Text

end Screenwright
