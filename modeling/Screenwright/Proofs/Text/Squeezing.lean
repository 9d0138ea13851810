import Mathlib.Data.List.Basic
import Screenwright.Text.Blank

/-! What is left of a text when runs of characters are replaced by one: its words, with that
character between them. -/
namespace Screenwright.Text
variable {p : Char → Bool} {by_ c d : Char} {cs : List Char}

lemma squeeze_cons_of (h : p c = true) : squeeze p by_ (c :: cs) =
    if cs.head?.any p then squeeze p by_ cs else by_ :: squeeze p by_ cs := by
  cases cs with
  | nil => simp [squeeze, h]
  | cons d cs => rw [squeeze, if_pos h, List.head?_cons, Option.any_some]

lemma squeeze_cons_of_not (h : p c = false) :
    squeeze p by_ (c :: cs) = c :: squeeze p by_ cs := by
  rw [squeeze.eq_def]
  simp [h]

/-- What is left of the characters are those that were not to be replaced, and the one that stands
for the others. -/
lemma mem_squeeze (h : c ∈ squeeze p by_ cs) : c = by_ ∨ c ∈ cs ∧ p c = false := by
  induction cs with
  | nil => cases h
  | cons d rest ih =>
    have hrest : c ∈ squeeze p by_ rest → c = by_ ∨ c ∈ d :: rest ∧ p c = false := fun h =>
      (ih h).imp_right fun h => ⟨List.mem_cons_of_mem d h.1, h.2⟩
    cases hd : p d with
    | true =>
      rw [squeeze_cons_of hd] at h
      split_ifs at h
      · exact hrest h
      · exact (List.mem_cons.1 h).elim .inl hrest
    | false =>
      rw [squeeze_cons_of_not hd, List.mem_cons] at h
      rcases h with rfl | h
      · exact .inr ⟨List.mem_cons_self, hd⟩
      · exact hrest h

/-- Nothing is left to be replaced. -/
lemma of_mem_squeeze (hby : p by_ = false) (h : c ∈ squeeze p by_ cs) : p c = false := by
  rcases mem_squeeze h with rfl | ⟨-, hc⟩
  · exact hby
  · exact hc

/-- Where nothing is to be replaced, everything is left. -/
lemma squeeze_eq_self (h : ∀ c ∈ cs, p c = false) : squeeze p by_ cs = cs := by
  induction cs with
  | nil => rfl
  | cons c cs ih =>
    rw [List.forall_mem_cons] at h
    rw [squeeze_cons_of_not h.1, ih h.2]

/-- A text without blanks that is not empty has ink. -/
lemma hasInk_of_ne_empty {s : String} (hne : s ≠ "") (h : ∀ c ∈ s.toList, isBlank c = false) :
    hasInk s = true := by
  obtain ⟨c, cs, hcs⟩ := List.exists_cons_of_ne_nil (mt String.toList_eq_nil_iff.1 hne)
  have hc : isBlank c = false := h c (by simp [hcs])
  simp [hasInk, hcs, hc]

/-! ### Words -/

lemma dropEndWhile_cons_of_not (h : p c = false) :
    dropEndWhile p (c :: cs) = c :: dropEndWhile p cs := by
  rw [dropEndWhile]
  split <;> simp_all

lemma dropEndWhile_cons_of (h : p c = true) : dropEndWhile p (c :: cs) =
    if dropEndWhile p cs = [] then [] else c :: dropEndWhile p cs := by
  rw [dropEndWhile]
  split <;> simp_all

lemma isPrefix_dropEndWhile (p : Char → Bool) (cs : List Char) : dropEndWhile p cs <+: cs := by
  induction cs with
  | nil => exact List.nil_prefix
  | cons c cs ih =>
    cases hc : p c with
    | false =>
      rw [dropEndWhile_cons_of_not hc]
      exact List.cons_prefix_cons.2 ⟨rfl, ih⟩
    | true =>
      rw [dropEndWhile_cons_of hc]
      split_ifs
      · exact List.nil_prefix
      · exact List.cons_prefix_cons.2 ⟨rfl, ih⟩

lemma of_mem_getLast?_dropEndWhile (h : c ∈ (dropEndWhile p cs).getLast?) : p c = false := by
  induction cs with
  | nil => cases h
  | cons d cs ih =>
    cases hrest : dropEndWhile p cs with
    | nil =>
      cases hd : p d with
      | false =>
        rw [dropEndWhile_cons_of_not hd, hrest] at h
        cases h
        exact hd
      | true =>
        rw [dropEndWhile_cons_of hd, if_pos hrest] at h
        cases h
    | cons e kept =>
      have hkept : dropEndWhile p (d :: cs) = d :: e :: kept := by rw [dropEndWhile, hrest]
      rw [hkept, List.getLast?_cons_cons, ← hrest] at h
      exact ih h

lemma dropEndWhile_eq_self (h : ∀ c ∈ cs.getLast?, p c = false) : dropEndWhile p cs = cs := by
  induction cs with
  | nil => rfl
  | cons c cs ih =>
    cases cs with
    | nil => rw [dropEndWhile_cons_of_not (h c rfl), dropEndWhile]
    | cons d cs =>
      have hrest : dropEndWhile p (d :: cs) = d :: cs := ih (by simpa using h)
      rw [dropEndWhile, hrest]

lemma trimWhile_subset (p : Char → Bool) (cs : List Char) : trimWhile p cs ⊆ cs :=
  List.Subset.trans (isPrefix_dropEndWhile p _).subset (List.dropWhile_sublist p).subset

lemma trimWhile_eq_self (h : ∀ c ∈ cs, p c = false) : trimWhile p cs = cs := by
  have hend : dropEndWhile p cs = cs :=
    dropEndWhile_eq_self fun c hc => h c (List.mem_of_getLast? hc)
  cases cs with
  | nil => rfl
  | cons c cs =>
    rw [trimWhile, List.dropWhile_cons_of_neg (by simp [h c List.mem_cons_self]), hend]

lemma head?_dropEndWhile (h : dropEndWhile p cs ≠ []) :
    (dropEndWhile p cs).head? = cs.head? := by
  cases cs with
  | nil => rfl
  | cons c cs =>
    cases hc : p c with
    | false => rw [dropEndWhile_cons_of_not hc, List.head?_cons, List.head?_cons]
    | true =>
      rw [dropEndWhile_cons_of hc] at h ⊢
      split_ifs at h ⊢ with hnil
      · exact absurd rfl h
      · rfl

/-- The words of a text: what stands between the characters that `p` accepts. -/
def piecesBy (p : Char → Bool) (cs : List Char) : List (List Char) :=
  (cs.splitOnP p).filter (!·.isEmpty)

@[simp] lemma piecesBy_nil : piecesBy p [] = [] := by
  simp [piecesBy]

lemma piecesBy_cons_of (h : p c = true) : piecesBy p (c :: cs) = piecesBy p cs := by
  simp [piecesBy, List.splitOnP_cons_eq_if_modifyHead, h]

lemma piecesBy_singleton (h : p c = false) : piecesBy p [c] = [[c]] := by
  simp [piecesBy, List.splitOnP_cons_eq_if_modifyHead, h]

lemma piecesBy_cons_of_head (hc : p c = false) (hd : p d = true) :
    piecesBy p (c :: d :: cs) = [c] :: piecesBy p cs := by
  simp [piecesBy, List.splitOnP_cons_eq_if_modifyHead, hc, hd]

/-- A word goes on. -/
lemma exists_piecesBy_cons (hc : p c = false) (hd : p d = false) (cs : List Char) :
    ∃ w ws, piecesBy p (d :: cs) = w :: ws ∧ piecesBy p (c :: d :: cs) = (c :: w) :: ws := by
  obtain ⟨w, ws, hsplit⟩ := List.exists_cons_of_ne_nil (List.splitOnP_ne_nil p cs)
  refine ⟨d :: w, ws.filter (!·.isEmpty), ?_, ?_⟩ <;>
    simp [piecesBy, List.splitOnP_cons_eq_if_modifyHead, hc, hd, hsplit]

lemma dropEndWhile_eq_nil_iff : dropEndWhile p cs = [] ↔ piecesBy p cs = [] := by
  induction cs with
  | nil => simp [dropEndWhile]
  | cons c cs ih =>
    cases hc : p c with
    | true => simp [dropEndWhile_cons_of hc, piecesBy_cons_of hc, ih]
    | false =>
      have hne : piecesBy p (c :: cs) ≠ [] := by
        cases cs with
        | nil => simp [piecesBy_singleton hc]
        | cons d cs =>
          cases hd : p d with
          | true => simp [piecesBy_cons_of_head hc hd]
          | false =>
            obtain ⟨w, ws, -, hw⟩ := exists_piecesBy_cons hc hd cs
            simp [hw]
      simp [dropEndWhile_cons_of_not hc, hne]

/-- Every word but the first follows a character that stands for what is between them; one more
stands before the first word if the text does not start with it. -/
lemma squeeze_dropEndWhile : squeeze p by_ (dropEndWhile p cs) =
    if cs.head?.any p ∧ piecesBy p cs ≠ [] then by_ :: [by_].intercalate (piecesBy p cs)
    else [by_].intercalate (piecesBy p cs) := by
  induction cs with
  | nil => simp [dropEndWhile, squeeze]
  | cons c cs ih =>
    cases hc : p c with
    | true =>
      rw [dropEndWhile_cons_of hc, piecesBy_cons_of hc, List.head?_cons, Option.any_some, hc]
      by_cases hnil : piecesBy p cs = []
      · simp [dropEndWhile_eq_nil_iff, hnil, squeeze]
      · have hkept : dropEndWhile p cs ≠ [] := mt dropEndWhile_eq_nil_iff.1 hnil
        rw [if_neg hkept, if_pos ⟨rfl, hnil⟩, squeeze_cons_of hc, head?_dropEndWhile hkept, ih]
        split_ifs <;> simp_all
    | false =>
      have hstart : ¬ ((c :: cs).head?.any p = true ∧ piecesBy p (c :: cs) ≠ []) := by simp [hc]
      rw [if_neg hstart, dropEndWhile_cons_of_not hc, squeeze_cons_of_not hc, ih]
      cases cs with
      | nil => simp [piecesBy_singleton hc]
      | cons d cs =>
        cases hd : p d with
        | true =>
          rw [piecesBy_cons_of_head hc hd, piecesBy_cons_of hd]
          cases hws : piecesBy p cs <;> simp [hd]
        | false =>
          obtain ⟨w, ws, hw, hcw⟩ := exists_piecesBy_cons hc hd cs
          rw [hw, hcw]
          cases ws <;> simp [hd]

/-- The words of a text, with one character between any two of them. -/
theorem squeeze_trimWhile :
    squeeze p by_ (trimWhile p cs) = [by_].intercalate (piecesBy p cs) := by
  induction cs with
  | nil => simp [trimWhile, dropEndWhile, squeeze]
  | cons c cs ih =>
    cases hc : p c with
    | true => rw [trimWhile, List.dropWhile_cons_of_pos hc, piecesBy_cons_of hc, ← ih, trimWhile]
    | false =>
      rw [trimWhile, List.dropWhile_cons_of_neg (by simp [hc]), squeeze_dropEndWhile,
        if_neg (by simp [hc])]

end Screenwright.Text
