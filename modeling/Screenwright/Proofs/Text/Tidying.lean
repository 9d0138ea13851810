import Mathlib.Data.List.Chain
import Screenwright.Proofs.Text.Splitting
import Screenwright.Proofs.Text.Squeezing
import Screenwright.Text.Tidy

/-! Tidy lines, what tidying makes of a text: they are the lines of the text in which something
stands, each without the blanks at its end, with at most one empty line between any two of them.
Tidying changes nothing in a text of tidy lines, and so nothing in one of full lines. -/
namespace Screenwright.Text

/-- A text without line breaks. -/
def IsUnbroken (l : List Char) : Prop := '\n' ∉ l ∧ '\r' ∉ l
  deriving Decidable

lemma isUnbroken_append {front back : List Char} :
    IsUnbroken (front ++ back) ↔ IsUnbroken front ∧ IsUnbroken back := by
  simp only [IsUnbroken, List.mem_append, not_or]
  exact and_and_and_comm

/-- A line with text in it and no blank at its end. -/
def IsFullLine (l : List Char) : Prop :=
  IsUnbroken l ∧ l.getLast?.any (!isBlank ·) = true
  deriving Decidable

namespace IsFullLine
variable {l : List Char}

lemma ends (h : IsFullLine l) : ∃ c, l.getLast? = some c ∧ isBlank c = false := by
  simpa [Option.any_eq_true] using h.2

lemma ne_nil (h : IsFullLine l) : l ≠ [] := by
  rintro rfl
  obtain ⟨c, hc, -⟩ := h.ends
  cases hc

lemma append {front : List Char} (hfront : IsUnbroken front) (h : IsFullLine l) :
    IsFullLine (front ++ l) := by
  obtain ⟨c, hc, hblank⟩ := h.ends
  exact ⟨isUnbroken_append.2 ⟨hfront, h.1⟩, by simp [List.getLast?_append, hc, hblank]⟩

end IsFullLine

/-! ### Line ends -/

lemma unixLineEnds_eq_self {cs : List Char} (h : '\r' ∉ cs) : unixLineEnds cs = cs := by
  induction cs with
  | nil => rfl
  | cons c cs ih =>
    rw [List.mem_cons, not_or] at h
    have hc : c ≠ '\r' := fun heq => h.1 heq.symm
    rw [unixLineEnds, ih h.2]
    · exact fun _ heq => absurd heq hc
    · exact hc

lemma return_notMem_unixLineEnds (cs : List Char) : '\r' ∉ unixLineEnds cs := by
  induction cs using unixLineEnds.induct with
  | case1 => exact List.not_mem_nil
  | case2 rest ih => simpa [unixLineEnds] using ih
  | case3 rest hrest ih =>
    rw [unixLineEnds]
    · simpa using ih
    · exact hrest
  | case4 c rest hc hc' ih =>
    rw [unixLineEnds]
    · simpa [ih, eq_comm] using hc'
    · exact hc
    · exact hc'

/-! ### Empty lines in a row, and at the ends -/

section
variable {l : List Char} {ls : List (List Char)}

lemma collapseEmpty_cons_of_ne (h : l ≠ []) :
    collapseEmpty (l :: ls) = l :: collapseEmpty ls := by
  rw [collapseEmpty]
  exact fun _ heq _ => h heq

lemma collapseEmpty_cons_nil : collapseEmpty ([] :: ls) =
    if (collapseEmpty ls).head? = some [] then collapseEmpty ls else [] :: collapseEmpty ls := by
  rw [collapseEmpty.eq_def]
  dsimp only
  rcases collapseEmpty ls with _ | ⟨_ | ⟨c, l⟩, rest⟩ <;> simp

lemma collapseEmpty_sublist (ls : List (List Char)) : List.Sublist (collapseEmpty ls) ls := by
  induction ls with
  | nil => exact .slnil
  | cons l ls ih =>
    by_cases hl : l = []
    · subst hl
      rw [collapseEmpty_cons_nil]
      split_ifs
      · exact ih.cons []
      · exact ih.cons_cons []
    · rw [collapseEmpty_cons_of_ne hl]
      exact ih.cons_cons l

/-- Lines of which no two in a row are empty. -/
def AreApart (ls : List (List Char)) : Prop := ls.IsChain fun l l' => l ≠ [] ∨ l' ≠ []

lemma areApart_collapseEmpty (ls : List (List Char)) : AreApart (collapseEmpty ls) := by
  induction ls with
  | nil => exact .nil
  | cons l ls ih =>
    by_cases hl : l = []
    · subst hl
      rw [collapseEmpty_cons_nil]
      split_ifs with hhead
      · exact ih
      · refine List.isChain_cons.2 ⟨fun k hk => .inr ?_, ih⟩
        rintro rfl
        exact hhead hk
    · rw [collapseEmpty_cons_of_ne hl]
      exact List.isChain_cons.2 ⟨fun _ _ => .inl hl, ih⟩

lemma AreApart.collapseEmpty_eq (h : AreApart ls) : collapseEmpty ls = ls := by
  induction ls with
  | nil => rfl
  | cons l ls ih =>
    obtain ⟨hhead, hrest⟩ := List.isChain_cons.1 h
    by_cases hl : l = []
    · subst hl
      have hfilled : ls.head? ≠ some [] := fun heq => (hhead [] heq).elim (· rfl) (· rfl)
      rw [collapseEmpty_cons_nil, ih hrest, if_neg hfilled]
    · rw [collapseEmpty_cons_of_ne hl, ih hrest]

lemma dropLast_cons : dropEmptyEnds.dropLast (l :: ls) =
    if l = [] ∧ dropEmptyEnds.dropLast ls = [] then [] else l :: dropEmptyEnds.dropLast ls := by
  rw [dropEmptyEnds.dropLast]
  split <;> simp_all

lemma isPrefix_dropLast (ls : List (List Char)) : dropEmptyEnds.dropLast ls <+: ls := by
  induction ls with
  | nil => exact List.nil_prefix
  | cons l ls ih =>
    rw [dropLast_cons]
    split_ifs
    · exact List.nil_prefix
    · exact List.cons_prefix_cons.2 ⟨rfl, ih⟩

lemma getLast?_dropLast (ls : List (List Char)) :
    (dropEmptyEnds.dropLast ls).getLast? ≠ some [] := by
  induction ls with
  | nil => nofun
  | cons l ls ih =>
    rw [dropLast_cons]
    split_ifs with hempty
    · nofun
    · cases hrest : dropEmptyEnds.dropLast ls with
      | nil => simpa [hrest] using hempty
      | cons k kept => rwa [hrest] at ih

lemma dropLast_eq_self (h : ls.getLast? ≠ some []) : dropEmptyEnds.dropLast ls = ls := by
  induction ls with
  | nil => rfl
  | cons l ls ih =>
    cases ls with
    | nil =>
      have hl : l ≠ [] := by simpa using h
      rw [dropLast_cons, if_neg fun hempty => hl hempty.1]
      rfl
    | cons k ls =>
      have hrest := ih (by simpa using h)
      rw [dropLast_cons, hrest, if_neg fun hempty => List.cons_ne_nil k ls hempty.2]

lemma dropLast_append_nil (ls : List (List Char)) :
    dropEmptyEnds.dropLast (ls ++ [[]]) = dropEmptyEnds.dropLast ls := by
  induction ls with
  | nil => rfl
  | cons l ls ih => rw [List.cons_append, dropLast_cons, dropLast_cons, ih]

lemma isInfix_dropEmptyEnds (ls : List (List Char)) : dropEmptyEnds ls <:+: ls :=
  (isPrefix_dropLast _).isInfix.trans (List.dropWhile_suffix _).isInfix

lemma head?_dropEmptyEnds (ls : List (List Char)) : (dropEmptyEnds ls).head? ≠ some [] := by
  intro hhead
  obtain ⟨back, hback⟩ := isPrefix_dropLast (ls.dropWhile List.isEmpty)
  have hfirst : (ls.dropWhile List.isEmpty).head? = some [] := by
    rw [← hback, List.head?_append, show (dropEmptyEnds.dropLast _).head? = some [] from hhead]
    rfl
  have hnot := List.head?_dropWhile_not List.isEmpty ls
  rw [hfirst] at hnot
  cases hnot

/-! ### Lines that are not empty -/

/-- The lines in which something stands. -/
def filled (ls : List (List Char)) : List (List Char) := ls.filter (!·.isEmpty)

lemma mem_filled : l ∈ filled ls ↔ l ∈ ls ∧ l ≠ [] := by
  simp [filled]

lemma filled_cons_nil : filled ([] :: ls) = filled ls := rfl

lemma filled_cons_of_ne (h : l ≠ []) : filled (l :: ls) = l :: filled ls :=
  List.filter_cons_of_pos (by simpa using h)

lemma filled_collapseEmpty (ls : List (List Char)) : filled (collapseEmpty ls) = filled ls := by
  induction ls with
  | nil => rfl
  | cons l ls ih =>
    by_cases hl : l = []
    · subst hl
      rw [collapseEmpty_cons_nil, filled_cons_nil, ← ih]
      split_ifs <;> rfl
    · rw [collapseEmpty_cons_of_ne hl, filled_cons_of_ne hl, filled_cons_of_ne hl, ih]

lemma filled_dropLast (ls : List (List Char)) :
    filled (dropEmptyEnds.dropLast ls) = filled ls := by
  induction ls with
  | nil => rfl
  | cons l ls ih =>
    rw [dropLast_cons]
    split_ifs with hempty
    · rw [hempty.1, filled_cons_nil, ← ih, hempty.2]
    · by_cases hl : l = []
      · rw [hl, filled_cons_nil, filled_cons_nil, ih]
      · rw [filled_cons_of_ne hl, filled_cons_of_ne hl, ih]

lemma filled_dropEmptyEnds (ls : List (List Char)) : filled (dropEmptyEnds ls) = filled ls := by
  have hstart : filled (ls.dropWhile List.isEmpty) = filled ls := by
    induction ls with
    | nil => rfl
    | cons l ls ih =>
      cases l with
      | nil => exact ih
      | cons c l => rfl
  exact (filled_dropLast _).trans hstart

end

/-! ### Tidy lines -/

/-- Lines without blanks at their ends. No two in a row are empty, nor is the first or the last. -/
structure AreTidy (ls : List (List Char)) : Prop where
  unbroken : ∀ l ∈ ls, IsUnbroken l
  trimmed : ∀ l ∈ ls, ∀ c ∈ l.getLast?, isBlank c = false
  apart : AreApart ls
  head : ls.head? ≠ some []
  last : ls.getLast? ≠ some []

variable {ls : List (List Char)} {cs : List Char}

lemma mem_joinLines {c : Char} (h : c ∈ joinLines ls) : c = '\n' ∨ ∃ l ∈ ls, c ∈ l := by
  induction ls with
  | nil => cases h
  | cons l ls ih =>
    cases ls with
    | nil => exact .inr ⟨l, List.mem_cons_self, by simpa [joinLines] using h⟩
    | cons k ls =>
      rw [joinLines, List.intercalate_cons_cons, List.mem_append, List.mem_append] at h
      rcases h with (h | h) | h
      · exact .inr ⟨l, List.mem_cons_self, h⟩
      · exact .inl (List.mem_singleton.1 h)
      · refine (ih h).imp_right fun ⟨l', hl', hc⟩ => ⟨l', List.mem_cons_of_mem _ hl', hc⟩

lemma joinLines_append_nil (hls : ls ≠ []) : joinLines (ls ++ [[]]) = joinLines ls ++ ['\n'] := by
  induction ls with
  | nil => exact absurd rfl hls
  | cons l ls ih =>
    cases ls with
    | nil => simp [joinLines]
    | cons k ls =>
      have hrest := ih (by simp)
      simp only [joinLines, List.cons_append, List.intercalate_cons_cons] at hrest ⊢
      rw [hrest, List.append_assoc, List.append_assoc, List.append_assoc]

lemma splitOn_joinLines (hls : ls ≠ []) (h : ∀ l ∈ ls, '\n' ∉ l) :
    (joinLines ls ++ ['\n']).splitOn '\n' = ls ++ [[]] := by
  rw [← joinLines_append_nil hls]
  refine List.splitOn_intercalate _ (fun l hl => ?_) (by simp)
  rcases List.mem_append.1 hl with hl | hl
  · exact h l hl
  · simp [List.mem_singleton.1 hl]

/-- The lines that tidying leaves are tidy. -/
lemma areTidy_tidyLines (h : '\r' ∉ cs) : AreTidy (tidyLines cs) := by
  have hkept : ∀ l ∈ tidyLines cs, ∃ piece ∈ cs.splitOn '\n', dropEndWhile isBlank piece = l := by
    intro l hl
    have hmem := (collapseEmpty_sublist _).subset ((isInfix_dropEmptyEnds _).subset hl)
    simpa using hmem
  constructor
  case unbroken =>
    intro l hl
    obtain ⟨piece, hpiece, rfl⟩ := hkept l hl
    have hsubset := (isPrefix_dropEndWhile isBlank piece).subset
    refine ⟨fun hmem => notMem_of_mem_splitOn hpiece (hsubset hmem), fun hmem => h ?_⟩
    exact subset_of_mem_splitOn hpiece (hsubset hmem)
  case trimmed =>
    intro l hl
    obtain ⟨piece, -, rfl⟩ := hkept l hl
    exact fun c hc => of_mem_getLast?_dropEndWhile hc
  case apart => exact List.IsChain.infix (areApart_collapseEmpty _) (isInfix_dropEmptyEnds _)
  case head => exact head?_dropEmptyEnds _
  case last => exact getLast?_dropLast _

/-- What stands in the lines of a text is left, each line without the blanks at its end. -/
lemma filled_tidyLines (cs : List Char) :
    filled (tidyLines cs) = filled ((cs.splitOn '\n').map (dropEndWhile isBlank)) := by
  rw [tidyLines, filled_dropEmptyEnds, filled_collapseEmpty]

lemma areTidy_of_full (h : ∀ l ∈ ls, IsFullLine l) : AreTidy ls where
  unbroken l hl := (h l hl).1
  trimmed l hl c hc := by
    obtain ⟨d, hd, hblank⟩ := (h l hl).ends
    rw [hd] at hc
    exact Option.some.inj hc ▸ hblank
  apart := (List.pairwise_of_forall_mem_list fun l hl _ _ => .inl (h l hl).ne_nil).isChain
  head heq := (h [] (List.mem_of_head? heq)).ne_nil rfl
  last heq := (h [] (List.mem_of_getLast? heq)).ne_nil rfl

namespace AreTidy

/-- Tidying changes nothing in tidy lines. -/
lemma tidyLines_joinLines (h : AreTidy ls) : tidyLines (joinLines ls ++ ['\n']) = ls := by
  by_cases hls : ls = []
  · subst hls
    rfl
  have htrimmed : (ls ++ [[]]).map (dropEndWhile isBlank) = (ls ++ [[]]).map fun l => l := by
    refine List.map_congr_left fun l hl => ?_
    rcases List.mem_append.1 hl with hl | hl
    · exact dropEndWhile_eq_self (h.trimmed l hl)
    · rw [List.mem_singleton.1 hl, dropEndWhile]
  have hapart : AreApart (ls ++ [[]]) := by
    refine List.isChain_append.2 ⟨h.apart, .singleton [], fun l hl _ _ => .inl ?_⟩
    rintro rfl
    exact h.last hl
  have hstart : (ls ++ [[]]).dropWhile List.isEmpty = ls ++ [[]] := by
    obtain ⟨l, rest, rfl⟩ := List.exists_cons_of_ne_nil hls
    have hl : l ≠ [] := by simpa using h.head
    exact List.dropWhile_cons_of_neg (by simpa using hl)
  rw [tidyLines, splitOn_joinLines hls fun l hl => (h.unbroken l hl).1, htrimmed, List.map_id',
    hapart.collapseEmpty_eq, dropEmptyEnds, hstart, dropLast_append_nil, dropLast_eq_self h.last]

lemma return_notMem (h : AreTidy ls) : '\r' ∉ joinLines ls ++ ['\n'] := by
  intro hmem
  rcases List.mem_append.1 hmem with hmem | hmem
  · rcases mem_joinLines hmem with heq | ⟨l, hl, hmem⟩
    · cases heq
    · exact (h.unbroken l hl).2 hmem
  · cases List.mem_singleton.1 hmem

end AreTidy

/-! ### Tidy texts -/

/-- A text of tidy lines is tidy as it is, in whatever file. -/
lemma tidy_joinLines (h : AreTidy ls) (path : String) :
    tidy (String.ofList (joinLines ls ++ ['\n'])) path =
      String.ofList (joinLines ls ++ ['\n']) := by
  rw [tidy, String.toList_ofList, unixLineEnds_eq_self h.return_notMem]
  split_ifs
  · rw [h.tidyLines_joinLines]
  · rfl
  · next hlast => exact absurd List.getLast?_concat hlast

/-- Tidying a tidied text changes nothing. -/
theorem tidy_tidy (contents path : String) :
    tidy (tidy contents path) path = tidy contents path := by
  have hreturn := return_notMem_unixLineEnds contents.toList
  by_cases hsource : sourceSuffixes.any (hasSuffix · path) = true
  · have htidy : tidy contents path =
        String.ofList (joinLines (tidyLines (unixLineEnds contents.toList)) ++ ['\n']) :=
      if_pos hsource
    rw [htidy, tidy_joinLines (areTidy_tidyLines hreturn)]
  · have hfixed : ∀ cs, '\r' ∉ cs → cs.getLast? = some '\n' →
        tidy (String.ofList cs) path = String.ofList cs := by
      intro cs hcs hlast
      rw [tidy, String.toList_ofList, unixLineEnds_eq_self hcs, if_neg hsource, if_pos hlast]
    rw [show tidy contents path = _ from if_neg hsource]
    split_ifs with hlast
    · exact hfixed _ hreturn hlast
    · exact hfixed _ (by simp [hreturn]) List.getLast?_concat

variable {rows : List String}

lemma toList_unlines (rows : List String) :
    (unlines rows ++ "\n").toList = joinLines (rows.map String.toList) ++ ['\n'] := by
  rw [String.toList_append, unlines, String.toList_intercalate]
  rfl

/-- The lines of a text that was put together from lines. -/
theorem lines_unlines (hrows : rows ≠ []) (h : ∀ row ∈ rows, '\n' ∉ row.toList) :
    lines (unlines rows ++ "\n") = rows ++ [""] := by
  rw [lines, toList_unlines, splitOn_joinLines (by simpa using hrows) (by simpa using h)]
  simp

/-- A text of full lines is tidy as it is, in whatever file. -/
theorem tidy_unlines (h : ∀ row ∈ rows, IsFullLine row.toList) (path : String) :
    tidy (unlines rows ++ "\n") path = unlines rows ++ "\n" := by
  have hfull : ∀ l ∈ rows.map String.toList, IsFullLine l := by simpa using h
  have htext : unlines rows ++ "\n" =
      String.ofList (joinLines (rows.map String.toList) ++ ['\n']) := by
    rw [← toList_unlines, String.ofList_toList]
  rw [htext, tidy_joinLines (areTidy_of_full hfull)]

end Screenwright.Text
