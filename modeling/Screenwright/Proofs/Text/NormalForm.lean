import Screenwright.Proofs.Text.Replacing
import Screenwright.Proofs.Text.Tidying

/-! The normal form of generated files, as their texts show it: a tidied source file is in it, says
line by line what the file said before, and is not changed when it is tidied again. -/
namespace Screenwright.Text

/-- The lines of a text that are ended by line feeds. -/
def endedLines (s : String) : List String := (lines s).dropLast

/-- The lines of a text that are not blank. -/
def inkedLines (s : String) : List String := (lines s).filter hasInk

/-- Texts of source files in normal form. The only one that starts with a line feed is that of a
file without text. -/
structure IsTidy (s : String) : Prop where
  unix : '\r' ∉ s.toList
  trimmed : ∀ l ∈ lines s, ∀ c ∈ l.toList.getLast?, isBlank c = false
  apart : (endedLines s).IsChain fun l l' => hasInk l = true ∨ hasInk l' = true
  start : s.toList.head? = some '\n' → s = "\n"
  stop : ∃ body, s = body ++ "\n" ∧ body.toList.getLast? ≠ some '\n'

/-! ### Lines with ink -/

/-- Lines are blank if nothing is left of them without the blanks at their ends. -/
lemma hasInk_ofList (l : List Char) :
    hasInk (String.ofList l) = !(dropEndWhile isBlank l).isEmpty := by
  rw [hasInk, String.toList_ofList]
  induction l with
  | nil => rfl
  | cons c l ih =>
    cases hc : isBlank c with
    | false => rw [List.any_cons, hc, dropEndWhile_cons_of_not hc]; rfl
    | true =>
      rw [List.any_cons, hc, ih, dropEndWhile_cons_of hc]
      split_ifs with hrest
      · rw [hrest]; rfl
      · simp [hrest]

/-- What tidying leaves are the lines that are not blank, without the blanks at their ends. -/
lemma map_stripEnd_inkedLines (s : String) :
    (inkedLines s).map stripEnd = (filled (tidyLines s.toList)).map String.ofList := by
  have hinked : inkedLines s = ((s.toList.splitOn '\n').filter fun l =>
      !(dropEndWhile isBlank l).isEmpty).map String.ofList := by
    rw [inkedLines, lines, List.filter_map]
    exact congrArg (List.map String.ofList) (List.filter_congr fun l _ => hasInk_ofList l)
  rw [hinked, filled_tidyLines, filled, List.filter_map, List.map_map, List.map_map]
  refine List.map_congr_left fun l _ => ?_
  simp [stripEnd]

/-! ### Texts of tidy lines -/

section
variable {ls : List (List Char)} {s : String}

lemma isTidy_newline : IsTidy "\n" where
  unix := by decide
  trimmed l hl c hc := by
    have hlines : lines "\n" = ["", ""] := rfl
    have hempty : l = "" := by simpa [hlines] using hl
    rw [hempty] at hc
    cases hc
  apart := .singleton ""
  start _ := rfl
  stop := ⟨"", rfl, by decide⟩

lemma AreTidy.isTidy (h : AreTidy ls) : IsTidy (String.ofList (joinLines ls ++ ['\n'])) := by
  by_cases hls : ls = []
  · subst hls
    exact isTidy_newline
  have hlines : lines (String.ofList (joinLines ls ++ ['\n'])) = ls.map String.ofList ++ [""] := by
    rw [lines, String.toList_ofList, splitOn_joinLines hls fun l hl => (h.unbroken l hl).1,
      List.map_append]
    rfl
  have hink : ∀ l ∈ ls, l ≠ [] → hasInk (String.ofList l) = true := by
    intro l hl hne
    rw [hasInk_ofList, dropEndWhile_eq_self (h.trimmed l hl)]
    simpa using hne
  constructor
  case unix => simpa using h.return_notMem
  case trimmed =>
    rw [hlines]
    intro l hl
    rcases List.mem_append.1 hl with hl | hl
    · obtain ⟨chars, hchars, rfl⟩ := List.mem_map.1 hl
      rw [String.toList_ofList]
      exact h.trimmed chars hchars
    · intro c hc
      rw [List.mem_singleton.1 hl] at hc
      cases hc
  case apart =>
    rw [endedLines, hlines, List.dropLast_concat, List.isChain_map]
    refine h.apart.imp_of_mem_imp fun l l' hl hl' hapart => ?_
    exact hapart.imp (hink l hl) (hink l' hl')
  case start =>
    intro hstart
    obtain ⟨l, rest, rfl⟩ := List.exists_cons_of_ne_nil hls
    obtain ⟨c, cs, rfl⟩ := List.exists_cons_of_ne_nil (show l ≠ [] by simpa using h.head)
    have hfirst : ((c :: cs) :: rest).head? = some (c :: cs) := rfl
    obtain ⟨back, hback⟩ := prefix_intercalate ['\n'] hfirst
    rw [String.toList_ofList, joinLines, ← hback] at hstart
    have hc : c = '\n' := by simpa using hstart
    exact absurd (hc ▸ List.mem_cons_self) (h.unbroken _ List.mem_cons_self).1
  case stop =>
    refine ⟨String.ofList (joinLines ls), String.ofList_append, ?_⟩
    obtain ⟨l, hl⟩ := Option.ne_none_iff_exists'.1 (List.getLast?_eq_none_iff.not.2 hls)
    have hne : l ≠ [] := fun heq => h.last (heq ▸ hl)
    obtain ⟨front, hfront⟩ := suffix_intercalate ['\n'] hl
    rw [String.toList_ofList, joinLines, ← hfront, List.getLast?_append_of_ne_nil _ hne]
    exact fun hlast => (h.unbroken l (List.mem_of_getLast? hl)).1 (List.mem_of_getLast? hlast)

/-- Nothing is to be stripped from the lines of a text in normal form. -/
lemma IsTidy.map_stripEnd (h : IsTidy s) : (inkedLines s).map stripEnd = inkedLines s := by
  have hsame : ∀ l ∈ inkedLines s, stripEnd l = l := by
    intro l hl
    have hkept := dropEndWhile_eq_self (h.trimmed l (List.mem_filter.1 hl).1)
    rw [stripEnd, hkept, String.ofList_toList]
  rw [List.map_congr_left hsame, List.map_id']

end

/-- A text is tidied once: nothing changes when it is tidied again. In source files the result is in
normal form, and its lines that are not blank are those of the text, with the line ends of this
system and without the blanks at their ends. -/
theorem tidy_normalForm (contents path : String) :
    tidy (tidy contents path) path = tidy contents path ∧
    ((∃ suffix ∈ sourceSuffixes, suffix.toList <:+ path.toList) →
      IsTidy (tidy contents path) ∧
      inkedLines (tidy contents path) =
        (inkedLines (replaceAll "\r" "\n" (replaceAll "\r\n" "\n" contents))).map stripEnd) := by
  refine ⟨tidy_tidy contents path, fun ⟨suffix, hmem, hsuffix⟩ => ?_⟩
  have hsource : sourceSuffixes.any (hasSuffix · path) = true :=
    List.any_eq_true.2 ⟨suffix, hmem, List.isSuffixOf_iff_suffix.2 hsuffix⟩
  have htidy : tidy contents path =
      String.ofList (joinLines (tidyLines (unixLineEnds contents.toList)) ++ ['\n']) :=
    if_pos hsource
  have hlines := areTidy_tidyLines (return_notMem_unixLineEnds contents.toList)
  have hnormal : IsTidy (tidy contents path) := htidy ▸ hlines.isTidy
  refine ⟨hnormal, ?_⟩
  rw [← hnormal.map_stripEnd, map_stripEnd_inkedLines, map_stripEnd_inkedLines,
    ← unixLineEnds_eq_replaceAll, htidy, String.toList_ofList, String.toList_ofList,
    hlines.tidyLines_joinLines]

/-- Line ends of three systems, blanks that are no spaces, and lines of blanks. -/
theorem tidy_normalForm_script :
    (∃ suffix ∈ sourceSuffixes, suffix.toList <:+ "a.d.ts".toList) ∧
    IsTidy (tidy "\r\n\n  a\t \r\r\n \u2028\nb\u001c" "a.d.ts") ∧
    inkedLines (tidy "\r\n\n  a\t \r\r\n \u2028\nb\u001c" "a.d.ts") = ["  a", "b"] := by
  have hsource : ∃ suffix ∈ sourceSuffixes, suffix.toList <:+ "a.d.ts".toList :=
    ⟨".ts", by decide, by decide⟩
  obtain ⟨htidy, hlines⟩ :=
    (tidy_normalForm "\r\n\n  a\t \r\r\n \u2028\nb\u001c" "a.d.ts").2 hsource
  exact ⟨hsource, htidy, hlines.trans (by decide +kernel)⟩

end Screenwright.Text
