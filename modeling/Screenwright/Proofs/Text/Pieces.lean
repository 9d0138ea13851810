import Screenwright.Proofs.Text.Tidying

/-! Pieces of a text that lie within one line. They are found again when the text is moved to the
right, put between other texts, or tidied. -/
namespace Screenwright.Text

/-! ### Texts that keep the pieces of others -/

/-- Every piece within a line of the first text is a piece of the second. -/
def Keeps (part whole : String) : Prop :=
  ∀ piece : List Char, '\n' ∉ piece → piece <:+: part.toList → piece <:+: whole.toList

namespace Keeps
variable {part middle whole : String}

lemma refl (t : String) : Keeps t t := fun _ _ h => h

lemma trans (h : Keeps part middle) (h' : Keeps middle whole) : Keeps part whole :=
  fun piece hpiece hpart => h' piece hpiece (h piece hpiece hpart)

lemma append_left (h : Keeps part whole) (front : String) : Keeps part (front ++ whole) := by
  intro piece hpiece hpart
  rw [String.toList_append]
  exact (h piece hpiece hpart).trans (List.suffix_append _ _).isInfix

lemma append_right (h : Keeps part whole) (back : String) : Keeps part (whole ++ back) := by
  intro piece hpiece hpart
  rw [String.toList_append]
  exact (h piece hpiece hpart).trans (List.prefix_append _ _).isInfix

lemma of_empty (whole : String) : Keeps "" whole := by
  intro piece _ hpart
  rw [List.infix_nil.1 hpart]
  exact List.nil_infix

lemma intercalate (between : String) {parts : List String} (h : Keeps part middle)
    (hmem : middle ∈ parts) : Keeps part (between.intercalate parts) := by
  intro piece hpiece hpart
  rw [String.toList_intercalate]
  exact (h piece hpiece hpart).trans (infix_intercalate _ (List.mem_map_of_mem hmem))

lemma indent (h : Keeps part whole) (width : Nat) : Keeps part (Text.indent width whole) := by
  intro piece hpiece hpart
  have hwhole := h piece hpiece hpart
  have hlines : ['\n'].intercalate (whole.toList.splitOn '\n') = whole.toList :=
    List.intercalate_splitOn '\n'
  rw [← hlines] at hwhole
  rcases infix_of_intercalate hpiece hwhole with rfl | ⟨l, hl, hpiece'⟩
  · exact List.nil_infix
  rw [Text.indent, unlines, String.toList_intercalate]
  refine (hpiece'.trans ?_).trans (infix_intercalate _ (List.mem_map_of_mem
    (List.mem_map_of_mem (List.mem_map_of_mem hl))))
  split_ifs
  · rw [String.toList_append, String.toList_ofList]
    exact (List.suffix_append _ _).isInfix
  · exact String.toList_ofList.symm ▸ List.infix_refl l

end Keeps

/-! ### Tidied texts -/

section
variable {piece : List Char}

lemma prefix_unixLineEnds (hpiece : IsUnbroken piece) {cs : List Char} (h : piece <+: cs) :
    piece <+: unixLineEnds cs := by
  obtain ⟨back, rfl⟩ := h
  induction piece with
  | nil => exact List.nil_prefix
  | cons c piece ih =>
    obtain ⟨hc, hpiece⟩ := isUnbroken_append.1 (show IsUnbroken ([c] ++ piece) from hpiece)
    have hne : c ≠ '\r' := by
      rintro rfl
      exact hc.2 (List.mem_singleton_self _)
    rw [List.cons_append, unixLineEnds]
    · exact List.cons_prefix_cons.2 ⟨rfl, ih hpiece⟩
    · exact fun _ heq => absurd heq hne
    · exact hne

lemma infix_unixLineEnds (hpiece : IsUnbroken piece) {cs : List Char} (h : piece <:+: cs) :
    piece <:+: unixLineEnds cs := by
  have hline : ∀ {c : Char} {rest : List Char}, c = '\n' ∨ c = '\r' → piece <:+: c :: rest →
      piece <:+: rest := by
    intro c rest hc h
    refine (List.infix_cons_iff.1 h).elim (fun hprefix => ?_) id
    cases piece with
    | nil => exact List.nil_infix
    | cons d piece =>
      obtain rfl := (List.cons_prefix_cons.1 hprefix).1
      rcases hc with rfl | rfl
      · exact absurd List.mem_cons_self hpiece.1
      · exact absurd List.mem_cons_self hpiece.2
  induction cs using unixLineEnds.induct with
  | case1 => exact h
  | case2 rest ih =>
    rw [unixLineEnds]
    exact List.infix_cons (ih (hline (.inl rfl) (hline (.inr rfl) h)))
  | case3 rest hrest ih =>
    rw [unixLineEnds]
    · exact List.infix_cons (ih (hline (.inr rfl) h))
    · exact hrest
  | case4 c rest hc hc' ih =>
    rcases List.infix_cons_iff.1 h with h | h
    · exact (prefix_unixLineEnds hpiece h).isInfix
    · rw [unixLineEnds]
      · exact List.infix_cons (ih h)
      · exact hc
      · exact hc'

/-- A piece that does not end in blanks stays when the blanks at the end of its line are dropped. -/
lemma infix_dropEndWhile {p : Char → Bool} {c : Char} (hlast : piece.getLast? = some c)
    (hc : p c = false) {l : List Char} (h : piece <:+: l) : piece <:+: dropEndWhile p l := by
  obtain ⟨before, after, rfl⟩ := h
  have hkeep : ∀ front : List Char, front.getLast? = some c →
      front <+: dropEndWhile p (front ++ after) := by
    intro front hfront
    induction front with
    | nil => exact List.nil_prefix
    | cons d front ih =>
      cases front with
      | nil =>
        obtain rfl : d = c := by simpa using hfront
        rw [List.singleton_append, dropEndWhile]
        split
        · rw [hc]
          exact List.prefix_refl _
        · exact List.prefix_append [d] _
      | cons e front =>
        have hrest := ih (by simpa using hfront)
        rw [List.cons_append, dropEndWhile]
        cases hkept : dropEndWhile p (e :: front ++ after) with
        | nil => exact absurd (List.prefix_nil.1 (hkept ▸ hrest)) (List.cons_ne_nil e front)
        | cons k kept => exact List.cons_prefix_cons.2 ⟨rfl, hkept ▸ hrest⟩
  have hfront := hkeep (before ++ piece) (by simp [List.getLast?_append, hlast])
  exact (List.suffix_append before piece).isInfix.trans hfront.isInfix

/-- A piece that does not end in a blank is still there when the text is tidied. -/
theorem infix_tidy (hpiece : IsFullLine piece) {contents : String}
    (h : piece <:+: contents.toList) (path : String) :
    piece <:+: (tidy contents path).toList := by
  obtain ⟨c, hlast, hblank⟩ := hpiece.ends
  have hunix := infix_unixLineEnds hpiece.1 h
  rw [tidy]
  split_ifs
  · have hlines : ['\n'].intercalate ((unixLineEnds contents.toList).splitOn '\n') =
        unixLineEnds contents.toList := List.intercalate_splitOn '\n'
    rw [← hlines] at hunix
    obtain ⟨l, hl, hunix⟩ := (infix_of_intercalate hpiece.1.1 hunix).resolve_left hpiece.ne_nil
    have hline := infix_dropEndWhile hlast hblank hunix
    have hne : dropEndWhile isBlank l ≠ [] := by
      intro hnil
      rw [hnil] at hline
      exact hpiece.ne_nil (List.infix_nil.1 hline)
    have hmem := mem_filled.2 ⟨List.mem_map_of_mem hl, hne⟩
    rw [← filled_tidyLines] at hmem
    have hkept := infix_intercalate ['\n'] (mem_filled.1 hmem).1
    rw [String.toList_ofList]
    exact (hline.trans hkept).trans (List.prefix_append _ _).isInfix
  · rw [String.toList_ofList]
    exact hunix
  · rw [String.toList_ofList]
    exact hunix.trans (List.prefix_append _ _).isInfix

end
end Screenwright.Text
