import Screenwright.Proofs.Emit.Assembly

/-! What plain markup is put together from. The elements of container types hold the renderings of
all their children, and only headings, tables and plugins can fail. -/
namespace Screenwright.Emit.Markup
open Text (Keeps)

section
variable {d : Dialect} {s : Screen} {e : Element} {tag body : String} {x : Extras}

lemma keeps_inline : Keeps body (inline d s e tag x body) :=
  ((Keeps.refl body).append_left _).append_right _

/-- The body of an element on one line is followed by its closing tag. -/
lemma keeps_inline_closed : Keeps (body ++ "<") (inline d s e tag x body) := keeps_closed

lemma keeps_block : Keeps body (block d s e tag x body) := by
  unfold block
  split_ifs
  · exact keeps_inline
  · exact (((Keeps.refl body).indent 2).append_left _).append_right _

lemma keeps_part {css : Fields String} {attrs : List String} :
    Keeps body (part d tag css attrs body) := by
  unfold part
  dsimp only
  split_ifs
  · exact (((Keeps.refl body).indent 2).append_left _).append_right _
  · exact ((Keeps.refl body).append_left _).append_right _

lemma keeps_joinPresent {ts : List String} {t : String} (h : t ∈ ts) :
    Keeps t (joinPresent ts) := by
  by_cases ht : t = ""
  · rw [ht]
    exact Keeps.of_empty _
  · exact (Keeps.refl t).intercalate "\n" (List.mem_filter.2 ⟨h, by simpa using ht⟩)

lemma keeps_modal {children : String} : Keeps children (modal d s e children) :=
  (keeps_joinPresent (by simp)).trans keeps_block

lemma keeps_nav {children : String} : Keeps children (nav d s e children) := by
  by_cases h : children = ""
  · rw [h]
    exact Keeps.of_empty _
  · refine Keeps.trans ?_ keeps_block
    rw [if_neg h]
    exact (Keeps.refl children).intercalate "\n" (by simp)

/-- A panel for each child. -/
lemma keeps_tabs {children : List String} {t : String} (h : t ∈ children) :
    Keeps t (tabs d s e children) := by
  obtain ⟨i, hi, rfl⟩ := List.getElem_of_mem h
  have hpanel : (children[i], i) ∈ children.zipIdx :=
    List.mem_zipIdx_iff_getElem?.2 (List.getElem?_eq_getElem hi)
  refine Keeps.trans ?_ keeps_block
  exact Keeps.intercalate "\n" keeps_part
    (List.mem_cons_of_mem _ (List.mem_map_of_mem hpanel))

lemma breaks_table :
    Breaks (table d s e) ↔ s.state.fetchFor? e.id = none ∧ Breaks (tableRows e) := by
  unfold table
  dsimp only
  cases hfetch : s.state.fetchFor? e.id with
  | some f => simp [bind, Except.bind, pure, Except.pure]
  | none =>
    dsimp only
    rw [breaks_bind_of_ok, rowsAtHand, breaks_mapError]
    · simp
    · intro rows
      split <;> exact breaks_ok _

/-- An element of a container type holds all its children. -/
lemma assembles_container {t : BuiltinType} (ht : t.isContainer = true)
    (children : List (Except EmitError String)) :
    Assembles False children (builtin d s t e children) := by
  cases t with
  | stack | grid | sectionBox | scrollArea | box | card | form =>
    exact assembles_around fun _ => keeps_block
  | modal => exact assembles_around fun _ => keeps_modal
  | nav => exact assembles_around fun _ => keeps_nav
  | tabs =>
    refine assembles_mapM (by simp [pure, Except.pure]) fun ts text h t ht => ?_
    rw [← Except.ok.inj h]
    exact keeps_tabs ht
  | _ => cases ht

/-- Of the elements of other types, headings and tables can fail. -/
lemma breaks_leaf {t : BuiltinType} (ht : t.isContainer = false)
    (children : List (Except EmitError String)) :
    Breaks (builtin d s t e children) ↔ t = .heading ∧ Breaks (headingLevel e) ∨
      t = .dataTable ∧ s.state.fetchFor? e.id = none ∧ Breaks (tableRows e) := by
  cases t with
  | heading =>
    have hlevel : Breaks (builtin d s .heading e children) ↔ Breaks (headingLevel e) :=
      breaks_bind_pure _ _
    rw [hlevel]
    simp
  | dataTable =>
    have htable : Breaks (builtin d s .dataTable e children) ↔ _ := breaks_table
    rw [htable]
    simp
  | spacer | text | image | input | link | divider | list | icon | button =>
    exact iff_of_false (breaks_ok _) (by simp)
  | _ => cases ht

lemma assembles_builtin (hd : d.framework ≠ .expo) (t : BuiltinType)
    (children : List (Except EmitError String)) :
    Assembles (BuiltinFaulty d.framework s t e) (heldChildren d.framework t children)
      (builtin d s t e children) := by
  cases ht : t.isContainer with
  | true =>
    rw [heldChildren_of_container ht (.inl hd)]
    refine (assembles_container ht children).congr ?_
    rw [builtinFaulty_of_container ht]
    exact (iff_false_intro (not_lacksOverrides hd)).symm
  | false =>
    rw [heldChildren_of_not_container ht]
    refine assembles_alone ?_
    rw [breaks_leaf ht, BuiltinFaulty, or_iff_right (not_lacksOverrides hd)]

end

/-! ### Elements and trees -/

section
variable {d : Dialect} {s : Screen} {e : Element}

lemma assembles_unconditional (hd : d.framework ≠ .expo)
    (children : List (Except EmitError String)) :
    Assembles (Faulty d.framework s e) (shownChildren d.framework s.plugins e children)
      (unconditional d s e children) := by
  unfold unconditional shownChildren
  cases hkind : NodeKind.classify e.type e.props with
  | reference ref =>
    refine assembles_alone ?_
    rw [faulty_reference hkind]
    exact iff_of_false (breaks_ok _) (not_lacksOverrides hd)
  | builtin t => exact (assembles_builtin hd t children).congr (faulty_builtin hkind).symm
  | other tag =>
    cases hplugin : s.plugins.get? e.type with
    | some p =>
      refine assembles_alone ?_
      rw [faulty_plugin hkind hplugin]
    | none =>
      refine (assembles_around fun _ => keeps_block).congr ?_
      rw [faulty_other hkind hplugin]
      exact (iff_false_intro (not_lacksOverrides hd)).symm

/-- The markup of an element, within its conditions if it has any. -/
lemma element_eq (children : List (Except EmitError String)) :
    element d s e children = unconditional d s e children >>= fun markup =>
      pure (match conditions d.quote s.state e with
        | [] => markup
        | cs => d.conditional s.state e cs markup) := by
  unfold element
  cases conditions d.quote s.state e <;> rfl

lemma renderAll_eq_map (cs : List Node) : renderAll d s cs = cs.map (render d s) := by
  induction cs with
  | nil => rfl
  | cons c cs ih => rw [renderAll, ih, List.map_cons]

section
variable (hconditional : ∀ state e cs markup, Keeps markup (d.conditional state e cs markup))
include hconditional

lemma keeps_conditions (markup : String) : Keeps markup (match conditions d.quote s.state e with
    | [] => markup
    | cs => d.conditional s.state e cs markup) := by
  split
  · exact Keeps.refl markup
  · exact hconditional _ _ _ _

lemma assembles_element (hd : d.framework ≠ .expo) (children : List (Except EmitError String)) :
    Assembles (Faulty d.framework s e) (shownChildren d.framework s.plugins e children)
      (element d s e children) := by
  rw [element_eq]
  exact (assembles_unconditional hd children).around (keeps_conditions hconditional)

theorem draws_render (hd : d.framework ≠ .expo) : Draws d.framework s (render d s) := by
  intro n
  rw [← shownChildren_map]
  cases n with
  | leaf e => exact assembles_element hconditional hd []
  | branch e cs =>
    rw [render, renderAll_eq_map]
    exact assembles_element hconditional hd _

/-- An element of the text type holds its text, escaped, in front of its closing tag. -/
theorem keeps_text {n : Node} (htype : NodeKind.classify n.head.type n.head.props = .builtin .text)
    {text : String} (htext : render d s n = .ok text) :
    Keeps (d.escape (propText n.head "text") ++ "<") text := by
  have hrender : ∃ children, render d s n = element d s n.head children := by
    cases n <;> exact ⟨_, rfl⟩
  obtain ⟨children, hrender⟩ := hrender
  rw [hrender, element_eq, unconditional, htype] at htext
  rw [← Except.ok.inj htext]
  exact keeps_inline_closed.trans (keeps_conditions hconditional _)

end
end
end Screenwright.Emit.Markup
