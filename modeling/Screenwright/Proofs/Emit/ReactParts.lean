import Screenwright.Proofs.Emit.Assembly

/-! What the markup of the React targets is put together from. -/
namespace Screenwright.Emit
open Text (Keeps)

section
variable {tag body : String} {attrs : List String}

lemma keeps_jsxElement : Keeps body (jsxElement tag attrs body) := by
  unfold jsxElement
  split_ifs with h
  · rw [h]
    exact Keeps.of_empty _
  · exact (((Keeps.refl body).indent 2).append_left _).append_right _

/-- The body of an element on one line is followed by its closing tag. -/
lemma keeps_jsxInline (hbody : body ≠ "") : Keeps (body ++ "<") (jsxInline tag attrs body) := by
  rw [jsxInline, if_neg hbody]
  exact keeps_closed

lemma keeps_jsxConditional {cs : List String} : Keeps body (jsxConditional cs body) := by
  unfold jsxConditional braced
  have hinner : Keeps body (" && ".intercalate cs ++ " && (\n" ++ Text.indent 2 body ++ "\n)") :=
    (((Keeps.refl body).indent 2).append_left _).append_right _
  exact (hinner.append_left _).append_right _

/-- Markup within its conditions, if it has any. -/
def conditioned (cs : List String) (markup : String) : String :=
  match cs with
  | [] => markup
  | cs => jsxConditional cs markup

lemma keeps_conditioned (cs : List String) : Keeps body (conditioned cs body) := by
  unfold conditioned
  split
  · exact Keeps.refl body
  · exact keeps_jsxConditional

lemma not_breaks_of_value {α : Type} {x : Emission α} {a : α} (h : x.value = .ok a) :
    ¬ Breaks x.value := by
  rw [h]
  exact breaks_ok a

/-- The click of a React target does not fail when going to a route does not. -/
lemma not_breaks_click {d : ReactDialect} (hd : ∀ route, ¬ Breaks (d.navigate route).value)
    (e : Element) : ¬ Breaks (Jsx.clickHandler? d e).value := by
  unfold Jsx.clickHandler?
  split
  · exact breaks_ok _
  · split
    · exact Emission.not_breaks_value_bind (hd _) fun _ => breaks_ok _
    · exact breaks_ok _
    · exact breaks_ok _
    · exact breaks_ok _

end

/-! ### Next.js -/

namespace Nextjs
variable {p : Page} {e : Element} {tag body text : String} {x : Extras}

/-- The attributes of an element do not fail, whatever its body. -/
lemma exists_block (p : Page) (e : Element) (tag : String) (x : Extras) :
    ∃ attrs, ∀ body, (block p e tag x body).value = .ok (jsxElement tag attrs body) := by
  obtain ⟨handler, hclick⟩ := exists_ok_of_not_breaks
    (not_breaks_click (d := dialect) (fun _ => breaks_ok _) e)
  have hattributes : ∃ attrs, (attributes p e x).value = .ok attrs := by
    unfold attributes
    dsimp only
    rw [Emission.value_bind, hclick]
    exact ⟨_, rfl⟩
  obtain ⟨attrs, hattrs⟩ := hattributes
  refine ⟨attrs, fun body => ?_⟩
  rw [block, Emission.value_bind, hattrs]
  rfl

lemma not_breaks_block : ¬ Breaks (block p e tag x body).value := by
  obtain ⟨attrs, h⟩ := exists_block p e tag x
  exact not_breaks_of_value (h body)

lemma keeps_block (h : (block p e tag x body).value = .ok text) : Keeps body text := by
  obtain ⟨attrs, hblock⟩ := exists_block p e tag x
  rw [hblock] at h
  rw [← Except.ok.inj h]
  exact keeps_jsxElement

lemma not_breaks_inline : ¬ Breaks (inline p e tag x body).value := by
  obtain ⟨handler, hclick⟩ := exists_ok_of_not_breaks
    (not_breaks_click (d := dialect) (fun _ => breaks_ok _) e)
  unfold inline attributes
  dsimp only
  rw [Emission.value_bind, Emission.value_bind, hclick]
  exact breaks_ok _

lemma keeps_inline_closed (hbody : body ≠ "") (h : (inline p e tag x body).value = .ok text) :
    Keeps (body ++ "<") text := by
  obtain ⟨attrs, -, h⟩ := Emission.value_bind_eq_ok_iff.1 h
  rw [← Except.ok.inj h]
  exact keeps_jsxInline hbody

lemma not_breaks_component (p : Page) (e : Element) : ¬ Breaks (component? p e).value := by
  unfold component?
  split
  · exact breaks_ok _
  · rw [Emission.value_map]
    exact breaks_ok _

lemma not_breaks_input : ¬ Breaks (input p e).value := by
  refine Emission.not_breaks_value_bind (not_breaks_component p e) fun c => ?_
  dsimp only
  split_ifs <;> exact not_breaks_block

lemma not_breaks_divider : ¬ Breaks (divider p e).value := by
  refine Emission.not_breaks_value_bind (not_breaks_component p e) fun c => ?_
  cases c <;> exact not_breaks_block

lemma not_breaks_icon : ¬ Breaks (icon p e).value := by
  unfold icon
  dsimp only
  by_cases hname : isIconName (propText e "name" "Star") = true
  · rw [if_pos hname]
    exact Emission.not_breaks_value_bind (breaks_ok _) fun _ => not_breaks_block
  · rw [if_neg hname]
    exact not_breaks_inline

lemma not_breaks_button : ¬ Breaks (button p e).value := by
  refine Emission.not_breaks_value_bind (not_breaks_component p e) fun c => ?_
  cases c <;> exact not_breaks_inline

lemma breaks_table :
    Breaks (table p e).value ↔ p.state.fetchFor? e.id = none ∧ Breaks (tableRows e) := by
  unfold table
  dsimp only
  cases hfetch : p.state.fetchFor? e.id with
  | some f =>
    dsimp only
    refine iff_of_false ?_ (by simp)
    exact Emission.not_breaks_value_bind (breaks_ok _) fun _ => not_breaks_block
  | none =>
    dsimp only
    rw [Emission.value_bind, Emission.value_ofExcept, breaks_bind_of_ok, rowsAtHand,
      breaks_mapError]
    · simp
    · intro rows
      split
      · exact Emission.not_breaks_value_bind (breaks_ok _) fun _ => not_breaks_block
      · exact Emission.not_breaks_value_bind (breaks_ok _) fun _ => not_breaks_block

/-- A panel for each child. -/
lemma keeps_tabs {children : List String} {t : String} (h : t ∈ children)
    (htext : (tabs p e children).value = .ok text) : Keeps t text := by
  obtain ⟨i, hi, rfl⟩ := List.getElem_of_mem h
  have hpanel : (children[i], i) ∈ children.zipIdx :=
    List.mem_zipIdx_iff_getElem?.2 (List.getElem?_eq_getElem hi)
  unfold tabs at htext
  dsimp only at htext
  refine Keeps.trans ?_ (keeps_block htext)
  refine Keeps.intercalate "\n" ?_ (List.mem_cons_of_mem _ (List.mem_map_of_mem hpanel))
  exact (((Keeps.refl children[i]).indent 2).append_left _).append_right _

lemma not_breaks_nav {children : String} : ¬ Breaks (nav p e children).value := by
  unfold nav
  dsimp only
  split_ifs
  all_goals
    first
    | exact not_breaks_block
    | exact Emission.not_breaks_value_bind (breaks_ok _) fun _ => not_breaks_block

lemma keeps_modal {children : String} (h : (modal p e children).value = .ok text) :
    Keeps children text := by
  unfold modal at h
  dsimp only at h
  refine Keeps.trans ?_ (keeps_block h)
  by_cases hempty : children = ""
  · rw [hempty]
    exact Keeps.of_empty _
  · rw [if_neg hempty]
    exact (Keeps.refl children).append_left _

lemma keeps_nav {children : String} (h : (nav p e children).value = .ok text) :
    Keeps children text := by
  by_cases hempty : children = ""
  · rw [hempty]
    exact Keeps.of_empty _
  have hlast : ∀ links : List String,
      Keeps children ("\n".intercalate (links ++ [children])) := fun links =>
    (Keeps.refl children).intercalate "\n" (by simp)
  unfold nav at h
  simp only [if_neg hempty] at h
  by_cases hitems : (!(navItems e).isEmpty) = true
  · rw [if_pos hitems] at h
    obtain ⟨-, -, h⟩ := Emission.value_bind_eq_ok_iff.1 h
    exact (hlast _).trans (keeps_block h)
  · rw [if_neg hitems] at h
    exact (hlast _).trans (keeps_block h)

/-- The rendering of the joined children, put into an element. -/
lemma assembles_children {build : String → Emission String}
    (hbreaks : ∀ t, ¬ Breaks (build t).value)
    (hkeeps : ∀ t text, (build t).value = .ok text → Keeps t text)
    (children : List (Emission String)) :
    Assembles False (children.map Emission.value) (Emission.join children >>= build).value := by
  rw [Emission.value_bind, Emission.value_join]
  exact assembles_join (fun t => iff_false_intro (hbreaks t)) hkeeps

/-- An element of a container type holds all its children. -/
lemma assembles_container {t : BuiltinType} (ht : t.isContainer = true)
    (children : List (Emission String)) :
    Assembles False (children.map Emission.value) (builtin p t e children).value := by
  obtain ⟨component, hcomponent⟩ := exists_ok_of_not_breaks (not_breaks_component p e)
  cases t with
  | stack | grid | sectionBox | box | form =>
    exact assembles_children (fun _ => not_breaks_block) (fun _ _ => keeps_block) children
  | scrollArea =>
    unfold builtin
    dsimp only
    rw [Emission.value_bind, hcomponent]
    cases component with
    | none => exact assembles_children (fun _ => not_breaks_block) (fun _ _ => keeps_block) children
    | some tag =>
      exact assembles_children (fun _ => not_breaks_block) (fun _ _ => keeps_block) children
  | card =>
    unfold builtin
    dsimp only
    rw [Emission.value_bind, hcomponent]
    cases component with
    | none => exact assembles_children (fun _ => not_breaks_block) (fun _ _ => keeps_block) children
    | some tag =>
      exact assembles_children (fun _ => not_breaks_block) (fun _ _ => keeps_block) children
  | modal =>
    exact assembles_children (fun _ => not_breaks_block) (fun _ _ => keeps_modal) children
  | nav => exact assembles_children (fun _ => not_breaks_nav) (fun _ _ => keeps_nav) children
  | tabs =>
    unfold builtin
    dsimp only
    rw [Emission.value_bind, Emission.value_mapM]
    exact assembles_mapM (fun _ => iff_false_intro not_breaks_block)
      fun ts text h t ht => keeps_tabs ht h
  | _ => cases ht

/-- Of the elements of other types, headings and tables can fail. -/
lemma breaks_leaf {t : BuiltinType} (ht : t.isContainer = false)
    (children : List (Emission String)) :
    Breaks (builtin p t e children).value ↔ t = .heading ∧ Breaks (headingLevel e) ∨
      t = .dataTable ∧ p.state.fetchFor? e.id = none ∧ Breaks (tableRows e) := by
  cases t with
  | heading =>
    have hlevel : Breaks (builtin p .heading e children).value ↔ Breaks (headingLevel e) := by
      change Breaks (heading p e).value ↔ _
      unfold heading
      dsimp only
      rw [Emission.value_bind, Emission.value_ofExcept, breaks_bind_of_ok]
      exact fun _ => not_breaks_inline
    rw [hlevel]
    simp
  | dataTable =>
    have htable : Breaks (builtin p .dataTable e children).value ↔ _ := breaks_table
    rw [htable]
    simp
  | spacer | image | list => exact iff_of_false not_breaks_block (by simp)
  | text => exact iff_of_false not_breaks_inline (by simp)
  | input => exact iff_of_false not_breaks_input (by simp)
  | link =>
    exact iff_of_false (Emission.not_breaks_value_bind (breaks_ok _) fun _ => not_breaks_inline)
      (by simp)
  | divider => exact iff_of_false not_breaks_divider (by simp)
  | icon => exact iff_of_false not_breaks_icon (by simp)
  | button => exact iff_of_false not_breaks_button (by simp)
  | _ => cases ht

lemma assembles_builtin (t : BuiltinType) (children : List (Emission String)) :
    Assembles (BuiltinFaulty .nextjs p.toScreen t e)
      (heldChildren .nextjs t (children.map Emission.value)) (builtin p t e children).value := by
  have hlacks : ¬ LacksOverrides .nextjs p.toScreen e := not_lacksOverrides (by decide)
  cases ht : t.isContainer with
  | true =>
    rw [heldChildren_of_container ht (.inl (by decide))]
    refine (assembles_container ht children).congr ?_
    rw [builtinFaulty_of_container ht]
    exact (iff_false_intro hlacks).symm
  | false =>
    rw [heldChildren_of_not_container ht]
    refine assembles_alone ?_
    rw [breaks_leaf ht, BuiltinFaulty, or_iff_right hlacks]

lemma assembles_unconditional (children : List (Emission String)) :
    Assembles (Faulty .nextjs p.toScreen e)
      (shownChildren .nextjs p.plugins e (children.map Emission.value))
      (unconditional p e children).value := by
  have hlacks : ¬ LacksOverrides .nextjs p.toScreen e := not_lacksOverrides (by decide)
  unfold unconditional shownChildren
  cases hkind : NodeKind.classify e.type e.props with
  | reference ref =>
    refine assembles_alone ?_
    rw [faulty_reference hkind]
    exact iff_of_false not_breaks_inline hlacks
  | builtin t => exact (assembles_builtin t children).congr (faulty_builtin hkind).symm
  | other tag =>
    cases hplugin : p.plugins.get? e.type with
    | some plugin =>
      refine assembles_alone ?_
      rw [faulty_plugin hkind hplugin]
      dsimp only
      rw [Emission.value_ofExcept]
    | none =>
      refine .congr (assembles_children (fun _ => not_breaks_block)
        (fun _ _ => keeps_block) children) ?_
      rw [faulty_other hkind hplugin]
      exact (iff_false_intro hlacks).symm

lemma value_element (children : List (Emission String)) :
    (element p e children).value = (unconditional p e children).value >>= fun markup =>
      pure (conditioned (conditions Text.quoteDouble p.state e) markup) := by
  unfold element conditioned
  rw [Emission.value_bind]
  cases conditions Text.quoteDouble p.state e <;> rfl

lemma assembles_element (children : List (Emission String)) :
    Assembles (Faulty .nextjs p.toScreen e)
      (shownChildren .nextjs p.plugins e (children.map Emission.value))
      (element p e children).value := by
  rw [value_element]
  exact (assembles_unconditional children).around fun _ => keeps_conditioned _

lemma renderAll_eq_map (cs : List Node) : renderAll p cs = cs.map (render p) := by
  induction cs with
  | nil => rfl
  | cons c cs ih => rw [renderAll, ih, List.map_cons]

theorem draws_render (p : Page) : Draws .nextjs p.toScreen fun n => (render p n).value := by
  intro n
  rw [show (fun n => (render p n).value) = Emission.value ∘ render p from rfl, ← List.map_map,
    ← shownChildren_map, ← shownChildren_map]
  cases n with
  | leaf e => exact assembles_element []
  | branch e cs =>
    change Assembles _ _ (render p (.branch e cs)).value
    rw [render, renderAll_eq_map]
    exact assembles_element _

/-- An element of the text type holds its text, escaped, in front of its closing tag. -/
theorem keeps_text {n : Node} (htype : NodeKind.classify n.head.type n.head.props = .builtin .text)
    (hne : Text.escapeBraced (propText n.head "text") ≠ "")
    (htext : (render p n).value = .ok text) :
    Keeps (Text.escapeBraced (propText n.head "text") ++ "<") text := by
  have hrender : ∃ children, render p n = element p n.head children := by
    cases n <;> exact ⟨_, rfl⟩
  obtain ⟨children, hrender⟩ := hrender
  rw [hrender, value_element, unconditional, htype] at htext
  obtain ⟨markup, hmarkup, htext⟩ := bind_eq_ok_iff.1 htext
  rw [← Except.ok.inj htext]
  exact (keeps_inline_closed hne hmarkup).trans (keeps_conditioned _)

end Nextjs
/-! ### Expo -/

namespace Expo
variable {s : Screen} {e : Element} {tag body text : String} {style : Fields Json}
  {attrs : List String}

lemma value_label (text : String) (style : Fields Json) :
    (label text style).value =
      .ok (jsxInline "Text" (styleAttr style) (Text.escapeBraced text)) := rfl

lemma value_view (style : Fields Json) (body : String) :
    (view style body).value = .ok (jsxElement "View" (styleAttr style) body) := rfl

lemma not_breaks_label (text : String) (style : Fields Json) :
    ¬ Breaks (label text style).value :=
  not_breaks_of_value (value_label text style)

lemma not_breaks_view (style : Fields Json) (body : String) : ¬ Breaks (view style body).value :=
  not_breaks_of_value (value_view style body)

lemma not_breaks_click (e : Element) : ¬ Breaks (Jsx.clickHandler? dialect e).value :=
  Emit.not_breaks_click (d := dialect) (fun _ => breaks_ok _) e

lemma breaks_styleParts :
    Breaks (styleParts s e style).value ↔ LacksOverrides .expo s e := by
  unfold styleParts LacksOverrides
  dsimp only
  split_ifs with hid
  · cases hresponsive : e.responsive with
    | none => exact iff_of_true (breaks_error _) ⟨rfl, hid, rfl⟩
    | some r => exact iff_of_false (breaks_ok _) (by simp)
  · exact iff_of_false (breaks_ok _) (by simp [hid])

section
variable {build : String → List String → String}

/-- An element of a node fails exactly when its overrides are missing. -/
lemma breaks_nodeElement :
    Breaks (nodeElement s e tag style attrs build).value ↔ LacksOverrides .expo s e := by
  unfold nodeElement
  rw [Emission.value_bind, breaks_bind_of_ok, breaks_styleParts]
  intro styles
  refine Emission.not_breaks_value_bind (not_breaks_click e) fun h => ?_
  refine Emission.not_breaks_value_bind (breaks_ok _) fun _ => ?_
  cases h with
  | none => exact breaks_ok _
  | some h =>
    dsimp only [Option.map]
    split_ifs
    · exact breaks_ok _
    · exact Emission.not_breaks_value_bind (breaks_ok _) fun _ => breaks_ok _

lemma keeps_nodeElement (hbuild : ∀ tag parts, Keeps body (build tag parts))
    (h : (nodeElement s e tag style attrs build).value = .ok text) : Keeps body text := by
  obtain ⟨styles, -, h⟩ := Emission.value_bind_eq_ok_iff.1 h
  obtain ⟨handler, -, h⟩ := Emission.value_bind_eq_ok_iff.1 h
  obtain ⟨tag', -, h⟩ := Emission.value_bind_eq_ok_iff.1 h
  cases handler with
  | none =>
    rw [← Except.ok.inj h]
    exact hbuild _ _
  | some handler =>
    dsimp only [Option.map] at h
    split_ifs at h
    · rw [← Except.ok.inj h]
      exact hbuild _ _
    · obtain ⟨wrapper, -, h⟩ := Emission.value_bind_eq_ok_iff.1 h
      rw [← Except.ok.inj h]
      exact (hbuild _ _).trans keeps_jsxElement

end

lemma breaks_block : Breaks (block s e tag style attrs body).value ↔ LacksOverrides .expo s e :=
  breaks_nodeElement

lemma breaks_inline : Breaks (inline s e tag style body).value ↔ LacksOverrides .expo s e :=
  breaks_nodeElement

lemma keeps_block (h : (block s e tag style attrs body).value = .ok text) : Keeps body text :=
  keeps_nodeElement (fun _ _ => keeps_jsxElement) h

lemma keeps_inline_closed (hbody : body ≠ "")
    (h : (inline s e tag style body).value = .ok text) : Keeps (body ++ "<") text :=
  keeps_nodeElement (fun _ _ => keeps_jsxInline hbody) h

lemma not_breaks_openTarget (href : String) : ¬ Breaks (openTarget? href).value := by
  unfold openTarget?
  split_ifs
  · exact breaks_ok _
  · exact Emission.not_breaks_value_bind (breaks_ok _) fun _ => breaks_ok _
  · exact Emission.not_breaks_value_bind (breaks_ok _) fun _ => breaks_ok _

lemma breaks_image : Breaks (image s e).value ↔ LacksOverrides .expo s e := by
  unfold image
  dsimp only
  by_cases hsource : propText e "src" = ""
  · rw [if_pos hsource]
    exact Emission.breaks_value_bind (breaks_ok _) fun _ => breaks_block
  · rw [if_neg hsource]
    exact breaks_block

lemma breaks_input : Breaks (input s e).value ↔ LacksOverrides .expo s e := by
  unfold input
  dsimp only
  by_cases hlabel : propText e "label" = ""
  · rw [if_pos hlabel]
    exact breaks_block
  · rw [if_neg hlabel]
    refine Emission.breaks_value_bind (breaks_ok _) fun _ => ?_
    exact Emission.breaks_value_bind (breaks_ok _) fun _ => breaks_block

lemma breaks_link : Breaks (link s e).value ↔ LacksOverrides .expo s e := by
  have hrest : ∀ press body,
      Breaks (block s e "TouchableOpacity" [] (pressAttr press) body).value ↔
        LacksOverrides .expo s e := fun _ _ => breaks_block
  refine Emission.breaks_value_bind (not_breaks_click e) fun own => ?_
  dsimp only
  by_cases hown : own.isSome = true
  · rw [if_pos hown]
    refine Emission.breaks_value_bind (breaks_ok _) fun press => ?_
    exact Emission.breaks_value_bind (breaks_ok _) fun body => hrest press body
  · rw [if_neg hown]
    refine Emission.breaks_value_bind (not_breaks_openTarget _) fun press => ?_
    exact Emission.breaks_value_bind (breaks_ok _) fun body => hrest press body

/-- A list of renderings that do not fail does not fail when joined. -/
lemma not_breaks_join {xs : List (Emission String)} (h : ∀ x ∈ xs, ¬ Breaks x.value) :
    ¬ Breaks (Emission.join xs).value := by
  rw [Emission.value_join, joinRendered, breaks_bind_pure, breaks_mapM]
  rintro ⟨part, hpart, hbreaks⟩
  obtain ⟨x, hx, rfl⟩ := List.mem_map.1 hpart
  exact h x hx hbreaks

lemma breaks_list : Breaks (list s e).value ↔ LacksOverrides .expo s e := by
  unfold list
  dsimp only
  cases s.state.fetchFor? e.id with
  | some f => exact Emission.breaks_value_bind (breaks_ok _) fun _ => breaks_block
  | none =>
    refine Emission.breaks_value_bind (not_breaks_join fun x hx => ?_) fun _ => breaks_block
    obtain ⟨item, -, rfl⟩ := List.mem_map.1 hx
    exact breaks_ok _

lemma breaks_modal {children : String} :
    Breaks (modal s e children).value ↔ LacksOverrides .expo s e := by
  refine Emission.breaks_value_bind (breaks_ok _) fun _ => ?_
  refine Emission.breaks_value_bind (breaks_ok _) fun _ => ?_
  dsimp only
  split_ifs
  · exact Emission.breaks_value_bind (breaks_ok _) fun _ => breaks_block
  · exact Emission.breaks_value_bind (breaks_ok _) fun _ => breaks_block

lemma keeps_withChildren (first children : String) :
    Keeps children (withChildren first children) := by
  unfold withChildren
  split_ifs with h
  · rw [h]
    exact Keeps.of_empty _
  · exact (Keeps.refl children).append_left _

lemma keeps_modal {children : String} (h : (modal s e children).value = .ok text) :
    Keeps children text := by
  obtain ⟨title, -, h⟩ := Emission.value_bind_eq_ok_iff.1 h
  obtain ⟨header, -, h⟩ := Emission.value_bind_eq_ok_iff.1 h
  by_cases hempty : children = ""
  · rw [hempty]
    exact Keeps.of_empty _
  · dsimp only at h
    rw [if_neg hempty] at h
    obtain ⟨content, hcontent, h⟩ := Emission.value_bind_eq_ok_iff.1 h
    rw [value_view] at hcontent
    rw [← Except.ok.inj hcontent] at h
    exact keeps_jsxElement.trans ((keeps_withChildren _ _).trans (keeps_block h))

/-- The first child stands in a panel of its own, and the others are left out. -/
lemma assembles_tabs (children : List (Emission String)) :
    Assembles (LacksOverrides .expo s e) ((children.map Emission.value).take 1)
      (tabs s e children).value := by
  have hlabels : ∀ x ∈ (tabLabels e).zipIdx.map fun l => tabButton l.1 (l.2 == 0),
      ¬ Breaks x.value := by
    intro x hx
    obtain ⟨l, -, rfl⟩ := List.mem_map.1 hx
    exact breaks_ok _
  obtain ⟨buttons, hbuttons⟩ := exists_ok_of_not_breaks (not_breaks_join hlabels)
  unfold tabs
  dsimp only
  rw [Emission.value_bind_of_ok rfl, Emission.value_bind_of_ok hbuttons,
    Emission.value_bind_of_ok (value_view _ _)]
  cases children with
  | nil =>
    refine assembles_alone ?_
    dsimp only
    exact Emission.breaks_value_bind (breaks_ok _) fun _ => breaks_block
  | cons c cs =>
    dsimp only
    rw [Emission.value_bind]
    refine assembles_one (fun t => ?_) fun t text h => ?_
    · exact Emission.breaks_value_bind (breaks_ok _) fun _ => breaks_block
    · rw [Emission.value_bind_of_ok (value_view _ _)] at h
      exact keeps_jsxElement.trans ((keeps_withChildren _ _).trans (keeps_block h))

lemma not_breaks_navButton (l : String × String) : ¬ Breaks (navButton l).value :=
  Emission.not_breaks_value_bind (not_breaks_openTarget l.2) fun _ => breaks_ok _

/-- The rendering of the joined children, put into an element. -/
lemma assembles_children {build : String → Emission String}
    (hbreaks : ∀ t, Breaks (build t).value ↔ LacksOverrides .expo s e)
    (hkeeps : ∀ t text, (build t).value = .ok text → Keeps t text)
    (children : List (Emission String)) :
    Assembles (LacksOverrides .expo s e) (children.map Emission.value)
      (Emission.join children >>= build).value := by
  rw [Emission.value_bind, Emission.value_join]
  exact assembles_join hbreaks hkeeps

lemma assembles_nav (children : List (Emission String)) :
    Assembles (LacksOverrides .expo s e) (children.map Emission.value)
      (nav s e children).value := by
  have hbuttons : ¬ Breaks (((navItems e).map navButton).mapM id).value := by
    rw [Emission.value_mapM, breaks_mapM]
    rintro ⟨part, hpart, hbreaks⟩
    obtain ⟨x, hx, rfl⟩ := List.mem_map.1 hpart
    obtain ⟨l, -, rfl⟩ := List.mem_map.1 hx
    exact not_breaks_navButton l hbreaks
  obtain ⟨buttons, hbuttons⟩ := exists_ok_of_not_breaks hbuttons
  unfold nav
  rw [Emission.value_bind_of_ok hbuttons]
  refine assembles_children (fun _ => breaks_block) (fun t text h => ?_) children
  by_cases hempty : t = ""
  · rw [hempty]
    exact Keeps.of_empty _
  · rw [if_neg hempty] at h
    exact ((Keeps.refl t).intercalate "\n" (by simp)).trans (keeps_block h)

lemma not_breaks_labels {α : Type} (label? : α → Emission String)
    (h : ∀ a, ¬ Breaks (label? a).value) (xs : List α) :
    ¬ Breaks (Emission.join (xs.map label?)).value := by
  refine not_breaks_join fun x hx => ?_
  obtain ⟨a, -, rfl⟩ := List.mem_map.1 hx
  exact h a

lemma not_breaks_tableRow (columns : List (String × String)) (row : Fields Json) :
    ¬ Breaks (tableRow columns row).value := by
  unfold tableRow
  refine Emission.not_breaks_value_bind ?_ fun cells => not_breaks_view rowStyle cells
  exact not_breaks_labels _ (fun _ => not_breaks_label _ _) columns

lemma not_breaks_emptyRow : ¬ Breaks emptyRow.value :=
  Emission.not_breaks_value_bind (not_breaks_label _ _) fun notice => not_breaks_view _ notice

lemma breaks_table : Breaks (table s e).value ↔
    LacksOverrides .expo s e ∨ s.state.fetchFor? e.id = none ∧ Breaks (tableRows e) := by
  unfold table
  dsimp only
  refine Emission.breaks_value_bind
    (not_breaks_labels _ (fun _ => not_breaks_label _ _) _) fun cells => ?_
  refine Emission.breaks_value_bind not_breaks_emptyRow fun empty => ?_
  have hrest : ∀ rows, Breaks (Emission.value (do
      let header ← view
        ([("flexDirection", Json.str "row"), ("backgroundColor", Json.str "#f9fafb")] ++ bottomLine)
        cells
      block s e "View"
        [("borderWidth", .int 1), ("borderColor", border), ("borderRadius", .int 8),
          ("overflow", .str "hidden")] [] (header ++ "\n" ++ rows))) ↔
        LacksOverrides .expo s e := fun rows =>
    Emission.breaks_value_bind (not_breaks_view _ _) fun _ => breaks_block
  cases hfetch : s.state.fetchFor? e.id with
  | some f =>
    dsimp only
    rw [or_iff_left (by simp)]
    refine Emission.breaks_value_bind (breaks_ok _) fun _ => ?_
    exact Emission.breaks_value_bind (breaks_ok _) fun _ => hrest _
  | none =>
    dsimp only
    rw [Emission.value_bind, Emission.value_ofExcept, ← breaks_mapError EmitError.oversized]
    change _ ↔ _ ∨ none = none ∧ Breaks (rowsAtHand e)
    cases rowsAtHand e with
    | error err => exact iff_of_true (breaks_error _) (.inr ⟨rfl, breaks_error _⟩)
    | ok rows =>
      rw [or_iff_left (by simp)]
      change Breaks (Emission.value _) ↔ _
      cases rows with
      | nil => exact Emission.breaks_value_bind (breaks_ok _) fun _ => hrest _
      | cons row rows =>
        exact Emission.breaks_value_bind
          (not_breaks_labels _ (fun _ => not_breaks_tableRow _ _) _) fun _ => hrest _

/-- An element of a container type holds its children, tabs the first one alone. -/
lemma assembles_container {t : BuiltinType} (ht : t.isContainer = true)
    (children : List (Emission String)) :
    Assembles (LacksOverrides .expo s e) (heldChildren .expo t (children.map Emission.value))
      (builtin s t e children).value := by
  cases t with
  | stack | grid | sectionBox | scrollArea | box | card | form =>
    exact assembles_children (fun _ => breaks_block) (fun _ _ => keeps_block) children
  | modal => exact assembles_children (fun _ => breaks_modal) (fun _ _ => keeps_modal) children
  | tabs => exact assembles_tabs children
  | nav => exact assembles_nav children
  | _ => cases ht

/-- Of the elements of other types, headings and tables can fail in more ways than others. -/
lemma breaks_leaf {t : BuiltinType} (ht : t.isContainer = false)
    (children : List (Emission String)) :
    Breaks (builtin s t e children).value ↔ BuiltinFaulty .expo s t e := by
  unfold BuiltinFaulty
  cases t with
  | heading =>
    have hlevel : Breaks (builtin s .heading e children).value ↔
        LacksOverrides .expo s e ∨ Breaks (headingLevel e) := by
      change Breaks (heading s e).value ↔ _
      unfold heading
      rw [Emission.value_bind, Emission.value_ofExcept]
      cases headingLevel e with
      | error err => exact iff_of_true (breaks_error _) (.inr (breaks_error _))
      | ok level =>
        rw [or_iff_left (breaks_ok _)]
        exact breaks_inline
    rw [hlevel]
    simp
  | dataTable =>
    have htable : Breaks (builtin s .dataTable e children).value ↔ _ := breaks_table
    rw [htable]
    simp
  | spacer | divider =>
    simp only [reduceCtorEq, false_and, or_false]
    exact breaks_block
  | text =>
    simp only [reduceCtorEq, false_and, or_false]
    exact breaks_inline
  | image =>
    simp only [reduceCtorEq, false_and, or_false]
    exact breaks_image
  | input =>
    simp only [reduceCtorEq, false_and, or_false]
    exact breaks_input
  | link =>
    simp only [reduceCtorEq, false_and, or_false]
    exact breaks_link
  | list =>
    simp only [reduceCtorEq, false_and, or_false]
    exact breaks_list
  | icon | button =>
    simp only [reduceCtorEq, false_and, or_false]
    exact Emission.breaks_value_bind (breaks_ok _) fun _ => breaks_block
  | _ => cases ht

lemma assembles_builtin (t : BuiltinType) (children : List (Emission String)) :
    Assembles (BuiltinFaulty .expo s t e) (heldChildren .expo t (children.map Emission.value))
      (builtin s t e children).value := by
  cases ht : t.isContainer with
  | true => exact (assembles_container ht children).congr (builtinFaulty_of_container ht).symm
  | false =>
    rw [heldChildren_of_not_container ht]
    exact assembles_alone (breaks_leaf ht children)

lemma assembles_unconditional (children : List (Emission String)) :
    Assembles (Faulty .expo s e) (shownChildren .expo s.plugins e (children.map Emission.value))
      (unconditional s e children).value := by
  unfold unconditional shownChildren
  cases hkind : NodeKind.classify e.type e.props with
  | reference ref =>
    refine assembles_alone ?_
    rw [faulty_reference hkind]
    exact Emission.breaks_value_bind (breaks_ok _) fun _ => breaks_block
  | builtin t => exact (assembles_builtin t children).congr (faulty_builtin hkind).symm
  | other tag =>
    cases hplugin : s.plugins.get? e.type with
    | some plugin =>
      refine assembles_alone ?_
      rw [faulty_plugin hkind hplugin]
      dsimp only
      rw [Emission.value_ofExcept]
    | none =>
      refine (assembles_children (fun t => ?_) (fun t text h => ?_) children).congr
        (faulty_other hkind hplugin).symm
      · exact Emission.breaks_value_bind (breaks_ok _) fun _ => breaks_block
      · obtain ⟨tag, -, h⟩ := Emission.value_bind_eq_ok_iff.1 h
        exact (keeps_withChildren _ _).trans (keeps_block h)

lemma value_element (children : List (Emission String)) :
    (element s e children).value = (unconditional s e children).value >>= fun markup =>
      pure (conditioned (conditions Text.quoteDouble s.state e) markup) := by
  unfold element conditioned
  rw [Emission.value_bind]
  cases conditions Text.quoteDouble s.state e <;> rfl

lemma assembles_element (children : List (Emission String)) :
    Assembles (Faulty .expo s e) (shownChildren .expo s.plugins e (children.map Emission.value))
      (element s e children).value := by
  rw [value_element]
  exact (assembles_unconditional children).around fun _ => keeps_conditioned _

theorem draws_render (s : Screen) : Draws .expo s fun n => (render s n).value := by
  intro n
  rw [show (fun n => (render s n).value) = Emission.value ∘ render s from rfl, ← List.map_map,
    ← shownChildren_map, ← shownChildren_map]
  cases n with
  | leaf e => exact assembles_element []
  | branch e cs =>
    change Assembles _ _ (render s (.branch e cs)).value
    rw [render, renderAll_eq_map]
    exact assembles_element _

/-- An element of the text type holds its text, escaped, in front of its closing tag. -/
theorem keeps_text {n : Node} (htype : NodeKind.classify n.head.type n.head.props = .builtin .text)
    (hne : Text.escapeBraced (propText n.head "text") ≠ "")
    (htext : (render s n).value = .ok text) :
    Keeps (Text.escapeBraced (propText n.head "text") ++ "<") text := by
  have hrender : ∃ children, render s n = element s n.head children := by
    cases n <;> exact ⟨_, rfl⟩
  obtain ⟨children, hrender⟩ := hrender
  rw [hrender, value_element, unconditional, htype] at htext
  obtain ⟨markup, hmarkup, htext⟩ := bind_eq_ok_iff.1 htext
  rw [← Except.ok.inj htext]
  exact (keeps_inline_closed hne hmarkup).trans (keeps_conditioned _)

end Expo
end Screenwright.Emit
