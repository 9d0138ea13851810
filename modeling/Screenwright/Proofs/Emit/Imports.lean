import Screenwright.Proofs.Emit.Scripts
import Screenwright.Proofs.Emit.Shown

/-! Imports of the React targets. What a rendering uses is among the imports that it collects, and
each of these has an import statement in the module. -/
namespace Screenwright.Emit

/-- The statement that imports names from a module. -/
def importLine (source : String) (names : List String) : String :=
  "import \x7b " ++ ", ".intercalate names ++ " \x7d from " ++ Text.quoteDouble source ++ ";"

/-- Lines among which is a statement that imports a name from a module. -/
def HasImport (lines : List String) (source name : String) : Prop :=
  ∃ names, name ∈ names ∧ importLine source names ∈ lines

lemma Import.hasImport_lines {is : List Import} {source name : String}
    (h : ⟨source, name, false⟩ ∈ is) : HasImport (Import.lines is) source name := by
  have hnamed : (⟨source, name, false⟩ : Import) ∈ is.filter (!·.isDefault) :=
    List.mem_filter.2 ⟨h, rfl⟩
  have hsource : source ∈ sources (is.filter (!·.isDefault)) := by
    rw [sources, (Text.sorted_perm _).mem_iff, List.mem_eraseDups]
    exact List.mem_map_of_mem hnamed
  have hname : name ∈ namesOf (is.filter (!·.isDefault)) source := by
    rw [namesOf, (Text.sorted_perm _).mem_iff, List.mem_eraseDups]
    exact List.mem_map_of_mem (List.mem_filter.2 ⟨hnamed, beq_self_eq_true source⟩)
  exact ⟨_, hname, List.mem_append_right _ (List.mem_map_of_mem hsource)⟩

namespace Emission
variable {α β : Type} {i : Import}

lemma run_pure (a : α) : (pure a : Emission α).run = .ok (a, []) := rfl

lemma bind_pure_self (x : Emission α) : x >>= pure = x := by
  change (x >>= pure).run = x.run
  rw [run_bind]
  cases x.run <;> simp [Except.bind, Except.map, run_pure]

lemma pure_bind_apply (a : α) (f : α → Emission β) : pure a >>= f = f a := by
  change (pure a >>= f).run = (f a).run
  rw [run_bind, run_pure]
  cases h : (f a).run <;> simp [Except.bind, Except.map, h]

lemma bind_bind {γ : Type} (x : Emission α) (f : α → Emission β) (g : β → Emission γ) :
    x >>= f >>= g = x >>= fun a => f a >>= g := by
  change (x >>= f >>= g).run = (x >>= fun a => f a >>= g).run
  simp only [run_bind]
  cases x.run with
  | error e => rfl
  | ok r =>
    cases h : (f r.1).run with
    | error e => simp [Except.bind, Except.map, h]
    | ok r' => cases h' : (g r'.1).run <;> simp [Except.bind, Except.map, h, h']

instance : LawfulMonad Emission := .mk' Emission bind_pure_self pure_bind_apply bind_bind

/-- A rendering that has an import whenever it comes out. -/
def Collects (x : Emission α) (i : Import) : Prop :=
  ∀ a imports, x.run = .ok (a, imports) → i ∈ imports

lemma collects_use (source name : String) : (use source name).Collects ⟨source, name, false⟩ := by
  intro a imports h
  cases h
  exact List.mem_singleton_self _

lemma Collects.bind {x : Emission α} (h : x.Collects i) (f : α → Emission β) :
    (x >>= f).Collects i := by
  intro b imports hrun
  rw [run_bind] at hrun
  obtain ⟨⟨a, is⟩, hx, hrun⟩ := bind_eq_ok_iff.1 hrun
  obtain ⟨⟨b', js⟩, -, hrun⟩ := map_eq_ok_iff.1 hrun
  cases hrun
  exact List.mem_append_left _ (h a is hx)

lemma collects_bind {f : α → Emission β} (x : Emission α) (h : ∀ a, (f a).Collects i) :
    (x >>= f).Collects i := by
  intro b imports hrun
  rw [run_bind] at hrun
  obtain ⟨⟨a, is⟩, -, hrun⟩ := bind_eq_ok_iff.1 hrun
  obtain ⟨⟨b', js⟩, hf, hrun⟩ := map_eq_ok_iff.1 hrun
  cases hrun
  exact List.mem_append_right _ (h a b' js hf)

lemma Collects.discard {x : Emission α} (h : x.Collects i) : (discard x).Collects i :=
  h.bind fun _ => pure ()

lemma collects_mapM {xs : List (Emission α)} {x : Emission α} (hx : x ∈ xs) (h : x.Collects i) :
    (xs.mapM id).Collects i := by
  induction xs with
  | nil => simp at hx
  | cons y ys ih =>
    rw [List.mapM_cons]
    rcases List.mem_cons.1 hx with rfl | hx
    · exact h.bind _
    · exact collects_bind _ fun _ => (ih hx).bind _

lemma collects_join {xs : List (Emission String)} {x : Emission String} (hx : x ∈ xs)
    (h : x.Collects i) : (join xs).Collects i :=
  (collects_mapM hx h).bind _

section
variable {c : Prop} [Decidable c] {x y : Emission α} {f : α → Emission β}

lemma collects_either (h : ∀ a, (f a).Collects i) :
    (if c then x >>= f else y >>= f).Collects i := by
  split_ifs <;> exact collects_bind _ h

lemma Collects.ite (hx : x.Collects i) (hy : Collects y i) :
    (if c then x else y).Collects i := by
  split_ifs
  · exact hx
  · exact hy

lemma Collects.either (hc : c) (h : x.Collects i) :
    (if c then x >>= f else y >>= f).Collects i := by
  rw [if_pos hc]
  exact h.bind f

end
end Emission

/-! ### Hooks -/

section
variable {d : ReactDialect} {s : Screen}

lemma collects_router {i : Import} (hd : d.routerLines.Collects i) (h : s.state.navigates = true) :
    (Jsx.hookLines d s).Collects i :=
  .either h hd

lemma collects_useState (h : s.state.isStateful = true) :
    (Jsx.hookLines d s).Collects ⟨"react", "useState", false⟩ := by
  refine Emission.collects_either fun router => ?_
  dsimp only
  rw [if_pos h]
  exact (Emission.collects_use "react" "useState").discard.bind _

lemma collects_useEffect (h : s.state.fetches ≠ []) :
    (Jsx.hookLines d s).Collects ⟨"react", "useEffect", false⟩ := by
  have hfetches : (!s.state.fetches.isEmpty) = true := by simpa using h
  have hstateful : s.state.isStateful = true := by simp [ScreenState.isStateful, h]
  refine Emission.collects_either fun router => ?_
  dsimp only
  rw [if_pos hstateful]
  refine Emission.collects_bind _ fun _ => ?_
  rw [if_pos hfetches]
  exact (Emission.collects_use "react" "useEffect").discard.bind _

end
/-! ### Markup of native elements -/

namespace Expo
variable {s : Screen} {e : Element} {i : Import} {tag : String} {style : Fields Json}
  {attrs : List String} {body : String}

lemma collects_nodeElement {build : String → List String → String}
    (h : (Jsx.clickHandler? dialect e).Collects i) :
    (nodeElement s e tag style attrs build).Collects i :=
  Emission.collects_bind _ fun _ => h.bind _

lemma collects_block (h : (Jsx.clickHandler? dialect e).Collects i) :
    (block s e tag style attrs body).Collects i :=
  collects_nodeElement h

lemma collects_inline (h : (Jsx.clickHandler? dialect e).Collects i) :
    (inline s e tag style body).Collects i :=
  collects_nodeElement h

lemma collects_image (h : (Jsx.clickHandler? dialect e).Collects i) : (image s e).Collects i := by
  unfold image
  dsimp only
  refine .ite (Emission.collects_bind _ fun _ => ?_) ?_
  · exact collects_block h
  · exact collects_block h

lemma collects_input (h : (Jsx.clickHandler? dialect e).Collects i) : (input s e).Collects i := by
  unfold input
  dsimp only
  refine .ite ?_ (Emission.collects_bind _ fun _ => Emission.collects_bind _ fun _ => ?_)
  · exact collects_block h
  · exact collects_block h

lemma collects_list (h : (Jsx.clickHandler? dialect e).Collects i) : (list s e).Collects i := by
  unfold list
  dsimp only
  split <;> exact Emission.collects_bind _ fun _ => collects_block h

lemma collects_modal (children : String) (h : (Jsx.clickHandler? dialect e).Collects i) :
    (modal s e children).Collects i := by
  refine Emission.collects_bind _ fun _ => Emission.collects_bind _ fun _ => ?_
  exact Emission.collects_either fun _ => collects_block h

lemma collects_tabs (children : List (Emission String))
    (h : (Jsx.clickHandler? dialect e).Collects i) : (tabs s e children).Collects i := by
  refine Emission.collects_bind _ fun _ => Emission.collects_bind _ fun _ =>
    Emission.collects_bind _ fun _ => ?_
  dsimp only
  split
  · exact Emission.collects_bind _ fun _ => collects_block h
  · exact Emission.collects_bind _ fun _ => Emission.collects_bind _ fun _ => collects_block h

lemma collects_table (h : (Jsx.clickHandler? dialect e).Collects i) : (table s e).Collects i := by
  unfold table
  refine Emission.collects_bind _ fun _ => Emission.collects_bind _ fun _ => ?_
  dsimp only
  have hrest : ∀ rows headerCells, Emission.Collects (do
      let header ← view
        ([("flexDirection", Json.str "row"), ("backgroundColor", Json.str "#f9fafb")] ++ bottomLine)
        headerCells
      block s e "View"
        [("borderWidth", .int 1), ("borderColor", border), ("borderRadius", .int 8),
          ("overflow", .str "hidden")] [] (header ++ "\n" ++ rows)) i :=
    fun _ _ => Emission.collects_bind _ fun _ => collects_block h
  split
  · exact Emission.collects_bind _ fun _ => Emission.collects_bind _ fun _ => hrest _ _
  · refine Emission.collects_bind _ fun _ => ?_
    split
    · exact Emission.collects_bind _ fun _ => hrest _ _
    · exact Emission.collects_bind _ fun _ => hrest _ _

/-- The elements of all types take clicks. -/
lemma collects_builtin (t : BuiltinType) (children : List (Emission String))
    (h : (Jsx.clickHandler? dialect e).Collects i) : (builtin s t e children).Collects i := by
  cases t with
  | stack | grid | sectionBox | scrollArea | box | card | form =>
    exact Emission.collects_bind _ fun _ => collects_block h
  | icon | button => exact Emission.collects_bind _ fun _ => collects_block h
  | spacer | divider => exact collects_block h
  | heading => exact Emission.collects_bind _ fun _ => collects_inline h
  | text => exact collects_inline h
  | image => exact collects_image h
  | input => exact collects_input h
  | link => exact h.bind _
  | list => exact collects_list h
  | modal => exact Emission.collects_bind _ fun body => collects_modal body h
  | tabs => exact collects_tabs children h
  | nav =>
    exact Emission.collects_bind _ fun _ => Emission.collects_bind _ fun _ => collects_block h
  | dataTable => exact collects_table h

lemma collects_unconditional (hplugin : pluginOf? s.plugins e = none)
    (children : List (Emission String)) (h : (Jsx.clickHandler? dialect e).Collects i) :
    (unconditional s e children).Collects i := by
  unfold unconditional
  unfold pluginOf? at hplugin
  split at hplugin
  · next tag hkind =>
    rw [hkind]
    dsimp only
    rw [hplugin]
    exact Emission.collects_bind _ fun _ => Emission.collects_bind _ fun _ => collects_block h
  · next hkind =>
    cases hclass : NodeKind.classify e.type e.props with
    | reference ref => exact Emission.collects_bind _ fun _ => collects_block h
    | builtin t => exact collects_builtin t children h
    | other tag => exact absurd hclass (hkind tag)

/-- The children that are shown are rendered. -/
lemma collects_child {children : List (Emission String)} {x : Emission String}
    (hx : x ∈ shownChildren .expo s.plugins e children) (h : x.Collects i) :
    (unconditional s e children).Collects i := by
  unfold shownChildren at hx
  unfold unconditional
  cases hkind : NodeKind.classify e.type e.props with
  | reference ref => simp [hkind] at hx
  | other tag =>
    simp only [hkind] at hx
    split_ifs at hx with hplugin
    · simp at hx
    · simp only [Bool.not_eq_true, Option.isSome_eq_false_iff, Option.isNone_iff_eq_none] at hplugin
      simp only [hplugin]
      exact (Emission.collects_join hx h).bind _
  | builtin t =>
    simp only [hkind] at hx
    cases t with
    | stack | grid | sectionBox | scrollArea | box | card | form | modal =>
      exact (Emission.collects_join hx h).bind _
    | nav =>
      exact Emission.collects_bind _ fun _ => (Emission.collects_join hx h).bind _
    | tabs =>
      have hfirst : x ∈ children.take 1 := hx
      cases children with
      | nil => simp at hfirst
      | cons c cs =>
        obtain rfl : x = c := by simpa using hfirst
        refine Emission.collects_bind _ fun _ => Emission.collects_bind _ fun _ =>
          Emission.collects_bind _ fun _ => ?_
        exact h.bind _
    | _ => exact absurd hx List.not_mem_nil

lemma collects_element {children : List (Emission String)}
    (h : (unconditional s e children).Collects i) : (element s e children).Collects i :=
  h.bind _

lemma renderAll_eq_map (cs : List Node) : renderAll s cs = cs.map (render s) := by
  induction cs with
  | nil => rfl
  | cons c cs ih => rw [renderAll, ih, List.map_cons]

/-- What a shown node imports, the whole screen imports. -/
lemma collects_of_shown {n m : Node} (h : Shown .expo s.plugins n m)
    (hm : (render s m).Collects i) : (render s n).Collects i := by
  induction h with
  | refl n => exact hm
  | @inside e cs c n hc _ ih =>
    rw [render, renderAll_eq_map]
    refine collects_element (collects_child ?_ (ih hm))
    rw [shownChildren_map]
    exact List.mem_map_of_mem hc

/-- A screen that shows a node which navigates imports the router. -/
lemma collects_expoRouter {n m : Node} (hshown : Shown .expo s.plugins n m)
    (hplugin : pluginOf? s.plugins m.head = none) (h : navigates m.head = true) :
    (render s n).Collects ⟨"expo-router", "router", false⟩ := by
  refine collects_of_shown hshown ?_
  have hclick : (Jsx.clickHandler? dialect m.head).Collects ⟨"expo-router", "router", false⟩ := by
    unfold navigates at h
    unfold Jsx.clickHandler?
    split at h
    · next click hc =>
      obtain ⟨haction, htarget⟩ := Bool.and_eq_true_iff.1 h
      obtain ⟨route, hroute⟩ := Option.isSome_iff_exists.1 htarget
      simp only [hc, of_decide_eq_true haction, hroute]
      exact ((Emission.collects_use "expo-router" "router").discard.bind _).bind _
    · simp at h
  cases m with
  | leaf e => exact collects_element (collects_unconditional hplugin _ hclick)
  | branch e cs => exact collects_element (collects_unconditional hplugin _ hclick)

end Expo

end Screenwright.Emit
