import Screenwright.Proofs.Emit.ScreenContents

/-! The nodes that the hooks of plugins are given. Plugins that agree on these nodes write the same
file, and a file is written only when the hooks succeed on all of them. -/
namespace Screenwright.Emit

/-- A node that the hook of a plugin is given when a target renders a tree. -/
structure Hooked (f : Framework) (plugins : PluginRegistry) (tree n : Node) (p : NodePlugin) :
    Prop where
  shown : Shown f plugins tree n
  plugin : pluginOf? plugins n.head = some p

/-- Plugins `others` for the same types, which write the same for each node that a hook is given. -/
structure AgreeOn (f : Framework) (plugins others : PluginRegistry) (tree : Node) : Prop where
  types : ∀ type, (others.get? type).isSome = (plugins.get? type).isSome
  hooks : ∀ n p q, Hooked f plugins tree n p → others.get? n.type = some q →
    q.render f.name n.head = p.render f.name n.head

section
variable {f : Framework} {plugins others : PluginRegistry} {e : Element} {n : Node}
  {p : NodePlugin}

lemma get?_of_pluginOf? (h : pluginOf? plugins e = some p) : plugins.get? e.type = some p := by
  unfold pluginOf? at h
  split at h
  · exact h
  · cases h

lemma AgreeOn.child {c : Node} (h : AgreeOn f plugins others n)
    (hc : c ∈ shownChildren f plugins n.head n.children) : AgreeOn f plugins others c :=
  ⟨h.types, fun m p q hm hq =>
    h.hooks m p q ⟨shown_iff.2 (.inr ⟨c, hc, hm.shown⟩), hm.plugin⟩ hq⟩

end

/-! ### Renderings that depend on plugins -/

/-- Plugins of the same types render an element alike, as far as the hook for it is concerned. -/
structure AgreeAt (f : Framework) (plugins others : PluginRegistry) (e : Element) : Prop where
  type : (others.get? e.type).isSome = (plugins.get? e.type).isSome
  hook : ∀ p q, pluginOf? plugins e = some p → others.get? e.type = some q →
    renderPlugin q f e = renderPlugin p f e

lemma AgreeOn.root {f : Framework} {plugins others : PluginRegistry} {n : Node}
    (h : AgreeOn f plugins others n) : AgreeAt f plugins others n.head :=
  ⟨h.types _, fun p q hp hq => by
    rw [renderPlugin, renderPlugin, h.hooks n p q ⟨.refl n, hp⟩ hq]⟩

/-- A way to render nodes that looks at no more of a node than its element and the children shown,
and asks the plugins for the hook of the element alone. -/
def RendersLocally {α : Type} (f : Framework) (render : PluginRegistry → Node → α) : Prop :=
  ∀ plugins others n, AgreeAt f plugins others n.head →
    (∀ c ∈ shownChildren f plugins n.head n.children, render others c = render plugins c) →
    render others n = render plugins n

/-- How an element of each kind is rendered from what its children are rendered as, and what is put
around it. -/
structure KindRenderer (α : Type) where
  reference : Element → α
  builtin : Element → BuiltinType → List α → α
  hook : Except EmitError String → α
  other : Element → List α → α
  around : Element → α → α

namespace KindRenderer
variable {α : Type} {f : Framework} {plugins others : PluginRegistry} {e : Element}
  {r : KindRenderer α}

def element (r : KindRenderer α) (f : Framework) (plugins : PluginRegistry) (e : Element)
    (children : List α) : α :=
  r.around e (match NodeKind.classify e.type e.props with
    | .reference _ => r.reference e
    | .builtin t => r.builtin e t children
    | .other _ =>
      match plugins.get? e.type with
      | some p => r.hook (renderPlugin p f e)
      | none => r.other e children)

/-- The elements of built-in types look at no children but those that they hold. -/
def HoldsShown (r : KindRenderer α) (f : Framework) : Prop :=
  ∀ e t xs ys, heldChildren f t xs = heldChildren f t ys → r.builtin e t xs = r.builtin e t ys

/-- Plugins that agree at an element give the same for children that agree where they are shown. -/
lemma element_congr (hr : r.HoldsShown f) (hagree : AgreeAt f plugins others e) {xs ys : List α}
    (hshown : shownChildren f plugins e xs = shownChildren f plugins e ys) :
    r.element f others e xs = r.element f plugins e ys := by
  unfold element
  rw [shownChildren, shownChildren] at hshown
  cases hkind : NodeKind.classify e.type e.props with
  | reference ref => rfl
  | builtin t =>
    simp only [hkind] at hshown
    exact congrArg (r.around e) (hr e t xs ys hshown)
  | other tag =>
    simp only [hkind] at hshown
    have htype := hagree.type
    cases hp : plugins.get? e.type with
    | none =>
      rw [hp, Option.isSome_none, Option.isSome_eq_false_iff, Option.isNone_iff_eq_none] at htype
      rw [hp, Option.isSome_none, if_neg (by decide), if_neg (by decide)] at hshown
      rw [htype, hshown]
    | some p =>
      rw [hp, Option.isSome_some, Option.isSome_iff_exists] at htype
      obtain ⟨q, hq⟩ := htype
      have hplugin : pluginOf? plugins e = some p := by simp [pluginOf?, hkind, hp]
      rw [hq]
      exact congrArg (fun x => r.around e (r.hook x)) (hagree.hook p q hplugin hq)

/-- A tree that is rendered element by element is rendered locally. -/
lemma rendersLocally (hr : r.HoldsShown f) {render : PluginRegistry → Node → α}
    (h : ∀ plugins n, render plugins n =
      r.element f plugins n.head (n.children.map (render plugins))) :
    RendersLocally f render := by
  intro plugins others n hagree hchildren
  rw [h, h]
  refine element_congr hr hagree ?_
  rw [shownChildren_map, shownChildren_map]
  exact List.map_congr_left hchildren

end KindRenderer

/-! ### The targets -/

/-- The screen with other plugins. -/
def Screen.withPlugins (s : Screen) (plugins : PluginRegistry) : Screen :=
  { s with plugins := plugins }

namespace Markup
variable {d : Dialect} {s : Screen}

/-- How a markup target renders the elements of a screen, whatever its plugins are. -/
def kindRenderer (d : Dialect) (s : Screen) : KindRenderer (Except EmitError String) where
  reference e := .ok (placeholder d s e)
  builtin e t children := builtin d s t e children
  hook x := x
  other e children := joinRendered children >>= fun body => pure (other d s e body)
  around e x := x >>= fun markup => pure (match conditions d.quote s.state e with
    | [] => markup
    | cs => d.conditional s.state e cs markup)

lemma holdsShown (hd : d.framework ≠ .expo) : (kindRenderer d s).HoldsShown d.framework := by
  intro e t xs ys h
  cases ht : t.isContainer with
  | true =>
    rw [heldChildren_of_container ht (.inl hd), heldChildren_of_container ht (.inl hd)] at h
    rw [h]
  | false => cases t <;> first | rfl | cases ht

lemma element_withPlugins (plugins : PluginRegistry) (e : Element)
    (children : List (Except EmitError String)) :
    element d (s.withPlugins plugins) e children =
      (kindRenderer d s).element d.framework plugins e children := by
  rw [element_eq, unconditional, KindRenderer.element]
  cases NodeKind.classify e.type e.props with
  | reference ref => rfl
  | builtin t => cases t <;> rfl
  | other tag => rfl

lemma rendersLocally (hd : d.framework ≠ .expo) :
    RendersLocally d.framework fun plugins => render d (s.withPlugins plugins) := by
  refine (kindRenderer d s).rendersLocally (holdsShown hd) fun plugins n => ?_
  rw [← element_withPlugins]
  cases n with
  | leaf e => rfl
  | branch e cs => rw [render, renderAll_eq_map, Node.head_branch, Node.children_branch]

end Markup

namespace Nextjs
variable {p : Page}

/-- How the elements of a page are rendered, whatever its plugins are. -/
def kindRenderer (p : Page) : KindRenderer (Emission String) where
  reference e := placeholder p e
  builtin e t children := builtin p t e children
  hook x := Emission.ofExcept x
  other e children := Emission.join children >>= fun body => other p e body
  around e x := x >>= fun markup => match conditions Text.quoteDouble p.state e with
    | [] => pure markup
    | cs => pure (jsxConditional cs markup)

lemma holdsShown : (kindRenderer p).HoldsShown .nextjs := by
  intro e t xs ys h
  cases ht : t.isContainer with
  | true =>
    rw [heldChildren_of_container ht (.inl (by decide)),
      heldChildren_of_container ht (.inl (by decide))] at h
    rw [h]
  | false => cases t <;> first | rfl | cases ht

lemma element_withPlugins (plugins : PluginRegistry) (e : Element)
    (children : List (Emission String)) :
    element { p with plugins := plugins } e children =
      (kindRenderer p).element .nextjs plugins e children := by
  rw [element, unconditional, KindRenderer.element]
  cases NodeKind.classify e.type e.props with
  | reference ref => rfl
  | builtin t => cases t <;> rfl
  | other tag => rfl

lemma rendersLocally :
    RendersLocally .nextjs fun plugins => render { p with plugins := plugins } := by
  refine (kindRenderer p).rendersLocally holdsShown fun plugins n => ?_
  rw [← element_withPlugins]
  cases n with
  | leaf e => rfl
  | branch e cs => rw [render, renderAll_eq_map, Node.head_branch, Node.children_branch]

end Nextjs

namespace Expo
variable {s : Screen}

/-- How the elements of a native screen are rendered, whatever its plugins are. -/
def kindRenderer (s : Screen) : KindRenderer (Emission String) where
  reference e := placeholder s e
  builtin e t children := builtin s t e children
  hook x := Emission.ofExcept x
  other e children := Emission.join children >>= fun body => other s e body
  around e x := x >>= fun markup => match conditions Text.quoteDouble s.state e with
    | [] => pure markup
    | cs => pure (jsxConditional cs markup)

/-- Tabs hold their first panel alone. -/
lemma tabs_congr {e : Element} {xs ys : List (Emission String)} (h : xs.take 1 = ys.take 1) :
    tabs s e xs = tabs s e ys := by
  cases xs <;> cases ys <;> simp at h
  · rfl
  · rw [tabs, tabs, h]

lemma holdsShown : (kindRenderer s).HoldsShown .expo := by
  intro e t xs ys h
  cases ht : t.isContainer with
  | true =>
    by_cases htabs : t = .tabs
    · subst htabs
      exact tabs_congr h
    · rw [heldChildren_of_container ht (.inr htabs),
        heldChildren_of_container ht (.inr htabs)] at h
      rw [h]
  | false => cases t <;> first | rfl | cases ht

lemma element_withPlugins (plugins : PluginRegistry) (e : Element)
    (children : List (Emission String)) :
    element (s.withPlugins plugins) e children =
      (kindRenderer s).element .expo plugins e children := by
  rw [element, unconditional, KindRenderer.element]
  cases NodeKind.classify e.type e.props with
  | reference ref => rfl
  | builtin t => cases t <;> rfl
  | other tag => rfl

lemma rendersLocally : RendersLocally .expo fun plugins => render (s.withPlugins plugins) := by
  refine (kindRenderer s).rendersLocally holdsShown fun plugins n => ?_
  rw [← element_withPlugins]
  cases n with
  | leaf e => rfl
  | branch e cs => rw [render, renderAll_eq_map, Node.head_branch, Node.children_branch]

end Expo

/-! ### The contents of a screen -/

section
variable {f : Framework} {c : Context} {tree : Node} {others : PluginRegistry}

end
end Screenwright.Emit
