import Screenwright.Proofs.Compilation.HookNodes

/-! Marks of references to no definition, which resolution without definitions puts on. They leave
the ids, the state and the fetches of a screen as they are, and a target reads them for the notice of
a reference only. -/
namespace Screenwright

/-- An element with the reason why it stays among its props. -/
def Element.marked (e : Element) (o : Obstacle) : Element :=
  { e with props := Fields.set e.props "unresolved" (.str o.name) }

namespace Node

lemma head_marked (n : Node) (o : Obstacle) : (n.marked o).head = n.head.marked o := by
  cases n <;> rfl

lemma children_marked (n : Node) (o : Obstacle) : (n.marked o).children = n.children := by
  cases n <;> rfl

/-- A reference to no definition. -/
def missing (ref : Node) : Node :=
  if referenceTarget? ref.props = none then ref else ref.marked .missing

/-- Without definitions resolution marks the outermost references. -/
lemma resolve_nil (n : Node) : n.resolve [] = mapReferences missing n := by
  rw [resolve, resolveWithin_eq]
  congr 1
  funext ref
  unfold replacement missing
  cases referenceTarget? ref.props <;> rfl

/-- What is read of elements and is not their mark, resolution without definitions leaves alone. -/
lemma map_elements_missing {β : Type} {f : Element → β}
    (hf : ∀ e : Element, f (e.marked .missing) = f e) (n : Node) :
    (mapReferences missing n).elements.map f = n.elements.map f := by
  have hnodes : ∀ n : Node, n.elements.map f =
      f n.head :: (n.children.flatMap nodes).map (f ∘ head) := by
    intro n
    rw [elements, List.map_map, nodes_eq_cons]
    rfl
  induction n using induction_outside with
  | reference n hn =>
    rw [mapReferences_of_reference missing hn, missing]
    split
    · rfl
    · rw [hnodes, hnodes, head_marked, children_marked, hf]
  | leaf e he => rw [mapReferences_leaf missing he]
  | branch e cs he ih =>
    rw [mapReferences_branch missing cs he]
    simp only [elements, nodes_branch, List.map_cons, List.map_flatMap, List.flatMap_map,
      head_branch]
    congr 1
    refine List.flatMap_congr fun c hc => ?_
    simpa [elements] using ih c hc

end Node

namespace Emit
open Node (missing)

section
variable {e : Element} {o : Obstacle} {name : String}

lemma prop?_marked (h : name ≠ "unresolved") : prop? (e.marked o) name = prop? e name := by
  rw [prop?, prop?, Element.marked, Fields.get?_set, if_neg h]

lemma propItems_marked (h : name ≠ "unresolved") :
    propItems (e.marked o) name = propItems e name := by
  change ((prop? (e.marked o) name).bind Json.asArray?).getD [] = _
  rw [prop?_marked h]
  rfl

/-- The mark is no row. -/
lemma initialRows_marked : initialRows (e.marked o) = initialRows e := by
  have htable : tableRows (e.marked o) = tableRows e := by
    rw [tableRows, tableRows, propItems_marked (by decide)]
    rfl
  have hlist : listItems (e.marked o) = listItems e := by
    rw [listItems, listItems, propItems_marked (by decide)]
    rfl
  rw [initialRows, initialRows, htable, hlist]
  rfl

end

section
variable {n : Node}

/-- The state of a screen, its responsive elements aside. -/
lemma ofTree_missing (n : Node) :
    ScreenState.ofTree (n.mapReferences missing) =
      { ScreenState.ofTree n with
        responsive := (n.mapReferences missing).elements.filter isResponsive } := by
  have hmap : ∀ {β : Type} (f : Element → β), (∀ e : Element, f (e.marked .missing) = f e) →
      (n.mapReferences missing).elements.map f = n.elements.map f :=
    fun f hf => Node.map_elements_missing hf n
  have htoggled := congrArg (List.filterMap id) (hmap toggleTarget? fun _ => rfl)
  have hvalues := congrArg List.flatten
    (hmap (fun e => (changedState? e).toList ++ (readState? e).toList) fun _ => rfl)
  have hnavigates := congrArg (List.any · id) (hmap navigates fun _ => rfl)
  have hhandlers := congrArg (List.any · id) (hmap hasHandler fun _ => rfl)
  have hfetches := congrArg (List.filterMap id) (hmap fetch? fun _ => rfl)
  simp only [List.filterMap_map, List.any_map, Function.id_comp, ← List.flatMap_def] at *
  rw [ScreenState.ofTree, ScreenState.ofTree]
  simp only [htoggled, hvalues, hnavigates, hhandlers, hfetches]

/-- The responsive elements keep their ids and their overrides. -/
lemma map_responsive_missing {β : Type} {f : Element → β}
    (hf : ∀ e : Element, f (e.marked .missing) = f e) (n : Node) :
    ((n.mapReferences missing).elements.filter isResponsive).map f =
      (n.elements.filter isResponsive).map f := by
  have hmap := Node.map_elements_missing (f := fun e => (isResponsive e, f e))
    (fun e => by rw [hf]; rfl) n
  have hpairs := congrArg (fun l => (l.filter Prod.fst).map Prod.snd) hmap
  simpa [List.filter_map, List.map_map, Function.comp_def] using hpairs

lemma isResponsiveId_missing (n : Node) (id : String) :
    (ScreenState.ofTree (n.mapReferences missing)).isResponsiveId id =
      (ScreenState.ofTree n).isResponsiveId id := by
  have hids := congrArg (List.any · fun b => b)
    (map_responsive_missing (f := fun e => e.id == id) (fun _ => rfl) n)
  rw [List.any_map, List.any_map] at hids
  exact hids

lemma responsiveCss_missing (tokens : Option Tokens) (selector : String → String) (n : Node) :
    responsiveCss tokens selector (ScreenState.ofTree (n.mapReferences missing)).responsive =
      responsiveCss tokens selector (ScreenState.ofTree n).responsive := by
  have hrules : ∀ b, (ScreenState.ofTree (n.mapReferences missing)).responsive.filterMap
      (responsiveRule? tokens selector b) =
        (ScreenState.ofTree n).responsive.filterMap (responsiveRule? tokens selector b) := by
    intro b
    have hmap := congrArg (List.filterMap id)
      (map_responsive_missing (f := responsiveRule? tokens selector b) (fun _ => rfl) n)
    rw [List.filterMap_map, List.filterMap_map] at hmap
    exact hmap
  simp only [responsiveCss, hrules]

/-- The rows that a fetch starts with. -/
lemma rowsBefore_missing (c : Context) (n : Node) (f : DataFetch) :
    (Screen.ofTree c (n.mapReferences missing)).rowsBefore f =
      (Screen.ofTree c n).rowsBefore f := by
  have hfind : ∀ m : Node, (m.find? f.nodeId).map (fun k => initialRows k.head) =
      ((m.elements.map fun e => (e.id, initialRows e)).find? (·.1 == f.nodeId)).map Prod.snd := by
    intro m
    rw [Node.find?, Node.elements, List.map_map, List.find?_map, Option.map_map]
    rfl
  have hrows : ∀ s : Screen, s.rowsBefore f =
      ((s.tree.find? f.nodeId).map fun k => initialRows k.head).getD (.ok (.arr [])) := by
    intro s
    unfold Screen.rowsBefore
    cases s.tree.find? f.nodeId <;> rfl
  have hpairs := Node.map_elements_missing (f := fun e => (e.id, initialRows e))
    (fun e => by rw [initialRows_marked]; rfl) n
  rw [hrows, hrows]
  change ((Node.find? (n.mapReferences missing) _).map _).getD _ = ((Node.find? n _).map _).getD _
  rw [hfind, hfind, hpairs]

end

/-! ### What rendering reads of a screen -/

/-- The screen with another tree and other responsive elements. -/
def Screen.withTree (s : Screen) (tree : Node) (es : List Element) : Screen :=
  { s with tree := tree, state := { s.state with responsive := es } }

/-- Responsive elements of the same ids. -/
def SameIds (es es' : List Element) : Prop := ∀ id, es.any (·.id == id) = es'.any (·.id == id)

section
variable {s : Screen} {tree : Node} {es : List Element}

lemma isResponsiveId_withTree (h : SameIds es s.state.responsive) (id : String) :
    (s.withTree tree es).state.isResponsiveId id = s.state.isResponsiveId id := h id

namespace Markup
variable {d : Dialect}

lemma opening_withTree (h : SameIds es s.state.responsive) :
    opening d (s.withTree tree es) = opening d s := by
  funext e tag x
  simp only [opening, isResponsiveId_withTree h]
  rfl

lemma inline_withTree (h : SameIds es s.state.responsive) :
    inline d (s.withTree tree es) = inline d s := by
  funext e tag x body
  simp only [inline, opening_withTree h]

lemma void_withTree (h : SameIds es s.state.responsive) :
    void d (s.withTree tree es) = void d s := by
  funext e tag x
  simp only [void, opening_withTree h]

lemma block_withTree (h : SameIds es s.state.responsive) :
    block d (s.withTree tree es) = block d s := by
  funext e tag x body
  simp only [block, inline_withTree h, opening_withTree h]

lemma builtin_withTree (h : SameIds es s.state.responsive) (t : BuiltinType) (e : Element)
    (children : List (Except EmitError String)) :
    builtin d (s.withTree tree es) t e children = builtin d s t e children := by
  cases t <;>
    simp only [builtin, heading, paragraph, image, input, link, list, icon, button, form, modal,
      tabs, nav, table, inline_withTree h, void_withTree h, block_withTree h] <;> rfl

lemma kindRenderer_withTree (h : SameIds es s.state.responsive)
    (hd : ∀ st : ScreenState, d.conditional { st with responsive := es } = d.conditional st) :
    kindRenderer d (s.withTree tree es) = kindRenderer d s := by
  have hreference : placeholder d (s.withTree tree es) = placeholder d s := by
    funext e
    simp only [placeholder, inline_withTree h]
  have hother : other d (s.withTree tree es) = other d s := by
    funext e children
    simp only [other, block_withTree h]
  have hconditional : d.conditional (s.withTree tree es).state = d.conditional s.state := hd s.state
  simp only [kindRenderer, hreference, hother, hconditional, builtin_withTree h]
  rfl

end Markup

namespace Nextjs
variable {p : Page}

/-- The page with another tree and other responsive elements. -/
def Page.withTree (p : Page) (tree : Node) (es : List Element) : Page :=
  { p with toScreen := p.toScreen.withTree tree es }

lemma attributes_withTree (h : SameIds es p.state.responsive) :
    attributes (p.withTree tree es) = attributes p := by
  funext e x
  have hid : ∀ id, (p.withTree tree es).state.isResponsiveId id = p.state.isResponsiveId id := h
  simp only [attributes, hid]
  rfl

lemma inline_withTree (h : SameIds es p.state.responsive) :
    inline (p.withTree tree es) = inline p := by
  funext e tag x body
  simp only [inline, attributes_withTree h]

lemma block_withTree (h : SameIds es p.state.responsive) :
    block (p.withTree tree es) = block p := by
  funext e tag x body
  simp only [block, attributes_withTree h]

lemma builtin_withTree (h : SameIds es p.state.responsive) (t : BuiltinType) (e : Element)
    (children : List (Emission String)) :
    builtin (p.withTree tree es) t e children = builtin p t e children := by
  cases t <;>
    simp only [builtin, heading, paragraph, image, input, link, divider, list, icon, button, form,
      modal, tabs, nav, table, inline_withTree h, block_withTree h] <;> rfl

lemma kindRenderer_withTree (h : SameIds es p.state.responsive) :
    kindRenderer (p.withTree tree es) = kindRenderer p := by
  have hreference : placeholder (p.withTree tree es) = placeholder p := by
    funext e
    simp only [placeholder, inline_withTree h]
  have hother : other (p.withTree tree es) = other p := by
    funext e children
    simp only [other, block_withTree h]
  simp only [kindRenderer, hreference, hother, builtin_withTree h]
  rfl

end Nextjs

namespace Expo

lemma nodeElement_withTree (h : SameIds es s.state.responsive) :
    nodeElement (s.withTree tree es) = nodeElement s := by
  have hstyle : styleParts (s.withTree tree es) = styleParts s := by
    funext e style
    simp only [styleParts, isResponsiveId_withTree h]
    rfl
  funext e tag style attrs build
  simp only [nodeElement, hstyle]

lemma block_withTree (h : SameIds es s.state.responsive) :
    block (s.withTree tree es) = block s := by
  funext e tag style attrs body
  simp only [block, nodeElement_withTree h]

lemma inline_withTree (h : SameIds es s.state.responsive) :
    inline (s.withTree tree es) = inline s := by
  funext e tag style body
  simp only [inline, nodeElement_withTree h]

lemma builtin_withTree (h : SameIds es s.state.responsive) (t : BuiltinType) (e : Element)
    (children : List (Emission String)) :
    builtin (s.withTree tree es) t e children = builtin s t e children := by
  cases t <;>
    simp only [builtin, heading, paragraph, image, input, link, list, icon, button, modal, tabs,
      nav, table, inline_withTree h, block_withTree h] <;> rfl

lemma kindRenderer_withTree (h : SameIds es s.state.responsive) :
    kindRenderer (s.withTree tree es) = kindRenderer s := by
  have hreference : placeholder (s.withTree tree es) = placeholder s := by
    funext e
    simp only [placeholder, block_withTree h]
  have hother : other (s.withTree tree es) = other s := by
    funext e children
    simp only [other, block_withTree h]
  simp only [kindRenderer, hreference, hother, builtin_withTree h]
  rfl

end Expo
end

/-! ### Renderings element by element -/

namespace KindRenderer
variable {α : Type} {f : Framework} {plugins : PluginRegistry} {r : KindRenderer α}
  {render render' : Node → α}

/-- A rendering of trees that goes from element to element. -/
def Renders (r : KindRenderer α) (f : Framework) (plugins : PluginRegistry) (render : Node → α) :
    Prop :=
  ∀ n, render n = r.element f plugins n.head (n.children.map render)

lemma Renders.unique (h : r.Renders f plugins render) (h' : r.Renders f plugins render') :
    render = render' := by
  funext n
  induction n using Node.induction with
  | leaf e => rw [h, h']; rfl
  | branch e cs ih =>
    rw [h, h', Node.children_branch, List.map_congr_left ih]

/-- What is rendered of a reference. -/
lemma Renders.reference (h : r.Renders f plugins render) {n : Node} (hn : n.type = referenceType) :
    render n = r.around n.head (r.reference n.head) := by
  rw [h, element, classify_of_reference hn]

end KindRenderer

lemma Markup.renders (d : Dialect) (s : Screen) :
    (kindRenderer d s).Renders d.framework s.plugins (render d s) := by
  intro n
  have helement := element_withPlugins (d := d) (s := s) s.plugins n.head
    (n.children.map (render d s))
  change element d s _ _ = _ at helement
  rw [← helement]
  cases n with
  | leaf e => rfl
  | branch e cs => rw [render, renderAll_eq_map, Node.head_branch, Node.children_branch]

lemma Nextjs.renders (p : Page) : (kindRenderer p).Renders .nextjs p.plugins (render p) := by
  intro n
  have helement := element_withPlugins (p := p) p.plugins n.head (n.children.map (render p))
  change element p _ _ = _ at helement
  rw [← helement]
  cases n with
  | leaf e => rfl
  | branch e cs => rw [render, renderAll_eq_map, Node.head_branch, Node.children_branch]

lemma Expo.renders (s : Screen) : (kindRenderer s).Renders .expo s.plugins (render s) := by
  intro n
  have helement := element_withPlugins (s := s) s.plugins n.head (n.children.map (render s))
  change element s _ _ = _ at helement
  rw [← helement]
  cases n with
  | leaf e => rfl
  | branch e cs => rw [render, renderAll_eq_map, Node.head_branch, Node.children_branch]

/-! ### Notices -/

/-- The notice of a reference to no definition. -/
def missingNotice (e : Element) : String := "Missing component: " ++ (presentOr e "ref" "?").text

section
variable {e : Element} {o : Obstacle}

lemma presentOr_marked {name absent : String} (h : name ≠ "unresolved") :
    presentOr (e.marked o) name absent = presentOr e name absent := by
  rw [presentOr, presentOr, prop?_marked h]

/-- Only two texts of a mark lead to another notice. -/
lemma placeholderMessage_eq (hcircular : propIs e "unresolved" "circular" = false)
    (hinvalid : propIs e "unresolved" "invalid" = false) :
    placeholderMessage e = missingNotice e := by
  unfold placeholderMessage missingNotice
  simp only [hcircular, hinvalid, Bool.false_eq_true, if_false]

lemma placeholderMessage_marked : placeholderMessage (e.marked .missing) = missingNotice e := by
  have hmark : prop? (e.marked .missing) "unresolved" = some (.str "missing") := by
    rw [prop?, Element.marked, Fields.get?_set, if_pos rfl]
    rfl
  have hnot : ∀ text, "missing" ≠ text → propIs (e.marked .missing) "unresolved" text = false := by
    intro text htext
    rw [propIs, hmark]
    simpa [Json.asString?] using htext
  have href : presentOr (e.marked .missing) "ref" "?" = presentOr e "ref" "?" :=
    presentOr_marked (by decide)
  rw [placeholderMessage_eq (hnot _ (by decide)) (hnot _ (by decide))]
  unfold missingNotice
  rw [href]

/-- A notice about another reason belongs to a mark. -/
lemma propIs_eq_false {n : Node} (h : ¬ n.HasMark o) :
    propIs n.head "unresolved" o.name = false := by
  rw [propIs, beq_eq_false_iff_ne]
  intro htext
  obtain ⟨v, hv, htext⟩ := Option.bind_eq_some_iff.1 htext
  refine h (hv.trans ?_)
  cases v <;> simp_all [Json.asString?]

end

end Emit
end Screenwright
