import Screenwright.Proofs.Emit.ReactParts

/-! The imports of a React module: for each node that it shows those of the node's own element, and
those of its hooks. -/
namespace Screenwright.Emit

namespace Emission
variable {α β : Type} {x : Emission α} {f : α → Emission β} {S T : Set Import}

/-- A rendering that imports the members of a set and nothing else whenever it comes out. -/
def Imports (x : Emission α) (S : Set Import) : Prop :=
  ∀ a is, x.run = .ok (a, is) → ∀ i, i ∈ is ↔ i ∈ S

lemma Imports.congr (h : x.Imports S) (heq : S = T) : x.Imports T := heq ▸ h

lemma imports_pure (a : α) : (pure a : Emission α).Imports ∅ := by
  intro a' is h i
  cases h
  simp

lemma imports_use (source name : String) :
    (use source name).Imports {⟨source, name, false⟩} := by
  intro a is h i
  cases h
  simp

lemma imports_useDefault (source name : String) :
    (useDefault source name).Imports {⟨source, name, true⟩} := by
  intro a is h i
  cases h
  simp

lemma imports_ofExcept (x : Except EmitError α) : (ofExcept x).Imports ∅ := by
  cases x with
  | ok a => exact imports_pure a
  | error e => exact fun a is h => nomatch h

/-- What comes after a computation only matters when that has a result. -/
lemma imports_ofExcept_bind {x : Except EmitError α} (hf : ∀ a, x = .ok a → (f a).Imports T) :
    (ofExcept x >>= f).Imports T := by
  cases x with
  | error e => exact fun b is h => nomatch h
  | ok a =>
    change (pure a >>= f).Imports T
    rw [pure_bind]
    exact hf a rfl

/-- What comes after a rendering may hang on its value. -/
lemma Imports.bind_gives (hx : x.Imports S) (hf : ∀ a, x.Gives a → (f a).Imports T) :
    (x >>= f).Imports (S ∪ T) := by
  intro b is h i
  rw [run_bind] at h
  obtain ⟨⟨a, js⟩, hrun, h⟩ := bind_eq_ok_iff.1 h
  obtain ⟨⟨b', ks⟩, hrest, h⟩ := map_eq_ok_iff.1 h
  cases h
  rw [List.mem_append, Set.mem_union, hx a js hrun, hf a ⟨js, hrun⟩ b' ks hrest]

lemma Imports.bind (hx : x.Imports S) (hf : ∀ a, (f a).Imports T) : (x >>= f).Imports (S ∪ T) :=
  hx.bind_gives fun a _ => hf a

/-- A rendering whose value is only put into a text. -/
lemma Imports.bind_pure (hx : x.Imports S) (f : α → β) :
    (x >>= fun a => pure (f a)).Imports S :=
  (hx.bind fun a => imports_pure (f a)).congr (Set.union_empty S)

/-- A rendering that imports nothing before another one. -/
lemma Imports.bind_of_empty (hx : x.Imports ∅) (hf : ∀ a, (f a).Imports T) :
    (x >>= f).Imports T :=
  (hx.bind hf).congr (Set.empty_union T)

lemma Imports.map (hx : x.Imports S) (f : α → β) : (f <$> x).Imports S := by
  rw [map_eq_pure_bind]
  exact hx.bind_pure f

lemma Imports.discard (hx : x.Imports S) : (discard x).Imports S := hx.bind_pure fun _ => ()

section
variable {c : Prop} [Decidable c]

lemma Imports.ite {y : Emission α} (hx : x.Imports S) (hy : y.Imports S) :
    (if c then x else y).Imports S := by
  split_ifs
  · exact hx
  · exact hy

/-- One of two renderings, and what goes on from it. -/
lemma Imports.either {S' : Set Import} {y : Emission α} (hx : x.Imports S) (hy : y.Imports S')
    (hf : ∀ a, (f a).Imports T) :
    (if c then x >>= f else y >>= f).Imports ((if c then S else S') ∪ T) := by
  split_ifs
  · exact hx.bind hf
  · exact hy.bind hf

/-- A rendering that only takes place on a condition. -/
lemma Imports.optional {rest : Emission β} (hx : x.Imports S) (hrest : rest.Imports T) :
    (if c then x >>= fun _ => rest else rest).Imports ({i | c ∧ i ∈ S} ∪ T) := by
  split_ifs with hc
  · exact (hx.bind fun _ => hrest).congr (by simp [hc])
  · exact hrest.congr (by simp [hc])

end

section
variable {γ : Type} {g : γ → Emission α} {own : γ → Set Import}

lemma imports_mapM {cs : List γ} (h : ∀ c ∈ cs, (g c).Imports (own c)) :
    ((cs.map g).mapM id).Imports {i | ∃ c ∈ cs, i ∈ own c} := by
  induction cs with
  | nil => exact (imports_pure []).congr (by simp)
  | cons c cs ih =>
    rw [List.map_cons, List.mapM_cons]
    refine ((h c List.mem_cons_self).bind fun a => (ih fun c hc =>
      h c (List.mem_cons_of_mem _ hc)).bind_pure _).congr ?_
    ext i
    simp

lemma imports_join {g : γ → Emission String} {cs : List γ}
    (h : ∀ c ∈ cs, (g c).Imports (own c)) :
    (join (cs.map g)).Imports {i | ∃ c ∈ cs, i ∈ own c} :=
  (imports_mapM h).bind_pure _

end
end Emission

open Emission

/-- What the shown nodes have is what the first of them has and what those of its children have. -/
lemma setOf_shown {f : Framework} {plugins : PluginRegistry} (own : Element → List Import)
    (n : Node) :
    {i | ∃ m, Shown f plugins n m ∧ i ∈ own m.head} =
      {i | i ∈ own n.head} ∪
        {i | ∃ c ∈ shownChildren f plugins n.head n.children,
          i ∈ {i | ∃ m, Shown f plugins c m ∧ i ∈ own m.head}} := by
  ext i
  constructor
  · rintro ⟨m, hm, hi⟩
    rcases shown_iff.1 hm with rfl | ⟨c, hc, hm⟩
    · exact .inl hi
    · exact .inr ⟨c, hc, m, hm, hi⟩
  · rintro (hi | ⟨c, hc, m, hm, hi⟩)
    · exact ⟨n, .refl n, hi⟩
    · exact ⟨m, shown_iff.2 (.inr ⟨c, hc, hm⟩), hi⟩

/-! ### Clicks -/

/-- Whether a click on an element does anything. -/
def takesClick (e : Element) : Bool :=
  match e.interactions.bind (·.onClick) with
  | none => false
  | some c =>
    match c.action, nonEmpty c.target, nonEmpty c.code with
    | .navigate, some _, _ => true
    | .toggleVisibility, some _, _ => true
    | .custom, _, some _ => true
    | _, _, _ => false

section
variable {d : ReactDialect} {e : Element}

lemma isSome_of_gives_click {handler : Option String}
    (h : (Jsx.clickHandler? d e).Gives handler) : handler.isSome = takesClick e := by
  unfold Jsx.clickHandler? at h
  unfold takesClick
  cases hclick : e.interactions.bind (·.onClick) with
  | none =>
    simp only [hclick, gives_pure] at h
    simp [← h]
  | some c =>
    simp only [hclick] at h
    cases haction : c.action <;> cases htarget : nonEmpty c.target <;>
      cases hcode : nonEmpty c.code <;>
      simp only [haction, htarget, hcode, gives_pure, gives_bind] at h ⊢ <;>
      grind

lemma imports_click {S : Set Import} (hd : ∀ route, (d.navigate route).Imports S) :
    (Jsx.clickHandler? d e).Imports {i | navigates e = true ∧ i ∈ S} := by
  unfold Jsx.clickHandler? navigates
  cases hclick : e.interactions.bind (·.onClick) with
  | none => exact (imports_pure none).congr (by simp)
  | some c =>
    dsimp only
    split
    · next haction htarget =>
      exact ((hd _).bind_pure _).congr (by simp [haction, htarget])
    · next haction _ => exact (imports_pure _).congr (by simp [haction])
    · next haction _ => exact (imports_pure _).congr (by simp [haction])
    · next hother _ _ =>
      refine (imports_pure _).congr (Set.eq_empty_iff_forall_notMem.2 fun i hi => ?_).symm
      obtain ⟨hnavigates, -⟩ := hi
      obtain ⟨haction, htarget⟩ := Bool.and_eq_true_iff.1 hnavigates
      obtain ⟨route, hroute⟩ := Option.isSome_iff_exists.1 htarget
      exact hother route (of_decide_eq_true haction) hroute

end
/-! ### Next.js -/

namespace Nextjs

/-- The link component of the framework. -/
def linkImport : Import := ⟨"next/link", "Link", true⟩

/-- The library's component for an element. -/
def libraryImports (p : Page) (e : Element) : List Import :=
  (p.library.bind (·.import? e.type p.config.importAlias)).toList.map fun m => ⟨m.2, m.1, false⟩

/-- What an element imports for itself. -/
def ownImports (p : Page) (e : Element) : List Import :=
  match NodeKind.classify e.type e.props with
  | .builtin .input | .builtin .divider | .builtin .scrollArea | .builtin .card
  | .builtin .button => libraryImports p e
  | .builtin .link => [linkImport]
  | .builtin .nav => if (navItems e).isEmpty then [] else [linkImport]
  | .builtin .icon =>
    let name := propText e "name" "Star"
    if isIconName name then [⟨"lucide-react", name ++ "Icon", false⟩] else []
  | _ => []

section
variable {p : Page} {e : Element} {tag body : String} {x : Extras}

lemma imports_attributes : (attributes p e x).Imports ∅ := by
  refine Imports.bind_pure (Imports.congr (imports_click fun _ => imports_pure _) ?_) _
  simp

lemma imports_block : (block p e tag x body).Imports ∅ := imports_attributes.bind_pure _

lemma imports_inline : (inline p e tag x body).Imports ∅ := imports_attributes.bind_pure _

lemma imports_component : (component? p e).Imports {i | i ∈ libraryImports p e} := by
  unfold component? libraryImports
  split
  · next h => exact (imports_pure none).congr (by simp [h])
  · next name source h => exact ((imports_use source name).map some).congr (by simp [h])

lemma imports_input : (input p e).Imports {i | i ∈ libraryImports p e} := by
  unfold input
  refine (imports_component.bind (T := ∅) fun tag => ?_).congr (Set.union_empty _)
  exact .ite imports_block imports_block

lemma imports_link : (link p e).Imports {linkImport} :=
  ((imports_useDefault "next/link" "Link").bind fun _ => imports_inline).congr (Set.union_empty _)

lemma imports_divider : (divider p e).Imports {i | i ∈ libraryImports p e} := by
  refine (imports_component.bind (T := ∅) fun tag => ?_).congr (Set.union_empty _)
  cases tag <;> exact imports_block

lemma imports_button : (button p e).Imports {i | i ∈ libraryImports p e} := by
  refine (imports_component.bind (T := ∅) fun tag => ?_).congr (Set.union_empty _)
  cases tag <;> exact imports_inline

lemma imports_icon (htype : NodeKind.classify e.type e.props = .builtin .icon) :
    (icon p e).Imports {i | i ∈ ownImports p e} := by
  unfold icon ownImports
  simp only [htype]
  split
  · refine ((imports_use _ _).bind fun _ => imports_block).congr ?_
    simp
  · refine imports_inline.congr ?_
    simp

lemma imports_heading : (heading p e).Imports ∅ :=
  (imports_ofExcept _).bind_of_empty fun _ => imports_inline

lemma imports_nav (children : String) :
    (nav p e children).Imports {i | (!(navItems e).isEmpty) = true ∧ i = linkImport} := by
  unfold nav
  exact ((imports_useDefault "next/link" "Link").discard.optional imports_block).congr
    (Set.union_empty _)

lemma imports_table : (table p e).Imports ∅ := by
  unfold table
  dsimp only
  split
  · exact (imports_pure _).bind_of_empty fun _ => imports_block
  · refine (imports_ofExcept _).bind_of_empty fun rows => ?_
    split
    · exact (imports_pure _).bind_of_empty fun _ => imports_block
    · exact (imports_pure _).bind_of_empty fun _ => imports_block

/-- An element that holds no others imports what it needs for itself. -/
lemma imports_leaf {t : BuiltinType} (ht : t.isContainer = false)
    (hkind : NodeKind.classify e.type e.props = .builtin t) (children : List (Emission String)) :
    (builtin p t e children).Imports {i | i ∈ ownImports p e} := by
  cases t with
  | stack | grid | sectionBox | scrollArea | box | card | form | modal | tabs | nav => cases ht
  | icon => exact imports_icon hkind
  | spacer | image | list => exact imports_block.congr (by simp [ownImports, hkind])
  | heading => exact imports_heading.congr (by simp [ownImports, hkind])
  | text => exact imports_inline.congr (by simp [ownImports, hkind])
  | link => exact imports_link.congr (by simp [ownImports, hkind])
  | dataTable => exact imports_table.congr (by simp [ownImports, hkind])
  | input => exact imports_input.congr (by simp only [ownImports, hkind])
  | divider => exact imports_divider.congr (by simp only [ownImports, hkind])
  | button => exact imports_button.congr (by simp only [ownImports, hkind])

section
variable {g : Node → Emission String} {own : Node → Set Import} {cs : List Node}

/-- The elements that hold others import what these import, too. -/
lemma imports_container {t : BuiltinType} (ht : t.isContainer = true)
    (hkind : NodeKind.classify e.type e.props = .builtin t)
    (h : ∀ c ∈ cs, (g c).Imports (own c)) :
    (builtin p t e (cs.map g)).Imports
      ({i | i ∈ ownImports p e} ∪ {i | ∃ c ∈ cs, i ∈ own c}) := by
  have hjoin := imports_join h
  cases t with
  | stack | grid | sectionBox | box | form | modal =>
    exact (hjoin.bind fun _ => imports_block).congr (by simp [ownImports, hkind])
  | tabs => exact ((imports_mapM h).bind fun _ => imports_block).congr (by simp [ownImports, hkind])
  | nav =>
    refine (hjoin.bind fun _ => imports_nav _).congr ?_
    rw [Set.union_comm]
    simp [ownImports, hkind]
  | scrollArea | card =>
    have hbox : ∀ tag x, (join (cs.map g) >>= fun body => block p e tag x body).Imports
        {i | ∃ c ∈ cs, i ∈ own c} := fun tag x =>
      (hjoin.bind fun _ => imports_block).congr (Set.union_empty _)
    have hown : ownImports p e = libraryImports p e := by simp only [ownImports, hkind]
    rw [hown]
    refine imports_component.bind fun tag => ?_
    cases tag with
    | some tag => exact hbox tag _
    | none => exact hbox "div" _
  | _ => cases ht

lemma imports_unconditional (h : ∀ c ∈ cs, (g c).Imports (own c)) :
    (unconditional p e (cs.map g)).Imports
      ({i | i ∈ ownImports p e} ∪ {i | ∃ c ∈ shownChildren .nextjs p.plugins e cs, i ∈ own c}) := by
  unfold unconditional shownChildren
  cases hkind : NodeKind.classify e.type e.props with
  | reference ref => exact imports_inline.congr (by simp [ownImports, hkind])
  | builtin t =>
    cases ht : t.isContainer with
    | true =>
      dsimp only
      rw [heldChildren_of_container ht (.inl (by decide))]
      exact imports_container ht hkind h
    | false =>
      exact (imports_leaf ht hkind _).congr (by simp [heldChildren_of_not_container ht])
  | other tag =>
    dsimp only
    cases hplugin : p.plugins.get? e.type with
    | some plugin => exact (imports_ofExcept _).congr (by simp [ownImports, hkind])
    | none =>
      exact ((imports_join h).bind fun _ => imports_block).congr (by simp [ownImports, hkind])

lemma imports_element (h : ∀ c ∈ cs, (g c).Imports (own c)) :
    (element p e (cs.map g)).Imports
      ({i | i ∈ ownImports p e} ∪ {i | ∃ c ∈ shownChildren .nextjs p.plugins e cs, i ∈ own c}) := by
  refine ((imports_unconditional h).bind (T := ∅) fun _ => ?_).congr (Set.union_empty _)
  split <;> exact imports_pure _

end
end

/-- A tree imports what the nodes that are shown of it import. -/
lemma imports_render (p : Page) (n : Node) :
    (render p n).Imports {i | ∃ m, Shown .nextjs p.plugins n m ∧ i ∈ ownImports p m.head} := by
  induction n using Node.induction with
  | leaf e =>
    rw [setOf_shown]
    have hnone : ∀ c ∈ ([] : List Node), (render p c).Imports
        {i | ∃ m, Shown .nextjs p.plugins c m ∧ i ∈ ownImports p m.head} := by simp
    exact imports_element hnone
  | branch e cs ih =>
    rw [render, renderAll_eq_map, setOf_shown]
    exact imports_element ih

end Nextjs
/-! ### Expo -/

namespace Expo

def nativeImport (tag : String) : Import := ⟨"react-native", tag, false⟩

def routerImport : Import := ⟨"expo-router", "router", false⟩

/-- What the element of a node imports: its tag, the router that a press uses, and the wrapper of a
press that the tag does not take. -/
def tagImports (e : Element) (tag : String) : List Import :=
  nativeImport tag :: (if navigates e then [routerImport] else []) ++
    if takesClick e && !takesPress tag then [nativeImport "Pressable"] else []

/-- What a press on a link imports. -/
def targetImports (href : String) : List Import :=
  if href = "" ∨ href = "#" then []
  else if href.toList.head? = some '/' then [routerImport]
  else [nativeImport "Linking"]

/-- The tag of an element. -/
def nativeTag (e : Element) : String :=
  match NodeKind.classify e.type e.props with
  | .builtin .heading | .builtin .text => "Text"
  | .builtin .image => if propText e "src" = "" then "View" else "Image"
  | .builtin .input => if propText e "label" = "" then "TextInput" else "View"
  | .builtin .link | .builtin .button => "TouchableOpacity"
  | .builtin .scrollArea => "ScrollView"
  | _ => "View"

/-- What stands inside an element beside its children imports. -/
def innerImports (s : Screen) (e : Element) : List Import :=
  match NodeKind.classify e.type e.props with
  | .reference _ | .other _ | .builtin .icon | .builtin .button => [nativeImport "Text"]
  | .builtin .image => if propText e "src" = "" then [nativeImport "Text"] else []
  | .builtin .input =>
    if propText e "label" = "" then [] else [nativeImport "TextInput", nativeImport "Text"]
  | .builtin .link =>
    (if takesClick e then [] else targetImports (propText e "href" "#")) ++ [nativeImport "Text"]
  | .builtin .list =>
    if (s.state.fetchFor? e.id).isSome || !(listItems e).isEmpty then [nativeImport "Text"] else []
  | .builtin .modal | .builtin .dataTable => [nativeImport "Text", nativeImport "View"]
  | .builtin .tabs => [nativeImport "TouchableOpacity", nativeImport "View"] ++
      if (tabLabels e).isEmpty then [] else [nativeImport "Text"]
  | .builtin .nav => (navItems e).flatMap fun l =>
      targetImports l.2 ++ [nativeImport "TouchableOpacity", nativeImport "Text"]
  | _ => []

/-- What an element that no plugin renders imports for itself. -/
def elementImports (s : Screen) (e : Element) : List Import :=
  innerImports s e ++ tagImports e (nativeTag e)

/-- What an element imports for itself. -/
def ownImports (s : Screen) (e : Element) : List Import :=
  if (pluginOf? s.plugins e).isSome then [] else elementImports s e

section
variable {s : Screen} {e : Element} {tag body : String} {style : Fields Json}
  {attrs : List String}

lemma imports_native (tag : String) : (native tag).Imports {nativeImport tag} := imports_use _ _

lemma imports_navigateCall (target : String) : (navigateCall target).Imports {routerImport} :=
  (imports_use _ _).discard.bind_pure _

lemma imports_styleParts : (styleParts s e style).Imports ∅ := by
  unfold styleParts
  dsimp only
  split
  · split
    · exact imports_ofExcept _
    · exact imports_pure _
  · exact imports_pure _

lemma eq_of_gives_native {tag' : String} (h : (native tag).Gives tag') : tag' = tag := by
  obtain ⟨is, hrun⟩ := h
  cases hrun
  rfl

lemma imports_nodeElement (build : String → List String → String) :
    (nodeElement s e tag style attrs build).Imports {i | i ∈ tagImports e tag} := by
  have hclick : (Jsx.clickHandler? dialect e).Imports {i | navigates e = true ∧ i = routerImport} :=
    imports_click imports_navigateCall
  refine Imports.congr (imports_styleParts.bind_of_empty fun styles =>
    hclick.bind_gives fun handler hhandler => (imports_native tag).bind_gives
      (T := {i | (takesClick e && !takesPress tag) = true ∧ i = nativeImport "Pressable"})
      fun tag' htag => ?_) ?_
  · obtain rfl := eq_of_gives_native htag
    rw [← isSome_of_gives_click hhandler]
    cases handler with
    | none => exact (imports_pure _).congr (by simp)
    | some press =>
      dsimp only [Option.map_some]
      split
      · next htakes => exact (imports_pure _).congr (by simp [htakes])
      · next htakes =>
        refine ((imports_native "Pressable").bind_pure _).congr ?_
        simp [htakes]
  · ext i
    simp [tagImports, List.mem_ite_nil_right]

lemma imports_block : (block s e tag style attrs body).Imports {i | i ∈ tagImports e tag} :=
  imports_nodeElement _

lemma imports_inline : (inline s e tag style body).Imports {i | i ∈ tagImports e tag} :=
  imports_nodeElement _

lemma imports_label (text : String) (style : Fields Json) :
    (label text style).Imports {nativeImport "Text"} :=
  (imports_native "Text").bind_pure _

lemma imports_view (style : Fields Json) (body : String) :
    (view style body).Imports {nativeImport "View"} :=
  (imports_native "View").bind_pure _

lemma imports_openTarget (href : String) :
    (openTarget? href).Imports {i | i ∈ targetImports href} := by
  unfold openTarget? targetImports
  split
  · exact (imports_pure none).congr (by simp)
  · split
    · exact ((imports_navigateCall href).bind_pure _).congr (by simp)
    · exact ((imports_native "Linking").discard.bind_pure _).congr (by simp)

lemma imports_tabButton (name : String) (active : Bool) :
    (tabButton name active).Imports {nativeImport "Text", nativeImport "TouchableOpacity"} :=
  (imports_label _ _).bind fun _ => (imports_native "TouchableOpacity").bind_pure _

lemma imports_navButton (l : String × String) :
    (navButton l).Imports
      {i | i ∈ targetImports l.2 ++ [nativeImport "TouchableOpacity", nativeImport "Text"]} :=
  ((imports_openTarget l.2).bind fun _ => (imports_native "TouchableOpacity").bind fun _ =>
    (imports_label _ _).bind_pure _).congr (by ext i; simp; tauto)

lemma imports_emptyRow : emptyRow.Imports {nativeImport "Text", nativeImport "View"} :=
  (imports_label _ _).bind fun _ => imports_view _ _

/-- Texts import the same component however many they are. -/
lemma imports_labels {α : Type} {f : α → Emission String} {xs : List α}
    (h : ∀ x ∈ xs, (f x).Imports {nativeImport "Text"}) :
    (join (xs.map f)).Imports {i | xs ≠ [] ∧ i = nativeImport "Text"} := by
  refine (imports_join h).congr ?_
  cases xs <;> simp

lemma imports_placeholder {ref : Option String}
    (hkind : NodeKind.classify e.type e.props = .reference ref) :
    (placeholder s e).Imports {i | i ∈ elementImports s e} := by
  refine ((imports_label _ _).bind fun _ => imports_block).congr ?_
  ext i
  simp [elementImports, innerImports, nativeTag, hkind]

lemma imports_heading (hkind : NodeKind.classify e.type e.props = .builtin .heading) :
    (heading s e).Imports {i | i ∈ elementImports s e} := by
  refine ((imports_ofExcept _).bind_of_empty fun _ => imports_inline).congr ?_
  simp [elementImports, innerImports, nativeTag, hkind]

lemma imports_image (hkind : NodeKind.classify e.type e.props = .builtin .image) :
    (image s e).Imports {i | i ∈ elementImports s e} := by
  unfold image
  dsimp only
  split
  · next hsource =>
    refine ((imports_label _ _).bind fun _ => imports_block).congr ?_
    ext i
    simp [elementImports, innerImports, nativeTag, hkind, hsource]
  · next hsource =>
    refine imports_block.congr ?_
    simp [elementImports, innerImports, nativeTag, hkind, hsource]

lemma imports_input (hkind : NodeKind.classify e.type e.props = .builtin .input) :
    (input s e).Imports {i | i ∈ elementImports s e} := by
  unfold input
  dsimp only
  split
  · next hlabel =>
    refine imports_block.congr ?_
    simp [elementImports, innerImports, nativeTag, hkind, hlabel]
  · next hlabel =>
    refine ((imports_native _).bind fun _ => (imports_label _ _).bind fun _ =>
      imports_block).congr ?_
    ext i
    simp [elementImports, innerImports, nativeTag, hkind, hlabel, or_left_comm]

lemma imports_link (hkind : NodeKind.classify e.type e.props = .builtin .link) :
    (link s e).Imports {i | i ∈ elementImports s e} := by
  have hclick : (Jsx.clickHandler? dialect e).Imports {i | navigates e = true ∧ i = routerImport} :=
    imports_click imports_navigateCall
  refine Imports.congr (hclick.bind_gives
    (T := (if takesClick e then ∅ else {i | i ∈ targetImports (propText e "href" "#")}) ∪
      ({nativeImport "Text"} ∪ {i | i ∈ tagImports e "TouchableOpacity"})) fun own hown => ?_) ?_
  · rw [← isSome_of_gives_click hown]
    exact .either (imports_pure none) (imports_openTarget _) fun press =>
      (imports_label _ _).bind fun _ => imports_block
  · ext i
    simp only [elementImports, innerImports, nativeTag, hkind, tagImports]
    cases takesClick e <;> simp <;> tauto

lemma imports_list (hkind : NodeKind.classify e.type e.props = .builtin .list) :
    (list s e).Imports {i | i ∈ elementImports s e} := by
  unfold list
  dsimp only
  split
  · next f hfetch =>
    refine ((imports_native _).discard.bind fun _ => imports_block).congr ?_
    ext i
    simp [elementImports, innerImports, nativeTag, hkind, hfetch]
  · next hfetch =>
    refine ((imports_labels fun _ _ => imports_label _ _).bind fun _ => imports_block).congr ?_
    ext i
    simp [elementImports, innerImports, nativeTag, hkind, hfetch, List.mem_ite_nil_left]

lemma imports_icon (hkind : NodeKind.classify e.type e.props = .builtin .icon) :
    (icon s e).Imports {i | i ∈ elementImports s e} := by
  refine ((imports_label _ _).bind fun _ => imports_block).congr ?_
  ext i
  simp [elementImports, innerImports, nativeTag, hkind]

lemma imports_button (hkind : NodeKind.classify e.type e.props = .builtin .button) :
    (button s e).Imports {i | i ∈ elementImports s e} := by
  refine ((imports_label _ _).bind fun _ => imports_block).congr ?_
  ext i
  simp [elementImports, innerImports, nativeTag, hkind]

lemma imports_modal (hkind : NodeKind.classify e.type e.props = .builtin .modal)
    (children : String) : (modal s e children).Imports {i | i ∈ elementImports s e} := by
  refine Imports.congr ((imports_label _ _).bind fun title => (imports_view _ _).bind fun header =>
    .either (imports_pure _) (imports_view _ _) fun content => imports_block) ?_
  ext i
  split_ifs <;> simp [elementImports, innerImports, nativeTag, hkind, or_left_comm]

lemma imports_tabs {g : Node → Emission String} {own : Node → Set Import} {cs : List Node}
    (hkind : NodeKind.classify e.type e.props = .builtin .tabs)
    (h : ∀ c ∈ cs, (g c).Imports (own c)) :
    (tabs s e (cs.map g)).Imports
      ({i | i ∈ elementImports s e} ∪ {i | ∃ c ∈ cs.take 1, i ∈ own c}) := by
  have hbuttons : (join ((tabLabels e).zipIdx.map fun l => tabButton l.1 (l.2 == 0))).Imports
      {i | ∃ l ∈ (tabLabels e).zipIdx,
        i ∈ ({nativeImport "Text", nativeImport "TouchableOpacity"} : Set Import)} :=
    imports_join fun l _ => imports_tabButton l.1 _
  have hhead : ∀ content bar, (block s e "View" [] [] (withChildren bar content)).Imports
      {i | i ∈ tagImports e "View"} := fun _ _ => imports_block
  unfold tabs
  cases cs with
  | nil =>
    refine ((imports_native _).discard.bind fun _ => hbuttons.bind fun buttons =>
      (imports_view _ _).bind fun bar => (imports_pure "").bind_of_empty fun content =>
        hhead content bar).congr ?_
    ext i
    cases hlabels : tabLabels e <;>
      simp [elementImports, innerImports, nativeTag, hkind, hlabels] <;> tauto
  | cons c cs =>
    refine ((imports_native _).discard.bind fun _ => hbuttons.bind fun buttons =>
      (imports_view _ _).bind fun bar => (h c List.mem_cons_self).bind fun panel =>
        (imports_view _ _).bind fun content => hhead content bar).congr ?_
    ext i
    cases hlabels : tabLabels e <;>
      simp [elementImports, innerImports, nativeTag, hkind, hlabels] <;> tauto

lemma imports_nav {g : Node → Emission String} {own : Node → Set Import} {cs : List Node}
    (hkind : NodeKind.classify e.type e.props = .builtin .nav)
    (h : ∀ c ∈ cs, (g c).Imports (own c)) :
    (nav s e (cs.map g)).Imports
      ({i | i ∈ elementImports s e} ∪ {i | ∃ c ∈ cs, i ∈ own c}) := by
  refine ((imports_mapM fun l _ => imports_navButton l).bind fun buttons =>
    (imports_join h).bind fun body => imports_block).congr ?_
  ext i
  simp [elementImports, innerImports, nativeTag, hkind, or_assoc, or_comm, or_left_comm]

lemma imports_tableRow (columns : List (String × String)) (row : Fields Json) :
    (tableRow columns row).Imports
      ({i | columns ≠ [] ∧ i = nativeImport "Text"} ∪ {nativeImport "View"}) :=
  (imports_labels fun _ _ => imports_label _ _).bind fun _ => imports_view _ _

/-- The row that stands for no rows brings all that a table needs. -/
lemma imports_table (hkind : NodeKind.classify e.type e.props = .builtin .dataTable) :
    (table s e).Imports {i | i ∈ elementImports s e} := by
  have hheader : (join ((tableColumns e).map fun c => headerCell c.2)).Imports
      {i | tableColumns e ≠ [] ∧ i = nativeImport "Text"} :=
    imports_labels fun _ _ => imports_label _ _
  have hend : ∀ headerCells rows, Emission.Imports (do
      let header ← view
        ([("flexDirection", Json.str "row"), ("backgroundColor", Json.str "#f9fafb")] ++ bottomLine)
        headerCells
      block s e "View"
        [("borderWidth", .int 1), ("borderColor", border), ("borderRadius", .int 8),
          ("overflow", .str "hidden")] [] (header ++ "\n" ++ rows))
      ({nativeImport "View"} ∪ {i | i ∈ tagImports e "View"}) :=
    fun _ _ => (imports_view _ _).bind fun _ => imports_block
  unfold table
  dsimp only
  split
  · refine (hheader.bind fun cells => imports_emptyRow.bind fun empty =>
      (imports_native "Text").discard.bind fun _ => (imports_pure _).bind_of_empty
      fun rows => hend cells rows).congr ?_
    ext i
    simp [elementImports, innerImports, nativeTag, hkind]
    tauto
  · have hrows : ∀ rows, rowsAtHand e = .ok rows → (rowsAtHand e).toOption.getD [] = rows := by
      intro rows h
      rw [h]
      rfl
    refine Imports.congr (hheader.bind fun cells => imports_emptyRow.bind fun empty =>
      imports_ofExcept_bind (T := {i | ∃ row ∈ (rowsAtHand e).toOption.getD [],
        i ∈ {i | tableColumns e ≠ [] ∧ i = nativeImport "Text"} ∪ {nativeImport "View"}} ∪
          ({nativeImport "View"} ∪ {i | i ∈ tagImports e "View"})) fun rows h => ?_) ?_
    · rw [hrows rows h]
      split
      · exact ((imports_pure empty).bind (hend cells)).congr (by simp)
      · exact (imports_join fun row _ => imports_tableRow _ row).bind (hend cells)
    · ext i
      simp [elementImports, innerImports, nativeTag, hkind]
      tauto

/-- An element that holds no others imports what it needs for itself. -/
lemma imports_leaf {t : BuiltinType} (ht : t.isContainer = false)
    (hkind : NodeKind.classify e.type e.props = .builtin t) (children : List (Emission String)) :
    (builtin s t e children).Imports {i | i ∈ elementImports s e} := by
  cases t with
  | stack | grid | sectionBox | scrollArea | box | card | form | modal | tabs | nav => cases ht
  | spacer | divider =>
    exact imports_block.congr (by simp [elementImports, innerImports, nativeTag, hkind])
  | text => exact imports_inline.congr (by simp [elementImports, innerImports, nativeTag, hkind])
  | heading => exact imports_heading hkind
  | image => exact imports_image hkind
  | input => exact imports_input hkind
  | link => exact imports_link hkind
  | list => exact imports_list hkind
  | icon => exact imports_icon hkind
  | button => exact imports_button hkind
  | dataTable => exact imports_table hkind

section
variable {g : Node → Emission String} {own : Node → Set Import} {cs : List Node}

/-- The elements that hold others import what these import, too. -/
lemma imports_container {t : BuiltinType} (ht : t.isContainer = true)
    (hkind : NodeKind.classify e.type e.props = .builtin t)
    (h : ∀ c ∈ cs, (g c).Imports (own c)) :
    (builtin s t e (cs.map g)).Imports
      ({i | i ∈ elementImports s e} ∪ {i | ∃ c ∈ heldChildren .expo t cs, i ∈ own c}) := by
  have hjoin := imports_join h
  cases t with
  | stack | grid | sectionBox | box | card | form | scrollArea =>
    rw [heldChildren_of_container rfl (.inr (by decide)), Set.union_comm]
    exact (hjoin.bind fun _ => imports_block).congr
      (by simp [elementImports, innerImports, nativeTag, hkind])
  | modal =>
    rw [heldChildren_of_container rfl (.inr (by decide)), Set.union_comm]
    exact hjoin.bind fun _ => imports_modal hkind _
  | tabs => exact imports_tabs hkind h
  | nav =>
    rw [heldChildren_of_container rfl (.inr (by decide))]
    exact imports_nav hkind h
  | _ => cases ht

lemma imports_unconditional (h : ∀ c ∈ cs, (g c).Imports (own c)) :
    (unconditional s e (cs.map g)).Imports
      ({i | i ∈ ownImports s e} ∪ {i | ∃ c ∈ shownChildren .expo s.plugins e cs, i ∈ own c}) := by
  unfold unconditional shownChildren ownImports pluginOf?
  cases hkind : NodeKind.classify e.type e.props with
  | reference ref => exact (imports_placeholder hkind).congr (by simp)
  | builtin t =>
    cases ht : t.isContainer with
    | true => exact imports_container ht hkind h
    | false =>
      exact (imports_leaf ht hkind _).congr (by simp [heldChildren_of_not_container ht])
  | other tag =>
    dsimp only
    cases hplugin : s.plugins.get? e.type with
    | some plugin => exact (imports_ofExcept _).congr (by simp)
    | none =>
      refine ((imports_join h).bind fun _ => (imports_label _ _).bind fun _ =>
        imports_block).congr ?_
      ext i
      simp [elementImports, innerImports, nativeTag, hkind, or_assoc, or_comm]

lemma imports_element (h : ∀ c ∈ cs, (g c).Imports (own c)) :
    (element s e (cs.map g)).Imports
      ({i | i ∈ ownImports s e} ∪ {i | ∃ c ∈ shownChildren .expo s.plugins e cs, i ∈ own c}) := by
  refine ((imports_unconditional h).bind (T := ∅) fun _ => ?_).congr (Set.union_empty _)
  split <;> exact imports_pure _

end
end

/-- A tree imports what the nodes that are shown of it import. -/
lemma imports_render (s : Screen) (n : Node) :
    (render s n).Imports {i | ∃ m, Shown .expo s.plugins n m ∧ i ∈ ownImports s m.head} := by
  induction n using Node.induction with
  | leaf e =>
    rw [setOf_shown]
    have hnone : ∀ c ∈ ([] : List Node), (render s c).Imports
        {i | ∃ m, Shown .expo s.plugins c m ∧ i ∈ ownImports s m.head} := by simp
    exact imports_element hnone
  | branch e cs ih =>
    rw [render, renderAll_eq_map, setOf_shown]
    exact imports_element ih

end Expo
/-! ### Hooks -/

section
variable {d : ReactDialect} {s : Screen} {S : Set Import}

/-- What the state of a screen imports. -/
def stateImports (s : ScreenState) : List Import :=
  (if s.isStateful then [⟨"react", "useState", false⟩] else []) ++
    if s.fetches.isEmpty then [] else [⟨"react", "useEffect", false⟩]

lemma imports_hookLines (hd : d.routerLines.Imports S) :
    (Jsx.hookLines d s).Imports
      ({i | s.state.navigates = true ∧ i ∈ S} ∪ {i | i ∈ stateImports s.state}) := by
  unfold Jsx.hookLines
  refine Imports.congr (.either hd (imports_pure []) fun router =>
    (imports_use "react" "useState").discard.optional <|
      (imports_use "react" "useEffect").discard.optional <|
        (imports_ofExcept _).bind_of_empty fun started => imports_pure _) ?_
  ext i
  cases s.state.navigates <;>
    simp [stateImports, List.mem_ite_nil_left, List.mem_ite_nil_right]

end

/-- What the hooks of a React module import. -/
def hookImports (f : Framework) (s : ScreenState) : List Import :=
  stateImports s ++
    match f with
    | .nextjs => if s.navigates then [⟨"next/navigation", "useRouter", false⟩] else []
    | .expo => if s.responsive.isEmpty then [] else [Expo.nativeImport "useWindowDimensions"]
    | _ => []

lemma Nextjs.imports_hooks (s : Screen) :
    (Jsx.hookLines Nextjs.dialect s).Imports {i | i ∈ hookImports .nextjs s.state} := by
  have hrouter : Nextjs.dialect.routerLines.Imports {⟨"next/navigation", "useRouter", false⟩} :=
    (imports_use _ _).discard.bind_pure _
  refine (imports_hookLines hrouter).congr ?_
  ext i
  simp [hookImports, List.mem_ite_nil_right, or_comm]

lemma Expo.imports_hooks (s : Screen) :
    (Expo.hookLines s).Imports {i | i ∈ hookImports .expo s.state} := by
  have hhooks : (Jsx.hookLines Expo.dialect s).Imports {i | i ∈ stateImports s.state} :=
    (imports_hookLines (imports_pure [])).congr (by simp)
  unfold hookLines
  refine (hhooks.bind (T := {i | s.state.responsive.isEmpty = false ∧
    i = nativeImport "useWindowDimensions"}) fun hooks => ?_).congr ?_
  · split
    · next h => exact (imports_pure _).congr (by simp [h])
    · next h => exact ((imports_native _).discard.bind_pure _).congr (by simp [h])
  · ext i
    simp [hookImports, List.mem_ite_nil_left]

/-- A screen with the library that its project names. -/
def Nextjs.pageOf (s : Screen) : Page :=
  { s with library := ComponentLibrary.ofName? s.config.componentLibrary }

/-- What an element imports for itself on a React target. -/
def ownImports (f : Framework) (s : Screen) (e : Element) : List Import :=
  match f with
  | .nextjs => Nextjs.ownImports (Nextjs.pageOf s) e
  | .expo => Expo.ownImports s e
  | _ => []

end Screenwright.Emit
