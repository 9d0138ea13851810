import Screenwright.Emit.Backend
import Screenwright.Proofs.Document.Trail

/-! What a target shows of a tree. An element of a type that holds no others is rendered without its
children, a plugin renders its elements alone, and Expo renders one panel of its tabs. -/
namespace Screenwright.Emit

/-- The plugin that renders an element. -/
def pluginOf? (plugins : PluginRegistry) (e : Element) : Option NodePlugin :=
  match NodeKind.classify e.type e.props with
  | .other _ => plugins.get? e.type
  | _ => none

/-- The children that a target renders in an element of a built-in type. -/
def heldChildren {α : Type} (f : Framework) (t : BuiltinType) (cs : List α) : List α :=
  if t.isContainer then if f = .expo ∧ t = .tabs then cs.take 1 else cs else []

/-- The children of an element that a target renders. -/
def shownChildren {α : Type} (f : Framework) (plugins : PluginRegistry) (e : Element)
    (cs : List α) : List α :=
  match NodeKind.classify e.type e.props with
  | .reference _ => []
  | .builtin t => heldChildren f t cs
  | .other _ => if (plugins.get? e.type).isSome then [] else cs

/-- A node that a target renders as a part of another one. -/
inductive Shown (f : Framework) (plugins : PluginRegistry) : Node → Node → Prop
  | refl (n : Node) : Shown f plugins n n
  | inside {e : Element} {cs : List Node} {c n : Node} (hc : c ∈ shownChildren f plugins e cs)
      (hn : Shown f plugins c n) : Shown f plugins (.branch e cs) n

/-- A screen as a target renders it; HTML shows the rows at hand in place of fetched ones. -/
def Screen.on (f : Framework) (c : Context) (tree : Node) : Screen :=
  { Screen.ofTree c tree with
    state := if f = .html then (ScreenState.ofTree tree).withoutFetches else .ofTree tree }

lemma classify_eq_builtin_iff {tag : String} {props : Fields Json} {t : BuiltinType} :
    NodeKind.classify tag props = .builtin t ↔ tag = t.name := by
  unfold NodeKind.classify
  constructor
  · intro h
    cases hname : BuiltinType.ofName? tag with
    | none =>
      simp only [hname] at h
      split_ifs at h
    | some t' =>
      obtain rfl : t' = t := by simpa [hname] using h
      exact (by simpa using List.find?_some hname : t'.name = tag).symm
  · rintro rfl
    simp

section
variable {α β : Type} {f : Framework} {plugins : PluginRegistry} {e : Element} {cs : List Node}
  {m n : Node}

lemma heldChildren_of_container {t : BuiltinType} (ht : t.isContainer = true)
    (hf : f ≠ .expo ∨ t ≠ .tabs) (xs : List α) : heldChildren f t xs = xs := by
  rw [heldChildren, if_pos ht, if_neg (by rintro ⟨h, h'⟩; exact hf.elim (· h) (· h'))]

lemma heldChildren_of_not_container {t : BuiltinType} (ht : t.isContainer = false) (xs : List α) :
    heldChildren f t xs = [] := by
  rw [heldChildren, if_neg (by simp [ht])]

lemma heldChildren_map (g : α → β) (t : BuiltinType) (xs : List α) :
    heldChildren f t (xs.map g) = (heldChildren f t xs).map g := by
  unfold heldChildren
  split_ifs <;> simp

lemma heldChildren_sublist (t : BuiltinType) (xs : List α) : (heldChildren f t xs).Sublist xs := by
  unfold heldChildren
  split_ifs
  · exact List.take_sublist 1 xs
  · exact List.Sublist.refl xs
  · exact List.nil_sublist xs

lemma shownChildren_map (g : α → β) (xs : List α) :
    shownChildren f plugins e (xs.map g) = (shownChildren f plugins e xs).map g := by
  unfold shownChildren
  split
  · rfl
  · exact heldChildren_map g _ xs
  · split_ifs <;> rfl

lemma shownChildren_sublist (xs : List α) : (shownChildren f plugins e xs).Sublist xs := by
  unfold shownChildren
  split
  · exact List.nil_sublist xs
  · exact heldChildren_sublist _ xs
  · split_ifs
    · exact List.nil_sublist xs
    · exact List.Sublist.refl xs

@[simp] lemma shownChildren_nil : shownChildren f plugins e ([] : List α) = [] :=
  List.sublist_nil.1 (shownChildren_sublist [])

/-- What is rendered of a node is the node itself and what is rendered of the children shown. -/
lemma shown_iff :
    Shown f plugins n m ↔ m = n ∨ ∃ c ∈ shownChildren f plugins n.head n.children,
      Shown f plugins c m := by
  constructor
  · rintro (_ | ⟨hc, hm⟩)
    · exact .inl rfl
    · exact .inr ⟨_, hc, hm⟩
  · rintro (rfl | ⟨c, hc, hm⟩)
    · exact .refl m
    · cases n with
      | leaf e => simp at hc
      | branch e cs => exact .inside hc hm

lemma Shown.mem_nodes (h : Shown f plugins n m) : m ∈ n.nodes := by
  induction h with
  | refl n => exact n.self_mem_nodes
  | inside hc _ ih =>
    rw [Node.nodes_branch]
    exact List.mem_cons_of_mem _ (List.mem_flatMap.2
      ⟨_, (shownChildren_sublist _).subset hc, ih⟩)

lemma Shown.head_mem_elements (h : Shown f plugins n m) : m.head ∈ n.elements :=
  List.mem_map_of_mem h.mem_nodes

/-- A tree without nodes of plugins is shown in the same way whatever the plugins are. -/
lemma shown_iff_of_own {tree : Node} (h : ∀ e ∈ tree.elements, plugins.get? e.type = none) :
    Shown f plugins tree n ↔ Shown f .empty tree n := by
  have hchildren : ∀ e ∈ tree.elements, ∀ cs : List Node,
      shownChildren f plugins e cs = shownChildren f .empty e cs := by
    intro e he cs
    unfold shownChildren
    split
    · rfl
    · rfl
    · rw [h e he]
      rfl
  induction tree using Node.induction with
  | leaf e => rw [shown_iff, shown_iff]; simp
  | branch e cs ih =>
    rw [shown_iff, shown_iff, Node.head_branch, Node.children_branch,
      hchildren e (by simp [Node.elements, Node.nodes_branch])]
    refine or_congr_right (exists_congr fun c => and_congr_right fun hc => ?_)
    have hmem : c ∈ cs := (shownChildren_sublist _).subset hc
    have helements : c.elements ⊆ (Node.branch e cs).elements :=
      Node.elements_subset_of_mem_children hmem
    exact ih c hmem (fun e he => h e (helements he)) fun e he => hchildren e (helements he)

end
end Screenwright.Emit
