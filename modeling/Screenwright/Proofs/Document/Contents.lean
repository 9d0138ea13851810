import Screenwright.Editor.Operations
import Screenwright.Proofs.Document.Trail

/-! The contents of a tree: which elements it has, order aside, after each kind of change. -/
namespace Screenwright
open scoped List

namespace Trail

/-- What a node gains at the end of a trail, the whole tree gains. -/
theorem elements_plug_gain (t : Trail) {m n : Node} {gain : List Element}
    (h : n.elements ~ gain ++ m.elements) :
    (t.plug n).elements ~ gain ++ (t.plug m).elements := by
  rw [elements_plug, elements_plug]
  calc t.elementsBefore ++ n.elements ++ t.elementsAfter
      ~ t.elementsBefore ++ (gain ++ m.elements) ++ t.elementsAfter :=
        (h.append_left _).append_right _
    _ ~ gain ++ (t.elementsBefore ++ m.elements ++ t.elementsAfter) := by
        simpa using List.perm_append_comm_assoc t.elementsBefore gain _

end Trail

namespace Node

lemma elements_branch_perm (e : Element) {cs ds : List Node} (h : cs ~ ds) :
    (branch e cs).elements ~ (branch e ds).elements := by
  simpa using (h.flatMap_right elements).cons e

/-- Trees with the same elements in some order have the same ids in some order. -/
lemma ids_perm {n : Node} {es : List Element} (h : n.elements ~ es) :
    n.ids ~ es.map Element.id := by
  rw [ids_eq_map]
  exact h.map Element.id

/-! ### Putting in -/

/-- The index of a child that has been put at an index beside others: last, unless the index is that
of one of the others. -/
def childIndex (index : Int) (others : Nat) : Nat :=
  if 0 ≤ index ∧ index < others then index.toNat else others

lemma childIndex_le (index : Int) (others : Nat) : childIndex index others ≤ others := by
  rw [childIndex]
  split <;> omega

/-- An index up to the number of the others is where the child stands. -/
lemma childIndex_of_le {k others : Nat} (h : k ≤ others) : childIndex k others = k := by
  rw [childIndex]
  split <;> omega

lemma insertIdx_length_append {α : Type*} (xs ys : List α) (x : α) :
    (xs ++ ys).insertIdx xs.length x = xs ++ x :: ys := by
  induction xs with
  | nil => simp
  | cons y xs ih => simp [ih]

lemma insertIdx_eq_append {α : Type*} {xs : List α} {k : Nat} (h : k ≤ xs.length) (x : α) :
    xs.insertIdx k x = xs.take k ++ x :: xs.drop k :=
  calc xs.insertIdx k x
      = (xs.take k ++ xs.drop k).insertIdx (xs.take k).length x := by
        rw [List.take_append_drop, List.length_take_of_le h]
    _ = xs.take k ++ x :: xs.drop k := insertIdx_length_append _ _ _

lemma putChild_eq (child : Node) (index : Int) (cs : List Node) :
    putChild child (some index) cs = cs.take (childIndex index cs.length) ++ child ::
      cs.drop (childIndex index cs.length) := by
  rw [putChild, childIndex]
  by_cases hindex : 0 ≤ index ∧ index < cs.length
  · rw [if_neg (by omega), if_pos hindex, insertIdx_eq_append (by omega)]
  · rw [if_pos (by omega), if_neg hindex, List.take_length, List.drop_length]

/-- A child stands between the others that it is put between. -/
lemma putChild_length (front back : List Node) (child : Node) :
    putChild child (some (front.length : Int)) (front ++ back) = front ++ child :: back := by
  rw [putChild_eq, childIndex_of_le (by simp), List.take_left, List.drop_left]

lemma putChild_perm (child : Node) (index : Option Int) (cs : List Node) :
    putChild child index cs ~ child :: cs := by
  unfold putChild
  split
  · exact List.perm_append_singleton child cs
  · next i =>
    split_ifs with h
    · exact List.perm_append_singleton child cs
    · exact List.perm_insertIdx child cs (by omega)

lemma elements_insertChild (child : Node) (index : Option Int) (n : Node) :
    (insertChild child index n).elements ~ child.elements ++ n.elements := by
  have h := elements_branch_perm n.head (putChild_perm child index n.children)
  rw [insertChild, elements_eq_cons n]
  refine h.trans ?_
  simpa using List.perm_middle.symm

/-- A tree gains the elements of what is put under one of its nodes. -/
theorem elements_insertUnder {n : Node} {parent : String} (child : Node) (index : Option Int)
    (h : n.hasId parent) :
    (insertUnder parent child index n).elements ~ child.elements ++ n.elements := by
  obtain ⟨m, hm⟩ := Option.isSome_iff_exists.1 h
  obtain ⟨t, rfl, ht⟩ := exists_trail_of_find? hm
  rw [insertUnder, ht]
  exact t.elements_plug_gain (elements_insertChild child index m)

lemma ids_insertUnder {n : Node} {parent : String} (child : Node) (index : Option Int)
    (h : n.hasId parent) : (insertUnder parent child index n).ids ~ child.ids ++ n.ids := by
  simpa [ids_eq_map] using ids_perm (elements_insertUnder child index h)

/-! ### Taking out -/

/-- A node that has a child of an id is a branch from which that child can be taken. -/
lemma exists_takeChild_of_findParent? {n p : Node} {id : String} (h : n.findParent? id = some p) :
    ∃ c i rest, takeChild? id p.children = some (c, i, rest) ∧
      p = branch p.head p.children := by
  have hany : p.children.any (·.id == id) = true := by simpa using List.find?_some h
  have htake := (takeChild?_isSome id p.children).trans hany
  obtain ⟨⟨c, i, rest⟩, hr⟩ := Option.isSome_iff_exists.1 htake
  refine ⟨c, i, rest, hr, eq_branch_of_children_ne_nil fun hnil => ?_⟩
  simp [hnil] at hany

/-- The elements of a tree are those of the node taken out and those of the rest. -/
theorem elements_detach? {n : Node} {id : String} {d : Detached} (h : n.detach? id = some d) :
    n.elements ~ d.node.elements ++ d.rest.elements ∧ d.node.id = id ∧ d.node ∈ n.nodes := by
  cases hp : n.findParent? id with
  | none => simp [detach?_eq_none id n hp] at h
  | some p =>
    obtain ⟨t, rfl, -, hdetach⟩ := exists_trail_of_findParent? hp
    obtain ⟨c, i, rest, htake, hbranch⟩ := exists_takeChild_of_findParent? hp
    rw [hdetach c i rest htake] at h
    cases h
    obtain ⟨hid, before, after, hcs, rfl, -, -⟩ := takeChild?_eq_some htake
    refine ⟨?_, hid, t.mem_nodes_plug p ?_⟩
    · apply t.elements_plug_gain
      rw [hbranch, hcs]
      have hmiddle : before ++ c :: after ~ c :: (before ++ after) := List.perm_middle
      refine (elements_branch_perm p.head hmiddle).trans ?_
      simpa using List.perm_middle.symm
    · rw [hbranch, nodes_branch, hcs]
      simp [self_mem_nodes]

lemma ids_detach? {n : Node} {id : String} {d : Detached} (hd : n.detach? id = some d) :
    n.ids ~ d.node.ids ++ d.rest.ids := by
  simpa [ids_eq_map] using ids_perm (elements_detach? hd).1

/-- A node below the root can be taken out. -/
lemma detach?_isSome {n p : Node} {id : String} (h : n.findParent? id = some p) :
    (n.detach? id).isSome := by
  obtain ⟨t, -, -, hdetach⟩ := exists_trail_of_findParent? h
  obtain ⟨c, i, rest, htake, -⟩ := exists_takeChild_of_findParent? h
  simp [hdetach c i rest htake]

/-! ### Changing in place -/

/-- A change of the children of one node that lets it gain elements lets the tree gain them. -/
theorem elements_updateSiblings {n p : Node} {id : String} (gain : List Element)
    {f : List Node → List Node} (h : n.findParent? id = some p)
    (hf : (f p.children).flatMap elements ~ gain ++ p.children.flatMap elements) :
    (n.updateSiblings id f).elements ~ gain ++ n.elements := by
  obtain ⟨t, rfl, hsiblings, -⟩ := exists_trail_of_findParent? h
  rw [hsiblings]
  apply t.elements_plug_gain
  rw [elements_branch, elements_eq_cons p]
  exact (hf.cons p.head).trans List.perm_middle.symm

lemma placeChild_perm (id : String) (index : Nat) (cs : List Node) (h : index < cs.length) :
    Editor.placeChild id index cs ~ cs := by
  unfold Editor.placeChild
  cases htake : takeChild? id cs with
  | none => rfl
  | some r =>
    obtain ⟨c, i, rest⟩ := r
    obtain ⟨-, before, after, rfl, rfl, -, -⟩ := takeChild?_eq_some htake
    have hle : index ≤ (before ++ after).length := by
      simp only [List.length_append, List.length_cons] at h ⊢
      omega
    exact (List.perm_insertIdx c _ hle).trans List.perm_middle.symm

/-- A column stands where the child stood that it is put around. -/
lemma wrapChild_eq {id : String} {cs rest : List Node} {c : Node} {i : Nat} (wrapperId : String)
    (h : takeChild? id cs = some (c, i, rest)) :
    ∃ before after, cs = before ++ c :: after ∧
      Editor.wrapChild id wrapperId cs = before ++ Editor.wrapper wrapperId c :: after := by
  obtain ⟨-, before, after, rfl, rfl, rfl, -⟩ := takeChild?_eq_some h
  refine ⟨before, after, rfl, ?_⟩
  rw [Editor.wrapChild, h]
  exact insertIdx_length_append before after _

/-- Putting a column around a child adds the element of the column. -/
lemma wrapChild_elements {id : String} {cs rest : List Node} {c : Node} {i : Nat}
    (wrapperId : String) (h : takeChild? id cs = some (c, i, rest)) :
    (Editor.wrapChild id wrapperId cs).flatMap elements ~
      [(Editor.wrapper wrapperId c).head] ++ cs.flatMap elements := by
  obtain ⟨before, after, rfl, hwrap⟩ := wrapChild_eq wrapperId h
  rw [hwrap]
  simp [Editor.wrapper]

/-- A tree gains the id of a column that is put around one of its nodes. -/
lemma ids_wrapChild {n p : Node} {id : String} (h : n.findParent? id = some p)
    (wrapperId : String) :
    (n.updateSiblings id (Editor.wrapChild id wrapperId)).ids ~ wrapperId :: n.ids := by
  obtain ⟨c, i, rest, htake, -⟩ := exists_takeChild_of_findParent? h
  rw [ids_eq_map n]
  exact ids_perm (elements_updateSiblings _ h (wrapChild_elements wrapperId htake))

/-- Changing the element of the first node of an id exchanges one element of the tree. -/
theorem elements_updateFirst_mapHead {n m : Node} {id : String} (f : Element → Element)
    (h : n.find? id = some m) :
    ∃ es, n.elements ~ m.head :: es ∧ (n.updateFirst id (mapHead f)).elements ~ f m.head :: es := by
  obtain ⟨t, rfl, ht⟩ := exists_trail_of_find? h
  refine ⟨t.elementsBefore ++ m.children.flatMap elements ++ t.elementsAfter, ?_, ?_⟩
  · rw [Trail.elements_plug, elements_eq_cons m]
    simp
  · rw [ht, Trail.elements_plug, elements_eq_cons (m.mapHead f)]
    simp

end Node
end Screenwright
