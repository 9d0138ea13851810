import Screenwright.Proofs.Editor.Moving

/-! Shifts among siblings: one place up or down is a move under the same parent, and the opposite
shift takes it back. -/
namespace Screenwright

namespace Node
variable {n p c : Node} {t : Trail} {e : Element} {front back : List Node}

lemma insertIdx_eq_putChild {k : Nat} {cs : List Node} (h : k ≤ cs.length) :
    cs.insertIdx k c = putChild c (some (k : Int)) cs := by
  rw [putChild_eq, childIndex_of_le h, insertIdx_eq_append h]

/-- The child at an index, among its siblings. -/
lemma exists_trail_of_getElem? {j : Nat} (hids : n.ids.Nodup) (hp : p ∈ n.nodes)
    (hc : p.children[j]? = some c) :
    ∃ (t : Trail) (front back : List Node), front.length = j ∧
      p.children = front ++ c :: back ∧ n = t.plug (branch p.head (front ++ c :: back)) := by
  obtain ⟨hj, rfl⟩ := List.getElem?_eq_some_iff.1 hc
  have hchildren : p.children = p.children.take j ++ p.children[j] :: p.children.drop (j + 1) := by
    rw [← List.drop_eq_getElem_cons hj, List.take_append_drop]
  obtain ⟨t, htree, -⟩ := exists_trail_of_child hids hp hchildren
  exact ⟨t, _, _, List.length_take_of_le hj.le, hchildren, htree⟩

end Node

namespace Editor
variable {ed : Editor} {id : Option String} {offset : Int} {n : Node} {t : Trail} {e : Element}
  {front back : List Node}

lemma edit_eq {f : Node → Node} {after : Node} (h : f ed.tree = after) :
    ed.edit f = ed.edit fun _ => after := by
  subst h
  rfl

/-- The editor with a child put in under a parent, at a place among the others. -/
def placed (ed : Editor) (t : Trail) (e : Element) (others : List Node) (n : Node) (k : Int) :
    Editor :=
  ed.edit fun _ => t.plug (.branch e (putChild n (some k) others))

lemma tree_placed (ed : Editor) (t : Trail) (e : Element) (n : Node) {others : List Node} {k : Nat}
    (h : k ≤ others.length) :
    (ed.placed t e others n k).tree =
      t.plug (.branch e (others.take k ++ n :: others.drop k)) := by
  change t.plug (.branch e (putChild n (some (k : Int)) others)) = _
  rw [Node.putChild_eq, Node.childIndex_of_le h]

section
variable (hids : ed.tree.ids.Nodup) (htree : ed.tree = t.plug (.branch e (front ++ n :: back)))
include hids htree

lemma notMem_ids_of_tree_eq : n.id ∉ (t.plug (.branch e (front ++ back))).ids := by
  rw [htree] at hids
  exact Node.notMem_ids_without hids n.id_mem_ids

/-- A shift, by the place of its target among the siblings. -/
theorem shift_eq (hid : ed.target? id = some n.id) : ed.shift id offset =
    if ed.isLocked n.id then ed.reject (.locked n.id)
    else if (front.length : Int) + offset < 0 ∨ (front ++ back).length < front.length + offset then
      ed.reject (.atEdge n.id)
    else (ed.placed t e (front ++ back) n (front.length + offset)).apply := by
  have hout := notMem_ids_of_tree_eq hids htree
  have hroot := Node.id_between_ne hout
  have hparent := Node.findParent?_between hout
  have hplace : ∀ k ≤ (front ++ back).length, ed.tree.updateSiblings n.id (placeChild n.id k) =
      t.plug (.branch e (putChild n (some (k : Int)) (front ++ back))) := by
    intro k hk
    rw [htree, Node.updateSiblings_between hout, placeChild, Node.takeChild?_between hout]
    exact congrArg (fun cs => t.plug (.branch e cs)) (Node.insertIdx_eq_putChild hk)
  rw [← htree] at hroot hparent
  simp only [shift, hid, if_neg (Ne.symm hroot), hparent, Node.children_branch,
    Node.findIdx_between hout, Int.ofNat_eq_natCast]
  split_ifs with hlocked hedge hrange hrange
  · rfl
  · rfl
  · simp only [List.length_append, List.length_cons] at hedge hrange
    omega
  · simp only [List.length_append, List.length_cons] at hedge hrange
    omega
  · obtain ⟨k, hk⟩ := Int.eq_ofNat_of_zero_le (show 0 ≤ (front.length : Int) + offset by omega)
    rw [placed, hk, Int.toNat_natCast, edit_eq (hplace k (by omega))]

/-- A move to a place under the same parent. -/
theorem moveNode_eq (hunlocked : ed.isLocked n.id = false) (k : Int) :
    ed.moveNode n.id e.id k = (ed.placed t e (front ++ back) n k).apply := by
  have hout := notMem_ids_of_tree_eq hids htree
  have hd := Node.detach?_between hout
  have hroot := Node.id_between_ne hout
  have hfound := Node.find?_between hout
  have hparent : ∀ cs, e.id ∈ (t.plug (.branch e cs)).ids := fun cs =>
    (Trail.ids_plug t _).mem_iff.2 (List.mem_append_left _ (Node.id_mem_ids (.branch e cs)))
  have haround : e.id ∉ t.ids := by
    rw [htree] at hids
    exact Trail.notMem_ids hids (Node.id_mem_ids (.branch e _))
  have houtside : e.id ∉ n.ids := fun hin => by
    rw [htree] at hids
    exact Node.notMem_ids_without hids hin (hparent _)
  rw [← htree] at hroot hd hfound
  have hcan : ed.CanMove n.id e.id := by
    have hpresent := (Node.hasId_iff _ _).1 (Option.isSome_iff_exists.2 ⟨n, hfound⟩)
    refine ⟨hpresent, Ne.symm hroot, hunlocked, htree ▸ hparent _, fun moved hmoved => ?_⟩
    rwa [← Option.some.inj (hfound.symm.trans hmoved)]
  obtain ⟨d, hd', -, hmove⟩ := moveNode_of_canMove hids hcan
  obtain rfl := Option.some.inj (hd.symm.trans hd')
  rw [hmove, placed, Node.insertUnder_plug n _ haround]

lemma shift_applied_iff (hid : ed.target? id = some n.id) :
    (ed.shift id offset).2 = .applied ↔ ed.isLocked n.id = false ∧
      0 ≤ front.length + offset ∧ front.length + offset ≤ (front ++ back).length := by
  rw [shift_eq hids htree hid]
  split_ifs with hlocked hedge
  · simp [reject, hlocked]
  · simp only [reject, reduceCtorEq, false_iff, not_and]
    omega
  · simp only [apply, true_iff]
    exact ⟨by simpa using hlocked, by omega, by omega⟩

/-- A shift that is applied has moved its target under the same parent. -/
lemma shift_of_applied (hid : ed.target? id = some n.id)
    (h : (ed.shift id offset).2 = .applied) :
    ed.shift id offset = ed.moveNode n.id e.id (front.length + offset) ∧
      ed.shift id offset = (ed.placed t e (front ++ back) n (front.length + offset)).apply := by
  obtain ⟨hunlocked, hlow, hhigh⟩ := (shift_applied_iff hids htree hid).1 h
  rw [moveNode_eq hids htree hunlocked, shift_eq hids htree hid, if_neg (by simp [hunlocked]),
    if_neg (by omega)]
  exact ⟨rfl, rfl⟩

/-- The ids are those of before, in the order of the other place. -/
lemma nodup_ids_placed {k : Nat} (h : k ≤ (front ++ back).length) :
    (ed.placed t e (front ++ back) n k).tree.ids.Nodup := by
  rw [htree, (Node.ids_plug_between _ _ _ _ _).nodup_iff] at hids
  rw [tree_placed _ _ _ _ h, (Node.ids_plug_between _ _ _ _ _).nodup_iff, List.take_append_drop]
  exact hids

/-- The opposite shift puts the node back. -/
theorem shift_back (hid : ed.target? id = some n.id) (h : (ed.shift id offset).2 = .applied) :
    ((ed.shift id offset).1.shift id (-offset)).2 = .applied ∧
      ((ed.shift id offset).1.shift id (-offset)).1.tree = ed.tree := by
  obtain ⟨hunlocked, hlow, hhigh⟩ := (shift_applied_iff hids htree hid).1 h
  obtain ⟨k, hk⟩ := Int.eq_ofNat_of_zero_le hlow
  have hle : k ≤ (front ++ back).length := by omega
  have hlength : ((front ++ back).take k).length = k := List.length_take_of_le hle
  -- the node has as many siblings before it as its place says, and the same ones in all
  have hplaced := tree_placed ed t e n hle
  have hnodup := nodup_ids_placed hids htree hle
  rw [(shift_of_applied hids htree hid h).2, hk]
  set after := ed.placed t e (front ++ back) n k
  have hidAfter : after.target? id = some n.id := hid
  have hback : (after.shift id (-offset)).2 = .applied := by
    rw [shift_applied_iff hnodup hplaced hidAfter, List.take_append_drop, hlength,
      List.length_append]
    exact ⟨hunlocked, by omega, by omega⟩
  have hplace : (k : Int) + -offset = front.length := by omega
  refine ⟨hback, ?_⟩
  change (after.shift id (-offset)).1.tree = _
  rw [(shift_of_applied hnodup hplaced hidAfter hback).2, List.take_append_drop, hlength, hplace]
  change t.plug (.branch e (putChild n (some (front.length : Int)) (front ++ back))) = _
  rw [Node.putChild_length, htree]

end

/-- Where no id is repeated, a node moves up or down among its siblings unless it is locked or at
the edge; it is then moved to the index before or after its own, and moving it the other way gives
back the tree. -/
theorem moveUp_moveDown (ed : Editor) (hids : ed.tree.ids.Nodup) {id : Option String} {n p : Node}
    {j : Nat} (hid : ed.target? id = some n.id) (hp : p ∈ ed.tree.nodes)
    (hn : p.children[j]? = some n) :
    ((ed.moveUp id).2 = .applied ↔ ed.isLocked n.id = false ∧ j ≠ 0) ∧
    ((ed.moveDown id).2 = .applied ↔ ed.isLocked n.id = false ∧ j + 1 ≠ p.children.length) ∧
    ((ed.moveUp id).2 = .applied → ed.moveUp id = ed.moveNode n.id p.id (j - 1) ∧
      ((ed.moveUp id).1.moveDown id).2 = .applied ∧
      ((ed.moveUp id).1.moveDown id).1.tree = ed.tree) ∧
    ((ed.moveDown id).2 = .applied → ed.moveDown id = ed.moveNode n.id p.id (j + 1) ∧
      ((ed.moveDown id).1.moveUp id).2 = .applied ∧
      ((ed.moveDown id).1.moveUp id).1.tree = ed.tree) := by
  obtain ⟨t, front, back, rfl, hchildren, htree⟩ := Node.exists_trail_of_getElem? hids hp hn
  have hlength : p.children.length = front.length + back.length + 1 := by
    simp [hchildren, Nat.add_assoc]
  refine ⟨?_, ?_, fun h => ⟨?_, ?_⟩, fun h => ⟨?_, ?_⟩⟩
  · rw [moveUp, shift_applied_iff hids htree hid, List.length_append]
    exact and_congr_right fun _ => by omega
  · rw [moveDown, shift_applied_iff hids htree hid, List.length_append]
    exact and_congr_right fun _ => by omega
  · exact (shift_of_applied hids htree hid h).1
  · exact shift_back hids htree hid h
  · exact (shift_of_applied hids htree hid h).1
  · exact shift_back hids htree hid h

/-- The box of a room goes down behind the shelf, from where it goes up again, but not before. -/
theorem moveUp_moveDown_room : room.tree.ids.Nodup ∧
    (room.moveUp (some "box")).2 ≠ .applied ∧ (room.moveDown (some "box")).2 = .applied ∧
      ((room.moveDown (some "box")).1.moveUp (some "box")).1.tree = room.tree := by
  have hids : room.tree.ids.Nodup := by decide
  let box : Node := .branch { id := "box", type := "Box" } [.leaf { id := "note", type := "Text" }]
  have hroot : room.tree ∈ room.tree.nodes := Node.self_mem_nodes _
  have hbox : room.tree.children[0]? = some box := rfl
  have htarget : room.target? (some "box") = some box.id := rfl
  obtain ⟨hup, hdown, -, hback⟩ := moveUp_moveDown room hids htarget hroot hbox
  have happlied := hdown.2 ⟨by decide, by decide⟩
  exact ⟨hids, fun h => (hup.1 h).2 rfl, happlied, (hback happlied).2.2⟩

end Editor
end Screenwright
