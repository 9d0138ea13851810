import Screenwright.Proofs.Document.Without
import Screenwright.Proofs.Editor.UniqueIds

/-! Moves: when a node can be moved, and that a move changes where its subtree stands and nothing
else. In trees where ids may be repeated, a move looks at the first node of its id and takes out the
first child of that id; where these are two nodes, the parent may be inside of the one that is taken
out. -/
namespace Screenwright
open scoped List

namespace Node
variable {n m child : Node} {id parent : String} {index : Int} {d : Detached}

/-- A node with a list of children, which is empty where there was none. -/
def listed (n : Node) : Node := branch n.head n.children

/-- The subtree of an id stands under another parent of which the other children are as before, and
without it the trees are the same, but that the parent may have got an empty list of children. -/
structure Relocates (before after : Node) (id parent : String) (index : Int) : Prop where
  subtree : after.find? id = before.find? id
  rest : after.without id = (before.without id).updateFirst parent listed
  place : ∃ moved old new, before.find? id = some moved ∧
    (before.without id).find? parent = some old ∧ after.findParent? id = some new ∧
    new.id = parent ∧ new.children[childIndex index old.children.length]? = some moved ∧
    new.children.eraseIdx (childIndex index old.children.length) = old.children

/-- What is put into a node is taken out of it again. -/
lemma without_insertChild (hid : child.id = id) (h : id ∉ n.ids) :
    (insertChild child (some index) n).without id = n.listed := by
  rw [ids_eq_cons, List.mem_cons, not_or] at h
  rw [insertChild, putChild_eq, without, withoutOf_middle hid, List.take_append_drop, listed]
  rw [List.take_append_drop]
  exact h.2

/-- The node that a child is put into is its parent. -/
lemma findParent?_insertChild (hid : child.id = id) :
    (insertChild child (some index) n).findParent? id =
      some (insertChild child (some index) n) := by
  rw [insertChild, findParent?_branch, if_pos]
  simp [putChild_eq, hid]

/-- A node that is taken out and put in under another is relocated. -/
theorem relocates_insertUnder (hids : n.ids.Nodup) (hd : n.detach? id = some d)
    (hparent : d.rest.hasId parent) :
    n.Relocates (insertUnder parent d.node (some index) d.rest) id parent index := by
  obtain ⟨-, hid, hmem⟩ := elements_detach? hd
  have hout := notMem_ids_rest hids hd
  have hfound : n.find? id = some d.node := hid ▸ find?_of_mem hids hmem
  obtain ⟨m, hm⟩ := Option.isSome_iff_exists.1 hparent
  have houtm : id ∉ m.ids := fun hin =>
    hout (ids_subset_of_mem_nodes (mem_nodes_of_find? hm) hin)
  have hnodup : (insertUnder parent d.node (some index) d.rest).ids.Nodup :=
    (Editor.ids_insertUnder_rest (some index) hd hparent).nodup_iff.2 hids
  obtain ⟨t, hrest, hupdate⟩ := exists_trail_of_find? hm
  rw [hrest] at hout
  have haround := Trail.notMem_ids_of_plug hout
  have hne : (insertChild d.node (some index) m).id ≠ id := fun hroot =>
    houtm (hroot ▸ m.id_mem_ids)
  have hafter : insertUnder parent d.node (some index) d.rest =
      t.plug (insertChild d.node (some index) m) := hupdate _
  have hwithout := rest_eq_without hids hd
  rw [hafter] at hnodup ⊢
  constructor
  case subtree =>
    have hin : d.node ∈ (t.plug (insertChild d.node (some index) m)).nodes := by
      refine t.mem_nodes_plug _ ?_
      refine mem_nodes_of_mem_children (self_mem_nodes _) ?_
      simp [insertChild, putChild_eq]
    rw [hfound, ← hid, find?_of_mem hnodup hin]
  case rest =>
    rw [without_plug haround hne, without_insertChild hid houtm, ← hwithout, hupdate]
  case place =>
    have hparent : m.id = parent := id_eq_of_find? hm
    refine ⟨d.node, m, _, hfound, hwithout ▸ hm,
      (findParent?_plug haround hne).trans (findParent?_insertChild hid), hparent, ?_, ?_⟩
    · simp [insertChild, putChild_eq, childIndex_le]
    · simp [insertChild, putChild_eq, childIndex_le, List.eraseIdx_append_of_length_le]

end Node

namespace Editor
variable {ed : Editor} {id parent : String} {index : Int}

/-- What a move asks for: a node below the root that is not locked, and a parent outside of it. -/
structure CanMove (ed : Editor) (id parent : String) : Prop where
  present : id ∈ ed.tree.ids
  below : id ≠ ed.tree.id
  unlocked : ed.isLocked id = false
  target : parent ∈ ed.tree.ids
  outside : ∀ moved, ed.tree.find? id = some moved → parent ∉ moved.ids

lemma isWithin_eq_false_iff {n : Node} {ancestor : String} : n.isWithin ancestor id = false ↔
    ∀ a, n.find? ancestor = some a → id ∉ a.ids := by
  rw [Node.isWithin]
  cases n.find? ancestor with
  | none => simp
  | some a => simp [← Node.hasId_iff, Node.hasId]

lemma rejected_or_canMove (ed : Editor) (id parent : String) (index : Int) :
    (∃ r, ed.moveNode id parent index = ed.reject r) ∨ ed.CanMove id parent := by
  rcases ed.moveNode_cases id parent index with
    ⟨r, heq⟩ | ⟨d, hbelow, hunlocked, htarget, hwithin, hd, -⟩
  · exact .inl ⟨r, heq⟩
  · obtain ⟨-, hid, hmem⟩ := Node.elements_detach? hd
    exact .inr ⟨hid ▸ List.mem_map_of_mem hmem, hbelow, hunlocked, (Node.hasId_iff _ _).1 htarget,
      isWithin_eq_false_iff.1 hwithin⟩

/-- Whatever has been moved could be moved. -/
lemma canMove_of_applied (h : (ed.moveNode id parent index).2 = .applied) :
    ed.CanMove id parent := by
  rcases ed.rejected_or_canMove id parent index with ⟨r, heq⟩ | hcan
  · rw [heq] at h
    cases h
  · exact hcan

/-- A node that can be moved is taken out, and put in again if its parent is in the rest. -/
lemma moveNode_eq_of_canMove (index : Int) (h : ed.CanMove id parent) :
    ∃ d, ed.tree.detach? id = some d ∧ ed.moveNode id parent index =
      if d.rest.hasId parent then
        (ed.edit fun _ => Node.insertUnder parent d.node (some index) d.rest).apply
      else (ed.edit fun _ => d.rest, .lostParent) := by
  have hpresent := (Node.hasId_iff _ _).2 h.present
  have htarget := (Node.hasId_iff _ _).2 h.target
  have hwithin := isWithin_eq_false_iff.2 h.outside
  obtain ⟨p, hp⟩ := Node.exists_findParent? hpresent h.below
  obtain ⟨d, hd⟩ := Option.isSome_iff_exists.1 (Node.detach?_isSome hp)
  refine ⟨d, hd, ?_⟩
  rw [moveNode, if_neg h.below, if_neg (by simp [h.unlocked]), if_neg (by simp [hpresent]),
    if_neg (by simp [htarget]), if_neg (by simp [hwithin]), hd]

/-- A node that can be moved is taken out, and its parent is there to put it in. -/
lemma moveNode_of_canMove (hids : ed.tree.ids.Nodup) (h : ed.CanMove id parent) :
    ∃ d, ed.tree.detach? id = some d ∧ d.rest.hasId parent ∧ ed.moveNode id parent index =
      (ed.edit fun _ => Node.insertUnder parent d.node (some index) d.rest).apply := by
  obtain ⟨d, hd, heq⟩ := moveNode_eq_of_canMove index h
  have hrest := hasId_rest hids ((Node.hasId_iff _ _).2 h.target)
    (isWithin_eq_false_iff.2 h.outside) hd
  exact ⟨d, hd, hrest, heq.trans (if_pos hrest)⟩

/-- Where no id is repeated, exactly the moves of what can be moved are applied, and they relocate
the subtree. -/
theorem moveNode_applied (ed : Editor) (hids : ed.tree.ids.Nodup) (id parent : String)
    (index : Int) :
    ((ed.moveNode id parent index).2 = .applied ↔ ed.CanMove id parent) ∧
      ((ed.moveNode id parent index).2 = .applied →
        ed.tree.Relocates (ed.moveNode id parent index).1.tree id parent index) := by
  refine ⟨⟨canMove_of_applied, fun h => ?_⟩, fun h => ?_⟩
  · obtain ⟨d, -, -, heq⟩ := moveNode_of_canMove hids h
    rw [heq]
    rfl
  · obtain ⟨d, hd, hrest, heq⟩ := moveNode_of_canMove hids (canMove_of_applied h)
    rw [heq]
    exact Node.relocates_insertUnder hids hd hrest

/-- A box with a note in it, and a shelf that has no list of children. -/
def room : Editor where
  spec :=
    { route := "/"
      tree := .branch { id := "room", type := "Stack" }
        [.branch { id := "box", type := "Box" } [.leaf { id := "note", type := "Text" }],
          .leaf { id := "shelf", type := "Box" }] }
  history := .empty 1

/-- The note can be put onto the shelf, and the box cannot be put below its own note. -/
theorem moveNode_applied_room : room.tree.ids.Nodup ∧
    room.tree.Relocates (room.moveNode "note" "shelf" 3).1.tree "note" "shelf" 3 ∧
      (room.moveNode "box" "note" 0).2 ≠ .applied := by
  have hids : room.tree.ids.Nodup := by decide
  have hnote : room.CanMove "note" "shelf" := by
    refine ⟨by decide, by decide, by decide, by decide, fun moved hmoved => ?_⟩
    cases hmoved
    decide
  obtain ⟨happlied, hrelocates⟩ := moveNode_applied room hids "note" "shelf" 3
  refine ⟨hids, hrelocates (happlied.2 hnote), fun h => ?_⟩
  have hbox := (moveNode_applied room hids "box" "note" 0).1.1 h
  exact absurd (hbox.outside _ rfl) (by decide)

end Editor

/-! ### Repeated ids -/

namespace Node
variable {n m : Node} {id parent : String}

/-- What is taken out for an id holds every node of another id. -/
def TakesAlong (n : Node) (id parent : String) : Prop :=
  ∃ d, n.detach? id = some d ∧ parent ∈ d.node.ids ∧ parent ∉ d.rest.ids

/-- Nothing of a tree is missing in another one only if they have equally many nodes. -/
lemma not_perm_of_gain {before after : Node} (h : before.elements ~ n.elements ++ after.elements) :
    ¬ after.elements ~ before.elements := by
  intro hsame
  have hlength := (hsame.trans h).length_eq
  rw [List.length_append, elements_eq_cons n, List.length_cons] at hlength
  omega

end Node

namespace Editor
variable {ed : Editor} {id parent : String} {index : Int} {d : Detached}

/-- A move of which the parent is not in the rest ends with the rest. -/
lemma moveNode_of_notMem_rest (hcan : ed.CanMove id parent) (hd : ed.tree.detach? id = some d)
    (hout : parent ∉ d.rest.ids) :
    ed.moveNode id parent index = (ed.edit fun _ => d.rest, .lostParent) := by
  obtain ⟨d', hd', heq⟩ := moveNode_eq_of_canMove index hcan
  obtain rfl : d = d' := Option.some.inj (hd.symm.trans hd')
  rw [heq, if_neg (mt (Node.hasId_iff _ _).1 hout)]

/-- A move loses its parent exactly when it could be made, and the parent is inside of what is taken
out. -/
lemma lostParent_iff : (ed.moveNode id parent index).2 = .lostParent ↔
    ed.CanMove id parent ∧ ed.tree.TakesAlong id parent := by
  constructor
  · intro h
    rcases ed.rejected_or_canMove id parent index with ⟨r, heq⟩ | hcan
    · rw [heq] at h
      cases h
    · refine ⟨hcan, ?_⟩
      obtain ⟨d, hd, heq⟩ := moveNode_eq_of_canMove index hcan
      rw [heq] at h
      split_ifs at h with hrest
      · cases h
      · have hout : parent ∉ d.rest.ids := mt (Node.hasId_iff _ _).2 hrest
        have hin := List.mem_append.1 ((Node.ids_detach? hd).mem_iff.1 hcan.target)
        exact ⟨d, hd, hin.resolve_right hout, hout⟩
  · rintro ⟨hcan, d, hd, -, hout⟩
    rw [moveNode_of_notMem_rest hcan hd hout]

/-- Where the id of what is moved is not repeated, the parent is never lost. -/
lemma not_takesAlong_of_count_le_one (hcan : ed.CanMove id parent)
    (h : ed.tree.ids.count id ≤ 1) : ¬ ed.tree.TakesAlong id parent := by
  rintro ⟨d, hd, hin, -⟩
  obtain ⟨-, rfl, hmem⟩ := Node.elements_detach? hd
  exact hcan.outside d.node (Node.find?_of_count_le_one hmem h) hin

/-- In every tree, repeated ids or not, a move keeps all elements unless it loses its parent: the
first node of the id does not hold the parent, but the node that is taken out, another one of that
id, holds all nodes of the parent's id. Then what has been taken out is missing. -/
theorem moveNode_keeps_iff (ed : Editor) (id parent : String) (index : Int) :
    ((ed.moveNode id parent index).1.tree.elements ~ ed.tree.elements ↔
      (ed.moveNode id parent index).2 ≠ .lostParent) ∧
    ((ed.moveNode id parent index).2 = .lostParent ↔
      ed.CanMove id parent ∧ ed.tree.TakesAlong id parent) ∧
    ((ed.moveNode id parent index).2 = .lostParent → 2 ≤ ed.tree.ids.count id ∧
      ∃ d, ed.tree.detach? id = some d ∧
        ed.tree.elements ~ d.node.elements ++ (ed.moveNode id parent index).1.tree.elements) := by
  refine ⟨?keeps, lostParent_iff, fun hlost => ⟨?twice, ?missing⟩⟩
  case keeps =>
    rcases ed.rejected_or_canMove id parent index with ⟨r, heq⟩ | hcan
    · rw [heq]
      exact iff_of_true (.refl _) (by simp [reject])
    · obtain ⟨d, hd, heq⟩ := moveNode_eq_of_canMove index hcan
      obtain ⟨hbefore, -, -⟩ := Node.elements_detach? hd
      rw [heq]
      split_ifs with hrest
      · refine iff_of_true ?_ (by simp [apply])
        exact (Node.elements_insertUnder d.node (some index) hrest).trans hbefore.symm
      · exact iff_of_false (Node.not_perm_of_gain hbefore) (not_not_intro rfl)
  case twice =>
    obtain ⟨hcan, htakes⟩ := lostParent_iff.1 hlost
    by_contra hcount
    exact not_takesAlong_of_count_le_one hcan (by omega) htakes
  case missing =>
    obtain ⟨hcan, d, hd, -, hout⟩ := lostParent_iff.1 hlost
    rw [moveNode_of_notMem_rest hcan hd hout]
    exact ⟨d, hd, (Node.elements_detach? hd).1⟩

/-- A page with a box, in which there is a card, and with another card of the same id, in which
there is a note. -/
def twins : Editor where
  spec :=
    { route := "/"
      tree := .branch { id := "page", type := "Stack" }
        [.branch { id := "box", type := "Box" } [.leaf { id := "card", type := "Text" }],
          .branch { id := "card", type := "Box" } [.leaf { id := "note", type := "Text" }]] }
  history := .empty 1

/-- The first card has no note in it, so it can be moved into the note. What is taken out is the
other card, with the note, and it is lost. -/
theorem moveNode_keeps_iff_twins :
    (twins.moveNode "card" "note" 0).2 = .lostParent ∧
      ¬ (twins.moveNode "card" "note" 0).1.tree.elements ~ twins.tree.elements := by
  obtain ⟨hkeeps, hlost, -⟩ := moveNode_keeps_iff twins "card" "note" 0
  have hcan : twins.CanMove "card" "note" := by
    refine ⟨by decide, by decide, by decide, by decide, fun moved hmoved => ?_⟩
    cases hmoved
    decide
  have hout := hlost.2 ⟨hcan, _, rfl, by decide, by decide⟩
  exact ⟨hout, fun hsame => hkeeps.1 hsame hout⟩

end Editor
end Screenwright
