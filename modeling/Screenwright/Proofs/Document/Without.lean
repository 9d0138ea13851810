import Screenwright.Proofs.Document.Surroundings

/-! Trees without the subtree of an id. Taking a node out leaves what surrounds it, and so does
taking out again what has been put in. In a tree in which no id is repeated, all other nodes are
left in their order, and the tree is back when the node is put in again where it was. -/
namespace Screenwright
namespace Node

mutual

/-- A tree without the nodes of an id and what is below them; the root stays. -/
def without (id : String) : Node → Node
  | leaf e => leaf e
  | branch e cs => branch e (withoutOf id cs)

def withoutOf (id : String) : List Node → List Node
  | [] => []
  | c :: cs => if c.id = id then withoutOf id cs else without id c :: withoutOf id cs

end

variable {n m p child : Node} {id : String} {cs before after : List Node}

lemma withoutOf_append (id : String) (before after : List Node) :
    withoutOf id (before ++ after) = withoutOf id before ++ withoutOf id after := by
  induction before with
  | nil => rfl
  | cons b before ih =>
    rw [List.cons_append, withoutOf, withoutOf, ih]
    split <;> rfl

lemma withoutOf_eq_self (h : ∀ c ∈ cs, c.id ≠ id ∧ c.without id = c) : withoutOf id cs = cs := by
  induction cs with
  | nil => rfl
  | cons c cs ih =>
    obtain ⟨⟨hid, hc⟩, hcs⟩ := List.forall_mem_cons.1 h
    rw [withoutOf, if_neg hid, hc, ih hcs]

lemma ids_subset_of_mem_nodes (h : m ∈ n.nodes) : m.ids ⊆ n.ids := by
  rw [ids_eq_map, ids_eq_map]
  exact List.map_subset _ (elements_subset_of_mem_nodes h)

/-- A tree in which an id does not occur stays as it is. -/
lemma without_of_notMem (h : id ∉ n.ids) : n.without id = n := by
  induction n using Node.induction with
  | leaf e => rfl
  | branch e cs ih =>
    rw [ids_branch, List.mem_cons, not_or] at h
    have hcs : withoutOf id cs = cs := withoutOf_eq_self fun c hc =>
      (forall_of_notMem_flatMap h.2 c hc).imp_right (ih c hc)
    rw [without, hcs]

lemma withoutOf_of_notMem (h : id ∉ cs.flatMap ids) : withoutOf id cs = cs :=
  withoutOf_eq_self fun c hc => (forall_of_notMem_flatMap h c hc).imp_right without_of_notMem

/-- Of the children the one with the id goes, and the others stay if the id does not occur there. -/
lemma withoutOf_middle (hid : child.id = id) (h : id ∉ (before ++ after).flatMap ids) :
    withoutOf id (before ++ child :: after) = before ++ after := by
  rw [withoutOf_append, withoutOf, if_pos hid, ← withoutOf_append, withoutOf_of_notMem h]

/-- An id that does not occur around the end of a trail is taken out at the end. -/
theorem without_plug {t : Trail} (h : id ∉ t.ids) (hn : n.id ≠ id) :
    (t.plug n).without id = t.plug (n.without id) := by
  induction t with
  | nil => rfl
  | cons turn t ih =>
    obtain ⟨-, hbefore, hafter, ht⟩ := notMem_ids_cons h
    have hroot : (Trail.plug t n).id ≠ id := id_plug_ne ht hn
    rw [Trail.plug, without, withoutOf_append, withoutOf, if_neg hroot, ih ht,
      withoutOf_of_notMem hbefore, withoutOf_of_notMem hafter]
    rfl

/-! ### Taking out and putting in -/

variable {d : Detached}

/-- What is taken out does not occur in the rest, if no id is repeated. -/
lemma notMem_ids_rest (hids : n.ids.Nodup) (h : n.detach? id = some d) : id ∉ d.rest.ids := by
  obtain ⟨-, hid, -⟩ := elements_detach? h
  have hapart := (List.nodup_append'.1 ((ids_detach? h).nodup_iff.1 hids)).2.2
  exact fun hrest => hapart (hid ▸ d.node.id_mem_ids) hrest

/-- The rest is the tree without the id. -/
theorem rest_eq_without (hids : n.ids.Nodup) (h : n.detach? id = some d) :
    d.rest = n.without id := by
  have hout := notMem_ids_rest hids h
  cases hp : n.findParent? id with
  | none => simp [detach?_eq_none id n hp] at h
  | some p =>
    obtain ⟨t, rfl, -, hdetach⟩ := exists_trail_of_findParent? hp
    obtain ⟨c, i, rest, htake, hbranch⟩ := exists_takeChild_of_findParent? hp
    rw [hdetach c i rest htake] at h
    cases h
    obtain ⟨hid, before, after, hchildren, rfl, -⟩ := takeChild?_eq_some htake
    -- around the parent the id does not occur, and neither does it among the other children
    have hend : id ∉ (branch p.head (before ++ after)).ids := fun hin =>
      hout (ids_subset_of_mem_nodes (t.mem_nodes_plug _ (self_mem_nodes _)) hin)
    rw [ids_branch, List.mem_cons, not_or] at hend
    rw [without_plug (Trail.notMem_ids_of_plug hout) (Ne.symm hend.1), hbranch, hchildren, without,
      withoutOf_middle hid hend.2]
    rfl

/-! ### Taking a node out and putting it in again -/

section
open scoped List
variable {n p c : Node} {i : Nat} {d : Detached}

/-- The parts of a tree from which a child of a node has been taken: the child as it was, where it
was, and the tree without it. -/
structure TakenFrom (n p : Node) (i : Nat) (c : Node) (d : Detached) : Prop where
  node : d.node = c
  parent : d.parent = p.id
  index : d.index = i
  left : d.rest.find? p.id = some (branch p.head (p.children.eraseIdx i))
  elements : d.rest.elements = n.elements.filter fun e => !c.ids.contains e.id
  undone : insertUnder d.parent d.node (some (d.index : Int)) d.rest = n

/-- In a tree without repeated ids, the elements around a subtree are those with other ids. -/
lemma filter_elements {before after : List Element}
    (helements : n.elements = before ++ c.elements ++ after) (hids : n.ids.Nodup) :
    n.elements.filter (fun e => !c.ids.contains e.id) = before ++ after := by
  have hinside : ∀ e ∈ c.elements, ¬ (!c.ids.contains e.id) = true := fun e he => by
    have hid : e.id ∈ c.ids := ids_eq_map c ▸ List.mem_map_of_mem he
    simpa using hid
  rw [ids_eq_map, helements, List.map_append, List.map_append, ← ids_eq_map] at hids
  obtain ⟨hfront, -, hback⟩ := List.nodup_append'.1 hids
  have hbefore : ∀ e ∈ before, (!c.ids.contains e.id) = true := fun e he => by
    simpa using (List.nodup_append'.1 hfront).2.2 (List.mem_map_of_mem he)
  have hafter : ∀ e ∈ after, (!c.ids.contains e.id) = true := fun e he => by
    have hnot : e.id ∉ c.ids := fun hin =>
      hback (List.mem_append_right _ hin) (List.mem_map_of_mem he)
    simpa using hnot
  rw [helements, List.filter_append, List.filter_append, List.filter_eq_self.2 hbefore,
    List.filter_eq_self.2 hafter, List.filter_eq_nil_iff.2 hinside, List.append_nil]

/-- A child is taken out of its parent, and put in again. -/
lemma takenFrom_between {t : Trail} {e : Element} {before after : List Node}
    (hids : (t.plug (branch e (before ++ c :: after))).ids.Nodup) :
    TakenFrom (t.plug (branch e (before ++ c :: after))) (branch e (before ++ c :: after))
      before.length c ⟨c, e.id, before.length, t.plug (branch e (before ++ after))⟩ := by
  have he : e.id ∉ t.ids := Trail.notMem_ids hids (id_mem_ids (branch e _))
  constructor
  case node | parent | index => rfl
  case left =>
    have hfound : (branch e (before ++ after)).find? e.id = some (branch e (before ++ after)) := by
      rw [find?_branch, if_pos rfl]
    rw [id_branch, find?_plug he, hfound, head_branch, children_branch,
      List.eraseIdx_append_of_length_le (Nat.le_refl _), Nat.sub_self, List.eraseIdx_cons_zero]
  case elements =>
    have hsplit : (t.plug (branch e (before ++ c :: after))).elements =
        (t.elementsBefore ++ e :: before.flatMap Node.elements) ++ c.elements ++
          (after.flatMap Node.elements ++ t.elementsAfter) := by
      rw [Trail.elements_plug]
      simp
    rw [filter_elements hsplit hids, Trail.elements_plug]
    simp
  case undone =>
    rw [insertUnder_plug c _ he]
    exact congrArg (fun cs => t.plug (branch e cs)) (putChild_length before after c)

/-- Where no id is repeated, every node but the root is taken out of its parent, whole and from its
place; the other nodes stay in their order, and putting the node back gives the tree again. The root
and nodes that are not there are not taken out. -/
theorem detach?_undone (tree : Node) (hids : tree.ids.Nodup) :
    (∀ c ∈ tree.nodes, c.id ≠ tree.id → ∃ p ∈ tree.nodes, ∃ i d, p.children[i]? = some c ∧
      tree.detach? c.id = some d ∧ tree.TakenFrom p i c d) ∧
    ∀ id, id = tree.id ∨ id ∉ tree.ids → tree.detach? id = none := by
  refine ⟨fun c hc hroot => ?_, fun id h => detach?_eq_none id _
    (findParent?_eq_none hids (h.imp_right find?_of_notMem))⟩
  obtain ⟨t, e, before, after, htree, -, -, hout⟩ :=
    exists_trail_of_below hids (find?_of_mem hids hc) hroot
  subst htree
  refine ⟨_, t.mem_nodes_plug _ (self_mem_nodes _), before.length, _, ?_, detach?_between hout,
    takenFrom_between hids⟩
  simp

/-- A room with a box, in which a note lies, and a shelf. -/
def smallRoom : Node :=
  .branch { id := "room", type := "Stack" }
    [.branch { id := "box", type := "Box" } [.leaf { id := "note", type := "Text" }],
      .leaf { id := "shelf", type := "Box" }]

/-- The note is an only child, and the shelf a last one; the room itself stays. -/
theorem detach?_undone_room : smallRoom.ids.Nodup ∧
    (∃ d, smallRoom.detach? "note" = some d ∧ d.parent = "box" ∧ d.index = 0 ∧
      insertUnder d.parent d.node (some (d.index : Int)) d.rest = smallRoom) ∧
    (∃ d, smallRoom.detach? "shelf" = some d ∧ d.parent = "room" ∧ d.index = 1 ∧
      insertUnder d.parent d.node (some (d.index : Int)) d.rest = smallRoom) ∧
    smallRoom.detach? "room" = none := by
  have hids : smallRoom.ids.Nodup := by decide
  obtain ⟨hbelow, hnone⟩ := detach?_undone smallRoom hids
  have htaken : ∀ c ∈ smallRoom.nodes, c.id ≠ smallRoom.id → ∃ d, smallRoom.detach? c.id = some d ∧
      insertUnder d.parent d.node (some (d.index : Int)) d.rest = smallRoom := by
    intro c hc hroot
    obtain ⟨p, -, i, d, -, hd, htaken⟩ := hbelow c hc hroot
    exact ⟨d, hd, htaken.undone⟩
  obtain ⟨d, hd, hundone⟩ := htaken (.leaf { id := "note", type := "Text" })
    (by simp [smallRoom, nodes_branch, nodes_leaf]) (by decide)
  obtain ⟨d', hd', hundone'⟩ := htaken (.leaf { id := "shelf", type := "Box" })
    (by simp [smallRoom, nodes_branch, nodes_leaf]) (by decide)
  cases hd
  cases hd'
  exact ⟨hids, ⟨_, rfl, rfl, rfl, hundone⟩, ⟨_, rfl, rfl, rfl, hundone'⟩, hnone "room" (.inl rfl)⟩

end

end Node
end Screenwright
