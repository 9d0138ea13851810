import Screenwright.Proofs.Document.Contents

/-! What surrounds the end of a trail. An id that does not occur there is found, changed and taken
out at the end of the trail, whatever stands there. -/
namespace Screenwright
open scoped List

namespace Trail

/-- The ids around the end of a trail. -/
def ids : Trail → List String
  | [] => []
  | c :: t => c.head.id :: ((c.before ++ c.after).flatMap Node.ids ++ ids t)

variable {t : Trail} {n : Node} {id : String}

/-- The ids of a tree are those at the end of a trail and those around it. -/
lemma ids_plug (t : Trail) (n : Node) : (t.plug n).ids ~ n.ids ++ t.ids := by
  induction t with
  | nil => simp [plug, ids]
  | cons c t ih =>
    have hmiddle : c.before ++ plug t n :: c.after ~ plug t n :: (c.before ++ c.after) :=
      List.perm_middle
    rw [plug, Node.ids_branch, ids]
    calc c.head.id :: (c.before ++ plug t n :: c.after).flatMap Node.ids
        ~ c.head.id :: ((plug t n).ids ++ (c.before ++ c.after).flatMap Node.ids) :=
          (hmiddle.flatMap_right _).cons _
      _ ~ c.head.id :: (n.ids ++ ((c.before ++ c.after).flatMap Node.ids ++ ids t)) := by
          refine List.Perm.cons _ ((ih.append_right _).trans ?_)
          rw [List.append_assoc]
          exact List.perm_append_comm.append_left _
      _ ~ n.ids ++ c.head.id :: ((c.before ++ c.after).flatMap Node.ids ++ ids t) :=
          List.perm_middle.symm

lemma notMem_ids_of_plug (h : id ∉ (t.plug n).ids) : id ∉ t.ids := fun hin =>
  h ((ids_plug t n).mem_iff.2 (List.mem_append_right _ hin))

/-- Where no id is repeated, those at the end of a trail do not occur around it. -/
lemma notMem_ids (hids : (t.plug n).ids.Nodup) (h : id ∈ n.ids) : id ∉ t.ids := fun hin =>
  (List.nodup_append'.1 ((ids_plug t n).nodup_iff.1 hids)).2.2 h hin

lemma plug_append (t u : Trail) (n : Node) : (t ++ u).plug n = t.plug (u.plug n) := by
  induction t with
  | nil => rfl
  | cons c t ih => rw [List.cons_append, plug, plug, ih]

end Trail

namespace Node
open Trail
variable {t : Trail} {n c : Node} {id : String} {cs before after : List Node}

lemma id_mem_ids (n : Node) : n.id ∈ n.ids := by
  rw [ids_eq_cons]
  exact List.mem_cons_self

/-- An id that does not occur below children is in particular not theirs. -/
lemma forall_of_notMem_flatMap (h : id ∉ cs.flatMap ids) : ∀ c ∈ cs, c.id ≠ id ∧ id ∉ c.ids := by
  intro c hc
  have hnot : id ∉ c.ids := fun hid => h (List.mem_flatMap.2 ⟨c, hc, hid⟩)
  exact ⟨fun heq => hnot (heq ▸ c.id_mem_ids), hnot⟩

lemma find?_of_notMem (h : id ∉ n.ids) : n.find? id = none := by
  rw [← hasId_iff, hasId] at h
  simpa using h

lemma findParent?_of_notMem (h : id ∉ n.ids) : n.findParent? id = none := by
  rw [findParent?, List.find?_eq_none]
  intro p hp hany
  obtain ⟨c, hc, hid⟩ := List.any_eq_true.1 hany
  have hmem : c.id ∈ n.ids := List.mem_map_of_mem (mem_nodes_of_mem_children hp hc)
  exact h (beq_iff_eq.1 hid ▸ hmem)

/-- What a turn of a trail asks of an id that does not occur around the end: it is none of the
parent, nor of the other children and what is below them. -/
lemma notMem_ids_cons {turn : Turn} (h : id ∉ Trail.ids (turn :: t)) :
    turn.head.id ≠ id ∧ id ∉ turn.before.flatMap ids ∧ id ∉ turn.after.flatMap ids ∧
      id ∉ t.ids := by
  simp only [Trail.ids, List.flatMap_append, List.mem_cons, List.mem_append, not_or] at h
  exact ⟨Ne.symm h.1, h.2.1.1, h.2.1.2, h.2.2⟩

/-- An id that does not occur around the end of a trail is that of the root only at its end. -/
lemma id_plug_ne (h : id ∉ t.ids) (hn : n.id ≠ id) : (t.plug n).id ≠ id := by
  cases t with
  | nil => exact hn
  | cons turn t => exact (notMem_ids_cons h).1

/-- A child list of which one child has an id, and the others do not, nor what is below them. -/
lemma any_id_eq (hbefore : id ∉ before.flatMap ids) (hafter : id ∉ after.flatMap ids) :
    (before ++ c :: after).any (·.id == id) = (c.id == id) := by
  have hnone : ∀ {cs : List Node}, id ∉ cs.flatMap ids → cs.any (·.id == id) = false := fun hcs =>
    List.any_eq_false.2 fun d hd hid => (forall_of_notMem_flatMap hcs d hd).1 (beq_iff_eq.1 hid)
  rw [List.any_append, List.any_cons, hnone hbefore, hnone hafter, Bool.false_or, Bool.or_false]

/-! ### Search -/

lemma find?_plug (h : id ∉ t.ids) : (t.plug n).find? id = n.find? id := by
  induction t with
  | nil => rfl
  | cons turn t ih =>
    obtain ⟨hhead, hbefore, hafter, ht⟩ := notMem_ids_cons h
    have hnone : ∀ {cs : List Node}, id ∉ cs.flatMap ids → cs.findSome? (·.find? id) = none :=
      fun hcs => List.findSome?_eq_none_iff.2 fun d hd =>
        find?_of_notMem (forall_of_notMem_flatMap hcs d hd).2
    rw [plug, find?_branch, if_neg hhead, List.findSome?_append, List.findSome?_cons,
      hnone hbefore, hnone hafter, ih ht]
    cases n.find? id <;> rfl

/-- An id that does not occur around the end of a trail has its parent at the end. -/
theorem findParent?_plug (h : id ∉ t.ids) (hn : n.id ≠ id) :
    (t.plug n).findParent? id = n.findParent? id := by
  induction t with
  | nil => rfl
  | cons turn t ih =>
    obtain ⟨-, hbefore, hafter, ht⟩ := notMem_ids_cons h
    have hroot : ((Trail.plug t n).id == id) = false := by simpa using id_plug_ne ht hn
    have hnone : ∀ {cs : List Node}, id ∉ cs.flatMap ids →
        cs.findSome? (·.findParent? id) = none :=
      fun hcs => List.findSome?_eq_none_iff.2 fun d hd =>
        findParent?_of_notMem (forall_of_notMem_flatMap hcs d hd).2
    rw [plug, findParent?_branch, any_id_eq hbefore hafter, hroot, if_neg (by simp),
      List.findSome?_append, List.findSome?_cons, hnone hbefore, hnone hafter, ih ht]
    cases n.findParent? id <;> rfl

/-! ### Changes -/

/-- The first node of an id that does not occur around the end of a trail is changed at the end. -/
theorem updateFirst_plug {f : Node → Node} (h : id ∉ t.ids) (hn : n.hasId id) :
    (t.plug n).updateFirst id f = t.plug (n.updateFirst id f) := by
  induction t with
  | nil => rfl
  | cons turn t ih =>
    obtain ⟨hhead, hbefore, -, ht⟩ := notMem_ids_cons h
    have hinside : ((Trail.plug t n).find? id).isSome := by rwa [find?_plug ht]
    rw [plug, updateFirst, if_neg hhead, updateFirstOf_append id f _ _ _ ?_ hinside, ih ht]
    · rfl
    · exact fun d hd => find?_of_notMem (forall_of_notMem_flatMap hbefore d hd).2

lemma insertUnder_plug {e : Element} (child : Node) (index : Option Int) (h : e.id ∉ t.ids) :
    insertUnder e.id child index (t.plug (branch e cs)) =
      t.plug (branch e (putChild child index cs)) := by
  have hpresent : (branch e cs).hasId e.id := (hasId_iff _ _).2 (id_mem_ids (branch e cs))
  rw [insertUnder, updateFirst_plug h hpresent, updateFirst, if_pos rfl]
  rfl

/-- The children beside an id that does not occur around the end of a trail are changed at the
end. -/
theorem updateSiblings_plug {f : List Node → List Node} (h : id ∉ t.ids) (hn : n.id ≠ id)
    (hparent : (n.findParent? id).isSome) :
    (t.plug n).updateSiblings id f = t.plug (n.updateSiblings id f) := by
  induction t with
  | nil => rfl
  | cons turn t ih =>
    obtain ⟨-, hbefore, hafter, ht⟩ := notMem_ids_cons h
    have hroot : ((Trail.plug t n).id == id) = false := by simpa using id_plug_ne ht hn
    have hinside : ((Trail.plug t n).findParent? id).isSome := by rwa [findParent?_plug ht hn]
    rw [plug, updateSiblings, any_id_eq hbefore hafter, hroot, if_neg (by simp),
      updateSiblingsOf_append id f _ _ _ ?_ hinside, ih ht]
    · rfl
    · exact fun d hd => findParent?_of_notMem (forall_of_notMem_flatMap hbefore d hd).2

/-- What has an id that does not occur around the end of a trail is taken out at the end. -/
theorem detach?_plug {d : Detached} (h : id ∉ t.ids) (hn : n.id ≠ id) (hd : n.detach? id = some d) :
    (t.plug n).detach? id = some { d with rest := t.plug d.rest } := by
  induction t with
  | nil => exact hd
  | cons turn t ih =>
    obtain ⟨-, hbefore, hafter, ht⟩ := notMem_ids_cons h
    have hroot : ((Trail.plug t n).id == id) = false := by simpa using id_plug_ne ht hn
    have htake : takeChild? id (turn.before ++ Trail.plug t n :: turn.after) = none := by
      simpa [any_id_eq hbefore hafter, hroot] using
        takeChild?_isSome id (turn.before ++ Trail.plug t n :: turn.after)
    rw [plug, detach?, htake, detachBelow?_append id _ _ _ _ ?_ (ih ht)]
    · rfl
    · exact fun d hd => findParent?_of_notMem (forall_of_notMem_flatMap hbefore d hd).2

/-! ### A child at the end

A child at the end of a trail whose id does not occur in the tree without it. -/

section
variable {e : Element}

lemma ids_plug_between (t : Trail) (e : Element) (before after : List Node) (c : Node) :
    (t.plug (branch e (before ++ c :: after))).ids ~
      c.ids ++ (t.plug (branch e (before ++ after))).ids := by
  have hmiddle : before ++ c :: after ~ c :: (before ++ after) := List.perm_middle
  have hend : (branch e (before ++ c :: after)).ids ~
      c.ids ++ (branch e (before ++ after)).ids := by
    rw [ids_branch, ids_branch]
    exact ((hmiddle.flatMap_right ids).cons e.id).trans List.perm_middle.symm
  calc (t.plug (branch e (before ++ c :: after))).ids
      ~ (branch e (before ++ c :: after)).ids ++ t.ids := Trail.ids_plug t _
    _ ~ c.ids ++ (branch e (before ++ after)).ids ++ t.ids := hend.append_right _
    _ ~ c.ids ++ (t.plug (branch e (before ++ after))).ids := by
        rw [List.append_assoc]
        exact (Trail.ids_plug t _).symm.append_left _

/-- Where no id is repeated, those of a child do not occur in the tree without it. -/
lemma notMem_ids_without (hids : (t.plug (branch e (before ++ c :: after))).ids.Nodup)
    (h : id ∈ c.ids) : id ∉ (t.plug (branch e (before ++ after))).ids := fun hin => by
  rw [(ids_plug_between t e before after c).nodup_iff, List.nodup_append'] at hids
  exact hids.2.2 h hin

/-- In a tree without repeated ids, a child among its siblings. -/
lemma exists_trail_of_child {p : Node} (hids : n.ids.Nodup) (hp : p ∈ n.nodes)
    (hchildren : p.children = before ++ c :: after) :
    ∃ t : Trail, n = t.plug (branch p.head (before ++ c :: after)) ∧
      c.id ∉ (t.plug (branch p.head (before ++ after))).ids := by
  obtain ⟨t, rfl, -⟩ := exists_trail_of_find? (find?_of_mem hids hp)
  have hbranch : p = branch p.head (before ++ c :: after) := by
    rw [← hchildren]
    exact eq_branch_of_children_ne_nil (by simp [hchildren])
  rw [hbranch] at hids
  exact ⟨t, congrArg _ hbranch, notMem_ids_without hids c.id_mem_ids⟩

/-- A node below the root stands among the children of another one, and its id nowhere else. -/
lemma exists_trail_of_below (hids : n.ids.Nodup) (hm : n.find? id = some m) (hroot : id ≠ n.id) :
    ∃ (t : Trail) (e : Element) (front back : List Node),
      n = t.plug (branch e (front ++ m :: back)) ∧ m.id = id ∧ e.id ∉ t.ids ∧
        m.id ∉ (t.plug (branch e (front ++ back))).ids := by
  have hid : n.hasId id := by simp [hasId, hm]
  obtain ⟨p, hp⟩ := exists_findParent? hid hroot
  obtain ⟨c, i, rest, htake, -⟩ := exists_takeChild_of_findParent? hp
  obtain ⟨hc, front, back, hchildren, -⟩ := takeChild?_eq_some htake
  have hmem : p ∈ n.nodes := List.mem_of_find?_eq_some hp
  have hfound : n.find? c.id = some c :=
    find?_of_mem hids (mem_nodes_of_mem_children hmem (by simp [hchildren]))
  obtain rfl : m = c := by simpa [hc, hm] using hfound
  obtain ⟨t, rfl, hout⟩ := exists_trail_of_child hids hmem hchildren
  exact ⟨t, p.head, front, back, rfl, hc, Trail.notMem_ids hids (id_mem_ids _), hout⟩

variable (h : c.id ∉ (t.plug (branch e (before ++ after))).ids)
include h

lemma notMem_ids_between : e.id ≠ c.id ∧ c.id ∉ before.flatMap ids ∧ c.id ∉ t.ids := by
  have hend : c.id ∉ (branch e (before ++ after)).ids := fun hin =>
    h ((ids_plug t _).mem_iff.2 (List.mem_append_left _ hin))
  rw [ids_branch, List.flatMap_append, List.mem_cons, List.mem_append, not_or, not_or] at hend
  exact ⟨Ne.symm hend.1, hend.2.1, notMem_ids_of_plug h⟩

lemma id_between_ne : (t.plug (branch e (before ++ c :: after))).id ≠ c.id :=
  id_plug_ne (notMem_ids_between h).2.2 (notMem_ids_between h).1

lemma find?_between : (t.plug (branch e (before ++ c :: after))).find? c.id = some c := by
  obtain ⟨hhead, hbefore, ht⟩ := notMem_ids_between h
  have hnone : before.findSome? (·.find? c.id) = none := List.findSome?_eq_none_iff.2 fun d hd =>
    find?_of_notMem (forall_of_notMem_flatMap hbefore d hd).2
  have hself : c.find? c.id = some c := by simp [find?, nodes_eq_cons c]
  rw [find?_plug ht, find?_branch, if_neg hhead, List.findSome?_append, hnone,
    List.findSome?_cons, hself]
  rfl

lemma findParent?_between : (t.plug (branch e (before ++ c :: after))).findParent? c.id =
    some (branch e (before ++ c :: after)) := by
  obtain ⟨hhead, -, ht⟩ := notMem_ids_between h
  have hroot : (branch e (before ++ c :: after)).id ≠ c.id := hhead
  rw [findParent?_plug ht hroot, findParent?_branch, if_pos (by simp)]

theorem updateSiblings_between (f : List Node → List Node) :
    (t.plug (branch e (before ++ c :: after))).updateSiblings c.id f =
      t.plug (branch e (f (before ++ c :: after))) := by
  obtain ⟨hhead, -, ht⟩ := notMem_ids_between h
  have hroot : (branch e (before ++ c :: after)).id ≠ c.id := hhead
  have hany : (before ++ c :: after).any (·.id == c.id) = true := by simp
  have hparent : ((branch e (before ++ c :: after)).findParent? c.id).isSome := by
    rw [findParent?_branch, if_pos hany]
    rfl
  rw [updateSiblings_plug ht hroot hparent, updateSiblings, if_pos hany]

lemma takeChild?_between :
    takeChild? c.id (before ++ c :: after) = some (c, before.length, before ++ after) := by
  have hbefore := forall_of_notMem_flatMap (notMem_ids_between h).2.1
  clear h
  induction before with
  | nil => simp [takeChild?]
  | cons b before ih =>
    obtain ⟨hb, hrest⟩ := List.forall_mem_cons.1 hbefore
    rw [List.cons_append, takeChild?, if_neg hb.1, ih hrest]
    rfl

lemma findIdx_between : (before ++ c :: after).findIdx (·.id == c.id) = before.length := by
  have hbefore := forall_of_notMem_flatMap (notMem_ids_between h).2.1
  clear h
  induction before with
  | nil => simp [List.findIdx_cons]
  | cons b before ih =>
    obtain ⟨hb, hrest⟩ := List.forall_mem_cons.1 hbefore
    rw [List.cons_append, List.findIdx_cons, beq_false_of_ne hb.1, cond_false, ih hrest,
      List.length_cons]

theorem detach?_between : (t.plug (branch e (before ++ c :: after))).detach? c.id =
    some ⟨c, e.id, before.length, t.plug (branch e (before ++ after))⟩ := by
  obtain ⟨hhead, -, ht⟩ := notMem_ids_between h
  have hroot : (branch e (before ++ c :: after)).id ≠ c.id := hhead
  have hd : (branch e (before ++ c :: after)).detach? c.id =
      some ⟨c, e.id, before.length, branch e (before ++ after)⟩ := by
    rw [detach?, takeChild?_between h]
  exact detach?_plug ht hroot hd

end

/-- Where no id is repeated, no child has the id of the root, nor one that is not there. -/
lemma findParent?_eq_none (hids : n.ids.Nodup) (h : id = n.id ∨ n.find? id = none) :
    n.findParent? id = none := by
  by_contra hsome
  obtain ⟨p, hp⟩ := Option.ne_none_iff_exists'.1 hsome
  obtain ⟨c, i, rest, htake, -⟩ := exists_takeChild_of_findParent? hp
  obtain ⟨rfl, front, back, hchildren, -⟩ := takeChild?_eq_some htake
  obtain ⟨t, rfl, hout⟩ := exists_trail_of_child hids (List.mem_of_find?_eq_some hp) hchildren
  rcases h with hroot | hnone
  · exact id_between_ne hout hroot.symm
  · rw [find?_between hout] at hnone
    cases hnone

end Node
end Screenwright
