import Mathlib.Data.List.Perm.Basic
import Mathlib.Data.List.Nodup
import Screenwright.Document.Tree

/-! Trails: what surrounds a node in its tree. A search that meets a node leaves a trail, and the
changes of the first node of an id happen at the end of that trail. Positions are the indices of the
children on the way from the root to a node. -/
namespace Screenwright
namespace Node

@[simp] lemma id_leaf (e : Element) : (leaf e).id = e.id := rfl
@[simp] lemma id_branch (e : Element) (cs : List Node) : (branch e cs).id = e.id := rfl

@[simp] lemma nodesOf_eq_flatMap (cs : List Node) : nodesOf cs = cs.flatMap nodes := by
  induction cs with
  | nil => rfl
  | cons c cs ih => simp [nodesOf, ih]

lemma nodes_leaf (e : Element) : (leaf e).nodes = [leaf e] := rfl

lemma nodes_branch (e : Element) (cs : List Node) :
    (branch e cs).nodes = branch e cs :: cs.flatMap nodes := by
  simp [nodes]

/-- A walk meets the nodes of a tree, each at its path. -/
lemma map_fst_walk (n : Node) (path : String) : (n.walk path).map Prod.fst = n.nodes := by
  induction n using Node.induction generalizing path with
  | leaf e => rfl
  | branch e cs ih =>
    have hchildren : ∀ cs' : List Node, cs' ⊆ cs → ∀ i,
        (walkChildren path i cs').map Prod.fst = cs'.flatMap nodes := by
      intro cs' hcs'
      induction cs' with
      | nil => exact fun i => rfl
      | cons c cs' ih' =>
        intro i
        rw [walkChildren, List.map_append, ih c (hcs' List.mem_cons_self),
          ih' (fun _ h => hcs' (List.mem_cons_of_mem _ h)), List.flatMap_cons]
    rw [walk, List.map_cons, hchildren cs (fun _ h => h), nodes_branch]

@[simp] lemma elements_leaf (e : Element) : (leaf e).elements = [e] := rfl

@[simp] lemma elements_branch (e : Element) (cs : List Node) :
    (branch e cs).elements = e :: cs.flatMap elements := by
  simp only [elements, nodes_branch, List.map_cons, head_branch, List.map_flatMap]
  rfl

lemma ids_eq_map (n : Node) : n.ids = n.elements.map Element.id := by
  simp [ids, elements]

@[simp] lemma ids_leaf (e : Element) : (leaf e).ids = [e.id] := rfl

@[simp] lemma ids_branch (e : Element) (cs : List Node) :
    (branch e cs).ids = e.id :: cs.flatMap ids := by
  simp only [ids, nodes_branch, List.map_cons, id_branch, List.map_flatMap]
  rfl

lemma self_mem_nodes (n : Node) : n ∈ n.nodes := by
  cases n <;> simp [nodes]

lemma nodes_eq_cons (n : Node) : n.nodes = n :: n.children.flatMap nodes := by
  cases n <;> simp [nodes]

lemma elements_eq_cons (n : Node) : n.elements = n.head :: n.children.flatMap elements := by
  cases n <;> simp

lemma ids_eq_cons (n : Node) : n.ids = n.id :: n.children.flatMap ids := by
  cases n <;> simp

lemma elements_subset_of_mem_children {n c : Node} (h : c ∈ n.children) :
    c.elements ⊆ n.elements := by
  intro e he
  rw [elements_eq_cons]
  exact List.mem_cons_of_mem _ (List.mem_flatMap.2 ⟨c, h, he⟩)

/-- A child of one of the nodes is one of them. -/
lemma mem_nodes_of_mem_children {n p c : Node} (hp : p ∈ n.nodes) (hc : c ∈ p.children) :
    c ∈ n.nodes := by
  induction n using Node.induction with
  | leaf e =>
    obtain rfl := List.mem_singleton.1 hp
    cases hc
  | branch e cs ih =>
    rw [nodes_branch] at hp ⊢
    refine List.mem_cons_of_mem _ (List.mem_flatMap.2 ?_)
    rcases List.mem_cons.1 hp with rfl | hp
    · exact ⟨c, hc, self_mem_nodes c⟩
    · obtain ⟨d, hd, hp⟩ := List.mem_flatMap.1 hp
      exact ⟨d, hd, ih d hd hp⟩

/-- A node is the root or the child of a node. -/
lemma eq_or_mem_children {n m : Node} (h : m ∈ n.nodes) :
    m = n ∨ ∃ p ∈ n.nodes, m ∈ p.children := by
  induction n using Node.induction with
  | leaf e => exact .inl (by simpa [nodes_leaf] using h)
  | branch e cs ih =>
    rw [nodes_branch] at h
    rcases List.mem_cons.1 h with rfl | h
    · exact .inl rfl
    · obtain ⟨c, hc, hm⟩ := List.mem_flatMap.1 h
      rcases ih c hc hm with rfl | ⟨p, hp, hmp⟩
      · exact .inr ⟨branch e cs, self_mem_nodes _, hc⟩
      · refine .inr ⟨p, ?_, hmp⟩
        rw [nodes_branch]
        exact List.mem_cons_of_mem _ (List.mem_flatMap.2 ⟨c, hc, hp⟩)

/-- The elements of one of the nodes are among those of the tree. -/
lemma elements_subset_of_mem_nodes {n m : Node} (h : m ∈ n.nodes) : m.elements ⊆ n.elements := by
  induction n using Node.induction with
  | leaf e =>
    obtain rfl := List.mem_singleton.1 h
    exact List.Subset.refl _
  | branch e cs ih =>
    rw [nodes_branch] at h
    rcases List.mem_cons.1 h with rfl | h
    · exact List.Subset.refl _
    · obtain ⟨c, hc, hm⟩ := List.mem_flatMap.1 h
      exact List.Subset.trans (ih c hc hm)
        (elements_subset_of_mem_children (n := branch e cs) hc)

/-- A node that has children is a branch. -/
lemma eq_branch_of_children_ne_nil {n : Node} (h : n.children ≠ []) :
    n = branch n.head n.children := by
  cases n with
  | leaf e => simp at h
  | branch e cs => rfl

/-! ### Search -/

lemma find?_branch (e : Element) (cs : List Node) (id : String) :
    (branch e cs).find? id =
      if e.id = id then some (branch e cs) else cs.findSome? (·.find? id) := by
  by_cases h : e.id = id <;> simp [find?, nodes_branch, List.find?_flatMap, h, Node.id]

lemma findParent?_branch (e : Element) (cs : List Node) (id : String) :
    (branch e cs).findParent? id =
      if cs.any (·.id == id) then some (branch e cs) else cs.findSome? (·.findParent? id) := by
  by_cases h : cs.any (·.id == id) <;>
    simp [findParent?, nodes_branch, List.find?_flatMap, h]

lemma hasId_eq_any (n : Node) (id : String) : n.hasId id = n.nodes.any (·.id == id) := by
  simp [hasId, find?, List.isSome_find?]

lemma hasId_iff (n : Node) (id : String) : n.hasId id = true ↔ id ∈ n.ids := by
  simp [hasId_eq_any, ids]

lemma id_eq_of_find? {n m : Node} {id : String} (h : n.find? id = some m) : m.id = id := by
  simpa using List.find?_some h

lemma mem_nodes_of_find? {n m : Node} {id : String} (h : n.find? id = some m) : m ∈ n.nodes :=
  List.mem_of_find?_eq_some h

/-- A node that is not the root has a parent. -/
lemma exists_findParent? {n : Node} {id : String} (h : n.hasId id) (hroot : id ≠ n.id) :
    ∃ p, n.findParent? id = some p := by
  obtain ⟨m, hm⟩ := Option.isSome_iff_exists.1 h
  rcases eq_or_mem_children (mem_nodes_of_find? hm) with rfl | ⟨p, hp, hmp⟩
  · exact absurd (id_eq_of_find? hm).symm hroot
  · apply Option.isSome_iff_exists.1
    rw [findParent?, List.find?_isSome]
    refine ⟨p, hp, List.any_eq_true.2 ⟨m, hmp, ?_⟩⟩
    simpa using id_eq_of_find? hm

/-- A node whose id is not repeated is the one found by it. -/
lemma find?_of_count_le_one {n m : Node} (hm : m ∈ n.nodes) (h : n.ids.count m.id ≤ 1) :
    n.find? m.id = some m := by
  obtain ⟨k, hk⟩ := Option.isSome_iff_exists.1 ((hasId_iff _ _).2 (List.mem_map_of_mem hm))
  obtain ⟨hid, before, after, hnodes, hbefore⟩ := List.find?_eq_some_iff_append.1 hk
  have hafter : m.id ∉ after.map id := by
    rw [ids, hnodes, List.map_append, List.map_cons, beq_iff_eq.1 hid, List.count_append,
      List.count_cons_self] at h
    exact fun hin => absurd (List.count_pos_iff.2 hin) (by omega)
  rw [hnodes, List.mem_append, List.mem_cons] at hm
  rcases hm with hm | rfl | hm
  · simpa using hbefore m hm
  · exact hk
  · exact absurd (List.mem_map_of_mem hm) hafter

/-- Where no id is repeated, a node is the one found by its id. -/
lemma find?_of_mem {n m : Node} (h : n.ids.Nodup) (hm : m ∈ n.nodes) : n.find? m.id = some m :=
  find?_of_count_le_one hm (List.nodup_iff_count_le_one.1 h _)

end Node

/-- A parent on the way to a node, with its other children on both sides of the way. -/
structure Turn where
  head : Element
  before : List Node
  after : List Node

/-- What surrounds a node in a tree, from the root downwards. -/
abbrev Trail := List Turn

namespace Trail

/-- The tree with a node at the end of a trail. -/
def plug : Trail → Node → Node
  | [], n => n
  | c :: t, n => .branch c.head (c.before ++ plug t n :: c.after)

/-- The elements that stand before the end of a trail. -/
def elementsBefore : Trail → List Element
  | [] => []
  | c :: t => c.head :: c.before.flatMap Node.elements ++ elementsBefore t

/-- The elements that stand after the end of a trail. -/
def elementsAfter : Trail → List Element
  | [] => []
  | c :: t => elementsAfter t ++ c.after.flatMap Node.elements

/-- The elements of a tree around the end of a trail stay as they are, whatever stands there. -/
theorem elements_plug (t : Trail) (n : Node) :
    (t.plug n).elements = t.elementsBefore ++ n.elements ++ t.elementsAfter := by
  induction t with
  | nil => simp [plug, elementsBefore, elementsAfter]
  | cons c t ih => simp [plug, elementsBefore, elementsAfter, ih]

lemma mem_nodes_plug (t : Trail) (n : Node) {m : Node} (h : m ∈ n.nodes) :
    m ∈ (t.plug n).nodes := by
  induction t with
  | nil => exact h
  | cons c t ih => simp [plug, Node.nodes_branch, ih]

end Trail

namespace Node
open Trail

/-! ### Changes at the end of a trail -/

lemma updateFirstOf_append (id : String) (f : Node → Node) (before after : List Node) (c : Node)
    (hb : ∀ b ∈ before, b.find? id = none) (hc : (c.find? id).isSome) :
    updateFirstOf id f (before ++ c :: after) = before ++ updateFirst id f c :: after := by
  induction before with
  | nil =>
    have hany : c.nodes.any (·.id == id) = true := by
      simpa [hasId] using (hasId_eq_any c id).symm.trans hc
    simp [updateFirstOf, hany]
  | cons b before ih =>
    have : b.nodes.any (·.id == id) = false := by
      rw [← hasId_eq_any, hasId, hb b (by simp)]; rfl
    simp [updateFirstOf, this, ih fun b hb' => hb b (by simp [hb'])]

/-- The first node of an id, when changed, is changed where it stands. -/
theorem exists_trail_of_find? {n m : Node} {id : String} (h : n.find? id = some m) :
    ∃ t : Trail, n = t.plug m ∧ ∀ f, n.updateFirst id f = t.plug (f m) := by
  induction n using Node.induction with
  | leaf e =>
    obtain ⟨he, rfl⟩ : e.id = id ∧ leaf e = m := by
      simpa [find?, nodes_leaf, List.find?_singleton] using h
    exact ⟨[], rfl, fun f => by simp [updateFirst, plug, he]⟩
  | branch e cs ih =>
    rw [find?_branch] at h
    by_cases he : e.id = id
    · rw [if_pos he] at h
      cases h
      exact ⟨[], rfl, fun f => by simp [updateFirst, plug, he]⟩
    · rw [if_neg he] at h
      obtain ⟨before, c, after, rfl, hc, hb⟩ := List.findSome?_eq_some_iff.1 h
      obtain ⟨t, rfl, ht⟩ := ih c (by simp) hc
      refine ⟨⟨e, before, after⟩ :: t, rfl, fun f => ?_⟩
      rw [updateFirst, if_neg he, updateFirstOf_append id f before after _ hb (by simp [hc]), ht]
      rfl

lemma updateSiblingsOf_append (id : String) (f : List Node → List Node) (before after : List Node)
    (c : Node) (hb : ∀ b ∈ before, b.findParent? id = none) (hc : (c.findParent? id).isSome) :
    updateSiblingsOf id f (before ++ c :: after) = before ++ updateSiblings id f c :: after := by
  induction before with
  | nil => simp [updateSiblingsOf, hc]
  | cons b before ih =>
    simp [updateSiblingsOf, hb b (by simp), ih fun b hb' => hb b (by simp [hb'])]

/-- What is taken out of a child list stands after children of other ids. -/
theorem takeChild?_eq_some {id : String} {cs rest : List Node} {c : Node} {i : Nat}
    (h : takeChild? id cs = some (c, i, rest)) :
    c.id = id ∧ ∃ before after, cs = before ++ c :: after ∧ rest = before ++ after ∧
      i = before.length ∧ ∀ b ∈ before, b.id ≠ id := by
  induction cs generalizing i rest with
  | nil => simp [takeChild?] at h
  | cons d cs ih =>
    by_cases hd : d.id = id
    · rw [takeChild?, if_pos hd] at h
      cases h
      exact ⟨hd, [], cs, rfl, rfl, rfl, by simp⟩
    · rw [takeChild?, if_neg hd, Option.map_eq_some_iff] at h
      obtain ⟨⟨c', i', rest'⟩, htake, heq⟩ := h
      cases heq
      obtain ⟨hc, before, after, rfl, rfl, rfl, hb⟩ := ih htake
      refine ⟨hc, d :: before, after, rfl, rfl, rfl, fun b hb' => ?_⟩
      rcases List.mem_cons.1 hb' with rfl | hb'
      · exact hd
      · exact hb b hb'

/-- Something is taken out of a child list that has a child of the id. -/
lemma takeChild?_isSome (id : String) (cs : List Node) :
    (takeChild? id cs).isSome = cs.any (·.id == id) := by
  induction cs with
  | nil => rfl
  | cons c cs ih =>
    by_cases h : c.id = id
    · simp [takeChild?, h]
    · have hc : (c.id == id) = false := by simpa using h
      simpa [takeChild?, h, hc] using ih

mutual

/-- Nothing is taken out of a tree in which no node has a child of the id. -/
lemma detach?_eq_none (id : String) : (n : Node) → n.findParent? id = none → n.detach? id = none
  | leaf _, _ => rfl
  | branch e cs, h => by
    rw [findParent?_branch] at h
    have hany : cs.any (·.id == id) = false := by
      by_contra hc
      simp [Bool.not_eq_false _ ▸ hc] at h
    have htake : takeChild? id cs = none := by
      simpa [hany] using takeChild?_isSome id cs
    rw [hany, if_neg (by simp), List.findSome?_eq_none_iff] at h
    rw [detach?, htake, detachBelow?_eq_none id cs h]
    rfl

lemma detachBelow?_eq_none (id : String) :
    (cs : List Node) → (∀ c ∈ cs, c.findParent? id = none) → detachBelow? id cs = none
  | [], _ => rfl
  | c :: cs, h => by
    rw [detachBelow?, detach?_eq_none id c (h c (by simp)),
      detachBelow?_eq_none id cs fun c hc => h c (by simp [hc])]
    rfl

end

lemma detachBelow?_append (id : String) (before after : List Node) (c : Node) (d : Detached)
    (hb : ∀ b ∈ before, b.findParent? id = none) (hc : c.detach? id = some d) :
    detachBelow? id (before ++ c :: after) = some (d, before ++ d.rest :: after) := by
  induction before with
  | nil => simp [detachBelow?, hc]
  | cons b before ih =>
    simp [detachBelow?, detach?_eq_none id b (hb b (by simp)),
      ih fun b hb' => hb b (by simp [hb'])]

/-- The first node with a child of an id keeps its place when its children are changed, or when the
child is taken out. -/
theorem exists_trail_of_findParent? {n p : Node} {id : String} (h : n.findParent? id = some p) :
    ∃ t : Trail, n = t.plug p ∧
      (∀ f, n.updateSiblings id f = t.plug (branch p.head (f p.children))) ∧
      ∀ c i rest, takeChild? id p.children = some (c, i, rest) →
        n.detach? id = some ⟨c, p.id, i, t.plug (branch p.head rest)⟩ := by
  induction n using Node.induction with
  | leaf e => simp [findParent?, nodes_leaf] at h
  | branch e cs ih =>
    rw [findParent?_branch] at h
    by_cases hany : cs.any (·.id == id)
    · rw [if_pos hany] at h
      cases h
      refine ⟨[], rfl, fun f => by simp [updateSiblings, plug, hany], fun c i rest htake => ?_⟩
      have htake : takeChild? id cs = some (c, i, rest) := htake
      simp [detach?, plug, htake]
    · rw [if_neg hany] at h
      obtain ⟨before, c, after, rfl, hc, hb⟩ := List.findSome?_eq_some_iff.1 h
      obtain ⟨t, rfl, hsiblings, hdetach⟩ := ih c (by simp) hc
      refine ⟨⟨e, before, after⟩ :: t, rfl, fun f => ?_, fun c i rest htake => ?_⟩
      · rw [updateSiblings, if_neg hany,
          updateSiblingsOf_append id f before after _ hb (by simp [hc]), hsiblings]
        rfl
      · have hnone : takeChild? id (before ++ t.plug p :: after) = none := by
          simpa [hany] using takeChild?_isSome id (before ++ t.plug p :: after)
        rw [detach?, hnone, detachBelow?_append id before after _ _ hb (hdetach c i rest htake)]
        rfl

/-! ### Positions -/

section
variable {n m : Node} {i : Nat} {path : List Nat} {p : List Nat → Node → Prop}

/-- The node at a position. -/
def at? (n : Node) : List Nat → Option Node
  | [] => some n
  | i :: path => n.children[i]?.bind fun c => c.at? path

/-- How many children a node has; absent when it has no list of them. -/
def arity? (n : Node) : Option Nat := n.children?.map List.length

/-- What holds of every node strictly above a position, each taken with its own position. -/
def HoldsAbove (p : List Nat → Node → Prop) (n : Node) (path : List Nat) : Prop :=
  ∀ above i below m, path = above ++ i :: below → n.at? above = some m → p above m

lemma at?_nil (n : Node) : n.at? [] = some n := rfl

lemma at?_cons_eq_some :
    n.at? (i :: path) = some m ↔ ∃ c, n.children[i]? = some c ∧ c.at? path = some m :=
  Option.bind_eq_some_iff

lemma at?_append (n : Node) (path below : List Nat) :
    n.at? (path ++ below) = (n.at? path).bind (·.at? below) := by
  induction path generalizing n with
  | nil => rfl
  | cons i path ih => simp [at?, Option.bind_assoc, ih]

/-- Above a position where a node stands, nodes stand too. -/
lemma exists_at?_of_at?_append {below : List Nat} (h : n.at? (path ++ below) = some m) :
    ∃ a, n.at? path = some a := by
  rw [at?_append, Option.bind_eq_some_iff] at h
  exact h.imp fun _ ha => ha.1

lemma head_mem_elements_of_at? (h : n.at? path = some m) : m.head ∈ n.elements := by
  induction path generalizing n with
  | nil =>
    cases h
    rw [elements_eq_cons]
    exact List.mem_cons_self
  | cons i path ih =>
    obtain ⟨c, hc, hm⟩ := at?_cons_eq_some.1 h
    exact elements_subset_of_mem_children (List.mem_of_getElem? hc) (ih hm)

lemma holdsAbove_nil : n.HoldsAbove p [] := by
  intro above i below m hpath
  simp at hpath

/-- What holds above a position holds of the root, and above the rest of the position in the
child. -/
lemma holdsAbove_cons : n.HoldsAbove p (i :: path) ↔
    p [] n ∧
      ∀ c, n.children[i]? = some c → c.HoldsAbove (fun above m => p (i :: above) m) path := by
  constructor
  · intro h
    refine ⟨h [] i path n rfl (at?_nil n), fun c hc above j below m hpath hm => ?_⟩
    exact h (i :: above) j below m (by rw [hpath, List.cons_append])
      (at?_cons_eq_some.2 ⟨c, hc, hm⟩)
  · rintro ⟨hroot, hchild⟩ above j below m hpath hm
    cases above with
    | nil =>
      cases hm
      exact hroot
    | cons k above =>
      obtain ⟨rfl, rfl⟩ : i = k ∧ path = above ++ j :: below := by simpa using hpath
      obtain ⟨c, hc, hm⟩ := at?_cons_eq_some.1 hm
      exact hchild c hc above j below m rfl hm

end
end Node
end Screenwright
