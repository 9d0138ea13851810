import Screenwright.Proofs.Document.Contents

/-! The places of a tree: each element with the id of its parent. Changes of a tree are described by
the places that they add, take away or exchange. -/
namespace Screenwright
open scoped List

/-- An element under the id that a function makes of its own. -/
def Element.mapId (r : String → String) (e : Element) : Element := { e with id := r e.id }

/-- What becomes of an id when one node gets another. -/
def renamedId (old new id : String) : String := if id = old then new else id

namespace Node

mutual

/-- The elements of a tree with the ids of their parents, the root standing below `above`. -/
def placesFrom (above : Option String) : Node → List (Option String × Element)
  | leaf e => [(above, e)]
  | branch e cs => (above, e) :: placesOf (some e.id) cs

def placesOf (above : Option String) : List Node → List (Option String × Element)
  | [] => []
  | c :: cs => placesFrom above c ++ placesOf above cs

end

/-- The elements of a tree with the ids of their parents. -/
def places (n : Node) : List (Option String × Element) := n.placesFrom none

/-- The places of a tree but that of its root. -/
def placesBelow (n : Node) : List (Option String × Element) :=
  n.children.flatMap (placesFrom (some n.id))

variable {n m p : Node} {above : Option String} {id : String}

@[simp] lemma placesOf_eq_flatMap (above : Option String) (cs : List Node) :
    placesOf above cs = cs.flatMap (placesFrom above) := by
  induction cs with
  | nil => rfl
  | cons c cs ih => simp [placesOf, ih]

lemma placesFrom_eq_cons (above : Option String) (n : Node) :
    n.placesFrom above = (above, n.head) :: n.placesBelow := by
  cases n <;> simp [placesFrom, placesBelow]

/-- Where the parents of the elements are left out, the elements remain. -/
lemma map_snd_placesFrom (above : Option String) (n : Node) :
    (n.placesFrom above).map Prod.snd = n.elements := by
  induction n using Node.induction generalizing above with
  | leaf e => rfl
  | branch e cs ih =>
    simp only [placesFrom, placesOf_eq_flatMap, List.map_cons, List.map_flatMap, elements_branch]
    rw [List.flatMap_congr fun c hc => ih c hc (some e.id)]

lemma mem_elements_of_mem_placesFrom {q : Option String} {e : Element}
    (h : (q, e) ∈ n.placesFrom above) : e ∈ n.elements := by
  rw [← map_snd_placesFrom above n]
  exact List.mem_map_of_mem h

lemma mem_ids_of_mem_placesFrom {q : Option String} {e : Element}
    (h : (q, e) ∈ n.placesFrom above) : e.id ∈ n.ids := by
  rw [ids_eq_map]
  exact List.mem_map_of_mem (mem_elements_of_mem_placesFrom h)

/-- Where no id is repeated, each has one place. -/
theorem existsUnique_place (hids : n.ids.Nodup) (h : id ∈ n.ids) :
    ∃! place, place ∈ n.places ∧ place.2.id = id := by
  rw [ids_eq_map, ← map_snd_placesFrom none n, List.map_map] at h hids
  obtain ⟨place, hplace, hid⟩ := List.mem_map.1 h
  refine ⟨place, ⟨hplace, hid⟩, fun other ⟨hother, hsame⟩ => ?_⟩
  exact List.inj_on_of_nodup_map hids hother hplace (hsame.trans hid.symm)

/-! ### Changes at the end of a trail -/

/-- Whatever stands at the end of a trail, the places around it are the same, and so is the parent
at the end. -/
lemma exists_places_plug (t : Trail) (above : Option String) :
    ∃ last rest, ∀ n, (t.plug n).placesFrom above ~ n.placesFrom last ++ rest := by
  induction t generalizing above with
  | nil => exact ⟨above, [], fun n => by simp [Trail.plug]⟩
  | cons c t ih =>
    obtain ⟨last, rest, hrest⟩ := ih (some c.head.id)
    let siblings := (c.before ++ c.after).flatMap (placesFrom (some c.head.id))
    refine ⟨last, (above, c.head) :: (rest ++ siblings), fun n => ?_⟩
    have hmiddle : c.before ++ Trail.plug t n :: c.after ~
        Trail.plug t n :: (c.before ++ c.after) := List.perm_middle
    have hchildren := hmiddle.flatMap_right (placesFrom (some c.head.id))
    rw [List.flatMap_cons] at hchildren
    rw [Trail.plug, placesFrom, placesOf_eq_flatMap]
    calc (above, c.head) :: (c.before ++ Trail.plug t n :: c.after).flatMap
          (placesFrom (some c.head.id))
        ~ (above, c.head) :: (n.placesFrom last ++ rest ++ siblings) :=
          (hchildren.trans ((hrest n).append_right _)).cons _
      _ ~ n.placesFrom last ++ (above, c.head) :: (rest ++ siblings) := by
          rw [List.append_assoc]
          exact List.perm_middle.symm

/-- A tree gains the places of what is put under one of its nodes. -/
theorem places_insertUnder {parent : String} (child : Node) (index : Option Int)
    (h : n.hasId parent) :
    (insertUnder parent child index n).places ~ child.placesFrom (some parent) ++ n.places := by
  obtain ⟨m, hm⟩ := Option.isSome_iff_exists.1 h
  obtain ⟨t, rfl, ht⟩ := exists_trail_of_find? hm
  obtain ⟨last, rest, hrest⟩ := exists_places_plug t none
  have hid : m.id = parent := id_eq_of_find? hm
  have hinside : (insertChild child index m).placesFrom last ~
      child.placesFrom (some parent) ++ m.placesFrom last := by
    have hput := (putChild_perm child index m.children).flatMap_right (placesFrom (some m.id))
    rw [List.flatMap_cons] at hput
    rw [insertChild, placesFrom, placesOf_eq_flatMap, placesFrom_eq_cons last m, placesBelow, ← hid]
    exact (hput.cons _).trans List.perm_middle.symm
  rw [insertUnder, ht]
  calc (t.plug (insertChild child index m)).placesFrom none
      ~ (insertChild child index m).placesFrom last ++ rest := hrest _
    _ ~ child.placesFrom (some parent) ++ m.placesFrom last ++ rest := hinside.append_right _
    _ ~ child.placesFrom (some parent) ++ (t.plug m).placesFrom none := by
        rw [List.append_assoc]
        exact (hrest m).symm.append_left _

/-- A change of the children of a node exchanges the places of the nodes below it. -/
theorem places_updateSiblings (h : n.findParent? id = some p) :
    ∃ rest, n.places ~ p.placesBelow ++ rest ∧ ∀ f,
      (n.updateSiblings id f).places ~
        (f p.children).flatMap (placesFrom (some p.id)) ++ rest := by
  obtain ⟨t, rfl, hsiblings, -⟩ := exists_trail_of_findParent? h
  obtain ⟨last, rest, hrest⟩ := exists_places_plug t none
  refine ⟨(last, p.head) :: rest, ?_, fun f => ?_⟩
  · refine (hrest p).trans ?_
    rw [placesFrom_eq_cons]
    exact List.perm_middle.symm
  · rw [hsiblings]
    refine (hrest _).trans ?_
    rw [placesFrom, placesOf_eq_flatMap]
    exact List.perm_middle.symm

/-- The places of a tree are those of the node taken out and those of the rest. -/
theorem places_detach? {d : Detached} (h : n.detach? id = some d) :
    n.places ~ d.node.placesFrom (some d.parent) ++ d.rest.places := by
  cases hp : n.findParent? id with
  | none => simp [detach?_eq_none id n hp] at h
  | some p =>
    obtain ⟨t, rfl, -, hdetach⟩ := exists_trail_of_findParent? hp
    obtain ⟨c, i, rest, htake, -⟩ := exists_takeChild_of_findParent? hp
    rw [hdetach c i rest htake] at h
    cases h
    obtain ⟨-, before, after, hchildren, rfl, -⟩ := takeChild?_eq_some htake
    obtain ⟨last, around, haround⟩ := exists_places_plug t none
    have hbelow : p.placesBelow ~ c.placesFrom (some p.id) ++
        (before ++ after).flatMap (placesFrom (some p.id)) := by
      have hmiddle : before ++ c :: after ~ c :: (before ++ after) := List.perm_middle
      rw [placesBelow, hchildren]
      exact hmiddle.flatMap_right _
    calc (t.plug p).placesFrom none
        ~ (last, p.head) :: (p.placesBelow ++ around) := by
          simpa only [placesFrom_eq_cons, List.cons_append] using haround p
      _ ~ (last, p.head) :: (c.placesFrom (some p.id) ++
            (before ++ after).flatMap (placesFrom (some p.id)) ++ around) :=
          (hbelow.append_right _).cons _
      _ ~ c.placesFrom (some p.id) ++ ((branch p.head (before ++ after)).placesFrom last ++
            around) := by
          rw [placesFrom, placesOf_eq_flatMap, List.append_assoc]
          exact List.perm_middle.symm
      _ ~ c.placesFrom (some p.id) ++ (t.plug (branch p.head (before ++ after))).placesFrom none :=
          (haround _).symm.append_left _

/-- Children that change their order keep their places. -/
lemma places_placeChild {index : Nat} (h : n.findParent? id = some p)
    (hindex : index < p.children.length) :
    (n.updateSiblings id (Editor.placeChild id index)).places ~ n.places := by
  obtain ⟨rest, hbefore, hafter⟩ := places_updateSiblings h
  have hplaced := (placeChild_perm id index p.children hindex).flatMap_right
    (placesFrom (some p.id))
  exact (hafter _).trans ((hplaced.append_right rest).trans hbefore.symm)

/-- A column stands at the place of the node that it is put around, and that node below it. -/
lemma places_wrapChild (h : n.findParent? id = some p) (wrapperId : String) :
    ∃ c rest, c.id = id ∧ n.places ~ (some p.id, c.head) :: rest ∧
      (n.updateSiblings id (Editor.wrapChild id wrapperId)).places ~
        (some p.id, (Editor.wrapper wrapperId c).head) :: (some wrapperId, c.head) :: rest := by
  obtain ⟨rest, hbefore, hafter⟩ := places_updateSiblings h
  obtain ⟨c, i, others, htake, -⟩ := exists_takeChild_of_findParent? h
  obtain ⟨before, after, hchildren, hwrap⟩ := wrapChild_eq wrapperId htake
  let siblings := (before ++ after).flatMap (placesFrom (some p.id))
  have hmiddle : ∀ d : Node, (before ++ d :: after).flatMap (placesFrom (some p.id)) ~
      d.placesFrom (some p.id) ++ siblings := by
    intro d
    have hfront : before ++ d :: after ~ d :: (before ++ after) := List.perm_middle
    exact hfront.flatMap_right _
  refine ⟨c, c.placesBelow ++ siblings ++ rest, (takeChild?_eq_some htake).1, ?_, ?_⟩
  · rw [placesBelow, hchildren] at hbefore
    refine hbefore.trans (((hmiddle c).append_right rest).trans ?_)
    rw [placesFrom_eq_cons, List.cons_append, List.cons_append]
  · refine (hafter _).trans ?_
    rw [hwrap]
    refine ((hmiddle _).append_right rest).trans ?_
    have hwrapper : (Editor.wrapper wrapperId c).placesFrom (some p.id) =
        (some p.id, (Editor.wrapper wrapperId c).head) :: (some wrapperId, c.head) ::
          c.placesBelow := by
      simp [Editor.wrapper, placesFrom, placesFrom_eq_cons (some wrapperId)]
    rw [hwrapper, List.cons_append, List.cons_append, List.cons_append, List.cons_append]

/-- Changing the element of the first node of an id, but not the id, exchanges its place. -/
theorem places_updateFirst_mapHead {f : Element → Element} (hf : ∀ e, (f e).id = e.id)
    (h : n.find? id = some m) :
    ∃ last rest, n.places ~ (last, m.head) :: rest ∧
      (n.updateFirst id (mapHead f)).places ~ (last, f m.head) :: rest := by
  obtain ⟨t, rfl, ht⟩ := exists_trail_of_find? h
  obtain ⟨last, rest, hrest⟩ := exists_places_plug t none
  have hbelow : (m.mapHead f).placesBelow = m.placesBelow := by
    rw [placesBelow, placesBelow, children_mapHead, Node.id, head_mapHead, hf]
  refine ⟨last, m.placesBelow ++ rest, ?_, ?_⟩
  · exact (hrest m).trans (by rw [placesFrom_eq_cons, List.cons_append])
  · rw [ht]
    exact (hrest _).trans (by rw [placesFrom_eq_cons, head_mapHead, hbelow, List.cons_append])

/-! ### Renaming -/

lemma mapElementsOf_eq_map (f : Element → Element) (cs : List Node) :
    mapElementsOf f cs = cs.map (mapElements f) := by
  induction cs with
  | nil => rfl
  | cons c cs ih => simp [mapElementsOf, ih]

/-- A tree none of whose elements is changed stays as it is. -/
lemma mapElements_eq_self {f : Element → Element} (h : ∀ e ∈ n.elements, f e = e) :
    n.mapElements f = n := by
  induction n using Node.induction with
  | leaf e => rw [mapElements, h e (by simp)]
  | branch e cs ih =>
    rw [elements_branch, List.forall_mem_cons] at h
    rw [mapElements, mapElementsOf_eq_map, h.1]
    have hcs : cs.map (mapElements f) = cs.map fun c => c :=
      List.map_congr_left fun c hc => ih c hc fun e' he' =>
        h.2 e' (List.mem_flatMap.2 ⟨c, hc, he'⟩)
    rw [hcs, List.map_id']

/-- Where a change of ids applies to every element, each place follows it. -/
lemma placesFrom_mapElements (r : String → String) (above : Option String) (n : Node) :
    (n.mapElements (Element.mapId r)).placesFrom (above.map r) =
      (n.placesFrom above).map (Prod.map (Option.map r) (Element.mapId r)) := by
  induction n using Node.induction generalizing above with
  | leaf e => rfl
  | branch e cs ih =>
    rw [mapElements, placesFrom, placesFrom, placesOf_eq_flatMap, placesOf_eq_flatMap,
      mapElementsOf_eq_map, List.map_cons, List.map_flatMap, List.flatMap_map]
    exact congrArg _ (List.flatMap_congr fun c hc => ih c hc (some e.id))

section
variable {old new : String}

lemma mapElements_renamed_of_notMem (h : old ∉ n.ids) :
    n.mapElements (Element.mapId (renamedId old new)) = n := by
  refine mapElements_eq_self fun e he => ?_
  have hne : e.id ≠ old := by
    rintro rfl
    exact h (by rw [ids_eq_map]; exact List.mem_map_of_mem he)
  rw [Element.mapId, renamedId, if_neg hne]

lemma updateFirstOf_setId {cs : List Node} (h : (cs.flatMap ids).Nodup)
    (ih : ∀ c ∈ cs, c.updateFirst old (setId new) =
      c.mapElements (Element.mapId (renamedId old new))) :
    updateFirstOf old (setId new) cs = mapElementsOf (Element.mapId (renamedId old new)) cs := by
  induction cs with
  | nil => rfl
  | cons c cs ihs =>
    rw [List.flatMap_cons, List.nodup_append'] at h
    rw [List.forall_mem_cons] at ih
    rw [updateFirstOf, mapElementsOf, ← hasId_eq_any]
    split_ifs with hc
    · have hcs : mapElementsOf (Element.mapId (renamedId old new)) cs = cs.map fun d => d := by
        rw [mapElementsOf_eq_map]
        refine List.map_congr_left fun d hd => mapElements_renamed_of_notMem fun hold => ?_
        exact h.2.2 ((hasId_iff _ _).1 hc) (List.mem_flatMap.2 ⟨d, hd, hold⟩)
      rw [ih.1, hcs, List.map_id']
    · rw [ihs h.2.1 ih.2, mapElements_renamed_of_notMem (mt (hasId_iff _ _).2 hc)]

/-- Where no id is repeated, giving the first node of an id another one is giving it to every node
of that id. -/
theorem updateFirst_setId (h : n.ids.Nodup) :
    n.updateFirst old (setId new) = n.mapElements (Element.mapId (renamedId old new)) := by
  induction n using Node.induction with
  | leaf e =>
    rw [updateFirst, mapElements, Element.mapId, renamedId]
    split_ifs <;> rfl
  | branch e cs ih =>
    rw [ids_branch, List.nodup_cons] at h
    have hchild : ∀ c ∈ cs, c.ids.Nodup := fun c hc => (List.nodup_flatMap.1 h.2).1 c hc
    rw [updateFirst, mapElements]
    split_ifs with he
    · have hbelow : mapElementsOf (Element.mapId (renamedId old new)) cs = cs.map fun c => c := by
        rw [mapElementsOf_eq_map]
        refine List.map_congr_left fun c hc => mapElements_renamed_of_notMem fun hold => ?_
        exact h.1 (he ▸ List.mem_flatMap.2 ⟨c, hc, hold⟩)
      rw [hbelow, List.map_id', Element.mapId, renamedId, if_pos he]
      rfl
    · rw [updateFirstOf_setId h.2 fun c hc => ih c hc (hchild c hc), Element.mapId, renamedId,
        if_neg he]

/-- Where no id is repeated, the places follow a node to its other id. -/
theorem places_updateFirst_setId (h : n.ids.Nodup) :
    (n.updateFirst old (setId new)).places =
      n.places.map
        (Prod.map (Option.map (renamedId old new)) (Element.mapId (renamedId old new))) := by
  rw [updateFirst_setId h, places, places, ← placesFrom_mapElements]
  rfl

end

end Node
end Screenwright
