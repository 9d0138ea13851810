import Screenwright.Proofs.Editor.Moving

/-! Insertions: where the editor puts what is new, and that removing it again gives back the tree
that was there before. -/
namespace Screenwright

namespace Node
variable {n m p c child : Node} {id parent : String} {index : Option Int}
  {front back : List Node}

/-- The second tree has one more subtree than the first, immediately behind a node. -/
def StandsBehind (n added before after : Node) : Prop :=
  ∃ (t : Trail) (e : Element) (front back : List Node),
    before = t.plug (branch e (front ++ n :: back)) ∧
      after = t.plug (branch e (front ++ n :: added :: back))

/-- The only child of a node; a node with no child or with several stands for itself. -/
def onlyChild : Node → Node
  | branch _ [c] => c
  | n => n

lemma ids_listed (n : Node) : n.listed.ids = n.ids := by
  rw [listed, ids_branch, ids_eq_cons n]

lemma exists_putChild_eq (child : Node) (index : Option Int) (cs : List Node) :
    ∃ front back, cs = front ++ back ∧ putChild child index cs = front ++ child :: back := by
  cases index with
  | none => exact ⟨cs, [], (List.append_nil cs).symm, rfl⟩
  | some i => exact ⟨_, _, (List.take_append_drop _ cs).symm, putChild_eq child i cs⟩

/-- What is put under a node stands between two of its children, and without it the tree is as
before, but that the node has a list of children. -/
theorem exists_trail_of_insertUnder (index : Option Int) (hparent : n.hasId parent)
    (hnew : child.id ∉ n.ids) :
    ∃ (t : Trail) (e : Element) (front back : List Node),
      insertUnder parent child index n = t.plug (branch e (front ++ child :: back)) ∧
        n.updateFirst parent listed = t.plug (branch e (front ++ back)) ∧
          child.id ∉ (t.plug (branch e (front ++ back))).ids := by
  obtain ⟨m, hm⟩ := Option.isSome_iff_exists.1 hparent
  obtain ⟨t, rfl, hupdate⟩ := exists_trail_of_find? hm
  obtain ⟨front, back, hchildren, hput⟩ := exists_putChild_eq child index m.children
  have hlisted : m.listed = branch m.head (front ++ back) := by rw [listed, hchildren]
  refine ⟨t, m.head, front, back, ?_, ?_, fun hin => hnew ?_⟩
  · rw [insertUnder, hupdate, insertChild, hput]
  · rw [hupdate, hlisted]
  · rw [(Trail.ids_plug t _).mem_iff, ← hlisted, ids_listed] at hin
    exact (Trail.ids_plug t m).mem_iff.2 hin

/-- Behind a child stands what is put in at the next index. -/
lemma standsBehind_insertUnder {t : Trail} {e : Element} (front back : List Node) (m child : Node)
    (h : e.id ∉ t.ids) : m.StandsBehind child (t.plug (branch e (front ++ m :: back)))
      (insertUnder e.id child (some (Int.ofNat (front.length + 1)))
        (t.plug (branch e (front ++ m :: back)))) := by
  refine ⟨t, e, front, back, rfl, ?_⟩
  have hput := putChild_length (front ++ [m]) back child
  rw [List.length_append, List.append_assoc, List.append_assoc] at hput
  rw [insertUnder_plug child _ h]
  exact congrArg (fun cs => t.plug (branch e cs)) hput

/-- A node with a list of children is left alone. -/
lemma updateFirst_listed {t : Trail} {e : Element} (cs : List Node) (h : e.id ∉ t.ids) :
    (t.plug (branch e cs)).updateFirst e.id listed = t.plug (branch e cs) := by
  have hpresent : (branch e cs).hasId e.id := (hasId_iff _ _).2 (id_mem_ids (branch e cs))
  rw [updateFirst_plug h hpresent, updateFirst, if_pos rfl]
  rfl

end Node

namespace Editor
variable {source : IdSource} {ed after : Editor} {id : Option String} {original : Node}

/-- Removing a node is applied, and this tree is left. -/
def RemovalLeaves (ed : Editor) (id : String) (rest : Node) : Prop :=
  (ed.removeNode id).2 = .applied ∧ (ed.removeNode id).1.tree = rest

/-- A copy of a tree has been added under other ids and is selected. Removing it, unless its id is
locked, leaves the given rest. -/
structure AddsCopy (ed after : Editor) (original copy rest : Node) : Prop where
  same : copy.withoutIds = original.withoutIds
  selected : after.selected = some copy.id
  found : after.tree.find? copy.id = some copy
  removal : ed.isLocked copy.id = false → after.RemovalLeaves copy.id rest

/-- The ids that are still to be issued do not occur in the tree. -/
def IssuesNew (source : IdSource) (ed : Editor) : Prop :=
  ∀ count kind, ed.issued < count → source count kind ∉ ed.tree.ids

lemma removalLeaves_of_detach? {target : String} {d : Detached}
    (hd : ed.tree.detach? target = some d) (hroot : target ≠ ed.tree.id)
    (hunlocked : ed.isLocked target = false) : ed.RemovalLeaves target d.rest := by
  obtain ⟨-, hid, hmem⟩ := Node.elements_detach? hd
  have hpresent : target ∈ ed.tree.ids := hid ▸ List.mem_map_of_mem hmem
  obtain ⟨node, hnode⟩ := Option.isSome_iff_exists.1 ((Node.hasId_iff _ _).2 hpresent)
  have hremove : ed.removeNode target =
      ((ed.edit fun tree => ((tree.detach? target).map Detached.rest).getD tree).select
        (ed.selected.filter fun s => !node.ids.contains s)).apply := by
    rw [removeNode, if_neg hroot, if_neg (by simp [hunlocked]), find?, hnode]
  rw [RemovalLeaves, hremove]
  refine ⟨rfl, ?_⟩
  change ((ed.tree.detach? target).map Detached.rest).getD ed.tree = d.rest
  rw [hd]
  rfl

/-- What has been put under a node is removed again. -/
lemma removalLeaves_insertUnder {child : Node} {parent : String} {index : Option Int}
    (hparent : ed.tree.hasId parent) (hnew : child.id ∉ ed.tree.ids)
    (htree : after.tree = Node.insertUnder parent child index ed.tree)
    (hunlocked : after.isLocked child.id = false) :
    after.RemovalLeaves child.id (ed.tree.updateFirst parent Node.listed) := by
  obtain ⟨t, e, front, back, hinsert, hrest, hout⟩ :=
    Node.exists_trail_of_insertUnder index hparent hnew
  have hroot := Node.id_between_ne hout
  have hd := Node.detach?_between hout
  rw [← hinsert, ← htree] at hroot hd
  rw [hrest]
  exact removalLeaves_of_detach? hd (Ne.symm hroot) hunlocked

/-! ### Additions -/

/-- An applied addition has put the node under its parent, where no id of it occurs. -/
lemma addNode_of_applied {parent : String} {node : Node} {index : Option Int}
    (h : (ed.addNode parent node index).2 = .applied) :
    ed.tree.hasId parent ∧ node.id ∉ ed.tree.ids ∧ ed.addNode parent node index =
      ((ed.edit (Node.insertUnder parent node index)).select (some node.id)).apply := by
  rcases ed.addNode_cases parent node index with ⟨r, heq⟩ | ⟨hparent, hnew, heq⟩
  · rw [heq] at h
    cases h
  · exact ⟨hparent, hnew _ node.id_mem_ids, heq⟩

lemma removalLeaves_addNode {parent : String} {node : Node} {index : Option Int}
    (h : (ed.addNode parent node index).2 = .applied) (hunlocked : ed.isLocked node.id = false) :
    (ed.addNode parent node index).1.RemovalLeaves node.id
      (ed.tree.updateFirst parent Node.listed) := by
  obtain ⟨hparent, hnew, heq⟩ := addNode_of_applied h
  rw [heq]
  exact removalLeaves_insertUnder hparent hnew rfl hunlocked

/-- An applied addition of a copy. -/
lemma exists_addsCopy {parent : String} {index : Option Int}
    (h : (ed.addCopy source original parent index).2 = .applied) :
    ∃ copy, ed.AddsCopy (ed.addCopy source original parent index).1 original copy
        (ed.tree.updateFirst parent Node.listed) ∧
      (ed.addCopy source original parent index).1.tree =
        Node.insertUnder parent copy index ed.tree := by
  rw [addCopy_eq] at h ⊢
  obtain ⟨hparent, hnew, heq⟩ := addNode_of_applied h
  refine ⟨_, ⟨Node.withoutIds_withFreshIds source ed.issued original, ?_, ?_, fun hunlocked => ?_⟩,
    ?_⟩
  · rw [heq]
    rfl
  · obtain ⟨t, e, front, back, hinsert, -, hout⟩ :=
      Node.exists_trail_of_insertUnder index hparent hnew
    have hfound := Node.find?_between hout
    rw [← hinsert] at hfound
    rw [heq]
    exact hfound
  · exact removalLeaves_addNode h hunlocked
  · rw [heq]
    rfl

/-! ### Copies -/

/-- The selected node, if it is one below the root. -/
def selectedBelow? (ed : Editor) : Option Node :=
  ed.selected.bind fun s => if s = ed.tree.id then none else ed.find? s

lemma placeBehind?_of_selectedBelow? (hids : ed.tree.ids.Nodup) :
    (∀ m, ed.selectedBelow? = some m → ∃ (t : Trail) (e : Element) (front back : List Node),
      ed.tree = t.plug (.branch e (front ++ m :: back)) ∧ e.id ∉ t.ids ∧
        ed.selected.bind ed.placeBehind? =
          some (.branch e (front ++ m :: back), front.length + 1)) ∧
    (ed.selectedBelow? = none → ed.selected.bind ed.placeBehind? = none) := by
  cases hselected : ed.selected with
  | none => simp [selectedBelow?, hselected]
  | some s =>
    rw [selectedBelow?, hselected, Option.bind_some, Option.bind_some]
    constructor
    · intro m hm
      split_ifs at hm with hroot
      obtain ⟨t, e, front, back, htree, rfl, he, hout⟩ :=
        Node.exists_trail_of_below hids hm hroot
      refine ⟨t, e, front, back, htree, he, ?_⟩
      rw [placeBehind?, htree, Node.findParent?_between hout, Option.map_some,
        Node.children_branch, Node.findIdx_between hout]
    · intro hnone
      have hcase : s = ed.tree.id ∨ ed.tree.find? s = none := by
        split_ifs at hnone with hroot
        · exact .inl hroot
        · exact .inr hnone
      rw [placeBehind?, Node.findParent?_eq_none hids hcase]
      rfl

/-- A copy that is put in at the index after that of a child stands behind that child. -/
lemma exists_addsCopy_behind {m : Node} {t : Trail} {e : Element} {front back : List Node}
    (htree : ed.tree = t.plug (.branch e (front ++ m :: back))) (he : e.id ∉ t.ids)
    (h : (ed.addCopy source original e.id (some (Int.ofNat (front.length + 1)))).2 = .applied) :
    ∃ copy,
      ed.AddsCopy (ed.addCopy source original e.id (some (Int.ofNat (front.length + 1)))).1
        original copy ed.tree ∧
      m.StandsBehind copy ed.tree
        (ed.addCopy source original e.id (some (Int.ofNat (front.length + 1)))).1.tree := by
  obtain ⟨copy, hadds, hinsert⟩ := exists_addsCopy h
  refine ⟨copy, ?_, ?_⟩
  · rwa [htree, Node.updateFirst_listed _ he, ← htree] at hadds
  · rw [hinsert, htree]
    exact Node.standsBehind_insertUnder front back m copy he

/-- The target of an operation, when it is a node below the root. -/
lemma exists_trail_of_subject? (hids : ed.tree.ids.Nodup) (h : ed.subject? id = some original) :
    ∃ (t : Trail) (e : Element) (front back : List Node),
      ed.target? id = some original.id ∧ ed.find? original.id = some original ∧
        ed.tree = t.plug (.branch e (front ++ original :: back)) ∧ e.id ∉ t.ids ∧
          original.id ∉ (t.plug (.branch e (front ++ back))).ids := by
  obtain ⟨target, htarget, h⟩ := Option.bind_eq_some_iff.1 h
  split_ifs at h with hroot
  obtain ⟨parent, hparent, h⟩ := Option.bind_eq_some_iff.1 h
  obtain ⟨⟨c, i, rest⟩, htake, rfl⟩ := Option.map_eq_some_iff.1 h
  obtain ⟨rfl, front, back, hchildren, -⟩ := Node.takeChild?_eq_some htake
  have hmem : c ∈ ed.tree.nodes :=
    Node.mem_nodes_of_mem_children (List.mem_of_find?_eq_some hparent) (by simp [hchildren])
  have hfound := Node.find?_of_mem hids hmem
  obtain ⟨t, e, front, back, htree, -, he, hout⟩ := Node.exists_trail_of_below hids hfound hroot
  exact ⟨t, e, front, back, htarget, hfound, htree, he, hout⟩

/-- An applied duplication has added a copy behind its target. -/
lemma duplicate_of_applied (hids : ed.tree.ids.Nodup)
    (h : (ed.duplicate source id).2 = .applied) :
    ∃ original copy, (ed.target? id).bind ed.find? = some original ∧
      ed.AddsCopy (ed.duplicate source id).1 original copy ed.tree ∧
      original.StandsBehind copy ed.tree (ed.duplicate source id).1.tree := by
  rcases ed.duplicate_cases source id with ⟨⟨r, heq⟩, -⟩ | ⟨original, -, -, hsubject, -⟩
  · rw [heq] at h
    cases h
  · obtain ⟨t, e, front, back, htarget, hfound, htree, he, hout⟩ :=
      exists_trail_of_subject? hids hsubject
    have hroot := Node.id_between_ne hout
    have hparent := Node.findParent?_between hout
    rw [← htree] at hroot hparent
    have hduplicate : ed.duplicate source id =
        ed.addCopy source original e.id (some (Int.ofNat (front.length + 1))) := by
      simp only [duplicate, htarget, if_neg (Ne.symm hroot), hparent, Node.children_branch,
        Node.takeChild?_between hout, Node.id_branch]
    rw [hduplicate] at h ⊢
    obtain ⟨copy, hadds, hbehind⟩ := exists_addsCopy_behind htree he h
    exact ⟨original, copy, by rw [htarget, Option.bind_some, hfound], hadds, hbehind⟩

/-- An applied paste has added a copy of the clipboard behind the selection, or else last under the
root. -/
lemma paste_of_applied (hids : ed.tree.ids.Nodup) (h : (ed.paste source).2 = .applied) :
    ∃ original copy, ed.clipboard = some original ∧
      ed.AddsCopy (ed.paste source).1 original copy ed.tree.listed ∧
      (∀ m, ed.selectedBelow? = some m → m.StandsBehind copy ed.tree (ed.paste source).1.tree) ∧
      (ed.selectedBelow? = none → (ed.paste source).1.tree =
        .branch ed.tree.head (ed.tree.children ++ [copy])) := by
  obtain ⟨hbelow, hlast⟩ := placeBehind?_of_selectedBelow? hids
  rcases ed.paste_cases source with ⟨⟨r, heq⟩, -⟩ | ⟨original, -, -, hclipboard, -⟩
  · rw [heq] at h
    cases h
  · refine ⟨original, ?_⟩
    cases hselected : ed.selectedBelow? with
    | some m =>
      obtain ⟨t, e, front, back, htree, he, hplace⟩ := hbelow m hselected
      have hpaste : ed.paste source =
          ed.addCopy source original e.id (some (Int.ofNat (front.length + 1))) := by
        simp only [paste, hclipboard, hplace, Node.id_branch]
      rw [hpaste] at h ⊢
      obtain ⟨copy, hadds, hbehind⟩ := exists_addsCopy_behind htree he h
      have hlisted : ed.tree.listed = ed.tree := by
        rw [htree]
        cases t <;> rfl
      rw [hlisted]
      refine ⟨copy, hclipboard, hadds, fun m' hm' => ?_, fun hnone => absurd hnone (by simp)⟩
      rwa [← Option.some.inj hm']
    | none =>
      have hpaste : ed.paste source = ed.addCopy source original ed.tree.id none := by
        simp only [paste, hclipboard, hlast hselected]
      rw [hpaste] at h ⊢
      obtain ⟨copy, hadds, hinsert⟩ := exists_addsCopy h
      have hroot : ∀ f, ed.tree.updateFirst ed.tree.id f = f ed.tree := by
        intro f
        cases ed.tree <;> simp [Node.updateFirst]
      rw [hroot] at hadds
      rw [Node.insertUnder, hroot] at hinsert
      exact ⟨copy, hclipboard, hadds, fun m hsome => absurd hsome (by simp), fun _ => hinsert⟩

/-! ### Columns -/

/-- An applied grouping has put a column around its target, which takes its place again when it is
put in for the column. -/
lemma groupIntoStack_of_applied (hids : ed.tree.ids.Nodup) (hnew : ed.IssuesNew source)
    (h : (ed.groupIntoStack source id).2 = .applied) :
    ∃ node wrapperId, (ed.target? id).bind ed.find? = some node ∧
      (ed.groupIntoStack source id).1.selected = some wrapperId ∧
      (ed.groupIntoStack source id).1.tree.find? wrapperId = some (wrapper wrapperId node) ∧
      (ed.groupIntoStack source id).1.tree.updateFirst wrapperId Node.onlyChild = ed.tree := by
  rcases ed.groupIntoStack_cases source id with
    ⟨⟨r, heq⟩, -⟩ | ⟨target, parent, node, wrapperId, htarget, -, -, hsubject, hwrapper, heq⟩
  · rw [heq] at h
    cases h
  · obtain ⟨t, e, front, back, hsame, hfound, htree, he, hout⟩ :=
      exists_trail_of_subject? hids hsubject
    obtain rfl : target = node.id := Option.some.inj (htarget.symm.trans hsame)
    have hid : wrapperId ∉ ed.tree.ids := hwrapper ▸ hnew _ _ (Nat.lt_succ_self _)
    -- the way to the target is the way to the column
    let way : Trail := t ++ [⟨e, front, back⟩]
    have hplug : ∀ m, way.plug m = t.plug (.branch e (front ++ m :: back)) := fun m =>
      Trail.plug_append t _ m
    have haround : wrapperId ∉ way.ids :=
      Trail.notMem_ids_of_plug (n := node) (by rwa [hplug, ← htree])
    have hafter : (ed.groupIntoStack source id).1.tree = way.plug (wrapper wrapperId node) := by
      rw [heq, hplug]
      change ed.tree.updateSiblings node.id (wrapChild node.id wrapperId) = _
      rw [htree, Node.updateSiblings_between hout, wrapChild, Node.takeChild?_between hout]
      exact congrArg (fun cs => t.plug (.branch e cs)) (Node.insertIdx_length_append _ _ _)
    refine ⟨node, wrapperId, by rw [htarget, Option.bind_some, hfound], by rw [heq]; rfl, ?_, ?_⟩
    · rw [hafter, Node.find?_plug haround]
      simp [wrapper, Node.find?_branch]
    · rw [hafter, Node.updateFirst_plug haround (by simp [wrapper, Node.hasId_iff]), htree,
        ← hplug]
      simp [wrapper, Node.updateFirst, Node.onlyChild]

/-! ### All insertions -/

/-- How what an insertion has brought in is taken away again. -/
structure UndoesInsertions (source : IdSource) (ed : Editor) : Prop where
  /-- A tree that is added goes when it is removed; its parent may have got an empty list of
  children. -/
  addNode : ∀ parent node index, (ed.addNode parent node index).2 = .applied →
    ed.isLocked node.id = false →
      (ed.addNode parent node index).1.RemovalLeaves node.id
        (ed.tree.updateFirst parent Node.listed)
  /-- A duplicate stands behind its original. -/
  duplicate : ∀ id, (ed.duplicate source id).2 = .applied →
    ∃ original copy, (ed.target? id).bind ed.find? = some original ∧
      ed.AddsCopy (ed.duplicate source id).1 original copy ed.tree ∧
      original.StandsBehind copy ed.tree (ed.duplicate source id).1.tree
  /-- What is pasted stands behind the selection, or last under the root if nothing below the root
  is selected. -/
  paste : (ed.paste source).2 = .applied →
    ∃ original copy, ed.clipboard = some original ∧
      ed.AddsCopy (ed.paste source).1 original copy ed.tree.listed ∧
      (∀ m, ed.selectedBelow? = some m → m.StandsBehind copy ed.tree (ed.paste source).1.tree) ∧
      (ed.selectedBelow? = none → (ed.paste source).1.tree =
        .branch ed.tree.head (ed.tree.children ++ [copy]))
  /-- A column gives way to the one node in it. -/
  groupIntoStack : ∀ id, (ed.groupIntoStack source id).2 = .applied →
    ∃ node wrapperId, (ed.target? id).bind ed.find? = some node ∧
      (ed.groupIntoStack source id).1.selected = some wrapperId ∧
      (ed.groupIntoStack source id).1.tree.find? wrapperId = some (wrapper wrapperId node) ∧
      (ed.groupIntoStack source id).1.tree.updateFirst wrapperId Node.onlyChild = ed.tree

/-- Where no id is repeated and those to be issued are new, every insertion is undone by taking away
what it has brought in. -/
theorem insertions_undone (source : IdSource) (ed : Editor) (hids : ed.tree.ids.Nodup)
    (hnew : ed.IssuesNew source) : ed.UndoesInsertions source where
  addNode _ _ _ h hunlocked := removalLeaves_addNode h hunlocked
  duplicate _ h := duplicate_of_applied hids h
  paste h := paste_of_applied hids h
  groupIntoStack _ h := groupIntoStack_of_applied hids hnew h

/-- Stamped ids are new to a tree without low lines in its ids. -/
lemma issuesNew_clocked (millis : Nat → Nat) (h : ∀ i ∈ ed.tree.ids, '_' ∉ i.toList) :
    ed.IssuesNew (.clocked millis) := by
  intro count kind _ hin
  refine h _ hin ?_
  rw [IdSource.clocked, toList_stampedId]
  simp

/-- The box of a room with a note on the clipboard is doubled, and the note is pasted behind the
shelf; both are removed again. -/
theorem insertions_undone_room :
    let busy : Editor :=
      { room with
        clipboard := some (.leaf { id := "note", type := "Text" })
        selected := some "shelf" }
    busy.tree.ids.Nodup ∧ busy.IssuesNew (.clocked fun _ => 0) ∧
      (busy.duplicate (.clocked fun _ => 0) (some "box")).1.RemovalLeaves "box_0_1" busy.tree ∧
      (busy.paste (.clocked fun _ => 0)).1.RemovalLeaves "text_0_1" busy.tree := by
  intro busy
  have hids : busy.tree.ids.Nodup := by decide
  have hnew : busy.IssuesNew (.clocked fun _ => 0) := issuesNew_clocked _ (by decide)
  have h := insertions_undone (.clocked fun _ => 0) busy hids hnew
  obtain ⟨original, copy, -, hcopy, -⟩ := h.duplicate (some "box") (by decide +kernel)
  obtain ⟨pasted, note, -, hnote, -⟩ := h.paste (by decide +kernel)
  have hcopyId : copy.id = "box_0_1" := by
    have hselected : (busy.duplicate (.clocked fun _ => 0) (some "box")).1.selected =
      some "box_0_1" := by decide +kernel
    exact Option.some.inj (hcopy.selected.symm.trans hselected)
  have hnoteId : note.id = "text_0_1" := by
    have hselected : (busy.paste (.clocked fun _ => 0)).1.selected = some "text_0_1" := by
      decide +kernel
    exact Option.some.inj (hnote.selected.symm.trans hselected)
  refine ⟨hids, hnew, ?_, ?_⟩
  · rw [← hcopyId]
    exact hcopy.removal rfl
  · rw [← hnoteId]
    exact hnote.removal rfl

/-- An editor on a room that holds the id of the next box locked, although no node has it. -/
def heldRoom : Editor := { room with locked := ["box_0_1"] }

/-- A duplicate is not always removed again: its new id may have been locked before. -/
theorem not_removal_of_duplicate :
    ¬ ∀ (source : IdSource) (ed : Editor), ed.tree.ids.Nodup → ed.IssuesNew source →
      ∀ id, (ed.duplicate source id).2 = .applied →
        ∀ s, (ed.duplicate source id).1.selected = some s →
          ((ed.duplicate source id).1.removeNode s).1.tree = ed.tree := by
  intro h
  have hnew : heldRoom.IssuesNew (.clocked fun _ => 0) := issuesNew_clocked _ (by decide)
  have htree := h (.clocked fun _ => 0) heldRoom (by decide) hnew (some "box") (by decide +kernel)
    "box_0_1" (by decide +kernel)
  have hids := congrArg Node.ids htree
  exact absurd hids (by decide +kernel)

end Editor
end Screenwright
