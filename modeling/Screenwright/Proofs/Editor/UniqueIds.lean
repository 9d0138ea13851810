import Screenwright.Proofs.Editor.Timeline

/-! Ids stay unique: no tree that an editor shows, keeps or has copied ever repeats an id, and the
selection is always a node of the current tree. -/
namespace Screenwright
open scoped List

/-- The ids that a command brings in from outside. -/
def Command.givenIds : Command → List String
  | .addNode _ node _ => node.ids
  | .renameNode _ new => [Editor.cleanId new]
  | _ => []

namespace Editor
variable (source : IdSource) (ed : Editor)

/-- What a caller has to respect: a tree to add has no id twice, and what is selected is there. -/
def Permits : Command → Prop
  | .addNode _ node _ => node.ids.Nodup
  | .select (some id) => id ∈ ed.tree.ids
  | _ => True

/-- Every command of a list is permitted when its turn comes. -/
def PermitsAll (ed : Editor) : List Command → Prop
  | [] => True
  | c :: cs => ed.Permits c ∧ (ed.step source c).1.PermitsAll cs

/-- The kinds of the ids that a command asks for. -/
def requests : Command → List String
  | .groupIntoStack id => (ed.subject? id).elim [] fun _ => [Text.lower BuiltinType.stack.name]
  | .paste => ed.clipboard.elim [] Node.idKinds
  | .duplicate id => (ed.subject? id).elim [] Node.idKinds
  | _ => []

/-- The ids that are generated while a list of commands runs. -/
def generated (ed : Editor) : List Command → List String
  | [] => []
  | c :: cs => source.idsFor ed.issued (ed.requests c) ++ (ed.step source c).1.generated cs

/-- No id stands for two nodes of one tree, in any state that the editor can show or paste. -/
structure IdsDistinct (ed : Editor) : Prop where
  tree : ed.tree.ids.Nodup
  past : ∀ s ∈ ed.history.past, s.tree.ids.Nodup
  future : ∀ s ∈ ed.history.future, s.tree.ids.Nodup
  clipboard : ∀ n, ed.clipboard = some n → n.ids.Nodup
  selected : ∀ id, ed.selected = some id → id ∈ ed.tree.ids

/-- A tree without repeated ids, each of them given from outside or issued before. -/
structure Clean (source : IdSource) (given : String → Prop) (issued : Nat) (n : Node) : Prop where
  nodup : n.ids.Nodup
  known : ∀ id ∈ n.ids, given id ∨ ∃ count kind, count ≤ issued ∧ id = source count kind

/-- The invariant of a run: all screens of the timeline are clean. -/
structure Sound (source : IdSource) (given : String → Prop) (ed : Editor) : Prop where
  screens : ∀ s ∈ ed.timeline, Clean source given ed.issued s.tree
  clipboard : ∀ n, ed.clipboard = some n → n.ids.Nodup
  selected : ∀ id, ed.selected = some id → id ∈ ed.tree.ids

variable {source : IdSource} {given : String → Prop} {ed : Editor}

lemma mem_timeline {s : ScreenSpec} :
    s ∈ ed.timeline ↔ s ∈ ed.history.past ∨ s = ed.spec ∨ s ∈ ed.history.future := by
  simp [timeline, History.timeline]

/-- What is kept of the past and the current screen was on the timeline. -/
lemma mem_timeline_of_mem_remember {s : ScreenSpec} (hs : s ∈ ed.history.remember ed.spec) :
    s ∈ ed.timeline := by
  have hs : s ∈ ed.spec :: ed.history.past := List.mem_of_mem_take hs
  rw [mem_timeline]
  rcases List.mem_cons.1 hs with rfl | hs
  · exact .inr (.inl rfl)
  · exact .inl hs

/-- Undo brings nothing onto the timeline. -/
lemma timeline_undo_subset {s : ScreenSpec} {past : List ScreenSpec}
    (h : ed.history.past = s :: past) :
    { ed.history with past := past, future := ed.spec :: ed.history.future }.timeline s ⊆
      ed.timeline := by
  simp [timeline, History.timeline, h]

/-- Redo brings nothing onto the timeline. -/
lemma timeline_redo_subset {s : ScreenSpec} {future : List ScreenSpec}
    (h : ed.history.future = s :: future) :
    { ed.history with past := ed.history.remember ed.spec, future := future }.timeline s ⊆
      ed.timeline := by
  intro s' hs'
  simp only [History.timeline, List.mem_append, List.mem_reverse] at hs'
  rcases hs' with hs' | hs'
  · exact mem_timeline_of_mem_remember hs'
  · rw [mem_timeline, h]
    exact .inr (.inr hs')

lemma Clean.mono {n : Node} {issued issued' : Nat} (h : Clean source given issued n)
    (hle : issued ≤ issued') : Clean source given issued' n where
  nodup := h.nodup
  known id hid := (h.known id hid).imp_right fun ⟨count, kind, hcount, heq⟩ =>
    ⟨count, kind, hcount.trans hle, heq⟩

/-- Ids in another order are as clean. -/
lemma Clean.of_perm {m n : Node} {issued : Nat} (h : Clean source given issued n)
    (hperm : m.ids ~ n.ids) : Clean source given issued m where
  nodup := hperm.nodup_iff.2 h.nodup
  known id hid := h.known id (hperm.mem_iff.1 hid)

lemma Sound.idsDistinct (h : ed.Sound source given) : ed.IdsDistinct where
  tree := (h.screens ed.spec (mem_timeline.2 (.inr (.inl rfl)))).nodup
  past s hs := (h.screens s (mem_timeline.2 (.inl hs))).nodup
  future s hs := (h.screens s (mem_timeline.2 (.inr (.inr hs)))).nodup
  clipboard := h.clipboard
  selected := h.selected

lemma Sound.clean_tree (h : ed.Sound source given) : Clean source given ed.issued ed.tree :=
  h.screens ed.spec (mem_timeline.2 (.inr (.inl rfl)))

/-- Issuing ids changes nothing else. -/
lemma Sound.issue (h : ed.Sound source given) {issued : Nat} (hle : ed.issued ≤ issued) :
    ({ ed with issued := issued } : Editor).Sound source given where
  screens s hs := (h.screens s hs).mono hle
  clipboard := h.clipboard
  selected := h.selected

/-- After a change only the new tree and the selection have to be looked at. -/
lemma Sound.of_recorded {after : Editor} (h : ed.Sound source given) (hrec : ed.Recorded after)
    (hissued : ed.issued ≤ after.issued) (htree : Clean source given after.issued after.tree)
    (hselected : ∀ id, after.selected = some id → id ∈ after.tree.ids) :
    after.Sound source given where
  screens s hs := by
    rw [mem_timeline, hrec.history] at hs
    rcases hs with hs | rfl | hs
    · exact (h.screens s (mem_timeline_of_mem_remember hs)).mono hissued
    · exact htree
    · simp [History.record] at hs
  clipboard := by rw [hrec.clipboard]; exact h.clipboard
  selected := hselected

/-! ### One operation -/

lemma Sound.addNode (h : ed.Sound source given) {node : Node} (parent : String)
    (index : Option Int) (hnode : Clean source given ed.issued node) :
    (ed.addNode parent node index).1.Sound source given := by
  rcases ed.addNode_cases parent node index with ⟨r, heq⟩ | ⟨hparent, hnew, heq⟩
  · rw [heq]; exact h
  · have hids := Node.ids_insertUnder node index hparent
    rw [heq]
    refine h.of_recorded ⟨rfl, rfl, rfl⟩ le_rfl ⟨?_, ?_⟩ ?_
    · change (Node.insertUnder parent node index ed.tree).ids.Nodup
      rw [hids.nodup_iff, List.nodup_append]
      refine ⟨hnode.nodup, h.clean_tree.nodup, fun a ha b hb hab => hnew a ha (hab ▸ hb)⟩
    · intro id hid
      rcases List.mem_append.1 (hids.mem_iff.1 hid) with hid | hid
      · exact hnode.known id hid
      · exact h.clean_tree.known id hid
    · intro id hid
      cases hid
      exact hids.mem_iff.2 (List.mem_append_left _ (by rw [Node.ids_eq_cons]; simp))

lemma Sound.addCopy (h : ed.Sound source given) (hsource : source.Injective) (copied : Node)
    (parent : String) (index : Option Int) :
    (ed.addCopy source copied parent index).1.Sound source given := by
  rw [addCopy_eq]
  apply Sound.addNode (h.issue (Nat.le_add_right _ _))
  have hids := (Node.withFreshIds_spec source ed.issued copied).1
  refine ⟨?_, fun id hid => ?_⟩
  · rw [hids]; exact IdSource.idsFor_nodup hsource _ _
  · rw [hids] at hid
    obtain ⟨count, kind, -, hle, heq⟩ := IdSource.mem_idsFor hid
    exact .inr ⟨count, kind, hle, heq⟩

/-- The node that is taken out is the one found by its id. -/
lemma detached_eq_found {n m : Node} {id : String} {d : Detached} (hnodup : n.ids.Nodup)
    (hm : n.find? id = some m) (hd : n.detach? id = some d) : d.node = m := by
  obtain ⟨-, hid, hmem⟩ := Node.elements_detach? hd
  have := Node.find?_of_mem hnodup hmem
  rw [hid, hm] at this
  exact (Option.some.inj this).symm

/-- A parent that is not inside the node taken out is found in the rest. -/
lemma hasId_rest {n : Node} {id parent : String} {d : Detached} (hnodup : n.ids.Nodup)
    (hparent : n.hasId parent) (hwithin : n.isWithin id parent = false)
    (hd : n.detach? id = some d) : d.rest.hasId parent = true := by
  obtain ⟨-, hid, hmem⟩ := Node.elements_detach? hd
  have hfound := Node.find?_of_mem hnodup hmem
  rw [hid] at hfound
  have hin := (Node.ids_detach? hd).mem_iff.1 ((Node.hasId_iff _ _).1 hparent)
  rcases List.mem_append.1 hin with hin | hin
  · have hinside : (d.node.find? parent).isSome := (Node.hasId_iff _ _).2 hin
    simp [Node.isWithin, hfound, hinside] at hwithin
  · exact (Node.hasId_iff _ _).2 hin

/-- A node that is taken out and put in again leaves the ids what they are. -/
lemma ids_insertUnder_rest {n : Node} {id parent : String} {d : Detached} (index : Option Int)
    (hd : n.detach? id = some d) (hrest : d.rest.hasId parent) :
    (Node.insertUnder parent d.node index d.rest).ids ~ n.ids :=
  (Node.ids_insertUnder d.node index hrest).trans (Node.ids_detach? hd).symm

lemma Sound.removeNode (h : ed.Sound source given) (id : String) :
    (ed.removeNode id).1.Sound source given := by
  rcases ed.removeNode_cases id with ⟨r, heq⟩ | ⟨node, d, -, -, hnode, hd, heq⟩
  · rw [heq]; exact h
  · have hids := Node.ids_detach? hd
    have hsub : d.rest.ids ⊆ ed.tree.ids := fun i hi => hids.mem_iff.2 (List.mem_append_right _ hi)
    rw [heq]
    refine h.of_recorded ⟨rfl, rfl, rfl⟩ le_rfl ⟨?_, ?_⟩ ?_
    · exact (List.nodup_append.1 (hids.nodup_iff.1 h.clean_tree.nodup)).2.1
    · exact fun i hi => h.clean_tree.known i (hsub hi)
    · intro i hi
      obtain ⟨hsel, hout⟩ := Option.filter_eq_some_iff.1 hi
      rcases List.mem_append.1 (hids.mem_iff.1 (h.selected i hsel)) with hin | hin
      · rw [detached_eq_found h.clean_tree.nodup hnode hd] at hin
        simp [hin] at hout
      · exact hin

lemma Sound.moveNode (h : ed.Sound source given) (id parent : String) (index : Int) :
    (ed.moveNode id parent index).1.Sound source given := by
  rcases ed.moveNode_cases id parent index with
    ⟨r, heq⟩ | ⟨d, -, -, hparent, hwithin, hd, ⟨hrest, heq⟩ | ⟨hrest, heq⟩⟩
  · rw [heq]; exact h
  · have hids := ids_insertUnder_rest (some index) hd hrest
    rw [heq]
    refine h.of_recorded ⟨rfl, rfl, rfl⟩ le_rfl (h.clean_tree.of_perm hids) fun i hi => ?_
    exact hids.mem_iff.2 (h.selected i hi)
  · rw [hasId_rest h.clean_tree.nodup hparent hwithin hd] at hrest
    cases hrest

lemma Sound.shift (h : ed.Sound source given) (id : Option String) (offset : Int) :
    (ed.shift id offset).1.Sound source given := by
  rcases ed.shift_cases id offset with
    ⟨r, heq⟩ | ⟨target, parent, index, -, -, -, hparent, -, hindex, heq⟩
  · rw [heq]; exact h
  · have hplace := Node.placeChild_perm target index parent.children hindex
    have hel := Node.elements_updateSiblings [] hparent (hplace.flatMap_right _)
    have hids : (ed.tree.updateSiblings target (placeChild target index)).ids ~ ed.tree.ids := by
      simpa [Node.ids_eq_map] using Node.ids_perm hel
    rw [heq]
    refine h.of_recorded ⟨rfl, rfl, rfl⟩ le_rfl (h.clean_tree.of_perm hids) fun i hi => ?_
    exact hids.mem_iff.2 (h.selected i hi)

lemma Sound.renameNode (h : ed.Sound source given) (old new : String)
    (hgiven : given (cleanId new)) :
    (ed.renameNode old new).1.Sound source given := by
  rcases ed.renameNode_cases old new with ⟨r, heq⟩ | ⟨-, -, hold, hnew, heq⟩
  · rw [heq]; exact h
  · obtain ⟨m, hm⟩ := Option.isSome_iff_exists.1 hold
    obtain ⟨es, hbefore, hafter⟩ :=
      Node.elements_updateFirst_mapHead (fun e => { e with id := cleanId new }) hm
    have hids := Node.ids_perm hbefore
    have hids' := Node.ids_perm hafter
    rw [List.map_cons, show m.head.id = old from Node.id_eq_of_find? hm] at hids
    rw [List.map_cons] at hids'
    have hnodup := List.nodup_cons.1 (hids.nodup_iff.1 h.clean_tree.nodup)
    have hsub : es.map Element.id ⊆ ed.tree.ids := fun i hi =>
      hids.mem_iff.2 (List.mem_cons_of_mem _ hi)
    rw [heq]
    refine h.of_recorded ⟨rfl, rfl, rfl⟩ le_rfl ⟨?_, fun i hi => ?_⟩ fun i hi => ?_
    · exact hids'.nodup_iff.2 (List.nodup_cons.2 ⟨fun hin => hnew (hsub hin), hnodup.2⟩)
    · rcases List.mem_cons.1 (hids'.mem_iff.1 hi) with rfl | hi
      · exact .inl hgiven
      · exact h.clean_tree.known i (hsub hi)
    · apply hids'.mem_iff.2
      change (if ed.selected = some old then some (cleanId new) else ed.selected) = some i at hi
      split_ifs at hi with hsel
      · rw [← Option.some.inj hi]
        exact List.mem_cons_self
      · rcases List.mem_cons.1 (hids.mem_iff.1 (h.selected i hi)) with rfl | hin
        · exact absurd hi hsel
        · exact List.mem_cons_of_mem _ hin

/-- Changing all of an element but its id keeps the editor sound. -/
lemma Sound.mapHead (h : ed.Sound source given) {id : String} (hid : ed.tree.hasId id)
    (f : Element → Element) (hf : ∀ e, (f e).id = e.id) :
    (ed.edit (Node.updateFirst id (Node.mapHead f))).Sound source given := by
  obtain ⟨m, hm⟩ := Option.isSome_iff_exists.1 hid
  obtain ⟨es, hbefore, hafter⟩ := Node.elements_updateFirst_mapHead f hm
  have hids : (ed.tree.updateFirst id (Node.mapHead f)).ids ~ ed.tree.ids := by
    have h₁ := Node.ids_perm hbefore
    have h₂ := Node.ids_perm hafter
    rw [List.map_cons] at h₁ h₂
    rw [hf] at h₂
    exact h₂.trans h₁.symm
  refine h.of_recorded ⟨rfl, rfl, rfl⟩ le_rfl (h.clean_tree.of_perm hids) fun i hi => ?_
  exact hids.mem_iff.2 (h.selected i hi)

lemma Sound.updateProps (h : ed.Sound source given) (id : String) (props : Fields Json) :
    (ed.updateProps id props).1.Sound source given := by
  rcases ed.updateProps_cases id props with ⟨r, heq⟩ | ⟨-, hid, heq⟩
  · rw [heq]; exact h
  · rw [heq]; exact h.mapHead hid _ fun _ => rfl

lemma Sound.updateStyle (h : ed.Sound source given) (id : String) (fs : Fields Json) :
    (ed.updateStyle id fs).1.Sound source given := by
  rcases ed.updateStyle_cases id fs with ⟨r, heq⟩ | ⟨node, style, -, hnode, -, heq⟩
  · rw [heq]; exact h
  · have hid : ed.tree.hasId id := by simp [Node.hasId, hnode]
    rw [heq]; exact h.mapHead hid _ fun _ => rfl

/-- A column needs an id that no node of the tree has; the ids of other new nodes are checked. -/
lemma Sound.groupIntoStack (h : ed.Sound source given) (hsource : source.Injective)
    (id : Option String)
    (hfresh : ∀ i ∈ source.idsFor ed.issued (ed.requests (.groupIntoStack id)), ¬ given i) :
    (ed.groupIntoStack source id).1.Sound source given := by
  rcases ed.groupIntoStack_cases source id with
    ⟨⟨r, heq⟩, -⟩ | ⟨target, parent, node, wrapperId, -, -, hparent, hsubject, hwrapper, heq⟩
  · rw [heq]; exact h
  · have hids := Node.ids_wrapChild hparent wrapperId
    have hnew : wrapperId ∉ ed.tree.ids := by
      intro hin
      rcases h.clean_tree.known wrapperId hin with hgiven | ⟨count, kind, hle, hsame⟩
      · exact hfresh wrapperId (by simp [requests, hsubject, IdSource.idsFor, hwrapper]) hgiven
      · have := hsource _ _ _ _ (hwrapper.symm.trans hsame)
        omega
    rw [heq]
    refine h.of_recorded ⟨rfl, rfl, rfl⟩ (Nat.le_succ _) ⟨?_, fun i hi => ?_⟩ fun i hi => ?_
    · exact hids.nodup_iff.2 (List.nodup_cons.2 ⟨hnew, h.clean_tree.nodup⟩)
    · rcases List.mem_cons.1 (hids.mem_iff.1 hi) with rfl | hi
      · exact .inr ⟨ed.issued + 1, _, le_rfl, hwrapper⟩
      · exact (h.clean_tree.mono (Nat.le_succ _)).known i hi
    · cases hi
      exact hids.mem_iff.2 List.mem_cons_self

lemma Sound.copyNode (h : ed.Sound source given) (id : Option String) :
    (ed.copyNode id).1.Sound source given := by
  rcases ed.copyNode_cases id with ⟨r, heq⟩ | ⟨target, node, -, hnode, heq⟩
  · rw [heq]; exact h
  · rw [heq]
    refine ⟨h.screens, fun n hn => ?_, h.selected⟩
    cases hn
    obtain ⟨t, ht, -⟩ := Node.exists_trail_of_find? hnode
    have hnodup := h.clean_tree.nodup
    rw [ht, Node.ids_eq_map, Trail.elements_plug, List.map_append, List.map_append] at hnodup
    rw [Node.ids_eq_map]
    exact (List.nodup_append.1 (List.nodup_append.1 hnodup).1).2.1

lemma Sound.paste (h : ed.Sound source given) (hsource : source.Injective) :
    (ed.paste source).1.Sound source given := by
  rcases ed.paste_cases source with ⟨⟨r, heq⟩, -⟩ | ⟨copied, parent, index, -, heq⟩
  · rw [heq]; exact h
  · rw [heq]; exact h.addCopy hsource copied parent index

lemma Sound.duplicate (h : ed.Sound source given) (hsource : source.Injective)
    (id : Option String) : (ed.duplicate source id).1.Sound source given := by
  rcases ed.duplicate_cases source id with ⟨⟨r, heq⟩, -⟩ | ⟨copied, parent, index, -, heq⟩
  · rw [heq]; exact h
  · rw [heq]; exact h.addCopy hsource copied parent index

/-- Going to another screen of the timeline keeps the editor sound. -/
lemma Sound.restore (h : ed.Sound source given) {s : ScreenSpec} {history : History ScreenSpec}
    (hsub : history.timeline s ⊆ ed.timeline) : (ed.restore (s, history)).1.Sound source given where
  screens s' hs' := h.screens s' (hsub hs')
  clipboard := h.clipboard
  selected _ hid := (Node.hasId_iff _ _).1 (Option.filter_eq_some_iff.1 hid).2

lemma Sound.undo (h : ed.Sound source given) : ed.undo.1.Sound source given := by
  rcases ed.undo_cases with ⟨-, heq⟩ | ⟨s, past, hpast, heq⟩
  · rw [heq]; exact h
  · rw [heq]
    exact h.restore (timeline_undo_subset hpast)

lemma Sound.redo (h : ed.Sound source given) : ed.redo.1.Sound source given := by
  rcases ed.redo_cases with ⟨-, heq⟩ | ⟨s, future, hfuture, heq⟩
  · rw [heq]; exact h
  · rw [heq]
    exact h.restore (timeline_redo_subset hfuture)

/-! ### Runs -/

lemma addNode_issued (parent : String) (node : Node) (index : Option Int) :
    (ed.addNode parent node index).1.issued = ed.issued := by
  rcases ed.addNode_cases parent node index with ⟨r, heq⟩ | ⟨-, -, heq⟩ <;> rw [heq] <;> rfl

lemma shift_issued (id : Option String) (offset : Int) :
    (ed.shift id offset).1.issued = ed.issued := by
  rcases ed.shift_cases id offset with ⟨r, heq⟩ | ⟨_, _, _, -, -, -, -, -, -, heq⟩ <;>
    rw [heq] <;> rfl

lemma addCopy_issued (copied : Node) (parent : String) (index : Option Int) :
    (ed.addCopy source copied parent index).1.issued = ed.issued + copied.idKinds.length := by
  rw [addCopy_eq, addNode_issued, afterCopy]

/-- The count of issued ids grows by the number of ids that a command asks for. -/
theorem step_issued (source : IdSource) (ed : Editor) (c : Command) :
    (ed.step source c).1.issued = ed.issued + (ed.requests c).length := by
  cases c with
  | addNode parent node index => exact addNode_issued parent node index
  | removeNode id =>
    rcases ed.removeNode_cases id with ⟨r, h⟩ | ⟨_, _, -, -, -, -, h⟩ <;> rw [step, h] <;> rfl
  | moveNode id parent index =>
    rcases ed.moveNode_cases id parent index with
      ⟨r, h⟩ | ⟨d, -, -, -, -, -, ⟨-, h⟩ | ⟨-, h⟩⟩ <;> rw [step, h] <;> rfl
  | moveUp id => exact shift_issued id (-1)
  | moveDown id => exact shift_issued id 1
  | renameNode id new =>
    rcases ed.renameNode_cases id new with ⟨r, h⟩ | ⟨-, -, -, -, h⟩ <;> rw [step, h] <;> rfl
  | updateProps id props =>
    rcases ed.updateProps_cases id props with ⟨r, h⟩ | ⟨-, -, h⟩ <;> rw [step, h] <;> rfl
  | updateStyle id fs =>
    rcases ed.updateStyle_cases id fs with ⟨r, h⟩ | ⟨_, _, -, -, -, h⟩ <;> rw [step, h] <;> rfl
  | groupIntoStack id =>
    rcases ed.groupIntoStack_cases source id with
      ⟨⟨r, h⟩, hnone⟩ | ⟨_, _, _, _, -, -, -, hsome, -, h⟩
    · rw [step, h, requests, hnone]; rfl
    · rw [step, h, requests, hsome]; rfl
  | copyNode id =>
    rcases ed.copyNode_cases id with ⟨r, h⟩ | ⟨_, _, -, -, h⟩ <;> rw [step, h] <;> rfl
  | paste =>
    rcases ed.paste_cases source with ⟨⟨r, h⟩, hnone⟩ | ⟨copied, parent, index, hsome, h⟩
    · rw [step, h, requests, hnone]; rfl
    · rw [step, h, requests, hsome]; exact addCopy_issued copied parent index
  | duplicate id =>
    rcases ed.duplicate_cases source id with ⟨⟨r, h⟩, hnone⟩ | ⟨copied, parent, index, hsome, h⟩
    · rw [step, h, requests, hnone]; rfl
    · rw [step, h, requests, hsome]; exact addCopy_issued copied parent index
  | undo => rcases ed.undo_cases with ⟨-, h⟩ | ⟨_, _, -, h⟩ <;> rw [step, h] <;> rfl
  | redo => rcases ed.redo_cases with ⟨-, h⟩ | ⟨_, _, -, h⟩ <;> rw [step, h] <;> rfl
  | _ => rfl

theorem Sound.step (h : ed.Sound source given) (hsource : source.Injective) {c : Command}
    (hpermits : ed.Permits c) (hgiven : ∀ i ∈ c.givenIds, given i)
    (hfresh : ∀ i ∈ source.idsFor ed.issued (ed.requests c), ¬ given i) :
    (ed.step source c).1.Sound source given := by
  cases c with
  | addNode parent node index =>
    exact h.addNode parent index ⟨hpermits, fun i hi => .inl (hgiven i hi)⟩
  | removeNode id => exact h.removeNode id
  | moveNode id parent index => exact h.moveNode id parent index
  | moveUp id => exact h.shift id (-1)
  | moveDown id => exact h.shift id 1
  | renameNode id new =>
    have hnew : given (cleanId new) := hgiven (cleanId new) List.mem_cons_self
    rw [Editor.step, replying_fst]
    exact h.renameNode id new hnew
  | updateProps id props => exact h.updateProps id props
  | updateStyle id fs => exact h.updateStyle id fs
  | groupIntoStack id => exact h.groupIntoStack hsource id hfresh
  | copyNode id => exact h.copyNode id
  | paste => exact h.paste hsource
  | duplicate id => exact h.duplicate hsource id
  | undo => exact h.undo
  | redo => exact h.redo
  | select id =>
    refine ⟨h.screens, h.clipboard, fun i hi => ?_⟩
    cases id with
    | none => cases hi
    | some id => cases hi; exact hpermits
  | toggleHidden id => exact ⟨h.screens, h.clipboard, h.selected⟩
  | toggleLocked id => exact ⟨h.screens, h.clipboard, h.selected⟩
  | isHidden id => exact h
  | isLocked id => exact h
  | markClean => exact ⟨h.screens, h.clipboard, h.selected⟩

theorem Sound.run (h : ed.Sound source given) (hsource : source.Injective) (cs : List Command)
    (hpermits : ed.PermitsAll source cs) (hgiven : ∀ c ∈ cs, ∀ i ∈ c.givenIds, given i)
    (hfresh : ∀ i ∈ ed.generated source cs, ¬ given i) : (ed.run source cs).Sound source given := by
  induction cs generalizing ed with
  | nil => exact h
  | cons c cs ih =>
    have hstep := h.step hsource hpermits.1 (hgiven c (by simp))
      fun i hi => hfresh i (List.mem_append_left _ hi)
    exact ih hstep hpermits.2 (fun c hc => hgiven c (List.mem_cons_of_mem _ hc))
      fun i hi => hfresh i (List.mem_append_right _ hi)

/-- From a screen without repeated ids, no run of permitted commands leads to a repeated id, as long
as no generated id meets one that was given. -/
theorem run_idsDistinct (millis : Nat → Nat) (spec : ScreenSpec) {limit : Int} (hlimit : 1 ≤ limit)
    (hspec : spec.tree.ids.Nodup) :
    ∃ start, create spec limit = .ok start ∧ ∀ commands,
      start.PermitsAll (.clocked millis) commands →
      (∀ id ∈ start.generated (.clocked millis) commands,
        id ∉ spec.tree.ids ∧ ∀ c ∈ commands, id ∉ c.givenIds) →
      (start.run (.clocked millis) commands).IdsDistinct := by
  refine ⟨_, create_eq spec hlimit, fun commands hpermits hfresh => ?_⟩
  let given : String → Prop := fun id => id ∈ spec.tree.ids ∨ ∃ c ∈ commands, id ∈ c.givenIds
  have hstart : Sound (.clocked millis) given
      { spec := spec, history := History.empty limit.toNat } := by
    refine ⟨fun s hs => ?_, by simp, by simp⟩
    obtain rfl : s = spec := by simpa [timeline, History.timeline, History.empty] using hs
    exact ⟨hspec, fun id hid => .inl (.inl hid)⟩
  refine (hstart.run (IdSource.clocked_injective millis) commands hpermits ?_ ?_).idsDistinct
  · exact fun c hc i hi => .inr ⟨c, hc, hi⟩
  · rintro i hi (hin | ⟨c, hc, hin⟩)
    · exact (hfresh i hi).1 hin
    · exact (hfresh i hi).2 c hc hin

/-- Copies of a text and a column around it, across a renaming that is undone. -/
theorem run_idsDistinct_copies :
    (1 : Int) ≤ 2 ∧ textColumn.tree.ids.Nodup ∧
      ∃ start, create textColumn 2 = .ok start ∧
        (start.run (.clocked fun _ => 0)
          [.copyNode (some "title"), .paste, .groupIntoStack (some "title"),
            .renameNode "title" "main title", .undo, .select (some "title"),
            .duplicate none]).IdsDistinct := by
  obtain ⟨start, hstart, h⟩ :=
    run_idsDistinct (fun _ => 0) textColumn (show (1 : Int) ≤ 2 by decide) (by decide)
  refine ⟨by decide, by decide, start, hstart, h _ ?_ ?_⟩
  · cases hstart
    simp only [PermitsAll, Permits, and_true, true_and]
    decide
  · cases hstart
    decide

end Editor
end Screenwright
