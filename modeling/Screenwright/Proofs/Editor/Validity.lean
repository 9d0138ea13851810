import Screenwright.Proofs.Editor.UniqueIds
import Screenwright.Proofs.Validation.Written

/-! Editing keeps documents valid: no command makes a screen that the walk would not accept, unless
it brings in a tree or props from outside. -/
namespace Screenwright
open scoped List

/-- Whether a command puts something into the tree that the editor does not check. -/
def Command.bringsUnchecked : Command → Bool
  | .addNode .. | .updateProps .. => true
  | _ => false

lemma hasInk_stampedId (kind : String) (millis count : Nat) :
    Text.hasInk (stampedId kind millis count) = true := by
  rw [Text.hasInk, List.any_eq_true, toList_stampedId]
  exact ⟨'_', by simp, by decide⟩

lemma Editor.hasInk_cleanId {s : String} (h : cleanId s ≠ "") :
    Text.hasInk (cleanId s) = true :=
  Text.hasInk_of_ne_empty h fun _ => isBlank_of_mem_cleanId

namespace Node
variable {n m : Node}

lemma Passes.of_subset (h : n.Passes) (hsub : m.elements ⊆ n.elements) : m.Passes :=
  fun e he => h e (hsub he)

/-- A tree that gains elements which pass. -/
lemma Passes.of_gain (h : n.Passes) {gain : List Element} (hgain : ∀ e ∈ gain, e.Passes)
    (hperm : m.elements ~ gain ++ n.elements) : m.Passes := fun e he =>
  (List.mem_append.1 (hperm.mem_iff.1 he)).elim (hgain e) (h e)

lemma Passes.head (h : n.Passes) : n.head.Passes := by
  apply h
  rw [elements_eq_cons]
  exact List.mem_cons_self

/-- The nodes of a tree that passes pass. -/
lemma Passes.of_mem_nodes (h : n.Passes) (hm : m ∈ n.nodes) : m.Passes :=
  h.of_subset (elements_subset_of_mem_nodes hm)

/-- Changing one element of a tree that passes to one that passes. -/
lemma Passes.updateFirst (h : n.Passes) {id : String} (hm : n.find? id = some m)
    {f : Element → Element} (hf : (f m.head).Passes) :
    (n.updateFirst id (mapHead f)).Passes := by
  obtain ⟨es, hbefore, hafter⟩ := elements_updateFirst_mapHead f hm
  intro e he
  rcases List.mem_cons.1 (hafter.mem_iff.1 he) with rfl | he
  · exact hf
  · exact h e (hbefore.mem_iff.2 (List.mem_cons_of_mem _ he))

mutual

/-- A copy under ids with ink passes as its original does. -/
lemma Passes.withFreshIds {source : IdSource}
    (hsource : ∀ count kind, Text.hasInk (source count kind) = true) (issued : Nat) :
    (n : Node) → n.Passes → (n.withFreshIds source issued).1.Passes
  | leaf e, h => by
    intro e' he'
    rw [Node.withFreshIds, elements_leaf, List.mem_singleton] at he'
    subst he'
    exact (h e (by simp)).withId (hsource _ _)
  | branch e cs, h => by
    have hbelow := passes_withFreshIdsOf hsource (issued + 1) cs fun e' he' => h e' (by
      rw [elements_branch]
      exact List.mem_cons_of_mem _ he')
    intro e' he'
    rw [Node.withFreshIds, elements_branch] at he'
    rcases List.mem_cons.1 he' with rfl | he'
    · exact (h e (by simp)).withId (hsource _ _)
    · exact hbelow e' he'

lemma passes_withFreshIdsOf {source : IdSource}
    (hsource : ∀ count kind, Text.hasInk (source count kind) = true) (issued : Nat) :
    (cs : List Node) → (∀ e ∈ cs.flatMap elements, e.Passes) →
      ∀ e ∈ (withFreshIdsOf source issued cs).1.flatMap elements, e.Passes
  | [], h => h
  | c :: cs, h => by
    rw [List.flatMap_cons, List.forall_mem_append] at h
    rw [withFreshIdsOf, List.flatMap_cons, List.forall_mem_append]
    exact ⟨Passes.withFreshIds hsource issued c h.1, passes_withFreshIdsOf hsource _ cs h.2⟩

end

/-- The column that is put around a node passes. -/
lemma passes_wrapper {id : String} (hid : Text.hasInk id = true) (c : Node) :
    (Editor.wrapper id c).head.Passes := by
  constructor
  case id => exact hid
  case type => exact (by decide : Text.hasInk BuiltinType.stack.name = true)
  case table =>
    intro t ht
    have htype : BuiltinType.ofName? BuiltinType.stack.name = some t := by
      rw [show BuiltinType.stack.name = t.name from ht]
      exact BuiltinType.ofName?_name t
    obtain rfl : BuiltinType.stack = t := by simpa using htype
    have hprops : (PropTable.allowed .stack).check
        [("direction", .str "column"), ("gap", .str "md")] "" = [] := by decide
    exact (PropTable.check_eq_nil "").1 hprops
  case reference =>
    intro htype
    exact absurd (show BuiltinType.stack.name = referenceType from htype) (by decide)
  case style => exact fun s hs => nomatch hs
  case responsive => exact fun r hr => nomatch hr

end Node

namespace Editor
variable {source : IdSource} {ed : Editor}

/-- An editor of which every screen passes, and whatever it can paste. -/
structure Valid (ed : Editor) : Prop where
  screens : ∀ s ∈ ed.timeline, s.Passes
  clipboard : ∀ n, ed.clipboard = some n → n.Passes

lemma Valid.spec (h : ed.Valid) : ed.spec.Passes := h.screens _ (mem_timeline.2 (.inr (.inl rfl)))

lemma Valid.tree (h : ed.Valid) : ed.tree.Passes := h.spec.tree

/-- After a change only the new tree has to be looked at. -/
lemma Valid.of_recorded {after : Editor} (h : ed.Valid) (hrec : ed.Recorded after) {tree : Node}
    (hspec : after.spec = { ed.spec with tree := tree }) (htree : tree.Passes) : after.Valid where
  screens s hs := by
    rw [mem_timeline, hrec.history] at hs
    rcases hs with hs | rfl | hs
    · exact h.screens s (mem_timeline_of_mem_remember hs)
    · rw [hspec]
      exact ⟨h.spec.version, h.spec.route, htree⟩
    · simp [History.record] at hs
  clipboard := by
    rw [hrec.clipboard]
    exact h.clipboard

/-! ### One operation -/

lemma Valid.addNode (h : ed.Valid) {node : Node} (hnode : node.Passes) (parent : String)
    (index : Option Int) : (ed.addNode parent node index).1.Valid := by
  rcases ed.addNode_cases parent node index with ⟨r, heq⟩ | ⟨hparent, -, heq⟩
  · rw [heq]; exact h
  · rw [heq]
    exact h.of_recorded ⟨rfl, rfl, rfl⟩ rfl
      (h.tree.of_gain hnode (Node.elements_insertUnder node index hparent))

lemma Valid.removeNode (h : ed.Valid) (id : String) : (ed.removeNode id).1.Valid := by
  rcases ed.removeNode_cases id with ⟨r, heq⟩ | ⟨node, d, -, -, -, hd, heq⟩
  · rw [heq]; exact h
  · rw [heq]
    refine h.of_recorded ⟨rfl, rfl, rfl⟩ rfl (h.tree.of_subset fun e he => ?_)
    exact (Node.elements_detach? hd).1.mem_iff.2 (List.mem_append_right _ he)

lemma Valid.moveNode (h : ed.Valid) (id parent : String) (index : Int) :
    (ed.moveNode id parent index).1.Valid := by
  rcases ed.moveNode_cases id parent index with ⟨r, heq⟩ | ⟨d, -, -, -, -, hd, hends⟩
  · rw [heq]; exact h
  · have helements := (Node.elements_detach? hd).1
    have hnode : d.node.Passes := h.tree.of_subset fun e he =>
      helements.mem_iff.2 (List.mem_append_left _ he)
    have hrest : d.rest.Passes := h.tree.of_subset fun e he =>
      helements.mem_iff.2 (List.mem_append_right _ he)
    rcases hends with ⟨hparent, heq⟩ | ⟨-, heq⟩
    · rw [heq]
      exact h.of_recorded ⟨rfl, rfl, rfl⟩ rfl
        (hrest.of_gain hnode (Node.elements_insertUnder d.node (some index) hparent))
    · rw [heq]
      exact h.of_recorded ⟨rfl, rfl, rfl⟩ rfl hrest

lemma Valid.shift (h : ed.Valid) (id : Option String) (offset : Int) :
    (ed.shift id offset).1.Valid := by
  rcases ed.shift_cases id offset with
    ⟨r, heq⟩ | ⟨target, parent, index, -, -, -, hparent, -, hindex, heq⟩
  · rw [heq]; exact h
  · have hplace := Node.placeChild_perm target index parent.children hindex
    rw [heq]
    exact h.of_recorded ⟨rfl, rfl, rfl⟩ rfl
      (h.tree.of_gain (by simp)
        (Node.elements_updateSiblings [] hparent (hplace.flatMap_right _)))

lemma Valid.renameNode (h : ed.Valid) (old new : String) : (ed.renameNode old new).1.Valid := by
  rcases ed.renameNode_cases old new with ⟨r, heq⟩ | ⟨hne, -, hold, -, heq⟩
  · rw [heq]; exact h
  · obtain ⟨m, hm⟩ := Option.isSome_iff_exists.1 hold
    have hhead := (h.tree.of_mem_nodes (Node.mem_nodes_of_find? hm)).head
    rw [heq]
    exact h.of_recorded ⟨rfl, rfl, rfl⟩ rfl
      (h.tree.updateFirst hm (hhead.withId (hasInk_cleanId hne)))

/-- Fields laid over a style are read as a style again, or there are none. -/
lemma typed_of_changedStyle {style style' : Option NodeStyle} {fs : Fields Json}
    (h : changedStyle style fs = .ok style') : ∀ s, style' = some s → s.Typed := by
  rintro s rfl
  rw [changedStyle] at h
  split at h
  · cases h
  · obtain ⟨s', hs', heq⟩ := Decoded.map_eq_ok.1 h
    rw [← Option.some.inj heq]
    exact NodeStyle.typed_of_ofFields hs'

lemma Valid.updateStyle (h : ed.Valid) (id : String) (fs : Fields Json) :
    (ed.updateStyle id fs).1.Valid := by
  rcases ed.updateStyle_cases id fs with ⟨r, heq⟩ | ⟨node, style, -, hnode, hstyle, heq⟩
  · rw [heq]; exact h
  · have hhead := (h.tree.of_mem_nodes (Node.mem_nodes_of_find? hnode)).head
    rw [heq]
    exact h.of_recorded ⟨rfl, rfl, rfl⟩ rfl (h.tree.updateFirst hnode
      ⟨hhead.id, hhead.type, hhead.table, hhead.reference, typed_of_changedStyle hstyle,
        hhead.responsive⟩)

/-- The node that an operation is about is one of the tree. -/
lemma mem_nodes_of_subject? {id : Option String} {m : Node} (h : ed.subject? id = some m) :
    m ∈ ed.tree.nodes := by
  obtain ⟨target, -, h⟩ := Option.bind_eq_some_iff.1 h
  split_ifs at h
  obtain ⟨parent, hparent, h⟩ := Option.bind_eq_some_iff.1 h
  obtain ⟨⟨c, i, rest⟩, htake, rfl⟩ := Option.map_eq_some_iff.1 h
  obtain ⟨-, before, after, hchildren, -⟩ := Node.takeChild?_eq_some htake
  refine Node.mem_nodes_of_mem_children (List.mem_of_find?_eq_some hparent) ?_
  rw [hchildren]
  simp

section
variable (hsource : ∀ count kind, Text.hasInk (source count kind) = true)
include hsource

lemma Valid.groupIntoStack (h : ed.Valid) (id : Option String) :
    (ed.groupIntoStack source id).1.Valid := by
  rcases ed.groupIntoStack_cases source id with
    ⟨⟨r, heq⟩, -⟩ | ⟨target, parent, node, wrapperId, -, -, hparent, -, hwrapper, heq⟩
  · rw [heq]; exact h
  · obtain ⟨c, i, rest, htake, -⟩ := Node.exists_takeChild_of_findParent? hparent
    have hcolumn : ∀ e ∈ [(wrapper wrapperId c).head], e.Passes := by
      rw [List.forall_mem_singleton]
      exact Node.passes_wrapper (hwrapper ▸ hsource _ _) c
    rw [heq]
    exact h.of_recorded ⟨rfl, rfl, rfl⟩ rfl (h.tree.of_gain hcolumn
      (Node.elements_updateSiblings _ hparent (Node.wrapChild_elements wrapperId htake)))

lemma Valid.addCopy (h : ed.Valid) {copied : Node} (hcopied : copied.Passes) (parent : String)
    (index : Option Int) : (ed.addCopy source copied parent index).1.Valid := by
  have hafter : (ed.afterCopy copied).Valid := ⟨h.screens, h.clipboard⟩
  rw [addCopy_eq]
  exact hafter.addNode (hcopied.withFreshIds hsource _ _) parent index

lemma Valid.paste (h : ed.Valid) : (ed.paste source).1.Valid := by
  rcases ed.paste_cases source with ⟨⟨r, heq⟩, -⟩ | ⟨copied, parent, index, hcopied, heq⟩
  · rw [heq]; exact h
  · rw [heq]; exact h.addCopy hsource (h.clipboard copied hcopied) parent index

lemma Valid.duplicate (h : ed.Valid) (id : Option String) :
    (ed.duplicate source id).1.Valid := by
  rcases ed.duplicate_cases source id with ⟨⟨r, heq⟩, -⟩ | ⟨copied, parent, index, hcopied, heq⟩
  · rw [heq]; exact h
  · have hpasses : copied.Passes := h.tree.of_mem_nodes (mem_nodes_of_subject? hcopied)
    rw [heq]; exact h.addCopy hsource hpasses parent index

end

lemma Valid.copyNode (h : ed.Valid) (id : Option String) : (ed.copyNode id).1.Valid := by
  rcases ed.copyNode_cases id with ⟨r, heq⟩ | ⟨target, node, -, hnode, heq⟩
  · rw [heq]; exact h
  · rw [heq]
    refine ⟨h.screens, fun n hn => ?_⟩
    cases hn
    exact h.tree.of_mem_nodes (Node.mem_nodes_of_find? hnode)

/-- Going to another screen of the timeline. -/
lemma Valid.restore (h : ed.Valid) {s : ScreenSpec} {history : History ScreenSpec}
    (hsub : history.timeline s ⊆ ed.timeline) : (ed.restore (s, history)).1.Valid :=
  ⟨fun s' hs' => h.screens s' (hsub hs'), h.clipboard⟩

/-! ### Runs -/

/-- A command that brings nothing in unchecked keeps the editor valid. -/
theorem Valid.step (h : ed.Valid)
    (hsource : ∀ count kind, Text.hasInk (source count kind) = true) {c : Command}
    (hc : c.bringsUnchecked = false) : (ed.step source c).1.Valid := by
  cases c with
  | addNode parent node index => cases hc
  | updateProps id props => cases hc
  | removeNode id => exact h.removeNode id
  | moveNode id parent index => exact h.moveNode id parent index
  | moveUp id => exact h.shift id (-1)
  | moveDown id => exact h.shift id 1
  | renameNode id new =>
    rw [Editor.step, replying_fst]
    exact h.renameNode id new
  | updateStyle id fs =>
    rw [Editor.step, replying_fst]
    exact h.updateStyle id fs
  | groupIntoStack id => exact h.groupIntoStack hsource id
  | copyNode id => exact h.copyNode id
  | paste => exact h.paste hsource
  | duplicate id => exact h.duplicate hsource id
  | undo =>
    rw [Editor.step, replying_fst]
    rcases ed.undo_cases with ⟨-, heq⟩ | ⟨s, past, hpast, heq⟩
    · rw [heq]; exact h
    · rw [heq]
      exact h.restore (timeline_undo_subset hpast)
  | redo =>
    rw [Editor.step, replying_fst]
    rcases ed.redo_cases with ⟨-, heq⟩ | ⟨s, future, hfuture, heq⟩
    · rw [heq]; exact h
    · rw [heq]
      exact h.restore (timeline_redo_subset hfuture)
  | select id => exact ⟨h.screens, h.clipboard⟩
  | toggleHidden id => exact ⟨h.screens, h.clipboard⟩
  | toggleLocked id => exact ⟨h.screens, h.clipboard⟩
  | isHidden id => exact h
  | isLocked id => exact h
  | markClean => exact ⟨h.screens, h.clipboard⟩

theorem Valid.run (h : ed.Valid)
    (hsource : ∀ count kind, Text.hasInk (source count kind) = true) {commands : List Command}
    (hcommands : ∀ c ∈ commands, c.bringsUnchecked = false) : (ed.run source commands).Valid := by
  induction commands generalizing ed with
  | nil => exact h
  | cons c cs ih =>
    rw [List.forall_mem_cons] at hcommands
    exact ih (h.step hsource hcommands.1) hcommands.2

lemma valid_of_create {spec : ScreenSpec} {limit : Int} {start : Editor} (h : spec.Passes)
    (hstart : create spec limit = .ok start) : start.Valid := by
  rw [create, History.create] at hstart
  split_ifs at hstart
  · cases hstart
  · cases hstart
    refine ⟨fun s hs => ?_, fun n hn => by cases hn⟩
    obtain rfl : s = spec := by simpa [timeline, History.timeline, History.empty] using hs
    exact h

/-- What an editor makes of an accepted document is accepted after any run of commands that bring in
neither trees nor props from outside. -/
theorem run_accepted {doc : Json} {spec : ScreenSpec} {limit : Int} {start : Editor}
    (haccepts : Validator.walk.Accepts doc) (hspec : ScreenSpec.decode doc = .ok spec)
    (hstart : create spec limit = .ok start) (millis : Nat → Nat) {commands : List Command}
    (hcommands : ∀ c ∈ commands, c.bringsUnchecked = false) :
    Validator.walk.Accepts (start.run (.clocked millis) commands).spec.toJson :=
  ((valid_of_create (ScreenSpec.passes_of_decode haccepts hspec) hstart).run
    (fun _ _ => hasInk_stampedId _ _ _) hcommands).spec.accepts

/-- A text that is put into a column, copied behind that column and given another id. -/
theorem run_accepted_textColumn :
    ∃ start, create textColumn 50 = .ok start ∧
      let after := start.run (.clocked fun _ => 0) [.groupIntoStack (some "title"),
        .copyNode (some "title"), .paste, .renameNode "title" " the  title "]
      after.tree.ids = ["root", "stack_0_1", "the_title", "text_0_2"] ∧
        Validator.walk.Accepts after.spec.toJson := by
  have haccepts : Validator.walk.Accepts textColumn.toJson := by
    rw [Validator.Accepts]
    decide +kernel
  refine ⟨_, create_eq textColumn (by decide), by decide +kernel, ?_⟩
  exact run_accepted haccepts rfl (create_eq textColumn (by decide)) _ (by decide)

end Editor
end Screenwright
