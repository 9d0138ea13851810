import Screenwright.Proofs.Editor.FreshIds
import Screenwright.Proofs.Text.Squeezing

/-! How the operations of the editor end: each one is refused, or its conditions hold and the editor
after it is known. -/
namespace Screenwright

namespace Editor
variable (source : IdSource) (ed : Editor)

theorem addNode_cases (parent : String) (node : Node) (index : Option Int) :
    (∃ r, ed.addNode parent node index = ed.reject r) ∨
    (ed.tree.hasId parent ∧ (∀ id ∈ node.ids, id ∉ ed.tree.ids) ∧
      ed.addNode parent node index =
        ((ed.edit (Node.insertUnder parent node index)).select (some node.id)).apply) := by
  unfold addNode
  split
  · exact .inl ⟨_, rfl⟩
  · next hparent =>
    dsimp only
    split
    · exact .inl ⟨_, rfl⟩
    · next hclash =>
      refine .inr ⟨by simpa using hparent, fun id hid hin => hclash ?_, rfl⟩
      have : id ∈ (node.ids.filter ed.tree.ids.contains).eraseDups := by
        simp [hid, hin]
      cases h : (node.ids.filter ed.tree.ids.contains).eraseDups with
      | nil => simp [h] at this
      | cons a as => rfl

theorem removeNode_cases (id : String) :
    (∃ r, ed.removeNode id = ed.reject r) ∨
    ∃ node d, id ≠ ed.tree.id ∧ ed.isLocked id = false ∧ ed.tree.find? id = some node ∧
      ed.tree.detach? id = some d ∧
      ed.removeNode id =
        ((ed.edit fun _ => d.rest).select
          (ed.selected.filter fun s => !node.ids.contains s)).apply := by
  unfold removeNode
  split
  · exact .inl ⟨_, rfl⟩
  · next hroot =>
    split
    · exact .inl ⟨_, rfl⟩
    · next hlocked =>
      split
      · exact .inl ⟨_, rfl⟩
      · next node hnode =>
        have hid : ed.tree.hasId id := by simp [Node.hasId, show ed.tree.find? id = _ from hnode]
        obtain ⟨p, hp⟩ := Node.exists_findParent? hid hroot
        obtain ⟨d, hd⟩ := Option.isSome_iff_exists.1 (Node.detach?_isSome hp)
        refine .inr ⟨node, d, hroot, by simpa using hlocked, hnode, hd, ?_⟩
        simp [edit, checkpoint, show ed.spec.tree.detach? id = _ from hd]

theorem moveNode_cases (id parent : String) (index : Int) :
    (∃ r, ed.moveNode id parent index = ed.reject r) ∨
    ∃ d, id ≠ ed.tree.id ∧ ed.isLocked id = false ∧ ed.tree.hasId parent ∧
      ed.tree.isWithin id parent = false ∧ ed.tree.detach? id = some d ∧
      ((d.rest.hasId parent ∧ ed.moveNode id parent index =
          (ed.edit fun _ => Node.insertUnder parent d.node (some index) d.rest).apply) ∨
        (d.rest.hasId parent = false ∧ ed.moveNode id parent index =
          (ed.edit fun _ => d.rest, .lostParent))) := by
  unfold moveNode
  split_ifs with hroot hlocked hid hparent hwithin
  iterate 5 exact .inl ⟨_, rfl⟩
  split
  · exact .inl ⟨_, rfl⟩
  · next d hd =>
    refine .inr ⟨d, hroot, by simpa using hlocked, by simpa using hparent, by simpa using hwithin,
      hd, ?_⟩
    split_ifs with hrest
    · exact .inl ⟨hrest, rfl⟩
    · exact .inr ⟨by simpa using hrest, rfl⟩

theorem shift_cases (id : Option String) (offset : Int) :
    (∃ r, ed.shift id offset = ed.reject r) ∨
    ∃ target parent, ∃ index : Nat, ed.target? id = some target ∧ target ≠ ed.tree.id ∧
      ed.isLocked target = false ∧ ed.tree.findParent? target = some parent ∧
      (index : Int) = parent.children.findIdx (·.id == target) + offset ∧
      index < parent.children.length ∧
      ed.shift id offset =
        (ed.edit (Node.updateSiblings target (placeChild target index))).apply := by
  unfold shift
  split
  · exact .inl ⟨_, rfl⟩
  · next target htarget =>
    split_ifs with hroot hlocked
    iterate 2 exact .inl ⟨_, rfl⟩
    split
    · exact .inl ⟨_, rfl⟩
    · next parent hparent =>
      dsimp only
      split_ifs with hedge
      · exact .inl ⟨_, rfl⟩
      · refine .inr ⟨target, parent, _, htarget, hroot, by simpa using hlocked, hparent, ?_, ?_,
          rfl⟩
        · have hnonneg : 0 ≤ Int.ofNat (parent.children.findIdx (·.id == target)) + offset := by
            omega
          exact Int.toNat_of_nonneg hnonneg
        · omega

/-- No blank is left in a clean id. -/
lemma isBlank_of_mem_cleanId {s : String} {c : Char} (h : c ∈ (cleanId s).toList) :
    Text.isBlank c = false := by
  rw [cleanId, String.toList_ofList] at h
  exact Text.of_mem_squeeze (by decide) h

/-- A renaming keeps the selection and the flags with the node. -/
def renamed (ed : Editor) (old new : String) : Editor :=
  { ed.edit (Node.updateFirst old (Node.setId new)) with
    selected := if ed.selected = some old then some new else ed.selected
    hidden := renameIn old new ed.hidden
    locked := renameIn old new ed.locked }

theorem renameNode_cases (old new : String) :
    (∃ r, ed.renameNode old new = ed.reject r) ∨
    (cleanId new ≠ "" ∧ cleanId new ≠ old ∧ ed.tree.hasId old ∧ cleanId new ∉ ed.tree.ids ∧
      ed.renameNode old new = (ed.renamed old (cleanId new)).apply) := by
  unfold renameNode
  dsimp only
  split
  · exact .inl ⟨_, rfl⟩
  · next hempty =>
    split
    · exact .inl ⟨_, rfl⟩
    · next hsame =>
      split
      · exact .inl ⟨_, rfl⟩
      · next hold =>
        split
        · exact .inl ⟨_, rfl⟩
        · next hused =>
          exact .inr ⟨hempty, hsame, by simpa using hold, by simpa using hused, rfl⟩

theorem updateProps_cases (id : String) (props : Fields Json) :
    (∃ r, ed.updateProps id props = ed.reject r) ∨
    (ed.isLocked id = false ∧ ed.tree.hasId id ∧
      ed.updateProps id props = (ed.edit (Node.updateFirst id (Node.mapHead fun e =>
        { e with props := withoutEmpty (Fields.merge e.props props) }))).apply) := by
  unfold updateProps
  split_ifs with hlocked hid
  iterate 2 exact .inl ⟨_, rfl⟩
  exact .inr ⟨by simpa using hlocked, by simpa using hid, rfl⟩

theorem updateStyle_cases (id : String) (fs : Fields Json) :
    (∃ r, ed.updateStyle id fs = ed.reject r) ∨
    ∃ node style, ed.isLocked id = false ∧ ed.tree.find? id = some node ∧
      changedStyle node.head.style fs = .ok style ∧
      ed.updateStyle id fs =
        (ed.edit (Node.updateFirst id (Node.mapHead fun e =>
          { e with style := style }))).apply := by
  unfold updateStyle
  split
  · exact .inl ⟨_, rfl⟩
  · next hlocked =>
    split
    · exact .inl ⟨_, rfl⟩
    · next node hnode =>
      split
      · exact .inl ⟨_, rfl⟩
      · next style hstyle => exact .inr ⟨node, style, by simpa using hlocked, hnode, hstyle, rfl⟩

/-- The node below the root that an operation is about. -/
def subject? (id : Option String) : Option Node :=
  (ed.target? id).bind fun target =>
    if target = ed.tree.id then none
    else (ed.tree.findParent? target).bind fun parent =>
      (takeChild? target parent.children).map Prod.fst

theorem groupIntoStack_cases (id : Option String) :
    ((∃ r, ed.groupIntoStack source id = ed.reject r) ∧ ed.subject? id = none) ∨
    ∃ target parent node wrapperId, ed.target? id = some target ∧ target ≠ ed.tree.id ∧
      ed.tree.findParent? target = some parent ∧ ed.subject? id = some node ∧
      wrapperId = source (ed.issued + 1) (Text.lower BuiltinType.stack.name) ∧
      ed.groupIntoStack source id =
        ({ ed.edit (Node.updateSiblings target (wrapChild target wrapperId)) with
            issued := ed.issued + 1 }.select (some wrapperId)).apply := by
  unfold groupIntoStack
  split
  · next h => exact .inl ⟨⟨_, rfl⟩, by simp [subject?, h]⟩
  · next target htarget =>
    split_ifs with hroot
    · exact .inl ⟨⟨_, rfl⟩, by simp [subject?, htarget, hroot]⟩
    · split
      · next h => exact .inl ⟨⟨_, rfl⟩, by simp [subject?, htarget, hroot, h]⟩
      · next parent hparent =>
        obtain ⟨c, i, rest, htake, -⟩ := Node.exists_takeChild_of_findParent? hparent
        refine .inr ⟨target, parent, c, _, htarget, hroot, hparent, ?_, rfl, rfl⟩
        simp [subject?, htarget, hroot, hparent, htake]

theorem copyNode_cases (id : Option String) :
    (∃ r, ed.copyNode id = ed.reject r) ∨
    ∃ target node, ed.target? id = some target ∧ ed.tree.find? target = some node ∧
      ed.copyNode id = { ed with clipboard := some node }.apply := by
  unfold copyNode
  split
  · exact .inl ⟨_, rfl⟩
  · next node hnode =>
    obtain ⟨target, htarget, hfind⟩ := Option.bind_eq_some_iff.1 hnode
    exact .inr ⟨target, node, htarget, hfind, rfl⟩

/-- An editor that has asked for the ids of a copy. -/
def afterCopy (copied : Node) : Editor := { ed with issued := ed.issued + copied.idKinds.length }

theorem addCopy_eq (copied : Node) (parent : String) (index : Option Int) :
    ed.addCopy source copied parent index =
      (ed.afterCopy copied).addNode parent (copied.withFreshIds source ed.issued).1 index := by
  rw [addCopy, afterCopy, (Node.withFreshIds_spec source ed.issued copied).2]

theorem paste_cases :
    ((∃ r, ed.paste source = ed.reject r) ∧ ed.clipboard = none) ∨
    ∃ copied parent index, ed.clipboard = some copied ∧
      ed.paste source = ed.addCopy source copied parent index := by
  unfold paste
  split
  · next h => exact .inl ⟨⟨_, rfl⟩, h⟩
  · next copied hcopied =>
    split
    · next parent index _ => exact .inr ⟨copied, parent.id, some index, hcopied, rfl⟩
    · exact .inr ⟨copied, ed.tree.id, none, hcopied, rfl⟩

theorem duplicate_cases (id : Option String) :
    ((∃ r, ed.duplicate source id = ed.reject r) ∧ ed.subject? id = none) ∨
    ∃ copied parent index, ed.subject? id = some copied ∧
      ed.duplicate source id = ed.addCopy source copied parent index := by
  unfold duplicate
  split
  · next h => exact .inl ⟨⟨_, rfl⟩, by simp [subject?, h]⟩
  · next target htarget =>
    split_ifs with hroot
    · exact .inl ⟨⟨_, rfl⟩, by simp [subject?, htarget, hroot]⟩
    · split
      · next h => exact .inl ⟨⟨_, rfl⟩, by simp [subject?, htarget, hroot, h]⟩
      · next parent hparent =>
        split
        · next h => exact .inl ⟨⟨_, rfl⟩, by simp [subject?, htarget, hroot, hparent, h]⟩
        · next copied i rest htake =>
          refine .inr ⟨copied, parent.id, some (i + 1 : Nat), ?_, rfl⟩
          simp [subject?, htarget, hroot, hparent, htake]

theorem undo_cases :
    (ed.history.past = [] ∧ ed.undo = ed.reject .nothingToUndo) ∨
    ∃ s past, ed.history.past = s :: past ∧
      ed.undo = ed.restore
        (s, { ed.history with past := past, future := ed.spec :: ed.history.future }) := by
  unfold undo History.undo?
  cases h : ed.history.past with
  | nil => exact .inl ⟨rfl, rfl⟩
  | cons s past => exact .inr ⟨s, past, rfl, rfl⟩

theorem redo_cases :
    (ed.history.future = [] ∧ ed.redo = ed.reject .nothingToRedo) ∨
    ∃ s future, ed.history.future = s :: future ∧
      ed.redo = ed.restore
        (s, { ed.history with past := ed.history.remember ed.spec, future := future }) := by
  unfold redo History.redo?
  cases h : ed.history.future with
  | nil => exact .inl ⟨rfl, rfl⟩
  | cons s future => exact .inr ⟨s, future, rfl, rfl⟩

end Editor
end Screenwright
