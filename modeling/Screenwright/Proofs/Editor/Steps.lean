import Screenwright.Editor.Command
import Screenwright.Proofs.Editor.Endings

/-! What one command does to the state around the tree: history, clipboard, and the count of issued
ids. -/
namespace Screenwright

/-- Whether a command changes the screen when it is applied, time travel apart. -/
def Command.isMutation : Command → Bool
  | .addNode .. | .removeNode .. | .moveNode .. | .moveUp .. | .moveDown .. | .renameNode ..
  | .updateProps .. | .updateStyle .. | .groupIntoStack .. | .paste | .duplicate .. => true
  | _ => false

namespace Editor
variable (source : IdSource) (ed : Editor)

/-- An editor with room for a snapshot starts with nothing to undo or redo. -/
lemma create_eq (spec : ScreenSpec) {limit : Int} (hlimit : 1 ≤ limit) :
    create spec limit = .ok { spec := spec, history := History.empty limit.toNat } := by
  have hroom : ¬ limit < 1 := by omega
  simp [create, History.create, hroom, Except.map]

@[simp] lemma replying_fst (r : Editor × Outcome) : (replying r).1 = r.1 := rfl

/-- The state after a change: the screen before it is kept, and nothing can be redone. -/
structure Recorded (ed after : Editor) : Prop where
  history : after.history = ed.history.record ed.spec
  dirty : after.dirty = true
  clipboard : after.clipboard = ed.clipboard

/-- The two ways in which a change can end: it is refused, and nothing but the count of issued ids
differs, or the screen before it is recorded. -/
def EndsChange (ed : Editor) (r : Editor × Outcome) : Prop :=
  (∃ reason, r.2 = .rejected reason ∧ r.1 = { ed with issued := r.1.issued }) ∨
    ((r.2 = .applied ∨ r.2 = .lostParent) ∧ ed.Recorded r.1)

lemma endsChange_reject (reason : Rejection) : ed.EndsChange (ed.reject reason) :=
  .inl ⟨reason, rfl, rfl⟩

lemma endsChange_of_recorded {after : Editor} (h : ed.Recorded after) :
    ed.EndsChange after.apply :=
  .inr ⟨.inl rfl, h⟩

lemma endsChange_addNode (parent : String) (node : Node) (index : Option Int) :
    ed.EndsChange (ed.addNode parent node index) := by
  rcases ed.addNode_cases parent node index with ⟨r, h⟩ | ⟨-, -, h⟩
  · rw [h]; exact ed.endsChange_reject r
  · rw [h]; exact ed.endsChange_of_recorded ⟨rfl, rfl, rfl⟩

lemma endsChange_shift (id : Option String) (offset : Int) :
    ed.EndsChange (ed.shift id offset) := by
  rcases ed.shift_cases id offset with ⟨r, h⟩ | ⟨_, _, _, -, -, -, -, -, -, h⟩
  · rw [h]; exact ed.endsChange_reject r
  · rw [h]; exact ed.endsChange_of_recorded ⟨rfl, rfl, rfl⟩

lemma endsChange_addCopy (copied : Node) (parent : String) (index : Option Int) :
    ed.EndsChange (ed.addCopy source copied parent index) := by
  rw [addCopy_eq]
  rcases (ed.afterCopy copied).endsChange_addNode parent _ index with ⟨r, h, hed⟩ | ⟨ho, hr⟩
  · exact .inl ⟨r, h, hed⟩
  · exact .inr ⟨ho, hr.history, hr.dirty, hr.clipboard⟩

/-- Each command that changes the screen is refused or records the screen before it. -/
theorem step_mutation {c : Command} (hc : c.isMutation) :
    ∃ r : Editor × Outcome, ed.step source c = replying r ∧ ed.EndsChange r := by
  cases c with
  | addNode parent node index => exact ⟨_, rfl, ed.endsChange_addNode parent node index⟩
  | removeNode id =>
    refine ⟨_, rfl, ?_⟩
    rcases ed.removeNode_cases id with ⟨r, h⟩ | ⟨_, _, -, -, -, -, h⟩
    · rw [h]; exact ed.endsChange_reject r
    · rw [h]; exact ed.endsChange_of_recorded ⟨rfl, rfl, rfl⟩
  | moveNode id parent index =>
    refine ⟨_, rfl, ?_⟩
    rcases ed.moveNode_cases id parent index with
      ⟨r, h⟩ | ⟨d, -, -, -, -, -, ⟨-, h⟩ | ⟨-, h⟩⟩
    · rw [h]; exact ed.endsChange_reject r
    · rw [h]; exact ed.endsChange_of_recorded ⟨rfl, rfl, rfl⟩
    · rw [h]; exact .inr ⟨.inr rfl, rfl, rfl, rfl⟩
  | moveUp id => exact ⟨_, rfl, ed.endsChange_shift id (-1)⟩
  | moveDown id => exact ⟨_, rfl, ed.endsChange_shift id 1⟩
  | renameNode id new =>
    refine ⟨_, rfl, ?_⟩
    rcases ed.renameNode_cases id new with ⟨r, h⟩ | ⟨-, -, -, -, h⟩
    · rw [h]; exact ed.endsChange_reject r
    · rw [h]; exact ed.endsChange_of_recorded ⟨rfl, rfl, rfl⟩
  | updateProps id props =>
    refine ⟨_, rfl, ?_⟩
    rcases ed.updateProps_cases id props with ⟨r, h⟩ | ⟨-, -, h⟩
    · rw [h]; exact ed.endsChange_reject r
    · rw [h]; exact ed.endsChange_of_recorded ⟨rfl, rfl, rfl⟩
  | updateStyle id style =>
    refine ⟨_, rfl, ?_⟩
    rcases ed.updateStyle_cases id style with ⟨r, h⟩ | ⟨_, _, -, -, -, h⟩
    · rw [h]; exact ed.endsChange_reject r
    · rw [h]; exact ed.endsChange_of_recorded ⟨rfl, rfl, rfl⟩
  | groupIntoStack id =>
    refine ⟨_, rfl, ?_⟩
    rcases ed.groupIntoStack_cases source id with ⟨⟨r, h⟩, -⟩ | ⟨_, _, _, _, -, -, -, -, -, h⟩
    · rw [h]; exact ed.endsChange_reject r
    · rw [h]; exact ed.endsChange_of_recorded ⟨rfl, rfl, rfl⟩
  | paste =>
    refine ⟨_, rfl, ?_⟩
    rcases ed.paste_cases source with ⟨⟨r, h⟩, -⟩ | ⟨copied, parent, index, -, h⟩
    · rw [h]; exact ed.endsChange_reject r
    · rw [h]; exact ed.endsChange_addCopy source copied parent index
  | duplicate id =>
    refine ⟨_, rfl, ?_⟩
    rcases ed.duplicate_cases source id with ⟨⟨r, h⟩, -⟩ | ⟨copied, parent, index, -, h⟩
    · rw [h]; exact ed.endsChange_reject r
    · rw [h]; exact ed.endsChange_addCopy source copied parent index
  | _ => simp [Command.isMutation] at hc

/-- A command that neither changes the screen nor travels in time leaves both the screen and its
history alone. -/
theorem step_still {c : Command} (hc : c.isMutation = false) (hundo : c ≠ .undo)
    (hredo : c ≠ .redo) :
    (ed.step source c).1.spec = ed.spec ∧ (ed.step source c).1.history = ed.history := by
  cases c with
  | copyNode id =>
    rcases ed.copyNode_cases id with ⟨r, h⟩ | ⟨_, _, -, -, h⟩
    · simp [step, replying, h, reject]
    · simp [step, replying, h, apply]
  | undo => contradiction
  | redo => contradiction
  | select id => exact ⟨rfl, rfl⟩
  | toggleHidden id => exact ⟨rfl, rfl⟩
  | toggleLocked id => exact ⟨rfl, rfl⟩
  | isHidden id => exact ⟨rfl, rfl⟩
  | isLocked id => exact ⟨rfl, rfl⟩
  | markClean => exact ⟨rfl, rfl⟩
  | _ => simp [Command.isMutation] at hc

@[simp] lemma run_nil : ed.run source [] = ed := rfl

@[simp] lemma run_cons (c : Command) (cs : List Command) :
    ed.run source (c :: cs) = (ed.step source c).1.run source cs := rfl

lemma run_append (cs ds : List Command) :
    ed.run source (cs ++ ds) = (ed.run source cs).run source ds := by
  simp [run, List.foldl_append]

end Editor
end Screenwright
