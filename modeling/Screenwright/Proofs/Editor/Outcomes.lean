import Screenwright.Proofs.Editor.UniqueIds

/-! What an answer of the editor says about the state after it: a refused command has changed
nothing but the count of issued ids, and an applied change has recorded the screen before it,
once. -/
namespace Screenwright.Editor
variable (source : IdSource) {ed : Editor}

/-- Nothing differs but the count of issued ids, which may have grown. -/
def Unchanged (ed after : Editor) : Prop := ∃ n, after = { ed with issued := ed.issued + n }

/-- What an applied change leaves: the screen before it is the last one to return to, the oldest
ones being given up beyond the limit, and nothing can be redone. Flags follow a renaming only. -/
structure Committed (ed after : Editor) (c : Command) : Prop where
  past : after.history.past.reverse =
    (ed.history.past.reverse ++ [ed.spec]).rtake ed.history.limit
  future : after.history.future = []
  limit : after.history.limit = ed.history.limit
  dirty : after.dirty = true
  clipboard : after.clipboard = ed.clipboard
  flags : (∀ old new, c ≠ .renameNode old new) →
    after.hidden = ed.hidden ∧ after.locked = ed.locked

lemma addNode_flags (parent : String) (node : Node) (index : Option Int) :
    (ed.addNode parent node index).1.hidden = ed.hidden ∧
      (ed.addNode parent node index).1.locked = ed.locked := by
  rcases ed.addNode_cases parent node index with ⟨r, h⟩ | ⟨-, -, h⟩ <;> rw [h] <;> exact ⟨rfl, rfl⟩

lemma addCopy_flags (copied : Node) (parent : String) (index : Option Int) :
    (ed.addCopy source copied parent index).1.hidden = ed.hidden ∧
      (ed.addCopy source copied parent index).1.locked = ed.locked := by
  rw [addCopy_eq]
  exact addNode_flags parent _ index

lemma shift_flags (id : Option String) (offset : Int) :
    (ed.shift id offset).1.hidden = ed.hidden ∧ (ed.shift id offset).1.locked = ed.locked := by
  rcases ed.shift_cases id offset with ⟨r, h⟩ | ⟨_, _, _, -, -, -, -, -, -, h⟩ <;> rw [h] <;>
    exact ⟨rfl, rfl⟩

/-- No change but a renaming touches the flags. -/
theorem step_flags {c : Command} (hc : c.isMutation) (hname : ∀ old new, c ≠ .renameNode old new) :
    (ed.step source c).1.hidden = ed.hidden ∧ (ed.step source c).1.locked = ed.locked := by
  cases c with
  | addNode parent node index => exact addNode_flags parent node index
  | removeNode id =>
    rcases ed.removeNode_cases id with ⟨r, h⟩ | ⟨_, _, -, -, -, -, h⟩ <;> rw [step, h] <;>
      exact ⟨rfl, rfl⟩
  | moveNode id parent index =>
    rcases ed.moveNode_cases id parent index with
      ⟨r, h⟩ | ⟨d, -, -, -, -, -, ⟨-, h⟩ | ⟨-, h⟩⟩ <;> rw [step, h] <;> exact ⟨rfl, rfl⟩
  | moveUp id => exact shift_flags id (-1)
  | moveDown id => exact shift_flags id 1
  | renameNode old new => exact absurd rfl (hname old new)
  | updateProps id props =>
    rcases ed.updateProps_cases id props with ⟨r, h⟩ | ⟨-, -, h⟩ <;> rw [step, h] <;>
      exact ⟨rfl, rfl⟩
  | updateStyle id fs =>
    rcases ed.updateStyle_cases id fs with ⟨r, h⟩ | ⟨_, _, -, -, -, h⟩ <;> rw [step, h] <;>
      exact ⟨rfl, rfl⟩
  | groupIntoStack id =>
    rcases ed.groupIntoStack_cases source id with ⟨⟨r, h⟩, -⟩ | ⟨_, _, _, _, -, -, -, -, -, h⟩ <;>
      rw [step, h] <;> exact ⟨rfl, rfl⟩
  | paste =>
    rcases ed.paste_cases source with ⟨⟨r, h⟩, -⟩ | ⟨copied, parent, index, -, h⟩
    · rw [step, h]; exact ⟨rfl, rfl⟩
    · rw [step, h]; exact addCopy_flags source copied parent index
  | duplicate id =>
    rcases ed.duplicate_cases source id with ⟨⟨r, h⟩, -⟩ | ⟨copied, parent, index, -, h⟩
    · rw [step, h]; exact ⟨rfl, rfl⟩
    · rw [step, h]; exact addCopy_flags source copied parent index
  | _ => simp [Command.isMutation] at hc

/-- A refused change has changed nothing, also where it had asked for ids before. -/
lemma unchanged_of_mutation {c : Command} (hc : c.isMutation) {reason : Rejection}
    (hreply : (ed.step source c).2 = .outcome (.rejected reason)) :
    ed.Unchanged (ed.step source c).1 := by
  refine ⟨(ed.requests c).length, ?_⟩
  have hissued := step_issued source ed c
  obtain ⟨r, hstep, ⟨_, -, hsame⟩ | ⟨hend, -⟩⟩ := ed.step_mutation source hc
  · rw [hstep, replying_fst] at hissued ⊢
    rw [hsame, hissued]
  · rw [hstep, replying] at hreply
    rcases hend with h | h <;> simp [h] at hreply

lemma unchanged_of_rejected {c : Command} {reason : Rejection}
    (hreply : (ed.step source c).2 = .outcome (.rejected reason)) :
    ed.Unchanged (ed.step source c).1 := by
  by_cases hc : c.isMutation = true
  · exact unchanged_of_mutation source hc hreply
  · cases c with
    | copyNode id =>
      rcases ed.copyNode_cases id with ⟨r, h⟩ | ⟨_, _, -, -, h⟩
      · rw [step, h]; exact ⟨0, rfl⟩
      · simp [step, h, replying, apply] at hreply
    | undo =>
      rcases ed.undo_cases with ⟨-, h⟩ | ⟨_, _, -, h⟩
      · rw [step, h]; exact ⟨0, rfl⟩
      · simp [step, h, replying, restore, apply] at hreply
    | redo =>
      rcases ed.redo_cases with ⟨-, h⟩ | ⟨_, _, -, h⟩
      · rw [step, h]; exact ⟨0, rfl⟩
      · simp [step, h, replying, restore, apply] at hreply
    | select _ | toggleHidden _ | toggleLocked _ | isHidden _ | isLocked _ =>
      simp [step, flagging] at hreply
    | markClean => simp [step] at hreply
    | _ => exact absurd rfl hc

lemma committed_of_applied {c : Command} (hc : c.isMutation)
    (hreply : (ed.step source c).2 = .outcome .applied) :
    ed.Committed (ed.step source c).1 c := by
  obtain ⟨r, hstep, ⟨reason, ho, -⟩ | ⟨-, hrec⟩⟩ := ed.step_mutation source hc
  · simp [hstep, replying, ho] at hreply
  · have hafter : (ed.step source c).1 = r.1 := by rw [hstep, replying_fst]
    constructor
    case past => rw [hafter, hrec.history, History.record, History.past_reverse_remember]
    case future => rw [hafter, hrec.history, History.record]
    case limit => rw [hafter, hrec.history, History.record]
    case dirty => rw [hafter, hrec.dirty]
    case clipboard => rw [hafter, hrec.clipboard]
    case flags => exact step_flags source hc

/-- Whatever the state and the command, a refusal leaves all but the count of issued ids as it was,
and a change that is applied is recorded in the history once. -/
theorem step_unchanged_or_committed (source : IdSource) (ed : Editor) (c : Command) :
    (∀ reason, (ed.step source c).2 = .outcome (.rejected reason) →
      ed.Unchanged (ed.step source c).1) ∧
    (c.isMutation → (ed.step source c).2 = .outcome .applied →
      ed.Committed (ed.step source c).1 c) :=
  ⟨fun _ => unchanged_of_rejected source, committed_of_applied source⟩

end Screenwright.Editor
