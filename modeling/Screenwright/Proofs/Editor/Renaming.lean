import Screenwright.Proofs.Document.Places
import Screenwright.Proofs.Editor.Moving

/-! Renaming: the new id is a clean one, and whatever held the old id holds the new one. Flags are
no part of what the history keeps: undoing a renaming gives a node its old id back, and its flags
stay with the new one. -/
namespace Screenwright.Editor
variable {ed : Editor} {old new s i : String}

/-! ### Clean ids -/

/-- A clean id is the words of a text with low lines between them. -/
theorem toList_cleanId (s : String) :
    (cleanId s).toList = ['_'].intercalate (Text.piecesBy Text.isBlank s.toList) := by
  rw [cleanId, Text.strip, String.toList_ofList, String.toList_ofList, Text.squeeze_trimWhile]

lemma cleanId_eq_self (h : ∀ c ∈ s.toList, Text.isBlank c = false) : cleanId s = s := by
  rw [cleanId, Text.strip, Text.trimWhile_eq_self h, String.ofList_toList, Text.squeeze_eq_self h,
    String.ofList_toList]

/-! ### Renamed editors -/

/-- Whatever holds an id in the first editor holds its image in the second: the nodes of the tree,
which is the same in everything else, the selection and the flags. -/
structure Renames (before after : Editor) (r : String → String) : Prop where
  tree : after.tree = before.tree.mapElements (Element.mapId r)
  selected : after.selected = before.selected.map r
  hidden : ∀ i, i ∈ after.hidden ↔ i ∈ before.hidden.map r
  locked : ∀ i, i ∈ after.locked ↔ i ∈ before.locked.map r

lemma mem_map_renamedId {ids : List String} :
    i ∈ ids.map (renamedId old new) ↔ (old ∈ ids ∧ i = new) ∨ (i ∈ ids ∧ i ≠ old) := by
  rw [List.mem_map]
  constructor
  · rintro ⟨j, hj, rfl⟩
    by_cases hold : j = old
    · exact .inl ⟨hold ▸ hj, if_pos hold⟩
    · rw [renamedId, if_neg hold]
      exact .inr ⟨hj, hold⟩
  · rintro (⟨hold, rfl⟩ | ⟨hi, hne⟩)
    · exact ⟨old, hold, if_pos rfl⟩
    · exact ⟨i, hi, if_neg hne⟩

/-- One member of a set of ids is replaced, and the others stay. -/
lemma mem_renameIn {ids : List String} :
    i ∈ renameIn old new ids ↔ i ∈ ids.map (renamedId old new) := by
  rw [mem_map_renamedId, renameIn]
  split_ifs with hold
  · have hmem : old ∈ ids := List.contains_iff_mem.1 hold
    by_cases hnew : i = new <;> simp [hmem, hnew]
  · have hmem : old ∉ ids := mt List.contains_iff_mem.2 hold
    have hne : i ∈ ids → i ≠ old := fun hi heq => hmem (heq ▸ hi)
    simp [hmem, and_iff_left_of_imp hne]

lemma renames_renamed (hids : ed.tree.ids.Nodup) :
    ed.Renames (ed.renamed old new) (renamedId old new) where
  tree := Node.updateFirst_setId hids
  selected := by
    rw [renamed]
    cases hsel : ed.selected with
    | none => simp
    | some s => by_cases hs : s = old <;> simp [renamedId, hs]
  hidden _ := mem_renameIn
  locked _ := mem_renameIn

lemma renameNode_of_new (hempty : cleanId s ≠ "") (hne : cleanId s ≠ old)
    (hold : old ∈ ed.tree.ids) (hnew : cleanId s ∉ ed.tree.ids) :
    ed.renameNode old s = (ed.renamed old (cleanId s)).apply := by
  have hpresent := (Node.hasId_iff _ _).2 hold
  rw [renameNode, if_neg hempty, if_neg hne, if_neg (by simp [hpresent]),
    if_neg (by simpa using hnew)]
  rfl

/-- Where no id is repeated, exactly those renamings are applied that give a node of the tree an id
that is clean, not empty and not in the tree; the new id then stands wherever the old one stood. -/
theorem renameNode_applied (ed : Editor) (hids : ed.tree.ids.Nodup) (old s : String) :
    ((ed.renameNode old s).2 = .applied ↔ cleanId s ≠ "" ∧ cleanId s ≠ old ∧
      old ∈ ed.tree.ids ∧ cleanId s ∉ ed.tree.ids) ∧
    ((ed.renameNode old s).2 = .applied →
      ed.Renames (ed.renameNode old s).1 (renamedId old (cleanId s))) ∧
    (cleanId s).toList = ['_'].intercalate (Text.piecesBy Text.isBlank s.toList) ∧
    (∀ c ∈ (cleanId s).toList, Text.isBlank c = false) ∧ cleanId (cleanId s) = cleanId s := by
  refine ⟨⟨fun h => ?_, fun ⟨hempty, hne, hold, hnew⟩ => ?_⟩, fun h => ?_, toList_cleanId s,
    fun _ => isBlank_of_mem_cleanId, cleanId_eq_self fun _ => isBlank_of_mem_cleanId⟩
  · rcases ed.renameNode_cases old s with ⟨r, heq⟩ | ⟨hempty, hne, hold, hnew, -⟩
    · rw [heq] at h
      cases h
    · exact ⟨hempty, hne, (Node.hasId_iff _ _).1 hold, hnew⟩
  · rw [renameNode_of_new hempty hne hold hnew]
    rfl
  · rcases ed.renameNode_cases old s with ⟨r, heq⟩ | ⟨-, -, -, -, heq⟩
    · rw [heq] at h
      cases h
    · rw [heq]
      exact renames_renamed hids

/-- The note of a room gets an id of two words, and stays selected and hidden under it. -/
theorem renameNode_applied_room :
    let noted : Editor := { room with selected := some "note", hidden := ["box", "note"] }
    noted.tree.ids.Nodup ∧ noted.Renames (noted.renameNode "note" " my \t note\n").1
      (renamedId "note" "my_note") := by
  intro noted
  have hids : noted.tree.ids.Nodup := by decide
  have hclean : cleanId " my \t note\n" = "my_note" := by decide +kernel
  obtain ⟨happlied, hrenames, -⟩ := renameNode_applied noted hids "note" " my \t note\n"
  rw [hclean] at happlied hrenames
  exact ⟨hids, hrenames (happlied.2 (by decide))⟩

end Screenwright.Editor

/-! ### Flags across undo -/

namespace Screenwright

lemma History.remember_eq_cons {α : Type} {h : History α} (hroom : 0 < h.limit) (s : α) :
    h.remember s = s :: h.past.take (h.limit - 1) := by
  rw [remember, List.take_cons hroom]

namespace Editor
variable {ed after : Editor} {old new : String} {ids : List String}

/-- Whether a node is hidden, and whether it is locked. -/
def flags (ed : Editor) (id : String) : Bool × Bool := (ed.isHidden id, ed.isLocked id)

/-- What is left of a renaming that is undone: the screen is the one before it, but its node of the
old id has no flags any more. They stand under the new id, beside those that were there before. -/
structure UndoesRenaming (before after : Editor) (old new : String) : Prop where
  spec : after.spec = before.spec
  lost : after.flags old = (false, false)
  gained : after.flags new =
    (before.isHidden old || before.isHidden new, before.isLocked old || before.isLocked new)
  others : ∀ i, i ≠ old → i ≠ new → after.flags i = before.flags i

/-! ### Undo and redo -/

lemma flags_undo (ed : Editor) : ed.undo.1.flags = ed.flags := by
  rcases ed.undo_cases with ⟨-, h⟩ | ⟨_, _, -, h⟩ <;> rw [h] <;> rfl

lemma flags_redo (ed : Editor) : ed.redo.1.flags = ed.flags := by
  rcases ed.redo_cases with ⟨-, h⟩ | ⟨_, _, -, h⟩ <;> rw [h] <;> rfl

/-- A change that has been recorded is undone. -/
lemma undo_of_recorded (hroom : 0 < ed.history.limit) (hrec : ed.Recorded after) :
    after.undo.2 = .applied ∧ after.undo.1.spec = ed.spec := by
  have hpast : after.history.past = ed.spec :: ed.history.past.take (ed.history.limit - 1) := by
    rw [hrec.history, History.record, History.remember_eq_cons hroom]
  obtain ⟨happlied, hspec, -⟩ := undo_spec hpast
  exact ⟨happlied, hspec⟩

/-- A change that has been recorded is there again when it is undone and redone. -/
lemma redo_undo_of_recorded (hroom : 0 < ed.history.limit) (hrec : ed.Recorded after) :
    after.undo.1.redo.1.spec = after.spec := by
  have hfits : after.history.Fits := by
    rw [hrec.history]
    exact History.fits_record _ _
  have hdepth : 1 ≤ after.history.undoDepth := by
    rw [hrec.history, History.undoDepth, History.record, History.remember_eq_cons hroom]
    simp
  exact (run_undo_redo (fun _ _ => "") 1 hfits hdepth).1

/-! ### Renaming -/

/-- A renamed set has the new id for the old one, and what else it had. -/
lemma contains_renameIn_iff {i : String} : (renameIn old new ids).contains i = true ↔
    old ∈ ids ∧ i = new ∨ i ∈ ids ∧ i ≠ old := by
  rw [List.contains_iff_mem, mem_renameIn, mem_map_renamedId]

lemma contains_renameIn_old (hne : new ≠ old) : (renameIn old new ids).contains old = false := by
  rw [← Bool.not_eq_true, contains_renameIn_iff]
  simp [Ne.symm hne]

lemma contains_renameIn_new (hne : new ≠ old) :
    (renameIn old new ids).contains new = (ids.contains old || ids.contains new) := by
  rw [Bool.eq_iff_iff, contains_renameIn_iff]
  simp [hne]

lemma contains_renameIn_of_ne {i : String} (hold : i ≠ old) (hnew : i ≠ new) :
    (renameIn old new ids).contains i = ids.contains i := by
  rw [Bool.eq_iff_iff, contains_renameIn_iff]
  simp [hold, hnew]

lemma recorded_renamed (ed : Editor) (old new : String) : ed.Recorded (ed.renamed old new) :=
  ⟨rfl, rfl, rfl⟩

lemma undoesRenaming_renamed (hroom : 0 < ed.history.limit) (hne : new ≠ old) :
    ed.UndoesRenaming (ed.renamed old new).undo.1 old new where
  spec := (undo_of_recorded hroom (ed.recorded_renamed old new)).2
  lost := by
    rw [flags_undo]
    exact Prod.ext (contains_renameIn_old hne) (contains_renameIn_old hne)
  gained := by
    rw [flags_undo]
    exact Prod.ext (contains_renameIn_new hne) (contains_renameIn_new hne)
  others i hold hnew := by
    rw [flags_undo]
    exact Prod.ext (contains_renameIn_of_ne hold hnew) (contains_renameIn_of_ne hold hnew)

/-- A renaming is undone on the screen but not in the flags: the nodes of the screen have those from
before it exactly if the renamed node had none. Redoing the renaming brings node and flags together
again. -/
theorem renameNode_undone (ed : Editor) (hroom : 0 < ed.history.limit) (old s : String)
    (h : (ed.renameNode old s).2 = .applied) :
    (ed.renameNode old s).1.undo.2 = .applied ∧
    ed.UndoesRenaming (ed.renameNode old s).1.undo.1 old (cleanId s) ∧
    ((∀ i ∈ (ed.renameNode old s).1.undo.1.tree.ids,
        (ed.renameNode old s).1.undo.1.flags i = ed.flags i) ↔ ed.flags old = (false, false)) ∧
    (ed.renameNode old s).1.undo.1.redo.1.spec = (ed.renameNode old s).1.spec ∧
    (ed.renameNode old s).1.undo.1.redo.1.flags = (ed.renameNode old s).1.flags := by
  rcases ed.renameNode_cases old s with ⟨r, heq⟩ | ⟨-, hne, hold, hnew, heq⟩
  · rw [heq] at h
    cases h
  · have hafter : (ed.renameNode old s).1 = ed.renamed old (cleanId s) := by rw [heq]; rfl
    have hundone := undoesRenaming_renamed hroom hne
    have htree : (ed.renamed old (cleanId s)).undo.1.tree = ed.tree :=
      congrArg ScreenSpec.tree hundone.spec
    rw [hafter]
    refine ⟨(undo_of_recorded hroom (ed.recorded_renamed _ _)).1, hundone, ?_,
      redo_undo_of_recorded hroom (ed.recorded_renamed _ _), by rw [flags_redo, flags_undo]⟩
    rw [htree]
    constructor
    · intro hall
      rw [← hall old ((Node.hasId_iff _ _).1 hold), hundone.lost]
    · intro hnone i hi
      by_cases hi' : i = old
      · rw [hi', hundone.lost, hnone]
      · exact hundone.others i hi' fun hsame => hnew (hsame ▸ hi)

/-- The locked note of a room is renamed, which is undone: it is locked no more, and another id is.
-/
theorem renameNode_undone_room :
    let held : Editor := { room with hidden := ["box"], locked := ["note"] }
    0 < held.history.limit ∧ (held.renameNode "note" "my note").2 = .applied ∧
      held.flags "note" = (false, true) ∧
      (held.renameNode "note" "my note").1.undo.1.flags "note" = (false, false) ∧
      (held.renameNode "note" "my note").1.undo.1.flags "my_note" = (false, true) ∧
      (held.renameNode "note" "my note").1.undo.1.flags "box" = (true, false) := by
  intro held
  have hclean : cleanId "my note" = "my_note" := by decide +kernel
  have happlied : (held.renameNode "note" "my note").2 = .applied := by decide +kernel
  obtain ⟨-, hundone, -⟩ := renameNode_undone held Nat.one_pos "note" "my note" happlied
  rw [hclean] at hundone
  exact ⟨Nat.one_pos, happlied, by decide, hundone.lost, hundone.gained,
    hundone.others "box" (by decide) (by decide)⟩

end Editor
end Screenwright
