import Screenwright.Proofs.Editor.Moving

/-! Clashes: the ids that an insertion brings into a tree, and when no id is repeated after it. What
is added or copied is compared with the tree but not with itself, and a column is not compared at
all. -/
namespace Screenwright
open scoped List

namespace Command

/-- Whether a command puts new nodes into the tree. -/
def isInsertion : Command → Bool
  | .addNode .. | .groupIntoStack .. | .paste | .duplicate .. => true
  | _ => false

/-- Whether the ids that a command brings in are looked for in the tree before. -/
def isCompared : Command → Bool
  | .addNode .. | .paste | .duplicate .. => true
  | _ => false

end Command

namespace Editor
variable {source : IdSource} {ed : Editor} {c : Command}

/-- The ids of the new nodes of an insertion, given from outside or issued for it. -/
def addedIds (source : IdSource) (ed : Editor) (c : Command) : List String :=
  c.givenIds ++ source.idsFor ed.issued (ed.requests c)

/-- How an insertion ends: it is refused and the tree stays as it is, or the tree has got the added
ids, none of which it had before if they were compared. -/
def EndsInsertion (ed : Editor) (compared : Bool) (added : List String) (r : Editor × Outcome) :
    Prop :=
  (∃ reason, r.2 = .rejected reason ∧ r.1.tree = ed.tree) ∨
    (r.2 = .applied ∧ (compared → ∀ id ∈ added, id ∉ ed.tree.ids) ∧
      r.1.tree.ids ~ added ++ ed.tree.ids)

lemma endsInsertion_reject (compared : Bool) (added : List String) (reason : Rejection) :
    ed.EndsInsertion compared added (ed.reject reason) :=
  .inl ⟨reason, rfl, rfl⟩

lemma endsInsertion_addNode (parent : String) (node : Node) (index : Option Int) :
    ed.EndsInsertion true node.ids (ed.addNode parent node index) := by
  rcases ed.addNode_cases parent node index with ⟨r, h⟩ | ⟨hparent, hnew, h⟩ <;> rw [h]
  · exact endsInsertion_reject _ _ r
  · exact .inr ⟨rfl, fun _ => hnew, Node.ids_insertUnder node index hparent⟩

lemma endsInsertion_addCopy (copied : Node) (parent : String) (index : Option Int) :
    ed.EndsInsertion true (source.idsFor ed.issued copied.idKinds)
      (ed.addCopy source copied parent index) := by
  rw [addCopy_eq, ← (Node.withFreshIds_spec source ed.issued copied).1]
  exact (ed.afterCopy copied).endsInsertion_addNode parent _ index

/-- Every insertion is refused or brings its ids into the tree. -/
theorem endsInsertion_step (source : IdSource) (ed : Editor) (hc : c.isInsertion) :
    ∃ r, ed.step source c = replying r ∧
      ed.EndsInsertion c.isCompared (ed.addedIds source c) r := by
  cases c with
  | addNode parent node index =>
    have hadded : ed.addedIds source (.addNode parent node index) = node.ids :=
      List.append_nil node.ids
    exact ⟨_, rfl, hadded ▸ endsInsertion_addNode parent node index⟩
  | groupIntoStack id =>
    refine ⟨_, rfl, ?_⟩
    rcases ed.groupIntoStack_cases source id with
      ⟨⟨r, h⟩, -⟩ | ⟨target, parent, node, wrapperId, -, -, hparent, hsubject, hwrapper, h⟩ <;>
      rw [h]
    · exact endsInsertion_reject _ _ r
    · have hadded : ed.addedIds source (.groupIntoStack id) = [wrapperId] := by
        simp [addedIds, Command.givenIds, requests, hsubject, IdSource.idsFor, hwrapper]
      rw [hadded]
      exact .inr ⟨rfl, fun h => absurd h Bool.false_ne_true, Node.ids_wrapChild hparent wrapperId⟩
  | paste =>
    refine ⟨_, rfl, ?_⟩
    rcases ed.paste_cases source with ⟨⟨r, h⟩, -⟩ | ⟨copied, parent, index, hcopied, h⟩ <;> rw [h]
    · exact endsInsertion_reject _ _ r
    · have hadded : ed.addedIds source .paste = source.idsFor ed.issued copied.idKinds := by
        simp [addedIds, Command.givenIds, requests, hcopied]
      exact hadded ▸ endsInsertion_addCopy copied parent index
  | duplicate id =>
    refine ⟨_, rfl, ?_⟩
    rcases ed.duplicate_cases source id with
      ⟨⟨r, h⟩, -⟩ | ⟨copied, parent, index, hsubject, h⟩ <;> rw [h]
    · exact endsInsertion_reject _ _ r
    · have hadded : ed.addedIds source (.duplicate id) =
          source.idsFor ed.issued copied.idKinds := by
        simp [addedIds, Command.givenIds, requests, hsubject]
      exact hadded ▸ endsInsertion_addCopy copied parent index
  | _ => simp [Command.isInsertion] at hc

/-- Where no id is repeated, an insertion is refused or leaves a tree in which none is repeated
exactly if the ids that it brings in differ from one another and from those of the tree. For all
insertions but that of a column the latter is checked. -/
theorem insertion_nodup_iff (source : IdSource) (ed : Editor) (hids : ed.tree.ids.Nodup)
    (hc : c.isInsertion) :
    (∃ reason, (ed.step source c).2 = .outcome (.rejected reason) ∧
      (ed.step source c).1.tree = ed.tree) ∨
    ((ed.step source c).2 = .outcome .applied ∧
      (c.isCompared → ∀ id ∈ ed.addedIds source c, id ∉ ed.tree.ids) ∧
      ((ed.step source c).1.tree.ids.Nodup ↔ (ed.addedIds source c).Nodup ∧
        ∀ id ∈ ed.addedIds source c, id ∉ ed.tree.ids)) := by
  obtain ⟨r, hstep, ⟨reason, hr, htree⟩ | ⟨hr, hnew, hperm⟩⟩ := endsInsertion_step source ed hc
  · refine .inl ⟨reason, ?_, ?_⟩ <;> rw [hstep]
    · rw [replying, hr]
    · exact htree
  · refine .inr ⟨?_, hnew, ?_⟩ <;> rw [hstep]
    · rw [replying, hr]
    · rw [replying_fst, hperm.nodup_iff, List.nodup_append']
      exact and_congr_right fun _ => and_iff_right hids

/-- Two lamps of one id are put onto the shelf of a room, and its box is put into a column of which
the id is that of the shelf. -/
theorem insertion_nodup_iff_room :
    let lamps : Command := .addNode "shelf"
      (.branch { id := "lamp", type := "Box" } [.leaf { id := "lamp", type := "Text" }]) none
    let column : Command := .groupIntoStack (some "box")
    room.tree.ids.Nodup ∧ lamps.isInsertion ∧ column.isInsertion ∧
      ¬ (room.step (fun _ _ => "shelf") lamps).1.tree.ids.Nodup ∧
      ¬ (room.step (fun _ _ => "shelf") column).1.tree.ids.Nodup := by
  intro lamps column
  have hids : room.tree.ids.Nodup := by decide
  have hclash : ∀ c : Command, c.isInsertion →
      (room.step (fun _ _ => "shelf") c).2 = .outcome .applied →
      ¬ ((room.addedIds (fun _ _ => "shelf") c).Nodup ∧
        ∀ id ∈ room.addedIds (fun _ _ => "shelf") c, id ∉ room.tree.ids) →
      ¬ (room.step (fun _ _ => "shelf") c).1.tree.ids.Nodup := by
    intro c hc happlied hadded
    rcases insertion_nodup_iff (fun _ _ => "shelf") room hids hc with
      ⟨_, hrejected, -⟩ | ⟨-, -, hiff⟩
    · cases happlied.symm.trans hrejected
    · rwa [hiff]
  exact ⟨hids, rfl, rfl, hclash lamps rfl (by decide) (by decide),
    hclash column rfl (by decide) (by decide)⟩

end Editor
end Screenwright
