import Screenwright.Proofs.Document.Places
import Screenwright.Proofs.Editor.UniqueIds

/-! Locks: what an operation can do to a locked node. It keeps all of the node and its parent,
except that the node may get another id, be put into a column, or go with an ancestor that is
removed. -/
namespace Screenwright
open scoped List

namespace Editor
variable {source : IdSource} {ed : Editor} {p : Option String} {e : Element}

/-- What a command makes of ids: a renaming that is applied changes one of them. -/
def idAfter (ed : Editor) : Command → String → String
  | .renameNode old new =>
    if (ed.renameNode old new).2 = .applied then renamedId old (cleanId new) else fun id => id
  | _ => fun id => id

/-- A locked element at its place. -/
structure Keeps (ed : Editor) (p : Option String) (e : Element) : Prop where
  place : (p, e) ∈ ed.tree.places
  locked : ed.isLocked e.id = true

/-- A change that adds places keeps what is locked. -/
lemma Keeps.of_gain {after : Editor} (h : ed.Keeps p e) (hlocks : after.locked = ed.locked)
    (gain : List (Option String × Element)) (htree : after.tree.places ~ gain ++ ed.tree.places) :
    after.Keeps p e where
  place := htree.mem_iff.2 (List.mem_append_right _ h.place)
  locked := by
    rw [isLocked, hlocks]
    exact h.locked

/-- A change that exchanges the place of another node keeps what is locked. -/
lemma Keeps.of_exchange {after : Editor} (h : ed.Keeps p e) (hlocks : after.locked = ed.locked)
    {q : Option String} {other : Element} (hother : other.id ≠ e.id)
    {rest : List (Option String × Element)} (hbefore : ed.tree.places ~ (q, other) :: rest)
    (gain : List (Option String × Element)) (hafter : after.tree.places ~ gain ++ rest) :
    after.Keeps p e where
  place := by
    rcases List.mem_cons.1 (hbefore.mem_iff.1 h.place) with heq | hrest
    · cases heq
      exact absurd rfl hother
    · exact hafter.mem_iff.2 (List.mem_append_right _ hrest)
  locked := by
    rw [isLocked, hlocks]
    exact h.locked

lemma Keeps.ne_of_unlocked (h : ed.Keeps p e) {id : String} (hid : ed.isLocked id = false) :
    id ≠ e.id := by
  rintro rfl
  exact absurd h.locked (by simp [hid])

/-! ### One operation -/

lemma Keeps.addNode (h : ed.Keeps p e) (parent : String) (node : Node) (index : Option Int) :
    (ed.addNode parent node index).1.Keeps p e := by
  rcases ed.addNode_cases parent node index with ⟨r, heq⟩ | ⟨hparent, -, heq⟩
  · rw [heq]; exact h
  · rw [heq]
    exact h.of_gain rfl _ (Node.places_insertUnder node index hparent)

lemma Keeps.addCopy (h : ed.Keeps p e) (copied : Node) (parent : String) (index : Option Int) :
    (ed.addCopy source copied parent index).1.Keeps p e := by
  have hafter : (ed.afterCopy copied).Keeps p e := ⟨h.place, h.locked⟩
  rw [addCopy_eq]
  exact hafter.addNode parent _ index

lemma Keeps.paste (h : ed.Keeps p e) : (ed.paste source).1.Keeps p e := by
  rcases ed.paste_cases source with ⟨⟨r, heq⟩, -⟩ | ⟨copied, parent, index, -, heq⟩
  · rw [heq]; exact h
  · rw [heq]; exact h.addCopy copied parent index

lemma Keeps.duplicate (h : ed.Keeps p e) (id : Option String) :
    (ed.duplicate source id).1.Keeps p e := by
  rcases ed.duplicate_cases source id with ⟨⟨r, heq⟩, -⟩ | ⟨copied, parent, index, -, heq⟩
  · rw [heq]; exact h
  · rw [heq]; exact h.addCopy copied parent index

lemma Keeps.copyNode (h : ed.Keeps p e) (id : Option String) : (ed.copyNode id).1.Keeps p e := by
  rcases ed.copyNode_cases id with ⟨r, heq⟩ | ⟨_, _, -, -, heq⟩
  · rw [heq]; exact h
  · rw [heq]; exact ⟨h.place, h.locked⟩

/-- A node that is removed takes a locked node along only when it is above it. -/
lemma Keeps.removeNode (h : ed.Keeps p e) (hids : ed.tree.ids.Nodup) (id : String) :
    (ed.removeNode id).1.Keeps p e ∨
      id ≠ e.id ∧ ed.tree.isWithin id e.id = true ∧ (ed.removeNode id).2 = .applied ∧
        e.id ∉ (ed.removeNode id).1.tree.ids := by
  rcases ed.removeNode_cases id with ⟨r, heq⟩ | ⟨node, d, -, hlocked, hnode, hd, heq⟩
  · rw [heq]; exact .inl h
  · have hplaces := Node.places_detach? hd
    rw [heq]
    rcases List.mem_append.1 (hplaces.mem_iff.1 h.place) with hinside | hrest
    · right
      have hin : e.id ∈ d.node.ids := Node.mem_ids_of_mem_placesFrom hinside
      refine ⟨h.ne_of_unlocked hlocked, ?_, rfl, fun hout => ?_⟩
      · rw [detached_eq_found hids hnode hd] at hin
        have hfound : (node.find? e.id).isSome := (Node.hasId_iff _ _).2 hin
        simpa [Node.isWithin, hnode] using hfound
      · have hapart := (List.nodup_append'.1 ((Node.ids_detach? hd).nodup_iff.1 hids)).2.2
        exact hapart hin hout
    · exact .inl ⟨hrest, h.locked⟩

lemma Keeps.moveNode (h : ed.Keeps p e) (hids : ed.tree.ids.Nodup) (id parent : String)
    (index : Int) : (ed.moveNode id parent index).1.Keeps p e := by
  rcases ed.moveNode_cases id parent index with
    ⟨r, heq⟩ | ⟨d, -, hlocked, hparent, hwithin, hd, ⟨hrest, heq⟩ | ⟨hrest, heq⟩⟩
  · rw [heq]; exact h
  · -- only the root of what is moved gets another parent
    have hbefore := Node.places_detach? hd
    have hafter := Node.places_insertUnder d.node (some index) hrest
    rw [Node.placesFrom_eq_cons, List.cons_append] at hbefore
    rw [Node.placesFrom_eq_cons, List.cons_append] at hafter
    have hid : d.node.head.id = id := (Node.elements_detach? hd).2.1
    have hroot : d.node.head.id ≠ e.id := hid ▸ h.ne_of_unlocked hlocked
    rw [heq]
    exact h.of_exchange rfl hroot hbefore [(some parent, d.node.head)] hafter
  · rw [hasId_rest hids hparent hwithin hd] at hrest
    cases hrest

lemma Keeps.shift (h : ed.Keeps p e) (id : Option String) (offset : Int) :
    (ed.shift id offset).1.Keeps p e := by
  rcases ed.shift_cases id offset with
    ⟨r, heq⟩ | ⟨target, parent, index, -, -, -, hparent, -, hindex, heq⟩
  · rw [heq]; exact h
  · rw [heq]
    exact h.of_gain rfl [] (Node.places_placeChild hparent hindex)

lemma Keeps.mapHead (h : ed.Keeps p e) {id : String} (hid : ed.tree.hasId id)
    (hlocked : ed.isLocked id = false) {f : Element → Element} (hf : ∀ e, (f e).id = e.id) :
    (ed.edit (Node.updateFirst id (Node.mapHead f))).Keeps p e := by
  obtain ⟨m, hm⟩ := Option.isSome_iff_exists.1 hid
  obtain ⟨last, rest, hbefore, hafter⟩ := Node.places_updateFirst_mapHead hf hm
  have hid : m.head.id = id := Node.id_eq_of_find? hm
  have hother : m.head.id ≠ e.id := hid ▸ h.ne_of_unlocked hlocked
  exact h.of_exchange rfl hother hbefore [(last, f m.head)] hafter

lemma Keeps.updateProps (h : ed.Keeps p e) (id : String) (props : Fields Json) :
    (ed.updateProps id props).1.Keeps p e := by
  rcases ed.updateProps_cases id props with ⟨r, heq⟩ | ⟨hlocked, hid, heq⟩
  · rw [heq]; exact h
  · rw [heq]; exact h.mapHead hid hlocked fun _ => rfl

lemma Keeps.updateStyle (h : ed.Keeps p e) (id : String) (fs : Fields Json) :
    (ed.updateStyle id fs).1.Keeps p e := by
  rcases ed.updateStyle_cases id fs with ⟨r, heq⟩ | ⟨node, style, hlocked, hnode, -, heq⟩
  · rw [heq]; exact h
  · have hid : ed.tree.hasId id := by simp [Node.hasId, hnode]
    rw [heq]; exact h.mapHead hid hlocked fun _ => rfl

/-- A locked node gets another parent when a column is put around it, and only then. -/
lemma Keeps.groupIntoStack (h : ed.Keeps p e) (source : IdSource) (id : Option String) :
    ∃ p', (ed.groupIntoStack source id).1.Keeps p' e ∧ (ed.target? id ≠ some e.id → p' = p) := by
  rcases ed.groupIntoStack_cases source id with
    ⟨⟨r, heq⟩, -⟩ | ⟨target, parent, node, wrapperId, htarget, -, hparent, -, -, heq⟩
  · rw [heq]; exact ⟨p, h, fun _ => rfl⟩
  · obtain ⟨c, rest, hc, hbefore, hafter⟩ := Node.places_wrapChild hparent wrapperId
    rw [heq, htarget]
    rcases List.mem_cons.1 (hbefore.mem_iff.1 h.place) with hgrouped | hrest
    · cases hgrouped
      refine ⟨some wrapperId, ⟨hafter.mem_iff.2 (by simp), h.locked⟩, fun hne => ?_⟩
      exact absurd (congrArg some hc.symm) hne
    · refine ⟨p, ⟨hafter.mem_iff.2 ?_, h.locked⟩, fun _ => rfl⟩
      exact List.mem_cons_of_mem _ (List.mem_cons_of_mem _ hrest)

lemma Keeps.renameNode (h : ed.Keeps p e) (hids : ed.tree.ids.Nodup) (old new : String) :
    (ed.renameNode old new).1.Keeps (p.map (ed.idAfter (.renameNode old new)))
      (e.mapId (ed.idAfter (.renameNode old new))) := by
  rcases ed.renameNode_cases old new with ⟨r, heq⟩ | ⟨-, -, -, hnew, heq⟩
  · have hid : ed.idAfter (.renameNode old new) = fun id => id := by
      rw [idAfter, heq]
      exact if_neg (by simp [reject])
    rw [hid, heq, Option.map_id']
    exact h
  · have hid : ed.idAfter (.renameNode old new) = renamedId old (cleanId new) := by
      rw [idAfter, heq]
      exact if_pos rfl
    have hne : e.id ≠ cleanId new := by
      intro hsame
      exact hnew (hsame ▸ Node.mem_ids_of_mem_placesFrom h.place)
    rw [hid, heq]
    constructor
    case place =>
      change _ ∈ (ed.tree.updateFirst old (Node.setId (cleanId new))).places
      rw [Node.places_updateFirst_setId hids]
      exact List.mem_map_of_mem h.place
    case locked =>
      have hlocked : e.id ∈ ed.locked := by simpa [isLocked] using h.locked
      have hafter : renamedId old (cleanId new) e.id ∈ renameIn old (cleanId new) ed.locked := by
        rw [renameIn, renamedId]
        split_ifs <;> simp_all
      exact List.contains_iff_mem.2 hafter

/-! ### Commands -/

lemma Keeps.toggleLocked (h : ed.Keeps p e) {id : String} (hne : id ≠ e.id) :
    (ed.toggleLocked id).1.Keeps p e where
  place := h.place
  locked := by
    have hlocked : e.id ∈ ed.locked := by simpa [isLocked] using h.locked
    have hafter : e.id ∈ (toggle ed.locked id).1 := by
      rw [toggle]
      split_ifs
      · exact List.mem_filter.2 ⟨hlocked, by simpa using hne.symm⟩
      · exact List.mem_append_left _ hlocked
    exact List.contains_iff_mem.2 hafter

/-- A locked node outlasts every operation but time travel and its own unlocking. All of it stays as
it is: its id, which only a renaming changes, under which it stays locked; and its parent, unless it
is itself put into a column. Only the removal of an ancestor takes it away. -/
theorem step_keeps_locked (hids : ed.tree.ids.Nodup) (hplace : (p, e) ∈ ed.tree.places)
    (hlocked : ed.isLocked e.id = true) {c : Command} (hundo : c ≠ .undo) (hredo : c ≠ .redo)
    (hunlock : c ≠ .toggleLocked e.id) :
    (∃ p', (ed.step source c).1.Keeps p' (e.mapId (ed.idAfter c)) ∧
      ((∀ id, c = .groupIntoStack id → ed.target? id ≠ some e.id) →
        p' = p.map (ed.idAfter c))) ∨
    ∃ ancestor, c = .removeNode ancestor ∧ ancestor ≠ e.id ∧
      ed.tree.isWithin ancestor e.id = true ∧ (ed.step source c).2 = .outcome .applied ∧
      e.id ∉ (ed.step source c).1.tree.ids := by
  have h : ed.Keeps p e := ⟨hplace, hlocked⟩
  -- a command that makes nothing of ids and keeps the place
  have hstay : ∀ {c : Command}, ed.idAfter c = (fun id => id) → (ed.step source c).1.Keeps p e →
      ∃ p', (ed.step source c).1.Keeps p' (e.mapId (ed.idAfter c)) ∧
        ((∀ id, c = .groupIntoStack id → ed.target? id ≠ some e.id) →
          p' = p.map (ed.idAfter c)) := by
    intro c hid hkeeps
    refine ⟨p, ?_, fun _ => ?_⟩
    · rw [hid]
      exact hkeeps
    · rw [hid, Option.map_id']
  cases c with
  | undo => contradiction
  | redo => contradiction
  | removeNode id =>
    rcases h.removeNode hids id with hkeeps | ⟨hne, hwithin, happlied, hgone⟩
    · exact .inl (hstay rfl hkeeps)
    · refine .inr ⟨id, rfl, hne, hwithin, ?_, hgone⟩
      rw [step, replying, happlied]
  | renameNode old new =>
    refine .inl ⟨_, ?_, fun _ => rfl⟩
    rw [step, replying_fst]
    exact h.renameNode hids old new
  | groupIntoStack id =>
    obtain ⟨p', hkeeps, hparent⟩ := h.groupIntoStack source id
    refine .inl ⟨p', hkeeps, fun hother => ?_⟩
    rw [hparent (hother id rfl)]
    exact Option.map_id'.symm
  | addNode parent node index => exact .inl (hstay rfl (h.addNode parent node index))
  | moveNode id parent index => exact .inl (hstay rfl (h.moveNode hids id parent index))
  | moveUp id => exact .inl (hstay rfl (h.shift id (-1)))
  | moveDown id => exact .inl (hstay rfl (h.shift id 1))
  | updateProps id props => exact .inl (hstay rfl (h.updateProps id props))
  | updateStyle id fs => exact .inl (hstay rfl (h.updateStyle id fs))
  | copyNode id => exact .inl (hstay rfl (h.copyNode id))
  | paste => exact .inl (hstay rfl h.paste)
  | duplicate id => exact .inl (hstay rfl (h.duplicate id))
  | toggleLocked id =>
    exact .inl (hstay rfl (h.toggleLocked fun heq => hunlock (congrArg _ heq)))
  | select id => exact .inl (hstay rfl ⟨h.place, h.locked⟩)
  | toggleHidden id => exact .inl (hstay rfl ⟨h.place, h.locked⟩)
  | isHidden id => exact .inl (hstay rfl h)
  | isLocked id => exact .inl (hstay rfl h)
  | markClean => exact .inl (hstay rfl ⟨h.place, h.locked⟩)

/-- An editor on a panel with a locked title. -/
def lockedTitle : Editor where
  spec :=
    { route := "/"
      tree := .branch { id := "root", type := "Stack" }
        [.branch { id := "panel", type := "Card" } [.leaf { id := "title", type := "Text" }]] }
  history := .empty 50
  locked := ["title"]

/-- The title is locked under its new id, and still in the panel. -/
theorem step_keeps_locked_title :
    (lockedTitle.step (.clocked fun _ => 0) (.renameNode "title" "label")).1.Keeps (some "panel")
      { id := "label", type := "Text" } := by
  have hplace : (some "panel", ({ id := "title", type := "Text" } : Element)) ∈
      lockedTitle.tree.places :=
    List.mem_cons_of_mem _ (List.mem_cons_of_mem _ List.mem_cons_self)
  rcases step_keeps_locked (c := .renameNode "title" "label") (by decide) hplace (by decide)
    nofun nofun nofun with ⟨p', hkeeps, hparent⟩ | ⟨_, h, -⟩
  · rw [hparent nofun] at hkeeps
    exact hkeeps
  · cases h

end Editor
end Screenwright
