import Mathlib.Logic.Basic
import Screenwright.Proofs.Validation.Nodes

/-! Which raw nodes are read, and which of the admitted ones. -/
namespace Screenwright
open Decode Schema

namespace RawNode
variable {fs : Fields Json} {room : Nat}

/-- The fields of a node that is read where `room` records may be nested in it, its children
aside. -/
structure IsRead (room : Nat) (fs : Fields Json) : Prop where
  known : ∀ e ∈ fs, ∃ name ∈ Node.fieldNames, keyOf fs name = e.1
  id : fs.HasText "id"
  type : fs.HasText "type"
  props : MayBeObject (fs.get? "props")
  children : ∀ v, fs.get? "children" = some v → v = .null ∨ ∃ cs, v = .arr cs
  style : ∀ v, fs.get? "style" = some v → v = .null ∨ 0 < room ∧ Reads NodeStyle.decode v
  responsive : ∀ v, fs.get? "responsive" = some v →
    v = .null ∨ Reads (ResponsiveStyle.decodeWithin room) v
  interactions : ∀ v, fs.get? "interactions" = some v → v = .null ∨ Reads Interactions.decode v
  dataSource : ∀ v, fs.get? (keyOf fs "dataSource") = some v →
    v = .null ∨ Reads DataSource.decode v

lemma decodeChildren_eq : Node.decodeChildren room fs = match fs.get? "children" with
    | some v => Node.decodeList room v
    | none => .ok none := by
  induction fs with
  | nil => rfl
  | cons e fs ih =>
    obtain ⟨k, v⟩ := e
    rw [Node.decodeChildren]
    by_cases hk : k = "children"
    · simp [hk]
    · simp [hk, ih, Ne.symm hk]

lemma faults_decodeItems (i : Nat) (cs : List Json) :
    (Node.decodeItems room i cs).faults = [] ↔ ∀ c ∈ cs, Reads (Node.decodeWithin room) c := by
  induction cs generalizing i with
  | nil => simp [Node.decodeItems]
  | cons c cs ih => simp [Node.decodeItems, ih, Reads]

lemma faults_decodeChildren : (Node.decodeChildren room fs).faults = [] ↔
    (∀ v, fs.get? "children" = some v → v = .null ∨ ∃ cs, v = .arr cs) ∧
      ∀ c ∈ children fs, Reads (Node.decodeWithin room) c := by
  rw [decodeChildren_eq]
  cases hchildren : fs.get? "children" with
  | none => simp [children, hchildren]
  | some v => cases v <;> simp [children, hchildren, Node.decodeList, faults_decodeItems]

/-- A node is read when its fields and its children are. -/
theorem reads_decodeWithin_obj :
    Reads (Node.decodeWithin (room + 1)) (.obj fs) ↔
      IsRead room fs ∧ ∀ c ∈ children fs, Reads (Node.decodeWithin room) c := by
  have hobject : ∀ v, Reads object v ↔ ∃ gs, v = .obj gs := fun v => reads_object
  have hfields : Reads (Node.decodeWithin (room + 1)) (.obj fs) ↔
      (Node.ofFields room fs (Node.decodeChildren room fs)).faults = [] := by
    rw [Reads, Node.decodeWithin]
    rfl
  rw [hfields, Node.ofFields, faults_closed_eq_nil]
  simp (disch := decide) only [Decoded.faults_seq, Decoded.faults_map, List.append_eq_nil_iff,
    faults_required_text, faults_fieldOr_eq_nil, Decoded.faults_under_eq_nil,
    faults_optional_eq_nil, faults_decodeChildren, reads_within, hobject]
  rw [keyOf_of_snakeName fs (show snakeName "props" = "props" by decide),
    keyOf_of_snakeName fs (show snakeName "style" = "style" by decide),
    keyOf_of_snakeName fs (show snakeName "responsive" = "responsive" by decide),
    keyOf_of_snakeName fs (show snakeName "interactions" = "interactions" by decide)]
  constructor
  · rintro ⟨⟨⟨⟨⟨⟨⟨⟨hid, htype⟩, hprops⟩, hlist, hchildren⟩, hs⟩, hr⟩, hi⟩, hd⟩, hknown⟩
    exact ⟨⟨hknown, hid, htype, hprops, hlist, hs, hr, hi, hd⟩, hchildren⟩
  · rintro ⟨⟨hknown, hid, htype, hprops, hlist, hs, hr, hi, hd⟩, hchildren⟩
    exact ⟨⟨⟨⟨⟨⟨⟨⟨hid, htype⟩, hprops⟩, hlist, hchildren⟩, hs⟩, hr⟩, hi⟩, hd⟩, hknown⟩

lemma not_reads_decodeWithin_zero (v : Json) : ¬ Reads (Node.decodeWithin 0) v := by
  cases v <;> simp [Reads, Node.decodeWithin, within]

/-- The names of a node are not second spellings of one another. -/
lemma apart_fieldNames : Apart Node.fieldNames := by
  apply apart_of_noLowLine
  unfold Node.fieldNames
  repeat refine List.forall_mem_cons.2 ⟨by rw [String.toList_ofList]; decide, ?_⟩
  exact List.forall_mem_nil _

/-- A node that conforms is read when there is room for its styles and these are bounded. -/
lemma isRead_of_conforms (h : Conforms fs) : IsRead room fs ↔
    (∀ gs, fs.get? "style" = some (.obj gs) → 0 < room ∧ NodeStyle.IsBounded gs) ∧
      ∀ gs, fs.get? "responsive" = some (.obj gs) → ∀ name ∈ ResponsiveStyle.names, ∀ hs,
        Fields.get? gs name = some (.obj hs) → 0 < room ∧ NodeStyle.IsBounded hs := by
  obtain ⟨hkeys, hspelled⟩ := (keys_iff_spelled apart_fieldNames).1 h.known
  constructor
  · intro hread
    refine ⟨fun gs hgs => ?_, fun gs hgs => ?_⟩
    · have hstyle : 0 < room ∧ Reads NodeStyle.decode (.obj gs) := by
        simpa using hread.style _ hgs
      exact ⟨hstyle.1, (NodeStyle.reads_of_conforms (h.style _ hgs)).1 hstyle.2⟩
    · have hresponsive : Reads (ResponsiveStyle.decodeWithin room) (.obj gs) := by
        simpa using hread.responsive _ hgs
      exact (ResponsiveStyle.reads_of_conforms (h.responsive _ hgs)).1 hresponsive
  · rintro ⟨hstyle, hresponsive⟩
    have htext : ∀ key, Walk.isInkText (fs.get? key) = true → fs.HasText key := fun key hkey =>
      (Walk.isInkText_iff.1 hkey).imp fun _ hs => hs.1
    refine ⟨hkeys, htext _ h.id, htext _ h.type, h.props, fun v hv => .inr (h.children v hv),
      fun v hv => ?_, fun v hv => ?_, fun v hv => ?_, fun v hv => ?_⟩
    · obtain ⟨gs, rfl, -⟩ := h.style v hv
      obtain ⟨hroom, hgs⟩ := hstyle gs hv
      exact .inr ⟨hroom, (NodeStyle.reads_of_conforms (h.style _ hv)).2 hgs⟩
    · obtain ⟨gs, rfl, -⟩ := h.responsive v hv
      exact .inr ((ResponsiveStyle.reads_of_conforms (h.responsive _ hv)).2 (hresponsive gs hv))
    · exact .inr (Interactions.reads_of_conforms (h.interactions v hv))
    · rw [get?_keyOf_of_spelled hspelled (by decide)] at hv
      exact .inr (h.dataSource v hv)

/-- A node with room for its styles and for the nodes below, of which `room` may be nested in it,
and with bounded numbers in the styles. -/
inductive Fits : Nat → Json → Prop
  | node {room : Nat} {fs : Fields Json}
    (style : ∀ gs, fs.get? "style" = some (.obj gs) → 0 < room ∧ NodeStyle.IsBounded gs)
    (responsive : ∀ gs, fs.get? "responsive" = some (.obj gs) →
      ∀ name ∈ ResponsiveStyle.names, ∀ hs, Fields.get? gs name = some (.obj hs) →
        0 < room ∧ NodeStyle.IsBounded hs)
    (children : ∀ c ∈ children fs, Fits room c) : Fits (room + 1) (.obj fs)

/-- An admitted node is read when it fits. -/
theorem reads_of_admitted {v : Json} (h : Admitted v) (room : Nat) :
    Reads (Node.decodeWithin room) v ↔ Fits room v := by
  induction h generalizing room with
  | @node fs head _ _ ih _ =>
    cases room with
    | zero => exact iff_of_false (not_reads_decodeWithin_zero _) (by rintro ⟨⟩)
    | succ room =>
      rw [reads_decodeWithin_obj, isRead_of_conforms head, forall₂_congr fun c hc => ih c hc room]
      constructor
      · rintro ⟨⟨hstyle, hresponsive⟩, hchildren⟩
        exact .node hstyle hresponsive hchildren
      · rintro ⟨hstyle, hresponsive, hchildren⟩
        exact ⟨⟨hstyle, hresponsive⟩, hchildren⟩

end RawNode
end Screenwright
