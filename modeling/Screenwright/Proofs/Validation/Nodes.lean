import Screenwright.Proofs.Json.Parts
import Screenwright.Proofs.Validation.Props
import Screenwright.Proofs.Validation.References
import Screenwright.Validation.Walk

/-! Raw nodes: the nodes that the walk passes and the nodes that the schema admits, as grammars. -/
namespace Screenwright
open Decode Schema

namespace Walk

lemma isInkText_iff {v : Option Json} :
    isInkText v = true ↔ ∃ s, v = some (.str s) ∧ Text.hasInk s = true := by
  rcases v with _ | v
  · simp [isInkText]
  · cases v <;> simp [isInkText]

end Walk

namespace RawNode
variable {fs : Fields Json} {c : Json}

/-- The type of a node, if it is a text. -/
def tag? (fs : Fields Json) : Option String := (Fields.get? fs "type").bind Json.asString?

/-- The children among the fields of a node. -/
def children (fs : Fields Json) : List Json :=
  match Fields.get? fs "children" with
  | some (.arr cs) => cs
  | _ => []

/-- What the slots of a node are given, if it is a reference. -/
def slotItems (fs : Fields Json) : List Json :=
  if tag? fs = some referenceType then ReferenceProps.slotItems (Walk.propsOf fs) else []

/-- The fields of a node in a raw tree. -/
inductive IsIn : Fields Json → Json → Prop
  | root (fs : Fields Json) : IsIn fs (.obj fs)
  | inside {fs gs : Fields Json} {c : Json} (hc : c ∈ children fs) (h : IsIn gs c) :
    IsIn gs (.obj fs)

lemma forall_isIn_obj {p : Fields Json → Prop} :
    (∀ gs, IsIn gs (.obj fs) → p gs) ↔ p fs ∧ ∀ c ∈ children fs, ∀ gs, IsIn gs c → p gs := by
  constructor
  · intro h
    exact ⟨h fs (.root fs), fun c hc gs hgs => h gs (.inside hc hgs)⟩
  · rintro ⟨hroot, hbelow⟩ gs hgs
    cases hgs with
    | root => exact hroot
    | inside hc h => exact hbelow _ hc gs h

lemma depth_lt_of_mem_children (h : c ∈ children fs) : depth c < depth (.obj fs) := by
  rw [children] at h
  split at h
  · rename_i cs hcs
    exact Nat.lt_trans (depth_lt_of_mem_items h) (depth_lt_of_get? hcs)
  · cases h

lemma hasDistinctKeys_of_mem_children (hkeys : (Json.obj fs).hasDistinctKeys = true)
    (h : c ∈ children fs) : c.hasDistinctKeys = true := by
  rw [children] at h
  split at h
  · rename_i cs hcs
    exact Json.hasDistinctKeys_arr.1 (Json.hasDistinctKeys_of_get? hkeys hcs) c h
  · cases h

/-- Children are nodes of a kind exactly when they are a list and its items are of the kind. -/
lemma children_iff {p : Json → Prop} :
    (∀ v, Fields.get? fs "children" = some v → ∃ cs, v = .arr cs ∧ ∀ c ∈ cs, p c) ↔
      (∀ v, Fields.get? fs "children" = some v → ∃ cs, v = .arr cs) ∧ ∀ c ∈ children fs, p c := by
  cases hchildren : Fields.get? fs "children" with
  | none => simp [children, hchildren]
  | some v => cases v <;> simp [children, hchildren]

/-- What every node has to be, whichever way it is checked. -/
structure HasShape (fs : Fields Json) : Prop where
  known : ∀ e ∈ fs, e.1 ∈ Node.fieldNames
  id : Walk.isInkText (Fields.get? fs "id") = true
  type : Walk.isInkText (Fields.get? fs "type") = true
  props : MayBeObject (Fields.get? fs "props")
  children : ∀ v, Fields.get? fs "children" = some v → ∃ cs, v = .arr cs
  dataSource : ∀ v, Fields.get? fs "dataSource" = some v → Reads DataSource.decode v

/-- A node that the walk finds nothing wrong with, its children aside. -/
structure Passes (fs : Fields Json) : Prop extends HasShape fs where
  table : ∀ t : BuiltinType, tag? fs = some t.name →
    (PropTable.allowed t).Admits (Walk.propsOf fs)
  reference : tag? fs = some referenceType →
    Walk.isInkText (Fields.get? (Walk.propsOf fs) "ref") = true ∧
      (ReferenceProps.ofFields (Walk.propsOf fs)).faults = []
  style : ∀ v, Fields.get? fs "style" = some v → Reads NodeStyle.decode v
  responsive : ∀ v, Fields.get? fs "responsive" = some v → Reads ResponsiveStyle.decode v
  interactions : ∀ v, Fields.get? fs "interactions" = some v → Reads Interactions.decode v

/-- A node that the schema accepts, its children and the nodes for its slots aside. -/
structure Conforms (fs : Fields Json) : Prop extends HasShape fs where
  table : ∀ t : BuiltinType, tag? fs = some t.name →
    ∀ ps, Fields.get? fs "props" = some (.obj ps) → (PropTable.allowed t).Admits ps
  reference : tag? fs = some referenceType →
    ∃ ps, Fields.get? fs "props" = some (.obj ps) ∧ ReferenceProps.Conforms ps
  style : ∀ v, Fields.get? fs "style" = some v → NodeStyle.Conforms v
  responsive : ∀ v, Fields.get? fs "responsive" = some v → ResponsiveStyle.Conforms v
  interactions : ∀ v, Fields.get? fs "interactions" = some v → Interactions.Conforms v

lemma propsOf_eq {ps : Fields Json} (h : Fields.get? fs "props" = some (.obj ps)) :
    Walk.propsOf fs = ps := by
  simp [Walk.propsOf, h, Json.asObject?]

/-- Where in the fields of a node an item for a slot stands. -/
lemma exists_of_mem_slotItems (h : c ∈ slotItems fs) : ∃ ps content e items,
    Fields.get? fs "props" = some (.obj ps) ∧ Fields.get? ps "slotContent" = some (.obj content) ∧
      e ∈ content ∧ e.2 = .arr items ∧ c ∈ items := by
  rw [slotItems] at h
  split at h
  · cases hprops : Fields.get? fs "props" with
    | none => simp [Walk.propsOf, hprops, ReferenceProps.slotItems] at h
    | some w =>
      cases w with
      | obj ps =>
        rw [propsOf_eq hprops] at h
        cases hcontent : Fields.get? ps "slotContent" with
        | none => simp [ReferenceProps.slotItems, hcontent] at h
        | some w =>
          cases w with
          | obj content =>
            obtain ⟨e, he, items, hitems, hc⟩ := (ReferenceProps.mem_slotItems hcontent).1 h
            exact ⟨ps, content, e, items, rfl, hcontent, he, hitems, hc⟩
          | _ => simp [ReferenceProps.slotItems, hcontent] at h
      | _ => simp [Walk.propsOf, hprops, Json.asObject?, ReferenceProps.slotItems] at h
  · cases h

lemma depth_lt_of_mem_slotItems (h : c ∈ slotItems fs) : depth c < depth (.obj fs) := by
  obtain ⟨ps, content, e, items, hprops, hcontent, he, hitems, hc⟩ := exists_of_mem_slotItems h
  calc depth c < depth (.arr items) := depth_lt_of_mem_items hc
    _ = depth e.2 := by rw [hitems]
    _ < depth (.obj content) := depth_lt_of_mem_fields he
    _ < depth (.obj ps) := depth_lt_of_get? hcontent
    _ < depth (.obj fs) := depth_lt_of_get? hprops

lemma hasDistinctKeys_of_mem_slotItems (hkeys : (Json.obj fs).hasDistinctKeys = true)
    (h : c ∈ slotItems fs) : c.hasDistinctKeys = true := by
  obtain ⟨ps, content, e, items, hprops, hcontent, he, hitems, hc⟩ := exists_of_mem_slotItems h
  have hcontentKeys :=
    Json.hasDistinctKeys_of_get? (Json.hasDistinctKeys_of_get? hkeys hprops) hcontent
  have hitemsKeys := (Json.hasDistinctKeys_obj.1 hcontentKeys).2 e he
  rw [hitems] at hitemsKeys
  exact Json.hasDistinctKeys_arr.1 hitemsKeys c hc

/-- Slots get nodes of a kind exactly when the reference conforms and its items are of the kind. -/
lemma slots_iff {p : Json → Prop} :
    (tag? fs = some referenceType → ∃ ps, Fields.get? fs "props" = some (.obj ps) ∧
      ReferenceProps.Conforms ps ∧ ∀ c ∈ ReferenceProps.slotItems ps, p c) ↔
    (tag? fs = some referenceType → ∃ ps, Fields.get? fs "props" = some (.obj ps) ∧
      ReferenceProps.Conforms ps) ∧ ∀ c ∈ slotItems fs, p c := by
  by_cases htag : tag? fs = some referenceType
  · simp only [htag, true_imp_iff, slotItems, if_true]
    constructor
    · rintro ⟨ps, hps, hconforms, hitems⟩
      exact ⟨⟨ps, hps, hconforms⟩, by rwa [propsOf_eq hps]⟩
    · rintro ⟨⟨ps, hps, hconforms⟩, hitems⟩
      exact ⟨ps, hps, hconforms, by rwa [propsOf_eq hps] at hitems⟩
  · simp [htag, slotItems]

end RawNode

/-- A tree that the walk finds nothing wrong with. -/
inductive Walked : Json → Prop
  | node {fs : Fields Json} (head : RawNode.Passes fs)
    (children : ∀ c ∈ RawNode.children fs, Walked c) : Walked (.obj fs)

lemma walked_obj {fs : Fields Json} :
    Walked (.obj fs) ↔ RawNode.Passes fs ∧ ∀ c ∈ RawNode.children fs, Walked c :=
  ⟨fun | .node head children => ⟨head, children⟩, fun h => .node h.1 h.2⟩

/-- A tree that the schema accepts. -/
inductive Admitted : Json → Prop
  | node {fs : Fields Json} (head : RawNode.Conforms fs)
    (children : ∀ c ∈ RawNode.children fs, Admitted c)
    (slots : ∀ c ∈ RawNode.slotItems fs, Admitted c) : Admitted (.obj fs)

lemma admitted_obj {fs : Fields Json} :
    Admitted (.obj fs) ↔ RawNode.Conforms fs ∧ (∀ c ∈ RawNode.children fs, Admitted c) ∧
      ∀ c ∈ RawNode.slotItems fs, Admitted c :=
  ⟨fun | .node head children slots => ⟨head, children, slots⟩, fun h => .node h.1 h.2.1 h.2.2⟩

end Screenwright
