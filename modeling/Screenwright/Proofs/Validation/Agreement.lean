import Screenwright.Proofs.Validation.Admitted
import Screenwright.Proofs.Validation.Readable
import Screenwright.Proofs.Validation.Walked

/-! The nodes on which the walk and the schema agree. -/
namespace Screenwright
open Decode Schema

namespace ReferenceProps
variable {ps : Fields Json}

/-- Props of a reference that the walk takes, where the schema has said nothing yet: a target that
is not blank, records of overrides, nodes for slots with room for them, and fields that the schema
does not name. -/
structure IsReadable (ps : Fields Json) : Prop where
  ref : Walk.isInkText (ps.get? "ref") = true
  descendants : ∀ ds, ps.get? "descendants" = some (.obj ds) →
    ∀ e ∈ ds, Reads DescendantOverride.decode e.2
  slots : ∀ c ∈ slotItems ps, RawNode.Fits (maxDepth - 1) c
  unresolved : ps.MayHaveText "unresolved"
  styleOverrides : ps.has "styleOverrides" = false → MayBeObject (ps.get? "style_overrides")
  slotContent : ps.has "slotContent" = false → ∀ v, ps.get? "slot_content" = some v →
    Reads (dictOf (listOf Node.decodeInside)) v

/-- Props of a reference that are read conform. -/
theorem conforms_of_faults (href : Walk.isInkText (ps.get? "ref") = true)
    (h : (ofFields ps).faults = []) : Conforms ps := by
  obtain ⟨-, hoverrides, hstyle, hdescendants, hcontent, -⟩ := faults_ofFields.1 h
  obtain ⟨s, hs, hink⟩ := Walk.isInkText_iff.1 href
  refine ⟨⟨s, hs, ?_⟩, hoverrides, (forall_get?_keyOf.1 hstyle).1, fun v hv => ?_, fun v hv => ?_⟩
  · rintro rfl
    exact absurd hink (by decide)
  · obtain ⟨ds, rfl, hds⟩ := hdescendants v hv
    exact ⟨ds, rfl, fun e he => (DescendantOverride.reads_decode.1 (hds e he)).imp fun _ h => h.1⟩
  · obtain ⟨content, rfl, hitems⟩ := (forall_get?_keyOf.1 hcontent).1 v hv
    exact ⟨content, rfl, fun e he => (hitems e he).imp fun _ h => h.1⟩

/-- Props of a reference that conform are read when they are readable. -/
theorem faults_of_conforms (h : Conforms ps) (hslots : ∀ c ∈ slotItems ps, Admitted c) :
    Walk.isInkText (ps.get? "ref") = true ∧ (ofFields ps).faults = [] ↔ IsReadable ps := by
  have hfits : ∀ c ∈ slotItems ps,
      (Reads Node.decodeInside c ↔ RawNode.Fits (maxDepth - 1) c) :=
    fun c hc => RawNode.reads_of_admitted (hslots c hc) _
  rw [faults_ofFields, MayBeObject, MayBeObject, forall_get?_keyOf, forall_get?_keyOf,
    slotContent_iff, forall₂_congr hfits]
  constructor
  · rintro ⟨href, -, -, ⟨-, hstyle⟩, hdescendants, ⟨⟨-, hitems⟩, hcontent⟩, hunresolved⟩
    refine ⟨href, fun ds hds => ?_, hitems, hunresolved, hstyle, fun hnot v hv => ?_⟩
    · obtain ⟨_, ⟨rfl⟩, hreads⟩ := hdescendants _ hds
      exact hreads
    · simpa using hcontent hnot v hv
  · rintro ⟨href, hdescendants, hitems, hunresolved, hstyle, hcontent⟩
    have htext : ps.HasText "ref" := h.ref.imp fun _ hs => hs.1
    refine ⟨href, htext, h.overrides, ⟨h.styleOverrides, hstyle⟩, fun v hv => ?_,
      ⟨⟨h.slotContent, hitems⟩, fun hnot v hv => ?_⟩, hunresolved⟩
    · obtain ⟨ds, rfl, -⟩ := h.descendants v hv
      exact ⟨ds, rfl, hdescendants ds hv⟩
    · simpa using hcontent hnot v hv

end ReferenceProps

namespace RawNode
variable {fs : Fields Json}

/-- A node whose styles and interactions are written as the schema has them, and which puts nodes
into slots that the schema accepts. -/
structure IsPlain (fs : Fields Json) : Prop where
  style : ∀ gs, fs.get? "style" = some (.obj gs) → NodeStyle.IsPlain gs
  responsive : ∀ gs, fs.get? "responsive" = some (.obj gs) → ResponsiveStyle.IsPlain gs
  interactions : ∀ gs, fs.get? "interactions" = some (.obj gs) → Spelled Interactions.names gs
  slots : ∀ c ∈ slotItems fs, Admitted c

/-- A node that has props if its type requires some, a readable reference if it is one, and no
number in its styles beyond what is read. -/
structure IsReadable (fs : Fields Json) : Prop where
  props : ∀ t : BuiltinType, tag? fs = some t.name →
    ScreenSchema.requiredProps (PropTable.allowed t) ≠ [] → fs.has "props" = true
  reference : tag? fs = some referenceType → ReferenceProps.IsReadable (Walk.propsOf fs)
  style : ∀ gs, fs.get? "style" = some (.obj gs) → NodeStyle.IsBounded gs
  responsive : ∀ gs, fs.get? "responsive" = some (.obj gs) → ResponsiveStyle.IsBounded gs

lemma exists_props_of_ink {key : String}
    (h : Walk.isInkText (Fields.get? (Walk.propsOf fs) key) = true) :
    ∃ ps, fs.get? "props" = some (.obj ps) ∧ Walk.propsOf fs = ps := by
  cases hprops : fs.get? "props" with
  | none => simp [Walk.propsOf, hprops, Walk.isInkText] at h
  | some v =>
    cases v with
    | obj ps => exact ⟨ps, rfl, propsOf_eq hprops⟩
    | _ => simp [Walk.propsOf, hprops, Json.asObject?, Walk.isInkText] at h

/-- A node that passes conforms when it is plain. -/
theorem conforms_of_passes (h : Passes fs) :
    Conforms fs ∧ (∀ c ∈ slotItems fs, Admitted c) ↔ IsPlain fs := by
  constructor
  · rintro ⟨hconforms, hslots⟩
    exact ⟨fun gs hgs => (NodeStyle.conforms_of_reads (h.style _ hgs)).1 (hconforms.style _ hgs),
      fun gs hgs =>
        (ResponsiveStyle.conforms_of_reads (h.responsive _ hgs)).1 (hconforms.responsive _ hgs),
      fun gs hgs =>
        (Interactions.conforms_of_reads (h.interactions _ hgs)).1 (hconforms.interactions _ hgs),
      hslots⟩
  · intro hplain
    refine ⟨⟨h.toHasShape, fun t ht ps hps => ?_, fun htag => ?_, fun v hv => ?_, fun v hv => ?_,
      fun v hv => ?_⟩, hplain.slots⟩
    · rw [← propsOf_eq hps]
      exact h.table t ht
    · obtain ⟨href, hread⟩ := h.reference htag
      obtain ⟨ps, hps, hpsOf⟩ := exists_props_of_ink href
      rw [hpsOf] at href hread
      exact ⟨ps, hps, ReferenceProps.conforms_of_faults href hread⟩
    · obtain ⟨gs, rfl, -⟩ := NodeStyle.reads_decode.1 (h.style v hv)
      exact (NodeStyle.conforms_of_reads (h.style _ hv)).2 (hplain.style gs hv)
    · obtain ⟨gs, rfl, -⟩ := ResponsiveStyle.reads_decodeWithin.1 (h.responsive v hv)
      exact (ResponsiveStyle.conforms_of_reads (h.responsive _ hv)).2 (hplain.responsive gs hv)
    · obtain ⟨gs, rfl, -⟩ := Interactions.reads_decode.1 (h.interactions v hv)
      exact (Interactions.conforms_of_reads (h.interactions _ hv)).2 (hplain.interactions gs hv)

/-- The table of a built-in type admits the props of a node that conforms, unless the node has no
props and the type requires some. -/
lemma admits_propsOf_iff {t : BuiltinType} (h : Conforms fs) (ht : tag? fs = some t.name) :
    (PropTable.allowed t).Admits (Walk.propsOf fs) ↔
      (ScreenSchema.requiredProps (PropTable.allowed t) ≠ [] → fs.has "props" = true) := by
  cases hprops : fs.get? "props" with
  | none =>
    have hnone : Walk.propsOf fs = [] := by simp [Walk.propsOf, hprops]
    simp [hnone, PropTable.Admits, Fields.has, hprops, List.eq_nil_iff_forall_not_mem]
  | some v =>
    obtain ⟨ps, rfl⟩ := h.props v hprops
    have hadmits := h.table t ht ps hprops
    simp [propsOf_eq hprops, hadmits, Fields.has, hprops]

/-- A node that conforms passes when it is readable. -/
theorem passes_of_conforms (h : Conforms fs) (hslots : ∀ c ∈ slotItems fs, Admitted c) :
    Passes fs ↔ IsReadable fs := by
  have href : tag? fs = some referenceType →
      (Walk.isInkText (Fields.get? (Walk.propsOf fs) "ref") = true ∧
      (ReferenceProps.ofFields (Walk.propsOf fs)).faults = [] ↔
        ReferenceProps.IsReadable (Walk.propsOf fs)) := by
    intro htag
    obtain ⟨ps, hps, hconforms⟩ := h.reference htag
    rw [slotItems, if_pos htag] at hslots
    rw [propsOf_eq hps] at hslots ⊢
    exact ReferenceProps.faults_of_conforms hconforms hslots
  have hresponsive : ∀ gs, fs.get? "responsive" = some (.obj gs) →
      (Reads ResponsiveStyle.decode (.obj gs) ↔ ResponsiveStyle.IsBounded gs) := by
    intro gs hgs
    rw [ResponsiveStyle.decode, ResponsiveStyle.reads_of_conforms (h.responsive _ hgs)]
    simp [ResponsiveStyle.IsBounded, maxDepth]
  constructor
  · intro hpasses
    exact ⟨fun t ht => (admits_propsOf_iff h ht).1 (hpasses.table t ht),
      fun htag => (href htag).1 (hpasses.reference htag),
      fun gs hgs => (NodeStyle.reads_of_conforms (h.style _ hgs)).1 (hpasses.style _ hgs),
      fun gs hgs => (hresponsive gs hgs).1 (hpasses.responsive _ hgs)⟩
  · intro hreadable
    refine ⟨h.toHasShape, fun t ht => (admits_propsOf_iff h ht).2 (hreadable.props t ht),
      fun htag => (href htag).2 (hreadable.reference htag), fun v hv => ?_, fun v hv => ?_,
      fun v hv => Interactions.reads_of_conforms (h.interactions v hv)⟩
    · obtain ⟨gs, rfl, -⟩ := h.style v hv
      exact (NodeStyle.reads_of_conforms (h.style _ hv)).2 (hreadable.style gs hv)
    · obtain ⟨gs, rfl, -⟩ := h.responsive v hv
      exact (hresponsive gs hv).2 (hreadable.responsive gs hv)

end RawNode

/-- A tree that the walk passes is admitted when all its nodes are plain. -/
theorem admitted_of_walked {v : Json} (h : Walked v) :
    Admitted v ↔ ∀ fs, RawNode.IsIn fs v → RawNode.IsPlain fs := by
  induction h with
  | node head _ ih =>
    rw [admitted_obj, RawNode.forall_isIn_obj, ← RawNode.conforms_of_passes head,
      forall₂_congr ih]
    tauto

/-- A tree that is admitted passes the walk when all its nodes are readable. -/
theorem walked_of_admitted {v : Json} (h : Admitted v) :
    Walked v ↔ ∀ fs, RawNode.IsIn fs v → RawNode.IsReadable fs := by
  induction h with
  | node head _ slots ih _ =>
    rw [walked_obj, RawNode.forall_isIn_obj, ← RawNode.passes_of_conforms head slots,
      forall₂_congr ih]

end Screenwright
