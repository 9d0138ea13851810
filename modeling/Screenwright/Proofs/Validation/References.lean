import Screenwright.Document.Component
import Screenwright.Proofs.Validation.Events
import Screenwright.Proofs.Validation.Styles

/-! The props of references as the schema accepts them and as they are read. -/
namespace Screenwright
open Decode Schema ScreenSchema

/-- An object, if there is a value. -/
def MayBeObject (v : Option Json) : Prop := ∀ w, v = some w → ∃ fs, w = .obj fs

namespace DescendantOverride
variable {v : Json}

/-- The overrides of one node that are read. -/
theorem reads_decode : Reads DescendantOverride.decode v ↔ ∃ fs, v = .obj fs ∧
    (∀ e ∈ fs, e.1 ∈ ["props", "style"]) ∧ ∀ name ∈ ["props", "style"], ∀ w,
      Fields.get? fs name = some w → w = .null ∨ ∃ gs, w = .obj gs := by
  rw [DescendantOverride.decode, reads_record]
  refine exists_congr fun fs => and_congr_right fun _ => ?_
  rw [faults_closed_of_snakeName (by decide)]
  simp (disch := decide) only [Decoded.faults_seq, Decoded.faults_map, List.append_eq_nil_iff,
    faults_optional_eq_nil, keyOf_of_snakeName]
  simp

end DescendantOverride

namespace ReferenceProps
variable {ps : Fields Json}

/-- What the slots of a reference are given, where it has the form of lists by slot. -/
def slotItems (ps : Fields Json) : List Json :=
  match Fields.get? ps "slotContent" with
  | some (.obj content) => content.flatMap fun e => (e.2.asArray?).getD []
  | _ => []

/-- Props of a reference as the schema has them, up to the nodes for slots. -/
structure Conforms (ps : Fields Json) : Prop where
  ref : ∃ s, ps.get? "ref" = some (.str s) ∧ s ≠ ""
  overrides : MayBeObject (ps.get? "overrides")
  styleOverrides : MayBeObject (ps.get? "styleOverrides")
  descendants : ∀ v, ps.get? "descendants" = some v →
    ∃ ds, v = .obj ds ∧ ∀ e ∈ ds, ∃ fs, e.2 = .obj fs
  slotContent : ∀ v, ps.get? "slotContent" = some v →
    ∃ content, v = .obj content ∧ ∀ e ∈ content, ∃ items, e.2 = .arr items

/-- The schema of the props of a reference. -/
def schema : Schema :=
  .rules [
    typed .object,
    .required ["ref"],
    .properties [
      ("ref", .rules [typed .string, .minLength 1]),
      ("overrides", ofType .object),
      ("styleOverrides", ofType .object),
      ("descendants", .rules [typed .object, .additionalProperties (ofType .object)]),
      ("slotContent", .rules [typed .object, .additionalProperties nodeList])]]

variable {defs : List (String × Schema)} {fuel : Nat} {v : Json}

lemma accepts_nodeList (hnode : defs.lookup "node" = some node) :
    Accepts defs (fuel + 4) nodeList v ↔
      ∃ items, v = .arr items ∧ ∀ c ∈ items, Accepts defs (fuel + 2) node c := by
  rw [nodeList, accepts_rules, List.forall_mem_cons, List.forall_mem_singleton, holds_typed,
    SchemaType.admits_array, holds_items]
  constructor
  · rintro ⟨⟨items, rfl⟩, hitems⟩
    exact ⟨items, rfl, fun c hc => (accepts_ref hnode).1 (hitems items rfl c hc)⟩
  · rintro ⟨items, rfl, hitems⟩
    refine ⟨⟨items, rfl⟩, fun xs hxs c hc => (accepts_ref hnode).2 (hitems c ?_)⟩
    cases hxs
    exact hc

lemma accepts_refText : Accepts defs (fuel + 2) (.rules [typed .string, .minLength 1]) v ↔
    ∃ s, v = .str s ∧ s ≠ "" := by
  rw [accepts_rules, List.forall_mem_cons, List.forall_mem_singleton, holds_typed,
    SchemaType.admits_string]
  constructor
  · rintro ⟨⟨s, rfl⟩, hlength⟩
    refine ⟨s, rfl, ?_⟩
    rintro rfl
    simp at hlength
  · rintro ⟨s, rfl, hs⟩
    refine ⟨⟨s, rfl⟩, ?_⟩
    rw [holds_minLength, Nat.one_le_iff_ne_zero, Ne, String.length_eq_zero_iff]
    exact hs

lemma mem_slotItems {content : Fields Json} (h : ps.get? "slotContent" = some (.obj content))
    {c : Json} :
    c ∈ slotItems ps ↔ ∃ e ∈ content, ∃ items, e.2 = .arr items ∧ c ∈ items := by
  have hitems : ∀ w : Json, c ∈ (w.asArray?).getD [] ↔ ∃ items, w = .arr items ∧ c ∈ items := by
    intro w
    cases w <;> simp [Json.asArray?]
  simp only [slotItems, h, List.mem_flatMap, hitems]

/-- Lists by slot hold nodes of a kind exactly when they are lists and their items are of the
kind. -/
lemma slotContent_iff {p : Json → Prop} :
    (∀ w, ps.get? "slotContent" = some w → ∃ content, w = .obj content ∧
      ∀ e ∈ content, ∃ items, e.2 = .arr items ∧ ∀ c ∈ items, p c) ↔
    (∀ w, ps.get? "slotContent" = some w → ∃ content, w = .obj content ∧
      ∀ e ∈ content, ∃ items, e.2 = .arr items) ∧ ∀ c ∈ slotItems ps, p c := by
  constructor
  · intro h
    refine ⟨fun w hw => ?_, fun c hc => ?_⟩
    · obtain ⟨content, rfl, hcontent⟩ := h w hw
      exact ⟨content, rfl, fun e he => (hcontent e he).imp fun _ hitems => hitems.1⟩
    · cases hw : ps.get? "slotContent" with
      | none => simp [slotItems, hw] at hc
      | some w =>
        obtain ⟨content, rfl, hcontent⟩ := h w hw
        obtain ⟨e, he, items, hitems, hmem⟩ := (mem_slotItems hw).1 hc
        obtain ⟨items', hitems', hp⟩ := hcontent e he
        cases hitems.symm.trans hitems'
        exact hp c hmem
  · rintro ⟨hshape, hp⟩ w hw
    obtain ⟨content, rfl, hcontent⟩ := hshape w hw
    refine ⟨content, rfl, fun e he => ?_⟩
    obtain ⟨items, hitems⟩ := hcontent e he
    exact ⟨items, hitems, fun c hc => hp c ((mem_slotItems hw).2 ⟨e, he, items, hitems, hc⟩)⟩

/-- The schema of the props of a reference accepts props that conform, with nodes for the slots. -/
theorem accepts_schema (hnode : defs.lookup "node" = some node) :
    Accepts defs (fuel + 8) schema v ↔ ∃ ps, v = .obj ps ∧ Conforms ps ∧
      ∀ c ∈ slotItems ps, Accepts defs (fuel + 4) node c := by
  have hobject : ∀ w, Accepts defs (fuel + 7) (ofType .object) w ↔ ∃ fs, w = .obj fs := fun w => by
    rw [accepts_ofType, SchemaType.admits_object]
  have hdescendants : ∀ w, Accepts defs (fuel + 7)
      (.rules [typed .object, .additionalProperties (ofType .object)]) w ↔
      ∃ ds, w = .obj ds ∧ ∀ e ∈ ds, ∃ fs, e.2 = .obj fs := fun w => by
    rw [accepts_objectOf]
    simp only [accepts_ofType, SchemaType.admits_object]
  have hslots : ∀ w, Accepts defs (fuel + 7)
      (.rules [typed .object, .additionalProperties nodeList]) w ↔
      ∃ content, w = .obj content ∧ ∀ e ∈ content, ∃ items, e.2 = .arr items ∧
        ∀ c ∈ items, Accepts defs (fuel + 4) node c := fun w => by
    rw [accepts_objectOf]
    simp only [accepts_nodeList hnode]
  rw [schema, accepts_rules]
  simp only [List.forall_mem_cons, List.not_mem_nil, false_implies, implies_true, and_true,
    holds_typed, SchemaType.admits_object, holds_required, holds_properties, hobject, hdescendants,
    hslots, accepts_refText]
  constructor
  · rintro ⟨⟨ps, rfl⟩, hhas, hfields⟩
    obtain ⟨href, hoverrides, hstyle, hdesc, hcontent⟩ := hfields ps rfl
    obtain ⟨hlists, hnodes⟩ := slotContent_iff.1 hcontent
    obtain ⟨w, hw⟩ := Option.isSome_iff_exists.1 (hhas ps rfl)
    obtain ⟨s, rfl, hs⟩ := href w hw
    exact ⟨ps, rfl, ⟨⟨s, hw, hs⟩, hoverrides, hstyle, hdesc, hlists⟩, hnodes⟩
  · rintro ⟨ps, rfl, hps, hnodes⟩
    refine ⟨⟨ps, rfl⟩, ?_, ?_⟩
    · rintro _ ⟨rfl⟩
      obtain ⟨s, hs, -⟩ := hps.ref
      exact Fields.has_of_get? hs
    · rintro _ ⟨rfl⟩
      refine ⟨fun w hw => ?_, hps.overrides, hps.styleOverrides, hps.descendants,
        slotContent_iff.2 ⟨hps.slotContent, hnodes⟩⟩
      obtain ⟨s, hs, hne⟩ := hps.ref
      cases hw.symm.trans hs
      exact ⟨s, rfl, hne⟩

/-- The props of a reference that are read. -/
theorem faults_ofFields : (ofFields ps).faults = [] ↔
    ps.HasText "ref" ∧ MayBeObject (ps.get? "overrides") ∧
      MayBeObject (ps.get? (keyOf ps "styleOverrides")) ∧
      (∀ v, ps.get? "descendants" = some v →
        ∃ ds, v = .obj ds ∧ ∀ e ∈ ds, Reads DescendantOverride.decode e.2) ∧
      (∀ v, ps.get? (keyOf ps "slotContent") = some v → ∃ content, v = .obj content ∧
        ∀ e ∈ content, ∃ items, e.2 = .arr items ∧ ∀ c ∈ items, Reads Node.decodeInside c) ∧
      ps.MayHaveText "unresolved" := by
  rw [ofFields]
  simp (disch := decide) only [Decoded.faults_seq, Decoded.faults_map, List.append_eq_nil_iff,
    faults_required_text, faults_optional_text, faults_fieldOr_eq_nil, reads_object, reads_dictOf,
    reads_listOf, MayBeObject, and_assoc]
  rw [keyOf_of_snakeName ps (show snakeName "overrides" = "overrides" by decide),
    keyOf_of_snakeName ps (show snakeName "descendants" = "descendants" by decide)]

end ReferenceProps
end Screenwright
