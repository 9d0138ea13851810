import Screenwright.Proofs.Record.Reading
import Screenwright.Proofs.Validation.SchemaParts

/-! Styles as the schema accepts them and as they are read: the two differ in second spellings of
names, in values that are converted, and in numbers beyond what is read. -/
namespace Screenwright
open Decode Schema

namespace StyleKind

/-- A value of the kind as the schema has it, null aside. -/
def takes : StyleKind → Json → Bool
  | value, .str _ | value, .int _ | value, .float _ => true
  | keyword allowed, .str s => allowed.contains s
  | text, .str _ => true
  | number, .int _ | number, .float _ => true
  | integer, .int _ => true
  | integer, .float x => x.toInt?.isSome
  | _, _ => false

/-- A value that the kind turns into a number. -/
def converts : StyleKind → Json → Bool
  | value, .bool _ => true
  | number, .bool _ | number, .str _ => true
  | integer, .bool _ | integer, .str _ => true
  | _, _ => false

/-- A number that is beyond what the kind reads. -/
def exceeds : StyleKind → Json → Bool
  | number, .int n => !(Binary64.ofInt n).isFinite
  | integer, .float x =>
    x.toInt?.any fun n => decide (n ≤ -integralBound ∨ integralBound ≤ n)
  | _, _ => false

variable {k : StyleKind} {v : Json}

/-- A number that equals an integer is read as one unless it is too large. -/
lemma reads_integer_float {x : Binary64} :
    Reads Decode.integer (.float x) ↔
      ∃ n, x.toInt? = some n ∧ -integralBound < n ∧ n < integralBound := by
  rw [Reads, Decode.integer]
  cases x with
  | finite s m q =>
    cases h : (Binary64.finite s m q).toInt? with
    | none => simp [Binary64.isFinite]
    | some n =>
      by_cases hn : -integralBound < n ∧ n < integralBound <;> simp [Binary64.isFinite, hn]
  | _ => simp [Binary64.isFinite, Binary64.toInt?]

/-- A value that is read is as the schema has it unless it is converted. -/
lemma takes_of_reads (h : v = .null ∨ Reads k.decode v) :
    (v = .null ∨ k.takes v = true) ↔ k.converts v = false := by
  rcases h with rfl | h
  · cases k <;> simp [converts]
  cases k with
  | keyword allowed =>
    obtain ⟨s, hs, rfl⟩ := reads_oneOf.1 (by simpa [decode, Reads] using h)
    simp [takes, converts, hs]
  | text =>
    obtain ⟨s, rfl⟩ := reads_text.1 (by simpa [decode, Reads] using h)
    simp [takes, converts]
  | value => cases v <;> simp_all [takes, converts, decode, Reads, StyleValue.decode]
  | number => cases v <;> simp_all [takes, converts, decode, Reads, Decode.number]
  | integer =>
    cases v with
    | float x =>
      obtain ⟨n, hn, -⟩ := reads_integer_float.1 (by simpa [decode, Reads] using h)
      simp [takes, converts, hn]
    | _ => simp_all [takes, converts, decode, Reads, Decode.integer]

/-- A value that the schema has is read unless it is too large. -/
lemma reads_of_takes (h : v = .null ∨ k.takes v = true) :
    (v = .null ∨ Reads k.decode v) ↔ k.exceeds v = false := by
  rcases h with rfl | h
  · cases k <;> simp [exceeds]
  cases k with
  | keyword allowed => cases v <;> simp_all [takes, exceeds, decode, Reads, Decode.oneOf]
  | text => cases v <;> simp_all [takes, exceeds, decode, Reads, Decode.text]
  | value => cases v <;> simp_all [takes, exceeds, decode, Reads, StyleValue.decode]
  | number =>
    cases v with
    | int n => by_cases hn : (Binary64.ofInt n).isFinite = true <;>
        simp [exceeds, Reads, decode, Decode.number, hn]
    | _ => simp_all [takes, exceeds, decode, Reads, Decode.number]
  | integer =>
    cases v with
    | float x =>
      have hreads : Reads (decode integer) (.float x) ↔ Reads Decode.integer (.float x) := by
        simp [decode, Reads]
      obtain ⟨n, hn⟩ := Option.isSome_iff_exists.1 h
      simp [hreads, reads_integer_float, exceeds, hn]
    | _ => simp_all [takes, exceeds, decode, Reads, Decode.integer]

end StyleKind

lemma StyleProperty.mem_all (p : StyleProperty) : p ∈ StyleProperty.all := by
  cases p <;> decide

lemma StyleProperty.lowLine_notMem_name (p : StyleProperty) : '_' ∉ p.name.toList := by
  cases p <;> (rw [StyleProperty.name, String.toList_ofList]; decide)

namespace NodeStyle
variable {defs : List (String × Schema)} {fuel : Nat} {fs : Fields Json} {v : Json}

def names : List String := StyleProperty.all.map StyleProperty.name

lemma name_mem_names (p : StyleProperty) : p.name ∈ names :=
  List.mem_map_of_mem p.mem_all

lemma apart_names : Apart names :=
  apart_of_noLowLine (List.forall_mem_map.2 fun p _ => p.lowLine_notMem_name)

/-- A style as the schema has it. -/
def Conforms (v : Json) : Prop :=
  ∃ fs, v = .obj fs ∧ (∀ e ∈ fs, e.1 ∈ names) ∧
    ∀ (p : StyleProperty) w, Fields.get? fs p.name = some w → w = .null ∨ p.kind.takes w = true

lemma accepts_alternatives (k : StyleKind) :
    (∃ s ∈ ScreenSchema.styleAlternatives k, Accepts defs (fuel + 2) s v) ↔ k.takes v = true := by
  cases k with
  | keyword allowed =>
    simp only [ScreenSchema.styleAlternatives, List.mem_singleton, exists_eq_left,
      ScreenSchema.accepts_keywords]
    cases v <;> simp [StyleKind.takes]
  | _ =>
    cases v <;>
      simp [ScreenSchema.styleAlternatives, ScreenSchema.accepts_ofType, SchemaType.admits,
        StyleKind.takes]

/-- The schema of styles accepts the styles that conform. -/
theorem accepts_nodeStyle : Accepts defs (fuel + 5) ScreenSchema.nodeStyle v ↔ Conforms v := by
  have hvalue : ∀ (p : StyleProperty) w, Accepts defs (fuel + 4)
      (ScreenSchema.nullable (ScreenSchema.styleAlternatives p.kind)
        ([p.name].map ScreenSchema.fieldTitle)) w ↔ w = .null ∨ p.kind.takes w = true := by
    intro p w
    rw [ScreenSchema.accepts_nullable, accepts_alternatives]
  rw [ScreenSchema.nodeStyle, ScreenSchema.accepts_closedRecord, Conforms]
  simp only [List.map_singleton] at hvalue
  simp [Fields.keys, names, hvalue, StyleProperty.mem_all, Function.comp_def]

lemma faults_decodeProperties (ps : List StyleProperty) :
    (decodeProperties fs ps).faults = [] ↔
      ∀ p ∈ ps, ∀ w, Fields.get? fs (keyOf fs p.name) = some w →
        w = .null ∨ Reads p.kind.decode w := by
  induction ps with
  | nil => simp [decodeProperties]
  | cons p ps ih => simp [decodeProperties, ih]

/-- The styles that are read. -/
theorem reads_decode : Reads NodeStyle.decode v ↔ ∃ fs, v = .obj fs ∧
    (∀ e ∈ fs, ∃ name ∈ names, keyOf fs name = e.1) ∧
      ∀ (p : StyleProperty) w, Fields.get? fs (keyOf fs p.name) = some w →
        w = .null ∨ Reads p.kind.decode w := by
  simp [NodeStyle.decode, ofFields, faults_decodeProperties, StyleProperty.mem_all, names, and_comm]

/-- Fields of a style that are spelled and typed as the schema has them. -/
structure IsPlain (fs : Fields Json) : Prop where
  spelled : Spelled names fs
  unconverted : ∀ (p : StyleProperty) w, Fields.get? fs p.name = some w → p.kind.converts w = false

/-- Fields of a style with no number beyond what is read. -/
def IsBounded (fs : Fields Json) : Prop :=
  ∀ (p : StyleProperty) w, Fields.get? fs p.name = some w → p.kind.exceeds w = false

/-- A style that is read conforms when it is plain. -/
theorem conforms_of_reads (h : Reads NodeStyle.decode (.obj fs)) :
    Conforms (.obj fs) ↔ IsPlain fs := by
  obtain ⟨_, ⟨rfl⟩, hkeys, hvalues⟩ := reads_decode.1 h
  have hreads : Spelled names fs → ∀ (p : StyleProperty) w, Fields.get? fs p.name = some w →
      ((w = .null ∨ p.kind.takes w = true) ↔ p.kind.converts w = false) := by
    intro hspelled p w hw
    refine StyleKind.takes_of_reads (hvalues p w ?_)
    rw [get?_keyOf_of_spelled hspelled (name_mem_names p), hw]
  constructor
  · rintro ⟨_, ⟨rfl⟩, hnames, htakes⟩
    have hspelled := ((keys_iff_spelled apart_names).1 hnames).2
    exact ⟨hspelled, fun p w hw => (hreads hspelled p w hw).1 (htakes p w hw)⟩
  · rintro ⟨hspelled, hplain⟩
    exact ⟨fs, rfl, (keys_iff_spelled apart_names).2 ⟨hkeys, hspelled⟩,
      fun p w hw => (hreads hspelled p w hw).2 (hplain p w hw)⟩

/-- A style that conforms is read when its numbers are bounded. -/
theorem reads_of_conforms (h : Conforms (.obj fs)) :
    Reads NodeStyle.decode (.obj fs) ↔ IsBounded fs := by
  obtain ⟨_, ⟨rfl⟩, hnames, htakes⟩ := h
  obtain ⟨hkeys, hspelled⟩ := (keys_iff_spelled apart_names).1 hnames
  have hget : ∀ p : StyleProperty, Fields.get? fs (keyOf fs p.name) = Fields.get? fs p.name :=
    fun p => get?_keyOf_of_spelled hspelled (name_mem_names p)
  rw [reads_decode]
  constructor
  · rintro ⟨_, ⟨rfl⟩, -, hvalues⟩ p w hw
    exact (StyleKind.reads_of_takes (htakes p w hw)).1 (hvalues p w (by rw [hget, hw]))
  · intro hbounded
    refine ⟨fs, rfl, hkeys, fun p w hw => ?_⟩
    rw [hget] at hw
    exact (StyleKind.reads_of_takes (htakes p w hw)).2 (hbounded p w hw)

end NodeStyle
namespace ResponsiveStyle
variable {fuel : Nat} {fs : Fields Json} {v : Json}

def names : List String := ["tablet", "mobile"]

lemma snakeName_eq_self : ∀ name ∈ names, snakeName name = name := by decide

/-- Overrides as the schema has them. -/
def Conforms (v : Json) : Prop :=
  ∃ fs, v = .obj fs ∧ (∀ e ∈ fs, e.1 ∈ names) ∧
    ∀ name ∈ names, ∀ w, Fields.get? fs name = some w → w = .null ∨ NodeStyle.Conforms w

/-- The schema of overrides accepts the overrides that conform. -/
theorem accepts_responsiveStyle :
    Accepts ScreenSchema.definitions (fuel + 8) ScreenSchema.responsiveStyle v ↔ Conforms v := by
  have hstyle : ∀ name w, Accepts ScreenSchema.definitions (fuel + 7)
      (ScreenSchema.optionalRef name "NodeStyle").2 w ↔ w = .null ∨ NodeStyle.Conforms w := by
    intro name w
    rw [ScreenSchema.accepts_optionalRef name (s := ScreenSchema.nodeStyle) rfl,
      NodeStyle.accepts_nodeStyle]
  rw [ScreenSchema.responsiveStyle, ScreenSchema.accepts_closedRecord, Conforms]
  simp [Fields.keys, names, hstyle]

/-- The overrides that are read where `room` more records may be nested. -/
theorem reads_decodeWithin {room : Nat} :
    Reads (decodeWithin room) v ↔ ∃ fs, v = .obj fs ∧ (∀ e ∈ fs, e.1 ∈ names) ∧
      ∀ name ∈ names, ∀ w, Fields.get? fs name = some w →
        w = .null ∨ 0 < room ∧ Reads NodeStyle.decode w := by
  have hkey : ∀ fs, ∀ name ∈ names, keyOf fs name = name := fun fs name hname =>
    keyOf_of_snakeName fs (snakeName_eq_self name hname)
  rw [decodeWithin, reads_record]
  refine exists_congr fun fs => and_congr_right fun _ => ?_
  rw [← names, faults_closed_of_snakeName snakeName_eq_self]
  simp only [Decoded.faults_seq, Decoded.faults_map, List.append_eq_nil_iff,
    faults_optional_eq_nil, reads_within, hkey fs "tablet" (by decide),
    hkey fs "mobile" (by decide)]
  simp [names]

/-- Overrides of which each style is plain. -/
def IsPlain (fs : Fields Json) : Prop :=
  ∀ name ∈ names, ∀ gs, Fields.get? fs name = some (.obj gs) → NodeStyle.IsPlain gs

/-- Overrides of which each style is bounded. -/
def IsBounded (fs : Fields Json) : Prop :=
  ∀ name ∈ names, ∀ gs, Fields.get? fs name = some (.obj gs) → NodeStyle.IsBounded gs

/-- Overrides that are read conform when their styles are plain. -/
theorem conforms_of_reads {room : Nat} (h : Reads (decodeWithin room) (.obj fs)) :
    Conforms (.obj fs) ↔ IsPlain fs := by
  obtain ⟨_, ⟨rfl⟩, hkeys, hreads⟩ := reads_decodeWithin.1 h
  constructor
  · rintro ⟨_, ⟨rfl⟩, -, hconforms⟩ name hname gs hgs
    have hstyle : 0 < room ∧ Reads NodeStyle.decode (.obj gs) := by
      simpa using hreads name hname _ hgs
    exact (NodeStyle.conforms_of_reads hstyle.2).1 (by simpa using hconforms name hname _ hgs)
  · intro hplain
    refine ⟨fs, rfl, hkeys, fun name hname w hw => ?_⟩
    rcases hreads name hname w hw with rfl | ⟨-, hstyle⟩
    · exact .inl rfl
    · obtain ⟨gs, rfl, -⟩ := NodeStyle.reads_decode.1 hstyle
      exact .inr ((NodeStyle.conforms_of_reads hstyle).2 (hplain name hname gs hw))

/-- Overrides that conform are read when there is room for their styles and these are bounded. -/
theorem reads_of_conforms {room : Nat} (h : Conforms (.obj fs)) :
    Reads (decodeWithin room) (.obj fs) ↔ ∀ name ∈ names, ∀ gs,
      Fields.get? fs name = some (.obj gs) → 0 < room ∧ NodeStyle.IsBounded gs := by
  obtain ⟨_, ⟨rfl⟩, hkeys, hconforms⟩ := h
  rw [reads_decodeWithin]
  constructor
  · rintro ⟨_, ⟨rfl⟩, -, hreads⟩ name hname gs hgs
    have hstyle : NodeStyle.Conforms (.obj gs) := by
      simpa using hconforms name hname _ hgs
    have hread : 0 < room ∧ Reads NodeStyle.decode (.obj gs) := by
      simpa using hreads name hname _ hgs
    exact ⟨hread.1, (NodeStyle.reads_of_conforms hstyle).1 hread.2⟩
  · intro hbounded
    refine ⟨fs, rfl, hkeys, fun name hname w hw => ?_⟩
    rcases hconforms name hname w hw with rfl | hstyle
    · exact .inl rfl
    · obtain ⟨gs, rfl, -⟩ := id hstyle
      obtain ⟨hroom, hgs⟩ := hbounded name hname gs hw
      exact .inr ⟨hroom, (NodeStyle.reads_of_conforms hstyle).2 hgs⟩

end ResponsiveStyle
end Screenwright
