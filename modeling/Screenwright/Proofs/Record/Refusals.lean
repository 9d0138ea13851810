import Screenwright.Document.Screen
import Screenwright.Proofs.Record.Reading

/-! A record that is not read is refused with at least one fault. -/
namespace Screenwright

namespace Decoded
variable {α β : Type}

/-- A reading that gives a value, or else a fault. -/
def IsDecided (x : Decoded α) : Prop := x.faults = [] → ∃ a, x = ok a

namespace IsDecided
variable {x : Decoded α}

lemma ok (a : α) : IsDecided (.ok a) := fun _ => ⟨a, rfl⟩

lemma fault (kind : FaultKind) : (Decoded.fault kind : Decoded α).IsDecided := nofun

lemma map (h : x.IsDecided) (f : α → β) : (f <$> x).IsDecided := by
  intro hx
  obtain ⟨a, rfl⟩ := h (by simpa using hx)
  exact ⟨f a, rfl⟩

lemma seq {f : Decoded (α → β)} (hf : f.IsDecided) (h : x.IsDecided) : (f <*> x).IsDecided := by
  intro hx
  rw [faults_seq, List.append_eq_nil_iff] at hx
  obtain ⟨g, rfl⟩ := hf hx.1
  obtain ⟨a, rfl⟩ := h hx.2
  exact ⟨g a, rfl⟩

lemma under (h : x.IsDecided) (p : Place) : (x.under p).IsDecided := by
  intro hx
  obtain ⟨a, rfl⟩ := h ((faults_under_eq_nil p x).1 hx)
  exact ⟨a, rfl⟩

lemma keepUnless (h : x.IsDecided) (more : List RecordFault) : (x.keepUnless more).IsDecided := by
  intro hx
  rw [faults_keepUnless, List.append_eq_nil_iff] at hx
  obtain ⟨hx, rfl⟩ := hx
  obtain ⟨a, rfl⟩ := h hx
  exact ⟨a, rfl⟩

lemma list {decode : Json → Decoded α} (h : ∀ v, (decode v).IsDecided) (i : Nat) (xs : List Json) :
    (Decoded.list decode i xs).IsDecided := by
  induction xs generalizing i with
  | nil => exact ok []
  | cons x xs ih => exact (((h x).under _).map _).seq (ih _)

lemma entries {decode : Json → Decoded α} (h : ∀ v, (decode v).IsDecided) (fs : Fields Json) :
    (Decoded.entries decode fs).IsDecided := by
  induction fs with
  | nil => exact ok []
  | cons e fs ih => exact (((h e.2).under _).map _).seq ih

end IsDecided
end Decoded

namespace Decode
open Decoded
variable {α β : Type} {decode : Json → Decoded α} {fs : Fields Json}

/-- A reader all of whose readings are decided. -/
def Decides (decode : Json → Decoded α) : Prop := ∀ v, (decode v).IsDecided

lemma Decides.reads_iff (h : Decides decode) {v : Json} :
    Reads decode v ↔ ∃ a, decode v = .ok a := by
  refine ⟨h v, ?_⟩
  rintro ⟨a, ha⟩
  rw [Reads, ha, faults_ok]

lemma decides_text : Decides text := by
  rintro (_ | _ | _ | _ | s | _ | _)
  case str => exact .ok s
  all_goals exact .fault _

lemma decides_object : Decides object := by
  rintro (_ | _ | _ | _ | _ | _ | fs)
  case obj => exact .ok fs
  all_goals exact .fault _

lemma decides_any : Decides any := fun v => .ok v

lemma decides_oneOf (allowed : List String) : Decides (oneOf allowed) := by
  intro v
  rw [oneOf.eq_def]
  split
  · split
    · exact .ok _
    · exact .fault _
  · exact .fault _

lemma decides_named (all : List β) (name : β → String) : Decides (named all name) := by
  intro v
  rw [named.eq_def]
  split
  · split
    · exact .ok _
    · exact .fault _
  · exact .fault _

lemma decides_integer : Decides integer := by
  intro v
  cases v with
  | int n => exact .ok n
  | bool b => exact .ok _
  | float x =>
    rw [integer]
    split
    · exact .fault _
    · split
      · exact .fault _
      · split
        · exact .ok _
        · exact .fault _
  | str s =>
    rw [integer]
    split
    · exact .ok _
    · exact .fault _
  | _ => exact .fault _

lemma decides_number : Decides number := by
  intro v
  cases v with
  | float x => exact .ok x
  | int n =>
    rw [number]
    split
    · exact .ok _
    · exact .fault _
  | bool b => exact .ok _
  | str s =>
    rw [number]
    split
    · exact .ok _
    · exact .fault _
  | _ => exact .fault _

lemma Decides.listOf (h : Decides decode) : Decides (listOf decode) := by
  rintro (_ | _ | _ | _ | _ | xs | _)
  case arr => exact .list h 0 xs
  all_goals exact .fault _

lemma Decides.dictOf (h : Decides decode) : Decides (dictOf decode) := by
  rintro (_ | _ | _ | _ | _ | _ | fs)
  case obj => exact .entries h fs
  all_goals exact .fault _

lemma Decides.nullable (h : Decides decode) : Decides (nullable decode) := by
  intro v
  cases v with
  | null => exact .ok none
  | _ => exact (h _).map _

lemma Decides.within (h : Decides decode) (room : Nat) : Decides (within room decode) := by
  intro v
  rw [Decode.within]
  split
  · exact .fault _
  · exact h v

lemma decides_record {name : String} {read : Fields Json → Decoded α}
    (h : ∀ fs, (read fs).IsDecided) : Decides (record name read) := by
  rintro (_ | _ | _ | _ | _ | _ | fs)
  case obj => exact h fs
  all_goals exact .fault _

lemma Decides.fieldOr (h : Decides decode) (fs : Fields Json) (name : String) (default : α) :
    (fieldOr fs name default decode).IsDecided := by
  rw [Decode.fieldOr]
  split
  · exact (h _).under _
  · exact .ok default

lemma Decides.optional (h : Decides decode) (fs : Fields Json) (name : String) :
    (optional fs name decode).IsDecided := h.nullable.fieldOr fs name none

lemma Decides.required (h : Decides decode) (fs : Fields Json) (name : String) :
    (required fs name decode).IsDecided := by
  rw [Decode.required]
  split
  · exact (h _).under _
  · intro hfaults
    cases hfaults

lemma isDecided_closed {x : Decoded α} (h : x.IsDecided) (names : List String) (fs : Fields Json) :
    (closed names fs x).IsDecided := h.keepUnless _

end Decode

open Decode Decoded

lemma StyleKind.decides_decode (k : StyleKind) : Decides k.decode := by
  cases k with
  | value =>
    intro v
    cases v with
    | str s => exact .ok _
    | int n => exact .ok _
    | float x => exact .ok _
    | bool b => exact .ok _
    | _ => exact nofun
  | keyword allowed => exact fun v => (decides_oneOf allowed v).map _
  | text => exact fun v => (decides_text v).map _
  | number => exact fun v => (decides_number v).map _
  | integer => exact fun v => (decides_integer v).map _

lemma NodeStyle.isDecided_decodeProperties (fs : Fields Json) (ps : List StyleProperty) :
    (decodeProperties fs ps).IsDecided := by
  induction ps with
  | nil => exact .ok []
  | cons p ps ih => exact ((p.kind.decides_decode.optional fs p.name).map _).seq ih

lemma NodeStyle.decides_decode : Decides NodeStyle.decode :=
  decides_record fun fs => isDecided_closed ((isDecided_decodeProperties fs _).map _) _ fs

lemma ResponsiveStyle.decides_decodeWithin (room : Nat) : Decides (decodeWithin room) :=
  decides_record fun fs => isDecided_closed
    ((((NodeStyle.decides_decode.within room).optional fs "tablet").map _).seq
      ((NodeStyle.decides_decode.within room).optional fs "mobile")) _ fs

lemma ClickInteraction.decides_decode : Decides ClickInteraction.decode :=
  decides_record fun fs => isDecided_closed
    (((((decides_named _ _).required fs "action").map _).seq
      (decides_text.optional fs "target")).seq (decides_text.optional fs "code")) _ fs

lemma ChangeInteraction.decides_decode : Decides ChangeInteraction.decode :=
  decides_record fun fs => isDecided_closed
    (((((decides_named _ _).required fs "action").map _).seq
      (decides_text.optional fs "target")).seq (decides_text.optional fs "code")) _ fs

lemma VisibilityRule.decides_decode : Decides VisibilityRule.decode :=
  decides_record fun fs => isDecided_closed
    ((((decides_text.required fs "state").map _).seq
      ((decides_named _ _).required fs "operator")).seq (decides_text.optional fs "value")) _ fs

lemma Interactions.decides_decode : Decides Interactions.decode :=
  decides_record fun fs => isDecided_closed
    ((((ClickInteraction.decides_decode.optional fs "onClick").map _).seq
      (ChangeInteraction.decides_decode.optional fs "onChange")).seq
        (VisibilityRule.decides_decode.optional fs "visibleWhen")) _ fs

lemma DataSource.decides_decode : Decides DataSource.decode :=
  decides_record fun fs => isDecided_closed
    ((((((decides_named _ _).required fs "type").map _).seq
      (decides_text.optional fs "url")).seq
        (decides_any.listOf.optional fs "data")).seq
          (decides_text.dictOf.optional fs "mapping")) _ fs

namespace Node
variable {room : Nat}

lemma isDecided_ofFields {children : Decoded (Option (List Node))} (h : children.IsDecided)
    (fs : Fields Json) : (ofFields room fs children).IsDecided :=
  isDecided_closed (((((((((decides_text.required fs "id").map _).seq
    (decides_text.required fs "type")).seq
    (decides_object.fieldOr fs "props" [])).seq
    (h.under _)).seq
    ((NodeStyle.decides_decode.within room).optional fs "style")).seq
    ((ResponsiveStyle.decides_decodeWithin room).optional fs "responsive")).seq
    (Interactions.decides_decode.optional fs "interactions")).seq
    (DataSource.decides_decode.optional fs "dataSource")) _ fs

lemma isDecided_decodeItems (h : Decides (decodeWithin room)) (i : Nat) (cs : List Json) :
    (decodeItems room i cs).IsDecided := by
  induction cs generalizing i with
  | nil => exact .ok []
  | cons c cs ih => exact (((h c).under _).map _).seq (ih _)

lemma isDecided_decodeList (h : Decides (decodeWithin room)) (v : Json) :
    (decodeList room v).IsDecided := by
  cases v with
  | arr cs => exact (isDecided_decodeItems h 0 cs).map _
  | null => exact .ok none
  | _ => exact .fault _

lemma isDecided_decodeChildren (h : Decides (decodeWithin room)) (fs : Fields Json) :
    (decodeChildren room fs).IsDecided := by
  induction fs with
  | nil => exact .ok none
  | cons e fs ih =>
    rw [decodeChildren]
    split
    · exact isDecided_decodeList h _
    · exact ih

/-- A raw tree is read, or some fault in it is named. -/
theorem decides_decodeWithin (room : Nat) : Decides (decodeWithin room) := by
  induction room with
  | zero => rintro (_ | _ | _ | _ | _ | _ | fs) <;> exact .fault _
  | succ room ih =>
    rintro (_ | _ | _ | _ | _ | _ | fs)
    case obj => exact isDecided_ofFields (isDecided_decodeChildren ih fs) fs
    all_goals exact .fault _

end Node

lemma ScreenMeta.decides_decode : Decides ScreenMeta.decode :=
  decides_record fun fs =>
    ((decides_text.optional fs "layout").map _).seq (decides_text.optional fs "auth")

/-- A document is read, or some fault in it is named. -/
theorem ScreenSpec.decides_decode : Decides ScreenSpec.decode :=
  decides_record fun fs => isDecided_closed
    (((((decides_integer.fieldOr fs "version" 1).map _).seq
      (decides_text.required fs "route")).seq
        (ScreenMeta.decides_decode.optional fs "meta")).seq
          ((Node.decides_decodeWithin _).required fs "tree")) _ fs

end Screenwright
