import Screenwright.Proofs.Record.Reading
import Screenwright.Proofs.Validation.SchemaParts

/-! Interactions and data sources. The schema and the reader agree on all of their records, except
that the reader knows second spellings of the events. -/
namespace Screenwright
open Decode Schema ScreenSchema

namespace Fields
variable {fs : Fields Json} {name : String}

/-- A field is there with one of the allowed texts. -/
def HasKeyword (fs : Fields Json) (name : String) (allowed : List String) : Prop :=
  ∃ s ∈ allowed, fs.get? name = some (.str s)

/-- A field is there with a text. -/
def HasText (fs : Fields Json) (name : String) : Prop := ∃ s, fs.get? name = some (.str s)

/-- A field is a text, unless it is absent or null. -/
def MayHaveText (fs : Fields Json) (name : String) : Prop :=
  ∀ w, fs.get? name = some w → w = .null ∨ ∃ s, w = .str s

lemma hasKeyword_iff {allowed : List String} :
    fs.HasKeyword name allowed ↔
      fs.has name = true ∧ ∀ w, fs.get? name = some w → ∃ s ∈ allowed, w = .str s := by
  rw [HasKeyword, has]
  cases fs.get? name <;> simp

lemma hasText_iff :
    fs.HasText name ↔ fs.has name = true ∧ ∀ w, fs.get? name = some w → ∃ s, w = .str s := by
  rw [HasText, has]
  cases fs.get? name <;> simp

end Fields

namespace Decode
variable {α : Type} {fs : Fields Json} {name : String}

lemma faults_required_named {all : List α} {nameOf : α → String} (h : snakeName name = name) :
    (required fs name (named all nameOf)).faults = [] ↔ fs.HasKeyword name (all.map nameOf) := by
  rw [faults_required_eq_nil, keyOf_of_snakeName fs h, Fields.HasKeyword]
  simp [and_comm]

lemma faults_required_text (h : snakeName name = name) :
    (required fs name text).faults = [] ↔ fs.HasText name := by
  rw [faults_required_eq_nil, keyOf_of_snakeName fs h, Fields.HasText]
  simp

lemma faults_optional_text (h : snakeName name = name) :
    (optional fs name text).faults = [] ↔ fs.MayHaveText name := by
  rw [faults_optional_eq_nil, keyOf_of_snakeName fs h, Fields.MayHaveText]
  simp

end Decode

variable {defs : List (String × Schema)} {fuel : Nat} {fs : Fields Json} {v : Json}

/-! ### Actions and visibility -/

/-- An action with what it is about. -/
def IsAction (allowed : List String) (v : Json) : Prop :=
  ∃ fs, v = .obj fs ∧ (∀ e ∈ fs, e.1 ∈ ["action", "target", "code"]) ∧
    Fields.HasKeyword fs "action" allowed ∧ Fields.MayHaveText fs "target" ∧
      Fields.MayHaveText fs "code"

lemma accepts_action (name : String) (allowed : List String) :
    Accepts defs (fuel + 5) (closedRecord name none ["action"]
      [keywordField "action" allowed, optionalText "target", optionalText "code"]) v ↔
      IsAction allowed v := by
  rw [accepts_closedRecord, IsAction]
  simp [Fields.keys, Fields.hasKeyword_iff, Fields.MayHaveText, accepts_keywordField,
    accepts_optionalText, and_assoc]

lemma reads_action {α β : Type} (name : String) (all : List α) (nameOf : α → String)
    (make : α → Option String → Option String → β) :
    Reads (record name fun fs => closed ["action", "target", "code"] fs
      (make <$> required fs "action" (named all nameOf) <*> optional fs "target" text
        <*> optional fs "code" text)) v ↔ IsAction (all.map nameOf) v := by
  rw [reads_record, IsAction]
  refine exists_congr fun fs => and_congr_right fun _ => ?_
  rw [faults_closed_of_snakeName (by decide)]
  simp (disch := decide) only [Decoded.faults_seq, Decoded.faults_map, List.append_eq_nil_iff,
    faults_required_named, faults_optional_text, and_assoc]

theorem accepts_clickInteraction :
    Accepts defs (fuel + 5) clickInteraction v ↔ Reads ClickInteraction.decode v :=
  (accepts_action _ _).trans (reads_action _ _ _ _).symm

theorem accepts_changeInteraction :
    Accepts defs (fuel + 5) changeInteraction v ↔ Reads ChangeInteraction.decode v :=
  (accepts_action _ _).trans (reads_action _ _ _ _).symm

/-- A rule about a state, with an operator and a value to compare with. -/
def IsVisibilityRule (v : Json) : Prop :=
  ∃ fs, v = .obj fs ∧ (∀ e ∈ fs, e.1 ∈ ["state", "operator", "value"]) ∧
    Fields.HasText fs "state" ∧
      Fields.HasKeyword fs "operator" (VisibilityOperator.all.map VisibilityOperator.name) ∧
        Fields.MayHaveText fs "value"

lemma accepts_visibilityRule_iff :
    Accepts defs (fuel + 5) visibilityRule v ↔ IsVisibilityRule v := by
  have htext : ∀ w, Accepts defs (fuel + 4) (.rules [fieldTitle "state", typed .string]) w ↔
      ∃ s, w = .str s := by
    intro w
    simp [accepts_rules, SchemaType.admits_string]
  rw [visibilityRule, accepts_closedRecord, IsVisibilityRule]
  refine exists_congr fun fs => and_congr_right fun _ => and_congr (by simp [Fields.keys]) ?_
  simp only [List.forall_mem_cons, List.not_mem_nil, false_implies, implies_true, and_true,
    fst_keywordField, fst_optionalText, htext, accepts_keywordField, accepts_optionalText,
    Fields.hasText_iff, Fields.hasKeyword_iff, Fields.MayHaveText]
  constructor
  · rintro ⟨⟨hstate, hoperator⟩, hstates, hoperators, hvalue⟩
    exact ⟨⟨hstate, hstates⟩, ⟨hoperator, hoperators⟩, hvalue⟩
  · rintro ⟨⟨hstate, hstates⟩, ⟨hoperator, hoperators⟩, hvalue⟩
    exact ⟨⟨hstate, hoperator⟩, hstates, hoperators, hvalue⟩

lemma reads_visibilityRule : Reads VisibilityRule.decode v ↔ IsVisibilityRule v := by
  rw [VisibilityRule.decode, reads_record, IsVisibilityRule]
  refine exists_congr fun fs => and_congr_right fun _ => ?_
  rw [faults_closed_of_snakeName (by decide)]
  simp (disch := decide) only [Decoded.faults_seq, Decoded.faults_map, List.append_eq_nil_iff,
    faults_required_named, faults_required_text, faults_optional_text, and_assoc]

theorem accepts_visibilityRule :
    Accepts defs (fuel + 5) visibilityRule v ↔ Reads VisibilityRule.decode v :=
  accepts_visibilityRule_iff.trans reads_visibilityRule.symm

/-! ### Interactions -/

namespace Interactions

def names : List String := ["onClick", "onChange", "visibleWhen"]

lemma apart_names : Apart names := by
  apply apart_of_noLowLine
  unfold names
  repeat refine List.forall_mem_cons.2 ⟨by rw [String.toList_ofList]; decide, ?_⟩
  exact List.forall_mem_nil _

/-- Each event is read where it is there and not null; `key` gives the spellings of the names. -/
def EventsRead (fs : Fields Json) (key : String → String) : Prop :=
  (∀ w, fs.get? (key "onClick") = some w → w = .null ∨ Reads ClickInteraction.decode w) ∧
    (∀ w, fs.get? (key "onChange") = some w → w = .null ∨ Reads ChangeInteraction.decode w) ∧
      ∀ w, fs.get? (key "visibleWhen") = some w → w = .null ∨ Reads VisibilityRule.decode w

lemma eventsRead_keyOf (h : Spelled names fs) : EventsRead fs (keyOf fs) ↔ EventsRead fs id := by
  have hget := fun name (hname : name ∈ names) => get?_keyOf_of_spelled h hname
  rw [EventsRead, hget "onClick" (by decide), hget "onChange" (by decide),
    hget "visibleWhen" (by decide)]
  rfl

/-- Interactions as the schema has them. -/
def Conforms (v : Json) : Prop :=
  ∃ fs, v = .obj fs ∧ (∀ e ∈ fs, e.1 ∈ names) ∧ EventsRead fs id

/-- The schema of interactions accepts the interactions that conform. -/
theorem accepts_interactions :
    Accepts definitions (fuel + 8) ScreenSchema.interactions v ↔ Conforms v := by
  have hclick : ∀ w,
      Accepts definitions (fuel + 7) (optionalRef "onClick" "ClickInteraction").2 w ↔
        w = .null ∨ Reads ClickInteraction.decode w := fun w => by
    rw [accepts_optionalRef _ (s := clickInteraction) rfl, accepts_clickInteraction]
  have hchange : ∀ w,
      Accepts definitions (fuel + 7) (optionalRef "onChange" "ChangeInteraction").2 w ↔
        w = .null ∨ Reads ChangeInteraction.decode w := fun w => by
    rw [accepts_optionalRef _ (s := changeInteraction) rfl, accepts_changeInteraction]
  have hvisible : ∀ w,
      Accepts definitions (fuel + 7) (optionalRef "visibleWhen" "VisibilityRule").2 w ↔
        w = .null ∨ Reads VisibilityRule.decode w := fun w => by
    rw [accepts_optionalRef _ (s := visibilityRule) rfl, accepts_visibilityRule]
  rw [ScreenSchema.interactions, accepts_closedRecord, Conforms]
  simp [Fields.keys, names, EventsRead, hclick, hchange, hvisible]

/-- The interactions that are read. -/
theorem reads_decode : Reads Interactions.decode v ↔ ∃ fs, v = .obj fs ∧
    (∀ e ∈ fs, ∃ name ∈ names, keyOf fs name = e.1) ∧ EventsRead fs (keyOf fs) := by
  simp [Interactions.decode, EventsRead, names, and_comm]

/-- Interactions that are read conform when each event stands under its own name. -/
theorem conforms_of_reads (h : Reads Interactions.decode (.obj fs)) :
    Conforms (.obj fs) ↔ Spelled names fs := by
  obtain ⟨_, ⟨rfl⟩, hkeys, hevents⟩ := reads_decode.1 h
  constructor
  · rintro ⟨_, ⟨rfl⟩, hnames, -⟩
    exact ((keys_iff_spelled apart_names).1 hnames).2
  · intro hspelled
    exact ⟨fs, rfl, (keys_iff_spelled apart_names).2 ⟨hkeys, hspelled⟩,
      (eventsRead_keyOf hspelled).1 hevents⟩

/-- Interactions that conform are read. -/
theorem reads_of_conforms (h : Conforms v) : Reads Interactions.decode v := by
  obtain ⟨fs, rfl, hnames, hevents⟩ := h
  obtain ⟨hkeys, hspelled⟩ := (keys_iff_spelled apart_names).1 hnames
  exact reads_decode.2 ⟨fs, rfl, hkeys, (eventsRead_keyOf hspelled).2 hevents⟩

end Interactions

/-! ### Data sources -/

/-- A data source of a known type, with rows of its own or a place to get them from. -/
def IsDataSource (v : Json) : Prop :=
  ∃ fs, v = .obj fs ∧ (∀ e ∈ fs, e.1 ∈ ["type", "url", "data", "mapping"]) ∧
    Fields.HasKeyword fs "type" (SourceType.all.map SourceType.name) ∧
      Fields.MayHaveText fs "url" ∧
        (∀ w, Fields.get? fs "data" = some w → w = .null ∨ ∃ xs, w = .arr xs) ∧
          ∀ w, Fields.get? fs "mapping" = some w →
            w = .null ∨ ∃ texts, w = .obj texts ∧ ∀ e ∈ texts, ∃ s, e.2 = .str s

lemma accepts_dataSource_iff :
    Accepts defs (fuel + 7) ScreenSchema.dataSource v ↔ IsDataSource v := by
  have hdata : ∀ w, Accepts defs (fuel + 6) (nullable [.rules [.items (.rules []), typed .array]]
      (["data"].map fieldTitle)) w ↔ w = .null ∨ ∃ xs, w = .arr xs := by
    intro w
    rw [accepts_nullable]
    simp [accepts_rules, SchemaType.admits_array]
  have hmapping : ∀ w, Accepts defs (fuel + 6)
      (nullable [.rules [.additionalProperties (ofType .string), typed .object]]
        (["mapping"].map fieldTitle)) w ↔
      w = .null ∨ ∃ texts, w = .obj texts ∧ ∀ e ∈ texts, ∃ s, e.2 = .str s := by
    intro w
    rw [accepts_nullable]
    simp [accepts_mapOf, accepts_ofType, SchemaType.admits_string]
  simp only [List.map_singleton] at hdata hmapping
  rw [ScreenSchema.dataSource, accepts_closedRecord, IsDataSource]
  refine exists_congr fun fs => and_congr_right fun _ => and_congr (by simp [Fields.keys]) ?_
  simp only [List.forall_mem_cons, List.not_mem_nil, false_implies, implies_true, and_true,
    fst_keywordField, fst_optionalText, hdata, hmapping, accepts_keywordField,
    accepts_optionalText, Fields.hasKeyword_iff, Fields.MayHaveText, and_assoc]

lemma reads_dataSource : Reads DataSource.decode v ↔ IsDataSource v := by
  rw [DataSource.decode, reads_record, IsDataSource]
  refine exists_congr fun fs => and_congr_right fun _ => ?_
  rw [faults_closed_of_snakeName (by decide)]
  simp (disch := decide) only [Decoded.faults_seq, Decoded.faults_map, List.append_eq_nil_iff,
    faults_required_named, faults_optional_eq_nil, keyOf_of_snakeName, reads_listOf, reads_dictOf,
    reads_any, reads_text, Fields.MayHaveText, implies_true, and_true, and_assoc]

/-- The schema accepts the data sources that are read. -/
theorem accepts_dataSource :
    Accepts defs (fuel + 7) ScreenSchema.dataSource v ↔ Reads DataSource.decode v :=
  accepts_dataSource_iff.trans reads_dataSource.symm

end Screenwright
