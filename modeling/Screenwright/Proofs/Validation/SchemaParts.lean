import Mathlib.Data.List.Basic
import Screenwright.Validation.ScreenSchema

/-! Acceptance by a schema, rule by rule, and what the parts of the screen schema accept: types,
keywords, nullable fields and closed records. -/
namespace Screenwright

/-! ### Rules -/

namespace Schema
variable {defs : List (String × Schema)} {fuel : Nat}

/-- A value without violations. -/
def Accepts (defs : List (String × Schema)) (fuel : Nat) (s : Schema) (v : Json) : Prop :=
  violations defs fuel s v = []

/-- What one of the rules `rs` asks of a value. -/
def Holds (defs : List (String × Schema)) (fuel : Nat) (rs : List Rule) (v : Json) : Rule → Prop
  | .required names => ∀ fs, v = .obj fs → ∀ name ∈ names, Fields.has fs name = true
  | .properties schemas =>
    ∀ fs, v = .obj fs → ∀ e ∈ schemas, ∀ w, Fields.get? fs e.1 = some w → Accepts defs fuel e.2 w
  | .additionalProperties s =>
    ∀ fs, v = .obj fs → ∀ e ∈ unnamedProperties rs fs, Accepts defs fuel s e.2
  | .items s => ∀ xs, v = .arr xs → ∀ x ∈ xs, Accepts defs fuel s x
  | .anyOf schemas => ∃ s ∈ schemas, Accepts defs fuel s v
  | .allOf schemas => ∀ s ∈ schemas, Accepts defs fuel s v
  | .condition test =>
    Accepts defs fuel test v → ∀ s, consequence? rs = some s → Accepts defs fuel s v
  | .ref name => ∀ s, defs.lookup name = some s → Accepts defs fuel s v
  | r => simpleViolation? r v = none

/-! ### Rule by rule -/

section Rules
variable {rs : List Rule} {v : Json}

@[simp] lemma holds_required (names : List String) :
    Holds defs fuel rs v (.required names) ↔
      ∀ fs, v = .obj fs → ∀ name ∈ names, Fields.has fs name = true := Iff.rfl

@[simp] lemma holds_properties (schemas : List (String × Schema)) :
    Holds defs fuel rs v (.properties schemas) ↔ ∀ fs, v = .obj fs →
      ∀ e ∈ schemas, ∀ w, Fields.get? fs e.1 = some w → Accepts defs fuel e.2 w := Iff.rfl

@[simp] lemma holds_additionalProperties (s : Schema) :
    Holds defs fuel rs v (.additionalProperties s) ↔ ∀ fs, v = .obj fs →
      ∀ e ∈ unnamedProperties rs fs, Accepts defs fuel s e.2 := Iff.rfl

@[simp] lemma holds_items (s : Schema) :
    Holds defs fuel rs v (.items s) ↔
      ∀ xs, v = .arr xs → ∀ x ∈ xs, Accepts defs fuel s x := Iff.rfl

@[simp] lemma holds_anyOf (schemas : List Schema) :
    Holds defs fuel rs v (.anyOf schemas) ↔ ∃ s ∈ schemas, Accepts defs fuel s v := Iff.rfl

@[simp] lemma holds_allOf (schemas : List Schema) :
    Holds defs fuel rs v (.allOf schemas) ↔ ∀ s ∈ schemas, Accepts defs fuel s v := Iff.rfl

@[simp] lemma holds_condition (test : Schema) :
    Holds defs fuel rs v (.condition test) ↔ (Accepts defs fuel test v →
      ∀ s, consequence? rs = some s → Accepts defs fuel s v) := Iff.rfl

@[simp] lemma holds_ref (name : String) :
    Holds defs fuel rs v (.ref name) ↔
      ∀ s, defs.lookup name = some s → Accepts defs fuel s v := Iff.rfl

@[simp] lemma holds_remark (k : String) (w : Json) : Holds defs fuel rs v (.remark k w) := by
  cases v <;> rfl

@[simp] lemma holds_definitions (ss : List (String × Schema)) :
    Holds defs fuel rs v (.definitions ss) := by
  cases v <;> rfl

@[simp] lemma holds_consequence (s : Schema) : Holds defs fuel rs v (.consequence s) := by
  cases v <;> rfl

@[simp] lemma holds_type (single : Bool) (t : SchemaType) :
    Holds defs fuel rs v (.type single [t]) ↔ t.admits v = true := by
  change (if [t].any (·.admits v) then none else some _) = none ↔ _
  simp

@[simp] lemma holds_options (values : List Json) :
    Holds defs fuel rs v (.options values) ↔ ∃ w ∈ values, Json.schemaEq w v = true := by
  change (if values.any (Json.schemaEq · v) then none else some _) = none ↔ _
  simp

@[simp] lemma holds_const (w : Json) :
    Holds defs fuel rs v (.const w) ↔ Json.schemaEq v w = true := by
  change (if Json.schemaEq v w then none else some _) = none ↔ _
  simp

@[simp] lemma holds_pattern (p s : String) :
    Holds defs fuel rs (.str s) (.pattern p) ↔ matchesPattern p s = true := by
  change (if matchesPattern p s then none else some _) = none ↔ _
  simp

@[simp] lemma holds_minLength (n : Nat) (s : String) :
    Holds defs fuel rs (.str s) (.minLength n) ↔ n ≤ s.length := by
  change (if n ≤ s.length then none else some _) = none ↔ _
  simp

end Rules

/-! ### Acceptance -/

lemma not_accepts_refuse (v : Json) : ¬ Accepts defs (fuel + 1) .refuse v := by
  simp [Accepts, violations]

/-- A value is accepted when every rule holds. -/
theorem accepts_rules {rs : List Rule} {v : Json} :
    Accepts defs (fuel + 2) (.rules rs) v ↔ ∀ r ∈ rs, Holds defs (fuel + 1) rs v r := by
  rw [Accepts, violations, List.flatMap_eq_nil_iff]
  refine forall₂_congr fun r _ => ?_
  cases r with
  | additionalProperties s =>
    cases v with
    | obj fs =>
      cases s with
      | refuse => simp [Holds, not_accepts_refuse, List.eq_nil_iff_forall_not_mem]
      | accept => simp [Holds, Accepts]
      | rules rs => simp [Holds, Accepts]
    | _ => simp [Holds, simpleViolation?]
  | required names => cases v <;> simp [Holds, simpleViolation?, List.filter_eq_nil_iff]
  | properties schemas =>
    cases v with
    | obj fs =>
      simp only [Holds, List.flatMap_eq_nil_iff, Json.obj.injEq, forall_eq']
      refine forall₂_congr fun e _ => ?_
      cases Fields.get? fs e.1 <;> simp [Accepts]
    | _ => simp [Holds, simpleViolation?]
  | items s =>
    cases v with
    | arr xs =>
      simp only [Holds, Accepts, List.flatMap_eq_nil_iff, List.map_eq_nil_iff, Json.arr.injEq,
        forall_eq']
      constructor
      · intro h x hx
        obtain ⟨i, hi, rfl⟩ := List.getElem_of_mem hx
        exact h (xs[i], i) (by simp [List.mem_zipIdx_iff_getElem?, List.getElem?_eq_getElem hi])
      · rintro h ⟨x, i⟩ hx
        exact h x (List.mem_of_getElem? (List.mem_zipIdx_iff_getElem?.1 hx))
    | _ => simp [Holds, simpleViolation?]
  | anyOf schemas => simp [Holds, Accepts]
  | allOf schemas => simp [Holds, Accepts]
  | condition test =>
    simp only [Holds, Accepts]
    cases consequence? rs <;> simp
  | ref name =>
    simp only [Holds, Accepts]
    cases defs.lookup name <;> simp
  | _ => cases v <;> simp [Holds, simpleViolation?]

lemma accepts_ref {name : String} {s : Schema} {v : Json} (h : defs.lookup name = some s) :
    Accepts defs (fuel + 2) (.rules [.ref name]) v ↔ Accepts defs (fuel + 1) s v := by
  simp [accepts_rules, h]

end Schema

/-! ### Parts of the screen schema -/

namespace SchemaType
variable {v : Json}

lemma admits_object : object.admits v = true ↔ ∃ fs, v = .obj fs := by
  constructor
  · intro h
    cases v with
    | obj fs => exact ⟨fs, rfl⟩
    | _ => cases h
  · rintro ⟨fs, rfl⟩
    rfl

lemma admits_array : array.admits v = true ↔ ∃ xs, v = .arr xs := by
  constructor
  · intro h
    cases v with
    | arr xs => exact ⟨xs, rfl⟩
    | _ => cases h
  · rintro ⟨xs, rfl⟩
    rfl

lemma admits_string : string.admits v = true ↔ ∃ s, v = .str s := by
  constructor
  · intro h
    cases v with
    | str s => exact ⟨s, rfl⟩
    | _ => cases h
  · rintro ⟨s, rfl⟩
    rfl

lemma admits_null : null.admits v = true ↔ v = .null := by
  constructor
  · intro h
    cases v with
    | null => rfl
    | _ => cases h
  · rintro rfl
    rfl

end SchemaType

namespace Json

/-- A text equals no other value than itself. -/
@[simp] lemma schemaEq_str_right {v : Json} {s : String} :
    schemaEq v (.str s) = true ↔ v = .str s := by
  cases v <;> simp [schemaEq, equal, equalNumber, numericEq, asNumber?]

@[simp] lemma schemaEq_str_left {v : Json} {s : String} :
    schemaEq (.str s) v = true ↔ v = .str s := by
  cases v <;> simp [schemaEq, equal, eq_comm (a := s)]

end Json

namespace ScreenSchema
open Schema
variable {defs : List (String × Schema)} {fuel : Nat} {v : Json}

@[simp] lemma holds_typed {rs : List Rule} {t : SchemaType} :
    Holds defs fuel rs v (typed t) ↔ t.admits v = true := holds_type true t

lemma accepts_ofType {t : SchemaType} :
    Accepts defs (fuel + 2) (ofType t) v ↔ t.admits v = true := by
  simp [ofType, accepts_rules]

@[simp] lemma holds_title {rs : List Rule} (s : String) : Holds defs fuel rs v (title s) :=
  holds_remark _ _

@[simp] lemma holds_fieldTitle {rs : List Rule} (name : String) :
    Holds defs fuel rs v (fieldTitle name) := by
  rw [fieldTitle]
  split <;> exact holds_title _

/-- A nullable field is null or one of its alternatives. -/
lemma accepts_nullable (alternatives : List Schema) (titles : List String) :
    Accepts defs (fuel + 4) (nullable alternatives (titles.map fieldTitle)) v ↔
      v = .null ∨ ∃ s ∈ alternatives, Accepts defs (fuel + 3) s v := by
  have hnull : Accepts defs (fuel + 3) (ofType .null) v ↔ v = .null := by
    rw [accepts_ofType, SchemaType.admits_null]
  rw [nullable, accepts_rules]
  simp [or_and_right, exists_or, hnull, or_comm]

@[simp] lemma fst_keywordField (name : String) (allowed : List String) :
    (keywordField name allowed).1 = name := rfl

@[simp] lemma fst_optionalText (name : String) : (optionalText name).1 = name := rfl

@[simp] lemma fst_optionalRef (name target : String) : (optionalRef name target).1 = name := rfl

/-- A keyword is one of the allowed texts. -/
lemma holds_keywordRules {rs : List Rule} (allowed : List String) :
    (∀ r ∈ keywordRules allowed, Holds defs fuel rs v r) ↔ ∃ s ∈ allowed, v = .str s := by
  have hoption : (∃ w ∈ allowed.map Json.str, Json.schemaEq w v = true) ↔
      ∃ s ∈ allowed, v = .str s := by
    simp
  rw [keywordRules, List.forall_mem_cons, List.forall_mem_singleton, holds_options, holds_typed,
    SchemaType.admits_string, hoption]
  constructor
  · rintro ⟨hallowed, -⟩
    exact hallowed
  · rintro ⟨s, hs, rfl⟩
    exact ⟨⟨s, hs, rfl⟩, s, rfl⟩

lemma accepts_keywords (allowed : List String) :
    Accepts defs (fuel + 2) (.rules (keywordRules allowed)) v ↔ ∃ s ∈ allowed, v = .str s := by
  rw [accepts_rules, holds_keywordRules]

lemma accepts_keywordField (name : String) (allowed : List String) :
    Accepts defs (fuel + 2) (keywordField name allowed).2 v ↔ ∃ s ∈ allowed, v = .str s := by
  rw [keywordField, accepts_rules, List.forall_mem_append, holds_keywordRules]
  simp

/-- An optional text is null or a text. -/
lemma accepts_optionalText (name : String) :
    Accepts defs (fuel + 4) (optionalText name).2 v ↔ v = .null ∨ ∃ s, v = .str s := by
  rw [optionalText, ← List.map_singleton (f := fieldTitle), accepts_nullable]
  simp [accepts_ofType, SchemaType.admits_string]

/-- An optional part is null or as its definition says. -/
lemma accepts_optionalRef (name : String) {target : String} {s : Schema}
    (h : defs.lookup target = some s) :
    Accepts defs (fuel + 4) (optionalRef name target).2 v ↔
      v = .null ∨ Accepts defs (fuel + 2) s v := by
  rw [optionalRef, ← List.map_nil (f := fieldTitle), accepts_nullable]
  simp [accepts_ref h]

lemma unnamedProperties_eq_self {rs : List Rule} (h : propertySchemas rs = []) (fs : Fields Json) :
    unnamedProperties rs fs = fs := by
  simp [unnamedProperties, h, Fields.keys]

/-- Rules that restrict only the values of an object. -/
lemma holds_objectOf {rs : List Rule} (s : Schema) (h : propertySchemas rs = []) :
    Holds defs fuel rs v (typed .object) ∧ Holds defs fuel rs v (.additionalProperties s) ↔
      ∃ fs, v = .obj fs ∧ ∀ e ∈ fs, Accepts defs fuel s e.2 := by
  rw [holds_typed, SchemaType.admits_object, holds_additionalProperties]
  simp only [unnamedProperties_eq_self h]
  constructor
  · rintro ⟨⟨fs, rfl⟩, hvalues⟩
    exact ⟨fs, rfl, hvalues fs rfl⟩
  · rintro ⟨fs, rfl, hvalues⟩
    exact ⟨⟨fs, rfl⟩, by simpa using hvalues⟩

lemma accepts_objectOf (s : Schema) :
    Accepts defs (fuel + 2) (.rules [typed .object, .additionalProperties s]) v ↔
      ∃ fs, v = .obj fs ∧ ∀ e ∈ fs, Accepts defs (fuel + 1) s e.2 := by
  rw [accepts_rules, List.forall_mem_cons, List.forall_mem_singleton, holds_objectOf s rfl]

lemma accepts_mapOf (s : Schema) :
    Accepts defs (fuel + 2) (.rules [.additionalProperties s, typed .object]) v ↔
      ∃ fs, v = .obj fs ∧ ∀ e ∈ fs, Accepts defs (fuel + 1) s e.2 := by
  rw [accepts_rules, List.forall_mem_cons, List.forall_mem_singleton, and_comm,
    holds_objectOf s rfl]

/-- Only named properties are there. -/
lemma holds_noOthers {rs : List Rule} {fs : Fields Json} :
    Holds defs (fuel + 1) rs (.obj fs) (.additionalProperties .refuse) ↔
      ∀ e ∈ fs, e.1 ∈ Fields.keys (propertySchemas rs) := by
  simp [unnamedProperties, not_accepts_refuse]

/-- Rules of an object that admits no other properties than its own; the other rules say nothing. -/
structure IsClosed (rs : List Rule) (required : List String) (fields : List (String × Schema)) :
    Prop where
  object : typed .object ∈ rs
  named : .properties fields ∈ rs
  closed : .additionalProperties .refuse ∈ rs
  demanded : required ≠ [] → .required required ∈ rs
  names : propertySchemas rs = fields
  others : ∀ r ∈ rs, r = typed .object ∨ r = .properties fields ∨
    r = .additionalProperties .refuse ∨ r = .required required ∨
      ∀ defs fuel v, Holds defs fuel rs v r

lemma accepts_closed {rs : List Rule} (required : List String) (fields : List (String × Schema))
    (h : IsClosed rs required fields) :
    Accepts defs (fuel + 2) (.rules rs) v ↔
      ∃ fs, v = .obj fs ∧ (∀ e ∈ fs, e.1 ∈ Fields.keys fields) ∧
        (∀ k ∈ required, Fields.has fs k = true) ∧
        ∀ e ∈ fields, ∀ w, Fields.get? fs e.1 = some w → Accepts defs (fuel + 1) e.2 w := by
  rw [accepts_rules]
  constructor
  · intro hall
    obtain ⟨fs, rfl⟩ := SchemaType.admits_object.1 (holds_typed.1 (hall _ h.object))
    refine ⟨fs, rfl, ?_, fun k hk => ?_, hall _ h.named fs rfl⟩
    · rw [← h.names]
      exact holds_noOthers.1 (hall _ h.closed)
    · exact hall _ (h.demanded (List.ne_nil_of_mem hk)) fs rfl k hk
  · rintro ⟨fs, rfl, hkeys, hrequired, hfields⟩ r hr
    rcases h.others r hr with rfl | rfl | rfl | rfl | htrue
    · exact holds_typed.2 (SchemaType.admits_object.2 ⟨fs, rfl⟩)
    · simpa using hfields
    · rw [holds_noOthers, h.names]
      exact hkeys
    · simpa using hrequired
    · exact htrue _ _ _

/-- A closed record is an object with no keys beyond its own, the required ones among them. -/
lemma accepts_closedRecord (name : String) (description : Option String) (required : List String)
    (fields : List (String × Schema)) :
    Accepts defs (fuel + 2) (closedRecord name description required fields) v ↔
      ∃ fs, v = .obj fs ∧ (∀ e ∈ fs, e.1 ∈ Fields.keys fields) ∧
        (∀ k ∈ required, Fields.has fs k = true) ∧
        ∀ e ∈ fields, ∀ w, Fields.get? fs e.1 = some w → Accepts defs (fuel + 1) e.2 w := by
  refine accepts_closed required fields ⟨by simp, by simp, by simp, fun h => by simp [h], ?_,
    fun r hr => ?_⟩
  · cases description <;> cases required <;> simp [propertySchemas, title, typed]
  · have hrule : r = .additionalProperties .refuse ∨
        (∃ d, description = some d ∧ .remark "description" (.str d) = r) ∨
        r = .properties fields ∨ r ∈ (if required = [] then [] else [.required required]) ∨
        r = title name ∨ r = typed .object := by
      simpa [or_assoc] using hr
    rcases hrule with rfl | ⟨d, -, rfl⟩ | rfl | hr | rfl | rfl
    · simp
    · exact .inr (.inr (.inr (.inr fun _ _ _ => holds_remark _ _)))
    · simp
    · split at hr
      · cases hr
      · simp [List.mem_singleton.1 hr]
    · exact .inr (.inr (.inr (.inr fun _ _ _ => holds_title _)))
    · simp

end ScreenSchema
end Screenwright
