import Mathlib.Data.List.Nodup
import Screenwright.Proofs.Record.Reading
import Screenwright.Proofs.Validation.SchemaParts

/-! Prop tables and the schemas made from them accept the same props. -/
namespace Screenwright
open Schema ScreenSchema

namespace Binary64

lemma ratio_snd_pos (m : Nat) (q : Int) : 0 < (ratio m q).2 := by
  cases q with
  | ofNat n => exact Nat.one_pos
  | negSucc n => exact Nat.two_pow_pos (n + 1)

/-- Of two equal ratios one is zero only with the other. -/
lemma eq_zero_of_cross {a b c d : Nat} (hb : 0 < b) (h : a * d = c * b) (ha : a = 0) : c = 0 := by
  rw [ha, Nat.zero_mul] at h
  exact (Nat.mul_eq_zero.1 h.symm).resolve_right (Nat.ne_of_gt hb)

lemma numEq_of_numEq {x y : Binary64} (h : x.numEq y = true) : y.numEq x = true := by
  cases x with
  | nan => cases y <;> cases h
  | infinite s => cases y <;> simp_all [numEq]
  | finite s m q =>
    cases y with
    | finite t n r =>
      simp only [numEq, Bool.and_eq_true, beq_iff_eq, Bool.or_eq_true] at h ⊢
      obtain ⟨hcross, hsign⟩ := h
      exact ⟨hcross.symm, hsign.imp (eq_zero_of_cross (ratio_snd_pos m q) hcross) Eq.symm⟩
    | _ => cases h

/-- Equality of numbers is symmetric. -/
lemma numEq_comm (x y : Binary64) : x.numEq y = y.numEq x :=
  Bool.eq_iff_iff.2 ⟨numEq_of_numEq, numEq_of_numEq⟩

end Binary64

namespace Json

/-- A text or a number. -/
def isPlain : Json → Bool
  | .str _ | .int _ | .float _ => true
  | _ => false

/-- Without booleans the two equalities agree. -/
lemma sameValue_eq_schemaEq {v option : Json} (hv : ∀ b, v ≠ .bool b) (ho : option.isPlain = true) :
    sameValue v option = schemaEq option v := by
  cases option <;> cases v <;>
    simp_all [isPlain, sameValue, schemaEq, equal, equalNumber, numericEq, asNumber?,
      Bool.beq_comm, Binary64.numEq_comm]

/-- No text or number is a boolean for schemas. -/
lemma schemaEq_bool {b : Bool} {option : Json} (ho : option.isPlain = true) :
    schemaEq option (.bool b) = false := by
  cases option <;> simp_all [isPlain, schemaEq, equal, equalNumber]

/-- A boolean counts as a number beside texts and numbers. -/
lemma sameValue_bool {b : Bool} {option : Json} (ho : option.isPlain = true) :
    sameValue (.bool b) option = numericEq (.int (if b then 1 else 0)) option := by
  cases option <;> simp_all [isPlain, sameValue, equal, equalNumber, asNumber?]

end Json

namespace PropDef
variable {defs : List (String × Schema)} {fuel : Nat} {d : PropDef} {v : Json}

/-- A prop of which the options, if it has any, are texts and numbers. -/
def hasPlainOptions (d : PropDef) : Bool := d.options.all fun options => options.all Json.isPlain

/-- A prop of which the options are texts and numbers, and which is no boolean if it has any. -/
def isPlain (d : PropDef) : Bool :=
  d.options.all fun options => d.type != .boolean && options.all Json.isPlain

/-- The value is a boolean, and the number that it counts as is among the options of a boolean prop.
-/
def CountsAsOption (d : PropDef) (v : Json) : Prop :=
  d.type = .boolean ∧ ∃ b options, v = .bool b ∧ d.options = some options ∧
    ∃ w ∈ options, Json.numericEq (.int (if b then 1 else 0)) w = true

lemma hasPlainOptions_of_isPlain (hd : d.isPlain = true) : d.hasPlainOptions = true := by
  cases hoptions : d.options <;> simp_all [isPlain, hasPlainOptions]

lemma not_countsAsOption_of_isPlain (hd : d.isPlain = true) : ¬ d.CountsAsOption v := by
  rintro ⟨htype, b, options, -, hoptions, -⟩
  simp [isPlain, hoptions, htype] at hd

/-- Among plain options the two equalities differ on booleans that count as options, and on nothing
else. -/
lemma exists_schemaEq_iff {options : List Json} (htype : d.type.admits v = true)
    (hoptions : d.options = some options) (hplain : ∀ w ∈ options, w.isPlain = true) :
    (∃ w ∈ options, Json.schemaEq w v = true) ↔
      isOption options v = true ∧ ¬ d.CountsAsOption v := by
  rw [isOption, List.any_eq_true]
  by_cases hv : ∃ b, v = .bool b
  · obtain ⟨b, rfl⟩ := hv
    have hbool : d.type = .boolean := by
      cases h : d.type <;> simp_all [PropType.admits]
    refine iff_of_false ?_ ?_
    · rintro ⟨w, hw, heq⟩
      rw [Json.schemaEq_bool (hplain w hw)] at heq
      cases heq
    · rintro ⟨⟨w, hw, heq⟩, hcounts⟩
      rw [Json.sameValue_bool (hplain w hw)] at heq
      exact hcounts ⟨hbool, b, options, rfl, hoptions, w, hw, heq⟩
  · have hcounts : ¬ d.CountsAsOption v := fun ⟨_, b, _, h, _⟩ => hv ⟨b, h⟩
    rw [and_iff_left hcounts]
    refine exists_congr fun w => and_congr_right fun hw => ?_
    rw [Json.sameValue_eq_schemaEq (not_exists.1 hv) (hplain w hw)]

/-- The schema of a prop with plain options accepts what the prop accepts, but for booleans that
count as options. -/
theorem accepts_prop_iff (hd : d.hasPlainOptions = true) :
    Accepts defs (fuel + 2) (ScreenSchema.prop d) v ↔
      d.check v = none ∧ ¬ d.CountsAsOption v := by
  have htype : (propType d.type).admits v = d.type.admits v := by
    cases d.type <;> cases v <;> rfl
  rw [ScreenSchema.prop, accepts_rules, List.forall_mem_cons, holds_typed, htype, check]
  cases hadmits : d.type.admits v with
  | false => simp
  | true =>
    cases hoptions : d.options with
    | none => simp [CountsAsOption, hoptions]
    | some options =>
      have hplain : ∀ w ∈ options, w.isPlain = true := by
        simpa [hasPlainOptions, hoptions] using hd
      simp [exists_schemaEq_iff hadmits hoptions hplain]

end PropDef

namespace PropTable
variable {defs : List (String × Schema)} {fuel : Nat} {table : PropTable} {ps : Fields Json}

/-- Props with the required ones and none that the table refuses. -/
def Admits (table : PropTable) (ps : Fields Json) : Prop :=
  (∀ k ∈ requiredProps table, ps.has k = true) ∧ ∀ e ∈ ps, table.checkEntry e.1 e.2 = none

theorem check_eq_nil (path : String) : table.check ps path = [] ↔ table.Admits ps := by
  simp [check, missing, requiredProps, Admits, Fields.keys]

/-- The rules made from a table describe a closed record. -/
lemma isClosed_rules (table : PropTable) :
    IsClosed (([typed .object, .properties (table.map fun e => (e.1, ScreenSchema.prop e.2)),
        .additionalProperties .refuse] : List Rule) ++
      if requiredProps table = [] then [] else [.required (requiredProps table)])
      (requiredProps table) (table.map fun e => (e.1, ScreenSchema.prop e.2)) where
  object := by simp
  named := by simp
  closed := by simp
  demanded h := by simp [h]
  names := by split_ifs <;> simp [propertySchemas, typed]
  others r hr := by
    rcases List.mem_append.1 hr with hr | hr
    · simp only [List.mem_cons, List.not_mem_nil, or_false] at hr
      rcases hr with rfl | rfl | rfl <;> simp
    · split_ifs at hr
      · cases hr
      · simp [List.mem_singleton.1 hr]

/-- No boolean among the props counts as one of the options of its prop. -/
def TellsBooleans (table : PropTable) (ps : Fields Json) : Prop :=
  ∀ e ∈ ps, ∀ d, table.get? e.1 = some d → ¬ d.CountsAsOption e.2

/-- The schema of a table of props with plain options, entry by entry. -/
lemma accepts_props_entries (hplain : ∀ e ∈ table, e.2.hasPlainOptions = true) :
    Accepts defs (fuel + 3) (ScreenSchema.props table) (.obj ps) ↔
      (∀ k ∈ requiredProps table, ps.has k = true) ∧ (∀ e ∈ ps, e.1 ∈ Fields.keys table) ∧
        ∀ e ∈ table, ∀ w, ps.get? e.1 = some w → e.2.check w = none ∧ ¬ e.2.CountsAsOption w := by
  have hkeys : Fields.keys (table.map fun e => (e.1, ScreenSchema.prop e.2)) =
      Fields.keys table := by
    simp [Fields.keys]
  have hvalues : (∀ e ∈ table.map fun e => (e.1, ScreenSchema.prop e.2), ∀ w,
      ps.get? e.1 = some w → Accepts defs (fuel + 2) e.2 w) ↔
      ∀ e ∈ table, ∀ w, ps.get? e.1 = some w → e.2.check w = none ∧ ¬ e.2.CountsAsOption w := by
    rw [List.forall_mem_map]
    refine forall₂_congr fun e he => forall₂_congr fun w _ => ?_
    exact PropDef.accepts_prop_iff (hplain e he)
  rw [ScreenSchema.props, accepts_closed _ _ (isClosed_rules table)]
  simp only [hkeys, hvalues, Json.obj.injEq, exists_eq_left']
  exact and_left_comm

/-- The schema of a table of props with plain options accepts the props that the table admits, if no
boolean counts as an option. -/
theorem accepts_props_iff (htable : (Fields.keys table).Nodup)
    (hplain : ∀ e ∈ table, e.2.hasPlainOptions = true) (hps : ps.keys.Nodup) :
    Accepts defs (fuel + 3) (ScreenSchema.props table) (.obj ps) ↔
      table.Admits ps ∧ table.TellsBooleans ps := by
  rw [accepts_props_entries hplain, Admits, and_assoc]
  refine and_congr_right fun _ => ?_
  constructor
  · rintro ⟨hknown, hvalues⟩
    have hentry : ∀ e ∈ ps, ∃ d, table.get? e.1 = some d ∧ d.check e.2 = none ∧
        ¬ d.CountsAsOption e.2 := by
      rintro ⟨k, w⟩ he
      obtain ⟨⟨k', d⟩, hd, rfl⟩ := List.mem_map.1 (hknown _ he)
      exact ⟨d, Fields.get?_of_mem htable hd, hvalues _ hd w (Fields.get?_of_mem hps he)⟩
    refine ⟨fun e he => ?_, fun e he d hd => ?_⟩ <;>
      obtain ⟨d', hd', hcheck, hcounts⟩ := hentry e he
    · rw [checkEntry, hd']
      exact hcheck
    · exact Option.some.inj (hd'.symm.trans hd) ▸ hcounts
  · rintro ⟨hentries, hbooleans⟩
    refine ⟨fun e he => ?_, fun e he w hw => ?_⟩
    · have hentry := hentries e he
      cases hd : table.get? e.1 with
      | none => simp [checkEntry, hd] at hentry
      | some d => exact List.mem_map_of_mem (Fields.mem_of_get? hd)
    · have hw := Fields.mem_of_get? hw
      have hd := Fields.get?_of_mem htable he
      have hentry := hentries _ hw
      rw [checkEntry, hd] at hentry
      exact ⟨hentry, hbooleans _ hw _ hd⟩

/-- A table of plain props and its schema accept the same props. -/
theorem accepts_props (htable : (Fields.keys table).Nodup)
    (hplain : ∀ e ∈ table, e.2.isPlain = true) (hps : ps.keys.Nodup) :
    Accepts defs (fuel + 3) (ScreenSchema.props table) (.obj ps) ↔ table.Admits ps := by
  rw [accepts_props_iff htable (fun e he => PropDef.hasPlainOptions_of_isPlain (hplain e he)) hps]
  refine and_iff_left fun e _ d hd => ?_
  exact PropDef.not_countsAsOption_of_isPlain (hplain _ (Fields.mem_of_get? hd))

lemma nodup_keys_allowed (t : BuiltinType) : (Fields.keys (allowed t)).Nodup := by
  cases t <;> decide

lemma isPlain_of_mem_allowed (t : BuiltinType) : ∀ e ∈ allowed t, e.2.isPlain = true := by
  cases t <;> decide

/-! ### The schema of a table as a document -/

lemma schema_check_eq_nil : Schema.check (ScreenSchema.props table) (.obj ps) = [] ↔
    Accepts (ScreenSchema.props table).definitions (16 * depthFields ps + 13 + 3)
      (ScreenSchema.props table) (.obj ps) := Iff.rfl

/-- Props pass the schema that is made from a table with plain options exactly if the check by the
table has no issue with them and no boolean counts as an option. For every built-in type the schema
and the check agree. -/
theorem schema_check_iff (ps : Fields Json) (hps : ps.keys.Nodup) (path : String) :
    (∀ table : PropTable, (Fields.keys table).Nodup →
      (∀ e ∈ table, e.2.hasPlainOptions = true) →
        (Schema.check (ScreenSchema.props table) (.obj ps) = [] ↔
          table.check ps path = [] ∧ table.TellsBooleans ps)) ∧
    ∀ t, Schema.check (ScreenSchema.props (allowed t)) (.obj ps) = [] ↔
      (allowed t).check ps path = [] := by
  refine ⟨fun table htable hplain => ?_, fun t => ?_⟩
  · rw [schema_check_eq_nil, accepts_props_iff htable hplain hps, check_eq_nil]
  · rw [schema_check_eq_nil, check_eq_nil]
    exact accepts_props (nodup_keys_allowed t) (isPlain_of_mem_allowed t) hps

/-- A flag that may be one is true for the check and not for the schema. -/
theorem schema_check_iff_flag :
    let table : PropTable := [("flag", { type := .boolean, options := some [.int 1] })]
    let ps : Fields Json := [("flag", .bool true)]
    ps.keys.Nodup ∧ table.check ps "tree" = [] ∧
      Schema.check (ScreenSchema.props table) (.obj ps) ≠ [] := by
  intro table ps
  have hps : ps.keys.Nodup := by decide
  have htable : (Fields.keys table).Nodup := by decide
  refine ⟨hps, rfl, fun hschema => ?_⟩
  obtain ⟨-, hbooleans⟩ :=
    ((schema_check_iff ps hps "tree").1 table htable (by decide)).1 hschema
  have hcounts : PropDef.CountsAsOption { type := .boolean, options := some [.int 1] }
      (.bool true) := ⟨rfl, true, _, rfl, rfl, _, List.mem_singleton_self _, rfl⟩
  exact hbooleans _ (List.mem_singleton_self _) _ rfl hcounts

end PropTable
end Screenwright
