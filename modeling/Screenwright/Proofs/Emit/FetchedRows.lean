import Screenwright.Emit.Analysis
import Screenwright.Proofs.Record.Merging
import Screenwright.Proofs.Script.Tokens

/-! Rows that a script has fetched and rows at hand. The script writes the renamed fields over a copy
of a row, in which the source fields stay; a row at hand loses them. -/
namespace Screenwright.Emit

/-- A value in a running script; what each object has from the common prototype goes by its name. -/
inductive Value where
  | undefined
  | json (j : Json)
  | inherited (name : String)

namespace Value

/-- Neither undefined nor null. -/
def isPresent : Value → Bool
  | undefined | json .null => false
  | _ => true

/-- The names under which an object has a value without a field of its own. -/
def prototypeNames : List String :=
  ["constructor", "hasOwnProperty", "isPrototypeOf", "propertyIsEnumerable", "toLocaleString",
    "toString", "valueOf", "__proto__", "__defineGetter__", "__defineSetter__", "__lookupGetter__",
    "__lookupSetter__"]

/-- The value that a row gives for a name. -/
def member (row : Fields Json) (name : String) : Value :=
  match row.get? name with
  | some j => json j
  | none => if name ∈ prototypeNames then inherited name else undefined

/-- The value of a key, if it has one that is present. -/
def present? (object : Fields Value) (key : String) : Option Value :=
  (object.get? key).filter isPresent

end Value

/-- What stands between the braces of an object: all fields of a row, or a key with a field of it. -/
inductive Property where
  | spread (row : String)
  | field (key row source : String)

namespace Property

/-- The properties up to the closing brace, and what follows it. -/
def readAll? : List Script.Token → Option (List Property × List Script.Token)
  | .mark .ellipsis :: .name r :: .mark .comma :: ts =>
    (readAll? ts).map fun ps => (spread r :: ps.1, ps.2)
  | .mark .ellipsis :: .name r :: .mark .braceClose :: ts => some ([spread r], ts)
  | .text k :: .mark .colon :: .name r :: .mark .bracketOpen :: .text s :: .mark .bracketClose ::
      .mark .comma :: ts =>
    (readAll? ts).map fun ps => (field k r s :: ps.1, ps.2)
  | .text k :: .mark .colon :: .name r :: .mark .bracketOpen :: .text s :: .mark .bracketClose ::
      .mark .braceClose :: ts => some ([field k r s], ts)
  | _ => none

/-- What a property adds to an object. A field with the name of the prototype sets the prototype and
no field. -/
def add? (parameter : String) (row : Fields Json) (object : Fields Value) :
    Property → Option (Fields Value)
  | spread r => if r = parameter then some (object.merge (row.mapValues .json)) else none
  | field k r s =>
    if r = parameter then
      some (if k = "__proto__" then object else object.set k (Value.member row s))
    else none

end Property

/-- What is done to each fetched row: nothing, or an object is built from it. -/
inductive RowScript where
  | same
  | build (parameter : String) (properties : List Property)

namespace RowScript

def ofTokens? : List Script.Token → Option RowScript
  | [] => some same
  | .mark .dot :: .name "map" :: .mark .parenOpen :: .mark .parenOpen :: .name r ::
      .mark .parenClose :: .mark .arrow :: .mark .parenOpen :: .mark .braceOpen :: ts =>
    match Property.readAll? ts with
    | some (ps, [.mark .parenClose, .mark .parenClose]) => some (build r ps)
    | _ => none
  | _ => none

/-- The script behind a list of rows. -/
def read? (script : String) : Option RowScript := (Script.tokens script.toList).bind ofTokens?

def run : RowScript → Fields Json → Option (Fields Value)
  | same, row => some (row.mapValues .json)
  | build parameter ps, row => ps.foldlM (Property.add? parameter row) []

end RowScript

namespace DataFetch
variable {row : Fields Json} {mapping : Fields String}

/-! ### The script that is written -/

section
open Script

def copyTokens (e : String × String) : List Token :=
  [.text e.1, .mark .colon, .name "row", .mark .bracketOpen, .text e.2, .mark .bracketClose]

lemma tokens_fieldCopy (e : String × String) (rest : List Char) :
    tokens ((fieldCopy e).toList ++ rest) = (tokens rest).map (copyTokens e ++ ·) := by
  have hopen : ∀ cs, tokens (": row[".toList ++ cs) =
      (tokens cs).map ([.mark .colon, .name "row", .mark .bracketOpen] ++ ·) := fun cs => by
    simp [List.dropPrefix?, isIdentifierChar, Function.comp_def]
  have hclose : tokens ("]".toList ++ rest) = (tokens rest).map (.mark .bracketClose :: ·) := by
    simp [List.dropPrefix?, isIdentifierChar]
  rw [fieldCopy, String.toList_append, String.toList_append, String.toList_append,
    List.append_assoc, List.append_assoc, List.append_assoc, tokens_quoteDouble, hopen,
    tokens_quoteDouble, hclose]
  simp [copyTokens, Function.comp_def]

/-- A renamed field as a property. -/
def copy (e : String × String) : Property := .field e.1 "row" e.2

lemma readAll?_copies (e : String × String) (m : Fields String) :
    ∃ ts, tokens ((", ".intercalate ((e :: m).map fieldCopy) ++ " \x7d))").toList) = some ts ∧
      Property.readAll? ts = some ((e :: m).map copy, [.mark .parenClose, .mark .parenClose]) := by
  induction m generalizing e with
  | nil =>
    have hend : tokens " \x7d))".toList =
        some [.mark .braceClose, .mark .parenClose, .mark .parenClose] := by
      simp [List.dropPrefix?, isIdentifierChar]
    rw [List.map_singleton, String.intercalate_singleton, String.toList_append, tokens_fieldCopy,
      hend]
    exact ⟨_, rfl, rfl⟩
  | cons e' m ih =>
    obtain ⟨ts, hts, hread⟩ := ih e'
    have hcomma : ∀ cs, tokens (", ".toList ++ cs) = (tokens cs).map (.mark .comma :: ·) := by
      simp [List.dropPrefix?, isIdentifierChar]
    rw [List.map_cons, List.map_cons, String.intercalate_cons_cons, ← List.map_cons,
      String.append_assoc, String.append_assoc, String.toList_append, tokens_fieldCopy,
      String.toList_append, hcomma, hts]
    refine ⟨_, rfl, ?_⟩
    change (Property.readAll? ts).map _ = _
    rw [hread]
    rfl

/-- The script that renames fields, as it is read. -/
def script (m : Fields String) : RowScript :=
  if m.isEmpty then .same else .build "row" (.spread "row" :: m.map copy)

lemma read?_transform (f : DataFetch) :
    RowScript.read? f.transform = some (script (f.mapping.getD [])) := by
  have hopen : ∀ cs, tokens (".map((row) => (\x7b ...row, ".toList ++ cs) =
      (tokens cs).map ([.mark .dot, .name "map", .mark .parenOpen, .mark .parenOpen, .name "row",
        .mark .parenClose, .mark .arrow, .mark .parenOpen, .mark .braceOpen, .mark .ellipsis,
        .name "row", .mark .comma] ++ ·) := fun cs => by
    simp [List.dropPrefix?, isIdentifierChar, Function.comp_def]
  cases hm : f.mapping with
  | none => simp [transform, hm, RowScript.read?, RowScript.ofTokens?, script]
  | some m =>
    cases m with
    | nil => simp [transform, hm, RowScript.read?, RowScript.ofTokens?, script]
    | cons e m =>
      obtain ⟨ts, hts, hread⟩ := readAll?_copies e m
      simp only [transform, hm]
      rw [RowScript.read?, String.append_assoc, String.toList_append, hopen, hts, Option.map_some,
        Option.bind_some]
      simp only [List.cons_append, List.nil_append, RowScript.ofTokens?, Property.readAll?, hread]
      rfl

end

/-! ### The object that is built -/

/-- The fields that are written over the copy of a row. -/
def written (row : Fields Json) (m : Fields String) : Fields Value :=
  (m.eraseAll ["__proto__"]).mapValues (Value.member row)

lemma foldlM_copy (row : Fields Json) (m : Fields String) (object : Fields Value) :
    (m.map copy).foldlM (Property.add? "row" row) object =
      some (object.merge (written row m)) := by
  induction m generalizing object with
  | nil => rfl
  | cons e m ih =>
    obtain ⟨k, s⟩ := e
    rw [List.map_cons, List.foldlM_cons, copy, Property.add?, if_pos rfl, Option.bind_eq_bind,
      Option.bind_some, ih]
    by_cases hk : k = "__proto__" <;>
      simp [hk, written, Fields.eraseAll, Fields.mapValues, Fields.merge]

lemma run_script (hrow : row.keys.Nodup) (hm : mapping.keys.Nodup) :
    ∃ object, (script mapping).run row = some object ∧ ∀ key, object.get? key =
      ((written row mapping).get? key).or ((row.get? key).map .json) := by
  have hcopy : ∀ key, ((row.mapValues Value.json).get? key) = (row.get? key).map .json :=
    Fields.get?_mapValues Value.json row
  have hwritten : (written row mapping).keys.Nodup := by
    rw [written, Fields.keys_mapValues]
    exact hm.sublist (List.filter_sublist.map Prod.fst)
  cases mapping with
  | nil => exact ⟨_, rfl, hcopy⟩
  | cons e m =>
    refine ⟨_, foldlM_copy row (e :: m) _, fun key => ?_⟩
    rw [Fields.get?_merge_of_nodup hwritten, Fields.get?_merge_of_nodup (by simpa using hrow), hcopy,
      Fields.get?_nil, Option.or_none]

lemma applyMapping_obj {m : Option (Fields String)} (row : Fields Json)
    (hm : (m.getD []).keys.Nodup) :
    ∃ mapped, applyMapping (.obj row) m = .obj mapped ∧ ∀ key, Fields.get? mapped key =
      (((m.getD []).get? key).map fun s => (row.get? s).getD .null).or
        (if key ∈ (m.getD []).map Prod.snd then none else row.get? key) := by
  match m with
  | none | some [] => exact ⟨row, rfl, fun _ => rfl⟩
  | some (e :: m) =>
    have htop : ((Fields.mapValues (fun s => (row.get? s).getD .null) (e :: m))).keys.Nodup := by
      rw [Fields.keys_mapValues]
      exact hm
    refine ⟨_, rfl, fun key => ?_⟩
    rw [← Fields.get?_eraseAll, ← Fields.get?_mapValues]
    exact Fields.get?_merge_of_nodup htop

/-! ### Agreement -/

/-- What has to hold of a row for its renamed fields to be the same after fetching. -/
structure SameFetched (row : Fields Json) (mapping : Fields String) : Prop where
  /-- A source field under whose name nothing is displayed has no value. -/
  gone : ∀ e ∈ mapping, e.2 ∉ mapping.keys → Value.present? (row.mapValues .json) e.2 = none
  /-- A source field with the name of something that each object has is a field of the row. -/
  own : ∀ e ∈ mapping, e.1 ≠ "__proto__" → e.2 ∈ Value.prototypeNames → row.has e.2 = true
  /-- The field that cannot be written has the value that it would be given. -/
  proto : ∀ e ∈ mapping, e.1 = "__proto__" →
    Value.present? (row.mapValues .json) e.1 = Value.present? (row.mapValues .json) e.2

lemma present?_mapValues (row : Fields Json) (key : String) :
    Value.present? (row.mapValues .json) key =
      (some (Value.json ((row.get? key).getD .null))).filter Value.isPresent := by
  rw [Value.present?, Fields.get?_mapValues]
  cases row.get? key <;> rfl

/-- A field is read as it stands at hand, unless each object has something of its name. -/
lemma filter_member_iff (row : Fields Json) (source : String) :
    (some (Value.member row source)).filter Value.isPresent =
        Value.present? (row.mapValues .json) source ↔
      (source ∈ Value.prototypeNames → row.has source = true) := by
  rw [present?_mapValues, Value.member, Fields.has]
  cases row.get? source with
  | some j => simp
  | none =>
    by_cases hs : source ∈ Value.prototypeNames <;> simp [hs, Option.filter, Value.isPresent]

lemma get?_written (row : Fields Json) (m : Fields String) (key : String) :
    (written row m).get? key =
      if key = "__proto__" then none else (m.get? key).map (Value.member row) := by
  rw [written, Fields.get?_mapValues, Fields.get?_eraseAll]
  by_cases hkey : key = "__proto__" <;> simp [hkey]

section
variable {object : Fields Value} {mapped : Fields Json} {key source : String}
  (hobject : ∀ key, object.get? key =
    ((written row mapping).get? key).or ((row.get? key).map .json))
  (hmapped : ∀ key, Fields.get? mapped key =
    ((mapping.get? key).map fun s => (row.get? s).getD .null).or
      (if key ∈ mapping.map Prod.snd then none else row.get? key))
include hobject hmapped

/-- At a display key. -/
lemma present?_eq_iff_of_get? (hkey : mapping.get? key = some source) :
    Value.present? object key = Value.present? (Fields.mapValues .json mapped) key ↔
      if key = "__proto__" then
        Value.present? (row.mapValues .json) key = Value.present? (row.mapValues .json) source
      else source ∈ Value.prototypeNames → row.has source = true := by
  have hright : Value.present? (Fields.mapValues .json mapped) key =
      Value.present? (row.mapValues .json) source := by
    rw [present?_mapValues, present?_mapValues, hmapped, hkey]
    rfl
  rw [hright, Value.present?, hobject, get?_written, hkey]
  split
  · rw [Option.none_or, ← Fields.get?_mapValues]
    rfl
  · exact filter_member_iff row source

/-- At a key that nothing is displayed under. -/
lemma present?_eq_iff_of_notMem (hkey : key ∉ mapping.keys) :
    Value.present? object key = Value.present? (Fields.mapValues .json mapped) key ↔
      (key ∈ mapping.map Prod.snd → Value.present? (row.mapValues .json) key = none) := by
  have hnone := Fields.get?_eq_none hkey
  have hleft : Value.present? object key = Value.present? (row.mapValues .json) key := by
    rw [Value.present?, Value.present?, hobject, get?_written, hnone, Option.map_none, ite_self,
      Option.none_or, Fields.get?_mapValues]
  rw [hleft, present?_mapValues mapped, hmapped, hnone, Option.map_none, Option.none_or]
  split
  · next hsource => simp [hsource, Option.filter, Value.isPresent]
  · next hsource => simp [hsource, present?_mapValues]

end

/-- The script for fetched rows is a script that builds an object from a row. The object has the same
keys with values as the row at hand, with equal values, exactly if no source field is left over, each
inherited name is a field of the row and the name of the prototype is not given another value. -/
theorem transform_agrees_iff (f : DataFetch) (row : Fields Json) (hrow : row.keys.Nodup)
    (hmapping : ∀ m, f.mapping = some m → m.keys.Nodup) :
    ∃ script object mapped, RowScript.read? f.transform = some script ∧
      script.run row = some object ∧ applyMapping (.obj row) f.mapping = .obj mapped ∧
      ((∀ key, Value.present? object key =
          Value.present? (Fields.mapValues .json mapped) key) ↔
        SameFetched row (f.mapping.getD [])) := by
  have hm : (f.mapping.getD []).keys.Nodup := by
    cases h : f.mapping with
    | none => exact List.nodup_nil
    | some m => exact hmapping m h
  obtain ⟨object, hrun, hobject⟩ := run_script hrow hm
  obtain ⟨mapped, happly, hmapped⟩ := applyMapping_obj row hm
  refine ⟨_, object, mapped, read?_transform f, hrun, happly, ?_⟩
  have hdisplayed := fun (e : String × String) he =>
    present?_eq_iff_of_get? hobject hmapped (Fields.get?_of_mem (k := e.1) (v := e.2) hm he)
  constructor
  · intro h
    refine ⟨fun e he hnot => ?_, fun e he hne hin => ?_, fun e he heq => ?_⟩
    · exact (present?_eq_iff_of_notMem hobject hmapped hnot).1 (h e.2) (List.mem_map_of_mem he)
    · have hown := (hdisplayed e he).1 (h e.1)
      rw [if_neg hne] at hown
      exact hown hin
    · have hproto := (hdisplayed e he).1 (h e.1)
      rwa [if_pos heq] at hproto
  · intro h key
    by_cases hkey : key ∈ (f.mapping.getD []).keys
    · obtain ⟨e, he, rfl⟩ := List.mem_map.1 hkey
      refine (hdisplayed e he).2 ?_
      split
      · next heq => exact h.proto e he heq
      · next hne => exact h.own e he hne
    · refine (present?_eq_iff_of_notMem hobject hmapped hkey).2 fun hsource => ?_
      obtain ⟨e, he, rfl⟩ := List.mem_map.1 hsource
      exact h.gone e he hkey

/-- Users by their full name. -/
def users : DataFetch := ⟨"users", "/users", some [("name", "full")]⟩

/-- A fetched user has the full name twice, unless there is none. -/
theorem transform_agrees_iff_users :
    (∃ script object mapped, RowScript.read? users.transform = some script ∧
      script.run [("full", .str "Ada")] = some object ∧
      applyMapping (.obj [("full", .str "Ada")]) users.mapping = .obj mapped ∧
      ¬ ∀ key, Value.present? object key = Value.present? (Fields.mapValues .json mapped) key) ∧
    ∃ script object mapped, RowScript.read? users.transform = some script ∧
      script.run [("id", .int 7)] = some object ∧
      applyMapping (.obj [("id", .int 7)]) users.mapping = .obj mapped ∧
      ∀ key, Value.present? object key = Value.present? (Fields.mapValues .json mapped) key := by
  have hmapping : ∀ m, users.mapping = some m → m.keys.Nodup := by
    rintro m ⟨⟩
    decide
  have hagrees := fun row hrow => transform_agrees_iff users row hrow hmapping
  constructor
  · obtain ⟨script, object, mapped, hread, hrun, happly, hiff⟩ :=
      hagrees [("full", .str "Ada")] (by decide)
    refine ⟨script, object, mapped, hread, hrun, happly, fun h => ?_⟩
    have hgone := (hiff.1 h).gone ("name", "full") List.mem_cons_self (by decide)
    cases hgone
  · obtain ⟨script, object, mapped, hread, hrun, happly, hiff⟩ :=
      hagrees [("id", .int 7)] (by decide)
    refine ⟨script, object, mapped, hread, hrun, happly, hiff.2 ⟨?_, ?_, ?_⟩⟩
    · intro e he _
      obtain rfl := List.mem_singleton.1 he
      rfl
    · intro e he _ hin
      obtain rfl := List.mem_singleton.1 he
      exact absurd hin (by decide)
    · intro e he hproto
      obtain rfl := List.mem_singleton.1 he
      exact absurd hproto (by decide)

end DataFetch
end Screenwright.Emit
