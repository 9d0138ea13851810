import Mathlib.Data.List.Basic
import Screenwright.Record.Decoded

/-! Which values are read without a fault, reader by reader. -/
namespace Screenwright

namespace Fields
variable {α : Type _} {fs : Fields α} {k : String} {v : α}

lemma has_eq_true_iff : fs.has k = true ↔ ∃ e ∈ fs, e.1 = k := by
  induction fs with
  | nil => simp [has]
  | cons e fs ih =>
    obtain ⟨k', v⟩ := e
    by_cases hk : k = k'
    · simp [has, hk]
    · simpa [has, hk, Ne.symm hk] using ih

lemma has_of_get? (h : fs.get? k = some v) :
    fs.has k = true := by
  simp [has, h]

lemma mem_of_get? (h : fs.get? k = some v) : (k, v) ∈ fs := by
  induction fs with
  | nil => simp at h
  | cons e fs ih =>
    obtain ⟨k', v'⟩ := e
    by_cases hk : k = k'
    · subst hk
      obtain rfl : v' = v := by simpa using h
      exact List.mem_cons_self
    · exact List.mem_cons_of_mem _ (ih (by simpa [hk] using h))

/-- With each key once, an entry is what its key gives. -/
lemma get?_of_mem (hkeys : fs.keys.Nodup) (h : (k, v) ∈ fs) : fs.get? k = some v := by
  induction fs with
  | nil => cases h
  | cons e fs ih =>
    obtain ⟨k', v'⟩ := e
    obtain ⟨hnot, hrest⟩ := List.nodup_cons.1 hkeys
    rcases List.mem_cons.1 h with heq | h
    · cases heq
      simp
    · have hmem : k ∈ keys fs := List.mem_map_of_mem h
      have hne : k ≠ k' := fun hk => hnot (hk ▸ hmem)
      simpa [hne] using ih hrest h

end Fields

namespace Decoded
variable {α β : Type}

@[simp] lemma faults_ok (a : α) : (ok a).faults = [] := rfl

@[simp] lemma faults_bad (es : List RecordFault) : (bad es : Decoded α).faults = es := rfl

@[simp] lemma faults_fault (kind : FaultKind) :
    (fault kind : Decoded α).faults = [⟨[], kind⟩] := rfl

@[simp] lemma faults_map (f : α → β) (x : Decoded α) : (f <$> x).faults = x.faults := by
  cases x <;> rfl

@[simp] lemma faults_seq (f : Decoded (α → β)) (x : Decoded α) :
    (f <*> x).faults = f.faults ++ x.faults := by
  cases f <;> cases x <;> first | rfl | exact (List.append_nil _).symm

@[simp] lemma faults_under_eq_nil (p : Place) (x : Decoded α) :
    (x.under p).faults = [] ↔ x.faults = [] := by
  cases x <;> simp [under]

@[simp] lemma faults_keepUnless (x : Decoded α) (more : List RecordFault) :
    (x.keepUnless more).faults = x.faults ++ more := by
  cases x <;> cases more <;> simp [keepUnless]

lemma map_eq_ok {f : α → β} {x : Decoded α} {b : β} : f <$> x = ok b ↔ ∃ a, x = ok a ∧ f a = b := by
  constructor
  · cases x <;> intro h <;> cases h
    exact ⟨_, rfl, rfl⟩
  · rintro ⟨a, rfl, rfl⟩
    rfl

lemma seq_eq_ok {f : Decoded (α → β)} {x : Decoded α} {b : β} :
    f <*> x = ok b ↔ ∃ g a, f = ok g ∧ x = ok a ∧ g a = b := by
  constructor
  · cases f <;> cases x <;> intro h <;> cases h
    exact ⟨_, _, rfl, rfl, rfl⟩
  · rintro ⟨g, a, rfl, rfl, rfl⟩
    rfl

lemma under_eq_ok {p : Place} {x : Decoded α} {a : α} : x.under p = ok a ↔ x = ok a := by
  cases x <;> simp [under]

lemma toOption_eq_some {x : Decoded α} {a : α} : x.toOption = some a ↔ x = ok a := by
  cases x <;> simp [toOption]

end Decoded

namespace Decode
variable {α β : Type} {decode : Json → Decoded α} {fs : Fields Json} {v : Json}

/-- A value that is read without a fault. -/
def Reads (decode : Json → Decoded α) (v : Json) : Prop := (decode v).faults = []

@[simp] lemma reads_text : Reads text v ↔ ∃ s, v = .str s := by
  cases v <;> simp [Reads, text]

@[simp] lemma reads_object : Reads object v ↔ ∃ fs, v = .obj fs := by
  cases v <;> simp [Reads, object]

@[simp] lemma reads_any : Reads any v := rfl

@[simp] lemma reads_oneOf {allowed : List String} :
    Reads (oneOf allowed) v ↔ ∃ s ∈ allowed, v = .str s := by
  cases v with
  | str s =>
    rw [Reads, oneOf]
    split <;> simp_all
  | _ => simp [Reads, oneOf]

@[simp] lemma reads_named {all : List β} {name : β → String} :
    Reads (named all name) v ↔ ∃ s ∈ all.map name, v = .str s := by
  cases v with
  | str s =>
    rw [Reads, named]
    split
    · rename_i a ha
      have hmem := List.mem_of_find?_eq_some ha
      have hname : name a = s := by simpa using List.find?_some ha
      simpa using ⟨a, hmem, hname⟩
    · rename_i hnone
      simpa using List.find?_eq_none.1 hnone
  | _ => simp [Reads, named]

@[simp] lemma reads_nullable : Reads (nullable decode) v ↔ v = .null ∨ Reads decode v := by
  cases v <;> simp [Reads, nullable]

lemma faults_list_eq_nil (i : Nat) (xs : List Json) :
    (Decoded.list decode i xs).faults = [] ↔ ∀ x ∈ xs, Reads decode x := by
  induction xs generalizing i with
  | nil => simp [Decoded.list]
  | cons x xs ih => simp [Decoded.list, ih, Reads]

lemma faults_entries_eq_nil (fs : Fields Json) :
    (Decoded.entries decode fs).faults = [] ↔ ∀ e ∈ fs, Reads decode e.2 := by
  induction fs with
  | nil => simp [Decoded.entries]
  | cons e fs ih => simp [Decoded.entries, ih, Reads]

@[simp] lemma reads_listOf :
    Reads (listOf decode) v ↔ ∃ xs, v = .arr xs ∧ ∀ x ∈ xs, Reads decode x := by
  cases v <;> simp [Reads, listOf, faults_list_eq_nil]

@[simp] lemma reads_dictOf :
    Reads (dictOf decode) v ↔ ∃ fs, v = .obj fs ∧ ∀ e ∈ fs, Reads decode e.2 := by
  cases v <;> simp [Reads, dictOf, faults_entries_eq_nil]

@[simp] lemma reads_record {name : String} {read : Fields Json → Decoded α} :
    Reads (record name read) v ↔ ∃ fs, v = .obj fs ∧ (read fs).faults = [] := by
  cases v <;> simp [Reads, record]

@[simp] lemma reads_within {room : Nat} :
    Reads (within room decode) v ↔ 0 < room ∧ Reads decode v := by
  cases room <;> simp [Reads, within]

/-! ### Fields of records -/

@[simp] lemma faults_fieldOr_eq_nil {name : String} {default : α} :
    (fieldOr fs name default decode).faults = [] ↔
      ∀ v, fs.get? (keyOf fs name) = some v → Reads decode v := by
  rw [fieldOr]
  cases fs.get? (keyOf fs name) <;> simp [Reads]

@[simp] lemma faults_required_eq_nil {name : String} :
    (required fs name decode).faults = [] ↔
      ∃ v, fs.get? (keyOf fs name) = some v ∧ Reads decode v := by
  rw [required]
  cases fs.get? (keyOf fs name) <;> simp [Reads]

@[simp] lemma faults_optional_eq_nil {name : String} :
    (optional fs name decode).faults = [] ↔
      ∀ v, fs.get? (keyOf fs name) = some v → v = .null ∨ Reads decode v := by
  simp [optional]

@[simp] lemma faults_closed_eq_nil {names : List String} {x : Decoded α} :
    (closed names fs x).faults = [] ↔
      x.faults = [] ∧ ∀ e ∈ fs, ∃ name ∈ names, keyOf fs name = e.1 := by
  simp [closed, unknown]

/-! ### The two spellings of a field name -/

/-- A name with one spelling is the key of its field. -/
lemma keyOf_of_snakeName (fs : Fields Json) {name : String} (h : snakeName name = name) :
    keyOf fs name = name := by
  rw [keyOf, h, ite_self]

lemma keys_iff_of_snakeName (fs : Fields Json) {names : List String}
    (h : ∀ name ∈ names, snakeName name = name) :
    (∀ e ∈ fs, ∃ name ∈ names, keyOf fs name = e.1) ↔ ∀ e ∈ fs, e.1 ∈ names := by
  refine forall₂_congr fun e _ => ⟨?_, fun he => ⟨e.1, he, keyOf_of_snakeName fs (h e.1 he)⟩⟩
  rintro ⟨name, hname, hkey⟩
  rwa [← hkey, keyOf_of_snakeName fs (h name hname)]

/-- A record of names with one spelling. -/
lemma faults_closed_of_snakeName {names : List String} {x : Decoded α}
    (h : ∀ name ∈ names, snakeName name = name) :
    (closed names fs x).faults = [] ↔ (∀ e ∈ fs, e.1 ∈ names) ∧ x.faults = [] := by
  rw [faults_closed_eq_nil, keys_iff_of_snakeName fs h, and_comm]

lemma keyOf_of_has {name : String} (h : fs.has name = true) : keyOf fs name = name := if_pos h

/-- A field is read under its name, or else under the second spelling. -/
lemma forall_get?_keyOf {name : String} {p : Json → Prop} :
    (∀ w, fs.get? (keyOf fs name) = some w → p w) ↔
      (∀ w, fs.get? name = some w → p w) ∧
        (fs.has name = false → ∀ w, fs.get? (snakeName name) = some w → p w) := by
  rw [keyOf]
  cases hhas : fs.has name with
  | true => simp
  | false =>
    have hnone : fs.get? name = none := by simpa [Fields.has] using hhas
    simp [hnone]

/-- Each of the named fields that is there stands under its own name. -/
def Spelled (names : List String) (fs : Fields Json) : Prop :=
  ∀ name ∈ names, fs.has (keyOf fs name) = true → keyOf fs name = name

lemma get?_keyOf_of_spelled {names : List String} {name : String} (h : Spelled names fs)
    (hname : name ∈ names) : fs.get? (keyOf fs name) = fs.get? name := by
  by_cases hhas : fs.has (keyOf fs name) = true
  · rw [h name hname hhas]
  · have hnot : ¬ fs.has name = true := fun hown => hhas (by rwa [keyOf_of_has hown])
    rw [Fields.has, Option.not_isSome_iff_eq_none] at hhas hnot
    rw [hhas, hnot]

/-- Names of which none is the second spelling of another. -/
def Apart (names : List String) : Prop := ∀ a ∈ names, ∀ b ∈ names, snakeName a = b → a = b

/-- A second spelling has a low line where it differs from the name. -/
lemma snakeName_eq_self_or (name : String) :
    snakeName name = name ∨ '_' ∈ (snakeName name).toList := by
  by_cases hupper : ∃ c ∈ name.toList, c.isUpper = true
  · obtain ⟨c, hc, hup⟩ := hupper
    right
    rw [snakeName, String.toList_ofList, List.mem_flatMap]
    exact ⟨c, hc, by simp [hup]⟩
  · left
    have hkeep : ∀ c ∈ name.toList, (if c.isUpper then ['_', c.toLower] else [c]) = [c] := by
      intro c hc
      rw [if_neg fun hup => hupper ⟨c, hc, hup⟩]
    rw [snakeName, List.flatMap_congr hkeep, List.flatMap_singleton', String.ofList_toList]

lemma apart_of_noLowLine {names : List String} (h : ∀ name ∈ names, '_' ∉ name.toList) :
    Apart names := by
  intro a ha b hb hab
  rcases snakeName_eq_self_or a with hone | hlow
  · rw [← hab, hone]
  · rw [hab] at hlow
    exact absurd hlow (h b hb)

/-- The keys of a record are names of fields exactly when they are spellings of them and every field
stands under its own name. -/
lemma keys_iff_spelled {names : List String} (hapart : Apart names) :
    (∀ e ∈ fs, e.1 ∈ names) ↔
      (∀ e ∈ fs, ∃ name ∈ names, keyOf fs name = e.1) ∧ Spelled names fs := by
  have hhas : ∀ e ∈ fs, fs.has e.1 = true := fun e he => Fields.has_eq_true_iff.2 ⟨e, he, rfl⟩
  constructor
  · intro h
    refine ⟨fun e he => ⟨e.1, h e he, keyOf_of_has (hhas e he)⟩, fun name hname hkey => ?_⟩
    by_cases hown : fs.has name = true
    · exact keyOf_of_has hown
    · have hkeyOf : keyOf fs name = snakeName name := if_neg hown
      rw [hkeyOf] at hkey
      obtain ⟨e, he, hkey⟩ := Fields.has_eq_true_iff.1 hkey
      rw [hkeyOf, ← hkey]
      exact (hapart name hname e.1 (h e he) hkey.symm).symm
  · rintro ⟨hkeys, hspelled⟩ e he
    obtain ⟨name, hname, hkey⟩ := hkeys e he
    have hown : keyOf fs name = name := hspelled name hname (by rw [hkey]; exact hhas e he)
    rwa [← hkey, hown]

end Decode
end Screenwright
