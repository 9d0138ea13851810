import Mathlib.Data.List.Basic
import Screenwright.Proofs.Record.Reading
import Screenwright.Validation.Schema

/-! The parts of JSON values: nesting decreases towards them, and objects with distinct keys. -/
namespace Screenwright

namespace Schema

lemma depth_le_depthItems {x : Json} {xs : List Json} (h : x ∈ xs) : depth x ≤ depthItems xs := by
  induction xs with
  | nil => cases h
  | cons y ys ih =>
    rcases List.mem_cons.1 h with rfl | h
    · exact Nat.le_max_left _ _
    · exact Nat.le_trans (ih h) (Nat.le_max_right _ _)

lemma depth_le_depthFields {e : String × Json} {fs : Fields Json} (h : e ∈ fs) :
    depth e.2 ≤ depthFields fs := by
  induction fs with
  | nil => cases h
  | cons f fs ih =>
    rcases List.mem_cons.1 h with rfl | h
    · exact Nat.le_max_left _ _
    · exact Nat.le_trans (ih h) (Nat.le_max_right _ _)

lemma depth_lt_of_mem_items {x : Json} {xs : List Json} (h : x ∈ xs) :
    depth x < depth (.arr xs) :=
  Nat.lt_succ_of_le (depth_le_depthItems h)

lemma depth_lt_of_mem_fields {e : String × Json} {fs : Fields Json} (h : e ∈ fs) :
    depth e.2 < depth (.obj fs) :=
  Nat.lt_succ_of_le (depth_le_depthFields h)

lemma depth_lt_of_get? {k : String} {v : Json} {fs : Fields Json} (h : fs.get? k = some v) :
    depth v < depth (.obj fs) :=
  depth_lt_of_mem_fields (Fields.mem_of_get? h)

end Schema

namespace Json

mutual

/-- Whether every object in a value has each key once. -/
def hasDistinctKeys : Json → Bool
  | .arr xs => itemsHaveDistinctKeys xs
  | .obj fs => decide (Fields.keys fs).Nodup && fieldsHaveDistinctKeys fs
  | _ => true

def itemsHaveDistinctKeys : List Json → Bool
  | [] => true
  | x :: xs => hasDistinctKeys x && itemsHaveDistinctKeys xs

def fieldsHaveDistinctKeys : List (String × Json) → Bool
  | [] => true
  | (_, v) :: fs => hasDistinctKeys v && fieldsHaveDistinctKeys fs

end

lemma hasDistinctKeys_arr {xs : List Json} :
    (Json.arr xs).hasDistinctKeys = true ↔ ∀ x ∈ xs, x.hasDistinctKeys = true := by
  rw [hasDistinctKeys]
  induction xs with
  | nil => simp [itemsHaveDistinctKeys]
  | cons x xs ih => simp [itemsHaveDistinctKeys, ih]

lemma fieldsHaveDistinctKeys_iff {fs : Fields Json} :
    fieldsHaveDistinctKeys fs = true ↔ ∀ e ∈ fs, e.2.hasDistinctKeys = true := by
  induction fs with
  | nil => simp [fieldsHaveDistinctKeys]
  | cons e fs ih => simp [fieldsHaveDistinctKeys, ih]

lemma hasDistinctKeys_obj {fs : Fields Json} :
    (Json.obj fs).hasDistinctKeys = true ↔
      (Fields.keys fs).Nodup ∧ ∀ e ∈ fs, e.2.hasDistinctKeys = true := by
  rw [hasDistinctKeys, Bool.and_eq_true, decide_eq_true_iff, fieldsHaveDistinctKeys_iff]

lemma hasDistinctKeys_of_get? {fs : Fields Json} {k : String} {v : Json}
    (h : (Json.obj fs).hasDistinctKeys = true) (hv : fs.get? k = some v) :
    v.hasDistinctKeys = true :=
  (hasDistinctKeys_obj.1 h).2 _ (Fields.mem_of_get? hv)

end Json
end Screenwright
