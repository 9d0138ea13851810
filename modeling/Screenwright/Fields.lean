/-! Fields in the order in which they were first set: lists of keys with values, where setting a
key again changes its value and keeps its place. -/
namespace Screenwright

/-- Named values in order; the first entry of a key counts. -/
abbrev Fields (α : Type _) := List (String × α)

namespace Fields
variable {α β : Type _}

def get? (fs : Fields α) (key : String) : Option α := fs.lookup key

def has (fs : Fields α) (key : String) : Bool := (fs.get? key).isSome

def keys (fs : Fields α) : List String := fs.map Prod.fst

/-- Sets a key: in its place when present, at the end otherwise. -/
def set : Fields α → String → α → Fields α
  | [], k, v => [(k, v)]
  | (k', v') :: fs, k, v => if k' = k then (k, v) :: fs else (k', v') :: set fs k v

/-- Leaves a key out. -/
def erase (fs : Fields α) (key : String) : Fields α := fs.filter fun e => e.1 != key

/-- Leaves a list of keys out. -/
def eraseAll (fs : Fields α) (ks : List String) : Fields α := fs.filter fun e => !ks.contains e.1

/-- Sets every entry of the second list in the first, in order. -/
def merge (fs gs : Fields α) : Fields α := gs.foldl (fun acc e => acc.set e.1 e.2) fs

/-- Fields from entries in which a key may repeat: the last value stands at the first place. -/
def ofEntries (es : List (String × α)) : Fields α := merge [] es

def mapValues (f : α → β) (fs : Fields α) : Fields β := fs.map fun e => (e.1, f e.2)

@[simp] theorem get?_nil (k : String) : get? ([] : Fields α) k = none := rfl

@[simp] theorem get?_cons (k' k : String) (v : α) (fs : Fields α) :
    get? ((k', v) :: fs) k = if k = k' then some v else get? fs k := by
  by_cases h : k = k'
  · simp [get?, h]
  · have : (k == k') = false := by simpa using h
    simp [get?, List.lookup_cons, this, h]

theorem get?_set (fs : Fields α) (k : String) (v : α) (k' : String) :
    (fs.set k v).get? k' = if k' = k then some v else fs.get? k' := by
  induction fs with
  | nil => simp [set]
  | cons e fs ih =>
    obtain ⟨a, b⟩ := e
    by_cases h : a = k <;> by_cases h' : k' = a <;> simp_all [set]

end Fields
end Screenwright
