/-! A bounded history: the snapshots before the current state and those that were undone. -/
namespace Screenwright

/-- Snapshots around a current state. At most `limit` of them precede it, the oldest ones being
given up. -/
structure History (α : Type) where
  limit : Nat
  /-- The snapshots to return to, the latest first. -/
  past : List α
  /-- The undone snapshots, the nearest first. -/
  future : List α
  deriving DecidableEq, Repr

/-- A limit that leaves no room for a snapshot. -/
structure NoRoom where

def NoRoom.message (_ : NoRoom) : String := "history limit must be at least 1"

namespace History
variable {α : Type}

def defaultLimit : Nat := 50

def empty (limit : Nat) : History α := ⟨limit, [], []⟩

/-- An empty history with room for at least one snapshot. -/
def create (limit : Int) : Except NoRoom (History α) :=
  if limit < 1 then .error ⟨⟩ else .ok (empty limit.toNat)

/-- Puts a snapshot in front of the past. -/
def remember (h : History α) (snapshot : α) : List α := (snapshot :: h.past).take h.limit

/-- Keeps the state before a change; nothing can be redone after it. -/
def record (h : History α) (current : α) : History α :=
  { h with past := h.remember current, future := [] }

/-- The state before the current one. -/
def undo? (h : History α) (current : α) : Option (α × History α) :=
  match h.past with
  | [] => none
  | s :: past => some (s, { h with past := past, future := current :: h.future })

/-- The state that was undone last. -/
def redo? (h : History α) (current : α) : Option (α × History α) :=
  match h.future with
  | [] => none
  | s :: future => some (s, { h with past := h.remember current, future := future })

def clear (h : History α) : History α := empty h.limit

def canUndo (h : History α) : Bool := !h.past.isEmpty

def canRedo (h : History α) : Bool := !h.future.isEmpty

def undoDepth (h : History α) : Nat := h.past.length

def redoDepth (h : History α) : Nat := h.future.length

end History
end Screenwright
