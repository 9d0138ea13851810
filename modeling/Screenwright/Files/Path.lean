/-! Paths as texts write them: an anchor and names. Repeated slashes and single dots have no meaning
and are left out; double dots stay until a path is resolved. -/
namespace Screenwright

/-- Where a path starts. Exactly two slashes in front are an anchor of their own. -/
inductive Anchor where
  | relative
  | root
  | doubleRoot
  deriving DecidableEq, Repr

def Anchor.text : Anchor → String
  | relative => ""
  | root => "/"
  | doubleRoot => "//"

structure Path where
  anchor : Anchor
  parts : List String
  deriving DecidableEq, Repr

namespace Path

/-- The names between slashes that say where to go. -/
def partsOf (cs : List Char) : List String :=
  ((cs.splitOn '/').map String.ofList).filter fun p => p != "" && p != "."

def ofText (s : String) : Path :=
  let cs := s.toList
  let slashes := (cs.takeWhile (· == '/')).length
  let anchor := if slashes = 0 then .relative else if slashes = 2 then .doubleRoot else .root
  ⟨anchor, partsOf cs⟩

/-- The text of a path; one that leads nowhere is a dot. -/
def toText (p : Path) : String :=
  match p.anchor, p.parts with
  | .relative, [] => "."
  | anchor, parts => anchor.text ++ "/".intercalate parts

def isAbsolute (p : Path) : Bool := p.anchor != .relative

/-- The second path seen from the first; an absolute one stands for itself. -/
def join (p q : Path) : Path := if q.isAbsolute then q else ⟨p.anchor, p.parts ++ q.parts⟩

/-- A path and a name below it. -/
def child (p : Path) (name : String) : Path := ⟨p.anchor, p.parts ++ [name]⟩

def name (p : Path) : String := p.parts.getLast?.getD ""

def parent (p : Path) : Path := ⟨p.anchor, p.parts.dropLast⟩

/-- The paths on the way to a path, itself last. -/
def ancestors (p : Path) : List Path :=
  (List.range p.parts.length).map fun n => ⟨p.anchor, p.parts.take (n + 1)⟩

/-- Follows names from a place, double dots leading one level up. -/
def follow (place : List String) (parts : List String) : List String :=
  parts.foldl (fun place part => if part = ".." then place.dropLast else place ++ [part]) place

/-- The absolute path without double dots that a path means at a place. -/
def resolve (place p : Path) : Path := ⟨.root, follow [] (place.join p).parts⟩

/-- What leads from the first path to the second, if the second lies in it. -/
def relativeTo? (p base : Path) : Option Path :=
  if p.anchor = base.anchor ∧ base.parts.isPrefixOf p.parts then
    some ⟨.relative, p.parts.drop base.parts.length⟩
  else none

/-- The text of a path for a reader at a place: relative where it lies in it. -/
def shownFrom (p base : Path) : String := ((p.relativeTo? base).getD p).toText

end Path
end Screenwright
