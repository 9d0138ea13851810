import Screenwright.Record.Fault

/-! Issues: violated constraints with the places at which they were found. -/
namespace Screenwright

/-- One violated constraint, at a path such as `tree.children[0].props.level`. -/
structure Issue where
  path : String
  message : String
  deriving DecidableEq, Repr

/-- An issue on one line. -/
def Issue.line (i : Issue) : String := i.path ++ ": " ++ i.message

/-- The issue of a record fault below a path. -/
def Issue.ofFault (root : String) (f : RecordFault) : Issue :=
  ⟨Place.path root f.place, f.kind.message⟩

end Screenwright
