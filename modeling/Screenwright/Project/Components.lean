import Screenwright.Document.Component
import Screenwright.Project.LoadError

/-! Component definitions from documents, and their registry. -/
namespace Screenwright

namespace ComponentDef

/-- Reads definitions up to the first that is malformed. -/
def decodeAll (source : String) : List Json → Except LoadError (List ComponentDef)
  | [] => .ok []
  | j :: js =>
    match decode j with
    | .bad faults => .error (.invalidComponent source faults)
    | .ok d => (decodeAll source js).map (d :: ·)

/-- The definitions of a document, which has to be a list. -/
def ofDocument (source : String) : Json → Except LoadError (List ComponentDef)
  | .arr js => decodeAll source js
  | _ => .error (.componentsNotList source)

end ComponentDef

/-- Definitions by id. -/
abbrev Registry := Fields ComponentDef

/-- Definitions indexed by id; of two with one id the later counts. -/
def Registry.ofDefs (ds : List ComponentDef) : Registry :=
  Fields.ofEntries (ds.map fun d => (d.id, d))

end Screenwright
