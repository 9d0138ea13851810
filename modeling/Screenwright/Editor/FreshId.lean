import Screenwright.Document.Tree
import Screenwright.Text.Base36
import Screenwright.Text.LetterCase

/-! New ids for nodes, and copies of trees under new ids. -/
namespace Screenwright

/-- An id made from a kind of node, a time, and the number of the request for it. -/
def stampedId (kind : String) (millis count : Nat) : String :=
  kind ++ "_" ++ Text.base36 millis ++ s!"_{count}"

/-- Answers each request for an id, numbered from one, for a kind of node. -/
abbrev IdSource := Nat → String → String

/-- The source that stamps every request with the time of a clock. -/
def IdSource.clocked (millis : Nat → Nat) : IdSource :=
  fun count kind => stampedId kind (millis count) count

/-- The kind in an id when none is given. -/
def defaultIdKind : String := "node"

/-- A time in seconds as whole milliseconds. -/
def milliseconds : Json → Nat
  | .int n => (n * 1000).toNat
  | .float x => (((x.scale 1000 1).truncate?).getD 0).toNat
  | _ => 0

/-- The kind of a node in its id. -/
def Element.idKind (e : Element) : String := Text.lower e.type

namespace Node

mutual

/-- A copy of a tree with new ids in tree order, and the number of ids issued after it. -/
def withFreshIds (source : IdSource) (issued : Nat) : Node → Node × Nat
  | leaf e => (leaf { e with id := source (issued + 1) e.idKind }, issued + 1)
  | branch e cs =>
    let r := withFreshIdsOf source (issued + 1) cs
    (branch { e with id := source (issued + 1) e.idKind } r.1, r.2)

def withFreshIdsOf (source : IdSource) (issued : Nat) : List Node → List Node × Nat
  | [] => ([], issued)
  | c :: cs =>
    let r := withFreshIds source issued c
    let rs := withFreshIdsOf source r.2 cs
    (r.1 :: rs.1, rs.2)

end

end Node
end Screenwright
