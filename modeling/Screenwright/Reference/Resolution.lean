import Screenwright.Document.Tree
import Screenwright.Reference.Expansion

/-! Resolution: every reference of a tree is replaced by its expansion, which is resolved in turn. A
reference without an expansion stays and is marked. -/
namespace Screenwright

/-- Why a reference has no expansion. -/
inductive Obstacle where
  | missing
  | circular
  | invalid
  deriving DecidableEq, Repr

def Obstacle.name : Obstacle → String
  | missing => "missing"
  | circular => "circular"
  | invalid => "invalid"

namespace Node

def isReference (n : Node) : Bool := n.type == referenceType

/-- The definition that a reference names. -/
def target? (n : Node) : Option String :=
  if n.isReference then referenceTarget? n.props else none

/-- A reference with the reason why it stays among its props. -/
def marked (n : Node) (o : Obstacle) : Node :=
  n.mapHead fun e => { e with props := Fields.set e.props "unresolved" (.str o.name) }

mutual

/-- A tree in which the outermost references are replaced. -/
def mapReferences (f : Node → Node) : Node → Node
  | leaf e => if e.type = referenceType then f (leaf e) else leaf e
  | branch e cs =>
    if e.type = referenceType then f (branch e cs) else branch e (mapReferencesOf f cs)

def mapReferencesOf (f : Node → Node) : List Node → List Node
  | [] => []
  | c :: cs => mapReferences f c :: mapReferencesOf f cs

end

/-- What stands in place of a reference while the definitions `active` are being expanded; `next`
resolves an expansion and is absent where expansions are nested too deep. -/
def replacement (registry : Registry) (active : List String)
    (next : Option (List String → Node → Node)) (ref : Node) : Node :=
  match referenceTarget? ref.props with
  | none => ref
  | some id =>
    match registry.get? id with
    | none => ref.marked .missing
    | some d =>
      if active.contains id then ref.marked .circular
      else match next with
        | none => ref.marked .circular
        | some next =>
          match ref.expansion? d with
          | none => ref.marked .invalid
          | some tree => next (id :: active) tree

/-- Resolution with at most `depth` expansions inside one another. -/
def resolveWithin (registry : Registry) : Nat → List String → Node → Node
  | 0, active => mapReferences (replacement registry active none)
  | depth + 1, active =>
    mapReferences (replacement registry active (some (resolveWithin registry depth)))

/-- How many expansions may be inside one another. -/
def maxExpansionDepth : Nat := 32

/-- The tree with its references expanded. -/
def resolve (registry : Registry) (tree : Node) : Node :=
  resolveWithin registry maxExpansionDepth [] tree

mutual

/-- Whether resolution has nothing to do: no outermost reference has a target. -/
def isSettled : Node → Bool
  | leaf e => (leaf e).target?.isNone
  | branch e cs => (branch e cs).target?.isNone && (e.type == referenceType || allSettled cs)

def allSettled : List Node → Bool
  | [] => true
  | c :: cs => isSettled c && allSettled cs

end

/-- Whether a tree has a reference anywhere. -/
def hasReference (n : Node) : Bool := n.nodes.any isReference

/-- Whether the root is a reference that resolution expands. -/
def isExpandable (registry : Registry) (n : Node) : Bool :=
  match n.target?.bind registry.get? with
  | some d => (n.expansion? d).isSome
  | none => false

/-- For each child of the resolved tree beside a child of the tree, whether resolution kept it;
absent when one of the trees has no list of children. -/
def keptChildren (registry : Registry) (n : Node) : Option (List Bool) := do
  let before ← n.children?
  let after ← (n.resolve registry).children?
  pure ((before.zip after).map fun e =>
    !n.isExpandable registry && (n.isReference || e.1.isSettled))

end Node
end Screenwright
