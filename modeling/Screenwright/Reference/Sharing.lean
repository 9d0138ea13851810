import Screenwright.Reference.Resolution

/-! Sharing: which trees resolution hands back as they are, and what it builds for the others.
Nothing is built for a tree in which no reference has to be replaced. -/
namespace Screenwright.Node

mutual

/-- The tree that is built when `f` builds something for one of the outermost references. -/
def rebuilt? (f : Node → Option Node) : Node → Option Node
  | leaf e => if e.type = referenceType then f (leaf e) else none
  | branch e cs =>
    if e.type = referenceType then f (branch e cs) else (rebuiltOf? f cs).map (branch e)

/-- A list of trees in which those for which nothing is built stay. -/
def rebuiltOf? (f : Node → Option Node) : List Node → Option (List Node)
  | [] => none
  | c :: cs =>
    match rebuilt? f c, rebuiltOf? f cs with
    | none, none => none
    | built, others => some (built.getD c :: others.getD cs)

end

/-- What is built in place of a reference while the definitions `active` are being expanded; a
reference without a usable target is handed back. An expansion is always built, whatever is handed
back when it is resolved by `next`. -/
def builtReplacement? (registry : Registry) (active : List String)
    (next : Option (List String → Node → Option Node)) (ref : Node) : Option Node :=
  match referenceTarget? ref.props with
  | none => none
  | some id =>
    match registry.get? id with
    | none => some (ref.marked .missing)
    | some d =>
      if active.contains id then some (ref.marked .circular)
      else match next with
        | none => some (ref.marked .circular)
        | some next =>
          match ref.expansion? d with
          | none => some (ref.marked .invalid)
          | some tree => some ((next (id :: active) tree).getD tree)

/-- What resolution builds with at most `depth` expansions inside one another. -/
def builtWithin? (registry : Registry) : Nat → List String → Node → Option Node
  | 0, active => rebuilt? (builtReplacement? registry active none)
  | depth + 1, active =>
    rebuilt? (builtReplacement? registry active (some (builtWithin? registry depth)))

/-- What resolution builds for a tree; absent when the tree itself is handed back. -/
def built? (registry : Registry) (tree : Node) : Option Node :=
  builtWithin? registry maxExpansionDepth [] tree

end Screenwright.Node
