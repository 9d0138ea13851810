import Screenwright.Document.Node

/-! Trees of nodes: traversal with paths, search by id, and taking nodes out of and into a tree. -/
namespace Screenwright

namespace Node

/-- The path of a child. -/
def childPath (path : String) (i : Nat) : String := s!"{path}.children[{i}]"

mutual

/-- Every node with its path, parents first and siblings in order. -/
def walk (path : String) : Node → List (Node × String)
  | leaf e => [(leaf e, path)]
  | branch e cs => (branch e cs, path) :: walkChildren path 0 cs

def walkChildren (path : String) (i : Nat) : List Node → List (Node × String)
  | [] => []
  | c :: cs => walk (childPath path i) c ++ walkChildren path (i + 1) cs

end

mutual

/-- Every node, parents first and siblings in order. -/
def nodes : Node → List Node
  | leaf e => [leaf e]
  | branch e cs => branch e cs :: nodesOf cs

def nodesOf : List Node → List Node
  | [] => []
  | c :: cs => nodes c ++ nodesOf cs

end

/-- The elements of a tree in order. -/
def elements (n : Node) : List Element := n.nodes.map head

/-- The ids of a tree in order, repeated ones included. -/
def ids (n : Node) : List String := n.nodes.map id

/-- The first node with an id. -/
def find? (n : Node) (id : String) : Option Node := n.nodes.find? (·.id == id)

/-- The first node that has a child with an id. -/
def findParent? (n : Node) (id : String) : Option Node :=
  n.nodes.find? fun p => p.children.any (·.id == id)

/-- Whether a node lies in the first subtree of an id, the root of the subtree included. -/
def isWithin (n : Node) (ancestor id : String) : Bool :=
  match n.find? ancestor with
  | some a => (a.find? id).isSome
  | none => false

/-- Whether a tree has a node with an id. -/
def hasId (n : Node) (id : String) : Bool := (n.find? id).isSome

end Node

/-- A child list with its node of an id taken out, if it has one. -/
def takeChild? (id : String) : List Node → Option (Node × Nat × List Node)
  | [] => none
  | c :: cs =>
    if c.id = id then some (c, 0, cs)
    else (takeChild? id cs).map fun r => (r.1, r.2.1 + 1, c :: r.2.2)

/-- A child list with a node put in at an index; without an index, or with one that is negative or
past the end, the node goes last. -/
def putChild (child : Node) (index : Option Int) (cs : List Node) : List Node :=
  match index with
  | none => cs ++ [child]
  | some i => if i < 0 ∨ cs.length ≤ i then cs ++ [child] else cs.insertIdx i.toNat child

/-- A node taken out of a tree: where it was, and the tree without it. -/
structure Detached where
  node : Node
  parent : String
  index : Nat
  rest : Node

namespace Node

mutual

/-- Takes the first child of an id out, the parent being the first node that has such a child. -/
def detach? (id : String) : Node → Option Detached
  | leaf _ => none
  | branch e cs =>
    match takeChild? id cs with
    | some (c, i, rest) => some ⟨c, e.id, i, branch e rest⟩
    | none => (detachBelow? id cs).map fun r => { r.1 with rest := branch e r.2 }

/-- Takes a node out of the first tree of a list that has it below its root. -/
def detachBelow? (id : String) : List Node → Option (Detached × List Node)
  | [] => none
  | c :: cs =>
    match detach? id c with
    | some d => some (d, d.rest :: cs)
    | none => (detachBelow? id cs).map fun r => (r.1, c :: r.2)

end

mutual

/-- Changes the first node that has an id. -/
def updateFirst (id : String) (f : Node → Node) : Node → Node
  | leaf e => if e.id = id then f (leaf e) else leaf e
  | branch e cs => if e.id = id then f (branch e cs) else branch e (updateFirstOf id f cs)

def updateFirstOf (id : String) (f : Node → Node) : List Node → List Node
  | [] => []
  | c :: cs =>
    if c.nodes.any (·.id == id) then updateFirst id f c :: cs else c :: updateFirstOf id f cs

end

mutual

/-- Changes the children of the first node that has a child with an id. -/
def updateSiblings (id : String) (f : List Node → List Node) : Node → Node
  | leaf e => leaf e
  | branch e cs =>
    if cs.any (·.id == id) then branch e (f cs) else branch e (updateSiblingsOf id f cs)

def updateSiblingsOf (id : String) (f : List Node → List Node) : List Node → List Node
  | [] => []
  | c :: cs =>
    if (c.findParent? id).isSome then updateSiblings id f c :: cs
    else c :: updateSiblingsOf id f cs

end

/-- Puts a child into a node. -/
def insertChild (child : Node) (index : Option Int) (n : Node) : Node :=
  branch n.head (putChild child index n.children)

/-- Puts a child into the first node of an id. -/
def insertUnder (parent : String) (child : Node) (index : Option Int) (n : Node) : Node :=
  n.updateFirst parent (insertChild child index)

mutual

/-- A tree with every element changed. -/
def mapElements (f : Element → Element) : Node → Node
  | leaf e => leaf (f e)
  | branch e cs => branch (f e) (mapElementsOf f cs)

def mapElementsOf (f : Element → Element) : List Node → List Node
  | [] => []
  | c :: cs => mapElements f c :: mapElementsOf f cs

end

end Node
end Screenwright
