import Screenwright.Document.Interaction

/-! Nodes of a screen: an element with its id, type and attributes, and the nodes inside it. -/
namespace Screenwright

/-- All of a node but its children. -/
structure Element where
  id : String
  type : String
  props : Fields Json := []
  style : Option NodeStyle := none
  responsive : Option ResponsiveStyle := none
  interactions : Option Interactions := none
  dataSource : Option DataSource := none

/-- A node; a `leaf` has no list of children, and the list of a `branch` may be empty. -/
inductive Node where
  | leaf (head : Element)
  | branch (head : Element) (children : List Node)

instance : Inhabited Element := ⟨{ id := "", type := "" }⟩

instance : Inhabited Node := ⟨.leaf default⟩

namespace Node

def head : Node → Element
  | leaf e | branch e _ => e

/-- The list of children, if there is one. -/
def children? : Node → Option (List Node)
  | leaf _ => none
  | branch _ cs => some cs

/-- The children, none when there is no list. -/
def children : Node → List Node
  | leaf _ => []
  | branch _ cs => cs

def ofHead (e : Element) : Option (List Node) → Node
  | none => leaf e
  | some cs => branch e cs

def mapHead (f : Element → Element) : Node → Node
  | leaf e => leaf (f e)
  | branch e cs => branch (f e) cs

abbrev id (n : Node) : String := n.head.id

abbrev type (n : Node) : String := n.head.type

abbrev props (n : Node) : Fields Json := n.head.props

def setId (id : String) (n : Node) : Node := n.mapHead fun e => { e with id := id }

@[simp] theorem head_leaf (e : Element) : (leaf e).head = e := rfl
@[simp] theorem head_branch (e : Element) (cs : List Node) : (branch e cs).head = e := rfl
@[simp] theorem children_leaf (e : Element) : (leaf e).children = [] := rfl
@[simp] theorem children_branch (e : Element) (cs : List Node) : (branch e cs).children = cs := rfl

@[simp] theorem head_mapHead (f : Element → Element) (n : Node) :
    (n.mapHead f).head = f n.head := by
  cases n <;> rfl

@[simp] theorem children_mapHead (f : Element → Element) (n : Node) :
    (n.mapHead f).children = n.children := by
  cases n <;> rfl

/-- Induction with one hypothesis for all children. -/
theorem induction {motive : Node → Prop} (leaf : ∀ e, motive (.leaf e))
    (branch : ∀ e cs, (∀ c ∈ cs, motive c) → motive (.branch e cs)) (n : Node) : motive n :=
  Node.rec (motive_1 := motive) (motive_2 := fun cs => ∀ c ∈ cs, motive c)
    leaf (fun e cs ih => branch e cs ih) (by simp)
    (fun _ _ hc hcs c h => (List.mem_cons.1 h).elim (fun e => e ▸ hc) (hcs c)) n

end Node

/-- The names of a node's fields. -/
def Node.fieldNames : List String :=
  ["id", "type", "props", "children", "style", "responsive", "interactions", "dataSource"]

/-- Reads a node from its fields once its children are read; `room` more records may be nested in
it. -/
def Node.ofFields (room : Nat) (fs : Fields Json) (children : Decoded (Option (List Node))) :
    Decoded Node :=
  Decode.closed fieldNames fs
    ((fun id type props children style responsive interactions dataSource =>
        Node.ofHead ⟨id, type, props, style, responsive, interactions, dataSource⟩ children)
      <$> Decode.required fs "id" Decode.text
      <*> Decode.required fs "type" Decode.text
      <*> Decode.fieldOr fs "props" [] Decode.object
      <*> children.under (.key "children")
      <*> Decode.optional fs "style" (Decode.within room NodeStyle.decode)
      <*> Decode.optional fs "responsive" (ResponsiveStyle.decodeWithin room)
      <*> Decode.optional fs "interactions" Interactions.decode
      <*> Decode.optional fs "dataSource" DataSource.decode)

mutual

/-- Reads a node where `room` records may be nested, the node being one of them. -/
def Node.decodeWithin (room : Nat) : Json → Decoded Node
  | .obj fs =>
    Decode.within room (fun _ => Node.ofFields (room - 1) fs (Node.decodeChildren (room - 1) fs))
      (.obj fs)
  | j => Decode.within room (fun _ => .fault (.notRecord "Node")) j

/-- Reads the children among a node's fields. -/
def Node.decodeChildren (room : Nat) : List (String × Json) → Decoded (Option (List Node))
  | [] => .ok none
  | (k, v) :: fs => if k = "children" then Node.decodeList room v else Node.decodeChildren room fs

def Node.decodeList (room : Nat) : Json → Decoded (Option (List Node))
  | .arr xs => some <$> Node.decodeItems room 0 xs
  | .null => .ok none
  | _ => .fault .notList

def Node.decodeItems (room i : Nat) : List Json → Decoded (List Node)
  | [] => .ok []
  | x :: xs =>
    List.cons <$> (Node.decodeWithin room x).under (.index i) <*> Node.decodeItems room (i + 1) xs

end

/-- Reads a node that stands alone. -/
def Node.decode : Json → Decoded Node := Node.decodeWithin Decode.maxDepth

/-- Reads a node inside another record. -/
def Node.decodeInside : Json → Decoded Node := Node.decodeWithin (Decode.maxDepth - 1)

/-- The fields of a node's document; absent ones are left out. -/
def Element.toFields (e : Element) (children : Option Json) : Fields Json :=
  presentFields [("id", some (.str e.id)), ("type", some (.str e.type)),
    ("props", some (.obj e.props)), ("children", children),
    ("style", e.style.map NodeStyle.toJson),
    ("responsive", e.responsive.map ResponsiveStyle.toJson),
    ("interactions", e.interactions.map Interactions.toJson),
    ("dataSource", e.dataSource.map DataSource.toJson)]

mutual

/-- The document of a node. -/
def Node.toJson : Node → Json
  | .leaf e => .obj (e.toFields none)
  | .branch e cs => .obj (e.toFields (some (.arr (Node.toJsonList cs))))

def Node.toJsonList : List Node → List Json
  | [] => []
  | c :: cs => Node.toJson c :: Node.toJsonList cs

end

theorem Node.toJsonList_eq_map (cs : List Node) : Node.toJsonList cs = cs.map Node.toJson := by
  induction cs with
  | nil => rfl
  | cons c cs ih => simp [Node.toJsonList, ih]

end Screenwright
