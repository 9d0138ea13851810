import Screenwright.Document.Tree
import Screenwright.Text.Replace
import Screenwright.Validation.PropTable

/-! Plugins: node types that a project adds, with a prop table and markup of their own. -/
namespace Screenwright

/-- What a plugin writes for a node: a text with holes for the node's id and props, or a failure. -/
inductive PluginMarkup where
  | template (text : String)
  | failure (message : String)
  deriving DecidableEq, Repr

/-- The text of a node, or the message of the failure. -/
def PluginMarkup.render (m : PluginMarkup) (e : Element) : Except String String :=
  match m with
  | template t =>
    .ok (Text.replaceAll "%PROPS%" (Json.literal (.obj e.props)) (Text.replaceAll "%ID%" e.id t))
  | failure message => .error message

/-- A node type that is not built in. -/
structure NodePlugin where
  type : String
  label : String
  props : PropTable
  markup : PluginMarkup
  /-- Markup that stands in for the general one on some targets. -/
  targets : Fields PluginMarkup
  acceptsChildren : Bool

/-- The markup of a node on a target. -/
def NodePlugin.render (p : NodePlugin) (target : String) (e : Element) : Except String String :=
  ((p.targets.get? target).getD p.markup).render e

/-- Why a plugin cannot be loaded or registered. -/
inductive PluginError where
  | builtinType (type : String)
  | duplicateType (type : String)
  | notPlugins (reference : String)
  | notLoaded (reference detail : String)
  | noExports (path : String)
  deriving DecidableEq, Repr

def PluginError.message : PluginError → String
  | builtinType type => s!"Plugin type '{type}' conflicts with a built-in node type"
  | duplicateType type => s!"Plugin type '{type}' is already registered"
  | notPlugins reference =>
    s!"Plugin '{reference}' must export a NodePlugin or a list of NodePlugins"
  | notLoaded reference detail => s!"Failed to load plugin '{reference}': {detail}"
  | noExports path => s!"Plugin file {path} defines neither PLUGIN nor PLUGINS"

/-- Plugins by type, in the order of their registration. -/
structure PluginRegistry where
  plugins : List NodePlugin

namespace PluginRegistry

def empty : PluginRegistry := ⟨[]⟩

def get? (r : PluginRegistry) (type : String) : Option NodePlugin :=
  r.plugins.find? (·.type == type)

def has (r : PluginRegistry) (type : String) : Bool := (r.get? type).isSome

/-- Adds a plugin whose type is neither built in nor taken. -/
def register (r : PluginRegistry) (p : NodePlugin) : Except PluginError PluginRegistry :=
  if (BuiltinType.ofName? p.type).isSome ∨ p.type = referenceType then
    .error (.builtinType p.type)
  else if r.has p.type then .error (.duplicateType p.type)
  else .ok ⟨r.plugins ++ [p]⟩

/-- The issues of one node under its plugin. -/
def nodeIssues (r : PluginRegistry) (n : Node) (path : String) : List Issue :=
  match r.get? n.type with
  | none => []
  | some p =>
    p.props.check n.props path ++
      if !n.children.isEmpty && !p.acceptsChildren then
        [⟨path ++ ".children", n.type ++ " does not accept children"⟩]
      else []

/-- The issues of all nodes whose types are the plugins'. -/
def treeIssues (r : PluginRegistry) (tree : Node) : List Issue :=
  (tree.walk "tree").flatMap fun e => r.nodeIssues e.1 e.2

end PluginRegistry
end Screenwright
