import Screenwright.Emit.Css
import Screenwright.Emit.Scale
import Screenwright.Plugin
import Screenwright.Project.Config

/-! What all renderers share: the screen and its surroundings, access to props, and failures. -/
namespace Screenwright.Emit

/-- Why a screen cannot be rendered. -/
inductive EmitError where
  | plugin (message : String)
  | infiniteLevel
  | undefinedLevel
  | noOverrides (breakpoint : String)
  | oversized (e : OversizedInteger)
  deriving DecidableEq, Repr

def EmitError.message : EmitError → String
  | plugin message => message
  | infiniteLevel => "cannot convert float infinity to integer"
  | undefinedLevel => "cannot convert float NaN to integer"
  | noOverrides breakpoint => s!"'NoneType' object has no attribute '{breakpoint}'"
  | oversized e => e.message

/-- What the screens of one run share. -/
structure Context where
  config : Config
  tokens : Option Tokens
  maps : TokenMaps
  plugins : PluginRegistry

def Context.create (config : Config) (tokens : Option Tokens) (plugins : PluginRegistry) :
    Context :=
  ⟨config, tokens, TokenMaps.ofTokens tokens, plugins⟩

/-- A screen while it is rendered. -/
structure Screen extends Context where
  tree : Node
  state : ScreenState

def Screen.ofTree (c : Context) (tree : Node) : Screen := ⟨c, tree, .ofTree tree⟩

/-- The rows that a fetch starts with: those of the first node of its id. -/
def Screen.rowsBefore (s : Screen) (f : DataFetch) : Except OversizedInteger Json :=
  match s.tree.find? f.nodeId with
  | some n => initialRows n.head
  | none => .ok (.arr [])

/-- The fetches of a screen, each with the literal of the rows that it starts with. -/
def Screen.startedFetches (s : Screen) : Except EmitError (List (DataFetch × String)) :=
  (s.state.fetches.mapM fun f => (s.rowsBefore f).map fun rows => (f, rows.literal)).mapError
    .oversized

/-- The rows of a table whose rows are at hand. -/
def rowsAtHand (e : Element) : Except EmitError (List (Fields Json)) :=
  (tableRows e).mapError .oversized

/-- A generated file, its path relative to the project. -/
structure File where
  path : String
  contents : String
  deriving DecidableEq, Repr

/-- The line that marks generated files. -/
def generatedMarker : String := "AUTO-GENERATED by screenspec. Do not edit directly."

/-! Props -/

def prop? (e : Element) (name : String) : Option Json := e.props.get? name

/-- The text of a prop, or the default when it is no text. -/
def propText (e : Element) (name : String) (default : String := "") : String :=
  ((prop? e name).bind Json.asString?).getD default

/-- The number of a prop; booleans are none. -/
def propNumber? (e : Element) (name : String) : Option Json :=
  match prop? e name with
  | some (.int n) => some (.int n)
  | some (.float x) => some (.float x)
  | _ => none

def propNumber (e : Element) (name : String) (default : Int) : Json :=
  (propNumber? e name).getD (.int default)

def propIs (e : Element) (name value : String) : Bool :=
  (prop? e name).bind Json.asString? == some value

def propIsTrue (e : Element) (name : String) : Bool :=
  match prop? e name with
  | some (.bool true) => true
  | _ => false

/-- Whether a dialog is open: always, unless its prop says no. -/
def isOpen (e : Element) : Bool :=
  match prop? e "open" with
  | some (.bool false) => false
  | _ => true

/-- The value of a prop, or its default when the prop is absent; a prop that is null has none. -/
def propKey? (e : Element) (name : String) (default : Option String) : Option Json :=
  match prop? e name with
  | some .null => none
  | some v => some v
  | none => default.map .str

def clampLevel (n : Int) : Nat := (min (max n 1) 6).toNat

/-- The level of a heading, from one to six. -/
def headingLevel (e : Element) : Except EmitError Nat :=
  match propNumber e "level" 1 with
  | .int n => .ok (clampLevel n)
  | .float .nan => .error .undefinedLevel
  | .float x =>
    match x.truncate? with
    | some n => .ok (clampLevel n)
    | none => .error .infiniteLevel
  | _ => .ok 1

/-- A value that counts as present, or the text that stands for its absence. -/
def presentOr (e : Element) (name absent : String) : Json :=
  match prop? e name with
  | some v => if v.isTruthy then v else .str absent
  | none => .str absent

/-- What is shown in place of a reference that was not expanded. -/
def placeholderMessage (e : Element) : String :=
  let ref := (presentOr e "ref" "?").text
  if propIs e "unresolved" "circular" then "Circular component reference: " ++ ref
  else if propIs e "unresolved" "invalid" then "Invalid component reference: " ++ ref
  else "Missing component: " ++ ref

/-! Scales -/

def Screen.gapValue (s : Screen) (key : Option Json) : String := scaleLookup s.maps.gap key "md"

def Screen.sizeValue (s : Screen) (key : Option Json) : String := scaleLookup s.maps.size key "md"

/-- The texts of a list of renderings on lines of their own; the first failure counts. -/
def joinRendered (xs : List (Except EmitError String)) : Except EmitError String := do
  pure ("\n".intercalate (← xs.mapM id))

/-- The markup of a plugin's node. -/
def renderPlugin (p : NodePlugin) (target : Framework) (e : Element) : Except EmitError String :=
  (p.render target.name e).mapError .plugin

end Screenwright.Emit
