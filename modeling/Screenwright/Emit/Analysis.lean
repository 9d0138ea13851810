import Screenwright.Document.Kind
import Screenwright.Document.Tree
import Screenwright.Emit.Name
import Screenwright.Json.Reader
import Screenwright.Json.Text

/-! What a screen needs beside its markup: state, navigation, rows to fetch, and the data of lists
and tables. -/
namespace Screenwright.Emit

/-- A list or table whose rows are fetched. -/
structure DataFetch where
  nodeId : String
  url : String
  mapping : Option (Fields String)

namespace DataFetch

def rows (f : DataFetch) : String := rowsVar f.nodeId

def fieldCopy (e : String × String) : String :=
  Text.quoteDouble e.1 ++ ": row[" ++ Text.quoteDouble e.2 ++ "]"

/-- The script that renames the mapped fields of fetched rows. -/
def transform (f : DataFetch) : String :=
  match f.mapping with
  | none | some [] => ""
  | some m =>
    ".map((row) => (\x7b ...row, " ++ ", ".intercalate (m.map fieldCopy) ++ " \x7d))"

end DataFetch

/-- The text unless it is empty. -/
def nonEmpty (s : Option String) : Option String := s.filter (· != "")

/-- The node whose visibility a click on the element toggles. -/
def toggleTarget? (e : Element) : Option String := do
  let click ← (← e.interactions).onClick
  if click.action = .toggleVisibility then nonEmpty click.target else none

def navigates (e : Element) : Bool :=
  match e.interactions.bind (·.onClick) with
  | some click => click.action = .navigate && (nonEmpty click.target).isSome
  | none => false

/-- The state that a change of the element sets. -/
def changedState? (e : Element) : Option String := do
  let change ← (← e.interactions).onChange
  if change.action = .setState then nonEmpty change.target else none

/-- The state on which the element's visibility hangs. -/
def readState? (e : Element) : Option String := do
  let rule ← (← e.interactions).visibleWhen
  some rule.state

def hasHandler (e : Element) : Bool :=
  match e.interactions with
  | some i => i.onClick.isSome || i.onChange.isSome
  | none => false

def isDataType (type : String) : Bool :=
  type == BuiltinType.list.name || type == BuiltinType.dataTable.name

def fetch? (e : Element) : Option DataFetch := do
  let source ← e.dataSource
  let url ← nonEmpty source.url
  if source.type = .api ∧ isDataType e.type then some ⟨e.id, url, source.mapping⟩ else none

def isResponsive (e : Element) : Bool :=
  match e.responsive with
  | some r => r.tablet.isSome || r.mobile.isSome
  | none => false

/-- The interaction state of a screen, names without repetition and in tree order. -/
structure ScreenState where
  toggled : List String
  values : List String
  navigates : Bool
  handlers : Bool
  fetches : List DataFetch
  responsive : List Element

namespace ScreenState

def ofTree (tree : Node) : ScreenState :=
  let es := tree.elements
  { toggled := (es.filterMap toggleTarget?).eraseDups
    values := (es.flatMap fun e => (changedState? e).toList ++ (readState? e).toList).eraseDups
    navigates := es.any Emit.navigates
    handlers := es.any hasHandler
    fetches := es.filterMap fetch?
    responsive := es.filter isResponsive }

def isStateful (s : ScreenState) : Bool :=
  !s.toggled.isEmpty || !s.values.isEmpty || !s.fetches.isEmpty

def isInteractive (s : ScreenState) : Bool := s.isStateful || s.navigates || s.handlers

def isResponsiveId (s : ScreenState) (id : String) : Bool := s.responsive.any (·.id == id)

def fetchFor? (s : ScreenState) (id : String) : Option DataFetch :=
  s.fetches.find? (·.nodeId == id)

/-- The screen without its fetches, for targets that show the rows at hand. -/
def withoutFetches (s : ScreenState) : ScreenState := { s with fetches := [] }

end ScreenState

/-- The test of a visibility rule; values compare as texts. -/
def conditionText (quote : String → String) (r : VisibilityRule) : String :=
  let name := stateVar r.state
  match r.operator with
  | .truthy => "!!" ++ name
  | .eq => s!"String({name}) === " ++ quote (r.value.getD "")
  | .neq => s!"String({name}) !== " ++ quote (r.value.getD "")

/-- The conditions under which an element is shown: its toggle, then its rule. -/
def conditions (quote : String → String) (s : ScreenState) (e : Element) : List String :=
  (if s.toggled.contains e.id then [visibilityVar e.id] else []) ++
    ((e.interactions.bind (·.visibleWhen)).map (conditionText quote)).toList

/-- A row with its source fields renamed to display keys; other fields stay in front. -/
def applyMapping (row : Json) (mapping : Option (Fields String)) : Json :=
  match row, mapping with
  | .obj fs, some (m :: ms) =>
    let sources := (m :: ms).map Prod.snd
    .obj (Fields.merge (fs.filter fun e => !sources.contains e.1)
      ((m :: ms).map fun e => (e.1, (Fields.get? fs e.2).getD .null)))
  | row, _ => row

/-- The rows bound to an element, if it has any. -/
def sourceRows? (e : Element) : Option (List Json) := do
  let source ← e.dataSource
  match source.data with
  | none | some [] => none
  | some rows => some (rows.map (applyMapping · source.mapping))

/-- The items of a list prop. -/
def propItems (e : Element) (name : String) : List Json :=
  ((e.props.get? name).bind Json.asArray?).getD []

def rowText : Json → String
  | .obj fs => " - ".intercalate (fs.map fun f => f.2.textOrEmpty)
  | row => row.text

/-- The entries of a list: the rows bound to it, or else its items. -/
def listItems (e : Element) : List String :=
  match sourceRows? e with
  | some rows => rows.map rowText
  | none => (propItems e "items").map Json.text

/-- The two parts of an entry at its first bar; an entry without one is both. -/
def parsePair (item : Json) : String × String :=
  let cs := item.text.toList
  if cs.contains '|' then
    (String.ofList (cs.takeWhile (· != '|')), String.ofList ((cs.dropWhile (· != '|')).drop 1))
  else (item.text, item.text)

/-- The keys and labels of a table's columns. -/
def tableColumns (e : Element) : List (String × String) := (propItems e "columns").map parsePair

/-- A row as fields: an object, or a text that reads as one; anything else has no fields. -/
def parseRow (row : Json) : Except OversizedInteger (Fields Json) :=
  match row with
  | .obj fs => .ok fs
  | row =>
    match Json.ofText row.text with
    | .ok (.obj fs) => .ok fs
    | .ok _ | .error (.malformed _) => .ok []
    | .error (.oversized e) => .error e

/-- The rows of a table: those bound to it, or else its rows prop. -/
def tableRows (e : Element) : Except OversizedInteger (List (Fields Json)) :=
  ((sourceRows? e).getD (propItems e "rows")).mapM parseRow

def cellText (row : Fields Json) (key : String) : String :=
  ((row.get? key).getD .null).textOrEmpty

/-- The labels and targets of a navigation; an entry without a bar has no target of its own. -/
def navItems (e : Element) : List (String × String) :=
  (propItems e "items").map fun item =>
    if item.text.toList.contains '|' then parsePair item else (item.text, "#")

def tabLabels (e : Element) : List String := (propItems e "tabs").map Json.text

/-- The rows shown before a fetch completes. -/
def initialRows (e : Element) : Except OversizedInteger Json :=
  if e.type = BuiltinType.dataTable.name then (tableRows e).map fun rows => .arr (rows.map .obj)
  else .ok (.arr ((listItems e).map .str))

end Screenwright.Emit
