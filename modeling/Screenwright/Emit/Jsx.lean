import Screenwright.Emit.Emission
import Screenwright.Emit.JsxSyntax
import Screenwright.Text.Entity

/-! Function components with hooks, shared by the two React targets. -/
namespace Screenwright.Emit

/-- What tells one React target from the other outside its elements. -/
structure ReactDialect where
  /-- The expression that goes to a route. -/
  navigate : String → Emission String
  /-- The attribute of a change that calls a setter. -/
  setterAttr : String → String
  /-- The attribute of a change that runs code. -/
  codeAttr : String → String
  /-- Statements at the top of a component that navigates. -/
  routerLines : Emission (List String)

namespace Jsx

/-- The function that a click calls, if the click does anything. -/
def clickHandler? (d : ReactDialect) (e : Element) : Emission (Option String) :=
  match e.interactions.bind (·.onClick) with
  | none => pure none
  | some c =>
    match c.action, nonEmpty c.target, nonEmpty c.code with
    | .navigate, some t, _ => do pure (some ("() => " ++ (← d.navigate t)))
    | .toggleVisibility, some t, _ =>
      pure (some s!"() => {setterName (visibilityVar t)}((visible) => !visible)")
    | .custom, _, some code => pure (some ("() => \x7b " ++ code ++ " \x7d"))
    | _, _, _ => pure none

/-- The attribute of a change, if the change does anything. -/
def changeAttrs (d : ReactDialect) (e : Element) : List String :=
  match e.interactions.bind (·.onChange) with
  | none => []
  | some c =>
    match c.action, nonEmpty c.target, nonEmpty c.code with
    | .setState, some t, _ => [d.setterAttr (setterName (stateVar t))]
    | .custom, _, some code => [d.codeAttr code]
    | _, _, _ => []

def stateLine (name initial : String) : String :=
  s!"const [{name}, {setterName name}] = {initial};"

def fetchLines (f : DataFetch) : List String := [
  s!"  fetch({Text.quoteDouble f.url})",
  "    .then((response) => response.json())",
  s!"    .then((data) => {setterName f.rows}(data{f.transform}));"]

/-- The hooks of a component: router, state variables, and the fetches after mounting. -/
def hookLines (d : ReactDialect) (s : Screen) : Emission (List String) := do
  let st := s.state
  let router ← if st.navigates then d.routerLines else pure []
  if st.isStateful then discard (Emission.use "react" "useState")
  if !st.fetches.isEmpty then discard (Emission.use "react" "useEffect")
  let started ← Emission.ofExcept s.startedFetches
  pure (router ++
    st.toggled.map (fun id => stateLine (visibilityVar id) "useState(true)") ++
    st.values.map (fun name => stateLine (stateVar name) "useState(\"\")") ++
    started.map (fun (f, rows) => stateLine f.rows s!"useState<any[]>({rows})") ++
    if st.fetches.isEmpty then []
    else ["", "useEffect(() => \x7b"] ++ st.fetches.flatMap fetchLines ++ ["\x7d, []);"])

/-- The text of a component module. -/
def module_ (name : String) (header imports preamble hooks : List String) (body : String) :
    String :=
  "\n".intercalate (header ++ imports ++ [""] ++
    (if preamble.isEmpty then [] else preamble ++ [""]) ++
    [s!"export function {name}() \x7b"] ++
    (if hooks.isEmpty then [] else hooks.map (Text.indent 2) ++ [""]) ++
    ["  return (", Text.indent 4 body, "  );", "\x7d"]) ++ "\n"

/-- A body that starts with an expression stands inside a fragment. -/
def fragment (body : String) : String :=
  if body.toList.head? = some '\x7b' then "<>\n" ++ Text.indent 2 body ++ "\n</>" else body

end Jsx
end Screenwright.Emit
