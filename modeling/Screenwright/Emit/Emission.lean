import Screenwright.Emit.Render
import Screenwright.Text.Sorted

/-! Renderings that collect the names which the generated module imports. -/
namespace Screenwright.Emit

/-- A name that a module imports from another one. -/
structure Import where
  source : String
  name : String
  isDefault : Bool
  deriving DecidableEq, Repr

/-- A rendering with its imports, or a failure. -/
def Emission (α : Type) : Type := Except EmitError (α × List Import)

namespace Emission
variable {α β : Type}

protected def pure (a : α) : Emission α := Except.ok (a, [])

/-- The imports of two renderings are those of both. -/
protected def bind (x : Emission α) (f : α → Emission β) : Emission β :=
  match (x : Except EmitError (α × List Import)) with
  | .error e => Except.error e
  | .ok (a, is) =>
    match (f a : Except EmitError (β × List Import)) with
    | .error e => Except.error e
    | .ok (b, js) => Except.ok (b, is ++ js)

instance : Monad Emission where
  pure := Emission.pure
  bind := Emission.bind

def run (x : Emission α) : Except EmitError (α × List Import) := x

def ofExcept (x : Except EmitError α) : Emission α :=
  match x with
  | .ok a => Emission.pure a
  | .error e => Except.error e

/-- The name, imported from its module. -/
def use (source name : String) : Emission String := Except.ok (name, [⟨source, name, false⟩])

/-- The name of a module's default export. -/
def useDefault (source name : String) : Emission String := Except.ok (name, [⟨source, name, true⟩])

/-- The texts of a list of renderings on lines of their own. -/
def join (xs : List (Emission String)) : Emission String := do
  pure ("\n".intercalate (← xs.mapM id))

end Emission

namespace Import

/-- The modules of some imports, each once and in order. -/
def sources (is : List Import) : List String := Text.sorted (is.map (·.source)).eraseDups

/-- The names imported from a module, each once and in order. -/
def namesOf (is : List Import) (source : String) : List String :=
  Text.sorted ((is.filter (·.source == source)).map (·.name)).eraseDups

/-- The import statements of a module, default exports first. -/
def lines (is : List Import) : List String :=
  let defaults := is.filter (·.isDefault)
  let named := is.filter (!·.isDefault)
  (sources defaults).flatMap (fun source =>
      (namesOf defaults source).map fun name => s!"import {name} from {Text.quoteDouble source};") ++
    (sources named).map fun source =>
      "import \x7b " ++ ", ".intercalate (namesOf named source) ++ " \x7d from " ++
        Text.quoteDouble source ++ ";"

end Import
end Screenwright.Emit
