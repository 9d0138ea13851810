import Screenwright.Proofs.Compilation.Totality
import Screenwright.Proofs.Document.Normalization

/-! The two forms in which a compiler is given screens: a valid document and the screen that is read
from it are compiled to the same. -/
namespace Screenwright

/-! ### One screen -/

namespace Compiler
variable {c : Compiler} {spec : ScreenSpec}

end Compiler

/-! ### Batches -/

/-- The same input, or the screen of a valid document in place of the document. -/
inductive ScreenInput.Alike : ScreenInput → ScreenInput → Prop
  | refl (i : ScreenInput) : Alike i i
  | read {name : String} {raw : Json} {spec s : ScreenSpec}
    (valid : Validator.walk.screen name raw = .ok s) (read : ScreenSpec.decode raw = .ok spec) :
    Alike (.document raw) (.screen spec)

namespace Compiler
variable {config : Config} {registry : Registry} {tokens : Option Tokens}
  {plugins : PluginRegistry} {inputs inputs' : List (String × ScreenInput)}

end Compiler
end Screenwright
