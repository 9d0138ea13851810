import Screenwright.Proofs.Compilation.Isolation
import Screenwright.Proofs.Project.Screens

/-! What a compilation writes: the endings of its paths, by which no output is taken for a module or
a screen, and the changes of a tree in which its files are written. -/
namespace Screenwright

/-! ### Endings -/

namespace Compiler
variable {c : Compiler} {screens : List SourceScreen} {schedule : Schedule}

end Compiler

namespace FileTree
variable {t t' : FileTree} {root : Path} {f : Emit.File} {fs : List Emit.File}

/-! ### Writing -/

end FileTree
end Screenwright
