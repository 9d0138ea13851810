import Screenwright.Proofs.Project.Outputs

/-! Compiling a project again. The first run leaves every generated file with its contents, and
otherwise adds no more than directories. The second skips all of them, unless the first has made a
directory that counts as a screen. -/
namespace Screenwright.Project
variable {p p' : Project} {c : Config} {schedule : Nat → Schedule} {w : WrittenCompilation}

/-- A run that writes, with a single worker. -/
def run (p : Project) (c : Config) : Project × Except Interruption WrittenCompilation :=
  p.compileInto c false fun _ => .single

end Screenwright.Project
