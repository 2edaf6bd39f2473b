import Schemata.Files.Access
import Schemata.Generation.Project

/-!
# Writing a project

The files of a project are written below a directory, in order.  Unless existing files may be
replaced, nothing is written when something is already there at the path of any of them.

* `targets_length` - every file of a project has one target.
-/

namespace Schemata.Files

open Generation (Project GeneratedFile)

variable {m : Type → Type} [Monad m]

/-- Where the files of a project go. -/
def targets (base : String) (p : Project) : List String :=
  p.files.map fun file => Path.join base file.path

/-- Writes files below a directory, one after the other. -/
def writeFiles (files : FileAccess m) (base : String) : List GeneratedFile → ExceptT Failure m Unit
  | [] => return ()
  | file :: rest => do
    files.writeFile (Path.join base file.path) file.content
    writeFiles files base rest

/-- Writes the files of a project below a directory. -/
def writeProject (files : FileAccess m) (base : String) (overwrite : Bool) (p : Project) :
    ExceptT Failure m Unit := do
  if !overwrite then
    match ← files.firstThere (targets base p) with
    | some path => throw (.outputExists path)
    | none => writeFiles files base p.files
  else writeFiles files base p.files

/-- Every file of a project has one target. -/
theorem targets_length (base : String) (p : Project) :
    (targets base p).length = p.files.length := by
  simp [targets]

end Schemata.Files
