import Schemata.Failure
import Schemata.Files.Path

/-!
# Access to files

What a run asks of the files around it.  The operations are given by whoever starts the run, so that
a run says the same of real files and of a model of them.

* `createDirectories` and `writeFile` are the two compound operations: a directory with everything
  it stands in, and a file together with its directory.
-/

namespace Schemata

/-- What is at a path. -/
inductive FileKind where
  | file
  | directory
  deriving DecidableEq, Repr

/-- What the system refuses in the middle of a walk through a directory, and why. -/
structure WalkFailure where
  path : String
  reason : OsError
  deriving DecidableEq, Repr

/-- The operations on files. -/
structure FileAccess (m : Type → Type) where
  kind? : String → m (Option FileKind)
  /-- When the file at a path was last modified. -/
  modified? : String → m (Option Int)
  readText : String → m (Except OsError String)
  /-- The files anywhere below a directory, each by the names that lead to it, if the walk comes to
  its end. -/
  filesBelow : String → m (Except WalkFailure (List (List String)))
  makeDirectory : String → m (Except OsError Unit)
  writeText : String → String → m (Except OsError Unit)

namespace FileAccess

variable {m : Type → Type} [Monad m]

/-- Something is at the path. -/
def isThere (files : FileAccess m) (path : String) : m Bool := do
  let kind ← files.kind? path
  return kind.isSome

/-- A directory is at the path. -/
def isDirectory (files : FileAccess m) (path : String) : m Bool := do
  let kind ← files.kind? path
  return kind == some .directory

/-- Makes the directory at a path unless it is there; another outcome stands if it is not. -/
def ensureDirectory (files : FileAccess m) (path : String) : m (Except OsError Unit) := do
  match ← files.makeDirectory path with
  | .ok () => return .ok ()
  | .error reason => if ← files.isDirectory path then return .ok () else return .error reason

/-- Makes the first of the paths, each of which stands in the next.  Those above are made only where
it cannot be made without them. -/
def createUpwards (files : FileAccess m) : List String → m (Except OsError Unit)
  | [] => return .ok ()
  | path :: above => do
    match ← files.makeDirectory path with
    | .ok () => return .ok ()
    | .error .noEntry =>
      match ← files.createUpwards above with
      | .error reason => return .error reason
      | .ok () => files.ensureDirectory path
    | .error reason => if ← files.isDirectory path then return .ok () else return .error reason

/-- Makes a directory and everything it stands in, as far as they are missing. -/
def createDirectories (files : FileAccess m) (path : String) : m (Except OsError Unit) :=
  files.createUpwards (Path.upwards path)

/-- Makes the directory that a file will stand in. -/
def createParent (files : FileAccess m) (path : String) : ExceptT Failure m Unit := do
  match Path.parent? path with
  | none => return ()
  | some above =>
    match ← files.createDirectories above with
    | .ok () => return ()
    | .error reason => throw (.directoryCreate above reason.message)

/-- Writes a file, and makes the directory it stands in. -/
def writeFile (files : FileAccess m) (path content : String) : ExceptT Failure m Unit := do
  files.createParent path
  match ← files.writeText path content with
  | .ok () => return ()
  | .error reason => throw (.fileWrite path reason.message)

/-- The text of a file that must be there. -/
def readFile (files : FileAccess m) (path : String) : ExceptT Failure m String := do
  match ← files.readText path with
  | .ok content => return content
  | .error reason => throw (.fileRead path reason.message)

/-- The first of some paths where something is. -/
def firstThere (files : FileAccess m) : List String → m (Option String)
  | [] => return none
  | path :: rest => do if ← files.isThere path then return some path else files.firstThere rest

end FileAccess

end Schemata
