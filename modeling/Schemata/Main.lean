import Schemata.CommandLine.Run
import Schemata.CommandLine.Usage
import Schemata.Generation.Timestamp

/-!
# The program

The command line is read, the command runs on the files of the system, and what comes of it is
printed.  Nothing is decided here.
-/

namespace Schemata.Host

/-- The reason for which the system refuses something. -/
def refusal (e : IO.Error) : OsError :=
  match e with
  | .noFileOrDirectory .. => .noEntry
  | .alreadyExists .. => .exists
  | .inappropriateType _ code _ => if code = 21 then .isDirectory else .notDirectory
  | .otherError code details => .other (details ++ " (os error " ++ code.toNat.repr ++ ")")
  | .permissionDenied _ code details =>
    .other (details ++ " (os error " ++ code.toNat.repr ++ ")")
  | e => .other e.toString

/-- What comes of an action that the system may refuse. -/
def attempt {α : Type} (action : IO α) : IO (Except OsError α) := do
  match ← action.toBaseIO with
  | .ok value => return .ok value
  | .error e => return .error (refusal e)

/-- What comes of an action, if the system does not refuse it. -/
def attempt? {α : Type} (action : IO α) : IO (Option α) := do
  match ← action.toBaseIO with
  | .ok value => return some value
  | .error _ => return none

/-- A path seen from the working directory. -/
def located (path : String) := do
  return (← IO.currentDir) / path

/-- What the system knows of the file at a path. -/
def metadata? (path : String) : IO (Option IO.FS.Metadata) := do
  if path.isEmpty then return none
  attempt? (← located path).metadata

/-- What is at a path. -/
def kind? (path : String) : IO (Option FileKind) := do
  let data ← metadata? path
  return data.map fun data =>
    match data.type with
    | .dir => .directory
    | _ => .file

/-- The nanosecond in which a file was last modified. -/
def modified? (path : String) : IO (Option Int) := do
  let data ← metadata? path
  return data.map fun data =>
    data.modified.sec * 1000000000 + Int.ofNat data.modified.nsec.toNat

/-- The text of a file. -/
def readText (path : String) : IO (Except OsError String) := do
  match ← attempt (IO.FS.readBinFile path) with
  | .error reason => return .error reason
  | .ok bytes =>
    match String.fromUTF8? bytes with
    | some text => return .ok text
    | none => return .error .invalidText

/-- What comes of a look at a path in the middle of a walk. -/
def walked {α : Type} (path : String) (look : IO α) : ExceptT WalkFailure IO α := do
  match ← attempt look with
  | .ok value => return value
  | .error reason => throw { path, reason }

/-- The files anywhere below a directory in the order of their names, links not followed.  The walk
ends with the first look that the system refuses. -/
partial def filesBelow (directory : String) : ExceptT WalkFailure IO (List (List String)) := do
  let entries ← walked directory (do (← located directory).readDir)
  let sorted := entries.toList.mergeSort fun entry other => entry.fileName ≤ other.fileName
  let found ← sorted.mapM fun entry => do
    let path := Path.join directory entry.fileName
    let data ← walked path entry.path.symlinkMetadata
    match data.type with
    | .dir =>
      let below ← filesBelow path
      return below.map (entry.fileName :: ·)
    | .file => return [[entry.fileName]]
    | _ => return []
  return found.flatten

/-- The files of the system. -/
def files : FileAccess IO where
  kind? := kind?
  modified? := modified?
  readText := readText
  filesBelow := fun directory => (filesBelow directory).run
  makeDirectory := fun path => attempt (IO.FS.createDir path)
  writeText := fun path text => attempt (IO.FS.writeFile path text)

/-- The timestamp of the present. -/
def presentTimestamp : IO String := do
  let now ← Std.Time.Timestamp.now
  return Generation.timestamp (.ofWallTime (.ofDuration now.val))

end Schemata.Host

open Schemata in
/-- **The program.** -/
def main (arguments : List String) : IO UInt32 := do
  match CommandLine.read arguments with
  | .error problem =>
    if problem.isAnswer then IO.println problem.message else IO.eprintln problem.message
    return problem.exitCode.toUInt32
  | .ok invocation =>
    let timestamp ← Host.presentTimestamp
    let result ← (CommandLine.run Host.files timestamp invocation).run
    match result with
    | .ok outcome =>
      IO.print outcome.output
      IO.eprint outcome.remarks
    | .error failure => IO.eprintln ("error: " ++ failure.message)
    return (CommandLine.exitCode result).toUInt32
