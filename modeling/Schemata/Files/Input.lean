import Schemata.Files.Access
import Schemata.Schema.Loading
import Schemata.SettingsFile

/-!
# Reading schemas and settings

Schema files are named one by one or by the directories they are in.  A schema file counts as
changed if it was modified after the last generation, or if nothing is known of one.

* `changedSince_none` - without a last generation everything counts as changed;
* `walkedBefore_refl` - names come no later than themselves.
-/

namespace Schemata.Files

variable {m : Type → Type} [Monad m]

/-- A file modified at some time has changed since the last generation. -/
def changedSince (lastGeneration modified : Option Int) : Bool :=
  match lastGeneration, modified with
  | some last, some modified => last < modified
  | _, _ => true

/-- Reads a schema file. -/
def readDocument (files : FileAccess m) (lastGeneration : Option Int) (ids : IdSupply)
    (path : String) : ExceptT Failure m (Document × IdSupply) := do
  let content ← files.readFile path
  match Document.ofXml ids path content with
  | .error failure => throw failure
  | .ok (document, ids) =>
    match lastGeneration with
    | none => return (document.markChanged true, ids)
    | some _ =>
      let modified ← files.modified? path
      return (document.markChanged (changedSince lastGeneration modified), ids)

/-- Reads schema files, one behind the other, behind what was read before. -/
def readDocuments (files : FileAccess m) (lastGeneration : Option Int) (ids : IdSupply)
    (document : Document) : List String → ExceptT Failure m Document
  | [] => return document
  | path :: rest => do
    let (next, ids) ← readDocument files lastGeneration ids path
    readDocuments files lastGeneration ids (document.merge next) rest

/-- Reads schema files into a model that is not linked yet. -/
def readModel (files : FileAccess m) (lastGeneration : Option Int) (paths : List String) :
    ExceptT Failure m DataModel := do
  let document ← readDocuments files lastGeneration {} {} paths
  document.toModel

/-- Names in the order in which a tree is walked: name by name, and a directory at the place of its
own name. -/
def walkedBefore : List String → List String → Bool
  | [], _ => true
  | _ :: _, [] => false
  | a :: as, b :: bs => a < b || (a == b && walkedBefore as bs)

/-- The ending of schema files. -/
def schemaEnding : String := "xml"

/-- The names lead to a schema file. -/
def isSchemaFile (names : List String) : Bool :=
  (names.getLast?.bind Path.ending?) == some schemaEnding

/-- The schema files below a directory, in the order in which the tree is walked. -/
def schemaFilesBelow (directory : String) (found : List (List String)) : List String :=
  ((found.filter isSchemaFile).mergeSort walkedBefore).map fun names =>
    names.foldl Path.join directory

/-- The schema files that a path names: a directory stands for those below it, anything else for
itself. -/
def schemaFilesAt (files : FileAccess m) (path : String) :
    ExceptT WalkFailure m (List String) := do
  if ← files.isDirectory path then
    let found ← ExceptT.mk (files.filesBelow path)
    return schemaFilesBelow path found
  else return [path]

/-- The schema files that paths name.  The first walk that fails ends the search. -/
def findSchemaFiles (files : FileAccess m) :
    List String → ExceptT WalkFailure m (List String)
  | [] => return []
  | path :: rest => do
    let here ← schemaFilesAt files path
    let others ← findSchemaFiles files rest
    return here ++ others

/-- The schema files that paths name, none where a walk fails. -/
def schemaFiles (files : FileAccess m) (paths : List String) : m (List String) := do
  match ← (findSchemaFiles files paths).run with
  | .ok found => return found
  | .error _ => return []

/-- Reads a settings file; without one the default settings hold. -/
def readSettings (files : FileAccess m) (path : String) : ExceptT Failure m Settings := do
  if ← files.isThere path then
    let content ← files.readFile path
    Settings.ofText content
  else return {}

/-- The file whose time is that of the last generation, below the output directory. -/
def generationMarker : String := "src/models/mod.rs"

/-- When files were last generated into a directory. -/
def lastGeneration (files : FileAccess m) (outputDir : String) : m (Option Int) :=
  files.modified? (Path.join outputDir generationMarker)

/-- Without a last generation everything counts as changed. -/
theorem changedSince_none (modified : Option Int) : changedSince none modified = true := rfl

/-- Names come no later than themselves. -/
theorem walkedBefore_refl (names : List String) : walkedBefore names names = true := by
  induction names with
  | nil => rfl
  | cons name rest ih => simp [walkedBefore, ih]

end Schemata.Files
