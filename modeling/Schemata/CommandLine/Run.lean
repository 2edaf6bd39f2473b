import Schemata.CommandLine.Invocation
import Schemata.Files.Input
import Schemata.Files.Output
import Schemata.Generation.Generator
import Schemata.Json.Writer
import Schemata.Model.Exchange

/-!
# Running a command

A command loads schemas, looks at them, and may write files.  It yields a verdict on the schemas
with the text to show, or it fails.  A schema with faults is no failure; it is shown, and nothing is
written.

* `exitCode_le` - a run ends with one of three exit codes;
* `run_validate` - validating needs no settings.
-/

namespace Schemata.CommandLine

open Generation (Project)

/-- Why a command fails. -/
inductive CommandFailure where
  | step (failure : Failure)
  | walk (failure : WalkFailure)
  | noSchemaFiles
  | settings (path : String) (failure : Failure)
  | generation (failure : Failure)
  | script (path : String) (reason : OsError)
  deriving DecidableEq, Repr

/-- The wording of the failure of a command.  A walk gives the reason for which it fails, and the
reason stands behind that once more as its cause. -/
def CommandFailure.message : CommandFailure → String
  | .step failure => failure.message
  | .walk failure =>
    let path := failure.path
    let reason := failure.reason.message
    s!"IO error for operation on {path}: {reason}: {reason}"
  | .noSchemaFiles => "no schema files found"
  | .settings path failure => s!"failed to load configuration from {path}: " ++ failure.message
  | .generation failure => "code generation failed: " ++ failure.message
  | .script path reason => s!"failed to write {path}: " ++ reason.message

/-- What comes of a command that does not fail. -/
structure Outcome where
  valid : Bool := true
  output : String := ""
  remarks : String := ""
  deriving DecidableEq, Repr

/-- The exit code of a command. -/
def exitCode : Except CommandFailure Outcome → Nat
  | .ok outcome => if outcome.valid then 0 else 1
  | .error _ => 2

/-- Lines of output. -/
def asLines (lines : List String) : String := String.join (lines.map (· ++ "\n"))

/-- The findings of a log as they are shown. -/
def shownLog (log : Log) : List String :=
  log.errors.map (fun f => "error " ++ f.line)
    ++ log.warnings.map (fun message => "warning " ++ Log.warningLine message)

/-- A schema with faults: they are shown, and nothing else happens. -/
def faulty (log : Log) : Outcome :=
  { valid := false, output := asLines (shownLog log) }

variable {m : Type → Type} [Monad m]

/-- The steps of a command. -/
abbrev Steps (m : Type → Type) := ExceptT CommandFailure m

/-- A step whose failure is worded by the command. -/
def within {α ε : Type} (wrap : ε → CommandFailure) (step : ExceptT ε m α) : Steps m α :=
  ExceptT.mk do
    match ← step.run with
    | .ok value => return .ok value
    | .error failure => return .error (wrap failure)

/-- Loads schemas into a linked model, with what is found on it. -/
def load (files : FileAccess m) (lastGeneration : Option Int) (paths : List String) :
    Steps m (DataModel × Log) := do
  let found ← within .walk (Files.findSchemaFiles files paths)
  if found.isEmpty then throw .noSchemaFiles
  let loaded ← within .step (Files.readModel files lastGeneration found)
  let linked := loaded.linkAll
  return (linked, linked.validate)

/-- Loads the settings. -/
def loadSettings (files : FileAccess m) (path : String) : Steps m Settings :=
  within (.settings path) (Files.readSettings files path)

/-- Validates schemas. -/
def validate (files : FileAccess m) (paths : List String) (json : Bool) : Steps m Outcome := do
  let (_, log) ← load files none paths
  let shown :=
    if json then [log.toJson.pretty]
    else if log.hasErrors then shownLog log
    else
      let warnings := log.warnings.length.repr
      shownLog log ++ [s!"✓ schema is valid ({warnings} warning(s))"]
  return { valid := !log.hasErrors, output := asLines shown }

/-- The remark on a script that was written. -/
def scriptRemark (plan : Plan) (path : String) : String :=
  let statements := plan.statementCount.repr
  s!"✓ {statements} statement(s) written to {path}\n"

/-- Writes the SQL between two schemas into a file, or shows it. -/
def migrate (files : FileAccess m) (settings : Settings) (asIs toBe : List String)
    (output : Option String) : Steps m Outcome := do
  let (now, nowLog) ← load files none asIs
  let (next, nextLog) ← load files none toBe
  if nowLog.hasErrors || nextLog.hasErrors then
    return { valid := false, output := asLines (shownLog nowLog ++ shownLog nextLog) }
  match Dialect.ofDatabase settings.database with
  | .error failure => throw (.step failure)
  | .ok _ =>
    let plan := now.planTo next
    if plan.isEmpty then
      return { remarks := "✓ schemas are identical, nothing to migrate\n" }
    match output with
    | none => return { output := plan.script }
    | some path =>
      match ← (files.writeText path plan.script : m (Except OsError Unit)) with
      | .ok () => return { remarks := scriptRemark plan path }
      | .error reason => throw (.script path reason)

/-- What is shown of a project that was written. -/
def shownProject (outputDir : String) (p : Project) : String :=
  asLines (p.files.map ("  create " ++ ·.path)
    ++ p.warnings.map ("  warning: " ++ ·)
    ++ ["", "Output:    " ++ outputDir]) ++ p.summary

/-- The settings with what a request says beyond them. -/
def GenerateRequest.settings (request : GenerateRequest) (s : Settings) : Settings :=
  { database := s.database
    outputDir := request.output.getD s.outputDir
    models := s.models && !request.noModels
    migrations := s.migrations && !request.noMigrations
    overwrite := s.overwrite || request.force || request.incremental }

/-- Generates a project from a model and writes it. -/
def generateProject (files : FileAccess m) (timestamp : String) (settings : Settings)
    (next : DataModel) (now : Option DataModel) : Steps m Outcome := do
  match Generation.generate settings timestamp next now with
  | .error failure => throw (.generation failure)
  | .ok project =>
    within .generation
      (Files.writeProject files settings.outputDir settings.overwrite project)
    return { output := shownProject settings.outputDir project }

/-- Generates models and a migration. -/
def generate (files : FileAccess m) (timestamp : String) (settings : Settings)
    (request : GenerateRequest) : Steps m Outcome := do
  let last ← if request.incremental then
      (Files.lastGeneration files settings.outputDir : m (Option Int))
    else pure none
  let (next, nextLog) ← load files last request.paths
  if nextLog.hasErrors then return faulty nextLog
  if request.asIs.isEmpty then
    generateProject files timestamp settings next none
  else
    let (now, nowLog) ← load files none request.asIs
    if nowLog.hasErrors then return faulty nowLog
    generateProject files timestamp settings next (some now)

/-- The lines about an entity. -/
def entityLines (model : DataModel) (e : Entity) : List String :=
  let full := e.fullName
  let table := e.table
  let attributes := e.attributes.length.repr
  let references := e.references.length.repr
  let indexes := e.indexes.length.repr
  let collectors := e.collectors.length.repr
  (s!"  {full} → {table}  attributes: {attributes}, references: {references}, " ++
      s!"indexes: {indexes}, collectors: {collectors}")
    :: (model.reciprocalsFor e.id).map fun r =>
      let origin := r.originClass
      let collector := r.collector
      s!"      many-to-many from {origin} ({collector})"

/-- Shows what is in a schema. -/
def info (files : FileAccess m) (paths : List String) : Steps m Outcome := do
  let (model, log) ← load files none paths
  let entities := "Entities:  " ++ model.entities.length.repr
  let errors := "Errors:    " ++ log.errors.length.repr
  let warnings := "Warnings:  " ++ log.warnings.length.repr
  return {
    valid := !log.hasErrors
    output := asLines (["Entities (dependency order)"]
      ++ model.dependencyOrder.flatMap (entityLines model)
      ++ ["", entities, errors, warnings]) }

/-- **Runs a command.**  The timestamp goes into the names of migrations. -/
def run (files : FileAccess m) (timestamp : String) (i : Invocation) : Steps m Outcome :=
  match i.command with
  | .validate paths json => validate files paths json
  | .migrate asIs toBe output database => do
    let settings ← loadSettings files i.config
    migrate files { settings with database := database.getD settings.database } asIs toBe output
  | .generate request => do
    let settings ← loadSettings files i.config
    generate files timestamp (request.settings settings) request
  | .info paths => info files paths

/-- A run ends with one of three exit codes. -/
theorem exitCode_le (result : Except CommandFailure Outcome) : exitCode result ≤ 2 := by
  unfold exitCode
  split
  · split <;> omega
  · omega

/-- Validating needs no settings. -/
theorem run_validate (files : FileAccess m) (timestamp : String) (i : Invocation)
    {paths : List String} {json : Bool} (h : i.command = .validate paths json) :
    run files timestamp i = validate files paths json := by
  simp [run, h]

end Schemata.CommandLine
