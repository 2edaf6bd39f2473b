import Schemata.Generation.ModelFile
import Schemata.Migration.Plan
import Schemata.Model.Validation
import Schemata.Settings

/-!
# Generation

A generation turns a linked model, and the model that the database has now, into a project: source
files for the entities and a migration script.

* `generate_of_faulty` - a model with faults gives no project;
* `migrationFile?_eq_none` - exactly the empty plan gives no script.
-/

namespace Schemata.Generation

/-- The script of a migration, unless nothing happens in it. -/
def migrationFile? (database : Database) (timestamp : String) (plan : Plan) (initial : Bool) :
    Option GeneratedFile :=
  if plan.isEmpty then none
  else
    let name := if initial then "create_schema" else "migrate_schema"
    let database := database.displayName
    let statements := plan.statementCount.repr
    let tables := plan.tableCount.repr
    some {
      path := s!"migrations/{timestamp}_{name}.sql"
      content := s!"-- Generated by tablesmith ({database})\n" ++
        s!"-- {statements} statement(s) for {tables} table(s)\n\n" ++ plan.script
      kind := .script }

/-- The migration to a model, from the one that the database has now or from nothing. -/
def migrationTo (m : DataModel) (now : Option DataModel) : Plan :=
  (now.getD {}).planTo m

/-- What a generation yields for a model without faults.  The warnings of its validation come
first. -/
def project (settings : Settings) (timestamp : String) (m : DataModel) (now : Option DataModel) :
    Project :=
  let empty := if m.dependencyOrder.isEmpty then [Warning.noEntities] else []
  let sources := if settings.models then (modelFiles m, modelWarnings m) else ([], [])
  let scripts :=
    if settings.migrations then
      match migrationFile? settings.database timestamp (migrationTo m now) now.isNone with
      | some file => ([file], [])
      | none => ([], [Warning.unchangedSchema])
    else ([], [])
  { files := sources.1 ++ scripts.1
    warnings := m.validate.warnings ++ (empty ++ sources.2 ++ scripts.2).map (·.message) }

/-- **The generation for a model:** it must have no faults, and the database a dialect. -/
def generate (settings : Settings) (timestamp : String) (m : DataModel) (now : Option DataModel) :
    Except Failure Project := do
  m.validate.toResult
  let _ ← Dialect.ofDatabase settings.database
  return project settings timestamp m now

/-- Source files and script of a model that is not validated, whatever the settings leave out. -/
def generateUnchecked (settings : Settings) (timestamp : String) (m : DataModel)
    (now : Option DataModel) : Except Failure Project := do
  let _ ← Dialect.ofDatabase settings.database
  let script := migrationFile? settings.database timestamp (migrationTo m now) now.isNone
  return { files := modelFiles m ++ script.toList, warnings := (modelWarnings m).map (·.message) }

/-- Exactly the empty plan gives no script. -/
theorem migrationFile?_eq_none {database : Database} {timestamp : String} {plan : Plan}
    {initial : Bool} :
    migrationFile? database timestamp plan initial = none ↔ plan.isEmpty = true := by
  unfold migrationFile?
  split <;> simp_all

/-- A model with faults gives no project. -/
theorem generate_of_faulty {settings : Settings} {timestamp : String} {m : DataModel}
    {now : Option DataModel} {failure : Failure} (h : m.validate.toResult = .error failure) :
    generate settings timestamp m now = .error failure := by
  simp [generate, h, bind, Except.bind]

end Schemata.Generation
