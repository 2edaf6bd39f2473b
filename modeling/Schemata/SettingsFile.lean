import Schemata.Failure
import Schemata.Settings
import Schemata.Toml.Document

/-!
# Settings files

The settings are kept in a TOML document.  What it leaves out keeps its default, and what it says
beyond the settings is ignored.

* `ofEntries_nil` - a document without entries gives the default settings.
-/

namespace Schemata

/-- What is wrong with a settings file. -/
inductive SettingsProblem where
  | malformed
  /-- A setting has a value that it cannot have. -/
  | unusable (key : String)
  deriving DecidableEq, Repr

/-- The wording of a settings problem. -/
def SettingsProblem.message : SettingsProblem → String
  | .malformed => "not a TOML document"
  | .unusable key => s!"unusable value of {key}"

namespace Toml

/-- A text. -/
def text? : Toml → Option String
  | .text s => some s
  | _ => none

/-- A truth value. -/
def bool? : Toml → Option Bool
  | .bool b => some b
  | _ => none

/-- Nothing is in the list or table. -/
def isVacant : Toml → Bool
  | .list items => items.isEmpty
  | .inline entries => entries.isEmpty
  | .table _ entries => entries.isEmpty
  | .tables items => items.isEmpty
  | _ => false

/-- A word of a choice: the word alone, or a table in which it alone names something vacant. -/
def word? : Toml → Option String
  | .text s => some s
  | .inline [(word, value)] => if value.isVacant then some word else none
  | .table _ [(word, value)] => if value.isVacant then some word else none
  | _ => none

end Toml

namespace Settings

/-- The value of a key, or a default where the key is missing. -/
def entry {α : Type} (entries : Toml.Entries) (key : String) (default : α)
    (read : Toml → Option α) : Except SettingsProblem α :=
  match entries.lookup key with
  | none => .ok default
  | some value =>
    match read value with
    | some found => .ok found
    | none => .error (.unusable key)

/-- The settings of the entries of a document. -/
def ofEntries (entries : Toml.Entries) : Except SettingsProblem Settings := do
  let d : Settings := {}
  let database ← entry entries "database" d.database fun v => v.word?.bind Database.ofJsonWord?
  let outputDir ← entry entries "output_dir" d.outputDir Toml.text?
  let models ← entry entries "generate_models" d.models Toml.bool?
  let migrations ← entry entries "generate_migrations" d.migrations Toml.bool?
  let overwrite ← entry entries "overwrite" d.overwrite Toml.bool?
  return { database, outputDir, models, migrations, overwrite }

/-- The settings of a document. -/
def ofText (text : String) : Except Failure Settings :=
  match Toml.parse? text with
  | none => .error (.invalidSettings SettingsProblem.malformed.message)
  | some entries => (ofEntries entries).mapError fun problem => .invalidSettings problem.message

/-- A document without entries gives the default settings. -/
theorem ofEntries_nil : ofEntries [] = .ok {} := rfl

end Settings

end Schemata
