import Schemata.Model.Keyword

/-!
# Settings of a generation

What is generated, for which database, and where it goes.

* `default_mysql` - out of the box everything is generated for MySQL, and nothing is overwritten.
-/

namespace Schemata

/-- The settings of a generation. -/
structure Settings where
  /-- The database that migrations are written for. -/
  database : Database := .mysql
  /-- The directory that generated files go to. -/
  outputDir : String := "./generated"
  models : Bool := true
  migrations : Bool := true
  overwrite : Bool := false
  deriving DecidableEq, Repr

namespace Settings

/-- The settings without models. -/
def withoutModels (s : Settings) : Settings := { s with models := false }

/-- The settings without migrations. -/
def withoutMigrations (s : Settings) : Settings := { s with migrations := false }

/-- The settings under which existing files may be replaced. -/
def allowOverwrite (s : Settings) : Settings := { s with overwrite := true }

/-- Out of the box everything is generated for MySQL, and nothing is overwritten. -/
theorem default_mysql :
    ({} : Settings).database = .mysql ∧ ({} : Settings).models = true ∧
      ({} : Settings).migrations = true ∧ ({} : Settings).overwrite = false :=
  ⟨rfl, rfl, rfl, rfl⟩

end Settings

end Schemata
