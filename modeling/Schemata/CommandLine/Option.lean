import Schemata.Model.Keyword

/-!
# Options of the command line

Which options there are, what they are called, and which of them each command takes.

* `CommandName.ofWord?_word` - commands are found by their words;
* `CommandName.config_named` - the settings file can be given with every command.
-/

namespace Schemata.CommandLine

/-- What can be given on a command line. -/
inductive Key where
  | config
  | verbose
  | help
  | version
  | paths
  | json
  | asIs
  /-- The schemas that the database is to have. -/
  | toBe
  | output
  | database
  | force
  | incremental
  | noModels
  | noMigrations
  deriving DecidableEq, Repr

/-- How many values an option takes. -/
inductive Arity where
  | flag
  | one
  /-- One or more, and the option may be repeated. -/
  | several
  deriving DecidableEq, Repr

/-- How many values a key takes. -/
def Key.arity : Key → Arity
  | .config => .one
  | .output => .one
  | .database => .one
  | .paths => .several
  | .asIs => .several
  | .toBe => .several
  | _ => .flag

/-- The name behind two hyphens. -/
def Key.longName : Key → String
  | .config => "config"
  | .verbose => "verbose"
  | .help => "help"
  | .version => "version"
  | .paths => "paths"
  | .json => "json"
  | .asIs => "as-is"
  | .toBe => "to-be"
  | .output => "output"
  | .database => "database"
  | .force => "force"
  | .incremental => "incremental"
  | .noModels => "no-models"
  | .noMigrations => "no-migrations"

/-- The letter behind one hyphen, if there is one. -/
def Key.shortName? : Key → Option Char
  | .config => some 'c'
  | .verbose => some 'v'
  | .help => some 'h'
  | .version => some 'V'
  | .output => some 'o'
  | .force => some 'f'
  | _ => none

/-- The commands. -/
inductive CommandName where
  | validate
  | migrate
  | generate
  | info
  deriving DecidableEq, Repr

/-- The word for a command. -/
def CommandName.word : CommandName → String
  | .validate => "validate"
  | .migrate => "migrate"
  | .generate => "generate"
  | .info => "info"

/-- The command of a word. -/
def CommandName.ofWord? : String → Option CommandName
  | "validate" => some .validate
  | "migrate" => some .migrate
  | "generate" => some .generate
  | "info" => some .info
  | _ => none

/-- The word that asks for the help on a command. -/
def helpWord : String := "help"

/-- The word stands for a command, or asks for the help on one. -/
def isCommandWord (word : String) : Bool :=
  word == helpWord || (CommandName.ofWord? word).isSome

/-- What may be given at one place: before the command, or behind it. -/
structure Place where
  hasCommand : Bool := false
  named : List Key
  unnamed : Option Key := none
  needed : List Key := []

/-- What may stand before the command. -/
def generalPlace : Place :=
  { hasCommand := true, named := [.config, .verbose, .help, .version] }

/-- What may stand behind a command. -/
def CommandName.place : CommandName → Place
  | .validate =>
    { named := [.config, .verbose, .help, .json], unnamed := some .paths, needed := [.paths] }
  | .migrate =>
    { named := [.config, .verbose, .help, .asIs, .toBe, .output, .database]
      needed := [.asIs, .toBe] }
  | .generate =>
    { named := [.config, .verbose, .help, .output, .asIs, .force, .incremental, .noModels,
        .noMigrations]
      unnamed := some .paths
      needed := [.paths] }
  | .info => { named := [.config, .verbose, .help], unnamed := some .paths, needed := [.paths] }

/-- Commands are found by their words. -/
theorem CommandName.ofWord?_word (name : CommandName) : ofWord? name.word = some name := by
  cases name <;> rfl

/-- The settings file can be given with every command. -/
theorem CommandName.config_named (name : CommandName) : Key.config ∈ name.place.named := by
  cases name <;> simp [place]

end Schemata.CommandLine
