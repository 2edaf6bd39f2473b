import Schemata.CommandLine.Invocation

/-!
# What is said about the command line

The text that is shown where a command line is not run: the help, the version, or what is wrong with
the line.

* `isAnswer_iff` - a text that was asked for comes with exit code 0, any other with 2.
-/

namespace Schemata.CommandLine

/-- The name of the program. -/
def programName : String := "tablesmith"

/-- The version of the program. -/
def programVersion : String := "0.1.0"

/-- One line on each command. -/
def CommandName.purpose : CommandName → String
  | .validate => "Load and validate schema files"
  | .migrate => "Write the SQL that turns the as-is schema into the to-be schema"
  | .generate => "Generate models and a migration script"
  | .info => "Display information about a schema"

/-- All commands, in the order in which they are shown. -/
def CommandName.all : List CommandName := [.validate, .migrate, .generate, .info]

/-- The name of an option as it is written. -/
def Key.written (key : Key) : String :=
  if key = .paths then "<PATHS>..." else "--" ++ key.longName

/-- The help. -/
def helpText : String :=
  let commands := CommandName.all.map fun name => "  " ++ name.word ++ ": " ++ name.purpose
  String.intercalate "\n"
    (["XML schema validation, MySQL migrations and model generation", "",
      "Usage: " ++ programName ++ " [OPTIONS] <COMMAND>", "", "Commands:"] ++ commands)

namespace UsageProblem

/-- What is said instead of running the command line. -/
def message : UsageProblem → String
  | .help => helpText
  | .helpInstead => helpText
  | .version => programName ++ " " ++ programVersion
  | .missingCommand => "a command is needed but none was given"
  | .unknownCommand argument => s!"unrecognized command '{argument}'"
  | .unknownArgument argument => s!"unexpected argument '{argument}'"
  | .missingValue key => "a value is needed for " ++ key.written ++ " but none was given"
  | .unsuitableValue key problem => "invalid value for " ++ key.written ++ ": " ++ problem.message
  | .repeated key => key.written ++ " cannot be used twice"
  | .unwantedValue key => key.written ++ " takes no value"
  | .missingArgument key => key.written ++ " is needed but was not given"

/-- The text was asked for. -/
def isAnswer : UsageProblem → Bool
  | .help => true
  | .version => true
  | _ => false

/-- A text that was asked for comes with exit code 0, any other with 2. -/
theorem isAnswer_iff (problem : UsageProblem) :
    problem.exitCode = if problem.isAnswer then 0 else 2 := by
  cases problem <;> rfl

end UsageProblem

end Schemata.CommandLine
