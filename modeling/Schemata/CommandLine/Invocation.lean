import Schemata.CommandLine.Option

/-!
# Reading the command line

Arguments are read from the left.  An option that takes a value waits for it, and one that takes
several goes on waiting until the next option; what has been gathered for an option is checked when
something else begins.  General options may stand before the command or behind it, and the ones
behind it win.

* `read_nil` - without arguments the help is shown instead;
* `settle_settled` - nothing is left to check behind a check.
-/

namespace Schemata.CommandLine

/-- Why a command line is not run. -/
inductive UsageProblem where
  | help
  | version
  /-- Nothing is asked for, so the help is shown. -/
  | helpInstead
  | missingCommand
  | unknownCommand (argument : String)
  /-- There is no such option, or no place for a value. -/
  | unknownArgument (argument : String)
  | missingValue (key : Key)
  /-- An option has a value that it does not take. -/
  | unsuitableValue (key : Key) (problem : KeywordProblem)
  | repeated (key : Key)
  | unwantedValue (key : Key)
  | missingArgument (key : Key)
  deriving DecidableEq, Repr

/-- The exit code where nothing is run: asking for help or the version is no mistake. -/
def UsageProblem.exitCode : UsageProblem → Nat
  | .help => 0
  | .version => 0
  | _ => 2

/-- What has been read of a command line. -/
structure Reading where
  /-- The values of the options that are complete, in order. -/
  given : List (Key × List String) := []
  /-- The option that is being given, with its values so far. -/
  pending : Option (Key × List String) := none
  waiting : Bool := false
  /-- Two hyphens were read: no option follows. -/
  valuesOnly : Bool := false
  deriving DecidableEq, Repr

namespace Reading

/-- An option is complete. -/
def isGiven (r : Reading) (key : Key) : Bool := r.given.any (·.1 = key)

/-- All values of an option, in order. -/
def values (r : Reading) (key : Key) : List String :=
  (r.given.filter (·.1 = key)).flatMap (·.2)

/-- The option takes the value. -/
def checkValue (key : Key) (value : String) : Except UsageProblem Unit :=
  if key = .database then
    match Database.ofText value with
    | .ok _ => .ok ()
    | .error problem => .error (.unsuitableValue key problem)
  else if value.isEmpty then .error (.missingValue key)
  else .ok ()

/-- The option takes all of the values. -/
def checkValues (key : Key) : List String → Except UsageProblem Unit
  | [] => .ok ()
  | value :: rest => do
    checkValue key value
    checkValues key rest

/-- An option becomes complete. -/
def accept (r : Reading) (key : Key) (values : List String) : Except UsageProblem Reading := do
  if key.arity ≠ .flag ∧ values.isEmpty then throw (.missingValue key)
  if key = .help then throw .help
  if key = .version then throw .version
  if key.arity ≠ .several ∧ r.isGiven key then throw (.repeated key)
  checkValues key values
  return { r with given := r.given ++ [(key, values)] }

/-- The pending option becomes complete. -/
def settle (r : Reading) : Except UsageProblem Reading :=
  match r.pending with
  | none => .ok { r with waiting := false }
  | some (key, values) => { r with pending := none, waiting := false }.accept key values

/-- A flag is given. -/
def giveFlag (r : Reading) (key : Key) : Except UsageProblem Reading := do
  let r ← r.settle
  r.accept key []

/-- An option is given, with a value of its own or with values to follow. -/
def giveOption (r : Reading) (key : Key) (value : Option String) : Except UsageProblem Reading := do
  let r ← r.settle
  match value with
  | some value => r.accept key [value]
  | none => return { r with pending := some (key, []), waiting := true }

/-- An option by its name, perhaps with a value behind an equals sign. -/
def takeLong (r : Reading) (place : Place) (text : List Char) : Except UsageProblem Reading :=
  let name := String.ofList (text.takeWhile (· ≠ '='))
  let value := match text.dropWhile (· ≠ '=') with
    | _ :: value => some (String.ofList value)
    | [] => none
  match place.named.find? (·.longName == name) with
  | none => .error (.unknownArgument ("--" ++ name))
  | some key =>
    if key.arity = .flag then
      if value.isSome then .error (.unwantedValue key) else r.giveFlag key
    else r.giveOption key value

/-- Options by their letters: flags, and at the end perhaps an option with its value. -/
def takeShort (r : Reading) (place : Place) : List Char → Except UsageProblem Reading
  | [] => .ok r
  | c :: rest =>
    match place.named.find? (·.shortName? == some c) with
    | none => .error (.unknownArgument (String.ofList ['-', c]))
    | some key =>
      if key.arity = .flag then
        match r.giveFlag key with
        | .ok r => r.takeShort place rest
        | .error problem => .error problem
      else
        match rest with
        | [] => r.giveOption key none
        | '=' :: value => r.giveOption key (some (String.ofList value))
        | value => r.giveOption key (some (String.ofList value))

/-- A value for the pending option. -/
def takeValue (r : Reading) (value : String) : Reading :=
  match r.pending with
  | none => r
  | some (key, values) =>
    { r with pending := some (key, values ++ [value]), waiting := key.arity = .several }

/-- A value without a name.  Where a command may stand it is one that does not exist, unless it is
one that may not stand behind two hyphens. -/
def takeUnnamed (r : Reading) (place : Place) (value : String) : Except UsageProblem Reading :=
  match place.unnamed with
  | none =>
    if place.hasCommand && !(r.valuesOnly && isCommandWord value) then
      .error (.unknownCommand value)
    else .error (.unknownArgument value)
  | some key =>
    if r.pending.any (·.1 = key) then
      .ok { r.takeValue value with waiting := false }
    else do
      let r ← r.settle
      return { r with pending := some (key, [value]) }

/-- The next argument. -/
def take (r : Reading) (place : Place) (argument : String) : Except UsageProblem Reading :=
  if r.valuesOnly then r.takeUnnamed place argument
  else
    match argument.toList with
    | ['-', '-'] => .ok { r with valuesOnly := true }
    | '-' :: '-' :: text => r.takeLong place text
    | '-' :: c :: text => r.takeShort place (c :: text)
    | _ => if r.waiting then .ok (r.takeValue argument) else r.takeUnnamed place argument

/-- The end of the arguments behind a command: everything that is needed must be there. -/
def finish (r : Reading) (place : Place) : Except UsageProblem Reading := do
  let r ← r.settle
  match place.needed.find? (!r.isGiven ·) with
  | some key => .error (.missingArgument key)
  | none => .ok r

/-- The arguments behind a command. -/
def readAll (place : Place) (r : Reading) : List String → Except UsageProblem Reading
  | [] => r.finish place
  | argument :: rest =>
    match r.take place argument with
    | .ok r => readAll place r rest
    | .error problem => .error problem

end Reading

/-- What a generation is asked to do beyond the settings. -/
structure GenerateRequest where
  paths : List String
  /-- The output directory, instead of the one of the settings. -/
  output : Option String := none
  asIs : List String := []
  force : Bool := false
  /-- Only what changed since the last generation is generated. -/
  incremental : Bool := false
  noModels : Bool := false
  noMigrations : Bool := false
  deriving DecidableEq, Repr

/-- What a command line asks for. -/
inductive Command where
  | validate (paths : List String) (json : Bool)
  | migrate (asIs toBe : List String) (output : Option String) (database : Option Database)
  | generate (request : GenerateRequest)
  | info (paths : List String)
  deriving DecidableEq, Repr

/-- A command line that can be run. -/
structure Invocation where
  config : String := "tablesmith.toml"
  verbose : Bool := false
  command : Command
  deriving DecidableEq, Repr

/-- The command with the options that were read behind it. -/
def CommandName.toCommand (name : CommandName) (r : Reading) : Command :=
  match name with
  | .validate => .validate (r.values .paths) (r.isGiven .json)
  | .migrate =>
    .migrate (r.values .asIs) (r.values .toBe) (r.values .output).head?
      ((r.values .database).head?.bind fun text => (Database.ofText text).toOption)
  | .generate =>
    .generate {
      paths := r.values .paths
      output := (r.values .output).head?
      asIs := r.values .asIs
      force := r.isGiven .force
      incremental := r.isGiven .incremental
      noModels := r.isGiven .noModels
      noMigrations := r.isGiven .noMigrations }
  | .info => .info (r.values .paths)

/-- The invocation of a command, with the options before it and behind it. -/
def invocation (before behind : Reading) (name : CommandName) : Invocation :=
  let default := "tablesmith.toml"
  { config := ((behind.values .config).head? <|> (before.values .config).head?).getD default
    verbose := before.isGiven .verbose || behind.isGiven .verbose
    command := name.toCommand behind }

/-- What comes of asking for the help on commands. -/
def helpOn : List String → UsageProblem
  | [] => .help
  | word :: rest =>
    if isCommandWord word then
      match rest with
      | [] => .help
      | next :: _ => .unknownCommand next
    else .unknownCommand word

/-- The arguments up to the command, and those behind it. -/
def readFrom (r : Reading) : List String → Except UsageProblem Invocation
  | [] => do
    let r ← r.settle
    if r.given.isEmpty then throw .helpInstead else throw .missingCommand
  | argument :: rest =>
    let word := if r.valuesOnly || r.waiting then none else some argument
    if word == some helpWord then .error (helpOn rest)
    else
      match word.bind CommandName.ofWord? with
      | some name => do
        let behind ← Reading.readAll name.place {} rest
        let before ← r.settle
        return invocation before behind name
      | none =>
        match r.take generalPlace argument with
        | .ok r => readFrom r rest
        | .error problem => .error problem

/-- The invocation of a command line. -/
def read (arguments : List String) : Except UsageProblem Invocation := readFrom {} arguments

/-- Without arguments the help is shown instead. -/
theorem read_nil : read [] = .error .helpInstead := rfl

/-- Nothing is left to check where nothing is pending. -/
theorem Reading.settle_settled {r : Reading} (h : r.pending = none) :
    r.settle = .ok { r with waiting := false } := by
  simp [settle, h]

end Schemata.CommandLine
