/-!
# Failures

Whatever stops a run is a `Failure`.  Faults of a schema do not stop anything: they are collected in
a log, and only a step that needs a valid schema turns the log into a failure.

* `bind_eq_ok` - two steps that may fail succeed if both do;
* `kinds_disjoint` - the four classes of failures that callers tell apart do not overlap.
-/

namespace Schemata

/-- Two steps that may fail succeed if both do. -/
theorem bind_eq_ok {ε α β : Type} {x : Except ε α} {f : α → Except ε β} {b : β} :
    (x >>= f) = .ok b ↔ ∃ a, x = .ok a ∧ f a = .ok b := by
  cases x <;> simp [bind, Except.bind]

/-- Why the operating system refuses a file operation. -/
inductive OsError where
  | noEntry
  /-- Something exists where a new directory is asked for. -/
  | exists
  /-- A part of the path that should be a directory is a file. -/
  | notDirectory
  /-- The path is a directory where a file is needed. -/
  | isDirectory
  /-- The content is not UTF-8 where a text is needed. -/
  | invalidText
  | other (message : String)
  deriving DecidableEq, Repr

/-- The wording of a refusal. -/
def OsError.message : OsError → String
  | .noEntry => "No such file or directory (os error 2)"
  | .exists => "File exists (os error 17)"
  | .notDirectory => "Not a directory (os error 20)"
  | .isDirectory => "Is a directory (os error 21)"
  | .invalidText => "stream did not contain valid UTF-8"
  | .other message => message

/-- What two entities of one model must not share. -/
inductive EntityKey where
  | className
  | table
  deriving DecidableEq, Repr

/-- The word for a key. -/
def EntityKey.word : EntityKey → String
  | .className => "class"
  | .table => "table"

/-- What is done to a model while it may still change. -/
inductive ModelChange where
  | register
  | extend
  deriving DecidableEq, Repr

/-- The word for a change. -/
def ModelChange.word : ModelChange → String
  | .register => "register"
  | .extend => "extend"

/-- Why a run stops. -/
inductive Failure where
  | validation (message : String)
  | entityNotFound (className : String)
  | duplicateEntity (key : EntityKey) (name : String)
  /-- The model is linked and no longer changes. -/
  | frozen (change : ModelChange) (className : String)
  | malformedXml (source message : String)
  /-- A file operation of no particular kind failed. -/
  | io (message : String)
  | fileRead (path message : String)
  | fileWrite (path message : String)
  | directoryCreate (path message : String)
  | outputExists (path : String)
  | invalidSettings (message : String)
  | internal (message : String)
  | notImplemented (feature : String)
  deriving DecidableEq, Repr

namespace Failure

/-- The wording of a failure. -/
def message : Failure → String
  | .validation message => s!"Validation error: {message}"
  | .entityNotFound className => s!"Entity not found: {className}"
  | .duplicateEntity key name =>
    let word := key.word
    s!"Duplicate entity: {word} '{name}' already exists"
  | .frozen change className =>
    let word := change.word
    s!"Cannot {word} entity '{className}': the data model container is already resolved"
  | .malformedXml source message => s!"Failed to parse XML '{source}': {message}"
  | .io message => s!"IO error: {message}"
  | .fileRead path message => s!"Failed to read file '{path}': {message}"
  | .fileWrite path message => s!"Failed to write file '{path}': {message}"
  | .directoryCreate path message => s!"Failed to create directory '{path}': {message}"
  | .outputExists path => s!"Output file already exists: {path}"
  | .invalidSettings message => s!"Invalid configuration: {message}"
  | .internal message => s!"Internal error: {message}"
  | .notImplemented feature => s!"Feature not implemented: {feature}"

/-- The schema is at fault. -/
def isValidation : Failure → Bool
  | .validation _ => true
  | _ => false

/-- Something named does not exist. -/
def isNotFound : Failure → Bool
  | .entityNotFound _ => true
  | _ => false

/-- The caller broke the rules of the model. -/
def isContractViolation : Failure → Bool
  | .duplicateEntity .. => true
  | .frozen .. => true
  | _ => false

/-- A file operation failed. -/
def isIo : Failure → Bool
  | .io _ => true
  | .fileRead .. => true
  | .fileWrite .. => true
  | .directoryCreate .. => true
  | _ => false

/-- **No failure belongs to two classes.** -/
theorem kinds_disjoint (f : Failure) :
    [f.isValidation, f.isNotFound, f.isContractViolation, f.isIo].count true ≤ 1 := by
  cases f <;> simp [isValidation, isNotFound, isContractViolation, isIo]

end Failure

end Schemata
