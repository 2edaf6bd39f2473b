import Schemata.Files.Access

/-!
# A disk

A disk is a tree of files and directories without links.  It is held as the list of everything in it
with its location; the working directory, the directories above it and the root are always there.

A path is followed name by name: every name but the last must lead to a directory.

* `node?_put_self`, `node?_put_other` - a node that is put at a location is found there, and
  everything else stays;
* `node?_working` - the working directory is a directory.
-/

namespace Schemata

/-- Where something is: the names that lead to it from the working directory, `..` for each step
above, or behind a slash from the root. -/
abbrev Location := List String

namespace Location

/-- Where a name leads from a directory. -/
def step (here : Location) (name : String) : Location :=
  if name = "." then here
  else if name = ".." then
    match here.getLast? with
    | some last =>
      if last = ".." then here ++ [".."] else if last = "/" then here else here.dropLast
    | none => [".."]
  else here ++ [name]

/-- The location is the working directory, above it, or the root. -/
def isFixed (here : Location) : Bool := here.all (· == "..") || here == ["/"]

end Location

/-- Something on a disk. -/
inductive Node where
  /-- A file: its bytes, and when they were written. -/
  | file (content : ByteArray) (modified : Int)
  | directory

/-- The kind of a node. -/
def Node.kind : Node → FileKind
  | .file .. => .file
  | .directory => .directory

/-- A tree of files and directories. -/
structure Disk where
  nodes : List (Location × Node) := []
  now : Int := 0

namespace Disk

/-- What is at a location. -/
def node? (d : Disk) (here : Location) : Option Node :=
  if here.isFixed then some .directory else d.nodes.lookup here

/-- The disk with a node put at a location. -/
def put (d : Disk) (here : Location) (node : Node) : Disk :=
  { d with nodes := (here, node) :: d.nodes.filter (·.1 != here) }

/-- Where names lead from a location; each of them needs a directory to stand in. -/
def follow (d : Disk) (here : Location) : List String → Except OsError Location
  | [] => .ok here
  | name :: rest =>
    match d.node? here with
    | none => .error .noEntry
    | some (.file ..) => .error .notDirectory
    | some .directory => d.follow (here.step name) rest

/-- Where a path begins. -/
def start (path : String) : Location := if Path.isAbsolute path then ["/"] else []

/-- The names of a path, those that count for nothing apart. -/
def namesOf (path : String) : List String :=
  ((Path.segmentsOf path.toList).map String.ofList).filter (· ≠ "")

/-- Where a path leads, whether something is there or not. -/
def locate (d : Disk) (path : String) : Except OsError Location :=
  if path.isEmpty then .error .noEntry else d.follow (start path) (namesOf path)

/-- What is at a path.  A slash at its end asks for a directory. -/
def found (d : Disk) (path : String) : Except OsError Node := do
  let here ← d.locate path
  match d.node? here with
  | none => .error .noEntry
  | some (.file content modified) =>
    if Path.endsWithSlash path then .error .notDirectory else .ok (.file content modified)
  | some .directory => .ok .directory

/-- The bytes of a file as a text. -/
def textOf (content : ByteArray) : Except OsError String :=
  match String.fromUTF8? content with
  | some text => .ok text
  | none => .error .invalidText

/-- The text of the file at a path. -/
def readText (d : Disk) (path : String) : Except OsError String := do
  match ← d.found path with
  | .file content _ => textOf content
  | .directory => .error .isDirectory

/-- When the file or directory at a path was last modified. -/
def modified? (d : Disk) (path : String) : Option Int :=
  match d.found path with
  | .ok (.file _ modified) => some modified
  | .ok .directory => some d.now
  | .error _ => none

/-- The names that lead from one location to another below it. -/
def below? (here there : Location) : Option (List String) :=
  if here.isPrefixOf there && here.length < there.length then some (there.drop here.length)
  else none

/-- The files anywhere below a path.  A walk fails only where it would begin. -/
def filesBelow (d : Disk) (path : String) : Except WalkFailure (List (List String)) :=
  match d.locate path with
  | .error reason => .error { path, reason }
  | .ok here =>
    .ok (d.nodes.filterMap fun (there, node) =>
      if node.kind = .file then below? here there else none)

/-- The disk with a new directory. -/
def makeDirectory (d : Disk) (path : String) : Except OsError Disk := do
  let here ← d.locate path
  match d.node? here with
  | some _ => .error .exists
  | none => .ok (d.put here .directory)

/-- The disk with a text in the file at a path. -/
def writeText (d : Disk) (path content : String) : Except OsError Disk := do
  let here ← d.locate path
  if Path.endsWithSlash path then .error .isDirectory
  else
    match d.node? here with
    | some .directory => .error .isDirectory
    | _ => .ok (d.put here (.file content.toUTF8 d.now))

/-- An attempt at a change, which leaves the disk as it is where it fails. -/
def attempt (change : Disk → Except OsError Disk) : StateM Disk (Except OsError Unit) := fun d =>
  match change d with
  | .ok changed => (.ok (), changed)
  | .error reason => (.error reason, d)

/-- The operations on files, carried out on a disk. -/
def access : FileAccess (StateM Disk) where
  kind? path := fun d => ((d.found path).toOption.map (·.kind), d)
  modified? path := fun d => (d.modified? path, d)
  readText path := fun d => (d.readText path, d)
  filesBelow path := fun d => (d.filesBelow path, d)
  makeDirectory path := attempt (·.makeDirectory path)
  writeText path content := attempt (·.writeText path content)

/-- A node that is put at a location is found there. -/
theorem node?_put_self {d : Disk} {here : Location} (node : Node) (h : here.isFixed = false) :
    (d.put here node).node? here = some node := by
  simp [put, node?, h]

/-- Removing one location from a list leaves what is found at another. -/
theorem lookup_filter_ne {here there : Location} (h : there ≠ here)
    (nodes : List (Location × Node)) :
    (nodes.filter (·.1 != here)).lookup there = nodes.lookup there := by
  induction nodes with
  | nil => rfl
  | cons entry rest ih =>
    obtain ⟨place, node⟩ := entry
    by_cases hp : place = here
    · subst hp
      have : (there == place) = false := beq_false_of_ne h
      simp [List.filter, List.lookup_cons, this, ih]
    · have hkeep : (place != here) = true := bne_iff_ne.2 hp
      simp only [List.filter, hkeep, List.lookup_cons, ih]

/-- **Putting a node somewhere changes nothing elsewhere.** -/
theorem node?_put_other {d : Disk} {here there : Location} (node : Node) (h : there ≠ here) :
    (d.put here node).node? there = d.node? there := by
  have hne : (there == here) = false := beq_false_of_ne h
  simp [put, node?, List.lookup_cons, hne, lookup_filter_ne h]

/-- The working directory is a directory. -/
theorem node?_working (d : Disk) : d.node? [] = some .directory := by
  simp [node?, Location.isFixed]

end Disk

end Schemata
