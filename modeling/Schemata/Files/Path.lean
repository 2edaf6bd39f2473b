/-!
# Paths

A path is a text.  Slashes separate the names it leads through; empty names and inner `.` count for
nothing, and a leading slash or a leading `.` is a part of its own.

* `join_absolute` - an absolute path stands for itself wherever it is joined to;
* `join_empty` - below the empty path every path stands for itself.
-/

namespace Schemata.Path

/-- The path starts at the root. -/
def isAbsolute (p : String) : Bool := p.toList.head? == some '/'

/-- The path ends with a slash. -/
def endsWithSlash (p : String) : Bool := p.toList.getLast? == some '/'

/-- A path below another, or by itself if it is absolute. -/
def join (base part : String) : String :=
  if isAbsolute part then part
  else if base.isEmpty || endsWithSlash base then base ++ part
  else base ++ "/" ++ part

/-- What stands between the slashes of a path. -/
def segmentsOf : List Char → List (List Char)
  | [] => [[]]
  | c :: rest =>
    if c = '/' then [] :: segmentsOf rest
    else
      match segmentsOf rest with
      | [] => [[c]]
      | first :: more => (c :: first) :: more

/-- The leading part of a path, if it has one, and the segments behind it. -/
def split (p : String) : String × List String :=
  match p.toList with
  | '/' :: rest => ("/", (segmentsOf rest).map String.ofList)
  | ['.'] => (".", [])
  | '.' :: '/' :: rest => (".", (segmentsOf ('/' :: rest)).map String.ofList)
  | cs => ("", (segmentsOf cs).map String.ofList)

/-- The segment counts as a part of the path. -/
def isName (segment : String) : Bool := segment != "" && segment != "."

/-- The segments without those at the end that count for nothing. -/
def trimSegments (segments : List String) : List String :=
  (segments.reverse.dropWhile fun s => !isName s).reverse

/-- The parts of a path, by which paths are compared. -/
def components (p : String) : List String :=
  let (lead, segments) := split p
  (if lead.isEmpty then [] else [lead]) ++ segments.filter isName

/-- The path that a path stands in.  The root and the empty path stand in none. -/
def parent? (p : String) : Option String :=
  let (lead, segments) := split p
  match segments.reverse.dropWhile fun s => !isName s with
  | _ :: before => some (lead ++ String.intercalate "/" (trimSegments before.reverse))
  | [] => if lead = "." then some "" else none

/-- The path itself and all paths that it stands in, the empty path apart; at most `depth` of
them. -/
def upwardsFrom : Nat → String → List String
  | 0, _ => []
  | depth + 1, p =>
    if p.isEmpty then []
    else p :: match parent? p with
      | some above => upwardsFrom depth above
      | none => []

/-- The path itself and all paths that it stands in, the empty path apart. -/
def upwards (p : String) : List String := upwardsFrom (p.length + 1) p

/-- The ending of a file name: what stands behind its last point, unless nothing stands before. -/
def ending? (name : String) : Option String :=
  if name = ".." then none
  else
    let behind := name.toList.reverse.takeWhile (· ≠ '.')
    match name.toList.reverse.drop behind.length with
    | _ :: _ :: _ => some (String.ofList behind.reverse)
    | _ => none

/-- An absolute path stands for itself wherever it is joined to. -/
theorem join_absolute {base part : String} (h : isAbsolute part) : join base part = part := by
  simp [join, h]

/-- Below the empty path every path stands for itself. -/
theorem join_empty (part : String) : join "" part = part := by
  unfold join
  split
  · rfl
  · simp

end Schemata.Path
