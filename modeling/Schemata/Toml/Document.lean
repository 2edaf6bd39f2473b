import Schemata.Toml.Moment

/-!
# TOML documents

A document is read line by line: assignments fill the table whose header came last, and the document
itself before any header.

* `parse?_blank` - an empty document has no entries.
-/

namespace Schemata.Toml.Reader

/-- How many values may stand inside each other, and how many parts a key may have, is less than
this. -/
def maxDepth : Nat := 80

/-- The text behind its blanks. -/
def skipSpace (cs : List Char) : List Char := cs.dropWhile isSpace

/-- The text behind blanks, line ends and comments; a comment ends at a line end. -/
def skipLines : Bool → List Char → Option (List Char)
  | true, [] => none
  | false, [] => some []
  | _, '\r' :: '\n' :: rest => skipLines false rest
  | _, '\n' :: rest => skipLines false rest
  | true, c :: rest => if isPlain c then skipLines true rest else none
  | false, c :: rest =>
    if isSpace c then skipLines false rest
    else if c = '#' then skipLines true rest
    else some (c :: rest)

/-- The text behind the end of a line, before which blanks and a comment may stand. -/
def endLine (cs : List Char) : Option (List Char) :=
  let rest := match skipSpace cs with
    | '#' :: rest => rest.dropWhile isPlain
    | rest => rest
  match rest with
  | [] => some []
  | '\n' :: rest => some rest
  | '\r' :: '\n' :: rest => some rest
  | _ => none

/-- A character of a key without marks. -/
def isBare (c : Char) : Bool := c.isAlphanum || c == '-' || c == '_'

/-- One part of a key. -/
def keyPart (cs : List Char) : Option (String × List Char) :=
  match shortText cs with
  | some found => some found
  | none =>
    match cs.takeWhile isBare with
    | [] => none
    | bare => some (String.ofList bare, cs.dropWhile isBare)

/-- The parts of a key, separated by points.  Blanks may stand around them. -/
def keyParts : Nat → List Char → Option (List String × List Char)
  | 0, _ => none
  | fuel + 1, cs => do
    let (part, rest) ← keyPart (skipSpace cs)
    match skipSpace rest with
    | '.' :: rest => (keyParts fuel rest).map fun (parts, rest) => (part :: parts, rest)
    | rest => some ([part], rest)

/-- A key. -/
def key (cs : List Char) : Option (List String × List Char) := do
  let (parts, rest) ← keyParts maxDepth cs
  if parts.length < maxDepth then some (parts, rest) else none

/-- A number or a moment. -/
def quantity (cs : List Char) : Option (Toml × List Char) :=
  moment cs <|> float cs <|> special cs <|> integer cs

mutual

/-- A value that stands inside `depth` others. -/
def value : Nat → Nat → List Char → Option (Toml × List Char)
  | 0, _, _ => none
  | fuel + 1, depth, cs =>
    match cs with
    | '"' :: _ => (text cs).map fun (s, rest) => (.text s, rest)
    | '\'' :: _ => (text cs).map fun (s, rest) => (.text s, rest)
    | 't' :: _ => (expect "true" cs).map (.bool true, ·)
    | 'f' :: _ => (expect "false" cs).map (.bool false, ·)
    | '[' :: rest =>
      if depth + 1 < maxDepth then
        (items fuel (depth + 1) rest).map fun (found, rest) => (.list found, rest)
      else none
    | '\x7b' :: rest =>
      if depth + 1 < maxDepth then
        match skipSpace rest with
        | '\x7d' :: rest => some (.inline [], rest)
        | _ => (pairs fuel (depth + 1) [] rest).map fun (found, rest) => (.inline found, rest)
      else none
    | _ => quantity cs

/-- The items of a list up to its closing bracket. -/
def items : Nat → Nat → List Char → Option (List Toml × List Char)
  | 0, _, _ => none
  | fuel + 1, depth, cs =>
    match skipLines false cs with
    | none => none
    | some (']' :: rest) => some ([], rest)
    | some cs =>
      match value fuel depth cs with
      | none => none
      | some (item, rest) =>
        match skipLines false rest with
        | some (',' :: rest) =>
          (items fuel depth rest).map fun (found, rest) => (item :: found, rest)
        | some (']' :: rest) => some ([item], rest)
        | _ => none

/-- The assignments of a table in braces up to its closing brace; there is at least one. -/
def pairs : Nat → Nat → Entries → List Char → Option (Entries × List Char)
  | 0, _, _, _ => none
  | fuel + 1, depth, entries, cs =>
    match key cs with
    | some (path, '=' :: rest) =>
      match value fuel depth (skipSpace rest) with
      | none => none
      | some (item, rest) =>
        match assign path item .header entries with
        | none => none
        | some entries =>
          match skipSpace rest with
          | ',' :: rest => pairs fuel depth entries rest
          | '\x7d' :: rest => some (entries, rest)
          | _ => none
    | _ => none

end

/-- An assignment. -/
def assignment (cs : List Char) : Option (List String × Toml × List Char) :=
  match key cs with
  | some (path, '=' :: rest) =>
    (value (2 * cs.length + 2) 0 (skipSpace rest)).map fun (found, rest) => (path, found, rest)
  | _ => none

/-- The text behind the closing brackets of a header. -/
def behindHeader (brackets : String) (cs : List Char) : Option (List Char) :=
  (expect brackets cs).bind endLine

/-- A table with a header, or one more of a list of tables. -/
def opened (list : Bool) (path : List String) (root : Entries) : Option Entries :=
  match path.getLast? with
  | none => none
  | some name =>
    edit false (fun _ entries => if list then openItem name entries else openTable name entries)
      path.dropLast .header root

/-- Reads the lines of a document into its entries; `header` is the path of the table that takes
assignments. -/
def document : Nat → List String → Entries → List Char → Option Entries
  | 0, _, _, _ => none
  | fuel + 1, header, root, cs =>
    match skipSpace cs with
    | [] => some root
    | '[' :: '[' :: rest => do
      let (path, rest) ← key rest
      let rest ← behindHeader "]]" rest
      let root ← opened true path root
      document fuel path root rest
    | '[' :: rest => do
      let (path, rest) ← key rest
      let rest ← behindHeader "]" rest
      let root ← opened false path root
      document fuel path root rest
    | c :: rest =>
      if c = '#' ∨ c = '\n' ∨ c = '\r' then do
        let rest ← endLine (c :: rest)
        document fuel header root rest
      else do
        let (path, found, rest) ← assignment (c :: rest)
        let rest ← endLine rest
        let root ← edit false (assign path found) header .header root
        document fuel header root rest

end Schemata.Toml.Reader

namespace Schemata.Toml

/-- The text without the byte order mark that it may begin with. -/
def behindMark : List Char → List Char
  | '\ufeff' :: rest => rest
  | cs => cs

/-- The entries of a document.  Every line takes a character at least, so the length of the text
bounds their number. -/
def parse? (s : String) : Option Entries :=
  let cs := behindMark s.toList
  Reader.document (cs.length + 1) [] [] cs

/-- An empty document has no entries. -/
theorem parse?_blank : parse? "" = some [] := by rfl

end Schemata.Toml
