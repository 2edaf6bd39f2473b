import Schemata.Failure
import Schemata.Migration.Statement
import Schemata.Text.Replace

/-!
# MySQL

The SQL of a statement in the words of MySQL.  A statement is first written about a placeholder, and
the table takes its place when the statement is bound to one.

* `unquoted_quote` - a quoted name reads back.
-/

namespace Schemata

open Text

/-- A way to write migrations. -/
inductive Dialect where
  | mysql
  deriving DecidableEq, Repr

namespace Dialect

/-- The database that speaks a dialect. -/
def database : Dialect → Database
  | .mysql => .mysql

/-- The dialect of a database, if migrations can be written for it. -/
def ofDatabase : Database → Except Failure Dialect
  | .mysql => .ok .mysql
  | other =>
    let name := other.displayName
    .error (.notImplemented s!"migrations for {name}")

end Dialect

namespace Mysql

/-- The mark around names. -/
def mark : Char := '\x60'

/-- The characters of a name inside its marks: a mark is written twice. -/
def quotedChars : List Char → List Char
  | [] => []
  | c :: rest => if c = mark then mark :: mark :: quotedChars rest else c :: quotedChars rest

/-- A name between marks. -/
def quote (name : String) : String :=
  String.ofList (mark :: quotedChars name.toList ++ [mark])

/-- Names between marks, separated by commas. -/
def quoteList (names : List String) : String :=
  String.intercalate ", " (names.map quote)

/-- What stands for the table until the statement is bound to one. -/
def placeholder : String := "!TABLE!"

/-- The statement about a table, whose name is already quoted. -/
def bind (table statement : String) : String :=
  replaceAll placeholder table statement

/-- The clause of a foreign key. -/
def foreignKeyClause (key : ForeignKey) : String :=
  let constraint := quote key.constraint
  let columns := quoteList key.columns
  let table := quote key.foreignTable
  let foreign := quoteList key.foreignColumns
  let onDelete := key.onDelete.sql
  let onUpdate := key.onUpdate.sql
  s!"CONSTRAINT {constraint} FOREIGN KEY ({columns}) REFERENCES {table} ({foreign})" ++
    s!" ON DELETE {onDelete} ON UPDATE {onUpdate}"

/-- One column of an index, with its length and direction where they are written. -/
def indexPart (part : IndexPart) : String :=
  let length := match part.length with
    | some n =>
      let digits := n.toNat.repr
      s!"({digits})"
    | none => ""
  let direction := match part.sortOrder with
    | some order => " " ++ order.sql
    | none => ""
  quote part.column ++ length ++ direction

/-- The type is written as a kind of index and not as a method. -/
def isIndexKind (type : String) : Bool := type == "fulltext" || type == "spatial"

/-- The word before `INDEX`: a kind of index, or uniqueness. -/
def indexKind (i : Index) : String :=
  let uniqueness := if i.unique then "UNIQUE " else ""
  match i.type with
  | some type => if isIndexKind type then uppercase type ++ " " else uniqueness
  | none => uniqueness

/-- The method behind the columns of an index. -/
def indexMethod (i : Index) : String :=
  match i.type with
  | some type => if isIndexKind type then "" else " USING " ++ uppercase type
  | none => ""

/-- The definition of an index. -/
def indexDefinition (i : Index) : String :=
  let kind := indexKind i
  let name := quote i.name
  let parts := String.intercalate ", " (i.parts.map indexPart)
  let method := indexMethod i
  s!"{kind}INDEX {name} ({parts}){method}"

/-- The definition of a column. -/
def columnDefinition (c : ColumnDefinition) : String :=
  let defaultClause := match c.defaultValue with
    | some value => " DEFAULT " ++ value
    | none => ""
  quote c.name ++ " " ++ trim c.type ++ (if c.notNull then " NOT NULL" else "") ++
    (if c.autoIncrement then " AUTO_INCREMENT" else "") ++ defaultClause

/-- The words of a definition. -/
def definition : Definition → String
  | .column column => columnDefinition column
  | .primaryKey columns => "PRIMARY KEY (" ++ quoteList columns ++ ")"
  | .index index => indexDefinition index
  | .foreignKey key => foreignKeyClause key

/-- The statement about a table under the given name. -/
def write (table : String) : Statement → String
  | .create definitions =>
    let body := String.intercalate ",\n    " (definitions.map definition)
    s!"CREATE TABLE {table} (\n    {body}\n)"
  | .drop => s!"DROP TABLE IF EXISTS {table}"
  | .add added => s!"ALTER TABLE {table} ADD " ++ definition added
  | .modify column => s!"ALTER TABLE {table} MODIFY " ++ columnDefinition column
  | .dropColumn name => s!"ALTER TABLE {table} DROP COLUMN " ++ quote name
  | .dropForeignKey constraint => s!"ALTER TABLE {table} DROP FOREIGN KEY " ++ quote constraint
  | .dropIndex name => s!"ALTER TABLE {table} DROP INDEX " ++ quote name

/-- The statement about no particular table. -/
def template (s : Statement) : String := write placeholder s

/-- The statement about a table. -/
def sql (table : String) (s : Statement) : String := bind (quote table) (template s)

/-- The characters of a quoted name, and what is behind it, given what follows the first mark. -/
def unquoted : List Char → Option (List Char × List Char)
  | [] => none
  | c :: rest =>
    if c = mark then
      match rest with
      | d :: more =>
        if d = mark then (unquoted more).map fun (name, behind) => (mark :: name, behind)
        else some ([], d :: more)
      | [] => some ([], [])
    else (unquoted rest).map fun (name, behind) => (c :: name, behind)

/-- **A quoted name reads back,** whatever is behind it, unless that is one more mark. -/
theorem unquoted_quote (name behind : List Char) (h : behind.head? ≠ some mark) :
    unquoted (quotedChars name ++ mark :: behind) = some (name, behind) := by
  induction name with
  | nil =>
    cases behind with
    | nil => simp [quotedChars, unquoted]
    | cons d more =>
      have hd : d ≠ mark := fun e => h (by simp [e])
      simp [quotedChars, unquoted, hd]
  | cons c rest ih =>
    by_cases hc : c = mark
    · simp [quotedChars, unquoted, hc, ih]
    · rw [quotedChars, if_neg hc, List.cons_append, unquoted.eq_def]
      simp [hc, ih]

end Mysql

end Schemata
