import Schemata.Text.Blank
import Schemata.Text.CaseMap

/-!
# Keywords of a schema

Some values of a schema are a choice among a few words: the database, the action of a foreign key,
the direction of an index part.  Each choice has the word that is read leniently from a schema
(`ofText`), the word of the generated SQL, and the word of the JSON form (`jsonWord`), which is read
back exactly.

* `Database.ofJsonWord?_jsonWord`, `ReferentialAction.ofJsonWord?_jsonWord`,
  `SortOrder.ofJsonWord?_jsonWord` - the JSON words read back;
* `ReferentialAction.ofText_sql`, `SortOrder.ofText_sql` - so do the SQL words, leniently.
-/

namespace Schemata

open Text

/-- A word that stands for no choice, with the text as it was compared. -/
inductive KeywordProblem where
  | unknownDatabase (text : String)
  | unknownAction (text : String)
  | unknownSortOrder (text : String)
  | unknownCollectorType (text : String)
  /-- A many-to-many collector names no mapping class. -/
  | mappingClassMissing
  deriving DecidableEq, Repr

/-- The wording of a keyword problem. -/
def KeywordProblem.message : KeywordProblem → String
  | .unknownDatabase text => s!"unknown database type '{text}'"
  | .unknownAction text => s!"unknown referential action '{text}'"
  | .unknownSortOrder text => s!"unknown sort order '{text}'"
  | .unknownCollectorType text => s!"unknown collector type '{text}' (expected '1n' or 'nm')"
  | .mappingClassMissing => "collector type 'nm' requires a mapping class"

/-- The database that a migration is written for. -/
inductive Database where
  | mysql
  | postgresql
  | sqlite
  deriving DecidableEq, Repr, Inhabited

namespace Database

/-- The name that is shown. -/
def displayName : Database → String
  | .mysql => "MySQL"
  | .postgresql => "PostgreSQL"
  | .sqlite => "SQLite"

/-- The word of the JSON form. -/
def jsonWord : Database → String
  | .mysql => "mysql"
  | .postgresql => "postgresql"
  | .sqlite => "sqlite"

/-- The database of a JSON word. -/
def ofJsonWord? : String → Option Database
  | "mysql" => some .mysql
  | "postgresql" => some .postgresql
  | "sqlite" => some .sqlite
  | _ => none

/-- The database that a text names, up to surrounding blanks and ASCII case. -/
def ofText (text : String) : Except KeywordProblem Database :=
  match lowerAscii (trim text) with
  | "mysql" => .ok .mysql
  | "mysqli" => .ok .mysql
  | "mariadb" => .ok .mysql
  | "postgres" => .ok .postgresql
  | "postgresql" => .ok .postgresql
  | "sqlite" => .ok .sqlite
  | other => .error (.unknownDatabase other)

/-- JSON words read back. -/
theorem ofJsonWord?_jsonWord (d : Database) : ofJsonWord? d.jsonWord = some d := by
  cases d <;> rfl

end Database

/-- What a foreign key does when the row it points at goes away or changes. -/
inductive ReferentialAction where
  | cascade
  | setNull
  | restrict
  | noAction
  | setDefault
  deriving DecidableEq, Repr, Inhabited

namespace ReferentialAction

/-- The words of the SQL clause. -/
def sql : ReferentialAction → String
  | .cascade => "CASCADE"
  | .setNull => "SET NULL"
  | .restrict => "RESTRICT"
  | .noAction => "NO ACTION"
  | .setDefault => "SET DEFAULT"

/-- The word of the JSON form. -/
def jsonWord : ReferentialAction → String
  | .cascade => "cascade"
  | .setNull => "set_null"
  | .restrict => "restrict"
  | .noAction => "no_action"
  | .setDefault => "set_default"

/-- The action of a JSON word. -/
def ofJsonWord? : String → Option ReferentialAction
  | "cascade" => some .cascade
  | "set_null" => some .setNull
  | "restrict" => some .restrict
  | "no_action" => some .noAction
  | "set_default" => some .setDefault
  | _ => none

/-- The letters of an action: no white space, no underscores, ASCII letters in lower case. -/
def letters (text : String) : String :=
  lowerAscii (String.ofList ((trimChars text.toList).filter fun c => !isBlank c && c != '_'))

/-- The action that a text names, in any ASCII case, with blanks or underscores anywhere. -/
def ofText (text : String) : Except KeywordProblem ReferentialAction :=
  match letters text with
  | "cascade" => .ok .cascade
  | "setnull" => .ok .setNull
  | "restrict" => .ok .restrict
  | "noaction" => .ok .noAction
  | "setdefault" => .ok .setDefault
  | _ => .error (.unknownAction (trim text))

/-- JSON words read back. -/
theorem ofJsonWord?_jsonWord (a : ReferentialAction) : ofJsonWord? a.jsonWord = some a := by
  cases a <;> rfl

/-- The SQL words and the JSON word of an action have the same letters. -/
theorem letters_sql (a : ReferentialAction) :
    letters a.sql = String.ofList (a.jsonWord.toList.filter (· != '_')) := by
  cases a <;> decide +kernel

/-- The words of the SQL clause are read as the action they write. -/
theorem ofText_sql (a : ReferentialAction) : ofText a.sql = .ok a := by
  rw [ofText, letters_sql]
  cases a <;> rfl

end ReferentialAction

/-- The direction of an index part. -/
inductive SortOrder where
  | ascending
  | descending
  deriving DecidableEq, Repr, Inhabited

namespace SortOrder

/-- The word of the SQL clause. -/
def sql : SortOrder → String
  | .ascending => "ASC"
  | .descending => "DESC"

/-- The word of the JSON form. -/
def jsonWord : SortOrder → String := sql

/-- The direction of a JSON word. -/
def ofJsonWord? : String → Option SortOrder
  | "ASC" => some .ascending
  | "DESC" => some .descending
  | _ => none

/-- The direction that a text names, up to surrounding blanks and ASCII case. -/
def ofText (text : String) : Except KeywordProblem SortOrder :=
  match upperAscii (trim text) with
  | "ASC" => .ok .ascending
  | "DESC" => .ok .descending
  | other => .error (.unknownSortOrder other)

/-- JSON words read back. -/
theorem ofJsonWord?_jsonWord (o : SortOrder) : ofJsonWord? o.jsonWord = some o := by
  cases o <;> rfl

/-- The SQL word is compared as it is written. -/
theorem upperAscii_trim_sql (o : SortOrder) : upperAscii (trim o.sql) = o.sql := by
  cases o <;> decide +kernel

/-- The words of the SQL clause are read as the direction they write. -/
theorem ofText_sql (o : SortOrder) : ofText o.sql = .ok o := by
  rw [ofText, upperAscii_trim_sql]
  cases o <;> rfl

end SortOrder

end Schemata
