import Schemata.Text.Blank
import Schemata.Text.CaseMap

/-!
# Attributes

An attribute is one column of the table of its entity.

* `sameType_iff` - two column types are the same up to surrounding blanks and the case of ASCII
  letters.
-/

namespace Schemata

open Text

/-- One column of an entity. -/
structure Attribute where
  name : String
  column : String
  type : String
  primaryKey : Bool := false
  required : Bool := false
  autoValue : Option String := none
  defaultValue : Option String := none
  deriving DecidableEq, Repr

/-- A column type as types are compared: trimmed, ASCII letters in upper case. -/
def normalizedType (type : String) : String :=
  upperAscii (trim type)

namespace Attribute

/-- An attribute whose column has the name of the attribute. -/
def plain (name type : String) : Attribute :=
  { name, column := name, type }

/-- The attribute as part of the primary key, which requires it. -/
def primary (a : Attribute) : Attribute :=
  { a with primaryKey := true, required := true }

/-- The usual primary key: an integer column that counts up by itself. -/
def identity : Attribute :=
  { (plain "id" "INT").primary with autoValue := some "autoincrement" }

/-- The two columns have the same type. -/
def sameType (a b : Attribute) : Bool :=
  normalizedType a.type == normalizedType b.type

/-- The database counts the value up on insertion. -/
def autoIncrement (a : Attribute) : Bool :=
  a.autoValue.any fun value => eqIgnoringCase value "autoincrement"

/-- A row must hold a value in this column. -/
def notNull (a : Attribute) : Bool :=
  a.required || a.primaryKey

/-- Types are compared in their normalized form. -/
theorem sameType_iff (a b : Attribute) :
    a.sameType b ↔ normalizedType a.type = normalizedType b.type := by
  simp [sameType]

/-- The usual primary key takes no null and counts up. -/
theorem identity_notNull : identity.notNull = true ∧ identity.autoIncrement = true := by
  constructor
  · rfl
  · decide +kernel

end Attribute

end Schemata
