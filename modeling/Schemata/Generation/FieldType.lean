import Schemata.Model.Attribute

/-!
# Types of generated fields

The type of a field follows the first word of its column type.  Integers are signed unless the
column type says otherwise anywhere; types without a counterpart are kept as text.

* `ofColumnType_congr` - column types that compare as the same give the same field type.
-/

namespace Schemata.Generation

open Text

/-- The type of a field. -/
inductive FieldType where
  | boolean
  | integer (signed : Bool) (bits : Nat)
  | float (bits : Nat)
  | date
  | time
  | dateTime
  | bytes
  | text
  deriving DecidableEq, Repr

/-- The type in generated code. -/
def FieldType.code : FieldType → String
  | .boolean => "bool"
  | .integer true bits => "i" ++ bits.repr
  | .integer false bits => "u" ++ bits.repr
  | .float bits => "f" ++ bits.repr
  | .date => "chrono::NaiveDate"
  | .time => "chrono::NaiveTime"
  | .dateTime => "chrono::NaiveDateTime"
  | .bytes => "Vec<u8>"
  | .text => "String"

/-- The pattern stands somewhere among the characters. -/
def mentions (pattern : List Char) : List Char → Bool
  | [] => pattern.isEmpty
  | c :: rest => pattern.isPrefixOf (c :: rest) || mentions pattern rest

/-- The first word of a column type, which ends at a blank or at its arguments. -/
def typeWord (normalized : List Char) : String :=
  String.ofList (normalized.takeWhile fun c => !(c == '(' || isBlank c))

/-- The type of a normalized column type. -/
def FieldType.ofNormalized (normalized : String) : FieldType :=
  let cs := normalized.toList
  let signed := !mentions "UNSIGNED".toList cs
  match typeWord cs with
  | "BOOL" => .boolean
  | "BOOLEAN" => .boolean
  | "BIT" => .boolean
  | "TINYINT" => if "TINYINT(1)".toList.isPrefixOf cs then .boolean else .integer signed 8
  | "SMALLINT" => .integer signed 16
  | "INT" => .integer signed 32
  | "INTEGER" => .integer signed 32
  | "MEDIUMINT" => .integer signed 32
  | "BIGINT" => .integer signed 64
  | "FLOAT" => .float 32
  | "DOUBLE" => .float 64
  | "REAL" => .float 64
  | "DATE" => .date
  | "TIME" => .time
  | "DATETIME" => .dateTime
  | "TIMESTAMP" => .dateTime
  | "BINARY" => .bytes
  | "VARBINARY" => .bytes
  | "BLOB" => .bytes
  | "TINYBLOB" => .bytes
  | "MEDIUMBLOB" => .bytes
  | "LONGBLOB" => .bytes
  | _ => .text

/-- The type of a column type. -/
def FieldType.ofColumnType (type : String) : FieldType :=
  .ofNormalized (normalizedType type)

/-- The type of a field that may be absent where the column takes null. -/
def fieldCode (type : String) (nullable : Bool) : String :=
  let base := (FieldType.ofColumnType type).code
  if nullable then s!"Option<{base}>" else base

/-- **Column types that compare as the same give the same field type.** -/
theorem FieldType.ofColumnType_congr {a b : String} (h : normalizedType a = normalizedType b) :
    ofColumnType a = ofColumnType b := by
  rw [ofColumnType, ofColumnType, h]

end Schemata.Generation
