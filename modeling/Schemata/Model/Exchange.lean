import Schemata.Json.Limits
import Schemata.Json.Record
import Schemata.Model.Entity
import Schemata.Model.Log
import Schemata.Settings

/-!
# The model in JSON

Every part of a model has a JSON form, written as a record and read back from one.  Links are not
written: what is read is not linked.

* `Mapping.ofJson?_toJson`, `Attribute.ofJson?_toJson` - parts read back as they were written.
-/

namespace Schemata

open Json

/-- A text, or null. -/
def Json.textOrNull (s : Option String) : Json := Json.orNull (s.map .string)

namespace Attribute

/-- The names of the parts. -/
def parts : List String :=
  ["name", "database_name", "database_type", "is_primary_key", "is_required", "auto_value",
    "default_value"]

/-- The attribute as a record. -/
def toJson (a : Attribute) : Json :=
  .object [
    ("name", .string a.name),
    ("database_name", .string a.column),
    ("database_type", .string a.type),
    ("is_primary_key", .bool a.primaryKey),
    ("is_required", .bool a.required),
    ("auto_value", textOrNull a.autoValue),
    ("default_value", textOrNull a.defaultValue)]

/-- The attribute of a record. -/
def ofJson? (j : Json) : Option Attribute := do
  match ← slots? parts j with
  | [name, column, type, primaryKey, isRequired, autoValue, defaultValue] =>
    return {
      name := ← mandatory text? name
      column := ← mandatory text? column
      type := ← mandatory text? type
      primaryKey := ← mandatory bool? primaryKey
      required := ← mandatory bool? isRequired
      autoValue := ← optional text? autoValue
      defaultValue := ← optional text? defaultValue }
  | _ => none

end Attribute

namespace Mapping

/-- The pair as a record. -/
def toJson (m : Mapping) : Json :=
  .object [("column_name", .string m.column), ("foreign_attribute", .string m.foreignAttribute)]

/-- The pair of a record. -/
def ofJson? (j : Json) : Option Mapping := do
  match ← slots? ["column_name", "foreign_attribute"] j with
  | [column, foreignAttribute] =>
    return { column := ← mandatory text? column
             foreignAttribute := ← mandatory text? foreignAttribute }
  | _ => none

/-- A pair reads back as it was written. -/
theorem ofJson?_toJson (m : Mapping) : ofJson? m.toJson = some m := rfl

end Mapping

namespace Reference

/-- The names of the parts. -/
def parts : List String :=
  ["name", "foreign_class", "constraint_name", "on_delete", "on_update", "mappings", "is_required"]

/-- The reference as a record. -/
def toJson (r : Reference) : Json :=
  .object [
    ("name", .string r.name),
    ("foreign_class", .string r.foreignClass),
    ("constraint_name", .string r.constraint),
    ("on_delete", .string r.onDelete.jsonWord),
    ("on_update", .string r.onUpdate.jsonWord),
    ("mappings", Json.list Mapping.toJson r.mappings),
    ("is_required", .bool r.required)]

/-- The reference of a record. -/
def ofJson? (j : Json) : Option Reference := do
  match ← slots? parts j with
  | [name, foreignClass, constraint, onDelete, onUpdate, mappings, isRequired] =>
    return {
      name := ← mandatory text? name
      foreignClass := ← mandatory text? foreignClass
      constraint := ← mandatory text? constraint
      onDelete := ← mandatory (word? ReferentialAction.ofJsonWord?) onDelete
      onUpdate := ← mandatory (word? ReferentialAction.ofJsonWord?) onUpdate
      mappings := ← mandatory (listOf? Mapping.ofJson?) mappings
      required := ← mandatory bool? isRequired }
  | _ => none

end Reference

namespace IndexPart

/-- The part as a record. -/
def toJson (p : IndexPart) : Json :=
  .object [
    ("column", .string p.name),
    ("sort_order", textOrNull (p.sortOrder.map (·.jsonWord))),
    ("length", orNull (p.length.map fun n => Json.nat n.toNat))]

/-- A number of 32 bits. -/
def length? (j : Json) : Option UInt32 := do
  let n ← j.nat?
  if n < UInt32.size then some n.toUInt32 else none

/-- The part of a record. -/
def ofJson? (j : Json) : Option IndexPart := do
  match ← slots? ["column", "sort_order", "length"] j with
  | [name, sortOrder, length] =>
    return {
      name := ← mandatory text? name
      sortOrder := ← optional (word? SortOrder.ofJsonWord?) sortOrder
      length := ← optional length? length }
  | _ => none

end IndexPart

namespace Index

/-- The index as a record. -/
def toJson (i : Index) : Json :=
  .object [
    ("name", .string i.name),
    ("is_unique", .bool i.unique),
    ("index_type", textOrNull i.type),
    ("parts", Json.list IndexPart.toJson i.parts)]

/-- The index of a record.  The type is taken as it stands. -/
def ofJson? (j : Json) : Option Index := do
  match ← slots? ["name", "is_unique", "index_type", "parts"] j with
  | [name, unique, type, parts] =>
    return {
      name := ← mandatory text? name
      unique := ← mandatory bool? unique
      type := ← optional text? type
      parts := ← mandatory (listOf? IndexPart.ofJson?) parts }
  | _ => none

end Index

namespace CollectorKind

/-- The kind as a record tagged with its type. -/
def toJson : CollectorKind → Json
  | .oneToMany foreignClass reference =>
    .object [
      ("type", .string "one_to_many"),
      ("foreign_class", .string foreignClass),
      ("reference_name", .string reference)]
  | .manyToMany foreignClass mappingClass reference =>
    .object [
      ("type", .string "many_to_many"),
      ("foreign_class", .string foreignClass),
      ("mapping_class", .string mappingClass),
      ("reference_name", .string reference)]

/-- The kind of a tag and a record of the names it needs. -/
def ofTagged? (tag : String) (j : Json) : Option CollectorKind :=
  match tag with
  | "one_to_many" => do
    match ← slots? ["foreign_class", "reference_name"] j with
    | [foreignClass, reference] =>
      return .oneToMany (← mandatory text? foreignClass) (← mandatory text? reference)
    | _ => none
  | "many_to_many" => do
    match ← slots? ["foreign_class", "mapping_class", "reference_name"] j with
    | [foreignClass, mappingClass, reference] =>
      return .manyToMany (← mandatory text? foreignClass) (← mandatory text? mappingClass)
        (← mandatory text? reference)
    | _ => none
  | _ => none

/-- The kind of a record that stands inside `level` lists and objects.  The tag is a field of the
object, wherever it stands, or the first item of the list. -/
def ofJson? (level : Nat) : Json → Option CollectorKind
  | .object fields => do
    match ← slotOf fields "type" with
    | .given (.string tag) =>
      let others := fields.filter (·.1 != "type")
      if others.all (·.2.fits (level + 1)) then ofTagged? tag (.object others) else none
    | _ => none
  | .array (.string tag :: items) =>
    if items.all (·.fits (level + 1)) then ofTagged? tag (.array items) else none
  | _ => none

end CollectorKind

namespace Collector

/-- The collector as a record. -/
def toJson (c : Collector) : Json :=
  .object [("name", .string c.name), ("kind", c.kind.toJson)]

/-- The collector of a record that stands inside `level` lists and objects. -/
def ofJson? (level : Nat) (j : Json) : Option Collector := do
  match ← slots? ["name", "kind"] j with
  | [name, kind] =>
    return { name := ← mandatory text? name
             kind := ← mandatory (CollectorKind.ofJson? (level + 1)) kind }
  | _ => none

end Collector

namespace Members

/-- The members as parts of a record. -/
def toFields (m : Members) : List (String × Json) :=
  [("attributes", Json.list Attribute.toJson m.attributes),
    ("references", Json.list Reference.toJson m.references),
    ("indexes", Json.list Index.toJson m.indexes),
    ("collectors", Json.list Collector.toJson m.collectors)]

/-- The names of the parts. -/
def parts : List String := ["attributes", "references", "indexes", "collectors"]

/-- The members of the slots of a record. -/
def ofSlots? (attributes references indexes collectors : Slot) : Option Members := do
  return {
    attributes := ← mandatory (listOf? Attribute.ofJson?) attributes
    references := ← mandatory (listOf? Reference.ofJson?) references
    indexes := ← mandatory (listOf? Index.ofJson?) indexes
    collectors := ← mandatory (listOf? (Collector.ofJson? 2)) collectors }

end Members

namespace Entity

/-- The entity as a record. -/
def toJson (e : Entity) : Json :=
  .object ([
    ("id", .string e.id.text),
    ("class_name", .string e.className),
    ("namespace", textOrNull e.nameSpace),
    ("table", .string e.table)]
    ++ e.toMembers.toFields
    ++ [("has_changed_since_last_generation", .bool e.changed)])

/-- The identity of a text. -/
def id? (j : Json) : Option EntityId := do
  let text ← j.text?
  EntityId.ofText? text

/-- The entity of a record. -/
def ofJson? (j : Json) : Option Entity := do
  let names := ["id", "class_name", "namespace", "table"] ++ Members.parts
    ++ ["has_changed_since_last_generation"]
  match ← slots? names j with
  | [id, className, nameSpace, table, attributes, references, indexes, collectors, changed] =>
    return {
      toMembers := ← Members.ofSlots? attributes references indexes collectors
      id := ← mandatory id? id
      className := ← mandatory text? className
      nameSpace := ← optional text? nameSpace
      table := ← mandatory text? table
      changed := ← defaulted true bool? changed }
  | _ => none

end Entity

namespace Extension

/-- The extension as a record. -/
def toJson (x : Extension) : Json :=
  .object ([("class_name", .string x.className)]
    ++ x.toMembers.toFields
    ++ [("has_changed_since_last_generation", .bool x.changed)])

/-- The extension of a record. -/
def ofJson? (j : Json) : Option Extension := do
  let names := ["class_name"] ++ Members.parts ++ ["has_changed_since_last_generation"]
  match ← slots? names j with
  | [className, attributes, references, indexes, collectors, changed] =>
    return {
      toMembers := ← Members.ofSlots? attributes references indexes collectors
      className := ← mandatory text? className
      changed := ← defaulted true bool? changed }
  | _ => none

end Extension

namespace Settings

/-- The settings as a record. -/
def toJson (s : Settings) : Json :=
  .object [
    ("database", .string s.database.jsonWord),
    ("output_dir", .string s.outputDir),
    ("generate_models", .bool s.models),
    ("generate_migrations", .bool s.migrations),
    ("overwrite", .bool s.overwrite)]

/-- The settings of a record; what is left out keeps its default. -/
def ofJson? (j : Json) : Option Settings := do
  let d : Settings := {}
  let names := ["database", "output_dir", "generate_models", "generate_migrations", "overwrite"]
  match ← slots? names j with
  | [database, outputDir, models, migrations, overwrite] =>
    return {
      database := ← defaulted d.database (word? Database.ofJsonWord?) database
      outputDir := ← defaulted d.outputDir text? outputDir
      models := ← defaulted d.models bool? models
      migrations := ← defaulted d.migrations bool? migrations
      overwrite := ← defaulted d.overwrite bool? overwrite }
  | _ => none

end Settings

namespace Log

/-- An entry of a log as a record. -/
def entryToJson (message : String) (code : Json) (severity : String) : Json :=
  .object [("message", .string message), ("code", code), ("severity", .string severity)]

/-- The log as a record. -/
def toJson (log : Log) : Json :=
  .object [
    ("errors", Json.list
      (fun f : Finding => entryToJson f.message (Json.nat f.code.number) "error") log.errors),
    ("warnings", Json.list (fun message => entryToJson message .null "warning") log.warnings)]

end Log

/-- An attribute reads back as it was written. -/
theorem Attribute.ofJson?_toJson (a : Attribute) : ofJson? a.toJson = some a := by
  obtain ⟨name, column, type, primaryKey, required, autoValue, defaultValue⟩ := a
  cases autoValue <;> cases defaultValue <;> rfl

end Schemata
