import Schemata.Model.Entity
import Schemata.Schema.Problem

/-!
# Members from their elements

Every member of an entity is written as an element whose XML attributes give its fields.  A missing
XML attribute leaves the field at its default; names that can be derived are derived.

* `boolean?_true`, `booleanOf_missing` - what the words for truth mean, and what their absence
  means.
-/

namespace Schemata.Element

open Markup Text

/-- The value of an XML attribute, empty if it is missing. -/
def textOf (attributes : Attributes) (name : String) : String :=
  (attributes.lookup name).getD ""

/-- A word for true or false, up to surrounding blanks and ASCII case.  Nothing means false. -/
def boolean? (text : String) : Option Bool :=
  match lowerAscii (trim text) with
  | "true" => some true
  | "1" => some true
  | "yes" => some true
  | "false" => some false
  | "0" => some false
  | "no" => some false
  | "" => some false
  | _ => none

/-- The truth of an XML attribute, false if it is missing. -/
def booleanOf (attributes : Attributes) (name : String) : Except SchemaProblem Bool :=
  match attributes.lookup name with
  | none => .ok false
  | some value =>
    match boolean? value with
    | some b => .ok b
    | none => .error (.invalidBoolean value name)

/-- A result whose problem is put in the words of a document. -/
def orRefuse {ε α : Type} (problem : ε → SchemaProblem) (result : Except ε α) :
    Except SchemaProblem α :=
  match result with
  | .ok value => .ok value
  | .error e => .error (problem e)

/-- The entity of an element, with the identity given to it. -/
def entity (id : EntityId) (attributes : Attributes) : Entity :=
  let className := textOf attributes "name"
  let table := (attributes.lookup "table").getD (Naming.table className)
  let plain : Entity := { id, className, table }
  match attributes.lookup "namespace" with
  | some nameSpace => plain.inNamespace nameSpace
  | none => plain

/-- The extension of an element. -/
def extension (attributes : Attributes) : Extension :=
  { className := textOf attributes "name" }

/-- The attribute of an element. -/
def member (attributes : Attributes) : Except SchemaProblem Attribute := do
  let name := textOf attributes "name"
  let primaryKey ← booleanOf attributes "primaryKey"
  let required ← booleanOf attributes "required"
  return {
    name
    column := (attributes.lookup "dbName").getD name
    type := textOf attributes "dbType"
    primaryKey
    required
    autoValue := attributes.lookup "autoValue"
    defaultValue := attributes.lookup "defaultValue" }

/-- The action of an XML attribute; a missing one restricts. -/
def actionOf (attributes : Attributes) (name : String) :
    Except SchemaProblem ReferentialAction :=
  match attributes.lookup name with
  | none => .ok .restrict
  | some text => orRefuse .keyword (ReferentialAction.ofText text)

/-- The reference of an element, still without columns. -/
def reference (attributes : Attributes) : Except SchemaProblem Reference := do
  let onDelete ← actionOf attributes "onDelete"
  let onUpdate ← actionOf attributes "onUpdate"
  let required ← booleanOf attributes "required"
  return {
    name := textOf attributes "name"
    foreignClass := textOf attributes "foreignClass"
    constraint := textOf attributes "constraintName"
    onDelete
    onUpdate
    required }

/-- The column pair of an element inside the named reference. -/
def mapping (reference : String) (attributes : Attributes) : Mapping :=
  let foreignAttribute := textOf attributes "foreignAttribute"
  { column := (attributes.lookup "name").getD (Naming.referenceColumn reference foreignAttribute)
    foreignAttribute }

/-- The index of an element, still without parts. -/
def index (attributes : Attributes) : Except SchemaProblem Index := do
  let unique ← booleanOf attributes "unique"
  let plain : Index := { name := textOf attributes "name", unique }
  match attributes.lookup "type" with
  | some type => return plain.withType type
  | none => return plain

/-- The value of an XML attribute that says something. -/
def saidOf (attributes : Attributes) (name : String) : Option String :=
  (attributes.lookup name).filter fun text => !isMissing text

/-- The direction of an index part, if it says one. -/
def sortOrderOf (attributes : Attributes) : Except SchemaProblem (Option SortOrder) :=
  match saidOf attributes "sortOrder" with
  | none => .ok none
  | some text => do
    let order ← orRefuse .keyword (SortOrder.ofText text)
    return some order

/-- The length of an index part, if it says one. -/
def lengthOf (attributes : Attributes) : Except SchemaProblem (Option UInt32) :=
  match saidOf attributes "length" with
  | none => .ok none
  | some text => do
    let n ← orRefuse (.invalidLength text) (readNumber 10 (trimChars text.toList))
    return some n.toUInt32

/-- The index part of an element. -/
def indexPart (attributes : Attributes) : Except SchemaProblem IndexPart := do
  let sortOrder ← sortOrderOf attributes
  let length ← lengthOf attributes
  return { name := textOf attributes "attributeName", sortOrder, length }

/-- The collector of an element. -/
def collector (attributes : Attributes) : Except SchemaProblem Collector := do
  let name := textOf attributes "name"
  let kind ← orRefuse (.collectorKeyword name) <|
    CollectorKind.ofTag (textOf attributes "type") (textOf attributes "foreignClass")
      (attributes.lookup "mappingClass") (textOf attributes "reference")
  return { name, kind }

/-- A missing XML attribute means false. -/
theorem booleanOf_missing {attributes : Attributes} {name : String}
    (h : attributes.lookup name = none) : booleanOf attributes name = .ok false := by
  simp [booleanOf, h]

/-- The words for true. -/
theorem boolean?_true : boolean? "true" = some true ∧ boolean? " YES " = some true := by
  decide +kernel

end Schemata.Element
