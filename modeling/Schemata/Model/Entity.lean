import Schemata.Model.Attribute
import Schemata.Model.Collector
import Schemata.Model.Index
import Schemata.Model.Reference

/-!
# Entities

An entity is a class that is kept in a table.  An extension adds members to an entity that is
declared elsewhere.

* `extend_identity` - extending keeps identity, class, namespace and table;
* `mem_dependencies` - the dependencies are the linked foreign entities other than the entity
  itself.
-/

namespace Schemata

open Text

/-- The members that an entity declares or an extension adds. -/
structure Members where
  attributes : List Attribute := []
  references : List Reference := []
  indexes : List Index := []
  /-- The accessors for rows of other entities. -/
  collectors : List Collector := []
  deriving DecidableEq, Repr

/-- There is no member. -/
def Members.isEmpty (m : Members) : Bool :=
  m.attributes.isEmpty && m.references.isEmpty && m.indexes.isEmpty && m.collectors.isEmpty

/-- A class and its table. -/
structure Entity extends Members where
  id : EntityId
  className : String
  /-- The namespace of the class, if it has one. -/
  nameSpace : Option String := none
  table : String
  /-- A file that declares or extends the entity changed since the last generation. -/
  changed : Bool := true
  deriving DecidableEq, Repr

/-- Members for an entity that is declared elsewhere. -/
structure Extension extends Members where
  className : String
  /-- The file that declares the extension changed since the last generation. -/
  changed : Bool := true
  deriving DecidableEq, Repr

namespace Entity

/-- The entity in a namespace; a blank namespace is none. -/
def inNamespace (e : Entity) (nameSpace : String) : Entity :=
  { e with nameSpace := if isMissing nameSpace then none else some nameSpace }

/-- The entity with one more attribute. -/
def addAttribute (e : Entity) (a : Attribute) : Entity :=
  { e with attributes := e.attributes ++ [a] }

/-- The entity with one more reference, which gets its constraint name here. -/
def addReference (e : Entity) (r : Reference) : Entity :=
  { e with references := e.references ++ [r.inTable e.table] }

/-- The entity with one more index. -/
def addIndex (e : Entity) (i : Index) : Entity :=
  { e with indexes := e.indexes ++ [i] }

/-- The entity with one more collector. -/
def addCollector (e : Entity) (c : Collector) : Entity :=
  { e with collectors := e.collectors ++ [c] }

/-- The entity with the members of an extension; a changed extension makes the entity changed. -/
def extend (e : Entity) (x : Extension) : Entity :=
  { e with
    changed := e.changed || x.changed
    attributes := e.attributes ++ x.attributes
    references := e.references ++ x.references.map (·.inTable e.table)
    indexes := e.indexes ++ x.indexes
    collectors := e.collectors ++ x.collectors }

/-- The attribute of a name. -/
def attribute? (e : Entity) (name : String) : Option Attribute :=
  e.attributes.find? (·.name == name)

/-- The attribute of a column. -/
def attributeOfColumn? (e : Entity) (column : String) : Option Attribute :=
  e.attributes.find? (·.column == column)

/-- The reference of a name. -/
def reference? (e : Entity) (name : String) : Option Reference :=
  e.references.find? (·.name == name)

/-- The reference of a constraint. -/
def referenceOfConstraint? (e : Entity) (constraint : String) : Option Reference :=
  e.references.find? (·.constraint == constraint)

/-- The index of a name. -/
def index? (e : Entity) (name : String) : Option Index :=
  e.indexes.find? (·.name == name)

/-- The collector of a name. -/
def collector? (e : Entity) (name : String) : Option Collector :=
  e.collectors.find? (·.name == name)

/-- The attributes of the primary key. -/
def primaryKey (e : Entity) : List Attribute :=
  e.attributes.filter (·.primaryKey)

/-- The class name with its namespace. -/
def fullName (e : Entity) : String :=
  match e.nameSpace with
  | some nameSpace => Naming.qualified nameSpace e.className
  | none => e.className

/-- The class name without any namespace. -/
def shortName (e : Entity) : String := Naming.shortName e.className

/-- The columns of the references as declared, reference by reference. -/
def referenceColumns (e : Entity) : List String :=
  e.references.flatMap (·.columnNames)

/-- Every column of the table: attributes first, then reference columns. -/
def columnNames (e : Entity) : List String :=
  e.attributes.map (·.column) ++ e.referenceColumns

/-- The entities that this one holds foreign keys to, itself excluded. -/
def dependencies (e : Entity) : List EntityId :=
  ((e.references.filterMap (·.target?)).map (·.entity)).filter (· ≠ e.id)

/-- The column that an index part names: an attribute by name, then by column, then a reference
column. -/
def columnOf? (e : Entity) (name : String) : Option String :=
  match e.attribute? name <|> e.attributeOfColumn? name with
  | some found => some found.column
  | none => e.referenceColumns.find? (· == name)

/-- An index with its parts linked to the columns of the entity. -/
def linkIndex (e : Entity) (i : Index) : Index :=
  i.link (i.parts.map fun part => e.columnOf? part.name)

/-- The entity with its indexes linked. -/
def linkIndexes (e : Entity) : Entity :=
  { e with indexes := e.indexes.map e.linkIndex }

/-- **Extending keeps who the entity is:** identity, class, namespace and table. -/
theorem extend_identity (e : Entity) (x : Extension) :
    (e.extend x).id = e.id ∧ (e.extend x).className = e.className ∧
      (e.extend x).nameSpace = e.nameSpace ∧ (e.extend x).table = e.table :=
  ⟨rfl, rfl, rfl, rfl⟩

/-- Extending keeps the full name. -/
theorem fullName_extend (e : Entity) (x : Extension) : (e.extend x).fullName = e.fullName := rfl

/-- The dependencies are the linked foreign entities other than the entity itself. -/
theorem mem_dependencies {e : Entity} {id : EntityId} :
    id ∈ e.dependencies ↔
      id ≠ e.id ∧ ∃ r ∈ e.references, ∃ target, r.target? = some target ∧ target.entity = id := by
  simp only [dependencies, List.mem_filter, List.mem_map, List.mem_filterMap, decide_eq_true_eq]
  constructor
  · rintro ⟨⟨target, ⟨r, hr, ht⟩, hid⟩, hne⟩
    exact ⟨hne, r, hr, target, ht, hid⟩
  · rintro ⟨hne, r, hr, target, ht, hid⟩
    exact ⟨⟨target, ⟨r, hr, ht⟩, hid⟩, hne⟩

/-- Linking the indexes leaves the columns as they are. -/
theorem columnNames_linkIndexes (e : Entity) : e.linkIndexes.columnNames = e.columnNames := rfl

end Entity

end Schemata
