/-!
# Faults of a schema

Validation names every fault of a schema.  A fault has a number, which readers of a report match on
and which never changes, and a wording.

* `ofNumber?_number` - the number of a code gives the code back.
-/

namespace Schemata

/-- The numbered kinds of faults. -/
inductive FaultCode where
  | collectorNameMissing
  /-- A collector names a class that no entity has. -/
  | unknownEntityReferenced
  /-- A collector names a reference that is not there. -/
  | unknownReference
  /-- A collector names a mapping class that no entity has. -/
  | unknownMappingClass
  | entityClassMissing
  | entityTableMissing
  | noPrimaryKey
  | attributeNameMissing
  | attributeTypeMissing
  | duplicateColumn
  | referenceNameMissing
  /-- A reference names a class that no entity has. -/
  | referenceForeignClassUnknown
  | referenceWithoutMapping
  /-- A reference names an attribute that its foreign entity lacks. -/
  | referencedAttributeUnknown
  | indexNameMissing
  | indexWithoutParts
  /-- An index names a column that its entity lacks. -/
  | indexPartUnknownColumn
  deriving DecidableEq, Repr

namespace FaultCode

/-- The number of a code. -/
def number : FaultCode → Nat
  | .collectorNameMissing => 400
  | .unknownEntityReferenced => 401
  | .unknownReference => 402
  | .unknownMappingClass => 403
  | .entityClassMissing => 410
  | .entityTableMissing => 411
  | .noPrimaryKey => 412
  | .attributeNameMissing => 420
  | .attributeTypeMissing => 421
  | .duplicateColumn => 422
  | .referenceNameMissing => 430
  | .referenceForeignClassUnknown => 431
  | .referenceWithoutMapping => 432
  | .referencedAttributeUnknown => 433
  | .indexNameMissing => 440
  | .indexWithoutParts => 441
  | .indexPartUnknownColumn => 442

/-- Every code, by number. -/
def all : List FaultCode :=
  [.collectorNameMissing, .unknownEntityReferenced, .unknownReference, .unknownMappingClass,
    .entityClassMissing, .entityTableMissing, .noPrimaryKey, .attributeNameMissing,
    .attributeTypeMissing, .duplicateColumn, .referenceNameMissing, .referenceForeignClassUnknown,
    .referenceWithoutMapping, .referencedAttributeUnknown, .indexNameMissing, .indexWithoutParts,
    .indexPartUnknownColumn]

/-- The code of a number. -/
def ofNumber? (n : Nat) : Option FaultCode := all.find? (·.number == n)

/-- Numbers tell codes apart. -/
theorem ofNumber?_number (code : FaultCode) : ofNumber? code.number = some code := by
  cases code <;> rfl

end FaultCode

/-- A fault of a schema, with the names that its wording needs. -/
inductive Fault where
  /-- The entity of the table has no class name. -/
  | entityClassMissing (table : String)
  /-- The entity of the class has no table name. -/
  | entityTableMissing (className : String)
  | noPrimaryKey (className : String)
  /-- The column has a name that an earlier column of the entity has. -/
  | duplicateColumn (className column : String)
  | attributeNameMissing
  | attributeTypeMissing (name : String)
  | referenceNameMissing
  | referenceWithoutMapping (name : String)
  /-- The class of the reference is unknown, for the given reason. -/
  | referenceClassUnknown (name reason : String)
  /-- An attribute that the reference maps is unknown, for the given reason. -/
  | referenceAttributeUnknown (name reason : String)
  | referenceUnresolved (name foreignClass : String)
  | indexNameMissing
  | indexWithoutParts (name : String)
  /-- The index names a column that is not there. -/
  | indexColumnUnknown (name column : String)
  | collectorNameMissing
  /-- The foreign class of the collector is unknown. -/
  | collectorEntityUnknown (name foreignClass : String)
  /-- The reference of the collector is unknown. -/
  | collectorReferenceUnknown (name reference : String)
  /-- The mapping class of the collector is unknown. -/
  | collectorMappingUnknown (name mappingClass : String)
  deriving DecidableEq, Repr

namespace Fault

/-- The code of a fault. -/
def code : Fault → FaultCode
  | .entityClassMissing _ => .entityClassMissing
  | .entityTableMissing _ => .entityTableMissing
  | .noPrimaryKey _ => .noPrimaryKey
  | .duplicateColumn .. => .duplicateColumn
  | .attributeNameMissing => .attributeNameMissing
  | .attributeTypeMissing _ => .attributeTypeMissing
  | .referenceNameMissing => .referenceNameMissing
  | .referenceWithoutMapping _ => .referenceWithoutMapping
  | .referenceClassUnknown .. => .referenceForeignClassUnknown
  | .referenceAttributeUnknown .. => .referencedAttributeUnknown
  | .referenceUnresolved .. => .referenceForeignClassUnknown
  | .indexNameMissing => .indexNameMissing
  | .indexWithoutParts _ => .indexWithoutParts
  | .indexColumnUnknown .. => .indexPartUnknownColumn
  | .collectorNameMissing => .collectorNameMissing
  | .collectorEntityUnknown .. => .unknownEntityReferenced
  | .collectorReferenceUnknown .. => .unknownReference
  | .collectorMappingUnknown .. => .unknownMappingClass

/-- The wording of a fault. -/
def message : Fault → String
  | .entityClassMissing table => s!"Entity without class name found (table '{table}')"
  | .entityTableMissing className => s!"Entity '{className}' has no table name"
  | .noPrimaryKey className => s!"Entity '{className}' has no primary key"
  | .duplicateColumn className column =>
    s!"Entity '{className}' declares column '{column}' more than once"
  | .attributeNameMissing => "Attribute without name found"
  | .attributeTypeMissing name => s!"Attribute '{name}' has no database type"
  | .referenceNameMissing => "Reference without name found"
  | .referenceWithoutMapping name => s!"Reference '{name}' has no column mapping"
  | .referenceClassUnknown name reason => s!"Reference '{name}' {reason}"
  | .referenceAttributeUnknown name reason => s!"Reference '{name}' {reason}"
  | .referenceUnresolved name foreignClass =>
    s!"Reference '{name}' was never resolved against entity {foreignClass}"
  | .indexNameMissing => "Index without name found"
  | .indexWithoutParts name => s!"Index '{name}' has no index parts"
  | .indexColumnUnknown name column => s!"Index '{name}' refers to unknown column {column}"
  | .collectorNameMissing => "Collector without name found"
  | .collectorEntityUnknown name foreignClass =>
    s!"Collector '{name}' refers to unknown entity {foreignClass}"
  | .collectorReferenceUnknown name reference =>
    s!"Collector '{name}' refers to unknown reference {reference}"
  | .collectorMappingUnknown name mappingClass =>
    s!"Collector '{name}' refers to unknown mapping entity {mappingClass}"

end Fault

end Schemata
