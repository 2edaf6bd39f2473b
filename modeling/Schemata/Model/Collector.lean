import Schemata.Model.Identity
import Schemata.Model.Keyword
import Schemata.Model.Naming
import Schemata.Model.Resolution

/-!
# Collectors

A collector is an accessor that yields the rows of another entity: through a reference back from
that entity (one to many), or through a reference of a mapping entity between the two (many to
many).  A many-to-many collector also asks its foreign entity for an accessor in the other
direction; that request is a `Reciprocal`.

* `ofTag_tag` - the tag of a kind, read with its own names, gives the kind back.
-/

namespace Schemata

open Text

/-- The relation that a collector follows, with the names it needs. -/
inductive CollectorKind where
  /-- The foreign entity holds a reference back. -/
  | oneToMany (foreignClass reference : String)
  /-- A mapping entity holds references to both sides. -/
  | manyToMany (foreignClass mappingClass reference : String)
  deriving DecidableEq, Repr

namespace CollectorKind

/-- The tag of the schema. -/
def tag : CollectorKind → String
  | .oneToMany .. => "1n"
  | .manyToMany .. => "nm"

/-- The words that are shown. -/
def displayName : CollectorKind → String
  | .oneToMany .. => "One to Many"
  | .manyToMany .. => "Many to Many"

/-- The class whose rows are collected. -/
def foreignClass : CollectorKind → String
  | .oneToMany foreignClass _ => foreignClass
  | .manyToMany foreignClass _ _ => foreignClass

/-- The reference that the collector goes through. -/
def reference : CollectorKind → String
  | .oneToMany _ reference => reference
  | .manyToMany _ _ reference => reference

/-- The class of the mapping entity, where there is one. -/
def mappingClass? : CollectorKind → Option String
  | .oneToMany .. => none
  | .manyToMany _ mappingClass _ => some mappingClass

/-- The relation has a mapping entity. -/
def isManyToMany (kind : CollectorKind) : Bool := kind.mappingClass?.isSome

/-- The kind of a tag, read up to surrounding blanks and ASCII case.  A many-to-many collector needs
a mapping class. -/
def ofTag (tag foreignClass : String) (mappingClass : Option String) (reference : String) :
    Except KeywordProblem CollectorKind :=
  match lowerAscii (trim tag) with
  | "1n" => .ok (.oneToMany foreignClass reference)
  | "nm" =>
    match mappingClass with
    | some mappingClass => .ok (.manyToMany foreignClass mappingClass reference)
    | none => .error .mappingClassMissing
  | other => .error (.unknownCollectorType other)

/-- **Tags read back:** with the names of the kind, its tag gives the kind. -/
theorem ofTag_tag (kind : CollectorKind) :
    ofTag kind.tag kind.foreignClass kind.mappingClass? kind.reference = .ok kind := by
  have h1 : lowerAscii (trim "1n") = "1n" := by decide +kernel
  have h2 : lowerAscii (trim "nm") = "nm" := by decide +kernel
  cases kind with
  | oneToMany foreignClass reference =>
    simp [ofTag, tag, h1, CollectorKind.foreignClass, CollectorKind.reference]
  | manyToMany foreignClass mappingClass reference =>
    simp [ofTag, tag, h2, CollectorKind.foreignClass, CollectorKind.reference, mappingClass?]

end CollectorKind

/-- A reference, named by the entity that owns it. -/
structure ReferenceHandle where
  entity : EntityId
  name : String
  deriving DecidableEq, Repr

/-- Why one of the links of a collector does not hold. -/
inductive CollectorProblem where
  | unknownEntity (className : String)
  /-- There is no mapping entity to hold the reference. -/
  | noMappingEntity (className : String)
  /-- There is no foreign entity to hold the reference. -/
  | noForeignEntity (className : String)
  /-- The entity exists and lacks the reference. -/
  | noReference (className reference : String)
  deriving DecidableEq, Repr

/-- The wording of a collector problem. -/
def CollectorProblem.message : CollectorProblem → String
  | .unknownEntity className => s!"unknown entity {className}"
  | .noMappingEntity className => s!"mapping entity {className} is unknown"
  | .noForeignEntity className => s!"foreign entity {className} is unknown"
  | .noReference className reference => s!"entity {className} has no reference {reference}"

/-- The links of a collector. -/
structure CollectorBinding where
  foreign : Resolution EntityId CollectorProblem := .unresolved
  /-- The mapping entity; never looked for by a one-to-many collector. -/
  mapping : Resolution EntityId CollectorProblem := .unresolved
  /-- The reference that the collector goes through. -/
  reference : Resolution ReferenceHandle CollectorProblem := .unresolved
  deriving DecidableEq, Repr

/-- An accessor for the rows of another entity. -/
structure Collector where
  name : String
  kind : CollectorKind
  binding : CollectorBinding := {}
  deriving DecidableEq, Repr

namespace Collector

/-- The entity whose rows are collected, once it is found. -/
def foreign? (c : Collector) : Option EntityId := c.binding.foreign.value?

/-- The mapping entity, once it is found. -/
def mapping? (c : Collector) : Option EntityId := c.binding.mapping.value?

/-- The reference that the collector goes through, once it is found. -/
def reference? (c : Collector) : Option ReferenceHandle := c.binding.reference.value?

/-- The accessor of the collector. -/
def accessor (c : Collector) : String := Naming.accessor c.name

/-- The accessor of the reference that the collector goes through. -/
def referenceAccessor (c : Collector) : String := Naming.accessor c.kind.reference

end Collector

/-- The request of a many-to-many collector for an accessor on its foreign entity. -/
structure Reciprocal where
  entity : EntityId
  mapping : Option EntityId
  origin : EntityId
  originClass : String
  collector : String
  deriving DecidableEq, Repr

/-- The accessor of a request: named after the declaring class and the collector. -/
def Reciprocal.accessor (r : Reciprocal) : String :=
  Naming.accessor (Naming.shortName r.originClass) ++ Naming.accessor r.collector

end Schemata
