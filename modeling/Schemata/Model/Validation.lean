import Schemata.Model.DataModel
import Schemata.Model.Log

/-!
# Validation

Validation lists every fault of a model and never stops at one.  Each kind of member has its own
list of faults; the faults of an entity are its own, then those of its attributes, references,
indexes and collectors in order of declaration.

* `repeated_eq_nil_iff` - nothing is repeated exactly when all are distinct;
* `validate_linked` - a linked model is validated without a warning.
-/

namespace Schemata

open Text

/-- The fault, if it is present. -/
def Fault.when (present : Bool) (fault : Fault) : List Fault :=
  if present then [fault] else []

/-- The names that occur in the list before, in order, once for each repetition. -/
def repeated (seen : List String) : List String → List String
  | [] => []
  | name :: rest =>
    if name ∈ seen then name :: repeated seen rest else repeated (name :: seen) rest

/-- The faults of an attribute. -/
def Attribute.faults (a : Attribute) : List Fault :=
  Fault.when (isMissing a.name) .attributeNameMissing ++
    Fault.when (isMissing a.type) (.attributeTypeMissing a.name)

/-- The faults of the link of a reference. -/
def Reference.linkFaults (r : Reference) : List Fault :=
  match r.resolution with
  | .resolved _ => []
  | .invalid (.unknownClass foreignClass) =>
    [.referenceClassUnknown r.name (ReferenceProblem.unknownClass foreignClass).message]
  | .invalid (.unknownAttribute foreignClass name) =>
    [.referenceAttributeUnknown r.name
      (ReferenceProblem.unknownAttribute foreignClass name).message]
  | .unresolved => [.referenceUnresolved r.name r.foreignClass]

/-- The faults of a reference. -/
def Reference.faults (r : Reference) : List Fault :=
  Fault.when (isMissing r.name) .referenceNameMissing ++
    (Fault.when r.mappings.isEmpty (.referenceWithoutMapping r.name) ++ r.linkFaults)

/-- The faults of an index. -/
def Index.faults (i : Index) : List Fault :=
  Fault.when (isMissing i.name) .indexNameMissing ++
    (Fault.when i.parts.isEmpty (.indexWithoutParts i.name) ++
      (i.parts.filter (·.linked.isNone)).map fun part => .indexColumnUnknown i.name part.name)

/-- The faults of the second link of a collector: the reference of a one-to-many collector, the
mapping entity of a many-to-many collector. -/
def Collector.routeFaults (c : Collector) : List Fault :=
  match c.kind with
  | .oneToMany _ reference =>
    Fault.when (!c.binding.reference.isResolved) (.collectorReferenceUnknown c.name reference)
  | .manyToMany _ mappingClass _ =>
    Fault.when (!c.binding.mapping.isResolved) (.collectorMappingUnknown c.name mappingClass)

/-- The faults of a collector. -/
def Collector.faults (c : Collector) : List Fault :=
  Fault.when (isMissing c.name) .collectorNameMissing ++
    (Fault.when (!c.binding.foreign.isResolved)
      (.collectorEntityUnknown c.name c.kind.foreignClass) ++ c.routeFaults)

namespace Entity

/-- The faults of the entity itself. -/
def ownFaults (e : Entity) : List Fault :=
  Fault.when (isMissing e.className) (.entityClassMissing e.table) ++
    (Fault.when (isMissing e.table) (.entityTableMissing e.className) ++
      (Fault.when e.primaryKey.isEmpty (.noPrimaryKey e.className) ++
        (repeated [] e.columnNames).map (.duplicateColumn e.className)))

/-- The faults of the entity and its members. -/
def faults (e : Entity) : List Fault :=
  e.ownFaults ++ (e.attributes.flatMap (·.faults) ++ (e.references.flatMap (·.faults) ++
    (e.indexes.flatMap (·.faults) ++ e.collectors.flatMap (·.faults))))

end Entity

namespace DataModel

/-- The faults of every entity. -/
def faults (m : DataModel) : List Fault := m.entities.flatMap (·.faults)

/-- A log with the findings on a model added. -/
def validateInto (m : DataModel) (log : Log) : Log :=
  let log := if m.linked then log else log.warn "data model validated before resolution"
  log.report m.faults

/-- The findings on a model. -/
def validate (m : DataModel) : Log := m.validateInto {}

/-- **A linked model is validated without a warning,** and its errors are its faults. -/
theorem validate_linked {m : DataModel} (h : m.linked) :
    m.validate = { errors := m.faults.map fun f => ⟨f.code, f.message⟩, warnings := [] } := by
  simp [validate, validateInto, h, Log.report]

end DataModel

/-- Nothing is repeated exactly when all are distinct and new. -/
theorem repeated_eq_nil_iff {seen names : List String} :
    repeated seen names = [] ↔ names.Nodup ∧ ∀ name ∈ names, name ∉ seen := by
  induction names generalizing seen with
  | nil => simp [repeated]
  | cons name rest ih =>
    rw [repeated]
    by_cases h : name ∈ seen
    · simp [h]
    · simp only [h, if_false, ih, List.nodup_cons, List.mem_cons]
      constructor
      · rintro ⟨hnodup, hnew⟩
        refine ⟨⟨fun hmem => hnew name hmem (Or.inl rfl), hnodup⟩, ?_⟩
        rintro other (rfl | hother)
        · exact h
        · exact fun hseen => hnew other hother (Or.inr hseen)
      · rintro ⟨⟨hfirst, hnodup⟩, hnew⟩
        refine ⟨hnodup, fun other hother => ?_⟩
        rintro (rfl | hseen)
        · exact hfirst hother
        · exact hnew other (Or.inr hother) hseen

end Schemata
