import Schemata.Model.DataModel

/-!
# Linking the entities of a model

Linking looks up every name by which a member points at another entity.  A name that finds nothing
leaves the reason behind, for validation to report.  References are linked first, because accessors
read their columns; then index parts, within each entity; then collectors, whose requests for
accessors on other entities are gathered in order of declaration.

* `linked_linkAll` - linking freezes the model;
* `length_entities_linkAll` - linking neither adds nor loses entities.
-/

namespace Schemata

namespace Reference

/-- What the attributes of a foreign entity make of the declared pairs. -/
def linkColumns (foreignClass : String) (foreign : Entity) :
    List Mapping → Except ReferenceProblem (List LinkedColumn)
  | [] => .ok []
  | mapping :: rest =>
    match foreign.attribute? mapping.foreignAttribute with
    | none => .error (.unknownAttribute foreignClass mapping.foreignAttribute)
    | some found => do
      let columns ← linkColumns foreignClass foreign rest
      return ⟨mapping.column, found.type, found.column⟩ :: columns

/-- What the reference points at in a model. -/
def lookUp (r : Reference) (m : DataModel) : Except ReferenceProblem ReferenceTarget :=
  match m.find? r.foreignClass with
  | none => .error (.unknownClass r.foreignClass)
  | some foreign => do
    let columns ← linkColumns r.foreignClass foreign r.mappings
    return ⟨foreign.id, foreign.table, columns⟩

/-- The reference with its link looked up in a model. -/
def linkIn (m : DataModel) (r : Reference) : Reference :=
  { r with resolution := .ofExcept (r.lookUp m) }

/-- A linked reference has as many typed columns as declared pairs. -/
theorem length_linkColumns {foreignClass : String} {foreign : Entity} {mappings : List Mapping}
    {columns : List LinkedColumn} (h : linkColumns foreignClass foreign mappings = .ok columns) :
    columns.map (·.column) = mappings.map (·.column) := by
  induction mappings generalizing columns with
  | nil =>
    simp only [linkColumns, Except.ok.injEq] at h
    simp [← h]
  | cons mapping rest ih =>
    simp only [linkColumns] at h
    split at h
    · cases h
    · cases hrest : linkColumns foreignClass foreign rest with
      | error p => simp [hrest, bind, Except.bind] at h
      | ok others =>
        simp only [hrest, bind, Except.bind, pure, Except.pure, Except.ok.injEq] at h
        simp [← h, ih hrest]

end Reference

namespace Collector

/-- The identity of an entity that was looked for by class name. -/
def entityLink (found : Option Entity) (className : String) :
    Resolution EntityId CollectorProblem :=
  match found with
  | some e => .resolved e.id
  | none => .invalid (.unknownEntity className)

/-- The reference of an entity that holds it, or the reason why there is none. -/
def referenceLink (holder : Option Entity) (missing : CollectorProblem) (reference : String) :
    Resolution ReferenceHandle CollectorProblem :=
  match holder with
  | none => .invalid missing
  | some e =>
    match e.reference? reference with
    | some r => .resolved ⟨e.id, r.name⟩
    | none => .invalid (.noReference e.className reference)

/-- The links of a collector in a model. -/
def bindIn (m : DataModel) (c : Collector) : CollectorBinding :=
  match c.kind with
  | .oneToMany foreignClass reference =>
    let foreign := m.find? foreignClass
    { foreign := entityLink foreign foreignClass
      reference := referenceLink foreign (.noForeignEntity foreignClass) reference }
  | .manyToMany foreignClass mappingClass reference =>
    let mapping := m.find? mappingClass
    { foreign := entityLink (m.find? foreignClass) foreignClass
      mapping := entityLink mapping mappingClass
      reference := referenceLink mapping (.noMappingEntity mappingClass) reference }

/-- The collector with its links looked up in a model. -/
def linkIn (m : DataModel) (c : Collector) : Collector :=
  { c with binding := c.bindIn m }

/-- The accessor that a many-to-many collector asks of its foreign entity, if that exists.  It is
asked for even where the mapping entity is missing. -/
def reciprocalIn (m : DataModel) (owner : Entity) (c : Collector) : Option Reciprocal :=
  match c.kind with
  | .oneToMany .. => none
  | .manyToMany foreignClass mappingClass _ =>
    (m.find? foreignClass).map fun foreign =>
      { entity := foreign.id
        mapping := (m.find? mappingClass).map (·.id)
        origin := owner.id
        originClass := owner.className
        collector := c.name }

end Collector

namespace Entity

/-- The entity with its references and indexes linked. -/
def linkReferences (m : DataModel) (e : Entity) : Entity :=
  { e with references := e.references.map (Reference.linkIn m) : Entity }.linkIndexes

/-- The entity with its collectors linked. -/
def linkCollectors (m : DataModel) (e : Entity) : Entity :=
  { e with collectors := e.collectors.map (Collector.linkIn m) }

/-- The accessors that the collectors of an entity ask for, in order of declaration. -/
def reciprocals (m : DataModel) (e : Entity) : List Reciprocal :=
  e.collectors.filterMap (·.reciprocalIn m e)

end Entity

namespace DataModel

/-- The model with every reference and index linked. -/
def linkReferences (m : DataModel) : DataModel :=
  { m with entities := m.entities.map (·.linkReferences m) }

/-- The model with every link looked up anew. -/
def linkAll (m : DataModel) : DataModel :=
  let n := m.linkReferences
  { entities := n.entities.map (·.linkCollectors n)
    reciprocals := n.entities.flatMap (·.reciprocals n)
    linked := true }

/-- **Linking freezes the model.** -/
theorem linked_linkAll (m : DataModel) : m.linkAll.linked = true := rfl

/-- Linking neither adds nor loses entities. -/
theorem length_entities_linkAll (m : DataModel) :
    m.linkAll.entities.length = m.entities.length := by
  simp [linkAll, linkReferences]

/-- Linking keeps the identities, in order. -/
theorem ids_linkAll (m : DataModel) :
    m.linkAll.entities.map (·.id) = m.entities.map (·.id) := by
  simp [linkAll, linkReferences, Entity.linkCollectors, Entity.linkReferences, Entity.linkIndexes,
    Function.comp_def]

end DataModel

namespace Collector

/-- The mapping entity has a reference of the given name that points at a table. -/
def leadsTo (mapping : Entity) (reference table : String) : Bool :=
  ((mapping.reference? reference).bind (·.foreignTable?)) == some table

/-- Every link of the collector holds; a many-to-many collector also needs its reference to point at
the table of the foreign entity. -/
def isComplete (m : DataModel) (c : Collector) : Bool :=
  match c.foreign?, c.reference? with
  | some foreign, some handle =>
    if c.kind.isManyToMany then
      match m.entity? foreign, c.mapping?.bind m.entity? with
      | some foreign, some mapping => leadsTo mapping handle.name foreign.table
      | _, _ => false
    else true
  | _, _ => false

/-- The full class name of the foreign entity; empty while it is not found. -/
def referencedClass (m : DataModel) (c : Collector) : String :=
  ((c.foreign?.bind m.entity?).map (·.fullName)).getD ""

/-- The accessor of the reference that the collector names, on the mapping entity. -/
def nearAccessor? (m : DataModel) (c : Collector) : Option String := do
  let mapping ← m.entity? (← c.mapping?)
  let r ← mapping.reference? c.kind.reference
  return r.accessor

/-- The accessor of the first reference of the mapping entity that points at the foreign table. -/
def farAccessor? (m : DataModel) (c : Collector) : Option String := do
  let mapping ← m.entity? (← c.mapping?)
  let foreign ← m.entity? (← c.foreign?)
  let r ← mapping.references.find? (·.foreignTable? == some foreign.table)
  return r.accessor

end Collector

end Schemata
