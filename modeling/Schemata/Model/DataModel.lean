import Schemata.Failure
import Schemata.Model.Entity

/-!
# The data model

A data model holds the entities of a schema in the order in which they were registered.  Entities
join and grow until the model is linked; after that it is only read.

A class is looked up by its full name first.  If no entity has it, the short name decides, provided
that exactly one entity answers to it; a name that says its namespace is then answered only by
entities without a namespace.

* `find?_of_fullName` - an entity is found by its full name;
* `register_frozen`, `extend_frozen` - a linked model refuses every change;
* `entities_register` - registering puts the entity behind the others.
-/

namespace Schemata

/-- The entities of a schema. -/
structure DataModel where
  entities : List Entity := []
  /-- The accessors that many-to-many collectors ask of their foreign entities. -/
  reciprocals : List Reciprocal := []
  /-- The entities are linked and no longer change. -/
  linked : Bool := false
  deriving DecidableEq, Repr

namespace DataModel

/-- The entities that answer to the short form of a name. -/
def candidates (m : DataModel) (name : String) : List Entity :=
  m.entities.filter fun e =>
    e.shortName == Naming.shortName name && (!Naming.isQualified name || e.nameSpace.isNone)

/-- The entity of a class name. -/
def find? (m : DataModel) (name : String) : Option Entity :=
  match m.entities.find? (·.fullName == name) with
  | some e => some e
  | none =>
    match m.candidates name with
    | [e] => some e
    | _ => none

/-- The entity of a table. -/
def ofTable? (m : DataModel) (table : String) : Option Entity :=
  m.entities.find? (·.table == table)

/-- The entity of an identity; the last one registered, should several share it. -/
def entity? (m : DataModel) (id : EntityId) : Option Entity :=
  m.entities.reverse.find? (·.id == id)

/-- The accessors that other entities ask of the one with this identity. -/
def reciprocalsFor (m : DataModel) (id : EntityId) : List Reciprocal :=
  m.reciprocals.filter (·.entity == id)

/-- The model with one more entity.  Neither its full name nor its table may be taken. -/
def register (m : DataModel) (e : Entity) : Except Failure DataModel :=
  if m.linked then .error (.frozen .register e.fullName)
  else if m.entities.any (·.fullName == e.fullName) then
    .error (.duplicateEntity .className e.fullName)
  else if m.entities.any (·.table == e.table) then .error (.duplicateEntity .table e.table)
  else .ok { m with entities := m.entities ++ [e] }

/-- The model with an extension merged into the entity that its class name finds. -/
def extend (m : DataModel) (x : Extension) : Except Failure DataModel :=
  if m.linked then .error (.frozen .extend x.className)
  else
    match m.find? x.className with
    | none => .error (.entityNotFound x.className)
    | some found =>
      .ok { m with
        entities := m.entities.map fun e => if e.fullName = found.fullName then e.extend x else e }

/-- **An entity is found by its full name,** whatever other entities there are. -/
theorem find?_of_fullName {m : DataModel} {name : String} {e : Entity}
    (h : m.entities.find? (·.fullName == name) = some e) : m.find? name = some e := by
  simp [find?, h]

/-- What a look-up finds is an entity of the model. -/
theorem mem_of_find? {m : DataModel} {name : String} {e : Entity} (h : m.find? name = some e) :
    e ∈ m.entities := by
  unfold find? at h
  split at h
  · rename_i found hfound
    cases h
    exact List.mem_of_find?_eq_some hfound
  · split at h
    · rename_i found hone
      cases h
      have : e ∈ m.candidates name := by rw [hone]; exact List.mem_singleton.2 rfl
      exact (List.mem_filter.1 this).1
    · cases h

/-- A linked model takes no entity. -/
theorem register_frozen {m : DataModel} (h : m.linked) (e : Entity) :
    m.register e = .error (.frozen .register e.fullName) := by
  simp [register, h]

/-- A linked model takes no extension. -/
theorem extend_frozen {m : DataModel} (h : m.linked) (x : Extension) :
    m.extend x = .error (.frozen .extend x.className) := by
  simp [extend, h]

/-- Registering puts the entity behind the others and changes nothing else. -/
theorem entities_register {m n : DataModel} {e : Entity} (h : m.register e = .ok n) :
    n = { m with entities := m.entities ++ [e] } := by
  unfold register at h
  split at h
  · cases h
  · split at h
    · cases h
    · split at h
      · cases h
      · cases h; rfl

end DataModel

end Schemata
