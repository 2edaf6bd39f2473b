import Schemata.Proofs.Model.Calls

/-!
# Linking again

Linking looks up every name and writes down what it found.  Whether anything had been written there
before does not matter: each look-up reads classes, identities, tables, attributes, and the names of
references, and none of these is ever changed by a link.  Two models that differ in their links
alone are therefore linked to the same model, and a model that has been linked is linked to itself.

Once a model is linked it stays as it is, whatever is called.  The accessors that it asks of an
entity are then exactly those of the many-to-many collectors that find the entity, in order of
registration and of declaration.

* `linkedIn_unlinked` - what an entity is linked to follows from what it is without its links;
* `linkAll_of_map` - models that differ in links alone are linked to the same model;
* `linkAll_linkAll` - linking a second time changes nothing;
* `linkAll_settles` - what calls can make of a linked model, and what it asks of each entity.
-/

namespace Schemata

/-- The entity without its links. -/
def Entity.unlinked (e : Entity) : Entity :=
  { e with
    references := e.references.map (·.declared)
    indexes := e.indexes.map (·.declared)
    collectors := e.collectors.map (·.declared) }

namespace Entity

variable {e f : Entity}

/-- Entities alike but for their links declare their references alike. -/
theorem references_of_unlinked (h : e.unlinked = f.unlinked) :
    e.references.map (·.declared) = f.references.map (·.declared) :=
  (congrArg (·.references) h :)

/-- Entities alike but for their links declare their collectors alike. -/
theorem collectors_of_unlinked (h : e.unlinked = f.unlinked) :
    e.collectors.map (·.declared) = f.collectors.map (·.declared) :=
  (congrArg (·.collectors) h :)

/-- Links aside, the references of a name are the same. -/
theorem reference?_of_unlinked (h : e.unlinked = f.unlinked) (name : String) :
    (e.reference? name).map (·.name) = (f.reference? name).map (·.name) := by
  have hdeclared : ∀ g : Entity, (g.reference? name).map (·.name) =
      ((g.references.map (·.declared)).find? (·.name == name)).map (·.name) := by
    intro g
    rw [reference?, List.find?_map, Option.map_map]
    rfl
  rw [hdeclared, hdeclared, references_of_unlinked h]

/-- Linking changes nothing but links. -/
theorem unlinked_linkedIn (m : DataModel) (e : Entity) : (e.linkedIn m).unlinked = e.unlinked := by
  simp [linkedIn, linkCollectors, linkReferences, linkIndexes, unlinked, linkIndex,
    Index.declared_link, Reference.declared, Reference.linkIn, Collector.declared,
    Collector.linkIn, Function.comp_def]

/-- Linking the references of an entity changes its links only. -/
theorem unlinked_linkReferences (m : DataModel) (e : Entity) :
    (e.linkReferences m).unlinked = e.unlinked := by
  simp [linkReferences, linkIndexes, unlinked, linkIndex, Index.declared_link, Reference.declared,
    Reference.linkIn, Function.comp_def]

/-- The members of a linked entity, kind by kind. -/
theorem linkedIn_eq (m : DataModel) (e : Entity) :
    e.linkedIn m =
      { e with
        references := e.references.map (Reference.linkIn m)
        indexes := e.declared.indexes.map e.declared.linkIndex
        collectors := e.collectors.map (Collector.linkIn m.linkReferences) } := by
  rw [← indexes_linkedIn m e]
  rfl

/-- **What an entity is linked to follows from what it is without its links.** -/
theorem linkedIn_unlinked (m : DataModel) (e : Entity) : e.unlinked.linkedIn m = e.linkedIn m := by
  have hdeclared : e.unlinked.declared = e.declared := by
    simp [unlinked, declared, Reference.declared, Index.declared, Collector.declared,
      Function.comp_def]
  have hreferences :
      (e.references.map (·.declared)).map (Reference.linkIn m) =
        e.references.map (Reference.linkIn m) := by
    rw [List.map_map]
    rfl
  have hcollectors :
      (e.collectors.map (·.declared)).map (Collector.linkIn m.linkReferences) =
        e.collectors.map (Collector.linkIn m.linkReferences) := by
    rw [List.map_map]
    rfl
  rw [linkedIn_eq, linkedIn_eq, hdeclared, ← hreferences, ← hcollectors]
  rfl

end Entity

/-- The columns of a reference are linked to attributes alone. -/
theorem Reference.linkColumns_of_attributes {f g : Entity} (foreignClass : String)
    (h : f.attributes = g.attributes) (mappings : List Mapping) :
    linkColumns foreignClass f mappings = linkColumns foreignClass g mappings := by
  induction mappings with
  | nil => rfl
  | cons mapping rest ih => simp only [linkColumns, ih, Entity.attribute?, h]

namespace DataModel

/-- The second model has the entities of the first, each of them changed in its links alone. -/
structure RelinkedBy (m n : DataModel) (g : Entity → Entity) : Prop where
  entities : n.entities = m.entities.map g
  links : ∀ e, (g e).unlinked = e.unlinked

/-- The first phase of linking changes links only, entity by entity. -/
theorem relinkedBy_linkReferences (m : DataModel) :
    m.RelinkedBy m.linkReferences (Entity.linkReferences m) :=
  ⟨rfl, Entity.unlinked_linkReferences m⟩

/-- Linking as a whole changes links only, entity by entity. -/
theorem relinkedBy_linkAll (m : DataModel) : m.RelinkedBy m.linkAll (Entity.linkedIn m) :=
  ⟨entities_linkAll m, Entity.unlinked_linkedIn m⟩

namespace RelinkedBy

variable {m n : DataModel} {g : Entity → Entity}

/-- An entity keeps its id. -/
theorem id (h : m.RelinkedBy n g) (e : Entity) : (g e).id = e.id :=
  (congrArg (·.id) (h.links e) :)

/-- An entity keeps its class name. -/
theorem className (h : m.RelinkedBy n g) (e : Entity) : (g e).className = e.className :=
  (congrArg (·.className) (h.links e) :)

/-- An entity keeps its table. -/
theorem table (h : m.RelinkedBy n g) (e : Entity) : (g e).table = e.table :=
  (congrArg (·.table) (h.links e) :)

/-- An entity keeps its attributes. -/
theorem attributes (h : m.RelinkedBy n g) (e : Entity) : (g e).attributes = e.attributes :=
  (congrArg (·.attributes) (h.links e) :)

/-- A class name finds the same entity. -/
theorem find? (h : m.RelinkedBy n g) (name : String) : n.find? name = (m.find? name).map g :=
  find?_of_map h.entities h.className (fun e => (congrArg (·.nameSpace) (h.links e) :)) name

/-- A reference finds the same. -/
theorem lookUp (h : m.RelinkedBy n g) (r : Reference) : r.lookUp n = r.lookUp m := by
  rw [Reference.lookUp, Reference.lookUp, h.find?]
  cases m.find? r.foreignClass with
  | none => rfl
  | some foreign =>
    have hcolumns := Reference.linkColumns_of_attributes r.foreignClass (h.attributes foreign)
      r.mappings
    simp only [Option.map_some, h.id, h.table, hcolumns]

/-- A link to an entity names the class and the id, and both are kept. -/
theorem entityLink (h : m.RelinkedBy n g) (found : Option Entity) (className : String) :
    Collector.entityLink (found.map g) className = Collector.entityLink found className := by
  cases found with
  | none => rfl
  | some e => exact congrArg Resolution.resolved (h.id e)

/-- A link to a reference is made from its name, which is kept. -/
theorem referenceLink (h : m.RelinkedBy n g) (holder : Option Entity) (missing : CollectorProblem)
    (reference : String) :
    Collector.referenceLink (holder.map g) missing reference =
      Collector.referenceLink holder missing reference := by
  cases holder with
  | none => rfl
  | some e =>
    have hname := Entity.reference?_of_unlinked (h.links e) reference
    simp only [Option.map_some, Collector.referenceLink]
    cases hfound : e.reference? reference with
    | none =>
      rw [hfound, Option.map_none, Option.map_eq_none_iff] at hname
      simp only [hname, h.className]
    | some r =>
      rw [hfound, Option.map_some, Option.map_eq_some_iff] at hname
      obtain ⟨r', hr', hsame⟩ := hname
      simp only [hr', h.id, hsame]

/-- A collector finds the same. -/
theorem bindIn (h : m.RelinkedBy n g) (c : Collector) : c.bindIn n = c.bindIn m := by
  unfold Collector.bindIn
  split <;> simp only [h.find?, h.entityLink, h.referenceLink]

/-- A collector asks for the same accessor. -/
theorem reciprocalIn (h : m.RelinkedBy n g) (e : Entity) (c : Collector) :
    c.reciprocalIn n (g e) = c.reciprocalIn m e := by
  unfold Collector.reciprocalIn
  split
  · rfl
  · simp only [h.find?, Option.map_map, Function.comp_def, h.id, h.className]

/-- An entity asks for the same accessors. -/
theorem reciprocals (h : m.RelinkedBy n g) (e : Entity) :
    (g e).reciprocals n = e.reciprocals m := by
  have hdeclared : ∀ (p : DataModel) (owner : Entity) (cs : List Collector),
      cs.filterMap (·.reciprocalIn p owner) =
        (cs.map (·.declared)).filterMap (·.reciprocalIn p owner) := by
    intro p owner cs
    rw [List.filterMap_map]
    rfl
  rw [Entity.reciprocals, Entity.reciprocals, hdeclared, Entity.collectors_of_unlinked (h.links e),
    ← hdeclared]
  exact List.filterMap_congr fun c _ => h.reciprocalIn e c

/-- An entity is linked to the same. -/
theorem linkedIn (h : m.RelinkedBy n g) (e : Entity) : (g e).linkedIn n = e.linkedIn m := by
  have hreference : ∀ r, Reference.linkIn n r = Reference.linkIn m r := by
    intro r
    rw [Reference.linkIn, Reference.linkIn, h.lookUp]
  have hcollector : ∀ c,
      Collector.linkIn n.linkReferences c = Collector.linkIn m.linkReferences c := by
    intro c
    rw [Collector.linkIn, Collector.linkIn, (relinkedBy_linkReferences n).bindIn, h.bindIn,
      (relinkedBy_linkReferences m).bindIn]
  calc (g e).linkedIn n
      = (g e).unlinked.linkedIn n := (Entity.linkedIn_unlinked n (g e)).symm
    _ = e.unlinked.linkedIn n := by rw [h.links]
    _ = e.linkedIn n := Entity.linkedIn_unlinked n e
    _ = e.linkedIn m := by
      simp only [Entity.linkedIn_eq, funext hreference, funext hcollector]

end RelinkedBy

variable {m n : DataModel} {g : Entity → Entity}

/-- What a linked model asks for is what it asked for before it was linked. -/
theorem reciprocals_linkAll (m : DataModel) :
    m.linkAll.reciprocals = m.entities.flatMap (·.reciprocals m) := by
  show m.linkReferences.entities.flatMap (·.reciprocals m.linkReferences) = _
  rw [(relinkedBy_linkReferences m).entities, List.flatMap_map]
  simp only [(relinkedBy_linkReferences m).reciprocals]

/-- **Models that differ in links alone are linked to the same model.** -/
theorem linkAll_of_relinked (h : m.RelinkedBy n g) : n.linkAll = m.linkAll := by
  have hentities : n.linkAll.entities = m.linkAll.entities := by
    rw [entities_linkAll, entities_linkAll, h.entities, List.map_map]
    exact List.map_congr_left fun e _ => h.linkedIn e
  have hreciprocals : n.linkAll.reciprocals = m.linkAll.reciprocals := by
    rw [reciprocals_linkAll, reciprocals_linkAll, h.entities, List.flatMap_map]
    simp only [h.reciprocals]
  show DataModel.mk n.linkAll.entities n.linkAll.reciprocals true = _
  rw [hentities, hreciprocals]
  rfl

/-- **Linking a second time changes nothing.** -/
theorem linkAll_linkAll (m : DataModel) : m.linkAll.linkAll = m.linkAll :=
  linkAll_of_relinked (relinkedBy_linkAll m)

/-- No call changes a model that has been linked. -/
theorem after_linkAll (m : DataModel) (call : ModelCall) : m.linkAll.after call = m.linkAll := by
  cases call with
  | register e => rw [after, ModelCall.run, register_frozen (linked_linkAll m)]
  | extend x => rw [after, ModelCall.run, extend_frozen (linked_linkAll m)]
  | link => exact linkAll_linkAll m

/-- No call changes a model that is linked. -/
theorem foldl_after_linkAll (m : DataModel) (calls : List ModelCall) :
    calls.foldl after m.linkAll = m.linkAll := by
  induction calls with
  | nil => rfl
  | cons call rest ih => rw [List.foldl_cons, after_linkAll, ih]

/-- The collector asks for an accessor on the entity with the identity: it is a many-to-many
collector, and its foreign class finds that entity. -/
def asks (m : DataModel) (id : EntityId) (c : Collector) : Bool :=
  c.kind.isManyToMany && (m.find? c.kind.foreignClass).any (·.id == id)

/-- What the collector of an entity asks of the one with the identity.  The mapping entity is part
of it if its class finds one. -/
def request (m : DataModel) (id : EntityId) (e : Entity) (c : Collector) : Reciprocal :=
  { entity := id
    mapping := (c.kind.mappingClass?.bind m.find?).map (·.id)
    origin := e.id
    originClass := e.className
    collector := c.name }

/-- What the collectors of a model ask of the entity with the identity, in order of registration and
of declaration. -/
def requestsTo (m : DataModel) (id : EntityId) : List Reciprocal :=
  m.entities.flatMap fun e => (e.collectors.filter (m.asks id)).map (m.request id e)

/-- A collector asks this entity, another one, or none. -/
theorem filter_reciprocalIn (m : DataModel) (id : EntityId) (e : Entity) (c : Collector) :
    (c.reciprocalIn m e).filter (·.entity == id) =
      if m.asks id c then some (m.request id e c) else none := by
  unfold Collector.reciprocalIn
  split
  case h_1 foreignClass reference hkind =>
    simp [asks, hkind, CollectorKind.isManyToMany, CollectorKind.mappingClass?]
  case h_2 foreignClass mappingClass reference hkind =>
    have hforeign : c.kind.foreignClass = foreignClass := by rw [hkind]; rfl
    have hmapping : c.kind.mappingClass? = some mappingClass := by rw [hkind]; rfl
    rw [asks, CollectorKind.isManyToMany, hmapping, hforeign]
    cases hfound : m.find? foreignClass with
    | none => simp
    | some foreign =>
      by_cases hid : foreign.id = id
      · simp [request, hmapping, hid]
      · simp [hid]

/-- Of the collectors an entity asks others for, those that go to one entity. -/
theorem filter_reciprocals (m : DataModel) (id : EntityId) (e : Entity) :
    (e.reciprocals m).filter (·.entity == id) =
      (e.collectors.filter (m.asks id)).map (m.request id e) := by
  rw [Entity.reciprocals, List.filter_filterMap, ← List.filterMap_eq_map, List.filterMap_filter]
  exact List.filterMap_congr fun c _ => filter_reciprocalIn m id e c

/-- **A linked model.**  No call changes it any more, linking it again included; and what it asks of
an entity is one accessor for each many-to-many collector that finds the entity. -/
theorem linkAll_settles (calls : List ModelCall) :
    let m := afterCalls (calls ++ [.link])
    m.linkAll = m ∧ (∀ later, afterCalls (calls ++ [.link] ++ later) = m) ∧
      ∀ id, m.reciprocalsFor id = m.requestsTo id := by
  intro m
  have hm : m = (afterCalls calls).linkAll := by
    show afterCalls (calls ++ [.link]) = _
    rw [afterCalls, List.foldl_append]
    rfl
  refine ⟨?_, ?_, ?_⟩
  · rw [hm, linkAll_linkAll]
  · intro later
    rw [afterCalls, List.foldl_append]
    show later.foldl after m = m
    rw [hm, foldl_after_linkAll]
  · intro id
    have hlinked : m.linkAll = m := by rw [hm, linkAll_linkAll]
    rw [reciprocalsFor, ← hlinked, reciprocals_linkAll, hlinked, List.filter_flatMap, requestsTo]
    simp only [filter_reciprocals]

end DataModel

end Schemata
