import Schemata.Proofs.Generation.Surroundings
import Schemata.Proofs.Model.Links

/-!
# The ways that accessors go

In a sound model nearly everything that an accessor could miss is there, so that its definition
comes down to the one thing that is in doubt.  A one-to-many collector always gives an accessor.  A
many-to-many collector goes over a mapping entity: by the reference that it names, and back by the
first other reference that points at its owner.  Whether there is such a way is all that the
accessor on the other side depends on; the collector itself demands in addition that the named
reference points at its foreign entity.

* `accessor_cases` - every accessor belongs to a reference, a collector or a request;
* `Way.of_find?` - what is known of the two references of a way;
* `collectorAccessor?_oneToMany`, `collectorAccessor?_manyToMany` - the accessor of a collector;
* `reciprocalAccessor?_request` - the accessor that a collector asks of its foreign entity.
-/

namespace Schemata.Generation

variable {m : DataModel} {e owner foreign mapping : Entity} {c : Collector} {a : Accessor}

/-- The accessors kept are among those given. -/
theorem mem_of_mem_firsts {taken : List String} {as : List Accessor}
    (h : a ∈ (firsts taken as).1) : a ∈ as := by
  induction as generalizing taken with
  | nil => exact h
  | cons first rest ih =>
    rw [firsts] at h
    split at h
    · exact List.mem_cons_of_mem _ (ih h)
    · rcases List.mem_cons.mp h with rfl | hrest
      · exact List.mem_cons_self
      · exact List.mem_cons_of_mem _ (ih hrest)

/-- **Every accessor** belongs to a reference, a collector, or what another entity asks for. -/
theorem accessor_cases (h : a ∈ accessors m e) :
    (∃ r ∈ e.references, referenceAccessor? r = some a) ∨
    (∃ c ∈ e.collectors, collectorAccessor? m e c = some a) ∨
    (∃ r ∈ m.reciprocalsFor e.id, reciprocalAccessor? m r = some a) := by
  have hmem : a ∈ accessorsOf (relations m e) := mem_of_mem_firsts h
  rw [accessorsOf_relations, List.mem_append, List.mem_append, or_assoc] at hmem
  simpa only [List.mem_filterMap, List.mem_map, id_eq, exists_eq_right] using hmem

/-- A way over a mapping entity: the reference of a name, and another one. -/
structure Way where
  named : Reference
  other : Reference

/-- The way by the reference of a name, and back to a table by the first other one. -/
def Way.find? (mapping : Entity) (name table : String) : Option Way := do
  let named ← mapping.reference? name
  let other ← otherSide? mapping name table
  return { named, other }

/-- **What is known of a way:** both references are of the mapping entity, only one has the name,
and the other one points at the table. -/
theorem Way.of_find? {name table : String} {way : Way}
    (h : Way.find? mapping name table = some way) :
    way.named ∈ mapping.references ∧ way.named.name = name ∧
      way.other ∈ mapping.references ∧ way.other.name ≠ name ∧
      way.other.foreignTable? = some table := by
  simp only [Way.find?, Option.bind_eq_bind, Option.bind_eq_some_iff, Option.pure_def,
    Option.some_inj] at h
  obtain ⟨named, hnamed, other, hother, rfl⟩ := h
  have hname := Lookup.mem_of_find?_key hnamed
  have hpoints := List.find?_some hother
  rw [Bool.and_eq_true, bne_iff_ne, beq_iff_eq] at hpoints
  exact ⟨hname.1, hname.2, List.mem_of_find?_eq_some hother, hpoints.1, hpoints.2⟩

/-- The accessor of a reference. -/
theorem referenceAccessor?_eq_some {r : Reference} (h : referenceAccessor? r = some a) :
    ∃ table, r.foreignTable? = some table ∧
      a.query = .rows table (r.columns.map (·.foreignColumn)) ∧
      a.bindings = r.columns.map (·.column) := by
  simp only [referenceAccessor?, Option.bind_eq_bind, Option.bind_eq_some_iff, Option.pure_def,
    Option.some_inj] at h
  obtain ⟨table, htable, rfl⟩ := h
  exact ⟨table, htable, rfl, rfl⟩

/-- The accessor of a one-to-many collector that goes by a reference of the foreign entity. -/
def directAccessor (c : Collector) (foreign : Entity) (r : Reference) : Accessor :=
  { name := getterName c.accessor
    summary :=
      "Select the " ++ shown foreign.className ++ " rows collected by " ++ shown c.name ++ "."
    bindings := r.columns.map (·.foreignColumn)
    query := .rows foreign.table (r.columns.map (·.column)) }

/-- The accessor of a many-to-many collector that goes a way. -/
def Way.accessor (way : Way) (c : Collector) (foreign mapping : Entity) : Accessor :=
  { name := getterName c.accessor
    summary :=
      "Select the " ++ shown foreign.className ++ " rows linked through " ++
        shown mapping.className ++ "."
    bindings := way.other.columns.map (·.foreignColumn)
    query := linkedQuery foreign mapping way.named way.other }

/-- The accessor that a many-to-many collector asks for, which goes a way back. -/
def Way.accessorBack (way : Way) (r : Reciprocal) (owner mapping : Entity) : Accessor :=
  { name := getterName r.accessor
    summary :=
      "Select the " ++ shown owner.className ++ " rows linking here through " ++
        shown mapping.className ++ " (collector " ++ shown r.collector ++ ")."
    bindings := way.named.columns.map (·.foreignColumn)
    query := linkedQuery owner mapping way.other way.named }

/-- The accessor over a mapping entity goes a way, if there is one. -/
theorem manyToManyAccessor?_eq {name : String} (hthrough : c.mapping? = some mapping.id)
    (hmapping : m.entity? mapping.id = some mapping) :
    manyToManyAccessor? m owner c foreign name =
      (Way.find? mapping name owner.table).map (·.accessor c foreign mapping) := by
  simp only [manyToManyAccessor?, hthrough, Option.bind_eq_bind, Option.bind_some, hmapping,
    Way.find?, Option.map_bind, Function.comp_def]
  rfl

section

variable (h : m.Sound) (howner : owner ∈ m.entities) (hc : c ∈ owner.collectors)

include h howner hc

/-- **A one-to-many collector gives an accessor,** by a reference of the foreign entity. -/
theorem collectorAccessor?_oneToMany {foreignClass name : String}
    (hkind : c.kind = .oneToMany foreignClass name) :
    ∃ foreign r, m.find? foreignClass = some foreign ∧ foreign.reference? name = some r ∧
      collectorAccessor? m owner c = some (directAccessor c foreign r) := by
  obtain ⟨foreign, r, hfind, hr, hforeign, hreference⟩ := h.clean.bound_oneToMany howner hc hkind
  have hmany : c.kind.isManyToMany = false := by rw [hkind]; rfl
  have hcomplete : c.isComplete m = true := by
    simp [Collector.isComplete, hforeign, hreference, hmany]
  have hname : r.name = name := (Lookup.mem_of_find?_key hr).2
  have haccessor : collectorAccessor? m owner c = oneToManyAccessor? c foreign name := by
    simp [collectorAccessor?, hcomplete, hforeign, hreference, hmany, h.entity?_of_find? hfind,
      hname]
  refine ⟨foreign, r, hfind, hr, haccessor.trans ?_⟩
  rw [oneToManyAccessor?, hr]
  rfl

/-- **The accessor of a many-to-many collector** goes a way whose named reference points at the
foreign entity. -/
theorem collectorAccessor?_manyToMany {foreignClass mappingClass name : String}
    (hkind : c.kind = .manyToMany foreignClass mappingClass name)
    (hforeign : m.find? foreignClass = some foreign)
    (hmapping : m.find? mappingClass = some mapping) :
    collectorAccessor? m owner c =
      ((Way.find? mapping name owner.table).filter fun way =>
        way.named.foreignTable? == some foreign.table).map (·.accessor c foreign mapping) := by
  obtain ⟨foreign', mapping', hforeign', hmapping', hfound, hthrough, hreference⟩ :=
    h.bound_manyToMany howner hc hkind
  obtain rfl : foreign = foreign' := Option.some_inj.mp (hforeign.symm.trans hforeign')
  obtain rfl : mapping = mapping' := Option.some_inj.mp (hmapping.symm.trans hmapping')
  have hmany : c.kind.isManyToMany = true := by rw [hkind]; rfl
  cases hr : mapping.reference? name with
  | none => simp [collectorAccessor?, Collector.isComplete, hfound, hreference, hr, Way.find?]
  | some r =>
    have hname : r.name = name := (Lookup.mem_of_find?_key hr).2
    have hcomplete : c.isComplete m = (r.foreignTable? == some foreign.table) := by
      simp [Collector.isComplete, hfound, hthrough, hreference, hr, hmany,
        h.entity?_of_find? hforeign, h.entity?_of_find? hmapping, Collector.leadsTo, hname]
    have haccessor : collectorAccessor? m owner c =
        if r.foreignTable? == some foreign.table then manyToManyAccessor? m owner c foreign name
        else none := by
      simp [collectorAccessor?, hcomplete, hfound, hreference, hmany, hr, hname,
        h.entity?_of_find? hforeign]
    rw [haccessor, manyToManyAccessor?_eq hthrough (h.entity?_of_find? hmapping), Way.find?, hr]
    cases hother : otherSide? mapping name owner.table with
    | none => simp
    | some other =>
      simp only [Option.bind_eq_bind, Option.bind_some, Option.pure_def, Option.filter_some]
      split <;> rfl

/-- **The accessor that a many-to-many collector asks for** goes a way by the reference that the
first collector of that name names. -/
theorem reciprocalAccessor?_request {foreignClass mappingClass name : String}
    (hkind : c.kind = .manyToMany foreignClass mappingClass name) (id : EntityId)
    (hmapping : m.find? mappingClass = some mapping) :
    ∃ first, owner.collector? c.name = some first ∧
      reciprocalAccessor? m (m.request id owner c) =
        (Way.find? mapping first.kind.reference owner.table).map
          (·.accessorBack (m.request id owner c) owner mapping) := by
  have hthrough : (m.request id owner c).mapping = some mapping.id := by
    simp [DataModel.request, hkind, CollectorKind.mappingClass?, hmapping]
  obtain ⟨first, hfirst⟩ : ∃ first, owner.collector? c.name = some first := by
    refine Option.isSome_iff_exists.mp ?_
    rw [Entity.collector?, List.find?_isSome]
    exact ⟨c, hc, beq_self_eq_true _⟩
  refine ⟨first, hfirst, ?_⟩
  have horigin : m.entity? (m.request id owner c).origin = some owner :=
    DataModel.entity?_eq_some h.distinctIds howner
  have hcollector : owner.collector? (m.request id owner c).collector = some first := hfirst
  simp only [reciprocalAccessor?, horigin, hthrough, hcollector, Option.bind_eq_bind,
    Option.bind_some, h.entity?_of_find? hmapping, Way.find?, Option.map_bind, Function.comp_def]
  rfl

end

end Schemata.Generation
