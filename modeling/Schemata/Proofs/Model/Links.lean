import Schemata.Proofs.Model.Placement
import Schemata.Proofs.Model.Relinking

/-!
# The links of a finished model

A finished model can be read as if it were linked to itself: each link of a member holds what the
model itself answers to the names that the member declares.  In a sound model every reference is
linked, so that it points at the entity that its class name finds; every collector has found its
foreign entity; and a one-to-many collector has found its reference, a many-to-many collector its
mapping entity.  The reference of a many-to-many collector is the one link that may be missing.  Of
collectors all this holds in every clean model.

* `Finished.resolution_eq`, `Finished.binding_eq` - links are what the model itself answers;
* `Sound.eq_of_columns` - columns tell references apart;
* `Sound.pointsAt_find?` - a reference points at the entity that its class name finds;
* `Clean.bound_oneToMany`, `Clean.bound_manyToMany` - what a collector has found;
* `Finished.reciprocalsFor_eq` - what other entities ask of one.
-/

namespace Schemata

variable {m : DataModel} {e foreign : Entity} {r : Reference}

namespace Reference

/-- The columns that a reference points at are columns of the foreign entity. -/
theorem PointsAt.foreignColumns_subset (h : r.PointsAt foreign) :
    r.columns.map (·.foreignColumn) ⊆ foreign.columnNames := by
  intro name hname
  obtain ⟨c, hc, rfl⟩ := List.mem_map.mp hname
  obtain ⟨a, ha, hcolumn, _⟩ := h.types c hc
  exact List.mem_append_left _ (hcolumn ▸ List.mem_map_of_mem ha)

/-- The columns of a reference are columns of the entity that holds it. -/
theorem PointsAt.columns_subset (h : r.PointsAt foreign) (hr : r ∈ e.references) :
    r.columns.map (·.column) ⊆ e.columnNames := by
  rw [h.names]
  exact fun name hname => List.mem_append_right _ (List.mem_flatMap_of_mem hr hname)

/-- A reference that declares a pair has a column once it is linked. -/
theorem PointsAt.columns_ne_nil (h : r.PointsAt foreign) (hmappings : r.mappings ≠ []) :
    r.columns ≠ [] := by
  intro hnone
  have hnames := h.names
  rw [hnone, List.map_nil, columnNames, eq_comm, List.map_eq_nil_iff] at hnames
  exact hmappings hnames

end Reference

/-- A fault that was not found is absent. -/
theorem Fault.when_not_eq_nil_iff {found : Bool} {fault : Fault} :
    Fault.when (!found) fault = [] ↔ found = true := by
  cases found <;> simp [when]

namespace Collector

/-- A resolved link to an entity comes of an entity that was found. -/
theorem exists_of_entityLink {found : Option Entity} {className : String}
    (h : (entityLink found className).isResolved = true) : ∃ e, found = some e := by
  cases found with
  | none => cases h
  | some e => exact ⟨e, rfl⟩

/-- A resolved link to a reference comes of a reference the entity has. -/
theorem exists_of_referenceLink {missing : CollectorProblem} {name : String}
    (h : (referenceLink (some e) missing name).isResolved = true) :
    ∃ r, e.reference? name = some r := by
  cases hfound : e.reference? name with
  | none => simp [referenceLink, hfound, Resolution.isResolved, Resolution.value?] at h
  | some r => exact ⟨r, rfl⟩

end Collector

namespace DataModel

/-- What is registered stands in the linked model with its members linked. -/
theorem linkedIn_mem_linkAll (he : e ∈ m.entities) : e.linkedIn m ∈ m.linkAll.entities := by
  rw [entities_linkAll]
  exact List.mem_map_of_mem he

namespace Finished

/-- Linking a finished model again changes nothing. -/
theorem linkAll_eq (h : m.Finished) : m.linkAll = m := by
  obtain ⟨n, _, rfl⟩ := h
  exact linkAll_linkAll n

/-- **A reference is linked to what the model itself answers.** -/
theorem resolution_eq (h : m.Finished) (he : e ∈ m.entities) (hr : r ∈ e.references) :
    r.resolution = .ofExcept (r.lookUp m) := by
  obtain ⟨n, rfl, horigins⟩ := h.exists_linkedIn
  obtain ⟨origin, _, rfl⟩ := horigins e he
  obtain ⟨declared, _, rfl⟩ := List.mem_map.mp (show r ∈ origin.references.map _ from hr)
  rw [(relinkedBy_linkAll n).lookUp]
  rfl

/-- **A collector is linked to what the model itself answers.** -/
theorem binding_eq (h : m.Finished) (he : e ∈ m.entities) {c : Collector}
    (hc : c ∈ e.collectors) : c.binding = c.bindIn m := by
  obtain ⟨n, rfl, horigins⟩ := h.exists_linkedIn
  obtain ⟨origin, _, rfl⟩ := horigins e he
  obtain ⟨declared, _, rfl⟩ := List.mem_map.mp (show c ∈ origin.collectors.map _ from hc)
  rw [(relinkedBy_linkAll n).bindIn]
  exact (relinkedBy_linkReferences n).bindIn declared

/-- **What other entities ask of one** are the accessors of the many-to-many collectors that find
it. -/
theorem reciprocalsFor_eq (h : m.Finished) (id : EntityId) :
    m.reciprocalsFor id = m.requestsTo id := by
  rw [reciprocalsFor, ← h.linkAll_eq, reciprocals_linkAll, h.linkAll_eq, List.filter_flatMap,
    requestsTo]
  simp only [filter_reciprocals]

end Finished

namespace Clean

variable {c : Collector}

/-- No collector of a clean model has a fault. -/
theorem collectorFaults_eq_nil (h : m.Clean) (he : e ∈ m.entities) (hc : c ∈ e.collectors) :
    c.faults = [] := by
  have hfaults := h.faults_eq_nil he
  simp only [Entity.faults, List.append_eq_nil_iff, List.flatMap_eq_nil_iff] at hfaults
  exact hfaults.2.2.2.2 c hc

/-- **What a one-to-many collector has found:** the foreign entity, and a reference of it. -/
theorem bound_oneToMany (h : m.Clean) (he : e ∈ m.entities) (hc : c ∈ e.collectors)
    {foreignClass name : String} (hkind : c.kind = .oneToMany foreignClass name) :
    ∃ foreign r, m.find? foreignClass = some foreign ∧ foreign.reference? name = some r ∧
      c.foreign? = some foreign.id ∧ c.reference? = some ⟨foreign.id, r.name⟩ := by
  have hbinding := h.finished.binding_eq he hc
  have hfaults := h.collectorFaults_eq_nil he hc
  simp only [Collector.bindIn, hkind] at hbinding
  simp only [Collector.faults, Collector.routeFaults, hkind, hbinding, List.append_eq_nil_iff,
    Fault.when_not_eq_nil_iff] at hfaults
  obtain ⟨foreign, hforeign⟩ := Collector.exists_of_entityLink hfaults.2.1
  rw [hforeign] at hfaults hbinding
  obtain ⟨r, hr⟩ := Collector.exists_of_referenceLink hfaults.2.2
  refine ⟨foreign, r, hforeign, hr, ?_, ?_⟩
  · rw [Collector.foreign?, hbinding]
    rfl
  · rw [Collector.reference?, hbinding, Collector.referenceLink]
    simp only [hr]
    rfl

/-- **What a many-to-many collector has found:** the foreign entity and the mapping entity, and the
reference if the mapping entity has one of that name. -/
theorem bound_manyToMany (h : m.Clean) (he : e ∈ m.entities) (hc : c ∈ e.collectors)
    {foreignClass mappingClass name : String}
    (hkind : c.kind = .manyToMany foreignClass mappingClass name) :
    ∃ foreign mapping, m.find? foreignClass = some foreign ∧ m.find? mappingClass = some mapping ∧
      c.foreign? = some foreign.id ∧ c.mapping? = some mapping.id ∧
      c.reference? = (mapping.reference? name).map fun r => ⟨mapping.id, r.name⟩ := by
  have hbinding := h.finished.binding_eq he hc
  have hfaults := h.collectorFaults_eq_nil he hc
  simp only [Collector.bindIn, hkind] at hbinding
  simp only [Collector.faults, Collector.routeFaults, hkind, hbinding, List.append_eq_nil_iff,
    Fault.when_not_eq_nil_iff] at hfaults
  obtain ⟨foreign, hforeign⟩ := Collector.exists_of_entityLink hfaults.2.1
  obtain ⟨mapping, hmapping⟩ := Collector.exists_of_entityLink hfaults.2.2
  rw [hforeign, hmapping] at hbinding
  refine ⟨foreign, mapping, hforeign, hmapping, ?_, ?_, ?_⟩
  · rw [Collector.foreign?, hbinding]
    rfl
  · rw [Collector.mapping?, hbinding]
    rfl
  · rw [Collector.reference?, hbinding, Collector.referenceLink]
    cases mapping.reference? name <;> rfl

end Clean

namespace Sound

/-- In a sound model, a many-to-many collector is bound to the two entities its classes find. -/
theorem bound_manyToMany (h : m.Sound) (he : e ∈ m.entities) {c : Collector}
    (hc : c ∈ e.collectors) {foreignClass mappingClass name : String}
    (hkind : c.kind = .manyToMany foreignClass mappingClass name) :
    ∃ foreign mapping, m.find? foreignClass = some foreign ∧ m.find? mappingClass = some mapping ∧
      c.foreign? = some foreign.id ∧ c.mapping? = some mapping.id ∧
      c.reference? = (mapping.reference? name).map fun r => ⟨mapping.id, r.name⟩ :=
  h.clean.bound_manyToMany he hc hkind

/-- What a class name finds is found by its identity too. -/
theorem entity?_of_find? (h : m.Sound) {name : String} (hfind : m.find? name = some e) :
    m.entity? e.id = some e :=
  entity?_eq_some h.distinctIds (mem_of_find? hfind)

/-- Every reference of a sound model maps at least one column. -/
theorem mappings_ne_nil (h : m.Sound) (he : e ∈ m.entities) (hr : r ∈ e.references) :
    r.mappings ≠ [] := by
  have hown := h.clean.referenceFaults_eq_nil he hr
  simp only [Reference.faults, List.append_eq_nil_iff] at hown
  intro hnone
  simp [Fault.when, hnone] at hown

/-- Every reference of a sound model is linked to at least one column. -/
theorem columns_ne_nil (h : m.Sound) (he : e ∈ m.entities) (hr : r ∈ e.references) :
    r.columns ≠ [] := by
  obtain ⟨foreign, _, hpoints⟩ := h.pointsAt he hr
  exact hpoints.columns_ne_nil (h.mappings_ne_nil he hr)

/-- Whatever is taken of the linked columns of a reference, there is at least one of it. -/
theorem map_columns_ne_nil (h : m.Sound) (he : e ∈ m.entities) (hr : r ∈ e.references)
    (part : LinkedColumn → String) : r.columns.map part ≠ [] :=
  List.map_eq_nil_iff.not.mpr (h.columns_ne_nil he hr)

/-- The columns of a reference tell it apart from the others of its entity. -/
theorem eq_of_columns (h : m.Sound) (he : e ∈ m.entities) {s : Reference}
    (hr : r ∈ e.references) (hs : s ∈ e.references)
    (hcolumns : r.columns.map (·.column) = s.columns.map (·.column)) : r = s := by
  obtain ⟨_, _, hrpoints⟩ := h.pointsAt he hr
  obtain ⟨_, _, hspoints⟩ := h.pointsAt he hs
  rw [hrpoints.names, hspoints.names] at hcolumns
  obtain ⟨mapping, hmapping⟩ := List.exists_mem_of_ne_nil _ (h.mappings_ne_nil he hr)
  have hname : mapping.column ∈ r.columnNames := List.mem_map_of_mem hmapping
  have hnodup : (e.references.flatMap (·.columnNames)).Nodup :=
    (List.nodup_append.mp (h.columnNames_nodup he)).2.1
  exact Lookup.eq_of_mem_flatMap hnodup hr hs hname (hcolumns ▸ hname)

/-- **A reference points at the entity that its class name finds.** -/
theorem pointsAt_find? (h : m.Sound) (he : e ∈ m.entities) (hr : r ∈ e.references) :
    ∃ foreign, m.find? r.foreignClass = some foreign ∧ r.PointsAt foreign := by
  obtain ⟨foreign, hforeign, hpoints⟩ := h.pointsAt he hr
  refine ⟨foreign, ?_, hpoints⟩
  have hresolution := h.finished.resolution_eq he hr
  cases hlooked : r.lookUp m with
  | error p =>
    have htable := hpoints.table
    simp [Reference.foreignTable?, Reference.target?, hresolution, hlooked, Resolution.ofExcept,
      Resolution.value?] at htable
  | ok target =>
    obtain ⟨found, columns, hfind, _, rfl⟩ := Reference.lookUp_eq_ok hlooked
    have htable : found.table = foreign.table := by
      simpa [Reference.foreignTable?, Reference.target?, hresolution, hlooked,
        Resolution.ofExcept, Resolution.value?] using hpoints.table
    rw [hfind, h.eq_of_table (mem_of_find? hfind) hforeign htable]

/-- A reference that points at the table of an entity points at that entity. -/
theorem pointsAt_of_table (h : m.Sound) (he : e ∈ m.entities) (hr : r ∈ e.references)
    (hforeign : foreign ∈ m.entities) (htable : r.foreignTable? = some foreign.table) :
    r.PointsAt foreign := by
  obtain ⟨found, hfound, hpoints⟩ := h.pointsAt he hr
  have hsame : found.table = foreign.table := Option.some_inj.mp (hpoints.table.symm.trans htable)
  rwa [← h.eq_of_table hfound hforeign hsame]

end Sound

end DataModel

end Schemata
