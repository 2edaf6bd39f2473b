import Mathlib.Data.List.Induction
import Schemata.Model.Linking
import Schemata.Model.Validation
import Schemata.Proofs.Lookup

/-!
# Sound models

A model grows by registrations and extensions and is then linked.  It is clean when validation finds
no fault in it, and sound when moreover no two of its entities share an identity.

* `Grown.tables_nodup` - no two entities that were registered share a table;
* `Clean.pointsAt` - every reference of a clean model points at an entity of the model and takes
  over the types of its columns;
* `Sound.columnNames_nodup` - no column of a table belongs to two members;
* `Sound.part_column_mem` - every part of an index names a column of its table.
-/

namespace Schemata

/-- The reference is linked to the entity, column by column. -/
structure Reference.PointsAt (r : Reference) (foreign : Entity) : Prop where
  entity : r.target?.map (·.entity) = some foreign.id
  table : r.foreignTable? = some foreign.table
  names : r.columns.map (·.column) = r.columnNames
  types : ∀ c ∈ r.columns, ∃ a ∈ foreign.attributes, a.column = c.foreignColumn ∧ a.type = c.type

/-- Linked columns take type and foreign column from an attribute. -/
theorem Reference.types_linkColumns
    {foreignClass : String} {foreign : Entity} {mappings : List Mapping}
    {columns : List LinkedColumn}
    (h : linkColumns foreignClass foreign mappings = .ok columns) :
    ∀ c ∈ columns, ∃ a ∈ foreign.attributes, a.column = c.foreignColumn ∧ a.type = c.type := by
  induction mappings generalizing columns with
  | nil =>
    simp only [linkColumns, Except.ok.injEq] at h
    simp [← h]
  | cons mapping rest ih =>
    simp only [linkColumns] at h
    split at h
    · cases h
    · rename_i found hfound
      cases hrest : linkColumns foreignClass foreign rest with
      | error p => simp [hrest, bind, Except.bind] at h
      | ok others =>
        simp only [hrest, bind, Except.bind, pure, Except.pure, Except.ok.injEq] at h
        subst h
        intro c hc
        rcases List.mem_cons.mp hc with rfl | hothers
        · exact ⟨found, List.mem_of_find?_eq_some hfound, rfl, rfl⟩
        · exact ih hrest c hothers

/-- A look-up that succeeds finds an entity and links the declared pairs to its attributes. -/
theorem Reference.lookUp_eq_ok
    {r : Reference} {m : DataModel} {target : ReferenceTarget}
    (h : r.lookUp m = .ok target) :
    ∃ foreign columns, m.find? r.foreignClass = some foreign ∧
      linkColumns r.foreignClass foreign r.mappings = .ok columns ∧
      target = ⟨foreign.id, foreign.table, columns⟩ := by
  unfold lookUp at h
  split at h
  · cases h
  · rename_i foreign hfind
    cases hcolumns : linkColumns r.foreignClass foreign r.mappings with
    | error p => simp [hcolumns, bind, Except.bind] at h
    | ok columns =>
      simp only [hcolumns, bind, Except.bind, pure, Except.pure, Except.ok.injEq] at h
      exact ⟨foreign, columns, hfind, hcolumns, h.symm⟩

/-- A reference that reports no fault of its link is resolved. -/
theorem Reference.resolution_of_linkFaults
    {r : Reference} (h : r.linkFaults = []) :
    ∃ target, r.resolution = .resolved target := by
  unfold linkFaults at h
  split at h
  · rename_i target hresolved
    exact ⟨target, hresolved⟩
  all_goals cases h

/-- What an index part finds is a column of the entity. -/
theorem Entity.columnOf?_mem {e : Entity} {name column : String}
    (h : e.columnOf? name = some column) : column ∈ e.columnNames := by
  unfold columnOf? at h
  split at h
  · rename_i found hfound
    obtain rfl : found.column = column := by simpa using h
    have hmem : found ∈ e.attributes := by
      cases hname : e.attribute? name with
      | some named =>
        obtain rfl : named = found := by simpa [hname] using hfound
        exact List.mem_of_find?_eq_some hname
      | none =>
        have hcolumn : e.attributeOfColumn? name = some found := by simpa [hname] using hfound
        exact List.mem_of_find?_eq_some hcolumn
    exact List.mem_append_left _ (List.mem_map_of_mem hmem)
  · exact List.mem_append_right _ (List.mem_of_find?_eq_some h)

/-- A part of a linked index is linked to what some name finds. -/
theorem Entity.linked_of_mem_linkIndex
    {e : Entity} {i : Index} {part : IndexPart} (h : part ∈ (e.linkIndex i).parts) :
    ∃ name, part.linked = e.columnOf? name := by
  simp only [linkIndex, Index.link, List.zipWith_map_right, List.zipWith_self, List.mem_map] at h
  obtain ⟨p, _, rfl⟩ := h
  exact ⟨p.name, rfl⟩

namespace DataModel

/-- The models that registrations and extensions lead to, before they are linked. -/
inductive Grown : DataModel → Prop
  | empty : Grown {}
  | register {m n : DataModel} {e : Entity} (h : Grown m) (hn : m.register e = .ok n) : Grown n
  | extend {m n : DataModel} {x : Extension} (h : Grown m) (hn : m.extend x = .ok n) : Grown n

/-- The model has grown and was then linked. -/
def Finished (m : DataModel) : Prop := ∃ n, Grown n ∧ m = n.linkAll

/-- Distinct identities, and nothing that validation finds fault with. -/
structure Sound (m : DataModel) : Prop where
  finished : m.Finished
  faultless : m.validate.hasErrors = false
  distinctIds : (m.entities.map (·.id)).Nodup

/-- Nothing that validation finds fault with; identities may be shared. -/
structure Clean (m : DataModel) : Prop where
  finished : m.Finished
  faultless : m.validate.hasErrors = false

/-- A sound model has nothing to report. -/
theorem Sound.clean {m : DataModel} (h : m.Sound) : m.Clean := ⟨h.finished, h.faultless⟩

/-- Tables and identities tell the entities apart. -/
structure Keyed (m : DataModel) : Prop where
  tables : (m.entities.map (·.table)).Nodup
  ids : (m.entities.map (·.id)).Nodup

/-- No entity has two constraints of one name. -/
def DistinctConstraints (m : DataModel) : Prop :=
  ∀ e ∈ m.entities, (e.references.map (·.constraint)).Nodup

/-- No entity has two indexes of one name. -/
def DistinctIndexes (m : DataModel) : Prop :=
  ∀ e ∈ m.entities, (e.indexes.map (·.name)).Nodup

instance (m : DataModel) : Decidable m.DistinctConstraints :=
  inferInstanceAs (Decidable (∀ e ∈ m.entities, (e.references.map (·.constraint)).Nodup))

instance (m : DataModel) : Decidable m.DistinctIndexes :=
  inferInstanceAs (Decidable (∀ e ∈ m.entities, (e.indexes.map (·.name)).Nodup))

/-- Extending merges the extension into the entity that its class name finds. -/
theorem entities_extend {m n : DataModel} {x : Extension} (h : m.extend x = .ok n) :
    ∃ found, m.find? x.className = some found ∧
      n = { m with
        entities := m.entities.map fun e =>
          if e.fullName = found.fullName then e.extend x else e } := by
  unfold extend at h
  split at h
  · cases h
  · split at h
    · cases h
    · rename_i found hfound
      cases h
      exact ⟨found, hfound, rfl⟩

/-- What success of an extension says: every entity stays who it is. -/
theorem tables_extend {m n : DataModel} {x : Extension} (h : m.extend x = .ok n) :
    n.entities.map (·.table) = m.entities.map (·.table) := by
  obtain ⟨found, _, rfl⟩ := entities_extend h
  rw [List.map_map]
  refine List.map_congr_left fun e _ => ?_
  simp only [Function.comp_apply]
  split <;> rfl

/-- An entity is registered only where no entity has its table yet. -/
theorem table_free_of_register {m n : DataModel} {e : Entity} (h : m.register e = .ok n) :
    e.table ∉ m.entities.map (·.table) := by
  unfold register at h
  split at h
  · cases h
  · split at h
    · cases h
    · split at h
      · cases h
      · rename_i hfree
        simpa using hfree

/-- **No two registered entities share a table.** -/
theorem Grown.tables_nodup {m : DataModel} (h : Grown m) : (m.entities.map (·.table)).Nodup := by
  induction h with
  | empty => exact List.nodup_nil
  | register _ hn ih =>
    rw [entities_register hn, List.map_append, List.nodup_append]
    refine ⟨ih, by simp, ?_⟩
    intro table htable other hother heq
    obtain rfl : other = _ := by simpa using hother
    exact table_free_of_register hn (heq ▸ htable)
  | extend _ hn ih => exact tables_extend hn ▸ ih

/-- Entities of distinct classes and tables can be registered one after the other. -/
theorem Grown.of_entities {es : List Entity} (hclasses : (es.map (·.fullName)).Nodup)
    (htables : (es.map (·.table)).Nodup) : Grown { entities := es } := by
  induction es using List.reverseRecOn with
  | nil => exact .empty
  | append_singleton es e ih =>
    rw [List.map_append, List.nodup_append] at hclasses htables
    refine .register (e := e) (ih hclasses.1 htables.1) ?_
    have hclass : es.any (·.fullName == e.fullName) = false := by
      refine List.any_eq_false.mpr fun f hf heq => ?_
      exact hclasses.2.2 f.fullName (List.mem_map_of_mem hf) e.fullName
        (List.mem_singleton.mpr rfl) (beq_iff_eq.mp heq)
    have htable : es.any (·.table == e.table) = false := by
      refine List.any_eq_false.mpr fun f hf heq => ?_
      exact htables.2.2 f.table (List.mem_map_of_mem hf) e.table
        (List.mem_singleton.mpr rfl) (beq_iff_eq.mp heq)
    rw [DataModel.register, if_neg Bool.false_ne_true, if_neg (by simp [hclass]),
      if_neg (by simp [htable])]

/-- A model of entities that differ in class, table and identity is sound if it has no faults. -/
theorem Sound.of_entities {es : List Entity} (hclasses : (es.map (·.fullName)).Nodup)
    (htables : (es.map (·.table)).Nodup) (hids : (es.map (·.id)).Nodup)
    (hfaults : ({ entities := es } : DataModel).linkAll.faults = []) :
    ({ entities := es } : DataModel).linkAll.Sound := by
  refine ⟨⟨_, .of_entities hclasses htables, rfl⟩, ?_, ?_⟩
  · rw [validate_linked (linked_linkAll _), hfaults]
    rfl
  · rw [ids_linkAll]
    exact hids

end DataModel

/-- The entity with every member linked in a model. -/
def Entity.linkedIn (m : DataModel) (e : Entity) : Entity :=
  (e.linkReferences m).linkCollectors m.linkReferences

namespace DataModel

/-- Linking replaces each entity by itself linked, in place. -/
theorem entities_linkAll (m : DataModel) :
    m.linkAll.entities = m.entities.map (Entity.linkedIn m) := by
  simp only [linkAll, linkReferences, List.map_map]
  rfl

/-- Linking leaves the tables as they are. -/
theorem tables_linkAll (m : DataModel) :
    m.linkAll.entities.map (·.table) = m.entities.map (·.table) := by
  rw [entities_linkAll, List.map_map]
  rfl

/-- Every entity of a finished model is one of a model before linking, linked in it. -/
theorem Finished.exists_linkedIn {m : DataModel} (h : m.Finished) :
    ∃ n : DataModel, m = n.linkAll ∧
      ∀ e ∈ m.entities, ∃ origin ∈ n.entities, e = origin.linkedIn n := by
  obtain ⟨n, _, rfl⟩ := h
  refine ⟨n, rfl, ?_⟩
  intro e he
  rw [entities_linkAll] at he
  obtain ⟨origin, horigin, rfl⟩ := List.mem_map.mp he
  exact ⟨origin, horigin, rfl⟩

/-- A finished model has each table once. -/
theorem Finished.tables_nodup {m : DataModel} (h : m.Finished) :
    (m.entities.map (·.table)).Nodup := by
  obtain ⟨n, hgrown, rfl⟩ := h
  rw [tables_linkAll]
  exact hgrown.tables_nodup

/-- A table finds the entity it belongs to. -/
theorem Keyed.ofTable?_eq_some {m : DataModel} {e : Entity} (h : m.Keyed) (he : e ∈ m.entities) :
    m.ofTable? e.table = some e :=
  Lookup.find?_key h.tables he

/-- No entity of a clean model has a fault. -/
theorem Clean.faults_eq_nil {m : DataModel} {e : Entity} (h : m.Clean) (he : e ∈ m.entities) :
    e.faults = [] := by
  obtain ⟨n, _, rfl⟩ := h.finished
  have hnone := h.faultless
  rw [validate_linked (linked_linkAll n)] at hnone
  have hempty : n.linkAll.faults = [] := by simpa [Log.hasErrors] using hnone
  exact List.flatMap_eq_nil_iff.mp hempty e he

/-- Every entity of a clean model has a primary key. -/
theorem Clean.primaryKey_ne_nil {m : DataModel} {e : Entity} (h : m.Clean) (he : e ∈ m.entities) :
    e.primaryKey ≠ [] := by
  have hfaults := h.faults_eq_nil he
  simp only [Entity.faults, Entity.ownFaults, List.append_eq_nil_iff] at hfaults
  intro hnone
  simp [hnone, Fault.when] at hfaults

/-- No reference of a clean model has a fault. -/
theorem Clean.referenceFaults_eq_nil {m : DataModel} {e : Entity} {r : Reference} (h : m.Clean)
    (he : e ∈ m.entities) (hr : r ∈ e.references) : r.faults = [] := by
  have hfaults := h.faults_eq_nil he
  simp only [Entity.faults, List.append_eq_nil_iff, List.flatMap_eq_nil_iff] at hfaults
  exact hfaults.2.2.1 r hr

/-- Every reference of a clean model is linked. -/
theorem Clean.exists_target {m : DataModel} {e : Entity} {r : Reference} (h : m.Clean)
    (he : e ∈ m.entities) (hr : r ∈ e.references) : ∃ target, r.resolution = .resolved target := by
  have hown := h.referenceFaults_eq_nil he hr
  simp only [Reference.faults, List.append_eq_nil_iff] at hown
  exact Reference.resolution_of_linkFaults hown.2.2

/-- What a table name finds is an entity of the model, of that table. -/
theorem mem_of_ofTable? {m : DataModel} {table : String} {e : Entity}
    (h : m.ofTable? table = some e) : e ∈ m.entities ∧ e.table = table :=
  Lookup.mem_of_find?_key h

/-- **Every reference of a clean model points at an entity of the model.** -/
theorem Clean.pointsAt {m : DataModel} {e : Entity} {r : Reference} (h : m.Clean)
    (he : e ∈ m.entities) (hr : r ∈ e.references) :
    ∃ foreign ∈ m.entities, r.PointsAt foreign := by
  obtain ⟨target, hresolved⟩ := h.exists_target he hr
  obtain ⟨n, rfl, horigins⟩ := h.finished.exists_linkedIn
  obtain ⟨origin, _, rfl⟩ := horigins e he
  obtain ⟨declared, _, rfl⟩ := List.mem_map.mp (show r ∈ origin.references.map _ from hr)
  have hlookUp : declared.lookUp n = .ok target := by
    cases hlooked : declared.lookUp n with
    | error p => simp [Reference.linkIn, hlooked, Resolution.ofExcept] at hresolved
    | ok found =>
      simp only [Reference.linkIn, hlooked, Resolution.ofExcept, Resolution.resolved.injEq]
        at hresolved
      rw [hresolved]
  obtain ⟨foreign, columns, hfind, hcolumns, rfl⟩ := Reference.lookUp_eq_ok hlookUp
  refine ⟨foreign.linkedIn n, ?_, ?_⟩
  · rw [entities_linkAll]
    exact List.mem_map_of_mem (mem_of_find? hfind)
  · have htarget : (declared.linkIn n).target? = some ⟨foreign.id, foreign.table, columns⟩ := by
      simp only [Reference.target?, hresolved, Resolution.value?]
    have hlinked : (declared.linkIn n).columns = columns := by
      simp only [Reference.columns, htarget]
    have htypes := Reference.types_linkColumns hcolumns
    exact
      { entity := by rw [htarget]; rfl
        table := by rw [Reference.foreignTable?, htarget]; rfl
        names := by rw [hlinked]; exact Reference.length_linkColumns hcolumns
        types := by rw [hlinked]; exact htypes }

namespace Sound

variable {m : DataModel} {e : Entity}

/-- A sound model has each table once. -/
theorem tables_nodup (h : m.Sound) : (m.entities.map (·.table)).Nodup := h.finished.tables_nodup

/-- No entity of a sound model has a fault. -/
theorem faults_eq_nil (h : m.Sound) (he : e ∈ m.entities) : e.faults = [] :=
  h.clean.faults_eq_nil he

/-- **No column belongs to two members of a table.** -/
theorem columnNames_nodup (h : m.Sound) (he : e ∈ m.entities) : e.columnNames.Nodup := by
  have hfaults := h.faults_eq_nil he
  simp only [Entity.faults, Entity.ownFaults, List.append_eq_nil_iff, List.map_eq_nil_iff]
    at hfaults
  exact (repeated_eq_nil_iff.mp hfaults.1.2.2.2).1

/-- A sound model is keyed: tables and ids both tell its entities apart. -/
theorem keyed (h : m.Sound) : m.Keyed := ⟨h.tables_nodup, h.distinctIds⟩

/-- Two entities of one table are one entity. -/
theorem eq_of_table (h : m.Sound) {f : Entity} (he : e ∈ m.entities) (hf : f ∈ m.entities)
    (htable : e.table = f.table) : e = f :=
  List.inj_on_of_nodup_map h.tables_nodup he hf htable

/-- Two entities of one id are one entity. -/
theorem eq_of_id (h : m.Sound) {f : Entity} (he : e ∈ m.entities) (hf : f ∈ m.entities)
    (hid : e.id = f.id) : e = f :=
  List.inj_on_of_nodup_map h.distinctIds he hf hid

/-- Every reference of a sound model points at an entity of it. -/
theorem pointsAt (h : m.Sound) (he : e ∈ m.entities) {r : Reference} (hr : r ∈ e.references) :
    ∃ foreign ∈ m.entities, r.PointsAt foreign :=
  h.clean.pointsAt he hr

/-- **Every part of an index names a column of its table.** -/
theorem part_column_mem (h : m.Sound) (he : e ∈ m.entities) {i : Index} (hi : i ∈ e.indexes)
    {part : IndexPart} (hpart : part ∈ i.parts) : part.column ∈ e.columnNames := by
  have hlinked : part.linked ≠ none := by
    have hfaults := h.faults_eq_nil he
    simp only [Entity.faults, List.append_eq_nil_iff, List.flatMap_eq_nil_iff] at hfaults
    have hown := hfaults.2.2.2.1 i hi
    simp only [Index.faults, List.append_eq_nil_iff, List.map_eq_nil_iff, List.filter_eq_nil_iff,
      Option.isNone_iff_eq_none] at hown
    exact hown.2.2 part hpart
  obtain ⟨n, rfl, horigins⟩ := h.finished.exists_linkedIn
  obtain ⟨origin, _, rfl⟩ := horigins e he
  obtain ⟨declared, _, rfl⟩ := List.mem_map.mp (show i ∈ origin.indexes.map _ from hi)
  obtain ⟨name, hname⟩ := Entity.linked_of_mem_linkIndex hpart
  obtain ⟨column, hcolumn⟩ := Option.ne_none_iff_exists'.mp hlinked
  rw [IndexPart.column, hcolumn, Option.getD_some]
  exact Entity.columnOf?_mem (hname ▸ hcolumn)

end Sound

end DataModel

end Schemata
