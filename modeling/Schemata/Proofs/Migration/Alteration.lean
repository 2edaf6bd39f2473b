import Schemata.Proofs.Migration.Catalog
import Schemata.Proofs.Migration.Rebuilding

/-!
# How a table becomes another

The columns of a table change in four groups: columns of rebuilt references go, attributes go,
attributes change or come, and columns of rebuilt references come.  No group names a column twice,
and each finds the columns as it needs them.

* `admitsAll_columnChanges` - the table admits every change of a column;
* `columns_columnChanges` - the columns end up as those of the new version, up to the writing of
  types;
* `foreignKeys_rebuilt` - dropping and adding keys leaves those of the new version.
-/

namespace Schemata

namespace Entity

variable {e : Entity}

/-- The columns among the definitions of an entity are all of its columns. -/
theorem columns_definitions (e : Entity) :
    e.definitions.filterMap (·.column?) = e.columnDefinitions := by
  have hkey : e.keyDefinition.filterMap (·.column?) = [] := by
    unfold keyDefinition
    split <;> rfl
  rw [definitions, List.filterMap_append, List.filterMap_append, hkey]
  simp [List.filterMap_map, Definition.column?]

/-- A table is created without its foreign keys. -/
theorem foreignKeys_definitions (e : Entity) :
    e.definitions.filterMap (·.foreignKey?) = [] := by
  have hkey : e.keyDefinition.filterMap (·.foreignKey?) = [] := by
    unfold keyDefinition
    split <;> rfl
  rw [definitions, List.filterMap_append, List.filterMap_append, hkey]
  simp [List.filterMap_map, Definition.foreignKey?]

/-- A table is created with all indexes of its entity. -/
theorem indexes_definitions (e : Entity) : e.definitions.filterMap (·.index?) = e.indexes := by
  have hkey : e.keyDefinition.filterMap (·.index?) = [] := by
    unfold keyDefinition
    split <;> rfl
  rw [definitions, List.filterMap_append, List.filterMap_append, hkey]
  simp [List.filterMap_map, Definition.index?]

/-- A table is created with the columns that its entity names, if its references are linked. -/
theorem names_columnDefinitions_of
    (h : ∀ r ∈ e.references, r.columns.map (·.column) = r.columnNames) :
    e.columnDefinitions.map (·.name) = e.columnNames := by
  rw [columnNames_definitions, columnNames, referenceColumns]
  exact congrArg _ (List.flatMap_congr h)

/-- The columns are defined under the names that the entity gives them. -/
theorem Coherent.names_columnDefinitions (h : e.Coherent) :
    e.columnDefinitions.map (·.name) = e.columnNames :=
  names_columnDefinitions_of h.names

/-- All references of a coherent entity are linked. -/
theorem Coherent.linkedReferences_eq (h : e.Coherent) : e.linkedReferences = e.references :=
  List.filter_eq_self.mpr h.linked

end Entity

namespace Table

variable {e : Entity}

/-- A table is created with the columns that it has without its foreign keys. -/
theorem columns_ofEntity (e : Entity) (name : String) :
    (ofEntity e).columns name = e.columnDefinitions.find? (·.name == name) := by
  have hkeys : e.foreignKeys.filterMap (·.column?) = [] := by
    simp [Entity.foreignKeys, List.filterMap_map, Definition.column?]
  simp only [ofEntity, ofDefinitions, List.filterMap_append, Entity.columns_definitions, hkeys,
    List.append_nil]

/-- The foreign keys of a table are those of its linked references. -/
theorem foreignKeys_ofEntity (e : Entity) :
    (ofEntity e).foreignKeys = e.linkedReferences.map (·.foreignKey) := by
  have hkeys : e.foreignKeys.filterMap (·.foreignKey?) = e.linkedReferences.map (·.foreignKey) := by
    simp [Entity.foreignKeys, List.filterMap_map, Definition.foreignKey?]
  simp only [ofEntity, ofDefinitions, List.filterMap_append, Entity.foreignKeys_definitions, hkeys,
    List.nil_append]

/-- A table has exactly the columns of its entity. -/
theorem columns_ofEntity_eq_none (h : e.Coherent) {name : String} :
    (ofEntity e).columns name = none ↔ name ∉ e.columnNames := by
  rw [columns_ofEntity, Lookup.find?_key_eq_none, h.names_columnDefinitions]

/-- A column is as it is defined, since no other has its name. -/
theorem columns_ofEntity_of_mem (h : e.Coherent) {c : ColumnDefinition}
    (hc : c ∈ e.columnDefinitions) : (ofEntity e).columns c.name = some c := by
  rw [columns_ofEntity]
  exact Lookup.find?_key (h.names_columnDefinitions ▸ h.columns) hc

/-- The column of an attribute is as the attribute defines it. -/
theorem columns_ofEntity_attribute (h : e.Coherent) {a : Attribute} (ha : a ∈ e.attributes) :
    (ofEntity e).columns a.column = some a.definition :=
  columns_ofEntity_of_mem h (c := a.definition)
    (List.mem_append_left _ (List.mem_map_of_mem ha))

/-- The column of a reference takes null unless the reference is required, and has no default. -/
theorem columns_ofEntity_reference (h : e.Coherent) {r : Reference} {c : LinkedColumn}
    (hr : r ∈ e.references) (hc : c ∈ r.columns) :
    (ofEntity e).columns c.column = some ⟨c.column, c.type, r.required, false, none⟩ :=
  columns_ofEntity_of_mem h (c := ⟨c.column, c.type, r.required, false, none⟩)
    (List.mem_append_right _ (List.mem_flatMap_of_mem hr (List.mem_map_of_mem hc)))

end Table

/-- The column comes into the table as a reference brings it. -/
def LinkedColumn.additions (c : LinkedColumn) : List Statement :=
  [.add (.column { name := c.column, type := c.type })]

namespace TableDifference

/-- The attributes whose column no attribute of the other version has. -/
def droppedAttributes (old new : Entity) : List Attribute :=
  old.attributes.filter fun a => (new.attributeOfColumn? a.column).isNone

/-- The columns that go away, those of references first. -/
def droppedColumns (old new : Entity) : List String :=
  rebuiltColumns old new ++ (droppedAttributes old new).map (·.column)

/-- The columns of references that come. -/
def addedColumns (old new : Entity) : List LinkedColumn :=
  (changedReferences new old).flatMap (·.columns)

/-- What turns the old column of a new attribute, if there is one, into the column it has. -/
def changesTo (old : Entity) (a : Attribute) : List Statement :=
  attributeChange (old.attributeOfColumn? a.column) (some a)

/-- The changes of columns: some go, then attributes change or come, then others come. -/
theorem columnChanges_eq (old new : Entity) :
    columnChanges old new =
      (droppedColumns old new).map .dropColumn ++
      new.attributes.flatMap (changesTo old) ++
      (addedColumns old new).flatMap (·.additions) := by
  have hreferences : (changedReferences old new).flatMap (·.dropColumns) =
      (rebuiltColumns old new).map .dropColumn := by
    rw [rebuiltColumns, List.map_flatMap]
    rfl
  have hattributes : (droppedAttributes old new).flatMap
      (fun a => attributeChange (some a) none) =
        ((droppedAttributes old new).map (·.column)).map .dropColumn := by
    rw [List.map_map, List.map_eq_flatMap]
    rfl
  have hadds : (changedReferences new old).flatMap (·.addColumns) =
      (addedColumns old new).flatMap (·.additions) := by
    simp only [addedColumns, Reference.addColumns, LinkedColumn.additions, List.flatMap_assoc,
      List.map_eq_flatMap]
  rw [columnChanges, hreferences, hadds, droppedColumns, List.map_append, ← hattributes]
  rfl

section

variable {old new : Entity}

/-- What changes an attribute names its column. -/
theorem column?_of_mem_changesTo {a : Attribute} {s : Statement} (h : s ∈ changesTo old a) :
    s.column? = some a.column := by
  unfold changesTo at h
  cases hfound : old.attributeOfColumn? a.column with
  | none =>
    rw [hfound] at h
    rw [List.mem_singleton.mp h]
    rfl
  | some current =>
    rw [hfound, attributeChange] at h
    split at h
    · cases h
    · rw [List.mem_singleton.mp h, ← (Entity.mem_of_attributeOfColumn? hfound).2]
      rfl

/-- An attribute of the new version is never dropped. -/
theorem dropColumn_not_mem_changesTo {a : Attribute} {name : String} :
    .dropColumn name ∉ changesTo old a := by
  intro h
  unfold changesTo attributeChange at h
  split at h
  all_goals try split at h
  all_goals simp_all

/-- **The columns that are dropped** are those of rebuilt references, and those of attributes that
no attribute follows. -/
theorem dropColumn_mem_columnChanges {name : String} :
    .dropColumn name ∈ columnChanges old new ↔ name ∈ droppedColumns old new := by
  rw [columnChanges_eq, List.mem_append, List.mem_append, List.mem_map]
  constructor
  · rintro ((⟨dropped, hdropped, heq⟩ | hchange) | hadd)
    · exact Statement.dropColumn.inj heq ▸ hdropped
    · obtain ⟨a, _, hs⟩ := List.mem_flatMap.mp hchange
      exact absurd hs dropColumn_not_mem_changesTo
    · obtain ⟨c, _, hs⟩ := List.mem_flatMap.mp hadd
      cases List.mem_singleton.mp hs
  · intro h
    exact .inl (.inl ⟨name, h, rfl⟩)

/-- The columns that come are those that would be rebuilt on the way back. -/
theorem names_addedColumns (hnew : new.Coherent) :
    (addedColumns old new).map (·.column) = rebuiltColumns new old := by
  rw [addedColumns, rebuiltColumns, List.map_flatMap]
  exact List.flatMap_congr fun r hr => hnew.names r (mem_of_mem_changedReferences hr)

/-- Only columns of the old version are dropped. -/
theorem mem_droppedColumns {name : String} (h : name ∈ droppedColumns old new) :
    name ∈ old.columnNames := by
  rcases List.mem_append.mp h with hrebuilt | hdropped
  · exact List.mem_append_right _ (mem_referenceColumns_of_rebuilt hrebuilt)
  · obtain ⟨a, ha, rfl⟩ := List.mem_map.mp hdropped
    exact List.mem_append_left _ (List.mem_map_of_mem (List.mem_filter.mp ha).1)

/-- No column is dropped twice. -/
theorem droppedColumns_nodup (hold : old.Coherent) : (droppedColumns old new).Nodup := by
  have hattributes : ((droppedAttributes old new).map (·.column)).Nodup :=
    hold.attributes_nodup.sublist (List.filter_sublist.map _)
  refine List.nodup_append.mpr ⟨rebuiltColumns_nodup hold, hattributes, ?_⟩
  intro name hrebuilt other hdropped heq
  subst heq
  obtain ⟨a, ha, rfl⟩ := List.mem_map.mp hdropped
  exact hold.apart (List.mem_filter.mp ha).1 (mem_referenceColumns_of_rebuilt hrebuilt)

/-- The column of an attribute that both versions have does not go away. -/
theorem attribute_not_dropped (hold : old.Coherent) {a a' : Attribute}
    (ha : a ∈ old.attributes) (ha' : a' ∈ new.attributes) (hcolumn : a.column = a'.column) :
    a.column ∉ droppedColumns old new := by
  intro hgone
  rcases List.mem_append.mp hgone with hrebuilt | hdropped
  · exact hold.apart ha (mem_referenceColumns_of_rebuilt hrebuilt)
  · obtain ⟨d, hd, heq⟩ := List.mem_map.mp hdropped
    have hnone := Option.isNone_iff_eq_none.mp (List.mem_filter.mp hd).2
    refine Entity.attributeOfColumn?_eq_none.mp hnone ?_
    exact heq ▸ hcolumn ▸ List.mem_map_of_mem ha'

/-- A column of a reference that is not rebuilt is not dropped. -/
theorem reference_not_dropped (hold : old.Coherent) {name : String}
    (hname : name ∈ old.referenceColumns) (hstays : name ∉ rebuiltColumns old new) :
    name ∉ droppedColumns old new := by
  intro hgone
  rcases List.mem_append.mp hgone with hrebuilt | hdropped
  · exact hstays hrebuilt
  · obtain ⟨a, ha, rfl⟩ := List.mem_map.mp hdropped
    exact hold.apart (List.mem_filter.mp ha).1 hname

/-- **A column that does not go away is one of the new version, of the same kind:** an attribute in
both, or a column of references that stay. -/
theorem kept_of_not_dropped (hold : old.Coherent) (hnew : new.Coherent) {name : String}
    (hname : name ∈ old.columnNames) (hstays : name ∉ droppedColumns old new) :
    (name ∈ old.attributes.map (·.column) ∧ name ∈ new.attributes.map (·.column)) ∨
      (name ∈ new.referenceColumns ∧ name ∉ rebuiltColumns new old) := by
  rw [droppedColumns, List.mem_append, not_or] at hstays
  rcases List.mem_append.mp hname with hattribute | hreference
  · obtain ⟨a, ha, rfl⟩ := List.mem_map.mp hattribute
    refine .inl ⟨hattribute, ?_⟩
    by_contra hmissing
    have hnone := Entity.attributeOfColumn?_eq_none.mpr hmissing
    exact hstays.2 (List.mem_map_of_mem
      (List.mem_filter.mpr ⟨ha, Option.isNone_iff_eq_none.mpr hnone⟩))
  · exact .inr (kept_column hold hnew hreference hstays.1)

/-- The table after its columns went away. -/
def pruned (old new : Entity) (t : Table) : Table :=
  t.alterAll ((droppedColumns old new).map .dropColumn)

/-- The table after its columns went away and its attributes changed. -/
def reshaped (old new : Entity) (t : Table) : Table :=
  (pruned old new t).alterAll (new.attributes.flatMap (changesTo old))

variable {t : Table}

/-- Columns change in two parts: the table is reshaped, then columns of references come. -/
theorem columns_columnChanges_eq (name : String) :
    (t.alterAll (columnChanges old new)).columns name =
      ((reshaped old new t).alterAll
        ((addedColumns old new).flatMap (·.additions))).columns name := by
  rw [columnChanges_eq, Table.alterAll_append, Table.alterAll_append]
  rfl

/-- A column that no attribute of the new version has is left alone while attributes change. -/
theorem columns_reshaped_of_ne {name : String} (h : name ∉ new.attributes.map (·.column)) :
    (reshaped old new t).columns name = (pruned old new t).columns name := by
  refine Table.columns_alterAll_of_ne fun s hs hcolumn => ?_
  obtain ⟨a, ha, ha'⟩ := List.mem_flatMap.mp hs
  rw [column?_of_mem_changesTo ha'] at hcolumn
  exact h (Option.some.inj hcolumn ▸ List.mem_map_of_mem ha)

/-- A column that does not come with a reference stays as it is while such columns come. -/
theorem columns_columnChanges_of_ne (hnew : new.Coherent) {name : String}
    (h : name ∉ rebuiltColumns new old) :
    (t.alterAll (columnChanges old new)).columns name = (reshaped old new t).columns name := by
  rw [columns_columnChanges_eq]
  refine Table.columns_alterAll_of_ne fun s hs hcolumn => ?_
  obtain ⟨c, hc, hs⟩ := List.mem_flatMap.mp hs
  rw [List.mem_singleton.mp hs] at hcolumn
  refine h (names_addedColumns hnew ▸ ?_)
  exact Option.some.inj hcolumn ▸ List.mem_map_of_mem hc

/-- The table loses exactly the columns that are dropped. -/
theorem columns_pruned (name : String) :
    (pruned old new t).columns name =
      if name ∈ droppedColumns old new then none else t.columns name :=
  Table.columns_dropColumns _ _

/-- What neither is an attribute in both versions nor belongs to references that stay is gone. -/
theorem columns_pruned_eq_none (hold : old.Coherent) (hnew : new.Coherent)
    (ht : t.columns = (Table.ofEntity old).columns) {name : String}
    (hattribute : name ∉ old.attributes.map (·.column) ∨ name ∉ new.attributes.map (·.column))
    (hreference : name ∉ new.referenceColumns ∨ name ∈ rebuiltColumns new old) :
    (pruned old new t).columns name = none := by
  rw [columns_pruned]
  split
  · rfl
  · rename_i hstays
    rw [ht, Table.columns_ofEntity_eq_none hold]
    intro hname
    rcases kept_of_not_dropped hold hnew hname hstays with ⟨hin, hin'⟩ | ⟨hin, hquiet⟩
    · rcases hattribute with hout | hout
      · exact hout hin
      · exact hout hin'
    · rcases hreference with hout | hrebuilt
      · exact hout hin
      · exact hquiet hrebuilt

/-- An attribute in both versions is there when its turn comes. -/
theorem columns_pruned_attribute (hold : old.Coherent)
    (ht : t.columns = (Table.ofEntity old).columns) {a a' : Attribute} (ha : a ∈ old.attributes)
    (ha' : a' ∈ new.attributes) (hcolumn : a.column = a'.column) :
    (pruned old new t).columns a'.column = some a.definition := by
  rw [columns_pruned, ← hcolumn, if_neg (attribute_not_dropped hold ha ha' hcolumn), ht]
  exact Table.columns_ofEntity_attribute hold ha

/-- What happens to one attribute finds its column as it needs it, and leaves it with the type of
the new version. -/
theorem changesTo_pruned (hold : old.Coherent) (hnew : new.Coherent)
    (ht : t.columns = (Table.ofEntity old).columns) {a : Attribute} (ha : a ∈ new.attributes) :
    (pruned old new t).AdmitsAll (changesTo old a) ∧
      (((pruned old new t).alterAll (changesTo old a)).columns a.column).map
        (normalizedType ·.type) = some (normalizedType a.type) := by
  unfold changesTo
  cases hfound : old.attributeOfColumn? a.column with
  | none =>
    have hmissing := Entity.attributeOfColumn?_eq_none.mp hfound
    have hnone := columns_pruned_eq_none hold hnew ht (.inl hmissing) (.inl (hnew.apart ha))
    refine ⟨⟨hnone, trivial⟩, ?_⟩
    simp [attributeChange, Table.alter, Statement.onColumn]
  | some current =>
    obtain ⟨hcurrent, hcolumn⟩ := Entity.mem_of_attributeOfColumn? hfound
    have hsome := columns_pruned_attribute hold ht hcurrent ha hcolumn
    by_cases hsame : current.sameType a = true
    · rw [attributeChange, if_pos hsame]
      refine ⟨trivial, ?_⟩
      rw [Table.alterAll_nil, hsome, Option.map_some]
      exact congrArg some ((current.sameType_iff a).mp hsame)
    · rw [attributeChange, if_neg hsame, hcolumn]
      refine ⟨⟨Option.isSome_of_eq_some hsome, trivial⟩, ?_⟩
      simp [Table.alter, Statement.onColumn, hsome]

/-- **The table admits every change of a column.** -/
theorem admitsAll_columnChanges (hold : old.Coherent) (hnew : new.Coherent)
    (ht : t.columns = (Table.ofEntity old).columns) : t.AdmitsAll (columnChanges old new) := by
  rw [columnChanges_eq, Table.admitsAll_append, Table.admitsAll_append, Table.alterAll_append]
  refine ⟨⟨?_, ?_⟩, ?_⟩
  · refine Table.admitsAll_dropColumns (droppedColumns_nodup hold) fun name hname => ?_
    rw [ht, Option.isSome_iff_ne_none, Ne, Table.columns_ofEntity_eq_none hold, not_not]
    exact mem_droppedColumns hname
  · exact Table.admitsAll_flatMap hnew.attributes_nodup
      (fun a _ s hs => column?_of_mem_changesTo hs)
      fun a ha => (changesTo_pruned hold hnew ht ha).1
  · have hnodup : ((addedColumns old new).map (·.column)).Nodup :=
      names_addedColumns hnew ▸ rebuiltColumns_nodup hnew
    refine Table.admitsAll_flatMap hnodup ?_ fun c hc => ⟨?_, trivial⟩
    · intro c _ s hs
      rw [List.mem_singleton.mp hs]
      rfl
    · have hrebuilt : c.column ∈ rebuiltColumns new old :=
        names_addedColumns hnew ▸ List.mem_map_of_mem hc
      have hattribute := hnew.not_attribute (mem_referenceColumns_of_rebuilt hrebuilt)
      exact (columns_reshaped_of_ne hattribute).trans
        (columns_pruned_eq_none hold hnew ht (.inr hattribute) (.inr hrebuilt))

/-- A column that comes with a reference has the type that the reference gives it. -/
theorem columns_columnChanges_added (hnew : new.Coherent) {c : LinkedColumn}
    (hc : c ∈ addedColumns old new) :
    (t.alterAll (columnChanges old new)).columns c.column =
      some { name := c.column, type := c.type } := by
  have hnodup : ((addedColumns old new).map (·.column)).Nodup :=
    names_addedColumns hnew ▸ rebuiltColumns_nodup hnew
  rw [columns_columnChanges_eq, Table.columns_alterAll_flatMap hnodup ?_ hc]
  · simp [LinkedColumn.additions, Table.alter, Statement.onColumn]
  · intro c _ s hs
    rw [List.mem_singleton.mp hs]
    rfl

/-- Once columns have changed, each attribute of the new version has its type. -/
theorem columns_columnChanges_attribute (hold : old.Coherent) (hnew : new.Coherent)
    (ht : t.columns = (Table.ofEntity old).columns) {a : Attribute} (ha : a ∈ new.attributes) :
    ((t.alterAll (columnChanges old new)).columns a.column).map (normalizedType ·.type) =
      some (normalizedType a.type) := by
  have hquiet : a.column ∉ rebuiltColumns new old := fun hrebuilt =>
    hnew.apart ha (mem_referenceColumns_of_rebuilt hrebuilt)
  rw [columns_columnChanges_of_ne hnew hquiet, reshaped,
    Table.columns_alterAll_flatMap hnew.attributes_nodup
      (fun a _ s hs => column?_of_mem_changesTo hs) ha]
  exact (changesTo_pruned hold hnew ht ha).2

/-- The column of a reference that stays ends up as it was. -/
theorem columns_columnChanges_kept (hold : old.Coherent) (hnew : new.Coherent) {name : String}
    (hname : name ∈ new.referenceColumns) (hstays : name ∉ rebuiltColumns new old) :
    (t.alterAll (columnChanges old new)).columns name = t.columns name := by
  obtain ⟨hbefore, hquiet⟩ := kept_column hnew hold hname hstays
  have hattribute := hnew.not_attribute hname
  rw [columns_columnChanges_of_ne hnew hstays, columns_reshaped_of_ne hattribute, columns_pruned,
    if_neg (reference_not_dropped hold hbefore hquiet)]

/-- A reference that stays types its columns alike in both versions. -/
theorem type_of_unchanged (hold : old.Coherent) {r : Reference} (hr : r ∈ new.references)
    (hstays : r ∉ changedReferences new old) {c : LinkedColumn} (hc : c ∈ r.columns) :
    ((Table.ofEntity old).columns c.column).map (normalizedType ·.type) =
      some (normalizedType c.type) := by
  obtain ⟨r', hr', -, hsame⟩ := exists_same_of_unchanged hr hstays
  obtain ⟨c', hc', hcolumn, -, htype⟩ := Reference.exists_column_of_same hsame hc
  rw [hcolumn, Table.columns_ofEntity_reference hold hr' hc', Option.map_some, htype]

/-- **The columns end up as those of the new version,** up to the writing of types. -/
theorem columns_columnChanges (hold : old.Coherent) (hnew : new.Coherent)
    (ht : t.columns = (Table.ofEntity old).columns) (name : String) :
    ((t.alterAll (columnChanges old new)).columns name).map (normalizedType ·.type) =
      ((Table.ofEntity new).columns name).map (normalizedType ·.type) := by
  by_cases hname : name ∈ new.columnNames
  · rcases List.mem_append.mp hname with hattribute | hreference
    · obtain ⟨a, ha, rfl⟩ := List.mem_map.mp hattribute
      rw [columns_columnChanges_attribute hold hnew ht ha,
        Table.columns_ofEntity_attribute hnew ha]
      rfl
    · obtain ⟨r, hr, hrname⟩ := Entity.mem_referenceColumns.mp hreference
      rw [← hnew.names r hr] at hrname
      obtain ⟨c, hc, rfl⟩ := List.mem_map.mp hrname
      rw [Table.columns_ofEntity_reference hnew hr hc]
      by_cases hchanged : r ∈ changedReferences new old
      · rw [columns_columnChanges_added hnew (List.mem_flatMap_of_mem hchanged hc)]
        rfl
      · have hstays := not_rebuilt_of_unchanged hnew hr hchanged (hnew.names r hr ▸ hrname)
        rw [columns_columnChanges_kept hold hnew hreference hstays, ht,
          type_of_unchanged hold hr hchanged hc]
        rfl
  · have hsplit := hname
    rw [Entity.columnNames, List.mem_append, not_or] at hsplit
    have hquiet : name ∉ rebuiltColumns new old := fun hrebuilt =>
      hsplit.2 (mem_referenceColumns_of_rebuilt hrebuilt)
    rw [(Table.columns_ofEntity_eq_none hnew).mpr hname, columns_columnChanges_of_ne hnew hquiet,
      columns_reshaped_of_ne hsplit.1,
      columns_pruned_eq_none hold hnew ht (.inr hsplit.1) (.inl hsplit.2)]

/-- No reference that stays gives its name to one that comes. -/
theorem constraint_apart (hold : old.Coherent) (hnew : new.Coherent) {r r' : Reference}
    (hr : r ∈ old.references) (hstays : r ∉ changedReferences old new)
    (hr' : r' ∈ changedReferences new old) : r.constraint ≠ r'.constraint := by
  intro heq
  obtain ⟨kept, hkept, hname, hsame⟩ := exists_same_of_unchanged hr hstays
  obtain rfl : kept = r' := List.inj_on_of_nodup_map hnew.constraints hkept
    (mem_of_mem_changedReferences hr') (hname.trans heq)
  exact unchanged_of_same hold.constraints hr heq (Reference.same_symm hsame) hr'

/-- The foreign keys that are left when those of changed references are gone. -/
def remainingKeys (old new : Entity) : List ForeignKey :=
  (Table.ofEntity old).foreignKeys.filter fun key =>
    !((changedReferences old new).map (·.constraint)).contains key.constraint

/-- The foreign keys of a coherent entity are those of all its references. -/
theorem foreignKeys_of_coherent {e : Entity} (h : e.Coherent) :
    (Table.ofEntity e).foreignKeys = e.references.map (·.foreignKey) := by
  rw [Table.foreignKeys_ofEntity, h.linkedReferences_eq]

/-- The foreign keys of a coherent entity have distinct names. -/
theorem constraints_of_coherent_nodup {e : Entity} (h : e.Coherent) :
    ((Table.ofEntity e).foreignKeys.map (·.constraint)).Nodup := by
  rw [foreignKeys_of_coherent h, List.map_map]
  exact h.constraints

/-- What is left are the foreign keys of the references that stay. -/
theorem mem_remainingKeys (hold : old.Coherent) {key : ForeignKey} :
    key ∈ remainingKeys old new ↔
      ∃ r ∈ old.references, r ∉ changedReferences old new ∧ r.foreignKey = key := by
  rw [remainingKeys, List.mem_filter, foreignKeys_of_coherent hold, List.mem_map]
  simp only [Bool.not_eq_true', List.contains_eq_mem, decide_eq_false_iff_not]
  constructor
  · rintro ⟨⟨r, hr, rfl⟩, hstays⟩
    exact ⟨r, hr, fun hchanged => hstays (List.mem_map_of_mem hchanged), rfl⟩
  · rintro ⟨r, hr, hstays, rfl⟩
    refine ⟨⟨r, hr, rfl⟩, fun hname => ?_⟩
    obtain ⟨r', hr', heq⟩ := List.mem_map.mp hname
    have hsame : r' = r := List.inj_on_of_nodup_map hold.constraints
      (mem_of_mem_changedReferences hr') hr heq
    exact hstays (hsame ▸ hr')

/-- No foreign key that remains has the name of one that comes. -/
theorem remainingKeys_apart (hold : old.Coherent) (hnew : new.Coherent) {key : ForeignKey}
    (hkey : key ∈ remainingKeys old new) :
    key.constraint ∉ (changedReferences new old).map (·.constraint) := by
  intro hname
  obtain ⟨r, hr, hstays, rfl⟩ := (mem_remainingKeys hold).mp hkey
  obtain ⟨r', hr', heq⟩ := List.mem_map.mp hname
  exact constraint_apart hold hnew hr hstays hr' heq.symm

/-- **Dropping and adding leads to the foreign keys of the new version.** -/
theorem foreignKeys_rebuilt (hold : old.Coherent) (hnew : new.Coherent) :
    (remainingKeys old new ++ (changedReferences new old).map (·.foreignKey)).Perm
      (Table.ofEntity new).foreignKeys := by
  have hleft : ((remainingKeys old new).map (·.constraint)).Nodup :=
    (constraints_of_coherent_nodup hold).sublist (List.filter_sublist.map _)
  have hright : (((changedReferences new old).map (·.foreignKey)).map (·.constraint)).Nodup := by
    rw [List.map_map]
    exact hnew.constraints.sublist (List.filter_sublist.map _)
  have hnodup :
      (remainingKeys old new ++ (changedReferences new old).map (·.foreignKey)).Nodup := by
    refine List.nodup_append.mpr ⟨hleft.of_map _, hright.of_map _, ?_⟩
    intro key hkey other hother heq
    obtain ⟨r, hr, rfl⟩ := List.mem_map.mp hother
    exact remainingKeys_apart hold hnew hkey (heq ▸ List.mem_map_of_mem hr)
  refine (List.perm_ext_iff_of_nodup hnodup (constraints_of_coherent_nodup hnew).of_map).mpr ?_
  intro key
  rw [List.mem_append, foreignKeys_of_coherent hnew, List.mem_map, mem_remainingKeys hold,
    List.mem_map]
  constructor
  · rintro (⟨r, hr, hstays, rfl⟩ | ⟨r, hr, rfl⟩)
    · obtain ⟨r', hr', hname, hsame⟩ := exists_same_of_unchanged hr hstays
      exact ⟨r', hr', (Reference.foreignKey_of_same hsame hname.symm).symm⟩
    · exact ⟨r, mem_of_mem_changedReferences hr, rfl⟩
  · rintro ⟨r, hr, rfl⟩
    by_cases hchanged : r ∈ changedReferences new old
    · exact .inr ⟨r, hchanged, rfl⟩
    · obtain ⟨r', hr', hname, hsame⟩ := exists_same_of_unchanged hr hchanged
      have hstays : r' ∉ changedReferences old new :=
        unchanged_of_same hnew.constraints hr hname.symm (Reference.same_symm hsame)
      exact .inl ⟨r', hr', hstays, (Reference.foreignKey_of_same hsame hname.symm).symm⟩

end

end TableDifference

end Schemata
