import Mathlib.Data.List.Flatten
import Schemata.Migration.Difference
import Schemata.Proofs.Model.Sound

/-!
# What is rebuilt and what stays

Between two versions of a table, a reference either stays as it is, together with its columns, or is
rebuilt.  A reference that stays is the same foreign key in both versions.

* `exists_same_of_unchanged` - a reference that stays has its equal in the other version;
* `kept_column` - a reference column that is not rebuilt stays a reference column, and is not
  rebuilt from the other side either.
-/

namespace Schemata

/-- Columns and constraints are distinct, and every reference is linked. -/
structure Entity.Coherent (e : Entity) : Prop where
  columns : e.columnNames.Nodup
  constraints : (e.references.map (·.constraint)).Nodup
  linked : ∀ r ∈ e.references, r.foreignTable?.isSome
  names : ∀ r ∈ e.references, r.columns.map (·.column) = r.columnNames

/-- The entities of a sound model whose constraints are distinct are coherent. -/
theorem DataModel.Sound.coherent {m : DataModel} {e : Entity} (h : m.Sound)
    (hdistinct : m.DistinctConstraints) (he : e ∈ m.entities) : e.Coherent := by
  refine ⟨h.columnNames_nodup he, hdistinct e he, ?_, ?_⟩
  · intro r hr
    obtain ⟨foreign, _, hpoints⟩ := h.pointsAt he hr
    rw [hpoints.table]
    rfl
  · intro r hr
    obtain ⟨foreign, _, hpoints⟩ := h.pointsAt he hr
    exact hpoints.names

namespace Reference

variable {r r' : Reference}

/-- The same reference points at the same table. -/
theorem foreignTable?_of_same (h : r.same r') : r.foreignTable? = r'.foreignTable? := by
  simp only [same, Bool.and_eq_true, beq_iff_eq] at h
  exact h.1.1.1

/-- The same reference links the same columns of the same types. -/
theorem keys_of_same (h : r.same r') : r.columns.map (·.key) = r'.columns.map (·.key) := by
  simp only [same, Bool.and_eq_true, beq_iff_eq] at h
  exact h.2

/-- The same foreign key under the same name is the same definition. -/
theorem foreignKey_of_same (h : r.same r') (hname : r.constraint = r'.constraint) :
    r.foreignKey = r'.foreignKey := by
  have hkeys := keys_of_same h
  simp only [same, Bool.and_eq_true, beq_iff_eq] at h
  have hlocal : r.columns.map (·.column) = r'.columns.map (·.column) := by
    simpa [Function.comp_def, LinkedColumn.key] using congrArg (List.map (·.1)) hkeys
  have hforeign : r.columns.map (·.foreignColumn) = r'.columns.map (·.foreignColumn) := by
    simpa [Function.comp_def, LinkedColumn.key] using congrArg (List.map (·.2.1)) hkeys
  simp only [foreignKey, hname, h.1.1.1, h.1.1.2, h.1.2, hlocal, hforeign]

/-- The foreign key of a reference names the table of the entity that it points at. -/
theorem PointsAt.foreignKey_table {foreign : Entity} (h : r.PointsAt foreign) :
    r.foreignKey.foreignTable = foreign.table := by
  rw [foreignKey, h.table]
  rfl

/-- Every column of a reference has its equal in a reference that is the same foreign key. -/
theorem exists_column_of_same (h : r.same r') {c : LinkedColumn} (hc : c ∈ r.columns) :
    ∃ c' ∈ r'.columns, c.column = c'.column ∧ c.foreignColumn = c'.foreignColumn ∧
      normalizedType c.type = normalizedType c'.type := by
  have hkey : c.key ∈ r'.columns.map (·.key) := keys_of_same h ▸ List.mem_map_of_mem hc
  obtain ⟨c', hc', heq⟩ := List.mem_map.mp hkey
  simp only [LinkedColumn.key, Prod.mk.injEq] at heq
  exact ⟨c', hc', heq.1.symm, heq.2.1.symm, heq.2.2.symm⟩

end Reference

namespace Entity

variable {e : Entity}

/-- The columns of the references are those of each of them. -/
theorem mem_referenceColumns {name : String} :
    name ∈ e.referenceColumns ↔ ∃ r ∈ e.references, name ∈ r.columnNames :=
  List.mem_flatMap

/-- No attribute shares its column with a reference. -/
theorem Coherent.apart (h : e.Coherent) {a : Attribute} (ha : a ∈ e.attributes) :
    a.column ∉ e.referenceColumns := fun hreference =>
  (List.nodup_append.mp h.columns).2.2 a.column (List.mem_map_of_mem ha) a.column hreference rfl

/-- No column of a reference is the column of an attribute. -/
theorem Coherent.not_attribute (h : e.Coherent) {name : String}
    (hname : name ∈ e.referenceColumns) : name ∉ e.attributes.map (·.column) := by
  intro hattribute
  obtain ⟨a, ha, rfl⟩ := List.mem_map.mp hattribute
  exact h.apart ha hname

/-- The columns of the attributes are distinct. -/
theorem Coherent.attributes_nodup (h : e.Coherent) : (e.attributes.map (·.column)).Nodup :=
  (List.nodup_append.mp h.columns).1

/-- References that share a column are the same. -/
theorem Coherent.eq_of_column (h : e.Coherent) {r r' : Reference} {name : String}
    (hr : r ∈ e.references) (hr' : r' ∈ e.references) (hname : name ∈ r.columnNames)
    (hname' : name ∈ r'.columnNames) : r = r' :=
  Lookup.eq_of_mem_flatMap (List.nodup_append.mp h.columns).2.1 hr hr' hname hname'

/-- No attribute is found for a column exactly where none has it. -/
theorem attributeOfColumn?_eq_none {name : String} :
    e.attributeOfColumn? name = none ↔ name ∉ e.attributes.map (·.column) :=
  Lookup.find?_key_eq_none

/-- The attribute that is found for a column has it. -/
theorem mem_of_attributeOfColumn? {name : String} {a : Attribute}
    (h : e.attributeOfColumn? name = some a) : a ∈ e.attributes ∧ a.column = name :=
  Lookup.mem_of_find?_key h

end Entity

namespace TableDifference

variable {old new : Entity}

/-- References that change are references of the old table. -/
theorem mem_of_mem_changedReferences {r : Reference} (h : r ∈ changedReferences old new) :
    r ∈ old.references :=
  (List.mem_filter.mp h).1

/-- **A reference that stays has its equal in the other version.** -/
theorem exists_same_of_unchanged {r : Reference} (hr : r ∈ old.references)
    (hstays : r ∉ changedReferences old new) :
    ∃ r' ∈ new.references, r'.constraint = r.constraint ∧ r.same r' := by
  have hfound : (new.referenceOfConstraint? r.constraint).any r.same = true := by
    by_contra hnone
    exact hstays (List.mem_filter.mpr ⟨hr, by simpa using hnone⟩)
  obtain ⟨r', hr', hsame⟩ := (Option.any_eq_true _ _).mp hfound
  obtain ⟨hmem, hname⟩ := Lookup.mem_of_find?_key hr'
  exact ⟨r', hmem, hname, hsame⟩

/-- A reference with an equal under its name in the other version stays. -/
theorem unchanged_of_same (hnew : (new.references.map (·.constraint)).Nodup) {r r' : Reference}
    (hr' : r' ∈ new.references) (hname : r'.constraint = r.constraint) (hsame : r.same r') :
    r ∉ changedReferences old new := by
  intro hchanged
  have hfound : new.referenceOfConstraint? r.constraint = some r' :=
    hname ▸ Lookup.find?_key hnew hr'
  have hdiffers := (List.mem_filter.mp hchanged).2
  simp [hfound, hsame] at hdiffers

/-- The columns that are rebuilt are those of the references that change. -/
theorem mem_rebuiltColumns {name : String} :
    name ∈ rebuiltColumns old new ↔
      ∃ r ∈ changedReferences old new, name ∈ r.columnNames :=
  List.mem_flatMap

/-- Only columns of references are rebuilt. -/
theorem mem_referenceColumns_of_rebuilt {name : String} (h : name ∈ rebuiltColumns old new) :
    name ∈ old.referenceColumns := by
  obtain ⟨r, hr, hname⟩ := mem_rebuiltColumns.mp h
  exact Entity.mem_referenceColumns.mpr ⟨r, mem_of_mem_changedReferences hr, hname⟩

/-- No column is rebuilt twice. -/
theorem rebuiltColumns_nodup (hold : old.Coherent) : (rebuiltColumns old new).Nodup :=
  (List.nodup_append.mp hold.columns).2.1.sublist (List.filter_sublist.flatMap _)

/-- The columns of a reference that stays are not rebuilt: no other reference has them. -/
theorem not_rebuilt_of_unchanged (hold : old.Coherent) {r : Reference} {name : String}
    (hr : r ∈ old.references) (hstays : r ∉ changedReferences old new)
    (hname : name ∈ r.columnNames) : name ∉ rebuiltColumns old new := by
  intro hrebuilt
  obtain ⟨r', hr', hname'⟩ := mem_rebuiltColumns.mp hrebuilt
  have heq := hold.eq_of_column hr (mem_of_mem_changedReferences hr') hname hname'
  exact hstays (heq ▸ hr')

/-- **A reference column that is not rebuilt stays a reference column,** and is not rebuilt from the
other side either. -/
theorem kept_column (hold : old.Coherent) (hnew : new.Coherent) {name : String}
    (hname : name ∈ old.referenceColumns) (hstays : name ∉ rebuiltColumns old new) :
    name ∈ new.referenceColumns ∧ name ∉ rebuiltColumns new old := by
  obtain ⟨r, hr, hrname⟩ := Entity.mem_referenceColumns.mp hname
  have hunchanged : r ∉ changedReferences old new := fun hchanged =>
    hstays (mem_rebuiltColumns.mpr ⟨r, hchanged, hrname⟩)
  obtain ⟨r', hr', hconstraint, hsame⟩ := exists_same_of_unchanged hr hunchanged
  have hname' : name ∈ r'.columnNames := by
    rw [← hold.names r hr] at hrname
    obtain ⟨c, hc, rfl⟩ := List.mem_map.mp hrname
    obtain ⟨c', hc', heq, -⟩ := Reference.exists_column_of_same hsame hc
    rw [← hnew.names r' hr', heq]
    exact List.mem_map_of_mem hc'
  have hback : r' ∉ changedReferences new old :=
    unchanged_of_same hold.constraints hr hconstraint.symm (Reference.same_symm hsame)
  exact ⟨Entity.mem_referenceColumns.mpr ⟨r', hr', hname'⟩,
    not_rebuilt_of_unchanged hnew hr' hback hname'⟩

end TableDifference

end Schemata
