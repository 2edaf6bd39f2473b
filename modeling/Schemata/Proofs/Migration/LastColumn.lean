import Schemata.Proofs.Migration.Outcome
import Schemata.Proofs.Model.Links

/-!
# Tables that run out of columns

A plan drops columns of a table before it adds others.  In between, what is left of a table are the
columns that both versions share: those of attributes with the same column, and those of references
that stay.  A table of which nothing is shared is empty for a while, and a database that wants a
column in every table refuses its last drop.

* `forall_prefix_iff` - what holds at every moment of a plan, seen from one table;
* `Table.isSome_columns_alterAll` - a column stays until it is dropped;
* `sharesColumn_iff` - a column is shared exactly if one is not dropped;
* `always_hasColumn_iff` - a table has a column at every moment of a plan exactly if its two
  versions share one.
-/

namespace Schemata

/-- The table has a column. -/
def Table.HasColumn (t : Table) : Prop := ∃ name, (t.columns name).isSome

/-- Something of the table stays: an attribute has the column of one in the other version, or a
reference is the same foreign key under the same name. -/
def Entity.SharesColumn (old new : Entity) : Prop :=
  (∃ x ∈ old.attributes, ∃ y ∈ new.attributes, x.column = y.column) ∨
    ∃ r ∈ old.references, ∃ r' ∈ new.references, r'.constraint = r.constraint ∧ r.same r'

/-- What holds of a table after every part of the statements holds after every part of its own. -/
theorem forall_prefix_iff {table : String} {statements : List (String × Statement)}
    {P : List Statement → Prop} :
    (∀ before later, statements = before ++ later → P (statementsOf table before)) ↔
      ∀ first rest, statementsOf table statements = first ++ rest → P first := by
  constructor
  · intro h first rest hsplit
    obtain ⟨before, later, hstatements, rfl, _⟩ := List.filterMap_eq_append_iff.mp hsplit
    exact h before later hstatements
  · rintro h before later rfl
    exact h _ _ (statementsOf_append table before later)

namespace Table

variable {t : Table}

/-- A table has exactly the columns of its entity. -/
theorem isSome_columns_ofEntity_iff {e : Entity} (he : e.Coherent) {name : String} :
    ((Table.ofEntity e).columns name).isSome ↔ name ∈ e.columnNames := by
  rw [Option.isSome_iff_ne_none, Ne, columns_ofEntity_eq_none he, not_not]

/-- Only the statement that drops a column takes it away. -/
theorem isSome_onColumn {s : Statement} {name : String} {old : Option ColumnDefinition}
    (h : old.isSome) (hs : s ≠ .dropColumn name) : (s.onColumn name old).isSome := by
  unfold Statement.onColumn
  split
  · split
    · rfl
    · exact h
  · split
    · rwa [Option.isSome_map]
    · exact h
  · rename_i dropped
    have hne : dropped ≠ name := fun heq => hs (heq ▸ rfl)
    rwa [if_neg hne]
  · exact h

/-- **A column stays until it is dropped.** -/
theorem isSome_columns_alterAll {statements : List Statement} {name : String}
    (h : (t.columns name).isSome) (hkept : .dropColumn name ∉ statements) :
    ((t.alterAll statements).columns name).isSome := by
  induction statements generalizing t with
  | nil => exact h
  | cons s rest ih =>
    simp only [List.mem_cons, not_or] at hkept
    exact ih (isSome_onColumn h (Ne.symm hkept.1)) hkept.2

end Table

namespace TableDifference

variable {old new : Entity}

/-- Only changes of columns drop columns. -/
theorem dropColumn_mem_altered {name : String} :
    .dropColumn name ∈ (altered old new).statements ↔ name ∈ droppedColumns old new := by
  rw [← dropColumn_mem_columnChanges, statements, List.mem_flatMap]
  constructor
  · rintro ⟨step, _, hs⟩
    obtain rfl : Step.changeColumns = step := step_of_mem_altered hs
    exact hs
  · intro hs
    exact ⟨.changeColumns, by decide, hs⟩

/-- **A column is shared exactly if one is not dropped.** -/
theorem sharesColumn_iff (hold : old.Coherent) (hnew : new.Coherent)
    (hmappings : ∀ r ∈ old.references, r.mappings ≠ []) :
    old.SharesColumn new ↔ ∃ name ∈ old.columnNames, name ∉ droppedColumns old new := by
  constructor
  · rintro (⟨x, hx, y, hy, hcolumn⟩ | ⟨r, hr, r', hr', hname, hsame⟩)
    · exact ⟨x.column, List.mem_append_left _ (List.mem_map_of_mem hx),
        attribute_not_dropped hold hx hy hcolumn⟩
    · have hstays : r ∉ changedReferences old new :=
        unchanged_of_same hnew.constraints hr' hname hsame
      obtain ⟨mapping, hmapping⟩ := List.exists_mem_of_ne_nil _ (hmappings r hr)
      have hcolumn : mapping.column ∈ r.columnNames := List.mem_map_of_mem hmapping
      have hreference : mapping.column ∈ old.referenceColumns :=
        Entity.mem_referenceColumns.mpr ⟨r, hr, hcolumn⟩
      exact ⟨mapping.column, List.mem_append_right _ hreference,
        reference_not_dropped hold hreference (not_rebuilt_of_unchanged hold hr hstays hcolumn)⟩
  · rintro ⟨name, hname, hkept⟩
    rw [droppedColumns, List.mem_append, not_or] at hkept
    rcases List.mem_append.mp hname with hattribute | hreference
    · obtain ⟨x, hx, rfl⟩ := List.mem_map.mp hattribute
      have hthere : x.column ∈ new.attributes.map (·.column) := by
        by_contra hmissing
        have hnone := Entity.attributeOfColumn?_eq_none.mpr hmissing
        exact hkept.2 (List.mem_map_of_mem
          (List.mem_filter.mpr ⟨hx, Option.isNone_iff_eq_none.mpr hnone⟩))
      obtain ⟨y, hy, hcolumn⟩ := List.mem_map.mp hthere
      exact .inl ⟨x, hx, y, hy, hcolumn.symm⟩
    · obtain ⟨r, hr, hrname⟩ := Entity.mem_referenceColumns.mp hreference
      have hstays : r ∉ changedReferences old new := fun hchanged =>
        hkept.1 (mem_rebuiltColumns.mpr ⟨r, hchanged, hrname⟩)
      exact .inr ⟨r, hr, exists_same_of_unchanged hr hstays⟩

/-- While a table changes, a column that is not dropped stays with it. -/
theorem hasColumn_altered (hold : old.Coherent) {name : String} (hname : name ∈ old.columnNames)
    (hkept : name ∉ droppedColumns old new) {first rest : List Statement}
    (hsplit : (altered old new).statements = first ++ rest) :
    ((Table.ofEntity old).alterAll first).HasColumn := by
  have hthere := (Table.isSome_columns_ofEntity_iff hold).mpr hname
  refine ⟨name, Table.isSome_columns_alterAll hthere fun hdrop => hkept ?_⟩
  rw [← dropColumn_mem_altered, hsplit]
  exact List.mem_append_left rest hdrop

/-- When the last column has been dropped, the table has no column. -/
theorem exists_bare_moment (hold : old.Coherent)
    (hall : ∀ name ∈ old.columnNames, name ∈ droppedColumns old new) :
    ∃ first rest, (altered old new).statements = first ++ rest ∧
      ¬ ((Table.ofEntity old).alterAll first).HasColumn := by
  have hsplit : ∃ rest, (altered old new).statements =
      ((changedReferences old new).map (·.constraint)).map .dropForeignKey ++
        (altered old new .dropIndexes ++ (droppedColumns old new).map .dropColumn) ++ rest := by
    simp only [statements_altered, columnChanges_eq, List.append_assoc, List.append_cancel_left_eq,
      exists_eq']
  obtain ⟨rest, hsplit⟩ := hsplit
  refine ⟨_, rest, hsplit, ?_⟩
  rintro ⟨name, hsome⟩
  rw [Table.alterAll_append, Table.alterAll_append,
    (Table.alterAll_of_quiet (quiet_indexes old new (.inl rfl))).2,
    Table.columns_dropColumns] at hsome
  split at hsome
  · cases hsome
  · rename_i hkept
    rw [Table.columns_dropForeignKeys, Table.isSome_columns_ofEntity_iff hold] at hsome
    exact hkept (hall name hsome)

end TableDifference

namespace DataModel

/-- Every entity of a sound model has a column, that of its primary key. -/
theorem Sound.columnNames_ne_nil {m : DataModel} {e : Entity} (h : m.Sound) (he : e ∈ m.entities) :
    e.columnNames ≠ [] := by
  obtain ⟨key, hkey⟩ := List.exists_mem_of_ne_nil _ (h.clean.primaryKey_ne_nil he)
  have hcolumn : key.column ∈ e.columnNames :=
    List.mem_append_left _ (List.mem_map_of_mem (List.mem_filter.mp hkey).1)
  exact List.ne_nil_of_mem hcolumn

/-- Every table of a sound model has a column. -/
theorem Sound.hasColumn {m : DataModel} (h : m.Sound) (hdistinct : m.DistinctConstraints)
    {e : Entity} (he : e ∈ m.entities) : (Table.ofEntity e).HasColumn := by
  obtain ⟨name, hname⟩ := List.exists_mem_of_ne_nil _ (h.columnNames_ne_nil he)
  exact ⟨name, (Table.isSome_columns_ofEntity_iff (h.coherent hdistinct he)).mpr hname⟩

variable {a b : DataModel}

/-- A new table has its columns from the start. -/
theorem hasColumn_created (hb : b.Sound) (hdb : b.DistinctConstraints) {new : Entity}
    (hnew : new ∈ b.entities) {first rest : List Statement}
    (hsplit : (TableDifference.created new).statements = first ++ rest) {t : Table}
    (ht : Table.run none first = some t) : t.HasColumn := by
  rw [TableDifference.statements_created] at hsplit
  cases first with
  | nil => cases ht
  | cons s added =>
    obtain ⟨rfl, hadded⟩ := List.cons.inj hsplit
    obtain ⟨keys, others, hkeys, rfl, _⟩ := List.map_eq_append_iff.mp hadded
    have hrun : Table.run none (new.bareCreation :: keys.map fun key => .add (.foreignKey key)) =
        some ((Table.ofDefinitions new.definitions).alterAll
          (keys.map fun key => .add (.foreignKey key))) :=
      Table.run_of_alters (TableDifference.alters_addedKeys keys)
    obtain rfl := Option.some.inj (hrun.symm.trans ht)
    obtain ⟨name, hname⟩ := hb.hasColumn hdb hnew
    refine ⟨name, ?_⟩
    rw [Table.columns_addForeignKeys, TableDifference.columns_bare]
    exact hname

/-- A table in both models has a column at every moment exactly if its versions share one. -/
theorem hasColumn_altered_iff (ha : a.Sound) (hb : b.Sound) (hda : a.DistinctConstraints)
    (hdb : b.DistinctConstraints) {old new : Entity} (hold : old ∈ a.entities)
    (hnew : new ∈ b.entities) :
    (∀ first rest, (TableDifference.altered old new).statements = first ++ rest →
      ∀ t, Table.run (some (Table.ofEntity old)) first = some t → t.HasColumn) ↔
      old.SharesColumn new := by
  have hcoherent := ha.coherent hda hold
  have hrun : ∀ first rest, (TableDifference.altered old new).statements = first ++ rest →
      Table.run (some (Table.ofEntity old)) first = some ((Table.ofEntity old).alterAll first) :=
    fun first rest hsplit => Table.run_of_alters fun s hs =>
      alters_of_mem_altered (hsplit ▸ List.mem_append_left rest hs)
  rw [TableDifference.sharesColumn_iff hcoherent (hb.coherent hdb hnew) fun r hr =>
    ha.mappings_ne_nil hold hr]
  constructor
  · intro h
    by_contra hnone
    simp only [not_exists, not_and, not_not] at hnone
    obtain ⟨first, rest, hsplit, hbare⟩ := TableDifference.exists_bare_moment hcoherent hnone
    exact hbare (h first rest hsplit _ (hrun first rest hsplit))
  · rintro ⟨name, hname, hkept⟩ first rest hsplit t ht
    obtain rfl := Option.some.inj ((hrun first rest hsplit).symm.trans ht)
    exact TableDifference.hasColumn_altered hcoherent hname hkept hsplit

end DataModel

namespace Atlas

/-- Countries by number. -/
def numbered : DataModel :=
  { entities := [
      { id := .ofNat 1, className := "Country", table := "country",
        attributes := [.identity] }] : DataModel }.linkAll

/-- Countries by code. -/
def coded : DataModel :=
  { entities := [
      { id := .ofNat 1, className := "Country", table := "country",
        attributes := [(Attribute.plain "code" "CHAR(2)").primary] }] : DataModel }.linkAll

theorem sound_numbered : numbered.Sound :=
  .of_entities (by decide) (by decide) (by decide) (by decide +kernel)

theorem sound_coded : coded.Sound :=
  .of_entities (by decide) (by decide) (by decide) (by decide)

/-- The number goes before the code comes. -/
theorem statements_planTo : (numbered.planTo coded).statements =
    [("country", .dropColumn "id")] ++
      [("country", .add (.column { name := "code", type := "CHAR(2)" }))] := by
  decide

end Atlas

namespace DataModel

variable {a b : DataModel}

/-- **When a table has a column at every moment of a plan:** exactly if it comes, goes, or shares a
column with its new version. -/
theorem always_hasColumn_iff (ha : a.Sound) (hb : b.Sound) (hda : a.DistinctConstraints)
    (hdb : b.DistinctConstraints) (table : String) :
    (∀ before later, (a.planTo b).statements = before ++ later →
      ∀ t, (Catalog.ofModel a).run before table = some t → t.HasColumn) ↔
      ∀ old new, a.ofTable? table = some old → b.ofTable? table = some new →
        old.SharesColumn new := by
  simp only [Catalog.run_apply]
  rw [forall_prefix_iff (P := fun first =>
    ∀ t, Table.run (Catalog.ofModel a table) first = some t → t.HasColumn),
    statementsOf_planTo ha.keyed hb.keyed, Catalog.ofModel]
  cases hold : a.ofTable? table with
  | none =>
    refine iff_of_true ?_ (by simp)
    cases hnew : b.ofTable? table with
    | none =>
      simp only [tableDifference, hold, hnew]
      rintro first rest hsplit t ht
      obtain rfl : first = [] := (List.append_eq_nil_iff.mp hsplit.symm).1
      cases ht
    | some new =>
      simp only [tableDifference, hold, hnew]
      intro first rest hsplit t ht
      exact hasColumn_created hb hdb (mem_of_ofTable? hnew).1 hsplit ht
  | some old =>
    have holdMem := (mem_of_ofTable? hold).1
    cases hnew : b.ofTable? table with
    | none =>
      simp only [tableDifference, hold, hnew]
      refine iff_of_true ?_ (by simp)
      intro first rest hsplit t ht
      cases first with
      | nil =>
        obtain rfl := Option.some.inj ht
        exact ha.hasColumn hda holdMem
      | cons s others =>
        obtain ⟨rfl, hnil⟩ := List.cons.inj hsplit
        obtain rfl : others = [] := (List.append_eq_nil_iff.mp hnil.symm).1
        cases ht
    | some new =>
      simp only [tableDifference, hold, hnew, Option.map_some]
      rw [hasColumn_altered_iff ha hb hda hdb holdMem (mem_of_ofTable? hnew).1]
      constructor
      · rintro hshares _ _ ⟨⟩ ⟨⟩
        exact hshares
      · intro h
        exact h old new rfl rfl

/-- Orders never lack a column while the shop is reorganised. -/
theorem shop_always_hasColumn :
    Shop.old.Sound ∧ Shop.new.Sound ∧ Shop.old.DistinctConstraints ∧
    Shop.new.DistinctConstraints ∧
    ∀ before later, (Shop.old.planTo Shop.new).statements = before ++ later →
      ∀ t, (Catalog.ofModel Shop.old).run before "order" = some t → t.HasColumn := by
  refine ⟨Shop.sound_old, Shop.sound_new, Shop.distinct_old, Shop.distinct_new, ?_⟩
  have hkeyOld : ∀ e ∈ Shop.old.entities, ∃ x ∈ e.attributes, x.column = "id" := by decide
  have hkeyNew : ∀ e ∈ Shop.new.entities, ∃ x ∈ e.attributes, x.column = "id" := by decide
  refine (always_hasColumn_iff Shop.sound_old Shop.sound_new Shop.distinct_old Shop.distinct_new
    "order").mpr fun old new hold hnew => ?_
  obtain ⟨x, hx, hxid⟩ := hkeyOld old (mem_of_ofTable? hold).1
  obtain ⟨y, hy, hyid⟩ := hkeyNew new (mem_of_ofTable? hnew).1
  exact .inl ⟨x, hx, y, hy, hxid.trans hyid.symm⟩

/-- Not every table has a column at every moment: countries lose their number before they get a
code. -/
theorem atlas_runs_out_of_columns :
    Atlas.numbered.Sound ∧ Atlas.coded.Sound ∧ Atlas.numbered.DistinctConstraints ∧
    Atlas.coded.DistinctConstraints ∧
    ¬ ∀ before later, (Atlas.numbered.planTo Atlas.coded).statements = before ++ later →
      ∀ table t, (Catalog.ofModel Atlas.numbered).run before table = some t → t.HasColumn := by
  have hdistinct : Atlas.numbered.DistinctConstraints := by decide
  refine ⟨Atlas.sound_numbered, Atlas.sound_coded, hdistinct, by decide, fun hall => ?_⟩
  obtain ⟨old, hold⟩ : ∃ old, Atlas.numbered.ofTable? "country" = some old := ⟨_, rfl⟩
  have hcoherent := Atlas.sound_numbered.coherent hdistinct (mem_of_ofTable? hold).1
  have hnames : ∀ e ∈ Atlas.numbered.entities, e.columnNames = ["id"] := by decide
  have hrun : (Catalog.ofModel Atlas.numbered).run [("country", .dropColumn "id")] "country" =
      some ((Table.ofEntity old).alterAll [.dropColumn "id"]) := by
    rw [Catalog.run_apply, Catalog.ofModel, hold]
    rfl
  obtain ⟨name, hsome⟩ := hall _ _ Atlas.statements_planTo "country" _ hrun
  rw [show [Statement.dropColumn "id"] = ["id"].map .dropColumn from rfl,
    Table.columns_dropColumns] at hsome
  split at hsome
  · cases hsome
  · rename_i hname
    rw [Table.isSome_columns_ofEntity_iff hcoherent,
      hnames old (mem_of_ofTable? hold).1] at hsome
    exact hname hsome

end DataModel

end Schemata
