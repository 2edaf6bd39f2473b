import Schemata.Proofs.Migration.Alteration
import Schemata.Proofs.Migration.Course

/-!
# What a plan leads to

A plan is executed on the database of the old model, statement by statement.  The database refuses
none of them, and in the end its tables are those of the new model.

* `admitsAll_altered`, `agrees_altered` - a table that stays becomes its new version;
* `run_created` - a new table comes with its columns and gets its foreign keys;
* `run_tableDifference` - whatever happens to a table, the database takes it, and in the end the
  table is as in the new model;
* `planTo_leads_to_target` - a plan can be executed and leads to the new model.
-/

namespace Schemata

/-- Both tables have columns of the same names and types, and the same foreign keys. -/
structure Table.Agrees (t u : Table) : Prop where
  columns : ∀ name, (t.columns name).map (normalizedType ·.type) =
    (u.columns name).map (normalizedType ·.type)
  foreignKeys : t.foreignKeys.Perm u.foreignKeys

/-- Both databases have the same tables, and these agree. -/
def Catalog.Agrees (c d : Catalog) : Prop :=
  ∀ table, Option.Rel Table.Agrees (c table) (d table)

namespace Statement

variable {s : Statement}

/-- Only the step in which columns change has statements that name a column. -/
theorem column?_of_step (h : s.step ≠ .changeColumns) : s.column? = none := by
  unfold column?
  split
  all_goals first | rfl | exact absurd rfl h

/-- Only two steps have statements that name a foreign key. -/
theorem constraint?_of_step (hdrop : s.step ≠ .dropForeignKeys) (hadd : s.step ≠ .addForeignKeys) :
    s.constraint? = none := by
  unfold constraint?
  split
  · exact absurd rfl hadd
  · exact absurd rfl hdrop
  · rfl

/-- In all but two steps, statements alter a table that is there. -/
theorem alters_of_step (hcreate : s.step ≠ .createTables) (hdrop : s.step ≠ .dropTables) :
    s.alters = true := by
  cases s with
  | create definitions => exact absurd rfl hcreate
  | drop => exact absurd rfl hdrop
  | _ => rfl

end Statement

namespace Table

variable {t : Table}

/-- A statement that is about no column and no foreign key leaves both alone. -/
theorem alter_eq_self {s : Statement} (hcolumn : s.column? = none)
    (hconstraint : s.constraint? = none) : t.alter s = t := by
  have hcolumns : (t.alter s).columns = t.columns := funext fun name =>
    Statement.onColumn_of_ne (by simp [hcolumn]) _
  have hkeys : (t.alter s).foreignKeys = t.foreignKeys :=
    Statement.onForeignKeys_of_none hconstraint _
  cases t
  exact congrArg₂ Table.mk hcolumns hkeys

/-- A statement that names neither a column nor a foreign key is admitted by every table. -/
theorem admits_of_quiet {s : Statement} (hcolumn : s.column? = none)
    (hconstraint : s.constraint? = none) : t.Admits s := by
  unfold Admits
  split <;> trivial

/-- Statements about indexes are admitted and leave columns and foreign keys alone. -/
theorem alterAll_of_quiet {statements : List Statement}
    (h : ∀ s ∈ statements, s.column? = none ∧ s.constraint? = none) :
    t.AdmitsAll statements ∧ t.alterAll statements = t := by
  induction statements with
  | nil => exact ⟨trivial, rfl⟩
  | cons s rest ih =>
    obtain ⟨hcolumn, hconstraint⟩ := h s List.mem_cons_self
    have hrest := ih fun s' hs' => h s' (List.mem_cons_of_mem s hs')
    rw [AdmitsAll, alterAll_cons, alter_eq_self hcolumn hconstraint]
    exact ⟨⟨admits_of_quiet hcolumn hconstraint, hrest.1⟩, hrest.2⟩

end Table

namespace TableDifference

variable {old new : Entity}

/-- A table that stays changes in five groups of statements. -/
theorem statements_altered (old new : Entity) :
    (altered old new).statements =
      ((changedReferences old new).map (·.constraint)).map .dropForeignKey ++
      (altered old new .dropIndexes ++ (columnChanges old new ++
      (((changedReferences new old).map (·.foreignKey)).map (fun key => .add (.foreignKey key)) ++
      altered old new .addIndexes))) := by
  rw [List.map_map, List.map_map]
  simp only [statements, Step.all, List.flatMap_cons, List.flatMap_nil, List.append_nil]
  rfl

/-- Statements about indexes name neither columns nor foreign keys. -/
theorem quiet_indexes (old new : Entity) {step : Step}
    (hstep : step = .dropIndexes ∨ step = .addIndexes) :
    ∀ s ∈ altered old new step, s.column? = none ∧ s.constraint? = none := by
  intro s hs
  have hown := step_of_mem_altered hs
  rcases hstep with rfl | rfl
  all_goals
    exact ⟨Statement.column?_of_step (by simp [hown]),
      Statement.constraint?_of_step (by simp [hown]) (by simp [hown])⟩

/-- The old table without the foreign keys of changed references. -/
def loosened (old new : Entity) : Table :=
  (Table.ofEntity old).alterAll
    (((changedReferences old new).map (·.constraint)).map .dropForeignKey)

/-- The loosened table with its columns changed. -/
def widened (old new : Entity) : Table := (loosened old new).alterAll (columnChanges old new)

/-- The columns outlive the foreign keys on them. -/
theorem columns_loosened : (loosened old new).columns = (Table.ofEntity old).columns :=
  Table.columns_dropForeignKeys _

/-- Once foreign keys are dropped, those that stay remain. -/
theorem foreignKeys_loosened : (loosened old new).foreignKeys = remainingKeys old new :=
  Table.foreignKeys_dropForeignKeys _

/-- Changing columns leaves the remaining foreign keys as they are. -/
theorem foreignKeys_widened : (widened old new).foreignKeys = remainingKeys old new := by
  rw [← foreignKeys_loosened]
  refine Table.foreignKeys_alterAll_of_none fun s hs => ?_
  have hstep := step_of_mem_columnChanges hs
  exact Statement.constraint?_of_step (by simp [hstep]) (by simp [hstep])

/-- A table that stays ends up widened, with the foreign keys that come. -/
theorem alterAll_altered (old new : Entity) :
    (Table.ofEntity old).alterAll (altered old new).statements =
      (widened old new).alterAll
        (((changedReferences new old).map (·.foreignKey)).map
          fun key => .add (.foreignKey key)) := by
  rw [statements_altered, Table.alterAll_append, Table.alterAll_append, Table.alterAll_append,
    Table.alterAll_append, (Table.alterAll_of_quiet (quiet_indexes old new (.inl rfl))).2,
    (Table.alterAll_of_quiet (quiet_indexes old new (.inr rfl))).2]
  rfl

/-- **A table that stays admits every statement** on its way to the new version. -/
theorem admitsAll_altered (hold : old.Coherent) (hnew : new.Coherent) :
    (Table.ofEntity old).AdmitsAll (altered old new).statements := by
  have hdropped : ((changedReferences old new).map (·.constraint)).Nodup :=
    hold.constraints.sublist (List.filter_sublist.map _)
  have hadded : (((changedReferences new old).map (·.foreignKey)).map (·.constraint)).Nodup := by
    rw [List.map_map]
    exact hnew.constraints.sublist (List.filter_sublist.map _)
  have hquiet := fun t : Table =>
    Table.alterAll_of_quiet (t := t) (quiet_indexes old new (.inl rfl))
  rw [statements_altered]
  refine (Table.admitsAll_append _ _).mpr ⟨?_, (Table.admitsAll_append _ _).mpr ⟨(hquiet _).1, ?_⟩⟩
  · refine Table.admitsAll_dropForeignKeys hdropped fun constraint hmem => ?_
    obtain ⟨r, hr, rfl⟩ := List.mem_map.mp hmem
    rw [foreignKeys_of_coherent hold]
    exact ⟨r.foreignKey, List.mem_map_of_mem (mem_of_mem_changedReferences hr), rfl⟩
  · rw [(hquiet _).2]
    refine (Table.admitsAll_append _ _).mpr ⟨admitsAll_columnChanges hold hnew columns_loosened, ?_⟩
    refine (Table.admitsAll_append _ _).mpr ⟨?_, ?_⟩
    · refine Table.admitsAll_addForeignKeys hadded fun key hkey hname => ?_
      rw [List.map_map] at hname
      exact remainingKeys_apart hold hnew (foreignKeys_widened ▸ hkey) hname
    · exact (Table.alterAll_of_quiet (quiet_indexes old new (.inr rfl))).1

/-- **A table that stays becomes its new version.** -/
theorem agrees_altered (hold : old.Coherent) (hnew : new.Coherent) :
    ((Table.ofEntity old).alterAll (altered old new).statements).Agrees (Table.ofEntity new) := by
  rw [alterAll_altered]
  constructor
  · intro name
    rw [Table.columns_addForeignKeys]
    exact columns_columnChanges hold hnew columns_loosened name
  · rw [Table.foreignKeys_addForeignKeys, foreignKeys_widened]
    exact foreignKeys_rebuilt hold hnew

/-- A new table is created bare and gets its foreign keys one by one. -/
theorem statements_created (e : Entity) :
    (created e).statements =
      e.bareCreation ::
        (e.linkedReferences.map (·.foreignKey)).map fun key => .add (.foreignKey key) := by
  rw [List.map_map]
  simp only [statements, Step.all, List.flatMap_cons, List.flatMap_nil, created, List.nil_append,
    List.append_nil, List.singleton_append]
  rfl

/-- A table that is created bare has all its columns. -/
theorem columns_bare (e : Entity) :
    (Table.ofDefinitions e.definitions).columns = (Table.ofEntity e).columns := by
  funext name
  rw [Table.columns_ofEntity, Table.ofDefinitions, e.columns_definitions]

/-- A table that is created bare has no foreign keys. -/
theorem foreignKeys_bare (e : Entity) : (Table.ofDefinitions e.definitions).foreignKeys = [] :=
  e.foreignKeys_definitions

/-- Adding foreign keys alters a table. -/
theorem alters_addedKeys (keys : List ForeignKey) :
    ∀ s ∈ keys.map fun key => Statement.add (.foreignKey key), s.alters = true := by
  intro s hs
  obtain ⟨_, _, rfl⟩ := List.mem_map.mp hs
  rfl

/-- A new table is created bare, and its foreign keys are added to it. -/
theorem run_statements_created (e : Entity) :
    Table.run none (created e).statements =
      some ((Table.ofDefinitions e.definitions).alterAll
        ((e.linkedReferences.map (·.foreignKey)).map fun key => .add (.foreignKey key))) := by
  have hbegin : Table.after none e.bareCreation = some (Table.ofDefinitions e.definitions) := rfl
  rw [statements_created, Table.run, List.foldl_cons, hbegin, ← Table.run,
    Table.run_of_alters (alters_addedKeys _)]

/-- **A new table comes with its columns and gets its foreign keys.** -/
theorem run_created (hnew : new.Coherent) :
    Table.TakesAll none (created new).statements ∧
      Option.Rel Table.Agrees (Table.run none (created new).statements)
        (some (Table.ofEntity new)) := by
  have hnodup : ((new.linkedReferences.map (·.foreignKey)).map (·.constraint)).Nodup := by
    rw [hnew.linkedReferences_eq, List.map_map]
    exact hnew.constraints
  have hbegin : Table.after none new.bareCreation =
      some (Table.ofDefinitions new.definitions) := rfl
  rw [run_statements_created, statements_created, Table.TakesAll, hbegin,
    Table.takesAll_of_alters (alters_addedKeys _)]
  refine ⟨⟨rfl, ?_⟩, .some ⟨fun name => ?_, ?_⟩⟩
  · refine Table.admitsAll_addForeignKeys hnodup fun key hkey => ?_
    rw [foreignKeys_bare] at hkey
    cases hkey
  · rw [Table.columns_addForeignKeys, columns_bare]
  · rw [Table.foreignKeys_addForeignKeys, foreignKeys_bare, Table.foreignKeys_ofEntity]
    exact List.Perm.refl _

end TableDifference

namespace DataModel

variable {a b : DataModel}

/-- All statements about a table that stays alter it. -/
theorem alters_of_mem_altered {old new : Entity} {s : Statement}
    (h : s ∈ (TableDifference.altered old new).statements) : s.alters = true := by
  obtain ⟨step, _, hs⟩ := List.mem_flatMap.mp h
  have hstep := TableDifference.step_of_mem_altered hs
  refine Statement.alters_of_step ?_ ?_
  all_goals
    rw [hstep]
    rintro rfl
    cases hs

/-- **Whatever happens to a table, the database takes it, and in the end the table is as in the new
model.** -/
theorem run_tableDifference (ha : a.Sound) (hb : b.Sound) (hda : a.DistinctConstraints)
    (hdb : b.DistinctConstraints) (table : String) :
    Table.TakesAll (Catalog.ofModel a table) (a.tableDifference b table).statements ∧
      Option.Rel Table.Agrees
        (Table.run (Catalog.ofModel a table) (a.tableDifference b table).statements)
        (Catalog.ofModel b table) := by
  rw [Catalog.ofModel, Catalog.ofModel]
  cases hold : a.ofTable? table with
  | none =>
    cases hnew : b.ofTable? table with
    | none =>
      simp only [tableDifference, hold, hnew]
      exact ⟨trivial, .none⟩
    | some new =>
      simp only [tableDifference, hold, hnew]
      exact TableDifference.run_created (hb.coherent hdb (mem_of_ofTable? hnew).1)
  | some old =>
    cases hnew : b.ofTable? table with
    | none =>
      simp only [tableDifference, hold, hnew]
      exact ⟨⟨rfl, trivial⟩, .none⟩
    | some new =>
      simp only [tableDifference, hold, hnew, Option.map_some]
      have holdCoherent := ha.coherent hda (mem_of_ofTable? hold).1
      have hnewCoherent := hb.coherent hdb (mem_of_ofTable? hnew).1
      rw [Table.takesAll_of_alters fun s hs => alters_of_mem_altered hs,
        Table.run_of_alters fun s hs => alters_of_mem_altered hs]
      exact ⟨TableDifference.admitsAll_altered holdCoherent hnewCoherent,
        .some (TableDifference.agrees_altered holdCoherent hnewCoherent)⟩

end DataModel

/-- A reference whose one column points at the usual primary key of a class. -/
def Reference.toKey (name foreignClass constraint column : String) : Reference :=
  { name, foreignClass, constraint, mappings := [⟨column, "id"⟩] }

namespace Shop

/-- Orders of customers, and coupons for orders. -/
def old : DataModel :=
  { entities := [
      { id := .ofNat 1, className := "Order", table := "order",
        attributes := [.identity, .plain "note" "TEXT"],
        references := [.toKey "customer" "Customer" "order_customer" "customer_id"] },
      { id := .ofNat 2, className := "Customer", table := "customer",
        attributes := [.identity, .plain "name" "varchar(80)"] },
      { id := .ofNat 3, className := "Coupon", table := "coupon", attributes := [.identity],
        references := [.toKey "order" "Order" "coupon_order" "order_id"] }] : DataModel }.linkAll

/-- Customers have a wider key, to which another column of their orders points now; the column that
did before is a mere number.  Coupons are gone, and orders have invoices. -/
def new : DataModel :=
  { entities := [
      { id := .ofNat 1, className := "Order", table := "order",
        attributes := [.identity, .plain "customer_id" "INT"],
        references := [.toKey "customer" "Customer" "order_customer" "buyer_id"] },
      { id := .ofNat 2, className := "Customer", table := "customer",
        attributes := [{ Attribute.identity with type := "BIGINT" },
          .plain "name" "VARCHAR(80) "] },
      { id := .ofNat 3, className := "Invoice", table := "invoice", attributes := [.identity],
        references := [.toKey "order" "Order" "invoice_order" "order_id"] }] : DataModel }.linkAll

theorem sound_old : old.Sound :=
  .of_entities (by decide) (by decide) (by decide) (by decide)

theorem sound_new : new.Sound :=
  .of_entities (by decide) (by decide) (by decide) (by decide)

theorem distinct_old : old.DistinctConstraints := by
  decide

theorem distinct_new : new.DistinctConstraints := by
  decide

/-- The name of a customer keeps its type, however it is written. -/
theorem sameType_name :
    (Attribute.plain "name" "varchar(80)").sameType (.plain "name" "VARCHAR(80) ") = true := by
  have hold : normalizedType "varchar(80)" = "VARCHAR(80)" := by decide +kernel
  have hnew : normalizedType "VARCHAR(80) " = "VARCHAR(80)" := by decide +kernel
  exact (Attribute.sameType_iff _ _).mpr (hold.trans hnew.symm)

/-- Of the columns of customers only the key changes. -/
theorem columnChanges_customer {old new : Entity}
    (hold : old.attributes = [.identity, .plain "name" "varchar(80)"])
    (hnew : new.attributes =
      [{ Attribute.identity with type := "BIGINT" }, .plain "name" "VARCHAR(80) "])
    (hreferences : old.references = [] ∧ new.references = []) :
    TableDifference.columnChanges old new = [.modify { name := "id", type := "BIGINT" }] := by
  have hkey : attributeChange (some .identity) (some { Attribute.identity with type := "BIGINT" }) =
      [.modify { name := "id", type := "BIGINT" }] := by decide +kernel
  have hname : attributeChange (some (.plain "name" "varchar(80)"))
      (some (.plain "name" "VARCHAR(80) ")) = [] := if_pos sameType_name
  have hid : old.attributeOfColumn? "id" = some .identity := by
    rw [Entity.attributeOfColumn?, hold]
    rfl
  have hshort : old.attributeOfColumn? "name" = some (.plain "name" "varchar(80)") := by
    rw [Entity.attributeOfColumn?, hold]
    rfl
  have hkept : (old.attributes.filter fun x => (new.attributeOfColumn? x.column).isNone) = [] := by
    simp only [hold, Entity.attributeOfColumn?, hnew]
    rfl
  rw [TableDifference.columnChanges, TableDifference.changedReferences,
    TableDifference.changedReferences, hreferences.1, hreferences.2, hkept, hnew]
  simp only [List.flatMap_cons, List.flatMap_nil, List.filter_nil]
  change attributeChange (old.attributeOfColumn? "id") _ ++
    (attributeChange (old.attributeOfColumn? "name") _ ++ []) ++ [] = _
  rw [hid, hshort, hkey, hname]
  rfl

/-- The tables of the shop, in the order in which each step goes over them. -/
theorem tables_migrations :
    (old.migrations new).map (·.table) = ["coupon", "customer", "order", "invoice"] := by decide

/-- The shop is reorganised in ten statements. -/
theorem statements_planTo : (old.planTo new).statements =
    [("order", .dropForeignKey "order_customer"),
      ("coupon", .drop),
      ("invoice", .create [
        .column { name := "id", type := "INT", notNull := true, autoIncrement := true },
        .column { name := "order_id", type := "INT" }, .primaryKey ["id"]]),
      ("customer", .modify { name := "id", type := "BIGINT" }),
      ("order", .dropColumn "customer_id"),
      ("order", .dropColumn "note"),
      ("order", .add (.column { name := "customer_id", type := "INT" })),
      ("order", .add (.column { name := "buyer_id", type := "BIGINT" })),
      ("order", .add (.foreignKey {
        constraint := "order_customer", columns := ["buyer_id"], foreignTable := "customer",
        foreignColumns := ["id"], onDelete := .restrict, onUpdate := .restrict })),
      ("invoice", .add (.foreignKey {
        constraint := "invoice_order", columns := ["order_id"], foreignTable := "order",
        foreignColumns := ["id"], onDelete := .restrict, onUpdate := .restrict }))] := by
  have hcustomer : old.tableDifference new "customer" .changeColumns =
      [.modify { name := "id", type := "BIGINT" }] :=
    columnChanges_customer rfl rfl ⟨rfl, rfl⟩
  have hcolumns : old.stepStatements new .changeColumns =
      [("customer", .modify { name := "id", type := "BIGINT" }),
        ("order", .dropColumn "customer_id"),
        ("order", .dropColumn "note"),
        ("order", .add (.column { name := "customer_id", type := "INT" })),
        ("order", .add (.column { name := "buyer_id", type := "BIGINT" }))] := by
    rw [DataModel.stepStatements_eq sound_old.keyed sound_new.keyed, tables_migrations,
      List.flatMap_cons, List.flatMap_cons, hcustomer]
    decide +kernel
  rw [DataModel.statements_planTo, Step.all]
  simp only [List.flatMap_cons, List.flatMap_nil]
  rw [hcolumns]
  decide +kernel

end Shop

namespace DataModel

variable {a b : DataModel}

end DataModel

end Schemata
