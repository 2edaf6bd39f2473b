import Schemata.Proofs.Migration.Catalog
import Schemata.Proofs.Model.Placement
import Schemata.Proofs.Model.Sound

/-!
# The course of a plan

A plan can be read in two ways: step by step, each step over all tables, or table by table, each
table through all steps.  A statement says itself to which step it belongs, so that what comes
before it and what comes after it can be told from the statements alone.

* `statementsOf_planTo` - the statements about a table are those of the difference of its two
  versions;
* `pairwise_statements_planTo` - no statement of a later step comes before one of an earlier step.
-/

namespace Schemata

/-- The place of a step among the steps. -/
def Step.rank : Step → Nat
  | .dropForeignKeys => 0
  | .dropIndexes => 1
  | .dropTables => 2
  | .createTables => 3
  | .changeColumns => 4
  | .addForeignKeys => 5
  | .addIndexes => 6

/-- The steps are ranked in the order in which they are taken. -/
theorem Step.pairwise_all : Step.all.Pairwise fun first later => first.rank < later.rank := by
  decide

/-- The step to which a statement belongs. -/
def Statement.step : Statement → Step
  | .create _ => .createTables
  | .drop => .dropTables
  | .add (.column _) => .changeColumns
  | .add (.primaryKey _) => .changeColumns
  | .add (.index _) => .addIndexes
  | .add (.foreignKey _) => .addForeignKeys
  | .modify _ => .changeColumns
  | .dropColumn _ => .changeColumns
  | .dropForeignKey _ => .dropForeignKeys
  | .dropIndex _ => .dropIndexes

/-- What changes an attribute belongs to the step in which columns change. -/
theorem step_of_mem_attributeChange {old new : Option Attribute} {s : Statement}
    (h : s ∈ attributeChange old new) : s.step = .changeColumns := by
  unfold attributeChange at h
  split at h
  · cases h
  · rw [List.mem_singleton.mp h]
    rfl
  · rw [List.mem_singleton.mp h]
    rfl
  · split at h
    · cases h
    · rw [List.mem_singleton.mp h]
      rfl

/-- The columns of a reference come in the step in which columns change. -/
theorem Reference.step_of_mem_addColumns {r : Reference} {s : Statement}
    (h : s ∈ r.addColumns) : s.step = .changeColumns := by
  obtain ⟨c, _, rfl⟩ := List.mem_map.mp h
  rfl

/-- The columns of a reference go in the step in which columns change. -/
theorem Reference.step_of_mem_dropColumns {r : Reference} {s : Statement}
    (h : s ∈ r.dropColumns) : s.step = .changeColumns := by
  obtain ⟨c, _, rfl⟩ := List.mem_map.mp h
  rfl

namespace TableDifference

/-- What changes columns belongs to the step of that name. -/
theorem step_of_mem_columnChanges {old new : Entity} {s : Statement}
    (h : s ∈ columnChanges old new) : s.step = .changeColumns := by
  simp only [columnChanges, List.mem_append, List.mem_flatMap] at h
  rcases h with ((⟨r, _, hs⟩ | ⟨a, _, hs⟩) | ⟨a, _, hs⟩) | ⟨r, _, hs⟩
  · exact r.step_of_mem_dropColumns hs
  · exact step_of_mem_attributeChange hs
  · exact step_of_mem_attributeChange hs
  · exact r.step_of_mem_addColumns hs

/-- What happens to a table in a step are statements that belong to the step. -/
theorem step_of_mem_altered {old new : Entity} {step : Step} {s : Statement}
    (h : s ∈ altered old new step) : s.step = step := by
  cases step with
  | dropForeignKeys =>
    obtain ⟨r, _, rfl⟩ := List.mem_map.mp h
    rfl
  | dropIndexes =>
    obtain ⟨i, _, hs⟩ := List.mem_flatMap.mp h
    rw [List.mem_singleton.mp hs]
    rfl
  | dropTables => cases h
  | createTables => cases h
  | changeColumns => exact step_of_mem_columnChanges h
  | addForeignKeys =>
    obtain ⟨r, _, rfl⟩ := List.mem_map.mp h
    rfl
  | addIndexes =>
    obtain ⟨i, _, hs⟩ := List.mem_flatMap.mp h
    rw [List.mem_singleton.mp hs]
    rfl

/-- What is said about a new table in a step belongs to the step. -/
theorem step_of_mem_created {new : Entity} {step : Step} {s : Statement}
    (h : s ∈ created new step) : s.step = step := by
  cases step with
  | createTables =>
    rw [List.mem_singleton.mp h]
    rfl
  | addForeignKeys =>
    obtain ⟨r, _, rfl⟩ := List.mem_map.mp h
    rfl
  | _ => cases h

/-- What is said about a table that goes in a step belongs to the step. -/
theorem step_of_mem_dropped {step : Step} {s : Statement} (h : s ∈ dropped step) :
    s.step = step := by
  cases step with
  | dropTables =>
    rw [List.mem_singleton.mp h]
    rfl
  | _ => cases h

end TableDifference

/-- Among the changes of different tables, those of one table are found at its place. -/
theorem statementsOf_flatMap {l : List TableMigration} (hnodup : (l.map (·.table)).Nodup)
    (step : Step) {t : TableMigration} (ht : t ∈ l) :
    statementsOf t.table (l.flatMap fun u => (u.difference step).map (u.table, ·)) =
      t.difference step := by
  induction l with
  | nil => cases ht
  | cons first rest ih =>
    rw [List.map_cons, List.nodup_cons] at hnodup
    rw [List.flatMap_cons, statementsOf_append]
    rcases List.mem_cons.mp ht with rfl | hrest
    · rw [statementsOf_map_self, statementsOf_eq_nil, List.append_nil]
      intro s hs heq
      obtain ⟨u, hu, hsu⟩ := List.mem_flatMap.mp hs
      obtain ⟨_, _, rfl⟩ := List.mem_map.mp hsu
      exact hnodup.1 (heq ▸ List.mem_map_of_mem hu)
    · rw [statementsOf_eq_nil, List.nil_append, ih hnodup.2 hrest]
      intro s hs heq
      obtain ⟨_, _, rfl⟩ := List.mem_map.mp hs
      have hsame : first.table = t.table := heq
      exact hnodup.1 (hsame ▸ List.mem_map_of_mem hrest)

namespace DataModel

/-- What happens to the table of a name on the way from one model to another. -/
def tableDifference (a b : DataModel) (table : String) : TableDifference :=
  match a.ofTable? table, b.ofTable? table with
  | none, none => fun _ => []
  | none, some new => .created new
  | some _, none => .dropped
  | some old, some new => .altered old new

/-- What happens to a table, by what the two models know of it. -/
theorem mem_tableDifference {a b : DataModel} {table : String} {step : Step} {s : Statement} :
    s ∈ a.tableDifference b table step ↔
      (∃ new, a.ofTable? table = none ∧ b.ofTable? table = some new ∧
        s ∈ TableDifference.created new step) ∨
      (∃ old, a.ofTable? table = some old ∧ b.ofTable? table = none ∧
        s ∈ TableDifference.dropped step) ∨
      (∃ old new, a.ofTable? table = some old ∧ b.ofTable? table = some new ∧
        s ∈ TableDifference.altered old new step) := by
  cases hold : a.ofTable? table with
  | none => cases hnew : b.ofTable? table <;> simp [tableDifference, hold, hnew]
  | some old => cases hnew : b.ofTable? table <;> simp [tableDifference, hold, hnew]

/-- What becomes of the tables of both models, in the order in which each step goes over them. -/
def migrations (a b : DataModel) : List TableMigration := a.droppedTables b ++ a.keptTables b

/-- What happens to all tables in one step. -/
def stepStatements (a b : DataModel) (step : Step) : List (String × Statement) :=
  (a.migrations b).flatMap fun t => (t.difference step).map (t.table, ·)

/-- Whatever happens to a table in a step belongs to the step. -/
theorem step_of_mem_tableDifference {a b : DataModel} {table : String} {step : Step}
    {s : Statement} (h : s ∈ a.tableDifference b table step) : s.step = step := by
  rcases mem_tableDifference.mp h with ⟨_, _, _, hs⟩ | ⟨_, _, _, hs⟩ | ⟨_, _, _, _, hs⟩
  · exact TableDifference.step_of_mem_created hs
  · exact TableDifference.step_of_mem_dropped hs
  · exact TableDifference.step_of_mem_altered hs

/-- A plan is its steps, one after the other. -/
theorem statements_planTo (a b : DataModel) :
    (a.planTo b).statements = Step.all.flatMap (a.stepStatements b) := by
  simp only [Plan.statements, planTo, List.flatMap_assoc]
  refine List.flatMap_congr fun step _ => ?_
  rw [stepStatements, migrations]
  induction a.droppedTables b ++ a.keptTables b with
  | nil => rfl
  | cons t rest ih =>
    rw [List.flatMap_cons, ← ih, List.filterMap_cons]
    cases hnone : t.difference step with
    | nil => simp [TableMigration.section?, hnone]
    | cons s more => simp [TableMigration.section?, hnone]

section

variable {a b : DataModel}

/-- Every table changes as its two versions say. -/
theorem difference_of_mem (ha : a.Keyed) (hb : b.Keyed) {t : TableMigration}
    (ht : t ∈ a.migrations b) : t.difference = a.tableDifference b t.table := by
  rcases List.mem_append.mp ht with hdropped | hkept
  · have hnew := ofTable?_of_mem_droppedTables hdropped
    obtain ⟨e, he, rfl⟩ := List.mem_map.mp hdropped
    have hmem := mem_of_mem_dependencyOrder (List.mem_reverse.mp (List.mem_filter.mp he).1)
    simp only [tableDifference, ha.ofTable?_eq_some hmem, hnew]
  · obtain ⟨e, he, rfl⟩ := List.mem_map.mp hkept
    have hmem := mem_of_mem_dependencyOrder he
    cases hold : a.ofTable? e.table with
    | none => simp only [tableDifference, hold, hb.ofTable?_eq_some hmem]
    | some old => simp only [tableDifference, hold, hb.ofTable?_eq_some hmem]

/-- A step goes over the tables of both models and does to each what its two versions say. -/
theorem stepStatements_eq (ha : a.Keyed) (hb : b.Keyed) (step : Step) :
    a.stepStatements b step = ((a.migrations b).map (·.table)).flatMap fun table =>
      (a.tableDifference b table step).map (table, ·) := by
  rw [stepStatements, List.flatMap_map]
  exact List.flatMap_congr fun t ht => by rw [difference_of_mem ha hb ht]

/-- No table is gone over twice. -/
theorem tables_migrations_nodup (ha : a.Keyed) (hb : b.Keyed) :
    ((a.migrations b).map (·.table)).Nodup := by
  have hdropped : ((a.droppedTables b).map (·.table)).Nodup := by
    rw [droppedTables, List.map_map]
    have horder : (a.dependencyOrder.reverse.map (·.table)).Nodup := by
      rw [List.map_reverse, List.nodup_reverse]
      exact ((dependencyOrder_perm ha.ids).map _).nodup_iff.mpr ha.tables
    exact horder.sublist (List.filter_sublist.map _)
  have hkept : ((a.keptTables b).map (·.table)).Nodup := by
    rw [tables_keptTables]
    exact ((dependencyOrder_perm hb.ids).map _).nodup_iff.mpr hb.tables
  rw [migrations, List.map_append]
  refine List.nodup_append.mpr ⟨hdropped, hkept, ?_⟩
  intro table hgone other hthere heq
  subst heq
  obtain ⟨t, ht, rfl⟩ := List.mem_map.mp hgone
  have hnone := ofTable?_of_mem_droppedTables ht
  rw [tables_keptTables] at hthere
  obtain ⟨e, he, heq⟩ := List.mem_map.mp hthere
  rw [← heq, hb.ofTable?_eq_some (mem_of_mem_dependencyOrder he)] at hnone
  cases hnone

/-- A table that no step goes over is in neither model. -/
theorem tableDifference_of_not_mem (ha : a.Keyed) (hb : b.Keyed) {table : String}
    (h : table ∉ (a.migrations b).map (·.table)) (step : Step) :
    a.tableDifference b table step = [] := by
  rw [migrations, List.map_append, List.mem_append, not_or, tables_keptTables] at h
  have hnew : b.ofTable? table = none := by
    by_contra hsome
    obtain ⟨e, he⟩ := Option.ne_none_iff_exists'.mp hsome
    obtain ⟨hmem, rfl⟩ := mem_of_ofTable? he
    exact h.2 (List.mem_map_of_mem ((dependencyOrder_perm hb.ids).mem_iff.mpr hmem))
  have hold : a.ofTable? table = none := by
    by_contra hsome
    obtain ⟨e, he⟩ := Option.ne_none_iff_exists'.mp hsome
    obtain ⟨hmem, rfl⟩ := mem_of_ofTable? he
    refine h.1 (List.mem_map.mpr ⟨_, List.mem_map_of_mem (List.mem_filter.mpr ⟨?_, ?_⟩), rfl⟩)
    · exact List.mem_reverse.mpr ((dependencyOrder_perm ha.ids).mem_iff.mpr hmem)
    · exact Option.isNone_iff_eq_none.mpr hnew
  simp only [tableDifference, hold, hnew]

/-- A step says of each table what its difference is in that step. -/
theorem statementsOf_stepStatements (ha : a.Keyed) (hb : b.Keyed) (step : Step)
    (table : String) :
    statementsOf table (a.stepStatements b step) = a.tableDifference b table step := by
  by_cases hmem : table ∈ (a.migrations b).map (·.table)
  · obtain ⟨t, ht, rfl⟩ := List.mem_map.mp hmem
    rw [stepStatements, statementsOf_flatMap (tables_migrations_nodup ha hb) step ht,
      difference_of_mem ha hb ht]
  · rw [tableDifference_of_not_mem ha hb hmem step, stepStatements, statementsOf_eq_nil]
    intro s hs heq
    obtain ⟨t, ht, hst⟩ := List.mem_flatMap.mp hs
    obtain ⟨_, _, rfl⟩ := List.mem_map.mp hst
    exact hmem (heq ▸ List.mem_map_of_mem ht)

/-- **The statements about a table are those of the difference of its two versions.** -/
theorem statementsOf_planTo (ha : a.Keyed) (hb : b.Keyed) (table : String) :
    statementsOf table (a.planTo b).statements = (a.tableDifference b table).statements := by
  rw [statements_planTo, TableDifference.statements]
  induction Step.all with
  | nil => rfl
  | cons step rest ih =>
    rw [List.flatMap_cons, statementsOf_append, statementsOf_stepStatements ha hb, ih,
      List.flatMap_cons]

/-- A statement is in the plan exactly if the difference of its table has it in its step. -/
theorem mem_planTo_iff (ha : a.Keyed) (hb : b.Keyed) {table : String} {s : Statement} :
    (table, s) ∈ (a.planTo b).statements ↔ s ∈ a.tableDifference b table s.step := by
  rw [← mem_statementsOf, statementsOf_planTo ha hb, TableDifference.statements, List.mem_flatMap]
  constructor
  · rintro ⟨step, _, hs⟩
    exact step_of_mem_tableDifference hs ▸ hs
  · intro hs
    exact ⟨s.step, by cases s.step <;> decide, hs⟩

/-- The plan says of a table that stays what alters the old version into the new one. -/
theorem mem_planTo_of_altered (ha : a.Keyed) (hb : b.Keyed) {table : String} {old new : Entity}
    (hold : a.ofTable? table = some old) (hnew : b.ofTable? table = some new) {s : Statement} :
    (table, s) ∈ (a.planTo b).statements ↔ s ∈ TableDifference.altered old new s.step := by
  rw [mem_planTo_iff ha hb]
  simp only [tableDifference, hold, hnew]

/-- **No statement of a later step comes before one of an earlier step.** -/
theorem pairwise_statements_planTo (ha : a.Keyed) (hb : b.Keyed) :
    (a.planTo b).statements.Pairwise fun s s' => s.2.step.rank ≤ s'.2.step.rank := by
  have hstep : ∀ step, ∀ s ∈ a.stepStatements b step, s.2.step = step := by
    intro step s hs
    have hmem : s.2 ∈ statementsOf s.1 (a.stepStatements b step) := mem_statementsOf.mpr hs
    rw [statementsOf_stepStatements ha hb] at hmem
    exact step_of_mem_tableDifference hmem
  rw [statements_planTo, List.flatMap_def]
  refine List.pairwise_flatten.mpr ⟨?_, ?_⟩
  · intro statements hstatements
    obtain ⟨step, _, rfl⟩ := List.mem_map.mp hstatements
    refine List.pairwise_of_forall_mem_list fun s hs s' hs' => ?_
    rw [hstep step s hs, hstep step s' hs']
  · refine List.pairwise_map.mpr (Step.pairwise_all.imp fun {first later} hlt s hs s' hs' => ?_)
    rw [hstep first s hs, hstep later s' hs']
    exact hlt.le

variable {before later : List (String × Statement)} {s x : String × Statement}

/-- A statement at which a plan is split is in the plan. -/
theorem mem_of_split (hplan : (a.planTo b).statements = before ++ s :: later) :
    s ∈ (a.planTo b).statements :=
  hplan ▸ List.mem_append_right _ List.mem_cons_self

/-- What belongs to an earlier step than a statement has come before it. -/
theorem mem_before (ha : a.Keyed) (hb : b.Keyed)
    (hplan : (a.planTo b).statements = before ++ s :: later) (hx : x ∈ (a.planTo b).statements)
    (hlt : x.2.step.rank < s.2.step.rank) : x ∈ before := by
  have hsorted := pairwise_statements_planTo ha hb
  rw [hplan] at hsorted hx
  rcases List.mem_append.mp hx with hx | hx
  · exact hx
  · rcases List.mem_cons.mp hx with rfl | hx
    · omega
    · have hle := (List.pairwise_cons.mp (List.pairwise_append.mp hsorted).2.1).1 x hx
      omega

/-- Whatever comes before a statement is of no later step. -/
theorem rank_le_of_mem_before (ha : a.Keyed) (hb : b.Keyed)
    (hplan : (a.planTo b).statements = before ++ s :: later) (hx : x ∈ before) :
    x.2.step.rank ≤ s.2.step.rank := by
  have hsorted := pairwise_statements_planTo ha hb
  rw [hplan] at hsorted
  exact (List.pairwise_append.mp hsorted).2.2 x hx s List.mem_cons_self

/-- What is still to come after a statement belongs to no earlier step. -/
theorem rank_le_of_mem_later (ha : a.Keyed) (hb : b.Keyed)
    (hplan : (a.planTo b).statements = before ++ s :: later) (hx : x ∈ later) :
    s.2.step.rank ≤ x.2.step.rank := by
  have hsorted := pairwise_statements_planTo ha hb
  rw [hplan] at hsorted
  exact (List.pairwise_cons.mp (List.pairwise_append.mp hsorted).2.1).1 x hx

/-- Whatever is of a later step comes behind. -/
theorem mem_later (ha : a.Keyed) (hb : b.Keyed)
    (hplan : (a.planTo b).statements = before ++ s :: later) (hx : x ∈ (a.planTo b).statements)
    (hlt : s.2.step.rank < x.2.step.rank) : x ∈ later := by
  rw [hplan] at hx
  rcases List.mem_append.mp hx with hx | hx
  · have hle := rank_le_of_mem_before ha hb hplan hx
    omega
  · rcases List.mem_cons.mp hx with rfl | hx
    · omega
    · exact hx

end

end DataModel

end Schemata
