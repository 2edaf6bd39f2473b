import Schemata.Proofs.Migration.Outcome

/-!
# Plans, table by table

A plan goes through its steps, each over all tables; the difference of a single table goes through
all steps at once.  Both say the same: what a plan holds about a table is the difference of its two
versions.  Only a new table is written in two ways, with its foreign keys inside or behind it.

* `sections_sorted`, `sections_nodup` - a plan is sorted by steps, with one section at most for each
  table and step;
* `sqlFor_planTo` - the SQL about a table is that of the difference of its two versions;
* `planTo_table_by_table` - the plan and the differences of single tables agree.
-/

namespace Schemata

namespace Mysql

/-- The text that makes a table out of the texts of its definitions. -/
def creationTemplate (definitions : List String) : String :=
  let body := String.intercalate ",\n    " definitions
  s!"CREATE TABLE {placeholder} (\n    {body}\n)"

/-- The text that adds to a table what a definition says. -/
def additionTemplate (definition : String) : String :=
  s!"ALTER TABLE {placeholder} ADD " ++ definition

/-- The template of a creation is written from the words of its definitions. -/
theorem template_create (definitions : List Definition) :
    template (.create definitions) = creationTemplate (definitions.map definition) := rfl

end Mysql

/-- A section is what happens to its table in its step, and something happens. -/
theorem TableMigration.section?_eq_some {t : TableMigration} {step : Step} {s : Section}
    (h : t.section? step = some s) :
    s.table = t.table ∧ s.step = step ∧ s.statements = t.difference step := by
  unfold section? at h
  split at h
  · cases h
  · cases h
    exact ⟨rfl, rfl, rfl⟩

/-- The sections of one step name no table twice. -/
theorem tables_sections_nodup {l : List TableMigration} (hnodup : (l.map (·.table)).Nodup)
    (step : Step) : ((l.filterMap (·.section? step)).map (·.table)).Nodup := by
  induction l with
  | nil => exact List.nodup_nil
  | cons first rest ih =>
    rw [List.map_cons, List.nodup_cons] at hnodup
    rw [List.filterMap_cons]
    split
    · exact ih hnodup.2
    · rename_i s hs
      rw [List.map_cons, List.nodup_cons]
      refine ⟨?_, ih hnodup.2⟩
      intro hmem
      obtain ⟨s', hs', heq⟩ := List.mem_map.mp hmem
      obtain ⟨t, ht, hst⟩ := List.mem_filterMap.mp hs'
      have htable := (TableMigration.section?_eq_some hs).1
      have htable' := (TableMigration.section?_eq_some hst).1
      exact hnodup.1 (htable.symm.trans (heq.symm.trans htable') ▸ List.mem_map_of_mem ht)

/-- The SQL about a table is that of the statements about it. -/
theorem Plan.sqlFor_eq (p : Plan) (table : String) :
    p.sqlFor table = (statementsOf table p.statements).map (Mysql.sql table) := by
  rw [Plan.sqlFor, Plan.statements]
  induction p.sections with
  | nil => rfl
  | cons s rest ih =>
    rw [List.flatMap_cons, statementsOf_append, List.map_append, ← ih, List.filter_cons]
    by_cases htable : s.table = table
    · subst htable
      rw [if_pos (beq_self_eq_true _), List.flatMap_cons, statementsOf_map_self]
      rfl
    · have hnone : statementsOf table (s.statements.map (s.table, ·)) = [] := by
        refine statementsOf_eq_nil fun x hx => ?_
        obtain ⟨_, _, rfl⟩ := List.mem_map.mp hx
        exact htable
      rw [if_neg (by simpa using htable), hnone]
      rfl

namespace DataModel

variable {a b : DataModel}

/-- The sections of a plan: in each step, those of all tables where something happens. -/
theorem sections_planTo (a b : DataModel) :
    (a.planTo b).sections =
      Step.all.flatMap fun step => (a.migrations b).filterMap (·.section? step) := rfl

/-- **A plan is sorted by steps.** -/
theorem sections_sorted (a b : DataModel) :
    (a.planTo b).sections.Pairwise fun s s' => s.step.rank ≤ s'.step.rank := by
  have hstep : ∀ step, ∀ s ∈ (a.migrations b).filterMap (·.section? step), s.step = step := by
    intro step s hs
    obtain ⟨t, _, hst⟩ := List.mem_filterMap.mp hs
    exact (TableMigration.section?_eq_some hst).2.1
  rw [sections_planTo, List.pairwise_flatMap]
  constructor
  · intro step _
    refine List.pairwise_of_forall_mem_list fun s hs s' hs' => ?_
    rw [hstep step s hs, hstep step s' hs']
  · refine Step.pairwise_all.imp fun {first later} hlt s hs s' hs' => ?_
    rw [hstep first s hs, hstep later s' hs']
    exact hlt.le

/-- **A plan has one section at most for each table and step.** -/
theorem sections_nodup (ha : a.Keyed) (hb : b.Keyed) :
    ((a.planTo b).sections.map fun s => (s.table, s.step)).Nodup := by
  rw [sections_planTo, List.map_flatMap, List.nodup_flatMap]
  constructor
  · intro step _
    have htables := tables_sections_nodup (tables_migrations_nodup ha hb) step
    refine List.Nodup.of_map Prod.fst ?_
    rw [List.map_map]
    exact htables
  · refine Step.pairwise_all.imp fun {first later} hlt pair hfirst hlater => ?_
    obtain ⟨s, hs, rfl⟩ := List.mem_map.mp hfirst
    obtain ⟨s', hs', heq⟩ := List.mem_map.mp hlater
    obtain ⟨_, _, hst⟩ := List.mem_filterMap.mp hs
    obtain ⟨_, _, hst'⟩ := List.mem_filterMap.mp hs'
    have hsame : s'.step = s.step := (Prod.mk.inj heq).2
    rw [(TableMigration.section?_eq_some hst).2.1, (TableMigration.section?_eq_some hst').2.1]
      at hsame
    rw [hsame] at hlt
    exact lt_irrefl _ hlt

/-- A section is about a table of one of the two models. -/
theorem table_of_mem_sections (ha : a.Keyed) (hb : b.Keyed) {s : Section}
    (hs : s ∈ (a.planTo b).sections) :
    a.ofTable? s.table ≠ none ∨ b.ofTable? s.table ≠ none := by
  by_contra hneither
  obtain ⟨hold, hnew⟩ := not_or.mp hneither
  obtain ⟨x, hx⟩ := List.exists_mem_of_ne_nil _ (statements_nonempty hs)
  have hmem : (s.table, x) ∈ (a.planTo b).statements :=
    List.mem_flatMap.mpr ⟨s, hs, List.mem_map_of_mem hx⟩
  have hchange := (mem_planTo_iff ha hb).mp hmem
  simp only [tableDifference, not_not.mp hold, not_not.mp hnew] at hchange
  cases hchange

/-- **The SQL about a table is that of the difference of its two versions.** -/
theorem sqlFor_planTo (ha : a.Keyed) (hb : b.Keyed) (table : String) :
    (a.planTo b).sqlFor table =
      ((a.tableDifference b table).statements.map Mysql.template).map
        (Mysql.bind (Mysql.quote table)) := by
  rw [Plan.sqlFor_eq, statementsOf_planTo ha hb, List.map_map]
  rfl

/-- The tables of a finished model are distinct, so distinct identities are all that it lacks. -/
theorem Finished.keyed {m : DataModel} (h : m.Finished) (hids : (m.entities.map (·.id)).Nodup) :
    m.Keyed :=
  ⟨h.tables_nodup, hids⟩

/-- What a new table is made of, its foreign keys apart, has no foreign key. -/
theorem foreignKey?_of_mem_definitions {e : Entity} {d : Definition} (hd : d ∈ e.definitions) :
    d.foreignKey? = none :=
  List.filterMap_eq_nil_iff.mp e.foreignKeys_definitions d hd

/-- **A new table and its foreign keys.**  The plan makes the table without foreign keys and adds
them one by one; the difference of the table alone has their clauses at the end of the table. -/
theorem created_two_ways (ha : a.Keyed) (hb : b.Keyed) {table : String} {new : Entity}
    (hold : a.ofTable? table = none) (hnew : b.ofTable? table = some new) :
    (a.planTo b).sqlFor table =
      (Mysql.creationTemplate (new.definitions.map Mysql.definition) ::
        (new.linkedReferences.map fun r => Mysql.foreignKeyClause r.foreignKey).map
          Mysql.additionTemplate).map (Mysql.bind (Mysql.quote table)) ∧
    (tableChange none (some new)).map Mysql.template =
      [Mysql.creationTemplate (new.definitions.map Mysql.definition ++
        new.linkedReferences.map fun r => Mysql.foreignKeyClause r.foreignKey)] := by
  constructor
  · have hchange : a.tableDifference b table = .created new := by
      simp only [tableDifference, hold, hnew]
    rw [sqlFor_planTo ha hb, hchange, TableDifference.statements_created, List.map_cons,
      List.map_map, List.map_map, List.map_map]
    rfl
  · have hkeys : new.foreignKeys.map Mysql.definition =
        new.linkedReferences.map fun r => Mysql.foreignKeyClause r.foreignKey := by
      rw [Entity.foreignKeys, List.map_map]
      rfl
    rw [tableChange, List.map_singleton, Entity.creation, Mysql.template_create, List.map_append,
      hkeys]

/-- **The plan and the differences of single tables agree.**  A plan is sorted by steps, with one
section at most for each table and step and none that is empty.  What it says about a table that
stays or goes away is the difference of this table alone.  A new table is made without foreign keys,
which are added one by one in order of declaration; the difference of the table alone has the same
clauses at the end of the table, behind the same definitions.  The plan is about no other table. -/
theorem planTo_table_by_table (hfa : a.Finished) (hfb : b.Finished)
    (hia : (a.entities.map (·.id)).Nodup) (hib : (b.entities.map (·.id)).Nodup) :
    ((a.planTo b).sections.Pairwise fun s s' => s.step.rank ≤ s'.step.rank) ∧
    ((a.planTo b).sections.map fun s => (s.table, s.step)).Nodup ∧
    (∀ s ∈ (a.planTo b).sections, s.statements ≠ []) ∧
    (∀ table old new, a.ofTable? table = some old → b.ofTable? table = some new →
      (a.planTo b).sqlFor table =
        ((tableChange (some old) (some new)).map Mysql.template).map
          (Mysql.bind (Mysql.quote table))) ∧
    (∀ table old, a.ofTable? table = some old → b.ofTable? table = none →
      (a.planTo b).sqlFor table =
        ((tableChange (some old) none).map Mysql.template).map
          (Mysql.bind (Mysql.quote table))) ∧
    (∀ table new, a.ofTable? table = none → b.ofTable? table = some new →
      ∃ (others : List Definition) (clauses : List String),
        (∀ d ∈ others, d.foreignKey? = none) ∧
        clauses = (new.references.filter (·.foreignTable?.isSome)).map
          (fun r => Mysql.foreignKeyClause r.foreignKey) ∧
        (a.planTo b).sqlFor table =
          (Mysql.creationTemplate (others.map Mysql.definition) ::
            clauses.map Mysql.additionTemplate).map (Mysql.bind (Mysql.quote table)) ∧
        (tableChange none (some new)).map Mysql.template =
          [Mysql.creationTemplate (others.map Mysql.definition ++ clauses)]) ∧
    (∀ s ∈ (a.planTo b).sections, a.ofTable? s.table ≠ none ∨ b.ofTable? s.table ≠ none) := by
  have ha := hfa.keyed hia
  have hb := hfb.keyed hib
  refine ⟨sections_sorted a b, sections_nodup ha hb, fun s hs => statements_nonempty hs, ?_, ?_, ?_,
    fun s hs => table_of_mem_sections ha hb hs⟩
  · intro table old new hold hnew
    have hchange : a.tableDifference b table = .altered old new := by
      simp only [tableDifference, hold, hnew]
    rw [sqlFor_planTo ha hb, hchange, tableChange]
  · intro table old hold hnew
    have hchange : a.tableDifference b table = .dropped := by
      simp only [tableDifference, hold, hnew]
    rw [sqlFor_planTo ha hb, hchange, tableChange]
  · intro table new hold hnew
    exact ⟨new.definitions, _, fun d hd => foreignKey?_of_mem_definitions hd, rfl,
      created_two_ways ha hb hold hnew⟩

/-- The reorganisation of the shop has seven sections; what it says about orders, which stay, is the
difference of orders alone. -/
theorem shop_table_by_table :
    Shop.old.Finished ∧ Shop.new.Finished ∧ (Shop.old.entities.map (·.id)).Nodup ∧
    (Shop.new.entities.map (·.id)).Nodup ∧ (Shop.old.planTo Shop.new).sections.length = 7 ∧
    ((Shop.old.planTo Shop.new).sections.map fun s => (s.table, s.step)).Nodup ∧
    (∀ old new, Shop.old.ofTable? "order" = some old → Shop.new.ofTable? "order" = some new →
      (Shop.old.planTo Shop.new).sqlFor "order" =
        ((tableChange (some old) (some new)).map Mysql.template).map
          (Mysql.bind (Mysql.quote "order"))) := by
  have hold := Shop.sound_old
  have hnew := Shop.sound_new
  obtain ⟨_, hnodup, _, hstays, _⟩ :=
    planTo_table_by_table hold.finished hnew.finished hold.distinctIds hnew.distinctIds
  exact ⟨hold.finished, hnew.finished, hold.distinctIds, hnew.distinctIds, by decide +kernel, hnodup,
    hstays "order"⟩

end DataModel

end Schemata
