import Schemata.Migration.Difference
import Schemata.Migration.Mysql
import Schemata.Model.DependencyOrder

/-!
# Migration plans

A plan turns one model into another.  Tables are matched by name.  Tables that go away come first,
in reverse dependency order, then those of the new model in dependency order; each step of the
migration runs over all of them before the next step begins.

* `statements_nonempty` - no section of a plan is empty;
* `ofTable?_of_mem_droppedTables` - what the new model holds is not dropped;
* `tables_keptTables` - every table of the new model is kept or created, in dependency order.
-/

namespace Schemata

/-- What becomes of a table. -/
inductive TableChange where
  | create
  | alter
  | drop
  deriving DecidableEq, Repr

/-- The word for a change. -/
def TableChange.word : TableChange → String
  | .create => "create"
  | .alter => "alter"
  | .drop => "drop"

/-- What happens to one table in one step. -/
structure Section where
  table : String
  change : TableChange
  step : Step
  statements : List Statement
  deriving DecidableEq, Repr

/-- The statements of a section in SQL. -/
def Section.sql (s : Section) : List String := s.statements.map (Mysql.sql s.table)

/-- A section as part of a script: a comment, then a statement a line, then a blank line. -/
def Section.script (s : Section) : String :=
  let change := s.change.word
  let table := s.table
  s!"-- {change} {table}\n" ++ String.join (s.sql.map (· ++ ";\n")) ++ "\n"

/-- The way from one model to another. -/
structure Plan where
  sections : List Section := []
  deriving DecidableEq, Repr

namespace Plan

/-- Nothing happens. -/
def isEmpty (p : Plan) : Bool := p.sections.isEmpty

/-- Every statement with its table, in order. -/
def statements (p : Plan) : List (String × Statement) :=
  p.sections.flatMap fun s => s.statements.map (s.table, ·)

/-- How many statements there are. -/
def statementCount (p : Plan) : Nat :=
  (p.sections.map (·.statements.length)).foldr (· + ·) 0

/-- How many tables are touched. -/
def tableCount (p : Plan) : Nat := (p.sections.map (·.table)).eraseDups.length

/-- The first section about a table. -/
def sectionOf? (p : Plan) (table : String) : Option Section :=
  p.sections.find? (·.table == table)

/-- The SQL of everything that happens to a table. -/
def sqlFor (p : Plan) (table : String) : List String :=
  (p.sections.filter (·.table == table)).flatMap (·.sql)

/-- The SQL of the plan. -/
def sql (p : Plan) : List String := p.sections.flatMap (·.sql)

/-- The plan as a script. -/
def script (p : Plan) : String := String.join (p.sections.map (·.script))

end Plan

/-- A table with what becomes of it. -/
structure TableMigration where
  table : String
  change : TableChange
  difference : TableDifference

/-- The section of a table in a step, unless nothing happens there. -/
def TableMigration.section? (t : TableMigration) (step : Step) : Option Section :=
  match t.difference step with
  | [] => none
  | statements => some { table := t.table, change := t.change, step, statements }

namespace DataModel

/-- The tables of `a` that `b` lacks, each behind the tables that point at it. -/
def droppedTables (a b : DataModel) : List TableMigration :=
  (a.dependencyOrder.reverse.filter fun e => (b.ofTable? e.table).isNone).map fun e =>
    { table := e.table, change := .drop, difference := .dropped }

/-- The tables of `b` as they come out of those of `a`, in dependency order. -/
def keptTables (a b : DataModel) : List TableMigration :=
  b.dependencyOrder.map fun e =>
    match a.ofTable? e.table with
    | none => { table := e.table, change := .create, difference := .created e }
    | some old => { table := e.table, change := .alter, difference := .altered old e }

/-- **The way from one model to another.** -/
def planTo (a b : DataModel) : Plan :=
  let tables := a.droppedTables b ++ a.keptTables b
  { sections := Step.all.flatMap fun step => tables.filterMap (·.section? step) }

/-- No section of a plan is empty. -/
theorem statements_nonempty {a b : DataModel} {s : Section} (h : s ∈ (a.planTo b).sections) :
    s.statements ≠ [] := by
  simp only [planTo, List.mem_flatMap, List.mem_filterMap] at h
  obtain ⟨step, _, t, _, hs⟩ := h
  unfold TableMigration.section? at hs
  split at hs
  · cases hs
  · rename_i statements hne
    cases hs
    exact hne

/-- What the new model holds is not dropped. -/
theorem ofTable?_of_mem_droppedTables {a b : DataModel} {t : TableMigration}
    (h : t ∈ a.droppedTables b) : b.ofTable? t.table = none := by
  obtain ⟨e, he, rfl⟩ := List.mem_map.1 h
  exact Option.isNone_iff_eq_none.1 (List.mem_filter.1 he).2

/-- Every table of the new model is kept or created, in dependency order. -/
theorem tables_keptTables (a b : DataModel) :
    (a.keptTables b).map (·.table) = b.dependencyOrder.map (·.table) := by
  simp only [keptTables, List.map_map]
  refine List.map_congr_left fun e _ => ?_
  simp only [Function.comp_apply]
  split <;> rfl

end DataModel

end Schemata
