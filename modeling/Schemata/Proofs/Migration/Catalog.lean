import Mathlib.Data.List.Nodup
import Schemata.Migration.Plan

/-!
# What statements do to a database

A catalog holds the tables of a database, each with its columns and its foreign keys.  A statement
changes the table that it is about; statements about other tables leave it alone, and within a table
a column changes by the statements that name it.  A statement that the database would refuse has an
effect here all the same: `Catalog.Takes` says when it is not refused.

* `Catalog.run_apply` - a table changes by its own statements only;
* `Table.columns_alterAll_flatMap` - groups of statements about different columns do not meet;
* `Table.key_of_run` - a foreign key that nothing brought was there from the start.
-/

namespace Schemata

/-- A table of a database. -/
structure Table where
  columns : String → Option ColumnDefinition
  foreignKeys : List ForeignKey

/-- The column that is defined, if it is one. -/
def Definition.column? : Definition → Option ColumnDefinition
  | .column c => some c
  | _ => none

def Definition.foreignKey? : Definition → Option ForeignKey
  | .foreignKey key => some key
  | _ => none

/-- The index that is defined, if it is one. -/
def Definition.index? : Definition → Option Index
  | .index i => some i
  | _ => none

namespace Statement

/-- What the statement makes of the column of a name. -/
def onColumn (name : String) (old : Option ColumnDefinition) : Statement → Option ColumnDefinition
  | .add (.column c) => if c.name = name then some c else old
  | .modify c => if c.name = name then old.map fun _ => c else old
  | .dropColumn dropped => if dropped = name then none else old
  | _ => old

/-- What the statement makes of the foreign keys. -/
def onForeignKeys (old : List ForeignKey) : Statement → List ForeignKey
  | .add (.foreignKey key) => old ++ [key]
  | .dropForeignKey constraint => old.filter (·.constraint != constraint)
  | _ => old

/-- The statement changes a table and neither makes nor ends it. -/
def alters : Statement → Bool
  | .create _ => false
  | .drop => false
  | _ => true

/-- The column that the statement names, if it is about a column. -/
def column? : Statement → Option String
  | .add (.column c) => some c.name
  | .modify c => some c.name
  | .dropColumn name => some name
  | _ => none

/-- The constraint that the statement names, if it is about a foreign key. -/
def constraint? : Statement → Option String
  | .add (.foreignKey key) => some key.constraint
  | .dropForeignKey constraint => some constraint
  | _ => none

/-- A statement that names no constraint leaves all foreign keys. -/
theorem onForeignKeys_of_none {s : Statement} (h : s.constraint? = none) (old : List ForeignKey) :
    s.onForeignKeys old = old := by
  unfold onForeignKeys
  split <;> simp_all [constraint?]

/-- A foreign key that a statement does not add was there before. -/
theorem mem_of_mem_onForeignKeys {s : Statement} {old : List ForeignKey} {key : ForeignKey}
    (h : key ∈ s.onForeignKeys old) (hadd : s ≠ .add (.foreignKey key)) :
    key ∈ old ∧ s ≠ .dropForeignKey key.constraint := by
  unfold onForeignKeys at h
  split at h
  · rename_i added
    rcases List.mem_append.mp h with hold | hnew
    · exact ⟨hold, by simp⟩
    · exact absurd (List.mem_singleton.mp hnew ▸ rfl) hadd
  · rename_i constraint
    have hkept := List.mem_filter.mp h
    refine ⟨hkept.1, fun heq => ?_⟩
    have hne : key.constraint ≠ constraint := by simpa using hkept.2
    exact hne (Statement.dropForeignKey.inj heq).symm
  · rename_i hother
    exact ⟨h, fun heq => hother _ heq⟩

/-- A statement leaves every column that it does not name. -/
theorem onColumn_of_ne {s : Statement} {name : String} (h : s.column? ≠ some name)
    (old : Option ColumnDefinition) : s.onColumn name old = old := by
  unfold onColumn
  split <;> simp_all [column?]

end Statement

namespace Table

/-- The table that definitions make. -/
def ofDefinitions (definitions : List Definition) : Table :=
  { columns := fun name => (definitions.filterMap (·.column?)).find? (·.name == name)
    foreignKeys := definitions.filterMap (·.foreignKey?) }

/-- The foreign keys of a new table are those among its definitions. -/
theorem mem_foreignKeys_ofDefinitions {definitions : List Definition} {key : ForeignKey} :
    key ∈ (ofDefinitions definitions).foreignKeys ↔ .foreignKey key ∈ definitions := by
  rw [ofDefinitions, List.mem_filterMap]
  constructor
  · rintro ⟨definition, hmem, hkey⟩
    cases definition with
    | foreignKey found => exact Option.some.inj hkey ▸ hmem
    | _ => cases hkey
  · intro hmem
    exact ⟨_, hmem, rfl⟩

/-- The table of an entity, with its foreign keys. -/
def ofEntity (e : Entity) : Table := ofDefinitions (e.definitions ++ e.foreignKeys)

/-- The table after one change. -/
def alter (t : Table) (s : Statement) : Table :=
  { columns := fun name => s.onColumn name (t.columns name)
    foreignKeys := s.onForeignKeys t.foreignKeys }

/-- What becomes of a table, or of its absence. -/
def after (t : Option Table) : Statement → Option Table
  | .create definitions => some (ofDefinitions definitions)
  | .drop => none
  | s => t.map (·.alter s)

/-- What becomes of a table in the end. -/
def run (t : Option Table) (statements : List Statement) : Option Table :=
  statements.foldl after t

/-- The table after changes. -/
def alterAll (t : Table) (statements : List Statement) : Table := statements.foldl alter t

/-- What the statement is about is there, and what it brings is not. -/
def Admits (t : Table) : Statement → Prop
  | .add (.column c) => t.columns c.name = none
  | .add (.foreignKey key) => ∀ other ∈ t.foreignKeys, other.constraint ≠ key.constraint
  | .modify c => (t.columns c.name).isSome
  | .dropColumn name => (t.columns name).isSome
  | .dropForeignKey constraint => ∃ key ∈ t.foreignKeys, key.constraint = constraint
  | _ => True

/-- The database does not refuse the statement: a new table is not there, any other is, and the
table admits the change. -/
def Takes (t : Option Table) : Statement → Prop
  | .create _ => t = none
  | .drop => t.isSome
  | s => ∃ table, t = some table ∧ table.Admits s

/-- The table admits the changes one after the other. -/
def AdmitsAll (t : Table) : List Statement → Prop
  | [] => True
  | s :: rest => t.Admits s ∧ (t.alter s).AdmitsAll rest

/-- The database refuses none of the statements. -/
def TakesAll (t : Option Table) : List Statement → Prop
  | [] => True
  | s :: rest => Takes t s ∧ TakesAll (after t s) rest

section

variable {t : Table}

@[simp] theorem alterAll_nil : t.alterAll [] = t := rfl

@[simp] theorem alterAll_cons (s : Statement) (rest : List Statement) :
    t.alterAll (s :: rest) = (t.alter s).alterAll rest := rfl

/-- Changes are made one after the other. -/
theorem alterAll_append (first later : List Statement) :
    t.alterAll (first ++ later) = (t.alterAll first).alterAll later :=
  List.foldl_append

/-- Changes are admitted one after the other, each by what those before it left. -/
theorem admitsAll_append (first later : List Statement) :
    t.AdmitsAll (first ++ later) ↔ t.AdmitsAll first ∧ (t.alterAll first).AdmitsAll later := by
  induction first generalizing t with
  | nil => simp [AdmitsAll]
  | cons s rest ih => simp [AdmitsAll, ih, and_assoc]

/-- Statements are executed one after the other. -/
theorem run_append (state : Option Table) (first later : List Statement) :
    run state (first ++ later) = run (run state first) later :=
  List.foldl_append

/-- A statement that alters does nothing where there is no table. -/
theorem after_of_alters {s : Statement} (h : s.alters = true) (state : Option Table) :
    after state s = state.map (·.alter s) := by
  cases s <;> first | rfl | cases h

/-- A statement that alters needs a table that admits it. -/
theorem takes_of_alters {s : Statement} (h : s.alters = true) (state : Option Table) :
    Takes state s ↔ ∃ table, state = some table ∧ table.Admits s := by
  cases s <;> first | rfl | cases h

/-- Changes alone leave a table in being. -/
theorem run_of_alters {statements : List Statement} (h : ∀ s ∈ statements, s.alters = true) :
    run (some t) statements = some (t.alterAll statements) := by
  induction statements generalizing t with
  | nil => rfl
  | cons s rest ih =>
    have hfirst := h s List.mem_cons_self
    have hrest := ih (t := t.alter s) fun s' hs' => h s' (List.mem_cons_of_mem s hs')
    rw [run, List.foldl_cons, after_of_alters hfirst]
    exact hrest

/-- Statements that alter bring no table about. -/
theorem run_none_of_alters {statements : List Statement}
    (h : ∀ s ∈ statements, s.alters = true) : run none statements = none := by
  induction statements with
  | nil => rfl
  | cons s rest ih =>
    rw [run, List.foldl_cons, after_of_alters (h s List.mem_cons_self)]
    exact ih fun s' hs' => h s' (List.mem_cons_of_mem s hs')

/-- A table takes statements that alter it if it admits them. -/
theorem takesAll_of_alters {statements : List Statement} (h : ∀ s ∈ statements, s.alters = true) :
    TakesAll (some t) statements ↔ t.AdmitsAll statements := by
  induction statements generalizing t with
  | nil => exact Iff.rfl
  | cons s rest ih =>
    have hfirst := h s List.mem_cons_self
    have hrest := ih (t := t.alter s) fun s' hs' => h s' (List.mem_cons_of_mem s hs')
    simp only [TakesAll, AdmitsAll, takes_of_alters hfirst, after_of_alters hfirst,
      Option.map_some, hrest, Option.some.injEq, exists_eq_left']

/-- What becomes of a column is up to that column. -/
theorem columns_alterAll_congr {other : Table} {name : String}
    (heq : t.columns name = other.columns name) (statements : List Statement) :
    (t.alterAll statements).columns name = (other.alterAll statements).columns name := by
  induction statements generalizing t other with
  | nil => exact heq
  | cons s rest ih => exact ih (congrArg (fun old => s.onColumn name old) heq)

/-- A column is left alone by statements that do not name it. -/
theorem columns_alterAll_of_ne {statements : List Statement} {name : String}
    (h : ∀ s ∈ statements, s.column? ≠ some name) :
    (t.alterAll statements).columns name = t.columns name := by
  induction statements generalizing t with
  | nil => rfl
  | cons s rest ih =>
    rw [alterAll_cons, ih fun s' hs' => h s' (List.mem_cons_of_mem s hs')]
    exact Statement.onColumn_of_ne (h s List.mem_cons_self) _

/-- What a statement about a column needs is up to that column. -/
theorem admits_congr {other : Table} {s : Statement} {name : String} (hs : s.column? = some name)
    (heq : t.columns name = other.columns name) : t.Admits s ↔ other.Admits s := by
  unfold Statement.column? at hs
  split at hs
  all_goals
    simp only [Option.some.injEq, reduceCtorEq] at hs
    try subst hs
    try simp only [Admits, heq]

/-- Whether changes of one column are admitted depends on that column alone. -/
theorem admitsAll_congr {other : Table} {statements : List Statement} {name : String}
    (hs : ∀ s ∈ statements, s.column? = some name) (heq : t.columns name = other.columns name) :
    t.AdmitsAll statements ↔ other.AdmitsAll statements := by
  induction statements generalizing t other with
  | nil => exact Iff.rfl
  | cons s rest ih =>
    have hnext : (t.alter s).columns name = (other.alter s).columns name :=
      congrArg (fun old => s.onColumn name old) heq
    exact and_congr (admits_congr (hs s List.mem_cons_self) heq)
      (ih (fun s' hs' => hs s' (List.mem_cons_of_mem s hs')) hnext)

section

variable {α : Type} {l : List α} {key : α → String} {g : α → List Statement}

/-- Groups of statements about different columns do not meet: a column ends up as its own group
makes it. -/
theorem columns_alterAll_flatMap (hnodup : (l.map key).Nodup)
    (hkey : ∀ x ∈ l, ∀ s ∈ g x, s.column? = some (key x)) {x : α} (hx : x ∈ l) :
    (t.alterAll (l.flatMap g)).columns (key x) = (t.alterAll (g x)).columns (key x) := by
  obtain ⟨before, later, rfl⟩ := List.append_of_mem hx
  rw [List.map_append, List.map_cons, List.nodup_middle, List.nodup_cons] at hnodup
  have hother : ∀ y ∈ before ++ later, key y ≠ key x := fun y hy heq =>
    hnodup.1 (heq ▸ List.map_append ▸ List.mem_map_of_mem hy)
  have hquiet : ∀ part : List α, (∀ y ∈ part, y ∈ before ++ later) →
      ∀ s ∈ part.flatMap g, s.column? ≠ some (key x) := by
    intro part hpart s hs hcolumn
    obtain ⟨y, hy, hsy⟩ := List.mem_flatMap.mp hs
    have hyl : y ∈ before ++ x :: later := by
      have := hpart y hy
      simp only [List.mem_append, List.mem_cons] at this ⊢
      tauto
    rw [hkey y hyl s hsy] at hcolumn
    exact hother y (hpart y hy) (Option.some.inj hcolumn)
  rw [List.flatMap_append, List.flatMap_cons, alterAll_append, alterAll_append,
    columns_alterAll_of_ne (hquiet later fun y hy => List.mem_append_right _ hy)]
  exact columns_alterAll_congr
    (columns_alterAll_of_ne (hquiet before fun y hy => List.mem_append_left _ hy)) (g x)

/-- Groups of statements about different columns are admitted together if each is. -/
theorem admitsAll_flatMap (hnodup : (l.map key).Nodup)
    (hkey : ∀ x ∈ l, ∀ s ∈ g x, s.column? = some (key x)) (hadmits : ∀ x ∈ l, t.AdmitsAll (g x)) :
    t.AdmitsAll (l.flatMap g) := by
  induction l generalizing t with
  | nil => trivial
  | cons x rest ih =>
    rw [List.map_cons, List.nodup_cons] at hnodup
    rw [List.flatMap_cons, admitsAll_append]
    refine ⟨hadmits x List.mem_cons_self, ?_⟩
    refine ih hnodup.2 (fun y hy => hkey y (List.mem_cons_of_mem x hy)) fun y hy => ?_
    have hne : key x ≠ key y := fun heq => hnodup.1 (heq ▸ List.mem_map_of_mem hy)
    have hsame : (t.alterAll (g x)).columns (key y) = t.columns (key y) := by
      refine columns_alterAll_of_ne fun s hs hcolumn => ?_
      rw [hkey x List.mem_cons_self s hs] at hcolumn
      exact hne (Option.some.inj hcolumn)
    have hy' : y ∈ x :: rest := List.mem_cons_of_mem x hy
    exact (admitsAll_congr (hkey y hy') hsame).mpr (hadmits y hy')

end

/-- Of the columns, those that are dropped are gone. -/
theorem columns_dropColumns (names : List String) (name : String) :
    (t.alterAll (names.map .dropColumn)).columns name =
      if name ∈ names then none else t.columns name := by
  induction names generalizing t with
  | nil => simp
  | cons first rest ih =>
    rw [List.map_cons, alterAll_cons, ih]
    simp only [alter, Statement.onColumn, List.mem_cons]
    by_cases hfirst : first = name
    · simp [hfirst]
    · simp [hfirst, Ne.symm hfirst]

/-- Distinct columns that are there may be dropped in any order. -/
theorem admitsAll_dropColumns {names : List String} (hnodup : names.Nodup)
    (hpresent : ∀ name ∈ names, (t.columns name).isSome) :
    t.AdmitsAll (names.map .dropColumn) := by
  induction names generalizing t with
  | nil => trivial
  | cons name rest ih =>
    rw [List.nodup_cons] at hnodup
    refine ⟨hpresent name List.mem_cons_self, ih hnodup.2 fun other hother => ?_⟩
    have hne : name ≠ other := fun heq => hnodup.1 (heq ▸ hother)
    have hquiet : (t.alter (.dropColumn name)).columns other = t.columns other := if_neg hne
    rw [hquiet]
    exact hpresent other (List.mem_cons_of_mem name hother)

/-- Foreign keys are left alone by statements about anything else. -/
theorem foreignKeys_alterAll_of_none {statements : List Statement}
    (h : ∀ s ∈ statements, s.constraint? = none) :
    (t.alterAll statements).foreignKeys = t.foreignKeys := by
  induction statements generalizing t with
  | nil => rfl
  | cons s rest ih =>
    rw [alterAll_cons, ih fun s' hs' => h s' (List.mem_cons_of_mem s hs')]
    exact Statement.onForeignKeys_of_none (h s List.mem_cons_self) _

/-- Dropping foreign keys leaves those of other constraints. -/
theorem foreignKeys_dropForeignKeys (constraints : List String) :
    (t.alterAll (constraints.map .dropForeignKey)).foreignKeys =
      t.foreignKeys.filter fun key => !constraints.contains key.constraint := by
  induction constraints generalizing t with
  | nil => simp
  | cons constraint rest ih =>
    rw [List.map_cons, alterAll_cons, ih]
    simp only [alter, Statement.onForeignKeys, List.filter_filter]
    refine List.filter_congr fun key _ => ?_
    simp only [List.contains_cons, Bool.not_or, bne, Bool.and_comm]

/-- Dropping foreign keys leaves all columns. -/
theorem columns_dropForeignKeys (constraints : List String) :
    (t.alterAll (constraints.map .dropForeignKey)).columns = t.columns := by
  refine funext fun name => columns_alterAll_of_ne fun s hs => ?_
  obtain ⟨_, _, rfl⟩ := List.mem_map.mp hs
  simp [Statement.column?]

/-- Distinct foreign keys that are there may be dropped in any order. -/
theorem admitsAll_dropForeignKeys {constraints : List String} (hnodup : constraints.Nodup)
    (hpresent : ∀ constraint ∈ constraints, ∃ key ∈ t.foreignKeys, key.constraint = constraint) :
    t.AdmitsAll (constraints.map .dropForeignKey) := by
  induction constraints generalizing t with
  | nil => trivial
  | cons constraint rest ih =>
    rw [List.nodup_cons] at hnodup
    refine ⟨hpresent constraint List.mem_cons_self, ih hnodup.2 fun other hother => ?_⟩
    obtain ⟨key, hkey, rfl⟩ := hpresent other (List.mem_cons_of_mem constraint hother)
    refine ⟨key, List.mem_filter.mpr ⟨hkey, ?_⟩, rfl⟩
    exact bne_iff_ne.mpr fun heq => hnodup.1 (heq ▸ hother)

/-- Foreign keys are added behind those that are there. -/
theorem foreignKeys_addForeignKeys (keys : List ForeignKey) :
    (t.alterAll (keys.map fun key => .add (.foreignKey key))).foreignKeys =
      t.foreignKeys ++ keys := by
  induction keys generalizing t with
  | nil => simp
  | cons key rest ih =>
    rw [List.map_cons, alterAll_cons, ih]
    simp [alter, Statement.onForeignKeys]

/-- Adding foreign keys leaves all columns. -/
theorem columns_addForeignKeys (keys : List ForeignKey) :
    (t.alterAll (keys.map fun key => .add (.foreignKey key))).columns = t.columns := by
  refine funext fun name => columns_alterAll_of_ne fun s hs => ?_
  obtain ⟨_, _, rfl⟩ := List.mem_map.mp hs
  simp [Statement.column?]

/-- Foreign keys may be added if their constraints are distinct and new. -/
theorem admitsAll_addForeignKeys {keys : List ForeignKey}
    (hnodup : (keys.map (·.constraint)).Nodup)
    (hnew : ∀ old ∈ t.foreignKeys, old.constraint ∉ keys.map (·.constraint)) :
    t.AdmitsAll (keys.map fun key => .add (.foreignKey key)) := by
  induction keys generalizing t with
  | nil => trivial
  | cons key rest ih =>
    rw [List.map_cons, List.nodup_cons] at hnodup
    refine ⟨fun old hold heq => hnew old hold (heq ▸ List.mem_cons_self), ih hnodup.2 ?_⟩
    intro old hold hmem
    rcases List.mem_append.mp hold with hold | hold
    · exact hnew old hold (List.mem_cons_of_mem _ hmem)
    · exact hnodup.1 (List.mem_singleton.mp hold ▸ hmem)

/-- **A foreign key that nothing brought was there from the start,** and neither it nor its table
was dropped. -/
theorem key_of_run {state : Option Table} {statements : List Statement} {table : Table}
    {key : ForeignKey} (hrun : run state statements = some table) (hkey : key ∈ table.foreignKeys)
    (hadd : .add (.foreignKey key) ∉ statements)
    (hcreate : ∀ definitions, .create definitions ∈ statements → .foreignKey key ∉ definitions) :
    ∃ first, state = some first ∧ key ∈ first.foreignKeys ∧
      .dropForeignKey key.constraint ∉ statements ∧ .drop ∉ statements := by
  induction statements generalizing state with
  | nil => exact ⟨table, hrun, hkey, by simp, by simp⟩
  | cons s rest ih =>
    simp only [List.mem_cons, not_or] at hadd
    have hrest : run (after state s) rest = some table := hrun
    obtain ⟨next, hnext, hmem, hkept, hstays⟩ := ih hrest hadd.2
      fun definitions hmem => hcreate definitions (List.mem_cons_of_mem s hmem)
    by_cases hs : s.alters = true
    · rw [after_of_alters hs] at hnext
      obtain ⟨first, rfl, rfl⟩ := Option.map_eq_some_iff.mp hnext
      obtain ⟨hfirst, hdrop⟩ := Statement.mem_of_mem_onForeignKeys hmem (Ne.symm hadd.1)
      have hkeeps : s ≠ .drop := by rintro rfl; cases hs
      exact ⟨first, rfl, hfirst, by simp [hkept, Ne.symm hdrop], by simp [hstays, Ne.symm hkeeps]⟩
    · cases s with
      | create definitions =>
        obtain rfl : ofDefinitions definitions = next := Option.some.inj hnext
        exact absurd (mem_foreignKeys_ofDefinitions.mp hmem) (hcreate _ List.mem_cons_self)
      | drop => cases hnext
      | _ => exact absurd rfl hs

end

end Table

/-- The tables of a database by their names. -/
def Catalog := String → Option Table

namespace Catalog

/-- The database of a model. -/
def ofModel (m : DataModel) : Catalog := fun table => (m.ofTable? table).map Table.ofEntity

/-- What a statement about a table makes of the database. -/
def execute (c : Catalog) (s : String × Statement) : Catalog := fun table =>
  if table = s.1 then Table.after (c table) s.2 else c table

/-- What statements make of the database. -/
def run (c : Catalog) (statements : List (String × Statement)) : Catalog :=
  statements.foldl execute c

/-- The database does not refuse the statement. -/
def Takes (c : Catalog) (s : String × Statement) : Prop := Table.Takes (c s.1) s.2

end Catalog

/-- The statements about one table. -/
def statementsOf (table : String) (statements : List (String × Statement)) : List Statement :=
  statements.filterMap fun s => if s.1 = table then some s.2 else none

/-- The statements about a table keep their order. -/
theorem statementsOf_append (table : String) (first later : List (String × Statement)) :
    statementsOf table (first ++ later) = statementsOf table first ++ statementsOf table later :=
  List.filterMap_append

theorem statementsOf_cons_self (table : String) (s : Statement)
    (rest : List (String × Statement)) :
    statementsOf table ((table, s) :: rest) = s :: statementsOf table rest := by
  simp [statementsOf]

theorem statementsOf_cons_of_ne {table : String} {s : String × Statement} (h : s.1 ≠ table)
    (rest : List (String × Statement)) :
    statementsOf table (s :: rest) = statementsOf table rest := by
  simp [statementsOf, h]

/-- A statement is about a table if it stands there with it. -/
theorem mem_statementsOf {table : String} {s : Statement}
    {statements : List (String × Statement)} :
    s ∈ statementsOf table statements ↔ (table, s) ∈ statements := by
  simp only [statementsOf, List.mem_filterMap]
  constructor
  · rintro ⟨⟨other, found⟩, hmem, hfound⟩
    split at hfound
    · rename_i heq
      exact Option.some.inj hfound ▸ heq ▸ hmem
    · cases hfound
  · intro hmem
    exact ⟨(table, s), hmem, by simp⟩

/-- Statements about other tables are none about this one. -/
theorem statementsOf_eq_nil {table : String} {statements : List (String × Statement)}
    (h : ∀ s ∈ statements, s.1 ≠ table) : statementsOf table statements = [] := by
  rw [statementsOf, List.filterMap_eq_nil_iff]
  intro s hs
  exact if_neg (h s hs)

/-- Statements that all are about one table are all of those about it. -/
theorem statementsOf_map_self (table : String) (statements : List Statement) :
    statementsOf table (statements.map (table, ·)) = statements := by
  induction statements with
  | nil => rfl
  | cons s rest ih => rw [List.map_cons, statementsOf_cons_self, ih]

/-- What is known of each table and changed by its own statements depends on nothing else. -/
theorem foldl_statementsOf {σ : Type} (change : σ → Statement → σ) (known : String → σ)
    (statements : List (String × Statement)) (table : String) :
    statements.foldl (fun current s other =>
        if other = s.1 then change (current other) s.2 else current other) known table =
      (statementsOf table statements).foldl change (known table) := by
  induction statements generalizing known with
  | nil => rfl
  | cons s rest ih =>
    rw [List.foldl_cons, ih]
    by_cases heq : s.1 = table
    · obtain rfl := heq
      rw [if_pos rfl, ← List.foldl_cons, ← statementsOf_cons_self]
    · rw [if_neg (Ne.symm heq), statementsOf_cons_of_ne heq]

/-- **A table changes by its own statements only.** -/
theorem Catalog.run_apply (c : Catalog) (statements : List (String × Statement))
    (table : String) : c.run statements table = Table.run (c table) (statementsOf table statements)
    :=
  foldl_statementsOf Table.after c statements table

end Schemata
