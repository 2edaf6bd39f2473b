import Schemata.Generation.Identifier
import Schemata.Migration.Mysql
import Schemata.Model.Linking

/-!
# Accessors of generated code

An accessor is a function of a generated model that yields a query: for the row that a reference
points at, for the rows that a collector gathers, or for the rows whose many-to-many collector leads
here.  A member that is not fully linked gives no accessor but a warning.

* `relations_split` - every relation gives an accessor or a warning;
* `firsts_length` - every accessor is kept, or its name was taken before.
-/

namespace Schemata.Generation

open Mysql (quote)

/-- A query with a place for each value to bind. -/
inductive Query where
  /-- The rows of a table whose columns have the bound values. -/
  | rows (table : String) (columns : List String)
  /-- The rows of a table that a mapping table links to bound values: `on` pairs columns of the
  mapping table with columns of the table, and `columns` are those of the mapping table to bind. -/
  | linked (table mapping : String) (on : List (String × String)) (columns : List String)
  deriving DecidableEq, Repr

/-- Conditions that hold together. -/
def conjunction (conditions : List String) : String := String.intercalate " AND " conditions

/-- The query in SQL. -/
def Query.sql : Query → String
  | .rows table columns =>
    let table := quote table
    let condition := conjunction (columns.map fun c => quote c ++ " = ?")
    s!"SELECT * FROM {table} WHERE {condition}"
  | .linked table mapping on columns =>
    let table := quote table
    let mapping := quote mapping
    let join := conjunction (on.map fun (near, far) => "m." ++ quote near ++ " = t." ++ quote far)
    let condition := conjunction (columns.map fun c => "m." ++ quote c ++ " = ?")
    s!"SELECT t.* FROM {table} t JOIN {mapping} m ON {join} WHERE {condition}"

/-- A function of a generated model. -/
structure Accessor where
  name : String
  summary : String
  /-- The columns whose values are bound, in order. -/
  bindings : List String
  query : Query
  deriving DecidableEq, Repr

/-- A name as documentation shows it. -/
def shown (name : String) : String := "\x60" ++ name ++ "\x60"

/-- The columns to bind, in words. -/
def bindingWords (columns : List String) : String :=
  let words := String.intercalate ", " (columns.map shown)
  if words.isEmpty then "nothing" else words

/-- The documentation of an accessor. -/
def Accessor.doc (a : Accessor) : String :=
  a.summary ++ "\n\nBind: " ++ bindingWords a.bindings

/-- What a generation has to say about the model without failing. -/
inductive Warning where
  | unlinkedReference (className reference : String)
  | incompleteCollector (className collector : String)
  /-- The accessor that another entity asks for cannot be given. -/
  | unusableMapping (className accessor : String)
  /-- Two accessors of an entity have the same name. -/
  | repeatedAccessor (className accessor : String)
  | noEntities
  | unchangedSchema
  deriving DecidableEq, Repr

/-- The wording of a warning. -/
def Warning.message : Warning → String
  | .unlinkedReference className reference =>
    s!"Entity '{className}': reference '{reference}' is unresolved, no accessor generated"
  | .incompleteCollector className collector =>
    s!"Entity '{className}': collector '{collector}' is incomplete, no accessor generated"
  | .unusableMapping className accessor =>
    s!"Entity '{className}': many-to-many mapping '{accessor}' has no usable mapping entity, " ++
      "no accessor generated"
  | .repeatedAccessor className accessor =>
    s!"Entity '{className}': accessor '{accessor}' is declared more than once, keeping the first"
  | .noEntities => "No entities defined, nothing to generate for models or tables"
  | .unchangedSchema => "Schema is unchanged, no migration generated"

/-- The query for rows of `target` that `mapping` links to the other side. -/
def linkedQuery (target mapping : Entity) (toTarget toSource : Reference) : Query :=
  .linked target.table mapping.table (toTarget.columns.map fun c => (c.column, c.foreignColumn))
    (toSource.columns.map (·.column))

/-- The first reference of a mapping entity that points at a table and is not the named one. -/
def otherSide? (mapping : Entity) (name table : String) : Option Reference :=
  mapping.references.find? fun r => r.name != name && r.foreignTable? == some table

/-- The accessor of a reference: the row it points at. -/
def referenceAccessor? (r : Reference) : Option Accessor := do
  let table ← r.foreignTable?
  return {
    name := getterName r.accessor
    summary := "Select the " ++ shown r.foreignClass ++ " referenced by " ++ shown r.name ++ "."
    bindings := r.columns.map (·.column)
    query := .rows table (r.columns.map (·.foreignColumn)) }

/-- The accessor of a one-to-many collector: the foreign rows whose reference leads back. -/
def oneToManyAccessor? (c : Collector) (foreign : Entity) (reference : String) :
    Option Accessor := do
  let r ← foreign.reference? reference
  return {
    name := getterName c.accessor
    summary :=
      "Select the " ++ shown foreign.className ++ " rows collected by " ++ shown c.name ++ "."
    bindings := r.columns.map (·.foreignColumn)
    query := .rows foreign.table (r.columns.map (·.column)) }

/-- The accessor of a many-to-many collector of `owner`: the foreign rows that mapping rows link to
it. -/
def manyToManyAccessor? (m : DataModel) (owner : Entity) (c : Collector) (foreign : Entity)
    (reference : String) : Option Accessor := do
  let mapping ← m.entity? (← c.mapping?)
  let toTarget ← mapping.reference? reference
  let toSource ← otherSide? mapping reference owner.table
  return {
    name := getterName c.accessor
    summary :=
      "Select the " ++ shown foreign.className ++ " rows linked through " ++
        shown mapping.className ++ "."
    bindings := toSource.columns.map (·.foreignColumn)
    query := linkedQuery foreign mapping toTarget toSource }

/-- The accessor of a collector of `owner`; none unless all its links hold. -/
def collectorAccessor? (m : DataModel) (owner : Entity) (c : Collector) : Option Accessor :=
  if c.isComplete m then do
    let foreign ← m.entity? (← c.foreign?)
    let handle ← c.reference?
    if c.kind.isManyToMany then manyToManyAccessor? m owner c foreign handle.name
    else oneToManyAccessor? c foreign handle.name
  else none

/-- The accessor that a many-to-many collector elsewhere asks for: the rows that hold the
collector. -/
def reciprocalAccessor? (m : DataModel) (r : Reciprocal) : Option Accessor := do
  let origin ← m.entity? r.origin
  let mapping ← m.entity? (← r.mapping)
  let collector ← origin.collector? r.collector
  let toThis ← mapping.reference? collector.kind.reference
  let toOrigin ← otherSide? mapping collector.kind.reference origin.table
  return {
    name := getterName r.accessor
    summary :=
      "Select the " ++ shown origin.className ++ " rows linking here through " ++
        shown mapping.className ++ " (collector " ++ shown r.collector ++ ")."
    bindings := toThis.columns.map (·.foreignColumn)
    query := linkedQuery origin mapping toOrigin toThis }

/-- What each relation of an entity gives, in order of declaration: references, collectors, and what
other entities ask for. -/
def relations (m : DataModel) (e : Entity) : List (Except Warning Accessor) :=
  let orWarn (accessor : Option Accessor) (warning : Warning) : Except Warning Accessor :=
    match accessor with
    | some accessor => .ok accessor
    | none => .error warning
  (e.references.map fun r =>
      orWarn (referenceAccessor? r) (.unlinkedReference e.className r.name))
    ++ (e.collectors.map fun c =>
      orWarn (collectorAccessor? m e c) (.incompleteCollector e.className c.name))
    ++ ((m.reciprocalsFor e.id).map fun r =>
      orWarn (reciprocalAccessor? m r) (.unusableMapping e.className r.accessor))

/-- The accessors that a list of relations gives. -/
def accessorsOf (rs : List (Except Warning Accessor)) : List Accessor :=
  rs.filterMap fun
    | .ok accessor => some accessor
    | .error _ => none

/-- The warnings that a list of relations gives. -/
def warningsOf (rs : List (Except Warning Accessor)) : List Warning :=
  rs.filterMap fun
    | .ok _ => none
    | .error warning => some warning

/-- The accessors under names that are not taken yet, and the others. -/
def firsts (taken : List String) : List Accessor → List Accessor × List Accessor
  | [] => ([], [])
  | a :: rest =>
    if taken.contains a.name then
      let (kept, others) := firsts taken rest
      (kept, a :: others)
    else
      let (kept, others) := firsts (a.name :: taken) rest
      (a :: kept, others)

/-- The accessors of the model of an entity. -/
def accessors (m : DataModel) (e : Entity) : List Accessor :=
  (firsts [] (accessorsOf (relations m e))).1

/-- What is to say about the accessors of an entity. -/
def accessorWarnings (m : DataModel) (e : Entity) : List Warning :=
  warningsOf (relations m e) ++
    (firsts [] (accessorsOf (relations m e))).2.map fun a => .repeatedAccessor e.className a.name

/-- Every accessor is kept or is among the others. -/
theorem firsts_length (taken : List String) (as : List Accessor) :
    (firsts taken as).1.length + (firsts taken as).2.length = as.length := by
  induction as generalizing taken with
  | nil => rfl
  | cons a rest ih =>
    rw [firsts]
    split
    · have := ih taken
      simp only [List.length_cons]
      omega
    · have := ih (a.name :: taken)
      simp only [List.length_cons]
      omega

/-- Every relation gives an accessor or a warning. -/
theorem relations_split (rs : List (Except Warning Accessor)) :
    (accessorsOf rs).length + (warningsOf rs).length = rs.length := by
  induction rs with
  | nil => rfl
  | cons r rest ih =>
    cases r <;>
      simp only [accessorsOf, warningsOf, List.filterMap_cons, List.length_cons] at ih ⊢ <;> omega

end Schemata.Generation
