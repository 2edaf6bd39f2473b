import Schemata.Generation.Accessor

/-!
# What queries answer

A query is asked of tables of rows.  Two values are equal in SQL if both are there and are the same;
a missing value equals nothing.  A reference links a row to another one if each of its columns
equals the column that it points at.

* `mem_answer_rows` - the rows of a table that a reference links to the bound row;
* `mem_answer_linked` - the rows that a mapping row links to the bound row;
* `mem_answer_linked_comm` - the same mapping rows link the other way round.
-/

namespace Schemata

variable {V : Type} [DecidableEq V]

/-- The values of a row, column by column; a value may be missing. -/
abbrev Row (V : Type) := String → Option V

/-- The rows of each table. -/
abbrev Tables (V : Type) := String → List (Row V)

/-- The values are there and are the same. -/
def sqlEqual (a b : Option V) : Bool := a.isSome && a == b

/-- Each column of the reference in the first row equals the column of the second row that it points
at. -/
def Reference.Links (r : Reference) (near far : Row V) : Prop :=
  ∀ c ∈ r.columns, sqlEqual (near c.column) (far c.foreignColumn) = true

namespace Generation

/-- The columns of the row have these values, in order. -/
def hasValues (row : Row V) (columns : List String) (values : List (Option V)) : Bool :=
  (columns.zip values).all fun (column, value) => sqlEqual (row column) value

/-- The first of each pair of columns in the mapping row equals the second in the other row. -/
def joins (on : List (String × String)) (link row : Row V) : Bool :=
  on.all fun (near, far) => sqlEqual (link near) (row far)

/-- The rows that a query answers when values are bound to its places. -/
def Query.answer (tables : Tables V) (values : List (Option V)) : Query → List (Row V)
  | .rows table columns => (tables table).filter fun row => hasValues row columns values
  | .linked table mapping on columns =>
    (tables table).flatMap fun row =>
      ((tables mapping).filter fun link =>
        joins on link row && hasValues link columns values).map fun _ => row

/-- The rows that an accessor yields for a row, whose columns it binds. -/
def Accessor.answer (a : Accessor) (tables : Tables V) (bound : Row V) : List (Row V) :=
  a.query.answer tables (a.bindings.map bound)

variable {a : Accessor} {r toTarget toSource : Reference} {target mapping : Entity}
  {tables : Tables V} {bound row : Row V}

/-- A row has the values that its reference points at exactly if the reference links it there. -/
theorem hasValues_iff_links (r : Reference) (row bound : Row V) :
    hasValues row (r.columns.map (·.column)) ((r.columns.map (·.foreignColumn)).map bound) = true ↔
      r.Links row bound := by
  simp [hasValues, Reference.Links, List.zip_map', List.all_map]

/-- Pairs of columns join a mapping row to another row exactly if the reference links it there. -/
theorem joins_iff_links (r : Reference) (link row : Row V) :
    joins (r.columns.map fun c => (c.column, c.foreignColumn)) link row = true ↔
      r.Links link row := by
  simp [joins, Reference.Links, List.all_map]

/-- **The rows of a table by columns of a reference** are those that the reference links to the
bound row. -/
theorem mem_answer_rows {table : String} (hquery : a.query = .rows table (r.columns.map (·.column)))
    (hbindings : a.bindings = r.columns.map (·.foreignColumn)) :
    row ∈ a.answer tables bound ↔ row ∈ tables table ∧ r.Links row bound := by
  rw [Accessor.answer, hquery, hbindings, Query.answer, List.mem_filter, hasValues_iff_links]

/-- **The rows by way of a mapping entity** are those that some mapping row links to the bound
row. -/
theorem mem_answer_linked (hquery : a.query = linkedQuery target mapping toTarget toSource)
    (hbindings : a.bindings = toSource.columns.map (·.foreignColumn)) :
    row ∈ a.answer tables bound ↔
      row ∈ tables target.table ∧
        ∃ link ∈ tables mapping.table, toTarget.Links link row ∧ toSource.Links link bound := by
  have hlink : ∀ found link,
      (joins (toTarget.columns.map fun c => (c.column, c.foreignColumn)) link found &&
          hasValues link (toSource.columns.map (·.column))
            ((toSource.columns.map (·.foreignColumn)).map bound)) = true ↔
        toTarget.Links link found ∧ toSource.Links link bound := by
    intro found link
    rw [Bool.and_eq_true, joins_iff_links, hasValues_iff_links]
  simp only [Accessor.answer, hquery, hbindings, linkedQuery, Query.answer, List.mem_flatMap,
    List.mem_map, List.mem_filter, hlink]
  constructor
  · rintro ⟨_, hrow, link, ⟨hmem, hlinks⟩, rfl⟩
    exact ⟨hrow, link, hmem, hlinks⟩
  · rintro ⟨hrow, link, hmem, hlinks⟩
    exact ⟨row, hrow, link, ⟨hmem, hlinks⟩, rfl⟩

/-- **The same mapping rows link both ways:** a row is found from another one exactly if that one is
found from it by the accessor that goes the way back. -/
theorem mem_answer_linked_comm {b : Accessor} {source : Entity}
    (hthere : a.query = linkedQuery target mapping toTarget toSource)
    (hthereBindings : a.bindings = toSource.columns.map (·.foreignColumn))
    (hback : b.query = linkedQuery source mapping toSource toTarget)
    (hbackBindings : b.bindings = toTarget.columns.map (·.foreignColumn))
    (hbound : bound ∈ tables source.table) (hrow : row ∈ tables target.table) :
    row ∈ a.answer tables bound ↔ bound ∈ b.answer tables row := by
  rw [mem_answer_linked hthere hthereBindings, mem_answer_linked hback hbackBindings]
  simp only [hbound, hrow, true_and]
  exact exists_congr fun link => and_congr_right fun _ => and_comm

end Generation

end Schemata
