import Schemata.Model.Identity
import Schemata.Model.Keyword
import Schemata.Model.Naming
import Schemata.Model.Resolution

/-!
# References

A reference is a foreign key: columns of its entity that point at attributes of another class.  The
schema declares column names and attribute names; types and column names of the other side are known
once the reference is linked.

* `columns_of_unresolved` - a reference that is not linked has no typed columns.
-/

namespace Schemata

/-- One declared pair of a reference: a local column and the attribute it points at. -/
structure Mapping where
  column : String
  foreignAttribute : String
  deriving DecidableEq, Repr

/-- One pair of a linked reference. -/
structure LinkedColumn where
  column : String
  /-- Its type, which is the type of the column it points at. -/
  type : String
  foreignColumn : String
  deriving DecidableEq, Repr

/-- What a linked reference points at. -/
structure ReferenceTarget where
  entity : EntityId
  table : String
  columns : List LinkedColumn
  deriving DecidableEq, Repr

/-- Why a reference cannot be linked. -/
inductive ReferenceProblem where
  | unknownClass (foreignClass : String)
  | unknownAttribute (foreignClass name : String)
  deriving DecidableEq, Repr

/-- The wording of a reference problem. -/
def ReferenceProblem.message : ReferenceProblem → String
  | .unknownClass foreignClass => s!"refers to unknown entity {foreignClass}"
  | .unknownAttribute foreignClass name => s!"maps unknown attribute {foreignClass}.{name}"

/-- A foreign key of an entity. -/
structure Reference where
  /-- The name, by which collectors find the reference. -/
  name : String
  foreignClass : String
  /-- The name of the constraint; blank until the reference joins an entity. -/
  constraint : String := ""
  /-- What follows when the foreign row is deleted. -/
  onDelete : ReferentialAction := .restrict
  /-- What follows when the foreign row changes its key. -/
  onUpdate : ReferentialAction := .restrict
  mappings : List Mapping := []
  required : Bool := false
  resolution : Resolution ReferenceTarget ReferenceProblem := .unresolved
  deriving DecidableEq, Repr

namespace Reference

/-- The reference with one more pair. -/
def withMapping (r : Reference) (column foreignAttribute : String) : Reference :=
  { r with mappings := r.mappings ++ [⟨column, foreignAttribute⟩] }

/-- The reference with one more pair, whose column is named after reference and attribute. -/
def withDefaultMapping (r : Reference) (foreignAttribute : String) : Reference :=
  r.withMapping (Naming.referenceColumn r.name foreignAttribute) foreignAttribute

/-- What the reference points at, once it is linked. -/
def target? (r : Reference) : Option ReferenceTarget := r.resolution.value?

/-- The table the reference points at, once it is linked. -/
def foreignTable? (r : Reference) : Option String := r.target?.map (·.table)

/-- The typed column pairs; none while the reference is not linked. -/
def columns (r : Reference) : List LinkedColumn :=
  match r.target? with
  | some target => target.columns
  | none => []

/-- The local columns as declared. -/
def columnNames (r : Reference) : List String := r.mappings.map (·.column)

/-- The accessor of the reference. -/
def accessor (r : Reference) : String := Naming.accessor r.name

/-- The reference under the constraint name it gets in a table, unless it brings one. -/
def inTable (table : String) (r : Reference) : Reference :=
  if Text.isMissing r.constraint then { r with constraint := Naming.constraint table r.name } else r

/-- A reference that is not linked has no typed columns. -/
theorem columns_of_unresolved {r : Reference} (h : r.resolution = .unresolved) :
    r.columns = [] := by
  simp [columns, target?, h, Resolution.value?]

/-- Joining a table changes nothing but the name of the constraint. -/
theorem inTable_eq (table : String) (r : Reference) :
    r.inTable table = { r with constraint := (r.inTable table).constraint } := by
  unfold inTable
  split <;> rfl

/-- A constraint name that the schema gives is kept. -/
theorem inTable_of_named {table : String} {r : Reference}
    (h : Text.isMissing r.constraint = false) : r.inTable table = r := by
  simp [inTable, h]

end Reference

end Schemata
