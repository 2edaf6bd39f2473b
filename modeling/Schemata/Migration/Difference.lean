import Schemata.Migration.Statement

/-!
# Differences of tables

What has to happen to one table so that it becomes another.  Columns are matched by column name,
references by the name of their constraint, indexes by their name.

A reference that changed is rebuilt: its constraint and its columns go away and come back.  An index
on a rebuilt column goes away with it and comes back too.

* `same_refl`, `same_symm` - having the same foreign key is reflexive and symmetric;
* `attributeChange_self`, `referenceChange_self`, `indexChange_self` - what stays as it is needs no
  statement.
-/

namespace Schemata

namespace LinkedColumn

/-- What two linked columns are compared by. -/
def key (c : LinkedColumn) : String × String × String :=
  (c.column, c.foreignColumn, normalizedType c.type)

end LinkedColumn

namespace Reference

/-- Both references are the same foreign key, up to the names of reference and constraint. -/
def same (a b : Reference) : Bool :=
  a.foreignTable? == b.foreignTable? && a.onDelete == b.onDelete && a.onUpdate == b.onUpdate &&
    a.columns.map (·.key) == b.columns.map (·.key)

/-- Every reference is the foreign key it is. -/
theorem same_refl (r : Reference) : r.same r := by simp [same]

/-- Being the same foreign key is symmetric. -/
theorem same_symm {a b : Reference} (h : a.same b) : b.same a := by
  simp only [same, Bool.and_eq_true, beq_iff_eq] at h ⊢
  exact ⟨⟨⟨h.1.1.1.symm, h.1.1.2.symm⟩, h.1.2.symm⟩, h.2.symm⟩

/-- Being the same foreign key is transitive. -/
theorem same_trans {a b c : Reference} (hab : a.same b) (hbc : b.same c) : a.same c := by
  simp only [same, Bool.and_eq_true, beq_iff_eq] at hab hbc ⊢
  exact ⟨⟨⟨hab.1.1.1.trans hbc.1.1.1, hab.1.1.2.trans hbc.1.1.2⟩, hab.1.2.trans hbc.1.2⟩,
    hab.2.trans hbc.2⟩

/-- The columns come into the table. -/
def addColumns (r : Reference) : List Statement :=
  r.columns.map fun c => .add (.column { name := c.column, type := c.type })

/-- The constraint comes into the table. -/
def addConstraint (r : Reference) : Statement := .add (.foreignKey r.foreignKey)

/-- The constraint leaves the table. -/
def dropConstraint (r : Reference) : Statement := .dropForeignKey r.constraint

/-- The declared columns leave the table. -/
def dropColumns (r : Reference) : List Statement := r.columnNames.map .dropColumn

end Reference

/-- What turns one column into another; nothing on a side means there is no column. -/
def attributeChange : Option Attribute → Option Attribute → List Statement
  | none, none => []
  | none, some b => [.add (.column { name := b.column, type := b.type })]
  | some a, none => [.dropColumn a.column]
  | some a, some b =>
    if a.sameType b then [] else [.modify { name := a.column, type := b.type }]

/-- What turns one foreign key into another: columns come before their constraint and leave after
it. -/
def referenceChange : Option Reference → Option Reference → List Statement
  | none, none => []
  | none, some b => b.addColumns ++ [b.addConstraint]
  | some a, none => a.dropConstraint :: a.dropColumns
  | some a, some b =>
    if a.same b then []
    else a.dropConstraint :: a.dropColumns ++ (b.addColumns ++ [b.addConstraint])

/-- What turns one index into another. -/
def indexChange : Option Index → Option Index → List Statement
  | none, none => []
  | none, some b => [.add (.index b)]
  | some a, none => [.dropIndex a.name]
  | some a, some b => if a.same b then [] else [.dropIndex a.name, .add (.index b)]

/-- The steps of a migration.  Each step covers every table before the next one begins, so that no
foreign key is alive while one of its columns changes. -/
inductive Step where
  /-- Foreign keys of changed references go away. -/
  | dropForeignKeys
  | dropIndexes
  | dropTables
  /-- New tables come into being, without foreign keys. -/
  | createTables
  | changeColumns
  | addForeignKeys
  | addIndexes
  deriving DecidableEq, Repr

/-- The steps in the order in which they run. -/
def Step.all : List Step :=
  [.dropForeignKeys, .dropIndexes, .dropTables, .createTables, .changeColumns, .addForeignKeys,
    .addIndexes]

/-- What happens to one table, step by step. -/
abbrev TableDifference := Step → List Statement

namespace TableDifference

/-- Everything that happens to the table, in order. -/
def statements (d : TableDifference) : List Statement := Step.all.flatMap d

/-- A table comes into being; its foreign keys follow when every table exists. -/
def created (e : Entity) : TableDifference
  | .createTables => [e.bareCreation]
  | .addForeignKeys => e.linkedReferences.map (·.addConstraint)
  | _ => []

/-- A table goes away. -/
def dropped : TableDifference
  | .dropTables => [.drop]
  | _ => []

/-- The references of `a` without an equal under the same constraint name in `b`. -/
def changedReferences (a b : Entity) : List Reference :=
  a.references.filter fun r => !(b.referenceOfConstraint? r.constraint).any r.same

/-- The columns of references that go away or are rebuilt. -/
def rebuiltColumns (a b : Entity) : List String :=
  (changedReferences a b).flatMap (·.columnNames)

/-- An index has a part on one of the columns. -/
def touches (columns : List String) (i : Index) : Bool :=
  i.parts.any fun part => columns.contains part.column

/-- An old index and a new one are the same and the old one stays. -/
def staysAs (a b : Entity) (old new : Index) : Bool :=
  old.same new && !touches (rebuiltColumns a b) old

/-- The indexes of `a` that do not stay. -/
def droppedIndexes (a b : Entity) : List Index :=
  a.indexes.filter fun old => !(b.index? old.name).any (staysAs a b old)

/-- The indexes of `b` that were not there or did not stay. -/
def addedIndexes (a b : Entity) : List Index :=
  b.indexes.filter fun new => !(a.index? new.name).any (staysAs a b · new)

/-- What happens to the columns: those of references go first and come last. -/
def columnChanges (a b : Entity) : List Statement :=
  (changedReferences a b).flatMap (·.dropColumns)
    ++ (a.attributes.filter fun old => (b.attributeOfColumn? old.column).isNone).flatMap
        (fun old => attributeChange (some old) none)
    ++ b.attributes.flatMap
        (fun new => attributeChange (a.attributeOfColumn? new.column) (some new))
    ++ (changedReferences b a).flatMap (·.addColumns)

/-- A table becomes another. -/
def altered (a b : Entity) : TableDifference
  | .dropForeignKeys => (changedReferences a b).map (·.dropConstraint)
  | .dropIndexes => (droppedIndexes a b).flatMap fun old => indexChange (some old) none
  | .changeColumns => columnChanges a b
  | .addForeignKeys => (changedReferences b a).map (·.addConstraint)
  | .addIndexes => (addedIndexes a b).flatMap fun new => indexChange none (some new)
  | _ => []

end TableDifference

/-- What turns one table into another; nothing on a side means there is no table.  A new table is
created with its foreign keys. -/
def tableChange : Option Entity → Option Entity → List Statement
  | none, none => []
  | none, some b => [b.creation]
  | some _, none => TableDifference.dropped.statements
  | some a, some b => (TableDifference.altered a b).statements

/-- A column that stays as it is needs no statement. -/
theorem attributeChange_self (a : Attribute) : attributeChange (some a) (some a) = [] := by
  simp [attributeChange, Attribute.sameType]

/-- A foreign key that stays as it is needs no statement. -/
theorem referenceChange_self (r : Reference) : referenceChange (some r) (some r) = [] := by
  simp [referenceChange, r.same_refl]

/-- An index that stays as it is needs no statement. -/
theorem indexChange_self (i : Index) : indexChange (some i) (some i) = [] := by
  simp [indexChange, i.same_refl]

end Schemata
