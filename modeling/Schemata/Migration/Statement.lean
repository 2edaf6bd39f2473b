import Schemata.Model.Entity

/-!
# Statements of a migration

A migration is a list of statements, each about one table.  A statement says what happens to the
table, in terms of columns, keys and indexes; its SQL is written by `Schemata.Migration.Mysql`.

* `columnNames_definitions` - the columns of a new table are the attributes, then the columns of its
  linked references.
-/

namespace Schemata

/-- A column as a statement defines it. -/
structure ColumnDefinition where
  name : String
  type : String
  notNull : Bool := false
  /-- The database counts the value up on insertion. -/
  autoIncrement : Bool := false
  defaultValue : Option String := none
  deriving DecidableEq, Repr

/-- A foreign key as a statement defines it. -/
structure ForeignKey where
  constraint : String
  columns : List String
  foreignTable : String
  foreignColumns : List String
  /-- What follows when the foreign row is deleted. -/
  onDelete : ReferentialAction
  /-- What follows when the foreign row changes its key. -/
  onUpdate : ReferentialAction
  deriving DecidableEq, Repr

/-- Something that a table is made of. -/
inductive Definition where
  | column (column : ColumnDefinition)
  | primaryKey (columns : List String)
  | index (index : Index)
  | foreignKey (key : ForeignKey)
  deriving DecidableEq, Repr

/-- What happens to a table. -/
inductive Statement where
  | create (definitions : List Definition)
  | drop
  | add (definition : Definition)
  | modify (column : ColumnDefinition)
  | dropColumn (name : String)
  | dropForeignKey (constraint : String)
  | dropIndex (name : String)
  deriving DecidableEq, Repr

/-- The foreign key of a reference.  It points at nothing while the reference is not linked. -/
def Reference.foreignKey (r : Reference) : ForeignKey :=
  { constraint := r.constraint
    columns := r.columns.map (·.column)
    foreignTable := r.foreignTable?.getD ""
    foreignColumns := r.columns.map (·.foreignColumn)
    onDelete := r.onDelete
    onUpdate := r.onUpdate }

/-- The column of an attribute in a new table. -/
def Attribute.definition (a : Attribute) : ColumnDefinition :=
  { name := a.column
    type := a.type
    notNull := a.notNull
    autoIncrement := a.autoIncrement
    defaultValue := a.defaultValue }

/-- The columns of a reference in a new table. -/
def Reference.definitions (r : Reference) : List ColumnDefinition :=
  r.columns.map fun c => { name := c.column, type := c.type, notNull := r.required }

namespace Entity

/-- The columns of the table when it is new: attributes first, then the linked references. -/
def columnDefinitions (e : Entity) : List ColumnDefinition :=
  e.attributes.map (·.definition) ++ e.references.flatMap (·.definitions)

/-- The primary key of the table, if it has one. -/
def keyDefinition (e : Entity) : List Definition :=
  match e.primaryKey with
  | [] => []
  | keys => [.primaryKey (keys.map (·.column))]

/-- What the table is made of, foreign keys apart. -/
def definitions (e : Entity) : List Definition :=
  e.columnDefinitions.map .column ++ e.keyDefinition ++ e.indexes.map .index

/-- The references that are linked. -/
def linkedReferences (e : Entity) : List Reference :=
  e.references.filter (·.foreignTable?.isSome)

/-- The foreign keys of the table. -/
def foreignKeys (e : Entity) : List Definition :=
  e.linkedReferences.map (.foreignKey ·.foreignKey)

/-- The table as a new one, with its foreign keys. -/
def creation (e : Entity) : Statement := .create (e.definitions ++ e.foreignKeys)

/-- The table as a new one, whose foreign keys follow later. -/
def bareCreation (e : Entity) : Statement := .create e.definitions

/-- The columns of a new table are the attributes, then the columns of its linked references. -/
theorem columnNames_definitions (e : Entity) :
    e.columnDefinitions.map (·.name) =
      e.attributes.map (·.column) ++ e.references.flatMap fun r => r.columns.map (·.column) := by
  simp [columnDefinitions, Attribute.definition, Reference.definitions, List.map_flatMap,
    Function.comp_def]

end Entity

end Schemata
