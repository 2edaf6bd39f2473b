import Schemata.Generation.Accessor
import Schemata.Generation.Comment
import Schemata.Generation.FieldType
import Schemata.Generation.Project
import Schemata.Model.DependencyOrder
import Schemata.Text.Quoted

/-!
# Model files

A model file holds a structure with a field for each column of an entity, constants with its table
and columns, and its accessors.  One more file declares the modules of all entities.

An entity that has not changed since the last generation keeps the file it has.

* `modelFiles_head` - the file that declares the modules comes first;
* `length_modelFiles` - each changed entity gets one file more.
-/

namespace Schemata.Generation

open Text (quoted)

/-- A field of a generated structure. -/
structure Field where
  doc : Option String := none
  name : String
  type : String
  deriving DecidableEq, Repr

/-- The field in generated code. -/
def Field.text (f : Field) : String :=
  (match f.doc with
    | some doc => docComment doc 4
    | none => "") ++ "    pub " ++ f.name ++ ": " ++ f.type ++ ",\n"

/-- The field of an attribute. -/
def attributeField (a : Attribute) : Field :=
  { name := fieldName a.column, type := fieldCode a.type (!a.notNull) }

/-- The fields of a reference, one for each linked column. -/
def referenceFields (r : Reference) : List Field :=
  r.columns.map fun c =>
    { doc := some ("Column of reference " ++ shown r.name)
      name := fieldName c.column
      type := fieldCode c.type (!r.required) }

/-- The fields of an entity: attributes first, then references. -/
def fields (e : Entity) : List Field :=
  e.attributes.map attributeField ++ e.references.flatMap referenceFields

/-- The structure of an entity. -/
def structText (e : Entity) : String :=
  docComment ("Row of table " ++ shown e.table) 0
    ++ "#[derive(Debug, Clone, PartialEq, Default)]\n"
    ++ "pub struct " ++ structName e ++ " \x7b\n"
    ++ String.join ((fields e).map (·.text))
    ++ "\x7d\n"

/-- Texts as literals, separated by commas. -/
def literals (items : List String) : String := String.intercalate ", " (items.map quoted)

/-- A constant that lists texts. -/
def listConstant (name : String) (items : List String) : String :=
  "    pub const " ++ name ++ ": &'static [&'static str] = &[" ++ literals items ++ "];\n"

/-- The function of an accessor, behind a blank line. -/
def Accessor.text (a : Accessor) : String :=
  "\n" ++ docComment a.doc 4 ++ "    pub fn " ++ a.name ++ "() -> &'static str \x7b\n        "
    ++ quoted a.query.sql ++ "\n    \x7d\n"

/-- The constants and accessors of an entity. -/
def implText (m : DataModel) (e : Entity) : String :=
  "impl " ++ structName e ++ " \x7b\n"
    ++ docComment "Table name" 4
    ++ "    pub const TABLE: &'static str = " ++ quoted e.table ++ ";\n\n"
    ++ docComment "Column names in declaration order" 4
    ++ listConstant "COLUMNS" e.columnNames ++ "\n"
    ++ docComment "Primary key columns" 4
    ++ listConstant "PRIMARY_KEY" (e.primaryKey.map (·.column))
    ++ String.join ((accessors m e).map (·.text))
    ++ "\x7d\n"

/-- The text of the model file of an entity. -/
def modelText (m : DataModel) (e : Entity) : String :=
  fileHeader (e.fullName ++ " model (table " ++ shown e.table ++ ").")
    ++ structText e ++ "\n" ++ implText m e

/-- The model file of an entity. -/
def modelFile (m : DataModel) (e : Entity) : GeneratedFile :=
  { path := "src/models/" ++ moduleName e ++ ".rs", content := modelText m e, kind := .source }

/-- The line that declares the module of an entity. -/
def moduleLine (e : Entity) : String := "pub mod " ++ moduleName e ++ ";\n"

/-- The line that exports the structure of an entity. -/
def exportLine (e : Entity) : String :=
  "pub use " ++ moduleName e ++ "::" ++ structName e ++ ";\n"

/-- The file that declares the modules of all entities. -/
def moduleFile (es : List Entity) : GeneratedFile :=
  { path := "src/models/mod.rs"
    content := fileHeader "Model definitions." ++ String.join (es.map moduleLine)
      ++ (if es.isEmpty then "" else "\n") ++ String.join (es.map exportLine)
    kind := .source }

/-- The entities whose model files are written, in dependency order. -/
def changedEntities (m : DataModel) : List Entity := m.dependencyOrder.filter (·.changed)

/-- The source files of a model. -/
def modelFiles (m : DataModel) : List GeneratedFile :=
  moduleFile m.dependencyOrder :: (changedEntities m).map (modelFile m)

/-- What is to say about the source files of a model. -/
def modelWarnings (m : DataModel) : List Warning :=
  (changedEntities m).flatMap (accessorWarnings m)

/-- The file that declares the modules comes first. -/
theorem modelFiles_head (m : DataModel) :
    (modelFiles m).head? = some (moduleFile m.dependencyOrder) := rfl

/-- Each changed entity gets one file more. -/
theorem length_modelFiles (m : DataModel) :
    (modelFiles m).length = (changedEntities m).length + 1 := by
  simp [modelFiles]

end Schemata.Generation
