import Schemata.Proofs.Generation.ModelText
import Schemata.Proofs.Migration.Nullability
import Schemata.Proofs.Migration.TableByTable
import Schemata.Proofs.Text.Listing
import Schemata.Proofs.Text.LowerCase

/-!
# The columns of a table, three times

The columns of an entity are written three times: in the statement that creates the table, in a
constant of the generated source and as the fields of the generated structure.  The constant follows
the declared mappings of references, and the others follow the columns that references are linked
to.  In a clean model these are the same columns, in the same order.

* `declaredFields_structText` - the fields follow from the definitions of the columns;
* `declaredList_columns`, `declaredList_primaryKey` - what the constants hold;
* `table_and_structure` - what this comes to for the table and the structure of a clean model;
* `concert_table_and_structure` - a concert, its hall and its host.
-/

namespace Schemata

namespace Generation

open Text

variable {m : DataModel} {e : Entity}

/-- The field on a line of source, without its documentation. -/
def fieldOn? (line : String) : Option Field :=
  (inside? itemOpening "," line).map fun cs =>
    { name := String.ofList (cs.takeWhile (· ≠ ':'))
      type := String.ofList ((cs.dropWhile (· ≠ ':')).drop 2) }

/-- The fields that a source declares. -/
def declaredFields (source : String) : List Field := (itemLines source).filterMap fieldOn?

/-- The list that a constant of a source holds. -/
def declaredList (name source : String) : Option (List String) :=
  (itemLines source).findSome? fun line =>
    ((inside? (itemOpening ++ ("const " ++ name ++ ": &'static [&'static str] = &[")) ";" line).bind
      (readItems readLiteral ']')).map (·.1)

/-- The field of a column. -/
def columnField (c : ColumnDefinition) : Field :=
  { name := fieldName c.name, type := fieldCode c.type (!c.notNull) }

/-- **The fields of a structure** are those of the columns that are defined. -/
theorem declaredFields_structText (e : Entity) :
    declaredFields (structText e) = e.columnDefinitions.map columnField := by
  have hread : ∀ f ∈ fields e, fieldOn? f.line = some { name := f.name, type := f.type } := by
    intro f hf
    obtain ⟨column, type, nullable, hname, htype⟩ := exists_fieldName hf
    have hline : f.line = itemOpening ++ (f.name ++ ": " ++ f.type) ++ "," := by
      simp only [Field.line, String.append_assoc]
    have hcolon : ∀ x ∈ f.name.toList, decide (x ≠ ':') = true := by
      intro x hx
      have : ':' ∉ (fieldName column).toList :=
        not_mem_fieldName (by decide) (by decide) (by decide) column
      exact decide_eq_true fun h => this (hname ▸ h ▸ hx)
    have hchars : (f.name ++ ": " ++ f.type).toList =
        f.name.toList ++ ':' :: ' ' :: f.type.toList := by simp
    rw [fieldOn?, hline, inside?_eq, hchars, Option.map_some,
      List.takeWhile_append_of_pos hcolon, List.dropWhile_append_of_pos hcolon]
    simp
  have hbare : (fields e).map (fun f => ({ name := f.name, type := f.type } : Field)) =
      e.columnDefinitions.map columnField := by
    simp only [fields, Entity.columnDefinitions, List.map_append, List.map_map, List.map_flatMap,
      referenceFields, Reference.definitions]
    rfl
  rw [declaredFields, itemLines_structText, List.filterMap_map, ← hbare, ← List.filterMap_eq_map]
  exact List.filterMap_congr hread

/-- A constant that lists texts holds them. -/
theorem read_listLine (name : String) (items : List String) :
    ((inside? (itemOpening ++ ("const " ++ name ++ ": &'static [&'static str] = &[")) ";"
      (listLine name items)).bind (readItems readLiteral ']')).map (·.1) = some items := by
  have hline : listLine name items =
      itemOpening ++ ("const " ++ name ++ ": &'static [&'static str] = &[") ++
        (literals items ++ "]") ++ ";" := by
    have hend : "];" = "]" ++ ";" := rfl
    rw [listLine, hend]
    simp only [String.append_assoc]
  have hchars : (literals items ++ "]").toList = (literals items).toList ++ ']' :: [] := by simp
  have hread : readItems readLiteral ']' ((literals items).toList ++ ']' :: []) =
      some (items, []) := by
    apply readItems_intercalate (by decide)
    · intro rest
      rw [readLiteral, if_neg (by decide)]
    · intro item _ c rest _
      exact readLiteral_quoted item (c :: rest)
  rw [hline, inside?_eq, Option.bind_some, hchars, hread, Option.map_some]

/-- **The columns that the generated source lists** are those that the entity declares. -/
theorem declaredList_columns (m : DataModel) (e : Entity) :
    declaredList "COLUMNS" (implText m e) = some e.columnNames := by
  have htable : inside? (itemOpening ++ ("const " ++ "COLUMNS" ++ ": &'static [&'static str] = &["))
      ";" (tableLine e.table) = none := by
    apply inside?_of_not_opened
    simp [tableLine, itemOpening]
  rw [declaredList, itemLines_implText, constantLines, List.cons_append, List.cons_append,
    List.findSome?_cons, htable, List.findSome?_cons, read_listLine]
  rfl

/-- **The key that the generated source lists** is that of the entity. -/
theorem declaredList_primaryKey (m : DataModel) (e : Entity) :
    declaredList "PRIMARY_KEY" (implText m e) = some (e.primaryKey.map (·.column)) := by
  have htable :
      inside? (itemOpening ++ ("const " ++ "PRIMARY_KEY" ++ ": &'static [&'static str] = &[")) ";"
        (tableLine e.table) = none := by
    apply inside?_of_not_opened
    simp [tableLine, itemOpening]
  have hcolumns :
      inside? (itemOpening ++ ("const " ++ "PRIMARY_KEY" ++ ": &'static [&'static str] = &[")) ";"
        (listLine "COLUMNS" e.columnNames) = none := by
    apply inside?_of_not_opened
    simp [listLine, itemOpening]
  rw [declaredList, itemLines_implText, constantLines, List.cons_append, List.cons_append,
    List.cons_append, List.findSome?_cons, htable, List.findSome?_cons, hcolumns,
    List.findSome?_cons, read_listLine]
  rfl

/-- The field says of the column what its definition says: the type that is written, and `NOT NULL`
exactly where the field may not be absent. -/
structure Describes (f : Field) (c : ColumnDefinition) : Prop where
  name : f.name = fieldName c.name
  type : f.type = fieldCode (trim c.type) f.isOptional
  text : Mysql.columnDefinition c =
    Mysql.quote c.name ++ " " ++ trim c.type ++ (if f.isOptional then "" else " NOT NULL") ++
      (if c.autoIncrement then " AUTO_INCREMENT" else "") ++
        c.defaultValue.elim "" (" DEFAULT " ++ ·)

/-- The field made of a column describes it. -/
theorem describes_columnField (c : ColumnDefinition) : Describes (columnField c) c := by
  have hoptional : (columnField c).isOptional = !c.notNull := isOptional_fieldCode _ _
  have htype : fieldCode (trim c.type) (!c.notNull) = fieldCode c.type (!c.notNull) := by
    have hsame : normalizedType (trim c.type) = normalizedType c.type :=
      congrArg upperAscii (trim_trim c.type)
    rw [fieldCode, fieldCode, FieldType.ofColumnType_congr hsame]
  constructor
  · rfl
  · rw [hoptional, htype]
    rfl
  · rw [hoptional, Mysql.columnDefinition]
    cases c.notNull <;> cases c.defaultValue <;> rfl

/-- The statement creates a table of these columns, with this primary key, and with indexes and
foreign keys besides. -/
def Creates (s : Statement) (columns : List ColumnDefinition) (keys : List String) : Prop :=
  ∃ others : List Definition,
    (∀ d ∈ others, d.column? = none ∧ ∀ keys, d ≠ .primaryKey keys) ∧
    s = .create (columns.map .column ++ .primaryKey keys :: others) ∧
    Mysql.template s = Mysql.creationTemplate
      (columns.map Mysql.columnDefinition ++
        ("PRIMARY KEY (" ++ Mysql.quoteList keys ++ ")") :: others.map Mysql.definition)

/-- A statement that lists columns, then the primary key, then other definitions creates a table of
them. -/
theorem Creates.of_others {columns : List ColumnDefinition} {keys : List String}
    {others : List Definition}
    (h : ∀ d ∈ others, d.column? = none ∧ ∀ keys, d ≠ .primaryKey keys) :
    Creates (.create (columns.map .column ++ .primaryKey keys :: others)) columns keys := by
  refine ⟨others, h, rfl, ?_⟩
  rw [Mysql.template_create, List.map_append, List.map_map, List.map_cons]
  rfl

/-- A table of a clean model is made of its columns, its primary key and its indexes. -/
theorem definitions_eq (h : m.Clean) (he : e ∈ m.entities) :
    e.definitions = e.columnDefinitions.map .column ++
      .primaryKey (e.primaryKey.map (·.column)) :: e.indexes.map .index := by
  have hkey : e.keyDefinition = [.primaryKey (e.primaryKey.map (·.column))] := by
    unfold Entity.keyDefinition
    split
    · rename_i hnone
      exact absurd hnone (h.primaryKey_ne_nil he)
    · rfl
  rw [Entity.definitions, hkey, List.append_assoc]
  rfl

/-- **Table, constants and structure agree.**  In a clean model the table is created with the
columns that the generated source lists, first those of the attributes and then those of the
references, mapping by mapping.  The fields of the structure describe these columns, one by one and
in the same order, and the key that the source lists is that of the table. -/
theorem table_and_structure (h : m.Clean) (he : e ∈ m.entities) :
    ∃ columns keys,
      Creates e.creation columns keys ∧ Creates e.bareCreation columns keys ∧
      columns.map (·.name) =
        e.attributes.map (·.column) ++ e.references.flatMap (fun r => r.mappings.map (·.column)) ∧
      declaredList "COLUMNS" (implText m e) = some (columns.map (·.name)) ∧
      declaredList "PRIMARY_KEY" (implText m e) = some keys ∧
      List.Forall₂ Describes (declaredFields (structText e)) columns := by
  have hnames := h.names_columnDefinitions he
  have hindexes : ∀ d ∈ e.indexes.map Definition.index,
      d.column? = none ∧ ∀ keys, d ≠ .primaryKey keys := by
    rw [List.forall_mem_map]
    exact fun i _ => ⟨rfl, fun _ heq => by cases heq⟩
  have hforeign : ∀ d ∈ e.foreignKeys, d.column? = none ∧ ∀ keys, d ≠ .primaryKey keys := by
    rw [Entity.foreignKeys, List.forall_mem_map]
    exact fun r _ => ⟨rfl, fun _ heq => by cases heq⟩
  refine ⟨e.columnDefinitions, e.primaryKey.map (·.column), ?_, ?_, hnames, ?_,
    declaredList_primaryKey m e, ?_⟩
  · rw [Entity.creation, definitions_eq h he, List.append_assoc, List.cons_append]
    exact .of_others (List.forall_mem_append.mpr ⟨hindexes, hforeign⟩)
  · rw [Entity.bareCreation, definitions_eq h he]
    exact .of_others hindexes
  · rw [declaredList_columns, hnames]
  · rw [declaredFields_structText, List.forall₂_map_left_iff, List.forall₂_same]
    exact fun c _ => describes_columnField c

namespace Concerts

def hall : Entity :=
  { id := .ofNat 1, className := "Hall", table := "hall", attributes := [.identity] }

/-- A concert has its hall, and perhaps a host. -/
def planned : Entity :=
  { id := .ofNat 2, className := "Concert", table := "concert",
    attributes := [.identity, { Attribute.plain "title" " VARCHAR(80) " with required := true },
      .plain "opensAt" "DATETIME"]
    references := [{ Reference.toKey "hall" "Hall" "concert_hall" "hall_id" with required := true },
      .toKey "host" "Concert" "concert_host" "host_id"] }

def season : DataModel := { entities := [hall, planned] : DataModel }.linkAll

/-- The concert with its references linked. -/
def concert : Entity := planned.linkedIn { entities := [hall, planned] }

/-- The model of the season is sound. -/
theorem sound : season.Sound :=
  .of_entities (by decide) (by decide) (by decide) (by decide)

/-- The concert is one of its entities. -/
theorem concert_mem : concert ∈ season.entities := by
  rw [season, DataModel.entities_linkAll]
  exact List.mem_map_of_mem (List.mem_cons_of_mem _ List.mem_cons_self)

end Concerts

open Concerts

/-- A concert has three columns of its own and one for each of its references. -/
theorem concert_table_and_structure :
    season.Clean ∧ concert ∈ season.entities ∧ ∃ columns,
      Creates concert.creation columns ["id"] ∧ Creates concert.bareCreation columns ["id"] ∧
      columns.map (·.name) = ["id", "title", "opensAt", "hall_id", "host_id"] ∧
      declaredList "COLUMNS" (implText season concert) =
        some ["id", "title", "opensAt", "hall_id", "host_id"] ∧
      declaredList "PRIMARY_KEY" (implText season concert) = some ["id"] ∧
      List.Forall₂ Describes (declaredFields (structText concert)) columns := by
  obtain ⟨columns, keys, hcreates, hbare, hnames, hlist, hkeys, hfields⟩ :=
    table_and_structure sound.clean concert_mem
  have hdeclared : concert.attributes.map (·.column) ++
      concert.references.flatMap (fun r => r.mappings.map (·.column)) =
        ["id", "title", "opensAt", "hall_id", "host_id"] := by decide
  have hkey : keys = ["id"] := by
    have hprimary := declaredList_primaryKey season concert
    rw [hkeys] at hprimary
    exact Option.some_inj.mp hprimary
  rw [hdeclared] at hnames
  rw [hkey] at hcreates hbare hkeys
  rw [hnames] at hlist
  exact ⟨sound.clean, concert_mem, columns, hcreates, hbare, hnames, hlist, hkeys, hfields⟩

end Generation

end Schemata
