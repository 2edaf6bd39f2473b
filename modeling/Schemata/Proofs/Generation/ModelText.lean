import Schemata.Proofs.Generation.SourceText
import Schemata.Proofs.Generation.Ways
import Schemata.Proofs.Text.Literals
import Schemata.Proofs.Text.Marks

/-!
# The items of model files

The public items of a generated structure are its fields, those of its functions are three constants
and the accessors.  They stand in the text in that order, one on each line, and no name that a model
has can add an item to them or take one away.

* `itemLines_structText` - the items of a structure are the fields;
* `itemLines_implText` - the items behind it are the constants and the accessors.
-/

namespace Schemata.Generation

open Text

variable {m : DataModel} {e : Entity}

/-- The line of a field. -/
def Field.line (f : Field) : String := itemOpening ++ (f.name ++ ": " ++ f.type ++ ",")

/-- The line of the constant that holds the table. -/
def tableLine (table : String) : String :=
  itemOpening ++ ("const TABLE: &'static str = " ++ quoted table ++ ";")

/-- The line of a constant that lists texts. -/
def listLine (name : String) (items : List String) : String :=
  itemOpening ++
    ("const " ++ name ++ ": &'static [&'static str] = &[" ++ literals items ++ "];")

/-- The line that a function begins with. -/
def Accessor.line (a : Accessor) : String :=
  itemOpening ++ ("fn " ++ a.name ++ "() -> &'static str \x7b")

/-- The lines of the constants of an entity. -/
def constantLines (e : Entity) : List String :=
  [tableLine e.table, listLine "COLUMNS" e.columnNames,
    listLine "PRIMARY_KEY" (e.primaryKey.map (·.column))]

/-- An empty line has no item on it. -/
theorem shows_blank : Shows "\n" [] := by
  have h : Shows ("" ++ "\n") [] := shows_line (by decide) (by decide)
  exact h

/-- A closing brace has no item on it. -/
theorem shows_brace : Shows "\x7d\n" [] := by
  have h : Shows ("\x7d" ++ "\n") [] := shows_line (by decide) (by decide)
  exact h

/-- The code of a type is on one line. -/
theorem break_not_mem_fieldCode (type : String) (nullable : Bool) :
    '\n' ∉ (fieldCode type nullable).toList := by
  have hbits (bits : Nat) : '\n' ∉ Nat.toDigits 10 bits := fun h =>
    Bool.false_ne_true (Nat.isDigit_of_mem_toDigits (by decide) (by decide) h)
  have hcode (t : FieldType) : '\n' ∉ t.code.toList := by
    unfold FieldType.code
    split <;> simp [hbits]
  cases nullable with
  | false => exact hcode _
  | true =>
    have hnullable : fieldCode type true = "Option<" ++ (FieldType.ofColumnType type).code ++ ">" :=
      rfl
    simp [hnullable, hcode]

/-- Every field gets its name from a column and its code from a type. -/
theorem exists_fieldName {f : Field} (h : f ∈ fields e) :
    ∃ column type nullable, f.name = fieldName column ∧ f.type = fieldCode type nullable := by
  rw [fields, List.mem_append, List.mem_map, List.mem_flatMap] at h
  rcases h with ⟨a, -, rfl⟩ | ⟨r, -, hr⟩
  · exact ⟨a.column, a.type, !a.notNull, rfl, rfl⟩
  · obtain ⟨c, -, rfl⟩ := List.mem_map.mp hr
    exact ⟨c.column, c.type, !r.required, rfl, rfl⟩

/-- The line of a field is one line. -/
theorem break_not_mem_line {f : Field} (h : f ∈ fields e) : '\n' ∉ f.line.toList := by
  obtain ⟨column, type, nullable, hname, htype⟩ := exists_fieldName h
  have hcolumn : '\n' ∉ (fieldName column).toList :=
    not_mem_fieldName (by decide) (by decide) (by decide) column
  simp [Field.line, itemOpening, hname, htype, hcolumn, break_not_mem_fieldCode]

/-- A field is an item, behind its documentation. -/
theorem shows_field {f : Field} (h : f ∈ fields e) : Shows f.text [f.line] := by
  have hline : Shows (f.line ++ "\n") [f.line] :=
    shows_item (break_not_mem_line h) (isItem_append _)
  have htext : f.text = (f.doc.elim "" (docComment · 4)) ++ (f.line ++ "\n") := by
    apply String.toList_inj.mp
    obtain ⟨doc, name, type⟩ := f
    cases doc <;> simp [Field.text, Field.line, itemOpening]
  rw [htext]
  cases f.doc with
  | none => rwa [Option.elim_none, String.empty_append]
  | some doc => exact (shows_docComment doc (Or.inr rfl)).append hline

/-- **The items of a structure are the fields** of the entity. -/
theorem itemLines_structText (e : Entity) :
    itemLines (structText e) = (fields e).map (·.line) := by
  have hderive : Shows "#[derive(Debug, Clone, PartialEq, Default)]\n" [] := by
    have h : Shows ("#[derive(Debug, Clone, PartialEq, Default)]" ++ "\n") [] :=
      shows_line (by decide) (by decide)
    exact h
  have hopening : Shows ("pub struct " ++ structName e ++ " \x7b\n") [] := by
    have hbrace : "pub struct " ++ structName e ++ " \x7b\n" =
        "pub struct " ++ structName e ++ " \x7b" ++ "\n" := by
      apply String.toList_inj.mp
      simp
    have hname : '\n' ∉ (structName e).toList := not_mem_structName (by decide) e
    rw [hbrace]
    apply shows_line
    · simp [hname]
    · simp [IsItem, itemOpening]
  have hfields : Shows (String.join ((fields e).map (·.text))) ((fields e).map (·.line)) :=
    Shows.join_items fun _ hf => shows_field hf
  have hshows := ((((shows_docComment ("Row of table " ++ shown e.table) (Or.inl rfl)).append
    hderive).append hopening).append hfields).append shows_brace
  rw [List.append_nil, List.append_nil, List.append_nil, List.nil_append] at hshows
  have htext : structText e = docComment ("Row of table " ++ shown e.table) 0
      ++ "#[derive(Debug, Clone, PartialEq, Default)]\n"
      ++ ("pub struct " ++ structName e ++ " \x7b\n")
      ++ String.join ((fields e).map (·.text)) ++ "\x7d\n" := by
    unfold structText
    rw [← String.append_assoc, ← String.append_assoc]
  rw [htext, hshows.itemLines_eq]

/-- Every accessor gets what its declaration says. -/
theorem exists_getterName {a : Accessor} (h : a ∈ accessors m e) :
    ∃ accessor, a.name = getterName accessor := by
  rcases accessor_cases h with ⟨r, -, hr⟩ | ⟨c, -, hc⟩ | ⟨r, -, hr⟩
  · simp only [referenceAccessor?, Option.bind_eq_bind, Option.bind_eq_some_iff, Option.pure_def,
      Option.some_inj] at hr
    obtain ⟨_, -, rfl⟩ := hr
    exact ⟨r.accessor, rfl⟩
  · refine ⟨c.accessor, ?_⟩
    rw [collectorAccessor?] at hc
    split at hc
    · simp only [Option.bind_eq_bind, Option.bind_eq_some_iff] at hc
      obtain ⟨_, -, _, -, _, -, hc⟩ := hc
      split at hc
      · simp only [manyToManyAccessor?, Option.bind_eq_bind, Option.bind_eq_some_iff,
          Option.pure_def, Option.some_inj] at hc
        obtain ⟨_, -, _, -, _, -, _, -, rfl⟩ := hc
        rfl
      · simp only [oneToManyAccessor?, Option.bind_eq_bind, Option.bind_eq_some_iff,
          Option.pure_def, Option.some_inj] at hc
        obtain ⟨_, -, rfl⟩ := hc
        rfl
    · cases hc
  · simp only [reciprocalAccessor?, Option.bind_eq_bind, Option.bind_eq_some_iff, Option.pure_def,
      Option.some_inj] at hr
    obtain ⟨_, -, _, -, _, -, _, -, _, -, _, -, rfl⟩ := hr
    exact ⟨r.accessor, rfl⟩

/-- The name of an accessor is on one line. -/
theorem break_not_mem_name {a : Accessor} (h : a ∈ accessors m e) : '\n' ∉ a.name.toList := by
  obtain ⟨accessor, hname⟩ := exists_getterName h
  have hsnake : '\n' ∉ (snake accessor).toList := by
    intro hmem
    have hunderscore := eq_underscore_of_mem_snake (by decide) hmem
    revert hunderscore
    decide
  simp [hname, getterName, hsnake]

/-- Of the text of an accessor, the line of its function shows. -/
theorem shows_accessor {a : Accessor} (h : a ∈ accessors m e) : Shows a.text [a.line] := by
  have hline : Shows (a.line ++ "\n") [a.line] := by
    apply shows_item
    · simp [Accessor.line, itemOpening, break_not_mem_name h]
    · exact isItem_append _
  have hquery : Shows ("        " ++ quoted a.query.sql ++ "\n") [] := by
    apply shows_line
    · simp [break_not_mem_quoted]
    · simp [IsItem, itemOpening]
  have hclosing : Shows ("    \x7d" ++ "\n") [] := shows_line (by decide) (by decide)
  have htext : a.text = "\n" ++ docComment a.doc 4 ++ (a.line ++ "\n")
      ++ ("        " ++ quoted a.query.sql ++ "\n") ++ ("    \x7d" ++ "\n") := by
    apply String.toList_inj.mp
    simp [Accessor.text, Accessor.line, itemOpening]
  rw [htext]
  have hdoc := shows_blank.append (shows_docComment a.doc (Or.inr rfl))
  exact ((hdoc.append hline).append hquery).append hclosing

/-- A literal stays on its line, and so do several. -/
theorem break_not_mem_literals (items : List String) : '\n' ∉ (literals items).toList := by
  intro h
  rcases mem_intercalate h with hbetween | ⟨_, hmem, hinside⟩
  · revert hbetween
    decide
  · obtain ⟨item, -, rfl⟩ := List.mem_map.mp hmem
    exact break_not_mem_quoted item hinside

/-- The constant of a list is one line. -/
theorem listConstant_eq (name : String) (items : List String) :
    listConstant name items = listLine name items ++ "\n" := by
  have hopening : "    pub const " = itemOpening ++ "const " := rfl
  have hend : "];\n" = "];" ++ "\n" := rfl
  unfold listConstant listLine
  rw [hopening, hend]
  simp only [String.append_assoc]

/-- The functions of an entity begin with the constants. -/
theorem shows_constants (e : Entity) :
    Shows ("impl " ++ structName e ++ " \x7b" ++ "\n" ++ docComment "Table name" 4
      ++ (tableLine e.table ++ "\n") ++ "\n"
      ++ docComment "Column names in declaration order" 4
      ++ (listLine "COLUMNS" e.columnNames ++ "\n") ++ "\n"
      ++ docComment "Primary key columns" 4
      ++ (listLine "PRIMARY_KEY" (e.primaryKey.map (·.column)) ++ "\n")) (constantLines e) := by
  have hopening : Shows ("impl " ++ structName e ++ " \x7b" ++ "\n") [] := by
    have hname : '\n' ∉ (structName e).toList := not_mem_structName (by decide) e
    apply shows_line
    · simp [hname]
    · simp [IsItem, itemOpening]
  have hdoc (text : String) : Shows (docComment text 4) [] := shows_docComment text (Or.inr rfl)
  have htable : Shows (tableLine e.table ++ "\n") [tableLine e.table] := by
    apply shows_item
    · simp [tableLine, itemOpening, break_not_mem_quoted]
    · exact isItem_append _
  have hlist (name : String) (items : List String) (hname : '\n' ∉ name.toList) :
      Shows (listLine name items ++ "\n") [listLine name items] := by
    apply shows_item
    · simp [listLine, itemOpening, hname, break_not_mem_literals]
    · exact isItem_append _
  have hcolumns := (((hopening.append (hdoc "Table name")).append htable).append
    shows_blank).append (hdoc "Column names in declaration order")
  have hkeys := ((hcolumns.append (hlist "COLUMNS" e.columnNames (by decide))).append
    shows_blank).append (hdoc "Primary key columns")
  have hall := hkeys.append (hlist "PRIMARY_KEY" (e.primaryKey.map (·.column)) (by decide))
  simpa only [constantLines, List.nil_append, List.append_nil, List.cons_append] using hall

/-- **The items of the functions are the constants and the accessors** of the entity. -/
theorem itemLines_implText (m : DataModel) (e : Entity) :
    itemLines (implText m e) = constantLines e ++ (accessors m e).map (·.line) := by
  have haccessors : Shows (String.join ((accessors m e).map (·.text)))
      ((accessors m e).map (·.line)) := Shows.join_items fun _ ha => shows_accessor ha
  have hbrace : "impl " ++ structName e ++ " \x7b\n" =
      "impl " ++ structName e ++ " \x7b" ++ "\n" := by
    apply String.toList_inj.mp
    simp
  have htable (before : String) :
      before ++ "    pub const TABLE: &'static str = " ++ quoted e.table ++ ";\n\n" =
        before ++ (tableLine e.table ++ "\n") ++ "\n" := by
    apply String.toList_inj.mp
    simp [tableLine, itemOpening]
  have hshows := ((shows_constants e).append haccessors).append shows_brace
  rw [List.append_nil] at hshows
  unfold implText
  rw [hbrace, htable, listConstant_eq, listConstant_eq]
  exact hshows.itemLines_eq

end Schemata.Generation
