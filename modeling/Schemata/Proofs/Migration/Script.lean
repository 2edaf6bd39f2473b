import Schemata.Proofs.Migration.ClosedText
import Schemata.Proofs.Migration.TableByTable

/-!
# The script of a plan

A script says of every section which table changes, in a comment, and then the statements.  The
comment ends where the line ends, and the name of a table is written in it as it is: what stands
behind a line break in the name is read as SQL.  Otherwise a script is read as the statements of the
plan, if types and defaults do not break their statements.

* `readable_sql` - a statement with its semicolon is read as it stands;
* `closed_of_mem_planTo` - what a plan writes as it stands are types and defaults of its model;
* `readScript_exact` - what is read of a script;
* `orders_script_strays` - a table whose name is read as a statement.
-/

namespace Schemata

open Mysql

/-- What a definition writes as it stands, without marks around it. -/
def Definition.texts : Definition → List String
  | .column c => c.type :: c.defaultValue.toList
  | .primaryKey _ => []
  | .index i => i.type.toList
  | .foreignKey _ => []

/-- What a statement writes as it stands. -/
def Statement.texts : Statement → List String
  | .create definitions => definitions.flatMap (·.texts)
  | .add definition => definition.texts
  | .modify column => (Definition.column column).texts
  | _ => []

/-- What the table of an entity is written with: types and defaults of columns, types of indexes. -/
def Entity.texts (e : Entity) : List String := e.definitions.flatMap (·.texts)

namespace Mysql

variable {table : String}

/-- A list of quoted names is closed. -/
theorem isClosed_quoteList (names : List String) : IsClosed (quoteList names) := by
  refine IsClosed.intercalate (by decide) fun part hpart => ?_
  obtain ⟨name, -, rfl⟩ := List.mem_map.mp hpart
  exact isClosed_quote name

/-- The words for a referential action are closed. -/
theorem isClosed_action (action : ReferentialAction) : IsClosed action.sql := by
  cases action <;> decide

/-- A number is closed: it has digits only. -/
theorem isClosed_number (n : Nat) : IsClosed n.repr := by
  have hdigit {c : Char} (hc : c.isDigit = false) : c ∉ n.repr.toList := by
    rw [Nat.toList_repr]
    intro hmem
    rw [Nat.isDigit_of_mem_toDigits (by decide) (by decide) hmem] at hc
    exact Bool.noConfusion hc
  exact isClosed_plain (hdigit (by decide)) (hdigit (by decide))

/-- A part of an index is closed, whatever its column is called. -/
theorem isClosed_indexPart (part : IndexPart) : IsClosed (indexPart part) := by
  refine ((isClosed_quote part.column).append ?_).append ?_
  · cases part.length with
    | none => decide
    | some n =>
      exact ((by decide : IsClosed "(").append (isClosed_number n.toNat)).append (by decide)
  · cases part.sortOrder with
    | none => decide
    | some order => cases order <;> decide

/-- The definition of a column is solid if type and default are closed. -/
theorem solid_columnDefinition {c : ColumnDefinition}
    (h : ∀ text ∈ (Definition.column c).texts, IsClosed text) : Solid (columnDefinition c) := by
  have htype : IsClosed (Text.trim c.type) := (h c.type List.mem_cons_self).trim
  have hrequired : IsClosed (if c.notNull then " NOT NULL" else "") := by split <;> decide
  have hcounting : IsClosed (if c.autoIncrement then " AUTO_INCREMENT" else "") := by
    split <;> decide
  refine (((((solid_quote c.name).append (by decide)).append htype).append hrequired).append
    hcounting).append ?_
  cases hvalue : c.defaultValue with
  | none => exact rfl
  | some value =>
    have hclosed : IsClosed value := h value (by simp [Definition.texts, hvalue])
    exact (by decide : IsClosed " DEFAULT ").append hclosed

/-- The first words of an index are solid. -/
theorem solid_indexKind (i : Index) : Solid (indexKind i ++ "INDEX ") := by
  have hunique : Solid ((if i.unique then "UNIQUE " else "") ++ "INDEX ") := by split <;> decide
  cases htype : i.type with
  | none =>
    rw [indexKind, htype]
    exact hunique
  | some type =>
    by_cases hkind : isIndexKind type = true
    · have hwords : type = "fulltext" ∨ type = "spatial" := by simpa [isIndexKind] using hkind
      have hwritten : indexKind i = Text.uppercase type ++ " " := by simp [indexKind, htype, hkind]
      rw [hwritten]
      rcases hwords with rfl | rfl <;> decide
    · have hwritten : indexKind i = if i.unique then "UNIQUE " else "" := by
        simp [indexKind, htype, hkind]
      rw [hwritten]
      exact hunique

/-- The method of an index is closed if its type is. -/
theorem isClosed_indexMethod {i : Index} (h : ∀ text ∈ i.type, IsClosed text) :
    IsClosed (indexMethod i) := by
  unfold indexMethod
  split
  · rename_i type htype
    split
    · decide
    · exact (by decide : IsClosed " USING ").append (h type htype).uppercase
  · decide

/-- The definition of an index is solid if its type is closed. -/
theorem solid_indexDefinition {i : Index}
    (h : ∀ text ∈ (Definition.index i).texts, IsClosed text) : Solid (indexDefinition i) := by
  have hparts : IsClosed (String.intercalate ", " (i.parts.map indexPart)) := by
    refine IsClosed.intercalate (by decide) fun text htext => ?_
    obtain ⟨part, -, rfl⟩ := List.mem_map.mp htext
    exact isClosed_indexPart part
  have hmethod : IsClosed (indexMethod i) :=
    isClosed_indexMethod fun text htext => h text (Option.mem_toList.mpr htext)
  exact (((((solid_indexKind i).append (isClosed_quote i.name)).append (by decide)).append
    hparts).append (by decide : IsClosed ")")).append hmethod

/-- The clause of a foreign key is solid, whatever names it has. -/
theorem solid_foreignKeyClause (key : ForeignKey) : Solid (foreignKeyClause key) := by
  have hkey : Solid ("CONSTRAINT " ++ quote key.constraint ++ " FOREIGN KEY (" ++
      quoteList key.columns ++ ") REFERENCES " ++ quote key.foreignTable ++ " (" ++
      quoteList key.foreignColumns ++ ")") :=
    ((((((((by decide : Solid "CONSTRAINT ").append (isClosed_quote _)).append (by decide)).append
      (isClosed_quoteList _)).append (by decide)).append (isClosed_quote _)).append
      (by decide)).append (isClosed_quoteList _)).append (by decide)
  have hactions : IsClosed (" ON DELETE " ++ key.onDelete.sql ++ " ON UPDATE " ++
      key.onUpdate.sql) :=
    (((by decide : IsClosed " ON DELETE ").append (isClosed_action _)).append
      (by decide)).append (isClosed_action _)
  have hwhole := hkey.append hactions
  exact hwhole

/-- A definition is solid if the texts that it writes as they stand are closed. -/
theorem solid_definition {d : Definition} (h : ∀ text ∈ d.texts, IsClosed text) :
    Solid (definition d) := by
  cases d with
  | column c => exact solid_columnDefinition h
  | primaryKey columns =>
    exact ((by decide : Solid "PRIMARY KEY (").append (isClosed_quoteList columns)).append
      (by decide)
  | index i => exact solid_indexDefinition h
  | foreignKey key => exact solid_foreignKeyClause key

/-- Behind the first of several definitions the others are on further lines. -/
theorem rows_cons (row next : String) (rest : List String) :
    "    " ++ String.intercalate ",\n    " (row :: next :: rest) =
      "    " ++ row ++ "," ++ "\n" ++ ("    " ++ String.intercalate ",\n    " (next :: rest)) := by
  rw [String.intercalate_cons_cons]
  exact String.toList_inj.mp (by simp)

/-- Definitions on lines of their own, each but the last before a comma, are read as they stand. -/
theorem readable_rows (htable : '\n' ∉ table.toList) {rows : List String} (hne : rows ≠ [])
    (hrows : ∀ row ∈ rows, Solid row) :
    Readable (bind (quote table) ("    " ++ String.intercalate ",\n    " rows)) := by
  induction rows with
  | nil => exact absurd rfl hne
  | cons row rest ih =>
    rw [List.forall_mem_cons] at hrows
    cases rest with
    | nil =>
      rw [String.intercalate_singleton]
      exact (hrows.1.indented.bind htable).readable
    | cons next rest =>
      have hfirst : Solid ("    " ++ row ++ ",") := hrows.1.indented.append (by decide)
      rw [rows_cons, bind_append]
      exact (hfirst.bind htable).readable.append (ih (List.cons_ne_nil _ _) hrows.2)

/-- A table is created in lines: the opening one, those of its definitions, and the closing one. -/
theorem readable_create {definitions : List Definition}
    (hopening : Readable (bind (quote table) "CREATE TABLE !TABLE! ("))
    (hrows : Readable (bind (quote table)
      ("    " ++ String.intercalate ",\n    " (definitions.map definition))))
    (hclosing : Readable (bind (quote table) ")" ++ ";")) :
    Readable (sql table (.create definitions) ++ ";") := by
  have hlines : template (.create definitions) = "CREATE TABLE !TABLE! (" ++ "\n" ++
      (("    " ++ String.intercalate ",\n    " (definitions.map definition)) ++ "\n" ++ ")") := by
    change "CREATE TABLE " ++ "!TABLE!" ++ " (\n    " ++
      String.intercalate ",\n    " (definitions.map definition) ++ "\n)" = _
    exact String.toList_inj.mp (by simp)
  have hsql : sql table (.create definitions) ++ ";" =
      bind (quote table) "CREATE TABLE !TABLE! (" ++ "\n" ++
        (bind (quote table)
            ("    " ++ String.intercalate ",\n    " (definitions.map definition)) ++ "\n" ++
          (bind (quote table) ")" ++ ";")) := by
    rw [sql, hlines, bind_append, bind_append]
    simp only [String.append_assoc]
  rw [hsql]
  exact hopening.append (hrows.append hclosing)

/-- **A statement with its semicolon is read as it stands** if what it writes as it stands is closed
and the table has its name on one line. -/
theorem readable_sql {s : Statement} (htable : '\n' ∉ table.toList)
    (htexts : ∀ text ∈ s.texts, IsClosed text) (hcreated : s ≠ .create []) :
    Readable (sql table s ++ ";") := by
  have hsemicolon : IsClosed ";" := by decide
  have hone {s : Statement} (hsolid : Solid (template s)) : Readable (sql table s ++ ";") :=
    ((hsolid.bind htable).append hsemicolon).readable
  have hplace : IsClosed placeholder := by decide
  have halter : Solid ("ALTER TABLE " ++ placeholder) := by decide
  cases s with
  | create definitions =>
    have hne : definitions.map definition ≠ [] := fun h =>
      hcreated (congrArg Statement.create (List.map_eq_nil_iff.mp h))
    have hrows : ∀ row ∈ definitions.map definition, Solid row := by
      intro row hrow
      obtain ⟨d, hd, rfl⟩ := List.mem_map.mp hrow
      exact solid_definition fun text htext => htexts text (List.mem_flatMap.mpr ⟨d, hd, htext⟩)
    have hopening : Solid (bind (quote table) "CREATE TABLE !TABLE! (") :=
      Solid.bind (by decide) htable
    have hclosing : Solid (bind (quote table) ")" ++ ";") :=
      (Solid.bind (by decide) htable).append hsemicolon
    exact readable_create hopening.readable (readable_rows htable hne hrows) hclosing.readable
  | drop => exact hone ((by decide : Solid "DROP TABLE IF EXISTS ").append hplace)
  | add d => exact hone ((halter.append (by decide)).append (solid_definition htexts).closed)
  | modify c =>
    exact hone ((halter.append (by decide)).append (solid_columnDefinition htexts).closed)
  | dropColumn name => exact hone ((halter.append (by decide)).append (isClosed_quote name))
  | dropForeignKey name => exact hone ((halter.append (by decide)).append (isClosed_quote name))
  | dropIndex name => exact hone ((halter.append (by decide)).append (isClosed_quote name))

end Mysql

/-- What the statement writes as it stands, it takes from the entity. -/
structure Statement.WrittenFrom (s : Statement) (e : Entity) : Prop where
  texts : ∀ text ∈ s.texts, text ∈ e.texts
  created : s = .create [] → e.definitions = []

namespace TableDifference

variable {old new : Entity} {s : Statement}

/-- A statement that writes nothing as it stands is written from any entity. -/
theorem writtenFrom_of_nil (h : s.texts = [] ∧ s ≠ .create []) (e : Entity) : s.WrittenFrom e :=
  ⟨fun _ htext => absurd (h.1 ▸ htext) List.not_mem_nil, fun hcreated => absurd hcreated h.2⟩

/-- The types of all columns are among the texts of an entity. -/
theorem type_mem_texts {e : Entity} {c : ColumnDefinition} (h : c ∈ e.columnDefinitions) :
    c.type ∈ e.texts := by
  refine List.mem_flatMap.mpr ⟨.column c, ?_, List.mem_cons_self⟩
  exact List.mem_append_left _ (List.mem_append_left _ (List.mem_map_of_mem h))

theorem type_mem_texts_of_attribute {e : Entity} {a : Attribute} (h : a ∈ e.attributes) :
    a.type ∈ e.texts :=
  type_mem_texts (c := a.definition) (List.mem_append_left _ (List.mem_map_of_mem h))

theorem type_mem_texts_of_reference {e : Entity} {r : Reference} {c : LinkedColumn}
    (hr : r ∈ e.references) (hc : c ∈ r.columns) : c.type ∈ e.texts := by
  refine type_mem_texts (c := { name := c.column, type := c.type, notNull := r.required }) ?_
  exact List.mem_append_right _ (List.mem_flatMap.mpr ⟨r, hr, List.mem_map_of_mem hc⟩)

/-- What changes an attribute writes type and default of the new one. -/
theorem writtenFrom_attributeChange {a : Attribute} {before : Option Attribute}
    (ha : a ∈ new.attributes) (h : s ∈ attributeChange before (some a)) : s.WrittenFrom new := by
  have htype : ∀ text ∈ [a.type], text ∈ new.texts := by
    simpa using type_mem_texts_of_attribute ha
  cases before with
  | none =>
    obtain rfl := List.mem_singleton.mp h
    exact ⟨htype, by simp⟩
  | some before =>
    rw [attributeChange] at h
    split at h
    · cases h
    · obtain rfl := List.mem_singleton.mp h
      exact ⟨htype, by simp⟩

/-- What changes columns takes types and defaults from the new version. -/
theorem writtenFrom_columnChanges (h : s ∈ columnChanges old new) : s.WrittenFrom new := by
  simp only [columnChanges, List.mem_append, List.mem_flatMap] at h
  rcases h with ((⟨r, _, hs⟩ | ⟨a, _, hs⟩) | ⟨a, ha, hs⟩) | ⟨r, hr, hs⟩
  · obtain ⟨c, _, rfl⟩ := List.mem_map.mp hs
    exact writtenFrom_of_nil (by exact ⟨rfl, by simp⟩) new
  · obtain rfl := List.mem_singleton.mp hs
    exact writtenFrom_of_nil (by exact ⟨rfl, by simp⟩) new
  · exact writtenFrom_attributeChange ha hs
  · obtain ⟨c, hc, rfl⟩ := List.mem_map.mp hs
    have htype := type_mem_texts_of_reference (List.mem_filter.mp hr).1 hc
    exact ⟨by simpa [Statement.texts, Definition.texts] using htype, by simp⟩

/-- What alters a table takes from the new version what it writes as it stands. -/
theorem writtenFrom_altered {step : Step} (h : s ∈ altered old new step) : s.WrittenFrom new := by
  cases step with
  | dropForeignKeys =>
    obtain ⟨r, _, rfl⟩ := List.mem_map.mp h
    exact writtenFrom_of_nil (by exact ⟨rfl, by simp [Reference.dropConstraint]⟩) new
  | dropIndexes =>
    obtain ⟨i, _, hs⟩ := List.mem_flatMap.mp h
    obtain rfl := List.mem_singleton.mp hs
    exact writtenFrom_of_nil (by exact ⟨rfl, by simp⟩) new
  | dropTables => cases h
  | createTables => cases h
  | changeColumns => exact writtenFrom_columnChanges h
  | addForeignKeys =>
    obtain ⟨r, _, rfl⟩ := List.mem_map.mp h
    exact writtenFrom_of_nil (by exact ⟨rfl, by simp [Reference.addConstraint]⟩) new
  | addIndexes =>
    obtain ⟨i, hi, hs⟩ := List.mem_flatMap.mp h
    obtain rfl := List.mem_singleton.mp hs
    refine ⟨fun text htext => List.mem_flatMap.mpr ⟨.index i, ?_, htext⟩, by simp⟩
    exact List.mem_append_right _ (List.mem_map_of_mem (List.mem_filter.mp hi).1)

/-- What creates a table takes from its entity what it writes as it stands. -/
theorem writtenFrom_created {step : Step} (h : s ∈ created new step) : s.WrittenFrom new := by
  cases step with
  | createTables =>
    obtain rfl := List.mem_singleton.mp h
    exact ⟨fun _ htext => htext, fun hempty => Statement.create.inj hempty⟩
  | addForeignKeys =>
    obtain ⟨r, _, rfl⟩ := List.mem_map.mp h
    exact writtenFrom_of_nil (by exact ⟨rfl, by simp [Reference.addConstraint]⟩) new
  | _ => cases h

end TableDifference

namespace DataModel

variable {a b : DataModel}

/-- **A plan takes from its model what it writes as it stands.** -/
theorem writtenFrom_of_mem_sections {part : Section} (h : part ∈ (a.planTo b).sections)
    {s : Statement} (hs : s ∈ part.statements) :
    s = .drop ∨ ∃ e ∈ b.entities, s.WrittenFrom e := by
  rw [sections_planTo] at h
  obtain ⟨step, -, h⟩ := List.mem_flatMap.mp h
  obtain ⟨t, ht, hpart⟩ := List.mem_filterMap.mp h
  rw [(TableMigration.section?_eq_some hpart).2.2] at hs
  rcases List.mem_append.mp ht with hdropped | hkept
  · obtain ⟨e, -, rfl⟩ := List.mem_map.mp hdropped
    left
    cases step with
    | dropTables => exact List.mem_singleton.mp hs
    | _ => cases hs
  · obtain ⟨e, he, rfl⟩ := List.mem_map.mp hkept
    right
    refine ⟨e, mem_of_mem_dependencyOrder he, ?_⟩
    split at hs
    · exact TableDifference.writtenFrom_created hs
    · exact TableDifference.writtenFrom_altered hs

/-- Every table of a clean model has definitions, those of its primary key at least. -/
theorem Clean.definitions_ne_nil (h : b.Clean) {e : Entity} (he : e ∈ b.entities) :
    e.definitions ≠ [] := by
  obtain ⟨key, others, hcons⟩ := List.exists_cons_of_ne_nil (h.primaryKey_ne_nil he)
  have hdefinition : e.keyDefinition ≠ [] := by simp [Entity.keyDefinition, hcons]
  simp [Entity.definitions, hdefinition]

end DataModel

namespace Section

/-- The comment that a section begins with. -/
def heading (s : Section) : String := "-- " ++ s.change.word ++ " " ++ s.table

/-- The lines of a section, as far as they are not broken by names. -/
def lines (s : Section) : List String := s.heading :: (s.sql.map (· ++ ";") ++ [""])

/-- The script of a section: its heading, then a statement a line, then a blank line. -/
theorem script_eq (s : Section) :
    s.script = s.heading ++ "\n" ++ String.join (s.sql.map (· ++ ";\n")) ++ "\n" := by
  refine String.toList_inj.mp ?_
  change ("-- " ++ s.change.word ++ " " ++ s.table ++ "\n" ++
    String.join (s.sql.map (· ++ ";\n")) ++ "\n").toList = _
  rw [heading]

/-- The script of a section is made of its lines. -/
theorem script_eq_join (s : Section) : s.script = String.join (s.lines.map (· ++ "\n")) := by
  have hstatements : (s.sql.map (· ++ ";")).map (· ++ "\n") = s.sql.map (· ++ ";\n") := by
    rw [List.map_map]
    exact List.map_congr_left fun sql _ => String.append_assoc ..
  rw [script_eq, lines, List.map_cons, List.map_append, hstatements, String.join_cons,
    String.join_append, String.append_assoc]
  rfl

/-- A heading starts as a comment on one line. -/
theorem start_heading (s : Section) :
    '\n' ∉ ("-- " ++ s.change.word ++ " ").toList ∧
      ∀ rest, isSilent (("-- " ++ s.change.word ++ " ").toList ++ rest) = true := by
  cases s.change <;> exact ⟨by decide, fun rest => rfl⟩

/-- Broken into lines, a heading is a comment and the further lines of the name of its table. -/
theorem splitOn_heading (s : Section) :
    ∃ line, isSilent line = true ∧
      s.heading.toList.splitOn '\n' = line :: (s.table.toList.splitOn '\n').tail := by
  obtain ⟨hbreak, hsilent⟩ := s.start_heading
  refine ⟨_, hsilent (firstLine s.table.toList), ?_⟩
  rw [heading, String.toList_append]
  exact splitOn_prepend hbreak s.table.toList

/-- **Nothing is read of the comment of a section** exactly if every line of the name of its table,
but the first, is blank or a comment. -/
theorem readScript_heading_iff (s : Section) :
    readScript (s.heading ++ "\n") = "" ↔
      ∀ line ∈ (s.table.toList.splitOn '\n').tail, isSilent line = true := by
  obtain ⟨first, hfirst, hlines⟩ := s.splitOn_heading
  have hchars : (s.heading ++ "\n").toList = s.heading.toList ++ '\n' :: [] := by simp
  rw [readScript_eq_empty_iff, hchars, splitOn_append, hlines]
  constructor
  · intro h line hline
    exact h line (List.mem_append_left _ (List.mem_cons_of_mem _ hline))
  · intro h line hline
    rcases List.mem_append.mp hline with hheading | hlast
    · rcases List.mem_cons.mp hheading with rfl | htail
      · exact hfirst
      · exact h line htail
    · obtain rfl := List.mem_singleton.mp hlast
      rfl

/-- Of a section is read what is read of its heading, and then the statements if all of them are. -/
theorem readAs (s : Section) {strays : List (List Char)}
    (hheading : ReadAs (s.heading.toList.splitOn '\n') strays)
    (hsql : ∀ sql ∈ s.sql, Readable (sql ++ ";")) :
    ReadAs (s.lines.flatMap (·.toList.splitOn '\n'))
      (strays ++ s.sql.flatMap fun sql => (sql ++ ";").toList.splitOn '\n') := by
  have hstatements : ReadAs ((s.sql.map (· ++ ";")).flatMap (·.toList.splitOn '\n'))
      (s.sql.flatMap fun sql => (sql ++ ";").toList.splitOn '\n') := by
    rw [List.flatMap_map]
    exact .flatMap hsql
  have hblank : ReadAs ([""].flatMap (·.toList.splitOn '\n')) [] := .silent rfl
  rw [lines, List.flatMap_cons, List.flatMap_append]
  simpa using hheading.append (hstatements.append hblank)

/-- Nothing is read of the heading of a table whose name is on one line. -/
theorem readAs_heading (s : Section) (htable : '\n' ∉ s.table.toList) :
    ReadAs (s.heading.toList.splitOn '\n') [] := by
  obtain ⟨first, hfirst, hlines⟩ := s.splitOn_heading
  rw [hlines, splitOn_line htable]
  exact .silent hfirst

end Section

/-- A plan is read section by section: what is read of the heading, and then the statements. -/
theorem Plan.readScript_sections (p : Plan) (strays : Section → List String)
    (h : ∀ s ∈ p.sections,
      ReadAs (s.heading.toList.splitOn '\n') ((strays s).map (·.toList)) ∧
      ∀ sql ∈ s.sql, Readable (sql ++ ";")) :
    readScript p.script = String.join (p.sections.map fun s =>
      String.join ((strays s).map (· ++ "\n")) ++ String.join (s.sql.map (· ++ ";\n"))) := by
  have hscript : p.script = String.join ((p.sections.flatMap (·.lines)).map (· ++ "\n")) := by
    refine String.toList_inj.mp ?_
    simp only [Plan.script, Section.script_eq_join, String.toList_join, List.map_flatMap,
      List.flatMap_map, List.flatMap_assoc]
  have hread : ReadAs ((p.sections.flatMap (·.lines)).flatMap (·.toList.splitOn '\n'))
      (p.sections.flatMap fun s => (strays s).map (·.toList) ++
        s.sql.flatMap fun sql => (sql ++ ";").toList.splitOn '\n') := by
    rw [List.flatMap_assoc]
    exact .flatMap fun s hs => s.readAs (h s hs).1 (h s hs).2
  have hlast : readLines false [[]] = [] := rfl
  rw [readScript, hscript, splitOn_join, hread, hlast, List.append_nil]
  refine String.toList_inj.mp ?_
  simp [String.toList_join, List.flatMap_assoc, List.flatMap_map, flatMap_splitOn]

/-- A plan whose sections are read as their statements is read as its statements. -/
theorem Plan.readScript_eq (p : Plan)
    (h : ∀ s ∈ p.sections, '\n' ∉ s.table.toList ∧ ∀ sql ∈ s.sql, Readable (sql ++ ";")) :
    readScript p.script = String.join (p.sql.map (· ++ ";\n")) := by
  rw [p.readScript_sections (fun _ => []) fun s hs =>
    ⟨s.readAs_heading (h s hs).1, (h s hs).2⟩]
  refine String.toList_inj.mp ?_
  simp [Plan.sql, String.toList_join, List.flatMap_map, List.flatMap_assoc]

namespace DataModel

variable {a b : DataModel}

/-- **What is read of the script of a plan.**  If no table that the plan is about has a line break
in its name, and types and defaults of the model are closed, then these are the statements of the
plan in their order, each with its semicolon.  Of the comment of a section, nothing is read exactly
if no further line of the name of its table is anything but blank or a comment. -/
theorem readScript_exact (hb : b.Clean)
    (htexts : ∀ e ∈ b.entities, ∀ text ∈ e.texts, IsClosed text) :
    ((∀ s ∈ (a.planTo b).sections, '\n' ∉ s.table.toList) →
      readScript (a.planTo b).script = String.join ((a.planTo b).sql.map (· ++ ";\n"))) ∧
    ∀ s ∈ (a.planTo b).sections,
      s.script = s.heading ++ "\n" ++ String.join (s.sql.map (· ++ ";\n")) ++ "\n" ∧
      (readScript (s.heading ++ "\n") = "" ↔
        ∀ line ∈ (s.table.toList.splitOn '\n').tail, isSilent line = true) := by
  refine ⟨fun htables => Plan.readScript_eq _ fun part hpart => ⟨htables part hpart, ?_⟩,
    fun s _ => ⟨s.script_eq, s.readScript_heading_iff⟩⟩
  intro sql hsql
  obtain ⟨s, hs, rfl⟩ := List.mem_map.mp hsql
  rcases writtenFrom_of_mem_sections hpart hs with rfl | ⟨e, he, hwritten⟩
  · exact readable_sql (htables part hpart) (by simp [Statement.texts]) (by simp)
  · refine readable_sql (htables part hpart)
      (fun text htext => htexts e he text (hwritten.texts text htext)) fun hcreated => ?_
    exact hb.definitions_ne_nil he (hwritten.created hcreated)

end DataModel

namespace Purchases

/-- Orders with a default and an index. -/
def order : Entity :=
  { id := .ofNat 1, className := "Order", table := "orders",
    attributes := [.identity,
      { name := "state", column := "state", type := "VARCHAR(20)", defaultValue := some "'new'" }],
    indexes := [{ name := "by_state", type := some "btree", parts := [{ name := "state" }] }] }

def model : DataModel := DataModel.linkAll { entities := [order] }

theorem sound : model.Sound :=
  .of_entities (by simp) (by simp) (by simp) (by decide)

/-- Orders in a table whose name goes on, behind a line break, with a statement. -/
def brokenOrder : Entity :=
  { id := .ofNat 1, className := "Order", table := "orders\nDROP TABLE users;",
    attributes := [.identity] }

def brokenModel : DataModel := DataModel.linkAll { entities := [brokenOrder] }

theorem sound_broken : brokenModel.Sound :=
  .of_entities (by simp) (by simp) (by simp) (by decide)

/-- The one section of its plan from nothing. -/
def brokenSection : Section :=
  { table := brokenOrder.table, change := .create, step := .createTables,
    statements := [.create brokenOrder.definitions] }

/-- Of its heading the second line is read. -/
theorem readAs_brokenHeading :
    ReadAs (brokenSection.heading.toList.splitOn '\n') ["DROP TABLE users;".toList] := by
  obtain ⟨first, hfirst, hlines⟩ := brokenSection.splitOn_heading
  have hsecond : (brokenSection.table.toList.splitOn '\n').tail = ["DROP TABLE users;".toList] := by
    decide
  have hstray : Readable "DROP TABLE users;" := Solid.readable (by decide)
  rw [Readable, splitOn_line (by decide)] at hstray
  rw [hlines, hsecond]
  exact ReadAs.append (.silent hfirst) hstray

/-- Its statement is read as it stands, the line break in the name included. -/
theorem readable_brokenSql {sql : String} (h : sql ∈ brokenSection.sql) : Readable (sql ++ ";") := by
  have hrows : brokenOrder.definitions.map definition =
      ["\x60id\x60 INT NOT NULL AUTO_INCREMENT", "PRIMARY KEY (\x60id\x60)"] := by decide +kernel
  obtain rfl := List.mem_singleton.mp h
  refine readable_create (Solid.readable (by decide)) ?_ (Solid.readable (by decide))
  rw [hrows, rows_cons, String.intercalate_singleton, bind_append]
  exact .append (Solid.readable (by decide)) (Solid.readable (by decide))

end Purchases

namespace DataModel

open Purchases

/-- The script of a new table with a plain name is read as its statements. -/
theorem orders_readScript_exact :
    model.Clean ∧ (∀ e ∈ model.entities, ∀ text ∈ e.texts, IsClosed text) ∧
    (∀ s ∈ (planTo {} model).sections, '\n' ∉ s.table.toList) ∧
    readScript (planTo {} model).script = String.join ((planTo {} model).sql.map (· ++ ";\n")) := by
  have htexts : ∀ e ∈ model.entities, ∀ text ∈ e.texts, IsClosed text := by decide
  have htables : ∀ s ∈ (planTo {} model).sections, '\n' ∉ s.table.toList := by decide
  exact ⟨sound.clean, htexts, htables, (readScript_exact sound.clean htexts).1 htables⟩

/-- What stands behind a line break in the name of a table is read as a statement of its own. -/
theorem orders_script_strays :
    brokenModel.Sound ∧
    (∀ e ∈ brokenModel.entities, ∀ text ∈ e.texts, '\n' ∉ text.toList) ∧
    readScript (planTo {} brokenModel).script =
      "DROP TABLE users;\n" ++ String.join ((planTo {} brokenModel).sql.map (· ++ ";\n")) ∧
    readScript (planTo {} brokenModel).script ≠
      String.join ((planTo {} brokenModel).sql.map (· ++ ";\n")) := by
  have hsections : (planTo {} brokenModel).sections = [brokenSection] := by decide +kernel
  have hread : readScript (planTo {} brokenModel).script =
      "DROP TABLE users;\n" ++ String.join ((planTo {} brokenModel).sql.map (· ++ ";\n")) := by
    rw [Plan.readScript_sections _ fun _ => ["DROP TABLE users;"], Plan.sql, hsections]
    · simp
    · intro s hs
      obtain rfl := List.mem_singleton.mp (hsections ▸ hs)
      exact ⟨readAs_brokenHeading, fun _ => readable_brokenSql⟩
  have htexts : ∀ e ∈ brokenModel.entities, ∀ text ∈ e.texts, '\n' ∉ text.toList := by decide
  refine ⟨sound_broken, htexts, hread, fun hsame => ?_⟩
  have hlength := congrArg String.length (hread.symm.trans hsame)
  rw [String.length_append] at hlength
  have hstray : "DROP TABLE users;\n".length = 18 := by decide
  omega

end DataModel

end Schemata
