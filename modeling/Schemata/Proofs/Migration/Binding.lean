import Schemata.Migration.Difference
import Schemata.Migration.Mysql
import Schemata.Proofs.Model.Sound
import Schemata.Proofs.Text.Occurrences

/-!
# Binding a statement to its table

A statement is written about a placeholder, and binding it puts the table there.  The placeholder is
looked for in the whole statement, and whatever a schema says may hold it: the names of columns,
tables, constraints and indexes, the types of columns and indexes, the default values.  There it is
replaced too, and nothing else is.

* `hasPlaceholder_between`, `hasPlaceholder_quote` - where the placeholder is in a text that is put
  together;
* `hasPlaceholder_ending` - behind its table a statement has the placeholder exactly where an entry
  of the schema has it;
* `sql_eq` - binding puts the table in its place, and binds what is behind it;
* `binding_exact` - when statements are bound as they were written;
* `letter_default_changed` - a default value that is not what the schema says.
-/

namespace Schemata

open Mysql

/-- What a column definition takes from the schema. -/
def ColumnDefinition.entries (c : ColumnDefinition) : List String :=
  c.name :: c.type :: c.defaultValue.toList

/-- What the definition of an index takes from the schema; its type is written in upper case. -/
def Index.entries (i : Index) : List String :=
  i.name :: i.parts.map (·.column) ++ (i.type.map Text.uppercase).toList

/-- What the clause of a foreign key takes from the schema. -/
def ForeignKey.entries (key : ForeignKey) : List String :=
  key.constraint :: key.columns ++ key.foreignTable :: key.foreignColumns

/-- What a definition takes from the schema. -/
def Definition.entries : Definition → List String
  | .column c => c.entries
  | .primaryKey columns => columns
  | .index i => i.entries
  | .foreignKey key => key.entries

/-- What a statement takes from the schema, the table that it is about apart. -/
def Statement.entries : Statement → List String
  | .create definitions => definitions.flatMap (·.entries)
  | .drop => []
  | .add added => added.entries
  | .modify column => column.entries
  | .dropColumn name => [name]
  | .dropForeignKey constraint => [constraint]
  | .dropIndex name => [name]

namespace Mysql

/-- What a statement says before it names its table. -/
def opening : Statement → String
  | .create _ => "CREATE TABLE "
  | .drop => "DROP TABLE IF EXISTS "
  | _ => "ALTER TABLE "

/-- What a statement says behind its table. -/
def ending : Statement → String
  | .create definitions =>
    " (\n    " ++ String.intercalate ",\n    " (definitions.map definition) ++ "\n)"
  | .drop => ""
  | .add added => " ADD " ++ definition added
  | .modify column => " MODIFY " ++ columnDefinition column
  | .dropColumn name => " DROP COLUMN " ++ quote name
  | .dropForeignKey constraint => " DROP FOREIGN KEY " ++ quote constraint
  | .dropIndex name => " DROP INDEX " ++ quote name

/-- A statement says something, then its table, then the rest. -/
theorem write_eq (table : String) (s : Statement) :
    write table s = opening s ++ table ++ ending s := by
  have hassoc (before behind word : String) :
      before ++ table ++ behind ++ word = before ++ table ++ (behind ++ word) :=
    String.append_assoc
  cases s with
  | create definitions =>
    change "CREATE TABLE " ++ table ++ " (\n    " ++
      String.intercalate ",\n    " (definitions.map definition) ++ "\n)" = _
    rw [hassoc, hassoc]
    rfl
  | drop => exact String.append_empty.symm
  | add added => exact hassoc _ _ _
  | modify column => exact hassoc _ _ _
  | dropColumn name => exact hassoc _ _ _
  | dropForeignKey constraint => exact hassoc _ _ _
  | dropIndex name => exact hassoc _ _ _

/-- The placeholder is somewhere in the text. -/
def HasPlaceholder (s : String) : Prop := placeholder.toList <:+: s.toList

instance (s : String) : Decidable (HasPlaceholder s) := inferInstanceAs (Decidable (_ <:+: _))

/-- The character, if there is one, is not in the placeholder. -/
def Foreign (c : Option Char) : Prop := ∀ x ∈ c, x ∉ placeholder.toList

-- Named, since an instance that goes through all characters can be found too.
instance (c : Option Char) : Decidable (Foreign c) := Option.decidableForallMem c

/-- The placeholder cannot go on into the text from before it. -/
def Shut (s : String) : Prop := Foreign s.toList.head?

instance (s : String) : Decidable (Shut s) := inferInstanceAs (Decidable (Foreign _))

/-- The text is not empty, the placeholder can neither go on into it nor begin in it and go on
behind it, and does not stand in it. -/
structure Separates (s : String) : Prop where
  nonempty : s.toList ≠ []
  shut : Shut s
  last : Foreign s.toList.getLast?
  free : ¬ HasPlaceholder s

instance (s : String) : Decidable (Separates s) :=
  decidable_of_iff (s.toList ≠ [] ∧ Shut s ∧ Foreign s.toList.getLast? ∧ ¬ HasPlaceholder s)
    ⟨fun ⟨nonempty, shut, last, free⟩ => ⟨nonempty, shut, last, free⟩,
      fun ⟨nonempty, shut, last, free⟩ => ⟨nonempty, shut, last, free⟩⟩

section Parts

variable {s t separator : String}

/-- The placeholder is not empty. -/
theorem placeholder_ne_nil : placeholder.toList ≠ [] := by decide

/-- Where a shut text follows, the placeholder is in one of the two texts. -/
theorem hasPlaceholder_append (h : Shut t) :
    HasPlaceholder (s ++ t) ↔ HasPlaceholder s ∨ HasPlaceholder t := by
  rw [HasPlaceholder, String.toList_append]
  exact Text.infix_append_iff_of_head placeholder_ne_nil h

/-- **Texts with something in between** have the placeholder exactly if one of them has it. -/
theorem hasPlaceholder_between (h : Separates separator) :
    HasPlaceholder (s ++ separator ++ t) ↔ HasPlaceholder s ∨ HasPlaceholder t := by
  have hlast : Foreign (s ++ separator).toList.getLast? := by
    rw [String.toList_append, List.getLast?_append_of_ne_nil _ h.nonempty]
    exact h.last
  have hmeet : HasPlaceholder (s ++ separator ++ t) ↔
      HasPlaceholder (s ++ separator) ∨ HasPlaceholder t := by
    rw [HasPlaceholder, String.toList_append]
    exact Text.infix_append_iff_of_last placeholder_ne_nil hlast
  rw [hmeet, hasPlaceholder_append h.shut, or_iff_left h.free]

/-- A text that separates may be left out in front. -/
theorem hasPlaceholder_before (h : Separates separator) :
    HasPlaceholder (separator ++ t) ↔ HasPlaceholder t := by
  have hbetween := hasPlaceholder_between (s := "") (t := t) h
  rwa [String.empty_append, or_iff_right (by decide)] at hbetween

/-- A text that separates may be left out at the end. -/
theorem hasPlaceholder_behind (h : Separates separator) :
    HasPlaceholder (s ++ separator) ↔ HasPlaceholder s := by
  rw [hasPlaceholder_append h.shut, or_iff_left h.free]

/-- A list of texts has the placeholder exactly if one of them has it. -/
theorem hasPlaceholder_intercalate (h : Separates separator) (parts : List String) :
    HasPlaceholder (String.intercalate separator parts) ↔ ∃ part ∈ parts, HasPlaceholder part := by
  induction parts with
  | nil => exact iff_of_false (by decide : ¬ HasPlaceholder "") (by simp)
  | cons part rest ih =>
    cases rest with
    | nil => simp
    | cons next rest =>
      rw [String.intercalate_cons_cons, hasPlaceholder_between h, ih]
      simp

/-- Trimming neither makes a placeholder nor takes one away. -/
theorem hasPlaceholder_trim (s : String) : HasPlaceholder (Text.trim s) ↔ HasPlaceholder s := by
  rw [HasPlaceholder, Text.trim, String.toList_ofList]
  exact Text.infix_trimChars_iff placeholder_ne_nil (by decide) s.toList

/-- A text without an exclamation mark does not have the placeholder. -/
theorem not_hasPlaceholder (h : '!' ∉ s.toList) : ¬ HasPlaceholder s :=
  Text.not_infix_of_not_mem (by decide) h

end Parts

section Quoting

variable {pattern : List Char}

/-- A pattern without marks begins a quoted name exactly if it begins the name. -/
theorem prefix_quotedChars_iff (h : mark ∉ pattern) (name : List Char) :
    pattern <+: quotedChars name ↔ pattern <+: name := by
  induction name generalizing pattern with
  | nil => rfl
  | cons c rest ih =>
    cases pattern with
    | nil => simp
    | cons p others =>
      rw [List.mem_cons, not_or] at h
      rw [quotedChars]
      split
      · rename_i hc
        subst hc
        simp [List.cons_prefix_cons, Ne.symm h.1]
      · rw [List.cons_prefix_cons, List.cons_prefix_cons, ih h.2]

/-- Marks that are written twice neither make an occurrence nor break one. -/
theorem infix_quotedChars_iff (hne : pattern ≠ []) (h : mark ∉ pattern) (name : List Char) :
    pattern <:+: quotedChars name ↔ pattern <:+: name := by
  have hmark (cs : List Char) : pattern <:+: mark :: cs ↔ pattern <:+: cs :=
    Text.infix_append_left_iff (s := [mark]) hne (by simpa using h)
  induction name with
  | nil => rfl
  | cons c rest ih =>
    by_cases hc : c = mark
    · subst hc
      rw [quotedChars, if_pos rfl, hmark, hmark, hmark]
      exact ih
    · have hbegins := prefix_quotedChars_iff h (c :: rest)
      rw [quotedChars, if_neg hc] at hbegins ⊢
      rw [List.infix_cons_iff, List.infix_cons_iff, hbegins]
      exact or_congr_right ih

/-- **A quoted name** has the placeholder exactly if the name has it. -/
theorem hasPlaceholder_quote (name : String) :
    HasPlaceholder (quote name) ↔ HasPlaceholder name := by
  have hmark : mark ∉ placeholder.toList := by decide
  have hquote : (quote name).toList = [mark] ++ (quotedChars name.toList ++ [mark]) :=
    String.toList_ofList
  rw [HasPlaceholder, hquote, Text.infix_append_left_iff placeholder_ne_nil (by simpa using hmark),
    Text.infix_append_right_iff placeholder_ne_nil (by simpa using hmark)]
  exact infix_quotedChars_iff placeholder_ne_nil hmark name.toList

/-- A list of quoted names has the placeholder where a name has it. -/
theorem hasPlaceholder_quoteList (names : List String) :
    HasPlaceholder (quoteList names) ↔ ∃ name ∈ names, HasPlaceholder name := by
  rw [quoteList, hasPlaceholder_intercalate (by decide)]
  simp [hasPlaceholder_quote]

end Quoting

section Definitions

/-- A column has the placeholder in its name, its type or its default. -/
theorem hasPlaceholder_columnDefinition (c : ColumnDefinition) :
    HasPlaceholder (columnDefinition c) ↔ ∃ entry ∈ c.entries, HasPlaceholder entry := by
  have hflag (b : Bool) (word : String) (hshut : Shut word) (hfree : ¬ HasPlaceholder word)
      (s : String) : HasPlaceholder (s ++ if b then word else "") ↔ HasPlaceholder s := by
    cases b with
    | false => rw [if_neg (by decide), String.append_empty]
    | true => rw [if_pos rfl, hasPlaceholder_append hshut, or_iff_left hfree]
  have hcolumn : HasPlaceholder (quote c.name ++ " " ++ Text.trim c.type ++
      (if c.notNull then " NOT NULL" else "") ++
      (if c.autoIncrement then " AUTO_INCREMENT" else "")) ↔
      HasPlaceholder c.name ∨ HasPlaceholder c.type := by
    rw [hflag _ _ (by decide) (by decide), hflag _ _ (by decide) (by decide),
      hasPlaceholder_between (by decide), hasPlaceholder_quote, hasPlaceholder_trim]
  cases hvalue : c.defaultValue with
  | none =>
    rw [columnDefinition, hvalue, String.append_empty, hcolumn]
    simp [ColumnDefinition.entries, hvalue]
  | some value =>
    rw [columnDefinition, hvalue]
    dsimp only
    rw [← String.append_assoc, hasPlaceholder_between (by decide), hcolumn]
    simp [ColumnDefinition.entries, hvalue, or_assoc]

/-- A part of an index has the placeholder in the name of its column. -/
theorem hasPlaceholder_indexPart (part : IndexPart) :
    HasPlaceholder (indexPart part) ↔ HasPlaceholder part.column := by
  have hdigits (n : Nat) : ¬ HasPlaceholder n.repr := by
    refine not_hasPlaceholder fun hmem => ?_
    rw [Nat.toList_repr] at hmem
    exact absurd (Nat.isDigit_of_mem_toDigits (by decide) (by decide) hmem) (by decide)
  have hlength (s : String) (n : UInt32) :
      HasPlaceholder (s ++ ("(" ++ n.toNat.repr ++ ")")) ↔ HasPlaceholder s := by
    rw [← String.append_assoc, ← String.append_assoc, hasPlaceholder_behind (by decide),
      hasPlaceholder_between (by decide), or_iff_left (hdigits _)]
  have hdirection (s : String) (order : SortOrder) :
      HasPlaceholder (s ++ (" " ++ order.sql)) ↔ HasPlaceholder s := by
    have hfree : ¬ HasPlaceholder order.sql := by cases order <;> decide
    rw [← String.append_assoc, hasPlaceholder_between (by decide), or_iff_left hfree]
  have hempty (s : String) : HasPlaceholder (s ++ "") ↔ HasPlaceholder s := by
    rw [String.append_empty]
  rw [← hasPlaceholder_quote part.column]
  obtain ⟨name, order, length, linked⟩ := part
  cases length with
  | none =>
    cases order with
    | none => exact (hempty _).trans (hempty _)
    | some order => exact (hdirection _ order).trans (hempty _)
  | some n =>
    cases order with
    | none => exact (hempty _).trans (hlength _ n)
    | some order => exact (hdirection _ order).trans (hlength _ n)

/-- The placeholder is not in the kind of an index, and does not begin or end in it. -/
theorem separates_indexKind (i : Index) : Separates (indexKind i ++ "INDEX ") := by
  have hunique : Separates ((if i.unique then "UNIQUE " else "") ++ "INDEX ") := by
    split <;> decide
  cases htype : i.type with
  | none =>
    rw [indexKind, htype]
    exact hunique
  | some type =>
    by_cases hkind : isIndexKind type = true
    · have hwords : type = "fulltext" ∨ type = "spatial" := by simpa [isIndexKind] using hkind
      have hwritten : indexKind i = Text.uppercase type ++ " " := by simp [indexKind, htype, hkind]
      rw [hwritten]
      rcases hwords with rfl | rfl <;> decide
    · have hwritten : indexKind i = if i.unique then "UNIQUE " else "" := by
        simp [indexKind, htype, hkind]
      rw [hwritten]
      exact hunique

/-- The method of an index has the placeholder only in its type. -/
theorem hasPlaceholder_indexMethod (i : Index) (s : String) :
    HasPlaceholder (s ++ indexMethod i) ↔
      HasPlaceholder s ∨ ∃ type ∈ i.type, HasPlaceholder (Text.uppercase type) := by
  unfold indexMethod
  split
  · rename_i type htype
    by_cases hkind : isIndexKind type = true
    · have hwords : type = "fulltext" ∨ type = "spatial" := by simpa [isIndexKind] using hkind
      have hfree : ¬ HasPlaceholder (Text.uppercase type) := by
        rcases hwords with rfl | rfl <;> decide
      rw [if_pos hkind, String.append_empty, htype]
      simp [hfree]
    · rw [if_neg hkind, ← String.append_assoc, hasPlaceholder_between (by decide), htype]
      simp
  · rename_i htype
    rw [String.append_empty, htype]
    simp

/-- An index has the placeholder in its name, its columns or its type. -/
theorem hasPlaceholder_indexDefinition (i : Index) :
    HasPlaceholder (indexDefinition i) ↔ ∃ entry ∈ i.entries, HasPlaceholder entry := by
  change HasPlaceholder (indexKind i ++ "INDEX " ++ quote i.name ++ " (" ++
    String.intercalate ", " (i.parts.map indexPart) ++ ")" ++ indexMethod i) ↔ _
  rw [hasPlaceholder_indexMethod, hasPlaceholder_behind (by decide),
    hasPlaceholder_between (by decide), hasPlaceholder_before (separates_indexKind i),
    hasPlaceholder_quote, hasPlaceholder_intercalate (by decide)]
  simp [Index.entries, hasPlaceholder_indexPart, or_and_right, exists_or, or_assoc]

/-- A foreign key has the placeholder in one of its names. -/
theorem hasPlaceholder_foreignKeyClause (key : ForeignKey) :
    HasPlaceholder (foreignKeyClause key) ↔ ∃ entry ∈ key.entries, HasPlaceholder entry := by
  have haction (action : ReferentialAction) : ¬ HasPlaceholder action.sql := by
    cases action <;> decide
  change HasPlaceholder ("CONSTRAINT " ++ quote key.constraint ++ " FOREIGN KEY (" ++
    quoteList key.columns ++ ") REFERENCES " ++ quote key.foreignTable ++ " (" ++
    quoteList key.foreignColumns ++ ")" ++
    (" ON DELETE " ++ key.onDelete.sql ++ " ON UPDATE " ++ key.onUpdate.sql)) ↔ _
  rw [← String.append_assoc, ← String.append_assoc, ← String.append_assoc,
    hasPlaceholder_between (by decide), or_iff_left (haction _),
    hasPlaceholder_between (by decide), or_iff_left (haction _),
    hasPlaceholder_behind (by decide), hasPlaceholder_between (by decide),
    hasPlaceholder_between (by decide), hasPlaceholder_between (by decide),
    hasPlaceholder_before (by decide), hasPlaceholder_quote, hasPlaceholder_quote,
    hasPlaceholder_quoteList, hasPlaceholder_quoteList]
  simp [ForeignKey.entries, or_assoc, or_and_right, exists_or]

/-- A definition has the placeholder exactly where an entry of the schema has it. -/
theorem hasPlaceholder_definition (d : Definition) :
    HasPlaceholder (definition d) ↔ ∃ entry ∈ d.entries, HasPlaceholder entry := by
  cases d with
  | column c => exact hasPlaceholder_columnDefinition c
  | primaryKey columns =>
    change HasPlaceholder ("PRIMARY KEY (" ++ quoteList columns ++ ")") ↔ _
    rw [hasPlaceholder_behind (by decide), hasPlaceholder_before (by decide)]
    exact hasPlaceholder_quoteList columns
  | index i => exact hasPlaceholder_indexDefinition i
  | foreignKey key => exact hasPlaceholder_foreignKeyClause key

/-- **Behind its table** a statement has the placeholder exactly where an entry of the schema has
it. -/
theorem hasPlaceholder_ending (s : Statement) :
    HasPlaceholder (ending s) ↔ ∃ entry ∈ s.entries, HasPlaceholder entry := by
  have hname (word name : String) (h : Separates word) :
      HasPlaceholder (word ++ quote name) ↔ ∃ entry ∈ [name], HasPlaceholder entry := by
    rw [hasPlaceholder_before h, hasPlaceholder_quote]
    simp
  cases s with
  | create definitions =>
    change HasPlaceholder (" (\n    " ++
      String.intercalate ",\n    " (definitions.map definition) ++ "\n)") ↔ _
    rw [hasPlaceholder_behind (by decide), hasPlaceholder_before (by decide),
      hasPlaceholder_intercalate (by decide)]
    simp only [List.mem_map, exists_exists_and_eq_and, hasPlaceholder_definition,
      Statement.entries, List.mem_flatMap]
    exact ⟨fun ⟨d, hd, entry, hentry, h⟩ => ⟨entry, ⟨d, hd, hentry⟩, h⟩,
      fun ⟨entry, ⟨d, hd, hentry⟩, h⟩ => ⟨d, hd, entry, hentry, h⟩⟩
  | drop => exact iff_of_false (by decide : ¬ HasPlaceholder "") (by simp [Statement.entries])
  | add added =>
    exact (hasPlaceholder_before (by decide)).trans (hasPlaceholder_definition added)
  | modify column =>
    exact (hasPlaceholder_before (by decide)).trans (hasPlaceholder_columnDefinition column)
  | dropColumn name => exact hname _ name (by decide)
  | dropForeignKey constraint => exact hname _ constraint (by decide)
  | dropIndex name => exact hname _ name (by decide)

end Definitions

section Binding

variable (table : String)

/-- The placeholder begins with a character that no statement has before its table. -/
theorem mark_not_mem_opening (s : Statement) : '!' ∉ (opening s).toList := by
  cases s with
  | create => exact (by decide : '!' ∉ "CREATE TABLE ".toList)
  | drop => exact (by decide : '!' ∉ "DROP TABLE IF EXISTS ".toList)
  | _ => exact (by decide : '!' ∉ "ALTER TABLE ".toList)

/-- The first placeholder makes place for the table, and what is behind it is bound. -/
theorem bind_between {before : String} (h : '!' ∉ before.toList) (behind : String) :
    bind table (before ++ placeholder ++ behind) = before ++ table ++ bind table behind := by
  have hplaceholder : placeholder.toList = '!' :: "TABLE!".toList := by decide
  have hchars : (before ++ placeholder ++ behind).toList =
      before.toList ++ (placeholder.toList ++ behind.toList) := by
    rw [String.toList_append, String.toList_append, List.append_assoc]
  refine String.toList_inj.mp ?_
  rw [bind, bind, Text.replaceAll, Text.replaceAll, hchars, hplaceholder,
    Text.replaceFrom_between h]
  simp

/-- **Binding puts the table in its place,** and binds what is behind it. -/
theorem sql_eq (s : Statement) :
    sql table s = opening s ++ quote table ++ bind (quote table) (ending s) := by
  rw [sql, template, write_eq, bind_between _ (mark_not_mem_opening s)]

/-- A text is bound as it is exactly if it does not have the placeholder. -/
theorem bind_eq_self_iff (s : String) : bind (quote table) s = s ↔ ¬ HasPlaceholder s := by
  have hplaceholder : placeholder.toList = '!' :: "TABLE!".toList := by decide
  have hquote : (quote table).toList = mark :: (quotedChars table.toList ++ [mark]) :=
    String.toList_ofList
  rw [← String.toList_inj, bind, Text.replaceAll, String.toList_ofList, HasPlaceholder, hquote,
    hplaceholder]
  exact Text.replaceFrom_eq_self_iff (by decide)

/-- **When statements are bound as they were written.**  Whatever is written before the table and
about it, binding puts the table in its place and then replaces the placeholder in what is behind
it.  So the statements come out as if they had been written about the table exactly if no entry that
they take from the schema has the placeholder. -/
theorem binding_exact (statements : List Statement) :
    (∀ s ∈ statements, bind (quote table) (template s) =
      opening s ++ quote table ++ bind (quote table) (ending s)) ∧
    ((statements.map template).map (bind (quote table)) = statements.map (write (quote table)) ↔
      ∀ s ∈ statements, ∀ entry ∈ s.entries, ¬ HasPlaceholder entry) := by
  have hsame (s : Statement) : bind (quote table) (template s) = write (quote table) s ↔
      ∀ entry ∈ s.entries, ¬ HasPlaceholder entry := by
    have hbehind : sql table s = write (quote table) s ↔
        bind (quote table) (ending s) = ending s := by
      rw [sql_eq, write_eq, String.append_right_inj]
    rw [← sql, hbehind, bind_eq_self_iff, hasPlaceholder_ending]
    simp
  refine ⟨fun s _ => sql_eq table s, ?_⟩
  rw [List.map_map, List.map_inj_left]
  exact forall₂_congr fun s _ => hsame s

end Binding

end Mysql

namespace Correspondence

/-- A letter whose greeting, if none is given, mentions the placeholder. -/
def letter : Entity :=
  { id := .ofNat 1, className := "Letter", table := "letters",
    attributes := [.identity,
      { name := "greeting", column := "greeting", type := "VARCHAR(40)",
        defaultValue := some "'Dear !TABLE!'" }] }

def model : DataModel := DataModel.linkAll { entities := [letter] }

theorem sound : model.Sound :=
  .of_entities (by simp) (by simp) (by simp) (by decide)

end Correspondence

namespace Mysql

open Correspondence

/-- **A default value that is not what the schema says:** the table is written into it. -/
theorem letter_default_changed :
    model.Sound ∧ letter ∈ model.entities ∧
    bind (quote "letters") (template letter.creation) =
      "CREATE TABLE \x60letters\x60 (\n    \x60id\x60 INT NOT NULL AUTO_INCREMENT,\n" ++
      "    \x60greeting\x60 VARCHAR(40) DEFAULT 'Dear \x60letters\x60',\n" ++
      "    PRIMARY KEY (\x60id\x60)\n)" ∧
    write (quote "letters") letter.creation =
      "CREATE TABLE \x60letters\x60 (\n    \x60id\x60 INT NOT NULL AUTO_INCREMENT,\n" ++
      "    \x60greeting\x60 VARCHAR(40) DEFAULT 'Dear !TABLE!',\n" ++
      "    PRIMARY KEY (\x60id\x60)\n)" ∧
    ([letter.creation].map template).map (bind (quote "letters")) ≠
      [letter.creation].map (write (quote "letters")) := by
  have hending : ending letter.creation =
      " (\n    \x60id\x60 INT NOT NULL AUTO_INCREMENT,\n" ++
        "    \x60greeting\x60 VARCHAR(40) DEFAULT 'Dear " ++ placeholder ++
        "',\n    PRIMARY KEY (\x60id\x60)\n)" := by decide +kernel
  have hbefore : '!' ∉ (" (\n    \x60id\x60 INT NOT NULL AUTO_INCREMENT,\n" ++
      "    \x60greeting\x60 VARCHAR(40) DEFAULT 'Dear ").toList := by
    rw [String.toList_append, List.mem_append, not_or]
    exact ⟨by decide +kernel, by decide +kernel⟩
  have hbound : bind (quote "letters") (template letter.creation) =
      "CREATE TABLE \x60letters\x60 (\n    \x60id\x60 INT NOT NULL AUTO_INCREMENT,\n" ++
      "    \x60greeting\x60 VARCHAR(40) DEFAULT 'Dear \x60letters\x60',\n" ++
      "    PRIMARY KEY (\x60id\x60)\n)" := by
    have hlast : bind (quote "letters") "',\n    PRIMARY KEY (\x60id\x60)\n)" =
        "',\n    PRIMARY KEY (\x60id\x60)\n)" := (bind_eq_self_iff _ _).mpr (by decide +kernel)
    rw [← sql, sql_eq, hending, bind_between _ hbefore, hlast]
    decide +kernel
  have hwritten : write (quote "letters") letter.creation =
      "CREATE TABLE \x60letters\x60 (\n    \x60id\x60 INT NOT NULL AUTO_INCREMENT,\n" ++
      "    \x60greeting\x60 VARCHAR(40) DEFAULT 'Dear !TABLE!',\n" ++
      "    PRIMARY KEY (\x60id\x60)\n)" := by decide +kernel
  refine ⟨sound, by decide, hbound, hwritten, ?_⟩
  intro hsame
  have hone := (List.cons_eq_cons.mp hsame).1
  rw [hbound, hwritten] at hone
  exact absurd hone (by decide +kernel)

end Mysql

end Schemata
