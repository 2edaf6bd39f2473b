import Schemata.Migration.Mysql
import Schemata.Proofs.Text.Listing

/-!
# Reading the clause of a foreign key

The clause of a foreign key holds names that anybody may choose: the names of the constraint, of the
columns and of the foreign table.  They may have marks, commas, parentheses and whole clauses in
them, and they may be empty.  Every mark in a name is written twice, so that a reader who knows this
finds the end of each name, and with it every part of the clause.

* `readName_quote` - a quoted name ends where its quoting ends, and not before;
* `readForeignKey_clause`, `eq_of_readForeignKey` - a clause reads back, and nothing else is read;
* `readForeignKey_exact` - what this says about the references of a model.
-/

namespace Schemata.Mysql

open Text

/-- What is behind a word, if the text begins with it. -/
def readWord (word : String) (cs : List Char) : Option (List Char) := cs.dropPrefix? word.toList

/-- The quoted name at the beginning of a text, and what is behind it. -/
def readName : List Char → Option (String × List Char)
  | [] => none
  | c :: rest =>
    if c = mark then (unquoted rest).map fun (name, behind) => (String.ofList name, behind)
    else none

/-- The names of a list that ends with a parenthesis, and what is behind that. -/
def readNames (cs : List Char) : Option (List String × List Char) := readItems readName ')' cs

/-- What a foreign key may do. -/
def actions : List ReferentialAction := [.cascade, .setNull, .restrict, .noAction, .setDefault]

/-- The action at the beginning of a text, and what is behind it. -/
def readAction (cs : List Char) : Option (ReferentialAction × List Char) :=
  actions.findSome? fun action => (readWord action.sql cs).map (action, ·)

/-- The foreign key of a clause. -/
def readForeignKey (clause : String) : Option ForeignKey := do
  let cs ← readWord "CONSTRAINT " clause.toList
  let (constraint, cs) ← readName cs
  let cs ← readWord " FOREIGN KEY (" cs
  let (columns, cs) ← readNames cs
  let cs ← readWord " REFERENCES " cs
  let (foreignTable, cs) ← readName cs
  let cs ← readWord " (" cs
  let (foreignColumns, cs) ← readNames cs
  let cs ← readWord " ON DELETE " cs
  let (onDelete, cs) ← readAction cs
  let cs ← readWord " ON UPDATE " cs
  let (onUpdate, cs) ← readAction cs
  if cs.isEmpty then some { constraint, columns, foreignTable, foreignColumns, onDelete, onUpdate }
  else none

/-- The characters of a clause, part by part. -/
def clauseChars (key : ForeignKey) : List Char :=
  "CONSTRAINT ".toList ++ ((quote key.constraint).toList ++
    (" FOREIGN KEY (".toList ++ ((quoteList key.columns).toList ++ ')' ::
      (" REFERENCES ".toList ++ ((quote key.foreignTable).toList ++
        (" (".toList ++ ((quoteList key.foreignColumns).toList ++ ')' ::
          (" ON DELETE ".toList ++ (key.onDelete.sql.toList ++
            (" ON UPDATE ".toList ++ key.onUpdate.sql.toList))))))))))

/-- The clause of a foreign key, character by character. -/
theorem toList_foreignKeyClause (key : ForeignKey) :
    (foreignKeyClause key).toList = clauseChars key := by
  have hparenthesis : ")".toList = [')'] := by simp
  have hreferences : ") REFERENCES ".toList = ')' :: " REFERENCES ".toList := by simp
  unfold foreignKeyClause clauseChars
  simp only [String.toList_append, toString, List.append_assoc, List.cons_append,
    List.nil_append, hparenthesis, hreferences]

section Words

variable {word : String} {cs rest : List Char}

/-- A word is read exactly if the characters begin with it. -/
theorem readWord_eq_some_iff : readWord word cs = some rest ↔ cs = word.toList ++ rest := by
  rw [readWord, List.dropPrefix?_eq_some_iff]
  constructor
  · intro h
    obtain ⟨before, hchars, hword⟩ := h
    rw [hchars, eq_of_beq hword]
  · intro h
    exact ⟨word.toList, h, beq_self_eq_true _⟩

/-- A word is read where it stands in front. -/
theorem readWord_append (word : String) (rest : List Char) :
    readWord word (word.toList ++ rest) = some rest :=
  readWord_eq_some_iff.mpr rfl

/-- An action is read by its words, none of which begin like those of another action. -/
theorem readAction_sql (action : ReferentialAction) (rest : List Char) :
    readAction (action.sql.toList ++ rest) = some (action, rest) := by
  cases action <;> simp [readAction, actions, readWord, ReferentialAction.sql, List.dropPrefix?]

/-- What is read as an action are its words. -/
theorem eq_of_readAction {action : ReferentialAction} (h : readAction cs = some (action, rest)) :
    cs = action.sql.toList ++ rest := by
  obtain ⟨read, _, hread⟩ := List.exists_of_findSome?_eq_some h
  obtain ⟨behind, hbehind, hpair⟩ := Option.map_eq_some_iff.mp hread
  obtain ⟨rfl, rfl⟩ := Prod.mk.inj hpair
  exact readWord_eq_some_iff.mp hbehind

end Words

section Names

variable {name : String} {names : List String} {cs rest : List Char}

/-- **A quoted name ends where its quoting ends,** whatever its characters are, as long as no mark
is behind it. -/
theorem readName_quote (name : String) (h : rest.head? ≠ some mark) :
    readName ((quote name).toList ++ rest) = some (name, rest) := by
  have hchars : (quote name).toList ++ rest =
      mark :: (quotedChars name.toList ++ mark :: rest) := by
    simp [quote]
  rw [hchars, readName, if_pos rfl, unquoted_quote _ _ h]
  simp

/-- What is read as a name up to its closing mark was quoted so. -/
theorem eq_of_unquoted {name behind : List Char} (h : unquoted cs = some (name, behind)) :
    cs = quotedChars name ++ mark :: behind := by
  fun_induction unquoted cs generalizing name behind with
  | case1 => cases h
  | case2 more ih =>
    obtain ⟨⟨read, rest⟩, hread, hpair⟩ := Option.map_eq_some_iff.mp h
    obtain ⟨rfl, rfl⟩ := Prod.mk.inj hpair
    rw [quotedChars, if_pos rfl, ih hread]
    rfl
  | case3 d more hd =>
    obtain ⟨rfl, rfl⟩ := Prod.mk.inj (Option.some_inj.mp h)
    rfl
  | case4 =>
    obtain ⟨rfl, rfl⟩ := Prod.mk.inj (Option.some_inj.mp h)
    rfl
  | case5 c rest hc ih =>
    obtain ⟨⟨read, last⟩, hread, hpair⟩ := Option.map_eq_some_iff.mp h
    obtain ⟨rfl, rfl⟩ := Prod.mk.inj hpair
    rw [quotedChars, if_neg hc, ih hread]
    rfl

/-- What is read as a name is the name in its marks. -/
theorem eq_of_readName (h : readName cs = some (name, rest)) :
    cs = (quote name).toList ++ rest := by
  unfold readName at h
  split at h
  · cases h
  · split at h
    · rename_i hmark
      obtain ⟨⟨read, behind⟩, hread, hpair⟩ := Option.map_eq_some_iff.mp h
      obtain ⟨rfl, rfl⟩ := Prod.mk.inj hpair
      rw [hmark, eq_of_unquoted hread]
      simp [quote]
    · cases h

/-- Names that are listed are read back, empty ones and an empty list included. -/
theorem readNames_quoteList (names : List String) (rest : List Char) :
    readNames ((quoteList names).toList ++ ')' :: rest) = some (names, rest) := by
  apply readItems_intercalate (by decide)
  · intro rest
    have hmark : ')' ≠ mark := by decide
    rw [readName, if_neg hmark]
  · intro name _ c rest hc
    have hmark : c ≠ mark := by
      rcases hc with rfl | rfl
      · decide
      · decide
    apply readName_quote
    rw [List.head?_cons, ne_eq, Option.some_inj]
    exact hmark

/-- What is read as names are the names in their marks, up to a closing bracket. -/
theorem eq_of_readNames (h : readNames cs = some (names, rest)) :
    cs = (quoteList names).toList ++ ')' :: rest :=
  eq_of_readItems (fun _ _ _ hread => eq_of_readName hread) h

end Names

/-- **The clause of a foreign key reads back.** -/
theorem readForeignKey_clause (key : ForeignKey) :
    readForeignKey (foreignKeyClause key) = some key := by
  have hname (name word : String) (rest : List Char) (h : word.toList.head? = some ' ') :
      readName ((quote name).toList ++ (word.toList ++ rest)) =
        some (name, word.toList ++ rest) := by
    apply readName_quote
    rw [List.head?_append, h, Option.some_or, ne_eq, Option.some_inj]
    decide
  have hkey : " FOREIGN KEY (".toList.head? = some ' ' := by simp
  have hopening : " (".toList.head? = some ' ' := by simp
  have hend : readAction key.onUpdate.sql.toList = some (key.onUpdate, []) := by
    have := readAction_sql key.onUpdate []
    rwa [List.append_nil] at this
  unfold readForeignKey
  rw [toList_foreignKeyClause]
  unfold clauseChars
  simp only [Option.bind_eq_bind, Option.bind_some, readWord_append]
  rw [hname _ _ _ hkey]
  simp only [Option.bind_some, readWord_append, readNames_quoteList]
  rw [hname _ _ _ hopening]
  simp only [Option.bind_some, readWord_append, readNames_quoteList, readAction_sql, hend]
  exact if_pos rfl

/-- **Nothing but the clause of a foreign key is read.** -/
theorem eq_of_readForeignKey {clause : String} {key : ForeignKey}
    (h : readForeignKey clause = some key) : clause = foreignKeyClause key := by
  simp only [readForeignKey, Option.bind_eq_bind, Option.bind_eq_some_iff, readWord_eq_some_iff,
    Prod.exists] at h
  obtain ⟨_, hchars, constraint, _, hconstraint, _, rfl, columns, _, hcolumns, _, rfl,
    table, _, htable, _, rfl, foreign, _, hforeign, _, rfl, onDelete, _, hdelete, _, rfl,
    onUpdate, rest, hupdate, h⟩ := h
  obtain ⟨hrest, rfl⟩ : rest = [] ∧ _ = key := by simpa using h
  apply String.toList_inj.mp
  rw [hchars, toList_foreignKeyClause, eq_of_readName hconstraint, eq_of_readNames hcolumns,
    eq_of_readName htable, eq_of_readNames hforeign, eq_of_readAction hdelete,
    eq_of_readAction hupdate, hrest, List.append_nil]
  rfl

/-- **A foreign key is what its clause says.**  The clause of a linked reference reads back as its
constraint, its columns and those of the foreign table in order, the foreign table and both actions,
and nothing but a clause is read.  A quoted name ends where its quoting ends.  So two linked
references with one clause agree in all these parts. -/
theorem readForeignKey_exact :
    (∀ (r : Reference) (target : ReferenceTarget), r.target? = some target →
      readForeignKey (foreignKeyClause r.foreignKey) = some {
        constraint := r.constraint
        columns := target.columns.map (·.column)
        foreignTable := target.table
        foreignColumns := target.columns.map (·.foreignColumn)
        onDelete := r.onDelete
        onUpdate := r.onUpdate }) ∧
    (∀ clause key, readForeignKey clause = some key ↔ clause = foreignKeyClause key) ∧
    (∀ (name : String) (behind : List Char), behind.head? ≠ some mark →
      readName ((quote name).toList ++ behind) = some (name, behind)) ∧
    ∀ (r s : Reference) (target target' : ReferenceTarget),
      r.target? = some target → s.target? = some target' →
      foreignKeyClause r.foreignKey = foreignKeyClause s.foreignKey →
      r.constraint = s.constraint ∧
      target.columns.map (·.column) = target'.columns.map (·.column) ∧
      target.table = target'.table ∧
      target.columns.map (·.foreignColumn) = target'.columns.map (·.foreignColumn) ∧
      r.onDelete = s.onDelete ∧ r.onUpdate = s.onUpdate := by
  have hlinked (r : Reference) (target : ReferenceTarget) (h : r.target? = some target) :
      r.foreignKey = {
        constraint := r.constraint
        columns := target.columns.map (·.column)
        foreignTable := target.table
        foreignColumns := target.columns.map (·.foreignColumn)
        onDelete := r.onDelete
        onUpdate := r.onUpdate } := by
    simp only [Reference.foreignKey, Reference.columns, Reference.foreignTable?, h,
      Option.map_some, Option.getD_some]
  refine ⟨?_, ?_, ?_, ?_⟩
  · intro r target h
    rw [readForeignKey_clause, hlinked r target h]
  · intro clause key
    constructor
    · exact eq_of_readForeignKey
    · intro h
      rw [h, readForeignKey_clause]
  · intro name behind h
    exact readName_quote name h
  · intro r s target target' hr hs hsame
    have hkeys : r.foreignKey = s.foreignKey := by
      have hread := readForeignKey_clause s.foreignKey
      rw [← hsame, readForeignKey_clause] at hread
      exact Option.some_inj.mp hread
    rw [hlinked r target hr, hlinked s target' hs] at hkeys
    simpa only [ForeignKey.mk.injEq] using hkeys

namespace Maze

/-- What lies behind the doors: a table whose name is a mark, and columns whose names look like
parts of a clause. -/
def target : ReferenceTarget :=
  { entity := .ofNat 1, table := "\x60",
    columns := [⟨"", "INT", "\x60, \x60"⟩, ⟨"a, b", "INT", ") REFERENCES \x60door\x60 ("⟩,
      ⟨"c\x60)", "INT", "ON DELETE"⟩] }

def door : Reference :=
  { name := "door", foreignClass := "Door", constraint := "key\x60 FOREIGN KEY (\x60",
    onDelete := .setNull, resolution := .resolved target }

/-- The same key under another name. -/
def gate : Reference := { door with name := "gate", required := true }

end Maze

/-- A key whose names are made to mislead is read as it is. -/
theorem maze_readForeignKey :
    Maze.door.target? = some Maze.target ∧ Maze.gate.target? = some Maze.target ∧
    readForeignKey (foreignKeyClause Maze.door.foreignKey) = some {
      constraint := "key\x60 FOREIGN KEY (\x60"
      columns := ["", "a, b", "c\x60)"]
      foreignTable := "\x60"
      foreignColumns := ["\x60, \x60", ") REFERENCES \x60door\x60 (", "ON DELETE"]
      onDelete := .setNull
      onUpdate := .restrict } ∧
    readName ((quote "\x60, \x60").toList ++ [',', mark]) = some ("\x60, \x60", [',', mark]) ∧
    foreignKeyClause Maze.door.foreignKey = foreignKeyClause Maze.gate.foreignKey ∧
    Maze.door.constraint = Maze.gate.constraint := by
  obtain ⟨hread, _, hquoted, hsame⟩ := readForeignKey_exact
  have hclause : foreignKeyClause Maze.door.foreignKey =
      foreignKeyClause Maze.gate.foreignKey := rfl
  have hdoor : Maze.door.target? = some Maze.target := rfl
  have hgate : Maze.gate.target? = some Maze.target := rfl
  have hbehind : [',', mark].head? ≠ some mark := by decide
  exact ⟨hdoor, hgate, hread _ _ hdoor, hquoted _ _ hbehind, hclause,
    (hsame _ _ _ _ hdoor hgate hclause).1⟩

end Schemata.Mysql
