import Schemata.Migration.Plan

/-!
# Reading scripts

A script is read line by line.  Blank lines and lines that start with two hyphens say nothing, but
only where they start outside the marks of a quoted name; a name may go over several lines.

* `readLines_of_scan` - lines of which the first is read are read as they stand, up to where their
  characters lead;
* `ReadAs.append`, `ReadAs.flatMap` - texts are read one after the other.
-/

namespace Schemata.Mysql

open Text

/-- The characters end inside a quoted name: every mark opens or closes one. -/
def quotedAfter (quoted : Bool) (cs : List Char) : Bool :=
  cs.foldl (fun quoted c => if c = mark then !quoted else quoted) quoted

/-- The line is blank or a comment. -/
def isSilent (line : List Char) : Bool := ['-', '-'].isPrefixOf line || line.all isBlank

/-- The lines that are read as SQL, when the first of them starts inside or outside a name. -/
def readLines (quoted : Bool) : List (List Char) → List (List Char)
  | [] => []
  | line :: rest =>
    if quoted = false ∧ isSilent line then readLines false rest
    else line :: readLines (quotedAfter quoted line) rest

/-- What is read of a script. -/
def readScript (script : String) : String :=
  String.ofList ((readLines false (script.toList.splitOn '\n')).flatMap (· ++ ['\n']))

section Lines

/-- A text is a line, or a line with a line break and a text behind it. -/
theorem line_induction {P : List Char → Prop} (last : ∀ line, '\n' ∉ line → P line)
    (step : ∀ line rest, '\n' ∉ line → P rest → P (line ++ '\n' :: rest)) (cs : List Char) :
    P cs := by
  induction hlength : cs.length using Nat.strongRecOn generalizing cs with
  | ind n ih =>
    by_cases hbreak : '\n' ∈ cs
    · obtain ⟨line, rest, rfl, hline⟩ := List.eq_append_cons_of_mem hbreak
      refine step line rest hline (ih rest.length ?_ rest rfl)
      rw [← hlength, List.length_append, List.length_cons]
      omega
    · exact last cs hbreak

/-- A text without line breaks is one line. -/
theorem splitOn_line {line : List Char} (h : '\n' ∉ line) : line.splitOn '\n' = [line] :=
  List.splitOn_eq_singleton h

/-- A line break separates the lines before it from those behind it. -/
theorem splitOn_append (cs rest : List Char) :
    (cs ++ '\n' :: rest).splitOn '\n' = cs.splitOn '\n' ++ rest.splitOn '\n' :=
  List.splitOnP_append_cons cs rest (beq_self_eq_true _)

/-- The characters before the first line break. -/
def firstLine (cs : List Char) : List Char := cs.takeWhile (· ≠ '\n')

/-- The first line ends before the first line break. -/
theorem firstLine_append {line : List Char} (h : '\n' ∉ line) (rest : List Char) :
    firstLine (line ++ '\n' :: rest) = line := by
  have hall : ∀ c ∈ line, decide (c ≠ '\n') = true := fun c hc =>
    decide_eq_true fun heq => h (heq ▸ hc)
  rw [firstLine, List.takeWhile_append_of_pos hall]
  simp

/-- A text without line breaks is its own first line. -/
theorem firstLine_line {line : List Char} (h : '\n' ∉ line) : firstLine line = line := by
  have hall : ∀ c ∈ line, decide (c ≠ '\n') = true := fun c hc =>
    decide_eq_true fun heq => h (heq ▸ hc)
  rw [firstLine, ← List.append_nil line, List.takeWhile_append_of_pos hall, List.takeWhile_nil]

/-- Lines with their line breaks are the text with one more. -/
theorem flatMap_splitOn (cs : List Char) :
    (cs.splitOn '\n').flatMap (· ++ ['\n']) = cs ++ ['\n'] := by
  induction cs using line_induction with
  | last line hline => rw [splitOn_line hline, List.flatMap_singleton]
  | step line rest hline ih =>
    rw [splitOn_append, splitOn_line hline, List.flatMap_append, List.flatMap_singleton, ih]
    simp

end Lines

section Scanning

/-- Where the characters lead from inside or outside a name; a line break outside leads nowhere. -/
def scan : Bool → List Char → Option Bool
  | quoted, [] => some quoted
  | quoted, c :: rest =>
    if c = '\n' ∧ quoted = false then none
    else scan (if c = mark then !quoted else quoted) rest

/-- Characters lead from where those before them led. -/
theorem scan_append (quoted : Bool) (cs rest : List Char) :
    scan quoted (cs ++ rest) = (scan quoted cs).bind (scan · rest) := by
  induction cs generalizing quoted with
  | nil => rfl
  | cons c cs ih =>
    rw [List.cons_append, scan, scan, ih]
    split <;> rfl

/-- Without line breaks the marks alone decide where characters lead. -/
theorem scan_line {line : List Char} (h : '\n' ∉ line) (quoted : Bool) :
    scan quoted line = some (quotedAfter quoted line) := by
  induction line generalizing quoted with
  | nil => rfl
  | cons c cs ih =>
    rw [List.mem_cons, not_or] at h
    rw [scan, if_neg fun hc => h.1 hc.1.symm, ih h.2]
    rfl

/-- What starts on the other side of a mark ends on the other side. -/
theorem quotedAfter_not (quoted : Bool) (cs : List Char) :
    quotedAfter (!quoted) cs = !quotedAfter quoted cs := by
  induction cs generalizing quoted with
  | nil => rfl
  | cons c cs ih =>
    rw [quotedAfter, quotedAfter, List.foldl_cons, List.foldl_cons]
    split <;> exact ih _

/-- Without marks nothing opens or closes. -/
theorem quotedAfter_of_not_mem {cs : List Char} (h : mark ∉ cs) (quoted : Bool) :
    quotedAfter quoted cs = quoted := by
  induction cs with
  | nil => rfl
  | cons c cs ih =>
    rw [List.mem_cons, not_or] at h
    rw [quotedAfter, List.foldl_cons, if_neg (Ne.symm h.1)]
    exact ih h.2

/-- Lines of which the first is read are read up to where the characters lead. -/
theorem readLines_of_scan {quoted after : Bool} {cs : List Char} (h : scan quoted cs = some after)
    (hfirst : quoted = true ∨ isSilent (firstLine cs) = false)
    (more : List (List Char)) :
    readLines quoted (cs.splitOn '\n' ++ more) = cs.splitOn '\n' ++ readLines after more := by
  induction cs using line_induction generalizing quoted with
  | last line hline =>
    rw [scan_line hline, Option.some_inj] at h
    rw [firstLine_line hline] at hfirst
    rw [splitOn_line hline, List.singleton_append, readLines, if_neg, h, List.singleton_append]
    rintro ⟨rfl, hsilent⟩
    simp [hsilent] at hfirst
  | step line rest hline ih =>
    rw [scan_append, scan_line hline, Option.bind_some, scan] at h
    split at h
    · cases h
    · rename_i hbreak
      have hquoted : quotedAfter quoted line = true := by simpa using hbreak
      rw [hquoted, if_neg (by decide)] at h
      rw [firstLine_append hline] at hfirst
      rw [splitOn_append, splitOn_line hline, List.singleton_append, List.cons_append, readLines,
        if_neg, hquoted, ih h (Or.inl rfl), List.cons_append]
      rintro ⟨rfl, hsilent⟩
      simp [hsilent] at hfirst

end Scanning

/-- Lines are read as some of them, whatever lines follow. -/
def ReadAs (lines read : List (List Char)) : Prop :=
  ∀ more, readLines false (lines ++ more) = read ++ readLines false more

/-- The text is read as it stands. -/
def Readable (s : String) : Prop := ReadAs (s.toList.splitOn '\n') (s.toList.splitOn '\n')

section Reading

variable {lines lines' read read' : List (List Char)}

theorem ReadAs.nil : ReadAs [] [] := fun _ => rfl

/-- Lines are read one after the other. -/
theorem ReadAs.append (h : ReadAs lines read) (h' : ReadAs lines' read') :
    ReadAs (lines ++ lines') (read ++ read') := by
  intro more
  rw [List.append_assoc, h, h', List.append_assoc]

/-- Of a blank line or a comment nothing is read. -/
theorem ReadAs.silent {line : List Char} (h : isSilent line = true) : ReadAs [line] [] := by
  intro more
  rw [List.singleton_append, readLines, if_pos ⟨rfl, h⟩]
  rfl

/-- Items whose lines are read item by item are read together. -/
theorem ReadAs.flatMap {α : Type} {items : List α} {f g : α → List (List Char)}
    (h : ∀ item ∈ items, ReadAs (f item) (g item)) :
    ReadAs (items.flatMap f) (items.flatMap g) := by
  induction items with
  | nil => exact .nil
  | cons item rest ih =>
    rw [List.forall_mem_cons] at h
    rw [List.flatMap_cons, List.flatMap_cons]
    exact h.1.append (ih h.2)

/-- Texts that are read as they stand are read so with a line break between them. -/
theorem Readable.append {s t : String} (hs : Readable s) (ht : Readable t) :
    Readable (s ++ "\n" ++ t) := by
  have hchars : (s ++ "\n" ++ t).toList = s.toList ++ '\n' :: t.toList := by simp
  rw [Readable, hchars, splitOn_append]
  exact ReadAs.append hs ht

/-- Lines that each end with a line break are the lines of the whole, with an empty one behind. -/
theorem splitOn_join (items : List String) :
    (String.join (items.map (· ++ "\n"))).toList.splitOn '\n' =
      items.flatMap (·.toList.splitOn '\n') ++ [[]] := by
  induction items with
  | nil => rfl
  | cons item rest ih =>
    have hchars : (String.join ((item :: rest).map (· ++ "\n"))).toList =
        item.toList ++ '\n' :: (String.join (rest.map (· ++ "\n"))).toList := by simp
    rw [hchars, splitOn_append, ih, List.flatMap_cons, List.append_assoc]

/-- Nothing is read exactly of lines that are all blank or comments. -/
theorem readLines_eq_nil_iff {lines : List (List Char)} :
    readLines false lines = [] ↔ ∀ line ∈ lines, isSilent line = true := by
  induction lines with
  | nil => simp [readLines]
  | cons line rest ih =>
    rw [readLines, List.forall_mem_cons]
    split
    · rename_i hsilent
      rw [ih]
      exact (and_iff_right hsilent.2).symm
    · rename_i hshown
      exact iff_of_false (List.cons_ne_nil _ _) fun h => hshown ⟨rfl, h.1⟩

/-- Nothing is read exactly of a text whose lines are all blank or comments. -/
theorem readScript_eq_empty_iff {s : String} :
    readScript s = "" ↔ ∀ line ∈ s.toList.splitOn '\n', isSilent line = true := by
  rw [← readLines_eq_nil_iff, readScript, String.ofList_eq_empty_iff]
  cases readLines false (s.toList.splitOn '\n') <;> simp

/-- The first line of a text goes on with the line that stands before the text. -/
theorem splitOn_prepend {line : List Char} (h : '\n' ∉ line) (cs : List Char) :
    (line ++ cs).splitOn '\n' = (line ++ firstLine cs) :: (cs.splitOn '\n').tail := by
  induction cs using line_induction with
  | last more hmore =>
    rw [firstLine_line hmore, splitOn_line hmore, splitOn_line (by simp [h, hmore])]
    rfl
  | step more rest hmore =>
    rw [firstLine_append hmore, splitOn_append, splitOn_line hmore, ← List.append_assoc,
      splitOn_append, splitOn_line (by simp [h, hmore])]
    rfl

end Reading

end Schemata.Mysql
