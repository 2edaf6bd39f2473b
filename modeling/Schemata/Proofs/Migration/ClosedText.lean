import Schemata.Proofs.Migration.ScriptReading
import Schemata.Proofs.Text.Marks
import Schemata.Proofs.Text.Occurrences

/-!
# Closed texts

A text is closed if its line breaks are all inside marks and its marks close.  Quoted names are
closed, closed texts can be put together, and when a table whose name is on one line is bound in a
closed text, what comes of it is closed again.  A closed text that shows something and does not
start like a comment is read as it stands.

* `isClosed_quote`, `IsClosed.append`, `IsClosed.intercalate` - what is closed;
* `IsClosed.bind` - binding a table leaves a text closed;
* `Solid.readable` - what is read as it stands.
-/

namespace Schemata.Mysql

open Text

/-- The line breaks of the text are inside marks, and its marks close. -/
def IsClosed (s : String) : Prop := scan false s.toList = some false

instance (s : String) : Decidable (IsClosed s) := inferInstanceAs (Decidable (_ = _))

section Closed

variable {s t : String}

/-- Closed texts one behind the other are closed. -/
theorem IsClosed.append (hs : IsClosed s) (ht : IsClosed t) : IsClosed (s ++ t) := by
  rw [IsClosed, String.toList_append, scan_append, hs]
  exact ht

/-- Closed texts with a closed text between them are closed. -/
theorem IsClosed.intercalate {parts : List String} (hs : IsClosed s)
    (hparts : ∀ part ∈ parts, IsClosed part) : IsClosed (String.intercalate s parts) := by
  induction parts with
  | nil => exact rfl
  | cons part rest ih =>
    rw [List.forall_mem_cons] at hparts
    cases rest with
    | nil =>
      rw [String.intercalate_singleton]
      exact hparts.1
    | cons next rest =>
      rw [String.intercalate_cons_cons]
      exact (hparts.1.append hs).append (ih hparts.2)

/-- A text without marks on one line is closed. -/
theorem isClosed_plain (hbreak : '\n' ∉ s.toList) (hmark : mark ∉ s.toList) : IsClosed s := by
  rw [IsClosed, scan_line hbreak, quotedAfter_of_not_mem hmark]

/-- The characters of a quoted name stay inside its marks. -/
theorem scan_quotedChars (name : List Char) : scan true (quotedChars name) = some true := by
  induction name with
  | nil => rfl
  | cons c rest ih =>
    rw [quotedChars]
    by_cases hc : c = mark
    · subst hc
      have hbreak : mark ≠ '\n' := by decide
      simp [scan, hbreak, ih]
    · simp [scan, hc, ih]

/-- **A quoted name is closed,** whatever its characters are. -/
theorem isClosed_quote (name : String) : IsClosed (quote name) := by
  have hopen : scan false (mark :: quotedChars name.toList) = some true := by
    rw [scan, if_neg (by decide), if_pos rfl]
    exact scan_quotedChars name.toList
  rw [IsClosed, quote, String.toList_ofList, scan_append, hopen]
  rfl

/-- Quoting adds no characters but marks. -/
theorem mem_of_mem_quotedChars {c : Char} {name : List Char} (h : c ∈ quotedChars name) :
    c ∈ name := by
  induction name with
  | nil => exact h
  | cons first rest ih =>
    rw [quotedChars] at h
    split at h
    · rename_i hmark
      rcases List.mem_cons.mp h with rfl | h
      · exact hmark ▸ List.mem_cons_self
      · rcases List.mem_cons.mp h with rfl | h
        · exact hmark ▸ List.mem_cons_self
        · exact List.mem_cons_of_mem _ (ih h)
    · rcases List.mem_cons.mp h with rfl | h
      · exact List.mem_cons_self
      · exact List.mem_cons_of_mem _ (ih h)

/-- Quoting breaks no line. -/
theorem break_not_mem_quote {name : String} (h : '\n' ∉ name.toList) :
    '\n' ∉ (quote name).toList := by
  rw [quote, String.toList_ofList, List.cons_append, List.mem_cons, List.mem_append, not_or, not_or]
  exact ⟨by decide, fun hmem => h (mem_of_mem_quotedChars hmem), by decide⟩

/-- Blanks lead nowhere else. -/
theorem eq_of_scan_blank {quoted after : Bool} {cs : List Char}
    (hblank : ∀ c ∈ cs, isBlank c = true) (h : scan quoted cs = some after) : after = quoted := by
  induction cs with
  | nil => exact (Option.some_inj.mp h).symm
  | cons c rest ih =>
    rw [List.forall_mem_cons] at hblank
    have hmark : c ≠ mark := fun hc => absurd (hc ▸ hblank.1) (by decide)
    rw [scan, if_neg hmark] at h
    split at h
    · cases h
    · exact ih hblank.2 h

/-- Trimming leaves a text closed. -/
theorem IsClosed.trim (h : IsClosed s) : IsClosed (trim s) := by
  obtain ⟨front, back, hfront, hback, heq⟩ := exists_trimChars_around s.toList
  rw [IsClosed, ← heq, scan_append, Option.bind_eq_some_iff] at h
  obtain ⟨start, hstart, h⟩ := h
  obtain rfl := eq_of_scan_blank hfront hstart
  rw [scan_append, Option.bind_eq_some_iff] at h
  obtain ⟨stop, htrimmed, h⟩ := h
  obtain rfl := eq_of_scan_blank hback h
  rw [IsClosed, Text.trim, String.toList_ofList]
  exact htrimmed

/-- Changing case leaves a text closed. -/
theorem IsClosed.uppercase (h : IsClosed s) : IsClosed (uppercase s) := by
  have hchar (quoted : Bool) (c : Char) (rest : List Char) :
      scan quoted (upperChar c ++ rest) = scan quoted (c :: rest) := by
    by_cases hspecial : c = '\n' ∨ c = mark
    · have : upperChar c = [c] := by rcases hspecial with rfl | rfl <;> decide
      rw [this]
      rfl
    · rw [not_or] at hspecial
      have hbreak : '\n' ∉ upperChar c := fun hmem =>
        hspecial.1 (eq_of_mem_upperChar (by decide) hmem).symm
      have hmark : mark ∉ upperChar c := fun hmem =>
        hspecial.2 (eq_of_mem_upperChar (by decide) hmem).symm
      rw [scan_append, scan_line hbreak, quotedAfter_of_not_mem hmark, Option.bind_some, scan,
        if_neg fun hc => hspecial.1 hc.1, if_neg hspecial.2]
  have hchars (quoted : Bool) (cs : List Char) :
      scan quoted (cs.flatMap upperChar) = scan quoted cs := by
    induction cs generalizing quoted with
    | nil => rfl
    | cons c rest ih =>
      rw [List.flatMap_cons, hchar, scan, scan]
      simp only [ih]
  rw [IsClosed, Text.uppercase, String.toList_ofList, hchars]
  exact h

end Closed

section Binding

variable {table : String}

/-- A closed text on one line leads from a name into a name too. -/
theorem scan_of_closed {s : String} (h : IsClosed s) (hbreak : '\n' ∉ s.toList) (quoted : Bool) :
    scan quoted s.toList = some quoted := by
  cases quoted with
  | false => exact h
  | true =>
    rw [IsClosed, scan_line hbreak, Option.some_inj] at h
    have hnot := quotedAfter_not false s.toList
    rw [scan_line hbreak]
    exact congrArg some (hnot.trans (by rw [h]; rfl))

/-- Replacing leads where the text leads, if pattern and replacement lead nowhere else. -/
theorem scan_replaceFrom {pattern replacement : List Char} (hne : pattern ≠ [])
    (hpattern : ∀ quoted, scan quoted pattern = some quoted)
    (hreplacement : ∀ quoted, scan quoted replacement = some quoted) (quoted : Bool) (skip : Nat)
    (cs : List Char) :
    scan quoted (replaceFrom pattern replacement skip cs) = scan quoted (cs.drop skip) := by
  induction cs generalizing quoted skip with
  | nil => simp [replaceFrom]
  | cons c rest ih =>
    cases skip with
    | succ skip => exact ih quoted skip
    | zero =>
      rw [replaceFrom]
      split
      · rename_i hprefix
        obtain ⟨behind, hbehind⟩ := List.isPrefixOf_iff_prefix.mp hprefix
        have hrest : rest.drop (pattern.length - 1) = behind := by
          obtain ⟨first, others, rfl⟩ := List.exists_cons_of_ne_nil hne
          rw [List.cons_append, List.cons.injEq] at hbehind
          rw [← hbehind.2]
          exact List.drop_left
        rw [scan_append, hreplacement, Option.bind_some, ih, hrest, List.drop_zero, ← hbehind,
          scan_append, hpattern, Option.bind_some]
      · rw [List.drop_zero, scan, scan]
        simp only [ih, List.drop_zero]

/-- **Binding a table** whose name is on one line leaves a closed text closed. -/
theorem IsClosed.bind {s : String} (h : IsClosed s) (htable : '\n' ∉ table.toList) :
    IsClosed (bind (quote table) s) := by
  rw [IsClosed, Mysql.bind, replaceAll, String.toList_ofList,
    scan_replaceFrom (by decide) (scan_of_closed (by decide) (by decide))
      (scan_of_closed (isClosed_quote table) (break_not_mem_quote htable))]
  exact h

/-- Replacing goes on afresh behind a character that the pattern does not have. -/
theorem replaceFrom_append {x : Char} {pattern replacement : List Char} (hne : pattern ≠ [])
    (hx : x ∉ pattern) (rest : List Char) {skip : Nat} {cs : List Char} (hskip : skip ≤ cs.length) :
    replaceFrom pattern replacement skip (cs ++ x :: rest) =
      replaceFrom pattern replacement skip cs ++ x :: replaceFrom pattern replacement 0 rest := by
  have hprefix (cs : List Char) : pattern.isPrefixOf (cs ++ x :: rest) = pattern.isPrefixOf cs := by
    rw [Bool.eq_iff_iff, List.isPrefixOf_iff_prefix, List.isPrefixOf_iff_prefix]
    exact prefix_append_iff_of_head (by simpa using hx)
  induction cs generalizing skip with
  | nil =>
    obtain rfl : skip = 0 := Nat.le_zero.mp hskip
    have hhead := hprefix []
    have hempty : pattern.isPrefixOf [] = false := by
      cases pattern with
      | nil => exact absurd rfl hne
      | cons => rfl
    rw [hempty, List.nil_append] at hhead
    simp [replaceFrom, hhead]
  | cons c cs ih =>
    rw [List.length_cons] at hskip
    cases skip with
    | succ skip =>
      rw [List.cons_append, replaceFrom, replaceFrom]
      exact ih (by omega)
    | zero =>
      have hhead := hprefix (c :: cs)
      rw [List.cons_append] at hhead
      rw [List.cons_append, replaceFrom, replaceFrom, hhead]
      split
      · rename_i h
        have hlength := (List.isPrefixOf_iff_prefix.mp h).length_le
        rw [List.length_cons] at hlength
        rw [ih (by omega), List.append_assoc]
      · rw [ih (Nat.zero_le _), List.cons_append]

/-- Lines are bound one by one. -/
theorem bind_append (table s t : String) :
    bind table (s ++ "\n" ++ t) = bind table s ++ "\n" ++ bind table t := by
  refine String.toList_inj.mp ?_
  have hchars : (s ++ "\n" ++ t).toList = s.toList ++ '\n' :: t.toList := by simp
  simp only [Mysql.bind, replaceAll, hchars, String.toList_append, String.toList_ofList]
  rw [replaceFrom_append (by decide) (by decide) _ (Nat.zero_le _)]
  simp

end Binding

/-- A closed text that shows something and does not start like a comment. -/
structure Solid (s : String) : Prop where
  closed : IsClosed s
  start : s.toList.head? ≠ some '-'
  visible : ∃ c ∈ s.toList, isBlank c = false

instance (s : String) : Decidable (Solid s) :=
  decidable_of_iff (IsClosed s ∧ s.toList.head? ≠ some '-' ∧ s.toList.all isBlank = false)
    ⟨fun ⟨closed, start, visible⟩ => ⟨closed, start, by simpa using visible⟩,
      fun ⟨closed, start, visible⟩ => ⟨closed, start, by simpa using visible⟩⟩

section Solid

variable {s t table : String}

/-- A quoted name is solid. -/
theorem solid_quote (name : String) : Solid (quote name) := by
  have hquote : (quote name).toList = mark :: (quotedChars name.toList ++ [mark]) :=
    String.toList_ofList
  refine ⟨isClosed_quote name, ?_, mark, ?_, by decide⟩ <;> rw [hquote]
  · exact fun h => absurd (Option.some_inj.mp h) (by decide)
  · exact List.mem_cons_self

/-- A solid text stays solid before a closed one. -/
theorem Solid.append (hs : Solid s) (ht : IsClosed t) : Solid (s ++ t) := by
  obtain ⟨c, hc, hvisible⟩ := hs.visible
  refine ⟨hs.closed.append ht, ?_, c, by simp [hc], hvisible⟩
  have hne : s.toList ≠ [] := List.ne_nil_of_mem hc
  rw [String.toList_append, List.head?_append_of_ne_nil _ hne]
  exact hs.start

/-- A solid text may be indented. -/
theorem Solid.indented (hs : Solid s) : Solid ("    " ++ s) := by
  obtain ⟨c, hc, hvisible⟩ := hs.visible
  exact ⟨(by decide : IsClosed "    ").append hs.closed, by simp, c, by simp [hc], hvisible⟩

/-- Replacing brings no character to the front that neither text begins with. -/
theorem head?_replaceFrom_ne {x first : Char} {pattern others cs : List Char}
    (hcs : cs.head? ≠ some x) (hfirst : first ≠ x) :
    (replaceFrom pattern (first :: others) 0 cs).head? ≠ some x := by
  cases cs with
  | nil => simp [replaceFrom]
  | cons c rest =>
    rw [replaceFrom]
    split
    · simpa using hfirst
    · exact hcs

/-- Replacing leaves something visible in a text. -/
theorem visible_replaceFrom {pattern replacement cs : List Char}
    (hreplacement : ∃ c ∈ replacement, isBlank c = false) (hcs : ∃ c ∈ cs, isBlank c = false) :
    ∃ c ∈ replaceFrom pattern replacement 0 cs, isBlank c = false := by
  induction cs with
  | nil => exact absurd hcs (by simp)
  | cons first rest ih =>
    rw [replaceFrom]
    split
    · obtain ⟨c, hc, hvisible⟩ := hreplacement
      exact ⟨c, List.mem_append_left _ hc, hvisible⟩
    · obtain ⟨c, hc, hvisible⟩ := hcs
      rcases List.mem_cons.mp hc with rfl | hrest
      · exact ⟨c, List.mem_cons_self, hvisible⟩
      · obtain ⟨shown, hshown, hvisible⟩ := ih ⟨c, hrest, hvisible⟩
        exact ⟨shown, List.mem_cons_of_mem _ hshown, hvisible⟩

/-- The first line of a closed text that shows something shows something itself. -/
theorem isSilent_firstLine {cs : List Char} (hclosed : scan false cs = some false)
    (hstart : cs.head? ≠ some '-') (hvisible : ∃ c ∈ cs, isBlank c = false) :
    isSilent (firstLine cs) = false := by
  have hcomment {line : List Char} (h : line.head? ≠ some '-') :
      ['-', '-'].isPrefixOf line = false := by
    cases line with
    | nil => rfl
    | cons c rest =>
      have hc : ('-' == c) = false := beq_false_of_ne fun heq => h (heq ▸ rfl)
      rw [List.isPrefixOf, hc, Bool.false_and]
  have hshown {line : List Char} (h : ∃ c ∈ line, isBlank c = false) :
      line.all isBlank = false := by
    obtain ⟨c, hc, hvisible⟩ := h
    exact List.all_eq_false.mpr ⟨c, hc, by rw [hvisible]; exact Bool.false_ne_true⟩
  induction cs using line_induction with
  | last line hline =>
    rw [firstLine_line hline, isSilent, hcomment hstart, hshown hvisible]
    rfl
  | step line rest hline =>
    -- The first line break is inside a name, so that there is a mark before it.
    have hmark : mark ∈ line := by
      by_contra hnone
      rw [scan_append, scan_line hline, quotedAfter_of_not_mem hnone, Option.bind_some, scan,
        if_pos ⟨rfl, rfl⟩] at hclosed
      cases hclosed
    have hne : line ≠ [] := List.ne_nil_of_mem hmark
    rw [List.head?_append_of_ne_nil _ hne] at hstart
    rw [firstLine_append hline, isSilent, hcomment hstart, hshown ⟨mark, hmark, by decide⟩]
    rfl

/-- **A solid text is read as it stands.** -/
theorem Solid.readable (h : Solid s) : Readable s :=
  readLines_of_scan h.closed (Or.inr (isSilent_firstLine h.closed h.start h.visible))

/-- Binding a table whose name is on one line leaves a solid text solid. -/
theorem Solid.bind (h : Solid s) (htable : '\n' ∉ table.toList) :
    Solid (bind (quote table) s) := by
  have hquote : (quote table).toList = mark :: (quotedChars table.toList ++ [mark]) :=
    String.toList_ofList
  refine ⟨h.closed.bind htable, ?_, ?_⟩
  · rw [Mysql.bind, replaceAll, String.toList_ofList, hquote]
    exact head?_replaceFrom_ne h.start (by decide)
  · rw [Mysql.bind, replaceAll, String.toList_ofList, hquote]
    exact visible_replaceFrom ⟨mark, List.mem_cons_self, by decide⟩ h.visible

end Solid

end Schemata.Mysql
