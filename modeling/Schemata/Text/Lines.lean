/-!
# Lines of a text

A text is cut at every line feed.  A carriage return just before the line feed belongs to the line
end, and a line end at the very end of the text opens no further line.

* `linesFrom_of_not_mem` - a text without a line feed is one line;
* `lines_append` - the first line of a text, and the lines behind it;
* `lines_joined` - texts without line ends, each behind the end of the one before, are the lines.
-/

namespace Schemata.Text

/-- The lines of the characters, `line` being what has been read of the current one, backwards. -/
def linesFrom (line : List Char) : List Char → List (List Char)
  | [] => if line.isEmpty then [] else [line.reverse]
  | '\n' :: rest =>
    let ended := match line with
      | '\r' :: before => before
      | _ => line
    ended.reverse :: linesFrom [] rest
  | c :: rest => linesFrom (c :: line) rest

/-- The lines of a text. -/
def lines (s : String) : List String :=
  (linesFrom [] s.toList).map String.ofList

/-- A text without a line feed is one line. -/
theorem linesFrom_of_not_mem {line cs : List Char} (h : '\n' ∉ cs) (hne : line.reverse ++ cs ≠ []) :
    linesFrom line cs = [line.reverse ++ cs] := by
  induction cs generalizing line with
  | nil =>
    have : line ≠ [] := by simpa using hne
    simp [linesFrom, this]
  | cons c cs ih =>
    simp only [List.mem_cons, not_or] at h
    rw [linesFrom]
    · rw [ih h.2 (by simp)]
      simp
    · intro hc
      exact absurd hc.symm h.1

theorem linesFrom_append {line cs : List Char} (h : '\n' ∉ cs)
    (hend : (line.reverse ++ cs).getLast? ≠ some '\r') (rest : List Char) :
    linesFrom line (cs ++ '\n' :: rest) = (line.reverse ++ cs) :: linesFrom [] rest := by
  induction cs generalizing line with
  | nil =>
    rw [List.nil_append, List.append_nil, linesFrom]
    rintro before rfl
    simp at hend
  | cons c cs ih =>
    simp only [List.mem_cons, not_or] at h
    rw [List.cons_append, linesFrom]
    · rw [ih h.2 (by simpa using hend)]
      simp
    · intro hc
      exact absurd hc.symm h.1

/-- **The first line of a text,** and the lines behind it. -/
theorem lines_append {line : String} (h : '\n' ∉ line.toList)
    (hend : line.toList.getLast? ≠ some '\r') (rest : String) :
    lines (line ++ "\n" ++ rest) = line :: lines rest := by
  have hchars : (line ++ "\n" ++ rest).toList = line.toList ++ '\n' :: rest.toList := by simp
  rw [lines, hchars, linesFrom_append h (by simpa using hend)]
  simp [lines]

/-- Texts without line ends, each behind the end of the one before, are the lines of the whole. -/
theorem lines_joined {items : List String}
    (h : ∀ item ∈ items, '\n' ∉ item.toList ∧ item.toList.getLast? ≠ some '\r') (rest : String) :
    lines (String.join (items.map (· ++ "\n")) ++ rest) = items ++ lines rest := by
  induction items with
  | nil => simp
  | cons item items ih =>
    rw [List.forall_mem_cons] at h
    rw [List.map_cons, String.join_cons, String.append_assoc, lines_append h.1.1 h.1.2, ih h.2]
    rfl

end Schemata.Text
