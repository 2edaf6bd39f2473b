import Mathlib.Data.List.Basic
import Schemata.Generation.Comment

/-!
# Reading generated source

Generated source is read line by line.  The lines that say something of the model are the public
items of a structure and of its functions, four blanks and `pub` in front; all other lines are
documentation, braces and the bodies of functions.  Documentation shows names as they are, line
breaks included, but each of its lines has its slashes in front, so that none of them looks like an
item.

* `inside?_eq`, `inside?_of_not_opened` - what stands between an opening and a closing;
* `Shows.append`, `Shows.join`, `shows_line` - the items of a text, part by part;
* `shows_docComment` - documentation has no item in it.
-/

namespace Schemata.Text

/-- No line holds a line break. -/
theorem break_not_mem_linesFrom {before cs line : List Char} (hbefore : '\n' ∉ before)
    (h : line ∈ linesFrom before cs) : '\n' ∉ line := by
  fun_induction linesFrom before cs with
  | case1 before hempty => cases h
  | case2 before hsome =>
    obtain rfl := List.mem_singleton.mp h
    rwa [List.mem_reverse]
  | case3 before rest ended ih =>
    rcases List.mem_cons.mp h with rfl | hrest
    · rw [List.mem_reverse]
      intro hmem
      apply hbefore
      revert hmem
      unfold ended
      split
      · exact List.mem_cons_of_mem _
      · exact id
    · exact ih List.not_mem_nil hrest
  | case4 before c rest hc ih =>
    apply ih _ h
    rw [List.mem_cons, not_or]
    exact ⟨fun heq => hc heq.symm, hbefore⟩

/-- The lines of a text have no line feed in them. -/
theorem break_not_mem_lines {s line : String} (h : line ∈ lines s) : '\n' ∉ line.toList := by
  obtain ⟨cs, hcs, rfl⟩ := List.mem_map.mp h
  rw [String.toList_ofList]
  exact break_not_mem_linesFrom List.not_mem_nil hcs

end Schemata.Text

namespace Schemata.Generation

open Text

/-- What stands between an opening and a closing, if a line has both. -/
def inside? (opening closing line : String) : Option (List Char) :=
  (line.toList.dropPrefix? opening.toList).bind (·.dropSuffix? closing.toList)

/-- What stands between an opening and a closing text is found there. -/
theorem inside?_eq (opening middle closing : String) :
    inside? opening closing (opening ++ middle ++ closing) = some middle.toList := by
  have hopening : (opening ++ middle ++ closing).toList.dropPrefix? opening.toList =
      some (middle ++ closing).toList :=
    List.dropPrefix?_eq_some_iff.mpr ⟨opening.toList, by simp, by simp⟩
  rw [inside?, hopening, Option.bind_some]
  exact List.dropSuffix?_eq_some_iff.mpr ⟨closing.toList, by simp, by simp⟩

/-- A line that does not begin with the opening has nothing in between. -/
theorem inside?_of_not_opened {opening line : String} (h : ¬ opening.toList <+: line.toList)
    (closing : String) : inside? opening closing line = none := by
  have hopening : line.toList.dropPrefix? opening.toList = none := by
    by_contra hsome
    obtain ⟨behind, hbehind⟩ := Option.ne_none_iff_exists'.mp hsome
    obtain ⟨before, hchars, hbefore⟩ := List.dropPrefix?_eq_some_iff.mp hbehind
    obtain rfl : before = opening.toList := eq_of_beq hbefore
    exact h ⟨behind, hchars.symm⟩
  rw [inside?, hopening]
  rfl

/-- Nothing is found behind another opening of the same length. -/
theorem inside?_eq_none {opening other : String}
    (hlength : opening.toList.length = other.toList.length) (hne : opening ≠ other)
    (closing rest : String) :
    inside? opening closing (other ++ rest) = none := by
  apply inside?_of_not_opened
  rintro ⟨behind, hchars⟩
  rw [String.toList_append] at hchars
  exact hne (String.toList_inj.mp (List.append_inj_left hchars hlength))

/-- What a public item begins with. -/
def itemOpening : String := "    pub "

/-- A line has a public item on it. -/
def IsItem (line : String) : Prop := itemOpening.toList <+: line.toList

instance (line : String) : Decidable (IsItem line) :=
  inferInstanceAs (Decidable (_ <+: _))

/-- A line that begins like a public item is one. -/
theorem isItem_append (rest : String) : IsItem (itemOpening ++ rest) := by
  rw [IsItem, String.toList_append]
  exact List.prefix_append _ _

/-- The lines of a source that have a public item on them. -/
def itemLines (source : String) : List String :=
  ((source.toList.splitOn '\n').map String.ofList).filter fun line => decide (IsItem line)

/-- A text ends with a whole line and has these items, whatever is behind it. -/
def Shows (text : String) (items : List String) : Prop :=
  ∀ rest, itemLines (text ++ rest) = items ++ itemLines rest

section Shows

variable {s t line : String} {items items' : List String}

/-- Two texts in a row show the items of both. -/
theorem Shows.append (hs : Shows s items) (ht : Shows t items') :
    Shows (s ++ t) (items ++ items') := by
  intro rest
  rw [String.append_assoc, hs, ht, List.append_assoc]

/-- Texts show what each of them shows. -/
theorem Shows.join {α : Type} {parts : List α} {text : α → String} {items : α → List String}
    (h : ∀ part ∈ parts, Shows (text part) (items part)) :
    Shows (String.join (parts.map text)) (parts.flatMap items) := by
  induction parts with
  | nil =>
    intro rest
    simp
  | cons part parts ih =>
    rw [List.forall_mem_cons] at h
    rw [List.map_cons, String.join_cons, List.flatMap_cons]
    exact h.1.append (ih h.2)

/-- Texts of one item each show these items. -/
theorem Shows.join_items {α : Type} {parts : List α} {text item : α → String}
    (h : ∀ part ∈ parts, Shows (text part) [item part]) :
    Shows (String.join (parts.map text)) (parts.map item) := by
  have hall := Shows.join h
  rwa [← List.map_eq_flatMap] at hall

/-- A whole text has the items that it shows. -/
theorem Shows.itemLines_eq (h : Shows s items) : itemLines s = items := by
  have hnothing : itemLines "" = [] := by decide
  have hall := h ""
  rwa [String.append_empty, hnothing, List.append_nil] at hall

/-- A line comes before the others. -/
theorem itemLines_line (h : '\n' ∉ line.toList) (rest : String) :
    itemLines (line ++ "\n" ++ rest) = (if IsItem line then [line] else []) ++ itemLines rest := by
  have hchars : (line ++ "\n" ++ rest).toList = line.toList ++ '\n' :: rest.toList := by simp
  have hsplit : (line.toList ++ '\n' :: rest.toList).splitOn '\n' =
      line.toList :: rest.toList.splitOn '\n' := by
    have hcons := List.splitOnP_append_cons (p := (· == '\n')) line.toList rest.toList
      (beq_self_eq_true '\n')
    exact hcons.trans (congrArg (· ++ _) (List.splitOn_eq_singleton h))
  rw [itemLines, hchars, hsplit, List.map_cons, String.ofList_toList, List.filter_cons]
  by_cases hitem : IsItem line <;> simp [hitem, itemLines]

/-- The line of an item shows that item. -/
theorem shows_item (hbreak : '\n' ∉ line.toList) (hitem : IsItem line) :
    Shows (line ++ "\n") [line] := by
  intro rest
  rw [itemLines_line hbreak, if_pos hitem]

/-- Any other line shows nothing. -/
theorem shows_line (hbreak : '\n' ∉ line.toList) (hitem : ¬ IsItem line) :
    Shows (line ++ "\n") [] := by
  intro rest
  rw [itemLines_line hbreak, if_neg hitem]

/-- **Documentation shows nothing,** whatever its text is. -/
theorem shows_docComment (text : String) {indent : Nat} (hindent : indent = 0 ∨ indent = 4) :
    Shows (docComment text indent) [] := by
  have hdoc : ∀ line ∈ lines text,
      Shows (docLine (String.ofList (List.replicate indent ' ')) line) [] := by
    intro line hline
    have hbreak := break_not_mem_lines hline
    rw [docLine]
    split
    · have hsplit (margin : String) : margin ++ "///\n" = (margin ++ "///") ++ "\n" := by
        rw [String.append_assoc]
        rfl
      rw [hsplit]
      rcases hindent with rfl | rfl
      · exact shows_line (by decide) (by decide)
      · exact shows_line (by decide) (by decide)
    · rcases hindent with rfl | rfl
      · apply shows_line
        · simp [hbreak]
        · simp [IsItem, itemOpening]
      · apply shows_line
        · simp [hbreak]
        · simp [IsItem, itemOpening]
  have hall := Shows.join hdoc
  rwa [List.flatMap_eq_nil_iff.mpr fun _ _ => rfl] at hall

end Shows

end Schemata.Generation
