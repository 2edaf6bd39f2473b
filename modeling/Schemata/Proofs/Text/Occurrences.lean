import Mathlib.Data.List.Infix
import Mathlib.Data.List.TakeWhile
import Schemata.Text.Blank
import Schemata.Text.Replace

/-!
# Occurrences of a pattern

Where two texts meet, a pattern can only go over from the one into the other if it has the
characters on both sides.  So an occurrence in a text that is put together is one in a part of it,
as long as the parts begin or end with characters that the pattern lacks.

* `infix_append_iff_of_head`, `infix_append_iff_of_last` - the pattern in two texts that meet;
* `infix_trimChars_iff` - a pattern without white space survives trimming;
* `replaceFrom_eq_self_iff` - replacing changes nothing exactly where the pattern does not occur;
* `replaceFrom_between` - the first occurrence is replaced, and then what is behind it.
-/

namespace Schemata.Text

section Meeting

variable {α : Type} {pattern s t : List α}

/-- A pattern that begins in `s` ends in it too, if it lacks what `t` begins with. -/
theorem prefix_append_iff_of_head (h : ∀ x ∈ t.head?, x ∉ pattern) :
    pattern <+: s ++ t ↔ pattern <+: s := by
  refine ⟨fun hbegins => ?_, fun hbegins => hbegins.trans (List.prefix_append s t)⟩
  by_cases hlength : pattern.length ≤ s.length
  · exact List.prefix_of_prefix_length_le hbegins (List.prefix_append s t) hlength
  · cases t with
    | nil => rwa [List.append_nil] at hbegins
    | cons x rest =>
      have hthrough : s ++ [x] <+: pattern :=
        List.prefix_of_prefix_length_le ⟨rest, by simp⟩ hbegins (by simp; omega)
      exact absurd (hthrough.subset (by simp)) (h x rfl)

/-- **Where two texts meet** and the pattern lacks what the second begins with, it occurs in one of
them. -/
theorem infix_append_iff_of_head (hne : pattern ≠ []) (h : ∀ x ∈ t.head?, x ∉ pattern) :
    pattern <:+: s ++ t ↔ pattern <:+: s ∨ pattern <:+: t := by
  induction s with
  | nil => simp [hne]
  | cons c rest ih =>
    rw [List.cons_append, List.infix_cons_iff, ih, List.infix_cons_iff, ← List.cons_append,
      prefix_append_iff_of_head h, or_assoc]

/-- **Where two texts meet** and the pattern lacks what the first ends with, it occurs in one of
them. -/
theorem infix_append_iff_of_last (hne : pattern ≠ []) (h : ∀ x ∈ s.getLast?, x ∉ pattern) :
    pattern <:+: s ++ t ↔ pattern <:+: s ∨ pattern <:+: t := by
  have hreverse : ∀ x ∈ s.reverse.head?, x ∉ pattern.reverse := by
    simpa [List.head?_reverse] using h
  have hmeet := infix_append_iff_of_head (s := t.reverse) (by simpa using hne) hreverse
  rw [← List.reverse_append, List.reverse_infix, List.reverse_infix, List.reverse_infix] at hmeet
  rw [hmeet, or_comm]

/-- A pattern does not occur where its characters do not. -/
theorem not_infix_of_not_mem {x : α} (hx : x ∈ pattern) (h : x ∉ s) : ¬ pattern <:+: s :=
  fun hoccurs => h (hoccurs.subset hx)

/-- Characters that the pattern lacks may stand before a text. -/
theorem infix_append_left_iff (hne : pattern ≠ []) (h : ∀ x ∈ s, x ∉ pattern) :
    pattern <:+: s ++ t ↔ pattern <:+: t := by
  obtain ⟨x, hx⟩ := List.exists_mem_of_ne_nil _ hne
  have hnot : ¬ pattern <:+: s := not_infix_of_not_mem hx fun hmem => h x hmem hx
  rw [infix_append_iff_of_last hne fun y hy => h y (List.mem_of_mem_getLast? hy)]
  exact or_iff_right hnot

/-- Characters that the pattern lacks may stand behind a text. -/
theorem infix_append_right_iff (hne : pattern ≠ []) (h : ∀ x ∈ t, x ∉ pattern) :
    pattern <:+: s ++ t ↔ pattern <:+: s := by
  obtain ⟨x, hx⟩ := List.exists_mem_of_ne_nil _ hne
  have hnot : ¬ pattern <:+: t := not_infix_of_not_mem hx fun hmem => h x hmem hx
  rw [infix_append_iff_of_head hne fun y hy => h y (List.mem_of_mem_head? hy)]
  exact or_iff_left hnot

end Meeting

/-- Trimming takes away white space in front and at the back. -/
theorem exists_trimChars_around (cs : List Char) :
    ∃ front back, (∀ c ∈ front, isBlank c = true) ∧ (∀ c ∈ back, isBlank c = true) ∧
      front ++ (trimChars cs ++ back) = cs := by
  refine ⟨cs.takeWhile isBlank, ((cs.dropWhile isBlank).reverse.takeWhile isBlank).reverse,
    fun c hc => List.mem_takeWhile_imp hc,
    fun c hc => List.mem_takeWhile_imp (List.mem_reverse.mp hc), ?_⟩
  rw [trimChars, trimEnd, ← List.reverse_append, List.takeWhile_append_dropWhile,
    List.reverse_reverse, List.takeWhile_append_dropWhile]

/-- A pattern without white space is in a text exactly if it is in the trimmed text. -/
theorem infix_trimChars_iff {pattern : List Char} (hne : pattern ≠ [])
    (h : pattern.any isBlank = false) (cs : List Char) :
    pattern <:+: trimChars cs ↔ pattern <:+: cs := by
  have hblank {x : Char} (hx : isBlank x = true) : x ∉ pattern := fun hmem =>
    List.any_eq_false.mp h x hmem hx
  obtain ⟨front, back, hfront, hback, heq⟩ := exists_trimChars_around cs
  calc pattern <:+: trimChars cs
      ↔ pattern <:+: trimChars cs ++ back :=
        (infix_append_right_iff hne fun x hx => hblank (hback x hx)).symm
    _ ↔ pattern <:+: front ++ (trimChars cs ++ back) :=
        (infix_append_left_iff hne fun x hx => hblank (hfront x hx)).symm
    _ ↔ pattern <:+: cs := by rw [heq]

section Replacing

variable {first other : Char} {rest others cs : List Char}

/-- **Replacing changes nothing** exactly where the pattern does not occur, if the replacement
begins with another character. -/
theorem replaceFrom_eq_self_iff (hother : other ≠ first) :
    replaceFrom (first :: rest) (other :: others) 0 cs = cs ↔ ¬ first :: rest <:+: cs := by
  induction cs with
  | nil => simp [replaceFrom]
  | cons c cs ih =>
    rw [replaceFrom, List.infix_cons_iff, ← List.isPrefixOf_iff_prefix]
    split
    · rename_i hbegins
      obtain ⟨behind, hbehind⟩ := List.isPrefixOf_iff_prefix.mp hbegins
      obtain ⟨rfl, -⟩ := List.cons_eq_cons.mp hbehind
      simp [hbegins, hother]
    · rename_i hbegins
      rw [List.cons_eq_cons, ih]
      simp [hbegins]

/-- What belongs to an occurrence already replaced is left out. -/
theorem replaceFrom_eq_drop (pattern replacement : List Char) (skip : Nat) (cs : List Char) :
    replaceFrom pattern replacement skip cs = replaceFrom pattern replacement 0 (cs.drop skip) := by
  induction cs generalizing skip with
  | nil => simp [replaceFrom]
  | cons c cs ih =>
    cases skip with
    | zero => rfl
    | succ skip => exact ih skip

/-- **The first occurrence is replaced,** and then what is behind it. -/
theorem replaceFrom_between {before behind replacement : List Char} (h : first ∉ before) :
    replaceFrom (first :: rest) replacement 0 (before ++ (first :: rest ++ behind)) =
      before ++ (replacement ++ replaceFrom (first :: rest) replacement 0 behind) := by
  induction before with
  | nil =>
    have hbegins : (first :: rest).isPrefixOf (first :: (rest ++ behind)) = true :=
      List.isPrefixOf_iff_prefix.mpr (List.prefix_append (first :: rest) behind)
    rw [List.nil_append, List.nil_append, List.cons_append, replaceFrom, if_pos hbegins,
      replaceFrom_eq_drop]
    simp
  | cons c cs ih =>
    rw [List.mem_cons, not_or] at h
    have hbegins : (first :: rest).isPrefixOf (c :: (cs ++ (first :: rest ++ behind))) = false := by
      simp [List.isPrefixOf, h.1]
    rw [List.cons_append, replaceFrom, hbegins, ih h.2]
    rfl

end Replacing

end Schemata.Text
