import Mathlib.Data.List.Basic

/-!
# Lists in a text

Names in SQL and literals in generated code are listed in the same way: one behind the other, with
a comma and a blank in between, up to a closing character.  This file reads such a list with any
reader of its items.  An item may have commas, blanks and closing characters of its own, as long as
its reader knows where it ends.

* `readItems_intercalate` - what is listed is read back, whatever is behind it;
* `eq_of_readItems` - what is read was listed.
-/

namespace Schemata.Text

variable {α : Type}

/-- The items of a list behind the first one, up to the closing character, and what is behind that.
An item is never longer than the text it is read from. -/
def readMore (item : List Char → Option (α × List Char)) (closing : Char) :
    List Char → Option (List α × List Char)
  | ',' :: ' ' :: next =>
    match item next with
    | none => none
    | some (a, rest) =>
      if rest.length ≤ next.length then
        (readMore item closing rest).map fun (more, behind) => (a :: more, behind)
      else none
  | c :: rest => if c = closing then some ([], rest) else none
  | [] => none
termination_by cs => cs.length

/-- The items of a list up to the closing character, and what is behind that. -/
def readItems (item : List Char → Option (α × List Char)) (closing : Char) (cs : List Char) :
    Option (List α × List Char) :=
  match item cs with
  | some (a, rest) => (readMore item closing rest).map fun (more, behind) => (a :: more, behind)
  | none => if cs.head? = some closing then some ([], cs.tail) else none

/-- The characters of the items of a list behind the first one. -/
def moreChars (text : α → String) (items : List α) : List Char :=
  items.flatMap fun a => ',' :: ' ' :: (text a).toList

/-- A list is its first item, then the others. -/
theorem toList_intercalate (text : α → String) (a : α) (more : List α) :
    (String.intercalate ", " ((a :: more).map text)).toList =
      (text a).toList ++ moreChars text more := by
  induction more generalizing a with
  | nil => simp [moreChars]
  | cons b more ih =>
    rw [List.map_cons, List.map_cons, String.intercalate_cons_cons, ← List.map_cons,
      String.toList_append, String.toList_append, ih b]
    simp [moreChars]

section Reading

variable {item : List Char → Option (α × List Char)} {closing : Char} {text : α → String}
  {items : List α} {cs rest : List Char}

/-- What stands behind an item starts with a comma or with the closing character. -/
theorem exists_moreChars (text : α → String) (items : List α) (closing : Char)
    (rest : List Char) :
    ∃ c follows, (c = ',' ∨ c = closing) ∧
      moreChars text items ++ closing :: rest = c :: follows := by
  cases items with
  | nil => exact ⟨closing, rest, Or.inr rfl, rfl⟩
  | cons a more => exact ⟨',', _, Or.inl rfl, rfl⟩

/-- A list ends at its closing character. -/
theorem readMore_closing (hcomma : closing ≠ ',') (rest : List Char) :
    readMore item closing (closing :: rest) = some ([], rest) := by
  rw [readMore.eq_def]
  split
  · rename_i heq
    exact absurd (List.cons.inj heq).1 hcomma
  · rename_i heq
    obtain ⟨rfl, rfl⟩ := List.cons.inj heq
    exact if_pos rfl
  · rename_i heq
    cases heq

/-- The items behind the first one are read back. -/
theorem readMore_moreChars (hcomma : closing ≠ ',')
    (hitem : ∀ a ∈ items, ∀ c rest, c = ',' ∨ c = closing →
      item ((text a).toList ++ c :: rest) = some (a, c :: rest)) (rest : List Char) :
    readMore item closing (moreChars text items ++ closing :: rest) = some (items, rest) := by
  induction items with
  | nil => exact readMore_closing hcomma rest
  | cons a more ih =>
    rw [List.forall_mem_cons] at hitem
    have hmore := ih hitem.2
    obtain ⟨c, follows, hc, hfollows⟩ := exists_moreChars text more closing rest
    have hread := hitem.1 c follows hc
    have hsplit : moreChars text (a :: more) ++ closing :: rest =
        ',' :: ' ' :: ((text a).toList ++ c :: follows) := by
      rw [← hfollows]
      simp [moreChars]
    have hlength : (c :: follows).length ≤ ((text a).toList ++ c :: follows).length := by
      simp
    rw [hfollows] at hmore
    rw [hsplit, readMore, hread]
    simp only [if_pos hlength, hmore, Option.map_some]

/-- **What is listed is read back,** whatever is behind it, if the reader of the items reads each of
them where a comma or the closing character follows. -/
theorem readItems_intercalate (hcomma : closing ≠ ',')
    (hnone : ∀ rest, item (closing :: rest) = none)
    (hitem : ∀ a ∈ items, ∀ c rest, c = ',' ∨ c = closing →
      item ((text a).toList ++ c :: rest) = some (a, c :: rest)) (rest : List Char) :
    readItems item closing
      ((String.intercalate ", " (items.map text)).toList ++ closing :: rest) =
        some (items, rest) := by
  cases items with
  | nil =>
    rw [List.map_nil, String.intercalate_nil, String.toList_empty, List.nil_append, readItems,
      hnone]
    exact if_pos rfl
  | cons a more =>
    have hmore := readMore_moreChars hcomma (fun b hb => hitem b (List.mem_cons_of_mem a hb)) rest
    obtain ⟨c, follows, hc, hfollows⟩ := exists_moreChars text more closing rest
    rw [toList_intercalate, List.append_assoc, readItems, hfollows,
      hitem a List.mem_cons_self c follows hc]
    rw [hfollows] at hmore
    simp only [hmore, Option.map_some]

/-- What is read as the rest of a list was written as the rest of a list. -/
theorem eq_of_readMore
    (hitem : ∀ cs a rest, item cs = some (a, rest) → cs = (text a).toList ++ rest)
    (h : readMore item closing cs = some (items, rest)) :
    cs = moreChars text items ++ closing :: rest := by
  induction hlength : cs.length using Nat.strongRecOn generalizing cs items with
  | ind n ih =>
    rw [readMore.eq_def] at h
    split at h
    · rename_i next
      split at h
      · cases h
      · rename_i a behind hread
        split at h
        · rename_i hshorter
          obtain ⟨⟨more, last⟩, hmore, hpair⟩ := Option.map_eq_some_iff.mp h
          obtain ⟨rfl, rfl⟩ := Prod.mk.inj hpair
          have hbehind := ih behind.length (by simp at hlength; omega) hmore rfl
          rw [hitem next a behind hread, hbehind]
          simp [moreChars]
        · cases h
    · rename_i c behind _
      split at h
      · rename_i hc
        obtain ⟨rfl, rfl⟩ := Prod.mk.inj (Option.some_inj.mp h)
        rw [hc]
        rfl
      · cases h
    · cases h

/-- **What is read was listed,** if that holds of the items. -/
theorem eq_of_readItems
    (hitem : ∀ cs a rest, item cs = some (a, rest) → cs = (text a).toList ++ rest)
    (h : readItems item closing cs = some (items, rest)) :
    cs = (String.intercalate ", " (items.map text)).toList ++ closing :: rest := by
  unfold readItems at h
  split at h
  · rename_i a behind hread
    obtain ⟨⟨more, last⟩, hmore, hpair⟩ := Option.map_eq_some_iff.mp h
    obtain ⟨rfl, rfl⟩ := Prod.mk.inj hpair
    rw [toList_intercalate, List.append_assoc, ← eq_of_readMore hitem hmore]
    exact hitem cs a behind hread
  · split at h
    · rename_i hhead
      obtain ⟨rfl, rfl⟩ := Prod.mk.inj (Option.some_inj.mp h)
      obtain ⟨tail, rfl⟩ := List.head?_eq_some_iff.mp hhead
      rfl
    · cases h

end Reading

end Schemata.Text
