import Schemata.Proofs.Text.Marks

/-!
# ASCII names in snake case

As long as a name is ASCII, putting it in snake case does nothing but to cut it into words and to
put its letters in lower case, one by one.  No word is empty, so that a name that begins with a
letter does so in snake case.

* `lowerWord_ascii` - words in lower case;
* `ne_nil_of_mem_words` - no word is empty;
* `mem_snake_ascii`, `exists_snake_eq` - the characters of a name in snake case, and the first one.
-/

namespace Schemata.Text

variable {c x : Char} {name : String}

/-- A word of ASCII characters is put in lower case one by one. -/
theorem lowerWord_ascii {word : List Char} (h : ∀ c ∈ word, c.toNat < 0x80) :
    lowerWord word = word.map Char.toLower := by
  fun_induction lowerWord word with
  | case1 => rfl
  | case2 => exact absurd (h capitalSigma List.mem_cons_self) (by decide)
  | case3 c hsigma =>
    rw [lowerChar_ascii (h c List.mem_cons_self)]
    rfl
  | case4 c rest hrest ih =>
    rw [List.forall_mem_cons] at h
    rw [lowerChar_ascii h.1, ih h.2]
    rfl

/-- Letters and digits in this sense are ASCII. -/
theorem lt_of_isAlphanum (h : c.isAlphanum = true) : c.toNat < 0x80 := by
  have hupper : c.isUpper = decide (c.val ≥ 'A'.val ∧ c.val ≤ 'Z'.val) := rfl
  have hlower : c.isLower = (decide (c.val ≥ 'a'.val) && decide (c.val ≤ 'z'.val)) := rfl
  have hdigit : c.isDigit = (decide (c.val ≥ '0'.val) && decide (c.val ≤ '9'.val)) := rfl
  have hcases : (c.isUpper || c.isLower || c.isDigit) = true := h
  simp only [hupper, hlower, hdigit, Bool.or_eq_true, Bool.and_eq_true, decide_eq_true_eq,
    UInt32.le_iff_toNat_le] at hcases
  rcases hcases with (⟨-, hlast⟩ | ⟨-, hlast⟩) | ⟨-, hlast⟩
  · exact Nat.lt_of_le_of_lt hlast (by decide)
  · exact Nat.lt_of_le_of_lt hlast (by decide)
  · exact Nat.lt_of_le_of_lt hlast (by decide)

/-- No word is empty. -/
theorem ne_nil_of_mem_cut {mode : Mode} {word piece w : List Char}
    (hmode : mode = .upper → word ≠ []) (h : w ∈ cut mode word piece) : w ≠ [] := by
  have hstart {word : List Char} (hmode : Mode.start = .upper) : word ≠ [] := by cases hmode
  fun_induction cut mode word piece with
  | case1 => cases h
  | case2 mode word hword =>
    obtain rfl := List.mem_singleton.mp h
    exact List.reverse_ne_nil_iff.mpr (mt List.isEmpty_iff.mpr hword)
  | case3 =>
    obtain rfl := List.mem_singleton.mp h
    exact List.reverse_ne_nil_iff.mpr (List.cons_ne_nil _ _)
  | case4 mode word c d rest hlower ih =>
    rcases List.mem_cons.mp h with rfl | hlater
    · exact List.reverse_ne_nil_iff.mpr (List.cons_ne_nil _ _)
    · exact ih hstart hlater
  | case5 mode word c d rest hlower hupper ih =>
    rcases List.mem_cons.mp h with rfl | hlater
    · exact List.reverse_ne_nil_iff.mpr (hmode hupper.1)
    · exact ih hstart hlater
  | case6 mode word c d rest hlower hupper ih => exact ih (fun _ => List.cons_ne_nil _ _) h

/-- No word of a name is empty. -/
theorem ne_nil_of_mem_words {word : List Char} (h : word ∈ words name) : word ≠ [] := by
  obtain ⟨piece, -, hword⟩ := List.mem_flatMap.mp h
  have hstart : Mode.start = .upper → ([] : List Char) ≠ [] := by decide
  exact ne_nil_of_mem_cut hstart hword

/-- An ASCII name in snake case is made of its letters and digits in lower case, and of
underscores. -/
theorem mem_snake_ascii (hname : ∀ c ∈ name.toList, c.toNat < 0x80)
    (h : x ∈ (snake name).toList) :
    x = '_' ∨ ∃ c ∈ name.toList, c.isAlphanum ∧ x = c.toLower := by
  rcases mem_intercalate h with hbetween | ⟨_, hmem, hinside⟩
  · exact Or.inl (by simpa using hbetween)
  · obtain ⟨word, hword, rfl⟩ := List.mem_map.mp hmem
    have hascii : ∀ c ∈ word, c.toNat < 0x80 := fun c hc => hname c (mem_of_mem_words hword hc).1
    rw [String.toList_ofList, lowerWord_ascii hascii] at hinside
    obtain ⟨c, hc, rfl⟩ := List.mem_map.mp hinside
    obtain ⟨hin, halphanumeric⟩ := mem_of_mem_words hword hc
    rw [isAlphanumeric, if_pos (hascii c hc)] at halphanumeric
    exact Or.inr ⟨c, hin, halphanumeric, rfl⟩

/-- An ASCII name that begins with a letter or digit does so in snake case. -/
theorem exists_snake_eq {rest : List Char} (hname : name.toList = c :: rest)
    (hascii : ∀ x ∈ c :: rest, x.toNat < 0x80) (hc : c.isAlphanum) :
    ∃ more, (snake name).toList = c.toLower :: more := by
  have hletters : (words name).flatten = c :: rest.filter isAlphanumeric := by
    have hfirst : isAlphanumeric c := by
      rw [isAlphanumeric, if_pos (hascii c List.mem_cons_self)]
      exact hc
    rw [flatten_words, hname, List.filter_cons_of_pos hfirst]
  obtain ⟨word, others, hwords⟩ : ∃ word others, words name = word :: others := by
    refine List.exists_cons_of_ne_nil fun hnone => ?_
    rw [hnone] at hletters
    cases hletters
  have hmem : word ∈ words name := by
    rw [hwords]
    exact List.mem_cons_self
  obtain ⟨first, letters, hword⟩ : ∃ first letters, word = first :: letters :=
    List.exists_cons_of_ne_nil (ne_nil_of_mem_words hmem)
  obtain rfl : first = c := by
    rw [hwords, hword] at hletters
    exact (List.cons.inj hletters).1
  have hlower : lowerWord word = first.toLower :: letters.map Char.toLower := by
    have hall : ∀ x ∈ word, x.toNat < 0x80 := fun x hx =>
      hascii x (hname ▸ (mem_of_mem_words hmem hx).1)
    rw [lowerWord_ascii hall, hword, List.map_cons]
  rw [snake, hwords, List.map_cons, hlower]
  cases others with
  | nil => exact ⟨_, by rw [List.map_nil, String.intercalate_singleton, String.toList_ofList]⟩
  | cons next others =>
    rw [List.map_cons, String.intercalate_cons_cons]
    exact ⟨_, by rw [String.toList_append, String.toList_append, String.toList_ofList]; rfl⟩

end Schemata.Text
