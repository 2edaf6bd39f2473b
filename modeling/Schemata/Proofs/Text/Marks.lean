import Mathlib.Data.List.Basic
import Schemata.Generation.Identifier

/-!
# Marks

A mark is an ASCII character that is neither a letter nor a digit, such as a slash, a colon or a
line feed.  Names are cut into words at marks, and changing the case of what is left brings none in:
the names that are made of words have no mark but the underscores between the words.

* `eq_of_mem_lowerChar`, `eq_of_mem_upperChar` - changing case brings in no mark;
* `eq_underscore_of_mem_snake`, `not_mem_pascal` - the marks of a name that is made of words;
* `not_mem_fieldName`, `not_mem_structName` - the marks of generated names.
-/

namespace Schemata

namespace Text

variable {x c : Char}

/-- An ASCII character that is neither a letter nor a digit.  The null character is none. -/
def IsMark (x : Char) : Prop := x.toNat ≠ 0 ∧ x.toNat < 0x80 ∧ x.isAlphanum = false

instance (x : Char) : Decidable (IsMark x) := inferInstanceAs (Decidable (_ ∧ _ ∧ _))

/-- The code point is not that of a mark, as far as the case tables have to say it. -/
def isUnmarked (code : Nat) : Bool := 0x80 ≤ code || (Char.ofNat code).isAlphanum

/-- A character whose code is unmarked is no mark. -/
theorem not_isMark_ofNat {code : Nat} (h : isUnmarked code = true) :
    ¬ IsMark (Char.ofNat code) := by
  rintro ⟨hnull, hascii, hother⟩
  simp only [isUnmarked, Bool.or_eq_true, decide_eq_true_eq] at h
  rcases h with hhigh | hword
  · by_cases hvalid : code.isValidChar
    · have hcode : (Char.ofNat code).toNat = code := by
        rw [Char.ofNat, dif_pos hvalid]
        rfl
      omega
    · rw [Char.ofNat, dif_neg hvalid] at hnull
      exact hnull rfl
  · exact Bool.false_ne_true (hother.symm.trans hword)

/-- The expansions of a case table hold no mark. -/
def expandsUnmarked (expansions : List (Nat × List Nat)) : Bool :=
  expansions.all fun (_, codes) => codes.all isUnmarked

/-- The images of a case table are no marks: a range goes above ASCII, or is one code point. -/
def imagesUnmarked (images : List (Nat × Nat × Nat × Nat)) : Bool :=
  images.all fun (first, last, _, target) =>
    0x80 ≤ target || first == last && isUnmarked target

/-- A table whose images are unmarked gives no mark. -/
theorem isUnmarked_of_image? {images : List (Nat × Nat × Nat × Nat)} {code image : Nat}
    (himages : imagesUnmarked images = true) (h : image? images code = some image) :
    isUnmarked image = true := by
  obtain ⟨⟨first, last, steps, target⟩, hmem, hrange⟩ := List.exists_of_findSome?_eq_some h
  have htarget := List.all_eq_true.mp himages _ hmem
  simp only [Bool.or_eq_true, Bool.and_eq_true, decide_eq_true_eq, beq_iff_eq] at htarget
  dsimp only at hrange
  split at hrange
  · rename_i hin
    simp only [Bool.and_eq_true, decide_eq_true_eq] at hin
    obtain rfl := Option.some_inj.mp hrange
    rcases htarget with hhigh | ⟨rfl, hone⟩
    · have : 0x80 ≤ target + (code - first) := by omega
      simp [isUnmarked, this]
    · have : target + (code - first) = target := by omega
      rw [this]
      exact hone
  · cases hrange

/-- What a case table makes of a character has no mark that the character is not itself. -/
theorem eq_of_mem_mapChar {expansions : List (Nat × List Nat)}
    {images : List (Nat × Nat × Nat × Nat)} (hexpansions : expandsUnmarked expansions = true)
    (himages : imagesUnmarked images = true) (hx : IsMark x)
    (h : x ∈ mapChar expansions images c) : x = c := by
  unfold mapChar at h
  split at h
  · rename_i codes hcodes
    obtain ⟨code, hcode, rfl⟩ := List.mem_map.mp h
    obtain ⟨before, after, hsplit, -⟩ := List.lookup_eq_some_iff.mp hcodes
    have hmem : (c.toNat, codes) ∈ expansions := by simp [hsplit]
    have hall := List.all_eq_true.mp (List.all_eq_true.mp hexpansions _ hmem)
    exact absurd hx (not_isMark_ofNat (hall code hcode))
  · split at h
    · rename_i image himage
      obtain rfl := List.mem_singleton.mp h
      exact absurd hx (not_isMark_ofNat (isUnmarked_of_image? himages himage))
    · exact List.mem_singleton.mp h

/-- What holds of the characters of all ASCII code points holds of all ASCII characters. -/
theorem forall_ascii {P : Char → Prop} (h : ∀ code < 0x80, P (Char.ofNat code)) (c : Char)
    (hc : c.toNat < 0x80) : P c := by
  have := h c.toNat hc
  rwa [Char.ofNat_toNat] at this

/-- Lower case brings in no mark. -/
theorem eq_of_mem_lowerChar (hx : IsMark x) (h : x ∈ lowerChar c) : x = c := by
  unfold lowerChar at h
  split at h
  · rename_i hascii
    obtain rfl := List.mem_singleton.mp h
    exact forall_ascii (P := fun c => IsMark c.toLower → c.toLower = c) (by decide)
      c hascii hx
  · exact eq_of_mem_mapChar (by decide) (by decide) hx h

/-- Upper case brings in no mark. -/
theorem eq_of_mem_upperChar (hx : IsMark x) (h : x ∈ upperChar c) : x = c := by
  unfold upperChar at h
  split at h
  · rename_i hascii
    obtain rfl := List.mem_singleton.mp h
    exact forall_ascii (P := fun c => IsMark c.toUpper → c.toUpper = c) (by decide)
      c hascii hx
  · exact eq_of_mem_mapChar (by decide) (by decide) hx h

/-- A mark in the lower case of a word stands in the word. -/
theorem mem_of_mem_lowerWord {word : List Char} (hx : IsMark x) (h : x ∈ lowerWord word) :
    x ∈ word := by
  fun_induction lowerWord word with
  | case1 => exact h
  | case2 => exact absurd hx (List.mem_singleton.mp h ▸ by decide)
  | case3 c hsigma => exact List.mem_singleton.mpr (eq_of_mem_lowerChar hx h)
  | case4 c rest hrest ih =>
    rcases List.mem_append.mp h with hfirst | hlater
    · exact eq_of_mem_lowerChar hx hfirst ▸ List.mem_cons_self
    · exact List.mem_cons_of_mem _ (ih hlater)

/-- A mark in a capitalised word stands in the word. -/
theorem mem_of_mem_capitalize {word : List Char} (hx : IsMark x) (h : x ∈ capitalize word) :
    x ∈ word := by
  cases word with
  | nil => exact h
  | cons c rest =>
    rcases List.mem_append.mp h with hfirst | hlater
    · exact eq_of_mem_upperChar hx hfirst ▸ List.mem_cons_self
    · exact List.mem_cons_of_mem _ (mem_of_mem_lowerWord hx hlater)

/-- Words are made of the letters and digits of the name. -/
theorem mem_of_mem_words {name : String} {word : List Char} (hword : word ∈ words name)
    (hc : c ∈ word) : c ∈ name.toList ∧ isAlphanumeric c := by
  have hmem : c ∈ name.toList.filter isAlphanumeric := by
    rw [← flatten_words]
    exact List.mem_flatten_of_mem hword hc
  exact List.mem_filter.mp hmem

/-- Names are cut into words at marks. -/
theorem not_mem_of_mem_words {name : String} {word : List Char} (hx : IsMark x)
    (hword : word ∈ words name) : x ∉ word := by
  intro hmem
  have halphanumeric := (mem_of_mem_words hword hmem).2
  rw [isAlphanumeric, if_pos hx.2.1, hx.2.2] at halphanumeric
  exact Bool.false_ne_true halphanumeric

/-- A character of a joined text stands in the separator or in one of the parts. -/
theorem mem_intercalate {separator : String} {parts : List String}
    (h : x ∈ (String.intercalate separator parts).toList) :
    x ∈ separator.toList ∨ ∃ part ∈ parts, x ∈ part.toList := by
  induction parts with
  | nil => simp at h
  | cons part rest ih =>
    cases rest with
    | nil => exact Or.inr ⟨part, List.mem_cons_self, by simpa using h⟩
    | cons next rest =>
      rw [String.intercalate_cons_cons, String.toList_append, String.toList_append,
        List.append_assoc, List.mem_append, List.mem_append] at h
      rcases h with hpart | hseparator | hrest
      · exact Or.inr ⟨part, List.mem_cons_self, hpart⟩
      · exact Or.inl hseparator
      · refine (ih hrest).imp_right ?_
        rintro ⟨other, hother, hmem⟩
        exact ⟨other, List.mem_cons_of_mem _ hother, hmem⟩

/-- **The only marks of a name in snake case are the underscores** between its words. -/
theorem eq_underscore_of_mem_snake {name : String} (hx : IsMark x) (h : x ∈ (snake name).toList) :
    x = '_' := by
  rcases mem_intercalate h with hbetween | ⟨_, hmem, hinside⟩
  · simpa using hbetween
  · obtain ⟨word, hword, rfl⟩ := List.mem_map.mp hmem
    rw [String.toList_ofList] at hinside
    exact absurd (mem_of_mem_lowerWord hx hinside) (not_mem_of_mem_words hx hword)

/-- **A name in pascal case has no mark.** -/
theorem not_mem_pascal {name : String} (hx : IsMark x) : x ∉ (pascal name).toList := by
  rw [pascal, String.toList_ofList, List.mem_flatMap]
  rintro ⟨word, hword, hmem⟩
  exact not_mem_of_mem_words hx hword (mem_of_mem_capitalize hx hmem)

end Text

namespace Generation

open Text

variable {x : Char}

/-- **The marks of a field name:** underscores, and the number sign of a raw name. -/
theorem not_mem_fieldName (hx : IsMark x) (hunderscore : x ≠ '_') (hraw : x ≠ '#')
    (name : String) : x ∉ (fieldName name).toList := by
  have hsnake : x ∉ (snake name).toList :=
    fun h => hunderscore (eq_underscore_of_mem_snake hx h)
  cases hkeyword : keywords.contains (snake name) with
  | true =>
    have hletter : x ≠ 'r' := fun h => absurd hx (h ▸ by decide)
    rw [fieldName_of_keyword hkeyword, String.toList_append]
    simp [hletter, hraw, hsnake]
  | false =>
    rw [fieldName_of_plain hkeyword]
    exact hsnake

/-- The marks of a module name are those of a field name. -/
theorem not_mem_moduleName (hx : IsMark x) (hunderscore : x ≠ '_') (hraw : x ≠ '#') (e : Entity) :
    x ∉ (moduleName e).toList :=
  not_mem_fieldName hx hunderscore hraw e.shortName

/-- The name of a structure has no mark. -/
theorem not_mem_structName (hx : IsMark x) (e : Entity) : x ∉ (structName e).toList :=
  not_mem_pascal hx

end Generation

end Schemata
