import Schemata.Text.CharRange

/-!
# White space

`isBlank` is the Unicode property White_Space.  A text is trimmed at both ends by it, and a name
that is nothing but white space counts as missing.

* `trimChars_eq_nil` - trimming leaves nothing exactly of a text of white space;
* `isMissing_iff_trim` - a name is missing exactly when trimming leaves nothing of it.
-/

namespace Schemata.Text

/-- White space from U+0080. -/
def blankRanges : List (Nat × Nat) := [
  (0x85, 0x85), (0xA0, 0xA0), (0x1680, 0x1680), (0x2000, 0x200A), (0x2028, 0x2029),
  (0x202F, 0x202F), (0x205F, 0x205F), (0x3000, 0x3000)]

/-- The character is white space. -/
def isBlank (c : Char) : Bool :=
  if c.toNat < 0x80 then c.toNat == 0x20 || (0x09 ≤ c.toNat && c.toNat ≤ 0x0D)
  else within blankRanges c.toNat

/-- The characters without the white space at their end. -/
def trimEnd (cs : List Char) : List Char :=
  (cs.reverse.dropWhile isBlank).reverse

/-- The characters without the white space at either end. -/
def trimChars (cs : List Char) : List Char :=
  trimEnd (cs.dropWhile isBlank)

/-- The text without the white space at either end. -/
def trim (s : String) : String :=
  String.ofList (trimChars s.toList)

/-- The text holds nothing but white space: as a name it is missing. -/
def isMissing (s : String) : Bool :=
  s.toList.all isBlank

/-- Everything core calls white space is white space here. -/
theorem isBlank_of_isWhitespace {c : Char} (h : c.isWhitespace) : isBlank c := by
  simp only [Char.isWhitespace, Bool.or_eq_true, decide_eq_true_eq] at h
  rcases h with ((h | h) | h) | h <;> subst h <;> decide

/-- Dropping from the front removes exactly the texts that are blank throughout. -/
theorem dropWhile_isBlank_eq_nil {cs : List Char} :
    cs.dropWhile isBlank = [] ↔ cs.all isBlank := by
  induction cs with
  | nil => simp
  | cons c cs ih => by_cases h : isBlank c <;> simp [List.dropWhile, h, ih]

/-- **A text of white space is trimmed to nothing,** and only such a text is. -/
theorem trimChars_eq_nil {cs : List Char} : trimChars cs = [] ↔ cs.all isBlank := by
  have hhead : ∀ {d : Char} {ds : List Char},
      cs.dropWhile isBlank = d :: ds → isBlank d = false := by
    intro d ds h
    induction cs with
    | nil => simp at h
    | cons c cs ih =>
      by_cases hc : isBlank c
      · simp only [List.dropWhile, hc] at h; exact ih h
      · simp only [List.dropWhile, hc, List.cons.injEq] at h
        simpa [h.1] using hc
  rw [← dropWhile_isBlank_eq_nil]
  constructor
  · intro h
    simp only [trimChars, trimEnd, List.reverse_eq_nil_iff] at h
    have hall : (cs.dropWhile isBlank).reverse.all isBlank = true :=
      dropWhile_isBlank_eq_nil.1 h
    cases hd : cs.dropWhile isBlank with
    | nil => rfl
    | cons d ds =>
      rw [hd] at hall
      simp [hhead hd] at hall
  · intro h
    simp [trimChars, trimEnd, h]

/-- A name is missing exactly when trimming leaves nothing of it. -/
theorem isMissing_iff_trim (s : String) : isMissing s ↔ trim s = "" := by
  rw [isMissing, ← trimChars_eq_nil, trim]
  constructor
  · intro h; simp [h]
  · intro h
    have := congrArg String.toList h
    simpa using this

end Schemata.Text
