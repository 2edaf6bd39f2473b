import Mathlib.Data.List.DropRight
import Schemata.Proofs.Text.Marks
import Schemata.Text.Blank

/-!
# Trimmed texts in lower case

What is written in lower case stays as it is when it is put in lower case again, since no letter
becomes one that has another lower case, and changing case neither makes white space nor takes it
away.  So a trimmed text in lower case is in a normal form, and a text is in it exactly if trimming
and lower case leave it alone.

Case is changed letter by letter, with one exception: a capital sigma that closes a word becomes
another letter than elsewhere.

* `settled_of_mem_lowerChar` - what the case tables say of the letters they lead to;
* `lowercase_lowercase`, `trim_lowercase_trim` - the normal form is kept;
* `isNormal_iff` - when a text is normal;
* `lowercase_trim_eq_iff` - when texts that agree letter by letter have the same normal form;
* `lowercase_eq_iff_ascii` - which texts become a given ASCII word.
-/

namespace Schemata.Text

variable {x c : Char} {before rest cs ds : List Char} {s t : String}

section Tables

/-- The code points as the bits of a number. -/
def bitsOf (codes : List Nat) : Nat := codes.foldr (fun code bits => bits ||| 1 <<< code) 0

/-- A bit is set exactly for the code points that are listed. -/
theorem testBit_bitsOf (codes : List Nat) (code : Nat) :
    (bitsOf codes).testBit code = decide (code ∈ codes) := by
  induction codes with
  | nil => simp [bitsOf]
  | cons first rest ih =>
    have hbits : bitsOf (first :: rest) = bitsOf rest ||| 1 <<< first := rfl
    rw [hbits, Nat.testBit_or, ih, Nat.one_shiftLeft, Nat.testBit_two_pow]
    by_cases hcode : first = code
    · simp [hcode]
    · simp [hcode, Ne.symm hcode]

/-- Lists of code points that share no bit share no code point. -/
theorem not_mem_of_bitsOf {codes others : List Nat} (h : bitsOf codes &&& bitsOf others = 0)
    {code : Nat} (hcode : code ∈ codes) : code ∉ others := by
  intro hother
  have hbit := congrArg (·.testBit code) h
  simp [testBit_bitsOf, hcode, hother] at hbit

/-- The code points from the first one on, up to a distance from it, at every step. -/
def codesFrom (first distance step : Nat) : List Nat :=
  List.range' first (distance / step + 1) step

/-- The codes from a first one on, by equal steps, include each that such steps reach. -/
theorem mem_codesFrom {first distance step : Nat} {steps : Nat} (hdistance : steps ≤ distance)
    (hstep : steps % step = 0) : first + steps ∈ codesFrom first distance step := by
  refine List.mem_range'.mpr ⟨steps / step, ?_, ?_⟩
  · have hle : steps / step ≤ distance / step := Nat.div_le_div_right hdistance
    omega
  · have hdiv := Nat.div_add_mod steps step
    omega

/-- The code points that a case table sends to others. -/
def sources (images : List (Nat × Nat × Nat × Nat)) : List Nat :=
  images.flatMap fun (first, last, step, _) => codesFrom first (last - first) step

/-- The code points that a case table sends others to. -/
def targets (images : List (Nat × Nat × Nat × Nat)) : List Nat :=
  images.flatMap fun (first, last, step, target) => codesFrom target (last - first) step

/-- The white space above ASCII. -/
def blanks : List Nat := blankRanges.flatMap fun (first, last) => codesFrom first (last - first) 1

/-- Where a case table leads from and to. -/
theorem mem_of_image? {images : List (Nat × Nat × Nat × Nat)} {code image : Nat}
    (h : image? images code = some image) : code ∈ sources images ∧ image ∈ targets images := by
  obtain ⟨⟨first, last, step, target⟩, hmem, hrange⟩ := List.exists_of_findSome?_eq_some h
  dsimp only at hrange
  split at hrange
  · rename_i hin
    simp only [Bool.and_eq_true, decide_eq_true_eq, beq_iff_eq] at hin
    obtain ⟨⟨hfirst, hlast⟩, hstep⟩ := hin
    have hdistance : code - first ≤ last - first := Nat.sub_le_sub_right hlast first
    have hcode : first + (code - first) = code := Nat.add_sub_of_le hfirst
    rw [← Option.some_inj.mp hrange]
    exact ⟨List.mem_flatMap.mpr ⟨_, hmem, hcode ▸ mem_codesFrom hdistance hstep⟩,
      List.mem_flatMap.mpr ⟨_, hmem, mem_codesFrom hdistance hstep⟩⟩
  · cases hrange

/-- A code within the blank ranges is among the blanks listed. -/
theorem mem_blanks_of_within {code : Nat} (h : within blankRanges code = true) :
    code ∈ blanks := by
  obtain ⟨⟨first, last⟩, hmem, hin⟩ := List.any_eq_true.mp h
  simp only [Bool.and_eq_true, decide_eq_true_eq] at hin
  have hcode : first + (code - first) = code := Nat.add_sub_of_le hin.1
  have hdistance : code - first ≤ last - first := Nat.sub_le_sub_right hin.2 first
  exact List.mem_flatMap.mpr ⟨_, hmem, hcode ▸ mem_codesFrom hdistance (Nat.mod_one _)⟩

/-- What the table of lower case leads to has no other lower case. -/
theorem image?_image {code image : Nat} (h : image? lowerMap code = some image) :
    image? lowerMap image = none := by
  have hapart : bitsOf (targets lowerMap) &&& bitsOf (sources lowerMap) = 0 := by decide +kernel
  refine Option.eq_none_iff_forall_ne_some.mpr fun other hother => ?_
  exact not_mem_of_bitsOf hapart (mem_of_image? h).2 (mem_of_image? hother).1

/-- What the table of lower case leads to is a character.  It is above ASCII, but for the sign of
the kelvin, and not the capital letter with a dot that is in the other case table. -/
theorem image_bounds {code image : Nat} (h : image? lowerMap code = some image) :
    image.isValidChar ∧ (0x80 ≤ image ∨ image = 0x6B) ∧ image ≠ 0x130 := by
  have hbounds : ∀ image ∈ targets lowerMap,
      image.isValidChar ∧ (0x80 ≤ image ∨ image = 0x6B) ∧ image ≠ 0x130 := by decide +kernel
  exact hbounds image (mem_of_image? h).2

/-- The table of lower case neither leads from white space nor to it. -/
theorem not_blank_of_image? {code image : Nat} (h : image? lowerMap code = some image) :
    within blankRanges code = false ∧ within blankRanges image = false := by
  have hvisible : bitsOf (sources lowerMap ++ targets lowerMap) &&& bitsOf blanks = 0 := by
    decide +kernel
  have hnone : ∀ code ∈ sources lowerMap ++ targets lowerMap, within blankRanges code = false := by
    intro code hcode
    rw [← Bool.not_eq_true]
    exact fun hblank => not_mem_of_bitsOf hvisible hcode (mem_blanks_of_within hblank)
  obtain ⟨hsource, htarget⟩ := mem_of_image? h
  exact ⟨hnone code (List.mem_append_left _ hsource), hnone image (List.mem_append_right _ htarget)⟩

end Tables

section Characters

/-- A letter above ASCII that becomes one letter. -/
theorem lowerChar_eq_image (hascii : 0x80 ≤ c.toNat) (hexpansion : c.toNat ≠ 0x130) :
    lowerChar c = [((image? lowerMap c.toNat).map Char.ofNat).getD c] := by
  have hlookup : lowerExpansions.lookup c.toNat = none := by
    rw [lowerExpansions, List.lookup_cons, beq_eq_false_iff_ne.mpr hexpansion]
    rfl
  rw [lowerChar, if_neg (by omega), mapChar, hlookup]
  cases image? lowerMap c.toNat <;> rfl

/-- A letter above ASCII keeps its case, or it is in one of the two case tables. -/
theorem lowerChar_cases (hascii : 0x80 ≤ c.toNat) :
    lowerChar c = [c] ∨ c = Char.ofNat 0x130 ∨
      ∃ image, image? lowerMap c.toNat = some image ∧ lowerChar c = [Char.ofNat image] := by
  by_cases hexpansion : c.toNat = 0x130
  · exact .inr (.inl (by rw [← hexpansion, Char.ofNat_toNat]))
  · have hlower := lowerChar_eq_image hascii hexpansion
    cases himage : image? lowerMap c.toNat with
    | none => exact .inl (by rw [hlower, himage]; rfl)
    | some image => exact .inr (.inr ⟨image, rfl, by rw [hlower, himage]; rfl⟩)

/-- A valid code is that of the character made of it. -/
theorem toNat_ofNat {code : Nat} (h : code.isValidChar) : (Char.ofNat code).toNat = code := by
  rw [Char.ofNat, dif_pos h]
  rfl

/-- **What a letter becomes in lower case has no other lower case,** and it is white space exactly
if the letter is. -/
theorem settled_of_mem_lowerChar (h : x ∈ lowerChar c) :
    lowerChar x = [x] ∧ isBlank x = isBlank c := by
  by_cases hascii : c.toNat < 0x80
  · rw [lowerChar_ascii hascii, List.mem_singleton] at h
    subst h
    exact forall_ascii (P := fun c =>
      lowerChar c.toLower = [c.toLower] ∧ isBlank c.toLower = isBlank c) (by decide) c hascii
  · rcases lowerChar_cases (c := c) (by omega) with hself | rfl | ⟨image, himage, hlower⟩
    · rw [hself, List.mem_singleton] at h
      subst h
      exact ⟨hself, rfl⟩
    · have hdotted : lowerChar (Char.ofNat 0x130) = ['i', Char.ofNat 0x307] := by decide
      rw [hdotted, List.mem_pair] at h
      rcases h with rfl | rfl <;> decide
    · rw [hlower, List.mem_singleton] at h
      obtain ⟨hvalid, hbound, hexpansion⟩ := image_bounds himage
      obtain ⟨hblank, hblank'⟩ := not_blank_of_image? himage
      have hcode : x.toNat = image := h ▸ toNat_ofNat hvalid
      have hc : isBlank c = false := by rw [isBlank, if_neg hascii, hblank]
      rcases hbound with hhigh | rfl
      · have hhigh' : ¬ x.toNat < 0x80 := by omega
        constructor
        · rw [lowerChar_eq_image (by omega) (hcode ▸ hexpansion), hcode, image?_image himage]
          rfl
        · rw [hc, isBlank, if_neg hhigh', hcode, hblank']
      · rw [h, hc]
        decide

/-- Every character has a lower case. -/
theorem lowerChar_ne_nil (c : Char) : lowerChar c ≠ [] := by
  by_cases hascii : c.toNat < 0x80
  · rw [lowerChar_ascii hascii]
    exact List.cons_ne_nil _ _
  · rcases lowerChar_cases (c := c) (by omega) with hself | rfl | ⟨image, -, hlower⟩
    · rw [hself]
      exact List.cons_ne_nil _ _
    · decide
    · rw [hlower]
      exact List.cons_ne_nil _ _

/-- No letter above ASCII becomes ASCII in lower case, the sign of the kelvin apart. -/
theorem lt_of_lowerChar (h : ∀ x ∈ lowerChar c, x.toNat < 0x80 ∧ x ≠ 'k') : c.toNat < 0x80 := by
  by_contra hascii
  rcases lowerChar_cases (c := c) (by omega) with hself | rfl | ⟨image, himage, hlower⟩
  · exact hascii (h c (hself ▸ List.mem_singleton_self c)).1
  · exact absurd (h (Char.ofNat 0x307) (by decide)).1 (by decide)
  · obtain ⟨hvalid, hbound, -⟩ := image_bounds himage
    obtain ⟨hlow, hkelvin⟩ := h (Char.ofNat image) (hlower ▸ List.mem_singleton_self _)
    rw [toNat_ofNat hvalid] at hlow
    obtain rfl : image = 0x6B := hbound.resolve_left (by omega)
    exact hkelvin rfl

end Characters

section Texts

/-- The character is a capital sigma that closes a word, given what stands before it, read
backwards, and what is behind it. -/
def closesWord (before : List Char) (c : Char) (rest : List Char) : Bool :=
  c == capitalSigma && meetsCased before && !meetsCased rest

/-- The lower case of a character in its place. -/
def lowerAt (before : List Char) (c : Char) (rest : List Char) : List Char :=
  if closesWord before c rest then [finalSigma] else lowerChar c

/-- Lower case goes on from a character with what is now before. -/
theorem lowerFrom_cons (before : List Char) (c : Char) (rest : List Char) :
    lowerFrom before (c :: rest) = lowerAt before c rest ++ lowerFrom (c :: before) rest := rfl

/-- Only a capital sigma closes a word. -/
theorem eq_of_closesWord (h : closesWord before c rest = true) : c = capitalSigma := by
  simp only [closesWord, Bool.and_eq_true, beq_iff_eq] at h
  exact h.1.1

/-- The lower case of a character is in lower case, and as blank as the character. -/
theorem settled_of_mem_lowerAt (h : x ∈ lowerAt before c rest) :
    lowerChar x = [x] ∧ isBlank x = isBlank c := by
  unfold lowerAt at h
  split at h
  · rename_i hcloses
    rw [List.mem_singleton.mp h, eq_of_closesWord hcloses]
    decide
  · exact settled_of_mem_lowerChar h

/-- Every character has a lower case in its place. -/
theorem lowerAt_ne_nil (before : List Char) (c : Char) (rest : List Char) :
    lowerAt before c rest ≠ [] := by
  unfold lowerAt
  split
  · exact List.cons_ne_nil _ _
  · exact lowerChar_ne_nil c

/-- Only the empty text has an empty lower case. -/
theorem lowerFrom_eq_nil_iff : lowerFrom before cs = [] ↔ cs = [] := by
  cases cs with
  | nil => simp [lowerFrom]
  | cons c rest => simp [lowerFrom_cons, lowerAt_ne_nil]

/-- What stands in a text in lower case is in lower case. -/
theorem lowerChar_of_mem_lowerFrom (h : x ∈ lowerFrom before cs) : lowerChar x = [x] := by
  induction cs generalizing before with
  | nil => cases h
  | cons c rest ih =>
    rw [lowerFrom_cons, List.mem_append] at h
    rcases h with hfirst | hlater
    · exact (settled_of_mem_lowerAt hfirst).1
    · exact ih hlater

/-- A text of letters that have no other lower case stays as it is. -/
theorem lowerFrom_eq_self (h : ∀ x ∈ cs, lowerChar x = [x]) : lowerFrom before cs = cs := by
  induction cs generalizing before with
  | nil => rfl
  | cons c rest ih =>
    obtain ⟨hc, hrest⟩ := List.forall_mem_cons.mp h
    have hplace : lowerAt before c rest = [c] := by
      unfold lowerAt
      split
      · rename_i hcloses
        rw [eq_of_closesWord hcloses] at hc
        exact absurd hc (by decide)
      · exact hc
    rw [lowerFrom_cons, hplace, ih hrest, List.singleton_append]

/-- **Lower case stays as it is** when it is put in lower case again. -/
theorem lowercase_lowercase (s : String) : lowercase (lowercase s) = lowercase s := by
  rw [lowercase, lowercase, String.toList_ofList,
    lowerFrom_eq_self fun _ hx => lowerChar_of_mem_lowerFrom hx]

end Texts

section Trimming

/-- What is trimmed does not begin with white space. -/
theorem isBlank_head_trimChars (h : c ∈ (trimChars cs).head?) : isBlank c = false := by
  obtain ⟨rest, hrest⟩ : trimChars cs <+: cs.dropWhile isBlank := List.rdropWhile_prefix isBlank _
  obtain ⟨more, hmore⟩ := List.head?_eq_some_iff.mp h
  rw [hmore] at hrest
  have hfirst : (c :: (more ++ rest)).dropWhile isBlank = c :: (more ++ rest) := by
    rw [← List.cons_append, hrest]
    exact List.dropWhile_idempotent isBlank _
  simpa using List.dropWhile_eq_self_iff.mp hfirst (Nat.succ_pos _)

/-- What is trimmed does not end with white space. -/
theorem isBlank_last_trimChars (h : c ∈ (trimChars cs).getLast?) : isBlank c = false := by
  obtain ⟨hne, rfl⟩ := List.mem_getLast?_eq_getLast h
  exact Bool.not_eq_true _ ▸ List.rdropWhile_last_not isBlank _ hne

/-- A text that neither begins nor ends with white space is trimmed. -/
theorem trimChars_eq_self (hfirst : ∀ c ∈ cs.head?, isBlank c = false)
    (hlast : ∀ c ∈ cs.getLast?, isBlank c = false) : trimChars cs = cs := by
  have hfront : cs.dropWhile isBlank = cs := by
    cases cs with
    | nil => rfl
    | cons c rest => exact List.dropWhile_cons_of_neg (by simp [hfirst c rfl])
  have hback : cs.rdropWhile isBlank = cs :=
    List.rdropWhile_eq_self_iff.mpr fun hne => by simp [hlast _ (List.getLast?_eq_some_getLast hne)]
  rw [trimChars, hfront]
  exact hback

/-- Trimming what has been trimmed changes nothing. -/
theorem trim_trim (s : String) : trim (trim s) = trim s := by
  rw [trim, trim, String.toList_ofList,
    trimChars_eq_self (fun _ => isBlank_head_trimChars) fun _ => isBlank_last_trimChars]

/-- Lower case begins with white space where the text does. -/
theorem isBlank_head_lowerFrom (h : x ∈ (lowerFrom before cs).head?) :
    ∃ c ∈ cs.head?, isBlank x = isBlank c := by
  cases cs with
  | nil => cases h
  | cons c rest =>
    rw [lowerFrom_cons, List.head?_append_of_ne_nil _ (lowerAt_ne_nil before c rest)] at h
    exact ⟨c, rfl, (settled_of_mem_lowerAt (List.mem_of_mem_head? h)).2⟩

/-- Lower case ends with white space where the text does. -/
theorem isBlank_last_lowerFrom (h : x ∈ (lowerFrom before cs).getLast?) :
    ∃ c ∈ cs.getLast?, isBlank x = isBlank c := by
  induction cs generalizing before with
  | nil => cases h
  | cons c rest ih =>
    rw [lowerFrom_cons] at h
    cases rest with
    | nil =>
      rw [lowerFrom, List.append_nil] at h
      exact ⟨c, rfl, (settled_of_mem_lowerAt (List.mem_of_mem_getLast? h)).2⟩
    | cons d more =>
      rw [List.getLast?_append_of_ne_nil _ (by simp [lowerFrom_eq_nil_iff])] at h
      obtain ⟨e, he, hblank⟩ := ih h
      exact ⟨e, by rwa [List.getLast?_cons_cons], hblank⟩

/-- **A trimmed text stays trimmed** when it is put in lower case. -/
theorem trim_lowercase_trim (s : String) : trim (lowercase (trim s)) = lowercase (trim s) := by
  have htrimmed : trimChars (lowerFrom [] (trimChars s.toList)) =
      lowerFrom [] (trimChars s.toList) := by
    refine trimChars_eq_self (fun x hx => ?_) fun x hx => ?_
    · obtain ⟨c, hc, hblank⟩ := isBlank_head_lowerFrom hx
      rw [hblank, isBlank_head_trimChars hc]
    · obtain ⟨c, hc, hblank⟩ := isBlank_last_lowerFrom hx
      rw [hblank, isBlank_last_trimChars hc]
  rw [lowercase, trim, trim, String.toList_ofList, String.toList_ofList, htrimmed]

end Trimming

section Normal

/-- The text is not empty, trimmed and in lower case. -/
structure IsNormal (s : String) : Prop where
  nonempty : s ≠ ""
  trimmed : trim s = s
  lower : lowercase s = s

/-- A text is normal exactly if it is not empty and trimming and lower case leave it alone. -/
theorem isNormal_iff : IsNormal s ↔ s ≠ "" ∧ lowercase (trim s) = s := by
  constructor
  · intro h
    exact ⟨h.nonempty, by rw [h.trimmed, h.lower]⟩
  · rintro ⟨hne, hfixed⟩
    have htrimmed := trim_lowercase_trim s
    have hlower := lowercase_lowercase (trim s)
    rw [hfixed] at htrimmed hlower
    exact ⟨hne, htrimmed, hlower⟩

instance (s : String) : Decidable (IsNormal s) := decidable_of_iff _ isNormal_iff.symm

/-- **What is trimmed and put in lower case is normal,** unless nothing is left. -/
theorem isNormal_lowercase_trim (h : lowercase (trim s) ≠ "") : IsNormal (lowercase (trim s)) :=
  ⟨h, trim_lowercase_trim s, lowercase_lowercase (trim s)⟩

end Normal

section Letters

/-- Which characters are capital sigmas that close a word. -/
def closingsFrom (before : List Char) : List Char → List Bool
  | [] => []
  | c :: rest => closesWord before c rest :: closingsFrom (c :: before) rest

/-- The characters of the trimmed text, each as to whether it is a capital sigma that closes a
word. -/
def closings (s : String) : List Bool := closingsFrom [] (trim s).toList

/-- The texts agree letter by letter, up to case and up to white space at either end. -/
def SameLetters (s t : String) : Prop :=
  (trim s).toList.map lowerChar = (trim t).toList.map lowerChar

instance (s t : String) : Decidable (SameLetters s t) := inferInstanceAs (Decidable (_ = _))

/-- Two characters of one lower case agree in their places just when both or neither of them close a
word. -/
theorem lowerAt_eq_iff {before' rest' : List Char} {d : Char} (h : lowerChar c = lowerChar d) :
    lowerAt before c rest = lowerAt before' d rest' ↔
      closesWord before c rest = closesWord before' d rest' := by
  have hsigma : lowerChar capitalSigma ≠ [finalSigma] := by decide
  cases hc : closesWord before c rest with
  | true =>
    cases hd : closesWord before' d rest' with
    | true => simp [lowerAt, hc, hd]
    | false =>
      rw [eq_of_closesWord hc] at h
      simpa [lowerAt, hc, hd, ← h] using hsigma.symm
  | false =>
    cases hd : closesWord before' d rest' with
    | true =>
      rw [eq_of_closesWord hd] at h
      simpa [lowerAt, hc, hd, h] using hsigma
    | false => simp [lowerAt, hc, hd, h]

/-- Closing a word does not change how long the lower case is. -/
theorem length_lowerAt {before' rest' : List Char} {d : Char} (h : lowerChar c = lowerChar d) :
    (lowerAt before c rest).length = (lowerAt before' d rest').length := by
  have hplace (before rest : List Char) (c : Char) :
      (lowerAt before c rest).length = (lowerChar c).length := by
    unfold lowerAt
    split
    · rename_i hcloses
      rw [eq_of_closesWord hcloses]
      decide
    · rfl
  rw [hplace, hplace, h]

/-- **Letters that agree have the same lower case** exactly if the same of them close words as
capital sigmas. -/
theorem lowerFrom_eq_iff {before' : List Char} (h : cs.map lowerChar = ds.map lowerChar) :
    lowerFrom before cs = lowerFrom before' ds ↔
      closingsFrom before cs = closingsFrom before' ds := by
  induction cs generalizing before before' ds with
  | nil =>
    obtain rfl : ds = [] := by simpa using h.symm
    simp [lowerFrom, closingsFrom]
  | cons c rest ih =>
    cases ds with
    | nil => cases h
    | cons d more =>
      obtain ⟨hfirst, hrest⟩ := List.cons_eq_cons.mp h
      rw [lowerFrom_cons, lowerFrom_cons, closingsFrom, closingsFrom, List.cons_eq_cons,
        ← lowerAt_eq_iff hfirst, ← ih hrest]
      constructor
      · intro heq
        exact List.append_inj heq (length_lowerAt hfirst)
      · rintro ⟨hplace, hlater⟩
        rw [hplace, hlater]

/-- **Texts that agree letter by letter** have the same normal form exactly if the same of their
letters close words as capital sigmas. -/
theorem lowercase_trim_eq_iff (h : SameLetters s t) :
    lowercase (trim s) = lowercase (trim t) ↔ closings s = closings t := by
  rw [lowercase, lowercase, String.ofList_inj, lowerFrom_eq_iff h, closings, closings]

/-- A sigma that closes a word has two lower cases. -/
example : lowercase "ΟΔΟΣ" = "οδος" ∧ lowercase "οδοσ" = "οδοσ" := by decide +kernel

end Letters

section Ascii

/-- An ASCII text is put in lower case character by character. -/
theorem lowerFrom_ascii (h : ∀ c ∈ cs, c.toNat < 0x80) :
    lowerFrom before cs = cs.map Char.toLower := by
  induction cs generalizing before with
  | nil => rfl
  | cons c rest ih =>
    obtain ⟨hc, hrest⟩ := List.forall_mem_cons.mp h
    have hplace : lowerAt before c rest = [c.toLower] := by
      unfold lowerAt
      split
      · rename_i hcloses
        rw [eq_of_closesWord hcloses] at hc
        exact absurd hc (by decide)
      · exact lowerChar_ascii hc
    rw [lowerFrom_cons, hplace, ih hrest, List.map_cons, List.singleton_append]

/-- Only an ASCII text becomes ASCII in lower case, unless it has a sign of the kelvin. -/
theorem lt_of_mem_of_lowerFrom (h : ∀ x ∈ lowerFrom before cs, x.toNat < 0x80 ∧ x ≠ 'k')
    (hc : c ∈ cs) : c.toNat < 0x80 := by
  induction cs generalizing before with
  | nil => cases hc
  | cons d rest ih =>
    rw [lowerFrom_cons, List.forall_mem_append] at h
    rcases List.mem_cons.mp hc with rfl | hrest
    · have hplace : lowerAt before c rest = lowerChar c := by
        refine if_neg fun hcloses => ?_
        have hfinal := h.1 finalSigma (by simp [lowerAt, hcloses])
        exact absurd hfinal.1 (by decide)
      exact lt_of_lowerChar (hplace ▸ h.1)
    · exact ih h.2 hrest

/-- Beyond ASCII, the ASCII lower case leaves characters alone. -/
theorem toLower_of_le (h : 0x80 ≤ c.toNat) : c.toLower = c := by
  refine dif_neg fun hupper => ?_
  have hlast : c.toNat ≤ 0x5A := UInt32.le_iff_toNat_le.mp hupper.2
  omega

/-- The ASCII lower case goes character by character. -/
theorem toList_lowerAscii (s : String) : (lowerAscii s).toList = s.toList.map Char.toLower :=
  String.toList_map

/-- **What becomes a given ASCII word in lower case** is the word in any ASCII case.  A word with
the letter k is also written with the sign of the kelvin. -/
theorem lowercase_eq_iff_ascii {word : String}
    (h : ∀ x ∈ word.toList, x.toNat < 0x80 ∧ x ≠ 'k') :
    lowercase s = word ↔ lowerAscii s = word := by
  have hsame (hs : ∀ c ∈ s.toList, c.toNat < 0x80) : lowercase s = lowerAscii s := by
    rw [← String.toList_inj, lowercase, String.toList_ofList, toList_lowerAscii, lowerFrom_ascii hs]
  constructor
  · rintro rfl
    rw [lowercase, String.toList_ofList] at h
    exact (hsame fun _ hc => lt_of_mem_of_lowerFrom h hc).symm
  · rintro rfl
    refine hsame fun c hc => ?_
    by_contra hhigh
    have hmem : c.toLower ∈ (lowerAscii s).toList := by
      rw [toList_lowerAscii]
      exact List.mem_map_of_mem hc
    rw [toLower_of_le (by omega)] at hmem
    exact hhigh (h c hmem).1

end Ascii

end Schemata.Text
