import Mathlib.Data.List.Basic
import Mathlib.Data.List.TakeDrop
import Mathlib.Tactic.IntervalCases
import Schemata.Json.Reader
import Schemata.Json.Writer

/-!
# Reading back what was written

The two forms of the writer differ in white space only.  `Spells` says what they have in common: a
text that spells a value has the parts of the value in order, with white space in front of each, if
any.  The reader takes every such text for the value that it spells.

* `Reader.text_quote` - a text is read back through its escapes;
* `Reader.number_toDigits` - a natural number is read back through its digits;
* `Spells.readAs` - what spells a value is read as the value, whatever follows it;
* `Plain.parse?_compact`, `Plain.parse?_pretty` - both forms of a plain value are read as the value.
-/

namespace Schemata.Json

namespace Reader

/-- There is nothing but white space. -/
def Blank (cs : List Char) : Prop := ∀ c ∈ cs, isSpace c = true

/-- White space is skipped as a whole. -/
theorem skipSpace_blank {gap : List Char} (h : Blank gap) (cs : List Char) :
    skipSpace (gap ++ cs) = skipSpace cs :=
  List.dropWhile_append_of_pos h

/-- Nothing is skipped where no white space stands. -/
theorem skipSpace_cons {c : Char} (h : isSpace c = false) (cs : List Char) :
    skipSpace (c :: cs) = c :: cs :=
  List.dropWhile_cons_of_neg (by simp [h])

/-- The character cannot follow a number that ends before it. -/
def continues (c : Char) : Bool := c.isDigit || c == '.' || c == 'e' || c == 'E'

/-- A number that stands in front of the text ends there. -/
def Ends (cs : List Char) : Prop := ∀ c more, cs = c :: more → continues c = false

theorem ends_nil : Ends [] := fun _ _ h => nomatch h

/-- A number ends before a character that does not continue it. -/
theorem ends_cons {c : Char} (h : continues c = false) (more : List Char) : Ends (c :: more) := by
  rintro _ _ ⟨⟩
  exact h

/-- A number ends before white space. -/
theorem ends_blank {gap : List Char} (h : Blank gap) {cs : List Char} (hcs : Ends cs) :
    Ends (gap ++ cs) := by
  cases gap with
  | nil => exact hcs
  | cons c more =>
    refine ends_cons ?_ _
    have hspace := h c List.mem_cons_self
    simp only [isSpace, Bool.or_eq_true, beq_iff_eq] at hspace
    rcases hspace with ((rfl | rfl) | rfl) | rfl <;> rfl

/-! ### Texts -/

/-- A control character is read back by its number. -/
theorem numberedEscape_control {c : Char} (h : c.toNat < 0x20) (rest : List Char) :
    numberedEscape ('0' :: '0' :: Nat.digitChar (c.toNat / 16) :: Nat.digitChar (c.toNat % 16) ::
      rest) = some (some c, rest) := by
  have hcodes : ∀ code < 0x20, numberedEscape ('0' :: '0' :: Nat.digitChar (code / 16) ::
      Nat.digitChar (code % 16) :: rest) = some (some (Char.ofNat code), rest) := by
    intro code hcode
    interval_cases code <;> rfl
  rw [hcodes c.toNat h, Char.ofNat_toNat]

/-- A character that needs no escape stands for itself. -/
theorem textFrom_plain {c : Char} (hquote : c ≠ '"') (hbackslash : c ≠ '\\')
    (hcontrol : ¬ c.toNat < 0x20) (fuel : Nat) (before rest : List Char) :
    textFrom (fuel + 1) true before (c :: rest) = textFrom fuel true (c :: before) rest := by
  rw [textFrom.eq_def]
  split <;> simp_all

/-- **Each character is read back,** escaped or not. -/
theorem textFrom_escapedChar (fuel : Nat) (before : List Char) (c : Char) (rest : List Char) :
    textFrom (fuel + 1) true before (escapedChar c ++ rest) =
      textFrom fuel true (c :: before) rest := by
  unfold escapedChar
  split_ifs with hquote hbackslash _ _ _ _ _ hcontrol
  iterate 7
    · subst c
      rfl
  · simp only [numberedChar, List.cons_append, List.nil_append, textFrom,
      numberedEscape_control hcontrol]
  · exact textFrom_plain hquote hbackslash hcontrol fuel before rest

/-- Characters that were escaped are read back, up to the quote. -/
theorem textFrom_escaped (cs rest before : List Char) {fuel : Nat} (h : cs.length < fuel) :
    textFrom fuel true before (cs.flatMap escapedChar ++ '"' :: rest) =
      some (some (String.ofList (before.reverse ++ cs)), rest) := by
  induction cs generalizing before fuel with
  | nil =>
    obtain ⟨fuel, rfl⟩ := Nat.exists_eq_succ_of_ne_zero (Nat.ne_of_gt h)
    rw [List.append_nil]
    rfl
  | cons c cs ih =>
    obtain ⟨fuel, rfl⟩ := Nat.exists_eq_succ_of_ne_zero (Nat.ne_of_gt (Nat.zero_lt_of_lt h))
    rw [List.length_cons] at h
    rw [List.flatMap_cons, List.append_assoc, textFrom_escapedChar, ih _ (by omega),
      List.reverse_cons, List.append_assoc, List.singleton_append]

/-- Escaping makes no text shorter. -/
theorem length_le_flatMap_escapedChar (cs : List Char) :
    cs.length ≤ (cs.flatMap escapedChar).length := by
  induction cs with
  | nil => exact Nat.le_refl 0
  | cons c cs ih =>
    have hone : 1 ≤ (escapedChar c).length := by
      unfold escapedChar
      repeat' split
      all_goals simp [numberedChar]
    rw [List.flatMap_cons, List.length_append, List.length_cons]
    omega

/-- **A text is read back,** whatever follows its closing quotation mark. -/
theorem text_escaped (s : String) (rest : List Char) :
    text (s.toList.flatMap escapedChar ++ '"' :: rest) = some (some s, rest) := by
  have hlength := length_le_flatMap_escapedChar s.toList
  rw [text, textFrom_escaped _ _ _ (by rw [List.length_append]; omega), List.reverse_nil,
    List.nil_append, String.ofList_toList]

/-! ### Numbers -/

/-- Digits are read up to where the number ends. -/
theorem digits_append {ds rest : List Char} (h : ∀ c ∈ ds, c.isDigit = true) (hrest : Ends rest) :
    digits (ds ++ rest) = (ds, rest) := by
  have hstop : rest.takeWhile Char.isDigit = [] ∧ rest.dropWhile Char.isDigit = rest := by
    cases rest with
    | nil => exact ⟨rfl, rfl⟩
    | cons c more =>
      have hc : c.isDigit = false := by
        have hends := hrest c more rfl
        simp only [continues, Bool.or_eq_false_iff] at hends
        exact hends.1.1.1
      exact ⟨List.takeWhile_cons_of_neg (by simp [hc]), List.dropWhile_cons_of_neg (by simp [hc])⟩
  rw [digits, List.span_eq_takeWhile_dropWhile, List.takeWhile_append_of_pos h,
    List.dropWhile_append_of_pos h, hstop.1, hstop.2, List.append_nil]

/-- Only zero is written with a zero in front. -/
theorem head_toDigits {n : Nat} (h : 0 < n) : (Nat.toDigits 10 n).head? ≠ some '0' := by
  induction n using Nat.strongRecOn with
  | _ n ih =>
    rw [Nat.toDigits_eq_if (by decide)]
    split
    · rename_i hsmall
      intro hzero
      have hdigit : Nat.digitChar n = '0' := Option.some.inj hzero
      rw [Nat.digitChar_eq_zero] at hdigit
      omega
    · rename_i hlarge
      rw [List.head?_append_of_ne_nil _ Nat.toDigits_ne_nil]
      exact ih (n / 10) (by omega) (by omega)

/-- The digits of a number are read as those of an integer. -/
theorem integerDigits_toDigits (n : Nat) {rest : List Char} (hrest : Ends rest) :
    integerDigits (Nat.toDigits 10 n ++ rest) = some (Nat.toDigits 10 n, rest) := by
  have hdigits : ∀ c ∈ Nat.toDigits 10 n, c.isDigit = true := fun c hc =>
    Nat.isDigit_of_mem_toDigits (by decide) (by decide) hc
  rw [integerDigits, digits_append hdigits hrest]
  split
  · rename_i hnil
    exact absurd (Prod.mk.inj hnil).1 Nat.toDigits_ne_nil
  · rename_i second more _ hzero
    have hhead := congrArg List.head? (Prod.mk.inj hzero).1
    rcases Nat.eq_zero_or_pos n with rfl | hpos
    · cases (Prod.mk.inj hzero).1
    · exact absurd hhead (head_toDigits hpos)
  · rfl

/-- The digits of a number have its value. -/
theorem decimal_toDigits (n : Nat) : decimal (Nat.toDigits 10 n) = n := by
  have hvalue : Nat.ofDigitChars 10 (Nat.toDigits 10 n) 0 = n :=
    Nat.ofDigitChars_toDigits (by decide) (by decide)
  rw [Nat.ofDigitChars_eq_foldl] at hvalue
  simpa only [decimal, Nat.mul_comm 10] using hvalue

/-- **A natural number is read back,** if what follows does not continue it. -/
theorem number_toDigits (n : Nat) {rest : List Char} (hrest : Ends rest) :
    number false (Nat.toDigits 10 n ++ rest) = some ({ digits := n }, rest) := by
  have hpoint : fractionDigits rest = some (none, rest) := by
    unfold fractionDigits
    split
    · cases hrest '.' _ rfl
    · rfl
  have hexponent : exponentPart rest = some (none, rest) := by
    unfold exponentPart
    split
    · rename_i c more
      have hends := hrest c more rfl
      simp only [continues, Bool.or_eq_false_iff, beq_eq_false_iff_ne] at hends
      rw [if_neg (not_or.mpr ⟨hends.1.2, hends.2⟩)]
    · rfl
  simp only [number, integerDigits_toDigits n hrest, hpoint, hexponent, Option.bind_eq_bind,
    Option.bind_some, Option.getD_none, List.append_nil, decimal_toDigits]
  rfl

/-! ### Values -/

/-- The text is read as the value, whatever follows that does not continue a number. -/
def ReadAs (text : List Char) (j : Json) : Prop :=
  ∀ rest fuel, Ends rest → 2 * text.length ≤ fuel → value fuel (text ++ rest) = some (j, rest)

/-- White space in front of a value does not matter. -/
theorem value_blank {gap : List Char} (h : Blank gap) (fuel : Nat) (cs : List Char) :
    value fuel (gap ++ cs) = value fuel cs := by
  cases fuel with
  | zero => rfl
  | succ fuel => simp only [value, skipSpace_blank h]

/-- A text that is not empty needs to be read only with something to spare. -/
theorem ReadAs.of_succ {text : List Char} {j : Json} (hne : text ≠ [])
    (h : ∀ rest fuel, Ends rest → 2 * text.length ≤ fuel + 1 →
      value (fuel + 1) (text ++ rest) = some (j, rest)) : ReadAs text j := by
  intro rest fuel hrest hfuel
  cases fuel with
  | zero =>
    have hpos := List.length_pos_iff.mpr hne
    omega
  | succ fuel => exact h rest fuel hrest hfuel

theorem readAs_null : ReadAs "null".toList .null :=
  .of_succ (by simp) fun _ _ _ _ => rfl

theorem readAs_bool (b : Bool) : ReadAs (if b then "true" else "false").toList (.bool b) := by
  cases b with
  | true => exact .of_succ (by simp) fun _ _ _ _ => rfl
  | false => exact .of_succ (by simp) fun _ _ _ _ => rfl

theorem toList_quote (s : String) :
    (quote s).toList = '"' :: (s.toList.flatMap escapedChar ++ ['"']) :=
  String.toList_ofList

/-- A quoted text is read back behind its opening quotation mark. -/
theorem text_quote (s : String) (rest : List Char) :
    ∃ more, (quote s).toList ++ rest = '"' :: more ∧ text more = some (some s, rest) := by
  refine ⟨s.toList.flatMap escapedChar ++ '"' :: rest, ?_, text_escaped s rest⟩
  rw [toList_quote, List.cons_append, List.append_assoc, List.singleton_append]

/-- A text between quotes is a value. -/
theorem value_text {s : String} {cs rest : List Char} (h : text cs = some (some s, rest))
    (fuel : Nat) : value (fuel + 1) ('"' :: cs) = some (.string s, rest) := by
  simp only [value, skipSpace_cons (show isSpace '"' = false by decide), h, Option.map_some]

/-- A quoted text reads back. -/
theorem readAs_quote (s : String) : ReadAs (quote s).toList (.string s) := by
  refine .of_succ (by simp [toList_quote]) fun rest fuel _ _ => ?_
  obtain ⟨more, hmore, htext⟩ := text_quote s rest
  rw [hmore, value_text htext]

/-- No digit is white space. -/
theorem isSpace_of_isDigit {d : Char} (h : d.isDigit = true) : isSpace d = false := by
  rw [← Bool.not_eq_true]
  intro hd
  simp only [isSpace, Bool.or_eq_true, beq_iff_eq] at hd
  rcases hd with ((rfl | rfl) | rfl) | rfl <;> cases h

/-- What begins with a digit is read as a number. -/
theorem value_digit {d : Char} (hd : d.isDigit = true) {n : JsonNumber} {cs rest : List Char}
    (h : number false (d :: cs) = some (n, rest)) (fuel : Nat) :
    value (fuel + 1) (d :: cs) = some (.number n, rest) := by
  simp only [value, skipSpace_cons (isSpace_of_isDigit hd)]
  split
  all_goals first
    | (rename_i hword; cases (List.cons.inj hword).1; cases hd)
    | rw [h, Option.map_some]

theorem toList_toString (n : Nat) : (toString n).toList = Nat.toDigits 10 n := by
  rw [Nat.toString_eq_ofList_toDigits, String.toList_ofList]

/-- A natural number reads back. -/
theorem readAs_nat (n : Nat) : ReadAs (toString n).toList (.nat n) := by
  rw [toList_toString]
  refine .of_succ Nat.toDigits_ne_nil fun rest fuel hrest _ => ?_
  have hnumber := number_toDigits n hrest
  cases hdigits : Nat.toDigits 10 n with
  | nil => exact absurd hdigits Nat.toDigits_ne_nil
  | cons d ds =>
    have hd : d.isDigit = true :=
      Nat.isDigit_of_mem_toDigits (b := 10) (n := n) (by decide) (by decide)
        (hdigits ▸ List.mem_cons_self)
    rw [hdigits] at hnumber
    exact value_digit hd hnumber fuel

/-! ### Lists and objects -/

/-- Parts with a comma between two of them, and white space in front of each. -/
def row (gap : List Char) : List (List Char) → List Char
  | [] => []
  | [part] => gap ++ part
  | part :: next :: parts => gap ++ part ++ ',' :: row gap (next :: parts)

variable {gap last rest : List Char} {fuel : Nat}

/-- The items of a list are read in order, up to the closing bracket. -/
theorem items_row (hgap : Blank gap) (hlast : Blank last) {parts : List (Json × List Char)}
    (hne : parts ≠ []) (h : ∀ part ∈ parts, ReadAs part.2 part.1)
    (hfuel : 2 * (row gap (parts.map (·.2))).length < fuel) :
    items fuel (row gap (parts.map (·.2)) ++ (last ++ ']' :: rest)) =
      some (parts.map (·.1), rest) := by
  induction parts generalizing fuel with
  | nil => exact absurd rfl hne
  | cons part parts ih =>
    obtain ⟨fuel, rfl⟩ := Nat.exists_eq_succ_of_ne_zero (Nat.ne_of_gt (Nat.zero_lt_of_lt hfuel))
    have hpart := h part List.mem_cons_self
    cases parts with
    | nil =>
      simp only [List.map_cons, List.map_nil, row, List.length_append] at hfuel ⊢
      have hends : Ends (last ++ ']' :: rest) := ends_blank hlast (ends_cons (by decide) rest)
      have hclose : skipSpace (last ++ ']' :: rest) = ']' :: rest := by
        rw [skipSpace_blank hlast, skipSpace_cons (by decide)]
      rw [items, List.append_assoc, value_blank hgap, hpart _ _ hends (by omega)]
      simp only [hclose]
    | cons next parts =>
      simp only [List.map_cons, row, List.length_append, List.length_cons] at hfuel ih ⊢
      have hrest := @ih fuel (by simp) (fun p hp => h p (List.mem_cons_of_mem _ hp))
        (by omega)
      rw [items, List.append_assoc, List.append_assoc, value_blank hgap, List.cons_append,
        hpart _ _ (ends_cons (by decide) _) (by omega)]
      simp only [skipSpace_cons (show isSpace ',' = false by decide), hrest, Option.map_some]

/-- The text begins with a character that is no white space and closes nothing. -/
def Begins (text : List Char) : Prop :=
  ∃ c more, text = c :: more ∧ isSpace c = false ∧ c ≠ ']' ∧ c ≠ '\x7d'

/-- Behind white space, a row that has a part begins as its first part does. -/
theorem skipSpace_row (hgap : Blank gap) {part : List Char} (h : Begins part)
    (parts : List (List Char)) (behind : List Char) :
    ∃ c more, skipSpace (row gap (part :: parts) ++ behind) = c :: more ∧ c ≠ ']' ∧ c ≠ '\x7d' := by
  obtain ⟨c, more, rfl, hspace, hbracket, hbrace⟩ := h
  cases parts with
  | nil =>
    refine ⟨c, more ++ behind, ?_, hbracket, hbrace⟩
    rw [row, List.append_assoc, skipSpace_blank hgap, List.cons_append, skipSpace_cons hspace]
  | cons next parts =>
    refine ⟨c, more ++ (',' :: row gap (next :: parts)) ++ behind, ?_, hbracket, hbrace⟩
    rw [row, List.append_assoc, List.append_assoc, skipSpace_blank hgap, List.cons_append,
      skipSpace_cons hspace, List.append_assoc]

/-- Brackets around nothing are an array without items. -/
theorem value_no_items {cs : List Char} (h : skipSpace cs = ']' :: rest) :
    value (fuel + 1) ('[' :: cs) = some (.array [], rest) := by
  simp only [value, skipSpace_cons (show isSpace '[' = false by decide), h]

/-- Brackets around items are an array of them. -/
theorem value_items {c : Char} {cs more : List Char} (hskip : skipSpace cs = c :: more)
    (hc : c ≠ ']') {found : List Json} (h : items fuel cs = some (found, rest)) :
    value (fuel + 1) ('[' :: cs) = some (.array found, rest) := by
  simp only [value, skipSpace_cons (show isSpace '[' = false by decide), hskip, h, Option.map_some]
  split
  · rename_i hclose
    exact absurd (List.cons.inj hclose).1 hc
  · rfl

/-- **A list is read with its items.** -/
theorem readAs_array (hgap : Blank gap) (hlast : Blank last) {parts : List (Json × List Char)}
    (h : ∀ part ∈ parts, Begins part.2 ∧ ReadAs part.2 part.1) :
    ReadAs ('[' :: (row gap (parts.map (·.2)) ++ last ++ [']'])) (.array (parts.map (·.1))) := by
  refine .of_succ (by simp) fun rest fuel _ hfuel => ?_
  simp only [List.length_cons, List.length_append, List.length_nil] at hfuel
  rw [List.cons_append, List.append_assoc, List.append_assoc, List.singleton_append]
  cases parts with
  | nil =>
    rw [List.map_nil, row, List.nil_append]
    exact value_no_items (by rw [skipSpace_blank hlast, skipSpace_cons (by decide)])
  | cons part parts =>
    obtain ⟨c, more, hskip, hbracket, _⟩ :=
      skipSpace_row hgap (h part List.mem_cons_self).1 (parts.map (·.2)) (last ++ ']' :: rest)
    exact value_items hskip hbracket (items_row hgap hlast (List.cons_ne_nil part parts)
      (fun p hp => (h p hp).2) (by omega))

/-- A field of an object: a name, the white space behind the colon, and a value with its text. -/
structure Field where
  name : String
  gap : List Char
  item : Json
  text : List Char

namespace Field

/-- The text of the field. -/
def whole (f : Field) : List Char := (quote f.name).toList ++ ':' :: (f.gap ++ f.text)

/-- A field begins with the quote of its name. -/
theorem begins_whole (f : Field) : Begins f.whole :=
  ⟨'"', _, by rw [whole, toList_quote]; rfl, by decide, by decide, by decide⟩

end Field

/-- The last field of an object is read up to the closing brace. -/
theorem fields_last {f : Field} (hgap : Blank f.gap) (hlast : Blank last)
    (h : value fuel (f.text ++ (last ++ '\x7d' :: rest)) =
      some (f.item, last ++ '\x7d' :: rest)) :
    fields (fuel + 1) (f.whole ++ (last ++ '\x7d' :: rest)) =
      some (some [(f.name, f.item)], rest) := by
  obtain ⟨more, hmore, htext⟩ :=
    text_quote f.name (':' :: (f.gap ++ f.text) ++ (last ++ '\x7d' :: rest))
  have hclose : skipSpace (last ++ '\x7d' :: rest) = '\x7d' :: rest := by
    rw [skipSpace_blank hlast, skipSpace_cons (by decide)]
  rw [Field.whole, List.append_assoc, hmore, fields, skipSpace_cons (by decide)]
  simp only [htext, List.cons_append, skipSpace_cons (show isSpace ':' = false by decide),
    List.append_assoc, value_blank hgap, h, hclose, Option.map_some]

/-- A field is read before the others. -/
theorem fields_next {f : Field} (hgap : Blank f.gap) {behind : List Char}
    {found : List (String × Json)} (h : value fuel (f.text ++ ',' :: behind) =
      some (f.item, ',' :: behind)) (hbehind : fields fuel behind = some (some found, rest)) :
    fields (fuel + 1) (f.whole ++ ',' :: behind) =
      some (some ((f.name, f.item) :: found), rest) := by
  obtain ⟨more, hmore, htext⟩ := text_quote f.name (':' :: (f.gap ++ f.text) ++ ',' :: behind)
  rw [Field.whole, List.append_assoc, hmore, fields, skipSpace_cons (by decide)]
  simp only [htext, List.cons_append, skipSpace_cons (show isSpace ':' = false by decide),
    skipSpace_cons (show isSpace ',' = false by decide), List.append_assoc, value_blank hgap, h,
    hbehind, Option.map_some]

/-- White space in front of fields does not matter. -/
theorem fields_blank (h : Blank gap) (cs : List Char) :
    fields fuel (gap ++ cs) = fields fuel cs := by
  cases fuel with
  | zero => rfl
  | succ fuel => simp only [fields, skipSpace_blank h]

/-- The fields of an object are read in order, up to the closing brace. -/
theorem fields_row (hgap : Blank gap) (hlast : Blank last) {parts : List Field} (hne : parts ≠ [])
    (h : ∀ f ∈ parts, Blank f.gap ∧ ReadAs f.text f.item)
    (hfuel : 2 * (row gap (parts.map (·.whole))).length < fuel) :
    fields fuel (row gap (parts.map (·.whole)) ++ (last ++ '\x7d' :: rest)) =
      some (some (parts.map fun f => (f.name, f.item)), rest) := by
  induction parts generalizing fuel with
  | nil => exact absurd rfl hne
  | cons f parts ih =>
    obtain ⟨fuel, rfl⟩ := Nat.exists_eq_succ_of_ne_zero (Nat.ne_of_gt (Nat.zero_lt_of_lt hfuel))
    obtain ⟨hcolon, hf⟩ := h f List.mem_cons_self
    have hwhole : f.text.length ≤ f.whole.length := by
      simp only [Field.whole, List.length_append, List.length_cons]
      omega
    cases parts with
    | nil =>
      simp only [List.map_cons, List.map_nil, row, List.length_append] at hfuel ⊢
      have hends : Ends (last ++ '\x7d' :: rest) := ends_blank hlast (ends_cons (by decide) rest)
      rw [List.append_assoc, fields_blank hgap]
      exact fields_last hcolon hlast (hf _ _ hends (by omega))
    | cons next parts =>
      simp only [List.map_cons, row, List.length_append, List.length_cons] at hfuel ih ⊢
      have hrest := @ih fuel (by simp) (fun p hp => h p (List.mem_cons_of_mem _ hp))
        (by omega)
      rw [List.append_assoc, List.append_assoc, fields_blank hgap, List.cons_append]
      exact fields_next hcolon (hf _ _ (ends_cons (by decide) _) (by omega)) hrest

/-- Braces around nothing are an object without fields. -/
theorem value_no_fields {cs : List Char} (h : skipSpace cs = '\x7d' :: rest) :
    value (fuel + 1) ('\x7b' :: cs) = some (.object [], rest) := by
  simp only [value, skipSpace_cons (show isSpace '\x7b' = false by decide), h]

/-- Braces around fields are an object with them. -/
theorem value_fields {c : Char} {cs more : List Char} (hskip : skipSpace cs = c :: more)
    (hc : c ≠ '\x7d') {found : List (String × Json)} (h : fields fuel cs = some (some found, rest)) :
    value (fuel + 1) ('\x7b' :: cs) = some (.object found, rest) := by
  simp only [value, skipSpace_cons (show isSpace '\x7b' = false by decide), hskip, h,
    Option.map_some]
  split
  · rename_i hclose
    exact absurd (List.cons.inj hclose).1 hc
  · rfl

/-- **An object is read with its fields.** -/
theorem readAs_object (hgap : Blank gap) (hlast : Blank last) {parts : List Field}
    (h : ∀ f ∈ parts, Blank f.gap ∧ ReadAs f.text f.item) :
    ReadAs ('\x7b' :: (row gap (parts.map (·.whole)) ++ last ++ ['\x7d']))
      (.object (parts.map fun f => (f.name, f.item))) := by
  refine .of_succ (by simp) fun rest fuel _ hfuel => ?_
  simp only [List.length_cons, List.length_append, List.length_nil] at hfuel
  rw [List.cons_append, List.append_assoc, List.append_assoc, List.singleton_append]
  cases parts with
  | nil =>
    rw [List.map_nil, row, List.nil_append]
    exact value_no_fields (by rw [skipSpace_blank hlast, skipSpace_cons (by decide)])
  | cons f parts =>
    obtain ⟨c, more, hskip, _, hbrace⟩ :=
      skipSpace_row hgap f.begins_whole (parts.map (·.whole)) (last ++ '\x7d' :: rest)
    exact value_fields hskip hbrace (fields_row hgap hlast (List.cons_ne_nil f parts) h (by omega))

end Reader

open Reader

/-- The text spells the value: its parts stand in order, with white space between them or none. -/
inductive Spells : Json → List Char → Prop
  | null : Spells .null "null".toList
  | bool (b : Bool) : Spells (.bool b) (if b then "true" else "false").toList
  | nat (n : Nat) : Spells (.nat n) (toString n).toList
  | string (s : String) : Spells (.string s) (quote s).toList
  | array {gap last : List Char} {parts : List (Json × List Char)} (hgap : Blank gap)
      (hlast : Blank last) (h : ∀ part ∈ parts, Spells part.1 part.2) :
      Spells (.array (parts.map (·.1))) ('[' :: (row gap (parts.map (·.2)) ++ last ++ [']']))
  | object {gap last : List Char} {parts : List Field} (hgap : Blank gap) (hlast : Blank last)
      (hcolon : ∀ f ∈ parts, Blank f.gap) (h : ∀ f ∈ parts, Spells f.item f.text) :
      Spells (.object (parts.map fun f => (f.name, f.item)))
        ('\x7b' :: (row gap (parts.map (·.whole)) ++ last ++ ['\x7d']))

/-- What spells a value begins with something visible. -/
theorem Spells.begins {j : Json} {text : List Char} (h : Spells j text) : Begins text := by
  cases h with
  | null => exact ⟨'n', _, rfl, by decide, by decide, by decide⟩
  | bool b =>
    cases b with
    | true => exact ⟨'t', _, rfl, by decide, by decide, by decide⟩
    | false => exact ⟨'f', _, rfl, by decide, by decide, by decide⟩
  | nat n =>
    rw [toList_toString]
    cases hdigits : Nat.toDigits 10 n with
    | nil => exact absurd hdigits Nat.toDigits_ne_nil
    | cons d ds =>
      have hd : d.isDigit = true := Nat.isDigit_of_mem_toDigits (b := 10) (n := n) (by decide)
        (by decide) (hdigits ▸ List.mem_cons_self)
      refine ⟨d, ds, rfl, isSpace_of_isDigit hd, ?_, ?_⟩
      all_goals
        rintro rfl
        cases hd
  | string s => exact ⟨'"', _, toList_quote s, by decide, by decide, by decide⟩
  | array => exact ⟨'[', _, rfl, by decide, by decide, by decide⟩
  | object => exact ⟨'\x7b', _, rfl, by decide, by decide, by decide⟩

/-- **What spells a value is read as the value,** whatever follows it. -/
theorem Spells.readAs {j : Json} {text : List Char} (h : Spells j text) : ReadAs text j := by
  induction h with
  | null => exact readAs_null
  | bool b => exact readAs_bool b
  | nat n => exact readAs_nat n
  | string s => exact readAs_quote s
  | array hgap hlast h ih =>
    exact readAs_array hgap hlast fun part hpart => ⟨(h part hpart).begins, ih part hpart⟩
  | object hgap hlast hcolon _ ih =>
    exact readAs_object hgap hlast fun f hf => ⟨hcolon f hf, ih f hf⟩

/-- A text that spells a value is the text of that value. -/
theorem Spells.parse? {j : Json} {s : String} (h : Spells j s.toList) : parse? s = some j := by
  have hread := h.readAs [] (2 * s.toList.length + 2) ends_nil (by omega)
  rw [List.append_nil] at hread
  rw [Json.parse?, hread]
  rfl

/-- A value that can be written and read back: all of its numbers are natural, and nothing in it is
unreadable. -/
inductive Plain : Json → Prop
  | null : Plain .null
  | bool (b : Bool) : Plain (.bool b)
  | nat (n : Nat) : Plain (.nat n)
  | string (s : String) : Plain (.string s)
  | array {items : List Json} (h : ∀ item ∈ items, Plain item) : Plain (.array items)
  | object {fields : List (String × Json)} (h : ∀ field ∈ fields, Plain field.2) :
      Plain (.object fields)

/-- In compact form every item is written by itself. -/
theorem compactItems_eq_map (items : List Json) : compactItems items = items.map compact := by
  induction items with
  | nil => rfl
  | cons item items ih => rw [compactItems, ih, List.map_cons]

/-- In compact form every field is written by itself. -/
theorem compactFields_eq_map (fields : List (String × Json)) :
    compactFields fields = fields.map fun f => quote f.1 ++ ":" ++ f.2.compact := by
  induction fields with
  | nil => rfl
  | cons f fields ih => rw [compactFields, ih, List.map_cons]

/-- In pretty form every item is written at its level. -/
theorem prettyItems_eq_map (level : Nat) (items : List Json) :
    prettyItems level items = items.map (prettyAt level) := by
  induction items with
  | nil => rfl
  | cons item items ih => rw [prettyItems, ih, List.map_cons]

/-- In pretty form every field is written at its level. -/
theorem prettyFields_eq_map (level : Nat) (fields : List (String × Json)) :
    prettyFields level fields = fields.map fun f => quote f.1 ++ ": " ++ f.2.prettyAt level := by
  induction fields with
  | nil => rfl
  | cons f fields ih => rw [prettyFields, ih, List.map_cons]

/-- Parts that are joined by commas and line ends are a row. -/
theorem row_eq_intercalate (gap : String) {parts : List String} (hne : parts ≠ []) :
    row gap.toList (parts.map (·.toList)) =
      gap.toList ++ (String.intercalate ("," ++ gap) parts).toList := by
  induction parts with
  | nil => exact absurd rfl hne
  | cons part parts ih =>
    cases parts with
    | nil => simp [row]
    | cons next parts =>
      have hcomma : (",":String).toList = [','] := rfl
      simp only [List.map_cons, row, String.intercalate_cons_cons, String.toList_append, hcomma,
        List.append_assoc, List.cons_append, List.nil_append] at ih ⊢
      rw [ih (by simp)]

theorem compact_nat (n : Nat) : (Json.nat n).compact = toString n := by
  simp [Json.nat, compact, numberText]

/-- A row of items that are spelled spells a list. -/
theorem spells_items {items : List Json} {write : Json → String} {gap last : List Char}
    (hgap : Blank gap) (hlast : Blank last) (h : ∀ item ∈ items, Spells item (write item).toList) :
    Spells (.array items)
      ('[' :: (row gap ((items.map write).map (·.toList)) ++ last ++ [']'])) := by
  have hparts : ∀ part ∈ items.map fun item => (item, (write item).toList),
      Spells part.1 part.2 := by
    intro part hpart
    obtain ⟨item, hitem, rfl⟩ := List.mem_map.mp hpart
    exact h item hitem
  have hspells := Spells.array hgap hlast hparts
  simp only [List.map_map, Function.comp_def, List.map_id'] at hspells ⊢
  exact hspells

/-- A row of names and values that are spelled spells an object. -/
theorem spells_fields {fields : List (String × Json)} {write : Json → String} (colon : String)
    {gap last : List Char} (hgap : Blank gap) (hlast : Blank last) (hcolon : Blank colon.toList)
    (h : ∀ field ∈ fields, Spells field.2 (write field.2).toList) :
    Spells (.object fields)
      ('\x7b' :: (row gap ((fields.map fun f => quote f.1 ++ (":" ++ colon) ++ write f.2).map
        (·.toList)) ++ last ++ ['\x7d'])) := by
  let field : String × Json → Field := fun f => ⟨f.1, colon.toList, f.2, (write f.2).toList⟩
  have hcolons : ∀ f ∈ fields.map field, Blank f.gap := by
    intro f hf
    obtain ⟨_, _, rfl⟩ := List.mem_map.mp hf
    exact hcolon
  have hitems : ∀ f ∈ fields.map field, Spells f.item f.text := by
    intro f hf
    obtain ⟨x, hx, rfl⟩ := List.mem_map.mp hf
    exact h x hx
  have hwhole : ∀ f : String × Json,
      (quote f.1 ++ (":" ++ colon) ++ write f.2).toList = (field f).whole := by
    intro f
    simp [field, Field.whole]
  have hspells := Spells.object hgap hlast hcolons hitems
  simp only [List.map_map, Function.comp_def, hwhole, field, List.map_id'] at hspells ⊢
  exact hspells

theorem blank_nil : Blank [] := fun _ h => nomatch h

/-- Parts with commas between them are a row without gaps. -/
theorem toList_intercalate_comma (parts : List String) :
    (String.intercalate "," parts).toList = row [] (parts.map (·.toList)) := by
  cases parts with
  | nil => rfl
  | cons part parts =>
    have hrow := row_eq_intercalate "" (List.cons_ne_nil part parts)
    exact hrow.symm

/-- **A plain value without white space is spelled.** -/
theorem Plain.spells_compact {j : Json} (h : Plain j) : Spells j j.compact.toList := by
  induction h with
  | null => exact .null
  | bool b => exact .bool b
  | nat n =>
    rw [compact_nat]
    exact .nat n
  | string s => exact .string s
  | array _ ih =>
    have hspells := spells_items blank_nil blank_nil ih
    rw [compact, compactItems_eq_map, String.toList_append, String.toList_append,
      toList_intercalate_comma]
    simpa using hspells
  | object _ ih =>
    have hspells := spells_fields "" blank_nil blank_nil blank_nil ih
    rw [compact, compactFields_eq_map, String.toList_append, String.toList_append,
      toList_intercalate_comma]
    simpa using hspells

/-- A line break with its indentation is white space. -/
theorem blank_lineBreak (level : Nat) : Blank (lineBreak level).toList := by
  intro c hc
  rw [lineBreak, String.toList_ofList] at hc
  rcases List.mem_cons.mp hc with rfl | hspace
  · rfl
  · rw [List.eq_of_mem_replicate hspace]
    rfl

/-- Parts on lines of their own are a row, with white space behind it. -/
theorem toList_bracketed (opening closing : String) (level : Nat) (parts : List String) :
    ∃ last, Blank last ∧ (bracketed opening closing level parts).toList =
      opening.toList ++ (row (lineBreak (level + 1)).toList (parts.map (·.toList)) ++ last ++
        closing.toList) := by
  cases parts with
  | nil => exact ⟨[], blank_nil, by simp [bracketed, row]⟩
  | cons part parts =>
    have hrow := row_eq_intercalate (lineBreak (level + 1)) (List.cons_ne_nil part parts)
    refine ⟨(lineBreak level).toList, blank_lineBreak level, ?_⟩
    rw [hrow]
    simp [bracketed]

/-- **A plain value over several lines is spelled.** -/
theorem Plain.spells_prettyAt {j : Json} (h : Plain j) (level : Nat) :
    Spells j (j.prettyAt level).toList := by
  induction h generalizing level with
  | null => exact .null
  | bool b => exact .bool b
  | nat n =>
    have hnat := Spells.nat n
    rw [← compact_nat] at hnat
    exact hnat
  | string s => exact .string s
  | @array items _ ih =>
    obtain ⟨last, hlast, htext⟩ :=
      toList_bracketed "[" "]" level (items.map (prettyAt (level + 1)))
    rw [prettyAt, prettyItems_eq_map, htext]
    exact spells_items (blank_lineBreak _) hlast fun item hitem => ih item hitem (level + 1)
  | @object fields _ ih =>
    obtain ⟨last, hlast, htext⟩ := toList_bracketed "\x7b" "\x7d" level
      (fields.map fun f => quote f.1 ++ ": " ++ f.2.prettyAt (level + 1))
    rw [prettyAt, prettyFields_eq_map, htext]
    exact spells_fields " " (blank_lineBreak _) hlast (by simp [Blank, isSpace])
      fun field hfield => ih field hfield (level + 1)

/-- **The value without white space is read back.** -/
theorem Plain.parse?_compact {j : Json} (h : Plain j) : parse? j.compact = some j :=
  h.spells_compact.parse?

/-- **The value over several lines is read back.** -/
theorem Plain.parse?_pretty {j : Json} (h : Plain j) : parse? j.pretty = some j :=
  (h.spells_prettyAt 0).parse?

end Schemata.Json
