import Schemata.Proofs.Generation.TableColumns
import Schemata.Proofs.Text.SnakeCase

/-!
# Field names and the keywords of Rust

A field is named for its column, in snake case, and a keyword is made a raw name.  Two columns whose
names come to the same words get two fields of one name.  The keywords that are known are those in
use, but for `self`; of the reserved ones only `yield` and `gen` are among them.  Two of those that
are known, `crate` and `super`, must not be raw names either.

* `isWord_snake` - a plain column has a field name of the right form, keywords apart;
* `isIdentifier_fieldName` - when Rust takes it as an identifier;
* `fieldName_eq_iff` - when two columns share a field name;
* `field_names_iff` - what this comes to for the structures of a clean model;
* `parcel_fields_unusable` - a structure with two fields of one name, and others that are keywords.
-/

namespace Schemata.Generation

open Text

/-- A letter, a digit or an underscore of ASCII. -/
def isWordChar (c : Char) : Bool := c.isAlphanum || c == '_'

/-- The column has a plain name: letters, digits and underscores of ASCII behind a letter. -/
def isPlainColumn (column : String) : Bool :=
  match column.toList with
  | [] => false
  | c :: rest => c.isAlpha && rest.all isWordChar

/-- A word that Rust takes as an identifier, keywords apart. -/
def isWord (name : String) : Bool :=
  match name.toList with
  | [] => false
  | c :: rest => (c.isAlpha || c == '_') && rest.all isWordChar && name != "_"

/-- The keywords of Rust, in use or reserved. -/
def rustKeywords : List String :=
  ["Self", "abstract", "as", "async", "await", "become", "box", "break", "const", "continue",
    "crate", "do", "dyn", "else", "enum", "extern", "false", "final", "fn", "for", "gen", "if",
    "impl", "in", "let", "loop", "macro", "match", "mod", "move", "mut", "override", "priv", "pub",
    "ref", "return", "self", "static", "struct", "super", "trait", "true", "try", "type", "typeof",
    "unsafe", "unsized", "use", "virtual", "where", "while", "yield"]

/-- The keywords that must not be raw names. -/
def pathKeywords : List String := ["Self", "crate", "self", "super"]

/-- Rust takes the name as an identifier: a word that is no keyword, or the raw form of a word. -/
def isIdentifier (name : String) : Bool :=
  match name.toList with
  | 'r' :: '#' :: word =>
    isWord (String.ofList word) && !pathKeywords.contains (String.ofList word)
  | _ => isWord name && !rustKeywords.contains name

/-- The words that become fields which Rust does not take: keywords that are not known as such, and
known ones that must not be raw names. -/
def unusableWords : List String :=
  ["abstract", "become", "box", "crate", "do", "final", "macro", "override", "priv", "self",
    "super", "try", "typeof", "unsized", "virtual"]

variable {m : DataModel} {e : Entity} {a b column : String}

/-- A plain column begins with a letter, and all of its name is ASCII. -/
theorem exists_of_isPlainColumn (h : isPlainColumn column = true) :
    ∃ c rest, column.toList = c :: rest ∧ c.isAlpha ∧ ∀ x ∈ c :: rest, x.toNat < 0x80 := by
  unfold isPlainColumn at h
  split at h
  · cases h
  · rename_i c rest hcolumn
    rw [Bool.and_eq_true] at h
    refine ⟨c, rest, hcolumn, h.1, List.forall_mem_cons.mpr ⟨?_, fun x hx => ?_⟩⟩
    · apply lt_of_isAlphanum
      rw [Char.isAlphanum, h.1, Bool.true_or]
    · have hword := List.all_eq_true.mp h.2 x hx
      rw [isWordChar, Bool.or_eq_true, beq_iff_eq] at hword
      rcases hword with halphanum | rfl
      · exact lt_of_isAlphanum halphanum
      · decide

/-- A plain column in snake case begins with a lower-case letter and has no upper-case one. -/
theorem snake_of_isPlainColumn (h : isPlainColumn column = true) :
    ∃ c rest, (snake column).toList = c :: rest ∧ c.isLower ∧
      ∀ x ∈ c :: rest, isWordChar x ∧ x.isUpper = false := by
  obtain ⟨c, rest, hcolumn, hc, hascii⟩ := exists_of_isPlainColumn h
  have halphanum : c.isAlphanum := by rw [Char.isAlphanum, hc, Bool.true_or]
  obtain ⟨more, hmore⟩ := exists_snake_eq hcolumn hascii halphanum
  have hlower : c.toLower.isLower :=
    forall_ascii (P := fun c => c.isAlpha → c.toLower.isLower) (by decide)
      c (hascii c List.mem_cons_self) hc
  refine ⟨c.toLower, more, hmore, hlower, fun x hx => ?_⟩
  rw [← hmore] at hx
  rcases mem_snake_ascii (hcolumn ▸ hascii) hx with rfl | ⟨d, hd, halphanum, rfl⟩
  · decide
  · exact forall_ascii
      (P := fun d => d.isAlphanum → isWordChar d.toLower ∧ d.toLower.isUpper = false)
      (by decide) d (hascii d (hcolumn ▸ hd)) halphanum

/-- A plain column in snake case is a word. -/
theorem isWord_snake (h : isPlainColumn column = true) : isWord (snake column) = true := by
  obtain ⟨c, rest, hsnake, hlower, hall⟩ := snake_of_isPlainColumn h
  rw [List.forall_mem_cons] at hall
  have hletter : c.isAlpha = true := by
    have hcases : (c.isUpper || c.isLower) = true := by rw [hlower, Bool.or_true]
    exact hcases
  have hrest : rest.all isWordChar = true := List.all_eq_true.mpr fun x hx => (hall.2 x hx).1
  have hname : snake column ≠ "_" := by
    intro heq
    rw [heq] at hsnake
    obtain ⟨rfl, -⟩ := List.cons.inj hsnake
    revert hlower
    decide
  simp [isWord, hsnake, hletter, hrest, hname]

/-- **Rust takes the field name of a plain column** unless its words make a keyword that is not
known, or one that must not be a raw name. -/
theorem isIdentifier_fieldName (h : isPlainColumn column = true) :
    isIdentifier (fieldName column) = true ↔ snake column ∉ unusableWords := by
  have hword := isWord_snake h
  cases hkeyword : keywords.contains (snake column) with
  | true =>
    have hraw : (fieldName column).toList = 'r' :: '#' :: (snake column).toList := by
      rw [fieldName_of_keyword hkeyword, String.toList_append]
      rfl
    have hknown : ∀ word ∈ keywords, (word ∉ pathKeywords ↔ word ∉ unusableWords) := by
      decide
    rw [← hknown _ (List.contains_iff_mem.mp hkeyword), isIdentifier, hraw]
    simp [hword]
  | false =>
    obtain ⟨c, rest, hsnake, -, hall⟩ := snake_of_isPlainColumn h
    -- Names in snake case have no number sign, so that none of them is read as a raw name.
    have hplain : isIdentifier (snake column) =
        (isWord (snake column) && !rustKeywords.contains (snake column)) := by
      rw [isIdentifier]
      split
      · rename_i word hraw
        have hmark := hall '#' (by rw [← hsnake, hraw]; simp)
        exact absurd hmark.1 (by decide)
      · rfl
    have hself : snake column ≠ "Self" := by
      intro heq
      have hupper := hall 'S' (by rw [← hsnake, heq]; decide)
      exact absurd hupper.2 (by decide)
    have hknown : snake column ∉ keywords := by
      intro hmem
      rw [List.contains_iff_mem.mpr hmem] at hkeyword
      cases hkeyword
    -- Of the keywords that are not known, `Self` is the one that no column comes to.
    have hmissed : ∀ word ∈ rustKeywords,
        word = "Self" ∨ word ∈ keywords ∨ word ∈ unusableWords := by decide
    have hreserved : ∀ word ∈ unusableWords, word ∈ rustKeywords := by decide
    rw [fieldName_of_plain hkeyword, hplain, hword, Bool.true_and, Bool.not_eq_true',
      ← Bool.not_eq_true, List.contains_iff_mem]
    constructor
    · exact mt (hreserved _)
    · intro hunusable hmem
      rcases hmissed _ hmem with heq | hkeyword | hword
      · exact hself heq
      · exact hknown hkeyword
      · exact hunusable hword

/-- **Two columns share a field name** exactly if their names come to the same words. -/
theorem fieldName_eq_iff : fieldName a = fieldName b ↔ snake a = snake b := by
  have hmark (column : String) : '#' ∉ (snake column).toList := by
    intro hmem
    have hunderscore := eq_underscore_of_mem_snake (by decide) hmem
    revert hunderscore
    decide
  have hraw (column other : String) : "r#" ++ snake column ≠ snake other := by
    intro heq
    apply hmark other
    rw [← heq, String.toList_append]
    simp
  constructor
  · intro heq
    cases ha : keywords.contains (snake a) <;> cases hb : keywords.contains (snake b)
    · rwa [fieldName_of_plain ha, fieldName_of_plain hb] at heq
    · rw [fieldName_of_plain ha, fieldName_of_keyword hb] at heq
      exact absurd heq.symm (hraw b a)
    · rw [fieldName_of_keyword ha, fieldName_of_plain hb] at heq
      exact absurd heq (hraw a b)
    · rw [fieldName_of_keyword ha, fieldName_of_keyword hb] at heq
      exact String.append_right_inj _ |>.mp heq
  · intro heq
    rw [fieldName, fieldName, heq]

/-- The fields of a structure are named for the columns, one by one. -/
theorem names_declaredFields (h : m.Clean) (he : e ∈ m.entities) :
    (declaredFields (structText e)).map (·.name) = e.columnNames.map fieldName := by
  rw [declaredFields_structText, ← h.names_columnDefinitions he, List.map_map, List.map_map]
  rfl

/-- **The fields of a clean model,** whose columns have plain names, are named for the columns one
by one.  They are distinct exactly if no two columns come to the same words, and Rust takes the
names of all of them exactly if none comes to a keyword that is not escaped, or cannot be. -/
theorem field_names_iff (h : m.Clean) (he : e ∈ m.entities)
    (hcolumns : ∀ column ∈ e.columnNames, isPlainColumn column = true) :
    (declaredFields (structText e)).map (·.name) = e.columnNames.map fieldName ∧
    (((declaredFields (structText e)).map (·.name)).Nodup ↔ (e.columnNames.map snake).Nodup) ∧
    ((∀ f ∈ declaredFields (structText e), isIdentifier f.name = true) ↔
      ∀ column ∈ e.columnNames, snake column ∉ unusableWords) := by
  have hnames := names_declaredFields h he
  refine ⟨hnames, ?_, ?_⟩
  · rw [hnames]
    unfold List.Nodup
    rw [List.pairwise_map, List.pairwise_map]
    simp only [ne_eq, fieldName_eq_iff]
  · have hidentifiers : (∀ f ∈ declaredFields (structText e), isIdentifier f.name = true) ↔
        ∀ name ∈ e.columnNames.map fieldName, isIdentifier name = true := by
      rw [← hnames, List.forall_mem_map]
    rw [hidentifiers, List.forall_mem_map]
    exact forall₂_congr fun column hcolumn => isIdentifier_fieldName (hcolumns column hcolumn)

namespace Parcels

/-- A parcel in its box, with the day on which it is given up. -/
def parcel : Entity :=
  { id := .ofNat 1, className := "Parcel", table := "parcel",
    attributes := [.identity, .plain "box" "VARCHAR(20)", .plain "final" "DATE",
      .plain "orderId" "INT", .plain "order_id" "INT"] }

def letter : Entity :=
  { id := .ofNat 2, className := "Letter", table := "letter",
    attributes := [.identity, .plain "type" "VARCHAR(20)", .plain "orderId" "INT"] }

def post : DataModel := { entities := [parcel, letter] : DataModel }.linkAll

/-- The model of the post office is sound. -/
theorem sound : post.Sound :=
  .of_entities (by decide) (by decide) (by decide) (by decide)

/-- The parcel is one of its entities. -/
theorem parcel_mem : parcel ∈ post.entities := by decide

/-- The letter is one of its entities. -/
theorem letter_mem : letter ∈ post.entities := by decide_cbv

end Parcels

open Parcels

/-- The fields of a letter are distinct, and the one that is a keyword is escaped. -/
theorem letter_field_names :
    post.Clean ∧ letter ∈ post.entities ∧
    (∀ column ∈ letter.columnNames, isPlainColumn column = true) ∧
    (declaredFields (structText letter)).map (·.name) = ["id", "r#type", "order_id"] ∧
    ((declaredFields (structText letter)).map (·.name)).Nodup ∧
    ∀ f ∈ declaredFields (structText letter), isIdentifier f.name = true := by
  have hplain : ∀ column ∈ letter.columnNames, isPlainColumn column = true := by decide
  have hnames : letter.columnNames.map fieldName = ["id", "r#type", "order_id"] := by
    decide
  have hwords : letter.columnNames.map snake = ["id", "type", "order_id"] := by decide
  obtain ⟨hfields, hdistinct, hidentifiers⟩ := field_names_iff sound.clean letter_mem hplain
  refine ⟨sound.clean, letter_mem, hplain, hfields.trans hnames, hdistinct.mpr ?_,
    hidentifiers.mpr ?_⟩
  · rw [hwords]
    decide
  · rw [← List.forall_mem_map (f := snake) (P := (· ∉ unusableWords)), hwords]
    decide

/-- **The fields of a parcel are no good:** two of them have the same name, and two others are
keywords that are not escaped. -/
theorem parcel_fields_unusable :
    post.Clean ∧ parcel ∈ post.entities ∧
    (∀ column ∈ parcel.columnNames, isPlainColumn column = true) ∧
    (declaredFields (structText parcel)).map (·.name) =
      ["id", "box", "final", "order_id", "order_id"] ∧
    ¬ ((declaredFields (structText parcel)).map (·.name)).Nodup ∧
    ¬ ∀ f ∈ declaredFields (structText parcel), isIdentifier f.name = true := by
  have hnames : (declaredFields (structText parcel)).map (·.name) =
      ["id", "box", "final", "order_id", "order_id"] := by
    rw [names_declaredFields sound.clean parcel_mem]
    decide
  refine ⟨sound.clean, parcel_mem, by decide, hnames, ?_, ?_⟩
  · rw [hnames]
    decide
  · intro hall
    have hbox : "box" ∈ (declaredFields (structText parcel)).map (·.name) := by
      rw [hnames]
      decide
    obtain ⟨f, hf, hname⟩ := List.mem_map.mp hbox
    have hidentifier := hall f hf
    rw [hname] at hidentifier
    revert hidentifier
    decide

end Schemata.Generation
