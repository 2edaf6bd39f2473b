import Schemata.Text.Natural

/-!
# Identities

Every entity carries an identity of 128 bits, written as 32 hexadecimal digits in five groups.
Identities are drawn from a supply, so that what is built from the same supply is the same.

* `readGroups_joinGroups` - grouping digits and reading the groups gives the digits back.
-/

namespace Schemata

/-- The identity of an entity. -/
structure EntityId where
  bits : BitVec 128
  deriving DecidableEq, Repr

namespace EntityId

/-- The identity with a given number. -/
def ofNat (n : Nat) : EntityId := ⟨BitVec.ofNat 128 n⟩

/-- The identity whose bits are all zero. -/
def nil : EntityId := ofNat 0

/-- The lengths of the five groups of digits. -/
def groupLengths : List Nat := [8, 4, 4, 4, 12]

/-- The last `count` hexadecimal digits of a number, all of them written. -/
def hexDigits : Nat → Nat → List Char
  | 0, _ => []
  | count + 1, n => Nat.digitChar (n / Nat.pow 16 count % 16) :: hexDigits count n

/-- Digits cut into groups of the given lengths, with a hyphen between two groups. -/
def joinGroups : List Nat → List Char → List Char
  | [], _ => []
  | [length], digits => digits.take length
  | length :: lengths, digits =>
    digits.take length ++ '-' :: joinGroups lengths (digits.drop length)

/-- The digits of hyphened groups of the given lengths. -/
def readGroups : List Nat → List Char → Option (List Char)
  | [], text => if text.isEmpty then some [] else none
  | [length], text => if text.length = length then some text else none
  | length :: lengths, text =>
    match text.drop length with
    | '-' :: rest => (readGroups lengths rest).map (text.take length ++ ·)
    | _ => none

/-- The number that hexadecimal digits of either case write. -/
def readHex (digits : List Char) : Option Nat :=
  digits.foldlM (fun value c => (Text.digitOf 16 c).map (value * 16 + ·)) 0

/-- The identity in its written form: lower-case digits in five groups. -/
def text (id : EntityId) : String :=
  String.ofList (joinGroups groupLengths (hexDigits 32 id.bits.toNat))

/-- The digits of any accepted form: 32 digits alone, or the five groups, which may stand in braces
or behind `urn:uuid:`. -/
def digitsOf? (text : List Char) : Option (List Char) :=
  if text.length = 32 then some text
  else if text.length = 36 then readGroups groupLengths text
  else if text.length = 38 then
    match text with
    | '\x7b' :: rest =>
      if rest.getLast? = some '\x7d' then readGroups groupLengths rest.dropLast else none
    | _ => none
  else if text.length = 45 ∧ text.take 9 = "urn:uuid:".toList then
    readGroups groupLengths (text.drop 9)
  else none

/-- The identity that a text writes, in any accepted form. -/
def ofText? (s : String) : Option EntityId :=
  ((digitsOf? s.toList).bind readHex).map ofNat

/-- There are as many digits as asked for. -/
theorem length_hexDigits (count n : Nat) : (hexDigits count n).length = count := by
  induction count with
  | zero => rfl
  | succ count ih => simp [hexDigits, ih]

/-- **Groups read back:** the digits of a grouping are the digits that were grouped. -/
theorem readGroups_joinGroups (lengths : List Nat) (digits : List Char)
    (h : digits.length = lengths.foldr (· + ·) 0) :
    readGroups lengths (joinGroups lengths digits) = some digits := by
  induction lengths generalizing digits with
  | nil =>
    have : digits = [] := List.length_eq_zero_iff.1 h
    simp [readGroups, joinGroups, this]
  | cons length lengths ih =>
    cases lengths with
    | nil =>
      have hlength : digits.length = length := by simpa using h
      simp [readGroups, joinGroups, ← hlength]
    | cons next lengths =>
      simp only [List.foldr_cons] at h
      have htake : (digits.take length).length = length := by
        rw [List.length_take]; omega
      have hrest := ih (digits.drop length) (by
        rw [List.length_drop]
        simp only [List.foldr_cons]
        omega)
      simp only [joinGroups, readGroups]
      rw [List.drop_append_of_le_length (by omega), List.drop_of_length_le (by omega),
        List.take_append_of_le_length (by omega), List.take_of_length_le (by omega)]
      simp only [List.nil_append]
      rw [hrest]
      simp

end EntityId

/-- A supply of identities: the number of the next one. -/
structure IdSupply where
  drawn : Nat := 0
  deriving DecidableEq, Repr

namespace IdSupply

/-- The first identity of a supply: the bits that mark a random identity, and zeros. -/
def base : Nat := 0x00000000000040008000000000000000

/-- The next identity, and the supply that is left. -/
def draw (supply : IdSupply) : EntityId × IdSupply :=
  (EntityId.ofNat (base + supply.drawn), ⟨supply.drawn + 1⟩)

/-- Drawing moves the supply on by one. -/
theorem draw_drawn (supply : IdSupply) : supply.draw.2.drawn = supply.drawn + 1 := rfl

/-- Two identities drawn at different places of a supply differ, up to the number of identities
that share the marking bits. -/
theorem draw_injective {s t : IdSupply} (hs : s.drawn < 0x4000000000000000)
    (ht : t.drawn < 0x4000000000000000)
    (h : s.draw.1 = t.draw.1) : s.drawn = t.drawn := by
  simp only [draw, EntityId.ofNat, EntityId.mk.injEq] at h
  have := congrArg BitVec.toNat h
  simp only [BitVec.toNat_ofNat, base] at this
  omega

end IdSupply

end Schemata
