import Schemata.Json.Value
import Schemata.Text.Decimal

/-!
# Limits of tagged records

A record that is tagged with its own kind is held back until the tag is known.  What is held back
must be readable throughout, must not nest too deeply, and must have numbers that double precision
can hold.

* `fits_text` - a plain text can always be held back.
-/

namespace Schemata

/-- The number rounds to infinity in double precision. -/
def JsonNumber.tooLarge (n : JsonNumber) : Bool := Text.overflows n.digits n.exponent

namespace Json

/-- How many lists and objects may be nested. -/
def depthLimit : Nat := 127

mutual

/-- The value can be held back. -/
def isSound : Json → Bool
  | .unreadable => false
  | .number n => !n.tooLarge
  | .array items => areSound items
  | .object fields => areSoundFields fields
  | .null => true
  | .bool _ => true
  | .string _ => true

/-- All items can be held back. -/
def areSound : List Json → Bool
  | [] => true
  | item :: items => item.isSound && areSound items

/-- All fields can be held back. -/
def areSoundFields : List (String × Json) → Bool
  | [] => true
  | (_, item) :: fields => item.isSound && areSoundFields fields

end

/-- The value, standing inside `level` lists and objects, can be held back. -/
def fits (level : Nat) (value : Json) : Bool :=
  value.isSound && level + value.depth ≤ depthLimit

/-- A plain text can always be held back, as deep as anything may stand. -/
theorem fits_text {level : Nat} (h : level ≤ depthLimit) (s : String) :
    (Json.string s).fits level = true := by
  simp [fits, isSound, depth, h]

end Json

end Schemata
