/-!
# JSON values

A JSON text denotes a value; objects keep their fields in the order written, repeated names
included, because a reader of records objects to those.

* `depth_scalar` - values without parts have depth zero.
-/

namespace Schemata

/-- A number as written: `digits * 10 ^ exponent`, with its sign. -/
structure JsonNumber where
  negative : Bool := false
  /-- All digits, those behind the point included. -/
  digits : Nat
  /-- The power of ten that the digits are multiplied with. -/
  exponent : Int := 0
  /-- Neither a point nor an exponent is written. -/
  integral : Bool := true
  deriving DecidableEq, Repr

/-- A JSON value. -/
inductive Json where
  | null
  | bool (value : Bool)
  | number (value : JsonNumber)
  | string (value : String)
  | array (items : List Json)
  | object (fields : List (String × Json))
  /-- A text, or an object with a name, in which an escape stands for half a character: it can be
  skipped and nothing else. -/
  | unreadable

namespace Json

/-- A natural number. -/
def nat (n : Nat) : Json := .number { digits := n }

/-- A value, or null for nothing. -/
def orNull (value : Option Json) : Json := value.getD .null

/-- A list of values made of a list of things. -/
def list {α : Type} (make : α → Json) (items : List α) : Json := .array (items.map make)

mutual

/-- How many lists and objects are nested at most. -/
def depth : Json → Nat
  | .array items => depthOfItems items + 1
  | .object fields => depthOfFields fields + 1
  | _ => 0

/-- The greatest depth among items. -/
def depthOfItems : List Json → Nat
  | [] => 0
  | item :: items => max item.depth (depthOfItems items)

/-- The greatest depth among fields. -/
def depthOfFields : List (String × Json) → Nat
  | [] => 0
  | (_, item) :: fields => max item.depth (depthOfFields fields)

end

/-- The text of a string value. -/
def text? : Json → Option String
  | .string value => some value
  | _ => none

/-- The truth of a boolean value. -/
def bool? : Json → Option Bool
  | .bool value => some value
  | _ => none

/-- The items of a list value. -/
def items? : Json → Option (List Json)
  | .array items => some items
  | _ => none

/-- The natural number of a number written without sign, point and exponent. -/
def nat? : Json → Option Nat
  | .number ⟨false, digits, _, true⟩ => some digits
  | _ => none

/-- Values without parts have depth zero. -/
theorem depth_scalar (s : String) (b : Bool) (n : JsonNumber) :
    (Json.string s).depth = 0 ∧ (Json.bool b).depth = 0 ∧ (Json.number n).depth = 0 := by
  simp [depth]

/-- A natural number is read as it was made. -/
theorem nat?_nat (n : Nat) : (nat n).nat? = some n := rfl

end Json

end Schemata
