import Schemata.Json.Value

/-!
# Records in JSON

A record is written as an object with a field for each of its parts.  It is read from such an
object, whose other fields are ignored but whose known fields may stand only once, or from a list of
the parts in order.  `Slot` says how a part was found; `mandatory`, `optional` and `defaulted` say
what a part makes of it.

* `optional_left`, `defaulted_left` - what a part that is left out means.
-/

namespace Schemata.Json

/-- How a part of a record was found. -/
inductive Slot where
  | given (value : Json)
  | left
  | beyond

/-- The slot of a name among the fields of an object; nothing where it stands twice. -/
def slotOf (fields : List (String × Json)) (name : String) : Option Slot :=
  match fields.filter (·.1 == name) with
  | [] => some .left
  | [(_, value)] => some (.given value)
  | _ => none

/-- The slots of a list of parts; nothing where the list has more. -/
def slotsOfItems : List String → List Json → Option (List Slot)
  | [], [] => some []
  | [], _ :: _ => none
  | _ :: names, [] => (slotsOfItems names []).map (.beyond :: ·)
  | _ :: names, item :: items => (slotsOfItems names items).map (.given item :: ·)

/-- The slots of a record with the named parts. -/
def slots? (names : List String) : Json → Option (List Slot)
  | .object fields => names.mapM (slotOf fields)
  | .array items => slotsOfItems names items
  | _ => none

/-- A part that must be there. -/
def mandatory {α : Type} (read : Json → Option α) : Slot → Option α
  | .given value => read value
  | .left => none
  | .beyond => none

/-- A part that may be null, or left out of an object. -/
def optional {α : Type} (read : Json → Option α) : Slot → Option (Option α)
  | .given .null => some none
  | .given value => (read value).map some
  | .left => some none
  | .beyond => none

/-- A part that has a default. -/
def defaulted {α : Type} (default : α) (read : Json → Option α) : Slot → Option α
  | .given value => read value
  | .left => some default
  | .beyond => some default

/-- A list whose items are all read. -/
def listOf? {α : Type} (read : Json → Option α) (value : Json) : Option (List α) := do
  let items ← value.items?
  items.mapM read

/-- A word of a choice: the word alone, or an object in which it names null. -/
def word? {α : Type} (ofWord? : String → Option α) : Json → Option α
  | .string word => ofWord? word
  | .object [(word, .null)] => ofWord? word
  | _ => none

/-- An optional part that is left out is nothing. -/
theorem optional_left {α : Type} (read : Json → Option α) : optional read .left = some none := rfl

/-- A part with a default takes it where it is left out. -/
theorem defaulted_left {α : Type} (default : α) (read : Json → Option α) :
    defaulted default read .left = some default := rfl

end Schemata.Json
