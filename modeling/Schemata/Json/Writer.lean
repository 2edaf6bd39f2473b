import Schemata.Json.Value

/-!
# Writing JSON

Two forms: `compact`, without any white space, and `pretty`, with two spaces for each level and
empty lists and objects on one line.  Within a text a quotation mark, a backslash and the control
characters below U+0020 are escaped, everything else stands for itself.

* `escapedChar_plain` - which characters stand for themselves.
-/

namespace Schemata.Json

/-- A control character by number, in four hexadecimal digits. -/
def numberedChar (c : Char) : List Char :=
  ['\\', 'u', '0', '0', Nat.digitChar (c.toNat / 16), Nat.digitChar (c.toNat % 16)]

/-- One character inside a text. -/
def escapedChar (c : Char) : List Char :=
  if c = '"' then ['\\', '"']
  else if c = '\\' then ['\\', '\\']
  else if c = '\x08' then ['\\', 'b']
  else if c = '\x0c' then ['\\', 'f']
  else if c = '\n' then ['\\', 'n']
  else if c = '\r' then ['\\', 'r']
  else if c = '\t' then ['\\', 't']
  else if c.toNat < 0x20 then numberedChar c
  else [c]

/-- A text between quotation marks. -/
def quote (s : String) : String :=
  String.ofList ('"' :: s.toList.flatMap escapedChar ++ ['"'])

/-- A number as it was written, up to the placing of the point. -/
def numberText (n : JsonNumber) : String :=
  let sign := if n.negative then "-" else ""
  let digits := toString n.digits
  if n.integral then sign ++ digits else sign ++ digits ++ "e" ++ toString n.exponent

mutual

/-- The value without white space. -/
def compact : Json → String
  | .null => "null"
  | .bool value => if value then "true" else "false"
  | .number value => numberText value
  | .string value => quote value
  | .array items => "[" ++ String.intercalate "," (compactItems items) ++ "]"
  | .object fields => "\x7b" ++ String.intercalate "," (compactFields fields) ++ "\x7d"
  | .unreadable => "null"

/-- The items of a list, each without white space. -/
def compactItems : List Json → List String
  | [] => []
  | item :: items => item.compact :: compactItems items

/-- The fields of an object, each without white space. -/
def compactFields : List (String × Json) → List String
  | [] => []
  | (name, item) :: fields => (quote name ++ ":" ++ item.compact) :: compactFields fields

end

/-- A line end and the indentation of a level. -/
def lineBreak (level : Nat) : String :=
  String.ofList ('\n' :: List.replicate (2 * level) ' ')

/-- Parts on lines of their own, one level deeper than their brackets; no part, no line. -/
def bracketed (opening closing : String) (level : Nat) (parts : List String) : String :=
  if parts.isEmpty then opening ++ closing
  else
    opening ++ lineBreak (level + 1) ++ String.intercalate ("," ++ lineBreak (level + 1)) parts
      ++ lineBreak level ++ closing

mutual

/-- The value over several lines, its brackets standing at a level. -/
def prettyAt (level : Nat) : Json → String
  | .array items => bracketed "[" "]" level (prettyItems (level + 1) items)
  | .object fields => bracketed "\x7b" "\x7d" level (prettyFields (level + 1) fields)
  | .null => "null"
  | .bool value => if value then "true" else "false"
  | .number value => numberText value
  | .string value => quote value
  | .unreadable => "null"

/-- The items of a list, each over several lines. -/
def prettyItems (level : Nat) : List Json → List String
  | [] => []
  | item :: items => item.prettyAt level :: prettyItems level items

/-- The fields of an object, each over several lines. -/
def prettyFields (level : Nat) : List (String × Json) → List String
  | [] => []
  | (name, item) :: fields =>
    (quote name ++ ": " ++ item.prettyAt level) :: prettyFields level fields

end

/-- The value over several lines. -/
def pretty (value : Json) : String := value.prettyAt 0

/-- Which characters stand for themselves. -/
theorem escapedChar_plain {c : Char} (hq : c ≠ '"') (hb : c ≠ '\\') (hc : 0x20 ≤ c.toNat) :
    escapedChar c = [c] := by
  have h8 : c ≠ '\x08' := fun h => by subst h; revert hc; decide
  have hf : c ≠ '\x0c' := fun h => by subst h; revert hc; decide
  have hn : c ≠ '\n' := fun h => by subst h; revert hc; decide
  have hr : c ≠ '\r' := fun h => by subst h; revert hc; decide
  have ht : c ≠ '\t' := fun h => by subst h; revert hc; decide
  have hlt : ¬ c.toNat < 0x20 := by omega
  simp [escapedChar, hq, hb, h8, hf, hn, hr, ht, hlt]

end Schemata.Json
