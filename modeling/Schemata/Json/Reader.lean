import Schemata.Json.Value
import Schemata.Text.Natural

/-!
# Reading JSON

A reader takes what it can from the front of a text and leaves the rest.  The grammar is that of
RFC 8259 to the letter: no leading zeros, no control characters inside a text, nothing behind the
value but white space.

* `skipSpace_length` - skipping white space never makes a text longer.
-/

namespace Schemata.Json.Reader

open Text

/-- White space of JSON. -/
def isSpace (c : Char) : Bool :=
  c == ' ' || c == '\n' || c == '\t' || c == '\r'

/-- The text behind its white space. -/
def skipSpace (cs : List Char) : List Char := cs.dropWhile isSpace

/-- The number of four hexadecimal digits, and the text behind them. -/
def hexQuad : List Char → Option (Nat × List Char)
  | a :: b :: c :: d :: rest => do
    let value ← [a, b, c, d].foldlM (fun v c => (digitOf 16 c).map (v * 16 + ·)) 0
    return (value, rest)
  | _ => none

/-- The character of a pair of surrogates. -/
def ofSurrogates (high low : Nat) : Char :=
  Char.ofNat (0x10000 + (high - 0xD800) * 0x400 + (low - 0xDC00))

/-- A character by number behind `\u`: nothing where the number is that of half a character without
its other half.  The text behind it follows. -/
def numberedEscape (cs : List Char) : Option (Option Char × List Char) := do
  let (code, rest) ← hexQuad cs
  if 0xD800 ≤ code ∧ code < 0xDC00 then
    match rest with
    | '\\' :: 'u' :: more =>
      let (low, behind) ← hexQuad more
      if 0xDC00 ≤ low ∧ low < 0xE000 then return (some (ofSurrogates code low), behind)
      else return (none, behind)
    | _ => return (none, rest)
  else if 0xDC00 ≤ code ∧ code < 0xE000 then return (none, rest)
  else return (some (Char.ofNat code), rest)

/-- The character of a one-letter escape. -/
def shortEscape? : Char → Option Char
  | '"' => some '"'
  | '\\' => some '\\'
  | '/' => some '/'
  | 'b' => some '\x08'
  | 'f' => some '\x0c'
  | 'n' => some '\n'
  | 'r' => some '\r'
  | 't' => some '\t'
  | _ => none

/-- The rest of a text value behind its opening quotation mark: its characters, read backwards in
`before`, unless one of them is half a character. -/
def textFrom : Nat → Bool → List Char → List Char → Option (Option String × List Char)
  | 0, _, _, _ => none
  | fuel + 1, whole, before, cs =>
    match cs with
    | [] => none
    | '"' :: rest => some (if whole then some (String.ofList before.reverse) else none, rest)
    | '\\' :: 'u' :: rest =>
      match numberedEscape rest with
      | none => none
      | some (some c, rest) => textFrom fuel whole (c :: before) rest
      | some (none, rest) => textFrom fuel false before rest
    | '\\' :: c :: rest =>
      match shortEscape? c with
      | none => none
      | some meant => textFrom fuel whole (meant :: before) rest
    | c :: rest => if c.toNat < 0x20 then none else textFrom fuel whole (c :: before) rest

/-- The text value behind an opening quotation mark. -/
def text (cs : List Char) : Option (Option String × List Char) :=
  textFrom (cs.length + 1) true [] cs

/-- The digits at the front of a text. -/
def digits (cs : List Char) : List Char × List Char := cs.span Char.isDigit

/-- The number that decimal digits write. -/
def decimal (ds : List Char) : Nat :=
  ds.foldl (fun v c => v * 10 + (c.toNat - '0'.toNat)) 0

/-- The digits before the point: a lone zero, or digits that do not start with one. -/
def integerDigits (cs : List Char) : Option (List Char × List Char) :=
  match digits cs with
  | ([], _) => none
  | ('0' :: _ :: _, _) => none
  | found => some found

/-- The digits behind a point, if there is one. -/
def fractionDigits : List Char → Option (Option (List Char) × List Char)
  | '.' :: rest =>
    match digits rest with
    | ([], _) => none
    | (ds, rest) => some (some ds, rest)
  | cs => some (none, cs)

/-- The exponent, if there is one. -/
def exponentPart : List Char → Option (Option Int × List Char)
  | c :: rest =>
    if c = 'e' ∨ c = 'E' then
      let (negative, rest) := match rest with
        | '-' :: rest => (true, rest)
        | '+' :: rest => (false, rest)
        | rest => (false, rest)
      match digits rest with
      | ([], _) => none
      | (ds, rest) =>
        let size := Int.ofNat (decimal ds)
        some (some (if negative then -size else size), rest)
    else some (none, c :: rest)
  | [] => some (none, [])

/-- A number behind its sign. -/
def number (negative : Bool) (cs : List Char) : Option (JsonNumber × List Char) := do
  let (whole, rest) ← integerDigits cs
  let (fraction, rest) ← fractionDigits rest
  let (exponent, rest) ← exponentPart rest
  let behind := fraction.getD []
  return ({ negative
            digits := decimal (whole ++ behind)
            exponent := exponent.getD 0 - Int.ofNat behind.length
            integral := fraction.isNone && exponent.isNone }, rest)

/-- The text behind a word that must come next. -/
def expect (word : String) (cs : List Char) : Option (List Char) :=
  if word.toList.isPrefixOf cs then some (cs.drop word.length) else none

mutual

/-- A value and the text behind it. -/
def value : Nat → List Char → Option (Json × List Char)
  | 0, _ => none
  | fuel + 1, cs =>
    match skipSpace cs with
    | 'n' :: _ => (expect "null" (skipSpace cs)).map (.null, ·)
    | 't' :: _ => (expect "true" (skipSpace cs)).map (.bool true, ·)
    | 'f' :: _ => (expect "false" (skipSpace cs)).map (.bool false, ·)
    | '"' :: rest =>
      (text rest).map fun (found, rest) =>
        (match found with
          | some s => .string s
          | none => .unreadable, rest)
    | '[' :: rest =>
      match skipSpace rest with
      | ']' :: rest => some (.array [], rest)
      | _ => (items fuel rest).map fun (found, rest) => (.array found, rest)
    | '\x7b' :: rest =>
      match skipSpace rest with
      | '\x7d' :: rest => some (.object [], rest)
      | _ =>
        (fields fuel rest).map fun (found, rest) =>
          (match found with
            | some fs => .object fs
            | none => .unreadable, rest)
    | '-' :: rest => (number true rest).map fun (n, rest) => (.number n, rest)
    | rest => (number false rest).map fun (n, rest) => (.number n, rest)

/-- The items of a list up to its closing bracket; there is at least one. -/
def items : Nat → List Char → Option (List Json × List Char)
  | 0, _ => none
  | fuel + 1, cs =>
    match value fuel cs with
    | none => none
    | some (item, rest) =>
      match skipSpace rest with
      | ']' :: rest => some ([item], rest)
      | ',' :: rest => (items fuel rest).map fun (found, rest) => (item :: found, rest)
      | _ => none

/-- The fields of an object up to its closing brace; there is at least one.  No fields come back
where a name is unreadable. -/
def fields : Nat → List Char → Option (Option (List (String × Json)) × List Char)
  | 0, _ => none
  | fuel + 1, cs =>
    match skipSpace cs with
    | '"' :: rest =>
      match text rest with
      | none => none
      | some (name, rest) =>
        match skipSpace rest with
        | ':' :: rest =>
          match value fuel rest with
          | none => none
          | some (item, rest) =>
            match skipSpace rest with
            | '\x7d' :: rest => some (name.map fun name => [(name, item)], rest)
            | ',' :: rest =>
              (fields fuel rest).map fun (found, rest) =>
                (match name, found with
                  | some name, some fs => some ((name, item) :: fs)
                  | _, _ => none, rest)
            | _ => none
        | _ => none
    | _ => none

end

/-- Skipping white space never makes a text longer. -/
theorem skipSpace_length (cs : List Char) : (skipSpace cs).length ≤ cs.length := by
  induction cs with
  | nil => simp [skipSpace]
  | cons c cs ih =>
    simp only [skipSpace, List.dropWhile] at ih ⊢
    split
    · simp only [List.length_cons]; omega
    · simp

end Schemata.Json.Reader

namespace Schemata.Json

/-- The value of a JSON text.  Every step of the reading takes a character or enters an item, so
twice the length of the text bounds the steps. -/
def parse? (s : String) : Option Json := do
  let cs := s.toList
  let (found, rest) ← Reader.value (2 * cs.length + 2) cs
  if (Reader.skipSpace rest).isEmpty then some found else none

end Schemata.Json
