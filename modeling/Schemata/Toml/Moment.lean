import Schemata.Toml.Number

/-!
# TOML dates and times

A moment is a date, a time of day, or a date with a time of day and perhaps an offset from universal
time.

* `daysIn_le` - no month has more than 31 days.
-/

namespace Schemata.Toml.Reader

open Text

/-- A number in exactly so many decimal digits. -/
def fixedDigits (count : Nat) (cs : List Char) : Option (Nat × List Char) :=
  let ds := cs.take count
  if ds.length = count && ds.all Char.isDigit then some (valueOf 10 ds, cs.drop count) else none

/-- The text behind a character that must come next. -/
def behind (c : Char) : List Char → Option (List Char)
  | d :: rest => if d = c then some rest else none
  | [] => none

/-- A year has a 29th of February. -/
def isLeapYear (year : Nat) : Bool :=
  year % 4 = 0 && (year % 100 ≠ 0 || year % 400 = 0)

/-- How many days a month has. -/
def daysIn (year month : Nat) : Nat :=
  if month = 2 then if isLeapYear year then 29 else 28
  else if month = 4 || month = 6 || month = 9 || month = 11 then 30
  else 31

/-- The text behind a date. -/
def date (cs : List Char) : Option (List Char) := do
  let (year, rest) ← fixedDigits 4 cs
  let rest ← behind '-' rest
  let (month, rest) ← fixedDigits 2 rest
  let rest ← behind '-' rest
  let (day, rest) ← fixedDigits 2 rest
  if 1 ≤ month && month ≤ 12 && 1 ≤ day && day ≤ daysIn year month then some rest else none

/-- The text behind the decimals of a second, if there are any. -/
def behindDecimals : List Char → List Char
  | '.' :: d :: rest => if d.isDigit then rest.dropWhile Char.isDigit else '.' :: d :: rest
  | cs => cs

/-- The text behind a time of day. -/
def timeOfDay (cs : List Char) : Option (List Char) := do
  let (hour, rest) ← fixedDigits 2 cs
  let rest ← behind ':' rest
  let (minute, rest) ← fixedDigits 2 rest
  let rest ← behind ':' rest
  let (second, rest) ← fixedDigits 2 rest
  if hour ≤ 23 && minute ≤ 59 && second ≤ 60 then some (behindDecimals rest) else none

/-- The text behind an offset from universal time. -/
def offset : List Char → Option (List Char)
  | c :: rest =>
    if c = 'Z' ∨ c = 'z' then some rest
    else if c = '+' ∨ c = '-' then do
      let (hour, rest) ← fixedDigits 2 rest
      let rest ← behind ':' rest
      let (minute, rest) ← fixedDigits 2 rest
      if hour ≤ 23 && minute ≤ 59 then some rest else none
    else none
  | [] => none

/-- The text behind the time of day that may follow a date. -/
def behindTime : List Char → List Char
  | c :: rest =>
    if c = 'T' ∨ c = 't' ∨ c = ' ' then
      match timeOfDay rest with
      | some rest => (offset rest).getD rest
      | none => c :: rest
    else c :: rest
  | [] => []

/-- A moment. -/
def moment (cs : List Char) : Option (Toml × List Char) := do
  let rest ← (date cs).map behindTime <|> timeOfDay cs
  return (.moment (String.ofList (cs.take (cs.length - rest.length))), rest)

/-- No month has more than 31 days. -/
theorem daysIn_le (year month : Nat) : daysIn year month ≤ 31 := by
  unfold daysIn
  split
  · split <;> omega
  · split <;> omega

end Schemata.Toml.Reader
