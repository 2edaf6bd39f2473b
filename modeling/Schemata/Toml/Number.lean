import Schemata.Text.Decimal
import Schemata.Toml.Table
import Schemata.Toml.Text

/-!
# TOML numbers

Integers have 64 bits and are written in base ten, or behind a mark in base two, eight or sixteen.
A fraction or an exponent makes a number a floating-point number.  Single underscores may stand
between digits.

* `boundedInteger_eq_none` - an integer is refused exactly when 64 bits do not hold it.
-/

namespace Schemata.Toml.Reader

open Text

/-- Digits behind a first one, with single underscores between them. -/
def moreDigits (isDigit : Char → Bool) : List Char → List Char × List Char
  | '_' :: d :: rest =>
    if isDigit d then push d (moreDigits isDigit rest) else ([], '_' :: d :: rest)
  | c :: rest => if isDigit c then push c (moreDigits isDigit rest) else ([], c :: rest)
  | [] => ([], [])

/-- At least one digit, with single underscores between digits. -/
def digits (isDigit : Char → Bool) : List Char → Option (List Char × List Char)
  | c :: rest => if isDigit c then some (push c (moreDigits isDigit rest)) else none
  | [] => none

/-- A whole number in decimal digits, none of them a leading zero. -/
def wholeDigits : List Char → Option (List Char × List Char)
  | '0' :: rest => some (['0'], rest)
  | cs => digits Char.isDigit cs

/-- The sign of a number, if there is one: whether it is negative, and the text behind it. -/
def sign : List Char → Bool × List Char
  | '-' :: rest => (true, rest)
  | '+' :: rest => (false, rest)
  | cs => (false, cs)

/-- The value of digits of a base. -/
def valueOf (base : Nat) (ds : List Char) : Nat :=
  ds.foldl (fun v c => v * base + (digitValue c).getD 0) 0

/-- The digits behind a point. -/
def fraction : List Char → Option (List Char × List Char)
  | '.' :: rest => digits Char.isDigit rest
  | _ => none

/-- The exponent behind its letter. -/
def exponent : List Char → Option (Int × List Char)
  | c :: rest =>
    if c = 'e' ∨ c = 'E' then do
      let (negative, rest) := sign rest
      let (ds, rest) ← digits Char.isDigit rest
      let size := Int.ofNat (valueOf 10 ds)
      return (if negative then -size else size, rest)
    else none
  | [] => none

/-- A floating-point number: a fraction, an exponent or both make it one.  A positive number must be
finite. -/
def float (cs : List Char) : Option (Toml × List Char) := do
  let (negative, behindSign) := sign cs
  let (whole, rest) ← wholeDigits behindSign
  let (behindPoint, power, rest) ←
    match fraction rest with
    | some (ds, rest) =>
      match exponent rest with
      | some (power, rest) => some (ds, power, rest)
      | none => some (ds, 0, rest)
    | none => (exponent rest).map fun (power, rest) => ([], power, rest)
  let m := valueOf 10 (whole ++ behindPoint)
  if negative || !overflows m (power - Int.ofNat behindPoint.length) then
    return (.float (String.ofList (cs.take (cs.length - rest.length))), rest)
  else none

/-- The least integer of 64 bits is minus this. -/
def integerBound : Nat := 0x8000000000000000

/-- An integer of 64 bits. -/
def boundedInteger (negative : Bool) (n : Nat) : Option Toml :=
  if negative then
    if n ≤ integerBound then some (.integer (-Int.ofNat n)) else none
  else if n < integerBound then some (.integer (Int.ofNat n))
  else none

/-- An integer in the digits of a base, without a sign. -/
def basedInteger (base : Nat) (cs : List Char) : Option (Toml × List Char) := do
  let (ds, rest) ← digits (fun c => (digitOf base c).isSome) cs
  let n ← boundedInteger false (valueOf base ds)
  return (n, rest)

/-- An integer. -/
def integer : List Char → Option (Toml × List Char)
  | '0' :: 'x' :: rest => basedInteger 16 rest
  | '0' :: 'o' :: rest => basedInteger 8 rest
  | '0' :: 'b' :: rest => basedInteger 2 rest
  | cs => do
    let (negative, rest) := sign cs
    let (ds, rest) ← wholeDigits rest
    let n ← boundedInteger negative (valueOf 10 ds)
    return (n, rest)

/-- The text behind a word that must come next. -/
def expect (word : String) (cs : List Char) : Option (List Char) :=
  if word.toList.isPrefixOf cs then some (cs.drop word.length) else none

/-- Infinity, or what is not a number, with an optional sign. -/
def special (cs : List Char) : Option (Toml × List Char) := do
  let (_, behindSign) := sign cs
  let rest ← expect "inf" behindSign <|> expect "nan" behindSign
  return (.float (String.ofList (cs.take (cs.length - rest.length))), rest)

/-- An integer is refused exactly when 64 bits do not hold it. -/
theorem boundedInteger_eq_none {negative : Bool} {n : Nat} :
    boundedInteger negative n = none ↔
      if negative then integerBound < n else integerBound ≤ n := by
  unfold boundedInteger
  cases negative <;> simp

end Schemata.Toml.Reader
