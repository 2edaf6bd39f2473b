/-!
# Reading 32-bit numbers

A number is an optional plus sign and at least one digit.  Digits are read from the left, so of two
faults the one further left is reported, and at one place a character that is no digit comes before
a value that grows too large.

* `readDigits_bound` - what is read fits 32 bits.
-/

namespace Schemata.Text

/-- Why a text is no 32-bit number. -/
inductive NumberProblem where
  | empty
  | invalidDigit
  | tooLarge
  deriving DecidableEq, Repr

/-- The wording of a number problem. -/
def NumberProblem.message : NumberProblem → String
  | .empty => "cannot parse integer from empty string"
  | .invalidDigit => "invalid digit found in string"
  | .tooLarge => "number too large to fit in target type"

/-- The value of a character as a digit up to `z`. -/
def digitValue (c : Char) : Option Nat :=
  if c.isDigit then some (c.toNat - '0'.toNat)
  else if c.isLower then some (c.toNat - 'a'.toNat + 10)
  else if c.isUpper then some (c.toNat - 'A'.toNat + 10)
  else none

/-- The value of a character as a digit of the base. -/
def digitOf (base : Nat) (c : Char) : Option Nat :=
  (digitValue c).filter (· < base)

/-- The digit of a value below sixteen has that value. -/
theorem digitOf_digitChar {d : Nat} (h : d < 16) : digitOf 16 (Nat.digitChar d) = some d := by
  revert d
  decide

/-- One more digit behind a value. -/
def pushDigit (base value : Nat) (c : Char) : Except NumberProblem Nat :=
  match digitOf base c with
  | none => .error .invalidDigit
  | some digit =>
    if value * base + digit < UInt32.size then .ok (value * base + digit) else .error .tooLarge

/-- The digits of the base, read behind `value`. -/
def readDigits (base value : Nat) : List Char → Except NumberProblem Nat
  | [] => .ok value
  | c :: rest => do
    let next ← pushDigit base value c
    readDigits base next rest

/-- A number with at least one digit and an optional plus sign. -/
def readNumber (base : Nat) : List Char → Except NumberProblem Nat
  | [] => .error .empty
  | ['+'] => .error .invalidDigit
  | '+' :: digits => readDigits base 0 digits
  | digits => readDigits base 0 digits

/-- **What is read fits 32 bits.** -/
theorem readDigits_bound {base value n : Nat} {cs : List Char} (hv : value < UInt32.size)
    (h : readDigits base value cs = .ok n) : n < UInt32.size := by
  induction cs generalizing value with
  | nil =>
    simp only [readDigits, Except.ok.injEq] at h
    exact h ▸ hv
  | cons c cs ih =>
    simp only [readDigits] at h
    cases hp : pushDigit base value c with
    | error e => simp [hp, bind, Except.bind] at h
    | ok next =>
      simp only [hp, bind, Except.bind] at h
      have hnext : next < UInt32.size := by
        unfold pushDigit at hp
        split at hp
        · cases hp
        · split at hp
          · cases hp; assumption
          · cases hp
      exact ih hnext h

end Schemata.Text
