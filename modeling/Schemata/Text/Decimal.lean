/-!
# Decimal numbers in double precision

A decimal number is digits and a power of ten.  Double precision holds it unless it is so large that
it rounds to infinity.

* `overflows_zero` - zero is never too large;
* `overflows_few` - a number with at most 308 digits before the point is not too large.
-/

namespace Schemata.Text

/-- The least number that double precision rounds to infinity: halfway from the largest finite one
to the next power of two. -/
def infiniteFrom : Nat := Nat.pow 2 1024 - Nat.pow 2 970

/-- How many digits `digits * 10 ^ exponent` has before the point. -/
def placesBeforePoint (digits : Nat) (exponent : Int) : Int :=
  Int.ofNat digits.repr.length + exponent

/-- The number `digits * 10 ^ exponent` rounds to infinity in double precision.  The count of digits
decides unless there are 309 of them before the point. -/
def overflows (digits : Nat) (exponent : Int) : Bool :=
  if digits = 0 ∨ placesBeforePoint digits exponent ≤ 308 then false
  else if 310 ≤ placesBeforePoint digits exponent then true
  else if 0 ≤ exponent then infiniteFrom ≤ digits * Nat.pow 10 exponent.toNat
  else infiniteFrom * Nat.pow 10 (-exponent).toNat ≤ digits

/-- Zero is never too large. -/
theorem overflows_zero (exponent : Int) : overflows 0 exponent = false := by
  simp [overflows]

/-- A number with at most 308 digits before the point is not too large. -/
theorem overflows_few {digits : Nat} {exponent : Int}
    (h : placesBeforePoint digits exponent ≤ 308) : overflows digits exponent = false := by
  simp [overflows, h]

end Schemata.Text
