/-!
# Character ranges

Unicode properties are written down as sorted lists of code point ranges.  This file holds the
three look-ups that read such lists:

* `within` - plain ranges, `(first, last)`;
* `withinSteps` - ranges that take every `step`-th code point, `(first, last, step)`, because upper
  and lower case letters often alternate;
* `image?` - ranges that also say where their first code point goes, for case mappings.

The tables of this folder start at U+0080 unless they say otherwise; the functions over them treat
ASCII by a rule of its own, so that ASCII text never reads a table.
-/

namespace Schemata.Text

/-- The code point lies in one of the ranges. -/
def within (ranges : List (Nat × Nat)) (code : Nat) : Bool :=
  ranges.any fun (first, last) => first ≤ code && code ≤ last

/-- The code point lies in one of the ranges and on one of its steps. -/
def withinSteps (ranges : List (Nat × Nat × Nat)) (code : Nat) : Bool :=
  ranges.any fun (first, last, step) =>
    first ≤ code && code ≤ last && (code - first) % step == 0

/-- Where a mapping sends the code point: a range `(first, last, step, target)` sends its `k`-th
member to the code point as far from `target` as the member is from `first`. -/
def image? (ranges : List (Nat × Nat × Nat × Nat)) (code : Nat) : Option Nat :=
  ranges.findSome? fun (first, last, step, target) =>
    if first ≤ code && code ≤ last && (code - first) % step == 0 then
      some (target + (code - first))
    else none

/-- An empty list of ranges holds no code point. -/
theorem within_nil (code : Nat) : within [] code = false := rfl

/-- A code point is in a list of ranges when it is in the first one or in the others. -/
theorem within_cons (first last : Nat) (ranges : List (Nat × Nat)) (code : Nat) :
    within ((first, last) :: ranges) code
      = ((decide (first ≤ code) && decide (code ≤ last)) || within ranges code) := rfl

end Schemata.Text
