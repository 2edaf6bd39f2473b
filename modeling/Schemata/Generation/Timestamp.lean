import Std.Time.DateTime

/-!
# Timestamps

A migration is named for the second in which it is generated: four digits for the year and two each
for month, day, hour, minute and second, so that the names of migrations sort by their times.

* `length_padded` - a number that has no more digits than places fills exactly its places.
-/

namespace Schemata.Generation

/-- A number behind as many zeros as it needs to fill a count of places. -/
def padded (places number : Nat) : String :=
  String.ofList (List.replicate (places - number.repr.length) '0') ++ number.repr

/-- The timestamp of a moment. -/
def timestamp (moment : Std.Time.PlainDateTime) : String :=
  let date := moment.date
  let time := moment.time
  padded 4 date.year.toInt.toNat ++ padded 2 date.month.val.toNat ++ padded 2 date.day.val.toNat
    ++ padded 2 time.hour.val.toNat ++ padded 2 time.minute.val.toNat
    ++ padded 2 time.second.val.toNat

/-- A number that has no more digits than places fills exactly its places. -/
theorem length_padded {places number : Nat} (h : number.repr.length ≤ places) :
    (padded places number).length = places := by
  simp [padded]
  omega

end Schemata.Generation
