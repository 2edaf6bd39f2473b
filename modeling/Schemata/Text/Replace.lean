/-!
# Replacing a pattern in a text

`replaceAll` reads a text from left to right and writes the replacement for every occurrence of the
pattern that does not overlap an earlier one.

* `replaceFrom_of_forall_not_mem` - a text that lacks the first character of the pattern is
  returned as it is.
-/

namespace Schemata.Text

/-- Replacement in the characters of a text, of which the first `skip` belong to an occurrence
already replaced. -/
def replaceFrom (pattern replacement : List Char) : Nat → List Char → List Char
  | _, [] => []
  | skip + 1, _ :: rest => replaceFrom pattern replacement skip rest
  | 0, c :: rest =>
    if pattern.isPrefixOf (c :: rest) then
      replacement ++ replaceFrom pattern replacement (pattern.length - 1) rest
    else c :: replaceFrom pattern replacement 0 rest

/-- The text with every occurrence of the pattern replaced.  The pattern is not empty. -/
def replaceAll (pattern replacement s : String) : String :=
  String.ofList (replaceFrom pattern.toList replacement.toList 0 s.toList)

/-- **Where the pattern cannot start, nothing changes.** -/
theorem replaceFrom_of_forall_not_mem {first : Char} {pattern replacement cs : List Char}
    (h : first ∉ cs) : replaceFrom (first :: pattern) replacement 0 cs = cs := by
  induction cs with
  | nil => rfl
  | cons c cs ih =>
    simp only [List.mem_cons, not_or] at h
    have hc : (first :: pattern).isPrefixOf (c :: cs) = false := by
      simp [List.isPrefixOf, h.1]
    rw [replaceFrom, hc, ih h.2]
    simp

end Schemata.Text
