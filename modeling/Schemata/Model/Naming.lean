import Schemata.Text.Words

/-!
# Names derived from names

What a schema leaves out is derived from what it says: the table of a class, the column and the
constraint of a reference, the accessor of a member, and the class without its namespace.

* `shortName_of_unqualified` - a name without separators is its own short name.
-/

namespace Schemata.Naming

open Text

/-- The accessor of a reference or collector. -/
def accessor (name : String) : String := pascal name

/-- The table of a class that names none. -/
def table (className : String) : String := snake className

/-- The column of a reference mapping that names none. -/
def referenceColumn (reference foreignAttribute : String) : String :=
  snake reference ++ "_" ++ snake foreignAttribute

/-- The foreign key constraint of a reference that names none. -/
def constraint (table reference : String) : String :=
  table ++ "_" ++ snake reference

/-- The characters before the first pair of colons. -/
def beforeColons : List Char → List Char
  | ':' :: ':' :: _ => []
  | c :: rest => c :: beforeColons rest
  | [] => []

/-- The characters after the last backslash. -/
def afterBackslash (cs : List Char) : List Char :=
  (cs.reverse.takeWhile (· ≠ '\\')).reverse

/-- The characters after the last pair of colons. -/
def afterColons (cs : List Char) : List Char :=
  (beforeColons cs.reverse).reverse

/-- The class name without its namespace, which ends at a backslash or a pair of colons. -/
def shortName (name : String) : String :=
  String.ofList (afterColons (afterBackslash name.toList))

/-- The name says which namespace it means. -/
def isQualified (name : String) : Bool :=
  shortName name != name

/-- The class name behind its namespace. -/
def qualified (namespaceName className : String) : String :=
  String.ofList (namespaceName.toList.reverse.dropWhile (· = '\\')).reverse ++ "\\" ++ className

/-- Before the first pair of colons of a text without colons is all of it. -/
theorem beforeColons_of_not_mem {cs : List Char} (h : ':' ∉ cs) : beforeColons cs = cs := by
  induction cs with
  | nil => rfl
  | cons c cs ih =>
    simp only [List.mem_cons, not_or] at h
    rw [beforeColons]
    · rw [ih h.2]
    · intro rest hc
      exact absurd hc.symm h.1

/-- **A name without separators is its own short name.** -/
theorem shortName_of_unqualified {name : String} (hb : '\\' ∉ name.toList)
    (hc : ':' ∉ name.toList) : shortName name = name := by
  have hback : afterBackslash name.toList = name.toList := by
    have hall : ∀ c ∈ name.toList.reverse, decide (c ≠ '\\') = true := by
      intro c hmem
      have : c ∈ name.toList := by simpa using hmem
      exact decide_eq_true fun h => hb (h ▸ this)
    have htake : (name.toList.reverse ++ []).takeWhile (· ≠ '\\')
        = name.toList.reverse ++ [].takeWhile (· ≠ '\\') := List.takeWhile_append_of_pos hall
    simp only [List.append_nil, List.takeWhile_nil] at htake
    rw [afterBackslash, htake, List.reverse_reverse]
  rw [shortName, hback, afterColons, beforeColons_of_not_mem (by simpa using hc)]
  simp

end Schemata.Naming
