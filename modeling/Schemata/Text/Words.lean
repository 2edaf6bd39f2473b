import Schemata.Text.Alphanumeric
import Schemata.Text.CaseMap

/-!
# Words of a name

Names are written in many ways (`orderLine`, `OrderLine`, `order-line`).  This file cuts a name into
words and puts the words together again in the two forms that generated names take.

A name is cut at every character that is neither letter nor digit.  Inside such a piece a word ends
after a lowercase letter that an uppercase letter follows (`order|Line`), and before the last of
several uppercase letters that a lowercase letter follows (`XML|Reader`).  Characters without case
leave the state of the cut as it is.

* `flatten_cut` - cutting a piece loses no character;
* `flatten_pieces` - the pieces are the letters and digits of the name, in order.
-/

namespace Schemata.Text

/-- The case of the last cased character since the last cut. -/
inductive Mode where
  | start
  | lower
  | upper
  deriving DecidableEq, Repr

/-- The mode after one more character. -/
def Mode.after (mode : Mode) (c : Char) : Mode :=
  if isLowercase c then .lower else if isUppercase c then .upper else mode

/-- The runs of letters and digits of a text; other characters separate them, so a run may be
empty. -/
def pieces : List Char → List (List Char)
  | [] => [[]]
  | c :: rest =>
    match pieces rest with
    | [] => [[c]]
    | piece :: others =>
      if isAlphanumeric c then (c :: piece) :: others else [] :: piece :: others

/-- The words of one piece, `word` being what has been read of the current one, backwards. -/
def cut (mode : Mode) (word : List Char) : List Char → List (List Char)
  | [] => if word.isEmpty then [] else [word.reverse]
  | [c] => [(c :: word).reverse]
  | c :: d :: rest =>
    if mode.after c = .lower ∧ isUppercase d then
      (c :: word).reverse :: cut .start [] (d :: rest)
    else if mode = .upper ∧ isUppercase c ∧ isLowercase d then
      word.reverse :: cut .start [c] (d :: rest)
    else
      cut (mode.after c) (c :: word) (d :: rest)

/-- The words of a name. -/
def words (name : String) : List (List Char) :=
  (pieces name.toList).flatMap (cut .start [])

/-- A word in lower case; a capital sigma that ends it takes its final form. -/
def lowerWord : List Char → List Char
  | [] => []
  | [c] => if c = capitalSigma then [finalSigma] else lowerChar c
  | c :: rest => lowerChar c ++ lowerWord rest

/-- A word with its first character in upper case and the others in lower case. -/
def capitalize : List Char → List Char
  | [] => []
  | c :: rest => upperChar c ++ lowerWord rest

/-- The name in snake case: its words in lower case, joined by underscores. -/
def snake (name : String) : String :=
  String.intercalate "_" ((words name).map fun word => String.ofList (lowerWord word))

/-- The name in pascal case: its words with a capital each, joined. -/
def pascal (name : String) : String :=
  String.ofList ((words name).flatMap capitalize)

/-- **Cutting loses nothing:** the words of a piece, put together, are the piece. -/
theorem flatten_cut (mode : Mode) (word piece : List Char) :
    (cut mode word piece).flatten = word.reverse ++ piece := by
  fun_induction cut mode word piece <;> simp_all

/-- A text always has a piece. -/
theorem pieces_ne_nil (cs : List Char) : pieces cs ≠ [] := by
  cases cs with
  | nil => simp [pieces]
  | cons c cs => rw [pieces]; split <;> (try split) <;> simp

/-- **The pieces are the letters and digits of the text,** in order. -/
theorem flatten_pieces (cs : List Char) : (pieces cs).flatten = cs.filter isAlphanumeric := by
  induction cs with
  | nil => rfl
  | cons c cs ih =>
    cases hp : pieces cs with
    | nil => exact absurd hp (pieces_ne_nil cs)
    | cons piece others =>
      rw [hp] at ih
      rw [pieces, hp]
      by_cases hc : isAlphanumeric c
      · simp_all
      · simp_all

/-- The words of a name are its letters and digits, in order. -/
theorem flatten_words (name : String) :
    (words name).flatten = name.toList.filter isAlphanumeric := by
  rw [words, ← flatten_pieces]
  generalize pieces name.toList = ps
  induction ps with
  | nil => rfl
  | cons p ps ih => simp [flatten_cut, ih]

end Schemata.Text
