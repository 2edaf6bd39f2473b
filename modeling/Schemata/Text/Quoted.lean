import Schemata.Text.Visible

/-!
# Quoted text

A text as a string literal of generated source: between double quotes, with a backslash before a
double quote and a backslash, short forms for the usual control characters, and the code point in
braces for every other character that cannot be shown as it is.

* `quotedChar_visible` - a visible character other than the two marks is written as it is;
* `quoted_ne_empty` - a literal is never empty.
-/

namespace Schemata.Text

/-- A code point by number: a backslash, `u` and the lower-case hexadecimal digits in braces. -/
def numbered (c : Char) : List Char :=
  ['\\', 'u', '\x7b'] ++ Nat.toDigits 16 c.toNat ++ ['\x7d']

/-- One character inside a literal. -/
def quotedChar (c : Char) : List Char :=
  if c = '"' then ['\\', '"']
  else if c = '\\' then ['\\', '\\']
  else if c = '\n' then ['\\', 'n']
  else if c = '\r' then ['\\', 'r']
  else if c = '\t' then ['\\', 't']
  else if c = '\x00' then ['\\', '0']
  else if isVisible c then [c]
  else numbered c

/-- The text as a string literal. -/
def quoted (s : String) : String :=
  String.ofList ('"' :: s.toList.flatMap quotedChar ++ ['"'])

/-- A visible character other than the two marks is written as it is. -/
theorem quotedChar_visible {c : Char} (hv : isVisible c) (hq : c ≠ '"') (hb : c ≠ '\\') :
    quotedChar c = [c] := by
  unfold quotedChar
  have hn : c ≠ '\n' := fun h => by subst h; revert hv; decide
  have hr : c ≠ '\r' := fun h => by subst h; revert hv; decide
  have ht : c ≠ '\t' := fun h => by subst h; revert hv; decide
  have h0 : c ≠ '\x00' := fun h => by subst h; revert hv; decide
  simp [hq, hb, hn, hr, ht, h0, hv]

/-- A literal is never empty: it has its two quotes. -/
theorem quoted_ne_empty (s : String) : quoted s ≠ "" := by
  intro h
  have := congrArg String.toList h
  simp [quoted] at this

end Schemata.Text
