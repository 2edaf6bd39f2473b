import Schemata.Proofs.Text.Listing
import Schemata.Text.Natural
import Schemata.Text.Quoted

/-!
# Reading literals

A literal of generated source ends at the first double quote that has no backslash before it.  In
between, a backslash is the beginning of a short form or of a code point in braces, and every other
character stands for itself.

* `readLiteral_quoted` - a text is read back from its literal, whatever is behind it;
* `break_not_mem_quoted` - a literal stays on its line.
-/

namespace Schemata.Text

/-- The character behind a backslash stands for this one. -/
def shortForm? (c : Char) : Option Char :=
  if c = '"' then some '"'
  else if c = '\\' then some '\\'
  else if c = 'n' then some '\n'
  else if c = 'r' then some '\r'
  else if c = 't' then some '\t'
  else if c = '0' then some '\x00'
  else none

/-- The character in front of what has been read. -/
def inFront (c : Char) (read : Option (List Char × List Char)) : Option (List Char × List Char) :=
  read.map fun (cs, behind) => (c :: cs, behind)

/-- The characters of a literal up to its closing quote, and what is behind that.  Inside of braces
`code` is what has been read of a code point. -/
def readChars (code : Option Nat) : List Char → Option (List Char × List Char)
  | [] => none
  | c :: rest =>
    match code with
    | some n =>
      if c = '\x7d' then inFront (Char.ofNat n) (readChars none rest)
      else (digitOf 16 c).bind fun digit => readChars (some (n * 16 + digit)) rest
    | none =>
      if c = '"' then some ([], rest)
      else if c = '\\' then
        match rest with
        | 'u' :: '\x7b' :: digits => readChars (some 0) digits
        | d :: more => (shortForm? d).bind fun e => inFront e (readChars none more)
        | [] => none
      else inFront c (readChars none rest)

/-- The text of the literal at the beginning of a text, and what is behind it. -/
def readLiteral : List Char → Option (String × List Char)
  | [] => none
  | c :: rest =>
    if c = '"' then (readChars none rest).map fun (cs, behind) => (String.ofList cs, behind)
    else none

variable {c : Char}

/-- A code point is read from its digits. -/
theorem readChars_toDigits (n : Nat) (rest : List Char) :
    readChars (some 0) (Nat.toDigits 16 n ++ rest) = readChars (some n) rest := by
  have hdigit (value d : Nat) (hd : d < 16) (rest : List Char) :
      readChars (some value) (Nat.digitChar d :: rest) =
        readChars (some (value * 16 + d)) rest := by
    have hbrace : Nat.digitChar d ≠ '\x7d' := by
      revert d
      decide
    rw [readChars, if_neg hbrace, digitOf_digitChar hd]
    rfl
  induction n using Nat.strongRecOn generalizing rest with
  | ind n ih =>
    rw [Nat.toDigits_eq_if (by decide)]
    by_cases hsmall : n < 16
    · rw [if_pos hsmall, List.singleton_append, hdigit 0 n hsmall, Nat.zero_mul, Nat.zero_add]
    · rw [if_neg hsmall, List.append_assoc, ih (n / 16) (by omega), List.singleton_append,
        hdigit _ _ (Nat.mod_lt _ (by decide)), Nat.div_add_mod']

/-- **A character is read from the way it is written.** -/
theorem readChars_quotedChar (c : Char) (rest : List Char) :
    readChars none (quotedChar c ++ rest) = inFront c (readChars none rest) := by
  have hshort (d : Char) (hd : shortForm? d = some c) (hu : d ≠ 'u') :
      readChars none (['\\', d] ++ rest) = inFront c (readChars none rest) := by
    rw [List.cons_append, List.singleton_append, readChars.eq_def]
    simp [hd, hu]
  unfold quotedChar
  split
  · rename_i h
    exact hshort '"' (by rw [h]; rfl) (by decide)
  · split
    · rename_i h
      exact hshort '\\' (by rw [h]; rfl) (by decide)
    · split
      · rename_i h
        exact hshort 'n' (by rw [h]; rfl) (by decide)
      · split
        · rename_i h
          exact hshort 'r' (by rw [h]; rfl) (by decide)
        · split
          · rename_i h
            exact hshort 't' (by rw [h]; rfl) (by decide)
          · split
            · rename_i h
              exact hshort '0' (by rw [h]; rfl) (by decide)
            · split
              · rename_i hquote hbackslash _ _ _ _ _
                rw [List.singleton_append, readChars.eq_def]
                simp [hquote, hbackslash]
              · have hchars : numbered c ++ rest =
                    '\\' :: 'u' :: '\x7b' :: (Nat.toDigits 16 c.toNat ++ '\x7d' :: rest) := by
                  simp [numbered]
                rw [hchars, readChars, if_neg (by decide), if_pos rfl]
                rw [readChars_toDigits, readChars, if_pos rfl, Char.ofNat_toNat]

/-- **A text is read back from its literal,** whatever is behind it. -/
theorem readLiteral_quoted (s : String) (rest : List Char) :
    readLiteral ((quoted s).toList ++ rest) = some (s, rest) := by
  have hchars (cs : List Char) :
      readChars none (cs.flatMap quotedChar ++ '"' :: rest) = some (cs, rest) := by
    induction cs with
    | nil => simp [readChars.eq_def]
    | cons c cs ih =>
      rw [List.flatMap_cons, List.append_assoc, readChars_quotedChar, ih]
      rfl
  have hquoted : (quoted s).toList ++ rest =
      '"' :: (s.toList.flatMap quotedChar ++ '"' :: rest) := by
    simp [quoted]
  rw [hquoted, readLiteral, if_pos rfl, hchars]
  simp

/-- A code point is written without line breaks. -/
theorem break_not_mem_toDigits (n : Nat) : '\n' ∉ Nat.toDigits 16 n := by
  have hdigit (d : Nat) (hd : d < 16) : '\n' ≠ Nat.digitChar d := by
    intro h
    have hvalue := digitOf_digitChar hd
    have hnone : digitOf 16 '\n' = none := rfl
    rw [← h, hnone] at hvalue
    cases hvalue
  induction n using Nat.strongRecOn with
  | ind n ih =>
    rw [Nat.toDigits_eq_if (by decide)]
    by_cases hsmall : n < 16
    · rw [if_pos hsmall, List.mem_singleton]
      exact hdigit n hsmall
    · rw [if_neg hsmall, List.mem_append, List.mem_singleton]
      rintro (h | h)
      · exact ih (n / 16) (by omega) h
      · exact hdigit _ (Nat.mod_lt _ (by decide)) h

/-- A literal stays on its line. -/
theorem break_not_mem_quoted (s : String) : '\n' ∉ (quoted s).toList := by
  have hchar (c : Char) : '\n' ∉ quotedChar c := by
    unfold quotedChar numbered
    by_cases hbreak : c = '\n'
    · subst hbreak
      decide
    · split_ifs <;> simp [break_not_mem_toDigits, Ne.symm hbreak]
  simp [quoted, hchar]

end Schemata.Text
