import Schemata.Markup.Problem

/-!
# Attribute values

An attribute value may write a character by reference: by one of five names or by number, between
`&` and `;`.  Everything else stands for itself, white space included.

* `unescapeFrom_plain` - a value without `&` stands for itself.
-/

namespace Schemata.Markup

open Text

/-- The number of bytes that characters take in UTF-8. -/
def byteLength (cs : List Char) : Nat :=
  (cs.map Char.utf8Size).foldr (· + ·) 0

/-- The character of a predefined name. -/
def namedCharacter? : List Char → Option Char
  | ['l', 't'] => some '<'
  | ['g', 't'] => some '>'
  | ['a', 'm', 'p'] => some '&'
  | ['a', 'p', 'o', 's'] => some '\''
  | ['q', 'u', 'o', 't'] => some '"'
  | _ => none

/-- A number without a sign. -/
def unsignedNumber (base : Nat) : List Char → Except CharacterProblem Nat
  | '+' :: _ => .error .sign
  | '-' :: _ => .error .sign
  | digits =>
    match readNumber base digits with
    | .ok n => .ok n
    | .error problem => .error (.number problem)

/-- The number of a reference: decimal, or hexadecimal behind an `x`. -/
def referenceNumber : List Char → Except CharacterProblem Nat
  | 'x' :: digits => unsignedNumber 16 digits
  | digits => unsignedNumber 10 digits

/-- The character that a number stands for. -/
def characterOf (code : Nat) : Except CharacterProblem Char :=
  if code = 0 then .error .zero
  else if code.isValidChar then .ok (Char.ofNat code)
  else .error (.noCharacter code)

/-- The character of a reference, whose text stands at the given place of the value. -/
def resolveReference (first last : Nat) : List Char → Except ValueProblem Char
  | '#' :: digits =>
    match referenceNumber digits with
    | .error problem => .error (.character problem)
    | .ok code =>
      match characterOf code with
      | .error problem => .error (.character problem)
      | .ok c => .ok c
  | name =>
    match namedCharacter? name with
    | some c => .ok c
    | none => .error (.unknownEntity first last (String.ofList name))

/-- The characters that a value of `total` bytes stands for, read from `position` on.  Inside a
reference, `reference` holds the place of its `&` and its text so far, backwards. -/
def unescapeFrom (total position : Nat) (reference : Option (Nat × List Char)) :
    List Char → Except ValueProblem (List Char)
  | [] =>
    match reference with
    | none => .ok []
    | some (start, _) => .error (.unterminated start total)
  | c :: rest =>
    match reference with
    | none =>
      if c = '&' then unescapeFrom total (position + 1) (some (position, [])) rest
      else do
        let later ← unescapeFrom total (position + c.utf8Size) none rest
        return c :: later
    | some (start, text) =>
      if c = ';' then do
        let meant ← resolveReference (start + 1) position text.reverse
        let later ← unescapeFrom total (position + 1) none rest
        return meant :: later
      else if c = '&' then .error (.unterminated start total)
      else unescapeFrom total (position + c.utf8Size) (some (start, c :: text)) rest

/-- The text that an attribute value stands for. -/
def unescape (value : List Char) : Except ValueProblem String := do
  let meant ← unescapeFrom (byteLength value) 0 none value
  return String.ofList meant

/-- **A value without references stands for itself.** -/
theorem unescapeFrom_plain {total position : Nat} {value : List Char} (h : '&' ∉ value) :
    unescapeFrom total position none value = .ok value := by
  induction value generalizing position with
  | nil => rfl
  | cons c rest ih =>
    simp only [List.mem_cons, not_or] at h
    have hc : c ≠ '&' := fun hc => h.1 hc.symm
    simp [unescapeFrom, hc, ih h.2, bind, Except.bind, pure, Except.pure]

end Schemata.Markup
