import Schemata.Text.Natural

/-!
# TOML texts

Texts stand between quotation marks, with escapes, or between apostrophes, without; three marks
instead of one let them run over several lines.  Every reader takes what it can from the front and
leaves the rest.

* `literalText_plain` - characters between apostrophes stand for themselves.
-/

namespace Schemata.Toml.Reader

open Text

/-- A blank inside a line. -/
def isSpace (c : Char) : Bool := c == ' ' || c == '\t'

/-- A character that may stand in a text or a comment as it is. -/
def isPlain (c : Char) : Bool := c == '\t' || (0x20 ≤ c.toNat && c.toNat ≠ 0x7F)

/-- The character with a number in hexadecimal digits. -/
def numbered? (digits : List Char) : Option Char := do
  let code ← digits.foldlM (fun v c => (digitOf 16 c).map (v * 16 + ·)) 0
  if code.isValidChar then some (Char.ofNat code) else none

/-- The character of a one-letter escape. -/
def escaped? : Char → Option Char
  | 'b' => some '\x08'
  | 't' => some '\t'
  | 'n' => some '\n'
  | 'f' => some '\x0c'
  | 'r' => some '\r'
  | '"' => some '"'
  | '\\' => some '\\'
  | _ => none

/-- One more character before what was read. -/
def push (c : Char) : List Char × List Char → List Char × List Char
  | (read, rest) => (c :: read, rest)

/-- A text with escapes behind its opening mark. -/
def basicText : List Char → Option (List Char × List Char)
  | [] => none
  | '"' :: rest => some ([], rest)
  | '\\' :: 'u' :: a :: b :: c :: d :: rest => do
    let meant ← numbered? [a, b, c, d]
    (basicText rest).map (push meant)
  | '\\' :: 'U' :: a :: b :: c :: d :: e :: f :: g :: h :: rest => do
    let meant ← numbered? [a, b, c, d, e, f, g, h]
    (basicText rest).map (push meant)
  | '\\' :: c :: rest => do
    let meant ← escaped? c
    (basicText rest).map (push meant)
  | c :: rest => if isPlain c then (basicText rest).map (push c) else none

/-- A text without escapes behind its opening mark. -/
def literalText : List Char → Option (List Char × List Char)
  | [] => none
  | '\'' :: rest => some ([], rest)
  | c :: rest => if isPlain c then (literalText rest).map (push c) else none

/-- The end of a text of several lines: three marks, before which one or two more belong to the
text. -/
def closing? (mark : Char) (cs : List Char) : Option (List Char × List Char) :=
  if [mark, mark, mark].isPrefixOf cs then
    let behind := cs.drop 3
    let inside := (behind.takeWhile (· == mark)).take 2
    some (inside, behind.drop inside.length)
  else none

/-- The text behind the line end that may follow the opening marks. -/
def behindLineEnd : List Char → List Char
  | '\n' :: rest => rest
  | '\r' :: '\n' :: rest => rest
  | cs => cs

/-- What a backslash at the end of a line does to the characters behind it. -/
inductive Folding where
  | off
  /-- Only blanks may follow up to the line end. -/
  | toLineEnd
  | overBlanks
  deriving DecidableEq

/-- A text with escapes and of several lines behind its opening marks.  A line end is always one
line feed. -/
def longBasicText : Folding → List Char → Option (List Char × List Char)
  | _, [] => none
  | folding, '\r' :: '\n' :: rest =>
    if folding = .off then (longBasicText .off rest).map (push '\n')
    else longBasicText .overBlanks rest
  | .toLineEnd, c :: rest =>
    if isSpace c then longBasicText .toLineEnd rest
    else if c = '\n' then longBasicText .overBlanks rest
    else none
  | _, '\\' :: 'u' :: a :: b :: c :: d :: rest => do
    let meant ← numbered? [a, b, c, d]
    (longBasicText .off rest).map (push meant)
  | _, '\\' :: 'U' :: a :: b :: c :: d :: e :: f :: g :: h :: rest => do
    let meant ← numbered? [a, b, c, d, e, f, g, h]
    (longBasicText .off rest).map (push meant)
  | _, '\\' :: '\r' :: '\n' :: rest => longBasicText .overBlanks rest
  | _, '\\' :: c :: rest =>
    if isSpace c then longBasicText .toLineEnd rest
    else if c = '\n' then longBasicText .overBlanks rest
    else do
      let meant ← escaped? c
      (longBasicText .off rest).map (push meant)
  | folding, c :: rest =>
    if folding = .overBlanks ∧ (isSpace c ∨ c = '\n') then longBasicText .overBlanks rest
    else
      match closing? '"' (c :: rest) with
      | some found => some found
      | none =>
        if isPlain c ∨ c = '\n' then (longBasicText .off rest).map (push c) else none

/-- A text without escapes and of several lines behind its opening marks. -/
def longLiteralText : List Char → Option (List Char × List Char)
  | [] => none
  | '\r' :: '\n' :: rest => (longLiteralText rest).map (push '\n')
  | c :: rest =>
    match closing? '\'' (c :: rest) with
    | some found => some found
    | none => if isPlain c ∨ c = '\n' then (longLiteralText rest).map (push c) else none

/-- A text of one line. -/
def shortText : List Char → Option (String × List Char)
  | '"' :: rest => (basicText rest).map fun (read, rest) => (String.ofList read, rest)
  | '\'' :: rest => (literalText rest).map fun (read, rest) => (String.ofList read, rest)
  | _ => none

/-- A text of one or several lines. -/
def text : List Char → Option (String × List Char)
  | '"' :: '"' :: '"' :: rest =>
    (longBasicText .off (behindLineEnd rest)).map fun (read, rest) => (String.ofList read, rest)
  | '\'' :: '\'' :: '\'' :: rest =>
    (longLiteralText (behindLineEnd rest)).map fun (read, rest) => (String.ofList read, rest)
  | cs => shortText cs

/-- Characters between apostrophes stand for themselves. -/
theorem literalText_plain {cs rest : List Char} (h : ∀ c ∈ cs, isPlain c ∧ c ≠ '\'') :
    literalText (cs ++ '\'' :: rest) = some (cs, rest) := by
  induction cs with
  | nil => rfl
  | cons c cs ih =>
    have hc := h c (List.mem_cons_self ..)
    have := ih fun d hd => h d (List.mem_cons_of_mem _ hd)
    simp [literalText, hc.1, hc.2, this, push]

end Schemata.Toml.Reader
