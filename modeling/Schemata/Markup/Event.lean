import Schemata.Markup.Token

/-!
# Events of a document

A document is read as a list of events: elements start, are empty, or end.  End tags must close the
element that was opened last; elements may still be open when the text ends.  The events before a
failure are kept, because a reader of the events may object to one of them first.

* `scan_nil` - an empty text has no event;
* `afterOpening_lt` - looking for markup moves on.
-/

namespace Schemata.Markup

/-- What a document says next.  Names are local; the attributes of a tag come with the first problem
that they have. -/
inductive Event where
  | opening (name : String) (attributes : Except AttributeProblem Attributes)
  | empty (name : String) (attributes : Except AttributeProblem Attributes)
  | closing (name : String)

/-- The events of a text, up to the failure that stopped the reading, if one did. -/
structure Scan where
  events : List Event
  failure : Option MarkupFailure

/-- The scan with an event before the others. -/
def Scan.after (event : Event) (s : Scan) : Scan :=
  { s with events := event :: s.events }

/-- The text behind the next `<`, and its position. -/
def afterOpening (position : Nat) : List Char → Option (List Char × Nat)
  | [] => none
  | '<' :: rest => some (rest, position + 1)
  | c :: rest => afterOpening (position + c.utf8Size) rest

/-- Why an end tag does not close the element that was opened last, if so. -/
def endProblem (opened : List (List Char)) (name : List Char) : Option MarkupProblem :=
  match opened with
  | [] => some (.unmatchedEnd (String.ofList name))
  | expected :: _ =>
    if expected = name then none
    else some (.mismatchedEnd (String.ofList expected) (String.ofList name))

/-- The name in a start tag: everything up to white space. -/
def tagName (content : List Char) : List Char :=
  content.takeWhile (!isSpace ·)

/-- The events of the text at a position, `opened` being the names of the open elements, innermost
first.  Every token takes a character, so `fuel` above the length of the text is never used up. -/
def scanFrom : Nat → List (List Char) → Nat → List Char → Scan
  | 0, _, _, _ => ⟨[], none⟩
  | fuel + 1, opened, position, text =>
    match afterOpening position text with
    | none => ⟨[], none⟩
    | some (rest, position) =>
      match markup position rest with
      | .error failure => ⟨[], some failure⟩
      | .ok (token, rest, position) =>
        match token with
        | .skipped => scanFrom fuel opened position rest
        | .startTag content =>
          let name := tagName content
          (scanFrom fuel (name :: opened) position rest).after
            (.opening (localName name) (attributesOf content))
        | .emptyTag content =>
          (scanFrom fuel opened position rest).after
            (.empty (localName (tagName content)) (attributesOf content))
        | .endTag name =>
          match endProblem opened name with
          | some problem => ⟨[], some ⟨position, problem⟩⟩
          | none => (scanFrom fuel opened.tail position rest).after (.closing (localName name))

/-- The mark that may stand before a text to show its encoding. -/
def byteOrderMark : Char := Char.ofNat 0xFEFF

/-- The events of a document.  A byte order mark at its start is not part of it. -/
def scan (xml : String) : Scan :=
  let text := match xml.toList with
    | c :: rest => if c = byteOrderMark then rest else c :: rest
    | [] => []
  scanFrom (text.length + 1) [] 0 text

/-- An empty text has no event. -/
theorem scan_nil : scan "" = ⟨[], none⟩ := by
  simp [scan, scanFrom, afterOpening]

/-- Looking for markup moves on: what is left is shorter. -/
theorem afterOpening_lt {position next : Nat} {text rest : List Char}
    (h : afterOpening position text = some (rest, next)) : rest.length < text.length := by
  induction text generalizing position with
  | nil => simp [afterOpening] at h
  | cons c text ih =>
    by_cases hc : c = '<'
    · subst hc
      simp only [afterOpening, Option.some.injEq, Prod.mk.injEq] at h
      simp [h.1]
    · rw [afterOpening] at h
      · have := ih h
        simp only [List.length_cons]
        omega
      · exact fun heq => hc heq

end Schemata.Markup
