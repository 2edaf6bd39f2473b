import Schemata.Text.Natural

/-!
# What can be wrong with markup

Three kinds of problems, by where they are found: in the markup between `<` and `>`
(`MarkupProblem`), in the list of attributes of a start tag (`AttributeProblem`), and in the value
of one attribute (`ValueProblem`).  Positions count bytes.
-/

namespace Schemata.Markup

open Text

/-- What is wrong with a piece of markup. -/
inductive MarkupProblem where
  | unclosedTag
  | unclosedComment
  | unclosedCData
  | unclosedDoctype
  | unclosedInstruction
  /-- An exclamation mark is followed by nothing known. -/
  | unknownMarkup
  /-- A document type declaration names no type. -/
  | doctypeNameMissing
  /-- An end tag closes another element than the one that is open. -/
  | mismatchedEnd (expected found : String)
  /-- An end tag closes an element where none is open. -/
  | unmatchedEnd (found : String)
  deriving DecidableEq, Repr

/-- The wording of a markup problem. -/
def MarkupProblem.message : MarkupProblem → String
  | .unclosedTag => "syntax error: tag not closed: `>` not found before end of input"
  | .unclosedComment => "syntax error: comment not closed: `-->` not found before end of input"
  | .unclosedCData => "syntax error: CDATA not closed: `]]>` not found before end of input"
  | .unclosedDoctype => "syntax error: DOCTYPE not closed: `>` not found before end of input"
  | .unclosedInstruction =>
    "syntax error: processing instruction or xml declaration not closed: " ++
      "`?>` not found before end of input"
  | .unknownMarkup => "syntax error: unknown or missed symbol in markup"
  | .doctypeNameMissing =>
    "ill-formed document: `<!DOCTYPE>` declaration does not contain a name of a document type"
  | .mismatchedEnd expected found =>
    s!"ill-formed document: expected `</{expected}>`, but `</{found}>` was found"
  | .unmatchedEnd found =>
    s!"ill-formed document: close tag `</{found}>` does not match any open tag"

/-- A markup problem, with the number of bytes read when it showed. -/
structure MarkupFailure where
  position : Nat
  problem : MarkupProblem
  deriving DecidableEq, Repr

/-- The wording of a markup failure. -/
def MarkupFailure.message (f : MarkupFailure) : String :=
  let position := f.position
  let problem := f.problem.message
  s!"XML parse error at position {position}: {problem}"

/-- What is wrong with a numeric character reference. -/
inductive CharacterProblem where
  | sign
  | number (problem : NumberProblem)
  | noCharacter (code : Nat)
  | zero
  deriving DecidableEq, Repr

/-- The wording of a character reference problem. -/
def CharacterProblem.message : CharacterProblem → String
  | .sign => "unexpected number sign"
  | .number problem => problem.message
  | .noCharacter code => s!"`{code}` is not a valid codepoint"
  | .zero => "0x0 character is not permitted in XML"

/-- What is wrong with an attribute value; places count from the start of the value. -/
inductive ValueProblem where
  /-- The name between `&` and `;` means nothing. -/
  | unknownEntity (first last : Nat) (name : String)
  | unterminated (first length : Nat)
  | character (problem : CharacterProblem)
  deriving DecidableEq, Repr

/-- The wording of a value problem. -/
def ValueProblem.message : ValueProblem → String
  | .unknownEntity first last name => s!"at {first}..{last}: unrecognized entity `{name}`"
  | .unterminated first length =>
    s!"Error while escaping character at range {first}..{length}: Cannot find ';' after '&'"
  | .character problem =>
    let detail := problem.message
    s!"invalid character reference: {detail}"

/-- What is wrong with the attributes of a tag; positions count from the first byte behind `<`. -/
inductive AttributeProblem where
  /-- A key is followed by something other than `=`. -/
  | equalsExpected (position : Nat)
  | valueExpected (position : Nat)
  | unquotedValue (position : Nat)
  | quoteExpected (position : Nat) (quote : Char)
  | duplicate (position previous : Nat)
  | value (problem : ValueProblem)
  deriving DecidableEq, Repr

/-- The words that say where in a tag an attribute goes wrong. -/
def attributeAt (position : Nat) : String :=
  s!"Failed to parse XML attribute: position {position}: "

/-- The wording of an attribute problem. -/
def AttributeProblem.message : AttributeProblem → String
  | .equalsExpected position =>
    attributeAt position ++ "attribute key must be directly followed by `=` or space"
  | .valueExpected position =>
    attributeAt position ++ "`=` must be followed by an attribute value"
  | .unquotedValue position =>
    attributeAt position ++ "attribute value must be enclosed in `\"` or `'`"
  | .quoteExpected position quote =>
    attributeAt position ++ s!"missing closing quote `{quote}` in attribute value"
  | .duplicate position previous =>
    attributeAt position ++
      s!"duplicated attribute, previous declaration at position {previous}"
  | .value problem =>
    let detail := problem.message
    s!"Invalid attribute value: {detail}"

end Schemata.Markup
