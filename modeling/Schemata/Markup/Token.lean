import Schemata.Markup.Attributes

/-!
# Tokens of markup

Behind a `<` the next character decides what the markup is and how it ends:

* `!` opens a comment, character data or a document type, each with an end of its own;
* `?` opens a processing instruction, which ends at `?>`;
* `/` opens an end tag, anything else a start tag; both end at the first `>` outside quotes.

Text outside markup has no tokens.

* `splitTag_flatten` - a tag, its `>` and what follows are the text that was split.
-/

namespace Schemata.Markup

/-- A piece of markup. -/
inductive Token where
  | skipped
  /-- A start tag: its text between `<` and `>`. -/
  | startTag (content : List Char)
  /-- A start tag that ends its element: its text between `<` and `/>`. -/
  | emptyTag (content : List Char)
  /-- An end tag: its text between `</` and `>`, less the white space at the end. -/
  | endTag (name : List Char)
  deriving DecidableEq, Repr

/-- The text before the first `>` that `ends` accepts, seeing what stands before it backwards; and
the text behind it. -/
def splitWhere (ends : List Char → Bool) (before : List Char) :
    List Char → Option (List Char × List Char)
  | [] => none
  | c :: rest =>
    if c = '>' ∧ ends before then some (before.reverse, rest)
    else splitWhere ends (c :: before) rest

/-- What stands before a `>` ends a comment: two hyphens, apart from those that open it. -/
def endsComment : List Char → Bool
  | '-' :: '-' :: before => 3 ≤ before.length
  | _ => false

/-- What stands before a `>` ends character data. -/
def endsCData : List Char → Bool
  | ']' :: ']' :: _ => true
  | _ => false

/-- What stands before a `>` ends a processing instruction. -/
def endsInstruction : List Char → Bool
  | '?' :: _ => true
  | _ => false

/-- The text of a document type up to the `>` that balances its `<`, and the text behind it. -/
def splitDoctype (depth : Nat) (before : List Char) : List Char → Option (List Char × List Char)
  | [] => none
  | '<' :: rest => splitDoctype (depth + 1) ('<' :: before) rest
  | '>' :: rest =>
    match depth with
    | 0 => some (before.reverse, rest)
    | depth + 1 => splitDoctype depth ('>' :: before) rest
  | c :: rest => splitDoctype depth (c :: before) rest

/-- The text of a tag up to the first `>` outside quotes, and the text behind it; inside quotes,
`quote` is the open one. -/
def splitTag (quote : Option Char) (before : List Char) : List Char → Option (List Char × List Char)
  | [] => none
  | c :: rest =>
    match quote with
    | some q => splitTag (if c = q then none else some q) (c :: before) rest
    | none =>
      if c = '>' then some (before.reverse, rest)
      else splitTag (if c = '\'' ∨ c = '"' then some c else none) (c :: before) rest

/-- A token, the text behind it, and the position of that text. -/
abbrev Tokenized := Except MarkupFailure (Token × List Char × Nat)

/-- The token of split markup: `build` makes it of the content and the position behind it.  Markup
that does not end fails at the end of the text. -/
def closeToken (position : Nat) (text : List Char) (unclosed : MarkupProblem)
    (split : Option (List Char × List Char))
    (build : List Char → Nat → Except MarkupFailure Token) : Tokenized :=
  match split with
  | none => .error ⟨position + byteLength text, unclosed⟩
  | some (content, rest) => do
    let behind := position + byteLength content + 1
    let token ← build content behind
    return (token, rest, behind)

/-- The content starts with the given text, up to the case of ASCII letters. -/
def opensWith (opening content : List Char) : Bool :=
  (content.take opening.length).map Char.toUpper == opening

/-- The token of a document type. -/
def doctypeToken (content : List Char) (behind : Nat) : Except MarkupFailure Token :=
  if opensWith "!DOCTYPE".toList content then
    if (content.drop 8).all isSpace then .error ⟨behind, .doctypeNameMissing⟩ else .ok .skipped
  else .error ⟨behind, .unclosedDoctype⟩

/-- The token of markup behind `<!`. -/
def declaration (position : Nat) (text : List Char) : Tokenized :=
  match text.drop 1 with
  | '[' :: _ =>
    closeToken position text .unclosedCData (splitWhere endsCData [] text) fun content behind =>
      if "![CDATA[".toList.isPrefixOf content then .ok .skipped
      else .error ⟨behind, .unclosedCData⟩
  | '-' :: _ =>
    closeToken position text .unclosedComment (splitWhere endsComment [] text)
      fun content behind =>
        if "!--".toList.isPrefixOf content then .ok .skipped
        else .error ⟨behind, .unclosedComment⟩
  | 'D' :: _ => closeToken position text .unclosedDoctype (splitDoctype 0 [] text) doctypeToken
  | 'd' :: _ => closeToken position text .unclosedDoctype (splitDoctype 0 [] text) doctypeToken
  | _ => .error ⟨position, .unknownMarkup⟩

/-- The token of a processing instruction, which needs two question marks. -/
def instruction (position : Nat) (text : List Char) : Tokenized :=
  closeToken position text .unclosedInstruction (splitWhere endsInstruction [] text)
    fun content behind =>
      if 2 ≤ content.length then .ok .skipped else .error ⟨behind, .unclosedInstruction⟩

/-- The name in an end tag: its content without the white space at the end, unless there is nothing
but white space. -/
def endName (content : List Char) : List Char :=
  let trimmed := (content.reverse.dropWhile isSpace).reverse
  if trimmed.isEmpty then content else trimmed

/-- The token of an end tag. -/
def endTag (position : Nat) (text : List Char) : Tokenized :=
  closeToken position text .unclosedTag (splitTag none [] text) fun content _ =>
    .ok (.endTag (endName (content.drop 1)))

/-- The token of a start tag. -/
def startTag (position : Nat) (text : List Char) : Tokenized :=
  closeToken position text .unclosedTag (splitTag none [] text) fun content _ =>
    if content.getLast? = some '/' then .ok (.emptyTag content.dropLast)
    else .ok (.startTag content)

/-- The token of the markup whose `<` stands just before the text. -/
def markup (position : Nat) (text : List Char) : Tokenized :=
  match text with
  | '!' :: _ => declaration position text
  | '?' :: _ => instruction position text
  | '/' :: _ => endTag position text
  | _ => startTag position text

/-- A tag, its `>` and what follows are the text that was split. -/
theorem splitTag_flatten {quote : Option Char} {before text content rest : List Char}
    (h : splitTag quote before text = some (content, rest)) :
    content ++ '>' :: rest = before.reverse ++ text := by
  induction text generalizing quote before with
  | nil => simp [splitTag] at h
  | cons c text ih =>
    cases quote with
    | some q =>
      have := ih h
      simpa using this
    | none =>
      rw [splitTag] at h
      by_cases hc : c = '>'
      · simp only [hc, if_true, Option.some.injEq, Prod.mk.injEq] at h
        rw [hc, ← h.1, ← h.2]
      · simp only [hc, if_false] at h
        have := ih h
        simpa using this

end Schemata.Markup
