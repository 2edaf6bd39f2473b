import Schemata.Text.Lines

/-!
# Comments in generated code

Every generated source file begins with a header, and its items are preceded by documentation lines.

* `docComment_line` - a text of one line gives one documentation line.
-/

namespace Schemata.Generation

open Text

/-- The header of a generated source file. -/
def fileHeader (description : String) : String :=
  s!"//! {description}\n//!\n//! Generated by tablesmith. Do not edit by hand.\n\n"

/-- One documentation line behind a margin; an empty line has no trailing blank. -/
def docLine (margin line : String) : String :=
  if line.isEmpty then margin ++ "///\n" else margin ++ "/// " ++ line ++ "\n"

/-- A text as documentation lines, indented by so many blanks. -/
def docComment (text : String) (indent : Nat) : String :=
  let margin := String.ofList (List.replicate indent ' ')
  String.join ((lines text).map (docLine margin))

/-- A text of one line gives one documentation line. -/
theorem docComment_line {text : String} (h : lines text = [text]) (indent : Nat) :
    docComment text indent = docLine (String.ofList (List.replicate indent ' ')) text := by
  simp [docComment, h]

end Schemata.Generation
