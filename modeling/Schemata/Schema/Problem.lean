import Schemata.Markup.Event
import Schemata.Model.Keyword

/-!
# What can be wrong with a schema document

A document is refused at its first problem: the markup is broken, an attribute says something that
cannot be read, or an element stands where it has no meaning.
-/

namespace Schemata

/-- Why a schema document is refused. -/
inductive SchemaProblem where
  | markup (failure : Markup.MarkupFailure)
  | attributes (problem : Markup.AttributeProblem)
  | keyword (problem : KeywordProblem)
  /-- A keyword of the named collector stands for no choice. -/
  | collectorKeyword (name : String) (problem : KeywordProblem)
  /-- The value of the named attribute is neither true nor false. -/
  | invalidBoolean (value name : String)
  /-- The length of an index part is no number. -/
  | invalidLength (value : String) (problem : Text.NumberProblem)
  /-- An entity or extension stands inside another. -/
  | nested (tag : String)
  /-- A member stands outside entities and extensions. -/
  | outsideEntity (tag : String)
  | outsideReference
  | outsideIndex
  /-- The document ends inside an entity or extension. -/
  | unfinishedEntity
  deriving DecidableEq, Repr

/-- The wording of a schema problem. -/
def SchemaProblem.message : SchemaProblem → String
  | .markup failure => failure.message
  | .attributes problem => problem.message
  | .keyword problem => problem.message
  | .collectorKeyword name problem =>
    let detail := problem.message
    s!"collector '{name}': {detail}"
  | .invalidBoolean value name => s!"invalid boolean '{value}' for '{name}'"
  | .invalidLength value problem =>
    let detail := problem.message
    s!"invalid index part length '{value}': {detail}"
  | .nested tag => s!"<{tag}> cannot be nested"
  | .outsideEntity tag => s!"<{tag}> must be inside <entity> or <entity-extension>"
  | .outsideReference => "<mapping> must be inside <reference>"
  | .outsideIndex => "<indexPart> must be inside <index>"
  | .unfinishedEntity => "unexpected end of document inside <entity>"

end Schemata
