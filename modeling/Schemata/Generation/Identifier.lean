import Schemata.Model.Entity
import Schemata.Text.Words

/-!
# Identifiers of generated code

Fields, modules and functions of generated code have names in lower case with underscores, types
have names in mixed case.  A name that is a keyword of Rust is marked as raw.

* `fieldName_of_keyword`, `fieldName_of_plain` - the two forms of a field name.
-/

namespace Schemata.Generation

open Text

/-- The words of Rust that are not used as plain names. -/
def keywords : List String :=
  ["as", "async", "await", "break", "const", "continue", "crate", "dyn", "else", "enum", "extern",
    "false", "fn", "for", "gen", "if", "impl", "in", "let", "loop", "match", "mod", "move", "mut",
    "pub", "ref", "return", "static", "struct", "super", "trait", "true", "type", "unsafe", "use",
    "where", "while", "yield"]

/-- The field of a column. -/
def fieldName (name : String) : String :=
  let plain := snake name
  if keywords.contains plain then "r#" ++ plain else plain

/-- The module of an entity. -/
def moduleName (e : Entity) : String := fieldName e.shortName

/-- The type of an entity. -/
def structName (e : Entity) : String := pascal e.shortName

/-- The function of an accessor. -/
def getterName (accessor : String) : String := "get_" ++ snake accessor

/-- A keyword is marked as raw. -/
theorem fieldName_of_keyword {name : String} (h : keywords.contains (snake name)) :
    fieldName name = "r#" ++ snake name := if_pos h

/-- Any other name stands as it is. -/
theorem fieldName_of_plain {name : String} (h : keywords.contains (snake name) = false) :
    fieldName name = snake name :=
  if_neg (by rw [h]; exact Bool.false_ne_true)

end Schemata.Generation
