import Schemata.Model.DataModel

/-!
# Schema documents

A document holds the entities and extensions of one schema file or of several.  It becomes a data
model by registering every entity and then applying every extension, so that an extension may stand
before the entity it extends.

* `merge_assoc`, `merge_nil` - documents merge like lists;
* `toModel_nil` - an empty document is an empty model.
-/

namespace Schemata

/-- The entities and extensions of schema files. -/
structure Document where
  entities : List Entity := []
  extensions : List Extension := []
  deriving DecidableEq, Repr

namespace Document

/-- Both documents, one behind the other. -/
def merge (a b : Document) : Document :=
  { entities := a.entities ++ b.entities, extensions := a.extensions ++ b.extensions }

/-- The document with everything in it marked as changed, or as unchanged. -/
def markChanged (changed : Bool) (d : Document) : Document :=
  { entities := d.entities.map fun e => { e with changed }
    extensions := d.extensions.map fun x => { x with changed } }

/-- Entities registered one after the other. -/
def registerAll : DataModel → List Entity → Except Failure DataModel
  | m, [] => .ok m
  | m, e :: rest => do
    let n ← m.register e
    registerAll n rest

/-- Extensions applied one after the other. -/
def extendAll : DataModel → List Extension → Except Failure DataModel
  | m, [] => .ok m
  | m, x :: rest => do
    let n ← m.extend x
    extendAll n rest

/-- The data model of a document. -/
def toModel (d : Document) : Except Failure DataModel := do
  let m ← registerAll {} d.entities
  extendAll m d.extensions

/-- Merging with nothing changes nothing. -/
theorem merge_nil (d : Document) : d.merge {} = d := by simp [merge]

/-- Merging is associative. -/
theorem merge_assoc (a b c : Document) : (a.merge b).merge c = a.merge (b.merge c) := by
  simp [merge]

/-- An empty document is an empty model. -/
theorem toModel_nil : ({} : Document).toModel = .ok {} := rfl

end Document

end Schemata
