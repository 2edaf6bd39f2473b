import Schemata.Model.Keyword

/-!
# Indexes

An index lists columns of its entity.  A part names an attribute or a column; the column it means is
known once the part is linked, and until then the declared name stands in for it.

* `same_refl`, `same_symm` - having the same definition is reflexive and symmetric;
* `withType_of_missing` - a blank type is no type.
-/

namespace Schemata

open Text

/-- One column of an index. -/
structure IndexPart where
  /-- The attribute or column that the schema names. -/
  name : String
  sortOrder : Option SortOrder := none
  /-- How many characters of the column count, if limited. -/
  length : Option UInt32 := none
  /-- The column that the name turned out to mean. -/
  linked : Option String := none
  deriving DecidableEq, Repr

namespace IndexPart

/-- The column to write: the linked one, or the declared name. -/
def column (p : IndexPart) : String := p.linked.getD p.name

/-- The direction that holds: ascending unless written otherwise. -/
def direction (p : IndexPart) : SortOrder := p.sortOrder.getD .ascending

/-- What two parts are compared by. -/
def key (p : IndexPart) : String × SortOrder × Option UInt32 := (p.column, p.direction, p.length)

end IndexPart

/-- A table index. -/
structure Index where
  name : String
  unique : Bool := false
  type : Option String := none
  parts : List IndexPart := []
  deriving DecidableEq, Repr

namespace Index

/-- The index with a type, which is kept trimmed and in lower case; a blank type is none. -/
def withType (i : Index) (type : String) : Index :=
  let normal := lowercase (trim type)
  { i with type := if normal.isEmpty then none else some normal }

/-- The index with one more part. -/
def withPart (i : Index) (part : IndexPart) : Index :=
  { i with parts := i.parts ++ [part] }

/-- The index with its parts linked to the given columns, one for each part. -/
def link (i : Index) (columns : List (Option String)) : Index :=
  { i with parts := i.parts.zipWith (fun part column => { part with linked := column }) columns }

/-- Both indexes have the same uniqueness, type and parts. -/
def same (a b : Index) : Bool :=
  a.unique == b.unique && a.type == b.type && a.parts.map (·.key) == b.parts.map (·.key)

/-- Every index has the definition it has. -/
theorem same_refl (i : Index) : i.same i := by simp [same]

/-- Having the same definition is symmetric. -/
theorem same_symm {a b : Index} (h : a.same b) : b.same a := by
  simp only [same, Bool.and_eq_true, beq_iff_eq] at h ⊢
  exact ⟨⟨h.1.1.symm, h.1.2.symm⟩, h.2.symm⟩

/-- Having the same definition is transitive. -/
theorem same_trans {a b c : Index} (hab : a.same b) (hbc : b.same c) : a.same c := by
  simp only [same, Bool.and_eq_true, beq_iff_eq] at hab hbc ⊢
  exact ⟨⟨hab.1.1.trans hbc.1.1, hab.1.2.trans hbc.1.2⟩, hab.2.trans hbc.2⟩

/-- A blank type is no type. -/
theorem withType_of_missing {i : Index} {type : String} (h : isMissing type) :
    (i.withType type).type = none := by
  have : trim type = "" := (isMissing_iff_trim type).1 h
  simp [withType, this, lowercase, lowerFrom]

end Index

end Schemata
