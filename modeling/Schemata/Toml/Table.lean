/-!
# TOML values and tables

A table grows key by key.  A key is a path: it leads through tables, which come into being on the
way, and the last part gets the value.  How a table came into being decides what may still be done
to it: a table with a header of its own is not entered by a dotted key from elsewhere, and a table
made by dotted keys gets no header.

* `lookup_put_self`, `lookup_put_other` - a key that is put has its value, and the others keep
  theirs;
* `put_twice` - a key gets one value only.
-/

namespace Schemata

/-- How a table came into being. -/
inductive TableOrigin where
  /-- By its own header, or as the document itself. -/
  | header
  /-- As a part of the header of another table. -/
  | implied
  | dotted
  deriving DecidableEq, Repr

/-- A value of a document. -/
inductive Toml where
  | text (s : String)
  | bool (b : Bool)
  | integer (n : Int)
  /-- A floating-point number, as it is written. -/
  | float (written : String)
  /-- A date, a time or both, as it is written. -/
  | moment (written : String)
  | list (items : List Toml)
  | inline (entries : List (String × Toml))
  | table (origin : TableOrigin) (entries : List (String × Toml))
  /-- A list of tables with headers, the last one first. -/
  | tables (items : List (List (String × Toml)))

namespace Toml

/-- The entries of a table, in the order in which they were made. -/
abbrev Entries := List (String × Toml)

/-- The entries with another value under a key that is there. -/
def replace (key : String) (value : Toml) (entries : Entries) : Entries :=
  entries.map fun entry => if entry.1 = key then (key, value) else entry

/-- Changes the table at the end of a path, given by its origin and entries.  Tables that are
missing on the way come into being; a path leads on through the last table of a list.  Dotted keys
do not enter tables with a header. -/
def edit (dotted : Bool) (change : TableOrigin → Entries → Option Entries) :
    List String → TableOrigin → Entries → Option Entries
  | [], origin, entries => change origin entries
  | key :: path, _, entries =>
    match entries.lookup key with
    | none => do
      let origin := if dotted then .dotted else .implied
      let inner ← edit dotted change path origin []
      return entries ++ [(key, .table origin inner)]
    | some (.table origin inner) =>
      if dotted && origin = .header then none
      else do
        let inner ← edit dotted change path origin inner
        return replace key (.table origin inner) entries
    | some (.tables (last :: others)) => do
      let last ← edit dotted change path .header last
      return replace key (.tables (last :: others)) entries
    | some _ => none

/-- A new key of a table.  Only tables that dotted keys made take keys from a dotted path, and no
others. -/
def put (key : String) (value : Toml) (byPath : Bool) (origin : TableOrigin) (entries : Entries) :
    Option Entries :=
  if (origin = .dotted) ≠ byPath then none
  else if (entries.lookup key).isSome then none
  else some (entries ++ [(key, value)])

/-- A key of a table that gets a header: it must be new, or implied by an earlier header. -/
def openTable (key : String) (entries : Entries) : Option Entries :=
  match entries.lookup key with
  | none => some (entries ++ [(key, .table .header [])])
  | some (.table .implied inner) => some (replace key (.table .header inner) entries)
  | some _ => none

/-- A key of a list of tables that gets one more. -/
def openItem (key : String) (entries : Entries) : Option Entries :=
  match entries.lookup key with
  | none => some (entries ++ [(key, .tables [[]])])
  | some (.tables items) => some (replace key (.tables ([] :: items)) entries)
  | some _ => none

/-- A value assigned to a key path of a table. -/
def assign (path : List String) (value : Toml) (origin : TableOrigin) (entries : Entries) :
    Option Entries :=
  match path.getLast? with
  | none => none
  | some key =>
    let parents := path.dropLast
    edit true (put key value (!parents.isEmpty)) parents origin entries

/-- A key that is put has its value. -/
theorem lookup_put_self {key : String} {value : Toml} {byPath : Bool} {origin : TableOrigin}
    {entries after : Entries} (h : put key value byPath origin entries = some after) :
    after.lookup key = some value := by
  unfold put at h
  split at h
  · cases h
  · split at h
    · cases h
    · rename_i hnew
      cases h
      have hnone : entries.lookup key = none := Option.not_isSome_iff_eq_none.1 hnew
      simp [List.lookup_append, hnone]

/-- Putting a key changes no other key. -/
theorem lookup_put_other {key other : String} {value : Toml} {byPath : Bool} {origin : TableOrigin}
    {entries after : Entries} (hne : other ≠ key)
    (h : put key value byPath origin entries = some after) :
    after.lookup other = entries.lookup other := by
  unfold put at h
  split at h
  · cases h
  · split at h
    · cases h
    · cases h
      have hfar : (other == key) = false := by simpa using hne
      simp [List.lookup_append, List.lookup_cons, hfar]

/-- A key gets one value only. -/
theorem put_twice {key : String} {value : Toml} {byPath : Bool} {origin : TableOrigin}
    {entries : Entries} (h : (entries.lookup key).isSome) :
    put key value byPath origin entries = none := by
  simp [put, h]

end Toml

end Schemata
