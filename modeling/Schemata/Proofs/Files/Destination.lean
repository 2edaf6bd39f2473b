import Mathlib.Data.List.Basic
import Schemata.Files.Disk

/-!
# Where paths lead

Following a path can fail, but where it succeeds the names of the path alone decide where it leads.
A relative path leads to the same place below its base as its names do, so that different names
below the same base lead to different places.

* `locate_eq_ok` - a path leads to its destination or nowhere;
* `destination_join` - proper names below a base are appended to where the base leads.
-/

namespace Schemata

namespace Path

/-- Every path has a segment, if only an empty one. -/
theorem segmentsOf_ne_nil (cs : List Char) : segmentsOf cs ≠ [] := by
  cases cs with
  | nil => simp [segmentsOf]
  | cons c cs =>
    rw [segmentsOf]
    split
    · simp
    · split <;> simp

/-- A slash ends a segment. -/
theorem segmentsOf_append (cs rest : List Char) :
    segmentsOf (cs ++ '/' :: rest) = segmentsOf cs ++ segmentsOf rest := by
  induction cs with
  | nil => simp [segmentsOf]
  | cons c cs ih =>
    rw [List.cons_append, segmentsOf, segmentsOf, ih]
    split
    · rfl
    · cases hcs : segmentsOf cs with
      | nil => exact absurd hcs (segmentsOf_ne_nil cs)
      | cons first more => rfl

/-- Without a slash there is one segment. -/
theorem segmentsOf_of_not_mem {cs : List Char} (h : '/' ∉ cs) : segmentsOf cs = [cs] := by
  induction cs with
  | nil => rfl
  | cons c cs ih =>
    rw [List.mem_cons, not_or] at h
    rw [segmentsOf, if_neg (Ne.symm h.1), ih h.2]

end Path

namespace Disk

open Schemata.Path

variable {base part path : String}

/-- Where the names of a path lead. -/
def destination (path : String) : Location := (namesOf path).foldl Location.step (start path)

/-- Where names lead on a disk is where they lead at all. -/
theorem follow_eq_ok {d : Disk} {here there : Location} {names : List String}
    (h : d.follow here names = .ok there) : there = names.foldl Location.step here := by
  induction names generalizing here with
  | nil => exact (Except.ok.inj h).symm
  | cons name rest ih =>
    rw [follow] at h
    split at h
    · cases h
    · cases h
    · exact ih h

/-- **A path leads to its destination** or nowhere. -/
theorem locate_eq_ok {d : Disk} {here : Location} (h : d.locate path = .ok here) :
    here = destination path := by
  unfold locate at h
  split at h
  · cases h
  · exact follow_eq_ok h

/-- The names of two texts with a slash between them are those of the one, then those of the
other. -/
theorem namesOf_append_slash (before after : String) :
    namesOf (before ++ "/" ++ after) = namesOf before ++ namesOf after := by
  have hchars : (before ++ "/" ++ after).toList = before.toList ++ '/' :: after.toList := by simp
  rw [namesOf, hchars, segmentsOf_append, List.map_append, List.filter_append]
  rfl

/-- A slash at the end adds no name. -/
theorem namesOf_slash (before : String) : namesOf (before ++ "/") = namesOf before := by
  have hnames := namesOf_append_slash before ""
  rwa [String.append_empty, show namesOf "" = [] from rfl, List.append_nil] at hnames

/-- A path that ends with a slash has something before it, or nothing. -/
theorem exists_of_endsWithSlash (h : endsWithSlash path = true) :
    ∃ before, path = before ++ "/" := by
  rw [endsWithSlash, beq_iff_eq] at h
  obtain ⟨before, hbefore⟩ := List.getLast?_eq_some_iff.mp h
  exact ⟨String.ofList before, String.toList_inj.mp (by simp [hbefore])⟩

/-- **The names of a relative path below a base.** -/
theorem namesOf_join (h : isAbsolute part = false) :
    namesOf (join base part) = namesOf base ++ namesOf part := by
  rw [join, if_neg (by simp [h])]
  split
  · rename_i hbase
    rcases Bool.or_eq_true_iff.mp hbase with hempty | hslash
    · obtain rfl : base = "" := by simpa using hempty
      rw [String.empty_append]
      rfl
    · obtain ⟨before, rfl⟩ := exists_of_endsWithSlash hslash
      rw [namesOf_append_slash, namesOf_slash]
  · exact namesOf_append_slash base part

/-- Where a path begins is decided by its front. -/
theorem start_append (h : path ≠ "") (after : String) : start (path ++ after) = start path := by
  have hchars : path.toList ≠ [] := by simpa using h
  rw [start, start, isAbsolute, isAbsolute, String.toList_append,
    List.head?_append_of_ne_nil _ hchars]

/-- A relative part begins where its base does. -/
theorem start_join (h : isAbsolute part = false) : start (join base part) = start base := by
  rw [join, if_neg (by simp [h])]
  by_cases hbase : base = ""
  · subst hbase
    simp [start, h]
    decide
  · split
    · exact start_append hbase part
    · rw [String.append_assoc]
      exact start_append hbase _

/-- The name stands for something in a directory, not for the directory itself or another one. -/
structure IsProper (name : String) : Prop where
  nonempty : name ≠ ""
  not_here : name ≠ "."
  not_above : name ≠ ".."
  whole : '/' ∉ name.toList

instance (name : String) : Decidable (IsProper name) :=
  decidable_of_iff (name ≠ "" ∧ name ≠ "." ∧ name ≠ ".." ∧ '/' ∉ name.toList)
    ⟨fun ⟨full, here, above, whole⟩ => ⟨full, here, above, whole⟩,
      fun ⟨full, here, above, whole⟩ => ⟨full, here, above, whole⟩⟩

/-- A name with an ending of three characters or more is proper. -/
theorem isProper_append {stem ending : String} (hstem : '/' ∉ stem.toList)
    (hending : '/' ∉ ending.toList) (hlong : 2 < ending.length) : IsProper (stem ++ ending) := by
  have hlength : 2 < (stem ++ ending).length := by
    rw [String.length_append]
    omega
  refine ⟨?_, ?_, ?_, by simp [hstem, hending]⟩ <;>
    exact fun h => absurd (h ▸ hlength) (by decide)

variable {names : List String}

/-- Proper names lead downwards, one by one. -/
theorem foldl_step_proper (h : ∀ name ∈ names, IsProper name) (here : Location) :
    names.foldl Location.step here = here ++ names := by
  induction names generalizing here with
  | nil => simp
  | cons name rest ih =>
    rw [List.forall_mem_cons] at h
    rw [List.foldl_cons, Location.step, if_neg h.1.not_here, if_neg h.1.not_above, ih h.2,
      List.append_assoc, List.singleton_append]

/-- A proper name is a path of its own. -/
theorem namesOf_proper {name : String} (h : IsProper name) : namesOf name = [name] := by
  rw [namesOf, segmentsOf_of_not_mem h.whole]
  simp [h.nonempty]

/-- Proper names with slashes between them are the names of the path. -/
theorem namesOf_intercalate (h : ∀ name ∈ names, IsProper name) :
    namesOf (String.intercalate "/" names) = names := by
  induction names with
  | nil => rfl
  | cons name rest ih =>
    rw [List.forall_mem_cons] at h
    cases rest with
    | nil => exact namesOf_proper h.1
    | cons next rest =>
      rw [String.intercalate_cons_cons, namesOf_append_slash, namesOf_proper h.1, ih h.2]
      rfl

/-- Proper names with slashes between them are a relative path. -/
theorem isAbsolute_intercalate (h : ∀ name ∈ names, IsProper name) :
    isAbsolute (String.intercalate "/" names) = false := by
  cases names with
  | nil => decide
  | cons name rest =>
    have hname := h name List.mem_cons_self
    have hfirst : name.toList.head? ≠ some '/' := fun hslash =>
      hname.whole (List.mem_of_head? hslash)
    have hchars : name.toList ≠ [] := by simpa using hname.nonempty
    have hhead : (String.intercalate "/" (name :: rest)).toList.head? = name.toList.head? := by
      cases rest with
      | nil => simp
      | cons next rest =>
        rw [String.intercalate_cons_cons, String.toList_append, String.toList_append,
          List.append_assoc, List.head?_append_of_ne_nil _ hchars]
    rw [isAbsolute, hhead]
    simpa using hfirst

/-- **Proper names below a base** lead to a place of their own. -/
theorem destination_join (h : ∀ name ∈ names, IsProper name) :
    destination (join base (String.intercalate "/" names)) = destination base ++ names := by
  have hrelative := isAbsolute_intercalate h
  rw [destination, namesOf_join hrelative, start_join hrelative, List.foldl_append,
    namesOf_intercalate h, foldl_step_proper h]
  rfl

end Disk

end Schemata
