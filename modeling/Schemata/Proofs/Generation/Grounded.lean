import Schemata.Proofs.Generation.Ways
import Schemata.Proofs.Migration.Outcome

/-!
# What accessors name

The SQL of an accessor is text, and nothing in the text says that the names in it mean anything.  In
a sound model they all do: tables are tables of the model, and every column stands where its table
is read.  The documentation says which columns to bind, as many as the text has places for.

Names may contain any character, a question mark included.  A place is a question mark outside of
the marks around names; a mark inside of a name is written twice, so that it leaves the name and
enters it again.

* `hasPlaces_quote` - a name has no place in it;
* `Query.placeholders_sql` - the places in the text of a query;
* `Grounded` - the texts that name only what exists;
* `accessor_grounded` - the text of every accessor of a sound model is one of them.
-/

namespace Schemata.Generation

open Mysql (quote mark quotedChars)

/-- The characters of an SQL text outside of names, from a place inside or outside of one. -/
def outsideNames : Bool → List Char → List Char
  | _, [] => []
  | inside, c :: rest =>
    if c = mark then outsideNames (!inside) rest
    else if inside then outsideNames inside rest
    else c :: outsideNames inside rest

/-- The number of places in an SQL text. -/
def placeholders (sql : String) : Nat := (outsideNames false sql.toList).count '?'

/-- The text has so many places, and ends outside of names. -/
structure HasPlaces (s : String) (n : Nat) : Prop where
  closed : ∀ rest, outsideNames false (s.toList ++ rest) =
    outsideNames false s.toList ++ outsideNames false rest
  count : placeholders s = n

/-- Two texts in a row have the places of both. -/
theorem HasPlaces.append {s t : String} {n k : Nat} (hs : HasPlaces s n) (ht : HasPlaces t k) :
    HasPlaces (s ++ t) (n + k) := by
  constructor
  · intro rest
    rw [String.toList_append, List.append_assoc, hs.closed, ht.closed, hs.closed,
      List.append_assoc]
  · rw [placeholders, String.toList_append, hs.closed, List.count_append]
    exact congrArg₂ (· + ·) hs.count ht.count

/-- Characters outside of names that open none stay outside. -/
theorem outsideNames_of_not_mem {cs : List Char} (h : mark ∉ cs) (rest : List Char) :
    outsideNames false (cs ++ rest) = cs ++ outsideNames false rest := by
  induction cs with
  | nil => rfl
  | cons c cs ih =>
    rw [List.mem_cons, not_or] at h
    rw [List.cons_append, outsideNames, if_neg (Ne.symm h.1), if_neg Bool.false_ne_true, ih h.2]
    rfl

/-- In a text without marks, every question mark is a place. -/
theorem hasPlaces_of_not_mem {s : String} (h : mark ∉ s.toList) :
    HasPlaces s (s.toList.count '?') := by
  have hself : outsideNames false s.toList = s.toList := by
    have hall := outsideNames_of_not_mem h []
    rwa [List.append_nil, outsideNames, List.append_nil] at hall
  constructor
  · intro rest
    rw [outsideNames_of_not_mem h, hself]
  · rw [placeholders, hself]

/-- The characters of a name are inside of it: a mark that is written twice leaves the name and
enters it again. -/
theorem outsideNames_quotedChars (cs rest : List Char) :
    outsideNames true (quotedChars cs ++ rest) = outsideNames true rest := by
  induction cs with
  | nil => rfl
  | cons c cs ih =>
    by_cases hc : c = mark
    · simp [quotedChars, outsideNames, hc, ih]
    · simp [quotedChars, outsideNames, hc, ih]

/-- Nothing of a quoted name is outside of it. -/
theorem outsideNames_quote (name : String) (rest : List Char) :
    outsideNames false ((quote name).toList ++ rest) = outsideNames false rest := by
  have hopen : ∀ cs, outsideNames false (mark :: cs) = outsideNames true cs := by
    simp [outsideNames]
  have hclose : ∀ cs, outsideNames true (mark :: cs) = outsideNames false cs := by
    simp [outsideNames]
  rw [quote, String.toList_ofList, List.cons_append, List.cons_append, hopen, List.append_assoc,
    outsideNames_quotedChars, List.singleton_append, hclose]

/-- **A name has no place in it,** whatever its characters are. -/
theorem hasPlaces_quote (name : String) : HasPlaces (quote name) 0 := by
  have hself : outsideNames false (quote name).toList = [] := by
    have hall := outsideNames_quote name []
    rwa [List.append_nil] at hall
  constructor
  · intro rest
    rw [outsideNames_quote, hself, List.nil_append]
  · rw [placeholders, hself]
    rfl

/-- Conditions that hold together have the places of each of them. -/
theorem hasPlaces_conjunction {conditions : List String} {n : Nat}
    (h : ∀ c ∈ conditions, HasPlaces c n) :
    HasPlaces (conjunction conditions) (conditions.length * n) := by
  induction conditions with
  | nil =>
    rw [conjunction, String.intercalate_nil, List.length_nil, Nat.zero_mul]
    exact hasPlaces_of_not_mem (by decide)
  | cons c rest ih =>
    rw [List.forall_mem_cons] at h
    cases rest with
    | nil =>
      rw [conjunction, String.intercalate_singleton, List.length_singleton, Nat.one_mul]
      exact h.1
    | cons d rest =>
      have hand : HasPlaces " AND " 0 := hasPlaces_of_not_mem (by decide)
      have hplaces := (h.1.append hand).append (ih h.2)
      rw [conjunction, String.intercalate_cons_cons]
      rwa [Nat.add_zero, Nat.add_comm, ← Nat.succ_mul] at hplaces

/-- The columns of a query whose values are bound. -/
def Query.boundColumns : Query → List String
  | .rows _ columns => columns
  | .linked _ _ _ columns => columns

/-- **A query has a place for each column that it binds,** and no other. -/
theorem Query.placeholders_sql (q : Query) : placeholders q.sql = q.boundColumns.length := by
  have hplain : ∀ s : String, mark ∉ s.toList → s.toList.count '?' = 0 → HasPlaces s 0 :=
    fun s hs hcount => hcount ▸ hasPlaces_of_not_mem hs
  have hbound : HasPlaces " = ?" 1 := hasPlaces_of_not_mem (by decide)
  cases q with
  | rows table columns =>
    have hwhere : HasPlaces (conjunction (columns.map fun c => quote c ++ " = ?"))
        ((columns.map fun c => quote c ++ " = ?").length * 1) := by
      refine hasPlaces_conjunction (List.forall_mem_map.mpr fun c _ => ?_)
      exact (hasPlaces_quote c).append hbound
    have hall := (((hplain "SELECT * FROM " (by decide) (by decide)).append
      (hasPlaces_quote table)).append (hplain " WHERE " (by decide) (by decide))).append hwhere
    have hcount := hall.count
    rw [List.length_map, Nat.mul_one] at hcount
    exact hcount.trans (Nat.zero_add _)
  | linked table mapping on columns =>
    have hon : HasPlaces (conjunction (on.map fun pair =>
          "m." ++ quote pair.1 ++ " = t." ++ quote pair.2))
        ((on.map fun pair => "m." ++ quote pair.1 ++ " = t." ++ quote pair.2).length * 0) := by
      refine hasPlaces_conjunction (List.forall_mem_map.mpr fun pair _ => ?_)
      exact (((hplain "m." (by decide) (by decide)).append (hasPlaces_quote pair.1)).append
        (hplain " = t." (by decide) (by decide))).append (hasPlaces_quote pair.2)
    have hwhere : HasPlaces (conjunction (columns.map fun c => "m." ++ quote c ++ " = ?"))
        ((columns.map fun c => "m." ++ quote c ++ " = ?").length * 1) := by
      refine hasPlaces_conjunction (List.forall_mem_map.mpr fun c _ => ?_)
      exact ((hplain "m." (by decide) (by decide)).append (hasPlaces_quote c)).append hbound
    have hall := (((((((hplain "SELECT t.* FROM " (by decide) (by decide)).append
      (hasPlaces_quote table)).append (hplain " t JOIN " (by decide) (by decide))).append
      (hasPlaces_quote mapping)).append (hplain " m ON " (by decide) (by decide))).append
      hon).append (hplain " WHERE " (by decide) (by decide))).append hwhere
    have hcount := hall.count
    rw [List.length_map, Nat.mul_one, List.length_map] at hcount
    exact hcount.trans (by simp [boundColumns])

variable {m : DataModel} {e target mapping : Entity} {a : Accessor} {toTarget toSource : Reference}

/-- **The texts that name only what exists.**  They select rows of an entity by columns of its own,
or rows of an entity that rows of a mapping entity join, by columns of the mapping entity; and no
condition is empty. -/
inductive Grounded (m : DataModel) : String → Prop where
  | rows {source : Entity} {columns : List String} (mem : source ∈ m.entities)
      (own : columns ⊆ source.columnNames) (nonempty : columns ≠ []) :
      Grounded m ("SELECT * FROM " ++ quote source.table ++ " WHERE " ++
        conjunction (columns.map fun c => quote c ++ " = ?"))
  | linked {target mapping : Entity} {on : List (String × String)} {columns : List String}
      (targetMem : target ∈ m.entities) (mappingMem : mapping ∈ m.entities)
      (near : on.map Prod.fst ⊆ mapping.columnNames) (far : on.map Prod.snd ⊆ target.columnNames)
      (joined : on ≠ []) (own : columns ⊆ mapping.columnNames) (nonempty : columns ≠ []) :
      Grounded m ("SELECT t.* FROM " ++ quote target.table ++ " t JOIN " ++ quote mapping.table ++
        " m ON " ++
        conjunction (on.map fun pair => "m." ++ quote pair.1 ++ " = t." ++ quote pair.2) ++
        " WHERE " ++ conjunction (columns.map fun c => "m." ++ quote c ++ " = ?"))

/-- The query that goes over a mapping entity is grounded if the reference to the target points
there. -/
theorem grounded_linkedQuery (h : m.Sound) (htarget : target ∈ m.entities)
    (hmapping : mapping ∈ m.entities) (hto : toTarget ∈ mapping.references)
    (hfrom : toSource ∈ mapping.references) (hpoints : toTarget.foreignTable? = some target.table) :
    Grounded m (linkedQuery target mapping toTarget toSource).sql := by
  have hthere := h.pointsAt_of_table hmapping hto htarget hpoints
  obtain ⟨source, _, hback⟩ := h.pointsAt hmapping hfrom
  refine .linked htarget hmapping ?_ ?_ ?_ ?_ ?_
  · rw [List.map_map]
    exact hthere.columns_subset hto
  · rw [List.map_map]
    exact hthere.foreignColumns_subset
  · exact List.map_eq_nil_iff.not.mpr (h.columns_ne_nil hmapping hto)
  · exact hback.columns_subset hfrom
  · exact h.map_columns_ne_nil hmapping hfrom _

/-- The query of an accessor is grounded, and each column to bind belongs to one of its places. -/
structure Accessor.IsGrounded (m : DataModel) (a : Accessor) : Prop where
  text : Grounded m a.query.sql
  length : a.query.boundColumns.length = a.bindings.length
  nonempty : a.bindings ≠ []

/-- The accessor of a reference reads the rows of the foreign entity. -/
theorem isGrounded_reference (h : m.Sound) (he : e ∈ m.entities) {r : Reference}
    (hr : r ∈ e.references) (ha : referenceAccessor? r = some a) : a.IsGrounded m := by
  obtain ⟨table, htable, hquery, hbindings⟩ := referenceAccessor?_eq_some ha
  obtain ⟨foreign, hforeign, hpoints⟩ := h.pointsAt he hr
  obtain rfl : foreign.table = table := Option.some_inj.mp (hpoints.table.symm.trans htable)
  refine ⟨?_, ?_, hbindings ▸ h.map_columns_ne_nil he hr _⟩
  · rw [hquery]
    exact .rows hforeign hpoints.foreignColumns_subset (h.map_columns_ne_nil he hr _)
  · rw [hquery, hbindings, Query.boundColumns, List.length_map, List.length_map]

/-- An accessor that goes a way over a mapping entity, in either direction. -/
theorem isGrounded_linked (h : m.Sound) (htarget : target ∈ m.entities)
    (hmapping : mapping ∈ m.entities) (hto : toTarget ∈ mapping.references)
    (hfrom : toSource ∈ mapping.references) (hpoints : toTarget.foreignTable? = some target.table)
    (hquery : a.query = linkedQuery target mapping toTarget toSource)
    (hbindings : a.bindings = toSource.columns.map (·.foreignColumn)) : a.IsGrounded m := by
  refine ⟨?_, ?_, hbindings ▸ h.map_columns_ne_nil hmapping hfrom _⟩
  · rw [hquery]
    exact grounded_linkedQuery h htarget hmapping hto hfrom hpoints
  · rw [hquery, hbindings, linkedQuery, Query.boundColumns, List.length_map, List.length_map]

/-- The accessor of a collector reads rows of the foreign entity. -/
theorem isGrounded_collector (h : m.Sound) (he : e ∈ m.entities) {c : Collector}
    (hc : c ∈ e.collectors) (ha : collectorAccessor? m e c = some a) : a.IsGrounded m := by
  cases hkind : c.kind with
  | oneToMany foreignClass name =>
    obtain ⟨foreign, r, hfind, hr, haccessor⟩ := collectorAccessor?_oneToMany h he hc hkind
    obtain rfl : directAccessor c foreign r = a := Option.some_inj.mp (haccessor.symm.trans ha)
    have hforeign := DataModel.mem_of_find? hfind
    have hmem := (Lookup.mem_of_find?_key hr).1
    obtain ⟨_, _, hpoints⟩ := h.pointsAt hforeign hmem
    refine ⟨?_, ?_, h.map_columns_ne_nil hforeign hmem _⟩
    · exact .rows hforeign (hpoints.columns_subset hmem) (h.map_columns_ne_nil hforeign hmem _)
    · rw [directAccessor, Query.boundColumns, List.length_map, List.length_map]
  | manyToMany foreignClass mappingClass name =>
    obtain ⟨foreign, mapping, hforeign, hmapping, -⟩ := h.bound_manyToMany he hc hkind
    rw [collectorAccessor?_manyToMany h he hc hkind hforeign hmapping, Option.map_eq_some_iff] at ha
    obtain ⟨way, hway, rfl⟩ := ha
    rw [Option.filter_eq_some_iff, beq_iff_eq] at hway
    obtain ⟨hnamed, -, hother, -, -⟩ := Way.of_find? hway.1
    exact isGrounded_linked h (DataModel.mem_of_find? hforeign) (DataModel.mem_of_find? hmapping)
      hnamed hother hway.2 rfl rfl

/-- The accessor that another entity asks for reads rows of that entity, over the mapping entity. -/
theorem isGrounded_reciprocal (h : m.Sound) {r : Reciprocal} (hr : r ∈ m.reciprocalsFor e.id)
    (ha : reciprocalAccessor? m r = some a) : a.IsGrounded m := by
  rw [h.finished.reciprocalsFor_eq] at hr
  obtain ⟨owner, howner, hasked⟩ := List.mem_flatMap.mp hr
  obtain ⟨c, hc, rfl⟩ := List.mem_map.mp hasked
  rw [List.mem_filter] at hc
  cases hkind : c.kind with
  | oneToMany foreignClass name =>
    simp [DataModel.asks, hkind, CollectorKind.isManyToMany, CollectorKind.mappingClass?] at hc
  | manyToMany foreignClass mappingClass name =>
    obtain ⟨_, mapping, -, hmapping, -⟩ := h.bound_manyToMany howner hc.1 hkind
    obtain ⟨first, -, haccessor⟩ :=
      reciprocalAccessor?_request h howner hc.1 hkind e.id hmapping
    rw [haccessor, Option.map_eq_some_iff] at ha
    obtain ⟨way, hway, rfl⟩ := ha
    obtain ⟨hnamed, -, hother, -, hpoints⟩ := Way.of_find? hway
    exact isGrounded_linked h howner (DataModel.mem_of_find? hmapping) hother hnamed hpoints rfl rfl

/-- The documentation of an accessor lists the columns to bind if there are any. -/
theorem Accessor.doc_of_ne_nil (h : a.bindings ≠ []) :
    a.doc = a.summary ++ "\n\nBind: " ++ String.intercalate ", " (a.bindings.map shown) := by
  have hwords : (String.intercalate ", " (a.bindings.map shown)).isEmpty = false := by
    obtain ⟨c, rest, hcolumns⟩ := List.exists_cons_of_ne_nil h
    rw [hcolumns, List.map_cons]
    cases rest <;> simp [shown, String.intercalate_cons_cons]
  simp [doc, bindingWords, hwords]

/-- **Accessors name only what exists.**  Whatever the accessor of a sound model is for, its text is
grounded in the model, and its documentation lists columns to bind, as many as the text has
places. -/
theorem accessor_grounded (h : m.Sound) (he : e ∈ m.entities) (ha : a ∈ accessors m e) :
    Grounded m a.query.sql ∧ a.bindings ≠ [] ∧
      a.doc = a.summary ++ "\n\nBind: " ++ String.intercalate ", " (a.bindings.map shown) ∧
      placeholders a.query.sql = a.bindings.length := by
  have hgrounded : a.IsGrounded m := by
    rcases accessor_cases ha with ⟨r, hr, haccessor⟩ | ⟨c, hc, haccessor⟩ | ⟨r, hr, haccessor⟩
    · exact isGrounded_reference h he hr haccessor
    · exact isGrounded_collector h he hc haccessor
    · exact isGrounded_reciprocal h hr haccessor
  exact ⟨hgrounded.text, hgrounded.nonempty, Accessor.doc_of_ne_nil hgrounded.nonempty,
    a.query.placeholders_sql.trans hgrounded.length⟩

namespace Clinic

def ward : Entity :=
  { id := .ofNat 1, className := "Ward", table := "ward", attributes := [.identity] }

/-- Doctors belong to a ward, and collect their shifts and the patients that they treat. -/
def doctor : Entity :=
  { id := .ofNat 2, className := "Doctor", table := "doctor", attributes := [.identity],
    references := [.toKey "ward" "Ward" "doctor_ward" "ward_id"],
    collectors := [{ name := "shifts", kind := .oneToMany "Shift" "doctor" },
      { name := "patients", kind := .manyToMany "Patient" "Treatment" "patient" }] }

def shift : Entity :=
  { id := .ofNat 3, className := "Shift", table := "shift", attributes := [.identity],
    references := [.toKey "doctor" "Doctor" "shift_doctor" "doctor_id"] }

/-- Patients collect the doctors that treat them. -/
def patient : Entity :=
  { id := .ofNat 4, className := "Patient", table := "patient", attributes := [.identity],
    collectors := [{ name := "doctors", kind := .manyToMany "Doctor" "Treatment" "doctor" }] }

def treatment : Entity :=
  { id := .ofNat 5, className := "Treatment", table := "treatment", attributes := [.identity],
    references := [.toKey "doctor" "Doctor" "treatment_doctor" "doctor_id",
      .toKey "patient" "Patient" "treatment_patient" "patient_id"] }

/-- The clinic as it is declared. -/
def declared : DataModel := { entities := [ward, doctor, shift, patient, treatment] }

def model : DataModel := declared.linkAll

/-- Doctors as they stand in the linked model. -/
def linkedDoctor : Entity := doctor.linkedIn declared

/-- What patients ask of doctors. -/
def ofPatients : Accessor :=
  { name := "get_patient_doctors"
    summary := "Select the \x60Patient\x60 rows linking here through \x60Treatment\x60 " ++
      "(collector \x60doctors\x60)."
    bindings := ["id"]
    query := .linked "patient" "treatment" [("patient_id", "id")] ["doctor_id"] }

/-- The model of the clinic is sound. -/
theorem sound : model.Sound :=
  .of_entities (by decide) (by decide) (by decide) (by decide)

/-- The linked doctor is one of its entities. -/
theorem doctor_mem : linkedDoctor ∈ model.entities :=
  DataModel.linkedIn_mem_linkAll (by simp [declared])

/-- The doctor has the accessor that lists patients. -/
theorem ofPatients_mem : ofPatients ∈ accessors model linkedDoctor := by decide

end Clinic

open Clinic

/-- Doctors have an accessor of each sort.  The last one comes from the patients, and is grounded
like the others. -/
theorem clinic_accessor_grounded :
    model.Sound ∧ linkedDoctor ∈ model.entities ∧
    (accessors model linkedDoctor).map (·.query.sql) =
      ["SELECT * FROM \x60ward\x60 WHERE \x60id\x60 = ?",
        "SELECT * FROM \x60shift\x60 WHERE \x60doctor_id\x60 = ?",
        "SELECT t.* FROM \x60patient\x60 t JOIN \x60treatment\x60 m " ++
          "ON m.\x60patient_id\x60 = t.\x60id\x60 WHERE m.\x60doctor_id\x60 = ?",
        "SELECT t.* FROM \x60patient\x60 t JOIN \x60treatment\x60 m " ++
          "ON m.\x60patient_id\x60 = t.\x60id\x60 WHERE m.\x60doctor_id\x60 = ?"] ∧
    ofPatients ∈ accessors model linkedDoctor ∧
    Grounded model ofPatients.query.sql ∧ ofPatients.bindings ≠ [] ∧
      ofPatients.doc = ofPatients.summary ++ "\n\nBind: " ++
        String.intercalate ", " (ofPatients.bindings.map shown) ∧
      placeholders ofPatients.query.sql = ofPatients.bindings.length :=
  ⟨sound, doctor_mem, by decide, ofPatients_mem,
    accessor_grounded sound doctor_mem ofPatients_mem⟩

end Schemata.Generation
