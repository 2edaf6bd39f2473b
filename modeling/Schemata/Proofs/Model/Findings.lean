import Schemata.Proofs.Model.Declaration

/-!
# What validation finds

Validation reads the links of a model: it sees that a link does not hold, not why the schema is
wrong.  What is wrong with a schema, however, can be said of its declarations alone: a name is
blank, a class finds nothing, a mapped attribute does not exist, an index names no column.  This
file says it, fault by fault and with the numbers of the report, and proves that validation after
linking reports these faults and nothing else.

Class names are looked up in the model before it is linked.  Linking replaces the members of every
entity, so the collectors, which are linked last, look their classes up in another model; it answers
alike because linking keeps classes and namespaces.

* `repeated_eq_filter` - what is repeated are the names that occur at an earlier position;
* `Reference.numbers_linkFaults` - the link of a reference fails for a class that finds nothing or
  for a mapped attribute that does not exist;
* `Entity.columnOf?_eq_none_iff` - an index part is not linked exactly when it names neither an
  attribute nor a column;
* `Entity.numbers_faults` - the faults of a linked entity are what is wrong with its declaration;
* `validation_exact` - validation reports what is wrong and nothing else.
-/

namespace Schemata

open Text

/-- The number of a fault, if the fault is there. -/
def numberIf (present : Prop) [Decidable present] (number : Nat) : List Nat :=
  if present then [number] else []

/-- The numbers of what is wrong with an attribute. -/
def Attribute.faultNumbers (a : Attribute) : List Nat :=
  numberIf (trim a.name = "") 420 ++ numberIf (trim a.type = "") 421

/-- The numbers of what is wrong with a reference in a model. -/
def Reference.faultNumbers (m : DataModel) (r : Reference) : List Nat :=
  numberIf (trim r.name = "") 430 ++ numberIf (r.mappings = []) 432 ++
    match m.find? r.foreignClass with
    | none => [431]
    | some foreign =>
      numberIf (∃ p ∈ r.mappings, p.foreignAttribute ∉ foreign.attributes.map (·.name)) 433

/-- The part names neither an attribute nor a column of the entity. -/
def IndexPart.Unknown (e : Entity) (p : IndexPart) : Prop :=
  p.name ∉ e.attributes.map (·.name) ∧ p.name ∉ e.attributes.map (·.column) ∧
    p.name ∉ e.referenceColumns

instance (e : Entity) (p : IndexPart) : Decidable (p.Unknown e) :=
  inferInstanceAs (Decidable (_ ∧ _ ∧ _))

/-- The numbers of what is wrong with an index of an entity. -/
def Index.faultNumbers (e : Entity) (i : Index) : List Nat :=
  numberIf (trim i.name = "") 440 ++ numberIf (i.parts = []) 441 ++
    i.parts.flatMap fun p => numberIf (p.Unknown e) 442

/-- The numbers of what is wrong with a collector in a model. -/
def Collector.faultNumbers (m : DataModel) (c : Collector) : List Nat :=
  numberIf (trim c.name = "") 400 ++ numberIf (m.find? c.kind.foreignClass = none) 401 ++
    match c.kind with
    | .oneToMany foreignClass reference =>
      numberIf (∀ foreign ∈ m.find? foreignClass, reference ∉ foreign.references.map (·.name)) 402
    | .manyToMany _ mappingClass _ => numberIf (m.find? mappingClass = none) 403

/-- The numbers of what is wrong with an entity itself: a column counts each time that it has
occurred before. -/
def Entity.ownNumbers (e : Entity) : List Nat :=
  numberIf (trim e.className = "") 410 ++ numberIf (trim e.table = "") 411 ++
    numberIf (∀ a ∈ e.attributes, a.primaryKey = false) 412 ++
    e.columnNames.zipIdx.flatMap fun p => numberIf (p.1 ∈ e.columnNames.take p.2) 422

/-- The numbers of what is wrong with an entity and its members in a model. -/
def Entity.faultNumbers (m : DataModel) (e : Entity) : List Nat :=
  e.ownNumbers ++ e.attributes.flatMap (·.faultNumbers) ++
    e.references.flatMap (·.faultNumbers m) ++ e.indexes.flatMap (·.faultNumbers e) ++
      e.collectors.flatMap (·.faultNumbers m)

/-- The number of a fault. -/
def Fault.number (f : Fault) : Nat := f.code.number

/-- A number reported under one of two equivalent conditions is reported under the other. -/
theorem numberIf_congr {p q : Prop} [Decidable p] [Decidable q] (h : p ↔ q) (number : Nat) :
    numberIf p number = numberIf q number := by
  simp only [numberIf, h]

/-- A fault that is there where a condition holds has its number there. -/
theorem numbers_when {present : Bool} {p : Prop} [Decidable p] (h : present = true ↔ p)
    (fault : Fault) :
    (Fault.when present fault).map (·.number) = numberIf p fault.number := by
  rw [Fault.when, numberIf]
  by_cases hp : p
  · rw [if_pos (h.mpr hp), if_pos hp]
    rfl
  · rw [if_neg (mt h.mp hp), if_neg hp]
    rfl

/-- What is picked from a list by a condition has one number for each pick. -/
theorem numbers_picked {α : Type} {l : List α} {pick : α → Bool} {p : α → Prop} [DecidablePred p]
    (h : ∀ x ∈ l, pick x = true ↔ p x) (fault : α → Fault) {number : Nat}
    (hnumber : ∀ x, (fault x).number = number) :
    ((l.filter pick).map fault).map (·.number) = l.flatMap fun x => numberIf (p x) number := by
  induction l with
  | nil => rfl
  | cons x rest ih =>
    have hrest := ih fun y hy => h y (List.mem_cons_of_mem _ hy)
    rw [List.filter_cons, List.flatMap_cons, ← hrest, numberIf]
    by_cases hx : p x
    · rw [if_pos ((h x List.mem_cons_self).mpr hx), if_pos hx, List.map_cons, List.map_cons,
        hnumber]
      rfl
    · rw [if_neg (mt (h x List.mem_cons_self).mp hx), if_neg hx]
      rfl

/-- The faults of an attribute are what is wrong with it. -/
theorem Attribute.numbers_faults (a : Attribute) :
    a.faults.map (·.number) = a.faultNumbers := by
  rw [faults, List.map_append, numbers_when (isMissing_iff_trim _),
    numbers_when (isMissing_iff_trim _)]
  rfl

/-- **What is repeated** are the names that occur at an earlier position.  The induction moves the
names that were read from the list to the names before it. -/
theorem repeated_eq_filter {before seen : List String} (names : List String)
    (hseen : ∀ name, name ∈ seen ↔ name ∈ before) :
    repeated seen names =
      ((names.zipIdx before.length).filter fun p =>
        decide (p.1 ∈ (before ++ names).take p.2)).map (·.1) := by
  induction names generalizing before seen with
  | nil => rfl
  | cons name rest ih =>
    have hrest : before ++ name :: rest = (before ++ [name]) ++ rest := by simp
    have htake : (before ++ name :: rest).take before.length = before := List.take_left
    have hlength : before.length + 1 = (before ++ [name]).length := by simp
    rw [List.zipIdx_cons, List.filter_cons, repeated]
    simp only [htake, decide_eq_true_eq]
    by_cases hold : name ∈ before
    · have hseen' : ∀ other, other ∈ seen ↔ other ∈ before ++ [name] := by
        intro other
        rw [hseen other, List.mem_append, List.mem_singleton]
        constructor
        · exact Or.inl
        · rintro (hother | rfl)
          · exact hother
          · exact hold
      rw [if_pos hold, if_pos ((hseen name).mpr hold), List.map_cons, ih hseen', hlength, hrest]
    · have hseen' : ∀ other, other ∈ name :: seen ↔ other ∈ before ++ [name] := by
        intro other
        rw [List.mem_cons, hseen other, List.mem_append, List.mem_singleton, or_comm]
      rw [if_neg hold, if_neg (mt (hseen name).mp hold), ih hseen', hlength, hrest]

/-- A column is reported as 422 at each of its places but the first. -/
theorem numbers_repeated (className : String) (names : List String) :
    ((repeated [] names).map (Fault.duplicateColumn className)).map (·.number) =
      names.zipIdx.flatMap fun p => numberIf (p.1 ∈ names.take p.2) 422 := by
  have hrepeated : (repeated [] names).map (Fault.duplicateColumn className) =
      (names.zipIdx.filter fun p => decide (p.1 ∈ names.take p.2)).map fun p =>
        .duplicateColumn className p.1 := by
    rw [repeated_eq_filter names fun _ => Iff.rfl, List.map_map]
    rfl
  rw [hrepeated]
  exact numbers_picked (fun _ _ => decide_eq_true_iff) _ fun _ => rfl

namespace Reference

/-- A mapped attribute that the foreign entity lacks is reported as the problem of the link. -/
theorem linkColumns_of_unknown (foreignClass : String) {foreign : Entity} {mappings : List Mapping}
    (h : ∃ p ∈ mappings, p.foreignAttribute ∉ foreign.attributes.map (·.name)) :
    ∃ name, linkColumns foreignClass foreign mappings =
      .error (.unknownAttribute foreignClass name) := by
  induction mappings with
  | nil => simp at h
  | cons mapping rest ih =>
    rw [linkColumns]
    cases hfound : foreign.attribute? mapping.foreignAttribute with
    | none => exact ⟨_, rfl⟩
    | some found =>
      have hknown : mapping.foreignAttribute ∈ foreign.attributes.map (·.name) := by
        obtain ⟨hmem, hname⟩ := Lookup.mem_of_find?_key hfound
        exact List.mem_map.mpr ⟨found, hmem, hname⟩
      obtain ⟨p, hp, hunknown⟩ := h
      have hrest : p ∈ rest := by
        rcases List.mem_cons.mp hp with rfl | hrest
        · exact absurd hknown hunknown
        · exact hrest
      obtain ⟨name, hname⟩ := ih ⟨p, hrest, hunknown⟩
      exact ⟨name, by simp only [hname]; rfl⟩

/-- A reference whose mapped attributes all exist is linked. -/
theorem linkColumns_of_known (foreignClass : String) {foreign : Entity} {mappings : List Mapping}
    (h : ∀ p ∈ mappings, p.foreignAttribute ∈ foreign.attributes.map (·.name)) :
    ∃ columns, linkColumns foreignClass foreign mappings = .ok columns := by
  induction mappings with
  | nil => exact ⟨[], rfl⟩
  | cons mapping rest ih =>
    rw [linkColumns]
    cases hfound : foreign.attribute? mapping.foreignAttribute with
    | none => exact absurd (h mapping List.mem_cons_self) (Lookup.find?_key_eq_none.mp hfound)
    | some found =>
      obtain ⟨columns, hcolumns⟩ := ih fun p hp => h p (List.mem_cons_of_mem _ hp)
      exact ⟨_, by simp only [hcolumns]; rfl⟩

/-- **Why a reference is not linked,** read off the declarations. -/
theorem numbers_linkFaults (m : DataModel) (r : Reference) :
    (r.linkIn m).linkFaults.map (·.number) =
      match m.find? r.foreignClass with
      | none => [431]
      | some foreign =>
        numberIf (∃ p ∈ r.mappings, p.foreignAttribute ∉ foreign.attributes.map (·.name)) 433 := by
  rw [linkFaults, linkIn, lookUp]
  cases m.find? r.foreignClass with
  | none => rfl
  | some foreign =>
    by_cases hunknown : ∃ p ∈ r.mappings, p.foreignAttribute ∉ foreign.attributes.map (·.name)
    · obtain ⟨name, hname⟩ := linkColumns_of_unknown r.foreignClass hunknown
      simp only [hname, numberIf, if_pos hunknown]
      rfl
    · have hknown : ∀ p ∈ r.mappings, p.foreignAttribute ∈ foreign.attributes.map (·.name) := by
        intro p hp
        by_contra hmissing
        exact hunknown ⟨p, hp, hmissing⟩
      obtain ⟨columns, hcolumns⟩ := linkColumns_of_known r.foreignClass hknown
      simp only [hcolumns, numberIf, if_neg hunknown]
      rfl

/-- The faults of a linked reference are what is wrong with its declaration. -/
theorem numbers_faults (m : DataModel) (r : Reference) :
    (r.linkIn m).faults.map (·.number) = r.faultNumbers m := by
  have hempty : (r.linkIn m).mappings.isEmpty = true ↔ r.mappings = [] := List.isEmpty_iff
  rw [faults, List.map_append, List.map_append, numbers_when (isMissing_iff_trim _),
    numbers_when hempty, numbers_linkFaults, ← List.append_assoc]
  rfl

end Reference

/-- A name means no column exactly when it is neither an attribute nor a column. -/
theorem Entity.columnOf?_eq_none_iff {e : Entity} {name : String} :
    e.columnOf? name = none ↔
      name ∉ e.attributes.map (·.name) ∧ name ∉ e.attributes.map (·.column) ∧
        name ∉ e.referenceColumns := by
  have hname : e.attribute? name = none ↔ name ∉ e.attributes.map (·.name) :=
    Lookup.find?_key_eq_none
  have hcolumn : e.attributeOfColumn? name = none ↔ name ∉ e.attributes.map (·.column) :=
    Lookup.find?_key_eq_none
  have hreference : e.referenceColumns.find? (· == name) = none ↔ name ∉ e.referenceColumns := by
    rw [List.find?_eq_none]
    constructor
    · intro hnone hmem
      exact hnone name hmem (beq_self_eq_true name)
    · intro hmissing column hcolumn heq
      exact hmissing (beq_iff_eq.mp heq ▸ hcolumn)
  rw [← hname, ← hcolumn, ← hreference, columnOf?]
  cases e.attribute? name <;> cases e.attributeOfColumn? name <;> simp

/-- The faults of a linked index are what is wrong with its declaration. -/
theorem Index.numbers_faults (e : Entity) (i : Index) :
    (e.linkIndex i).faults.map (·.number) = i.faultNumbers e := by
  have hparts : (e.linkIndex i).parts =
      i.parts.map fun p => { p with linked := e.columnOf? p.name } := by
    simp [Entity.linkIndex, link, List.zipWith_map_right, List.zipWith_self]
  have hempty : (e.linkIndex i).parts.isEmpty = true ↔ i.parts = [] := by
    rw [hparts, List.isEmpty_iff, List.map_eq_nil_iff]
  have hunknown : ∀ part ∈ (e.linkIndex i).parts, part.linked.isNone = true ↔ part.Unknown e := by
    intro part hpart
    rw [hparts] at hpart
    obtain ⟨p, _, rfl⟩ := List.mem_map.mp hpart
    rw [Option.isNone_iff_eq_none]
    exact Entity.columnOf?_eq_none_iff
  have hpicked := numbers_picked hunknown (fun part => .indexColumnUnknown i.name part.name)
    fun _ => rfl
  rw [hparts, List.flatMap_map, ← hparts] at hpicked
  rw [faults, List.map_append, List.map_append, numbers_when (isMissing_iff_trim _),
    numbers_when hempty, ← List.append_assoc]
  exact congrArg _ hpicked

namespace Collector

/-- The entity of a class is not linked exactly when the class finds nothing. -/
theorem entityLink_missing (found : Option Entity) (className : String) :
    (!(entityLink found className).isResolved) = true ↔ found = none := by
  cases found <;> simp [entityLink, Resolution.isResolved, Resolution.value?]

/-- A reference is not linked exactly when nothing holds one of its name. -/
theorem referenceLink_missing (holder : Option Entity) (missing : CollectorProblem)
    (reference : String) :
    (!(referenceLink holder missing reference).isResolved) = true ↔
      ∀ foreign ∈ holder, reference ∉ foreign.references.map (·.name) := by
  cases holder with
  | none => simp [referenceLink, Resolution.isResolved, Resolution.value?]
  | some e =>
    have hnone : e.reference? reference = none ↔ reference ∉ e.references.map (·.name) :=
      Lookup.find?_key_eq_none
    rw [referenceLink]
    cases hfound : e.reference? reference with
    | none => simpa [Resolution.isResolved, Resolution.value?] using hnone.mp hfound
    | some r =>
      have hknown : ¬ reference ∉ e.references.map (·.name) := by
        rw [← hnone, hfound]
        exact Option.some_ne_none r
      simpa [Resolution.isResolved, Resolution.value?] using hknown

/-- A one-to-many collector is reported as 402 where its foreign entity lacks the reference it
names, a many-to-many one as 403 where its mapping entity is missing. -/
theorem numbers_routeFaults (m : DataModel) (c : Collector) :
    (c.linkIn m).routeFaults.map (·.number) =
      match c.kind with
      | .oneToMany foreignClass reference =>
        numberIf (∀ foreign ∈ m.find? foreignClass, reference ∉ foreign.references.map (·.name)) 402
      | .manyToMany _ mappingClass _ => numberIf (m.find? mappingClass = none) 403 := by
  obtain ⟨name, kind, binding⟩ := c
  cases kind with
  | oneToMany foreignClass reference => exact numbers_when (referenceLink_missing _ _ _) _
  | manyToMany foreignClass mappingClass reference => exact numbers_when (entityLink_missing _ _) _

/-- The faults of a linked collector are what is wrong with its declaration. -/
theorem numbers_faults (m : DataModel) (c : Collector) :
    (c.linkIn m).faults.map (·.number) = c.faultNumbers m := by
  have hforeign : (!(c.linkIn m).binding.foreign.isResolved) = true ↔
      m.find? c.kind.foreignClass = none := by
    obtain ⟨name, kind, binding⟩ := c
    cases kind with
    | oneToMany => exact entityLink_missing _ _
    | manyToMany => exact entityLink_missing _ _
  rw [faults, List.map_append, List.map_append, numbers_when (isMissing_iff_trim _),
    numbers_when hforeign, numbers_routeFaults, ← List.append_assoc]
  rfl

/-- Linked references change nothing about what is wrong with a collector. -/
theorem faultNumbers_linkReferences (m : DataModel) (c : Collector) :
    c.faultNumbers m.linkReferences = c.faultNumbers m := by
  have hentities : m.linkReferences.entities = m.entities.map (Entity.linkReferences m) := rfl
  have hfind : ∀ className, m.linkReferences.find? className =
      (m.find? className).map (Entity.linkReferences m) :=
    DataModel.find?_of_map hentities (fun _ => rfl) (fun _ => rfl)
  have hnone : ∀ className, m.linkReferences.find? className = none ↔ m.find? className = none := by
    intro className
    rw [hfind, Option.map_eq_none_iff]
  have hnames : ∀ e : Entity,
      (e.linkReferences m).references.map (·.name) = e.references.map (·.name) := by
    intro e
    show (e.references.map (Reference.linkIn m)).map (·.name) = _
    rw [List.map_map]
    rfl
  obtain ⟨name, kind, binding⟩ := c
  cases kind with
  | oneToMany foreignClass reference =>
    have hreference : (∀ foreign ∈ m.linkReferences.find? foreignClass,
        reference ∉ foreign.references.map (·.name)) ↔
        ∀ foreign ∈ m.find? foreignClass, reference ∉ foreign.references.map (·.name) := by
      rw [hfind]
      cases m.find? foreignClass with
      | none => simp
      | some e => simp only [Option.map_some, Option.mem_some_iff, forall_eq', hnames]
    simp only [faultNumbers, numberIf_congr (hnone _), numberIf_congr hreference]
  | manyToMany foreignClass mappingClass reference =>
    simp only [faultNumbers, numberIf_congr (hnone _)]

end Collector

namespace Entity

/-- What an entity's own names are reported for, as numbers. -/
theorem numbers_ownFaults (e : Entity) : e.ownFaults.map (·.number) = e.ownNumbers := by
  have hkey : e.primaryKey.isEmpty = true ↔ ∀ a ∈ e.attributes, a.primaryKey = false := by
    rw [List.isEmpty_iff, primaryKey, List.filter_eq_nil_iff]
    simp only [Bool.not_eq_true]
  rw [ownFaults, List.map_append, List.map_append, List.map_append,
    numbers_when (isMissing_iff_trim _), numbers_when (isMissing_iff_trim _), numbers_when hkey,
    numbers_repeated, ← List.append_assoc, ← List.append_assoc]
  rfl

/-- **The faults of a linked entity** are what is wrong with its declaration. -/
theorem numbers_faults (m : DataModel) (e : Entity) :
    (e.linkedIn m).faults.map (·.number) = e.faultNumbers m := by
  let typed : Entity := { e with references := e.references.map (Reference.linkIn m) }
  have htyped : typed.referenceColumns = e.referenceColumns := by
    simp only [typed, referenceColumns, List.flatMap_map]
    rfl
  have hown : (e.linkedIn m).ownFaults.map (·.number) = e.ownNumbers := by
    rw [numbers_ownFaults, ownNumbers, ownNumbers, columnNames_congr (declared_linkedIn m e)]
    rfl
  have hattributes : ((e.linkedIn m).attributes.flatMap (·.faults)).map (·.number) =
      e.attributes.flatMap (·.faultNumbers) := by
    simp only [List.map_flatMap, Attribute.numbers_faults]
    rfl
  have hreferences : ((e.linkedIn m).references.flatMap (·.faults)).map (·.number) =
      e.references.flatMap (·.faultNumbers m) := by
    show ((e.references.map (Reference.linkIn m)).flatMap (·.faults)).map (·.number) = _
    simp only [List.map_flatMap, List.flatMap_map, Reference.numbers_faults]
  have hindexes : ((e.linkedIn m).indexes.flatMap (·.faults)).map (·.number) =
      e.indexes.flatMap (·.faultNumbers e) := by
    have hsame : ∀ i : Index, i.faultNumbers typed = i.faultNumbers e := by
      intro i
      simp only [Index.faultNumbers, IndexPart.Unknown, htyped]
      rfl
    show ((e.indexes.map typed.linkIndex).flatMap (·.faults)).map (·.number) = _
    simp only [List.map_flatMap, List.flatMap_map, Index.numbers_faults, hsame]
  have hcollectors : ((e.linkedIn m).collectors.flatMap (·.faults)).map (·.number) =
      e.collectors.flatMap (·.faultNumbers m) := by
    show ((e.collectors.map (Collector.linkIn m.linkReferences)).flatMap (·.faults)).map
      (·.number) = _
    simp only [List.map_flatMap, List.flatMap_map, Collector.numbers_faults,
      Collector.faultNumbers_linkReferences]
  rw [faults, List.map_append, List.map_append, List.map_append, List.map_append, hown,
    hattributes, hreferences, hindexes, hcollectors, faultNumbers]
  simp only [List.append_assoc]

end Entity

namespace DataModel

/-- **Validation reports what is wrong and nothing else.**  After linking, a log keeps what it held
and gains one error for each thing that is wrong with a declaration, entity by entity and under its
number; no warning is added.  The model passes exactly when nothing is wrong with any entity. -/
theorem validation_exact (m : DataModel) (log : Log) :
    (m.linkAll.validateInto log).warnings = log.warnings ∧
    (∃ found : List Finding, (m.linkAll.validateInto log).errors = log.errors ++ found ∧
      found.map (·.code.number) = m.entities.flatMap (·.faultNumbers m)) ∧
    (m.linkAll.validate.toResult = .ok () ↔ ∀ e ∈ m.entities, e.faultNumbers m = []) := by
  have hnumbers : m.linkAll.faults.map (·.number) = m.entities.flatMap (·.faultNumbers m) := by
    rw [faults, entities_linkAll, List.flatMap_map, List.map_flatMap]
    simp only [Entity.numbers_faults]
  have hinto : m.linkAll.validateInto log = log.report m.linkAll.faults := by
    rw [validateInto, if_pos (linked_linkAll m)]
  refine ⟨?_, ⟨m.linkAll.faults.map fun f => ⟨f.code, f.message⟩, ?_, ?_⟩, ?_⟩
  · rw [hinto]
    rfl
  · rw [hinto]
    rfl
  · rw [List.map_map, ← hnumbers]
    rfl
  · rw [Log.toResult_eq_ok, validate_linked (linked_linkAll m), ← List.flatMap_eq_nil_iff,
      ← hnumbers]
    simp [Log.hasErrors]

/-- A blank class whose members are all wrong: each is reported, and the repeated column too. -/
example :
    let part : Entity :=
      { id := .ofNat 1
        className := " "
        table := "part"
        attributes := [.plain "id" "INT", .plain "id" ""]
        references := [{ name := "owner", foreignClass := "Person" }]
        indexes := [{ name := "", parts := [{ name := "weight" }] }]
        collectors := [{ name := "uses", kind := .oneToMany "Machine" "part" }] }
    ({ entities := [part] } : DataModel).linkAll.validate.codes =
      [410, 412, 422, 421, 432, 431, 440, 442, 401, 402] := by
  decide

end DataModel

end Schemata
