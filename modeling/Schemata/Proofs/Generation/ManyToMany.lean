import Schemata.Proofs.Generation.Answers
import Schemata.Proofs.Generation.Ways
import Schemata.Proofs.Migration.Outcome

/-!
# The two sides of a many-to-many relation

A many-to-many collector has an accessor for each side of the relation: the collector's own, and the
one that it asks of its foreign entity.  They are found on their own, and only the first one looks
where the named reference points.

The sides agree if there is no way over the mapping entity at all, or if its named reference points
at the foreign entity.  They part where the named reference points elsewhere: then the collector has
no accessor, but the foreign entity still gets one, which takes its keys for keys of the other
entity.  They also part where an earlier collector of the owner has the same name, as its reference
is taken for the way back.

* `linkedQuery_inj` - a query tells by which references it goes;
* `Opposite.mem_answer_comm` - opposite accessors find each other's rows;
* `sidesAgree_iff` - when the sides agree, exactly;
* `college_sides_differ` - a relation whose sides do not agree.
-/

namespace Schemata.Generation

variable {m : DataModel} {owner foreign target mapping mapping' : Entity} {c : Collector}
  {there back : Accessor} {toTarget toSource toTarget' toSource' : Reference}

/-- **Opposite accessors** go over one mapping entity by the same two references.  The one selects
rows of the foreign entity by a key of the owner, the other one rows of the owner by a key of the
foreign entity. -/
def Opposite (m : DataModel) (owner foreign : Entity) (there back : Accessor) : Prop :=
  ∃ mapping ∈ m.entities, ∃ toForeign ∈ mapping.references, ∃ toOwner ∈ mapping.references,
    toForeign.foreignTable? = some foreign.table ∧ toOwner.foreignTable? = some owner.table ∧
    there.query = linkedQuery foreign mapping toForeign toOwner ∧
    there.bindings = toOwner.columns.map (·.foreignColumn) ∧
    back.query = linkedQuery owner mapping toOwner toForeign ∧
    back.bindings = toForeign.columns.map (·.foreignColumn)

/-- Of a row of each entity, the one is found from the other exactly if it finds it. -/
theorem Opposite.mem_answer_comm {V : Type} [DecidableEq V] {tables : Tables V} {near far : Row V}
    (h : Opposite m owner foreign there back) (hnear : near ∈ tables owner.table)
    (hfar : far ∈ tables foreign.table) :
    far ∈ there.answer tables near ↔ near ∈ back.answer tables far := by
  obtain ⟨mapping, _, toForeign, _, toOwner, _, _, _, hthere, hbound, hback, hboundBack⟩ := h
  exact mem_answer_linked_comm hthere hbound hback hboundBack hnear hfar

/-- **The sides agree:** the collector of the owner has an accessor exactly if the foreign entity
has the one that the collector asks for, and then they are opposite. -/
structure SidesAgree (m : DataModel) (owner foreign : Entity) (c : Collector) : Prop where
  both : (∃ there, collectorAccessor? m owner c = some there) ↔
    ∃ back, reciprocalAccessor? m (m.request foreign.id owner c) = some back
  opposite : ∀ there back, collectorAccessor? m owner c = some there →
    reciprocalAccessor? m (m.request foreign.id owner c) = some back →
    Opposite m owner foreign there back

/-- **A query tells by which references it goes,** as they have columns of their own. -/
theorem linkedQuery_inj (h : m.Sound) (hmapping : mapping ∈ m.entities)
    (hmapping' : mapping' ∈ m.entities) (hto : toTarget ∈ mapping.references)
    (hfrom : toSource ∈ mapping.references) (hto' : toTarget' ∈ mapping'.references)
    (hfrom' : toSource' ∈ mapping'.references)
    (hsame : linkedQuery target mapping toTarget toSource =
      linkedQuery target mapping' toTarget' toSource') :
    toTarget = toTarget' ∧ toSource = toSource' := by
  simp only [linkedQuery, Query.linked.injEq, true_and] at hsame
  obtain ⟨htable, hon, hcolumns⟩ := hsame
  obtain rfl := h.eq_of_table hmapping hmapping' htable
  have hnear := congrArg (List.map Prod.fst) hon
  simp only [List.map_map, Function.comp_def] at hnear
  exact ⟨h.eq_of_columns hmapping hto hto' hnear, h.eq_of_columns hmapping hfrom hfrom' hcolumns⟩

/-- Accessors that go one way, there and back, are opposite if the way leads to the foreign
entity. -/
theorem Way.opposite {name : String} {way : Way} {r : Reciprocal} (hmapping : mapping ∈ m.entities)
    (hway : Way.find? mapping name owner.table = some way)
    (hleads : way.named.foreignTable? = some foreign.table) :
    Opposite m owner foreign (way.accessor c foreign mapping)
      (way.accessorBack r owner mapping) := by
  obtain ⟨hnamed, -, hother, -, hpoints⟩ := Way.of_find? hway
  exact ⟨mapping, hmapping, way.named, hnamed, way.other, hother, hleads, hpoints, rfl, rfl, rfl,
    rfl⟩

/-- Accessors that go opposite ways go by the same named reference. -/
theorem Opposite.named_eq (h : m.Sound) (hmapping : mapping ∈ m.entities) {name name' : String}
    {way way' : Way} {r : Reciprocal} (hway : Way.find? mapping name owner.table = some way)
    (hway' : Way.find? mapping name' owner.table = some way')
    (hopposite : Opposite m owner foreign (way.accessor c foreign mapping)
      (way'.accessorBack r owner mapping)) :
    name = name' := by
  obtain ⟨hnamed, hname, hother, -, -⟩ := Way.of_find? hway
  obtain ⟨hnamed', hname', hother', -, -⟩ := Way.of_find? hway'
  obtain ⟨common, hcommon, toForeign, hto, toOwner, hfrom, -, -, hthere, -, hback, -⟩ := hopposite
  have hsame := (linkedQuery_inj h hmapping hcommon hnamed hother hto hfrom hthere).1
  have hsame' := (linkedQuery_inj h hmapping hcommon hother' hnamed' hfrom hto hback).2
  rw [← hname, ← hname', hsame, hsame']

/-- Each side of a collector goes a way over the mapping entity, if there is one: the collector's
own accessor by the reference of the one name, and only to the foreign entity; the other accessor by
the reference of the other name. -/
structure GoesOver (m : DataModel) (owner foreign mapping : Entity) (c : Collector)
    (name name' : String) : Prop where
  mem : mapping ∈ m.entities
  there : collectorAccessor? m owner c =
    ((Way.find? mapping name owner.table).filter fun way =>
      way.named.foreignTable? == some foreign.table).map (·.accessor c foreign mapping)
  back : reciprocalAccessor? m (m.request foreign.id owner c) =
    (Way.find? mapping name' owner.table).map
      (·.accessorBack (m.request foreign.id owner c) owner mapping)

namespace GoesOver

variable {name name' : String}

/-- The collector's own accessor. -/
theorem there_eq_some_iff (h : GoesOver m owner foreign mapping c name name') :
    collectorAccessor? m owner c = some there ↔
      ∃ way, Way.find? mapping name owner.table = some way ∧
        way.named.foreignTable? = some foreign.table ∧ way.accessor c foreign mapping = there := by
  simp only [h.there, Option.map_eq_some_iff, Option.filter_eq_some_iff, beq_iff_eq, and_assoc]

/-- The accessor on the other side. -/
theorem back_eq_some_iff (h : GoesOver m owner foreign mapping c name name') :
    reciprocalAccessor? m (m.request foreign.id owner c) = some back ↔
      ∃ way, Way.find? mapping name' owner.table = some way ∧
        way.accessorBack (m.request foreign.id owner c) owner mapping = back := by
  rw [h.back, Option.map_eq_some_iff]

/-- If both sides go by one reference, they agree exactly if it points at the foreign entity. -/
theorem sidesAgree_iff_of_same (h : GoesOver m owner foreign mapping c name name) :
    SidesAgree m owner foreign c ↔ ∀ way, Way.find? mapping name owner.table = some way →
      way.named.foreignTable? = some foreign.table := by
  constructor
  · intro hagree way hway
    obtain ⟨there, hthere⟩ := hagree.both.mpr ⟨_, h.back_eq_some_iff.mpr ⟨way, hway, rfl⟩⟩
    obtain ⟨way', hway', hleads, -⟩ := h.there_eq_some_iff.mp hthere
    rwa [← Option.some_inj.mp (hway'.symm.trans hway)]
  · intro hleads
    refine ⟨⟨?_, ?_⟩, ?_⟩
    · rintro ⟨there, hthere⟩
      obtain ⟨way, hway, -⟩ := h.there_eq_some_iff.mp hthere
      exact ⟨_, h.back_eq_some_iff.mpr ⟨way, hway, rfl⟩⟩
    · rintro ⟨back, hback⟩
      obtain ⟨way, hway, -⟩ := h.back_eq_some_iff.mp hback
      exact ⟨_, h.there_eq_some_iff.mpr ⟨way, hway, hleads way hway, rfl⟩⟩
    · intro there back hthere hback
      obtain ⟨way, hway, hpoints, rfl⟩ := h.there_eq_some_iff.mp hthere
      obtain ⟨way', hway', rfl⟩ := h.back_eq_some_iff.mp hback
      obtain rfl := Option.some_inj.mp (hway.symm.trans hway')
      exact Way.opposite h.mem hway hpoints

/-- If the sides go by different references, they agree exactly if neither has an accessor. -/
theorem sidesAgree_iff_of_ne (hsound : m.Sound)
    (h : GoesOver m owner foreign mapping c name name') (hne : name' ≠ name) :
    SidesAgree m owner foreign c ↔ Way.find? mapping name' owner.table = none ∧
      ∀ way, Way.find? mapping name owner.table = some way →
        way.named.foreignTable? ≠ some foreign.table := by
  constructor
  · intro hagree
    -- Two accessors would be opposite, and so go by one reference.
    have hnone : ¬ ∃ there, collectorAccessor? m owner c = some there := by
      rintro ⟨there, hthere⟩
      obtain ⟨back, hback⟩ := hagree.both.mp ⟨there, hthere⟩
      have hopposite := hagree.opposite there back hthere hback
      obtain ⟨way, hway, -, rfl⟩ := h.there_eq_some_iff.mp hthere
      obtain ⟨way', hway', rfl⟩ := h.back_eq_some_iff.mp hback
      exact hne (hopposite.named_eq hsound h.mem hway hway').symm
    constructor
    · refine Option.eq_none_iff_forall_ne_some.mpr fun way hway => hnone ?_
      exact hagree.both.mpr ⟨_, h.back_eq_some_iff.mpr ⟨way, hway, rfl⟩⟩
    · intro way hway hleads
      exact hnone ⟨_, h.there_eq_some_iff.mpr ⟨way, hway, hleads, rfl⟩⟩
  · rintro ⟨hnone, hleads⟩
    have hthere : ∀ there, collectorAccessor? m owner c ≠ some there := by
      intro there hthere
      obtain ⟨way, hway, hpoints, -⟩ := h.there_eq_some_iff.mp hthere
      exact hleads way hway hpoints
    have hback : ∀ back, reciprocalAccessor? m (m.request foreign.id owner c) ≠ some back := by
      intro back hback
      obtain ⟨way, hway, -⟩ := h.back_eq_some_iff.mp hback
      rw [hnone] at hway
      cases hway
    exact ⟨iff_of_false (not_exists.mpr hthere) (not_exists.mpr hback),
      fun there _ hfound => absurd hfound (hthere there)⟩

end GoesOver

/-- **When the sides agree.**  If the first collector of the owner with that name goes by the same
reference, they agree exactly if this reference points at the foreign entity, or there is no way.
If it goes by another one, they agree exactly if neither side has an accessor. -/
theorem sidesAgree_iff (h : m.Sound) (howner : owner ∈ m.entities) (hc : c ∈ owner.collectors)
    {foreignClass mappingClass name : String}
    (hkind : c.kind = .manyToMany foreignClass mappingClass name) :
    ∃ foreign mapping first, m.find? foreignClass = some foreign ∧
      m.find? mappingClass = some mapping ∧ owner.collector? c.name = some first ∧
      m.request foreign.id owner c ∈ m.reciprocalsFor foreign.id ∧
      (SidesAgree m owner foreign c ↔
        (first.kind.reference = name → ∀ way, Way.find? mapping name owner.table = some way →
          way.named.foreignTable? = some foreign.table) ∧
        (first.kind.reference ≠ name →
          Way.find? mapping first.kind.reference owner.table = none ∧
          ∀ way, Way.find? mapping name owner.table = some way →
            way.named.foreignTable? ≠ some foreign.table)) := by
  obtain ⟨foreign, mapping, hforeign, hmapping, -⟩ := h.bound_manyToMany howner hc hkind
  obtain ⟨first, hfirst, hback⟩ :=
    reciprocalAccessor?_request h howner hc hkind foreign.id hmapping
  have hasks : m.request foreign.id owner c ∈ m.reciprocalsFor foreign.id := by
    rw [h.finished.reciprocalsFor_eq, DataModel.requestsTo, List.mem_flatMap]
    refine ⟨owner, howner, List.mem_map_of_mem (List.mem_filter.mpr ⟨hc, ?_⟩)⟩
    have hmany : c.kind.isManyToMany = true := by rw [hkind]; rfl
    have hclass : c.kind.foreignClass = foreignClass := by rw [hkind]; rfl
    simp [DataModel.asks, hmany, hclass, hforeign]
  have hgoes : GoesOver m owner foreign mapping c name first.kind.reference :=
    ⟨DataModel.mem_of_find? hmapping,
      collectorAccessor?_manyToMany h howner hc hkind hforeign hmapping, hback⟩
  refine ⟨foreign, mapping, first, hforeign, hmapping, hfirst, hasks, ?_⟩
  by_cases hsame : first.kind.reference = name
  · rw [hsame] at hgoes
    simp only [hsame, hgoes.sidesAgree_iff_of_same, true_implies, ne_eq, not_true_eq_false,
      false_implies, and_true]
  · simp only [hsame, hgoes.sidesAgree_iff_of_ne h hsame, false_implies, ne_eq, not_false_eq_true,
      true_implies, true_and]

namespace College

def room : Entity :=
  { id := .ofNat 1, className := "Room", table := "room", attributes := [.identity] }

def student : Entity :=
  { id := .ofNat 2, className := "Student", table := "student", attributes := [.identity] }

/-- Courses collect their students, and name the wrong reference of enrollments. -/
def course : Entity :=
  { id := .ofNat 3, className := "Course", table := "course", attributes := [.identity],
    collectors := [{ name := "students", kind := .manyToMany "Student" "Enrollment" "room" }] }

def enrollment : Entity :=
  { id := .ofNat 4, className := "Enrollment", table := "enrollment", attributes := [.identity],
    references := [.toKey "course" "Course" "enrollment_course" "course_id",
      .toKey "student" "Student" "enrollment_student" "student_id",
      .toKey "room" "Room" "enrollment_room" "room_id"] }

/-- The college as it is declared. -/
def declared : DataModel := { entities := [room, student, course, enrollment] }

def model : DataModel := declared.linkAll

/-- An entity of the college as it stands in the linked model. -/
def linked (e : Entity) : Entity := e.linkedIn declared

/-- The collector of courses, with what it has found. -/
def students : Collector :=
  { name := "students"
    kind := .manyToMany "Student" "Enrollment" "room"
    binding :=
      { foreign := .resolved student.id
        mapping := .resolved enrollment.id
        reference := .resolved ⟨enrollment.id, "room"⟩ } }

/-- The accessor that this collector asks of students. -/
def getCourseStudents : Accessor :=
  { name := "get_course_students"
    summary := "Select the \x60Course\x60 rows linking here through \x60Enrollment\x60 " ++
      "(collector \x60students\x60)."
    bindings := ["id"]
    query := .linked "course" "enrollment" [("course_id", "id")] ["room_id"] }

/-- The model of the college is sound. -/
theorem sound : model.Sound :=
  .of_entities (by decide) (by decide) (by decide) (by decide)

/-- The linked course is one of its entities. -/
theorem course_mem : linked course ∈ model.entities :=
  DataModel.linkedIn_mem_linkAll (by simp [declared])

/-- The students are a collector of the course. -/
theorem students_mem : students ∈ (linked course).collectors := by decide

end College

open College

/-- The students of a course: its only collector of that name goes by the reference to rooms. -/
theorem college_sidesAgree_iff :
    model.Sound ∧ linked course ∈ model.entities ∧ students ∈ (linked course).collectors ∧
    students.kind = .manyToMany "Student" "Enrollment" "room" ∧
    ∃ foreign mapping first, model.find? "Student" = some foreign ∧
      model.find? "Enrollment" = some mapping ∧
      (linked course).collector? students.name = some first ∧
      model.request foreign.id (linked course) students ∈ model.reciprocalsFor foreign.id ∧
      (SidesAgree model (linked course) foreign students ↔
        (first.kind.reference = "room" →
          ∀ way, Way.find? mapping "room" (linked course).table = some way →
            way.named.foreignTable? = some foreign.table) ∧
        (first.kind.reference ≠ "room" →
          Way.find? mapping first.kind.reference (linked course).table = none ∧
          ∀ way, Way.find? mapping "room" (linked course).table = some way →
            way.named.foreignTable? ≠ some foreign.table)) :=
  ⟨sound, course_mem, students_mem, rfl, sidesAgree_iff sound course_mem students_mem rfl⟩

/-- Courses get no accessor for their students, as the reference points at rooms.  Students get one
for their courses all the same, and it looks for the student's key among the rooms. -/
theorem college_sides_differ :
    model.Sound ∧ linked course ∈ model.entities ∧ students ∈ (linked course).collectors ∧
    students.kind = .manyToMany "Student" "Enrollment" "room" ∧
    model.find? "Student" = some (linked student) ∧
    model.request (linked student).id (linked course) students ∈
      model.reciprocalsFor (linked student).id ∧
    collectorAccessor? model (linked course) students = none ∧
    reciprocalAccessor? model (model.request (linked student).id (linked course) students) =
      some getCourseStudents ∧
    getCourseStudents ∈ accessors model (linked student) ∧
    ¬ SidesAgree model (linked course) (linked student) students := by
  have hthere : collectorAccessor? model (linked course) students = none := by decide
  have hback : reciprocalAccessor? model
      (model.request (linked student).id (linked course) students) = some getCourseStudents := by
    decide +kernel
  refine ⟨sound, course_mem, students_mem, rfl, by decide, by decide, hthere, hback,
    by decide +kernel, fun hagree => ?_⟩
  obtain ⟨there, hfound⟩ := hagree.both.mpr ⟨_, hback⟩
  rw [hthere] at hfound
  cases hfound

end Schemata.Generation
