import Schemata.Proofs.Generation.ModelText

/-!
# Relations and their accessors

References, collectors and the many-to-many collectors of other entities that lead here are the
relations of an entity.  They are gone through in that order, and the functions of the generated
source are what comes of it: a relation that is not fully linked leaves a warning, and so does one
whose accessor has a name that an earlier relation has given already.  No relation is passed over,
and no name is declared twice.

* `givenFirst_of_mem`, `mem_of_first` - the accessors that are kept;
* `mem_of_repeated` - the accessors that are not;
* `declaredFunctions_implText` - the functions are those of the accessors that are kept;
* `relation_accounted` - every relation gives a function or a warning;
* `accessor_or_warning` - what this comes to for the functions of an entity.
-/

namespace Schemata.Generation

variable {m : DataModel} {e : Entity}

/-- The functions that a source declares, by name. -/
def declaredFunctions (source : String) : List String :=
  (itemLines source).filterMap fun line =>
    (inside? (itemOpening ++ "fn ") "() -> &'static str \x7b" line).map String.ofList

/-- **The functions of an entity** are those of its accessors. -/
theorem declaredFunctions_implText (m : DataModel) (e : Entity) :
    declaredFunctions (implText m e) = (accessors m e).map (·.name) := by
  have hconstants : ∀ line ∈ constantLines e,
      (inside? (itemOpening ++ "fn ") "() -> &'static str \x7b" line).map String.ofList = none := by
    intro line hline
    have hother : ¬ (itemOpening ++ "fn ").toList <+: line.toList := by
      simp only [constantLines, List.mem_cons, List.not_mem_nil, or_false] at hline
      rcases hline with rfl | rfl | rfl <;> simp [tableLine, listLine, itemOpening]
    rw [inside?_of_not_opened hother, Option.map_none]
  have haccessor (a : Accessor) :
      (inside? (itemOpening ++ "fn ") "() -> &'static str \x7b" a.line).map String.ofList =
        some a.name := by
    have hline : a.line = itemOpening ++ "fn " ++ a.name ++ "() -> &'static str \x7b" := by
      simp only [Accessor.line, String.append_assoc]
    rw [hline, inside?_eq, Option.map_some, String.ofList_toList]
  rw [declaredFunctions, itemLines_implText, List.filterMap_append,
    List.filterMap_eq_nil_iff.mpr hconstants, List.nil_append, List.filterMap_map]
  simp [haccessor]

/-- What an entity declares that may give an accessor. -/
inductive Relation where
  | reference (r : Reference)
  | collector (c : Collector)
  | request (r : Reciprocal)

/-- The relations of an entity, in the order in which they are gone through. -/
def relationsOf (m : DataModel) (e : Entity) : List Relation :=
  e.references.map .reference ++ e.collectors.map .collector ++
    (m.reciprocalsFor e.id).map .request

/-- The accessor that a relation gives. -/
def Relation.accessor? (m : DataModel) (e : Entity) : Relation → Option Accessor
  | .reference r => referenceAccessor? r
  | .collector c => collectorAccessor? m e c
  | .request r => reciprocalAccessor? m r

/-- What is to say about a relation that gives no accessor. -/
def Relation.warning (e : Entity) : Relation → Warning
  | .reference r => .unlinkedReference e.className r.name
  | .collector c => .incompleteCollector e.className c.name
  | .request r => .unusableMapping e.className r.accessor

/-- The accessor of a relation, or the warning instead. -/
def Relation.outcome (m : DataModel) (e : Entity) (relation : Relation) :
    Except Warning Accessor :=
  match relation.accessor? m e with
  | some accessor => .ok accessor
  | none => .error (relation.warning e)

/-- Each relation of an entity has its outcome, in the order of the relations. -/
theorem relations_eq (m : DataModel) (e : Entity) :
    relations m e = (relationsOf m e).map (·.outcome m e) := by
  simp only [relations, relationsOf, List.map_append, List.map_map]
  rfl

/-- The accessors of an entity are those its relations give, in their order. -/
theorem accessorsOf_eq (m : DataModel) (e : Entity) :
    accessorsOf (relations m e) = (relationsOf m e).filterMap (·.accessor? m e) := by
  rw [relations_eq, accessorsOf, List.filterMap_map]
  congr
  funext relation
  rw [Function.comp_apply, Relation.outcome]
  cases relation.accessor? m e <;> rfl

section Firsts

variable {α : Type} {give : α → Option Accessor} {items before after : List α} {item : α}
  {taken : List String} {a : Accessor}

/-- An accessor whose name is taken is put aside. -/
theorem firsts_cons_of_mem (h : a.name ∈ taken) (rest : List Accessor) :
    firsts taken (a :: rest) = ((firsts taken rest).1, a :: (firsts taken rest).2) := by
  rw [firsts, if_pos (List.contains_iff_mem.mpr h)]

/-- An accessor whose name is free is kept and takes it. -/
theorem firsts_cons_of_not_mem (h : a.name ∉ taken) (rest : List Accessor) :
    firsts taken (a :: rest) =
      (a :: (firsts (a.name :: taken) rest).1, (firsts (a.name :: taken) rest).2) := by
  rw [firsts, if_neg (mt List.contains_iff_mem.mp h)]

/-- The accessor is given by an item, and no earlier item gives its name. -/
def GivenFirst (give : α → Option Accessor) (items : List α) (a : Accessor) : Prop :=
  ∃ before item after, items = before ++ item :: after ∧ give item = some a ∧
    ∀ earlier ∈ before, ∀ b, give earlier = some b → b.name ≠ a.name

/-- An accessor given first remains so behind an item that does not give its name. -/
theorem GivenFirst.cons (h : GivenFirst give items a)
    (hfirst : ∀ b, give item = some b → b.name ≠ a.name) : GivenFirst give (item :: items) a := by
  obtain ⟨before, later, after, rfl, hlater, hbefore⟩ := h
  exact ⟨item :: before, later, after, rfl, hlater, List.forall_mem_cons.mpr ⟨hfirst, hbefore⟩⟩

/-- **An accessor that is kept** is given first, under a name that was not taken. -/
theorem givenFirst_of_mem (h : a ∈ (firsts taken (items.filterMap give)).1) :
    a.name ∉ taken ∧ GivenFirst give items a := by
  induction items generalizing taken with
  | nil => cases h
  | cons first items ih =>
    cases hgive : give first with
    | none =>
      rw [List.filterMap_cons_none hgive] at h
      obtain ⟨htaken, hlater⟩ := ih h
      refine ⟨htaken, hlater.cons fun b hb => ?_⟩
      cases hgive.symm.trans hb
    | some b =>
      have hname (hne : b.name ≠ a.name) : ∀ b', give first = some b' → b'.name ≠ a.name := by
        intro b' hb'
        rwa [← Option.some_inj.mp (hgive.symm.trans hb')]
      rw [List.filterMap_cons_some hgive] at h
      by_cases hb : b.name ∈ taken
      · rw [firsts_cons_of_mem hb] at h
        obtain ⟨htaken, hlater⟩ := ih h
        exact ⟨htaken, hlater.cons (hname fun heq => htaken (heq ▸ hb))⟩
      · rw [firsts_cons_of_not_mem hb] at h
        rcases List.mem_cons.mp h with rfl | hrest
        · refine ⟨hb, [], first, items, rfl, hgive, fun earlier hearlier => ?_⟩
          exact absurd hearlier List.not_mem_nil
        · obtain ⟨htaken, hlater⟩ := ih hrest
          rw [List.mem_cons, not_or] at htaken
          exact ⟨htaken.2, hlater.cons (hname (Ne.symm htaken.1))⟩

/-- The names of the accessors that are kept are distinct. -/
theorem nodup_firsts (taken : List String) (as : List Accessor) :
    ((firsts taken as).1.map (·.name)).Nodup := by
  induction as generalizing taken with
  | nil => exact List.nodup_nil
  | cons a as ih =>
    by_cases ha : a.name ∈ taken
    · rw [firsts_cons_of_mem ha]
      exact ih taken
    · rw [firsts_cons_of_not_mem ha, List.map_cons, List.nodup_cons]
      refine ⟨fun hmem => ?_, ih _⟩
      obtain ⟨b, hb, hname⟩ := List.mem_map.mp hmem
      have hb' : b ∈ (firsts (a.name :: taken) (as.filterMap some)).1 := by
        rwa [List.filterMap_some]
      exact (givenFirst_of_mem hb').1 (hname ▸ List.mem_cons_self)

/-- The first item that gives a name has its accessor kept. -/
theorem mem_of_first (hitem : give item = some a) (htaken : a.name ∉ taken)
    (hbefore : ∀ earlier ∈ before, ∀ b, give earlier = some b → b.name ≠ a.name) :
    a ∈ (firsts taken ((before ++ item :: after).filterMap give)).1 := by
  induction before generalizing taken with
  | nil =>
    rw [List.nil_append, List.filterMap_cons_some hitem, firsts_cons_of_not_mem htaken]
    exact List.mem_cons_self
  | cons first before ih =>
    rw [List.forall_mem_cons] at hbefore
    rw [List.cons_append]
    cases hgive : give first with
    | none =>
      rw [List.filterMap_cons_none hgive]
      exact ih htaken hbefore.2
    | some b =>
      rw [List.filterMap_cons_some hgive]
      by_cases hb : b.name ∈ taken
      · rw [firsts_cons_of_mem hb]
        exact ih htaken hbefore.2
      · rw [firsts_cons_of_not_mem hb]
        refine List.mem_cons_of_mem _ (ih ?_ hbefore.2)
        rw [List.mem_cons, not_or]
        exact ⟨(hbefore.1 b hgive).symm, htaken⟩

/-- An item whose name was given before has its accessor among the others. -/
theorem mem_of_repeated (hitem : give item = some a)
    (hbefore : a.name ∈ taken ∨ ∃ earlier ∈ before, ∃ b, give earlier = some b ∧ b.name = a.name) :
    a ∈ (firsts taken ((before ++ item :: after).filterMap give)).2 := by
  induction before generalizing taken with
  | nil =>
    have htaken : a.name ∈ taken := hbefore.resolve_right fun ⟨_, h, _⟩ => (nomatch h)
    rw [List.nil_append, List.filterMap_cons_some hitem, firsts_cons_of_mem htaken]
    exact List.mem_cons_self
  | cons first before ih =>
    rw [List.cons_append]
    simp only [List.exists_mem_cons_iff] at hbefore
    cases hgive : give first with
    | none =>
      rw [List.filterMap_cons_none hgive]
      apply ih
      refine hbefore.imp_right fun h => h.resolve_left ?_
      rintro ⟨b, hb, -⟩
      cases hgive.symm.trans hb
    | some b =>
      rw [List.filterMap_cons_some hgive]
      have hrest : a.name ∈ b.name :: taken ∨
          ∃ earlier ∈ before, ∃ b, give earlier = some b ∧ b.name = a.name := by
        rcases hbefore with htaken | ⟨b', hb', hname⟩ | hlater
        · exact Or.inl (List.mem_cons_of_mem _ htaken)
        · obtain rfl := Option.some_inj.mp (hgive.symm.trans hb')
          exact Or.inl (hname ▸ List.mem_cons_self)
        · exact Or.inr hlater
      by_cases hb : b.name ∈ taken
      · rw [firsts_cons_of_mem hb]
        refine List.mem_cons_of_mem _ (ih (hrest.imp_left fun hmem => ?_))
        rcases List.mem_cons.mp hmem with hname | htaken
        · exact hname ▸ hb
        · exact htaken
      · rw [firsts_cons_of_not_mem hb]
        exact ih hrest

end Firsts

/-- **Every relation gives a function or a warning:** it is not fully linked, or its accessor has a
name that an earlier relation gives, or else its accessor is among those of the entity. -/
theorem relation_accounted {before after : List Relation} {relation : Relation}
    (h : relationsOf m e = before ++ relation :: after) :
    (relation.accessor? m e = none → relation.warning e ∈ accessorWarnings m e) ∧
    ∀ a, relation.accessor? m e = some a →
      ((∃ earlier ∈ before, ∃ b, earlier.accessor? m e = some b ∧ b.name = a.name) →
        .repeatedAccessor e.className a.name ∈ accessorWarnings m e) ∧
      ((∀ earlier ∈ before, ∀ b, earlier.accessor? m e = some b → b.name ≠ a.name) →
        a ∈ accessors m e) := by
  refine ⟨fun hnone => ?_, fun a ha => ⟨fun hearlier => ?_, fun hfirst => ?_⟩⟩
  · have hmem : (.error (relation.warning e) : Except Warning Accessor) ∈ relations m e := by
      rw [relations_eq, h, List.map_append, List.map_cons, Relation.outcome, hnone]
      simp
    exact List.mem_append_left _ (List.mem_filterMap.mpr ⟨_, hmem, rfl⟩)
  · have hother : a ∈ (firsts [] (accessorsOf (relations m e))).2 := by
      rw [accessorsOf_eq, h]
      exact mem_of_repeated ha (Or.inr hearlier)
    exact List.mem_append_right _ (List.mem_map.mpr ⟨a, hother, rfl⟩)
  · rw [accessors, accessorsOf_eq, h]
    exact mem_of_first ha List.not_mem_nil hfirst

/-- The function of an accessor stands in the source. -/
theorem exists_implText_eq {a : Accessor} (h : a ∈ accessors m e) :
    ∃ above below, implText m e = above ++ a.text ++ below := by
  obtain ⟨before, after, hsplit⟩ := List.append_of_mem h
  have hjoin : String.join ((accessors m e).map (·.text)) =
      String.join (before.map (·.text)) ++ a.text ++ String.join (after.map (·.text)) := by
    rw [hsplit, List.map_append, List.map_cons, String.join_append, String.join_cons,
      String.append_assoc]
  obtain ⟨opening, htext⟩ : ∃ opening, implText m e =
      opening ++ String.join ((accessors m e).map (·.text)) ++ "\x7d\n" := ⟨_, rfl⟩
  refine ⟨opening ++ String.join (before.map (·.text)),
    String.join (after.map (·.text)) ++ "\x7d\n", ?_⟩
  rw [htext, hjoin]
  simp only [String.append_assoc]

/-- **The functions of an entity and its warnings** are as many as its relations.  No two functions
have the same name, and the function of a name is that of the first relation that gives the name:
references come before collectors, and these before the requests of other entities. -/
theorem accessor_or_warning (m : DataModel) (e : Entity) :
    (declaredFunctions (implText m e)).length + (accessorWarnings m e).length =
        e.references.length + e.collectors.length + (m.reciprocalsFor e.id).length ∧
      (declaredFunctions (implText m e)).Nodup ∧
      ∀ name ∈ declaredFunctions (implText m e), ∃ a,
        GivenFirst (·.accessor? m e) (relationsOf m e) a ∧ a.name = name ∧
        ∃ above below, implText m e = above ++ a.text ++ below := by
  rw [declaredFunctions_implText]
  refine ⟨?_, nodup_firsts _ _, fun name hname => ?_⟩
  · have hall : (relations m e).length =
        e.references.length + e.collectors.length + (m.reciprocalsFor e.id).length := by
      simp [relations_eq, relationsOf, Nat.add_assoc]
    have hsplit := relations_split (relations m e)
    have hkept := firsts_length [] (accessorsOf (relations m e))
    rw [List.length_map, accessors, accessorWarnings, List.length_append, List.length_map, ← hall]
    omega
  · obtain ⟨a, ha, rfl⟩ := List.mem_map.mp hname
    have hkept := ha
    rw [accessors, accessorsOf_eq] at hkept
    exact ⟨a, (givenFirst_of_mem hkept).2, rfl, exists_implText_eq ha⟩

end Schemata.Generation
