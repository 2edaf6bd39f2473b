import Schemata.Proofs.Migration.Course
import Schemata.Proofs.Migration.Alteration

/-!
# Plans from nothing

On the way from the empty model, tables are made first, each without foreign keys, and then all
foreign keys are added, one by one.  A database tells foreign keys apart by their names, whatever
tables they belong to; so what matters for a key that is added is which keys have been added before.

* `statements_planTo_empty` - the plan is the tables and then their foreign keys;
* `Catalog.hasConstraint_run_additions` - keys that are added bring their names and no others;
* `nameFree_iff` - every key finds its name free exactly if the names are distinct.
-/

namespace Schemata

/-- The elements of a list have distinct keys exactly if none has the key of one before it. -/
theorem nodup_map_iff_split {α β : Type} {f : α → β} {l : List α} :
    (l.map f).Nodup ↔ ∀ before x later, l = before ++ x :: later → f x ∉ before.map f := by
  constructor
  · rintro hnodup before x later rfl hmem
    rw [List.map_append, List.map_cons, List.nodup_append] at hnodup
    exact hnodup.2.2 (f x) hmem (f x) List.mem_cons_self rfl
  · intro h
    induction l using List.reverseRecOn with
    | nil => exact List.nodup_nil
    | append_singleton l x ih =>
      rw [List.map_append, List.nodup_append]
      refine ⟨ih fun before y later hl => h before y (later ++ [x]) (by simp [hl]), by simp, ?_⟩
      intro k hk other hother heq
      obtain rfl : other = f x := by simpa using hother
      exact h l x [] rfl (heq ▸ hk)

namespace Catalog

/-- Some table has a foreign key of this name. -/
def HasConstraint (c : Catalog) (name : String) : Prop :=
  ∃ table t, c table = some t ∧ ∃ key ∈ t.foreignKeys, key.constraint = name

/-- The table becomes a new one, which has no foreign keys yet. -/
def creation (e : Entity) : String × Statement := (e.table, e.bareCreation)

/-- A foreign key is added to a table. -/
def addition (x : String × ForeignKey) : String × Statement := (x.1, .add (.foreignKey x.2))

variable {c : Catalog} {name : String}

/-- Creating a table leaves all others as they are. -/
theorem execute_creation (e : Entity) (table : String) : c.execute (creation e) table =
    if table = e.table then some (.ofDefinitions e.definitions) else c table := rfl

/-- A new table brings no foreign key. -/
theorem hasConstraint_of_creation {e : Entity} (h : (c.execute (creation e)).HasConstraint name) :
    c.HasConstraint name := by
  obtain ⟨table, t, ht, key, hkey, hname⟩ := h
  rw [execute_creation] at ht
  split at ht
  · obtain rfl := Option.some.inj ht
    rw [Table.ofDefinitions, e.foreignKeys_definitions] at hkey
    cases hkey
  · exact ⟨table, t, ht, key, hkey, hname⟩

/-- Creating tables adds no constraints. -/
theorem hasConstraint_of_creations {es : List Entity}
    (h : (c.run (es.map creation)).HasConstraint name) : c.HasConstraint name := by
  induction es generalizing c with
  | nil => exact h
  | cons e rest ih => exact hasConstraint_of_creation (ih h)

/-- What is made is there, and what was there stays. -/
theorem isSome_run_creations {es : List Entity} {table : String}
    (h : (c table).isSome ∨ ∃ e ∈ es, e.table = table) :
    (c.run (es.map creation) table).isSome := by
  induction es generalizing c with
  | nil => exact h.resolve_right (by simp)
  | cons e rest ih =>
    refine ih ?_
    rw [execute_creation]
    split
    · exact .inl rfl
    · rename_i hne
      refine h.imp_right ?_
      rintro ⟨f, hf, rfl⟩
      rcases List.mem_cons.mp hf with rfl | hrest
      · exact absurd rfl hne
      · exact ⟨f, hrest, rfl⟩

/-- Adding a foreign key alters the table that has it and no other. -/
theorem execute_addition (x : String × ForeignKey) (table : String) :
    c.execute (addition x) table =
      if table = x.1 then (c table).map (·.alter (addition x).2) else c table := rfl

/-- **A key that is added to a table brings its name** and no other. -/
theorem hasConstraint_addition {x : String × ForeignKey} (hx : (c x.1).isSome) :
    (c.execute (addition x)).HasConstraint name ↔
      c.HasConstraint name ∨ x.2.constraint = name := by
  constructor
  · rintro ⟨table, t, ht, key, hkey, hname⟩
    rw [execute_addition] at ht
    split at ht
    · obtain ⟨old, hold, rfl⟩ := Option.map_eq_some_iff.mp ht
      rcases List.mem_append.mp hkey with hkey | hkey
      · exact .inl ⟨table, old, hold, key, hkey, hname⟩
      · exact .inr (List.mem_singleton.mp hkey ▸ hname)
    · exact .inl ⟨table, t, ht, key, hkey, hname⟩
  · rintro (⟨table, t, ht, key, hkey, hname⟩ | hname)
    · by_cases htable : table = x.1
      · refine ⟨table, t.alter (addition x).2, ?_, key, List.mem_append_left _ hkey, hname⟩
        rw [execute_addition, if_pos htable, ht]
        rfl
      · exact ⟨table, t, by rw [execute_addition, if_neg htable, ht], key, hkey, hname⟩
    · obtain ⟨t, ht⟩ := Option.isSome_iff_exists.mp hx
      refine ⟨x.1, t.alter (addition x).2, ?_, x.2, ?_, hname⟩
      · rw [execute_addition, if_pos rfl, ht]
        rfl
      · exact List.mem_append_right _ (List.mem_singleton.mpr rfl)

/-- **Keys that are added bring their names** and no others. -/
theorem hasConstraint_run_additions {keys : List (String × ForeignKey)}
    (hkeys : ∀ x ∈ keys, (c x.1).isSome) :
    (c.run (keys.map addition)).HasConstraint name ↔
      c.HasConstraint name ∨ name ∈ keys.map (·.2.constraint) := by
  induction keys generalizing c with
  | nil => simp [run]
  | cons x rest ih =>
    have hrest : ∀ y ∈ rest, (c.execute (addition x) y.1).isSome := by
      intro y hy
      have hthere := hkeys y (List.mem_cons_of_mem x hy)
      rw [execute_addition]
      split
      · rwa [Option.isSome_map]
      · exact hthere
    refine (ih hrest).trans ?_
    rw [hasConstraint_addition (hkeys x List.mem_cons_self), or_assoc, List.map_cons,
      List.mem_cons, eq_comm]

end Catalog

namespace DataModel

open Catalog (creation addition)

/-- The foreign keys of all tables, each with its table, in dependency order. -/
def orderedKeys (m : DataModel) : List (String × ForeignKey) :=
  m.dependencyOrder.flatMap fun e => e.linkedReferences.map fun r => (e.table, r.foreignKey)

variable {m : DataModel}

/-- **From nothing, all tables are made and then all their foreign keys are added.** -/
theorem statements_planTo_empty (m : DataModel) :
    (({} : DataModel).planTo m).statements =
      m.dependencyOrder.map creation ++ m.orderedKeys.map addition := by
  have hmigrations : ({} : DataModel).migrations m = m.dependencyOrder.map fun e =>
      { table := e.table, change := .create, difference := .created e } := rfl
  have hstep : ∀ step, ({} : DataModel).stepStatements m step =
      m.dependencyOrder.flatMap fun e => (TableDifference.created e step).map (e.table, ·) := by
    intro step
    rw [stepStatements, hmigrations, List.flatMap_map]
  have hcreate : ({} : DataModel).stepStatements m .createTables =
      m.dependencyOrder.map creation := by
    rw [hstep, List.map_eq_flatMap]
    rfl
  have hadd : ({} : DataModel).stepStatements m .addForeignKeys = m.orderedKeys.map addition := by
    simp only [hstep, orderedKeys, List.map_flatMap, TableDifference.created, List.map_map]
    rfl
  have hquiet : ∀ step, step ≠ .createTables → step ≠ .addForeignKeys →
      ({} : DataModel).stepStatements m step = [] := by
    intro step hne hne'
    rw [hstep]
    cases step <;> simp_all [TableDifference.created]
  simp [statements_planTo, Step.all, hcreate, hadd, hquiet]

/-- Among the tables with some of their foreign keys, the names are those of these keys. -/
theorem hasConstraint_run_initial {keys : List (String × ForeignKey)}
    (hkeys : ∀ x ∈ keys, x ∈ m.orderedKeys) {name : String} :
    ((Catalog.ofModel {}).run
        (m.dependencyOrder.map creation ++ keys.map addition)).HasConstraint name ↔
      name ∈ keys.map (·.2.constraint) := by
  have hnone : ¬ (Catalog.ofModel {}).HasConstraint name := by
    rintro ⟨_, _, ht, _⟩
    cases ht
  have hthere : ∀ x ∈ keys,
      ((Catalog.ofModel {}).run (m.dependencyOrder.map creation) x.1).isSome := by
    intro x hx
    obtain ⟨e, he, hmem⟩ := List.mem_flatMap.mp (hkeys x hx)
    obtain ⟨r, _, rfl⟩ := List.mem_map.mp hmem
    exact Catalog.isSome_run_creations (.inr ⟨e, he, rfl⟩)
  rw [Catalog.run, List.foldl_append]
  refine (Catalog.hasConstraint_run_additions hthere).trans (or_iff_right ?_)
  exact fun h => hnone (Catalog.hasConstraint_of_creations h)

/-- **Every key finds its name free exactly if the names are distinct.** -/
theorem nameFree_iff (m : DataModel) :
    (∀ before table key later,
      (({} : DataModel).planTo m).statements =
        before ++ (table, .add (.foreignKey key)) :: later →
      ¬ ((Catalog.ofModel {}).run before).HasConstraint key.constraint) ↔
    (m.orderedKeys.map (·.2.constraint)).Nodup := by
  rw [statements_planTo_empty, nodup_map_iff_split]
  constructor
  · rintro h before ⟨table, key⟩ later hkeys hname
    have hmem : ∀ y ∈ before, y ∈ m.orderedKeys := fun y hy =>
      hkeys ▸ List.mem_append_left _ hy
    refine h (m.dependencyOrder.map creation ++ before.map addition) table key
      (later.map addition) ?_ ((hasConstraint_run_initial hmem).mpr hname)
    simp [hkeys, addition]
  · intro h before table key later hplan hname
    -- A key is added behind all tables, so what comes before it are these and some of the keys.
    obtain ⟨added, rfl, hrest⟩ : ∃ added, before = m.dependencyOrder.map creation ++ added ∧
        m.orderedKeys.map addition = added ++ (table, .add (.foreignKey key)) :: later := by
      rcases List.append_eq_append_iff.mp hplan with hbehind | ⟨made, hmade, hrest⟩
      · exact hbehind
      · cases made with
        | nil => exact ⟨[], by simpa using hmade.symm, hrest.symm⟩
        | cons first others =>
          obtain ⟨rfl, -⟩ := List.cons.inj hrest
          have hmem := hmade ▸ List.mem_append_right before List.mem_cons_self
          obtain ⟨e, -, heq⟩ := List.mem_map.mp hmem
          cases (Prod.mk.inj heq).2
    obtain ⟨keys, _, hkeys, rfl, hlater⟩ := List.map_eq_append_iff.mp hrest
    obtain ⟨x, rest, rfl, hx, rfl⟩ := List.map_eq_cons_iff.mp hlater
    obtain ⟨rfl, rfl⟩ : x.1 = table ∧ x.2 = key := by simpa [addition] using hx
    have hmem : ∀ y ∈ keys, y ∈ m.orderedKeys := fun y hy => hkeys ▸ List.mem_append_left _ hy
    exact h keys x rest hkeys ((hasConstraint_run_initial hmem).mp hname)

end DataModel

end Schemata
