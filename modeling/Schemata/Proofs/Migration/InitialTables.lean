import Schemata.Proofs.Migration.FromNothing
import Schemata.Proofs.Migration.Outcome
import Schemata.Proofs.Model.SharedIdentities

/-!
# The tables of a plan from nothing

The first plan of a model makes its tables, each in a section of its own, and then adds their
foreign keys.  The tables are those of the entities in dependency order, and so the plan lacks a table where
this order loses an entity: where two share an identity that can be ordered.

* `sections_planTo_empty` - the sections of the plan are the tables and then their foreign keys;
* `creations_perm_iff` - every entity gets its table exactly if no two share an identity that can be
  ordered;
* `initial_tables_exact` - which tables are made, and what comes behind them.
-/

namespace Schemata

/-- The statement makes a table. -/
def Statement.creates : Statement → Bool
  | .create _ => true
  | _ => false

/-- The sections that make a table. -/
def Plan.creations (p : Plan) : List Section :=
  p.sections.filter fun s => s.statements.any (·.creates)

namespace Entity

/-- The table of the entity comes into being. -/
def initial (e : Entity) : TableMigration :=
  { table := e.table, change := .create, difference := .created e }

/-- The section that makes the table of the entity. -/
def creationSection (e : Entity) : Section :=
  { table := e.table, change := .create, step := .createTables, statements := [e.bareCreation] }

/-- In the first step every table is created. -/
theorem section?_createTables (e : Entity) :
    e.initial.section? .createTables = some e.creationSection := rfl

/-- Nothing else happens to new tables but that they get their foreign keys. -/
theorem section?_of_quiet (e : Entity) {step : Step} (hcreate : step ≠ .createTables)
    (hadd : step ≠ .addForeignKeys) : e.initial.section? step = none := by
  cases step with
  | createTables => exact absurd rfl hcreate
  | addForeignKeys => exact absurd rfl hadd
  | _ => rfl

/-- The section for foreign keys holds nothing else. -/
theorem eq_add_of_mem_section? {e : Entity} {s : Section}
    (h : e.initial.section? .addForeignKeys = some s) :
    ∀ x ∈ s.statements, ∃ key, x = .add (.foreignKey key) := by
  intro x hx
  unfold TableMigration.section? at h
  split at h
  · cases h
  · obtain rfl := Option.some.inj h
    obtain ⟨r, _, rfl⟩ := List.mem_map.mp hx
    exact ⟨r.foreignKey, rfl⟩

end Entity

namespace DataModel

variable {m : DataModel}

/-- **The sections of the first plan** are those of the tables and then those of their foreign
keys. -/
theorem sections_planTo_empty (m : DataModel) :
    (({} : DataModel).planTo m).sections =
      m.dependencyOrder.map (·.creationSection) ++
        m.dependencyOrder.filterMap (·.initial.section? .addForeignKeys) := by
  have htables : ({} : DataModel).droppedTables m ++ ({} : DataModel).keptTables m =
      m.dependencyOrder.map (·.initial) := rfl
  have hquiet : ∀ step, step ≠ .createTables → step ≠ .addForeignKeys →
      m.dependencyOrder.filterMap (·.initial.section? step) = [] := by
    intro step hcreate hadd
    exact List.filterMap_eq_nil_iff.mpr fun e _ => e.section?_of_quiet hcreate hadd
  have hcreations : m.dependencyOrder.filterMap (·.initial.section? .createTables) =
      m.dependencyOrder.map (·.creationSection) := by
    simp only [Entity.section?_createTables, List.filterMap_eq_map']
  simp only [planTo, htables, Step.all, List.flatMap_cons, List.flatMap_nil, List.filterMap_map,
    Function.comp_def, hcreations]
  simp [hquiet]

/-- The sections that make tables, in the order of the tables. -/
theorem creations_planTo_empty (m : DataModel) :
    (({} : DataModel).planTo m).creations = m.dependencyOrder.map (·.creationSection) := by
  have hcreate : ∀ s ∈ m.dependencyOrder.map (·.creationSection),
      s.statements.any (·.creates) = true := by
    intro s hs
    obtain ⟨e, _, rfl⟩ := List.mem_map.mp hs
    rfl
  have hadd : ∀ s ∈ m.dependencyOrder.filterMap (·.initial.section? .addForeignKeys),
      ¬ s.statements.any (·.creates) = true := by
    intro s hs hcreates
    obtain ⟨e, _, hsection⟩ := List.mem_filterMap.mp hs
    obtain ⟨x, hx, hxcreates⟩ := List.any_eq_true.mp hcreates
    obtain ⟨key, rfl⟩ := Entity.eq_add_of_mem_section? hsection x hx
    cases hxcreates
  rw [Plan.creations, sections_planTo_empty, List.filter_append, List.filter_eq_self.mpr hcreate,
    List.filter_eq_nil_iff.mpr hadd, List.append_nil]

/-- No table is made when a foreign key has been added. -/
theorem not_creates_of_mem_later {before later : List (String × Statement)} {table : String}
    {key : ForeignKey}
    (hplan : (({} : DataModel).planTo m).statements =
      before ++ (table, .add (.foreignKey key)) :: later) :
    ∀ x ∈ later, x.2.creates = false := by
  have hsorted : (({} : DataModel).planTo m).statements.Pairwise fun x y =>
      x.2.creates = false → y.2.creates = false := by
    have hadded : ∀ y ∈ m.orderedKeys.map Catalog.addition, y.2.creates = false := by
      intro y hy
      obtain ⟨_, _, rfl⟩ := List.mem_map.mp hy
      rfl
    rw [statements_planTo_empty, List.pairwise_append]
    refine ⟨?_, ?_, fun _ _ y hy _ => hadded y hy⟩
    · refine List.pairwise_map.mpr (List.pairwise_of_forall fun e f hcreates => ?_)
      cases hcreates
    · exact List.pairwise_of_forall_mem_list fun _ _ y hy _ => hadded y hy
  rw [hplan] at hsorted
  exact fun x hx => (List.pairwise_cons.mp (List.pairwise_append.mp hsorted).2.1).1 x hx rfl

/-- The sections of entities with tables of their own differ. -/
theorem eq_of_creationSection (htables : (m.entities.map (·.table)).Nodup) {e f : Entity}
    (he : e ∈ m.entities) (hf : f ∈ m.entities) (heq : e.creationSection = f.creationSection) :
    e = f :=
  List.inj_on_of_nodup_map htables he hf (congrArg (·.table) heq)

/-- An entity gets its table exactly if it is in the order. -/
theorem creationSection_mem_iff (htables : (m.entities.map (·.table)).Nodup) {e : Entity}
    (he : e ∈ m.entities) :
    e.creationSection ∈ (({} : DataModel).planTo m).creations ↔ e ∈ m.dependencyOrder := by
  rw [creations_planTo_empty]
  constructor
  · intro hmem
    obtain ⟨f, hf, heq⟩ := List.mem_map.mp hmem
    rwa [eq_of_creationSection htables he (mem_of_mem_dependencyOrder hf) heq.symm]
  · intro hmem
    exact List.mem_map_of_mem hmem

/-- **Every entity gets its table exactly if no two share an identity that can be ordered.** -/
theorem creations_perm_iff (htables : (m.entities.map (·.table)).Nodup) :
    (({} : DataModel).planTo m).creations.Perm (m.entities.map (·.creationSection)) ↔
      ∀ e ∈ m.entities, ∀ f ∈ m.entities, e.id = f.id → m.Orderable e.id → e = f := by
  rw [← dependencyOrder_perm_iff htables.of_map]
  constructor
  · intro hperm
    refine (List.perm_ext_iff_of_nodup (dependencyOrder_nodup htables.of_map) htables.of_map).mpr
      fun e => ⟨mem_of_mem_dependencyOrder, fun he => ?_⟩
    exact (creationSection_mem_iff htables he).mp (hperm.mem_iff.mpr (List.mem_map_of_mem he))
  · intro hperm
    rw [creations_planTo_empty]
    exact hperm.map _

end DataModel

namespace Gazetteer

/-- A country and a city with the identity of the country. -/
def copied : DataModel :=
  { entities := [
      { id := .ofNat 1, className := "Country", table := "country", attributes := [.identity] },
      { id := .ofNat 1, className := "City", table := "city",
        attributes := [.identity] }] : DataModel }.linkAll

/-- Rivers and mouths that point at each other, and lakes with the identity of the rivers, which
point at mouths too. -/
def tangled : DataModel :=
  { entities := [
      { id := .ofNat 1, className := "River", table := "river", attributes := [.identity],
        references := [.toKey "mouth" "Mouth" "river_mouth" "mouth_id"] },
      { id := .ofNat 2, className := "Mouth", table := "mouth", attributes := [.identity],
        references := [.toKey "river" "River" "mouth_river" "river_id"] },
      { id := .ofNat 1, className := "Lake", table := "lake", attributes := [.identity],
        references := [.toKey "outlet" "Mouth" "lake_outlet" "outlet_id"] }] : DataModel }.linkAll

theorem finished_copied : copied.Finished :=
  ⟨_, .of_entities (by decide) (by decide), rfl⟩

theorem finished_tangled : tangled.Finished :=
  ⟨_, .of_entities (by decide) (by decide), rfl⟩

/-- Everybody waits for somebody else. -/
theorem ordered_tangled : tangled.ordered = [] := by
  decide

end Gazetteer

namespace DataModel

variable {m : DataModel}

/-- **The tables of the first plan, exactly.**  Every registered entity gets its table if and only
if no two share an identity that can be ordered.  In any case no entity gets two tables, nobody else
gets one, of an identity that can be ordered one entity gets its table, and of the other identities
all do.  Behind a foreign key there is no table. -/
theorem initial_tables_exact (hm : m.Finished) :
    ((({} : DataModel).planTo m).creations.Perm (m.entities.map (·.creationSection)) ↔
      ∀ e ∈ m.entities, ∀ f ∈ m.entities, e.id = f.id → m.Orderable e.id → e = f) ∧
    (({} : DataModel).planTo m).creations.Subperm (m.entities.map (·.creationSection)) ∧
    (∀ id, m.Orderable id → ∃! e, e ∈ m.entities ∧ e.id = id ∧
      e.creationSection ∈ (({} : DataModel).planTo m).creations) ∧
    (∀ e ∈ m.entities, ¬ m.Orderable e.id →
      e.creationSection ∈ (({} : DataModel).planTo m).creations) ∧
    (∀ before table key later, (({} : DataModel).planTo m).statements =
      before ++ (table, .add (.foreignKey key)) :: later → ∀ x ∈ later, x.2.creates = false) := by
  have htables := hm.tables_nodup
  refine ⟨creations_perm_iff htables, ?_, ?_, ?_, fun _ _ _ _ => not_creates_of_mem_later⟩
  · rw [creations_planTo_empty]
    have hnodup : m.dependencyOrder.Nodup := dependencyOrder_nodup htables.of_map
    obtain ⟨es, hperm, hsub⟩ := hnodup.subperm fun e he => mem_of_mem_dependencyOrder he
    exact ⟨es.map (·.creationSection), hperm.map _, hsub.map _⟩
  · intro id horderable
    obtain ⟨e, ⟨he, hid⟩, hunique⟩ := existsUnique_of_orderable horderable
    have hmem := mem_of_mem_dependencyOrder he
    refine ⟨e, ⟨hmem, hid, (creationSection_mem_iff htables hmem).mpr he⟩, ?_⟩
    rintro f ⟨hf, hfid, hmade⟩
    exact hunique f ⟨(creationSection_mem_iff htables hf).mp hmade, hfid⟩
  · intro e he hnever
    exact (creationSection_mem_iff htables he).mpr (mem_dependencyOrder_of_not_orderable he hnever)

/-- The lakes get their table, although they have the identity of the rivers: neither can be
ordered. -/
theorem tangled_tables_exact :
    Gazetteer.tangled.Finished ∧
    ¬ (Gazetteer.tangled.entities.map (·.id)).Nodup ∧
    (({} : DataModel).planTo Gazetteer.tangled).creations.Perm
      (Gazetteer.tangled.entities.map (·.creationSection)) := by
  refine ⟨Gazetteer.finished_tangled, by decide, ?_⟩
  refine (initial_tables_exact Gazetteer.finished_tangled).1.mpr fun e _ f _ _ horderable => ?_
  have hplaced := isPlaced_ordered_iff_orderable.mpr horderable
  rw [Gazetteer.ordered_tangled] at hplaced
  cases hplaced

/-- Not every entity gets its table: the city is lost, for its identity is that of the country. -/
theorem copied_city_lost :
    Gazetteer.copied.Finished ∧
    ¬ (({} : DataModel).planTo Gazetteer.copied).creations.Perm
      (Gazetteer.copied.entities.map (·.creationSection)) := by
  refine ⟨Gazetteer.finished_copied, fun hperm => ?_⟩
  have hlength := hperm.length_eq
  rw [creations_planTo_empty, List.length_map, List.length_map] at hlength
  have hone : Gazetteer.copied.dependencyOrder.length = 1 := by decide_cbv
  have htwo : Gazetteer.copied.entities.length = 2 := by decide
  rw [hone, htwo] at hlength
  cases hlength

end DataModel

end Schemata
