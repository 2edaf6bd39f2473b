import Schemata.Proofs.Migration.KeySafety

/-!
# The order in which tables go away

Tables go away in reverse dependency order, so that a table is dropped after those that point at it.
The order is given up where dependencies lead into a cycle: there, tables go in reverse order of
registration, with the foreign keys of their own model still alive.

* `pair_sublist_planTo` - tables are dropped in reverse dependency order;
* `exists_dropsLate_of_referenced` - who points at a table that is dropped is dropped too late;
* `unreferenced_at_drop_iff` - a table is dropped under a foreign key exactly if another one that
  goes away depends on it, was registered before it, and a cycle can be reached from it.
-/

namespace Schemata

/-- No foreign key of another table points at the table. -/
def Catalog.Unreferenced (c : Catalog) (table : String) : Prop :=
  ∀ owner t, owner ≠ table → c owner = some t → ∀ key ∈ t.foreignKeys, key.foreignTable ≠ table

section

variable {α : Type} {l before later : List α} {x y : α}

/-- Of two members of a list, one stands before the other. -/
theorem pair_sublist_or (hx : x ∈ l) (hy : y ∈ l) (hne : x ≠ y) :
    [x, y].Sublist l ∨ [y, x].Sublist l := by
  obtain ⟨before, later, rfl⟩ := List.append_of_mem hx
  rcases List.mem_append.mp hy with hbefore | hlater
  · have hfirst : [y].Sublist before := List.singleton_sublist.mpr hbefore
    exact .inr (hfirst.append (List.singleton_sublist.mpr List.mem_cons_self))
  · have hrest : y ∈ later := (List.mem_cons.mp hlater).resolve_left (Ne.symm hne)
    have hsecond : [x, y].Sublist (x :: later) := (List.singleton_sublist.mpr hrest).cons_cons x
    exact .inl (hsecond.trans (List.sublist_append_right before _))

/-- What stands behind an element is behind its only place. -/
theorem mem_later_of_pair (hpair : [x, y].Sublist (before ++ x :: later)) (honce : x ∉ before) :
    y ∈ later := by
  obtain ⟨first, second, hsplit, hfirst, hsecond⟩ := List.sublist_append_iff.mp hpair
  cases first with
  | nil =>
    obtain rfl : [x, y] = second := hsplit
    exact List.singleton_sublist.mp (List.cons_sublist_cons.mp hsecond)
  | cons head rest =>
    obtain ⟨rfl, -⟩ := List.cons.inj hsplit
    exact absurd (hfirst.subset List.mem_cons_self) honce

/-- What is ordered before something that occurs once stands before it. -/
theorem mem_before_of_pair (hpair : [y, x].Sublist (before ++ x :: later)) (honce : x ∉ later) :
    y ∈ before := by
  have hreverse : [x, y].Sublist (later.reverse ++ x :: before.reverse) := by
    simpa using hpair.reverse
  exact List.mem_reverse.mp (mem_later_of_pair hreverse (by simpa using honce))

end

namespace DataModel

/-- The table of `x` goes away after that of `y` although it points at it: dependencies lead from
`y` into a cycle, and `x` was registered before it. -/
structure DropsLate (a b : DataModel) (x y : Entity) : Prop where
  gone : b.ofTable? x.table = none
  depends : a.DependsOn x y
  cycle : a.ReachesCycle y
  registered : [x, y].Sublist a.entities

variable {a b : DataModel} {before later : List (String × Statement)} {table : String}

/-- **Tables are dropped in reverse dependency order.** -/
theorem pair_sublist_planTo {x y : Entity} (hx : b.ofTable? x.table = none)
    (hy : b.ofTable? y.table = none) (horder : [x, y].Sublist a.dependencyOrder) :
    [(y.table, Statement.drop), (x.table, Statement.drop)].Sublist (a.planTo b).statements := by
  have hgone : [y, x].Sublist
      (a.dependencyOrder.reverse.filter fun e => (b.ofTable? e.table).isNone) := by
    have hfilter := horder.reverse.filter fun e : Entity => (b.ofTable? e.table).isNone
    simpa [hx, hy] using hfilter
  have hdropped : (a.stepStatements b .dropTables) =
      (a.dependencyOrder.reverse.filter fun e => (b.ofTable? e.table).isNone).map
        (fun e => (e.table, Statement.drop)) := by
    have hkept : (a.keptTables b).flatMap
        (fun t => (t.difference .dropTables).map (t.table, ·)) = [] := by
      refine List.flatMap_eq_nil_iff.mpr fun t ht => ?_
      obtain ⟨e, _, rfl⟩ := List.mem_map.mp ht
      cases a.ofTable? e.table <;> rfl
    rw [stepStatements, migrations, List.flatMap_append, hkept, List.append_nil, droppedTables,
      List.flatMap_map, List.map_eq_flatMap]
    rfl
  have hstep : (a.stepStatements b .dropTables).Sublist (a.planTo b).statements := by
    rw [statements_planTo]
    exact List.sublist_flatten_of_mem (List.mem_map_of_mem (by decide))
  exact (hdropped ▸ hgone.map fun e : Entity => (e.table, Statement.drop)).trans hstep

/-- A table that goes away is about nothing else in the plan. -/
theorem statementsOf_dropped (ha : a.Keyed) (hb : b.Keyed) {x : Entity} (hx : x ∈ a.entities)
    (hgone : b.ofTable? x.table = none) :
    statementsOf x.table (a.planTo b).statements = [.drop] := by
  rw [statementsOf_planTo ha hb]
  simp only [tableDifference, ha.ofTable?_eq_some hx, hgone]
  rfl

/-- A table that is dropped is one of the old model that the new one lacks. -/
theorem exists_of_drop (ha : a.Keyed) (hb : b.Keyed)
    (h : (table, .drop) ∈ (a.planTo b).statements) :
    ∃ y ∈ a.entities, y.table = table ∧ b.ofTable? table = none := by
  have hmem : Statement.drop ∈ a.tableDifference b table .dropTables := (mem_planTo_iff ha hb).mp h
  rcases mem_tableDifference.mp hmem with ⟨_, _, _, hs⟩ | ⟨y, hy, hgone, _⟩ | ⟨_, _, _, _, hs⟩
  · cases hs
  · obtain ⟨hentity, htable⟩ := mem_of_ofTable? hy
    exact ⟨y, hentity, htable, hgone⟩
  · cases hs

/-- No table is dropped twice. -/
theorem drop_once (ha : a.Keyed) (hb : b.Keyed)
    (hplan : (a.planTo b).statements = before ++ (table, .drop) :: later) :
    (table, .drop) ∉ before ∧ (table, .drop) ∉ later := by
  obtain ⟨y, hy, rfl, hgone⟩ := exists_of_drop ha hb (mem_of_split hplan)
  have hown := statementsOf_dropped ha hb hy hgone
  rw [hplan, statementsOf_append, statementsOf_cons_self] at hown
  have hlength := congrArg List.length hown
  simp only [List.length_append, List.length_cons, List.length_nil] at hlength
  constructor
  · intro hdrop
    have hpos := List.length_pos_of_mem (mem_statementsOf.mpr hdrop)
    omega
  · intro hdrop
    have hpos := List.length_pos_of_mem (mem_statementsOf.mpr hdrop)
    omega

/-- An entity depends on another one if one of its references points at the table of the other, and
only then. -/
theorem dependsOn_of_pointsAt (ha : a.Sound) {x y : Entity} (hx : x ∈ a.entities)
    (hy : y ∈ a.entities) (hne : x ≠ y) {r : Reference} (hr : r ∈ x.references)
    (htable : r.foreignKey.foreignTable = y.table) : a.DependsOn x y := by
  obtain ⟨target, htarget, hlinked⟩ := ha.pointsAt hx hr
  obtain rfl := ha.eq_of_table htarget hy (hlinked.foreignKey_table.symm.trans htable)
  obtain ⟨found, hfound, hid⟩ := Option.map_eq_some_iff.mp hlinked.entity
  refine ⟨hy, Entity.mem_dependencies.mpr ⟨fun heq => ?_, r, hr, found, hfound, hid⟩⟩
  exact hne (ha.eq_of_id hy hx heq).symm

/-- Whoever depends on another entity has a foreign key on its table. -/
theorem exists_pointsAt_of_dependsOn (ha : a.Sound) {x y : Entity} (hx : x ∈ a.entities)
    (hdep : a.DependsOn x y) :
    x ≠ y ∧ ∃ r ∈ x.references, r.foreignKey.foreignTable = y.table := by
  obtain ⟨hne, r, hr, target, htarget, hid⟩ := Entity.mem_dependencies.mp hdep.2
  refine ⟨fun heq => hne (heq ▸ rfl), r, hr, ?_⟩
  obtain ⟨foreign, hforeign, hlinked⟩ := ha.pointsAt hx hr
  have hentity := hlinked.entity
  rw [htarget, Option.map_some, hid] at hentity
  obtain rfl := ha.eq_of_id hdep.1 hforeign (Option.some.inj hentity)
  exact hlinked.foreignKey_table

/-- A table that stays has lost its foreign keys to tables that go away before the first of these
goes. -/
theorem gone_of_live (ha : a.Sound) (hb : b.Sound)
    (hplan : (a.planTo b).statements = before ++ (table, .drop) :: later)
    (hgone : b.ofTable? table = none) {x : Entity} (hx : x ∈ a.entities) {r : Reference}
    (hr : r ∈ x.references) (hpoints : r.foreignKey.foreignTable = table)
    (hlive : (x.table, .dropForeignKey r.constraint) ∉ before) : b.ofTable? x.table = none := by
  cases hnew : b.ofTable? x.table with
  | none => rfl
  | some new =>
    exfalso
    have hstays := unchanged_of_not_dropped ha.keyed hb.keyed hplan (show 0 < 2 by decide)
      (ha.keyed.ofTable?_eq_some hx) hnew hlive
    obtain ⟨r', hr', -, hsame⟩ := TableDifference.exists_same_of_unchanged hr hstays
    obtain ⟨foreign, _, hlinked⟩ := ha.pointsAt hx hr
    obtain ⟨foreign', hforeign', hlinked'⟩ := hb.pointsAt (mem_of_ofTable? hnew).1 hr'
    have htables := Reference.foreignTable?_of_same hsame
    rw [hlinked.table, hlinked'.table, ← hlinked.foreignKey_table, hpoints] at htables
    have hthere := hb.keyed.ofTable?_eq_some hforeign'
    rw [← Option.some.inj htables, hgone] at hthere
    cases hthere

/-- Who points at a table that goes away, when it does, goes away too late. -/
theorem exists_dropsLate_of_referenced (ha : a.Sound) (hb : b.Sound)
    (hplan : (a.planTo b).statements = before ++ (table, .drop) :: later)
    (h : ¬ ((Catalog.ofModel a).run before).Unreferenced table) :
    ∃ x y, y.table = table ∧ a.DropsLate b x y := by
  simp only [Catalog.Unreferenced, not_forall, not_not] at h
  obtain ⟨owner, t, hother, ht, key, hkey, hpoints⟩ := h
  obtain ⟨y, hy, rfl, hygone⟩ := exists_of_drop ha.keyed hb.keyed (mem_of_split hplan)
  obtain ⟨x, hx, rfl, ⟨r, hr, rfl⟩, hlive, hstands⟩ :=
    reference_of_live ha.keyed hb.keyed hplan (show 2 < 5 by decide) ht hkey
  have hne : x ≠ y := fun heq => hother (heq ▸ rfl)
  have hdep := dependsOn_of_pointsAt ha hx hy hne hr hpoints
  have hxgone := gone_of_live ha hb hplan hygone hx hr hpoints hlive
  have hperm := dependencyOrder_perm ha.distinctIds
  -- Otherwise `x` would be gone before `y`, and its foreign keys with it.
  have horder : [x, y].Sublist a.dependencyOrder := by
    rcases pair_sublist_or (hperm.mem_iff.mpr hx) (hperm.mem_iff.mpr hy) hne with hxy | hyx
    · exact hxy
    · have hpair := hplan ▸ pair_sublist_planTo hygone hxgone hyx
      have honce := (drop_once ha.keyed hb.keyed hplan).2
      exact absurd (mem_before_of_pair hpair honce) hstands
  obtain ⟨hcycle, hregistered⟩ := (before_in_dependencyOrder_iff ha.distinctIds hdep).mp horder
  exact ⟨x, y, rfl, ⟨hxgone, hdep, hcycle, hregistered⟩⟩

/-- Who goes away too late points at the table that goes away. -/
theorem referenced_of_dropsLate (ha : a.Sound) (hb : b.Sound) {x y : Entity}
    (hplan : (a.planTo b).statements = before ++ (y.table, .drop) :: later)
    (hlate : a.DropsLate b x y) : ¬ ((Catalog.ofModel a).run before).Unreferenced y.table := by
  have hx : x ∈ a.entities := hlate.registered.subset List.mem_cons_self
  have hy := hlate.depends.1
  obtain ⟨hne, r, hr, hpoints⟩ := exists_pointsAt_of_dependsOn ha hx hlate.depends
  have htables : x.table ≠ y.table := fun heq => hne (ha.eq_of_table hx hy heq)
  obtain ⟨_, _, _, hygone⟩ := exists_of_drop ha.keyed hb.keyed (mem_of_split hplan)
  have horder := (before_in_dependencyOrder_iff ha.distinctIds hlate.depends).mpr
    ⟨hlate.cycle, hlate.registered⟩
  have hlater : (x.table, .drop) ∈ later := mem_later_of_pair
    (hplan ▸ pair_sublist_planTo hlate.gone hygone horder)
    (drop_once ha.keyed hb.keyed hplan).1
  have hnothing : statementsOf x.table before = [] := by
    have hown := statementsOf_dropped ha.keyed hb.keyed hx hlate.gone
    rw [hplan, statementsOf_append] at hown
    have hlength := congrArg List.length hown
    have hcome := List.length_pos_of_mem
      (mem_statementsOf.mpr (List.mem_cons_of_mem (y.table, Statement.drop) hlater))
    simp only [List.length_append, List.length_cons, List.length_nil] at hlength
    exact List.length_eq_zero_iff.mp (by omega)
  have hthere : (Catalog.ofModel a).run before x.table = some (Table.ofEntity x) := by
    rw [Catalog.run_apply, hnothing, Catalog.ofModel, ha.keyed.ofTable?_eq_some hx]
    rfl
  intro hfree
  refine hfree x.table _ htables hthere r.foreignKey ?_ hpoints
  obtain ⟨foreign, _, hlinked⟩ := ha.pointsAt hx hr
  rw [Table.foreignKeys_ofEntity]
  exact List.mem_map_of_mem (List.mem_filter.mpr ⟨hr, hlinked.table ▸ rfl⟩)

end DataModel

namespace Office

/-- People, who belong to teams. -/
def person : Entity :=
  { id := .ofNat 1, className := "Person", table := "person", attributes := [.identity],
    references := [.toKey "team" "Team" "person_team" "team_id"] }

/-- Teams, which are led by people. -/
def team : Entity :=
  { id := .ofNat 2, className := "Team", table := "team", attributes := [.identity],
    references := [.toKey "lead" "Person" "team_lead" "lead_id"] }

/-- Badges of people. -/
def badge : Entity :=
  { id := .ofNat 3, className := "Badge", table := "badge", attributes := [.identity],
    references := [.toKey "person" "Person" "badge_person" "person_id"] }

/-- Scans of badges. -/
def scan : Entity :=
  { id := .ofNat 4, className := "Scan", table := "scan", attributes := [.identity],
    references := [.toKey "badge" "Badge" "scan_badge" "badge_id"] }

/-- The office with badges, whose scans are registered first. -/
def old : DataModel := { entities := [scan, badge, person, team] : DataModel }.linkAll

/-- The office without badges. -/
def new : DataModel := { entities := [person, team] : DataModel }.linkAll

theorem sound_old : old.Sound :=
  .of_entities (by decide) (by decide) (by decide) (by decide)

theorem sound_new : new.Sound :=
  .of_entities (by decide) (by decide) (by decide) (by decide)

/-- Badges go away before their scans. -/
theorem statements_planTo :
    (old.planTo new).statements = [] ++ ("badge", .drop) :: [("scan", .drop)] := by
  decide +kernel

/-- Scans, linked. -/
def linkedScan : Entity := scan.linkedIn { entities := [scan, badge, person, team] }

theorem ofTable?_scan : old.ofTable? "scan" = some linkedScan := by
  decide

theorem key_mem : ForeignKey.mk "scan_badge" ["badge_id"] "badge" ["id"] .restrict .restrict ∈
    (Table.ofEntity linkedScan).foreignKeys := by
  decide

end Office

namespace DataModel

variable {a b : DataModel} {before later : List (String × Statement)} {table : String}

/-- **When a table goes away under a foreign key:** exactly if another table that goes away, too,
points at it and was registered before it, and dependencies lead from it into a cycle. -/
theorem unreferenced_at_drop_iff (ha : a.Sound) (hb : b.Sound)
    (hplan : (a.planTo b).statements = before ++ (table, .drop) :: later) :
    ((Catalog.ofModel a).run before).Unreferenced table ↔
      ¬ ∃ x y, y.table = table ∧ a.DropsLate b x y := by
  constructor
  · rintro hfree ⟨x, y, rfl, hlate⟩
    exact referenced_of_dropsLate ha hb hplan hlate hfree
  · intro hnone
    by_contra hreferenced
    exact hnone (exists_dropsLate_of_referenced ha hb hplan hreferenced)

/-- Badges go away under no foreign key exactly if nothing that points at them goes away late. -/
theorem office_unreferenced_iff :
    Office.old.Sound ∧ Office.new.Sound ∧
    (((Catalog.ofModel Office.old).run []).Unreferenced "badge" ↔
      ¬ ∃ x y, y.table = "badge" ∧ Office.old.DropsLate Office.new x y) :=
  ⟨Office.sound_old, Office.sound_new,
    unreferenced_at_drop_iff Office.sound_old Office.sound_new Office.statements_planTo⟩

/-- Not every table goes away under no foreign key: scans still point at the badges. -/
theorem office_drops_referenced :
    Office.old.Sound ∧ Office.new.Sound ∧
    ¬ ∀ before table later, (Office.old.planTo Office.new).statements =
        before ++ (table, .drop) :: later →
      ((Catalog.ofModel Office.old).run before).Unreferenced table := by
  refine ⟨Office.sound_old, Office.sound_new, fun hfree => ?_⟩
  have hbadge := hfree [] "badge" [("scan", .drop)] Office.statements_planTo
  have hscan : (Catalog.ofModel Office.old).run [] "scan" =
      some (Table.ofEntity Office.linkedScan) :=
    congrArg (Option.map Table.ofEntity) Office.ofTable?_scan
  exact hbadge "scan" _ (by decide) hscan _ Office.key_mem rfl

end DataModel

end Schemata
