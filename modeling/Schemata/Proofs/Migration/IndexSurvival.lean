import Schemata.Proofs.Migration.KeySafety

/-!
# Indexes on columns that go away

A column that goes away takes its part of an index with it, so that an index that is meant to stay
has to go before the column and to come back after it.  That happens to every index but one kind: an
index on the column of an attribute that becomes the column of a reference, if the new version has
the same index.

* `mem_droppedIndexes_iff`, `mem_addedIndexes_iff` - an index goes and comes back, or does neither;
* `stays_on_dropped_iff` - when an index stays although one of its columns goes away;
* `index_rebuilt_iff` - an index on a column that goes away is rebuilt exactly if it does not
  outlive the column.
-/

namespace Schemata

/-- The new version has an index of the same name and the same definition. -/
def Entity.Repeats (e : Entity) (i : Index) : Prop :=
  ∃ j ∈ e.indexes, j.name = i.name ∧ i.same j

/-- The index stays while its column goes away and comes back: the attribute of the column becomes a
reference, the new version has the same index, and no column of a rebuilt reference is in it. -/
structure TableDifference.Outlives (old new : Entity) (i : Index) (column : String) : Prop where
  was : column ∈ old.attributes.map (·.column)
  becomes : column ∈ new.referenceColumns
  repeated : new.Repeats i
  apart : touches (rebuiltColumns old new) i = false

namespace Index

/-- Indexes of one definition have parts on the same columns. -/
theorem exists_part_of_same {i j : Index} (h : i.same j) {part : IndexPart}
    (hpart : part ∈ i.parts) : ∃ part' ∈ j.parts, part'.column = part.column := by
  simp only [same, Bool.and_eq_true, beq_iff_eq] at h
  have hkey : part.key ∈ j.parts.map (·.key) := h.2 ▸ List.mem_map_of_mem hpart
  obtain ⟨part', hpart', heq⟩ := List.mem_map.mp hkey
  exact ⟨part', hpart', (Prod.mk.inj heq).1⟩

end Index

namespace TableDifference

variable {old new : Entity}

/-- An index touches the columns of its parts. -/
theorem touches_of_mem {columns : List String} {i : Index} {part : IndexPart}
    (hpart : part ∈ i.parts) (hcolumn : part.column ∈ columns) : touches columns i = true :=
  List.any_eq_true.mpr ⟨part, hpart, List.contains_iff_mem.mpr hcolumn⟩

/-- An index of the old version stays or goes. -/
theorem mem_droppedIndexes_iff (hnew : (new.indexes.map (·.name)).Nodup) {i : Index}
    (hi : i ∈ old.indexes) :
    i ∈ droppedIndexes old new ↔
      ¬ (new.Repeats i ∧ touches (rebuiltColumns old new) i = false) := by
  rw [droppedIndexes, List.mem_filter, Bool.not_eq_true', ← Bool.not_eq_true, Option.any_eq_true]
  refine (and_iff_right hi).trans (not_congr ?_)
  simp only [staysAs, Bool.and_eq_true, Bool.not_eq_true']
  constructor
  · rintro ⟨j, hfound, hsame, hquiet⟩
    obtain ⟨hj, hname⟩ := Lookup.mem_of_find?_key hfound
    exact ⟨⟨j, hj, hname, hsame⟩, hquiet⟩
  · rintro ⟨⟨j, hj, hname, hsame⟩, hquiet⟩
    exact ⟨j, hname ▸ Lookup.find?_key hnew hj, hsame, hquiet⟩

/-- An index that is dropped and still declared under its name is added again. -/
theorem mem_addedIndexes_of_dropped (hold : (old.indexes.map (·.name)).Nodup)
    (hnew : (new.indexes.map (·.name)).Nodup) {i j : Index} (hi : i ∈ old.indexes)
    (hj : j ∈ new.indexes) (hname : j.name = i.name) (hgone : i ∈ droppedIndexes old new) :
    j ∈ addedIndexes old new := by
  refine List.mem_filter.mpr ⟨hj, ?_⟩
  have hfound : old.index? j.name = some i := hname ▸ Lookup.find?_key hold hi
  have hstays : staysAs old new i j = false := by
    by_contra hstay
    rw [Bool.not_eq_false, staysAs, Bool.and_eq_true, Bool.not_eq_true'] at hstay
    exact (mem_droppedIndexes_iff hnew hi).mp hgone ⟨⟨j, hj, hname, hstay.1⟩, hstay.2⟩
  rw [hfound, Option.any_some, hstays]
  rfl

/-- **When an index stays although one of its columns goes away:** exactly if it outlives the
column. -/
theorem stays_on_dropped_iff
    (hparts : ∀ j ∈ new.indexes, ∀ part ∈ j.parts, part.column ∈ new.columnNames) {i : Index}
    {part : IndexPart} (hpart : part ∈ i.parts) (hgone : part.column ∈ droppedColumns old new) :
    new.Repeats i ∧ touches (rebuiltColumns old new) i = false ↔
      Outlives old new i part.column := by
  constructor
  · rintro ⟨hrepeats, hquiet⟩
    have hnot : part.column ∉ rebuiltColumns old new := by
      intro hrebuilt
      rw [touches_of_mem hpart hrebuilt] at hquiet
      cases hquiet
    obtain ⟨a, ha, hcolumn⟩ := List.mem_map.mp ((List.mem_append.mp hgone).resolve_left hnot)
    obtain ⟨hattribute, hmissing⟩ := List.mem_filter.mp ha
    rw [Option.isNone_iff_eq_none, Entity.attributeOfColumn?_eq_none, hcolumn] at hmissing
    obtain ⟨j, hj, hname, hsame⟩ := hrepeats
    obtain ⟨part', hpart', heq⟩ := Index.exists_part_of_same hsame hpart
    have hthere : part.column ∈ new.columnNames := heq ▸ hparts j hj part' hpart'
    exact
      { was := hcolumn ▸ List.mem_map_of_mem hattribute
        becomes := (List.mem_append.mp hthere).resolve_left hmissing
        repeated := ⟨j, hj, hname, hsame⟩
        apart := hquiet }
  · intro houtlives
    exact ⟨houtlives.repeated, houtlives.apart⟩

/-- The statement that drops an index is there exactly if the index is to be dropped. -/
theorem dropIndex_mem_altered (hold : (old.indexes.map (·.name)).Nodup) {i : Index}
    (hi : i ∈ old.indexes) :
    .dropIndex i.name ∈ altered old new .dropIndexes ↔ i ∈ droppedIndexes old new := by
  rw [altered, List.mem_flatMap]
  constructor
  · rintro ⟨j, hj, hs⟩
    have hname : i.name = j.name := Statement.dropIndex.inj (List.mem_singleton.mp hs)
    obtain rfl : j = i :=
      List.inj_on_of_nodup_map hold (List.mem_filter.mp hj).1 hi hname.symm
    exact hj
  · intro hgone
    exact ⟨i, hgone, List.mem_singleton.mpr rfl⟩

end TableDifference

namespace Depot

/-- Customers, whatever becomes of their orders. -/
def customer : Entity :=
  { id := .ofNat 1, className := "Customer", table := "customers", attributes := [.identity] }

/-- Orders with an index on the column for their customer. -/
def order (attributes : List Attribute) (references : List Reference) : Entity :=
  { id := .ofNat 2, className := "Order", table := "orders", attributes, references,
    indexes := [{ name := "idx_customer", parts := [{ name := "customer_id" }] }] }

/-- The column is a mere number. -/
def numbered : DataModel :=
  { entities := [customer, order [.identity, .plain "customer_id" "INT"] []] }

/-- The column is a foreign key. -/
def keyed : DataModel :=
  { entities := [customer,
      order [.identity] [.toKey "customer" "Customer" "orders_customer" "customer_id"]] }

/-- The orders with the number of a customer, linked. -/
def oldOrder : Entity := (order [.identity, .plain "customer_id" "INT"] []).linkedIn numbered

/-- The orders with a foreign key to a customer, linked. -/
def newOrder : Entity :=
  (order [.identity] [.toKey "customer" "Customer" "orders_customer" "customer_id"]).linkedIn keyed

/-- The index, linked to its column. -/
def index : Index :=
  { name := "idx_customer", parts := [{ name := "customer_id", linked := some "customer_id" }] }

theorem sound_numbered : numbered.linkAll.Sound :=
  .of_entities (by decide) (by decide) (by decide) (by decide)

theorem sound_keyed : keyed.linkAll.Sound :=
  .of_entities (by decide) (by decide) (by decide) (by decide)

/-- The old model has orders by number. -/
theorem ofTable?_numbered : numbered.linkAll.ofTable? "orders" = some oldOrder := by
  decide_cbv

/-- The new model has orders by key. -/
theorem ofTable?_keyed : keyed.linkAll.ofTable? "orders" = some newOrder := by
  decide

theorem index_mem : index ∈ oldOrder.indexes := by
  decide_cbv

/-- The first statement drops the column; the others bring it back, with a foreign key. -/
theorem statements_planTo : (numbered.linkAll.planTo keyed.linkAll).statements =
    [] ++ ("orders", .dropColumn "customer_id") ::
      (numbered.linkAll.planTo keyed.linkAll).statements.drop 1 := by
  decide +kernel

end Depot

namespace DataModel

variable {a b : DataModel} {before later : List (String × Statement)}

/-- An index goes before the columns change, and the index that follows it comes after. -/
theorem rebuilt_iff_dropped (ha : a.Keyed) (hb : b.Keyed) {table : String} {old new : Entity}
    (hold : a.ofTable? table = some old) (hnew : b.ofTable? table = some new)
    (hoi : (old.indexes.map (·.name)).Nodup) (hni : (new.indexes.map (·.name)).Nodup)
    {s : Statement} (hplan : (a.planTo b).statements = before ++ (table, s) :: later)
    (hstep : s.step = .changeColumns) {i : Index} (hi : i ∈ old.indexes) :
    ((table, .dropIndex i.name) ∈ before ∧
      ∀ j ∈ new.indexes, j.name = i.name → (table, .add (.index j)) ∈ later) ↔
      i ∈ TableDifference.droppedIndexes old new := by
  have hdrop : (table, .dropIndex i.name) ∈ (a.planTo b).statements ↔
      i ∈ TableDifference.droppedIndexes old new :=
    (mem_planTo_of_altered ha hb hold hnew).trans (TableDifference.dropIndex_mem_altered hoi hi)
  constructor
  · rintro ⟨hgone, -⟩
    exact hdrop.mp (hplan ▸ List.mem_append_left _ hgone)
  · intro hgone
    refine ⟨mem_before ha hb hplan (hdrop.mpr hgone) ?_, fun j hj hname => ?_⟩
    · show Step.dropIndexes.rank < s.step.rank
      rw [hstep]
      decide
    · have hadded := TableDifference.mem_addedIndexes_of_dropped hoi hni hi hj hname hgone
      have hmem : (table, .add (.index j)) ∈ (a.planTo b).statements :=
        (mem_planTo_of_altered ha hb hold hnew).mpr
          (List.mem_flatMap.mpr ⟨j, hadded, List.mem_singleton.mpr rfl⟩)
      refine mem_later ha hb hplan hmem ?_
      show s.step.rank < Step.addIndexes.rank
      rw [hstep]
      decide

/-- **An index on a column that goes away is rebuilt exactly if it does not outlive the column:** it
is dropped before the column is, and the index of its name in the new model comes back after. -/
theorem index_rebuilt_iff (ha : a.Sound) (hb : b.Sound) (hia : a.DistinctIndexes)
    (hib : b.DistinctIndexes) {table : String} {old new : Entity}
    (hold : a.ofTable? table = some old) (hnew : b.ofTable? table = some new) {column : String}
    (hplan : (a.planTo b).statements = before ++ (table, .dropColumn column) :: later) {i : Index}
    (hi : i ∈ old.indexes) (hpart : ∃ part ∈ i.parts, part.column = column) :
    ((table, .dropIndex i.name) ∈ before ∧
      ∀ j ∈ new.indexes, j.name = i.name → (table, .add (.index j)) ∈ later) ↔
      ¬ TableDifference.Outlives old new i column := by
  obtain ⟨part, hpart, rfl⟩ := hpart
  have holdIndexes := hia old (mem_of_ofTable? hold).1
  have hnewMem := (mem_of_ofTable? hnew).1
  have hgone : part.column ∈ TableDifference.droppedColumns old new :=
    TableDifference.dropColumn_mem_columnChanges.mp
      ((mem_planTo_of_altered ha.keyed hb.keyed hold hnew).mp (mem_of_split hplan))
  have hparts : ∀ j ∈ new.indexes, ∀ part ∈ j.parts, part.column ∈ new.columnNames :=
    fun j hj part hpart => hb.part_column_mem hnewMem hj hpart
  rw [rebuilt_iff_dropped ha.keyed hb.keyed hold hnew holdIndexes (hib new hnewMem) hplan rfl hi,
    TableDifference.mem_droppedIndexes_iff (hib new hnewMem) hi,
    TableDifference.stays_on_dropped_iff hparts hpart hgone]

/-- The index of the depot is rebuilt exactly if it does not outlive its column. -/
theorem depot_index_rebuilt_iff :
    Depot.numbered.linkAll.Sound ∧ Depot.keyed.linkAll.Sound ∧
    Depot.numbered.linkAll.DistinctIndexes ∧ Depot.keyed.linkAll.DistinctIndexes ∧
    ((("orders", .dropIndex Depot.index.name) ∈ ([] : List (String × Statement)) ∧
      ∀ j ∈ Depot.newOrder.indexes, j.name = Depot.index.name →
        ("orders", .add (.index j)) ∈
          (Depot.numbered.linkAll.planTo Depot.keyed.linkAll).statements.drop 1) ↔
      ¬ TableDifference.Outlives Depot.oldOrder Depot.newOrder Depot.index "customer_id") := by
  have hindexes : Depot.numbered.linkAll.DistinctIndexes := by decide
  have hindexes' : Depot.keyed.linkAll.DistinctIndexes := by decide +kernel
  refine ⟨Depot.sound_numbered, Depot.sound_keyed, hindexes, hindexes', ?_⟩
  exact index_rebuilt_iff Depot.sound_numbered Depot.sound_keyed hindexes hindexes'
    Depot.ofTable?_numbered Depot.ofTable?_keyed Depot.statements_planTo Depot.index_mem
    ⟨_, List.mem_singleton.mpr rfl, rfl⟩

/-- Not every index on a column that goes away is rebuilt: the depot loses one. -/
theorem depot_loses_index :
    Depot.numbered.linkAll.Sound ∧ Depot.keyed.linkAll.Sound ∧
    Depot.numbered.linkAll.DistinctConstraints ∧ Depot.keyed.linkAll.DistinctConstraints ∧
    Depot.numbered.linkAll.DistinctIndexes ∧ Depot.keyed.linkAll.DistinctIndexes ∧
    ¬ ∀ table old new, Depot.numbered.linkAll.ofTable? table = some old →
      Depot.keyed.linkAll.ofTable? table = some new →
      ∀ before column later, (Depot.numbered.linkAll.planTo Depot.keyed.linkAll).statements =
        before ++ (table, .dropColumn column) :: later →
      ∀ i ∈ old.indexes, (∃ part ∈ i.parts, part.column = column) →
        (table, .dropIndex i.name) ∈ before ∧
          ∀ j ∈ new.indexes, j.name = i.name → (table, .add (.index j)) ∈ later := by
  refine ⟨Depot.sound_numbered, Depot.sound_keyed, by decide, by decide,
    by decide +kernel, by decide, fun hrebuilt => ?_⟩
  have hdropped := hrebuilt "orders" Depot.oldOrder Depot.newOrder Depot.ofTable?_numbered
    Depot.ofTable?_keyed [] "customer_id" _ Depot.statements_planTo Depot.index Depot.index_mem
    ⟨_, List.mem_singleton.mpr rfl, rfl⟩
  exact List.not_mem_nil hdropped.1

end DataModel

end Schemata
