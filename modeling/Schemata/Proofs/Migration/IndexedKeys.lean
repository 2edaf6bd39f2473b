import Schemata.Proofs.Migration.IndexSurvival
import Schemata.Proofs.Model.Links

/-!
# Indexes under foreign keys

A foreign key points at columns with which an index of their table should begin.  Foreign keys come
before indexes do.  So the index is there in time if it comes with a new table or has been there all
along; if it is new on a table that stays, or is rebuilt, it comes after the foreign key.

* `IndexCatalog.run_apply` - the indexes of a table change by the statements about it only;
* `hasIndex_foldl` - an index stays until it or one of its first columns goes;
* `origin_of_mem_foldl` - an index that nothing brought was there from the start;
* `indexed_for_key_iff` - when a foreign key comes, its index is there exactly if the table is new
  or keeps the index.
-/

namespace Schemata

namespace Index

/-- The columns are the first ones of the index, in order. -/
def Leads (columns : List String) (i : Index) : Prop := columns <+: i.parts.map (·.column)

instance (columns : List String) (i : Index) : Decidable (i.Leads columns) :=
  inferInstanceAs (Decidable (_ <+: _))

/-- What is left of the index when a column goes away, if anything is. -/
def without (column : String) (i : Index) : Option Index :=
  match i.parts.filter (·.column != column) with
  | [] => none
  | parts => some { i with parts }

/-- Indexes between which a plan sees no difference lead with the same columns. -/
theorem leads_of_same {i j : Index} (h : i.same j) {columns : List String} (hj : j.Leads columns) :
    i.Leads columns := by
  simp only [same, Bool.and_eq_true, beq_iff_eq] at h
  have hcolumns : i.parts.map (·.column) = j.parts.map (·.column) := by
    have hkeys := congrArg (List.map (·.1)) h.2
    rwa [List.map_map, List.map_map] at hkeys
  rwa [Leads, hcolumns]

/-- An index that loses a column keeps its name. -/
theorem name_of_without {i j : Index} {column : String} (h : i.without column = some j) :
    j.name = i.name := by
  unfold without at h
  split at h
  · cases h
  · rw [← Option.some.inj h]

/-- An index begins with the same columns after another column went away. -/
theorem exists_without {i : Index} {columns : List String} (hleads : i.Leads columns)
    (hne : columns ≠ []) {column : String} (hother : column ∉ columns) :
    ∃ j, i.without column = some j ∧ j.Leads columns := by
  obtain ⟨rest, hrest⟩ := hleads
  have hkept : columns.filter (· != column) = columns := by
    refine List.filter_eq_self.mpr fun c hc => ?_
    have hdiffers : c ≠ column := fun heq => hother (heq ▸ hc)
    exact bne_iff_ne.mpr hdiffers
  have hparts : columns <+: (i.parts.filter (·.column != column)).map (·.column) := by
    have hfilter : (i.parts.filter (·.column != column)).map (·.column) =
        (i.parts.map (·.column)).filter (· != column) := by
      rw [List.filter_map]
      rfl
    rw [hfilter, ← hrest, List.filter_append, hkept]
    exact List.prefix_append _ _
  unfold without
  split
  · rename_i hnil
    rw [hnil] at hparts
    exact absurd (List.prefix_nil.mp hparts) hne
  · exact ⟨_, rfl, hparts⟩

end Index

/-- Among the indexes is one of the name that begins with the columns. -/
def HasIndex (indexes : List Index) (name : String) (columns : List String) : Prop :=
  ∃ i ∈ indexes, i.name = name ∧ i.Leads columns

namespace Statement

/-- What the statement makes of the indexes.  A column takes its parts of indexes with it. -/
def onIndexes (old : List Index) : Statement → List Index
  | .create definitions => definitions.filterMap (·.index?)
  | .drop => []
  | .add (.index i) => old ++ [i]
  | .dropIndex name => old.filter (·.name != name)
  | .dropColumn column => old.filterMap (·.without column)
  | _ => old

/-- The statement takes away neither the index of the name nor one of the columns, and a new table
has the index. -/
structure Spares (name : String) (columns : List String) (s : Statement) : Prop where
  table : s ≠ .drop
  index : s ≠ .dropIndex name
  parts : ∀ column ∈ columns, s ≠ .dropColumn column
  creation : ∀ definitions, s = .create definitions →
    HasIndex (definitions.filterMap (·.index?)) name columns

variable {old : List Index} {s : Statement} {name : String} {columns : List String}

/-- A statement that spares an index leaves it there. -/
theorem hasIndex_onIndexes (h : HasIndex old name columns) (hne : columns ≠ [])
    (hs : s.Spares name columns) : HasIndex (s.onIndexes old) name columns := by
  obtain ⟨i, hi, hname, hleads⟩ := h
  unfold onIndexes
  split
  · exact hs.creation _ rfl
  · exact absurd rfl hs.table
  · exact ⟨i, List.mem_append_left _ hi, hname, hleads⟩
  · rename_i dropped
    have hdiffers : i.name ≠ dropped := fun heq => hs.index (heq.symm.trans hname ▸ rfl)
    exact ⟨i, List.mem_filter.mpr ⟨hi, bne_iff_ne.mpr hdiffers⟩, hname, hleads⟩
  · rename_i column
    have hother : column ∉ columns := fun hmem => hs.parts column hmem rfl
    obtain ⟨j, hj, hjleads⟩ := i.exists_without hleads hne hother
    exact ⟨j, List.mem_filterMap.mpr ⟨i, hi, hj⟩, (Index.name_of_without hj).trans hname, hjleads⟩
  · exact ⟨i, hi, hname, hleads⟩

/-- An index that no statement adds was there before under its name, and is not dropped. -/
theorem origin_of_mem_onIndexes {i : Index} (h : i ∈ s.onIndexes old)
    (hcreate : s.step ≠ .createTables) (hadd : s.step ≠ .addIndexes) :
    ∃ j ∈ old, j.name = i.name ∧ s ≠ .dropIndex i.name := by
  unfold onIndexes at h
  split at h
  · exact absurd rfl hcreate
  · cases h
  · exact absurd rfl hadd
  · rename_i dropped
    obtain ⟨hold, hkept⟩ := List.mem_filter.mp h
    refine ⟨i, hold, rfl, fun heq => bne_iff_ne.mp hkept ?_⟩
    exact (Statement.dropIndex.inj heq).symm
  · obtain ⟨j, hj, hleft⟩ := List.mem_filterMap.mp h
    exact ⟨j, hj, (Index.name_of_without hleft).symm, by simp⟩
  · rename_i hother _
    exact ⟨i, h, rfl, fun heq => hother _ heq⟩

end Statement

section

variable {indexes : List Index} {statements : List Statement} {name : String}
  {columns : List String}

/-- **An index stays until it or one of its first columns goes.** -/
theorem hasIndex_foldl (h : HasIndex indexes name columns) (hne : columns ≠ [])
    (hs : ∀ s ∈ statements, s.Spares name columns) :
    HasIndex (statements.foldl Statement.onIndexes indexes) name columns := by
  induction statements generalizing indexes with
  | nil => exact h
  | cons s rest ih =>
    have hnext := Statement.hasIndex_onIndexes h hne (hs s List.mem_cons_self)
    exact ih hnext fun s' hs' => hs s' (List.mem_cons_of_mem s hs')

/-- An index that comes with the table stays as well. -/
theorem hasIndex_foldl_of_create {definitions : List Definition}
    (hcreate : .create definitions ∈ statements) (hne : columns ≠ [])
    (hs : ∀ s ∈ statements, s.Spares name columns) :
    HasIndex (statements.foldl Statement.onIndexes indexes) name columns := by
  have hcreated := (hs _ hcreate).creation definitions rfl
  obtain ⟨before, later, rfl⟩ := List.append_of_mem hcreate
  rw [List.foldl_append, List.foldl_cons]
  exact hasIndex_foldl hcreated hne fun s hmem =>
    hs s (List.mem_append_right before (List.mem_cons_of_mem _ hmem))

/-- **An index that nothing brought was there from the start,** and was not dropped. -/
theorem origin_of_mem_foldl {i : Index} (h : i ∈ statements.foldl Statement.onIndexes indexes)
    (hs : ∀ s ∈ statements, s.step ≠ .createTables ∧ s.step ≠ .addIndexes) :
    ∃ j ∈ indexes, j.name = i.name ∧ .dropIndex i.name ∉ statements := by
  induction statements generalizing indexes with
  | nil => exact ⟨i, h, rfl, List.not_mem_nil⟩
  | cons s rest ih =>
    obtain ⟨j, hj, hname, hrest⟩ := ih h fun s' hs' => hs s' (List.mem_cons_of_mem s hs')
    obtain ⟨hcreate, hadd⟩ := hs s List.mem_cons_self
    obtain ⟨k, hk, hkname, hfirst⟩ := Statement.origin_of_mem_onIndexes hj hcreate hadd
    refine ⟨k, hk, hkname.trans hname, ?_⟩
    rw [List.mem_cons, not_or]
    exact ⟨fun heq => hfirst (hname ▸ heq.symm), hrest⟩

end

/-- The indexes of the tables of a database. -/
def IndexCatalog := String → List Index

namespace IndexCatalog

/-- The indexes of the database of a model. -/
def ofModel (m : DataModel) : IndexCatalog := fun table =>
  match m.ofTable? table with
  | none => []
  | some e => e.indexes

/-- What a statement about a table makes of the indexes. -/
def execute (c : IndexCatalog) (s : String × Statement) : IndexCatalog := fun table =>
  if table = s.1 then s.2.onIndexes (c table) else c table

/-- What statements make of the indexes. -/
def run (c : IndexCatalog) (statements : List (String × Statement)) : IndexCatalog :=
  statements.foldl execute c

/-- **The indexes of a table change by the statements about it only.** -/
theorem run_apply (c : IndexCatalog) (statements : List (String × Statement)) (table : String) :
    c.run statements table =
      (statementsOf table statements).foldl Statement.onIndexes (c table) :=
  foldl_statementsOf Statement.onIndexes c statements table

end IndexCatalog

namespace TableDifference

variable {old new : Entity}

/-- The old version has an index that stays as the one of the new version. -/
def Keeps (old new : Entity) (i : Index) : Prop :=
  ∃ j ∈ old.indexes, j.name = i.name ∧ staysAs old new j i

/-- An index that is declared and not kept is added. -/
theorem mem_addedIndexes_of_not_keeps {i : Index} (hi : i ∈ new.indexes)
    (h : ¬ Keeps old new i) : i ∈ addedIndexes old new := by
  refine List.mem_filter.mpr ⟨hi, ?_⟩
  rw [Bool.not_eq_true', ← Bool.not_eq_true, Option.any_eq_true]
  rintro ⟨j, hfound, hstays⟩
  obtain ⟨hj, hname⟩ := Lookup.mem_of_find?_key hfound
  exact h ⟨j, hj, hname, hstays⟩

/-- An index is kept if the old table has one of its name that is not dropped. -/
theorem keeps_iff_not_dropped (hnew : (new.indexes.map (·.name)).Nodup) {i : Index}
    (hi : i ∈ new.indexes) :
    Keeps old new i ↔ ∃ j ∈ old.indexes, j.name = i.name ∧ j ∉ droppedIndexes old new := by
  refine exists_congr fun j => and_congr_right fun hj => and_congr_right fun hname => ?_
  rw [mem_droppedIndexes_iff hnew hj, not_not, staysAs, Bool.and_eq_true, Bool.not_eq_true']
  refine and_congr_left fun _ => ⟨fun hsame => ⟨i, hi, hname.symm, hsame⟩, ?_⟩
  rintro ⟨k, hk, hkname, hsame⟩
  obtain rfl : k = i := List.inj_on_of_nodup_map hnew hk hi (hkname.trans hname)
  exact hsame

/-- A new table gets its definitions and then its foreign keys. -/
theorem eq_of_mem_created {step : Step} {s : Statement} (h : s ∈ created new step) :
    s = new.bareCreation ∨ ∃ r : Reference, s = r.addConstraint := by
  cases step with
  | createTables => exact .inl (List.mem_singleton.mp h)
  | addForeignKeys =>
    obtain ⟨r, _, rfl⟩ := List.mem_map.mp h
    exact .inr ⟨r, rfl⟩
  | _ => cases h

/-- Nothing that is said about a new table harms an index that it declares. -/
theorem spares_created {step : Step} {s : Statement} (h : s ∈ created new step) {i : Index}
    (hi : i ∈ new.indexes) {columns : List String} (hleads : i.Leads columns) :
    s.Spares i.name columns := by
  rcases eq_of_mem_created h with rfl | ⟨r, rfl⟩
  · refine ⟨by simp [Entity.bareCreation], by simp [Entity.bareCreation],
      by simp [Entity.bareCreation], fun definitions hcreate => ?_⟩
    obtain rfl := Statement.create.inj hcreate
    rw [Entity.indexes_definitions]
    exact ⟨i, hi, rfl, hleads⟩
  · constructor <;> simp [Reference.addConstraint]

/-- A column in an index that stays goes away only if it is no attribute any more. -/
theorem not_dropped_of_kept (hold : old.Coherent) {j : Index} {part : IndexPart}
    (hpart : part ∈ j.parts) (hcolumn : part.column ∈ old.columnNames)
    (hquiet : touches (rebuiltColumns old new) j = false)
    (hattribute : part.column ∈ new.attributes.map (·.column)) :
    part.column ∉ droppedColumns old new := by
  rcases List.mem_append.mp hcolumn with hwas | hreference
  · obtain ⟨x, hx, hxcolumn⟩ := List.mem_map.mp hwas
    obtain ⟨y, hy, hycolumn⟩ := List.mem_map.mp hattribute
    rw [← hxcolumn]
    exact attribute_not_dropped hold hx hy (hxcolumn.trans hycolumn.symm)
  · refine reference_not_dropped hold hreference fun hrebuilt => ?_
    rw [touches_of_mem hpart hrebuilt] at hquiet
    cases hquiet

/-- **No change of a table takes away an index that is kept,** or a column under it that an
attribute has. -/
theorem spares_altered (hold : old.Coherent) (hindexes : (old.indexes.map (·.name)).Nodup)
    (hparts : ∀ j ∈ old.indexes, ∀ part ∈ j.parts, part.column ∈ old.columnNames) {j : Index}
    (hj : j ∈ old.indexes) (hkept : j ∉ droppedIndexes old new)
    (hquiet : touches (rebuiltColumns old new) j = false) {columns : List String}
    (hleads : j.Leads columns)
    (hattributes : ∀ column ∈ columns, column ∈ new.attributes.map (·.column)) {s : Statement}
    (hs : s ∈ altered old new s.step) : s.Spares j.name columns := by
  constructor
  · rintro rfl
    cases hs
  · rintro rfl
    exact hkept ((dropIndex_mem_altered hindexes hj).mp hs)
  · rintro column hcolumn rfl
    obtain ⟨part, hpart, rfl⟩ := List.mem_map.mp (hleads.mem hcolumn)
    exact not_dropped_of_kept hold hpart (hparts j hj part hpart) hquiet (hattributes _ hcolumn)
      (dropColumn_mem_columnChanges.mp hs)
  · rintro definitions rfl
    cases hs

end TableDifference

namespace Harbor

/-- Ports by number, each with a code. -/
def port (indexes : List Index) : Entity :=
  { id := .ofNat 1, className := "Port", table := "port",
    attributes := [.identity, .plain "code" "CHAR(5)"], indexes }

/-- Ships, and what they refer to. -/
def ship (references : List Reference) : Entity :=
  { id := .ofNat 2, className := "Ship", table := "ship", attributes := [.identity], references }

/-- No port has the code of another. -/
def index : Index := { name := "idx_code", unique := true, parts := [{ name := "code" }] }

/-- The index, linked to its column. -/
def linkedIndex : Index :=
  { name := "idx_code", unique := true, parts := [{ name := "code", linked := some "code" }] }

/-- A ship names its home port by the code. -/
def home : Reference :=
  { name := "home", foreignClass := "Port", constraint := "ship_home",
    mappings := [⟨"home_code", "code"⟩] }

/-- The foreign key of the home port. -/
def homeKey : ForeignKey :=
  { constraint := "ship_home", columns := ["home_code"], foreignTable := "port",
    foreignColumns := ["code"], onDelete := .restrict, onUpdate := .restrict }

/-- Codes without an index. -/
def plain : DataModel := { entities := [port [], ship []] : DataModel }.linkAll

/-- Codes with an index. -/
def indexed : DataModel := { entities := [port [index], ship []] : DataModel }.linkAll

/-- Ships with a home port. -/
def berthed : DataModel := { entities := [port [index], ship [home]] : DataModel }.linkAll

theorem sound_plain : plain.Sound :=
  .of_entities (by decide) (by decide) (by decide) (by decide)

theorem sound_indexed : indexed.Sound :=
  .of_entities (by decide) (by decide) (by decide) (by decide)

theorem sound_berthed : berthed.Sound :=
  .of_entities (by decide) (by decide) (by decide) (by decide)

theorem ofTable?_plain : plain.ofTable? "port" = some (port []) := by
  decide

theorem ofTable?_berthed : berthed.ofTable? "port" = some (port [linkedIndex]) := by
  decide

/-- The index of the port is kept where the old model has it. -/
theorem indexed_keeps {old : Entity} (hold : indexed.ofTable? "port" = some old) :
    TableDifference.Keeps old (port [linkedIndex]) linkedIndex := by
  have hport : indexed.ofTable? "port" = some (port [linkedIndex]) := by decide_cbv
  obtain rfl := Option.some.inj (hport.symm.trans hold)
  exact ⟨linkedIndex, List.mem_singleton.mpr rfl, rfl, by decide⟩

/-- Where codes have their index, a home port is a column and its foreign key. -/
theorem statements_indexed : (indexed.planTo berthed).statements =
    [("ship", .add (.column { name := "home_code", type := "CHAR(5)" }))] ++
      ("ship", .add (.foreignKey homeKey)) :: [] := by
  decide +kernel

/-- Where they have none, the index follows the foreign key. -/
theorem statements_plain : (plain.planTo berthed).statements =
    [("ship", .add (.column { name := "home_code", type := "CHAR(5)" }))] ++
      ("ship", .add (.foreignKey homeKey)) :: [("port", .add (.index linkedIndex))] := by
  decide +kernel

end Harbor

namespace DataModel

variable {a b : DataModel} {before later : List (String × Statement)} {table : String}
  {key : ForeignKey}

/-- What a foreign key of a plan points at are attributes of an entity of the new model. -/
theorem exists_referenced (ha : a.Keyed) (hb : b.Sound)
    (h : (table, .add (.foreignKey key)) ∈ (a.planTo b).statements) :
    ∃ foreign, b.ofTable? key.foreignTable = some foreign ∧ key.foreignColumns ≠ [] ∧
      ∀ column ∈ key.foreignColumns, column ∈ foreign.attributes.map (·.column) := by
  obtain ⟨new, hnew, rfl, r, hr, rfl⟩ := reference_of_added ha hb.keyed h
  obtain ⟨foreign, hforeign, hlinked⟩ := hb.pointsAt hnew hr
  refine ⟨foreign, ?_, ?_, ?_⟩
  · rw [hlinked.foreignKey_table]
    exact hb.keyed.ofTable?_eq_some hforeign
  · intro hnil
    have hcolumns : r.columns = [] := List.map_eq_nil_iff.mp hnil
    have hnames := hlinked.names
    rw [hcolumns] at hnames
    exact hb.mappings_ne_nil hnew hr (List.map_eq_nil_iff.mp hnames.symm)
  · intro column hcolumn
    obtain ⟨c, hc, rfl⟩ := List.mem_map.mp hcolumn
    obtain ⟨x, hx, hxcolumn, _⟩ := hlinked.types c hc
    exact hxcolumn ▸ List.mem_map_of_mem hx

/-- A new table has its indexes when foreign keys come. -/
theorem hasIndex_created (ha : a.Keyed) (hb : b.Keyed)
    (hplan : (a.planTo b).statements = before ++ (table, .add (.foreignKey key)) :: later)
    {other : String} {new : Entity} (hold : a.ofTable? other = none)
    (hnew : b.ofTable? other = some new) {i : Index} (hi : i ∈ new.indexes)
    {columns : List String} (hleads : i.Leads columns) (hne : columns ≠ []) :
    HasIndex ((IndexCatalog.ofModel a).run before other) i.name columns := by
  have hown : ∀ s, (other, s) ∈ (a.planTo b).statements ↔
      s ∈ TableDifference.created new s.step := by
    intro s
    rw [mem_planTo_iff ha hb]
    simp only [tableDifference, hold, hnew]
  have hcreate : (other, new.bareCreation) ∈ (a.planTo b).statements :=
    (hown _).mpr (List.mem_singleton.mpr rfl)
  have hbefore : (other, new.bareCreation) ∈ before :=
    mem_before ha hb hplan hcreate
      (show Step.createTables.rank < Step.addForeignKeys.rank by decide)
  rw [IndexCatalog.run_apply]
  refine hasIndex_foldl_of_create (mem_statementsOf.mpr hbefore) hne fun s hs => ?_
  have hmem : (other, s) ∈ (a.planTo b).statements :=
    hplan ▸ List.mem_append_left _ (mem_statementsOf.mp hs)
  exact TableDifference.spares_created ((hown s).mp hmem) hi hleads

/-- A table that stays has an index when foreign keys come exactly if it keeps it. -/
theorem hasIndex_altered_iff (ha : a.Sound) (hb : b.Keyed) (hda : a.DistinctConstraints)
    (hplan : (a.planTo b).statements = before ++ (table, .add (.foreignKey key)) :: later)
    {other : String} {old new : Entity} (hold : a.ofTable? other = some old)
    (hnew : b.ofTable? other = some new) (hoi : (old.indexes.map (·.name)).Nodup)
    (hni : (new.indexes.map (·.name)).Nodup) {i : Index} (hi : i ∈ new.indexes)
    {columns : List String} (hleads : i.Leads columns) (hne : columns ≠ [])
    (hattributes : ∀ column ∈ columns, column ∈ new.attributes.map (·.column)) :
    HasIndex ((IndexCatalog.ofModel a).run before other) i.name columns ↔
      TableDifference.Keeps old new i := by
  have holdMem := (mem_of_ofTable? hold).1
  have hown := fun s => mem_planTo_of_altered (s := s) ha.keyed hb hold hnew
  have hmem : ∀ s ∈ statementsOf other before, (other, s) ∈ (a.planTo b).statements := fun s hs =>
    hplan ▸ List.mem_append_left _ (mem_statementsOf.mp hs)
  have hstart : IndexCatalog.ofModel a other = old.indexes := by rw [IndexCatalog.ofModel, hold]
  rw [IndexCatalog.run_apply, hstart]
  constructor
  · rintro ⟨left, hleft, hname, _⟩
    have hquiet : ∀ s ∈ statementsOf other before,
        s.step ≠ .createTables ∧ s.step ≠ .addIndexes := by
      intro s hs
      have hrank : s.step.rank ≤ Step.addForeignKeys.rank :=
        rank_le_of_mem_before ha.keyed hb hplan (mem_statementsOf.mp hs)
      have hchange := (hown s).mp (hmem s hs)
      constructor
      · intro heq
        rw [heq] at hchange
        cases hchange
      · intro heq
        rw [heq] at hrank
        exact absurd hrank (by decide)
    obtain ⟨j, hj, hjname, hstays⟩ := origin_of_mem_foldl hleft hquiet
    refine (TableDifference.keeps_iff_not_dropped hni hi).mpr
      ⟨j, hj, hjname.trans hname, fun hgone => hstays ?_⟩
    have hdrop : (other, .dropIndex j.name) ∈ (a.planTo b).statements :=
      (hown _).mpr ((TableDifference.dropIndex_mem_altered hoi hj).mpr hgone)
    rw [← hjname]
    exact mem_statementsOf.mpr (mem_before ha.keyed hb hplan hdrop
      (show Step.dropIndexes.rank < Step.addForeignKeys.rank by decide))
  · rintro ⟨j, hj, hname, hstays⟩
    rw [TableDifference.staysAs, Bool.and_eq_true, Bool.not_eq_true'] at hstays
    obtain ⟨hsame, hquiet⟩ := hstays
    have hjleads : j.Leads columns := Index.leads_of_same hsame hleads
    have hkept : j ∉ TableDifference.droppedIndexes old new := by
      rw [TableDifference.mem_droppedIndexes_iff hni hj, not_not]
      exact ⟨⟨i, hi, hname.symm, hsame⟩, hquiet⟩
    rw [← hname]
    refine hasIndex_foldl ⟨j, hj, rfl, hjleads⟩ hne fun s hs => ?_
    exact TableDifference.spares_altered (ha.coherent hda holdMem) hoi
      (fun j hj part hpart => ha.part_column_mem holdMem hj hpart) hj hkept hquiet hjleads
      hattributes ((hown s).mp (hmem s hs))

/-- **When a foreign key comes, an index that the new model declares on the columns it points at is
there** exactly if their table is new or keeps one.  An index that is not there comes later. -/
theorem indexed_for_key_iff (ha : a.Sound) (hb : b.Sound) (hda : a.DistinctConstraints)
    (hia : a.DistinctIndexes) (hib : b.DistinctIndexes)
    (hplan : (a.planTo b).statements = before ++ (table, .add (.foreignKey key)) :: later)
    {foreign : Entity} (hforeign : b.ofTable? key.foreignTable = some foreign)
    (hdeclared : ∃ i ∈ foreign.indexes, i.Leads key.foreignColumns) :
    ((∃ i ∈ foreign.indexes, i.Leads key.foreignColumns ∧
      HasIndex ((IndexCatalog.ofModel a).run before key.foreignTable) i.name key.foreignColumns) ↔
        ∀ old, a.ofTable? key.foreignTable = some old →
          ∃ i ∈ foreign.indexes, i.Leads key.foreignColumns ∧
            TableDifference.Keeps old foreign i) ∧
    ∀ i ∈ foreign.indexes, i.Leads key.foreignColumns →
      HasIndex ((IndexCatalog.ofModel a).run before key.foreignTable) i.name key.foreignColumns ∨
        (key.foreignTable, .add (.index i)) ∈ later := by
  obtain ⟨found, hfound, hne, hattributes⟩ :=
    exists_referenced ha.keyed hb (mem_of_split hplan)
  obtain rfl : found = foreign := Option.some.inj (hfound.symm.trans hforeign)
  cases hold : a.ofTable? key.foreignTable with
  | none =>
    have hthere := fun i (hi : i ∈ found.indexes) (hleads : i.Leads key.foreignColumns) =>
      hasIndex_created ha.keyed hb.keyed hplan hold hforeign hi hleads hne
    obtain ⟨i, hi, hleads⟩ := hdeclared
    refine ⟨iff_of_true ⟨i, hi, hleads, hthere i hi hleads⟩ (fun _ h => nomatch h), ?_⟩
    exact fun j hj hjleads => .inl (hthere j hj hjleads)
  | some old =>
    have hiff := fun i (hi : i ∈ found.indexes) (hleads : i.Leads key.foreignColumns) =>
      hasIndex_altered_iff ha hb.keyed hda hplan hold hforeign (hia old (mem_of_ofTable? hold).1)
        (hib found (mem_of_ofTable? hforeign).1) hi hleads hne hattributes
    constructor
    · constructor
      · rintro ⟨i, hi, hleads, hthere⟩ _ ⟨⟩
        exact ⟨i, hi, hleads, (hiff i hi hleads).mp hthere⟩
      · intro h
        obtain ⟨i, hi, hleads, hkept⟩ := h old rfl
        exact ⟨i, hi, hleads, (hiff i hi hleads).mpr hkept⟩
    · intro i hi hleads
      by_cases hkept : TableDifference.Keeps old found i
      · exact .inl ((hiff i hi hleads).mpr hkept)
      · refine .inr (mem_later ha.keyed hb.keyed hplan ?_
          (show Step.addForeignKeys.rank < Step.addIndexes.rank by decide))
        refine (mem_planTo_of_altered ha.keyed hb.keyed hold hforeign).mpr ?_
        have hadded := TableDifference.mem_addedIndexes_of_not_keeps hi hkept
        exact List.mem_flatMap.mpr ⟨i, hadded, List.mem_singleton.mpr rfl⟩

/-- When ships get their home port, the index on the code of a port is there. -/
theorem harbor_indexed_for_key :
    Harbor.indexed.Sound ∧ Harbor.berthed.Sound ∧ Harbor.indexed.DistinctConstraints ∧
    Harbor.indexed.DistinctIndexes ∧ Harbor.berthed.DistinctIndexes ∧
    (∃ i ∈ (Harbor.port [Harbor.linkedIndex]).indexes, i.Leads Harbor.homeKey.foreignColumns) ∧
    ∃ i ∈ (Harbor.port [Harbor.linkedIndex]).indexes, i.Leads Harbor.homeKey.foreignColumns ∧
      HasIndex ((IndexCatalog.ofModel Harbor.indexed).run
        [("ship", .add (.column { name := "home_code", type := "CHAR(5)" }))] "port") i.name
        Harbor.homeKey.foreignColumns := by
  have hconstraints : Harbor.indexed.DistinctConstraints := by decide
  have hindexes : Harbor.indexed.DistinctIndexes := by decide
  have hindexes' : Harbor.berthed.DistinctIndexes := by decide
  have hleads : Harbor.linkedIndex.Leads Harbor.homeKey.foreignColumns := by decide
  have hdeclared : ∃ i ∈ (Harbor.port [Harbor.linkedIndex]).indexes,
      i.Leads Harbor.homeKey.foreignColumns := ⟨_, List.mem_singleton.mpr rfl, hleads⟩
  refine ⟨Harbor.sound_indexed, Harbor.sound_berthed, hconstraints, hindexes, hindexes', hdeclared,
    ?_⟩
  refine (indexed_for_key_iff Harbor.sound_indexed Harbor.sound_berthed hconstraints hindexes
    hindexes' Harbor.statements_indexed Harbor.ofTable?_berthed hdeclared).1.mpr fun old hold => ?_
  exact ⟨_, List.mem_singleton.mpr rfl, hleads, Harbor.indexed_keeps hold⟩

/-- Not every index is there when a foreign key comes: that on the code of a port is not, if ships
get their home port with it. -/
theorem harbor_not_indexed_for_key :
    Harbor.plain.Sound ∧ Harbor.berthed.Sound ∧ Harbor.plain.DistinctConstraints ∧
    Harbor.berthed.DistinctConstraints ∧ Harbor.plain.DistinctIndexes ∧
    Harbor.berthed.DistinctIndexes ∧
    ¬ ∀ before table key later, (Harbor.plain.planTo Harbor.berthed).statements =
        before ++ (table, .add (.foreignKey key)) :: later →
      ∀ foreign, Harbor.berthed.ofTable? key.foreignTable = some foreign →
        (∃ i ∈ foreign.indexes, i.Leads key.foreignColumns) →
          ∃ i ∈ (IndexCatalog.ofModel Harbor.plain).run before key.foreignTable,
            i.Leads key.foreignColumns := by
  refine ⟨Harbor.sound_plain, Harbor.sound_berthed, by decide, by decide,
    by decide, by decide, fun hindexed => ?_⟩
  obtain ⟨i, hi, _⟩ := hindexed _ _ _ _ Harbor.statements_plain _ Harbor.ofTable?_berthed
    ⟨Harbor.linkedIndex, List.mem_singleton.mpr rfl, by decide⟩
  rw [IndexCatalog.run_apply, IndexCatalog.ofModel,
    show Harbor.homeKey.foreignTable = "port" from rfl, Harbor.ofTable?_plain] at hi
  cases hi

end DataModel

end Schemata
