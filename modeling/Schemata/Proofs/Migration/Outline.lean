import Schemata.Proofs.Migration.Equivalence

/-!
# What a plan compares

A table is created with more than a plan looks at.  Between two versions of a table, a plan compares
columns by name and type, references by their foreign keys and indexes by their records; whether a
column takes null, counts up or has a default and which columns are the primary key is written when
the table is created and compared nowhere.

The outline of a table is what is left of its definitions without these.  A plan is empty exactly
where all tables have the same outlines up to order.  One direction builds the outlines from members
that match.  In the other, an outline gives the members back: it does not say which columns are
those of references, but its foreign keys do.

What the statements that create the tables say of their outlines is then the same too.  This does
not go back: a fulltext index is written without its uniqueness, which a plan compares.

* `Matched.perm_map` - lists that match both ways have the same images up to order;
* `sameOutline_iff` - outlines are the same where columns, indexes and foreign keys are;
* `matches_iff_sameOutline` - tables match exactly where their outlines are the same;
* `SameOutline.sameTexts` - tables of the same outline are declared with the same texts;
* `isEmpty_planTo_exact` - an empty plan means tables of the same outlines and the same texts;
* `theater_tables_differ` - an empty plan between models that create different tables.
-/

namespace Schemata

/-- The part of an index with its direction: one that is not written is ascending. -/
def IndexPart.written (p : IndexPart) : IndexPart :=
  { name := p.column, sortOrder := some p.direction, length := p.length }

/-- The index with all directions, as a plan compares it.  It has more than its definition says:
there a fulltext or spatial index is written without its uniqueness. -/
def Index.written (i : Index) : Index := { i with parts := i.parts.map (·.written) }

/-- The column by its name and type alone. -/
def ColumnDefinition.outline (c : ColumnDefinition) : ColumnDefinition :=
  { name := c.name, type := normalizedType c.type }

namespace Definition

/-- The definition with types without case and blanks and with all directions. -/
def written : Definition → Definition
  | .column c => .column { c with type := normalizedType c.type }
  | .primaryKey columns => .primaryKey columns
  | .index i => .index i.written
  | .foreignKey key => .foreignKey key

/-- What a plan compares of the definition: of a column its name and type, of a primary key
nothing. -/
def outline? : Definition → Option Definition
  | .column c => some (.column c.outline)
  | .primaryKey _ => none
  | .index i => some (.index i.written)
  | .foreignKey key => some (.foreignKey key)

end Definition

namespace Statement

/-- The definitions of the table that the statement creates. -/
def created : Statement → List Definition
  | .create definitions => definitions
  | _ => []

end Statement

namespace Entity

/-- What a plan compares of the table of an entity, in the order in which it is created. -/
def outline (e : Entity) : List Definition := e.creation.created.filterMap (·.outline?)

/-- A plan sees no difference between the tables of the two entities, up to the order of
definitions. -/
def SameOutline (e f : Entity) : Prop := e.outline.Perm f.outline

/-- What the statement that creates the table says of what a plan compares: the definitions of its
columns by name and type, of its indexes and of its foreign keys, in words. -/
def outlineTexts (e : Entity) : List String := e.outline.map Mysql.definition

/-- The statements that create the two tables declare the same columns by name and type, the same
indexes and the same foreign keys, up to the order of definitions. -/
def SameTexts (e f : Entity) : Prop := e.outlineTexts.Perm f.outlineTexts

/-- The statements that create the two tables declare the same in all, up to the order of
definitions, the case and the blanks of types and directions that are not written. -/
def SameTable (e f : Entity) : Prop :=
  (e.creation.created.map fun d => Mysql.definition d.written).Perm
    (f.creation.created.map fun d => Mysql.definition d.written)

instance (e f : Entity) : Decidable (e.SameTable f) := inferInstanceAs (Decidable (List.Perm _ _))

end Entity

/-- **Lists that match both ways have the same images up to order,** under a map that sees no more
than a match compares. -/
theorem Matched.perm_map {α β γ : Type} [BEq β] [LawfulBEq β] {key : α → β}
    {same : α → α → Bool} {l l' : List α} {g : α → γ} (hl : (l.map key).Nodup)
    (hl' : (l'.map key).Nodup) (h : Matched key same l l') (h' : Matched key same l' l)
    (hg : ∀ x y, key x = key y → same x y = true → g x = g y) :
    (l.map g).Perm (l'.map g) := by
  -- Together with their keys, the images are distinct, so that membership decides.
  let tagged : α → β × γ := fun x => (key x, g x)
  have hnodup : ∀ {l : List α}, (l.map key).Nodup → (l.map tagged).Nodup := by
    intro l hkeys
    apply List.Nodup.of_map Prod.fst
    rw [List.map_map]
    exact hkeys
  have hsubset : ∀ {l l' : List α}, Matched key same l l' →
      ∀ p ∈ l.map tagged, p ∈ l'.map tagged := by
    intro l l' hmatched p hp
    obtain ⟨x, hx, rfl⟩ := List.mem_map.mp hp
    obtain ⟨y, hy, hsame⟩ := hmatched.exists_same hx
    obtain ⟨hmem, hkey⟩ := Lookup.mem_of_find?_key hy
    have himage : g x = g y := hg x y hkey.symm hsame
    exact List.mem_map.mpr ⟨y, hmem, Prod.ext hkey himage.symm⟩
  have hperm : (l.map tagged).Perm (l'.map tagged) := by
    apply (List.perm_ext_iff_of_nodup (hnodup hl) (hnodup hl')).mpr
    intro p
    exact ⟨hsubset h p, hsubset h' p⟩
  have hsnd := hperm.map Prod.snd
  rw [List.map_map, List.map_map] at hsnd
  exact hsnd

namespace Index

/-- Indexes are the same with all directions if they have one name and a plan sees no difference. -/
theorem written_eq_iff {i i' : Index} :
    i.written = i'.written ↔ i.name = i'.name ∧ i.same i' = true := by
  have hparts : i.parts.map (·.written) = i'.parts.map (·.written) ↔
      i.parts.map (·.key) = i'.parts.map (·.key) := by
    constructor
    · intro h
      have hmap := congrArg (List.map fun p : IndexPart =>
        (p.name, p.sortOrder.getD .ascending, p.length)) h
      rw [List.map_map, List.map_map] at hmap
      exact hmap
    · intro h
      have hmap := congrArg (List.map fun k : String × SortOrder × Option UInt32 =>
        ({ name := k.1, sortOrder := some k.2.1, length := k.2.2 } : IndexPart)) h
      rw [List.map_map, List.map_map] at hmap
      exact hmap
  simp only [written, same, Index.mk.injEq, hparts, Bool.and_eq_true, beq_iff_eq, and_assoc]

/-- The definition of a fulltext or spatial index does not say whether the index is unique. -/
theorem definition_unique {i : Index} {type : String} (htype : i.type = some type)
    (hkind : Mysql.isIndexKind type = true) (unique : Bool) :
    Mysql.indexDefinition { i with unique } = Mysql.indexDefinition i := by
  simp only [Mysql.indexDefinition, Mysql.indexKind, Mysql.indexMethod, htype, hkind, if_true]

/-- Two fulltext indexes with one definition, of which a plan replaces one by the other. -/
example :
    let i : Index :=
      { name := "idx_title", parts := [{ name := "title" }], type := some "fulltext" }
    Mysql.indexDefinition { i with unique := true } = Mysql.indexDefinition i ∧
      { i with unique := true }.same i = false :=
  ⟨definition_unique rfl rfl true, by decide⟩

end Index

namespace Reference

variable {r r' : Reference}

/-- The same foreign key brings the same columns. -/
theorem outlines_of_same (h : r.same r') :
    r.definitions.map (·.outline) = r'.definitions.map (·.outline) := by
  have houtline : ∀ r : Reference, r.definitions.map (·.outline) =
      (r.columns.map (·.key)).map fun k => { name := k.1, type := k.2.2 } := by
    intro r
    rw [definitions, List.map_map, List.map_map]
    rfl
  rw [houtline, houtline, keys_of_same h]

/-- References with the same foreign key are the same where their columns have the same types. -/
theorem same_of_foreignKey (h : r.foreignKey = r'.foreignKey) (hr : r.foreignTable?.isSome)
    (hr' : r'.foreignTable?.isSome) (type : String → Option String)
    (htype : ∀ c ∈ r.columns, type c.column = some (normalizedType c.type))
    (htype' : ∀ c ∈ r'.columns, type c.column = some (normalizedType c.type)) :
    r.same r' = true := by
  simp only [foreignKey, ForeignKey.mk.injEq] at h
  obtain ⟨_, hcolumns, htable, hforeign, honDelete, honUpdate⟩ := h
  have htable' : r.foreignTable? = r'.foreignTable? := by
    obtain ⟨table, ht⟩ := Option.isSome_iff_exists.mp hr
    obtain ⟨table', ht'⟩ := Option.isSome_iff_exists.mp hr'
    rw [ht, ht', Option.getD_some, Option.getD_some] at htable
    rw [ht, ht', htable]
  have hkeys : ∀ r : Reference,
      (∀ c ∈ r.columns, type c.column = some (normalizedType c.type)) →
      r.columns.map (·.key) =
        ((r.columns.map (·.column)).zip (r.columns.map (·.foreignColumn))).map
          fun p => (p.1, p.2, (type p.1).getD "") := by
    intro r hknown
    rw [List.zip_map', List.map_map]
    apply List.map_congr_left
    intro c hc
    simp only [LinkedColumn.key, Function.comp_apply, hknown c hc, Option.getD_some]
  have hsame : r.columns.map (·.key) = r'.columns.map (·.key) := by
    rw [hkeys r htype, hkeys r' htype', hcolumns, hforeign]
  simp only [same, htable', honDelete, honUpdate, hsame, beq_self_eq_true, Bool.and_self]

end Reference

namespace Entity

variable {e f : Entity}

/-- The outline of a table: its columns, then its indexes, then its foreign keys. -/
theorem outline_eq (e : Entity) :
    e.outline =
      (e.columnDefinitions.map (·.outline)).map .column ++ (e.indexes.map (·.written)).map .index ++
        (e.linkedReferences.map (·.foreignKey)).map .foreignKey := by
  have hkey : e.keyDefinition.filterMap (·.outline?) = [] := by
    unfold keyDefinition
    split <;> rfl
  have hcreated : e.creation.created = e.definitions ++ e.foreignKeys := rfl
  rw [outline, hcreated, definitions, foreignKeys, List.filterMap_append, List.filterMap_append,
    List.filterMap_append, hkey, List.append_nil]
  simp only [List.filterMap_map, List.map_map, Function.comp_def, Definition.outline?,
    List.filterMap_eq_map']

/-- **A plan sees no difference** between two tables exactly where columns, indexes and foreign keys
are the same in some order. -/
theorem sameOutline_iff :
    e.SameOutline f ↔
      (e.columnDefinitions.map (·.outline)).Perm (f.columnDefinitions.map (·.outline)) ∧
      (e.indexes.map (·.written)).Perm (f.indexes.map (·.written)) ∧
      (e.linkedReferences.map (·.foreignKey)).Perm (f.linkedReferences.map (·.foreignKey)) := by
  have hcolumns : ∀ e : Entity, e.outline.filterMap (·.column?) =
      e.columnDefinitions.map (·.outline) := by
    intro e
    rw [outline_eq]
    simp [List.filterMap_map, Function.comp_def, Definition.column?]
  have hindexes : ∀ e : Entity, e.outline.filterMap (·.index?) = e.indexes.map (·.written) := by
    intro e
    rw [outline_eq]
    simp [List.filterMap_map, Function.comp_def, Definition.index?]
  have hkeys : ∀ e : Entity, e.outline.filterMap (·.foreignKey?) =
      e.linkedReferences.map (·.foreignKey) := by
    intro e
    rw [outline_eq]
    simp [List.filterMap_map, Function.comp_def, Definition.foreignKey?]
  constructor
  · intro h
    rw [← hcolumns, ← hcolumns, ← hindexes, ← hindexes, ← hkeys, ← hkeys]
    exact ⟨h.filterMap _, h.filterMap _, h.filterMap _⟩
  · intro h
    obtain ⟨hcolumn, hindex, hkey⟩ := h
    rw [SameOutline, outline_eq, outline_eq]
    exact ((hcolumn.map _).append (hindex.map _)).append (hkey.map _)

/-- Tables of the same outline are declared with the same texts. -/
theorem SameOutline.sameTexts (h : e.SameOutline f) : e.SameTexts f :=
  h.map Mysql.definition

/-- Tables that match have the same outline. -/
theorem Matches.sameOutline (h : e.Matches f) (he : e.Coherent) (hf : f.Coherent)
    (hei : (e.indexes.map (·.name)).Nodup) (hfi : (f.indexes.map (·.name)).Nodup) :
    e.SameOutline f := by
  obtain ⟨hcovered, hcovered'⟩ := h
  have hattributes : (e.attributes.map (·.definition.outline)).Perm
      (f.attributes.map (·.definition.outline)) := by
    apply hcovered.attributes.perm_map he.attributes_nodup hf.attributes_nodup hcovered'.attributes
    intro a a' hcolumn hsame
    have htype := (Attribute.sameType_iff a a').mp hsame
    simp only [Attribute.definition, ColumnDefinition.outline, hcolumn, htype]
  have hreferences : (e.references.map fun r => r.definitions.map (·.outline)).Perm
      (f.references.map fun r => r.definitions.map (·.outline)) := by
    apply hcovered.references.perm_map he.constraints hf.constraints hcovered'.references
    intro r r' _ hsame
    exact Reference.outlines_of_same hsame
  have hindexes : (e.indexes.map (·.written)).Perm (f.indexes.map (·.written)) := by
    apply hcovered.indexes.perm_map hei hfi hcovered'.indexes
    intro i i' hname hsame
    exact Index.written_eq_iff.mpr ⟨hname, hsame⟩
  have hkeys : (e.references.map (·.foreignKey)).Perm (f.references.map (·.foreignKey)) := by
    apply hcovered.references.perm_map he.constraints hf.constraints hcovered'.references
    intro r r' hname hsame
    exact Reference.foreignKey_of_same hsame hname
  have hcolumns : ∀ e : Entity, e.columnDefinitions.map (·.outline) =
      e.attributes.map (·.definition.outline) ++
        (e.references.map fun r => r.definitions.map (·.outline)).flatten := by
    intro e
    rw [columnDefinitions, List.map_append, List.map_map, List.map_flatMap, List.flatMap_def]
    rfl
  rw [sameOutline_iff, hcolumns, hcolumns, he.linkedReferences_eq, hf.linkedReferences_eq]
  exact ⟨hattributes.append hreferences.flatten, hindexes, hkeys⟩

/-- Columns that are the same in some order are found alike. -/
theorem types_of_perm (he : e.Coherent)
    (h : (e.columnDefinitions.map (·.outline)).Perm (f.columnDefinitions.map (·.outline)))
    (name : String) :
    ((Table.ofEntity e).columns name).map (·.outline) =
      ((Table.ofEntity f).columns name).map (·.outline) := by
  have hfind : ∀ e : Entity, ((Table.ofEntity e).columns name).map (·.outline) =
      (e.columnDefinitions.map (·.outline)).find? (·.name == name) := by
    intro e
    rw [Table.columns_ofEntity, List.find?_map]
    rfl
  have hnames : ((e.columnDefinitions.map (·.outline)).map (·.name)).Nodup := by
    rw [List.map_map]
    show (e.columnDefinitions.map (·.name)).Nodup
    rw [he.names_columnDefinitions]
    exact he.columns
  rw [hfind, hfind]
  exact Lookup.find?_perm h hnames name

/-- Where the foreign keys are the same, the column of an attribute is the column of a reference on
neither side: its foreign key would make it one on both. -/
theorem column_ne_of_foreignKeys (he : e.Coherent)
    (hkeys : (e.references.map (·.foreignKey)).Perm (f.references.map (·.foreignKey)))
    {a : Attribute} (ha : a ∈ e.attributes) {r' : Reference} (hr' : r' ∈ f.references)
    {c : LinkedColumn} (hc : c ∈ r'.columns) : c.column ≠ a.column := by
  intro hname
  have hkey : r'.foreignKey ∈ e.references.map (·.foreignKey) :=
    hkeys.mem_iff.mpr (List.mem_map_of_mem hr')
  obtain ⟨r, hr, hsame⟩ := List.mem_map.mp hkey
  have hlocal : r.columns.map (·.column) = r'.columns.map (·.column) :=
    (congrArg (·.columns) hsame :)
  have hmember : a.column ∈ r.columnNames := by
    rw [← he.names r hr, hlocal, ← hname]
    exact List.mem_map_of_mem hc
  exact he.apart ha (mem_referenceColumns.mpr ⟨r, hr, hmember⟩)

/-- Tables of the same outline declare the same. -/
theorem SameOutline.covered (h : e.SameOutline f) (he : e.Coherent) (hf : f.Coherent)
    (hfi : (f.indexes.map (·.name)).Nodup) : e.Covered f := by
  obtain ⟨hcolumns, hindexes, hkeys⟩ := sameOutline_iff.mp h
  rw [he.linkedReferences_eq, hf.linkedReferences_eq] at hkeys
  have htypes := types_of_perm he hcolumns
  constructor
  case attributes =>
    intro a ha
    have hcolumn := htypes a.column
    rw [Table.columns_ofEntity_attribute he ha] at hcolumn
    obtain ⟨c, hc, houtline⟩ := Option.map_eq_some_iff.mp hcolumn.symm
    rw [Table.columns_ofEntity] at hc
    obtain ⟨hmem, hname⟩ := Lookup.mem_of_find?_key hc
    have htype : normalizedType c.type = normalizedType a.type := (congrArg (·.type) houtline :)
    rcases List.mem_append.mp hmem with hattribute | hreference
    · obtain ⟨a', ha', rfl⟩ := List.mem_map.mp hattribute
      have hfound : f.attributes.find? (·.column == a.column) = some a' :=
        hname ▸ Lookup.find?_key hf.attributes_nodup ha'
      rw [hfound, Option.any_some, Attribute.sameType_iff]
      exact htype.symm
    · obtain ⟨r', hr', hdefinition⟩ := List.mem_flatMap.mp hreference
      obtain ⟨c', hc', rfl⟩ := List.mem_map.mp hdefinition
      exact absurd hname (column_ne_of_foreignKeys he hkeys ha hr' hc')
  case references =>
    intro r hr
    have hkey : r.foreignKey ∈ f.references.map (·.foreignKey) :=
      hkeys.mem_iff.mp (List.mem_map_of_mem hr)
    obtain ⟨r', hr', hsame⟩ := List.mem_map.mp hkey
    have hname : r'.constraint = r.constraint := (congrArg (·.constraint) hsame :)
    have hfound : f.references.find? (·.constraint == r.constraint) = some r' :=
      hname ▸ Lookup.find?_key hf.constraints hr'
    rw [hfound, Option.any_some]
    apply Reference.same_of_foreignKey hsame.symm (he.linked r hr) (hf.linked r' hr')
      (fun name => ((Table.ofEntity f).columns name).map (normalizedType ·.type))
    · intro c hc
      have hcolumn := htypes c.column
      rw [Table.columns_ofEntity_reference he hr hc] at hcolumn
      have htype := congrArg (Option.map (·.type)) hcolumn.symm
      rw [Option.map_map] at htype
      exact htype
    · intro c hc
      rw [Table.columns_ofEntity_reference hf hr' hc]
      rfl
  case indexes =>
    intro i hi
    have hwritten : i.written ∈ f.indexes.map (·.written) :=
      hindexes.mem_iff.mp (List.mem_map_of_mem hi)
    obtain ⟨i', hi', heq⟩ := List.mem_map.mp hwritten
    obtain ⟨hname, hsame⟩ := Index.written_eq_iff.mp heq
    have hfound : f.indexes.find? (·.name == i.name) = some i' :=
      hname ▸ Lookup.find?_key hfi hi'
    rw [hfound, Option.any_some]
    exact Index.same_symm hsame

/-- **Tables match exactly where their outlines are the same.** -/
theorem matches_iff_sameOutline (he : e.Coherent) (hf : f.Coherent)
    (hei : (e.indexes.map (·.name)).Nodup) (hfi : (f.indexes.map (·.name)).Nodup) :
    e.Matches f ↔ e.SameOutline f := by
  constructor
  · intro h
    exact h.sameOutline he hf hei hfi
  · intro h
    have hback : f.SameOutline e := h.symm
    exact ⟨h.covered he hf hfi, hback.covered hf he hei⟩

end Entity

namespace DataModel

variable {a b : DataModel}

/-- A plan is empty exactly where both models have the same tables with the same outlines. -/
theorem isEmpty_planTo_iff_sameOutline (ha : a.Sound) (hb : b.Sound)
    (hac : a.DistinctConstraints) (hbc : b.DistinctConstraints) (hai : a.DistinctIndexes)
    (hbi : b.DistinctIndexes) :
    (a.planTo b).isEmpty = true ↔
      ∀ table, Option.Rel Entity.SameOutline (a.ofTable? table) (b.ofTable? table) := by
  rw [isEmpty_planTo_iff (.of_sound ha hac hai) (.of_sound hb hbc hbi)]
  refine forall_congr' fun table => ?_
  cases hold : a.ofTable? table with
  | none =>
    cases hnew : b.ofTable? table with
    | none => exact ⟨fun _ => .none, fun _ => .none⟩
    | some new => exact ⟨nofun, nofun⟩
  | some old =>
    cases hnew : b.ofTable? table with
    | none => exact ⟨nofun, nofun⟩
    | some new =>
      have hmem := (mem_of_ofTable? hold).1
      have hmem' := (mem_of_ofTable? hnew).1
      have hiff := Entity.matches_iff_sameOutline (ha.coherent hac hmem) (hb.coherent hbc hmem')
        (hai old hmem) (hbi new hmem')
      rw [Option.rel_some_some, Option.rel_some_some]
      exact hiff

/-- **An empty plan means tables of the same outlines,** and so the statements that create them
declare the same columns by name and type, the same indexes and the same foreign keys. -/
theorem isEmpty_planTo_exact (ha : a.Sound) (hb : b.Sound) (hac : a.DistinctConstraints)
    (hbc : b.DistinctConstraints) (hai : a.DistinctIndexes) (hbi : b.DistinctIndexes) :
    ((a.planTo b).isEmpty = true →
      ∀ table, Option.Rel Entity.SameTexts (a.ofTable? table) (b.ofTable? table)) ∧
    ((a.planTo b).isEmpty = true ↔
      ∀ table, Option.Rel Entity.SameOutline (a.ofTable? table) (b.ofTable? table)) := by
  have hiff := isEmpty_planTo_iff_sameOutline ha hb hac hbc hai hbi
  refine ⟨?_, hiff⟩
  intro hempty table
  have houtline := hiff.mp hempty table
  generalize a.ofTable? table = old, b.ofTable? table = new at houtline ⊢
  cases houtline with
  | some h => exact .some h.sameTexts
  | none => exact .none

end DataModel

namespace Theater

/-- Seats are counted up, and their numbers may be left open. -/
def openSeats : Entity :=
  { id := .ofNat 1, className := "Seat", table := "seat",
    attributes := [.identity, .plain "number" "INT"] }

/-- Nothing counts seats up; their numbers belong to the key and start at zero. -/
def keyedSeats : Entity :=
  { id := .ofNat 2, className := "Seat", table := "seat",
    attributes := [(Attribute.plain "id" "INT").primary,
      { (Attribute.plain "number" "INT").primary with defaultValue := some "0" }] }

def opening : DataModel := { entities := [openSeats] : DataModel }.linkAll

def season : DataModel := { entities := [keyedSeats] : DataModel }.linkAll

theorem sound_opening : opening.Sound :=
  .of_entities (by decide) (by decide) (by decide) (by decide)

theorem sound_season : season.Sound :=
  .of_entities (by decide) (by decide) (by decide) (by decide)

end Theater

namespace DataModel

open Theater

/-- A plan sees no difference between the two tables of seats: both declare the same columns. -/
theorem theater_same_texts :
    opening.Sound ∧ season.Sound ∧ opening.DistinctConstraints ∧ season.DistinctConstraints ∧
    opening.DistinctIndexes ∧ season.DistinctIndexes ∧ (opening.planTo season).isEmpty = true ∧
    ∀ table, Option.Rel Entity.SameTexts (opening.ofTable? table) (season.ofTable? table) := by
  have hac : opening.DistinctConstraints := by decide
  have hbc : season.DistinctConstraints := by decide
  have hai : opening.DistinctIndexes := by decide
  have hbi : season.DistinctIndexes := by decide
  have hempty : (opening.planTo season).isEmpty = true := by decide +kernel
  exact ⟨sound_opening, sound_season, hac, hbc, hai, hbi, hempty,
    (isEmpty_planTo_exact sound_opening sound_season hac hbc hai hbi).1 hempty⟩

/-- **An empty plan does not mean that both models create the same tables.**  What may be null, what
counts up, what has a default and what the primary key is differs here. -/
theorem theater_tables_differ :
    opening.Sound ∧ season.Sound ∧ opening.DistinctConstraints ∧ season.DistinctConstraints ∧
    opening.DistinctIndexes ∧ season.DistinctIndexes ∧ (opening.planTo season).isEmpty = true ∧
    opening.ofTable? "seat" = some openSeats ∧ season.ofTable? "seat" = some keyedSeats ∧
    ¬ openSeats.SameTable keyedSeats ∧
    ¬ (openSeats.columnDefinitions.map fun c => (c.name, c.notNull)).Perm
      (keyedSeats.columnDefinitions.map fun c => (c.name, c.notNull)) ∧
    ¬ (openSeats.columnDefinitions.map fun c => (c.name, c.autoIncrement)).Perm
      (keyedSeats.columnDefinitions.map fun c => (c.name, c.autoIncrement)) ∧
    ¬ (openSeats.columnDefinitions.map fun c => (c.name, c.defaultValue)).Perm
      (keyedSeats.columnDefinitions.map fun c => (c.name, c.defaultValue)) ∧
    ¬ (openSeats.primaryKey.map (·.column)).Perm (keyedSeats.primaryKey.map (·.column)) ∧
    openSeats.creation.created.map Mysql.definition =
      ["`id` INT NOT NULL AUTO_INCREMENT", "`number` INT", "PRIMARY KEY (`id`)"] ∧
    keyedSeats.creation.created.map Mysql.definition =
      ["`id` INT NOT NULL", "`number` INT NOT NULL DEFAULT 0", "PRIMARY KEY (`id`, `number`)"] := by
  have hempty : (opening.planTo season).isEmpty = true := by decide +kernel
  refine ⟨sound_opening, sound_season, by decide, by decide, by decide,
    by decide, hempty, by decide, by decide, ?_⟩
  decide +kernel

end DataModel

end Schemata
