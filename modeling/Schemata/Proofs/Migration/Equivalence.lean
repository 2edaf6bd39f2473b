import Schemata.Proofs.Migration.TableByTable
import Schemata.Proofs.Model.Declaration

/-!
# Models without a difference

A plan is empty where both models hold the same tables, and every table has in both the same
columns, foreign keys and indexes under the same names.  Whether that is so does not depend on the
order of registration, nor on which of the models is the old one.

* `altered_eq_nil_iff` - two versions of a table that match need no statement, and only they;
* `isEmpty_planTo_iff` - a plan is empty exactly between models whose tables match;
* `isEmpty_planTo_equivalence` - having an empty plan is an equivalence, for which only the
  declarations count.
-/

namespace Schemata

section Matching

variable {α β : Type} [BEq β]

/-- Under the key of each element of the first list, the second one holds the same. -/
def Matched (key : α → β) (same : α → α → Bool) (l l' : List α) : Prop :=
  ∀ x ∈ l, (l'.find? (key · == key x)).any (same x) = true

namespace Matched

variable {key : α → β} {same : α → α → Bool} {l l' l'' : List α}

/-- What is matched has the same beside it, found under its key. -/
theorem exists_same (h : Matched key same l l') {x : α} (hx : x ∈ l) :
    ∃ y, l'.find? (key · == key x) = some y ∧ same x y :=
  (Option.any_eq_true _ _).mp (h x hx)

variable [LawfulBEq β]

/-- Matching goes on from list to list where being the same does. -/
theorem trans (hsame : ∀ {x y z : α}, same x y → same y z → same x z)
    (h : Matched key same l l') (h' : Matched key same l' l'') : Matched key same l l'' := by
  intro x hx
  obtain ⟨y, hy, hxy⟩ := h.exists_same hx
  obtain ⟨hmem, hkey⟩ := Lookup.mem_of_find?_key hy
  obtain ⟨z, hz, hyz⟩ := h'.exists_same hmem
  rw [hkey] at hz
  rw [hz, Option.any_some]
  exact hsame hxy hyz

/-- Lists that are the same element by element match, where keys are distinct. -/
theorem of_forall₂ (hnodup : (l'.map key).Nodup)
    (h : List.Forall₂ (fun x y => key x = key y ∧ same x y = true) l l') :
    Matched key same l l' := by
  have hpartner : ∀ x ∈ l, ∃ y ∈ l', key x = key y ∧ same x y = true := by
    clear hnodup
    induction h with
    | nil => simp
    | @cons x y _ _ hxy _ ih =>
      rw [List.forall_mem_cons]
      refine ⟨⟨y, List.mem_cons_self, hxy⟩, fun x' hx' => ?_⟩
      obtain ⟨y', hy', hxy'⟩ := ih x' hx'
      exact ⟨y', List.mem_cons_of_mem _ hy', hxy'⟩
  intro x hx
  obtain ⟨y, hy, hkey, hsame⟩ := hpartner x hx
  rw [hkey, Lookup.find?_key hnodup hy, Option.any_some]
  exact hsame

end Matched

end Matching

/-- Which attribute comes first does not matter for their types. -/
theorem Attribute.sameType_comm (a b : Attribute) : a.sameType b = b.sameType a :=
  BEq.comm

/-- Which index comes first does not matter. -/
theorem Index.same_comm (a b : Index) : a.same b = b.same a :=
  Bool.eq_iff_iff.mpr ⟨Index.same_symm, Index.same_symm⟩

/-- What the entity declares for its table is the same in the other version. -/
structure Entity.Covered (e f : Entity) : Prop where
  attributes : Matched (·.column) Attribute.sameType e.attributes f.attributes
  references : Matched (·.constraint) Reference.same e.references f.references
  indexes : Matched (·.name) Index.same e.indexes f.indexes

/-- The two versions of a table declare the same. -/
def Entity.Matches (e f : Entity) : Prop := e.Covered f ∧ f.Covered e

namespace Entity

variable {e f g : Entity}

/-- What covers a table covers those that it covers. -/
theorem Covered.trans (h : e.Covered f) (h' : f.Covered g) : e.Covered g where
  attributes := h.attributes.trans
    (fun hxy hyz => (Attribute.sameType_iff _ _).mpr
      (((Attribute.sameType_iff _ _).mp hxy).trans ((Attribute.sameType_iff _ _).mp hyz)))
    h'.attributes
  references := h.references.trans Reference.same_trans h'.references
  indexes := h.indexes.trans Index.same_trans h'.indexes

/-- Tables match both ways. -/
theorem Matches.symm (h : e.Matches f) : f.Matches e := ⟨h.2, h.1⟩

/-- Tables that match the same one match each other. -/
theorem Matches.trans (h : e.Matches f) (h' : f.Matches g) : e.Matches g :=
  ⟨h.1.trans h'.1, h'.2.trans h.2⟩

end Entity

namespace TableDifference

variable {old new : Entity}

/-- Nothing happens to a table exactly if nothing happens in any step. -/
theorem statements_eq_nil_iff {d : TableDifference} : d.statements = [] ↔ ∀ step, d step = [] := by
  rw [statements, List.flatMap_eq_nil_iff]
  constructor
  · intro h step
    exact h step (by cases step <;> decide)
  · intro h step _
    exact h step

/-- No reference changes exactly where each has the same one under its constraint. -/
theorem changedReferences_eq_nil_iff :
    changedReferences old new = [] ↔
      Matched (·.constraint) Reference.same old.references new.references := by
  rw [changedReferences, List.filter_eq_nil_iff]
  simp only [Bool.not_eq_true', Bool.not_eq_false]
  rfl

/-- Where no reference is rebuilt, an old index stays as any new one with the same definition. -/
theorem staysAs_of_unchanged (h : changedReferences old new = []) :
    staysAs old new = Index.same := by
  have hrebuilt : rebuiltColumns old new = [] := by
    rw [rebuiltColumns, h]
    rfl
  funext i i'
  simp [staysAs, touches, hrebuilt]

/-- Where no reference changes, an index is dropped only for lack of the same one. -/
theorem droppedIndexes_eq_nil_iff (h : changedReferences old new = []) :
    droppedIndexes old new = [] ↔ Matched (·.name) Index.same old.indexes new.indexes := by
  rw [droppedIndexes, List.filter_eq_nil_iff]
  simp only [staysAs_of_unchanged h, Bool.not_eq_true', Bool.not_eq_false]
  rfl

/-- Where no reference changes, an index is added only for lack of the same one. -/
theorem addedIndexes_eq_nil_iff (h : changedReferences old new = []) :
    addedIndexes old new = [] ↔ Matched (·.name) Index.same new.indexes old.indexes := by
  have hsame : ∀ new : Index, (Index.same · new) = new.same := by
    intro i
    funext i'
    exact Index.same_comm i' i
  rw [addedIndexes, List.filter_eq_nil_iff]
  simp only [staysAs_of_unchanged h, Bool.not_eq_true', Bool.not_eq_false, hsame]
  rfl

/-- An attribute changes exactly where it had no column of the same type. -/
theorem attributeChange_eq_nil_iff {before : Option Attribute} {after : Attribute} :
    attributeChange before (some after) = [] ↔ before.any after.sameType = true := by
  cases before with
  | none => simp [attributeChange]
  | some a => simp [attributeChange, Attribute.sameType_comm a]

/-- **Columns need no statement** exactly where the foreign keys and the attributes match. -/
theorem columnChanges_eq_nil_iff (hnodup : (old.attributes.map (·.column)).Nodup)
    (hold : changedReferences old new = []) (hnew : changedReferences new old = []) :
    columnChanges old new = [] ↔
      Matched (·.column) Attribute.sameType old.attributes new.attributes ∧
      Matched (·.column) Attribute.sameType new.attributes old.attributes := by
  have hkept : columnChanges old new = [] ↔
      (∀ a ∈ old.attributes, (new.attributeOfColumn? a.column).isSome = true) ∧
      Matched (·.column) Attribute.sameType new.attributes old.attributes := by
    simp only [columnChanges, hold, hnew, List.flatMap_nil, List.nil_append, List.append_nil,
      List.append_eq_nil_iff, List.flatMap_eq_nil_iff, attributeChange_eq_nil_iff]
    refine and_congr_left fun _ => ?_
    simp [attributeChange, Option.isSome_iff_ne_none]
  rw [hkept]
  refine and_congr_left fun hmatched => ⟨fun hfound a ha => ?_, fun h a ha => ?_⟩
  · -- What is found under the column has its own partner there, which is where we came from.
    obtain ⟨a', ha'⟩ := Option.isSome_iff_exists.mp (hfound a ha)
    obtain ⟨hmem, hcolumn⟩ := Entity.mem_of_attributeOfColumn? ha'
    have hback : old.attributeOfColumn? a.column = some a := Lookup.find?_key hnodup ha
    have hpartner : (old.attributeOfColumn? a'.column).any a'.sameType = true := hmatched a' hmem
    rw [hcolumn, hback, Option.any_some, Attribute.sameType_comm] at hpartner
    show (new.attributeOfColumn? a.column).any a.sameType = true
    rw [ha', Option.any_some]
    exact hpartner
  · obtain ⟨a', ha', _⟩ := h.exists_same ha
    exact Option.isSome_iff_exists.mpr ⟨a', ha'⟩

/-- A table needs no statement where none of its parts goes away, changes or comes in. -/
theorem altered_eq_nil_iff_unchanged :
    (altered old new).statements = [] ↔
      changedReferences old new = [] ∧ changedReferences new old = [] ∧
      droppedIndexes old new = [] ∧ addedIndexes old new = [] ∧ columnChanges old new = [] := by
  have hdroppedKeys : altered old new .dropForeignKeys = [] ↔ changedReferences old new = [] :=
    List.map_eq_nil_iff
  have haddedKeys : altered old new .addForeignKeys = [] ↔ changedReferences new old = [] :=
    List.map_eq_nil_iff
  have hdropped : altered old new .dropIndexes = [] ↔ droppedIndexes old new = [] := by
    simp only [altered, indexChange, ← List.map_eq_flatMap, List.map_eq_nil_iff]
  have hadded : altered old new .addIndexes = [] ↔ addedIndexes old new = [] := by
    simp only [altered, indexChange, ← List.map_eq_flatMap, List.map_eq_nil_iff]
  rw [statements_eq_nil_iff, ← hdroppedKeys, ← haddedKeys, ← hdropped, ← hadded]
  constructor
  · intro h
    exact ⟨h .dropForeignKeys, h .addForeignKeys, h .dropIndexes, h .addIndexes, h .changeColumns⟩
  · rintro ⟨hdropKeys, haddKeys, hdropIndexes, haddIndexes, hcolumns⟩ step
    cases step with
    | dropForeignKeys => exact hdropKeys
    | dropIndexes => exact hdropIndexes
    | dropTables => rfl
    | createTables => rfl
    | changeColumns => exact hcolumns
    | addForeignKeys => exact haddKeys
    | addIndexes => exact haddIndexes

/-- **Two versions of a table that match need no statement, and only they.** -/
theorem altered_eq_nil_iff (hnodup : (old.attributes.map (·.column)).Nodup) :
    (altered old new).statements = [] ↔ old.Matches new := by
  rw [altered_eq_nil_iff_unchanged]
  constructor
  · rintro ⟨hold, hnew, hdropped, hadded, hcolumns⟩
    obtain ⟨hcovered, hcovered'⟩ := (columnChanges_eq_nil_iff hnodup hold hnew).mp hcolumns
    exact
      ⟨{ attributes := hcovered
         references := changedReferences_eq_nil_iff.mp hold
         indexes := (droppedIndexes_eq_nil_iff hold).mp hdropped },
       { attributes := hcovered'
         references := changedReferences_eq_nil_iff.mp hnew
         indexes := (addedIndexes_eq_nil_iff hold).mp hadded }⟩
  · rintro ⟨hcovered, hcovered'⟩
    have hold := changedReferences_eq_nil_iff.mpr hcovered.references
    have hnew := changedReferences_eq_nil_iff.mpr hcovered'.references
    exact ⟨hold, hnew, (droppedIndexes_eq_nil_iff hold).mpr hcovered.indexes,
      (addedIndexes_eq_nil_iff hold).mpr hcovered'.indexes,
      (columnChanges_eq_nil_iff hnodup hold hnew).mpr ⟨hcovered.attributes, hcovered'.attributes⟩⟩

end TableDifference

namespace DataModel

variable {a b c : DataModel}

/-- A linked model in which names and identities tell everything apart. -/
structure Distinct (m : DataModel) : Prop where
  finished : m.Finished
  ids : (m.entities.map (·.id)).Nodup
  /-- No entity has two attributes of one column. -/
  columns : ∀ e ∈ m.entities, (e.attributes.map (·.column)).Nodup
  constraints : m.DistinctConstraints
  indexes : m.DistinctIndexes

/-- Validation finds columns that members share, but not constraints or indexes of one name. -/
theorem Distinct.of_sound {m : DataModel} (h : m.Sound) (hconstraints : m.DistinctConstraints)
    (hindexes : m.DistinctIndexes) : m.Distinct where
  finished := h.finished
  ids := h.distinctIds
  columns := fun _ he => (List.nodup_append.mp (h.columnNames_nodup he)).1
  constraints := hconstraints
  indexes := hindexes

/-- Tables and identities tell the entities of such a model apart. -/
theorem Distinct.keyed {m : DataModel} (h : m.Distinct) : m.Keyed := h.finished.keyed h.ids

/-- The two models hold the same tables, and the versions of each match. -/
def Matches (a b : DataModel) : Prop :=
  ∀ table, Option.Rel Entity.Matches (a.ofTable? table) (b.ofTable? table)

theorem Matches.symm (h : a.Matches b) : b.Matches a := by
  intro table
  have hab := h table
  generalize a.ofTable? table = old at hab ⊢
  generalize b.ofTable? table = new at hab ⊢
  cases hab with
  | some hef => exact .some hef.symm
  | none => exact .none

theorem Matches.trans (h : a.Matches b) (h' : b.Matches c) : a.Matches c := by
  intro table
  have hab := h table
  have hbc := h' table
  generalize a.ofTable? table = old at hab
  generalize b.ofTable? table = middle at hab hbc
  generalize c.ofTable? table = new at hbc
  cases hab with
  | some hef =>
    cases hbc with
    | some hfg => exact .some (hef.trans hfg)
  | none =>
    cases hbc with
    | none => exact .none

/-- A plan is empty if nothing happens to any table. -/
theorem isEmpty_planTo (ha : a.Keyed) (hb : b.Keyed) :
    (a.planTo b).isEmpty = true ↔ ∀ table, (a.tableDifference b table).statements = [] := by
  have hstatements : (a.planTo b).isEmpty = true ↔ (a.planTo b).statements = [] := by
    rw [Plan.isEmpty, List.isEmpty_iff, Plan.statements, List.flatMap_eq_nil_iff]
    constructor
    · intro h
      simp [h]
    · intro h
      refine List.eq_nil_iff_forall_not_mem.mpr fun s hs => ?_
      exact statements_nonempty hs (List.map_eq_nil_iff.mp (h s hs))
  rw [hstatements]
  constructor
  · intro h table
    rw [← statementsOf_planTo ha hb, h]
    rfl
  · intro h
    refine List.eq_nil_iff_forall_not_mem.mpr ?_
    rintro ⟨table, s⟩ hs
    have hmem := mem_statementsOf.mpr hs
    rw [statementsOf_planTo ha hb, h] at hmem
    cases hmem

/-- **A plan is empty exactly between models whose tables match.** -/
theorem isEmpty_planTo_iff (ha : a.Distinct) (hb : b.Distinct) :
    (a.planTo b).isEmpty = true ↔ a.Matches b := by
  rw [isEmpty_planTo ha.keyed hb.keyed]
  refine forall_congr' fun table => ?_
  cases hold : a.ofTable? table with
  | none =>
    cases hnew : b.ofTable? table with
    | none =>
      simp only [tableDifference, hold, hnew]
      exact ⟨fun _ => .none, fun _ => rfl⟩
    | some new =>
      simp only [tableDifference, hold, hnew]
      constructor
      · intro h
        rw [TableDifference.statements_created] at h
        cases h
      · intro h
        cases h
  | some old =>
    cases hnew : b.ofTable? table with
    | none =>
      simp only [tableDifference, hold, hnew]
      constructor
      · intro h
        cases h
      · intro h
        cases h
    | some new =>
      simp only [tableDifference, hold, hnew]
      rw [TableDifference.altered_eq_nil_iff (ha.columns old (mem_of_ofTable? hold).1)]
      constructor
      · exact .some
      · rintro (h | _)
        exact h

/-- The same entity in models of the same declarations covers itself. -/
theorem Distinct.covered (ha : a.Distinct) (hb : b.Distinct)
    (h : a.declarations.Perm b.declarations) {e f : Entity} (he : e ∈ a.entities)
    (hf : f ∈ b.entities) (hef : e.declared = f.declared) : e.Covered f where
  attributes := by
    rw [Entity.attributes_congr hef]
    refine .of_forall₂ (hb.columns f hf) (List.forall₂_same.mpr fun x _ => ⟨rfl, ?_⟩)
    exact (Attribute.sameType_iff x x).mpr rfl
  references := by
    refine .of_forall₂ (hb.constraints f hf) ?_
    refine (ha.finished.references_congr hb.finished h he hf hef).imp ?_
    rintro r r' ⟨hdeclared, htable, hcolumns⟩
    have hconstraint : r.constraint = r'.constraint := (congrArg (·.constraint) hdeclared :)
    have honDelete : r.onDelete = r'.onDelete := (congrArg (·.onDelete) hdeclared :)
    have honUpdate : r.onUpdate = r'.onUpdate := (congrArg (·.onUpdate) hdeclared :)
    refine ⟨hconstraint, ?_⟩
    simp only [Reference.same, Bool.and_eq_true, beq_iff_eq]
    exact ⟨⟨⟨htable, honDelete⟩, honUpdate⟩, hcolumns ▸ rfl⟩
  indexes := by
    rw [ha.finished.indexes_congr hb.finished he hf hef]
    exact .of_forall₂ (hb.indexes f hf) (List.forall₂_same.mpr fun i _ => ⟨rfl, i.same_refl⟩)

/-- **Only declarations count:** models of the same declarations match, in whatever order they
register them. -/
theorem matches_of_declarations (ha : a.Distinct) (hb : b.Distinct)
    (h : a.declarations.Perm b.declarations) : a.Matches b := by
  intro table
  have htables : (a.declarations.map (·.table)).Nodup := by
    rw [declarations, List.map_map]
    exact ha.keyed.tables
  have hdeclared : ∀ m : DataModel,
      m.declarations.find? (·.table == table) = (m.ofTable? table).map (·.declared) :=
    fun m => List.find?_map ..
  have hfound : (a.ofTable? table).map (·.declared) = (b.ofTable? table).map (·.declared) := by
    rw [← hdeclared, ← hdeclared, Lookup.find?_perm h htables]
  cases hold : a.ofTable? table with
  | none =>
    rw [hold, Option.map_none] at hfound
    rw [Option.map_eq_none_iff.mp hfound.symm]
    exact .none
  | some old =>
    rw [hold, Option.map_some] at hfound
    obtain ⟨new, hnew, hsame⟩ := Option.map_eq_some_iff.mp hfound.symm
    have hmem := (mem_of_ofTable? hold).1
    have hmem' := (mem_of_ofTable? hnew).1
    rw [hnew]
    exact .some ⟨ha.covered hb h hmem hmem' hsame.symm, hb.covered ha h.symm hmem' hmem hsame⟩

/-- **Having an empty plan is an equivalence** for which only the declarations count: neither
identities nor the order of registration. -/
theorem isEmpty_planTo_equivalence (ha : a.Distinct) (hb : b.Distinct) (hc : c.Distinct) :
    (b.declarations.Perm a.declarations → (a.planTo b).isEmpty = true) ∧
    ((a.planTo b).isEmpty = true → (b.planTo a).isEmpty = true) ∧
    ((a.planTo b).isEmpty = true → (b.planTo c).isEmpty = true → (a.planTo c).isEmpty = true) := by
  rw [isEmpty_planTo_iff ha hb, isEmpty_planTo_iff hb ha, isEmpty_planTo_iff hb hc,
    isEmpty_planTo_iff ha hc]
  exact ⟨fun h => matches_of_declarations ha hb h.symm, Matches.symm, Matches.trans⟩

end DataModel

namespace Choir

/-- Singers by name, each with a voice, by which they can be found in some order. -/
def singers (id : Nat) (sortOrder : Option SortOrder) : Entity :=
  { id := .ofNat id, className := "Singer", table := "singer",
    attributes := [.identity, .plain "name" "TEXT"],
    references := [.toKey "voice" "Voice" "singer_voice" "voice_id"],
    indexes := [{ name := "by_voice", parts := [{ name := "voice_id", sortOrder }] }] }

def voices (id : Nat) : Entity :=
  { id := .ofNat id, className := "Voice", table := "voice", attributes := [.identity] }

def winter : DataModel := { entities := [singers 1 none, voices 2] : DataModel }.linkAll

/-- The same declarations as in winter, read again in another order. -/
def spring : DataModel := { entities := [voices 3, singers 4 none] : DataModel }.linkAll

/-- The usual order of the index is written out. -/
def summer : DataModel :=
  { entities := [singers 5 (some .ascending), voices 6] : DataModel }.linkAll

theorem distinct_winter : winter.Distinct :=
  .of_sound (.of_entities (by decide) (by decide) (by decide) (by decide))
    (by decide) (by decide)

theorem distinct_spring : spring.Distinct :=
  .of_sound (.of_entities (by decide) (by decide) (by decide) (by decide))
    (by decide) (by decide)

theorem distinct_summer : summer.Distinct :=
  .of_sound (.of_entities (by decide) (by decide) (by decide) (by decide))
    (by decide) (by decide)

/-- The two models declare the same in another order. -/
theorem declarations_spring : spring.declarations.Perm winter.declarations := by
  rw [spring, winter, DataModel.declarations_linkAll, DataModel.declarations_linkAll]
  exact .swap ..

end Choir

/-- Nothing happens between any two seasons of the choir. -/
theorem DataModel.choir_equivalence :
    Choir.winter.Distinct ∧ Choir.spring.Distinct ∧ Choir.summer.Distinct ∧
    Choir.spring.declarations.Perm Choir.winter.declarations ∧
    (Choir.winter.planTo Choir.spring).isEmpty = true ∧
    (Choir.spring.planTo Choir.winter).isEmpty = true ∧
    (Choir.spring.planTo Choir.summer).isEmpty = true ∧
    (Choir.winter.planTo Choir.summer).isEmpty = true := by
  obtain ⟨hsame, hsymm, htrans⟩ := isEmpty_planTo_equivalence Choir.distinct_winter
    Choir.distinct_spring Choir.distinct_summer
  have hspring := hsame Choir.declarations_spring
  have hsummer : (Choir.spring.planTo Choir.summer).isEmpty = true := by decide +kernel
  exact ⟨Choir.distinct_winter, Choir.distinct_spring, Choir.distinct_summer,
    Choir.declarations_spring, hspring, hsymm hspring, hsummer, htrans hspring hsummer⟩

end Schemata
