import Schemata.Generation.ModelFile
import Schemata.Proofs.Model.Declaration

/-!
# What a model file shows of other entities

The model file of an entity is written from what the entity declares and from what its links find
elsewhere: tables, columns and types behind its references, the entities and columns that its
collectors lead through, and the accessors that other entities ask it for.  These are its
surroundings; nothing else in the model comes into the file.

* `fields_congr`, `accessors_congr` - fields and accessors follow from declaration and surroundings;
* `modelFile_congr` - so does the whole model file.
-/

namespace Schemata.Generation

/-- The names of an entity that show elsewhere. -/
structure Label where
  className : String
  table : String
  deriving DecidableEq, Repr

/-- Columns of a reference, each with the column it points at. -/
abbrev Pairs := List (String × String)

def label (e : Entity) : Label := ⟨e.className, e.table⟩

def pairs (r : Reference) : Pairs := r.columns.map fun c => (c.column, c.foreignColumn)

/-- What shows of a linked reference: the table it points at, and the columns with their types. -/
structure ReferenceView where
  table : Option String
  columns : List (String × String × FieldType)
  deriving DecidableEq, Repr

def referenceView (r : Reference) : ReferenceView :=
  { table := r.foreignTable?
    columns := r.columns.map fun c => (c.column, c.foreignColumn, .ofColumnType c.type) }

/-- What shows of a way over a mapping entity: where it leads, and the columns that point there and
back. -/
structure Crossing where
  target : Label
  mapping : Label
  toTarget : Pairs
  toSource : Pairs
  deriving DecidableEq, Repr

/-- What shows of the way of a collector: a reference of the foreign entity that points back, or a
mapping entity. -/
inductive CollectorView where
  | direct (foreign : Label) (back : Pairs)
  | crossing (way : Crossing)
  deriving DecidableEq, Repr

/-- What shows of a request for an accessor: who asks, for which collector, and the way there. -/
structure RequestView where
  originClass : String
  collector : String
  way : Crossing
  deriving DecidableEq, Repr

/-- What an entity shows of other entities.  A collector without an accessor shows nothing, and of
the requests only those count that are met. -/
structure Surroundings where
  references : List ReferenceView
  collectors : List (Option CollectorView)
  requests : List RequestView
  deriving DecidableEq, Repr

def crossing (target mapping : Entity) (toTarget toSource : Reference) : Crossing :=
  { target := label target
    mapping := label mapping
    toTarget := pairs toTarget
    toSource := pairs toSource }

def collectorView? (m : DataModel) (owner : Entity) (c : Collector) : Option CollectorView :=
  if c.isComplete m then do
    let foreign ← m.entity? (← c.foreign?)
    let handle ← c.reference?
    if c.kind.isManyToMany then do
      let mapping ← m.entity? (← c.mapping?)
      let toTarget ← mapping.reference? handle.name
      let toSource ← otherSide? mapping handle.name owner.table
      return .crossing (crossing foreign mapping toTarget toSource)
    else do
      let r ← foreign.reference? handle.name
      return .direct (label foreign) (pairs r)
  else none

def requestView? (m : DataModel) (r : Reciprocal) : Option RequestView := do
  let origin ← m.entity? r.origin
  let mapping ← m.entity? (← r.mapping)
  let collector ← origin.collector? r.collector
  let toThis ← mapping.reference? collector.kind.reference
  let toOrigin ← otherSide? mapping collector.kind.reference origin.table
  return {
    originClass := r.originClass
    collector := r.collector
    way := crossing origin mapping toOrigin toThis }

/-- What the model file of an entity shows of other entities. -/
def surroundings (m : DataModel) (e : Entity) : Surroundings :=
  { references := e.references.map referenceView
    collectors := e.collectors.map (collectorView? m e)
    requests := (m.reciprocalsFor e.id).filterMap (requestView? m) }

/-- The accessor that goes a way over a mapping entity. -/
def Crossing.accessor (way : Crossing) (name summary : String) : Accessor :=
  { name
    summary
    bindings := way.toSource.map (·.2)
    query := .linked way.target.table way.mapping.table way.toTarget (way.toSource.map (·.1)) }

/-- The accessor of a collector of a name, by what shows of it. -/
def CollectorView.accessor (name : String) : CollectorView → Accessor
  | .direct foreign back =>
    { name := getterName (Naming.accessor name)
      summary :=
        "Select the " ++ shown foreign.className ++ " rows collected by " ++ shown name ++ "."
      bindings := back.map (·.2)
      query := .rows foreign.table (back.map (·.1)) }
  | .crossing way =>
    way.accessor (getterName (Naming.accessor name))
      ("Select the " ++ shown way.target.className ++ " rows linked through " ++
        shown way.mapping.className ++ ".")

/-- The accessor that is asked for, by what shows of the request. -/
def RequestView.accessor (view : RequestView) : Accessor :=
  view.way.accessor
    (getterName (Naming.accessor (Naming.shortName view.originClass) ++
      Naming.accessor view.collector))
    ("Select the " ++ shown view.way.target.className ++ " rows linking here through " ++
      shown view.way.mapping.className ++ " (collector " ++ shown view.collector ++ ").")

section

variable {α β γ δ : Type}

/-- What is made of a value that may be missing can be made of a part of the value that tells enough
of it. -/
theorem bind_eq_map_bind {o : Option α} {f : α → Option γ} {g : α → Option β} {h : β → γ}
    (hsame : ∀ x, f x = (g x).map h) : o.bind f = (o.bind g).map h := by
  cases o with
  | none => rfl
  | some x => exact hsame x

/-- Lists that are the same in two respects are the same in any that follows from both. -/
theorem map_congr_of_map_eq {l l' : List α} {f : α → β} {g g' : α → γ} {k k' : α → δ}
    (hf : l.map f = l'.map f) (hg : l.map g = l'.map g')
    (hsame : ∀ x x', f x = f x' → g x = g' x' → k x = k' x') : l.map k = l'.map k' :=
  map_eq_map_iff_forall₂.mpr
    ((map_eq_map_iff_forall₂.mp hf).mp hsame (map_eq_map_iff_forall₂.mp hg))

end

variable {m m' : DataModel} {e e' : Entity} {r r' : Reference}

/-- The own columns of a linked reference, read off its pairs. -/
theorem columns_pairs (r : Reference) : r.columns.map (·.column) = (pairs r).map (·.1) := by
  simp [pairs, Function.comp_def]

/-- The foreign columns of a linked reference, read off its pairs. -/
theorem foreignColumns_pairs (r : Reference) :
    r.columns.map (·.foreignColumn) = (pairs r).map (·.2) := by
  simp [pairs, Function.comp_def]

/-- References that show alike pair the same columns. -/
theorem pairs_eq_of_referenceView (h : referenceView r = referenceView r') :
    pairs r = pairs r' := by
  have hpairs : ∀ r, pairs r = (referenceView r).columns.map fun c => (c.1, c.2.1) := by
    intro r
    simp [pairs, referenceView, Function.comp_def]
  rw [hpairs, hpairs, h]

/-- The fields of a reference follow from its declaration and from what shows of it. -/
theorem referenceFields_congr (hdeclared : r.declared = r'.declared)
    (hview : referenceView r = referenceView r') : referenceFields r = referenceFields r' := by
  have hname : r.name = r'.name := (congrArg (·.name) hdeclared :)
  have hrequired : r.required = r'.required := (congrArg (·.required) hdeclared :)
  have hcode : ∀ (type : String) (nullable : Bool), fieldCode type nullable =
      if nullable then s!"Option<{(FieldType.ofColumnType type).code}>"
      else (FieldType.ofColumnType type).code := fun _ _ => rfl
  have hfields : ∀ r, referenceFields r = (referenceView r).columns.map fun c =>
      { doc := some ("Column of reference " ++ shown r.name)
        name := fieldName c.1
        type := if !r.required then s!"Option<{c.2.2.code}>" else c.2.2.code } := by
    intro r
    simp only [referenceFields, referenceView, List.map_map, Function.comp_def, hcode]
  rw [hfields, hfields, hview, hname, hrequired]

/-- **The fields of an entity** follow from its declaration and from what shows of its
references. -/
theorem fields_congr (hdeclared : e.declared = e'.declared)
    (hviews : e.references.map referenceView = e'.references.map referenceView) :
    fields e = fields e' := by
  have hreferences : e.references.map (·.declared) = e'.references.map (·.declared) :=
    (congrArg (·.references) hdeclared :)
  have hfields : e.references.map referenceFields = e'.references.map referenceFields :=
    map_congr_of_map_eq hreferences hviews fun _ _ => referenceFields_congr
  rw [fields, fields, Entity.attributes_congr hdeclared, List.flatMap_def, List.flatMap_def,
    hfields]

/-- References declared alike that show alike have one accessor. -/
theorem referenceAccessor?_congr (hdeclared : r.declared = r'.declared)
    (hview : referenceView r = referenceView r') :
    referenceAccessor? r = referenceAccessor? r' := by
  have hname : r.name = r'.name := (congrArg (·.name) hdeclared :)
  have hclass : r.foreignClass = r'.foreignClass := (congrArg (·.foreignClass) hdeclared :)
  have htable : r.foreignTable? = r'.foreignTable? :=
    show (referenceView r).table = (referenceView r').table from hview ▸ rfl
  simp only [referenceAccessor?, Reference.accessor, columns_pairs, foreignColumns_pairs,
    pairs_eq_of_referenceView hview, hname, hclass, htable]

/-- The query over a mapping entity, by what shows of it. -/
theorem linkedQuery_eq (target mapping : Entity) (toTarget toSource : Reference) :
    linkedQuery target mapping toTarget toSource =
      .linked target.table mapping.table (pairs toTarget) ((pairs toSource).map (·.1)) := by
  rw [linkedQuery, columns_pairs]
  rfl

/-- **The accessor of a collector** is made of what shows of its way. -/
theorem collectorAccessor?_eq (m : DataModel) (owner : Entity) (c : Collector) :
    collectorAccessor? m owner c =
      (collectorView? m owner c).map (CollectorView.accessor c.name) := by
  rw [collectorAccessor?, collectorView?]
  split
  · refine bind_eq_map_bind fun _ => bind_eq_map_bind fun foreign =>
      bind_eq_map_bind fun handle => ?_
    split
    · refine bind_eq_map_bind fun _ => bind_eq_map_bind fun mapping =>
        bind_eq_map_bind fun toTarget => bind_eq_map_bind fun toSource => ?_
      rw [foreignColumns_pairs, linkedQuery_eq]
      rfl
    · refine bind_eq_map_bind fun r => ?_
      rw [foreignColumns_pairs, columns_pairs]
      rfl
  · rfl

/-- **The accessor that is asked for** is made of what shows of the request. -/
theorem reciprocalAccessor?_eq (m : DataModel) (r : Reciprocal) :
    reciprocalAccessor? m r = (requestView? m r).map RequestView.accessor := by
  rw [reciprocalAccessor?, requestView?]
  refine bind_eq_map_bind fun origin => bind_eq_map_bind fun _ => bind_eq_map_bind fun mapping =>
    bind_eq_map_bind fun collector => bind_eq_map_bind fun toThis =>
      bind_eq_map_bind fun toOrigin => ?_
  rw [foreignColumns_pairs, linkedQuery_eq]
  rfl

/-- The accessors that the relations give, kind by kind. -/
theorem accessorsOf_relations (m : DataModel) (e : Entity) :
    accessorsOf (relations m e) =
      (e.references.map referenceAccessor?).filterMap id
        ++ (e.collectors.map (collectorAccessor? m e)).filterMap id
        ++ (m.reciprocalsFor e.id).filterMap (reciprocalAccessor? m) := by
  rw [accessorsOf, relations, List.filterMap_append, List.filterMap_append]
  simp only [List.filterMap_map, Function.comp_def, id_eq]
  congr 1
  · congr 1
    · congr
      funext r
      cases referenceAccessor? r <;> rfl
    · congr
      funext c
      cases collectorAccessor? m e c <;> rfl
  · congr
    funext r
    cases reciprocalAccessor? m r <;> rfl

/-- **The accessors of an entity** follow from its declaration and its surroundings. -/
theorem accessors_congr (hdeclared : e.declared = e'.declared)
    (hsame : surroundings m e = surroundings m' e') : accessors m e = accessors m' e' := by
  have hreferences : e.references.map referenceAccessor? = e'.references.map referenceAccessor? :=
    map_congr_of_map_eq (congrArg (·.references) hdeclared :)
      (congrArg Surroundings.references hsame) fun _ _ => referenceAccessor?_congr
  have hcollectors : e.collectors.map (collectorAccessor? m e) =
      e'.collectors.map (collectorAccessor? m' e') := by
    refine map_congr_of_map_eq (congrArg (·.collectors) hdeclared :)
      (congrArg Surroundings.collectors hsame) fun c c' hc hview => ?_
    have hname : c.name = c'.name := (congrArg (·.name) hc :)
    rw [collectorAccessor?_eq, collectorAccessor?_eq, hview, hname]
  have hrequests : (m.reciprocalsFor e.id).filterMap (reciprocalAccessor? m) =
      (m'.reciprocalsFor e'.id).filterMap (reciprocalAccessor? m') := by
    have hmade : ∀ (m : DataModel) (e : Entity),
        (m.reciprocalsFor e.id).filterMap (reciprocalAccessor? m) =
          (surroundings m e).requests.map RequestView.accessor := by
      intro m e
      simp only [surroundings, List.map_filterMap, reciprocalAccessor?_eq]
    rw [hmade, hmade, hsame]
  rw [accessors, accessors, accessorsOf_relations, accessorsOf_relations, hreferences, hcollectors,
    hrequests]

/-- **A model file** follows from what its entity declares and from its surroundings. -/
theorem modelFile_congr (hdeclared : e.declared = e'.declared)
    (hsame : surroundings m e = surroundings m' e') : modelFile m e = modelFile m' e' := by
  have hclass : e.className = e'.className := (congrArg (·.className) hdeclared :)
  have hfullName : e.fullName = e'.fullName := (congrArg (·.fullName) hdeclared :)
  have htable := Entity.table_congr hdeclared
  have hmodule : moduleName e = moduleName e' := by
    rw [moduleName, moduleName, Entity.shortName, Entity.shortName, hclass]
  have hname : structName e = structName e' := by
    rw [structName, structName, Entity.shortName, Entity.shortName, hclass]
  have hkey : e.primaryKey = e'.primaryKey := by
    rw [Entity.primaryKey, Entity.primaryKey, Entity.attributes_congr hdeclared]
  have hfields : fields e = fields e' :=
    fields_congr hdeclared (congrArg Surroundings.references hsame)
  have hstruct : structText e = structText e' := by
    rw [structText, structText, htable, hname, hfields]
  have himpl : implText m e = implText m' e' := by
    unfold implText
    rw [hname, htable, Entity.columnNames_congr hdeclared, hkey, accessors_congr hdeclared hsame]
  rw [modelFile, modelFile, modelText, modelText, hmodule, hfullName, htable, hstruct, himpl]

end Schemata.Generation
