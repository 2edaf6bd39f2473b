import Mathlib.Data.List.Forall2
import Schemata.Proofs.Model.Sound

/-!
# What a model declares

A schema declares entities and their members.  Identities are drawn when it is read, and links are
found when it is linked; neither is declared.  What the links of a model say follows from what it
declares, in whatever order the entities were registered.

* `Grown.fullNames_nodup` - no two registered entities share a class;
* `find?_of_map` - a class name finds the same entity after a change that keeps classes and
  namespaces;
* `find?_congr` - the same declarations answer to a class name alike;
* `Finished.references_congr`, `Finished.indexes_congr` - in models of the same declarations, the
  same entity has the same foreign keys and indexes.
-/

namespace Schemata

/-- The reference as it is declared, without its link. -/
def Reference.declared (r : Reference) : Reference := { r with resolution := .unresolved }

/-- The index as it is declared, without the columns that its parts turned out to mean. -/
def Index.declared (i : Index) : Index :=
  { i with parts := i.parts.map fun part => { part with linked := none } }

/-- Linking an index to columns that its parts name declares nothing. -/
theorem Index.declared_link (i : Index) (column : IndexPart → Option String) :
    (i.link (i.parts.map column)).declared = i.declared := by
  simp [declared, link, List.zipWith_map_right, List.zipWith_self]

/-- The columns of an index follow from what it declares. -/
theorem Index.link_declared (i : Index) (column : String → Option String) :
    i.declared.link (i.declared.parts.map fun part => column part.name) =
      i.link (i.parts.map fun part => column part.name) := by
  simp [declared, link, List.zipWith_map_left, List.zipWith_map_right, List.zipWith_self]

/-- The collector as it is declared, without its links. -/
def Collector.declared (c : Collector) : Collector := { c with binding := {} }

/-- The entity as it is declared: class, table and members, without identity, links and news of its
files. -/
def Entity.declared (e : Entity) : Entity :=
  { e with
    id := .nil
    changed := false
    references := e.references.map (·.declared)
    indexes := e.indexes.map (·.declared)
    collectors := e.collectors.map (·.declared) }

/-- What a model declares, in order of registration. -/
def DataModel.declarations (m : DataModel) : List Entity := m.entities.map (·.declared)

/-- Two lists with the same images are the same, element by element, up to what is left out. -/
theorem map_eq_map_iff_forall₂ {α β γ : Type} {f : α → γ} {g : β → γ} {l : List α} {l' : List β} :
    l.map f = l'.map g ↔ List.Forall₂ (fun x y => f x = g y) l l' := by
  rw [← List.forall₂_eq_eq_eq, List.forall₂_map_left_iff, List.forall₂_map_right_iff]

namespace Lookup

variable {α β : Type}

/-- The order of a list does not matter where keys are distinct. -/
theorem find?_perm [BEq β] [LawfulBEq β] {l l' : List α} {key : α → β} (h : l.Perm l')
    (hnodup : (l.map key).Nodup) (k : β) :
    l.find? (fun x => key x == k) = l'.find? (fun x => key x == k) := by
  have hnodup' : (l'.map key).Nodup := (h.map key).nodup_iff.mp hnodup
  cases hfound : l.find? (fun x => key x == k) with
  | none =>
    rw [find?_key_eq_none, (h.map key).mem_iff] at hfound
    exact (find?_key_eq_none.mpr hfound).symm
  | some x =>
    obtain ⟨hx, rfl⟩ := mem_of_find?_key hfound
    exact (find?_key hnodup' (h.mem_iff.mp hx)).symm

end Lookup

namespace Entity

variable {e f : Entity}

/-- Linking declares nothing. -/
theorem declared_linkedIn (m : DataModel) (e : Entity) : (e.linkedIn m).declared = e.declared := by
  simp [linkedIn, linkCollectors, linkReferences, linkIndexes, declared, linkIndex,
    Index.declared_link, Reference.declared, Reference.linkIn, Collector.declared,
    Collector.linkIn, Function.comp_def]

/-- Entities declared alike have the same attributes. -/
theorem attributes_congr (h : e.declared = f.declared) : e.attributes = f.attributes :=
  (congrArg (·.attributes) h :)

/-- Entities declared alike have the same table. -/
theorem table_congr (h : e.declared = f.declared) : e.table = f.table := (congrArg (·.table) h :)

/-- Entities declared alike have references declared alike, in the same order. -/
theorem references_forall₂ (h : e.declared = f.declared) :
    List.Forall₂ (fun r r' => r.declared = r'.declared) e.references f.references :=
  map_eq_map_iff_forall₂.mp (congrArg (·.references) h :)

/-- Resolution does not touch the columns of an entity's references. -/
theorem referenceColumns_declared (e : Entity) :
    e.declared.referenceColumns = e.referenceColumns := by
  simp [referenceColumns, declared, Reference.declared, Reference.columnNames, List.flatMap_map]

/-- The columns of the table are declared. -/
theorem columnNames_congr (h : e.declared = f.declared) : e.columnNames = f.columnNames := by
  rw [columnNames, columnNames, attributes_congr h, ← referenceColumns_declared e,
    ← referenceColumns_declared f, h]

/-- What columns an index part can name is declared. -/
theorem columnOf?_declared (e : Entity) (name : String) :
    e.declared.columnOf? name = e.columnOf? name := by
  rw [columnOf?, columnOf?, referenceColumns_declared]
  rfl

/-- Indexes are linked to what the entity declares. -/
theorem indexes_linkedIn (m : DataModel) (e : Entity) :
    (e.linkedIn m).indexes = e.declared.indexes.map e.declared.linkIndex := by
  let typed : Entity := { e with references := e.references.map (Reference.linkIn m) }
  have htyped : typed.declared = e.declared := by
    simp [typed, declared, Reference.declared, Reference.linkIn, Function.comp_def]
  show e.indexes.map typed.linkIndex = (e.indexes.map (·.declared)).map e.declared.linkIndex
  rw [List.map_map]
  refine List.map_congr_left fun i _ => ?_
  simp only [Function.comp_apply, linkIndex, ← columnOf?_declared typed, htyped,
    Index.link_declared]

end Entity

namespace Reference

/-- The columns a reference links to depend only on what the foreign entity declares. -/
theorem linkColumns_declared (foreignClass : String) (foreign : Entity) (mappings : List Mapping) :
    linkColumns foreignClass foreign.declared mappings =
      linkColumns foreignClass foreign mappings := by
  induction mappings with
  | nil => rfl
  | cons mapping rest ih =>
    simp only [linkColumns, ih]
    rfl

/-- What a reference is linked to, up to the identity of the foreign entity, follows from what the
class name finds. -/
theorem linkIn_congr {m m' : DataModel} {r r' : Reference} (h : r.declared = r'.declared)
    (hfind : (m.find? r.foreignClass).map (·.declared) =
      (m'.find? r.foreignClass).map (·.declared)) :
    (r.linkIn m).foreignTable? = (r'.linkIn m').foreignTable? ∧
      (r.linkIn m).columns = (r'.linkIn m').columns := by
  have hclass : r.foreignClass = r'.foreignClass := (congrArg (·.foreignClass) h :)
  have hmappings : r.mappings = r'.mappings := (congrArg (·.mappings) h :)
  cases hfound : m.find? r.foreignClass with
  | none =>
    have hfound' : m'.find? r'.foreignClass = none := by
      rw [← hclass, ← Option.map_eq_none_iff, ← hfind, hfound]
      rfl
    simp [foreignTable?, columns, target?, linkIn, lookUp, hfound, hfound', Resolution.ofExcept,
      Resolution.value?]
  | some foreign =>
    rw [hfound, Option.map_some, hclass] at hfind
    obtain ⟨foreign', hfound', hsame⟩ := Option.map_eq_some_iff.mp hfind.symm
    have htable : foreign.table = foreign'.table := Entity.table_congr hsame.symm
    have hcolumns : linkColumns r.foreignClass foreign r.mappings =
        linkColumns r'.foreignClass foreign' r'.mappings := by
      rw [← linkColumns_declared _ foreign, ← linkColumns_declared _ foreign', hsame, hclass,
        hmappings]
    simp only [foreignTable?, columns, target?, linkIn, lookUp, hfound, hfound', hcolumns]
    cases linkColumns r'.foreignClass foreign' r'.mappings with
    | error p => exact ⟨rfl, rfl⟩
    | ok columns => exact ⟨congrArg some htable, rfl⟩

end Reference

namespace DataModel

variable {m n a b : DataModel}

/-- An entity is registered only where no entity has its class yet. -/
theorem class_free_of_register {e : Entity} (h : m.register e = .ok n) :
    e.fullName ∉ m.entities.map (·.fullName) := by
  unfold DataModel.register at h
  split at h
  · cases h
  · split at h
    · cases h
    · rename_i hclass
      simpa using hclass

/-- An extension leaves the classes of a model as they are. -/
theorem fullNames_extend {x : Extension} (h : m.extend x = .ok n) :
    n.entities.map (·.fullName) = m.entities.map (·.fullName) := by
  obtain ⟨found, _, rfl⟩ := entities_extend h
  rw [List.map_map]
  refine List.map_congr_left fun e _ => ?_
  simp only [Function.comp_apply]
  split <;> rfl

/-- **No two registered entities share a class.** -/
theorem Grown.fullNames_nodup (h : Grown m) : (m.entities.map (·.fullName)).Nodup := by
  induction h with
  | empty => exact List.nodup_nil
  | register _ hn ih =>
    rw [entities_register hn, List.map_append, List.nodup_append]
    refine ⟨ih, by simp, ?_⟩
    intro name hname other hother heq
    obtain rfl : other = _ := by simpa using hother
    exact class_free_of_register hn (heq ▸ hname)
  | extend _ hn ih => exact fullNames_extend hn ▸ ih

/-- Linking declares nothing. -/
theorem declarations_linkAll (m : DataModel) : m.linkAll.declarations = m.declarations := by
  rw [declarations, entities_linkAll, List.map_map, declarations]
  exact List.map_congr_left fun e _ => e.declared_linkedIn m

/-- **A class name finds the same entity** after a change that lets every entity keep its class and
namespace. -/
theorem find?_of_map {g : Entity → Entity} (h : n.entities = m.entities.map g)
    (hclass : ∀ e, (g e).className = e.className)
    (hspace : ∀ e, (g e).nameSpace = e.nameSpace) (name : String) :
    n.find? name = (m.find? name).map g := by
  have hfull : ∀ e : Entity, (g e).fullName = e.fullName := by
    intro e
    rw [Entity.fullName, Entity.fullName, hclass, hspace]
  have hexact : n.entities.find? (·.fullName == name) =
      (m.entities.find? (·.fullName == name)).map g := by
    rw [h, List.find?_map]
    simp only [Function.comp_def, hfull]
  have hcandidates : n.candidates name = (m.candidates name).map g := by
    rw [candidates, candidates, h, List.filter_map]
    simp only [Function.comp_def, Entity.shortName, hclass, hspace]
  rw [find?, find?, hexact, hcandidates]
  cases m.entities.find? (·.fullName == name) with
  | some e => rfl
  | none =>
    rcases m.candidates name with _ | ⟨e, _ | ⟨f, rest⟩⟩ <;> rfl

/-- What a class name finds is found among the declarations. -/
theorem find?_declarations (m : DataModel) (name : String) :
    (m.find? name).map (·.declared) = ({ entities := m.declarations } : DataModel).find? name := by
  have hmap : ({ entities := m.declarations } : DataModel).entities =
      m.entities.map Entity.declared := rfl
  exact (find?_of_map hmap (fun _ => rfl) (fun _ => rfl) name).symm

/-- The order of registration does not matter for what a class name finds. -/
theorem find?_perm {es es' : List Entity} (h : es.Perm es')
    (hnames : (es.map (·.fullName)).Nodup) (name : String) :
    ({ entities := es } : DataModel).find? name = ({ entities := es' } : DataModel).find? name := by
  have hcandidates : (({ entities := es } : DataModel).candidates name).Perm
      (({ entities := es' } : DataModel).candidates name) := h.filter _
  rw [find?, find?, Lookup.find?_perm h hnames name]
  cases es'.find? (·.fullName == name) with
  | some e => rfl
  | none =>
    -- Only a single candidate counts, and a single candidate has no order.
    generalize ({ entities := es } : DataModel).candidates name = l at hcandidates
    generalize ({ entities := es' } : DataModel).candidates name = l' at hcandidates
    rcases l with _ | ⟨e, _ | ⟨f, rest⟩⟩
    · rw [List.nil_perm.mp hcandidates]
    · rw [List.singleton_perm.mp hcandidates]
    · have hlength := hcandidates.length_eq
      rcases l' with _ | ⟨e', _ | ⟨f', rest'⟩⟩
      · cases hlength
      · cases hlength
      · rfl

/-- **The same declarations answer to a class name alike.** -/
theorem find?_congr (hnames : (m.entities.map (·.fullName)).Nodup)
    (h : m.declarations.Perm n.declarations) (name : String) :
    (m.find? name).map (·.declared) = (n.find? name).map (·.declared) := by
  have hdeclared : (m.declarations.map (·.fullName)).Nodup := by
    rw [declarations, List.map_map]
    exact hnames
  rw [find?_declarations, find?_declarations, find?_perm h hdeclared]

/-- **The same entity has the same foreign keys** in models of the same declarations. -/
theorem Finished.references_congr (ha : a.Finished) (hb : b.Finished)
    (h : a.declarations.Perm b.declarations) {e f : Entity} (he : e ∈ a.entities)
    (hf : f ∈ b.entities) (hef : e.declared = f.declared) :
    List.Forall₂ (fun r r' => r.declared = r'.declared ∧ r.foreignTable? = r'.foreignTable? ∧
      r.columns = r'.columns) e.references f.references := by
  obtain ⟨m, hm, rfl⟩ := ha
  obtain ⟨n, hn, rfl⟩ := hb
  rw [declarations_linkAll, declarations_linkAll] at h
  rw [entities_linkAll] at he hf
  obtain ⟨origin, _, rfl⟩ := List.mem_map.mp he
  obtain ⟨origin', _, rfl⟩ := List.mem_map.mp hf
  rw [Entity.declared_linkedIn, Entity.declared_linkedIn] at hef
  show List.Forall₂ _ (origin.references.map (Reference.linkIn m))
    (origin'.references.map (Reference.linkIn n))
  rw [List.forall₂_map_left_iff, List.forall₂_map_right_iff]
  refine (Entity.references_forall₂ hef).imp fun r r' hsame => ?_
  exact ⟨hsame, Reference.linkIn_congr hsame (find?_congr hm.fullNames_nodup h _)⟩

/-- **The same entity has the same indexes:** their parts are linked within the entity. -/
theorem Finished.indexes_congr (ha : a.Finished) (hb : b.Finished) {e f : Entity}
    (he : e ∈ a.entities) (hf : f ∈ b.entities) (hef : e.declared = f.declared) :
    e.indexes = f.indexes := by
  have hlinked : ∀ {m : DataModel}, m.Finished → ∀ e ∈ m.entities,
      e.indexes = e.declared.indexes.map e.declared.linkIndex := by
    intro m hm e he
    obtain ⟨n, rfl, horigins⟩ := hm.exists_linkedIn
    obtain ⟨origin, _, rfl⟩ := horigins e he
    rw [Entity.declared_linkedIn]
    exact origin.indexes_linkedIn n
  rw [hlinked ha e he, hlinked hb f hf, hef]

end DataModel

end Schemata
