import Mathlib.Logic.Function.Basic
import Schemata.Proofs.Model.Calls

/-!
# The maps of a registry

A registry keeps its entities in a list and, for each way to look them up, a map from keys to places
in the list: the only place of a class and of a table, all places of a short name in order, and the
last place of an identity.  Nothing but the calls keeps the maps and the list together.  An entity
that is registered is entered in all four maps.  An extension and linking change entities in their
places and leave the maps alone, which is right because they change nothing that an entity is looked
up by.

A data model has the list alone and searches it.  The two cannot be told apart: whatever the calls
are, they fail alike, keep the same entities and find the same under every key.

* `OnlyPlaces`, `AllPlaces`, `LastPlaces` - what a map says of the keys in a list;
* `Indexed` - what the maps say of the entities;
* `Indexed.enter` - an entity that is entered in all maps leaves them right;
* `Agrees.find?`, `Agrees.ofTable?`, `Agrees.entity?` - maps and searches find the same;
* `Agrees.run` - one call fails in both or leaves both alike;
* `afterCalls_agrees` - a registry and a data model after the same calls.
-/

namespace Schemata

/-! ## Maps from keys to places -/

section Places

variable {κ : Type} {keys : List κ} {k : κ} {place : Nat}

/-- The map leads from each key to its only place. -/
def OnlyPlaces (map : κ → Option Nat) (keys : List κ) : Prop :=
  ∀ k place, map k = some place ↔ keys[place]? = some k

/-- The map leads from each key to all its places, in order. -/
structure AllPlaces (map : κ → List Nat) (keys : List κ) : Prop where
  mem_iff : ∀ k place, place ∈ map k ↔ keys[place]? = some k
  inOrder : ∀ k, (map k).Pairwise (· < ·)

/-- The map leads from each key to its last place. -/
def LastPlaces (map : κ → Option Nat) (keys : List κ) : Prop :=
  ∀ k place, map k = some place ↔
    keys[place]? = some k ∧ ∀ later, place < later → keys[later]? ≠ some k

/-- A key that is put behind the others is there, and the others stay where they are. -/
theorem getElem?_concat_iff {l : κ} :
    (keys ++ [l])[place]? = some k ↔
      keys[place]? = some k ∨ place = keys.length ∧ l = k := by
  rcases Nat.lt_trichotomy place keys.length with hlt | rfl | hgt
  · rw [List.getElem?_append_left hlt]
    simp [hlt.ne]
  · simp
  · have hout : (keys ++ [l]).length ≤ place := by
      rw [List.length_append]
      exact hgt
    rw [List.getElem?_eq_none hout, List.getElem?_eq_none hgt.le]
    simp [hgt.ne']

/-- There is no key behind the last place. -/
theorem lt_length_of_getElem? (h : keys[place]? = some k) : place < keys.length :=
  (List.getElem?_eq_some_iff.mp h).1

/-- Keys with a map that places each of them nowhere else stand once each. -/
theorem OnlyPlaces.eq_of_getElem? {map : κ → Option Nat} (h : OnlyPlaces map keys)
    {other : Nat} (hplace : keys[place]? = some k) (hother : keys[other]? = some k) :
    place = other := by
  have hfirst := (h k place).mpr hplace
  have hsecond := (h k other).mpr hother
  exact Option.some.inj (hfirst.symm.trans hsecond)

/-- Keys with one place each are distinct. -/
theorem OnlyPlaces.nodup {map : κ → Option Nat} (h : OnlyPlaces map keys) : keys.Nodup := by
  rw [List.nodup_iff_getElem?_ne_getElem?]
  intro place later hlt hlater heq
  have hlast := List.getElem?_eq_getElem hlater
  exact hlt.ne (h.eq_of_getElem? (heq.trans hlast) hlast)

variable [DecidableEq κ]

/-- A new key may be entered with the place behind the others. -/
theorem OnlyPlaces.enter {map : κ → Option Nat} (h : OnlyPlaces map keys) (hnew : map k = none)
    (hend : keys.length = place) :
    OnlyPlaces (Function.update map k (some place)) (keys ++ [k]) := by
  subst hend
  intro l place
  rw [getElem?_concat_iff, Function.update_apply]
  by_cases hkey : l = k
  · subst hkey
    have hmissing : keys[place]? ≠ some l := by
      intro hthere
      rw [(h l place).mpr hthere] at hnew
      cases hnew
    simp [hmissing, eq_comm]
  · rw [if_neg hkey, h]
    simp [Ne.symm hkey]

/-- Any key may get the place behind the others in addition. -/
theorem AllPlaces.enter {map : κ → List Nat} (h : AllPlaces map keys) (k : κ)
    (hend : keys.length = place) :
    AllPlaces (Function.update map k (map k ++ [place])) (keys ++ [k]) := by
  subst hend
  constructor
  case mem_iff =>
    intro l place
    rw [getElem?_concat_iff, Function.update_apply]
    by_cases hkey : l = k
    · subst hkey
      simp [h.mem_iff]
    · rw [if_neg hkey, h.mem_iff]
      simp [Ne.symm hkey]
  case inOrder =>
    intro l
    rw [Function.update_apply]
    split
    · refine List.pairwise_append.mpr ⟨h.inOrder k, List.pairwise_singleton _ _, ?_⟩
      intro place hplace last hlast
      rw [List.mem_singleton.mp hlast]
      exact lt_length_of_getElem? ((h.mem_iff k place).mp hplace)
    · exact h.inOrder l

/-- Any key may get the place behind the others instead of the one that it had. -/
theorem LastPlaces.enter {map : κ → Option Nat} (h : LastPlaces map keys) (k : κ)
    (hend : keys.length = place) :
    LastPlaces (Function.update map k (some place)) (keys ++ [k]) := by
  subst hend
  intro l place
  rw [getElem?_concat_iff, Function.update_apply]
  simp only [ne_eq, getElem?_concat_iff]
  by_cases hkey : l = k
  · subst hkey
    rw [if_pos rfl, Option.some.injEq]
    constructor
    · rintro rfl
      refine ⟨Or.inr ⟨rfl, rfl⟩, ?_⟩
      rintro later hlater (hthere | ⟨hlast, _⟩)
      · exact absurd (lt_length_of_getElem? hthere) hlater.not_gt
      · exact hlater.ne' hlast
    · rintro ⟨hthere | ⟨hlast, _⟩, hno⟩
      · exact absurd (Or.inr ⟨rfl, rfl⟩) (hno keys.length (lt_length_of_getElem? hthere))
      · exact hlast.symm
  · rw [if_neg hkey, h]
    simp [Ne.symm hkey]

end Places

/-- A registry: entities, and maps that lead to their places. -/
structure Registry where
  entities : List Entity := []
  byClass : String → Option Nat := fun _ => none
  byShortName : String → List Nat := fun _ => []
  byTable : String → Option Nat := fun _ => none
  byId : EntityId → Option Nat := fun _ => none
  /-- The accessors that are asked of each entity. -/
  reciprocals : EntityId → List Reciprocal := fun _ => []
  linked : Bool := false

namespace Registry

/-- The entity at the place says no namespace. -/
def isBare (r : Registry) (place : Nat) : Bool := r.entities[place]?.any (·.nameSpace.isNone)

/-- The places of the entities that answer to the short form of a name. -/
def candidates (r : Registry) (name : String) : List Nat :=
  (r.byShortName (Naming.shortName name)).filter fun place =>
    !Naming.isQualified name || r.isBare place

/-- The place of a class name. -/
def place? (r : Registry) (name : String) : Option Nat :=
  match r.byClass name with
  | some place => some place
  | none =>
    match r.candidates name with
    | [place] => some place
    | _ => none

/-- The entity of a class name. -/
def find? (r : Registry) (name : String) : Option Entity := (r.place? name).bind (r.entities[·]?)

/-- The entity of a table. -/
def ofTable? (r : Registry) (table : String) : Option Entity :=
  (r.byTable table).bind (r.entities[·]?)

/-- The entity of an identity. -/
def entity? (r : Registry) (id : EntityId) : Option Entity := (r.byId id).bind (r.entities[·]?)

/-- The registry with one more entity, entered in all maps. -/
def enter (r : Registry) (e : Entity) : Registry :=
  let place := r.entities.length
  { r with
    entities := r.entities ++ [e]
    byClass := Function.update r.byClass e.fullName (some place)
    byShortName := Function.update r.byShortName e.shortName (r.byShortName e.shortName ++ [place])
    byTable := Function.update r.byTable e.table (some place)
    byId := Function.update r.byId e.id (some place) }

/-- The registry with one more entity, if its class and its table are free. -/
def register (r : Registry) (e : Entity) : Except Failure Registry :=
  if r.linked then .error (.frozen .register e.fullName)
  else if (r.byClass e.fullName).isSome then .error (.duplicateEntity .className e.fullName)
  else if (r.byTable e.table).isSome then .error (.duplicateEntity .table e.table)
  else .ok (r.enter e)

/-- The registry with an extension merged into the entity at the place of its class name. -/
def extend (r : Registry) (x : Extension) : Except Failure Registry :=
  if r.linked then .error (.frozen .extend x.className)
  else
    match r.place? x.className with
    | none => .error (.entityNotFound x.className)
    | some place => .ok { r with entities := r.entities.modify place (·.extend x) }

/-- The map with one more accessor that is asked of an entity. -/
def request (map : EntityId → List Reciprocal) (asked : Reciprocal) :
    EntityId → List Reciprocal :=
  Function.update map asked.entity (map asked.entity ++ [asked])

/-- The registry with every link looked up anew.  The entities are linked as those of a model, and
the accessors that they ask for are entered one behind the other. -/
def link (r : Registry) : Registry :=
  let m := DataModel.linkAll { entities := r.entities }
  { r with
    entities := m.entities
    reciprocals := m.reciprocals.foldl request fun _ => []
    linked := true }

/-- What a call makes of a registry. -/
def run (r : Registry) : ModelCall → Except Failure Registry
  | .register e => r.register e
  | .extend x => r.extend x
  | .link => .ok r.link

/-- The registry after a call, the old one if it fails. -/
def after (r : Registry) (call : ModelCall) : Registry :=
  match r.run call with
  | .ok next => next
  | .error _ => r

/-- The registry that calls make of an empty one. -/
def afterCalls (calls : List ModelCall) : Registry := calls.foldl after {}

/-- **What the maps say of the entities.** -/
structure Indexed (r : Registry) : Prop where
  byClass : OnlyPlaces r.byClass (r.entities.map (·.fullName))
  byShortName : AllPlaces r.byShortName (r.entities.map (·.shortName))
  byTable : OnlyPlaces r.byTable (r.entities.map (·.table))
  byId : LastPlaces r.byId (r.entities.map (·.id))

/-- The registry holds what the model holds, and its maps are right. -/
structure Agrees (r : Registry) (m : DataModel) : Prop where
  indexed : r.Indexed
  entities : r.entities = m.entities
  reciprocals : ∀ id, r.reciprocals id = m.reciprocalsFor id
  linked : r.linked = m.linked

variable {r : Registry} {m : DataModel}

/-- The empty registry is indexed. -/
theorem indexed_empty : Indexed {} := by
  constructor
  case byShortName => exact ⟨by simp, fun _ => List.Pairwise.nil⟩
  all_goals simp [OnlyPlaces, LastPlaces]

/-- **An entity that is entered in all maps leaves them right,** if its class and its table are
free. -/
theorem Indexed.enter (h : r.Indexed) {e : Entity} (hclass : r.byClass e.fullName = none)
    (htable : r.byTable e.table = none) : (r.enter e).Indexed := by
  have hkeys {α : Type} (key : Entity → α) :
      (r.enter e).entities.map key = r.entities.map key ++ [key e] := List.map_append
  constructor
  · rw [hkeys]
    exact h.byClass.enter hclass (List.length_map _)
  · rw [hkeys, Registry.enter]
    generalize e.shortName = name
    exact h.byShortName.enter name (List.length_map _)
  · rw [hkeys]
    exact h.byTable.enter htable (List.length_map _)
  · rw [hkeys]
    exact h.byId.enter e.id (List.length_map _)

/-- Entities of the same labels have the same keys. -/
theorem map_congr_of_labels {α : Type} {key : Entity → α}
    (hkey : ∀ e f : Entity, e.label = f.label → key e = key f) {es fs : List Entity}
    (h : es.map (·.label) = fs.map (·.label)) : es.map key = fs.map key := by
  induction es generalizing fs with
  | nil => rw [List.map_eq_nil_iff.mp h.symm]
  | cons e rest ih =>
    cases fs with
    | nil => cases h
    | cons f others =>
      obtain ⟨hhead, htail⟩ := List.cons_eq_cons.mp h
      rw [List.map_cons, List.map_cons, hkey e f hhead, ih htail]

/-- **The maps stay right where entities change in their places** and keep their labels. -/
theorem Indexed.of_labels (h : r.Indexed) {es : List Entity}
    (hlabels : es.map (·.label) = r.entities.map (·.label))
    (reciprocals : EntityId → List Reciprocal) (linked : Bool) :
    Indexed { r with entities := es, reciprocals, linked } := by
  constructor
  · show OnlyPlaces r.byClass (es.map (·.fullName))
    rw [map_congr_of_labels (fun _ _ => DataModel.fullName_of_label) hlabels]
    exact h.byClass
  · show AllPlaces r.byShortName (es.map (·.shortName))
    have hshort : ∀ e f : Entity, e.label = f.label → e.shortName = f.shortName := by
      intro e f hlabel
      have hclass : e.className = f.className := congrArg (·.2.1) hlabel
      rw [Entity.shortName, Entity.shortName, hclass]
    rw [map_congr_of_labels hshort hlabels]
    exact h.byShortName
  · show OnlyPlaces r.byTable (es.map (·.table))
    rw [map_congr_of_labels (fun _ _ => DataModel.table_of_label) hlabels]
    exact h.byTable
  · show LastPlaces r.byId (es.map (·.id))
    have hid : ∀ e f : Entity, e.label = f.label → e.id = f.id :=
      fun _ _ hlabel => congrArg (·.1) hlabel
    rw [map_congr_of_labels hid hlabels]
    exact h.byId

/-! ## Looking up -/

section LookUps

variable {κ : Type} {es : List Entity} {key : Entity → κ} {map : κ → Option Nat}

/-- A map to the only places finds the entity of a key. -/
theorem bind_onlyPlaces (h : OnlyPlaces map (es.map key)) (k : κ) (e : Entity) :
    (map k).bind (es[·]?) = some e ↔ e ∈ es ∧ key e = k := by
  rw [Option.bind_eq_some_iff]
  constructor
  · rintro ⟨place, hplace, he⟩
    have hkey := (h k place).mp hplace
    rw [List.getElem?_map, he, Option.map_some, Option.some.injEq] at hkey
    exact ⟨List.mem_of_getElem? he, hkey⟩
  · rintro ⟨he, hkey⟩
    obtain ⟨place, hplace⟩ := List.getElem?_of_mem he
    refine ⟨place, (h k place).mpr ?_, hplace⟩
    rw [List.getElem?_map, hplace, Option.map_some, hkey]

/-- A map to the only places knows exactly the keys of the entities. -/
theorem isSome_onlyPlaces [BEq κ] [LawfulBEq κ] (h : OnlyPlaces map (es.map key)) (k : κ) :
    (map k).isSome = es.any (key · == k) := by
  rw [Bool.eq_iff_iff, List.any_eq_true, Option.isSome_iff_exists]
  constructor
  · rintro ⟨place, hplace⟩
    have hkey := (h k place).mp hplace
    rw [List.getElem?_map] at hkey
    obtain ⟨e, he, rfl⟩ := Option.map_eq_some_iff.mp hkey
    exact ⟨e, List.mem_of_getElem? he, beq_self_eq_true _⟩
  · rintro ⟨e, he, hkey⟩
    have hfound := (bind_onlyPlaces h k e).mpr ⟨he, eq_of_beq hkey⟩
    obtain ⟨place, hplace, _⟩ := Option.bind_eq_some_iff.mp hfound
    exact ⟨place, hplace⟩

end LookUps

/-- Right maps tell the entities apart by class and table. -/
theorem Agrees.apart (h : r.Agrees m) : m.Apart := by
  obtain ⟨hindexed, hentities, _, _⟩ := h
  constructor
  · rw [← hentities]
    exact hindexed.byClass.nodup
  · rw [← hentities]
    exact hindexed.byTable.nodup

/-- Both find the same by table. -/
theorem Agrees.ofTable? (h : r.Agrees m) (table : String) :
    r.ofTable? table = m.ofTable? table := by
  apply Option.ext
  intro e
  rw [h.apart.ofTable?_iff, ← h.entities]
  exact bind_onlyPlaces h.indexed.byTable table e

/-- Both find the same by identity. -/
theorem Agrees.entity? (h : r.Agrees m) (id : EntityId) : r.entity? id = m.entity? id := by
  apply Option.ext
  intro e
  rw [DataModel.entity?_iff, DataModel.IsLast, ← h.entities, Registry.entity?,
    Option.bind_eq_some_iff]
  constructor
  · rintro ⟨place, hplace, he⟩
    obtain ⟨hkey, hlast⟩ := (h.indexed.byId id place).mp hplace
    obtain ⟨hlt, hget⟩ := List.getElem?_eq_some_iff.mp he
    rw [List.getElem?_map, he, Option.map_some, Option.some.injEq] at hkey
    refine ⟨r.entities.take place, r.entities.drop (place + 1), ?_, hkey, ?_⟩
    · rw [← hget, List.getElem_cons_drop, List.take_append_drop]
    · intro f hf hid
      obtain ⟨distance, hdistance⟩ := List.getElem?_of_mem hf
      rw [List.getElem?_drop] at hdistance
      refine hlast (place + 1 + distance) (by omega) ?_
      rw [List.getElem?_map, hdistance, Option.map_some, hid]
  · rintro ⟨before, after, hsplit, rfl, hafter⟩
    refine ⟨before.length, (h.indexed.byId e.id before.length).mpr ⟨?_, ?_⟩, ?_⟩
    · simp [hsplit]
    · intro later hlater hthere
      obtain ⟨distance, rfl⟩ := Nat.exists_eq_add_of_lt hlater
      rw [List.getElem?_map] at hthere
      obtain ⟨f, hf, hid⟩ := Option.map_eq_some_iff.mp hthere
      rw [hsplit, Nat.add_assoc, List.getElem?_append_right (Nat.le_add_right _ _),
        Nat.add_sub_cancel_left, List.getElem?_cons_succ] at hf
      exact hafter f (List.mem_of_getElem? hf) hid
    · simp [hsplit]

/-- The places that may answer to a name are those of the entities that may. -/
theorem Agrees.mem_candidates (h : r.Agrees m) {name : String} {place : Nat} :
    place ∈ r.candidates name ↔ ∃ e, r.entities[place]? = some e ∧ e ∈ m.candidates name := by
  rw [candidates, List.mem_filter, h.indexed.byShortName.mem_iff, List.getElem?_map,
    Option.map_eq_some_iff]
  constructor
  · rintro ⟨⟨e, he, hshort⟩, hbare⟩
    rw [isBare, he, Option.any_some] at hbare
    refine ⟨e, he, List.mem_filter.mpr ⟨h.entities ▸ List.mem_of_getElem? he, ?_⟩⟩
    rw [hshort, beq_self_eq_true, Bool.true_and]
    exact hbare
  · rintro ⟨e, he, hcandidate⟩
    have hanswers := (List.mem_filter.mp hcandidate).2
    rw [Bool.and_eq_true, beq_iff_eq] at hanswers
    refine ⟨⟨e, he, hanswers.1⟩, ?_⟩
    rw [isBare, he, Option.any_some]
    exact hanswers.2

/-- There is one such place exactly where there is one such entity. -/
theorem Agrees.candidates_iff (h : r.Agrees m) (name : String) (e : Entity) :
    (∃ place, r.candidates name = [place] ∧ r.entities[place]? = some e) ↔
      m.candidates name = [e] := by
  have hentities := h.apart.entities_nodup
  constructor
  · rintro ⟨place, hone, he⟩
    apply List.perm_singleton.mp
    apply (List.perm_ext_iff_of_nodup (hentities.filter _) (List.nodup_singleton e)).mpr
    intro f
    rw [List.mem_singleton]
    constructor
    · intro hf
      have hmem : f ∈ r.entities := h.entities ▸ (List.mem_filter.mp hf).1
      obtain ⟨other, hother⟩ := List.getElem?_of_mem hmem
      have hcandidate : other ∈ r.candidates name := h.mem_candidates.mpr ⟨f, hother, hf⟩
      rw [hone, List.mem_singleton] at hcandidate
      rw [hcandidate, he] at hother
      exact (Option.some.inj hother).symm
    · rintro rfl
      have hcandidate : place ∈ r.candidates name := by
        rw [hone]
        exact List.mem_singleton.mpr rfl
      obtain ⟨g, hg, hmem⟩ := h.mem_candidates.mp hcandidate
      rw [he] at hg
      exact Option.some.inj hg ▸ hmem
  · intro hone
    have hcandidate : e ∈ m.candidates name := by
      rw [hone]
      exact List.mem_singleton.mpr rfl
    have hmem : e ∈ r.entities := h.entities ▸ (List.mem_filter.mp hcandidate).1
    obtain ⟨place, hplace⟩ := List.getElem?_of_mem hmem
    refine ⟨place, ?_, hplace⟩
    have hplaces : (r.candidates name).Nodup :=
      ((h.indexed.byShortName.inOrder _).imp fun hlt => hlt.ne).filter _
    apply List.perm_singleton.mp
    apply (List.perm_ext_iff_of_nodup hplaces (List.nodup_singleton place)).mpr
    intro other
    rw [h.mem_candidates, hone, List.mem_singleton]
    constructor
    · rintro ⟨f, hf, hsame⟩
      obtain rfl := List.mem_singleton.mp hsame
      apply h.indexed.byClass.eq_of_getElem? (k := f.fullName)
      · rw [List.getElem?_map, hf, Option.map_some]
      · rw [List.getElem?_map, hplace, Option.map_some]
    · rintro rfl
      exact ⟨e, hplace, List.mem_singleton.mpr rfl⟩

/-- **A class name leads to the place of what it finds,** or to no place where it finds nothing. -/
theorem Agrees.place?_cases (h : r.Agrees m) (name : String) :
    (r.place? name = none ∧ m.find? name = none) ∨
      ∃ place e, r.place? name = some place ∧ r.entities[place]? = some e ∧
        m.find? name = some e := by
  cases hclass : r.byClass name with
  | some place =>
    have hkey := (h.indexed.byClass name place).mp hclass
    rw [List.getElem?_map] at hkey
    obtain ⟨e, he, rfl⟩ := Option.map_eq_some_iff.mp hkey
    refine Or.inr ⟨place, e, by rw [place?, hclass], he, ?_⟩
    have hmem : e ∈ m.entities := h.entities ▸ List.mem_of_getElem? he
    exact DataModel.find?_of_fullName (Lookup.find?_key h.apart.fullNames hmem)
  | none =>
    have hunknown : m.entities.any (·.fullName == name) = false := by
      rw [← h.entities, ← isSome_onlyPlaces h.indexed.byClass name, hclass]
      rfl
    have hmissing : ∀ f ∈ m.entities, f.fullName ≠ name := by
      intro f hf hname
      exact List.any_eq_false.mp hunknown f hf (beq_iff_eq.mpr hname)
    have hfind := DataModel.find?_eq_some_of_missing hmissing
    by_cases hone : ∃ e, m.candidates name = [e]
    · obtain ⟨e, he⟩ := hone
      obtain ⟨place, hplace, hget⟩ := (h.candidates_iff name e).mpr he
      exact Or.inr ⟨place, e, by rw [place?, hclass, hplace], hget, (hfind e).mpr he⟩
    · refine Or.inl ⟨?_, ?_⟩
      · rw [place?, hclass]
        dsimp only
        split
        · rename_i place hplace
          have hcandidate : place ∈ r.candidates name := by
            rw [hplace]
            exact List.mem_singleton.mpr rfl
          obtain ⟨e, he, _⟩ := h.mem_candidates.mp hcandidate
          exact absurd ⟨e, (h.candidates_iff name e).mp ⟨place, hplace, he⟩⟩ hone
        · rfl
      · apply Option.eq_none_iff_forall_ne_some.mpr
        intro e he
        exact hone ⟨e, (hfind e).mp he⟩

/-- Both find the same by class name. -/
theorem Agrees.find? (h : r.Agrees m) (name : String) : r.find? name = m.find? name := by
  rcases h.place?_cases name with ⟨hplace, hfind⟩ | ⟨place, e, hplace, he, hfind⟩
  · rw [Registry.find?, hplace, hfind]
    rfl
  · rw [Registry.find?, hplace, hfind, Option.bind_some, he]

/-! ## Calls -/

/-- An extension changes the entity at the place of its class name and no other. -/
theorem Agrees.modify_eq (h : r.Agrees m) {place : Nat} {found : Entity}
    (hplace : r.entities[place]? = some found) (g : Entity → Entity) :
    r.entities.modify place g =
      m.entities.map fun e => if e.fullName = found.fullName then g e else e := by
  rw [← h.entities]
  apply List.ext_getElem?
  intro other
  rw [List.getElem?_modify, List.getElem?_map]
  cases hother : r.entities[other]? with
  | none => rfl
  | some e =>
    have hkey {place : Nat} {e : Entity} (he : r.entities[place]? = some e) :
        (r.entities.map (·.fullName))[place]? = some e.fullName := by
      rw [List.getElem?_map, he, Option.map_some]
    have hsame : place = other ↔ e.fullName = found.fullName := by
      constructor
      · rintro rfl
        rw [hplace] at hother
        exact congrArg Entity.fullName (Option.some.inj hother).symm
      · intro hname
        exact h.indexed.byClass.eq_of_getElem? (hkey hplace) (hname ▸ hkey hother)
    simp only [hsame, Option.map_eq_map, Option.map_some]

/-- What is asked of an entity is kept in the order in which it was asked. -/
theorem foldl_request (asked : List Reciprocal) (map : EntityId → List Reciprocal)
    (id : EntityId) : asked.foldl request map id = map id ++ asked.filter (·.entity == id) := by
  induction asked generalizing map with
  | nil => simp
  | cons first rest ih =>
    rw [List.foldl_cons, ih, request, Function.update_apply, List.filter_cons]
    by_cases hid : id = first.entity
    · simp [hid]
    · simp [hid, Ne.symm hid]

/-- **One call fails in both** for the same reason, **or leaves both alike.** -/
theorem Agrees.run (h : r.Agrees m) (call : ModelCall) :
    (∃ failure, r.run call = .error failure ∧ call.run m = .error failure) ∨
      ∃ next n, r.run call = .ok next ∧ call.run m = .ok n ∧ next.Agrees n := by
  cases call with
  | register e =>
    have hclass := isSome_onlyPlaces h.indexed.byClass e.fullName
    have htable := isSome_onlyPlaces h.indexed.byTable e.table
    rw [h.entities] at hclass htable
    rw [Registry.run, ModelCall.run, register, DataModel.register, h.linked, hclass, htable]
    split
    · exact Or.inl ⟨_, rfl, rfl⟩
    · split
      · exact Or.inl ⟨_, rfl, rfl⟩
      · split
        · exact Or.inl ⟨_, rfl, rfl⟩
        · rename_i hclassFree htableFree
          rw [← hclass, Bool.not_eq_true, Option.isSome_eq_false_iff, Option.isNone_iff_eq_none]
            at hclassFree
          rw [← htable, Bool.not_eq_true, Option.isSome_eq_false_iff, Option.isNone_iff_eq_none]
            at htableFree
          refine Or.inr ⟨_, _, rfl, rfl, ?_⟩
          exact ⟨h.indexed.enter hclassFree htableFree, congrArg (· ++ [e]) h.entities,
            h.reciprocals, h.linked⟩
  | extend x =>
    rw [Registry.run, ModelCall.run, extend, DataModel.extend, h.linked]
    split
    · exact Or.inl ⟨_, rfl, rfl⟩
    · rcases h.place?_cases x.className with ⟨hplace, hfind⟩ | ⟨place, found, hplace, hget, hfind⟩
      · rw [hplace, hfind]
        exact Or.inl ⟨_, rfl, rfl⟩
      · rw [hplace, hfind]
        have hmodify := h.modify_eq hget (·.extend x)
        have hlabels : (r.entities.modify place (·.extend x)).map (·.label) =
            r.entities.map (·.label) := by
          rw [hmodify, List.map_map, h.entities]
          apply List.map_congr_left
          intro e _
          dsimp only [Function.comp_apply]
          split <;> rfl
        refine Or.inr ⟨_, _, rfl, rfl, ?_⟩
        exact ⟨h.indexed.of_labels hlabels r.reciprocals m.linked, hmodify, h.reciprocals, rfl⟩
  | link =>
    have hlink : DataModel.linkAll { entities := r.entities } = m.linkAll := by
      rw [h.entities]
      rfl
    have hlabels : m.linkAll.entities.map (·.label) = r.entities.map (·.label) := by
      rw [DataModel.entities_linkAll, List.map_map, h.entities]
      rfl
    refine Or.inr ⟨_, _, rfl, rfl, ?_⟩
    rw [link, hlink]
    refine ⟨h.indexed.of_labels hlabels _ true, rfl, ?_, rfl⟩
    intro id
    dsimp only
    rw [foldl_request, List.nil_append]
    rfl

/-- **A registry and a data model after the same calls** hold the same, and the maps are right, by
induction on the calls. -/
theorem afterCalls_agrees (calls : List ModelCall) :
    (afterCalls calls).Agrees (DataModel.afterCalls calls) := by
  have hrun : ∀ (calls : List ModelCall) (r : Registry) (m : DataModel), r.Agrees m →
      (calls.foldl after r).Agrees (calls.foldl DataModel.after m) := by
    intro calls
    induction calls with
    | nil => exact fun r m h => h
    | cons call rest ih =>
      intro r m h
      apply ih
      rw [after, DataModel.after]
      rcases h.run call with ⟨failure, hr, hm⟩ | ⟨next, n, hr, hm, hnext⟩
      · rw [hr, hm]
        exact h
      · rw [hr, hm]
        exact hnext
  exact hrun calls {} {} ⟨indexed_empty, rfl, fun _ => rfl, rfl⟩

/-- **Maps and searches cannot be told apart.**  After any calls, a registry and a data model hold
the same entities, find the same under every key, and fail alike at the next call. -/
theorem afterCalls_alike (calls : List ModelCall) :
    let r := afterCalls calls
    let m := DataModel.afterCalls calls
    r.entities = m.entities ∧ r.linked = m.linked ∧
    (∀ name, r.find? name = m.find? name) ∧ (∀ table, r.ofTable? table = m.ofTable? table) ∧
    (∀ id, r.entity? id = m.entity? id) ∧ (∀ id, r.reciprocals id = m.reciprocalsFor id) ∧
    ∀ call failure, r.run call = .error failure ↔ call.run m = .error failure := by
  intro r m
  have h : r.Agrees m := afterCalls_agrees calls
  refine ⟨h.entities, h.linked, h.find?, h.ofTable?, h.entity?, h.reciprocals, ?_⟩
  intro call failure
  rcases h.run call with ⟨reason, hr, hm⟩ | ⟨next, n, hr, hm, _⟩
  · rw [hr, hm, Except.error.injEq, Except.error.injEq]
  · rw [hr, hm]
    exact ⟨nofun, nofun⟩

end Registry

end Schemata
