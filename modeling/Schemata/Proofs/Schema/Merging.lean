import Schemata.Proofs.Model.Calls
import Schemata.Schema.Document

/-!
# The order of schema files

Schema files are read one after the other and merged, and the order in which they come is an
accident.  It does not matter.  A merged document becomes a model exactly if no class and no table
is declared twice and every extension finds an entity among all that are declared; each entity then
has its own members and those of the extensions that find it, wherever these stand.  None of this
says where anything stands, so that the files in another order give the same entities, up to the
order of their members.

* `registerAll_eq_ok_iff`, `extendAll_eq_ok_iff` - what registering and extending succeed in;
* `toModel_eq_ok_iff` - which documents become a model, and which model that is;
* `extended_sameUpToOrder` - the order of extensions shows in the order of members alone;
* `toModel_of_perm` - files in another order become the same model, up to the order of members.
-/

namespace Schemata

namespace Entity

/-- The entity with the members of all these extensions. -/
def extended (e : Entity) (xs : List Extension) : Entity := xs.foldl extend e

/-- The same class, table and members; the members of each kind may come in another order. -/
structure SameUpToOrder (e f : Entity) : Prop where
  label : e.label = f.label
  changed : e.changed = f.changed
  attributes : e.attributes.Perm f.attributes
  references : e.references.Perm f.references
  indexes : e.indexes.Perm f.indexes
  collectors : e.collectors.Perm f.collectors

/-- Extensions reach an entity one after the other. -/
theorem extended_cons (e : Entity) (x : Extension) (xs : List Extension) :
    e.extended (x :: xs) = (e.extend x).extended xs := rfl

/-- What several extensions make of an entity, kind by kind. -/
theorem extended_eq (e : Entity) (xs : List Extension) :
    e.extended xs =
      { e with
        changed := e.changed || xs.any (·.changed)
        attributes := e.attributes ++ xs.flatMap (·.attributes)
        references := e.references ++ xs.flatMap fun x => x.references.map (·.inTable e.table)
        indexes := e.indexes ++ xs.flatMap (·.indexes)
        collectors := e.collectors ++ xs.flatMap (·.collectors) } := by
  induction xs generalizing e with
  | nil => simp [extended]
  | cons x rest ih => rw [extended_cons, ih]; simp [extend, Bool.or_assoc]

/-- Extensions leave the label of an entity alone. -/
theorem label_extended (e : Entity) (xs : List Extension) : (e.extended xs).label = e.label := by
  rw [extended_eq]
  rfl

/-- An entity is changed if it was, or if an extension brings news of a changed file. -/
theorem changed_extended_iff (e : Entity) (xs : List Extension) :
    (e.extended xs).changed = true ↔ e.changed = true ∨ ∃ x ∈ xs, x.changed = true := by
  simp [extended_eq]

/-- **The order of extensions shows in the order of members alone.** -/
theorem extended_sameUpToOrder (e : Entity) {xs ys : List Extension} (h : xs.Perm ys) :
    (e.extended xs).SameUpToOrder (e.extended ys) := by
  rw [extended_eq, extended_eq]
  exact
    { label := rfl
      changed := congrArg (e.changed || ·) (h.any_eq)
      attributes := (h.flatMap_right _).append_left _
      references := (h.flatMap_right _).append_left _
      indexes := (h.flatMap_right _).append_left _
      collectors := (h.flatMap_right _).append_left _ }

end Entity

namespace DataModel

variable {m n : DataModel}

/-- **Registering succeeds** exactly with an entity of a new class and a new table. -/
theorem register_eq_ok_iff (hopen : m.linked = false) {e : Entity} :
    m.register e = .ok n ↔ e.fullName ∉ m.entities.map (·.fullName) ∧
      e.table ∉ m.entities.map (·.table) ∧ n = { m with entities := m.entities ++ [e] } := by
  constructor
  · intro h
    exact ⟨class_free_of_register h, table_free_of_register h, entities_register h⟩
  · rintro ⟨hclass, htable, rfl⟩
    have hclass' : m.entities.any (·.fullName == e.fullName) = false := by simpa using hclass
    have htable' : m.entities.any (·.table == e.table) = false := by simpa using htable
    rw [register, hopen, hclass', htable']
    rfl

/-- What an extension makes of an entity that its class name may find. -/
def reach (m : DataModel) (x : Extension) (e : Entity) : Entity :=
  if m.find? x.className = some e then e.extend x else e

/-- The model with an extension merged into the entity that its class name finds, if there is
one. -/
def reached (m : DataModel) (x : Extension) : DataModel :=
  { m with entities := m.entities.map (m.reach x) }

/-- Whether or not it reaches the entity, an extension leaves its label alone. -/
theorem label_reach (m : DataModel) (x : Extension) (e : Entity) :
    (m.reach x e).label = e.label := by
  unfold reach
  split <;> rfl

/-- **Extending succeeds** exactly with an extension whose class name finds an entity. -/
theorem extend_eq_ok_iff (hopen : m.linked = false) (h : m.Apart) {x : Extension} :
    m.extend x = .ok n ↔ (m.find? x.className).isSome ∧ n = m.reached x := by
  rw [extend, if_neg (by rw [hopen]; exact Bool.false_ne_true)]
  cases hfind : m.find? x.className with
  | none => simp
  | some found =>
    -- Classes are distinct, so that the class of what is found says which entity it is.
    have hsame : ∀ e ∈ m.entities,
        (if e.fullName = found.fullName then e.extend x else e) = m.reach x e := by
      intro e he
      rw [reach, hfind]
      refine if_congr ?_ rfl rfl
      rw [Option.some_inj]
      constructor
      · intro hname
        exact (List.inj_on_of_nodup_map h.fullNames he (mem_of_find? hfind) hname).symm
      · rintro rfl
        rfl
    have hreached : ({ m with
        entities := m.entities.map fun e =>
          if e.fullName = found.fullName then e.extend x else e } : DataModel) = m.reached x := by
      rw [reached, List.map_congr_left hsame]
    rw [← hreached]
    simp [eq_comm]

/-- Every name finds what it found, with the members of an extension if that finds it too. -/
theorem find?_reached (m : DataModel) (x : Extension) (name : String) :
    (m.reached x).find? name = (m.find? name).map (m.reach x) :=
  find?_of_map rfl (fun e => congrArg (·.2.1) (m.label_reach x e))
    (fun e => congrArg (·.2.2.1) (m.label_reach x e)) name

/-- Extensions keep classes and tables distinct. -/
theorem Apart.reached (h : m.Apart) (x : Extension) : (m.reached x).Apart := by
  constructor
  · simp only [DataModel.reached, List.map_map, Function.comp_def,
      fun e => fullName_of_label (m.label_reach x e)]
    exact h.fullNames
  · simp only [DataModel.reached, List.map_map, Function.comp_def,
      fun e => table_of_label (m.label_reach x e)]
    exact h.tables

/-- A change that lets every entity keep its label confuses no entity with another one. -/
theorem Apart.map_find?_eq_some_iff (h : m.Apart) {g : Entity → Entity}
    (hlabel : ∀ e, (g e).label = e.label) {e : Entity} (he : e ∈ m.entities) (name : String) :
    (m.find? name).map g = some (g e) ↔ m.find? name = some e := by
  rw [Option.map_eq_some_iff]
  constructor
  · rintro ⟨found, hfound, hsame⟩
    have hname : found.fullName = e.fullName := by
      rw [← fullName_of_label (hlabel found), hsame, fullName_of_label (hlabel e)]
    rw [hfound, List.inj_on_of_nodup_map h.fullNames (mem_of_find? hfound) he hname]
  · exact fun hfound => ⟨e, hfound, rfl⟩

end DataModel

namespace Document

open DataModel

variable {m n : DataModel} {d : Document}

/-- Entities are registered one after the other, up to the first failure. -/
theorem registerAll_cons (m : DataModel) (e : Entity) (rest : List Entity) :
    registerAll m (e :: rest) = (m.register e).bind fun n => registerAll n rest := rfl

/-- Extensions are merged one after the other, up to the first failure. -/
theorem extendAll_cons (m : DataModel) (x : Extension) (rest : List Extension) :
    extendAll m (x :: rest) = (m.extend x).bind fun n => extendAll n rest := rfl

/-- **Registering one entity after the other succeeds** exactly if classes and tables stay
distinct. -/
theorem registerAll_eq_ok_iff (hopen : m.linked = false) (h : m.Apart) (es : List Entity) :
    registerAll m es = .ok n ↔ n.Apart ∧ n = { m with entities := m.entities ++ es } := by
  induction es generalizing m with
  | nil =>
    simp only [registerAll, Except.ok.injEq, List.append_nil]
    exact ⟨fun hn => ⟨hn ▸ h, hn.symm⟩, fun hn => hn.2.symm⟩
  | cons e rest ih =>
    rw [registerAll_cons]
    cases hregister : m.register e with
    | ok k =>
      have hk : k.Apart := by
        have hafter := h.after (.register e)
        simpa only [after, ModelCall.run, hregister] using hafter
      obtain rfl := entities_register hregister
      have hrest := ih (m := { m with entities := m.entities ++ [e] }) hopen hk
      rw [List.append_assoc] at hrest
      exact hrest
    | error failure =>
      refine iff_of_false (fun hn => by cases hn) ?_
      rintro ⟨hn, rfl⟩
      have hnew : ∀ key : Entity → String, ((m.entities ++ e :: rest).map key).Nodup →
          key e ∉ m.entities.map key := by
        intro key hnodup
        rw [List.map_append, List.map_cons, List.nodup_middle, List.nodup_cons, List.mem_append,
          not_or] at hnodup
        exact hnodup.1.1
      have hok := (register_eq_ok_iff hopen).mpr ⟨hnew _ hn.fullNames, hnew _ hn.tables, rfl⟩
      rw [hregister] at hok
      cases hok

/-- **Applying one extension after the other succeeds** exactly if each of them finds an entity, and
each entity then has the members of those that find it. -/
theorem extendAll_eq_ok_iff (hopen : m.linked = false) (h : m.Apart) (xs : List Extension) :
    extendAll m xs = .ok n ↔ (∀ x ∈ xs, (m.find? x.className).isSome) ∧
      n = { m with
        entities := m.entities.map fun e =>
          e.extended (xs.filter fun x => m.find? x.className = some e) } := by
  induction xs generalizing m with
  | nil =>
    simp only [extendAll, List.filter_nil, Entity.extended, List.foldl_nil, List.map_id',
      List.not_mem_nil, false_implies, implies_true, true_and, Except.ok.injEq]
    exact eq_comm
  | cons x rest ih =>
    have hfinds : ∀ y : Extension, ((m.reached x).find? y.className).isSome =
        (m.find? y.className).isSome := by
      intro y
      rw [find?_reached, Option.isSome_map]
    have hextended : ∀ e ∈ m.entities,
        (m.reach x e).extended
            (rest.filter fun y => (m.reached x).find? y.className = some (m.reach x e)) =
          e.extended ((x :: rest).filter fun y => m.find? y.className = some e) := by
      intro e he
      simp only [find?_reached, h.map_find?_eq_some_iff (m.label_reach x) he, List.filter_cons,
        decide_eq_true_eq]
      unfold reach
      split <;> rfl
    rw [extendAll_cons, List.forall_mem_cons]
    cases hextend : m.extend x with
    | ok k =>
      obtain ⟨hfound, rfl⟩ := (extend_eq_ok_iff hopen h).mp hextend
      refine (ih (m := m.reached x) hopen (h.reached x)).trans ?_
      simp only [hfinds, hfound, true_and]
      rw [← List.map_congr_left hextended]
      simp only [reached, List.map_map, Function.comp_def]
    | error failure =>
      refine iff_of_false (fun hn => by cases hn) ?_
      rintro ⟨⟨hfound, _⟩, _⟩
      have hok := (extend_eq_ok_iff hopen h).mpr ⟨hfound, rfl⟩
      rw [hextend] at hok
      cases hok

/-- The entities of a document before anything extends them. -/
def registered (d : Document) : DataModel := { entities := d.entities }

/-- The extensions of a document that find the entity. -/
def extensionsOf (d : Document) (e : Entity) : List Extension :=
  d.extensions.filter fun x => d.registered.find? x.className = some e

/-- The entity with the members of the extensions that find it. -/
def complete (d : Document) (e : Entity) : Entity := e.extended (d.extensionsOf e)

/-- The entities of a document with all their members. -/
def assembled (d : Document) : DataModel := { entities := d.entities.map d.complete }

/-- No class and no table is declared twice, and every extension finds an entity. -/
structure Consistent (d : Document) : Prop where
  apart : d.registered.Apart
  found : ∀ x ∈ d.extensions, (d.registered.find? x.className).isSome

/-- A completed entity keeps its label. -/
theorem label_complete (d : Document) (e : Entity) : (d.complete e).label = e.label :=
  e.label_extended _

/-- **Which documents become a model,** and which model that is. -/
theorem toModel_eq_ok_iff : d.toModel = .ok m ↔ d.Consistent ∧ m = d.assembled := by
  have hempty : ({} : DataModel).Apart := ⟨List.nodup_nil, List.nodup_nil⟩
  have hbind : d.toModel =
      (registerAll {} d.entities).bind fun k => extendAll k d.extensions := rfl
  rw [hbind]
  cases hregister : registerAll {} d.entities with
  | ok k =>
    obtain ⟨hk, rfl⟩ := (registerAll_eq_ok_iff rfl hempty d.entities).mp hregister
    refine (extendAll_eq_ok_iff (m := d.registered) rfl hk d.extensions).trans ?_
    exact ⟨fun hm => ⟨⟨hk, hm.1⟩, hm.2⟩, fun hm => ⟨hm.1.found, hm.2⟩⟩
  | error failure =>
    refine iff_of_false (fun hn => by cases hn) ?_
    rintro ⟨hconsistent, _⟩
    have hok := (registerAll_eq_ok_iff rfl hempty d.entities).mpr ⟨hconsistent.apart, rfl⟩
    rw [hregister] at hok
    cases hok

/-- A class name finds the same entity before and after extensions, by then completed. -/
theorem find?_assembled (d : Document) (name : String) :
    d.assembled.find? name = (d.registered.find? name).map d.complete :=
  find?_of_map (m := d.registered) rfl (fun e => congrArg (·.2.1) (d.label_complete e))
    (fun e => congrArg (·.2.2.1) (d.label_complete e)) name

/-- So does a table name. -/
theorem ofTable?_assembled (d : Document) (table : String) :
    d.assembled.ofTable? table = (d.registered.ofTable? table).map d.complete := by
  rw [ofTable?, ofTable?, assembled, registered, List.find?_map]
  simp only [Function.comp_def, fun e => table_of_label (d.label_complete e)]

/-- The documents hold the same entities and the same extensions, in any order. -/
structure Shuffled (d d' : Document) : Prop where
  entities : d.entities.Perm d'.entities
  extensions : d.extensions.Perm d'.extensions

namespace Shuffled

variable {d d' : Document}

/-- Shuffling can be undone. -/
theorem symm (h : d.Shuffled d') : d'.Shuffled d := ⟨h.entities.symm, h.extensions.symm⟩

/-- Names find the same before anything is extended. -/
theorem find?_registered (h : d.Shuffled d') (hd : d.Consistent) (name : String) :
    d.registered.find? name = d'.registered.find? name :=
  find?_perm h.entities hd.apart.fullNames name

/-- The order of a document's parts does not matter for its consistency. -/
theorem consistent (h : d.Shuffled d') (hd : d.Consistent) : d'.Consistent where
  apart :=
    { fullNames := (h.entities.map _).nodup_iff.mp hd.apart.fullNames
      tables := (h.entities.map _).nodup_iff.mp hd.apart.tables }
  found := by
    intro x hx
    rw [← h.find?_registered hd]
    exact hd.found x (h.extensions.mem_iff.mpr hx)

/-- Every entity gets the same members, up to their order. -/
theorem complete_sameUpToOrder (h : d.Shuffled d') (hd : d.Consistent) (e : Entity) :
    (d.complete e).SameUpToOrder (d'.complete e) := by
  have hextensions : (d.extensionsOf e).Perm (d'.extensionsOf e) := by
    simp only [extensionsOf, h.find?_registered hd]
    exact h.extensions.filter _
  exact e.extended_sameUpToOrder hextensions

/-- The same entity, completed in both documents, is the same up to the order of its members. -/
theorem rel_map_complete (h : d.Shuffled d') (hd : d.Consistent) (found : Option Entity) :
    Option.Rel Entity.SameUpToOrder (found.map d.complete) (found.map d'.complete) := by
  cases found with
  | none => exact .none
  | some e => exact .some (h.complete_sameUpToOrder hd e)

/-- **Every look-up of a class** finds the same entity, up to the order of its members. -/
theorem rel_find? (h : d.Shuffled d') (hd : d.Consistent) (name : String) :
    Option.Rel Entity.SameUpToOrder (d.assembled.find? name) (d'.assembled.find? name) := by
  rw [find?_assembled, find?_assembled, ← h.find?_registered hd]
  exact h.rel_map_complete hd _

/-- **Every look-up of a table** finds the same entity, up to the order of its members. -/
theorem rel_ofTable? (h : d.Shuffled d') (hd : d.Consistent) (table : String) :
    Option.Rel Entity.SameUpToOrder (d.assembled.ofTable? table)
      (d'.assembled.ofTable? table) := by
  have hregistered : d.registered.ofTable? table = d'.registered.ofTable? table :=
    Lookup.find?_perm h.entities hd.apart.tables table
  rw [ofTable?_assembled, ofTable?_assembled, ← hregistered]
  exact h.rel_map_complete hd _

end Shuffled

end Document

/-- A document that was read from a file, with the news whether the file changed. -/
structure Source where
  document : Document
  changed : Bool
  deriving DecidableEq

namespace Source

open Document

/-- The document with everything in it marked by the news of its file. -/
def marked (s : Source) : Document := s.document.markChanged s.changed

/-- The documents of all sources, one behind the other. -/
def merged (ss : List Source) : Document := ss.foldl (fun d s => d.merge s.marked) {}

/-- The source declares the entity. -/
def Declares (s : Source) (e : Entity) : Prop := ∃ own ∈ s.document.entities, own.label = e.label

/-- The source has an extension that finds the entity in a model. -/
def Extends (s : Source) (m : DataModel) (e : Entity) : Prop :=
  ∃ x ∈ s.document.extensions, m.find? x.className = some e

/-- Merged sources hold the entities of all, and the extensions of all, with their marks. -/
theorem merged_eq (ss : List Source) :
    merged ss =
      { entities := ss.flatMap (·.marked.entities)
        extensions := ss.flatMap (·.marked.extensions) } := by
  have hmerge : ∀ d : Document, ss.foldl (fun d s => d.merge s.marked) d =
      { entities := d.entities ++ ss.flatMap (·.marked.entities)
        extensions := d.extensions ++ ss.flatMap (·.marked.extensions) } := by
    induction ss with
    | nil => simp
    | cons s rest ih =>
      intro d
      rw [List.foldl_cons, ih]
      simp [merge]
  exact hmerge {}

/-- Sources in another order merge to a document that is shuffled. -/
theorem shuffled_merged {ss ts : List Source} (h : ss.Perm ts) :
    (merged ss).Shuffled (merged ts) := by
  rw [merged_eq, merged_eq]
  exact ⟨h.flatMap_right _, h.flatMap_right _⟩

/-- An entity of the merged document comes from one of the sources, with the mark of that source. -/
theorem mem_entities_merged {ss : List Source} {e : Entity} :
    e ∈ (merged ss).entities ↔
      ∃ s ∈ ss, ∃ own ∈ s.document.entities, { own with changed := s.changed } = e := by
  simp [merged_eq, marked, markChanged]

/-- An extension of the merged document comes from one of the sources, with the mark of that source.
-/
theorem mem_extensions_merged {ss : List Source} {x : Extension} :
    x ∈ (merged ss).extensions ↔
      ∃ s ∈ ss, ∃ own ∈ s.document.extensions, { own with changed := s.changed } = x := by
  simp [merged_eq, marked, markChanged]

/-- **An entity is changed** exactly if a changed source declares or extends it. -/
theorem changed_iff {ss : List Source} (hconsistent : (merged ss).Consistent) {e : Entity}
    (he : e ∈ (merged ss).assembled.entities) :
    e.changed = true ↔
      ∃ s ∈ ss, s.changed = true ∧ (s.Declares e ∨ s.Extends (merged ss).assembled e) := by
  obtain ⟨own, hown, rfl⟩ := List.mem_map.mp he
  have hfinds : ∀ name, (merged ss).assembled.find? name = some ((merged ss).complete own) ↔
      (merged ss).registered.find? name = some own := by
    intro name
    rw [find?_assembled]
    exact hconsistent.apart.map_find?_eq_some_iff (label_complete _) hown name
  have hlabel : ((merged ss).complete own).label = own.label := label_complete _ own
  have hchanges := Entity.changed_extended_iff own ((merged ss).extensionsOf own)
  refine hchanges.trans ?_
  constructor
  · rintro (hchanged | ⟨x, hx, hchanged⟩)
    · obtain ⟨s, hs, first, hfirst, rfl⟩ := mem_entities_merged.mp hown
      exact ⟨s, hs, hchanged, Or.inl ⟨first, hfirst, hlabel.symm⟩⟩
    · obtain ⟨hmem, hfind⟩ := List.mem_filter.mp hx
      obtain ⟨s, hs, first, hfirst, rfl⟩ := mem_extensions_merged.mp hmem
      exact ⟨s, hs, hchanged, Or.inr ⟨first, hfirst, (hfinds _).mpr (of_decide_eq_true hfind)⟩⟩
  · rintro ⟨s, hs, hchanged, ⟨first, hfirst, hdeclared⟩ | ⟨first, hfirst, hfind⟩⟩
    · have hmem := mem_entities_merged.mpr ⟨s, hs, first, hfirst, rfl⟩
      have htable : first.table = own.table :=
        DataModel.table_of_label (hdeclared.trans hlabel)
      have hsame := List.inj_on_of_nodup_map hconsistent.apart.tables hmem hown htable
      exact Or.inl (hsame ▸ hchanged)
    · have hmem := mem_extensions_merged.mpr ⟨s, hs, first, hfirst, rfl⟩
      have hfinder : (merged ss).registered.find? first.className = some own := (hfinds _).mp hfind
      exact Or.inr ⟨_, List.mem_filter.mpr ⟨hmem, decide_eq_true hfinder⟩, hchanged⟩

/-- **The order of the files does not matter.**  Documents in another order become a model exactly
if they do in this one; every class and every table then finds the same entity, up to the order of
its members; and an entity is changed exactly if a changed file declares it or extends it. -/
theorem toModel_of_perm {ss ts : List Source} (h : ss.Perm ts) :
    ((∃ m, (merged ss).toModel = .ok m) ↔ ∃ n, (merged ts).toModel = .ok n) ∧
    ∀ m n, (merged ss).toModel = .ok m → (merged ts).toModel = .ok n →
      (∀ name, Option.Rel Entity.SameUpToOrder (m.find? name) (n.find? name)) ∧
      (∀ table, Option.Rel Entity.SameUpToOrder (m.ofTable? table) (n.ofTable? table)) ∧
      ∀ e ∈ m.entities, e.changed = true ↔
        ∃ s ∈ ss, s.changed = true ∧ (s.Declares e ∨ s.Extends m e) := by
  have hshuffled := shuffled_merged h
  refine ⟨?_, ?_⟩
  · simp only [toModel_eq_ok_iff, exists_and_left, exists_eq, and_true]
    exact ⟨hshuffled.consistent, hshuffled.symm.consistent⟩
  · intro m n hm hn
    obtain ⟨hconsistent, rfl⟩ := toModel_eq_ok_iff.mp hm
    obtain ⟨_, rfl⟩ := toModel_eq_ok_iff.mp hn
    exact ⟨hshuffled.rel_find? hconsistent, hshuffled.rel_ofTable? hconsistent,
      fun e he => changed_iff hconsistent he⟩

end Source

namespace Harbor

def boat : Entity :=
  { id := .ofNat 1, className := "Boat", nameSpace := some "Harbor", table := "boats",
    attributes := [.identity], changed := false }

def berth : Entity :=
  { id := .ofNat 2, className := "Berth", table := "berths", attributes := [.identity] }

/-- Boats, by the short name of their class. -/
def lengths : Extension :=
  { className := "Boat", attributes := [.plain "length" "INT"] }

/-- Boats, by the full name of their class. -/
def moorings : Extension :=
  { className := "Harbor\\Boat", attributes := [.plain "moored" "DATE"],
    references := [({ name := "berth", foreignClass := "Berth" } : Reference).withDefaultMapping
      "id"] }

/-- The files of the harbor.  Only the last one has changed. -/
def files : List Source :=
  [⟨{ entities := [boat] }, false⟩, ⟨{ extensions := [lengths] }, false⟩,
    ⟨{ entities := [berth], extensions := [moorings] }, true⟩]

end Harbor

open Harbor in
/-- The last file first: boats get their members in another order, and count as changed because a
changed file extends them. -/
theorem Source.harbor_of_perm :
    files.reverse.Perm files ∧
    ∃ m n, (merged files.reverse).toModel = .ok m ∧ (merged files).toModel = .ok n ∧
      ∃ e f, m.find? "Boat" = some e ∧ n.find? "Boat" = some f ∧ e.SameUpToOrder f ∧
        e.attributes.map (·.name) = ["id", "moored", "length"] ∧
        f.attributes.map (·.name) = ["id", "length", "moored"] ∧
        (∃ s ∈ files.reverse, s.changed = true ∧ (s.Declares e ∨ s.Extends m e)) ∧
        Option.Rel Entity.SameUpToOrder (m.ofTable? "berths") (n.ofTable? "berths") := by
  have hperm : files.reverse.Perm files := files.reverse_perm
  obtain ⟨_, hmodels⟩ := toModel_of_perm hperm
  have hm : (merged files.reverse).toModel = .ok (merged files.reverse).assembled := by
    decide
  have hn : (merged files).toModel = .ok (merged files).assembled := by decide
  obtain ⟨hclasses, htables, hchanged⟩ := hmodels _ _ hm hn
  have he : (merged files.reverse).assembled.find? "Boat" =
      some ((merged files.reverse).complete boat) := by decide
  have hf : (merged files).assembled.find? "Boat" = some ((merged files).complete boat) := by
    decide +kernel
  have hboat := hclasses "Boat"
  rw [he, hf] at hboat
  cases hboat with
  | some hsame =>
    refine ⟨hperm, _, _, hm, hn, _, _, he, hf, hsame, by decide, by decide, ?_,
      htables "berths"⟩
    exact (hchanged _ (DataModel.mem_of_find? he)).mp (by decide)

end Schemata
