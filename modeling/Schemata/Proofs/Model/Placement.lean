import Mathlib.Data.Fintype.Card
import Mathlib.Data.Fintype.EquivFin
import Mathlib.Data.List.Perm.Subperm
import Mathlib.Order.WellFounded
import Schemata.Model.DependencyOrder
import Schemata.Proofs.Lookup

/-!
# What the sweeps place

An entity depends on another one if it holds a reference to it.  The sweeps place exactly the
entities from which no cycle of dependencies can be reached, each behind all that it depends on; the
others follow in order of registration.

* `mem_ordered_iff` - an entity is placed by the sweeps exactly if no cycle can be reached from it;
* `dependencyOrder_nodup` - the order repeats no entity, whatever identities are shared;
* `dependencyOrder_perm` - the order neither loses nor repeats an entity;
* `before_in_dependencyOrder_iff` - an entity stands before one that it depends on exactly if the
  latter reaches a cycle and was registered later.
-/

namespace Schemata

namespace DataModel

/-- The entity holds a reference to another entity of the model. -/
def DependsOn (m : DataModel) (e f : Entity) : Prop :=
  f ∈ m.entities ∧ f.id ∈ e.dependencies

/-- The entity is on a cycle of dependencies, or leads to one. -/
def ReachesCycle (m : DataModel) (e : Entity) : Prop :=
  ∃ f, Relation.ReflTransGen m.DependsOn e f ∧ Relation.TransGen m.DependsOn f f

/-- Whoever leads to a cycle depends on somebody who does. -/
theorem ReachesCycle.exists_dependsOn {m : DataModel} {e : Entity} (h : m.ReachesCycle e) :
    ∃ f, m.DependsOn e f ∧ m.ReachesCycle f := by
  obtain ⟨f, hreach, hcycle⟩ := h
  rcases Relation.ReflTransGen.cases_head hreach with rfl | ⟨g, hstep, hrest⟩
  · obtain ⟨g, hstep, hrest⟩ := Relation.TransGen.head'_iff.mp hcycle
    exact ⟨g, hstep, e, hrest, hcycle⟩
  · exact ⟨g, hstep, f, hrest, hcycle⟩

/-- What depends on an entity that leads into a cycle leads into it as well. -/
theorem ReachesCycle.of_dependsOn {m : DataModel} {e f : Entity} (hstep : m.DependsOn e f)
    (h : m.ReachesCycle f) : m.ReachesCycle e := by
  obtain ⟨g, hreach, hcycle⟩ := h
  exact ⟨g, .head hstep hreach, hcycle⟩

/-- An id counts as placed once an entity of that id is. -/
theorem isPlaced_iff {placed : List Entity} {id : EntityId} :
    isPlaced placed id = true ↔ ∃ e ∈ placed, e.id = id := by
  simp [isPlaced]

/-- An entity whose identity is new may follow those that are placed. -/
theorem place_nodup {placed : List Entity} (h : (placed.map (·.id)).Nodup) {e : Entity}
    (hnew : isPlaced placed e.id = false) : ((placed ++ [e]).map (·.id)).Nodup := by
  rw [List.map_append, List.nodup_append]
  refine ⟨h, by simp, ?_⟩
  intro id hid other hother heq
  obtain ⟨f, hf, rfl⟩ := List.mem_map.mp hid
  obtain rfl : other = e.id := by simpa using hother
  rw [isPlaced_iff.mpr ⟨f, hf, heq⟩] at hnew
  cases hnew

/-- A sweep places no identity twice. -/
theorem sweep_nodup (m : DataModel) {placed : List Entity} (h : (placed.map (·.id)).Nodup)
    (es : List Entity) : ((m.sweep placed es).map (·.id)).Nodup := by
  induction es generalizing placed with
  | nil => exact h
  | cons e rest ih =>
    rw [sweep]
    split
    · rename_i hplace
      simp only [Bool.and_eq_true, Bool.not_eq_true'] at hplace
      exact ih (place_nodup h hplace.1)
    · exact ih h

/-- No number of sweeps places an id twice. -/
theorem settle_nodup (m : DataModel) (rounds : Nat) {placed : List Entity}
    (h : (placed.map (·.id)).Nodup) : ((m.settle rounds placed).map (·.id)).Nodup := by
  induction rounds generalizing placed with
  | zero => exact h
  | succ rounds ih =>
    rw [settle]
    split
    · exact h
    · exact ih (m.sweep_nodup h m.entities)

/-- **The order repeats no entity,** even if entities share an identity. -/
theorem dependencyOrder_nodup {m : DataModel} (h : m.entities.Nodup) : m.dependencyOrder.Nodup := by
  have hordered : (m.ordered.map (·.id)).Nodup := m.settle_nodup _ List.nodup_nil
  refine List.nodup_append.mpr ⟨hordered.of_map, h.filter _, ?_⟩
  rintro e he f hf rfl
  have hleft := (List.mem_filter.mp hf).2
  rw [isPlaced_iff.mpr ⟨e, he, rfl⟩] at hleft
  cases hleft

section

variable {m : DataModel}

/-- Where ids are distinct, each entity is found under its own. -/
theorem entity?_eq_some (hids : (m.entities.map (·.id)).Nodup) {e : Entity}
    (he : e ∈ m.entities) : m.entity? e.id = some e := by
  have hreverse : (m.entities.reverse.map (·.id)).Nodup := by
    rw [List.map_reverse]
    exact List.nodup_reverse.mpr hids
  exact Lookup.find?_key hreverse (List.mem_reverse.mpr he)

/-- What the sweeps keep: placed entities are distinct entities of the model, with all that they
depend on, which stands before them; and no cycle can be reached from them. -/
structure Orderly (m : DataModel) (placed : List Entity) : Prop where
  mem : ∀ e ∈ placed, e ∈ m.entities
  nodup : (placed.map (·.id)).Nodup
  closed : ∀ e ∈ placed, ∀ f, m.DependsOn e f → f ∈ placed
  ordered : placed.Pairwise fun e f => ¬ m.DependsOn e f
  acyclic : ∀ e ∈ placed, ¬ m.ReachesCycle e

/-- An entity that is ready depends on placed entities only. -/
theorem mem_of_isReady (hids : (m.entities.map (·.id)).Nodup) {placed : List Entity}
    (hmem : ∀ e ∈ placed, e ∈ m.entities) {e f : Entity} (hready : m.isReady placed e = true)
    (hdep : m.DependsOn e f) : f ∈ placed := by
  have hsettled := List.all_eq_true.mp hready f.id hdep.2
  simp only [entity?_eq_some hids hdep.1, Option.isNone_some, Bool.or_false] at hsettled
  obtain ⟨g, hg, hid⟩ := isPlaced_iff.mp hsettled
  obtain rfl : g = f := List.inj_on_of_nodup_map hids (hmem g hg) hdep.1 hid
  exact hg

/-- Nothing placed is orderly. -/
theorem orderly_nil : m.Orderly [] := by
  refine ⟨?_, List.nodup_nil, ?_, List.Pairwise.nil, ?_⟩ <;>
    · intro e he
      cases he

/-- **Placing one more entity keeps the order:** an entity that is new and ready may follow. -/
theorem Orderly.place (hids : (m.entities.map (·.id)).Nodup) {placed : List Entity}
    (h : m.Orderly placed) {e : Entity} (he : e ∈ m.entities)
    (hnew : isPlaced placed e.id = false) (hready : m.isReady placed e = true) :
    m.Orderly (placed ++ [e]) := by
  have hfresh : ∀ f ∈ placed, f.id ≠ e.id := by
    intro f hf hid
    rw [isPlaced_iff.mpr ⟨f, hf, hid⟩] at hnew
    cases hnew
  have hdeps : ∀ f, m.DependsOn e f → f ∈ placed := fun f => mem_of_isReady hids h.mem hready
  refine ⟨?_, ?_, ?_, ?_, ?_⟩
  · intro f hf
    rcases List.mem_append.mp hf with hf | hf
    · exact h.mem f hf
    · exact List.mem_singleton.mp hf ▸ he
  · exact place_nodup h.nodup hnew
  · intro f hf g hdep
    rcases List.mem_append.mp hf with hf | hf
    · exact List.mem_append_left _ (h.closed f hf g hdep)
    · exact List.mem_append_left _ (hdeps g (List.mem_singleton.mp hf ▸ hdep))
  · refine List.pairwise_append.mpr ⟨h.ordered, by simp, ?_⟩
    intro f hf g hg hdep
    obtain rfl := List.mem_singleton.mp hg
    exact hfresh g (h.closed f hf g hdep) rfl
  · intro f hf hcycle
    rcases List.mem_append.mp hf with hf | hf
    · exact h.acyclic f hf hcycle
    · obtain rfl := List.mem_singleton.mp hf
      obtain ⟨g, hdep, hg⟩ := hcycle.exists_dependsOn
      exact h.acyclic g (hdeps g hdep) hg

/-- A sweep over entities of the model keeps the order, whichever they are. -/
theorem Orderly.sweep (hids : (m.entities.map (·.id)).Nodup) {es : List Entity}
    (hes : ∀ e ∈ es, e ∈ m.entities) {placed : List Entity} (h : m.Orderly placed) :
    m.Orderly (m.sweep placed es) := by
  induction es generalizing placed with
  | nil => exact h
  | cons e rest ih =>
    have hrest : ∀ f ∈ rest, f ∈ m.entities := fun f hf => hes f (List.mem_cons_of_mem e hf)
    rw [DataModel.sweep]
    split
    · rename_i hplace
      simp only [Bool.and_eq_true, Bool.not_eq_true'] at hplace
      exact ih hrest (h.place hids (hes e List.mem_cons_self) hplace.1 hplace.2)
    · exact ih hrest h

/-- Sweeping on keeps the order. -/
theorem Orderly.settle (hids : (m.entities.map (·.id)).Nodup) (rounds : Nat)
    {placed : List Entity} (h : m.Orderly placed) : m.Orderly (m.settle rounds placed) := by
  induction rounds generalizing placed with
  | zero => exact h
  | succ rounds ih =>
    rw [DataModel.settle]
    split
    · exact h
    · exact ih (h.sweep hids fun e he => he)

/-- The entities placed by the sweeps stand in order. -/
theorem orderly_ordered (hids : (m.entities.map (·.id)).Nodup) : m.Orderly m.ordered :=
  orderly_nil.settle hids _

/-- Everybody who is not placed waits for somebody who is not placed either. -/
def Saturated (m : DataModel) (placed : List Entity) : Prop :=
  ∀ e ∈ m.entities, isPlaced placed e.id = false → m.isReady placed e = false

/-- A sweep that places nothing met nobody to place. -/
theorem not_ready_of_sweep_eq {placed es : List Entity}
    (h : (m.sweep placed es).length = placed.length) :
    ∀ e ∈ es, isPlaced placed e.id = false → m.isReady placed e = false := by
  induction es with
  | nil => intro e he; cases he
  | cons first rest ih =>
    rw [DataModel.sweep] at h
    split at h
    · obtain ⟨added, hadded⟩ := m.sweep_extends (placed ++ [first]) rest
      rw [hadded] at h
      simp only [List.length_append, List.length_cons, List.length_nil] at h
      omega
    · rename_i hskip
      intro e he hnew
      rcases List.mem_cons.mp he with rfl | hrest
      · simpa [hnew] using hskip
      · exact ih h e hrest hnew

/-- Placed entities belong to the model, and no two of them share an identity. -/
structure Placing (m : DataModel) (placed : List Entity) : Prop where
  mem : ∀ e ∈ placed, e ∈ m.entities
  nodup : (placed.map (·.id)).Nodup

/-- The sweeps start out with nothing placed. -/
theorem placing_nil : m.Placing [] :=
  ⟨by simp, List.nodup_nil⟩

/-- A sweep over the whole model leaves a stage of the placing. -/
theorem Placing.sweep {placed : List Entity} (h : m.Placing placed) :
    m.Placing (m.sweep placed m.entities) where
  mem _ he := (mem_of_mem_sweep he).elim (h.mem _) id
  nodup := m.sweep_nodup h.nodup m.entities

/-- As many distinct entities as the model holds are all of them. -/
theorem Placing.saturated_of_length {placed : List Entity}
    (h : m.Placing placed) (hlength : m.entities.length ≤ placed.length) :
    m.Saturated placed := by
  have hsub : placed.Subperm m.entities := (h.nodup.of_map _).subperm fun e he => h.mem e he
  have hperm := hsub.perm_of_length_le hlength
  intro e he hnew
  rw [isPlaced_iff.mpr ⟨e, hperm.mem_iff.mpr he, rfl⟩] at hnew
  cases hnew

/-- Enough sweeps place all that can be placed. -/
theorem Placing.saturated_settle (rounds : Nat) {placed : List Entity} (h : m.Placing placed)
    (hrounds : m.entities.length ≤ placed.length + rounds) :
    m.Saturated (m.settle rounds placed) := by
  induction rounds generalizing placed with
  | zero => exact h.saturated_of_length hrounds
  | succ rounds ih =>
    rw [DataModel.settle]
    split
    · rename_i hsame
      exact not_ready_of_sweep_eq hsame
    -- A sweep that goes on places one entity at least.
    · rename_i hmore
      obtain ⟨added, hadded⟩ := m.sweep_extends placed m.entities
      refine ih h.sweep ?_
      rw [hadded, List.length_append] at hmore ⊢
      omega

/-- Nobody who could be placed is left over, whatever identities are shared. -/
theorem saturated_ordered (m : DataModel) : m.Saturated m.ordered :=
  placing_nil.saturated_settle _ (by simp)

/-- Where ids are distinct, it is the entity itself that is placed, not another of its id. -/
theorem isPlaced_ordered_iff (hids : (m.entities.map (·.id)).Nodup) {e : Entity}
    (he : e ∈ m.entities) : isPlaced m.ordered e.id = true ↔ e ∈ m.ordered := by
  rw [isPlaced_iff]
  constructor
  · rintro ⟨f, hf, hid⟩
    obtain rfl : f = e :=
      List.inj_on_of_nodup_map hids ((orderly_ordered hids).mem f hf) he hid
    exact hf
  · intro hmem
    exact ⟨e, hmem, rfl⟩

/-- An entity that is left over depends on one that is left over. -/
theorem exists_left_of_left (hids : (m.entities.map (·.id)).Nodup) {e : Entity}
    (he : e ∈ m.entities) (hleft : e ∉ m.ordered) :
    ∃ f, m.DependsOn e f ∧ f ∉ m.ordered := by
  have hnew : isPlaced m.ordered e.id = false := by
    rw [← Bool.not_eq_true, isPlaced_ordered_iff hids he]
    exact hleft
  obtain ⟨id, hid, hopen⟩ := List.all_eq_false.mp (m.saturated_ordered e he hnew)
  simp only [Bool.or_eq_true, not_or, Bool.not_eq_true, Option.isNone_eq_false_iff] at hopen
  obtain ⟨f, hf⟩ := Option.isSome_iff_exists.mp hopen.2
  obtain ⟨hmem, rfl⟩ := Lookup.mem_of_find?_key hf
  refine ⟨f, ⟨List.mem_reverse.mp hmem, hid⟩, ?_⟩
  intro hplaced
  have hmissing := hopen.1
  rw [isPlaced_iff.mpr ⟨f, hplaced, rfl⟩] at hmissing
  cases hmissing

/-- **The sweeps place exactly the entities from which no cycle can be reached.** -/
theorem mem_ordered_iff (hids : (m.entities.map (·.id)).Nodup) {e : Entity}
    (he : e ∈ m.entities) : e ∈ m.ordered ↔ ¬ m.ReachesCycle e := by
  refine ⟨fun hmem => (orderly_ordered hids).acyclic e hmem, ?_⟩
  intro hfree
  by_contra hleft
  -- The entities reachable from `e` are finitely many and none of them depends on itself, so one
  -- of those that are left over depends on no other; but everybody left over does.
  let Reachable := { f : Entity // f ∈ m.entities ∧ Relation.ReflTransGen m.DependsOn e f }
  let toEntity : Reachable → { f // f ∈ m.entities } := fun f => ⟨f.1, f.2.1⟩
  have hfinite : Finite Reachable := Finite.of_injective toEntity fun f g hfg =>
    Subtype.ext (Subtype.mk.inj hfg)
  let below : Reachable → Reachable → Prop := fun f g => Relation.TransGen m.DependsOn g.1 f.1
  have htrans : IsTrans Reachable below := ⟨fun _ _ _ hfg hgh => hgh.trans hfg⟩
  have hirrefl : Std.Irrefl below := ⟨fun f hf => hfree ⟨f.1, f.2.2, hf⟩⟩
  have hfounded : WellFounded below := Finite.wellFounded_of_trans_of_irrefl below
  obtain ⟨f, hf, hleast⟩ := hfounded.has_min { f | f.1 ∉ m.ordered } ⟨⟨e, he, .refl⟩, hleft⟩
  obtain ⟨g, hdep, hg⟩ := exists_left_of_left hids f.2.1 hf
  exact hleast ⟨g, hdep.1, f.2.2.tail hdep⟩ hg (.single hdep)

/-- The entities that follow the sweeps are those that lead to a cycle. -/
theorem mem_left_iff (hids : (m.entities.map (·.id)).Nodup) {e : Entity} :
    e ∈ m.entities.filter (fun e => !isPlaced m.ordered e.id) ↔
      e ∈ m.entities ∧ m.ReachesCycle e := by
  rw [List.mem_filter]
  refine and_congr_right fun he => ?_
  rw [Bool.not_eq_true', ← Bool.not_eq_true, isPlaced_ordered_iff hids he,
    mem_ordered_iff hids he, not_not]

/-- **The dependency order neither loses nor repeats an entity.** -/
theorem dependencyOrder_perm (hids : (m.entities.map (·.id)).Nodup) :
    m.dependencyOrder.Perm m.entities := by
  have hnodup : m.entities.Nodup := hids.of_map _
  have horderly := orderly_ordered hids
  have hapart : m.dependencyOrder.Nodup := by
    refine List.nodup_append.mpr ⟨horderly.nodup.of_map _, hnodup.filter _, ?_⟩
    intro e he f hf heq
    subst heq
    exact horderly.acyclic e he ((mem_left_iff hids).mp hf).2
  refine (List.perm_ext_iff_of_nodup hapart hnodup).mpr fun e => ⟨mem_of_mem_dependencyOrder, ?_⟩
  intro he
  by_cases hcycle : m.ReachesCycle e
  · exact List.mem_append_right _ ((mem_left_iff hids).mpr ⟨he, hcycle⟩)
  · exact List.mem_append_left _ ((mem_ordered_iff hids he).mpr hcycle)

/-- **Who stands before somebody it depends on:** only an entity that was registered before one that
leads to a cycle. -/
theorem before_in_dependencyOrder_iff (hids : (m.entities.map (·.id)).Nodup) {e f : Entity}
    (hdep : m.DependsOn e f) :
    [e, f].Sublist m.dependencyOrder ↔ m.ReachesCycle f ∧ [e, f].Sublist m.entities := by
  have horderly := orderly_ordered hids
  constructor
  · intro hbefore
    obtain ⟨placed, left, hsplit, hplaced, hleft⟩ := List.sublist_append_iff.mp hbefore
    rcases placed with _ | ⟨first, _ | ⟨second, rest⟩⟩
    · obtain rfl : [e, f] = left := hsplit
      have hf : f ∈ m.entities.filter fun e => !isPlaced m.ordered e.id := hleft.subset (by simp)
      exact ⟨((mem_left_iff hids).mp hf).2, hleft.trans List.filter_sublist⟩
    · simp only [List.cons_append, List.nil_append, List.cons.injEq] at hsplit
      obtain ⟨rfl, rfl⟩ := hsplit
      have he : e ∈ m.ordered := hplaced.subset (by simp)
      have hf := (mem_left_iff hids).mp (hleft.subset (List.mem_singleton.mpr rfl))
      exact absurd hf.2 (horderly.acyclic f (horderly.closed e he f hdep))
    · simp only [List.cons_append, List.cons.injEq] at hsplit
      obtain ⟨rfl, rfl, -⟩ := hsplit
      have hapart := horderly.ordered.sublist hplaced
      exact absurd hdep ((List.pairwise_cons.mp hapart).1 f List.mem_cons_self)
  · rintro ⟨hcycle, hbefore⟩
    have hkept : [e, f].filter (fun e => !isPlaced m.ordered e.id) = [e, f] := by
      refine List.filter_eq_self.mpr fun g hg => ?_
      have hmem : g ∈ m.entities := hbefore.subset hg
      have hleads : m.ReachesCycle g := by
        rcases List.mem_cons.mp hg with rfl | hg
        · exact hcycle.of_dependsOn hdep
        · exact List.mem_singleton.mp hg ▸ hcycle
      exact (List.mem_filter.mp ((mem_left_iff hids).mpr ⟨hmem, hleads⟩)).2
    have hsub := hbefore.filter fun e => !isPlaced m.ordered e.id
    rw [hkept] at hsub
    exact hsub.trans (List.sublist_append_right _ _)

end

end DataModel

end Schemata
