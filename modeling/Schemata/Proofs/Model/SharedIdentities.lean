import Schemata.Proofs.Model.Placement

/-!
# Entities that share an identity

Nothing keeps two entities of a model from having one identity.  The sweeps of the dependency order
tell entities apart by their identities: of those that share one they place the first that is ready,
and from then on the others count as placed.  Only if nobody with an identity ever gets ready, all
who have it follow the sweeps.

* `isPlaced_ordered_iff_orderable` - the sweeps place exactly the identities that can be ordered;
* `existsUnique_of_orderable` - one entity of such an identity is in the order;
* `dependencyOrder_perm_iff` - the order loses nobody exactly if no two entities share an identity
  that can be ordered.
-/

namespace Schemata

namespace DataModel

variable {m : DataModel} {e : Entity} {id : EntityId}

/-- The identity can be ordered: somebody who has it depends only on identities that can be
ordered. -/
inductive Orderable (m : DataModel) : EntityId → Prop
  | of_entity {e : Entity} (he : e ∈ m.entities)
      (hdeps : ∀ f, m.DependsOn e f → Orderable m f.id) : Orderable m e.id

/-- An entity is ready once a bearer of each id it depends on is placed. -/
theorem isReady_iff {placed : List Entity} :
    m.isReady placed e = true ↔ ∀ f, m.DependsOn e f → isPlaced placed f.id = true := by
  simp only [isReady, List.all_eq_true, Bool.or_eq_true, Option.isNone_iff_eq_none]
  constructor
  · rintro hready f ⟨hf, hdep⟩
    refine (hready f.id hdep).resolve_right fun hnone => ?_
    rw [entity?, Lookup.find?_key_eq_none] at hnone
    exact hnone (List.mem_map_of_mem (List.mem_reverse.mpr hf))
  · intro hplaced id hid
    cases hfound : m.entity? id with
    | none => exact .inr rfl
    | some f =>
      obtain ⟨hf, rfl⟩ := Lookup.mem_of_find?_key hfound
      exact .inl (hplaced f ⟨List.mem_reverse.mp hf, hid⟩)

/-- Who is placed can be ordered. -/
def Grounded (m : DataModel) (placed : List Entity) : Prop := ∀ e ∈ placed, m.Orderable e.id

/-- Placing one more entity: who is ready can be ordered. -/
theorem Grounded.place {placed : List Entity} (h : m.Grounded placed) (he : e ∈ m.entities)
    (hready : m.isReady placed e = true) : m.Grounded (placed ++ [e]) := by
  intro f hf
  rcases List.mem_append.mp hf with hplaced | hlast
  · exact h f hplaced
  · obtain rfl := List.mem_singleton.mp hlast
    refine .of_entity he fun g hdep => ?_
    obtain ⟨g', hg', hid⟩ := isPlaced_iff.mp (isReady_iff.mp hready g hdep)
    exact hid ▸ h g' hg'

/-- A sweep over entities of the model places only what can be ordered. -/
theorem Grounded.sweep {placed es : List Entity} (h : m.Grounded placed)
    (hes : ∀ e ∈ es, e ∈ m.entities) : m.Grounded (m.sweep placed es) := by
  induction es generalizing placed with
  | nil => exact h
  | cons e rest ih =>
    have hrest : ∀ f ∈ rest, f ∈ m.entities := fun f hf => hes f (List.mem_cons_of_mem e hf)
    rw [DataModel.sweep]
    split
    · rename_i hplace
      exact ih (h.place (hes e List.mem_cons_self) (Bool.and_eq_true_iff.mp hplace).2) hrest
    · exact ih h hrest

/-- So does any number of sweeps. -/
theorem Grounded.settle {placed : List Entity} (h : m.Grounded placed) (rounds : Nat) :
    m.Grounded (m.settle rounds placed) := by
  induction rounds generalizing placed with
  | zero => exact h
  | succ rounds ih =>
    rw [DataModel.settle]
    split
    · exact h
    · exact ih (h.sweep fun e he => he)

/-- **The sweeps place exactly the identities that can be ordered.** -/
theorem isPlaced_ordered_iff_orderable : isPlaced m.ordered id = true ↔ m.Orderable id := by
  constructor
  · intro hplaced
    obtain ⟨e, he, rfl⟩ := isPlaced_iff.mp hplaced
    have hnil : m.Grounded [] := fun _ he => nomatch he
    exact hnil.settle _ e he
  · intro h
    induction h with
    | @of_entity e he _ ih =>
      by_contra hleft
      have hwaits := m.saturated_ordered e he (Bool.eq_false_iff.mpr hleft)
      rw [isReady_iff.mpr ih] at hwaits
      cases hwaits

/-- The order holds the entities placed by the sweeps, then those of the model whose id was not
placed. -/
theorem mem_dependencyOrder_iff :
    e ∈ m.dependencyOrder ↔ e ∈ m.ordered ∨ e ∈ m.entities ∧ ¬ m.Orderable e.id := by
  rw [dependencyOrder, List.mem_append, List.mem_filter, Bool.not_eq_true', ← Bool.not_eq_true,
    isPlaced_ordered_iff_orderable]

/-- **One entity of an identity that can be ordered is in the order.** -/
theorem existsUnique_of_orderable (h : m.Orderable id) :
    ∃! e, e ∈ m.dependencyOrder ∧ e.id = id := by
  obtain ⟨e, he, rfl⟩ := isPlaced_iff.mp (isPlaced_ordered_iff_orderable.mpr h)
  have hids : (m.ordered.map (·.id)).Nodup := m.settle_nodup _ List.nodup_nil
  refine ⟨e, ⟨mem_dependencyOrder_iff.mpr (.inl he), rfl⟩, ?_⟩
  rintro f ⟨hf, hid⟩
  rcases mem_dependencyOrder_iff.mp hf with hordered | ⟨_, hnever⟩
  · exact List.inj_on_of_nodup_map hids hordered he hid
  · exact absurd (hid ▸ h) hnever

/-- Everybody with an identity that cannot be ordered is in the order. -/
theorem mem_dependencyOrder_of_not_orderable (he : e ∈ m.entities) (h : ¬ m.Orderable e.id) :
    e ∈ m.dependencyOrder :=
  mem_dependencyOrder_iff.mpr (.inr ⟨he, h⟩)

/-- **The order loses nobody exactly if no two entities share an identity that can be ordered.** -/
theorem dependencyOrder_perm_iff (hnodup : m.entities.Nodup) :
    m.dependencyOrder.Perm m.entities ↔
      ∀ e ∈ m.entities, ∀ f ∈ m.entities, e.id = f.id → m.Orderable e.id → e = f := by
  constructor
  · intro hperm e he f hf hid horderable
    exact (existsUnique_of_orderable horderable).unique ⟨hperm.mem_iff.mpr he, rfl⟩
      ⟨hperm.mem_iff.mpr hf, hid.symm⟩
  · intro hunique
    refine (List.perm_ext_iff_of_nodup (dependencyOrder_nodup hnodup) hnodup).mpr fun e =>
      ⟨mem_of_mem_dependencyOrder, fun he => ?_⟩
    by_cases horderable : m.Orderable e.id
    · obtain ⟨f, ⟨hf, hid⟩, _⟩ := existsUnique_of_orderable horderable
      rwa [hunique e he f (mem_of_mem_dependencyOrder hf) hid.symm horderable]
    · exact mem_dependencyOrder_of_not_orderable he horderable

end DataModel

end Schemata
