import Schemata.Model.Linking
import Schemata.Proofs.Model.Placement

/-!
# The dependency order, exactly

The sweeps of the dependency order run until one of them places nothing; nobody counts them.  They
come to an end all the same, and what they leave behind is known in full: first the entities from
which no cycle of dependencies can be reached, each behind all that it depends on, then the others
in order of registration.

* `sweeping_iff` - the sweeps come to an end, with the entities that can be ordered;
* `pair_sublist_ordered` - a placed entity stands behind all that it depends on;
* `dependencyOrder_exact` - the dependency order is a permutation of the entities, made of those
  that can be ordered and of those that lead to a cycle.
-/

namespace Schemata

namespace DataModel

/-- Sweeps over all entities until one of them places nothing, from what is placed at the start to
what is placed in the end. -/
inductive Sweeping (m : DataModel) : List Entity → List Entity → Prop
  | stop {placed : List Entity} (h : (m.sweep placed m.entities).length = placed.length) :
      Sweeping m placed (m.sweep placed m.entities)
  | again {placed final : List Entity}
      (h : (m.sweep placed m.entities).length ≠ placed.length)
      (rest : Sweeping m (m.sweep placed m.entities) final) : Sweeping m placed final

variable {m : DataModel}

/-- The sweeps come to one end at most. -/
theorem Sweeping.unique {placed final other : List Entity} (h : m.Sweeping placed final)
    (h' : m.Sweeping placed other) : other = final := by
  induction h with
  | stop hend =>
    cases h' with
    | stop _ => rfl
    | again hmore _ => exact absurd hend hmore
  | again hmore _ ih =>
    cases h' with
    | stop hend => exact absurd hend hmore
    | again _ hrest => exact ih hrest

/-- A sweep takes nothing away again. -/
theorem length_le_sweep (m : DataModel) (placed es : List Entity) :
    placed.length ≤ (m.sweep placed es).length := by
  obtain ⟨added, hadded⟩ := m.sweep_extends placed es
  rw [hadded, List.length_append]
  exact Nat.le_add_right _ _

/-- A sweep that places nothing leaves everything as it is. -/
theorem sweep_eq_self {placed es : List Entity}
    (h : (m.sweep placed es).length = placed.length) : m.sweep placed es = placed := by
  obtain ⟨added, hadded⟩ := m.sweep_extends placed es
  rw [hadded, List.length_append] at h
  have hnone : added = [] := List.length_eq_zero_iff.mp (by omega)
  rw [hadded, hnone, List.append_nil]

/-- A sweep that places nothing ends the sweeping. -/
theorem Sweeping.stay {placed : List Entity}
    (h : (m.sweep placed m.entities).length = placed.length) : m.Sweeping placed placed := by
  have hstop := Sweeping.stop h
  rwa [sweep_eq_self h] at hstop

/-- No more entities are placed than there are. -/
theorem Orderly.length_le {placed : List Entity} (h : m.Orderly placed) :
    placed.length ≤ m.entities.length :=
  ((h.nodup.of_map _).subperm fun e he => h.mem e he).length_le

/-- As many sweeps as entities are missing bring the sweeps to an end. -/
theorem Orderly.sweeping_settle (hids : (m.entities.map (·.id)).Nodup) (rounds : Nat)
    {placed : List Entity} (h : m.Orderly placed)
    (hrounds : m.entities.length ≤ placed.length + rounds) :
    m.Sweeping placed (m.settle rounds placed) := by
  induction rounds generalizing placed with
  | zero =>
    have hgrows := m.length_le_sweep placed m.entities
    have hbound := (h.sweep hids fun e he => he).length_le
    exact .stay (by omega)
  | succ rounds ih =>
    rw [DataModel.settle]
    split
    · rename_i hsame
      exact .stay hsame
    · rename_i hmore
      have hgrows := m.length_le_sweep placed m.entities
      exact .again hmore (ih (h.sweep hids fun e he => he) (by omega))

/-- **The sweeps come to an end,** and then exactly the entities that can be ordered are placed. -/
theorem sweeping_iff (hids : (m.entities.map (·.id)).Nodup) {final : List Entity} :
    m.Sweeping [] final ↔ final = m.ordered := by
  have hordered : m.Sweeping [] m.ordered := orderly_nil.sweeping_settle hids _ (by simp)
  constructor
  · intro h
    exact hordered.unique h
  · rintro rfl
    exact hordered

/-- **A placed entity stands behind all that it depends on.** -/
theorem pair_sublist_ordered (hids : (m.entities.map (·.id)).Nodup) {e f : Entity}
    (he : e ∈ m.ordered) (hdep : m.DependsOn e f) : [f, e].Sublist m.ordered := by
  have horderly := orderly_ordered hids
  obtain ⟨before, later, hsplit⟩ := List.append_of_mem he
  have hf : f ∈ before ++ e :: later := hsplit ▸ horderly.closed e he f hdep
  have hapart := horderly.ordered
  rw [hsplit, List.pairwise_append, List.pairwise_cons] at hapart
  have hbefore : f ∈ before := by
    rcases List.mem_append.mp hf with hf | hf
    · exact hf
    · rcases List.mem_cons.mp hf with rfl | hf
      · exact absurd rfl (Entity.mem_dependencies.mp hdep.2).1
      · exact absurd hdep (hapart.2.1.1 f hf)
  rw [hsplit]
  exact (List.singleton_sublist.mpr hbefore).append
    (List.singleton_sublist.mpr List.mem_cons_self)

/-- The entities that follow the sweeps. -/
def leftOver (m : DataModel) : List Entity := m.entities.filter fun e => !isPlaced m.ordered e.id

end DataModel

/-- A book trade: chapters of books on shelves, and authors and agents who point at each other. -/
def bookTrade : DataModel :=
  { entities := [
      { id := .ofNat 1, className := "Chapter", table := "chapter",
        references := [{ name := "book", foreignClass := "Book" }] },
      { id := .ofNat 2, className := "Contract", table := "contract",
        references := [{ name := "agent", foreignClass := "Agent" },
          { name := "book", foreignClass := "Book" }] },
      { id := .ofNat 3, className := "Book", table := "book",
        references := [{ name := "shelf", foreignClass := "Shelf" },
          { name := "sequel", foreignClass := "Book" }] },
      { id := .ofNat 4, className := "Author", table := "author",
        references := [{ name := "agent", foreignClass := "Agent" }] },
      { id := .ofNat 5, className := "Agent", table := "agent",
        references := [{ name := "author", foreignClass := "Author" }] },
      { id := .ofNat 6, className := "Shelf", table := "shelf" }] : DataModel }.linkAll

namespace DataModel

/-- **The dependency order, exactly.**  The sweeps come to an end.  The order is a permutation of
the entities: first those that the sweeps place, each behind all that it depends on, then exactly
those from which a cycle can be reached, as they were registered.  So without cycles every entity
stands behind the others that its references point at. -/
theorem dependencyOrder_exact (m : DataModel) (hids : (m.entities.map (·.id)).Nodup) :
    (∀ final, m.Sweeping [] final ↔ final = m.ordered) ∧
    m.dependencyOrder.Perm m.entities ∧
    m.dependencyOrder = m.ordered ++ m.leftOver ∧
    m.leftOver.Sublist m.entities ∧
    (∀ e, e ∈ m.leftOver ↔ e ∈ m.entities ∧ m.ReachesCycle e) ∧
    (∀ e ∈ m.ordered, ∀ f, m.DependsOn e f → [f, e].Sublist m.ordered) ∧
    ((∀ e, ¬ Relation.TransGen m.DependsOn e e) →
      ∀ e ∈ m.entities, ∀ r ∈ e.references, ∀ target, r.target? = some target →
        ∀ f ∈ m.entities, f.id = target.entity → f ≠ e → [f, e].Sublist m.dependencyOrder) := by
  refine ⟨fun _ => sweeping_iff hids, dependencyOrder_perm hids, rfl, List.filter_sublist,
    fun _ => mem_left_iff hids, fun e he f hdep => pair_sublist_ordered hids he hdep, ?_⟩
  intro hacyclic e he r hr target htarget f hf hid hne
  have hids' : f.id ≠ e.id := fun heq => hne (List.inj_on_of_nodup_map hids hf he heq)
  have hdep : m.DependsOn e f :=
    ⟨hf, Entity.mem_dependencies.mpr ⟨hids', r, hr, target, htarget, hid.symm⟩⟩
  have hfree : ¬ m.ReachesCycle e := fun ⟨g, _, hcycle⟩ => hacyclic g hcycle
  have hplaced : e ∈ m.ordered := (mem_ordered_iff hids he).mpr hfree
  exact (pair_sublist_ordered hids hplaced hdep).trans (List.sublist_append_left _ _)

/-- The book trade is ordered in three sweeps and a fourth that places nothing; contracts, authors
and agents are left over. -/
theorem bookTrade_order_exact :
    (bookTrade.entities.map (·.id)).Nodup ∧
    bookTrade.ordered.map (·.table) = ["shelf", "book", "chapter"] ∧
    bookTrade.leftOver.map (·.table) = ["contract", "author", "agent"] ∧
    (∀ final, bookTrade.Sweeping [] final ↔ final = bookTrade.ordered) ∧
    (∀ e, e ∈ bookTrade.leftOver ↔ e ∈ bookTrade.entities ∧ bookTrade.ReachesCycle e) := by
  have hids : (bookTrade.entities.map (·.id)).Nodup := by decide
  obtain ⟨hsweeping, _, _, _, hleft, _⟩ := dependencyOrder_exact bookTrade hids
  exact ⟨hids, by decide, by decide, hsweeping, hleft⟩

end DataModel

end Schemata
