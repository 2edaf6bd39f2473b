import Schemata.Model.DataModel

/-!
# Dependency order

Tables are created so that a table comes after the tables it points at.  The order is found in
sweeps over the entities: a sweep places every entity whose dependencies are placed, counting those
that it placed itself, and the sweeps end when one places nothing.  Entities that are then left over
hang on a cycle of references; they follow in order of registration.

* `settle_extends` - further sweeps keep what is placed;
* `mem_of_mem_dependencyOrder` - the order holds entities of the model and nothing else.
-/

namespace Schemata

namespace DataModel

/-- An entity with this identity has been placed. -/
def isPlaced (placed : List Entity) (id : EntityId) : Bool :=
  placed.any (·.id == id)

/-- Every dependency of the entity is placed or belongs to no entity of the model. -/
def isReady (m : DataModel) (placed : List Entity) (e : Entity) : Bool :=
  e.dependencies.all fun id => isPlaced placed id || (m.entity? id).isNone

/-- One sweep over entities, behind those that are placed. -/
def sweep (m : DataModel) (placed : List Entity) : List Entity → List Entity
  | [] => placed
  | e :: rest =>
    if !isPlaced placed e.id && m.isReady placed e then m.sweep (placed ++ [e]) rest
    else m.sweep placed rest

/-- Sweeps over all entities until one places nothing, at most `rounds` of them. -/
def settle (m : DataModel) : Nat → List Entity → List Entity
  | 0, placed => placed
  | rounds + 1, placed =>
    let next := m.sweep placed m.entities
    if next.length = placed.length then placed else m.settle rounds next

/-- The entities that can be ordered.  Each sweep but the last places an entity, so as many sweeps
as there are entities are enough. -/
def ordered (m : DataModel) : List Entity :=
  m.settle m.entities.length []

/-- The entities so that referenced tables come before the tables that reference them, and those
that hang on a cycle of references last. -/
def dependencyOrder (m : DataModel) : List Entity :=
  m.ordered ++ m.entities.filter fun e => !isPlaced m.ordered e.id

/-- A sweep keeps what is placed, in its place. -/
theorem sweep_extends (m : DataModel) (placed es : List Entity) :
    ∃ added, m.sweep placed es = placed ++ added := by
  induction es generalizing placed with
  | nil => exact ⟨[], by simp [sweep]⟩
  | cons e rest ih =>
    rw [sweep]
    split
    · obtain ⟨added, h⟩ := ih (placed ++ [e])
      exact ⟨e :: added, by simp [h]⟩
    · exact ih placed

/-- Further sweeps keep what is placed, in its place. -/
theorem settle_extends (m : DataModel) (rounds : Nat) (placed : List Entity) :
    ∃ added, m.settle rounds placed = placed ++ added := by
  induction rounds generalizing placed with
  | zero => exact ⟨[], by simp [settle]⟩
  | succ rounds ih =>
    rw [settle]
    split
    · exact ⟨[], by simp⟩
    · obtain ⟨first, hfirst⟩ := m.sweep_extends placed m.entities
      obtain ⟨later, hlater⟩ := ih (m.sweep placed m.entities)
      exact ⟨first ++ later, by rw [hlater, hfirst, List.append_assoc]⟩

/-- A sweep places entities that it goes over. -/
theorem mem_of_mem_sweep {m : DataModel} {placed es : List Entity} {e : Entity}
    (h : e ∈ m.sweep placed es) : e ∈ placed ∨ e ∈ es := by
  induction es generalizing placed with
  | nil => exact .inl h
  | cons first rest ih =>
    rw [sweep] at h
    split at h
    · rcases ih h with hplaced | hrest
      · rcases List.mem_append.1 hplaced with hbefore | hfirst
        · exact .inl hbefore
        · exact .inr (List.mem_cons.2 (.inl (List.mem_singleton.1 hfirst)))
      · exact .inr (List.mem_cons_of_mem first hrest)
    · exact (ih h).imp_right (List.mem_cons_of_mem first)

/-- Further sweeps place entities of the model. -/
theorem mem_of_mem_settle {m : DataModel} {rounds : Nat} {placed : List Entity} {e : Entity}
    (h : e ∈ m.settle rounds placed) : e ∈ placed ∨ e ∈ m.entities := by
  induction rounds generalizing placed with
  | zero => exact .inl h
  | succ rounds ih =>
    rw [settle] at h
    split at h
    · exact .inl h
    · exact (ih h).elim mem_of_mem_sweep .inr

/-- The order holds entities of the model and nothing else. -/
theorem mem_of_mem_dependencyOrder {m : DataModel} {e : Entity} (h : e ∈ m.dependencyOrder) :
    e ∈ m.entities := by
  rcases List.mem_append.1 h with hordered | hleft
  · exact (mem_of_mem_settle hordered).elim (fun hnil => nomatch hnil) id
  · exact (List.mem_filter.1 hleft).1

end DataModel

end Schemata
