import Schemata.Proofs.Migration.FromNothing
import Schemata.Proofs.Migration.KeySafety

/-!
# The names of foreign keys

A foreign key that is given no name is called after its table and its reference, with an underscore
between them.  Both may hold underscores themselves, so the name does not say where the table ends:
the reference `lineAddress` of `order` and the reference `address` of `order_line` share a name.
The names of one table are as distinct as those of its references, and names of two tables meet in
this way only.  A database tells foreign keys apart by name, whatever their tables; so it takes all
foreign keys of a new model exactly if their names are distinct.

* `constraint_eq_iff` - how names of different tables meet;
* `constraints_nodup_iff` - when all names are distinct;
* `Clean.takesKey_iff` - when a database takes all foreign keys;
* `constraints_nodup_exact` - what both come to;
* `delivery_names_meet` - a clean model with two foreign keys of one name.
-/

namespace Schemata

namespace Naming

/-- The second table is called after the first, and the reference of the first begins with what the
second table has more. -/
def Bridges (table reference table' reference' : String) : Prop :=
  ∃ between, table' = table ++ "_" ++ between ∧
    Text.snake reference = between ++ "_" ++ Text.snake reference'

/-- Two tables whose default names meet have different names. -/
theorem Bridges.tables_ne {table reference table' reference' : String}
    (h : Bridges table reference table' reference') : table ≠ table' := by
  obtain ⟨between, rfl, -⟩ := h
  intro heq
  have hlength := congrArg (·.length) heq
  simp only [String.length_append] at hlength
  have hmark : "_".length = 1 := rfl
  omega

/-- A first part that goes on behind another one does so with an underscore, and what is joined to
the other one begins with what follows. -/
theorem exists_between {first first' rest rest' : String} {more : List Char} (hne : first ≠ first')
    (hfirst : first'.toList = first.toList ++ more)
    (hrest : '_' :: rest.toList = more ++ '_' :: rest'.toList) :
    ∃ between, first' = first ++ "_" ++ between ∧ rest = between ++ "_" ++ rest' := by
  cases more with
  | nil => exact absurd (String.toList_inj.mp (by simpa using hfirst.symm)) hne
  | cons c between =>
    obtain ⟨rfl, hbetween⟩ := List.cons.inj hrest
    refine ⟨String.ofList between, String.toList_inj.mp ?_, String.toList_inj.mp ?_⟩
    · simp [hfirst]
    · simp [hbetween]

/-- Two texts that are joined out of different first parts are equal if one first part goes on where
the other ends. -/
theorem joined_eq_iff {first rest first' rest' : String} (hne : first ≠ first') :
    first ++ "_" ++ rest = first' ++ "_" ++ rest' ↔
      (∃ between, first' = first ++ "_" ++ between ∧ rest = between ++ "_" ++ rest') ∨
      (∃ between, first = first' ++ "_" ++ between ∧ rest' = between ++ "_" ++ rest) := by
  constructor
  · intro heq
    have hlists : first.toList ++ '_' :: rest.toList = first'.toList ++ '_' :: rest'.toList := by
      simpa using congrArg String.toList heq
    rcases List.append_eq_append_iff.mp hlists with ⟨more, hfirst, hrest⟩ | ⟨more, hfirst, hrest⟩
    · exact .inl (exists_between hne hfirst hrest)
    · exact .inr (exists_between hne.symm hfirst hrest)
  · rintro (⟨between, rfl, rfl⟩ | ⟨between, rfl, rfl⟩) <;> simp only [String.append_assoc]

/-- **Names of different tables meet if one table bridges the other.** -/
theorem constraint_eq_iff {table reference table' reference' : String} (hne : table ≠ table') :
    constraint table reference = constraint table' reference' ↔
      Bridges table reference table' reference' ∨ Bridges table' reference' table reference :=
  joined_eq_iff hne

example : constraint "order" "lineAddress" = constraint "order_line" "address" := by decide

end Naming

/-- Lists put together repeat nothing if none does and no two share anything. -/
theorem nodup_flatMap_iff {α β : Type} {f : α → List β} {l : List α} (hl : l.Nodup) :
    (l.flatMap f).Nodup ↔
      (∀ x ∈ l, (f x).Nodup) ∧ ∀ x ∈ l, ∀ y ∈ l, x ≠ y → (f x).Disjoint (f y) := by
  constructor
  · intro h
    refine ⟨(List.nodup_flatMap.mp h).1, fun x hx y hy hne c hcx hcy => ?_⟩
    exact hne (Lookup.eq_of_mem_flatMap h hx hy hcx hcy)
  · rintro ⟨hown, hapart⟩
    exact List.nodup_flatMap.mpr ⟨hown, hl.pairwise_of_forall_ne hapart⟩

/-- The database takes the foreign key: both tables have the columns that it names, and its name is
free. -/
structure Catalog.TakesKey (c : Catalog) (table : String) (key : ForeignKey) : Prop where
  columns : c.Provides table key.columns
  foreignColumns : c.Provides key.foreignTable key.foreignColumns
  nameFree : ¬ c.HasConstraint key.constraint

namespace DataModel

/-- The names of all foreign keys, table by table. -/
def constraints (m : DataModel) : List String :=
  m.entities.flatMap fun e => e.references.map (·.constraint)

/-- Every reference got the name that its table gives it. -/
def DefaultConstraints (m : DataModel) : Prop :=
  ∀ e ∈ m.entities, ∀ r ∈ e.references, r.constraint = Naming.constraint e.table r.name

instance (m : DataModel) : Decidable m.DefaultConstraints :=
  inferInstanceAs (Decidable
    (∀ e ∈ m.entities, ∀ r ∈ e.references, r.constraint = Naming.constraint e.table r.name))

/-- No two references of an entity are called alike in snake case. -/
def DistinctReferences (m : DataModel) : Prop :=
  ∀ e ∈ m.entities, (e.references.map (Text.snake ·.name)).Nodup

/-- No table is called after another one in such a way that the names of their foreign keys meet. -/
def Unbridged (m : DataModel) : Prop :=
  ∀ e ∈ m.entities, ∀ f ∈ m.entities, ∀ r ∈ e.references, ∀ s ∈ f.references,
    ¬ Naming.Bridges e.table r.name f.table s.name

variable {m : DataModel} {e : Entity}

/-- A clean model repeats no entity. -/
theorem Clean.entities_nodup (h : m.Clean) : m.entities.Nodup := h.finished.tables_nodup.of_map

/-- **Every reference of a clean model has a foreign key.** -/
theorem Clean.linkedReferences_eq (h : m.Clean) (he : e ∈ m.entities) :
    e.linkedReferences = e.references := by
  refine List.filter_eq_self.mpr fun r hr => ?_
  obtain ⟨target, hresolved⟩ := h.exists_target he hr
  simp [Reference.foreignTable?, Reference.target?, hresolved, Resolution.value?]

/-- The default names of an entity: its table before the names of its references. -/
theorem DefaultConstraints.constraints_eq (h : m.DefaultConstraints) (he : e ∈ m.entities) :
    e.references.map (·.constraint) =
      (e.references.map (Text.snake ·.name)).map (e.table ++ "_" ++ ·) := by
  rw [List.map_map]
  exact List.map_congr_left (h e he)

/-- **Names are distinct exactly if none meets another,** in one table or between two. -/
theorem constraints_nodup_iff (h : m.Clean) (hdefault : m.DefaultConstraints) :
    m.constraints.Nodup ↔ m.DistinctReferences ∧ m.Unbridged := by
  rw [constraints, nodup_flatMap_iff h.entities_nodup]
  refine and_congr (forall₂_congr fun e he => ?_) ?_
  · rw [hdefault.constraints_eq he]
    exact List.nodup_map_iff fun x y => (String.append_right_inj _).mp
  · constructor
    · intro hapart e he f hf r hr s hs hbridges
      have hne : e ≠ f := fun heq => hbridges.tables_ne (congrArg (·.table) heq)
      have hname : r.constraint = s.constraint := by
        rw [hdefault e he r hr, hdefault f hf s hs]
        exact (Naming.constraint_eq_iff hbridges.tables_ne).mpr (.inl hbridges)
      exact hapart e he f hf hne (List.mem_map_of_mem hr) (hname ▸ List.mem_map_of_mem hs)
    · intro hunbridged e he f hf hne name hname hname'
      obtain ⟨r, hr, rfl⟩ := List.mem_map.mp hname
      obtain ⟨s, hs, heq⟩ := List.mem_map.mp hname'
      have htables : e.table ≠ f.table := fun htable =>
        hne (List.inj_on_of_nodup_map h.finished.tables_nodup he hf htable)
      rw [hdefault e he r hr, hdefault f hf s hs] at heq
      rcases (Naming.constraint_eq_iff htables).mp heq.symm with hbridges | hbridges
      · exact hunbridged e he f hf r hr s hs hbridges
      · exact hunbridged f hf e he s hs r hr hbridges

/-- The names of the keys that are added, in the order in which they are. -/
theorem Clean.constraints_orderedKeys (h : m.Clean) :
    m.orderedKeys.map (·.2.constraint) =
      m.dependencyOrder.flatMap fun e => e.references.map (·.constraint) := by
  rw [orderedKeys, List.map_flatMap]
  refine List.flatMap_congr fun e he => ?_
  rw [h.linkedReferences_eq (mem_of_mem_dependencyOrder he), List.map_map]
  rfl

/-- **Names that are distinct do not meet in a database,** even if tables are left out because
entities share an identity. -/
theorem Clean.nameFree_of_nodup (h : m.Clean) (hnodup : m.constraints.Nodup) :
    ∀ before table key later,
      (({} : DataModel).planTo m).statements =
        before ++ (table, .add (.foreignKey key)) :: later →
      ¬ ((Catalog.ofModel {}).run before).HasConstraint key.constraint := by
  rw [nameFree_iff, h.constraints_orderedKeys,
    nodup_flatMap_iff (dependencyOrder_nodup h.entities_nodup)]
  obtain ⟨hown, hapart⟩ := (nodup_flatMap_iff h.entities_nodup).mp hnodup
  exact ⟨fun e he => hown e (mem_of_mem_dependencyOrder he), fun e he f hf =>
    hapart e (mem_of_mem_dependencyOrder he) f (mem_of_mem_dependencyOrder hf)⟩

theorem sound_empty : ({} : DataModel).linkAll.Sound :=
  ⟨⟨{}, .empty, rfl⟩, rfl, List.nodup_nil⟩

/-- **A model can be brought into being exactly if its names are distinct.** -/
theorem Clean.takesKey_iff (h : m.Clean) (hids : (m.entities.map (·.id)).Nodup) :
    (∀ before table key later,
      (({} : DataModel).planTo m).statements =
        before ++ (table, .add (.foreignKey key)) :: later →
      ((Catalog.ofModel {}).run before).TakesKey table key) ↔ m.constraints.Nodup := by
  constructor
  · intro htakes
    have hfree := (nameFree_iff m).mp fun before table key later hplan =>
      (htakes before table key later hplan).nameFree
    rw [h.constraints_orderedKeys] at hfree
    exact ((dependencyOrder_perm hids).flatMap_right _).nodup_iff.mp hfree
  · intro hnodup before table key later hplan
    have hdistinct : m.DistinctConstraints := (List.nodup_flatMap.mp hnodup).1
    have hnone : ({} : DataModel).linkAll.DistinctConstraints := fun e he => by cases he
    -- To a plan, the empty model is the same before and after it is linked.
    obtain ⟨hown, hforeign⟩ :=
      provides_of_added sound_empty ⟨h.finished, h.faultless, hids⟩ hnone hdistinct hplan
    exact ⟨hown, hforeign, h.nameFree_of_nodup hnodup before table key later hplan⟩

end DataModel

namespace Delivery

/-- Where orders go. -/
def address : Entity :=
  { id := .ofNat 1, className := "Address", table := "address", attributes := [.identity] }

/-- A reference to an address, which leaves the names of its column and constraint open. -/
def toAddress (name : String) : Reference :=
  { name, foreignClass := "Address" : Reference }.withDefaultMapping "id"

/-- Orders, with a reference of some name to an address. -/
def order (name : String) : Entity :=
  { id := .ofNat 2, className := "Order", table := "order",
    attributes := [.identity] : Entity }.addReference (toAddress name)

/-- The lines of orders, which may go elsewhere. -/
def orderLine : Entity :=
  { id := .ofNat 3, className := "OrderLine", table := "order_line",
    attributes := [.identity] : Entity }.addReference (toAddress "address")

def model (name : String) : DataModel :=
  { entities := [address, order name, orderLine] : DataModel }.linkAll

theorem sound_address : (model "address").Sound :=
  .of_entities (by decide) (by decide) (by decide) (by decide)

theorem sound_lineAddress : (model "lineAddress").Sound :=
  .of_entities (by decide) (by decide) (by decide) (by decide)

/-- With an address, the two default names differ. -/
theorem constraints_address :
    (model "address").constraints = ["order_address", "order_line_address"] := by
  decide

/-- With a line address, both default names are the same. -/
theorem constraints_lineAddress :
    (model "lineAddress").constraints = ["order_line_address", "order_line_address"] := by
  decide

end Delivery

namespace DataModel

variable {m : DataModel}

/-- **When the names of foreign keys are distinct.**  If every reference of a clean model is named
by its table, the names are distinct exactly if no two references of an entity are called alike in
snake case and no table bridges another one.  Then every foreign key that the plan from nothing adds
finds its name free.  If entities do not share identities, the database takes all foreign keys of
this plan exactly if the names are distinct. -/
theorem constraints_nodup_exact (h : m.Clean) (hdefault : m.DefaultConstraints) :
    (m.constraints.Nodup ↔ m.DistinctReferences ∧ m.Unbridged) ∧
    (m.constraints.Nodup → ∀ before table key later,
      (({} : DataModel).planTo m).statements =
        before ++ (table, .add (.foreignKey key)) :: later →
      ¬ ((Catalog.ofModel {}).run before).HasConstraint key.constraint) ∧
    ((m.entities.map (·.id)).Nodup →
      ((∀ before table key later,
        (({} : DataModel).planTo m).statements =
          before ++ (table, .add (.foreignKey key)) :: later →
        ((Catalog.ofModel {}).run before).TakesKey table key) ↔ m.constraints.Nodup)) :=
  ⟨constraints_nodup_iff h hdefault, h.nameFree_of_nodup, h.takesKey_iff⟩

/-- If orders and their lines both have an `address`, the names are distinct, and the database takes
both foreign keys. -/
theorem delivery_names_distinct :
    (Delivery.model "address").Clean ∧ (Delivery.model "address").DefaultConstraints ∧
    (Delivery.model "address").DistinctReferences ∧ (Delivery.model "address").Unbridged ∧
    (∀ before table key later,
      (({} : DataModel).planTo (Delivery.model "address")).statements =
        before ++ (table, .add (.foreignKey key)) :: later →
      ((Catalog.ofModel {}).run before).TakesKey table key) := by
  have hsound := Delivery.sound_address
  have hdefault : (Delivery.model "address").DefaultConstraints := by decide
  have hnodup : (Delivery.model "address").constraints.Nodup :=
    Delivery.constraints_address ▸ by decide
  obtain ⟨hiff, -, htakes⟩ := constraints_nodup_exact hsound.clean hdefault
  obtain ⟨hreferences, hunbridged⟩ := hiff.mp hnodup
  exact ⟨hsound.clean, hdefault, hreferences, hunbridged, (htakes hsound.distinctIds).mpr hnodup⟩

/-- If orders have a `lineAddress` and their lines an `address`, both foreign keys have one name:
the database does not take the second one. -/
theorem delivery_names_meet :
    (Delivery.model "lineAddress").Clean ∧ (Delivery.model "lineAddress").DefaultConstraints ∧
    ¬ (Delivery.model "lineAddress").constraints.Nodup ∧
    (({} : DataModel).planTo (Delivery.model "lineAddress")).statements.filterMap
      (fun s => s.2.constraint?.map (s.1, ·)) =
        [("order", "order_line_address"), ("order_line", "order_line_address")] ∧
    ¬ ∀ before table key later,
      (({} : DataModel).planTo (Delivery.model "lineAddress")).statements =
        before ++ (table, .add (.foreignKey key)) :: later →
      ((Catalog.ofModel {}).run before).TakesKey table key := by
  have hsound := Delivery.sound_lineAddress
  have hmeet : ¬ (Delivery.model "lineAddress").constraints.Nodup :=
    Delivery.constraints_lineAddress ▸ by decide
  refine ⟨hsound.clean, by decide, hmeet, by decide, fun htakes => hmeet ?_⟩
  exact (hsound.clean.takesKey_iff hsound.distinctIds).mp htakes

end DataModel

end Schemata
