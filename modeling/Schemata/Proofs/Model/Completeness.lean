import Schemata.Proofs.Model.Calls
import Schemata.Proofs.Model.Links

/-!
# Complete collectors

A collector is complete if all its links hold, and a many-to-many collector only if, moreover, the
reference that it names points at its foreign entity.  In a clean model every one-to-many collector
is complete.  Of a many-to-many collector validation asks for the two entities, but not for the
reference: the mapping entity may lack it, or it may point at a third entity.

* `Clean.isComplete_manyToMany_iff` - what a many-to-many collector needs in addition;
* `isComplete_exact` - which collectors of a clean model are complete;
* `blog_incomplete` - a clean model with a collector that is not.
-/

namespace Schemata

namespace DataModel

variable {m : DataModel} {e : Entity} {c : Collector}

/-- The identity of an entity finds an entity, which is the same one where identities are
distinct. -/
theorem exists_entity? (he : e ∈ m.entities) :
    ∃ found, m.entity? e.id = some found ∧ ((m.entities.map (·.id)).Nodup → found = e) := by
  have hsome : (m.entity? e.id).isSome = true := by
    rw [entity?, List.find?_isSome]
    exact ⟨e, List.mem_reverse.mpr he, beq_self_eq_true _⟩
  obtain ⟨found, hfound⟩ := Option.isSome_iff_exists.mp hsome
  refine ⟨found, hfound, fun hids => ?_⟩
  exact Option.some_inj.mp (hfound.symm.trans (entity?_eq_some hids he))

namespace Clean

/-- **A one-to-many collector of a clean model is complete.** -/
theorem isComplete_oneToMany (h : m.Clean) (he : e ∈ m.entities) (hc : c ∈ e.collectors)
    {foreignClass name : String} (hkind : c.kind = .oneToMany foreignClass name) :
    c.isComplete m = true := by
  obtain ⟨_, _, -, -, hforeign, hreference⟩ := h.bound_oneToMany he hc hkind
  have hone : c.kind.isManyToMany = false := by rw [hkind]; rfl
  simp [Collector.isComplete, hforeign, hreference, hone]

/-- **A many-to-many collector of a clean model is complete** exactly if its mapping entity has the
reference that it names, and the reference points at its foreign entity.  The reference is looked up
twice: in the mapping entity that the class name finds, and in the one that its identity finds. -/
theorem isComplete_manyToMany_iff (h : m.Clean) (he : e ∈ m.entities) (hc : c ∈ e.collectors)
    {foreignClass mappingClass name : String}
    (hkind : c.kind = .manyToMany foreignClass mappingClass name) {foreign mapping found holder}
    (hforeign : m.find? foreignClass = some foreign)
    (hmapping : m.find? mappingClass = some mapping)
    (hfound : m.entity? foreign.id = some found) (hholder : m.entity? mapping.id = some holder) :
    c.isComplete m = true ↔ (∃ r, mapping.reference? name = some r) ∧
      ∃ r, holder.reference? name = some r ∧ r.foreignTable? = some found.table := by
  obtain ⟨foreign', mapping', hforeign', hmapping', hbound, hthrough, hreference⟩ :=
    h.bound_manyToMany he hc hkind
  obtain rfl : foreign = foreign' := Option.some_inj.mp (hforeign.symm.trans hforeign')
  obtain rfl : mapping = mapping' := Option.some_inj.mp (hmapping.symm.trans hmapping')
  have hmany : c.kind.isManyToMany = true := by rw [hkind]; rfl
  cases hr : mapping.reference? name with
  | none => simp [Collector.isComplete, hbound, hreference, hr]
  | some r =>
    have hname : r.name = name := (Lookup.mem_of_find?_key hr).2
    have hcomplete : c.isComplete m = Collector.leadsTo holder name found.table := by
      simp [Collector.isComplete, hbound, hthrough, hreference, hr, hmany, hfound, hholder, hname]
    rw [hcomplete, Collector.leadsTo, beq_iff_eq, Option.bind_eq_some_iff]
    exact (and_iff_right ⟨r, rfl⟩).symm

end Clean

/-- **Which collectors of a clean model are complete.**  A one-to-many collector always is: its
foreign entity and the reference that it names are there.  A many-to-many collector has found its
foreign entity and its mapping entity, and is complete exactly if the mapping entity has the
reference that it names and this points at the table of the foreign entity.  Where entities share an
identity, the last of them stands for the others. -/
theorem isComplete_exact (h : m.Clean) (he : e ∈ m.entities) (hc : c ∈ e.collectors) :
    (∀ foreignClass name, c.kind = .oneToMany foreignClass name →
      c.isComplete m = true ∧
      ∃ foreign r, m.find? foreignClass = some foreign ∧ foreign.reference? name = some r) ∧
    (∀ foreignClass mappingClass name, c.kind = .manyToMany foreignClass mappingClass name →
      ∃ foreign mapping found holder,
        m.find? foreignClass = some foreign ∧ m.find? mappingClass = some mapping ∧
        m.entity? foreign.id = some found ∧ m.entity? mapping.id = some holder ∧
        ((m.entities.map (·.id)).Nodup → found = foreign ∧ holder = mapping) ∧
        (c.isComplete m = true ↔ (∃ r, mapping.reference? name = some r) ∧
          ∃ r, holder.reference? name = some r ∧ r.foreignTable? = some found.table)) := by
  constructor
  · intro foreignClass name hkind
    obtain ⟨foreign, r, hforeign, hr, -, -⟩ := h.bound_oneToMany he hc hkind
    exact ⟨h.isComplete_oneToMany he hc hkind, foreign, r, hforeign, hr⟩
  · intro foreignClass mappingClass name hkind
    obtain ⟨foreign, mapping, hforeign, hmapping, -⟩ := h.bound_manyToMany he hc hkind
    obtain ⟨found, hfound, hsame⟩ := exists_entity? (mem_of_find? hforeign)
    obtain ⟨holder, hholder, hsame'⟩ := exists_entity? (mem_of_find? hmapping)
    exact ⟨foreign, mapping, found, holder, hforeign, hmapping, hfound, hholder,
      fun hids => ⟨hsame hids, hsame' hids⟩,
      h.isComplete_manyToMany_iff he hc hkind hforeign hmapping hfound hholder⟩

end DataModel

namespace Blog

def tag : Entity :=
  { id := .ofNat 1, className := "Tag", table := "tag", attributes := [.identity] }

/-- Posts collect their tags, and name a reference that is called otherwise. -/
def post : Entity :=
  { id := .ofNat 2, className := "Post", table := "post", attributes := [.identity],
    collectors := [{ name := "tags", kind := .manyToMany "Tag" "PostTag" "tags" }] }

def postTag : Entity :=
  { id := .ofNat 3, className := "PostTag", table := "post_tag", attributes := [.identity],
    references := [
      { name := "post", foreignClass := "Post", constraint := "post_tag_post",
        mappings := [⟨"post_id", "id"⟩] },
      { name := "tag", foreignClass := "Tag", constraint := "post_tag_tag",
        mappings := [⟨"tag_id", "id"⟩] }] }

/-- The blog as it is declared. -/
def declared : DataModel := { entities := [tag, post, postTag] }

def model : DataModel := declared.linkAll

/-- Posts as they stand in the linked model. -/
def linkedPost : Entity := post.linkedIn declared

/-- The mapping entity as it stands in the linked model. -/
def linkedPostTag : Entity := postTag.linkedIn declared

/-- The collector of posts, with what it has found. -/
def tags : Collector :=
  { name := "tags"
    kind := .manyToMany "Tag" "PostTag" "tags"
    binding :=
      { foreign := .resolved tag.id
        mapping := .resolved postTag.id
        reference := .invalid (.noReference "PostTag" "tags") } }

/-- The model of the posts and their tags is sound. -/
theorem sound : model.Sound :=
  .of_entities (by decide) (by decide) (by decide) (by cbv)

/-- The post is one of its entities, as linked. -/
theorem post_mem : linkedPost ∈ model.entities :=
  DataModel.linkedIn_mem_linkAll (by simp [declared])

/-- The tags are a collector of the linked post. -/
theorem tags_mem : tags ∈ linkedPost.collectors := by decide

end Blog

namespace DataModel

open Blog

/-- The tags of a post would be complete if posts were linked to tags by a reference called so. -/
theorem blog_isComplete_exact :
    model.Clean ∧ linkedPost ∈ model.entities ∧ tags ∈ linkedPost.collectors ∧
    tags.kind = .manyToMany "Tag" "PostTag" "tags" ∧
    ∃ foreign mapping found holder,
      model.find? "Tag" = some foreign ∧ model.find? "PostTag" = some mapping ∧
      model.entity? foreign.id = some found ∧ model.entity? mapping.id = some holder ∧
      ((model.entities.map (·.id)).Nodup → found = foreign ∧ holder = mapping) ∧
      (tags.isComplete model = true ↔ (∃ r, mapping.reference? "tags" = some r) ∧
        ∃ r, holder.reference? "tags" = some r ∧ r.foreignTable? = some found.table) :=
  ⟨sound.clean, post_mem, tags_mem, rfl,
    (isComplete_exact sound.clean post_mem tags_mem).2 "Tag" "PostTag" "tags" rfl⟩

/-- Validation finds nothing wrong with a collector that names a reference which does not exist. -/
theorem blog_incomplete :
    model.Sound ∧ model.faults = [] ∧ linkedPost ∈ model.entities ∧
    tags ∈ linkedPost.collectors ∧ model.find? "PostTag" = some linkedPostTag ∧
    linkedPostTag.reference? "tags" = none ∧ tags.isComplete model = false :=
  ⟨sound, by decide, post_mem, tags_mem, by decide, by decide, by decide⟩

end DataModel

end Schemata
