import Schemata.Proofs.Model.Declaration
import Schemata.Proofs.Schema.Reading

/-!
# What a document loses

A reference that stands inside another one takes its place, and the outer one is never completed.
Nothing is said about it: neither the outer reference nor the mappings that belong to it are in the
document.  Indexes are lost likewise.  This is all that can be lost: every other element of a
reference or index is in the document, and so is every other element of one of their parts.

* `countP_tags` - the start tags of a name are as many as the elements;
* `named_perm_outer` - every element of a name is an innermost one or encloses one;
* `parts_perm` - every part that is written belongs to one of them;
* `keepsAll_iff` - which documents keep everything that is written;
* `nested_reference_lost` - a document that is read although a reference is lost.
-/

namespace Schemata

open Markup

namespace Markup

/-- The event starts an element of the name. -/
def Event.starts (wanted : String) : Event → Bool
  | .opening name _ => name == wanted
  | .empty name _ => name == wanted
  | .closing _ => false

/-- An empty tag starts one element. -/
theorem countP_flatMap_tags (wanted : String) (events : List Event) :
    (events.flatMap Event.tags).countP (Event.starts wanted) =
      events.countP (Event.starts wanted) := by
  induction events with
  | nil => rfl
  | cons event rest ih => cases event <;> simp [Event.tags, Event.starts, List.countP_cons, ih]

namespace Forest

/-- **The start tags of a name are as many as the elements.** -/
theorem countP_tags (wanted : String) (f : Forest) :
    f.tags.countP (Event.starts wanted) = (f.named wanted).length := by
  induction f with
  | nil => rfl
  | element name attributes content later ihContent ihLater =>
    by_cases hname : name = wanted
    · subst hname
      simp [tags, named, Event.starts, ihContent, ihLater]
    · simp [tags, named, Event.starts, Elem.ifNamed_of_ne hname, hname, ihContent, ihLater]

/-- The elements of a name that enclose another element of the name. -/
def outer (wanted : String) (f : Forest) : List Elem :=
  (f.named wanted).filter fun node => !(node.content.named wanted).isEmpty

/-- The innermost elements of a name are those that hold no element of that name, in another order.
-/
theorem innermost_perm (wanted : String) (f : Forest) :
    (f.innermost wanted).Perm
      ((f.named wanted).filter fun node => (node.content.named wanted).isEmpty) :=
  (f.byEnd_perm wanted).filter _

/-- **Every element of a name is an innermost one or encloses one.** -/
theorem named_perm_outer (wanted : String) (f : Forest) :
    (f.named wanted).Perm (f.innermost wanted ++ f.outer wanted) :=
  (List.filter_append_perm _ _).symm.trans ((f.innermost_perm wanted).symm.append_right _)

/-- The innermost elements stand in the content of those elements that hold all of a name. -/
theorem innermost_perm_flatMap {wanted : String} {f : Forest} {nodes : List Elem}
    (h : (f.named wanted).Perm (nodes.flatMap (·.content.named wanted))) :
    (f.innermost wanted).Perm (nodes.flatMap (·.content.innermost wanted)) := by
  refine (f.innermost_perm wanted).trans ((h.filter _).trans ?_)
  rw [List.filter_flatMap]
  exact List.Perm.flatMap_left _ fun node _ => (node.content.innermost_perm wanted).symm

/-- **Every part that is written belongs to a member,** which is innermost or encloses another one,
where all members and parts stand inside elements that leave no part over. -/
theorem parts_perm {tag part : String} (hne : tag ≠ part) {f : Forest} {nodes : List Elem}
    (htag : (f.named tag).Perm (nodes.flatMap (·.content.named tag)))
    (hpart : (f.named part).Perm (nodes.flatMap (·.content.named part)))
    (howned : ∀ node ∈ nodes, node.content.owned tag part = []) :
    (f.named part).Perm ((f.innermost tag).flatMap (·.content.owned tag part) ++
      (f.outer tag).flatMap (·.content.owned tag part)) := by
  have hinside : (nodes.flatMap (·.content.named part)).Perm
      ((nodes.flatMap (·.content.named tag)).flatMap (·.content.owned tag part)) := by
    rw [List.flatMap_assoc]
    refine List.Perm.flatMap_left _ fun node hnode => ?_
    simpa [howned node hnode] using named_perm_owned hne node.content
  rw [← List.flatMap_append]
  exact hpart.trans (hinside.trans ((htag.symm.trans (f.named_perm_outer tag)).flatMap_right _))

end Forest

end Markup

namespace Document

/-- The members of the entities, and of the extensions. -/
def members (d : Document) : List Members :=
  d.entities.map (·.toMembers) ++ d.extensions.map (·.toMembers)

/-- All references of a document. -/
def references (d : Document) : List Reference := d.members.flatMap (·.references)

/-- All indexes of a document. -/
def indexes (d : Document) : List Index := d.members.flatMap (·.indexes)

/-- The document has as many references, indexes, mappings and index parts as its events start. -/
structure KeepsAll (events : List Event) (d : Document) : Prop where
  references : d.references.length = events.countP (Event.starts "reference")
  mappings : (d.references.flatMap (·.mappings)).length = events.countP (Event.starts "mapping")
  indexes : d.indexes.length = events.countP (Event.starts "index")
  parts : (d.indexes.flatMap (·.parts)).length = events.countP (Event.starts "indexPart")

end Document

/-- The members have as many mappings and index parts, one by one, as belong to the innermost
references and indexes, and none is left over. -/
structure Markup.Forest.Fills (f : Forest) (m : Members) : Prop where
  references : (f.innermost "reference").map (·.content.owned "reference" "mapping" |>.length) =
    m.references.map (·.mappings.length)
  mappings : f.owned "reference" "mapping" = []
  indexes : (f.innermost "index").map (·.content.owned "index" "indexPart" |>.length) =
    m.indexes.map (·.parts.length)
  parts : f.owned "index" "indexPart" = []

/-- A document that declares the members of a target fills it with them. -/
theorem Markup.Forest.Declares.fills {f : Forest} {m : Members} (h : f.Declares m) : f.Fills m where
  references := by
    refine map_eq_map_iff_forall₂.mpr (h.references.imp ?_)
    rintro node r ⟨plain, -, -, hmappings⟩
    exact hmappings.length_eq
  mappings := h.mappings
  indexes := by
    refine map_eq_map_iff_forall₂.mpr (h.indexes.imp ?_)
    rintro node i ⟨plain, -, -, hparts⟩
    exact hparts.length_eq
  parts := h.parts

/-- The table that names the constraints does not matter. -/
theorem Markup.Forest.Fills.inTable {f : Forest} {m : Members} (h : f.Fills m) (table : String) :
    f.Fills (m.inTable table) where
  references := by
    have hmappings : ∀ r : Reference, (r.inTable table).mappings = r.mappings := by
      intro r
      rw [Reference.inTable_eq]
    simpa [Members.inTable, hmappings, Function.comp_def] using h.references
  mappings := h.mappings
  indexes := h.indexes
  parts := h.parts

namespace Document

variable {ids ids' : IdSupply} {events : List Event} {d : Document} {f : Forest}

namespace WrittenIn

variable {named : String → List Elem}

/-- The members of a document fill the elements that hold them. -/
theorem fills (h : d.WrittenIn named) :
    List.Forall₂ (fun node m => node.content.Fills m) (named "entity" ++ named "entity-extension")
      d.members := by
  refine List.rel_append ?_ ?_
  · rw [List.forall₂_map_right_iff]
    refine h.entities.imp ?_
    rintro node e ⟨given, m, -, hm, he⟩
    rw [he]
    exact hm.fills.inTable e.table
  · rw [List.forall₂_map_right_iff]
    refine h.extensions.imp ?_
    rintro node x ⟨given, m, -, hm, hx⟩
    rw [hx]
    exact hm.fills

/-- The references written in a document own as many mappings as are read for them, one after the
other. -/
theorem references_eq (h : d.WrittenIn named) :
    ((named "entity" ++ named "entity-extension").flatMap (·.content.innermost "reference")).map
        (·.content.owned "reference" "mapping" |>.length) =
      d.references.map (·.mappings.length) := by
  rw [references, List.map_flatMap, List.map_flatMap, List.flatMap_def, List.flatMap_def]
  exact congrArg List.flatten (map_eq_map_iff_forall₂.mpr (h.fills.imp fun _ _ h => h.references))

/-- The indexes written in a document own as many parts as are read for them, one after the other.
-/
theorem indexes_eq (h : d.WrittenIn named) :
    ((named "entity" ++ named "entity-extension").flatMap (·.content.innermost "index")).map
        (·.content.owned "index" "indexPart" |>.length) =
      d.indexes.map (·.parts.length) := by
  rw [indexes, List.map_flatMap, List.map_flatMap, List.flatMap_def, List.flatMap_def]
  exact congrArg List.flatten (map_eq_map_iff_forall₂.mpr (h.fills.imp fun _ _ h => h.indexes))

end WrittenIn

/-- **Members of one kind are kept, with their parts, unless they enclose another one.** -/
theorem kept_iff {tag part : String} (hne : tag ≠ part) {nodes : List Elem}
    (hf : f.tags = events.flatMap Event.tags)
    (htag : (f.named tag).Perm (nodes.flatMap (·.content.named tag)))
    (hpart : (f.named part).Perm (nodes.flatMap (·.content.named part)))
    (howned : ∀ node ∈ nodes, node.content.owned tag part = []) {α β : Type} {xs : List α}
    {parts : α → List β}
    (hxs : (nodes.flatMap (·.content.innermost tag)).map (·.content.owned tag part |>.length) =
      xs.map (parts · |>.length)) :
    (xs.length = events.countP (Event.starts tag) ∧
      (xs.flatMap parts).length = events.countP (Event.starts part)) ↔ f.outer tag = [] := by
  have hinnermost := Forest.innermost_perm_flatMap htag
  have hcount : ∀ wanted, events.countP (Event.starts wanted) = (f.named wanted).length := by
    intro wanted
    rw [← countP_flatMap_tags, ← hf, Forest.countP_tags]
  have hlength : xs.length = (f.innermost tag).length := by
    simpa [hinnermost.length_eq] using (congrArg List.length hxs).symm
  have hparts : (xs.flatMap parts).length =
      ((f.innermost tag).flatMap (·.content.owned tag part)).length := by
    rw [(hinnermost.flatMap_right _).length_eq, List.length_flatMap, List.length_flatMap, ← hxs]
  have hnamed := (f.named_perm_outer tag).length_eq
  have howner := (Forest.parts_perm hne htag hpart howned).length_eq
  rw [List.length_append] at hnamed howner
  rw [hcount, hcount, hlength, hparts]
  constructor
  · rintro ⟨hall, -⟩
    rw [← List.length_eq_zero_iff]
    omega
  · intro houter
    rw [houter] at hnamed howner
    exact ⟨hnamed.symm, howner.symm⟩

/-- **Which documents keep everything that is written:** those of balanced events in which no
reference encloses a reference and no index encloses an index. -/
theorem keepsAll_iff (hf : f.tags = events.flatMap Event.tags)
    (h : ofEvents ids events = .ok (d, ids')) :
    d.KeepsAll events ↔
      (∀ node ∈ f.named "reference", node.content.named "reference" = []) ∧
      ∀ node ∈ f.named "index", node.content.named "index" = [] := by
  obtain ⟨-, hwritten⟩ := writtenIn_of_ofEvents (b := .whole f) hf h
  have hfills := hwritten.fills
  obtain ⟨howned, -⟩ := (List.forall₂_and_left _ _).mp (hfills.imp fun _ _ h => ⟨h.mappings, h⟩)
  obtain ⟨hownedParts, -⟩ := (List.forall₂_and_left _ _).mp (hfills.imp fun _ _ h => ⟨h.parts, h⟩)
  have hreferences := kept_iff (by decide) hf (hwritten.members "reference" (by decide))
    (hwritten.members "mapping" (by decide)) howned hwritten.references_eq
  have hindexes := kept_iff (by decide) hf (hwritten.members "index" (by decide))
    (hwritten.members "indexPart" (by decide)) hownedParts hwritten.indexes_eq
  have houter : ∀ tag, f.outer tag = [] ↔ ∀ node ∈ f.named tag, node.content.named tag = [] := by
    intro tag
    simp [Forest.outer]
  rw [← houter, ← houter, ← hreferences, ← hindexes]
  constructor
  · intro hkeeps
    exact ⟨⟨hkeeps.references, hkeeps.mappings⟩, hkeeps.indexes, hkeeps.parts⟩
  · rintro ⟨⟨hreference, hmapping⟩, hindex, hpart⟩
    exact ⟨hreference, hmapping, hindex, hpart⟩

/-- An order whose reference to the customer encloses the one to the payer. -/
def order : Forest :=
  .element "entity" (.ok [("name", "Order"), ("table", "orders")])
    (.element "reference" (.ok [("name", "customer"), ("foreignClass", "Customer")])
      (.element "mapping" (.ok [("foreignAttribute", "id")]) .nil
        (.element "reference" (.ok [("name", "payer"), ("foreignClass", "Customer")])
          (.element "mapping" (.ok [("foreignAttribute", "id")]) .nil .nil)
          .nil))
      .nil)
    .nil

/-- What is read of it. -/
def orders : Document where
  entities := [{
    id := (IdSupply.draw {}).1
    className := "Order"
    table := "orders"
    references := [{
      name := "payer"
      foreignClass := "Customer"
      constraint := "orders_payer"
      mappings := [⟨"payer_id", "id"⟩] }] }]

/-- The order is read without the reference that encloses the other one. -/
theorem ofEvents_order : ofEvents {} order.tags = .ok (orders, ⟨1⟩) := by decide

/-- The order is read, and what is read keeps all just when no reference and no index of it encloses
its like. -/
theorem orders_keepsAll_iff :
    order.tags = order.tags.flatMap Event.tags ∧
      ofEvents {} order.tags = .ok (orders, ⟨1⟩) ∧
      (orders.KeepsAll order.tags ↔
        (∀ node ∈ order.named "reference", node.content.named "reference" = []) ∧
        ∀ node ∈ order.named "index", node.content.named "index" = []) :=
  ⟨rfl, ofEvents_order, keepsAll_iff rfl ofEvents_order⟩

/-- **Not every document that is read keeps everything:** the reference to the customer is lost, and
the document is not refused. -/
theorem nested_reference_lost :
    ¬ ∀ (ids ids' : IdSupply) (events : List Event) (f : Forest) (d : Document),
      f.tags = events.flatMap Event.tags → ofEvents ids events = .ok (d, ids') →
        d.KeepsAll events := by
  intro hkeeps
  have hreferences := (hkeeps _ _ order.tags order _ rfl ofEvents_order).references
  revert hreferences
  decide

end Document

end Schemata
