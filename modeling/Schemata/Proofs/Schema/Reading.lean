import Schemata.Proofs.Schema.Members

/-!
# What a document says

Outside of entities and extensions, a document is read without anything being held: the elements of
entities and extensions open, every element of a member is refused, and all others are read past.
What has been read of complete elements is therefore what they say, whatever stands around them.

An element that is never closed is read past, or there is no document: an entity that is open stays
open whatever follows, and a document must not end inside it.

* `Document.WrittenIn.append` - elements side by side say what each of them says;
* `writtenIn_of_run` - what complete elements outside of entities say;
* `unclosed_of_run` - elements that are left open are no entities and no members;
* `ofEvents_faithful` - a document holds what the elements of its events say, and nothing else;
* `exists_writtenIn_of_ofXml` - so does the document of any text.
-/

namespace Schemata

open Markup

/-- The entity of an element: what its attributes say, with the members that its content declares,
and with the identity that was given to it. -/
def Entity.WrittenIn (node : Elem) (e : Entity) : Prop :=
  ∃ given m, node.attributes = .ok given ∧ node.content.Declares m ∧
    e = { Element.entity e.id given with toMembers := m.inTable e.table }

/-- The extension of an element: what its attributes say, with the members that its content
declares. -/
def Extension.WrittenIn (node : Elem) (x : Extension) : Prop :=
  ∃ given m, node.attributes = .ok given ∧ node.content.Declares m ∧
    x = { Element.extension given with toMembers := m }

/-- The document holds what the elements say, which are given by name. -/
structure Document.WrittenIn (named : String → List Elem) (d : Document) : Prop where
  entities : List.Forall₂ Entity.WrittenIn (named "entity") d.entities
  extensions : List.Forall₂ Extension.WrittenIn (named "entity-extension") d.extensions
  /-- The elements of members stand inside entities and extensions. -/
  members : ∀ tag ∈ Element.memberTags, (named tag).Perm
    ((named "entity" ++ named "entity-extension").flatMap (·.content.named tag))

namespace Document.WrittenIn

variable {named named' : String → List Elem} {d d' : Document}

/-- Elements that mean nothing say nothing. -/
theorem nil (h : ∀ tag ∈ Element.knownTags, named tag = []) :
    ({} : Document).WrittenIn named where
  entities := by rw [h _ (by decide)]; exact .nil
  extensions := by rw [h _ (by decide)]; exact .nil
  members tag htag := by
    rw [h "entity" (by decide), h "entity-extension" (by decide), h tag (.tail _ (.tail _ htag))]
    exact .nil

/-- **Elements side by side say what each of them says.** -/
theorem append (h : d.WrittenIn named) (h' : d'.WrittenIn named') :
    (d.merge d').WrittenIn fun tag => named tag ++ named' tag where
  entities := List.rel_append h.entities h'.entities
  extensions := List.rel_append h.extensions h'.extensions
  members tag htag := by
    have hboth := (h.members tag htag).append (h'.members tag htag)
    simp only [List.flatMap_append, List.append_assoc] at hboth ⊢
    exact hboth.trans (.append_left _ (List.perm_append_comm_assoc _ _ _))

end Document.WrittenIn

/-- The target that an element opens. -/
inductive OpenTarget.OpenedBy : String → Attributes → OpenTarget → Prop
  | entity (id : EntityId) (given : Attributes) :
      OpenedBy "entity" given (.entity (Element.entity id given))
  | extension (given : Attributes) :
      OpenedBy "entity-extension" given (.extension (Element.extension given))

/-- The document of one target. -/
def OpenTarget.document : OpenTarget → Document
  | .entity e => { entities := [e] }
  | .extension x => { extensions := [x] }

/-- An entity is plain before the elements inside it are read. -/
theorem Element.toMembers_entity (id : EntityId) (given : Attributes) :
    (Element.entity id given).toMembers = {} := by
  unfold Element.entity
  split <;> rfl

/-- The identity of an entity element is the one it was given. -/
theorem Element.id_entity (id : EntityId) (given : Attributes) :
    (Element.entity id given).id = id := by
  unfold Element.entity
  split <;> rfl

/-- A target that is closed is what its element says. -/
theorem OpenTarget.OpenedBy.writtenIn {name : String} {given : Attributes} {t : OpenTarget}
    {content : Forest} {m : Members} (h : OpenedBy name given t) (hm : content.Declares m)
    (halone : content.named "entity" = [] ∧ content.named "entity-extension" = []) :
    (t.gain m).document.WrittenIn fun tag =>
      Elem.ifNamed tag name ⟨.ok given, content⟩ ++ content.named tag where
  entities := by
    cases h with
    | entity id =>
      rw [Elem.ifNamed_self, halone.1]
      refine .cons ⟨given, m, rfl, hm, ?_⟩ .nil
      simp [Element.id_entity, Element.toMembers_entity, Members.append]
    | extension =>
      rw [halone.1]
      exact .nil
  extensions := by
    cases h with
    | entity =>
      rw [halone.2]
      exact .nil
    | extension =>
      rw [Elem.ifNamed_self, halone.2]
      exact .cons ⟨given, m, rfl, hm, rfl⟩ .nil
  members tag htag := by
    have hne : name ≠ tag := by
      rintro rfl
      cases h <;> exact absurd htag (by decide)
    rw [Elem.ifNamed_of_ne hne, halone.1, halone.2]
    cases h <;> simp [Elem.ifNamed]

namespace Loading

/-- The loading is between the entities and extensions of a document. -/
structure Outside (l : Loading) : Prop where
  target : l.target = none
  reference : l.reference = none
  index : l.index = none

variable {l l' : Loading} {t : OpenTarget} {name : String} {given : Attributes}

/-- A start tag outside of entities opens one, or it is read past. -/
theorem Outside.start (hl : l.Outside) (h : l.start name given = .ok l') :
    (∃ t, OpenTarget.OpenedBy name given t ∧ l'.target = some t ∧ l'.reference = none ∧
      l'.index = none ∧ l'.document = l.document) ∨
    name ∉ Element.knownTags ∧ l' = l := by
  have htarget : ∀ t, l.target ≠ some t := by simp [hl.target]
  cases started_of_start h with
  | entity => exact .inl ⟨_, .entity _ _, rfl, hl.reference, hl.index, rfl⟩
  | extension => exact .inl ⟨_, .extension _, rfl, hl.reference, hl.index, rfl⟩
  | attr hopen | reference hopen | index hopen | collector hopen =>
    exact absurd hopen (htarget _)
  | mapping _ hheld =>
    rw [hl.reference] at hheld
    cases hheld
  | indexPart hheld =>
    rw [hl.index] at hheld
    cases hheld
  | other _ hname => exact .inr ⟨hname, rfl⟩

/-- An end tag that means nothing is read past. -/
theorem finish_of_unknown (hname : name ∉ Element.knownTags) : l.finish name = .ok l := by
  unfold finish
  split
  case h_5 => rfl
  all_goals exact absurd (by decide) hname

/-- The end of an element that opened a target completes the target. -/
theorem outside_of_finish {t' : OpenTarget} (hopened : OpenTarget.OpenedBy name given t')
    (ht : l.target = some t) (hreference : l.reference = none) (hindex : l.index = none)
    (h : l.finish name = .ok l') : l'.Outside ∧ l'.document = l.document.merge t.document := by
  have hclose : l.closeTarget =
      { l with target := none, document := l.document.merge t.document } := by
    unfold closeTarget
    rw [ht]
    cases t <;> simp [OpenTarget.document, Document.merge]
  have hfinish : l.finish name = .ok l.closeTarget := by cases hopened <;> rfl
  rw [hfinish, hclose] at h
  cases h
  exact ⟨⟨rfl, hreference, hindex⟩, rfl⟩

/-- **Complete elements outside of entities.**  They are read as what they say, and leave nothing
open. -/
theorem Outside.writtenIn_of_run {f : Forest} (hl : l.Outside) (h : l.run f.tags = .ok l') :
    l'.Outside ∧ ∃ d : Document, d.WrittenIn (f.named ·) ∧ l'.document = l.document.merge d := by
  induction f generalizing l l' with
  | nil =>
    cases h
    exact ⟨hl, {}, .nil fun _ _ => rfl, (Document.merge_nil _).symm⟩
  | element name attached content later ihContent ihLater =>
    obtain ⟨given, l₁, l₂, l₃, rfl, hstart, hcontent, hfinish, hlater⟩ := run_element.mp h
    rcases hl.start hstart with ⟨t, hopened, ht, hreference, hindex, hdocument⟩ | ⟨hname, rfl⟩
    · obtain ⟨m, htakes⟩ := takes_of_run ht hcontent
      obtain ⟨hdeclares, hreference₂, hindex₂⟩ := htakes.declares hreference hindex
      obtain ⟨hout₃, hdocument₃⟩ := outside_of_finish hopened (htakes.adds.target t ht) hreference₂
        hindex₂ hfinish
      obtain ⟨hout, d, hd, hmerge⟩ := ihLater hout₃ hlater
      refine ⟨hout, (t.gain m).document.merge d, ?_, ?_⟩
      · simpa only [Forest.named, List.append_assoc] using
          (hopened.writtenIn hdeclares htakes.alone).append hd
      · rw [hmerge, hdocument₃, htakes.adds.document, hdocument, Document.merge_assoc]
    · obtain ⟨hout, d, hd, hmerge⟩ := ihContent hl hcontent
      rw [finish_of_unknown hname] at hfinish
      cases hfinish
      obtain ⟨hout', d', hd', hmerge'⟩ := ihLater hout hlater
      refine ⟨hout', d.merge d', ?_, by rw [hmerge', hmerge, Document.merge_assoc]⟩
      have hself : ({} : Document).WrittenIn fun tag =>
          Elem.ifNamed tag name ⟨.ok given, content⟩ :=
        .nil fun tag htag => Elem.ifNamed_of_ne fun heq => hname (heq ▸ htag)
      exact hself.append (hd.append hd')

/-- An entity that is open when a document ends inside an element stays open. -/
theorem open_of_run {b : Body} (ht : l.target = some t) (h : l.run b.tags = .ok l') :
    ∃ t', l'.target = some t' := by
  induction b generalizing l t with
  | whole elements =>
    obtain ⟨m, htakes⟩ := takes_of_run ht h
    exact ⟨_, htakes.adds.target t ht⟩
  | cut before name attached inside ih =>
    obtain ⟨l₁, hbefore, h⟩ := run_append.mp h
    obtain ⟨l₂, hstart, hinside⟩ := bind_eq_ok.mp h
    obtain ⟨given, -, hstart⟩ := bind_eq_ok.mp hstart
    obtain ⟨m, htakes⟩ := takes_of_run ht hbefore
    have ht₁ := htakes.adds.target t ht
    obtain ⟨m', hopens⟩ := opens_of_start ht₁ hstart
    exact ih (hopens.adds.target _ ht₁) hinside

/-- **The elements of a whole document.**  Where no entity is open in the end, the elements that are
left open are read past, and the others are read as what they say. -/
theorem Outside.writtenIn_of_run_body {b : Body} (hl : l.Outside) (h : l.run b.tags = .ok l')
    (hend : l'.target = none) :
    (∀ name ∈ b.unclosed, name ∉ Element.knownTags) ∧
      ∃ d : Document, d.WrittenIn (b.named ·) ∧ l'.document = l.document.merge d := by
  induction b generalizing l with
  | whole elements =>
    obtain ⟨-, hwritten⟩ := hl.writtenIn_of_run h
    exact ⟨by simp [Body.unclosed], hwritten⟩
  | cut before name attached inside ih =>
    obtain ⟨l₁, hbefore, h⟩ := run_append.mp h
    obtain ⟨l₂, hstart, hinside⟩ := bind_eq_ok.mp h
    obtain ⟨given, -, hstart⟩ := bind_eq_ok.mp hstart
    obtain ⟨hout, d, hd, hmerge⟩ := hl.writtenIn_of_run hbefore
    rcases hout.start hstart with ⟨t, -, ht, -⟩ | ⟨hname, rfl⟩
    · obtain ⟨t', ht'⟩ := open_of_run ht hinside
      rw [hend] at ht'
      cases ht'
    · obtain ⟨hunclosed, d', hd', hmerge'⟩ := ih hout hinside
      refine ⟨?_, d.merge d', hd.append hd', by rw [hmerge', hmerge, Document.merge_assoc]⟩
      simpa [Body.unclosed, hname] using hunclosed

/-- An empty tag is read like a start tag and an end tag. -/
theorem run_tags (l : Loading) (events : List Event) :
    l.run (events.flatMap Event.tags) = l.run events := by
  induction events generalizing l with
  | nil => rfl
  | cons event rest ih =>
    cases event <;> simp [Event.tags, run, step, ih]

end Loading

namespace Document

variable {ids ids' : IdSupply} {events : List Event} {d : Document}

/-- A document is what was read when its events ended outside of entities. -/
theorem run_of_ofEvents (h : ofEvents ids events = .ok (d, ids')) :
    ∃ l, Loading.run { ids } events = .ok l ∧ l.target = none ∧ l.document = d := by
  obtain ⟨l, hrun, h⟩ := bind_eq_ok.mp h
  obtain ⟨d', hcomplete, h⟩ := bind_eq_ok.mp h
  cases h
  cases hend : l.target with
  | none =>
    rw [Loading.complete, hend] at hcomplete
    cases hcomplete
    exact ⟨l, hrun, hend, rfl⟩
  | some target =>
    rw [Loading.complete_open hend] at hcomplete
    cases hcomplete

/-- The document of events that are the tags of elements. -/
theorem writtenIn_of_ofEvents {b : Body} (hb : b.tags = events.flatMap Event.tags)
    (h : ofEvents ids events = .ok (d, ids')) :
    (∀ name ∈ b.unclosed, name ∉ Element.knownTags) ∧ d.WrittenIn (b.named ·) := by
  obtain ⟨l, hrun, hend, rfl⟩ := run_of_ofEvents h
  rw [← Loading.run_tags, ← hb] at hrun
  obtain ⟨hunclosed, d, hd, hmerge⟩ :=
    Loading.Outside.writtenIn_of_run_body ⟨rfl, rfl, rfl⟩ hrun hend
  refine ⟨hunclosed, ?_⟩
  rw [hmerge]
  exact hd

/-- A scan that failed makes no document. -/
theorem ofEvents_of_ofScan {scanned : Scan} (h : ofScan ids scanned = .ok (d, ids')) :
    ofEvents ids scanned.events = .ok (d, ids') := by
  obtain ⟨events, failure⟩ := scanned
  cases failure with
  | none => exact h
  | some failure =>
    obtain ⟨l, -, h⟩ := bind_eq_ok.mp h
    cases h

/-- The document of a text holds what the elements of the text say. -/
theorem exists_writtenIn_of_ofXml {source xml : String}
    (h : ofXml ids source xml = .ok (d, ids')) :
    ∃ b : Body, b.tags = (scan xml).events.flatMap Event.tags ∧ d.WrittenIn (b.named ·) := by
  obtain ⟨b, hb⟩ := (nested_scan xml).exists_body
  refine ⟨b, hb, ?_⟩
  unfold ofXml at h
  split at h
  · rename_i hscan
    cases h
    exact (writtenIn_of_ofEvents hb (ofEvents_of_ofScan hscan)).2
  · cases h

/-- **A document holds what the elements of its events say, and nothing else.**  Events whose end
tags close what was opened last are the tags of elements.  If they are read as a document, whatever
is left open among these elements is no entity and no member, and the document holds the entities
and extensions of the others in their order. -/
theorem ofEvents_faithful (hnested : Nested [] events) (h : ofEvents ids events = .ok (d, ids')) :
    (∃ b : Body, b.tags = events.flatMap Event.tags) ∧
      ∀ b : Body, b.tags = events.flatMap Event.tags →
        (∀ name ∈ b.unclosed, name ∉ Element.knownTags) ∧ d.WrittenIn (b.named ·) :=
  ⟨hnested.exists_body, fun _ hb => writtenIn_of_ofEvents hb h⟩

/-- A schema whose reference stands inside an index, and that ends inside a note. -/
def bakeryEvents : List Event :=
  [.opening "schema" (.ok []),
    .opening "entity" (.ok [("name", "Loaf"), ("table", "loaf")]),
    .opening "keys" (.ok []),
    .empty "attribute" (.ok [("name", "id"), ("dbType", "INT")]),
    .closing "keys",
    .opening "index" (.ok [("name", "by_oven")]),
    .empty "indexPart" (.ok [("attributeName", "id")]),
    .opening "reference" (.ok [("name", "oven"), ("foreignClass", "Oven")]),
    .empty "mapping" (.ok [("foreignAttribute", "id")]),
    .closing "reference",
    .closing "index",
    .closing "entity",
    .empty "entity-extension" (.ok [("name", "Oven")]),
    .opening "note" (.ok [])]

/-- What the schema says. -/
def bakery : Document where
  entities := [{
    id := (IdSupply.draw {}).1
    className := "Loaf"
    table := "loaf"
    attributes := [{ name := "id", column := "id", type := "INT" }]
    references := [{
      name := "oven"
      foreignClass := "Oven"
      constraint := "loaf_oven"
      mappings := [⟨"oven_id", "id"⟩] }]
    indexes := [{ name := "by_oven", parts := [{ name := "id" }] }] }]
  extensions := [{ className := "Oven" }]

/-- The documents of a bakery, with elements nested in others, are read as they were written. -/
theorem bakery_faithful :
    Nested [] bakeryEvents ∧ ofEvents {} bakeryEvents = .ok (bakery, ⟨1⟩) ∧
      (∃ b : Body, b.tags = bakeryEvents.flatMap Event.tags) ∧
      ∀ b : Body, b.tags = bakeryEvents.flatMap Event.tags →
        (∀ name ∈ b.unclosed, name ∉ Element.knownTags) ∧ bakery.WrittenIn (b.named ·) := by
  have hnested : Nested [] bakeryEvents := by
    unfold bakeryEvents
    repeat constructor
  have hread : ofEvents {} bakeryEvents = .ok (bakery, ⟨1⟩) := by decide +kernel
  exact ⟨hnested, hread, ofEvents_faithful hnested hread⟩

end Document

end Schemata
