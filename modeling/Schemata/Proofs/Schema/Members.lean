import Schemata.Proofs.Schema.Parts
import Schemata.Schema.Loading

/-!
# Reading the members of an entity

While an entity or extension is open, the loading takes one element after the other.  Attributes and
collectors are read at a start tag.  References and indexes are held and filled without a look at
each other, so that an element of one kind may stand inside one of the other.  What is read of the
elements inside an entity thus says of each kind of member, apart from the others, which elements it
comes from.

* `started_of_start` - what a start tag can do;
* `opens_of_start`, `closes_of_finish` - what a start tag and an end tag do inside an entity;
* `takes_of_run` - what complete elements do inside an entity;
* `Takes.declares` - what has been read when the entity ends is what its content declares.
-/

namespace Schemata

open Markup

namespace Element

/-- The names of the elements that mean something inside entities and extensions. -/
def memberTags : List String :=
  ["attribute", "reference", "mapping", "index", "indexPart", "collector"]

/-- The names of all elements that mean something. -/
def knownTags : List String := "entity" :: "entity-extension" :: memberTags

end Element

/-- References are written with mappings. -/
def referenceKind : PartedKind Reference Mapping where
  tag := "reference"
  part := "mapping"
  read := Element.reference
  readPart r attributes := .ok (Element.mapping r.name attributes)
  fill r ps := { r with mappings := r.mappings ++ ps }
  tag_ne_part := by decide
  fill_nil r := by simp
  fill_fill r ps qs := by simp
  readPart_fill _ _ := rfl

/-- Indexes are written with parts. -/
def indexKind : PartedKind Index IndexPart where
  tag := "index"
  part := "indexPart"
  read := Element.index
  readPart _ := Element.indexPart
  fill i ps := { i with parts := i.parts ++ ps }
  tag_ne_part := by decide
  fill_nil i := by simp
  fill_fill i ps qs := by simp
  readPart_fill _ _ := rfl

namespace Members

/-- The members, and then others. -/
def append (m n : Members) : Members where
  attributes := m.attributes ++ n.attributes
  references := m.references ++ n.references
  indexes := m.indexes ++ n.indexes
  collectors := m.collectors ++ n.collectors

/-- The members as those of a table, which names the constraints of references. -/
def inTable (table : String) (m : Members) : Members :=
  { m with references := m.references.map (·.inTable table) }

/-- Members go into a table together as they do apart. -/
theorem inTable_append (table : String) (m n : Members) :
    (m.append n).inTable table = (m.inTable table).append (n.inTable table) := by
  simp [append, inTable]

/-- Members add up in whichever way they are grouped. -/
theorem append_assoc (m n o : Members) : (m.append n).append o = m.append (n.append o) := by
  simp [append]

/-- Taking no members adds nothing. -/
theorem append_nil (m : Members) : m.append {} = m := by simp [append]

end Members

/-- The target with more members. -/
def OpenTarget.gain (m : Members) : OpenTarget → OpenTarget
  | .entity e => .entity { e with toMembers := e.toMembers.append (m.inTable e.table) }
  | .extension x => .extension { x with toMembers := x.toMembers.append m }

namespace OpenTarget

variable (t : OpenTarget)

/-- A target that gains nothing stays as it was. -/
theorem gain_nil : t.gain {} = t := by
  cases t <;> simp [gain, Members.inTable, Members.append_nil]

/-- A target gains members in two steps as it does in one. -/
theorem gain_gain (m n : Members) : (t.gain m).gain n = t.gain (m.append n) := by
  cases t <;> simp [gain, Members.inTable_append, Members.append_assoc]

/-- Adding an attribute is gaining it alone. -/
theorem addAttribute_eq (a : Attribute) : t.addAttribute a = t.gain { attributes := [a] } := by
  cases t <;> simp [gain, addAttribute, Entity.addAttribute, Members.append, Members.inTable]

/-- Adding a reference is gaining it alone. -/
theorem addReference_eq (r : Reference) : t.addReference r = t.gain { references := [r] } := by
  cases t <;> simp [gain, addReference, Entity.addReference, Members.append, Members.inTable]

/-- Adding an index is gaining it alone. -/
theorem addIndex_eq (i : Index) : t.addIndex i = t.gain { indexes := [i] } := by
  cases t <;> simp [gain, addIndex, Entity.addIndex, Members.append, Members.inTable]

/-- Adding a collector is gaining it alone. -/
theorem addCollector_eq (c : Collector) : t.addCollector c = t.gain { collectors := [c] } := by
  cases t <;> simp [gain, addCollector, Entity.addCollector, Members.append, Members.inTable]

end OpenTarget

namespace Loading

/-- Attributes that pass the check are those that were attached. -/
theorem checked_eq_ok {attached : Attached} {attributes : Attributes} :
    checked attached = .ok attributes ↔ attached = .ok attributes := by
  cases attached <;> simp [checked, Element.orRefuse]

/-- Lists of events are read one behind the other. -/
theorem run_append {l l' : Loading} {events later : List Event} :
    l.run (events ++ later) = .ok l' ↔ ∃ m, l.run events = .ok m ∧ m.run later = .ok l' := by
  induction events generalizing l with
  | nil => simp [run]
  | cons event rest ih =>
    simp only [List.cons_append, run, bind_eq_ok, ih]
    constructor
    · rintro ⟨a, ha, m, hm, hlater⟩
      exact ⟨m, ⟨a, ha, hm⟩, hlater⟩
    · rintro ⟨m, ⟨a, ha, hm⟩, hlater⟩
      exact ⟨a, ha, m, hm, hlater⟩

/-- An element is read by its start tag, its content and its end tag. -/
theorem run_element {l l' : Loading} {name : String} {attached : Attached}
    {content later : List Event} :
    l.run (.opening name attached :: (content ++ .closing name :: later)) = .ok l' ↔
      ∃ attributes l₁ l₂ l₃, attached = .ok attributes ∧ l.start name attributes = .ok l₁ ∧
        l₁.run content = .ok l₂ ∧ l₂.finish name = .ok l₃ ∧ l₃.run later = .ok l' := by
  simp only [run, step, bind_eq_ok, checked_eq_ok, run_append]
  constructor
  · rintro ⟨l₁, ⟨attributes, hattached, hstart⟩, l₂, hcontent, l₃, hfinish, hlater⟩
    exact ⟨attributes, l₁, l₂, l₃, hattached, hstart, hcontent, hfinish, hlater⟩
  · rintro ⟨attributes, l₁, l₂, l₃, hattached, hstart, hcontent, hfinish, hlater⟩
    exact ⟨l₁, ⟨attributes, hattached, hstart⟩, l₂, hcontent, l₃, hfinish, hlater⟩

/-- The open target has more members, and nothing was completed. -/
structure Adds (l : Loading) (m : Members) (l' : Loading) : Prop where
  target : ∀ t, l.target = some t → l'.target = some (t.gain m)
  document : l'.document = l.document

/-- A step that leaves target and document as they are adds nothing. -/
theorem Adds.of_same {l l' : Loading} (target : l'.target = l.target)
    (document : l'.document = l.document) : l.Adds {} l' :=
  ⟨fun t ht => by rw [target, ht, OpenTarget.gain_nil], document⟩

/-- Two steps add the members of both. -/
theorem Adds.trans {l l' l'' : Loading} {m n : Members} (h : l.Adds m l') (h' : l'.Adds n l'') :
    l.Adds (m.append n) l'' :=
  ⟨fun t ht => by rw [h'.target _ (h.target t ht), OpenTarget.gain_gain],
    h'.document.trans h.document⟩

/-- What the start of an element can do. -/
inductive Started (l : Loading) : String → Attributes → Loading → Prop
  | entity (given : Attributes) (hclosed : l.target = none) :
      Started l "entity" given
        { l with ids := l.ids.draw.2, target := some (.entity (Element.entity l.ids.draw.1 given)) }
  | extension (given : Attributes) (hclosed : l.target = none) :
      Started l "entity-extension" given
        { l with target := some (.extension (Element.extension given)) }
  | attr {given : Attributes} {t : OpenTarget} {a : Attribute} (hopen : l.target = some t)
      (hread : Element.member given = .ok a) :
      Started l "attribute" given { l with target := some (t.gain { attributes := [a] }) }
  | reference {given : Attributes} {t : OpenTarget} {r : Reference} (hopen : l.target = some t)
      (hread : Element.reference given = .ok r) :
      Started l "reference" given { l with reference := some r }
  | mapping (given : Attributes) {r : Reference} (hheld : l.reference = some r) :
      Started l "mapping" given
        { l with reference := some (referenceKind.fill r [Element.mapping r.name given]) }
  | index {given : Attributes} {t : OpenTarget} {i : Index} (hopen : l.target = some t)
      (hread : Element.index given = .ok i) :
      Started l "index" given { l with index := some i }
  | indexPart {given : Attributes} {i : Index} {part : IndexPart} (hheld : l.index = some i)
      (hread : Element.indexPart given = .ok part) :
      Started l "indexPart" given { l with index := some (indexKind.fill i [part]) }
  | collector {given : Attributes} {t : OpenTarget} {c : Collector} (hopen : l.target = some t)
      (hread : Element.collector given = .ok c) :
      Started l "collector" given { l with target := some (t.gain { collectors := [c] }) }
  | other {name : String} (given : Attributes) (hname : name ∉ Element.knownTags) :
      Started l name given l

/-- What the start of an element does inside an entity. -/
structure Opens (l : Loading) (name : String) (given : Attributes) (m : Members)
    (l' : Loading) : Prop where
  adds : l.Adds m l'
  alone : name ≠ "entity" ∧ name ≠ "entity-extension"
  attributes (content : Forest) : List.Forall₂ (Elem.Says Element.member)
    (Elem.ifNamed "attribute" name ⟨.ok given, content⟩) m.attributes
  collectors (content : Forest) : List.Forall₂ (Elem.Says Element.collector)
    (Elem.ifNamed "collector" name ⟨.ok given, content⟩) m.collectors
  references : m.references = []
  reference : referenceKind.Starts l.reference name given l'.reference
  indexes : m.indexes = []
  index : indexKind.Starts l.index name given l'.index

/-- What the end of an element does inside an entity. -/
structure Closes (l : Loading) (name : String) (m : Members) (l' : Loading) : Prop where
  adds : l.Adds m l'
  attributes : m.attributes = []
  collectors : m.collectors = []
  references : m.references = referenceKind.done name l.reference
  reference : l'.reference = referenceKind.left name l.reference
  indexes : m.indexes = indexKind.done name l.index
  index : l'.index = indexKind.left name l.index

variable {l l' : Loading} {t : OpenTarget} {name : String} {given : Attributes}

/-- A start tag that adds no member. -/
theorem Opens.of_same (target : l'.target = l.target) (document : l'.document = l.document)
    (alone : name ≠ "entity" ∧ name ≠ "entity-extension")
    (plain : name ≠ "attribute" ∧ name ≠ "collector")
    (reference : referenceKind.Starts l.reference name given l'.reference)
    (index : indexKind.Starts l.index name given l'.index) : l.Opens name given {} l' where
  adds := .of_same target document
  alone := alone
  attributes content := by rw [Elem.ifNamed_of_ne plain.1]; exact .nil
  collectors content := by rw [Elem.ifNamed_of_ne plain.2]; exact .nil
  references := rfl
  reference := reference
  indexes := rfl
  index := index

/-- A step adds what the open target gains by it. -/
theorem Adds.of_open {m : Members} (ht : l.target = some t) (target : l'.target = some (t.gain m))
    (document : l'.document = l.document) : l.Adds m l' :=
  ⟨fun _ h => by cases ht.symm.trans h; exact target, document⟩

/-- A member joins a target that is open. -/
theorem inTarget_eq_ok {tag : String} {change : OpenTarget → OpenTarget} :
    l.inTarget tag change = .ok l' ↔
      ∃ t, l.target = some t ∧ l' = { l with target := some (change t) } := by
  cases ht : l.target <;> simp [inTarget, ht, eq_comm]

/-- A member that needs an open target is read. -/
theorem open_of_ite_isNone {x : Except SchemaProblem Loading} {problem : SchemaProblem}
    (h : (if l.target.isNone then .error problem else x) = .ok l') :
    ∃ t, l.target = some t ∧ x = .ok l' := by
  cases ht : l.target <;> simp_all

/-- **What the start of an element can do.** -/
theorem started_of_start (h : l.start name given = .ok l') : l.Started name given l' := by
  unfold start at h
  split at h
  case h_1 =>
    split at h
    · cases h
    · rename_i hclosed
      cases h
      exact .entity _ (by simpa using hclosed)
  case h_2 =>
    split at h
    · cases h
    · rename_i hclosed
      cases h
      exact .extension _ (by simpa using hclosed)
  case h_3 =>
    obtain ⟨a, hread, h⟩ := bind_eq_ok.mp h
    obtain ⟨t, hopen, rfl⟩ := inTarget_eq_ok.mp h
    rw [OpenTarget.addAttribute_eq]
    exact .attr hopen hread
  case h_4 =>
    obtain ⟨t, hopen, h⟩ := open_of_ite_isNone h
    obtain ⟨r, hread, h⟩ := bind_eq_ok.mp h
    cases h
    exact .reference hopen hread
  case h_5 =>
    split at h
    · cases h
    · rename_i r hheld
      cases h
      exact .mapping _ hheld
  case h_6 =>
    obtain ⟨t, hopen, h⟩ := open_of_ite_isNone h
    obtain ⟨i, hread, h⟩ := bind_eq_ok.mp h
    cases h
    exact .index hopen hread
  case h_7 =>
    obtain ⟨part, hread, h⟩ := bind_eq_ok.mp h
    split at h
    · cases h
    · rename_i i hheld
      cases h
      exact .indexPart hheld hread
  case h_8 =>
    obtain ⟨c, hread, h⟩ := bind_eq_ok.mp h
    obtain ⟨t, hopen, rfl⟩ := inTarget_eq_ok.mp h
    rw [OpenTarget.addCollector_eq]
    exact .collector hopen hread
  case h_9 =>
    cases h
    exact .other _ (by simp_all [Element.knownTags, Element.memberTags])

/-- The start of an element inside an entity. -/
theorem opens_of_start (ht : l.target = some t) (h : l.start name given = .ok l') :
    ∃ m, l.Opens name given m l' := by
  cases started_of_start h with
  | entity _ hclosed | extension _ hclosed =>
    rw [ht] at hclosed
    cases hclosed
  | attr hopen hread =>
    exact ⟨_, .of_open hopen rfl rfl, by decide, fun _ => .cons ⟨_, rfl, hread⟩ .nil,
      fun _ => .nil, rfl, .other (by decide) (by decide), rfl, .other (by decide) (by decide)⟩
  | collector hopen hread =>
    exact ⟨_, .of_open hopen rfl rfl, by decide, fun _ => .nil,
      fun _ => .cons ⟨_, rfl, hread⟩ .nil, rfl, .other (by decide) (by decide), rfl,
      .other (by decide) (by decide)⟩
  | reference _ hread =>
    exact ⟨_, .of_same rfl rfl (by decide) (by decide) (.member hread)
      (.other (by decide) (by decide))⟩
  | mapping _ hheld =>
    exact ⟨_, .of_same rfl rfl (by decide) (by decide) (hheld ▸ .part rfl)
      (.other (by decide) (by decide))⟩
  | index _ hread =>
    exact ⟨_, .of_same rfl rfl (by decide) (by decide) (.other (by decide) (by decide))
      (.member hread)⟩
  | indexPart hheld hread =>
    exact ⟨_, .of_same rfl rfl (by decide) (by decide) (.other (by decide) (by decide))
      (hheld ▸ .part hread)⟩
  | other _ hname =>
    have hne : ∀ tag ∈ Element.knownTags, name ≠ tag := fun tag htag heq => hname (heq ▸ htag)
    exact ⟨_, .of_same rfl rfl ⟨hne _ (by decide), hne _ (by decide)⟩
      ⟨hne _ (by decide), hne _ (by decide)⟩
      (.other (hne "reference" (by decide)) (hne "mapping" (by decide)))
      (.other (hne "index" (by decide)) (hne "indexPart" (by decide)))⟩

/-- The end of an element inside an entity. -/
theorem closes_of_finish (halone : name ≠ "entity" ∧ name ≠ "entity-extension")
    (h : l.finish name = .ok l') :
    ∃ m, l.Closes name m l' := by
  unfold finish at h
  split at h
  case h_1 => exact absurd rfl halone.1
  case h_2 => exact absurd rfl halone.2
  case h_3 =>
    split at h
    · rename_i hheld
      cases h
      exact ⟨_, .of_same rfl rfl, rfl, rfl, by rw [hheld]; rfl, by rw [hheld]; rfl, rfl, rfl⟩
    · rename_i r hheld
      obtain ⟨t, hopen, rfl⟩ := inTarget_eq_ok.mp h
      rw [OpenTarget.addReference_eq]
      exact ⟨_, .of_open hopen rfl rfl, rfl, rfl, by rw [hheld]; rfl, rfl, rfl, rfl⟩
  case h_4 =>
    split at h
    · rename_i hheld
      cases h
      exact ⟨_, .of_same rfl rfl, rfl, rfl, rfl, rfl, by rw [hheld]; rfl, by rw [hheld]; rfl⟩
    · rename_i i hheld
      obtain ⟨t, hopen, rfl⟩ := inTarget_eq_ok.mp h
      rw [OpenTarget.addIndex_eq]
      exact ⟨_, .of_open hopen rfl rfl, rfl, rfl, rfl, rfl, by rw [hheld]; rfl, rfl⟩
  case h_5 hreference hindex =>
    cases h
    exact ⟨_, .of_same rfl rfl, rfl, rfl, (if_neg hreference).symm, (if_neg hreference).symm,
      (if_neg hindex).symm, (if_neg hindex).symm⟩

/-- What complete elements do inside an entity. -/
structure Takes (l : Loading) (f : Forest) (m : Members) (l' : Loading) : Prop where
  adds : l.Adds m l'
  alone : f.named "entity" = [] ∧ f.named "entity-extension" = []
  attributes : List.Forall₂ (Elem.Says Element.member) (f.named "attribute") m.attributes
  collectors : List.Forall₂ (Elem.Says Element.collector) (f.named "collector") m.collectors
  reference : referenceKind.Reads l.reference f l'.reference m.references
  index : indexKind.Reads l.index f l'.index m.indexes

/-- Nothing is taken of no content. -/
theorem Takes.nil (l : Loading) : l.Takes .nil {} l :=
  ⟨.of_same rfl rfl, ⟨rfl, rfl⟩, .nil, .nil, .nil _, .nil _⟩

/-- An element is taken by its start tag, its content and its end tag. -/
theorem Takes.element {l₁ l₂ l₃ : Loading} {m₁ m₂ m₃ m₄ : Members} {content later : Forest}
    (hstart : l.Opens name given m₁ l₁) (hcontent : l₁.Takes content m₂ l₂)
    (hfinish : l₂.Closes name m₃ l₃) (hlater : l₃.Takes later m₄ l') :
    l.Takes (.element name (.ok given) content later)
      (m₁.append (m₂.append (m₃.append m₄))) l' where
  adds := hstart.adds.trans (hcontent.adds.trans (hfinish.adds.trans hlater.adds))
  alone := by
    simp only [Forest.named, Elem.ifNamed_of_ne hstart.alone.1, Elem.ifNamed_of_ne hstart.alone.2,
      hcontent.alone, hlater.alone, List.append_nil, and_self]
  attributes := by
    simp only [Forest.named, Members.append, hfinish.attributes, List.nil_append]
    exact List.rel_append (hstart.attributes content)
      (List.rel_append hcontent.attributes hlater.attributes)
  collectors := by
    simp only [Forest.named, Members.append, hfinish.collectors, List.nil_append]
    exact List.rel_append (hstart.collectors content)
      (List.rel_append hcontent.collectors hlater.collectors)
  reference := by
    simp only [Members.append, hstart.references, hfinish.references, List.nil_append]
    exact .element hstart.reference hcontent.reference (hfinish.reference ▸ hlater.reference)
  index := by
    simp only [Members.append, hstart.indexes, hfinish.indexes, List.nil_append]
    exact .element hstart.index hcontent.index (hfinish.index ▸ hlater.index)

/-- **Complete elements inside an entity.** -/
theorem takes_of_run {f : Forest} (ht : l.target = some t) (h : l.run f.tags = .ok l') :
    ∃ m, l.Takes f m l' := by
  induction f generalizing l l' t with
  | nil =>
    cases h
    exact ⟨{}, .nil l⟩
  | element name attached content later ihContent ihLater =>
    obtain ⟨given, l₁, l₂, l₃, rfl, hstart, hcontent, hfinish, hlater⟩ := run_element.mp h
    obtain ⟨m₁, hopens⟩ := opens_of_start ht hstart
    have ht₁ := hopens.adds.target t ht
    obtain ⟨m₂, htakes⟩ := ihContent ht₁ hcontent
    have ht₂ := htakes.adds.target _ ht₁
    obtain ⟨m₃, hcloses⟩ := closes_of_finish hopens.alone hfinish
    obtain ⟨m₄, hrest⟩ := ihLater (hcloses.adds.target _ ht₂) hlater
    exact ⟨_, .element hopens htakes hcloses hrest⟩

end Loading

/-- The reference of an element: what its attributes say, with the mappings of those elements that
no other reference inside it encloses. -/
def Reference.WrittenIn (node : Elem) (r : Reference) : Prop :=
  ∃ plain, node.Says Element.reference plain ∧ r = { plain with mappings := r.mappings } ∧
    List.Forall₂ (Elem.Says fun given => .ok (Element.mapping r.name given))
      (node.content.owned "reference" "mapping") r.mappings

/-- The index of an element: what its attributes say, with the parts of those elements that no other
index inside it encloses. -/
def Index.WrittenIn (node : Elem) (i : Index) : Prop :=
  ∃ plain, node.Says Element.index plain ∧ i = { plain with parts := i.parts } ∧
    List.Forall₂ (Elem.Says Element.indexPart) (node.content.owned "index" "indexPart") i.parts

/-- The members that the content of an element declares.  No mapping and no index part is left over
there. -/
structure Markup.Forest.Declares (f : Forest) (m : Members) : Prop where
  attributes : List.Forall₂ (Elem.Says Element.member) (f.named "attribute") m.attributes
  collectors : List.Forall₂ (Elem.Says Element.collector) (f.named "collector") m.collectors
  references : List.Forall₂ Reference.WrittenIn (f.innermost "reference") m.references
  indexes : List.Forall₂ Index.WrittenIn (f.innermost "index") m.indexes
  mappings : f.owned "reference" "mapping" = []
  parts : f.owned "index" "indexPart" = []

/-- A reference has no mappings before the elements inside it are read. -/
theorem Element.mappings_of_reference {given : Attributes} {r : Reference}
    (h : Element.reference given = .ok r) : r.mappings = [] := by
  simp only [Element.reference, bind_eq_ok] at h
  obtain ⟨_, _, _, _, _, _, h⟩ := h
  cases h
  rfl

/-- An index has no parts before the elements inside it are read. -/
theorem Element.parts_of_index {given : Attributes} {i : Index}
    (h : Element.index given = .ok i) : i.parts = [] := by
  simp only [Element.index, bind_eq_ok] at h
  obtain ⟨_, _, h⟩ := h
  split at h <;> cases h <;> rfl

/-- A reference is written in the element that holds it with its mappings. -/
theorem Reference.writtenIn_of_holds {node : Elem} {r : Reference}
    (h : referenceKind.Holds node r) : r.WrittenIn node := by
  obtain ⟨plain, ps, ⟨given, hgiven, hread⟩, hps, rfl⟩ := h
  have hfill : (referenceKind.fill plain ps).mappings = ps := by
    simp [referenceKind, Element.mappings_of_reference hread]
  exact ⟨plain, ⟨given, hgiven, hread⟩, rfl, hfill.symm ▸ hps⟩

/-- An index is written in the element that holds it with its parts. -/
theorem Index.writtenIn_of_holds {node : Elem} {i : Index} (h : indexKind.Holds node i) :
    i.WrittenIn node := by
  obtain ⟨plain, ps, ⟨given, hgiven, hread⟩, hps, rfl⟩ := h
  have hfill : (indexKind.fill plain ps).parts = ps := by
    simp [indexKind, Element.parts_of_index hread]
  exact ⟨plain, ⟨given, hgiven, hread⟩, rfl, hfill.symm ▸ hps⟩

/-- **What has been read when an entity ends is what its content declares,** and nothing is held any
more. -/
theorem Loading.Takes.declares {l l' : Loading} {f : Forest} {m : Members} (h : l.Takes f m l')
    (hreference : l.reference = none) (hindex : l.index = none) :
    f.Declares m ∧ l'.reference = none ∧ l'.index = none := by
  refine ⟨?_, h.reference.eq_none_of_none hreference, h.index.eq_none_of_none hindex⟩
  exact {
    attributes := h.attributes
    collectors := h.collectors
    references := h.reference.completed.imp fun _ _ => Reference.writtenIn_of_holds
    indexes := h.index.completed.imp fun _ _ => Index.writtenIn_of_holds
    mappings := h.reference.unowned hreference
    parts := h.index.unowned hindex }

end Schemata
