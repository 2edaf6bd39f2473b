import Schemata.Json.Reader
import Schemata.Migration.Mysql
import Schemata.Model.Exchange
import Schemata.Proofs.Json.RecordParts
import Schemata.Proofs.Schema.Reading
import Schemata.Proofs.Text.LowerCase

/-!
# The types of indexes

The type of an index is trimmed and put in lower case when it is set, whether by a call or by the
attribute of an element, so that types can be compared as they stand.  A record in JSON is taken at
its word: its type is the one that the index has.

What is known of a type is thus what is known of its origin, which is the text that was last set or
that a record holds.

* `type_eq_kept` - the type of an index is what comes of its origin;
* `kept_eq_iff` - which origins lead to the same type;
* `indexDefinition_eq_iff` - which types are written as a kind of index;
* `exists_index_of_ofXml`, `exists_index_of_ofJson?` - where the indexes of a document and those of
  a record come from;
* `types_exact` - when types are normal, when they are the same, and which kinds are known;
* `guestbook_types_apart` - a record whose type is not normal.
-/

namespace Schemata

open Json Markup Text

/-- What the type of an index was made of. -/
inductive TypeOrigin where
  | unset
  /-- A text was set as the type, by a call or by the attribute of an element. -/
  | given (text : String)
  /-- A record in JSON has the text as its type. -/
  | recorded (text : String)
  deriving DecidableEq, Repr

namespace TypeOrigin

/-- The text, which is empty where there is none. -/
def text : TypeOrigin → String
  | unset => ""
  | given text => text
  | recorded text => text

/-- What is asked of the text so that the type is normal: nothing, unless it is that of a record. -/
def IsNormal : TypeOrigin → Prop
  | recorded text => Text.IsNormal text
  | _ => True

/-- The type that comes of it. -/
def kept : TypeOrigin → Option String
  | unset => none
  | given text => if lowercase (trim text) = "" then none else some (lowercase (trim text))
  | recorded text => some text

/-- The origin of the type of an element with these attributes. -/
def ofAttributes (attributes : Attributes) : TypeOrigin :=
  match attributes.lookup "type" with
  | some text => given text
  | none => unset

/-- The origin of the type of a record. -/
def ofRecord (j : Json) : TypeOrigin :=
  match (j.part? 2 "index_type").bind text? with
  | some text => recorded text
  | none => unset

variable {origin origin' : TypeOrigin}

/-- An element sets its type, which is normal then. -/
theorem isNormal_ofAttributes (attributes : Attributes) : (ofAttributes attributes).IsNormal := by
  unfold ofAttributes
  split <;> trivial

/-- What is asked of the text is what is asked of the type. -/
theorem isNormal_iff_kept : origin.IsNormal ↔ ∀ type ∈ origin.kept, Text.IsNormal type := by
  cases origin with
  | unset => simp [IsNormal, kept]
  | given text =>
    by_cases hempty : lowercase (trim text) = ""
    · simp [IsNormal, kept, hempty]
    · simp [IsNormal, kept, hempty, isNormal_lowercase_trim hempty]
  | recorded text => simp [IsNormal, kept]

/-- A text that is asked for nothing, or that has what is asked for, leads to the type that would
come of setting it. -/
theorem kept_of_isNormal (h : origin.IsNormal) : origin.kept = (given origin.text).kept := by
  cases origin with
  | unset => decide
  | given text => rfl
  | recorded text =>
    obtain ⟨hne, hfixed⟩ := Text.isNormal_iff.mp h
    simp [kept, TypeOrigin.text, hfixed, hne]

/-- Two given texts are kept as one type just when they agree but for case and surrounding blanks.
-/
theorem kept_given_eq_iff {s t : String} :
    (given s).kept = (given t).kept ↔ lowercase (trim s) = lowercase (trim t) := by
  by_cases hs : lowercase (trim s) = "" <;> by_cases ht : lowercase (trim t) = ""
  · simp [kept, hs, ht]
  · simp [kept, hs, ht, Ne.symm ht]
  · simp [kept, hs, ht]
  · simp [kept, hs, ht]

/-- Only a record has a type that is not normal, and it is the text itself. -/
theorem eq_recorded (h : ¬ origin.IsNormal) : origin = recorded origin.text := by
  cases origin with
  | unset => exact absurd trivial h
  | given => exact absurd trivial h
  | recorded => rfl

/-- **Which origins lead to the same type:** an origin and itself, and those whose texts agree when
they are trimmed and put in lower case, provided that no type is kept in another form. -/
theorem kept_eq_iff : origin.kept = origin'.kept ↔ origin = origin' ∨
    origin.IsNormal ∧ origin'.IsNormal ∧
      lowercase (trim origin.text) = lowercase (trim origin'.text) := by
  have hnormal (heq : origin.kept = origin'.kept) : origin.IsNormal ↔ origin'.IsNormal := by
    rw [isNormal_iff_kept, isNormal_iff_kept, heq]
  constructor
  · intro heq
    by_cases h : origin.IsNormal
    · have h' := (hnormal heq).mp h
      rw [kept_of_isNormal h, kept_of_isNormal h', kept_given_eq_iff] at heq
      exact .inr ⟨h, h', heq⟩
    · have h' : ¬ origin'.IsNormal := mt (hnormal heq).mpr h
      rw [eq_recorded h, eq_recorded h'] at heq ⊢
      exact .inl (congrArg recorded (Option.some_inj.mp heq))
  · rintro (rfl | ⟨h, h', heq⟩)
    · rfl
    · rw [kept_of_isNormal h, kept_of_isNormal h', kept_given_eq_iff]
      exact heq

end TypeOrigin

namespace Index

/-- The index has no type, or a normal one. -/
def HasNormalType (i : Index) : Prop := ∀ type ∈ i.type, Text.IsNormal type

/-- An index that one can come by, and the origin of its type.  What else an index has can be
changed at will. -/
inductive Obtained : TypeOrigin → Index → Prop
  | new (name : String) : Obtained .unset { name }
  | withType {origin : TypeOrigin} {i : Index} (h : Obtained origin i) (text : String) :
      Obtained (.given text) (i.withType text)
  | altered {origin : TypeOrigin} {i : Index} (h : Obtained origin i) (name : String)
      (unique : Bool) (parts : List IndexPart) :
      Obtained origin { i with name, unique, parts }
  | element {attributes : Attributes} {i : Index} (h : Element.index attributes = .ok i) :
      Obtained (.ofAttributes attributes) i
  | record {j : Json} {i : Index} (h : Index.ofJson? j = some i) : Obtained (.ofRecord j) i

/-- The setter stores the type as it keeps a given text. -/
theorem type_withType (i : Index) (text : String) :
    (i.withType text).type = (TypeOrigin.given text).kept := by
  simp only [withType, TypeOrigin.kept, String.isEmpty_iff]

/-- An index read from an XML element has the type its attributes give it. -/
theorem type_of_element {attributes : Attributes} {i : Index}
    (h : Element.index attributes = .ok i) :
    i.type = (TypeOrigin.ofAttributes attributes).kept := by
  obtain ⟨unique, -, h⟩ := bind_eq_ok.mp h
  unfold TypeOrigin.ofAttributes
  cases htype : attributes.lookup "type" with
  | some text =>
    simp only [htype] at h ⊢
    cases h
    exact type_withType _ text
  | none =>
    simp only [htype] at h ⊢
    cases h
    rfl

/-- The type of a record is taken as it stands. -/
theorem type_of_ofJson? {j : Json} {i : Index} (h : Index.ofJson? j = some i) :
    i.type = (j.part? 2 "index_type").bind text? := by
  obtain ⟨slots, hslots, h⟩ := Option.bind_eq_some_iff.mp h
  split at h
  · simp only [Option.bind_eq_bind, Option.bind_eq_some_iff] at h
    obtain ⟨_, -, _, -, type, htype, _, -, h⟩ := h
    cases h
    rw [← value?_of_slots? hslots (by rfl : _[2]? = some "index_type")]
    exact eq_of_optional_text? htype
  · cases h

/-- An index read from a record has the type the record gives it. -/
theorem type_of_record {j : Json} {i : Index} (h : Index.ofJson? j = some i) :
    i.type = (TypeOrigin.ofRecord j).kept := by
  rw [type_of_ofJson? h, TypeOrigin.ofRecord]
  cases (j.part? 2 "index_type").bind text? <;> rfl

/-- The index of the record that a text holds, with the origin of its type. -/
def recordIn? (s : String) : Option (TypeOrigin × Index) := do
  let j ← parse? s
  let i ← ofJson? j
  return (.ofRecord j, i)

variable {origin origin' : TypeOrigin} {i i' : Index}

/-- What is read out of a JSON text has the origin the text gives it. -/
theorem obtained_of_recordIn? {s : String} (h : recordIn? s = some (origin, i)) :
    Obtained origin i := by
  obtain ⟨j, -, h⟩ := Option.bind_eq_some_iff.mp h
  obtain ⟨_, hread, h⟩ := Option.bind_eq_some_iff.mp h
  cases h
  exact .record hread

/-- **The type of an index is what comes of its origin.** -/
theorem Obtained.type_eq_kept (h : Obtained origin i) : i.type = origin.kept := by
  induction h with
  | new => rfl
  | withType _ text => exact type_withType _ text
  | altered _ _ _ _ ih => exact ih
  | element hread => exact type_of_element hread
  | record hread => exact type_of_record hread

/-- An index has a normal type just when its origin hands it one. -/
theorem Obtained.hasNormalType_iff (h : Obtained origin i) : i.HasNormalType ↔ origin.IsNormal := by
  rw [HasNormalType, h.type_eq_kept, TypeOrigin.isNormal_iff_kept]

/-- Which indexes have the same definition. -/
theorem Obtained.same_iff (h : Obtained origin i) (h' : Obtained origin' i') :
    i.same i' ↔ i.unique = i'.unique ∧ i.parts.map (·.key) = i'.parts.map (·.key) ∧
      (origin = origin' ∨ origin.IsNormal ∧ origin'.IsNormal ∧
        lowercase (trim origin.text) = lowercase (trim origin'.text)) := by
  rw [← TypeOrigin.kept_eq_iff, ← h.type_eq_kept, ← h'.type_eq_kept]
  simp only [same, Bool.and_eq_true, beq_iff_eq]
  tauto

end Index

namespace Mysql

/-- The types that are written as a kind of index. -/
def kinds : List String := ["FULLTEXT", "SPATIAL"]

/-- The definition of an index of a kind. -/
def definitionOfKind (kind : String) (i : Index) : String :=
  let name := quote i.name
  let parts := String.intercalate ", " (i.parts.map indexPart)
  s!"{kind} INDEX {name} ({parts})"

variable {kind type : String} {i : Index}

/-- A definition of a kind is the kind and what does not depend on it. -/
theorem exists_toList_definitionOfKind (i : Index) :
    ∃ rest, ∀ kind, (definitionOfKind kind i).toList = kind.toList ++ rest := by
  refine ⟨(" INDEX " ++ quote i.name ++ " (" ++ String.intercalate ", " (i.parts.map indexPart) ++
    ")").toList, fun kind => ?_⟩
  rw [← String.toList_append]
  simp [definitionOfKind, toString, String.append_assoc]

/-- Two kinds that are written alike for one index are one kind. -/
theorem definitionOfKind_inj {kind' : String} :
    definitionOfKind kind i = definitionOfKind kind' i ↔ kind = kind' := by
  obtain ⟨rest, hrest⟩ := exists_toList_definitionOfKind i
  rw [← String.toList_inj, hrest, hrest, List.append_left_inj, String.toList_inj]

/-- A type that is a kind is written as the kind. -/
theorem indexDefinition_of_isIndexKind (htype : i.type = some type) (h : isIndexKind type = true) :
    indexDefinition i = definitionOfKind (uppercase type) i := by
  simp [indexDefinition, indexKind, indexMethod, htype, h, definitionOfKind, toString,
    String.append_assoc]

/-- An index whose type is no kind is defined by its uniqueness, or by the word itself. -/
theorem head_indexDefinition (h : ∀ type ∈ i.type, isIndexKind type = false) :
    (indexDefinition i).toList.head? = some (if i.unique then 'U' else 'I') := by
  have hkind : indexKind i = if i.unique then "UNIQUE " else "" := by
    unfold indexKind
    cases htype : i.type with
    | none => rfl
    | some type => simp [h type htype]
  rw [indexDefinition, hkind]
  cases i.unique <;> simp [toString]

/-- **Which types are written as a kind of index:** the name of the kind in lower case. -/
theorem indexDefinition_eq_iff (hkind : kind ∈ kinds) (i : Index) :
    indexDefinition i = definitionOfKind kind i ↔ i.type = some (lowercase kind) := by
  by_cases hknown : ∃ type, i.type = some type ∧ isIndexKind type = true
  · obtain ⟨type, htype, hknown⟩ := hknown
    have hwords : ∀ type ∈ ["fulltext", "spatial"], ∀ kind ∈ kinds,
        (uppercase type = kind ↔ type = lowercase kind) := by decide
    have hmem : type ∈ ["fulltext", "spatial"] := by simpa [isIndexKind] using hknown
    rw [indexDefinition_of_isIndexKind htype hknown, definitionOfKind_inj, htype,
      Option.some_inj, hwords type hmem kind hkind]
  · have hnone : ∀ type ∈ i.type, isIndexKind type = false := by simpa using hknown
    have hkinds : ∀ kind ∈ kinds, isIndexKind (lowercase kind) = true ∧ kind.toList ≠ [] ∧
        kind.toList.head? ≠ some 'U' ∧ kind.toList.head? ≠ some 'I' := by decide
    obtain ⟨hlower, hne, hU, hI⟩ := hkinds kind hkind
    constructor
    · intro heq
      obtain ⟨rest, hrest⟩ := exists_toList_definitionOfKind i
      have hfirst := head_indexDefinition hnone
      rw [heq, hrest, List.head?_append_of_ne_nil _ hne] at hfirst
      split at hfirst
      · exact absurd hfirst hU
      · exact absurd hfirst hI
    · intro htype
      rw [hnone _ htype] at hlower
      cases hlower

end Mysql

namespace Index

variable {origin origin' : TypeOrigin} {i i' : Index} {kind : String}

/-- **Which kinds are known:** those that are written in any ASCII case, blanks around them apart,
and in a record those that are in lower case. -/
theorem Obtained.indexDefinition_eq_iff (h : Obtained origin i) (hkind : kind ∈ Mysql.kinds) :
    Mysql.indexDefinition i = Mysql.definitionOfKind kind i ↔
      origin.IsNormal ∧ eqIgnoringCase (trim origin.text) kind = true := by
  have hkinds : ∀ kind ∈ Mysql.kinds, Text.IsNormal (lowercase kind) ∧
      ((lowercase kind).toList.all fun x => x.toNat < 0x80 && x != 'k') = true := by
    decide +kernel
  obtain ⟨hnormal, hletters⟩ := hkinds kind hkind
  have hascii : ∀ x ∈ (lowercase kind).toList, x.toNat < 0x80 ∧ x ≠ 'k' := by
    simpa using hletters
  have htext : eqIgnoringCase (trim origin.text) kind = true ↔
      lowercase (trim origin.text) = lowercase kind := by
    rw [lowercase_eq_iff_ascii hascii, ← (lowercase_eq_iff_ascii hascii).mp rfl, eqIgnoringCase,
      beq_iff_eq]
  have hlower : lowercase (trim (lowercase kind)) = lowercase kind :=
    (Text.isNormal_iff.mp hnormal).2
  have hkept : (TypeOrigin.recorded (lowercase kind)).kept = some (lowercase kind) := rfl
  rw [Mysql.indexDefinition_eq_iff hkind, h.type_eq_kept, htext, ← hkept, TypeOrigin.kept_eq_iff]
  constructor
  · rintro (rfl | ⟨hcase, -, heq⟩)
    · exact ⟨hnormal, hlower⟩
    · exact ⟨hcase, heq.trans hlower⟩
  · rintro ⟨hcase, heq⟩
    exact .inr ⟨hcase, hnormal, heq.trans hlower.symm⟩

end Index

/-- The indexes that an element declares are elements inside it. -/
theorem Markup.Forest.Declares.exists_index {f : Forest} {m : Members} (h : f.Declares m)
    {i : Index} (hi : i ∈ m.indexes) : ∃ node ∈ f.named "index", i.WrittenIn node := by
  obtain ⟨node, hnode, hwritten⟩ := exists_of_mem_forall₂ h.indexes hi
  exact ⟨node, (f.byEnd_perm "index").mem_iff.mp (List.mem_filter.mp hnode).1, hwritten⟩

namespace Document

/-- The indexes of all entities and extensions. -/
def allIndexes (d : Document) : List Index :=
  d.entities.flatMap (·.indexes) ++ d.extensions.flatMap (·.indexes)

variable {d : Document} {i : Index}

/-- The indexes of a document are those of its elements. -/
theorem WrittenIn.exists_index {named : String → List Elem} (h : d.WrittenIn named)
    (hi : i ∈ d.allIndexes) : ∃ node ∈ named "index", i.WrittenIn node := by
  have hinside : ∃ node ∈ named "entity" ++ named "entity-extension", ∃ m,
      node.content.Declares m ∧ i ∈ m.indexes := by
    simp only [allIndexes, List.mem_append, List.mem_flatMap] at hi
    rcases hi with ⟨e, he, hi⟩ | ⟨x, hx, hi⟩
    · obtain ⟨node, hnode, given, m, -, hdeclares, hwritten⟩ :=
        exists_of_mem_forall₂ h.entities he
      rw [hwritten] at hi
      exact ⟨node, List.mem_append_left _ hnode, m, hdeclares, hi⟩
    · obtain ⟨node, hnode, given, m, -, hdeclares, hwritten⟩ :=
        exists_of_mem_forall₂ h.extensions hx
      rw [hwritten] at hi
      exact ⟨node, List.mem_append_right _ hnode, m, hdeclares, hi⟩
  obtain ⟨outer, houter, m, hdeclares, hi⟩ := hinside
  obtain ⟨node, hnode, hwritten⟩ := hdeclares.exists_index hi
  have hmem := (h.members "index" (by decide)).mem_iff.mpr
    (List.mem_flatMap.mpr ⟨outer, houter, hnode⟩)
  exact ⟨node, hmem, hwritten⟩

/-- **The indexes of a text:** each is that of an element, whose attributes say its type. -/
theorem exists_index_of_ofXml {ids ids' : IdSupply} {source xml : String}
    (h : ofXml ids source xml = .ok (d, ids')) :
    ∃ b : Body, b.tags = (scan xml).events.flatMap Event.tags ∧
      ∀ i ∈ d.allIndexes, ∃ node ∈ b.named "index", ∃ attributes,
        node.attributes = .ok attributes ∧ Index.Obtained (.ofAttributes attributes) i := by
  obtain ⟨b, hb, hwritten⟩ := exists_writtenIn_of_ofXml h
  refine ⟨b, hb, fun i hi => ?_⟩
  obtain ⟨node, hnode, plain, ⟨attributes, hattributes, hread⟩, hparts, -⟩ :=
    hwritten.exists_index hi
  refine ⟨node, hnode, attributes, hattributes, ?_⟩
  rw [hparts]
  exact .altered (.element hread) plain.name plain.unique i.parts

end Document

/-- The items that a record has as its indexes. -/
def Json.indexItems (place : Nat) (j : Json) : List Json :=
  ((j.part? place "indexes").bind items?).getD []

/-- The indexes of an entity record are those that stand in its slot `indexes`. -/
theorem Members.indexes_of_ofSlots? {attributes references indexes collectors : Slot}
    {m : Members} (h : ofSlots? attributes references indexes collectors = some m) :
    mandatory (listOf? Index.ofJson?) indexes = some m.indexes := by
  simp only [ofSlots?, Option.bind_eq_bind, Option.bind_eq_some_iff] at h
  obtain ⟨_, -, _, -, indexes, hindexes, _, -, h⟩ := h
  cases h
  exact hindexes

/-- The indexes of an entity in JSON are those of its items. -/
theorem Entity.exists_index_of_ofJson? {j : Json} {e : Entity} (h : ofJson? j = some e) {i : Index}
    (hi : i ∈ e.indexes) : ∃ item ∈ j.indexItems 6, Index.ofJson? item = some i := by
  obtain ⟨slots, hslots, h⟩ := Option.bind_eq_some_iff.mp h
  split at h
  · simp only [Option.bind_eq_bind, Option.bind_eq_some_iff] at h
    obtain ⟨m, hm, _, -, _, -, _, -, _, -, _, -, h⟩ := h
    cases h
    rw [indexItems, ← value?_of_slots? hslots (by rfl : _[6]? = some "indexes")]
    exact exists_item_of_mandatory (Members.indexes_of_ofSlots? hm) hi
  · cases h

/-- The indexes of an extension in JSON are those of its items. -/
theorem Extension.exists_index_of_ofJson? {j : Json} {x : Extension} (h : ofJson? j = some x)
    {i : Index} (hi : i ∈ x.indexes) : ∃ item ∈ j.indexItems 3, Index.ofJson? item = some i := by
  obtain ⟨slots, hslots, h⟩ := Option.bind_eq_some_iff.mp h
  split at h
  · simp only [Option.bind_eq_bind, Option.bind_eq_some_iff] at h
    obtain ⟨m, hm, _, -, _, -, h⟩ := h
    cases h
    rw [indexItems, ← value?_of_slots? hslots (by rfl : _[3]? = some "indexes")]
    exact exists_item_of_mandatory (Members.indexes_of_ofSlots? hm) hi
  · cases h

namespace Index

/-- **The types of indexes.**  The type of an index is normal whatever was set, and that of a record
is normal exactly if the record has it so.  Where both are normal, types that agree letter by letter
are the same, but for capital sigmas that close words, and kinds are known in any case.  The indexes
of a text of elements have types that were set, and those of a record have types of records. -/
theorem types_exact {origin : TypeOrigin} {i : Index} (h : Obtained origin i) :
    (i.HasNormalType ↔ origin.IsNormal) ∧
    (∀ kind ∈ Mysql.kinds, Mysql.indexDefinition i = Mysql.definitionOfKind kind i ↔
      origin.IsNormal ∧ eqIgnoringCase (trim origin.text) kind = true) ∧
    (∀ {origin' : TypeOrigin} {i' : Index}, Obtained origin' i' →
      (i.same i' ↔ i.unique = i'.unique ∧ i.parts.map (·.key) = i'.parts.map (·.key) ∧
        (origin = origin' ∨ origin.IsNormal ∧ origin'.IsNormal ∧
          lowercase (trim origin.text) = lowercase (trim origin'.text))) ∧
      (SameLetters origin.text origin'.text →
        (lowercase (trim origin.text) = lowercase (trim origin'.text) ↔
          closings origin.text = closings origin'.text))) ∧
    (∀ {ids ids' : IdSupply} {source xml : String} {d : Document},
      Document.ofXml ids source xml = .ok (d, ids') →
        ∃ b : Body, b.tags = (scan xml).events.flatMap Event.tags ∧
          ∀ i ∈ d.allIndexes, i.HasNormalType ∧ ∃ node ∈ b.named "index", ∃ attributes,
            node.attributes = .ok attributes ∧ Obtained (.ofAttributes attributes) i) ∧
    (∀ {j : Json} {e : Entity}, Entity.ofJson? j = some e →
      ∀ i ∈ e.indexes, ∃ item ∈ j.indexItems 6, Obtained (.ofRecord item) i) ∧
    ∀ {j : Json} {x : Extension}, Extension.ofJson? j = some x →
      ∀ i ∈ x.indexes, ∃ item ∈ j.indexItems 3, Obtained (.ofRecord item) i := by
  refine ⟨h.hasNormalType_iff, fun kind hkind => h.indexDefinition_eq_iff hkind,
    fun h' => ⟨h.same_iff h', lowercase_trim_eq_iff⟩, fun hread => ?_, fun hread i hi => ?_,
    fun hread i hi => ?_⟩
  · obtain ⟨b, hb, hindexes⟩ := Document.exists_index_of_ofXml hread
    refine ⟨b, hb, fun i hi => ?_⟩
    obtain ⟨node, hnode, attributes, hattributes, hobtained⟩ := hindexes i hi
    have hnormal := hobtained.hasNormalType_iff.mpr (TypeOrigin.isNormal_ofAttributes attributes)
    exact ⟨hnormal, node, hnode, attributes, hattributes, hobtained⟩
  · obtain ⟨item, hitem, hread⟩ := Entity.exists_index_of_ofJson? hread hi
    exact ⟨item, hitem, .record hread⟩
  · obtain ⟨item, hitem, hread⟩ := Extension.exists_index_of_ofJson? hread hi
    exact ⟨item, hitem, .record hread⟩

namespace Guestbook

/-- An entity with an index for the search in its texts. -/
def xml : String :=
  "<entity name=\"Entry\" table=\"entry\">" ++
    "<index name=\"by_text\" type=\" FullText \"></index></entity>"

/-- The index of the element. -/
def byText : Index := { name := "by_text", type := some "fulltext" }

/-- The document of the text. -/
def document : Document where
  entities := [{
    id := (IdSupply.draw {}).1
    className := "Entry"
    table := "entry"
    indexes := [byText] }]

/-- The record of an index of the type. -/
def record (type : String) : String :=
  "\x7b\"name\":\"by_text\",\"is_unique\":false,\"index_type\":\"" ++ type ++ "\",\"parts\":[]\x7d"

/-- The index of a record whose type is in capital letters. -/
def inCapitals : Index := { name := "by_text", type := some " FULLTEXT " }

/-- The two records of the guest book are read with the types that stand in them. -/
theorem recordIn?_record :
    recordIn? (record "fulltext") = some (.recorded "fulltext", byText) ∧
      recordIn? (record " FULLTEXT ") = some (.recorded " FULLTEXT ", inCapitals) := by
  decide +kernel

/-- The setter gives the index of the first record from a text in mixed case. -/
theorem obtained_byText : Obtained (.given " FullText ") byText :=
  .withType (.new "by_text") " FullText "

end Guestbook

open Guestbook

/-- The index of an element and that of a record are the same, and their type is known. -/
theorem guestbook_types_exact :
    Obtained (.given " FullText ") byText ∧
      Document.ofXml {} "guestbook.xml" xml = .ok (document, ⟨1⟩) ∧
      recordIn? (record "fulltext") = some (.recorded "fulltext", byText) ∧
      (∃ b : Body, b.tags = (scan xml).events.flatMap Event.tags ∧
        ∀ i ∈ document.allIndexes, i.HasNormalType ∧ ∃ node ∈ b.named "index", ∃ attributes,
          node.attributes = .ok attributes ∧ Obtained (.ofAttributes attributes) i) ∧
      byText.HasNormalType ∧
      Mysql.indexDefinition byText = Mysql.definitionOfKind "FULLTEXT" byText ∧
      byText.same byText ∧ closings " FullText " = closings "fulltext" := by
  have hdocument : Document.ofXml {} "guestbook.xml" xml = .ok (document, ⟨1⟩) := by
    decide +kernel
  have hrecord := obtained_of_recordIn? recordIn?_record.1
  have hrecorded : Text.IsNormal "fulltext" := by decide +kernel
  have hcase : lowercase (trim " FullText ") = lowercase (trim "fulltext") := by decide
  have hkind : eqIgnoringCase (trim " FullText ") "FULLTEXT" = true := by
    rw [eqIgnoringCase, beq_iff_eq, ← String.toList_inj, toList_lowerAscii, toList_lowerAscii]
    decide
  have hletters : SameLetters " FullText " "fulltext" := by decide
  obtain ⟨hnormal, hkinds, hpairs, hdocuments, -⟩ := types_exact obtained_byText
  obtain ⟨hsame, hclosings⟩ := hpairs hrecord
  exact ⟨obtained_byText, hdocument, recordIn?_record.1, hdocuments hdocument, hnormal.mpr trivial,
    (hkinds "FULLTEXT" (by decide)).mpr ⟨trivial, hkind⟩,
    hsame.mpr ⟨rfl, rfl, .inr ⟨trivial, hrecorded, hcase⟩⟩, (hclosings hletters).mp hcase⟩

/-- **A record whose type is not normal:** its index is kept apart from one whose type was set to a
text that differs in case only, and it is not known as a full-text index. -/
theorem guestbook_types_apart :
    recordIn? (record " FULLTEXT ") = some (.recorded " FULLTEXT ", inCapitals) ∧
      Obtained (.recorded " FULLTEXT ") inCapitals ∧ Obtained (.given " FullText ") byText ∧
      inCapitals = { byText with type := some " FULLTEXT " } ∧
      SameLetters " FULLTEXT " " FullText " ∧ inCapitals.same byText = false ∧
      Mysql.indexDefinition byText = "FULLTEXT INDEX \x60by_text\x60 ()" ∧
      Mysql.indexDefinition inCapitals = "INDEX \x60by_text\x60 () USING  FULLTEXT " ∧
      ¬ inCapitals.HasNormalType ∧
      ¬ ∀ (origin : TypeOrigin) (i : Index), Obtained origin i → i.HasNormalType := by
  have hrecord := obtained_of_recordIn? recordIn?_record.2
  have hnormal : ¬ inCapitals.HasNormalType := fun hnormal =>
    absurd (hnormal _ rfl) (by decide)
  exact ⟨recordIn?_record.2, hrecord, obtained_byText, rfl, by decide, by decide,
    by decide, by decide, hnormal, fun hall => hnormal (hall _ _ hrecord)⟩

end Index

end Schemata
