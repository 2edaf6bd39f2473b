import Mathlib.Tactic.Ring
import Schemata.Model.Exchange
import Schemata.Proofs.Json.ReadBack
import Schemata.Proofs.Model.Relinking

/-!
# Models in JSON and back

A record of an entity or of an extension is read back as what was written, without its links: every
part reads back by itself, lists part by part.  Since links are not written either, what was read
back is written as the same text again.

* `EntityId.ofText?_text` - an identity is read back from its digits;
* `Members.ofSlots?_toJson` - the members of an entity or an extension are read back;
* `Entity.ofJson?_toJson`, `Extension.ofJson?_toJson` - so are both as a whole;
* `round_trip_exact` - both forms of the text, there and back and there again.
-/

namespace Schemata

open Json

namespace EntityId

/-- Behind a value that has been read, digits are read as the number that they write. -/
theorem foldlM_hexDigits (count n value : Nat) :
    (hexDigits count n).foldlM (fun value c => (Text.digitOf 16 c).map (value * 16 + ·)) value =
      some (value * 16 ^ count + n % 16 ^ count) := by
  induction count generalizing value with
  | zero => simp [hexDigits, Nat.mod_one]
  | succ count ih =>
    have hdigit : n / 16 ^ count % 16 < 16 := Nat.mod_lt _ (by decide)
    rw [hexDigits, List.foldlM_cons, Nat.pow_eq, Text.digitOf_digitChar hdigit, Option.map_some,
      Option.bind_eq_bind, Option.bind_some, ih, Nat.pow_succ, Nat.mod_mul]
    congr 1
    ring

/-- An id is written in 36 characters. -/
theorem length_text (id : EntityId) : id.text.toList.length = 36 := by
  simp [text, joinGroups, groupLengths, length_hexDigits]

/-- **An identity is read back from its digits.** -/
theorem ofText?_text (id : EntityId) : ofText? id.text = some id := by
  have hgroups : digitsOf? id.text.toList = some (hexDigits 32 id.bits.toNat) := by
    unfold digitsOf?
    rw [length_text, if_neg (by decide), if_pos rfl, text, String.toList_ofList]
    exact readGroups_joinGroups _ _ (by rw [length_hexDigits]; rfl)
  have hnumber : readHex (hexDigits 32 id.bits.toNat) = some id.bits.toNat := by
    have hbits : id.bits.toNat < 16 ^ 32 := id.bits.isLt
    rw [readHex, foldlM_hexDigits, Nat.zero_mul, Nat.zero_add, Nat.mod_eq_of_lt hbits]
  rw [ofText?, hgroups, Option.bind_some, hnumber, Option.map_some, ofNat, BitVec.ofNat_toNat,
    BitVec.setWidth_eq]

end EntityId

/-- **A list is read back part by part.** -/
theorem Json.listOf?_list {α : Type} {make : α → Json} {read : Json → Option α} {f : α → α}
    (h : ∀ x, read (make x) = some (f x)) (xs : List α) :
    listOf? read (Json.list make xs) = some (xs.map f) := by
  rw [listOf?, Json.list, items?, Option.bind_eq_bind, Option.bind_some]
  induction xs with
  | nil => rfl
  | cons x xs ih => rw [List.map_cons, List.mapM_cons, h, ih]; rfl

/-- A list is read back if each of its elements is. -/
theorem Json.listOf?_list_self {α : Type} {make : α → Json} {read : Json → Option α}
    (h : ∀ x, read (make x) = some x) (xs : List α) :
    listOf? read (Json.list make xs) = some xs := by
  simpa using listOf?_list (f := id) h xs

/-- An optional text is read back, present or not. -/
theorem Json.optional_textOrNull (s : Option String) :
    optional text? (.given (textOrNull s)) = some s := by
  cases s <;> rfl

/-- A reference is read back as it was declared. -/
theorem Reference.ofJson?_toJson (r : Reference) : ofJson? r.toJson = some r.declared := by
  have hslots : slots? parts r.toJson = some [.given (.string r.name),
      .given (.string r.foreignClass), .given (.string r.constraint),
      .given (.string r.onDelete.jsonWord), .given (.string r.onUpdate.jsonWord),
      .given (Json.list Mapping.toJson r.mappings), .given (.bool r.required)] := rfl
  simp only [ofJson?, hslots, mandatory, text?, bool?, word?,
    listOf?_list_self Mapping.ofJson?_toJson, ReferentialAction.ofJsonWord?_jsonWord,
    Option.bind_eq_bind, Option.bind_some]
  rfl

namespace IndexPart

/-- A column length is read back. -/
theorem length?_nat (n : UInt32) : length? (Json.nat n.toNat) = some n := by
  have hsize : n.toNat < UInt32.size := n.toNat_lt_size
  simp only [length?, nat?_nat, Option.bind_eq_bind, Option.bind_some, if_pos hsize]
  simp

/-- A part of an index is read back without its link. -/
theorem ofJson?_toJson (p : IndexPart) : ofJson? p.toJson = some { p with linked := none } := by
  have hslots : slots? ["column", "sort_order", "length"] p.toJson = some [
      .given (.string p.name), .given (textOrNull (p.sortOrder.map (·.jsonWord))),
      .given (orNull (p.length.map fun n => Json.nat n.toNat))] := rfl
  have horder : optional (word? SortOrder.ofJsonWord?)
      (.given (textOrNull (p.sortOrder.map (·.jsonWord)))) = some p.sortOrder := by
    cases p.sortOrder with
    | none => rfl
    | some o => cases o <;> rfl
  have hlength : optional length?
      (.given (orNull (p.length.map fun n => Json.nat n.toNat))) = some p.length := by
    cases p.length with
    | none => rfl
    | some n =>
      have hread : optional length? (.given (Json.nat n.toNat)) =
          (length? (Json.nat n.toNat)).map some := rfl
      rw [Option.map_some, orNull, Option.getD_some, hread, length?_nat, Option.map_some]
  simp only [ofJson?, hslots, mandatory, text?, horder, hlength, Option.bind_eq_bind,
    Option.bind_some]
  rfl

end IndexPart

/-- An index is read back as it was declared. -/
theorem Index.ofJson?_toJson (i : Index) : ofJson? i.toJson = some i.declared := by
  have hslots : slots? ["name", "is_unique", "index_type", "parts"] i.toJson = some [
      .given (.string i.name), .given (.bool i.unique), .given (textOrNull i.type),
      .given (Json.list IndexPart.toJson i.parts)] := rfl
  simp only [ofJson?, hslots, mandatory, text?, bool?, optional_textOrNull,
    listOf?_list IndexPart.ofJson?_toJson, Option.bind_eq_bind, Option.bind_some]
  rfl

namespace CollectorKind

/-- A record is read by the tag in front of it, if the other parts can be held back. -/
theorem ofJson?_tagged {level : Nat} (tag : String) {others : List (String × Json)}
    (h : ∀ field ∈ others, field.1 ≠ "type" ∧ field.2.fits (level + 1) = true) :
    ofJson? level (.object (("type", .string tag) :: others)) = ofTagged? tag (.object others) := by
  have hnone : others.filter (·.1 == "type") = [] :=
    List.filter_eq_nil_iff.mpr fun field hfield => by simpa using (h field hfield).1
  have hothers : others.filter (·.1 != "type") = others :=
    List.filter_eq_self.mpr fun field hfield => by simpa using (h field hfield).1
  have hfits : others.all (·.2.fits (level + 1)) = true :=
    List.all_eq_true.mpr fun field hfield => (h field hfield).2
  have hslot : slotOf (("type", .string tag) :: others) "type" = some (.given (.string tag)) := by
    rw [slotOf, List.filter_cons_of_pos (by rfl), hnone]
  simp only [ofJson?, hslot, Option.bind_eq_bind, Option.bind_some]
  rw [List.filter_cons_of_neg (by simp), hothers, if_pos hfits]

/-- A kind is read back, unless it is nested as deeply as anything may be. -/
theorem ofJson?_toJson {level : Nat} (h : level + 1 ≤ depthLimit) (kind : CollectorKind) :
    ofJson? level kind.toJson = some kind := by
  cases kind with
  | oneToMany foreignClass reference =>
    rw [toJson, ofJson?_tagged _ (by simp [fits_text h])]
    rfl
  | manyToMany foreignClass mappingClass reference =>
    rw [toJson, ofJson?_tagged _ (by simp [fits_text h])]
    rfl

end CollectorKind

/-- A collector is read back as it was declared, unless it lies too deep in the document. -/
theorem Collector.ofJson?_toJson {level : Nat} (h : level + 2 ≤ depthLimit) (c : Collector) :
    ofJson? level c.toJson = some c.declared := by
  have hslots : slots? ["name", "kind"] c.toJson =
      some [.given (.string c.name), .given c.kind.toJson] := rfl
  simp only [ofJson?, hslots, mandatory, text?, CollectorKind.ofJson?_toJson h,
    Option.bind_eq_bind, Option.bind_some]
  rfl

namespace Members

/-- The members without their links. -/
def unlinked (m : Members) : Members :=
  { m with
    references := m.references.map (·.declared)
    indexes := m.indexes.map (·.declared)
    collectors := m.collectors.map (·.declared) }

/-- **The members of an entity or an extension are read back,** without their links. -/
theorem ofSlots?_toJson (m : Members) :
    ofSlots? (.given (Json.list Attribute.toJson m.attributes))
      (.given (Json.list Reference.toJson m.references))
      (.given (Json.list Index.toJson m.indexes))
      (.given (Json.list Collector.toJson m.collectors)) = some m.unlinked := by
  -- Collectors stand inside a list inside a record, which leaves their kinds room enough.
  have hcollectors : listOf? (Collector.ofJson? 2) (Json.list Collector.toJson m.collectors) =
      some (m.collectors.map (·.declared)) :=
    listOf?_list (Collector.ofJson?_toJson (by decide)) m.collectors
  simp only [ofSlots?, mandatory, listOf?_list_self Attribute.ofJson?_toJson,
    listOf?_list Reference.ofJson?_toJson, listOf?_list Index.ofJson?_toJson, hcollectors,
    Option.bind_eq_bind, Option.bind_some]
  rfl

/-- Links are not written. -/
theorem toFields_unlinked (m : Members) : m.unlinked.toFields = m.toFields := by
  have hparts : ∀ i : Index, i.declared.toJson = i.toJson := by
    intro i
    simp [Index.toJson, Index.declared, Json.list, IndexPart.toJson]
  simp only [toFields, unlinked, Json.list, List.map_map, Function.comp_def, hparts]
  rfl

end Members

namespace Entity

/-- The entity that a text holds. -/
def ofText? (s : String) : Option Entity := (parse? s).bind ofJson?

/-- **An entity is read back from its record,** without its links. -/
theorem ofJson?_toJson (e : Entity) : ofJson? e.toJson = some e.unlinked := by
  have hslots : slots? (["id", "class_name", "namespace", "table"] ++ Members.parts
      ++ ["has_changed_since_last_generation"]) e.toJson = some [
      .given (.string e.id.text), .given (.string e.className),
      .given (textOrNull e.nameSpace), .given (.string e.table),
      .given (Json.list Attribute.toJson e.attributes),
      .given (Json.list Reference.toJson e.references),
      .given (Json.list Index.toJson e.indexes),
      .given (Json.list Collector.toJson e.collectors), .given (.bool e.changed)] := rfl
  simp only [ofJson?, hslots, Members.ofSlots?_toJson, mandatory, defaulted, id?, text?, bool?,
    EntityId.ofText?_text, optional_textOrNull, Option.bind_eq_bind, Option.bind_some]
  rfl

/-- Links are not written. -/
theorem toJson_unlinked (e : Entity) : e.unlinked.toJson = e.toJson := by
  have hfields : e.unlinked.toMembers.toFields = e.toMembers.toFields :=
    Members.toFields_unlinked e.toMembers
  rw [toJson, hfields]
  rfl

end Entity

namespace Extension

/-- The extension without its links. -/
def unlinked (x : Extension) : Extension := { x with toMembers := x.toMembers.unlinked }

/-- The extension that a text holds. -/
def ofText? (s : String) : Option Extension := (parse? s).bind ofJson?

/-- **An extension is read back from its record,** without its links. -/
theorem ofJson?_toJson (x : Extension) : ofJson? x.toJson = some x.unlinked := by
  have hslots : slots? (["class_name"] ++ Members.parts
      ++ ["has_changed_since_last_generation"]) x.toJson = some [
      .given (.string x.className), .given (Json.list Attribute.toJson x.attributes),
      .given (Json.list Reference.toJson x.references),
      .given (Json.list Index.toJson x.indexes),
      .given (Json.list Collector.toJson x.collectors), .given (.bool x.changed)] := rfl
  simp only [ofJson?, hslots, Members.ofSlots?_toJson, mandatory, defaulted, text?, bool?,
    Option.bind_eq_bind, Option.bind_some]
  rfl

/-- Links are not written. -/
theorem toJson_unlinked (x : Extension) : x.unlinked.toJson = x.toJson := by
  rw [toJson, unlinked, Members.toFields_unlinked]
  rfl

end Extension

/-! ### Records are plain -/

attribute [simp] Plain.null Plain.bool Plain.nat Plain.string

/-- An optional text is written as plain JSON. -/
@[simp] theorem Json.plain_textOrNull (s : Option String) : Plain (textOrNull s) := by
  cases s with
  | none => exact .null
  | some s => exact .string s

/-- A list of plain values is plain. -/
theorem Json.plain_list {α : Type} {make : α → Json} (h : ∀ x, Plain (make x)) (xs : List α) :
    Plain (Json.list make xs) := by
  refine .array fun item hitem => ?_
  obtain ⟨x, _, rfl⟩ := List.mem_map.mp hitem
  exact h x

theorem Attribute.plain_toJson (a : Attribute) : Plain a.toJson := .object (by simp)

theorem Mapping.plain_toJson (m : Mapping) : Plain m.toJson := .object (by simp)

theorem Reference.plain_toJson (r : Reference) : Plain r.toJson :=
  .object (by simp [plain_list Mapping.plain_toJson])

theorem IndexPart.plain_toJson (p : IndexPart) : Plain p.toJson := by
  refine .object ?_
  cases p.length <;> simp [orNull]

theorem Index.plain_toJson (i : Index) : Plain i.toJson :=
  .object (by simp [plain_list IndexPart.plain_toJson])

theorem CollectorKind.plain_toJson (kind : CollectorKind) : Plain kind.toJson := by
  cases kind <;> exact .object (by simp)

theorem Collector.plain_toJson (c : Collector) : Plain c.toJson :=
  .object (by simp [CollectorKind.plain_toJson])

/-- A record of members is plain if what stands around the members is. -/
theorem Members.plain_record (m : Members) {front back : List (String × Json)}
    (hfront : ∀ field ∈ front, Plain field.2) (hback : ∀ field ∈ back, Plain field.2) :
    Plain (.object (front ++ m.toFields ++ back)) := by
  have hmembers : ∀ field ∈ m.toFields, Plain field.2 := by
    simp [toFields, plain_list Attribute.plain_toJson, plain_list Reference.plain_toJson,
      plain_list Index.plain_toJson, plain_list Collector.plain_toJson]
  exact .object (List.forall_mem_append.mpr ⟨List.forall_mem_append.mpr ⟨hfront, hmembers⟩, hback⟩)

/-- The record of an entity is plain JSON, so its text can be read. -/
theorem Entity.plain_toJson (e : Entity) : Plain e.toJson :=
  e.toMembers.plain_record (by simp) (by simp)

/-- The record of an extension is plain JSON, so its text can be read. -/
theorem Extension.plain_toJson (x : Extension) : Plain x.toJson :=
  x.toMembers.plain_record (by simp) (by simp)

/-! ### There and back -/

/-- Both texts of an entity, compact and pretty, are read back as the entity without its links. -/
theorem Entity.ofText?_toJson (e : Entity) :
    ofText? e.toJson.compact = some e.unlinked ∧ ofText? e.toJson.pretty = some e.unlinked := by
  simp only [ofText?, e.plain_toJson.parse?_compact, e.plain_toJson.parse?_pretty,
    Option.bind_some, ofJson?_toJson, and_self]

/-- Both texts of an extension are read back as the extension without its links. -/
theorem Extension.ofText?_toJson (x : Extension) :
    ofText? x.toJson.compact = some x.unlinked ∧ ofText? x.toJson.pretty = some x.unlinked := by
  simp only [ofText?, x.plain_toJson.parse?_compact, x.plain_toJson.parse?_pretty,
    Option.bind_some, ofJson?_toJson, and_self]

/-- **There, back and there again:** from either form of its text an entity or an extension is read
back as it was, but for its links, and what was read back is written as the same text. -/
theorem round_trip_exact (e : Entity) (x : Extension) :
    (Entity.ofText? e.toJson.compact = some e.unlinked ∧
      Entity.ofText? e.toJson.pretty = some e.unlinked ∧
      e.unlinked.toJson.compact = e.toJson.compact ∧
      e.unlinked.toJson.pretty = e.toJson.pretty) ∧
    (Extension.ofText? x.toJson.compact = some x.unlinked ∧
      Extension.ofText? x.toJson.pretty = some x.unlinked ∧
      x.unlinked.toJson.compact = x.toJson.compact ∧
      x.unlinked.toJson.pretty = x.toJson.pretty) := by
  obtain ⟨hcompact, hpretty⟩ := e.ofText?_toJson
  obtain ⟨hcompact', hpretty'⟩ := x.ofText?_toJson
  rw [e.toJson_unlinked, x.toJson_unlinked]
  exact ⟨⟨hcompact, hpretty, rfl, rfl⟩, hcompact', hpretty', rfl, rfl⟩

end Schemata
