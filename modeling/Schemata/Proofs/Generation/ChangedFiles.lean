import Schemata.Proofs.Generation.OutputPaths
import Schemata.Proofs.Model.Placement
import Schemata.Proofs.Model.Relinking
import Schemata.Proofs.Schema.Merging

/-!
# The files of changed entities

A schema file is marked when it has changed since the last generation, and what it declares or
extends is marked with it.  The marks survive merging and linking, and decide which model files are
written.  The file that declares the modules does not look at them: it names every entity.

* `changed_linkAll_iff` - which entities of the linked model are changed;
* `exportedPaths_moduleFile` - what the file that declares the modules exports;
* `modelFiles_exact` - the source files of merged schema files, in their order.
-/

namespace Schemata

namespace Document

/-- Extensions leave classes and tables as they are. -/
theorem Consistent.apart_assembled {d : Document} (h : d.Consistent) : d.assembled.Apart := by
  have hfullNames : d.assembled.entities.map (·.fullName) = d.entities.map (·.fullName) := by
    rw [assembled, List.map_map]
    exact List.map_congr_left fun e _ => DataModel.fullName_of_label (d.label_complete e)
  have htables : d.assembled.entities.map (·.table) = d.entities.map (·.table) := by
    rw [assembled, List.map_map]
    exact List.map_congr_left fun e _ => DataModel.table_of_label (d.label_complete e)
  exact ⟨hfullNames ▸ h.apart.fullNames, htables ▸ h.apart.tables⟩

end Document

namespace Source

open Document

/-- **Linking keeps the marks:** an entity of the linked model is changed exactly if a changed
source declares or extends it. -/
theorem changed_linkAll_iff {ss : List Source} {m : DataModel} (h : (merged ss).toModel = .ok m)
    {e : Entity} (he : e ∈ m.linkAll.entities) :
    e.changed = true ↔
      ∃ s ∈ ss, s.changed = true ∧ (s.Declares e ∨ s.Extends m.linkAll e) := by
  obtain ⟨hconsistent, rfl⟩ := toModel_eq_ok_iff.mp h
  rw [DataModel.entities_linkAll] at he
  obtain ⟨own, hown, rfl⟩ := List.mem_map.mp he
  have hlabel (f : Entity) : (f.linkedIn (merged ss).assembled).label = f.label := rfl
  have hfinds (name : String) :
      (merged ss).assembled.linkAll.find? name = some (own.linkedIn (merged ss).assembled) ↔
        (merged ss).assembled.find? name = some own := by
    rw [(DataModel.relinkedBy_linkAll (merged ss).assembled).find?]
    exact hconsistent.apart_assembled.map_find?_eq_some_iff hlabel hown name
  have hdeclares (s : Source) :
      s.Declares (own.linkedIn (merged ss).assembled) ↔ s.Declares own := Iff.rfl
  have hextends (s : Source) :
      s.Extends (merged ss).assembled.linkAll (own.linkedIn (merged ss).assembled) ↔
        s.Extends (merged ss).assembled own := by
    simp only [Extends, hfinds]
  simp only [hdeclares, hextends]
  exact changed_iff hconsistent hown

end Source

namespace Generation

open Text

/-- What a source file exports, each on a line of its own: a type and the module that it is in. -/
def exportedPaths (content : String) : List String :=
  (lines content).filterMap fun line => (inside? "pub use " ";" line).map String.ofList

/-- **What is exported** is the structure of every entity, from the module of the entity. -/
theorem exportedPaths_moduleFile (es : List Entity) :
    exportedPaths (moduleFile es).content =
      es.map fun e => moduleName e ++ "::" ++ structName e := by
  have hdeclaration (e : Entity) : inside? "pub use " ";" (declaration e) = none := by
    rw [declaration, String.append_assoc]
    exact inside?_eq_none openings_differ.1.symm openings_differ.2.symm _ _
  have hexportation (e : Entity) : inside? "pub use " ";" (exportation e) =
      some (moduleName e ++ "::" ++ structName e).toList := inside?_eq _ _ _
  rw [exportedPaths, lines_moduleFile, filterMap_moduleFileLines (by decide_cbv)]
  simp only [hdeclaration, hexportation, Option.map_none, Option.map_some, String.ofList_toList]
  simp

open Source in
/-- **Source files follow the marks.**  The first file declares the modules and exports the
structures of all entities, each once and in dependency order, whatever is marked.  Behind it comes
one model file for each entity that a changed schema file declares or extends, in dependency order,
and for no other entity. -/
theorem modelFiles_exact {ss : List Source} {m : DataModel} (hm : (merged ss).toModel = .ok m)
    (hids : (m.entities.map (·.id)).Nodup) :
    m.linkAll.dependencyOrder.Nodup ∧ m.linkAll.dependencyOrder.Perm m.linkAll.entities ∧
    ∃ (first : GeneratedFile) (es : List Entity),
      modelFiles m.linkAll = first :: es.map (modelFile m.linkAll) ∧
      first.path = "src/models/mod.rs" ∧
      declaredModules first.content = m.linkAll.dependencyOrder.map moduleName ∧
      exportedPaths first.content =
        (m.linkAll.dependencyOrder.map fun e => moduleName e ++ "::" ++ structName e) ∧
      es.Sublist m.linkAll.dependencyOrder ∧
      ∀ e, e ∈ es ↔ e ∈ m.linkAll.entities ∧
        ∃ s ∈ ss, s.changed = true ∧ (s.Declares e ∨ s.Extends m.linkAll e) := by
  have hlinked : (m.linkAll.entities.map (·.id)).Nodup := by
    rw [DataModel.ids_linkAll]
    exact hids
  have hperm := DataModel.dependencyOrder_perm hlinked
  refine ⟨hperm.nodup_iff.mpr (hlinked.of_map _), hperm, moduleFile m.linkAll.dependencyOrder,
    changedEntities m.linkAll, rfl, rfl, declaredModules_moduleFile _, exportedPaths_moduleFile _,
    List.filter_sublist, fun e => ?_⟩
  rw [changedEntities, List.mem_filter, hperm.mem_iff]
  exact and_congr_right fun he => changed_linkAll_iff hm he

end Generation

namespace Archive

/-- Shelves, which stand in rooms. -/
def shelf : Entity :=
  { id := .ofNat 1, className := "Shelf", nameSpace := some "Archive", table := "shelves",
    attributes := [.identity],
    references := [({ name := "room", foreignClass := "Room" } : Reference).withDefaultMapping
      "id"] }

def room : Entity :=
  { id := .ofNat 2, className := "Room", table := "rooms", attributes := [.identity] }

def reader : Entity :=
  { id := .ofNat 3, className := "Reader", table := "readers", attributes := [.identity] }

/-- Shelves, by the full name of their class. -/
def width : Extension :=
  { className := "Archive\\Shelf", attributes := [.plain "width" "INT"] }

/-- The files of the archive.  Only the last one has changed. -/
def files : List Source :=
  [⟨{ entities := [shelf, room] }, false⟩, ⟨{ entities := [reader], extensions := [width] }, true⟩]

def model : DataModel := (Source.merged files).assembled

end Archive

open Archive Generation in
/-- A file declares readers and extends shelves: their model files are written, and that of rooms is
not, though its module is declared. -/
theorem Generation.archive_modelFiles :
    (Source.merged files).toModel = .ok model ∧ (model.entities.map (·.id)).Nodup ∧
    ∃ (first : GeneratedFile) (es : List Entity),
      modelFiles model.linkAll = first :: es.map (modelFile model.linkAll) ∧
      declaredModules first.content = ["room", "reader", "shelf"] ∧
      (∃ e ∈ es, e.className = "Shelf") ∧ (∃ e ∈ es, e.className = "Reader") ∧
      ∀ e ∈ es, e.className ≠ "Room" := by
  have hm : (Source.merged files).toModel = .ok model := by decide
  have hids : (model.entities.map (·.id)).Nodup := by decide
  obtain ⟨-, -, first, es, hfiles, -, hmodules, -, -, hmem⟩ := modelFiles_exact hm hids
  have hchanged (e : Entity) : e ∈ es ↔ e ∈ model.linkAll.entities.filter (·.changed) := by
    rw [hmem, List.mem_filter]
    exact and_congr_right fun he => (Source.changed_linkAll_iff hm he).symm
  refine ⟨hm, hids, first, es, hfiles, hmodules.trans (by decide), ?_⟩
  simp only [hchanged]
  decide

end Schemata
