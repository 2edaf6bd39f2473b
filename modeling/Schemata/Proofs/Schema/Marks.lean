import Schemata.Proofs.Generation.KeptFiles
import Schemata.Proofs.Model.Relinking
import Schemata.Proofs.Schema.Merging

/-!
# Marks do not show in what is found

Whether a schema file has changed since the last generation decides what is generated of it, and
nothing else.  A document with everything in it marked as changed becomes a model exactly if the
document does, with the same failure otherwise, and the same faults are found on the linked model.

* `toModel_markChanged` - the model of a document whose marks are set;
* `validate_linkAll_renewed` - linking and validating do not look at marks;
* `findings_bind_congr` - what is found on documents that differ in their marks alone.
-/

namespace Schemata

namespace DataModel

variable {m : DataModel}

/-- What has changed does not matter for names. -/
theorem find?_renewed (m : DataModel) (name : String) :
    m.renewed.find? name = (m.find? name).map Entity.renewed :=
  find?_of_map (m := m) (g := Entity.renewed) rfl (fun _ => rfl) (fun _ => rfl) name

/-- Whether an entity is registered does not depend on marks. -/
theorem register_renewed (m : DataModel) (e : Entity) :
    m.renewed.register e.renewed = (m.register e).map renewed := by
  have hclass : m.renewed.entities.any (·.fullName == e.renewed.fullName) =
      m.entities.any (·.fullName == e.fullName) := List.any_map ..
  have htable : m.renewed.entities.any (·.table == e.renewed.table) =
      m.entities.any (·.table == e.table) := List.any_map ..
  have hopen : m.renewed.linked = m.linked := rfl
  rw [register, register, hopen, hclass, htable]
  split
  · rfl
  · split
    · rfl
    · split
      · rfl
      · simp [Except.map, renewed]

/-- An extension with its mark set extends what it extends without. -/
theorem extend_renewed (m : DataModel) (x : Extension) :
    m.renewed.extend { x with changed := true } = (m.extend x).map renewed := by
  have hopen : m.renewed.linked = m.linked := rfl
  rw [extend, extend, hopen, find?_renewed]
  split
  · rfl
  · cases m.find? x.className with
    | none => rfl
    | some found =>
      have hentity (e : Entity) :
          (if e.renewed.fullName = found.renewed.fullName then
              e.renewed.extend { x with changed := true } else e.renewed) =
            (if e.fullName = found.fullName then e.extend x else e).renewed := by
        by_cases hname : e.fullName = found.fullName
        · have hsame : e.renewed.fullName = found.renewed.fullName := hname
          rw [if_pos hname, if_pos hsame]
          rfl
        · have hother : e.renewed.fullName ≠ found.renewed.fullName := hname
          rw [if_neg hname, if_neg hother]
      simp only [Option.map_some, Except.map, renewed, List.map_map, Function.comp_def, hentity]

/-- A reference is looked up without regard to marks. -/
theorem lookUp_renewed (m : DataModel) (r : Reference) : r.lookUp m.renewed = r.lookUp m := by
  rw [Reference.lookUp, Reference.lookUp, find?_renewed]
  cases m.find? r.foreignClass with
  | none => rfl
  | some foreign =>
    have hcolumns := Reference.linkColumns_of_attributes r.foreignClass
      (show foreign.renewed.attributes = foreign.attributes from rfl) r.mappings
    simp only [Option.map_some, hcolumns]
    rfl

/-- A collector is bound without regard to marks. -/
theorem bindIn_renewed (m : DataModel) (c : Collector) : c.bindIn m.renewed = c.bindIn m := by
  have hlink (found : Option Entity) (className : String) :
      Collector.entityLink (found.map Entity.renewed) className =
        Collector.entityLink found className := by cases found <;> rfl
  have hreference (holder : Option Entity) (missing : CollectorProblem) (reference : String) :
      Collector.referenceLink (holder.map Entity.renewed) missing reference =
        Collector.referenceLink holder missing reference := by cases holder <;> rfl
  unfold Collector.bindIn
  split <;> simp only [find?_renewed, hlink, hreference]

/-- What has changed does not matter for links. -/
theorem entities_linkAll_renewed (m : DataModel) :
    m.renewed.linkAll.entities = m.linkAll.entities.map Entity.renewed := by
  have hentity (e : Entity) : e.renewed.linkedIn m.renewed = (e.linkedIn m).renewed := by
    have hreference (r : Reference) : Reference.linkIn m.renewed r = Reference.linkIn m r := by
      rw [Reference.linkIn, Reference.linkIn, lookUp_renewed]
    have hcollector (c : Collector) : Collector.linkIn m.renewed.linkReferences c =
        Collector.linkIn m.linkReferences c := by
      rw [Collector.linkIn, Collector.linkIn, (relinkedBy_linkReferences _).bindIn, bindIn_renewed,
        (relinkedBy_linkReferences m).bindIn]
    rw [Entity.linkedIn_eq, Entity.linkedIn_eq, funext hreference, funext hcollector]
    rfl
  rw [entities_linkAll, entities_linkAll, renewed, List.map_map, List.map_map]
  exact List.map_congr_left fun e _ => hentity e

/-- **What is found on the linked model** does not depend on what has changed. -/
theorem validate_linkAll_renewed (m : DataModel) :
    m.renewed.linkAll.validate = m.linkAll.validate := by
  have hfaults : m.renewed.linkAll.faults = m.linkAll.faults := by
    rw [faults, entities_linkAll_renewed, List.flatMap_map]
    rfl
  rw [validate_linked (linked_linkAll _), validate_linked (linked_linkAll _), hfaults]

end DataModel

namespace Document

/-- Of two marks, the last one counts. -/
theorem markChanged_markChanged (first last : Bool) (d : Document) :
    (d.markChanged first).markChanged last = d.markChanged last := by
  simp [markChanged]

/-- Documents may be marked before or after they are merged. -/
theorem markChanged_merge (changed : Bool) (d d' : Document) :
    (d.merge d').markChanged changed = (d.markChanged changed).merge (d'.markChanged changed) := by
  simp [markChanged, merge]

/-- Entities with all marks set are registered as they would be without. -/
theorem registerAll_renewed (m : DataModel) (es : List Entity) :
    registerAll m.renewed (es.map Entity.renewed) = (registerAll m es).map DataModel.renewed := by
  induction es generalizing m with
  | nil => rfl
  | cons e rest ih =>
    rw [List.map_cons, registerAll_cons, registerAll_cons, DataModel.register_renewed]
    cases m.register e with
    | ok n => exact ih n
    | error failure => rfl

/-- Extensions with all marks set are merged as they would be without. -/
theorem extendAll_renewed (m : DataModel) (xs : List Extension) :
    extendAll m.renewed (xs.map fun x => { x with changed := true }) =
      (extendAll m xs).map DataModel.renewed := by
  induction xs generalizing m with
  | nil => rfl
  | cons x rest ih =>
    rw [List.map_cons, extendAll_cons, extendAll_cons, DataModel.extend_renewed]
    cases m.extend x with
    | ok n => exact ih n
    | error failure => rfl

/-- **The model of a document whose marks are set** is that of the document, with its marks set. -/
theorem toModel_markChanged (d : Document) :
    (d.markChanged true).toModel = d.toModel.map DataModel.renewed := by
  have hbind (d : Document) : d.toModel =
      (registerAll {} d.entities).bind fun m => extendAll m d.extensions := rfl
  have hregister : registerAll {} (d.markChanged true).entities =
      (registerAll {} d.entities).map DataModel.renewed := registerAll_renewed {} d.entities
  rw [hbind, hbind, hregister]
  cases registerAll {} d.entities with
  | ok m => exact extendAll_renewed m d.extensions
  | error failure => rfl

/-- **Documents that differ in their marks alone** become models on which the same is found, or fail
in the same way. -/
theorem findings_bind_congr {r r' : Except Failure Document}
    (h : r.map (·.markChanged true) = r'.map (·.markChanged true)) :
    (r.bind toModel).map (·.linkAll.validate) = (r'.bind toModel).map (·.linkAll.validate) := by
  have hmarked (r : Except Failure Document) : (r.bind toModel).map (·.linkAll.validate) =
      ((r.map (·.markChanged true)).bind toModel).map (·.linkAll.validate) := by
    cases r with
    | error failure => rfl
    | ok d =>
      change d.toModel.map _ = (d.markChanged true).toModel.map _
      rw [toModel_markChanged]
      cases d.toModel with
      | ok m => exact congrArg Except.ok m.validate_linkAll_renewed.symm
      | error failure => rfl
  rw [hmarked r, hmarked r', h]

end Document

end Schemata
