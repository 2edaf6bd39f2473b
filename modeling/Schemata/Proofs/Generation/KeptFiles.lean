import Schemata.Proofs.Generation.Surroundings
import Schemata.Proofs.Migration.Outcome
import Schemata.Proofs.Model.Placement

/-!
# Model files that are kept

An entity whose own declarations have not changed keeps the model file of the last generation.  That
file may be out of date: it shows other entities too.  It is as a full generation would write it if
the surroundings of the entity are what they were.

* `modelFiles_renewed` - a full generation writes the model file of every entity;
* `modelFile_kept` - with the same declaration and surroundings, the kept file is up to date.
-/

namespace Schemata

/-- The entity as a full generation reads it, which takes everything for changed. -/
def Entity.renewed (e : Entity) : Entity := { e with changed := true }

namespace DataModel

/-- The model as a full generation reads it. -/
def renewed (m : DataModel) : DataModel := { m with entities := m.entities.map Entity.renewed }

variable {m : DataModel}

/-- Marked or not, an entity is found under its identity. -/
theorem entity?_renewed (id : EntityId) :
    m.renewed.entity? id = (m.entity? id).map Entity.renewed := by
  rw [entity?, entity?, renewed, ← List.map_reverse]
  exact List.find?_map ..

/-- An optional identity finds an entity, or none, whatever the marks. -/
theorem bind_entity?_renewed (id : Option EntityId) :
    id.bind m.renewed.entity? = (id.bind m.entity?).map Entity.renewed := by
  cases id with
  | none => rfl
  | some id => exact entity?_renewed id

/-- Whether an identity is placed does not depend on marks. -/
theorem isPlaced_renewed (placed : List Entity) (id : EntityId) :
    isPlaced (placed.map Entity.renewed) id = isPlaced placed id := by
  rw [isPlaced, isPlaced, List.any_map]
  rfl

/-- Whether an entity may be placed does not depend on marks. -/
theorem isReady_renewed (placed : List Entity) (e : Entity) :
    m.renewed.isReady (placed.map Entity.renewed) e.renewed = m.isReady placed e := by
  simp only [isReady, isPlaced_renewed, entity?_renewed, Option.isNone_map]
  rfl

/-- A sweep places the same entities whatever their marks. -/
theorem sweep_renewed (placed es : List Entity) :
    m.renewed.sweep (placed.map Entity.renewed) (es.map Entity.renewed) =
      (m.sweep placed es).map Entity.renewed := by
  induction es generalizing placed with
  | nil => rfl
  | cons e rest ih =>
    have hnext : placed.map Entity.renewed ++ [e.renewed] =
        (placed ++ [e]).map Entity.renewed := by rw [List.map_append, List.map_singleton]
    have hid : e.renewed.id = e.id := rfl
    rw [List.map_cons, sweep, sweep, isPlaced_renewed, isReady_renewed, hid, hnext, ih, ih]
    split <;> rfl

/-- So does any number of sweeps. -/
theorem settle_renewed (rounds : Nat) (placed : List Entity) :
    m.renewed.settle rounds (placed.map Entity.renewed) =
      (m.settle rounds placed).map Entity.renewed := by
  induction rounds generalizing placed with
  | zero => rfl
  | succ rounds ih =>
    have hsweep : m.renewed.sweep (placed.map Entity.renewed) m.renewed.entities =
        (m.sweep placed m.entities).map Entity.renewed := sweep_renewed placed m.entities
    rw [settle, settle, hsweep, ih, List.length_map, List.length_map]
    split <;> rfl

/-- What has changed does not matter for the order. -/
theorem dependencyOrder_renewed :
    m.renewed.dependencyOrder = m.dependencyOrder.map Entity.renewed := by
  have hordered : m.renewed.ordered = m.ordered.map Entity.renewed := by
    have hcount : m.renewed.entities.length = m.entities.length := List.length_map ..
    rw [ordered, ordered, hcount]
    exact settle_renewed m.entities.length []
  have hleft : m.renewed.entities.filter (fun e => !isPlaced m.renewed.ordered e.id) =
      (m.entities.filter fun e => !isPlaced m.ordered e.id).map Entity.renewed := by
    have hentities : m.renewed.entities = m.entities.map Entity.renewed := rfl
    rw [hentities, List.filter_map, hordered]
    refine congrArg _ (List.filter_congr fun e _ => ?_)
    rw [Function.comp_apply, isPlaced_renewed]
    rfl
  rw [dependencyOrder, dependencyOrder, hleft, hordered, List.map_append]

end DataModel

namespace Generation

variable {m m' : DataModel} {e e' : Entity}

/-- Whether a collector is fully linked does not depend on marks. -/
theorem isComplete_renewed (c : Collector) : c.isComplete m.renewed = c.isComplete m := by
  unfold Collector.isComplete
  split
  · rename_i foreign _ _ _
    rw [DataModel.entity?_renewed, DataModel.bind_entity?_renewed]
    cases m.entity? foreign with
    | none => rfl
    | some foreign => cases c.mapping?.bind m.entity? <;> rfl
  · rfl

/-- What shows of a collector does not depend on marks. -/
theorem collectorView?_renewed (owner : Entity) (c : Collector) :
    collectorView? m.renewed owner.renewed c = collectorView? m owner c := by
  rw [collectorView?, collectorView?, isComplete_renewed]
  simp only [Option.bind_eq_bind, DataModel.entity?_renewed, Option.bind_map]
  rfl

/-- What shows of a request does not depend on marks. -/
theorem requestView?_renewed (r : Reciprocal) : requestView? m.renewed r = requestView? m r := by
  simp only [requestView?, Option.bind_eq_bind, DataModel.entity?_renewed, Option.bind_map]
  rfl

/-- What has changed does not show. -/
theorem surroundings_renewed (m : DataModel) (e : Entity) :
    surroundings m.renewed e.renewed = surroundings m e := by
  have hrequests : requestView? m.renewed = requestView? m := funext requestView?_renewed
  have hcollectors : collectorView? m.renewed e.renewed = collectorView? m e :=
    funext (collectorView?_renewed e)
  rw [surroundings, surroundings, hrequests, hcollectors]
  rfl

/-- The file of an entity is the same whatever the marks. -/
theorem modelFile_renewed (m : DataModel) (e : Entity) :
    modelFile m.renewed e.renewed = modelFile m e :=
  modelFile_congr rfl (surroundings_renewed m e)

/-- The module list is the same whatever the marks. -/
theorem moduleFile_renewed (es : List Entity) :
    moduleFile (es.map Entity.renewed) = moduleFile es := by
  rw [moduleFile, moduleFile, List.map_map, List.map_map, List.isEmpty_map]
  rfl

/-- **A full generation writes the model file of every entity.** -/
theorem modelFiles_renewed (m : DataModel) :
    modelFiles m.renewed =
      moduleFile m.dependencyOrder :: m.dependencyOrder.map (modelFile m) := by
  have hall : ∀ es : List Entity,
      (es.map Entity.renewed).filter (·.changed) = es.map Entity.renewed := by
    intro es
    rw [List.filter_eq_self]
    intro e he
    obtain ⟨_, _, rfl⟩ := List.mem_map.mp he
    rfl
  rw [modelFiles, changedEntities, DataModel.dependencyOrder_renewed, moduleFile_renewed, hall,
    List.map_map]
  simp only [Function.comp_def, modelFile_renewed]

/-- No entity has the module that declares the others. -/
theorem moduleName_ne_mod (e : Entity) : moduleName e ≠ "mod" := by
  intro hname
  rw [moduleName] at hname
  cases hkeyword : keywords.contains (Text.snake e.shortName) with
  | true =>
    rw [fieldName_of_keyword hkeyword] at hname
    have hfirst := congrArg (fun name => name.toList.head?) hname
    simp at hfirst
  | false =>
    rw [fieldName_of_plain hkeyword] at hname
    rw [hname] at hkeyword
    exact absurd hkeyword (by decide)

/-- The path of a model file tells the module. -/
theorem module_of_path {name name' : String}
    (h : "src/models/" ++ name ++ ".rs" = "src/models/" ++ name' ++ ".rs") : name = name' :=
  (String.append_right_inj _).mp ((String.append_left_inj _).mp h)

/-- With all marks set, every entity gets its file. -/
theorem modelFile_mem_renewed (hids : (m.entities.map (·.id)).Nodup) (he : e ∈ m.entities) :
    modelFile m e ∈ modelFiles m.renewed := by
  rw [modelFiles_renewed]
  exact List.mem_cons_of_mem _
    (List.mem_map_of_mem ((DataModel.dependencyOrder_perm hids).mem_iff.mpr he))

/-- A full generation leaves no file out. -/
theorem modelFiles_subset_renewed : modelFiles m ⊆ modelFiles m.renewed := by
  intro file hmem
  rw [modelFiles_renewed]
  rcases List.mem_cons.mp hmem with rfl | hother
  · exact List.mem_cons_self
  · obtain ⟨f, hf, rfl⟩ := List.mem_map.mp hother
    exact List.mem_cons_of_mem _ (List.mem_map_of_mem (List.mem_filter.mp hf).1)

/-- An entity that has its module for itself has the path of its model file for itself. -/
theorem eq_modelFile_of_path (hmodule : ∀ f ∈ m.entities, moduleName f = moduleName e → f = e)
    {file : GeneratedFile} (hmem : file ∈ modelFiles m.renewed)
    (hpath : file.path = (modelFile m e).path) : file = modelFile m e := by
  rw [modelFiles_renewed] at hmem
  rcases List.mem_cons.mp hmem with rfl | hother
  · have hmod : "src/models/" ++ "mod" ++ ".rs" = "src/models/" ++ moduleName e ++ ".rs" := hpath
    exact absurd (module_of_path hmod).symm (moduleName_ne_mod e)
  · obtain ⟨f, hf, rfl⟩ := List.mem_map.mp hother
    rw [hmodule f (DataModel.mem_of_mem_dependencyOrder hf) (module_of_path hpath)]

/-- The text at a path after files were written one after the other, with what was there before. -/
def textAfter (path : String) (before : Option String) (files : List GeneratedFile) :
    Option String :=
  files.foldl (fun now file => if file.path = path then some file.content else now) before

/-- Files at other paths leave the text at a path alone. -/
theorem textAfter_of_absent {path : String} {files : List GeneratedFile}
    (h : ∀ file ∈ files, file.path ≠ path) (before : Option String) :
    textAfter path before files = before := by
  induction files with
  | nil => rfl
  | cons file rest ih =>
    rw [List.forall_mem_cons] at h
    rw [textAfter, List.foldl_cons, if_neg h.1]
    exact ih h.2

/-- A file that has its path for itself is found there. -/
theorem textAfter_of_unique {file : GeneratedFile} {files : List GeneratedFile}
    (hmem : file ∈ files) (hunique : ∀ other ∈ files, other.path = file.path → other = file)
    (before : Option String) : textAfter file.path before files = some file.content := by
  induction files generalizing before with
  | nil => cases hmem
  | cons first rest ih =>
    rw [List.forall_mem_cons] at hunique
    rw [textAfter, List.foldl_cons, ← textAfter]
    by_cases hrest : file ∈ rest
    · exact ih hrest hunique.2 _
    · obtain rfl : file = first := (List.mem_cons.mp hmem).resolve_right hrest
      rw [if_pos rfl]
      refine textAfter_of_absent (fun other hother hpath => ?_) _
      exact hrest (hunique.2 other hother hpath ▸ hother)

/-- **A kept model file is up to date** if its entity declares what it declared and shows of other
entities what it showed: a full generation would write the same file.  Where no other entity has the
same module, the file that the last generation left is then, after a generation that writes the
changed entities only, as a full generation leaves it. -/
theorem modelFile_kept (hids : (m'.entities.map (·.id)).Nodup) (he' : e' ∈ m'.entities)
    (hdeclared : e.declared = e'.declared) (hsame : surroundings m e = surroundings m' e') :
    modelFile m e = modelFile m' e' ∧
    ((∀ f ∈ m'.entities, moduleName f = moduleName e' → f = e') → ∀ before,
      textAfter (modelFile m e).path (some (modelFile m e).content) (modelFiles m') =
        textAfter (modelFile m e).path before (modelFiles m'.renewed)) := by
  have hfile := modelFile_congr hdeclared hsame
  refine ⟨hfile, fun hmodule before => ?_⟩
  rw [hfile]
  have hunique : ∀ file ∈ modelFiles m'.renewed,
      file.path = (modelFile m' e').path → file = modelFile m' e' :=
    fun file hmem => eq_modelFile_of_path hmodule hmem
  rw [textAfter_of_unique (modelFile_mem_renewed hids he') hunique]
  by_cases hwritten : modelFile m' e' ∈ modelFiles m'
  · exact textAfter_of_unique hwritten
      (fun file hmem => hunique file (modelFiles_subset_renewed hmem)) _
  · refine textAfter_of_absent (fun file hmem hpath => hwritten ?_) _
    exact hunique file (modelFiles_subset_renewed hmem) hpath ▸ hmem

namespace Lending

/-- The books of a library, by a key of some type. -/
def book (keyType : String) : Entity :=
  { id := .ofNat 1, className := "Book", table := "book",
    attributes := [{ Attribute.identity with type := keyType }] }

/-- Readers, who find the books that are lent to them. -/
def reader : Entity :=
  { id := .ofNat 2, className := "Reader", table := "reader", attributes := [.identity],
    collectors := [{ name := "books", kind := .manyToMany "Book" "Loan" "book" }],
    changed := false }

def loan : Entity :=
  { id := .ofNat 3, className := "Loan", table := "loan", attributes := [.identity],
    references := [.toKey "book" "Book" "loan_book" "book_id",
      .toKey "reader" "Reader" "loan_reader" "reader_id"],
    changed := false }

/-- The library as it is declared. -/
def declared (keyType : String) : DataModel := { entities := [book keyType, reader, loan] }

def model (keyType : String) : DataModel := (declared keyType).linkAll

/-- An entity of the library as it stands in the linked model. -/
def linked (keyType : String) (e : Entity) : Entity := e.linkedIn (declared keyType)

/-- The library is sound with narrow keys. -/
theorem sound_narrow : (model "INT").Sound :=
  .of_entities (by decide) (by decide) (by decide) (by decide)

/-- It is sound with wide keys as well. -/
theorem sound_wide : (model "BIGINT").Sound :=
  .of_entities (by decide) (by decide) (by decide) (by decide)

/-- Each entity of the declared model is one of the linked model, once linked. -/
theorem linked_mem {e : Entity} {keyType : String} (he : e ∈ (declared keyType).entities) :
    linked keyType e ∈ (model keyType).entities := by
  rw [model, DataModel.entities_linkAll]
  exact List.mem_map_of_mem he

/-- Linking leaves what an entity declares. -/
theorem declared_linked (keyType : String) (e : Entity) :
    (linked keyType e).declared = e.declared :=
  e.declared_linkedIn (declared keyType)

end Lending

open Lending

/-- When books get a wider key, loans are declared as they were, and their model file has to change
all the same: the column that points at a book gets wider too.  The kept file does not change. -/
theorem lending_file_outdated :
    (model "INT").Sound ∧ (model "BIGINT").Sound ∧
    linked "INT" loan ∈ (model "INT").entities ∧
    linked "BIGINT" loan ∈ (model "BIGINT").entities ∧
    (linked "INT" loan).declared = (linked "BIGINT" loan).declared ∧
    modelFile (model "INT") (linked "INT" loan) ≠
      modelFile (model "BIGINT") (linked "BIGINT" loan) ∧
    textAfter "src/models/loan.rs" (some (modelFile (model "INT") (linked "INT" loan)).content)
        (modelFiles (model "BIGINT")) ≠
      textAfter "src/models/loan.rs" none (modelFiles (model "BIGINT").renewed) := by
  have hmem : linked "BIGINT" loan ∈ (model "BIGINT").entities := linked_mem (by simp [declared])
  have hcontent : (modelFile (model "INT") (linked "INT" loan)).content ≠
      (modelFile (model "BIGINT") (linked "BIGINT" loan)).content := by decide +kernel
  have hpath : (modelFile (model "BIGINT") (linked "BIGINT" loan)).path = "src/models/loan.rs" := by
    decide +kernel
  have hwritten : (modelFiles (model "BIGINT")).map (·.path) =
      ["src/models/mod.rs", "src/models/book.rs"] := by decide +kernel
  have habsent : ∀ file ∈ modelFiles (model "BIGINT"), file.path ≠ "src/models/loan.rs" := by
    intro file hfile hloan
    have hlisted := List.mem_map_of_mem (f := (·.path)) hfile
    rw [hwritten, hloan] at hlisted
    exact absurd hlisted (by decide)
  have hmodule : ∀ f ∈ (model "BIGINT").entities,
      moduleName f = moduleName (linked "BIGINT" loan) → f = linked "BIGINT" loan := by
    decide +kernel
  have hfull := textAfter_of_unique (modelFile_mem_renewed sound_wide.distinctIds hmem)
    (fun _ hfile => eq_modelFile_of_path hmodule hfile) none
  refine ⟨sound_narrow, sound_wide, linked_mem (by simp [declared]), hmem, ?_,
    fun hsame => hcontent (congrArg (·.content) hsame), ?_⟩
  · rw [declared_linked, declared_linked]
  · rw [textAfter_of_absent habsent, ← hpath, hfull]
    exact fun hsame => hcontent (Option.some.inj hsame)

/-- The same change leaves the model file of readers as it is: their accessor shows columns of books
and loans, but no types. -/
theorem lending_file_kept :
    ((model "BIGINT").entities.map (·.id)).Nodup ∧
    linked "BIGINT" reader ∈ (model "BIGINT").entities ∧
    (linked "INT" reader).declared = (linked "BIGINT" reader).declared ∧
    surroundings (model "INT") (linked "INT" reader) =
      surroundings (model "BIGINT") (linked "BIGINT" reader) ∧
    (accessors (model "BIGINT") (linked "BIGINT" reader)).map (·.name) = ["get_books"] ∧
    modelFile (model "INT") (linked "INT" reader) =
      modelFile (model "BIGINT") (linked "BIGINT" reader) ∧
    ∀ before,
      textAfter "src/models/reader.rs"
          (some (modelFile (model "INT") (linked "INT" reader)).content)
          (modelFiles (model "BIGINT")) =
        textAfter "src/models/reader.rs" before (modelFiles (model "BIGINT").renewed) := by
  have hmem : linked "BIGINT" reader ∈ (model "BIGINT").entities :=
    linked_mem (by simp [declared])
  have hdeclared : (linked "INT" reader).declared = (linked "BIGINT" reader).declared := by
    rw [declared_linked, declared_linked]
  have hsame : surroundings (model "INT") (linked "INT" reader) =
      surroundings (model "BIGINT") (linked "BIGINT" reader) := by decide +kernel
  have hpath : (modelFile (model "INT") (linked "INT" reader)).path = "src/models/reader.rs" := by
    decide +kernel
  obtain ⟨hfile, hkept⟩ := modelFile_kept sound_wide.distinctIds hmem hdeclared hsame
  rw [hpath] at hkept
  exact ⟨sound_wide.distinctIds, hmem, hdeclared, hsame, by decide +kernel, hfile,
    hkept (by decide)⟩

end Generation

end Schemata
