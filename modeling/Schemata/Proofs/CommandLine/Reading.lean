import Schemata.CommandLine.Run
import Schemata.Files.Disk
import Schemata.Proofs.Schema.Marks

/-!
# What loading reads

Loading schemas and settings asks what is there and changes nothing.  When the last generation was
decides which of the schemas count as changed, but not whether they can be loaded, and not what is
found on them.

* `Quiet` - steps that leave everything as it is;
* `ReadsOnly.load`, `ReadsOnly.loadSettings` - loading is quiet;
* `log_load` - what is found on schemas does not depend on the last generation;
* `findSchemaFiles_access` - on a disk the search for schema files comes to its end.
-/

namespace Schemata

/-- Steps that leave everything as it is. -/
def Quiet {σ α : Type} (steps : StateM σ α) : Prop := ∀ s, (steps.run s).2 = s

namespace Quiet

variable {σ α β ε : Type}

/-- Quiet steps end in the state they began in. -/
theorem run_eq {steps : StateM σ α} (h : Quiet steps) (s : σ) :
    steps.run s = ((steps.run s).1, s) := Prod.ext rfl (h s)

/-- An answer at hand is quiet. -/
theorem pure (a : α) : Quiet (Pure.pure a : StateM σ α) := fun _ => rfl

/-- Quiet steps one after the other are quiet. -/
theorem bind {first : StateM σ α} {next : α → StateM σ β} (hfirst : Quiet first)
    (hnext : ∀ a, Quiet (next a)) : Quiet (first >>= next) :=
  fun s => (hnext _ _).trans (hfirst s)

/-- Behind quiet steps everything goes on from where it began. -/
theorem run_bind {first : StateM σ α} (h : Quiet first) (next : α → StateM σ β) (s : σ) :
    (first >>= next).run s = (next (first.run s).1).run s := by
  rw [StateT.run_bind, h.run_eq]
  rfl

/-- Quiet steps that cannot fail are quiet among steps that can. -/
theorem lift {steps : StateM σ α} (h : Quiet steps) :
    Quiet (liftM steps : ExceptT ε (StateM σ) α).run := h.bind fun _ => pure _

/-- Steps that may fail are quiet if each of them is. -/
theorem bind_run {first : ExceptT ε (StateM σ) α} {next : α → ExceptT ε (StateM σ) β}
    (hfirst : Quiet first.run) (hnext : ∀ a, Quiet (next a).run) : Quiet (first >>= next).run := by
  rw [ExceptT.run_bind]
  refine hfirst.bind fun result => ?_
  split
  · exact hnext _
  · exact pure _

/-- Behind quiet steps that may fail everything goes on from where it began, or fails too. -/
theorem run_bind_run {first : ExceptT ε (StateM σ) α} (h : Quiet first.run)
    (next : α → ExceptT ε (StateM σ) β) (s : σ) :
    (first >>= next).run.run s =
      match (first.run.run s).1 with
      | .ok a => (next a).run.run s
      | .error failure => (.error failure, s) := by
  rw [ExceptT.run_bind, h.run_bind]
  cases (first.run.run s).1 <;> rfl

end Quiet

namespace FileAccess

variable {σ : Type}

/-- Asking what is there changes nothing. -/
structure ReadsOnly (files : FileAccess (StateM σ)) : Prop where
  kind? : ∀ path, Quiet (files.kind? path)
  modified? : ∀ path, Quiet (files.modified? path)
  readText : ∀ path, Quiet (files.readText path)
  filesBelow : ∀ path, Quiet (files.filesBelow path)

namespace ReadsOnly

open Schemata.CommandLine

variable {files : FileAccess (StateM σ)}

/-- Reading a file is quiet. -/
theorem readFile (h : files.ReadsOnly) (path : String) : Quiet (files.readFile path).run := by
  refine (h.readText path).lift.bind_run fun content => ?_
  split <;> exact .pure _

/-- Finding the schema files below one path is quiet. -/
theorem schemaFilesAt (h : files.ReadsOnly) (path : String) :
    Quiet (Files.schemaFilesAt files path).run := by
  refine ((h.kind? path).bind fun _ => .pure _).lift.bind_run fun directory => ?_
  split
  · exact Quiet.bind_run (h.filesBelow path) fun _ => .pure _
  · exact .pure _

/-- Looking for schema files changes nothing, whether a walk fails or not. -/
theorem findSchemaFiles (h : files.ReadsOnly) (paths : List String) :
    Quiet (Files.findSchemaFiles files paths).run := by
  induction paths with
  | nil => exact .pure _
  | cons path rest ih =>
    exact (h.schemaFilesAt path).bind_run fun _ => ih.bind_run fun _ => .pure _

/-- Looking for the last generation is quiet. -/
theorem lastGeneration (h : files.ReadsOnly) (outputDir : String) :
    Quiet (Files.lastGeneration files outputDir) := h.modified? _

/-- Reading one document is quiet. -/
theorem readDocument (h : files.ReadsOnly) (last : Option Int) (ids : IdSupply) (path : String) :
    Quiet (Files.readDocument files last ids path).run := by
  refine (h.readFile path).bind_run fun content => ?_
  split
  · exact .pure _
  · split
    · exact .pure _
    · exact (h.modified? path).lift.bind_run fun _ => .pure _

/-- Reading all documents is quiet. -/
theorem readDocuments (h : files.ReadsOnly) (last : Option Int) (ids : IdSupply) (d : Document)
    (paths : List String) : Quiet (Files.readDocuments files last ids d paths).run := by
  induction paths generalizing ids d with
  | nil => exact .pure _
  | cons path rest ih => exact (h.readDocument last ids path).bind_run fun _ => ih _ _

/-- Reading a model is quiet. -/
theorem readModel (h : files.ReadsOnly) (last : Option Int) (paths : List String) :
    Quiet (Files.readModel files last paths).run :=
  (h.readDocuments last {} {} paths).bind_run fun d => by cases d.toModel <;> exact .pure _

/-- Wrapping a failure is quiet. -/
theorem within {α ε : Type} {step : ExceptT ε (StateM σ) α} (h : Quiet step.run)
    (wrap : ε → CommandFailure) : Quiet (within wrap step).run :=
  h.bind fun result => by cases result <;> exact .pure _

/-- A step within a command fails where the step does, with its failure wrapped. -/
theorem answer_within {α ε : Type} (wrap : ε → CommandFailure)
    (step : ExceptT ε (StateM σ) α) (s : σ) :
    ((CommandLine.within wrap step).run.run s).1 = (step.run.run s).1.mapError wrap := by
  rw [CommandLine.within, ExceptT.run_mk, StateT.run_bind]
  cases step.run.run s with
  | mk answer s' => cases answer <;> rfl

/-- **Loading schemas** changes nothing. -/
theorem load (h : files.ReadsOnly) (last : Option Int) (paths : List String) :
    Quiet (load files last paths).run := by
  refine (within (h.findSchemaFiles paths) _).bind_run fun found => ?_
  split
  · exact .pure _
  · exact (within (h.readModel last found) _).bind_run fun _ => .pure _

/-- **Loading settings** changes nothing. -/
theorem loadSettings (h : files.ReadsOnly) (path : String) :
    Quiet (loadSettings files path).run := by
  refine within ?_ _
  refine ((h.kind? path).bind fun _ => .pure _).lift.bind_run fun there => ?_
  split
  · refine (h.readFile path).bind_run fun content => ?_
    cases Settings.ofText content <;> exact .pure _
  · exact .pure _

section Marks

variable {last last' : Option Int} {ids : IdSupply} {path : String} {paths : List String}

/-- A schema file before it is marked. -/
def parsed (files : FileAccess (StateM σ)) (ids : IdSupply) (path : String) (s : σ) :
    Except Failure (Document × IdSupply) :=
  ((files.readFile path).run.run s).1.bind (Document.ofXml ids path)

/-- A schema file is marked by when it was modified. -/
theorem answer_readDocument (h : files.ReadsOnly) (s : σ) :
    ((Files.readDocument files last ids path).run.run s).1 =
      (parsed files ids path s).map fun (d, ids) =>
        (d.markChanged (Files.changedSince last ((files.modified? path).run s).1), ids) := by
  rw [Files.readDocument, (h.readFile path).run_bind_run, parsed]
  cases ((files.readFile path).run.run s).1 with
  | error failure => rfl
  | ok content =>
    dsimp only [Except.bind]
    cases Document.ofXml ids path content with
    | error failure => rfl
    | ok read =>
      cases last with
      | none => rfl
      | some time => rfl

/-- Documents that differ in their marks alone do so with more schema files behind them. -/
theorem marks_readDocuments (h : files.ReadsOnly) {d d' : Document}
    (hmarks : d.markChanged true = d'.markChanged true) (s : σ) :
    ((Files.readDocuments files last ids d paths).run.run s).1.map (·.markChanged true) =
      ((Files.readDocuments files last' ids d' paths).run.run s).1.map (·.markChanged true) := by
  induction paths generalizing ids d d' with
  | nil => exact congrArg Except.ok hmarks
  | cons path rest ih =>
    rw [Files.readDocuments, Files.readDocuments, (h.readDocument last ids path).run_bind_run,
      (h.readDocument last' ids path).run_bind_run, h.answer_readDocument, h.answer_readDocument]
    cases parsed files ids path s with
    | error failure => rfl
    | ok read =>
      refine ih ?_
      rw [Document.markChanged_merge, Document.markChanged_merge, Document.markChanged_markChanged,
        Document.markChanged_markChanged, hmarks]

/-- The findings on a model do not depend on when files were generated last. -/
theorem findings_readModel (h : files.ReadsOnly) (s : σ) :
    ((Files.readModel files last paths).run.run s).1.map (·.linkAll.validate) =
      ((Files.readModel files last' paths).run.run s).1.map (·.linkAll.validate) := by
  have hmodel (last : Option Int) : ((Files.readModel files last paths).run.run s).1 =
      ((Files.readDocuments files last {} {} paths).run.run s).1.bind Document.toModel := by
    rw [Files.readModel, (h.readDocuments last {} {} paths).run_bind_run]
    cases ((Files.readDocuments files last {} {} paths).run.run s).1 with
    | error failure => rfl
    | ok d =>
      dsimp only [Except.bind]
      cases d.toModel <;> rfl
  rw [hmodel, hmodel]
  exact Document.findings_bind_congr (h.marks_readDocuments rfl s)

/-- **What is found on schemas** does not depend on when the last generation was, and neither does
the failure to load them. -/
theorem log_load (h : files.ReadsOnly) (s : σ) :
    ((CommandLine.load files last paths).run.run s).1.map Prod.snd =
      ((CommandLine.load files last' paths).run.run s).1.map Prod.snd := by
  have hload (last : Option Int) : ((CommandLine.load files last paths).run.run s).1.map Prod.snd =
      (((Files.findSchemaFiles files paths).run.run s).1.mapError .walk).bind fun found =>
        if found.isEmpty then .error .noSchemaFiles
        else (((Files.readModel files last found).run.run s).1.map
          (·.linkAll.validate)).mapError .step := by
    rw [CommandLine.load, (within (h.findSchemaFiles paths) _).run_bind_run, answer_within]
    cases ((Files.findSchemaFiles files paths).run.run s).1 with
    | error failure => rfl
    | ok found =>
      dsimp only [Except.mapError, Except.bind]
      split
      · rfl
      · rw [(within (h.readModel last found) _).run_bind_run, answer_within]
        cases ((Files.readModel files last found).run.run s).1 <;> rfl
  have hfindings (found : List String) :
      ((Files.readModel files last found).run.run s).1.map (·.linkAll.validate) =
        ((Files.readModel files last' found).run.run s).1.map (·.linkAll.validate) :=
    h.findings_readModel s
  simp only [hload last, hload last', hfindings]

end Marks

end ReadsOnly

end FileAccess

namespace Disk

variable {d : Disk}

/-- Reading from a disk changes nothing on it. -/
theorem readsOnly_access : access.ReadsOnly :=
  ⟨fun _ _ => rfl, fun _ _ => rfl, fun _ _ => rfl, fun _ _ => rfl⟩

/-- A walk begins at the directories of a disk, and so it comes to its end. -/
theorem exists_filesBelow {path : String} (h : ((access.isDirectory path).run d).1 = true) :
    ∃ found, d.filesBelow path = .ok found := by
  have hkind : ((d.found path).toOption.map (·.kind) == some .directory) = true := h
  unfold found at hkind
  cases hlocate : d.locate path with
  | error reason =>
    rw [hlocate] at hkind
    cases hkind
  | ok here =>
    rw [filesBelow, hlocate]
    exact ⟨_, rfl⟩

/-- A disk of files and directories lets every walk come to its end. -/
theorem exists_schemaFilesAt (path : String) :
    ∃ found, ((Files.schemaFilesAt access path).run.run d).1 = .ok found := by
  have hquiet : Quiet (access.isDirectory path) :=
    (readsOnly_access.kind? path).bind fun _ => .pure _
  have hanswer : ((liftM (access.isDirectory path) :
      ExceptT WalkFailure (StateM Disk) Bool).run.run d).1 =
        .ok ((access.isDirectory path).run d).1 := rfl
  rw [Files.schemaFilesAt, hquiet.lift.run_bind_run, hanswer]
  cases hdirectory : ((access.isDirectory path).run d).1 with
  | false => exact ⟨[path], rfl⟩
  | true =>
    obtain ⟨found, hfound⟩ := exists_filesBelow hdirectory
    have hwalk : ((ExceptT.mk (access.filesBelow path)).run.run d).1 = .ok found := hfound
    have hbelow : Quiet (ExceptT.mk (access.filesBelow path)).run :=
      readsOnly_access.filesBelow path
    refine ⟨Files.schemaFilesBelow path found, ?_⟩
    dsimp only
    rw [if_pos rfl, hbelow.run_bind_run, hwalk]
    rfl

/-- **On a disk no walk fails,** so that the search comes to its end. -/
theorem findSchemaFiles_access (paths : List String) :
    ((Files.findSchemaFiles access paths).run.run d).1 =
      .ok ((Files.schemaFiles access paths).run d).1 := by
  have hend : ∀ paths, ∃ found,
      ((Files.findSchemaFiles access paths).run.run d).1 = .ok found := by
    intro paths
    induction paths with
    | nil => exact ⟨[], rfl⟩
    | cons path rest ih =>
      obtain ⟨here, hhere⟩ := exists_schemaFilesAt (d := d) path
      obtain ⟨others, hothers⟩ := ih
      rw [Files.findSchemaFiles, (readsOnly_access.schemaFilesAt path).run_bind_run, hhere]
      dsimp only
      rw [(readsOnly_access.findSchemaFiles rest).run_bind_run, hothers]
      exact ⟨here ++ others, rfl⟩
  obtain ⟨found, hfound⟩ := hend paths
  rw [hfound, Files.schemaFiles, (readsOnly_access.findSchemaFiles paths).run_bind, hfound]
  rfl

end Disk

end Schemata
