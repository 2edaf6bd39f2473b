import Schemata.Files.Disk
import Schemata.Proofs.CommandLine.Reading

/-!
# Writing for clean models only

A command first loads every model that it is about, then looks at what was found on them, and only
then writes.  So whatever the files are and however an operation on them fails: when something has
changed, all models were loaded and nothing was found on them, and there is a dialect for the
database; and when something was found on one of them, the command says so or fails, and everything
is as it was.

* `Stopped`, `Guarded` - what holds of the run of a command;
* `guarded_migrate`, `guarded_generate` - the two commands that write;
* `run_writes_for_clean_models` - what a run changes;
* `Journaled` - a disk that knows whether a change was asked for.
-/

namespace Schemata.CommandLine

/-- The paths of each model that a command loads. -/
def Command.sources : Command → List (List String)
  | .validate paths _ => [paths]
  | .migrate asIs toBe _ _ => [asIs, toBe]
  | .generate request =>
    request.paths :: if request.asIs.isEmpty then [] else [request.asIs]
  | .info paths => [paths]

/-- The database that holds for a command: its own, or that of the settings. -/
def Command.database (settings : Settings) : Command → Database
  | .migrate _ _ _ database => database.getD settings.database
  | _ => settings.database

section Loading

variable {σ : Type} {files : FileAccess (StateM σ)} {s : σ} {paths : List String}

/-- A model is loaded from the paths, whenever the last generation was, and no errors are found on
it. -/
def LoadsClean (files : FileAccess (StateM σ)) (s : σ) (paths : List String) : Prop :=
  ∀ last, ∃ model log, (load files last paths).run.run s = (.ok (model, log), s) ∧
    log.hasErrors = false

/-- A model is loaded from the paths, and errors are found on it. -/
def LoadsFaulty (files : FileAccess (StateM σ)) (s : σ) (paths : List String) : Prop :=
  ∃ last model log, (load files last paths).run.run s = (.ok (model, log), s) ∧
    log.hasErrors = true

/-- What is found on a model is found whenever the last generation was. -/
theorem exists_load_eq (h : files.ReadsOnly) {last : Option Int} {model : DataModel} {log : Log}
    (hload : ((load files last paths).run.run s).1 = .ok (model, log)) (last' : Option Int) :
    ∃ model', (load files last' paths).run.run s = (.ok (model', log), s) := by
  have hlog : ((load files last paths).run.run s).1.map Prod.snd =
      ((load files last' paths).run.run s).1.map Prod.snd := h.log_load s
  rw [hload] at hlog
  rw [(h.load last' paths).run_eq]
  cases hother : ((load files last' paths).run.run s).1 with
  | error failure =>
    rw [hother] at hlog
    cases hlog
  | ok found =>
    rw [hother] at hlog
    obtain rfl : log = found.2 := Except.ok.inj hlog
    exact ⟨found.1, rfl⟩

/-- Files that are loaded without errors make a clean model. -/
theorem loadsClean_of_load (h : files.ReadsOnly) {last : Option Int} {model : DataModel} {log : Log}
    (hload : ((load files last paths).run.run s).1 = .ok (model, log))
    (hlog : log.hasErrors = false) : LoadsClean files s paths := fun last' =>
  (exists_load_eq h hload last').imp fun _ hload' => ⟨log, hload', hlog⟩

/-- Files that are loaded with errors make a model with faults. -/
theorem loadsFaulty_of_load (h : files.ReadsOnly) (last : Option Int)
    (hload : ((load files last paths).run.run s).1.map (·.2.hasErrors) = .ok true) :
    LoadsFaulty files s paths := by
  cases hfound : ((load files last paths).run.run s).1 with
  | error failure =>
    rw [hfound] at hload
    cases hload
  | ok found =>
    rw [hfound] at hload
    exact ⟨last, found.1, found.2, by rw [(h.load last paths).run_eq, hfound],
      Except.ok.inj hload⟩

/-- The same files do not load both ways. -/
theorem LoadsClean.not_faulty (hclean : LoadsClean files s paths) :
    ¬ LoadsFaulty files s paths := by
  rintro ⟨last, model, log, hload, hfaulty⟩
  obtain ⟨model', log', hload', hlog⟩ := hclean last
  rw [hload] at hload'
  cases hload'
  rw [hlog] at hfaulty
  cases hfaulty

end Loading

section Commands

variable {σ : Type} {files : FileAccess (StateM σ)} {s : σ} {database : Database}
  {sources : List (List String)}

/-- The run has changed nothing, and where a model is faulty the command says so or fails. -/
def Stopped (files : FileAccess (StateM σ)) (s : σ) (sources : List (List String))
    (run : Except CommandFailure Outcome × σ) : Prop :=
  run.2 = s ∧ ((∃ paths ∈ sources, LoadsFaulty files s paths) →
    ∀ outcome, run.1 = .ok outcome → outcome.valid = false)

/-- All models are clean and the database has a dialect, or the run has stopped. -/
def Guarded (files : FileAccess (StateM σ)) (s : σ) (database : Database)
    (sources : List (List String)) (run : Except CommandFailure Outcome × σ) : Prop :=
  ((∀ paths ∈ sources, LoadsClean files s paths) ∧ database = .mysql) ∨
    Stopped files s sources run

/-- A command may stop where it began if it fails or finds errors. -/
theorem Stopped.of_invalid {result : Except CommandFailure Outcome}
    (h : ∀ outcome, result = .ok outcome → outcome.valid = false) :
    Stopped files s sources (result, s) := ⟨rfl, fun _ => h⟩

/-- A command that stops without a valid outcome is guarded. -/
theorem Guarded.of_invalid {result : Except CommandFailure Outcome}
    (h : ∀ outcome, result = .ok outcome → outcome.valid = false) :
    Guarded files s database sources (result, s) := Or.inr (.of_invalid h)

/-- **Behind quiet steps** a command begins where it was, if they do not fail. -/
theorem guarded_bind {α : Type} {first : Steps (StateM σ) α}
    {next : α → Steps (StateM σ) Outcome} (hfirst : Quiet first.run)
    (hnext : ∀ a, (first.run.run s).1 = .ok a →
      Guarded files s database sources ((next a).run.run s)) :
    Guarded files s database sources ((first >>= next).run.run s) := by
  rw [hfirst.run_bind_run]
  cases hanswer : (first.run.run s).1 with
  | error failure => exact .of_invalid fun _ hresult => nomatch hresult
  | ok a => exact hnext a hanswer

/-- Which of two quiet steps a command begins with does not matter. -/
theorem guarded_either {α : Type} {p : Prop} [Decidable p] {first other : Steps (StateM σ) α}
    {next : α → Steps (StateM σ) Outcome} (hfirst : Quiet first.run) (hother : Quiet other.run)
    (hnext : ∀ a, Guarded files s database sources ((next a).run.run s)) :
    Guarded files s database sources
      ((if p then first >>= next else other >>= next).run.run s) := by
  split
  · exact guarded_bind hfirst fun a _ => hnext a
  · exact guarded_bind hother fun a _ => hnext a

/-- MySQL is the one database with a dialect. -/
theorem mysql_of_dialect {dialect : Dialect} (h : Dialect.ofDatabase database = .ok dialect) :
    database = .mysql := by
  cases database <;> first | rfl | cases h

/-- A command that only shows one model, and says whether errors were found on it. -/
theorem stopped_shown (h : files.ReadsOnly) {paths : List String}
    {next : DataModel × Log → Steps (StateM σ) Outcome}
    (hnext : ∀ found, ∃ outcome, next found = pure outcome ∧
      outcome.valid = !found.2.hasErrors) :
    Stopped files s [paths] ((load files none paths >>= next).run.run s) := by
  rw [(h.load none paths).run_bind_run]
  cases hload : ((load files none paths).run.run s).1 with
  | error failure => exact .of_invalid fun _ hresult => nomatch hresult
  | ok found =>
    obtain ⟨shown, hshown, hvalid⟩ := hnext found
    dsimp only
    rw [hshown]
    refine ⟨rfl, ?_⟩
    rintro ⟨source, hsource, hfaulty⟩ outcome hresult
    obtain rfl := List.mem_singleton.mp hsource
    obtain rfl : shown = outcome := Except.ok.inj hresult
    rw [hvalid]
    cases hlog : found.2.hasErrors with
    | true => rfl
    | false => exact absurd hfaulty (loadsClean_of_load h hload hlog).not_faulty

/-- `migrate` is guarded by both its models. -/
theorem guarded_migrate (h : files.ReadsOnly) (settings : Settings) (asIs toBe : List String)
    (output : Option String) :
    Guarded files s settings.database [asIs, toBe]
      ((migrate files settings asIs toBe output).run.run s) := by
  rw [migrate]
  refine guarded_bind (h.load none asIs) fun now hnow => ?_
  refine guarded_bind (h.load none toBe) fun next hnext => ?_
  dsimp only
  by_cases herrors : (now.2.hasErrors || next.2.hasErrors) = true
  · rw [if_pos herrors]
    exact .of_invalid fun outcome hresult => Except.ok.inj hresult ▸ rfl
  · rw [if_neg herrors]
    rw [Bool.or_eq_true, not_or, Bool.not_eq_true, Bool.not_eq_true] at herrors
    cases hdialect : Dialect.ofDatabase settings.database with
    | error failure => exact .of_invalid fun _ hresult => nomatch hresult
    | ok dialect =>
      refine Or.inl ⟨?_, mysql_of_dialect hdialect⟩
      simp only [List.forall_mem_cons, List.not_mem_nil, false_implies, implies_true, and_true]
      exact ⟨loadsClean_of_load h hnow herrors.1, loadsClean_of_load h hnext herrors.2⟩

/-- Files are made for clean models, and only where the database has a dialect. -/
theorem guarded_generateProject (timestamp : String) (settings : Settings) (next : DataModel)
    (now : Option DataModel) (hclean : ∀ paths ∈ sources, LoadsClean files s paths) :
    Guarded files s settings.database sources
      ((generateProject files timestamp settings next now).run.run s) := by
  rw [generateProject]
  cases hproject : Generation.generate settings timestamp next now with
  | error failure => exact .of_invalid fun _ hresult => nomatch hresult
  | ok project =>
    refine Or.inl ⟨hclean, ?_⟩
    obtain ⟨_, _, hproject⟩ := bind_eq_ok.mp hproject
    obtain ⟨dialect, hdialect, _⟩ := bind_eq_ok.mp hproject
    exact mysql_of_dialect hdialect

/-- `generate` is guarded by all the models it reads. -/
theorem guarded_generate (h : files.ReadsOnly) (timestamp : String) (settings : Settings)
    (request : GenerateRequest) :
    Guarded files s settings.database (Command.generate request).sources
      ((generate files timestamp settings request).run.run s) := by
  rw [generate]
  refine guarded_either (h.lastGeneration _).lift (.pure _) fun last => ?_
  refine guarded_bind (h.load last request.paths) fun next hnext => ?_
  dsimp only
  cases hnextLog : next.2.hasErrors with
  | true => exact .of_invalid fun outcome hresult => Except.ok.inj hresult ▸ rfl
  | false =>
    have hclean := loadsClean_of_load h hnext hnextLog
    rw [if_neg Bool.false_ne_true]
    cases hasIs : request.asIs.isEmpty with
    | true =>
      rw [if_pos rfl]
      refine guarded_generateProject timestamp settings next.1 none ?_
      simpa [Command.sources, hasIs] using hclean
    | false =>
      rw [if_neg Bool.false_ne_true]
      refine guarded_bind (h.load none request.asIs) fun now hnow => ?_
      cases hnowLog : now.2.hasErrors with
      | true => exact .of_invalid fun outcome hresult => Except.ok.inj hresult ▸ rfl
      | false =>
        rw [if_neg Bool.false_ne_true]
        refine guarded_generateProject timestamp settings next.1 (some now.1) ?_
        simpa [Command.sources, hasIs] using ⟨hclean, loadsClean_of_load h hnow hnowLog⟩

/-- A command that may write loads its settings first. -/
theorem stopped_or_guarded (h : files.ReadsOnly) {path : String} {holds : Settings → Database}
    {next : Settings → Steps (StateM σ) Outcome}
    (hnext : ∀ settings, Guarded files s (holds settings) sources ((next settings).run.run s)) :
    Stopped files s sources ((loadSettings files path >>= next).run.run s) ∨
      ∃ settings, (loadSettings files path).run.run s = (.ok settings, s) ∧
        Guarded files s (holds settings) sources
          ((loadSettings files path >>= next).run.run s) := by
  rw [(h.loadSettings path).run_bind_run, (h.loadSettings path).run_eq]
  cases ((loadSettings files path).run.run s).1 with
  | error failure => exact Or.inl (.of_invalid fun _ hresult => nomatch hresult)
  | ok settings => exact Or.inr ⟨settings, rfl, hnext settings⟩

/-- **What a run changes.**  The operations on files may do anything and fail at any time, as long
as asking what is there changes nothing, and what they change may be more than files, such as a
journal of all that was asked for.  If anything has changed, the settings were loaded, there is a
dialect for their database, and every model that the command is about was loaded, linked and
validated without errors.  If errors are found on one of these models, the command says that it is
not valid or fails, and everything is as it was. -/
theorem run_writes_for_clean_models (h : files.ReadsOnly) (timestamp : String) (i : Invocation)
    {s' : σ} {result : Except CommandFailure Outcome}
    (hrun : (run files timestamp i).run.run s = (result, s')) :
    (s' ≠ s →
      (∃ settings, (loadSettings files i.config).run.run s = (.ok settings, s) ∧
        i.command.database settings = .mysql) ∧
      ∀ paths ∈ i.command.sources, LoadsClean files s paths) ∧
    ((∃ paths ∈ i.command.sources, LoadsFaulty files s paths) →
      s' = s ∧ ∀ outcome, result = .ok outcome → outcome.valid = false) := by
  have hguarded : Stopped files s i.command.sources (result, s') ∨
      ∃ settings, (loadSettings files i.config).run.run s = (.ok settings, s) ∧
        Guarded files s (i.command.database settings) i.command.sources (result, s') := by
    rw [← hrun, run]
    cases hcommand : i.command with
    | validate paths json => exact Or.inl (stopped_shown h fun found => ⟨_, rfl, rfl⟩)
    | migrate asIs toBe output database =>
      exact stopped_or_guarded h fun settings =>
        guarded_migrate h { settings with database := database.getD settings.database } asIs toBe
          output
    | generate request =>
      exact stopped_or_guarded h fun settings =>
        guarded_generate h timestamp (request.settings settings) request
    | info paths => exact Or.inl (stopped_shown h fun found => ⟨_, rfl, rfl⟩)
  rcases hguarded with hstopped | ⟨settings, hload, ⟨hclean, hdatabase⟩ | hstopped⟩
  · exact ⟨fun hchanged => absurd hstopped.1 hchanged,
      fun hfaulty => ⟨hstopped.1, hstopped.2 hfaulty⟩⟩
  · refine ⟨fun _ => ⟨⟨settings, hload, hdatabase⟩, hclean⟩, ?_⟩
    rintro ⟨paths, hpaths, hfaulty⟩
    exact absurd hfaulty (hclean paths hpaths).not_faulty
  · exact ⟨fun hchanged => absurd hstopped.1 hchanged,
      fun hfaulty => ⟨hstopped.1, hstopped.2 hfaulty⟩⟩

end Commands

/-- A disk, and the paths at which a change was asked for, whatever came of it. -/
abbrev Journaled := Disk × List String

namespace Journaled

/-- Steps on the disk that are not noted. -/
def silent {α : Type} (steps : StateM Disk α) : StateM Journaled α := fun (d, journal) =>
  let (a, after) := steps.run d
  (a, after, journal)

/-- Steps on the disk that are noted as a change at a path. -/
def noted {α : Type} (path : String) (steps : StateM Disk α) : StateM Journaled α :=
  fun (d, journal) =>
    let (a, after) := steps.run d
    (a, after, journal ++ [path])

/-- The operations on files, carried out on a disk and noted where they ask for a change. -/
def access : FileAccess (StateM Journaled) where
  kind? path := silent (Disk.access.kind? path)
  modified? path := silent (Disk.access.modified? path)
  readText path := silent (Disk.access.readText path)
  filesBelow path := silent (Disk.access.filesBelow path)
  makeDirectory path := noted path (Disk.access.makeDirectory path)
  writeText path content := noted path (Disk.access.writeText path content)

/-- Reading the files of the example changes nothing. -/
theorem readsOnly_access : access.ReadsOnly :=
  ⟨fun _ _ => rfl, fun _ _ => rfl, fun _ _ => rfl, fun _ _ => rfl⟩

end Journaled

namespace Workshop

/-- A schema without entities, one with tools, and one whose tools have no primary key. -/
def disk : Disk :=
  { nodes := [(["none.xml"], .file "<schema></schema>".toUTF8 0),
      (["tools.xml"], .file ("<entity name=\"Tool\" table=\"tools\"><attribute name=\"id\" " ++
        "dbType=\"INT\" primaryKey=\"true\"></attribute></entity>").toUTF8 0),
      (["loose.xml"], .file "<entity name=\"Tool\" table=\"tools\"></entity>".toUTF8 0)] }

/-- The disk, at which no change was asked for. -/
def start : Journaled := (disk, [])

/-- Writes what leads from nothing to tools. -/
def migration : Invocation :=
  { command := .migrate ["none.xml"] ["tools.xml"] (some "plan.sql") none }

/-- Generates tools without a primary key, in place of what there is. -/
def generation : Invocation :=
  { command := .generate { paths := ["loose.xml"], asIs := ["tools.xml"], force := true } }

end Workshop

open Workshop in
/-- A migration is written, so that its models are clean; and where tools have no primary key no
change is asked for. -/
theorem workshop_writes_for_clean_models :
    ((run Journaled.access "now" migration).run.run start).2.2 = ["plan.sql"] ∧
    LoadsClean Journaled.access start ["tools.xml"] ∧
    LoadsFaulty Journaled.access start ["loose.xml"] ∧
    ((run Journaled.access "now" generation).run.run start).2 = start ∧
    ((run Journaled.access "now" generation).run.run start).1.map (·.valid) = .ok false := by
  have hreads := Journaled.readsOnly_access
  have hjournal : ((run Journaled.access "now" migration).run.run start).2.2 = ["plan.sql"] := by
    decide +kernel
  have hchanged : ((run Journaled.access "now" migration).run.run start).2 ≠ start := fun hsame =>
    absurd (hjournal.symm.trans (congrArg Prod.snd hsame)) (by decide)
  have hfaulty : LoadsFaulty Journaled.access start ["loose.xml"] :=
    loadsFaulty_of_load hreads none (by decide +kernel)
  obtain ⟨hclean, -⟩ := run_writes_for_clean_models hreads "now" migration (Prod.eta _).symm
  obtain ⟨-, hstopped⟩ := run_writes_for_clean_models hreads "now" generation (Prod.eta _).symm
  exact ⟨hjournal, (hclean hchanged).2 _ (by simp [migration, Command.sources]), hfaulty,
    (hstopped ⟨_, List.mem_cons_self, hfaulty⟩).1, by decide +kernel⟩

end Schemata.CommandLine
