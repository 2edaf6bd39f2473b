import Schemata.Generation.Generator
import Schemata.Generation.Timestamp
import Schemata.Proofs.Files.Keeping
import Schemata.Proofs.Generation.KeptFiles
import Schemata.Proofs.Generation.SourceText
import Schemata.Proofs.Text.Marks

/-!
# The paths of generated files

The model file of an entity is named for the class without its namespace.  Two entities whose
classes differ in the namespace only, or whose names differ only in marks and the case of letters,
share a path, and the file that declares the modules says both names twice.  Whoever writes such a
project finds the last of the files that share a path, and nothing of the others.

* `declaredModules_moduleFile`, `exportedTypes_moduleFile` - what the file that declares the modules
  says;
* `nodup_paths_iff` - when no two files of a project share a path;
* `readText_of_writeProject_iff` - when every file of a written project is found as it was written;
* `generate_apart_iff` - what this comes to for a clean model;
* `trade_orders_collide` - two namespaces with a class of one name.
-/

namespace Schemata.Generation

open Text

/-- The modules that a source file declares, each on a line of its own. -/
def declaredModules (content : String) : List String :=
  (lines content).filterMap fun line => (inside? "pub mod " ";" line).map String.ofList

/-- The types that a source file exports from its modules, each on a line of its own. -/
def exportedTypes (content : String) : List String :=
  (lines content).filterMap fun line =>
    (inside? "pub use " ";" line).map fun path => String.ofList ((path.dropWhile (· ≠ ':')).drop 2)

/-- The lines of the header of the file that declares the modules. -/
def headerLines : List String :=
  ["//! Model definitions.", "//!", "//! Generated by tablesmith. Do not edit by hand.", ""]

/-- The declaration of the module of an entity, without the line end. -/
def declaration (e : Entity) : String := "pub mod " ++ moduleName e ++ ";"

/-- The export of the structure of an entity, without the line end. -/
def exportation (e : Entity) : String :=
  "pub use " ++ (moduleName e ++ "::" ++ structName e) ++ ";"

/-- The lines of the file that declares the modules. -/
def moduleFileLines (es : List Entity) : List String :=
  headerLines ++ es.map declaration ++ (if es.isEmpty then [] else [""]) ++ es.map exportation

/-- The module list is written line by line. -/
theorem content_moduleFile (es : List Entity) :
    (moduleFile es).content = String.join ((moduleFileLines es).map (· ++ "\n")) := by
  have hheader : fileHeader "Model definitions." = String.join (headerLines.map (· ++ "\n")) := by
    decide
  have hblank : (if es.isEmpty then "" else "\n") =
      String.join ((if es.isEmpty then [] else [""]).map (· ++ "\n")) := by split <;> rfl
  have hdeclarations : es.map moduleLine = (es.map declaration).map (· ++ "\n") := by
    simp [moduleLine, declaration, String.append_assoc, Function.comp_def]
  have hexportations : es.map exportLine = (es.map exportation).map (· ++ "\n") := by
    simp [exportLine, exportation, String.append_assoc, Function.comp_def]
  rw [moduleFile, moduleFileLines, hheader, hblank, hdeclarations, hexportations]
  simp only [List.map_append, String.join_append]

/-- No line of the file has a line end in it. -/
theorem line_moduleFile {es : List Entity} {line : String} (h : line ∈ moduleFileLines es) :
    '\n' ∉ line.toList ∧ line.toList.getLast? ≠ some '\r' := by
  have hmodule (e : Entity) : '\n' ∉ (moduleName e).toList :=
    not_mem_moduleName (by decide) (by decide) (by decide) e
  have htype (e : Entity) : '\n' ∉ (structName e).toList := not_mem_structName (by decide) e
  have hlast (before : String) : (before ++ ";").toList.getLast? ≠ some '\r' := by simp
  simp only [moduleFileLines, List.mem_append, List.mem_map] at h
  rcases h with ((hheader | ⟨e, -, rfl⟩) | hblank) | ⟨e, -, rfl⟩
  · revert line
    decide
  · exact ⟨by simp [declaration, hmodule e], hlast _⟩
  · split at hblank
    · cases hblank
    · obtain rfl := List.mem_singleton.mp hblank
      decide
  · exact ⟨by simp [exportation, hmodule e, htype e], hlast _⟩

/-- The lines of the module list are those it was written from. -/
theorem lines_moduleFile (es : List Entity) :
    lines (moduleFile es).content = moduleFileLines es := by
  have hlines : lines (String.join ((moduleFileLines es).map (· ++ "\n")) ++ "") =
      moduleFileLines es ++ lines "" := lines_joined (fun _ hline => line_moduleFile hline) ""
  rw [String.append_empty] at hlines
  rw [content_moduleFile, hlines]
  exact List.append_nil _

/-- A reader that makes nothing of the header reads the declarations, then the exports. -/
theorem filterMap_moduleFileLines {α : Type} {read : String → Option α}
    (h : ∀ line ∈ headerLines, read line = none) (es : List Entity) :
    (moduleFileLines es).filterMap read =
      es.filterMap (fun e => read (declaration e)) ++
        es.filterMap fun e => read (exportation e) := by
  have hheader : headerLines.filterMap read = [] := List.filterMap_eq_nil_iff.mpr h
  have hblank : (if es.isEmpty then [] else [""]).filterMap read = [] := by
    split
    · rfl
    · rw [List.filterMap_cons_none (h "" (by decide)), List.filterMap_nil]
  rw [moduleFileLines, List.filterMap_append, List.filterMap_append, List.filterMap_append,
    hheader, hblank, List.filterMap_map, List.filterMap_map, List.nil_append, List.append_nil]
  rfl

/-- A declaration of a module is never mistaken for a re-export: the two begin with as many
characters, and not the same ones. -/
theorem openings_differ :
    "pub mod ".toList.length = "pub use ".toList.length ∧ "pub mod " ≠ "pub use " := by
  decide

/-- **The modules that are declared** are those of the entities. -/
theorem declaredModules_moduleFile (es : List Entity) :
    declaredModules (moduleFile es).content = es.map moduleName := by
  have hdeclaration (e : Entity) :
      inside? "pub mod " ";" (declaration e) = some (moduleName e).toList := inside?_eq _ _ _
  have hexportation (e : Entity) : inside? "pub mod " ";" (exportation e) = none := by
    rw [exportation, String.append_assoc]
    exact inside?_eq_none openings_differ.1 openings_differ.2 _ _
  rw [declaredModules, lines_moduleFile, filterMap_moduleFileLines (by decide)]
  simp [hdeclaration, hexportation]

/-- **The types that are exported** are those of the entities. -/
theorem exportedTypes_moduleFile (es : List Entity) :
    exportedTypes (moduleFile es).content = es.map structName := by
  have hdeclaration (e : Entity) : inside? "pub use " ";" (declaration e) = none := by
    rw [declaration, String.append_assoc]
    exact inside?_eq_none openings_differ.1.symm openings_differ.2.symm _ _
  have hexportation (e : Entity) : inside? "pub use " ";" (exportation e) =
      some ((moduleName e).toList ++ ':' :: ':' :: (structName e).toList) := by
    rw [exportation, inside?_eq]
    simp
  have htype (e : Entity) :
      (((moduleName e).toList ++ ':' :: ':' :: (structName e).toList).dropWhile (· ≠ ':')).drop 2 =
        (structName e).toList := by
    have hcolon : ∀ x ∈ (moduleName e).toList, decide (x ≠ ':') = true := fun x hx => by
      have : ':' ∉ (moduleName e).toList :=
        not_mem_moduleName (by decide) (by decide) (by decide) e
      exact decide_eq_true fun h => this (h ▸ hx)
    rw [List.dropWhile_append_of_pos hcolon]
    rfl
  rw [exportedTypes, lines_moduleFile, filterMap_moduleFileLines (by decide)]
  simp only [hdeclaration, hexportation, Option.map_none, Option.map_some, htype]
  simp

section Project

variable {settings : Settings} {stamp : String} {m : DataModel} {now : Option DataModel}
  {file other : GeneratedFile}

/-- A generation gives the project of the model, or fails. -/
theorem generate_eq_ok_iff {p : Project} :
    generate settings stamp m now = .ok p ↔
      m.validate.toResult = .ok () ∧ settings.database = .mysql ∧
        project settings stamp m now = p := by
  have hdialect : (∃ dialect, Dialect.ofDatabase settings.database = .ok dialect) ↔
      settings.database = .mysql := by
    cases settings.database with
    | mysql => exact ⟨fun _ => rfl, fun _ => ⟨_, rfl⟩⟩
    | postgresql => exact ⟨fun h => (nomatch h), nofun⟩
    | sqlite => exact ⟨fun h => (nomatch h), nofun⟩
  rw [← hdialect, generate, bind_eq_ok]
  constructor
  · rintro ⟨⟨⟩, hvalid, h⟩
    obtain ⟨dialect, hfound, h⟩ := bind_eq_ok.mp h
    exact ⟨hvalid, ⟨dialect, hfound⟩, Except.ok.inj h⟩
  · rintro ⟨hvalid, ⟨dialect, hfound⟩, rfl⟩
    exact ⟨(), hvalid, bind_eq_ok.mpr ⟨dialect, hfound, rfl⟩⟩

/-- The source files of a project. -/
def sourceFiles (settings : Settings) (m : DataModel) : List GeneratedFile :=
  if settings.models then modelFiles m else []

/-- The script of a project, if it has one. -/
def scriptFiles (settings : Settings) (stamp : String) (m : DataModel) (now : Option DataModel) :
    List GeneratedFile :=
  if settings.migrations then
    (migrationFile? settings.database stamp (migrationTo m now) now.isNone).toList
  else []

/-- A project has source files, and at most one script. -/
theorem files_project :
    (project settings stamp m now).files =
      sourceFiles settings m ++ scriptFiles settings stamp m now := by
  refine congrArg₂ (· ++ ·) ?_ ?_
  · rw [sourceFiles]
    cases settings.models <;> rfl
  · rw [scriptFiles]
    cases settings.migrations with
    | false => rfl
    | true => cases migrationFile? settings.database stamp (migrationTo m now) now.isNone <;> rfl

/-- The path of a source file. -/
def sourcePath (name : String) : String := "src/models/" ++ name ++ ".rs"

/-- The path of a source file tells its name. -/
theorem sourcePath_injective : Function.Injective sourcePath := fun _ _ => module_of_path

/-- No source file stands among the migrations. -/
theorem sourcePath_ne (name rest : String) : sourcePath name ≠ "migrations/" ++ rest := by
  intro h
  have hfirst := congrArg (fun path => path.toList.head?) h
  simp [sourcePath] at hfirst

/-- The source files are the module list and one file for each changed entity. -/
theorem paths_modelFiles (m : DataModel) :
    (modelFiles m).map (·.path) = ("mod" :: (changedEntities m).map moduleName).map sourcePath := by
  rw [modelFiles, List.map_cons, List.map_cons, List.map_map, List.map_map]
  rfl

/-- No two source files share a path just when no two changed entities share a module name. -/
theorem nodup_paths_modelFiles (m : DataModel) :
    ((modelFiles m).map (·.path)).Nodup ↔ ((changedEntities m).map moduleName).Nodup := by
  have hmod : "mod" ∉ (changedEntities m).map moduleName := by
    intro hmem
    obtain ⟨e, -, he⟩ := List.mem_map.mp hmem
    exact moduleName_ne_mod e he
  rw [paths_modelFiles, List.nodup_map_iff sourcePath_injective, List.nodup_cons]
  exact and_iff_right hmod

/-- The path of a source file is that of the module list or of a changed entity. -/
theorem path_of_mem_sourceFiles (h : file ∈ sourceFiles settings m) :
    ∃ name ∈ "mod" :: (changedEntities m).map moduleName, file.path = sourcePath name := by
  rw [sourceFiles] at h
  split at h
  · have hpath : file.path ∈ (modelFiles m).map (·.path) := List.mem_map_of_mem h
    rw [paths_modelFiles] at hpath
    obtain ⟨name, hname, hpath⟩ := List.mem_map.mp hpath
    exact ⟨name, hname, hpath.symm⟩
  · cases h

/-- The path of a script has the time stamp and one of two names. -/
theorem path_of_mem_scriptFiles (h : file ∈ scriptFiles settings stamp m now) :
    ∃ name ∈ ["create_schema", "migrate_schema"],
      file.path = "migrations/" ++ (stamp ++ "_" ++ name ++ ".sql") := by
  rw [scriptFiles] at h
  split at h
  · rw [Option.mem_toList, migrationFile?] at h
    split at h
    · cases h
    · obtain rfl := Option.some_inj.mp h
      refine ⟨if now.isNone then "create_schema" else "migrate_schema", by split <;> simp, ?_⟩
      simp only [String.append_assoc]
      rfl
  · cases h

/-- There is at most one script. -/
theorem length_scriptFiles_le : (scriptFiles settings stamp m now).length ≤ 1 := by
  rw [scriptFiles]
  split
  · cases migrationFile? settings.database stamp (migrationTo m now) now.isNone <;> simp
  · simp

/-- **No two files of a project share a path** exactly if no two model files that are written are
named for the same module. -/
theorem nodup_paths_iff :
    ((project settings stamp m now).files.map (·.path)).Nodup ↔
      (settings.models = true → ((changedEntities m).map moduleName).Nodup) := by
  have hsources : ((sourceFiles settings m).map (·.path)).Nodup ↔
      (settings.models = true → ((changedEntities m).map moduleName).Nodup) := by
    rw [← nodup_paths_modelFiles, sourceFiles]
    split <;> simp_all
  have hscripts : ((scriptFiles settings stamp m now).map (·.path)).Nodup := by
    refine List.nodup_iff_count_le_one.mpr fun path => ?_
    have := List.count_le_length (l := (scriptFiles settings stamp m now).map (·.path)) (a := path)
    rw [List.length_map] at this
    exact this.trans length_scriptFiles_le
  have hapart : ∀ source ∈ (sourceFiles settings m).map (·.path),
      ∀ script ∈ (scriptFiles settings stamp m now).map (·.path), source ≠ script := by
    simp only [List.forall_mem_map]
    intro source hsource script hscript
    obtain ⟨name, -, hname⟩ := path_of_mem_sourceFiles hsource
    obtain ⟨_, -, hrest⟩ := path_of_mem_scriptFiles hscript
    rw [hname, hrest]
    exact sourcePath_ne name _
  rw [files_project, List.map_append, List.nodup_append, hsources]
  exact and_iff_left ⟨hscripts, hapart⟩

/-- Every file of a project has proper names on its path. -/
theorem exists_names_of_mem (hstamp : '/' ∉ stamp.toList)
    (h : file ∈ (project settings stamp m now).files) :
    ∃ names, file.path = String.intercalate "/" names ∧ ∀ name ∈ names, Disk.IsProper name := by
  rw [files_project, List.mem_append] at h
  rcases h with hsource | hscript
  · obtain ⟨name, hname, hpath⟩ := path_of_mem_sourceFiles hsource
    have hwhole : '/' ∉ name.toList := by
      rcases List.mem_cons.mp hname with rfl | hmodule
      · decide
      · obtain ⟨e, -, rfl⟩ := List.mem_map.mp hmodule
        exact not_mem_moduleName (by decide) (by decide) (by decide) e
    refine ⟨["src", "models", name ++ ".rs"], ?_, ?_⟩
    · rw [hpath]
      exact String.toList_inj.mp (by simp [sourcePath])
    · simp only [List.forall_mem_cons]
      exact ⟨by decide, by decide, Disk.isProper_append hwhole (by decide) (by decide), nofun⟩
  · obtain ⟨name, hname, hpath⟩ := path_of_mem_scriptFiles hscript
    have hwhole : '/' ∉ (stamp ++ "_" ++ name).toList := by
      have : ∀ name ∈ ["create_schema", "migrate_schema"], '/' ∉ name.toList := by decide
      simp [hstamp, this name hname]
    refine ⟨["migrations", stamp ++ "_" ++ name ++ ".sql"], ?_, ?_⟩
    · rw [hpath]
      exact String.toList_inj.mp (by simp)
    · simp only [List.forall_mem_cons]
      exact ⟨by decide, Disk.isProper_append hwhole (by decide) (by decide), nofun⟩

/-- Files of a project are written to the same place exactly if they share a path. -/
theorem destination_eq_iff (hstamp : '/' ∉ stamp.toList)
    (hfile : file ∈ (project settings stamp m now).files)
    (hother : other ∈ (project settings stamp m now).files) (base : String) :
    Disk.destination (Path.join base file.path) = Disk.destination (Path.join base other.path) ↔
      file.path = other.path := by
  obtain ⟨names, hpath, hnames⟩ := exists_names_of_mem hstamp hfile
  obtain ⟨names', hpath', hnames'⟩ := exists_names_of_mem hstamp hother
  constructor
  · intro hsame
    rw [hpath, hpath', Disk.destination_join hnames, Disk.destination_join hnames'] at hsame
    rw [hpath, hpath', List.append_cancel_left hsame]
  · exact fun hsame => congrArg (Disk.destination <| Path.join base ·) hsame

/-- **Every file of a written project is found as it was written** exactly if files that share a
path have the same content. -/
theorem readText_of_writeProject_iff (hstamp : '/' ∉ stamp.toList) {base : String}
    {overwrite : Bool} {d d' : Disk}
    (h : (Files.writeProject Disk.access base overwrite (project settings stamp m now)).run.run d =
      (.ok (), d')) :
    (∀ file ∈ (project settings stamp m now).files,
        d'.readText (Path.join base file.path) = .ok file.content) ↔
      ∀ file ∈ (project settings stamp m now).files,
        ∀ other ∈ (project settings stamp m now).files,
          file.path = other.path → file.content = other.content := by
  constructor
  · intro hread file hfile other hother hsame
    have hcontent := (hread file hfile).symm.trans (hsame ▸ hread other hother)
    exact Except.ok.inj hcontent
  · intro hcontents file hfile
    obtain ⟨last, hlast, hplace, hholds⟩ := (Disk.of_writeProject h).2 file hfile
    have hpath : last.path = file.path := (destination_eq_iff hstamp hlast hfile base).mp hplace
    rw [← hpath, ← hcontents last hlast file hfile hpath]
    exact hholds.readText

end Project

/-- A timestamp has digits only. -/
theorem not_mem_timestamp {x : Char} (hx : x.isDigit = false) (moment : Std.Time.PlainDateTime) :
    x ∉ (timestamp moment).toList := by
  have hpadded (places number : Nat) : x ∉ (padded places number).toList := by
    rw [padded, String.toList_append, List.mem_append, String.toList_ofList, Nat.toList_repr]
    rintro (hzero | hdigit)
    · obtain rfl := List.eq_of_mem_replicate hzero
      exact Bool.noConfusion hx
    · rw [Nat.isDigit_of_mem_toDigits (by decide) (by decide) hdigit] at hx
      exact Bool.noConfusion hx
  simp [timestamp, hpadded]

/-- **What is generated for a clean model** has no two files with one path exactly if no two of the
model files that are written are named for the same module.  The file that declares the modules
says the module and the type of every entity, as often as entities have them.  When the project has
been written, every file is found as it was written exactly if files that share a path have the
same content. -/
theorem generate_apart_iff {m : DataModel} (h : m.Clean) (settings : Settings)
    (moment : Std.Time.PlainDateTime) (now : Option DataModel) :
    ((∃ p, generate settings (timestamp moment) m now = .ok p) ↔ settings.database = .mysql) ∧
    ∀ p, generate settings (timestamp moment) m now = .ok p →
      ((p.files.map (·.path)).Nodup ↔
        (settings.models = true → ((changedEntities m).map moduleName).Nodup)) ∧
      (settings.models = true → ∃ file, p.file? "src/models/mod.rs" = some file ∧
        declaredModules file.content = m.dependencyOrder.map moduleName ∧
        exportedTypes file.content = m.dependencyOrder.map structName) ∧
      ∀ base overwrite d d',
        (Files.writeProject Disk.access base overwrite p).run.run d = (.ok (), d') →
        ((∀ file ∈ p.files, d'.readText (Path.join base file.path) = .ok file.content) ↔
          ∀ file ∈ p.files, ∀ other ∈ p.files,
            file.path = other.path → file.content = other.content) := by
  have hvalid : m.validate.toResult = .ok () := (Log.toResult_eq_ok _).mpr h.faultless
  constructor
  · simp only [generate_eq_ok_iff, hvalid, true_and]
    exact ⟨fun ⟨_, hdatabase, _⟩ => hdatabase, fun hdatabase => ⟨_, hdatabase, rfl⟩⟩
  · intro p hp
    obtain ⟨-, -, rfl⟩ := generate_eq_ok_iff.mp hp
    refine ⟨nodup_paths_iff, fun hmodels => ⟨moduleFile m.dependencyOrder, ?_,
      declaredModules_moduleFile _, exportedTypes_moduleFile _⟩, fun base overwrite d d' hwritten =>
      readText_of_writeProject_iff (not_mem_timestamp (by decide) moment) hwritten⟩
    have hpath : Path.components (moduleFile m.dependencyOrder).path ==
        Path.components "src/models/mod.rs" := beq_self_eq_true _
    rw [Project.file?, files_project, sourceFiles, if_pos hmodels, modelFiles, List.cons_append]
    exact List.find?_cons_of_pos hpath

/-- Writing that does not fail is done. -/
theorem eq_ok_of_isOk {result : Except Failure Unit × Disk} (h : result.1.isOk = true) :
    result = (.ok (), result.2) := by
  obtain ⟨outcome, d⟩ := result
  cases outcome with
  | ok => rfl
  | error failure => exact Bool.noConfusion h

namespace Trade

/-- The orders that customers place. -/
def sale : Entity :=
  { id := .ofNat 1, className := "Order", nameSpace := some "App\\Sales", table := "sales_order",
    attributes := [.identity] }

/-- The orders that fill the stock. -/
def restocking : Entity :=
  { id := .ofNat 2, className := "Order", nameSpace := some "App\\Stock", table := "stock_order",
    attributes := [.identity] }

def model : DataModel := DataModel.linkAll { entities := [sale, restocking] }

/-- The model of the trade is sound. -/
theorem sound : model.Sound :=
  .of_entities (by decide) (by decide) (by decide) (by decide)

/-- What is generated for the model, from nothing and at some moment. -/
def output : Project := project {} (timestamp default) model none

/-- What comes of writing it to an empty disk. -/
def written : Except Failure Unit × Disk :=
  (Files.writeProject Disk.access "out" false output).run.run {}

end Trade

open Trade

/-- The orders of sales and those of the stock have one module name. -/
theorem trade_generate_apart_iff :
    model.Clean ∧
    ((∃ p, generate {} (timestamp default) model none = .ok p) ↔
      ({} : Settings).database = .mysql) ∧
    ∀ p, generate {} (timestamp default) model none = .ok p →
      ((p.files.map (·.path)).Nodup ↔
        (({} : Settings).models = true → ((changedEntities model).map moduleName).Nodup)) ∧
      (({} : Settings).models = true → ∃ file, p.file? "src/models/mod.rs" = some file ∧
        declaredModules file.content = model.dependencyOrder.map moduleName ∧
        exportedTypes file.content = model.dependencyOrder.map structName) ∧
      ∀ base overwrite d d',
        (Files.writeProject Disk.access base overwrite p).run.run d = (.ok (), d') →
        ((∀ file ∈ p.files, d'.readText (Path.join base file.path) = .ok file.content) ↔
          ∀ file ∈ p.files, ∀ other ∈ p.files,
            file.path = other.path → file.content = other.content) :=
  ⟨sound.clean, generate_apart_iff sound.clean {} default none⟩

/-- Orders of two namespaces are written to the same file, and one of the two is lost. -/
theorem trade_orders_collide :
    model.Sound ∧ model.entities.map (·.fullName) = ["App\\Sales\\Order", "App\\Stock\\Order"] ∧
    generate {} (timestamp default) model none = .ok output ∧
    output.files.map (·.path) = ["src/models/mod.rs", "src/models/order.rs", "src/models/order.rs",
      "migrations/" ++ timestamp default ++ "_create_schema.sql"] ∧
    (∃ file, output.file? "src/models/mod.rs" = some file ∧
      declaredModules file.content = ["order", "order"] ∧
      exportedTypes file.content = ["Order", "Order"]) ∧
    (Files.writeProject Disk.access "out" false output).run.run {} = (.ok (), written.2) ∧
    ∃ file ∈ output.files, written.2.readText (Path.join "out" file.path) ≠ .ok file.content := by
  have hgenerated : generate {} (timestamp default) model none = .ok output :=
    generate_eq_ok_iff.mpr ⟨(Log.toResult_eq_ok _).mpr sound.faultless, rfl, rfl⟩
  have hchanged : changedEntities model = [sale, restocking] := by decide
  have horders : ∀ e ∈ [sale, restocking], modelFile model e ∈ output.files := by
    intro e he
    rw [output, files_project]
    exact List.mem_append_left _ (List.mem_cons_of_mem _ (hchanged ▸ List.mem_map_of_mem he))
  have hdone : written.1.isOk = true := by decide +kernel
  have hwritten : written = (.ok (), written.2) := eq_ok_of_isOk hdone
  refine ⟨sound, by decide, hgenerated, by decide,
    ⟨moduleFile model.dependencyOrder, by decide,
      (declaredModules_moduleFile _).trans (by decide),
      (exportedTypes_moduleFile _).trans (by decide)⟩,
    hwritten, ?_⟩
  by_contra hall
  push Not at hall
  have hsame := (readText_of_writeProject_iff (not_mem_timestamp (by decide) default)
    hwritten).mp hall (modelFile model sale) (horders sale (by simp)) (modelFile model restocking)
    (horders restocking (by simp)) rfl
  have hcontent : modelText model sale ≠ modelText model restocking := by decide
  exact hcontent hsame

end Schemata.Generation
