import Mathlib.Data.List.Induction
import Schemata.Proofs.Files.Keeping

/-!
# Writing without replacing

Whether something is at the path of a file is asked for all files of a project before the first one
is written, and then files and directories come into being one by one.  Whatever was on the disk
before stays as it was, also where the run fails on its way: a file is only written where a path
leads, and if a path without `..` leads to an old file now, it led there before.

* `IsTree.found_of_keeps` - old files are found by the paths that found them before, and no others;
* `Fallible` - operations that may fail whenever they are asked for a change;
* `Sparing` - steps that leave everything old in its place;
* `writeProject_spares` - what a run that may not replace anything does to a disk.
-/

namespace Schemata

open Generation (GeneratedFile Project)

namespace Disk

/-- Whatever is somewhere stands in a directory. -/
def IsTree (d : Disk) : Prop :=
  ∀ here name node, d.node? (here ++ [name]) = some node → d.node? here = some .directory

section Trees

variable {d d' : Disk} {here there : Location} {names : List String} {path : String}
  {content : ByteArray} {modified : Int}

/-- A disk is a tree if each of its nodes stands in a directory. -/
theorem IsTree.of_nodes
    (h : ∀ entry ∈ d.nodes, (d.node? entry.1.dropLast).map (·.kind) = some .directory) :
    d.IsTree := by
  intro here name node hnode
  rw [node?] at hnode
  split at hnode
  · rename_i hfixed
    have habove : here.isFixed = true := by
      simp only [Location.isFixed, Bool.or_eq_true, List.all_append, Bool.and_eq_true,
        beq_iff_eq] at hfixed ⊢
      rcases hfixed with habove | hroot
      · exact Or.inl habove.1
      · obtain rfl : here = [] := (List.append_eq_singleton_iff.mp hroot).elim And.left (by simp)
        exact Or.inl rfl
    rw [node?, if_pos habove]
  · obtain ⟨before, behind, hnodes, -⟩ := List.lookup_eq_some_iff.mp hnode
    have hentry := h (here ++ [name], node) (by simp [hnodes])
    rw [List.dropLast_concat, Option.map_eq_some_iff] at hentry
    obtain ⟨found, hfound, hkind⟩ := hentry
    cases found with
    | file => cases hkind
    | directory => exact hfound

/-- Above everything there are directories. -/
theorem IsTree.directory_above (h : d.IsTree) (hbegins : here <+: there) (hne : here ≠ there)
    {node : Node} (hnode : d.node? there = some node) : d.node? here = some .directory := by
  obtain ⟨rest, rfl⟩ := hbegins
  induction rest using List.reverseRecOn generalizing node with
  | nil => exact absurd (List.append_nil here).symm hne
  | append_singleton rest name ih =>
    rw [← List.append_assoc] at hnode
    have habove := h _ _ _ hnode
    by_cases hrest : rest = []
    · rwa [hrest, List.append_nil] at habove
    · exact ih (by simpa using hrest) habove

/-- Names lead down from a directory, `..` apart. -/
theorem prefix_of_follow (hplain : ".." ∉ names) (h : d.follow here names = .ok there) :
    here <+: there := by
  induction names generalizing here with
  | nil => exact Except.ok.inj h ▸ List.prefix_refl here
  | cons name rest ih =>
    rw [List.mem_cons, not_or] at hplain
    rw [follow] at h
    split at h
    · cases h
    · cases h
    · have hstep : here <+: here.step name := by
        rw [Location.step, if_neg (Ne.symm hplain.1)]
        split
        · exact List.prefix_refl here
        · exact List.prefix_append here [name]
      exact hstep.trans (ih hplain.2 h)

/-- Names that lead to an old file led there before. -/
theorem IsTree.follow_of_keeps (htree : d.IsTree) (hkeeps : Keeps [] d d') (hplain : ".." ∉ names)
    (hfollow : d'.follow here names = .ok there)
    (hfile : d.node? there = some (.file content modified)) :
    d.follow here names = .ok there := by
  induction names generalizing here with
  | nil => exact hfollow
  | cons name rest ih =>
    have hbegins := prefix_of_follow hplain hfollow
    rw [follow] at hfollow ⊢
    split at hfollow
    · cases hfollow
    · cases hfollow
    · rename_i hnow
      -- It was a directory before: a file would still be one, and above a file are directories.
      have hne : here ≠ there := by
        rintro rfl
        cases hnow.symm.trans (hkeeps _ _ hfile (Or.inr List.not_mem_nil))
      rw [htree.directory_above hbegins hne hfile]
      exact ih (fun hmem => hplain (List.mem_cons_of_mem _ hmem)) hfollow

/-- **A path that leads to an old file** found it before. -/
theorem IsTree.found_of_keeps (htree : d.IsTree) (hkeeps : Keeps [] d d')
    (hplain : ".." ∉ namesOf path) (hlocate : d'.locate path = .ok here)
    (hslash : Path.endsWithSlash path = false)
    (hfile : d.node? here = some (.file content modified)) :
    d.found path = .ok (.file content modified) := by
  have hbefore : d.locate path = .ok here := by
    unfold locate at hlocate ⊢
    split at hlocate
    · cases hlocate
    · rename_i hpath
      rw [if_neg hpath]
      exact htree.follow_of_keeps hkeeps hplain hlocate hfile
  simp [found, hbefore, hfile, hslash, bind, Except.bind]

/-- What a path found it finds again. -/
theorem Keeps.found (h : Keeps [] d d') {node : Node} (hfound : d.found path = .ok node) :
    d'.found path = .ok node := by
  obtain ⟨here, hlocate, hfound⟩ := bind_eq_ok.mp hfound
  rw [Disk.found, h.locate hlocate]
  cases hnode : d.node? here with
  | none =>
    rw [hnode] at hfound
    cases hfound
  | some node =>
    rw [hnode] at hfound
    simp only [bind, Except.bind, h here node hnode (Or.inr List.not_mem_nil)]
    exact hfound

/-- What was read is read again. -/
theorem Keeps.readText (h : Keeps [] d d') {text : String} (hread : d.readText path = .ok text) :
    d'.readText path = .ok text := by
  obtain ⟨node, hfound, hread⟩ := bind_eq_ok.mp hread
  rw [Disk.readText, h.found hfound]
  exact hread

end Trees

/-- Something is at the path. -/
def isThere (d : Disk) (path : String) : Bool := (d.found path).toOption.isSome

/-- The path leads to a place where a file can be written. -/
structure Writable (d : Disk) (path : String) (here : Location) : Prop where
  located : d.locate path = .ok here
  plain : Path.endsWithSlash path = false
  free : d.node? here ≠ some .directory

/-- A text is written only where that is possible, and changes nothing else. -/
theorem exists_writable {d d' : Disk} {path content : String}
    (h : d.writeText path content = .ok d') :
    ∃ here, d.Writable path here ∧ d' = d.put here (.file content.toUTF8 d.now) := by
  obtain ⟨here, hlocate, h⟩ := bind_eq_ok.mp h
  split at h
  · cases h
  · rename_i hslash
    split at h
    · cases h
    · rename_i hfree
      exact ⟨here, ⟨hlocate, by simpa using hslash, hfree⟩, (Except.ok.inj h).symm⟩

/-- Operations on a disk that may fail where they need not.  They know what is there, but a
directory that is asked for may not be made, and a text may not be written or be written wrong. -/
structure Fallible (files : FileAccess (StateM Disk)) : Prop where
  kind? : ∀ path d, (files.kind? path).run d = (access.kind? path).run d
  makeDirectory : ∀ path d, ((files.makeDirectory path).run d).2 = d ∨
    d.makeDirectory path = .ok ((files.makeDirectory path).run d).2
  writeText : ∀ path content d, ((files.writeText path content).run d).2 = d ∨
    ∃ here part, d.Writable path here ∧
      ((files.writeText path content).run d).2 = d.put here (.file part d.now)

/-- The operations that fail only where they must. -/
theorem fallible_access : Fallible access where
  kind? _ _ := rfl
  makeDirectory path d := by
    change ((attempt (·.makeDirectory path)).run d).2 = d ∨
      d.makeDirectory path = .ok ((attempt (·.makeDirectory path)).run d).2
    rw [run_attempt]
    cases hmake : d.makeDirectory path with
    | error reason => exact Or.inl rfl
    | ok d' => exact Or.inr rfl
  writeText path content d := by
    change ((attempt (·.writeText path content)).run d).2 = d ∨ ∃ here part,
      d.Writable path here ∧
        ((attempt (·.writeText path content)).run d).2 = d.put here (.file part d.now)
    rw [run_attempt]
    cases hwrite : d.writeText path content with
    | error reason => exact Or.inl rfl
    | ok d' =>
      obtain ⟨here, hwritable, rfl⟩ := exists_writable hwrite
      exact Or.inr ⟨here, _, hwritable, rfl⟩

namespace Fallible

variable {files : FileAccess (StateM Disk)}

/-- Operations that fail at any time are gentle, since failing changes nothing. -/
theorem gentle (h : Fallible files) : Gentle files where
  kind? path d := by
    rw [h.kind?]
    exact gentle_access.kind? path d
  makeDirectory path d := by
    rcases h.makeDirectory path d with hsame | hmade
    · rw [hsame]
      exact .refl d
    · exact keeps_makeDirectory hmade

/-- **The first path at which something is** is found without a change. -/
theorem run_firstThere (h : Fallible files) (d : Disk) (paths : List String) :
    (files.firstThere paths).run d = (paths.find? d.isThere, d) := by
  induction paths with
  | nil => rfl
  | cons path rest ih =>
    have hkind : (files.isThere path).run d = (d.isThere path, d) := by
      rw [FileAccess.isThere, StateT.run_bind, h.kind?]
      change (((d.found path).toOption.map (·.kind)).isSome, d) = _
      rw [Option.isSome_map]
      rfl
    rw [FileAccess.firstThere, StateT.run_bind, hkind, List.find?_cons]
    cases hthere : d.isThere path with
    | true => rfl
    | false => exact ih

end Fallible

/-- Steps that leave everything that was on a disk in its place, wherever they begin with it. -/
def Sparing {α : Type} (d : Disk) (steps : StateM Disk α) : Prop :=
  ∀ d', Keeps [] d d' → Keeps [] d (steps.run d').2

/-- Steps that only add spare everything. -/
theorem Growing.sparing {α : Type} {steps : StateM Disk α} (h : Growing steps) (d : Disk) :
    Sparing d steps := fun d' hkeeps => hkeeps.trans (h d')

namespace Sparing

variable {α β : Type} {d : Disk} {path : String} {files : FileAccess (StateM Disk)}

theorem pure (a : α) : Sparing d (Pure.pure a) := (Growing.pure a).sparing d

/-- Steps one behind the other spare what each of them spares. -/
theorem bind {first : StateM Disk α} {next : α → StateM Disk β} (hfirst : Sparing d first)
    (hnext : ∀ a, Sparing d (next a)) : Sparing d (first >>= next) :=
  fun d' hkeeps => hnext _ _ (hfirst d' hkeeps)

/-- Steps that may fail spare the disk if each of them does. -/
theorem bind_run {first : ExceptT Failure (StateM Disk) α}
    {next : α → ExceptT Failure (StateM Disk) β} (hfirst : Sparing d first.run)
    (hnext : ∀ a, Sparing d (next a).run) : Sparing d (first >>= next).run := by
  rw [ExceptT.run_bind]
  refine hfirst.bind fun result => ?_
  split
  · exact hnext _
  · exact pure _

/-- **A text is not written over an old file** by a path at which nothing was. -/
theorem writeText (hfiles : Fallible files) (htree : d.IsTree) (hplain : ".." ∉ namesOf path)
    (hfree : d.isThere path = false) (content : String) :
    Sparing d (files.writeText path content) := by
  intro now hkeeps
  rcases hfiles.writeText path content now with hsame | ⟨here, part, hwritable, hput⟩
  · rw [hsame]
    exact hkeeps
  · rw [hput]
    intro there node hnode hkept
    have hne : there ≠ here := by
      rintro rfl
      cases node with
      | directory => exact hwritable.free (hkeeps _ _ hnode hkept)
      | file old modified =>
        have hfound := htree.found_of_keeps hkeeps hplain hwritable.located hwritable.plain hnode
        rw [isThere, hfound] at hfree
        cases hfree
    rw [node?_put_other _ hne]
    exact hkeeps _ _ hnode hkept

/-- Writing a file to a free place spares all others, whether it fails or not. -/
theorem writeFile (hfiles : Fallible files) (htree : d.IsTree) (hplain : ".." ∉ namesOf path)
    (hfree : d.isThere path = false) (content : String) :
    Sparing d (files.writeFile path content).run := by
  refine bind_run ((hfiles.gentle.createParent path).sparing d) fun _ => ?_
  have hwrite := writeText hfiles htree hplain hfree content
  refine bind_run (hwrite.bind fun _ => pure _) fun written => ?_
  split <;> exact pure _

/-- Writing files to free places spares all others, wherever it fails. -/
theorem writeFiles (hfiles : Fallible files) (htree : d.IsTree) {base : String}
    {targets : List GeneratedFile}
    (hplain : ∀ file ∈ targets, ".." ∉ namesOf (Path.join base file.path))
    (hfree : ∀ file ∈ targets, d.isThere (Path.join base file.path) = false) :
    Sparing d (Files.writeFiles files base targets).run := by
  induction targets with
  | nil => exact pure _
  | cons file rest ih =>
    rw [List.forall_mem_cons] at hplain hfree
    have hfile := writeFile hfiles htree hplain.1 hfree.1 file.content
    exact bind_run hfile fun _ => ih hplain.2 hfree.2

end Sparing

/-- A path that is joined leads upwards only if one of its parts does. -/
theorem above_not_mem_join {base part : String} (hbase : ".." ∉ namesOf base)
    (hpart : ".." ∉ namesOf part) : ".." ∉ namesOf (Path.join base part) := by
  cases habsolute : Path.isAbsolute part with
  | true => rwa [Path.join_absolute habsolute]
  | false =>
    rw [namesOf_join habsolute, List.mem_append, not_or]
    exact ⟨hbase, hpart⟩

/-- **A run that may not replace anything.**  If something is at the path of a file, the run fails
with the first such path, and the disk is what it was.  Otherwise, whether the run succeeds or fails
on its way, every file and directory is where it was, and what was read before is read again. -/
theorem writeProject_spares {files : FileAccess (StateM Disk)} (hfiles : Fallible files)
    {d d' : Disk} {base : String} {p : Project} {result : Except Failure Unit}
    (htree : d.IsTree) (hbase : ".." ∉ namesOf base)
    (hplain : ∀ file ∈ p.files, ".." ∉ namesOf file.path)
    (h : (Files.writeProject files base false p).run.run d = (result, d')) :
    (∀ path, (Files.targets base p).find? d.isThere = some path →
      result = .error (.outputExists path) ∧ d' = d) ∧
    ((∀ path ∈ Files.targets base p, d.isThere path = false) →
      (∀ here node, d.node? here = some node → d'.node? here = some node) ∧
      ∀ path text, d.readText path = .ok text → d'.readText path = .ok text) := by
  have hrun : (Files.writeProject files base false p).run.run d =
      ((Files.targets base p).find? d.isThere).elim
        ((Files.writeFiles files base p.files).run.run d)
        fun path => (.error (.outputExists path), d) := by
    have hfirst : (liftM (files.firstThere (Files.targets base p)) :
        ExceptT Failure (StateM Disk) _).run.run d =
          (.ok ((Files.targets base p).find? d.isThere), d) :=
      run_lift_eq_ok.mpr (hfiles.run_firstThere d _)
    rw [Files.writeProject, if_pos (show (!false) = true from rfl), ExceptT.run_bind,
      StateT.run_bind, hfirst]
    cases (Files.targets base p).find? d.isThere <;> rfl
  rw [hrun] at h
  constructor
  · intro path hpath
    rw [hpath, Option.elim_some] at h
    exact ⟨(congrArg Prod.fst h).symm, (congrArg Prod.snd h).symm⟩
  · intro hfree
    have hnone : (Files.targets base p).find? d.isThere = none := by simpa using hfree
    have hsparing : Sparing d (Files.writeFiles files base p.files).run :=
      .writeFiles hfiles htree
        (fun file hfile => above_not_mem_join hbase (hplain file hfile))
        fun file hfile => hfree _ (List.mem_map_of_mem hfile)
    have hkeeps := hsparing d (.refl d)
    rw [hnone, Option.elim_none] at h
    rw [congrArg Prod.snd h] at hkeeps
    exact ⟨fun here node hnode => hkeeps here node hnode (Or.inr List.not_mem_nil),
      fun path text hread => hkeeps.readText hread⟩

end Disk

namespace Notebook

/-- A directory with notes in it. -/
def disk : Disk :=
  { nodes := [(["out"], .directory), (["out", "notes.txt"], .file "old".toUTF8 0)] }

/-- The second file would stand in the first one. -/
def colliding : Project :=
  { files := [⟨"models/page", "new", .source⟩, ⟨"models/page/line", "new", .source⟩] }

/-- The second file is there. -/
def taken : Project :=
  { files := [⟨"models/page", "new", .source⟩, ⟨"notes.txt", "new", .source⟩] }

end Notebook

namespace Disk

open Notebook

/-- Notes outlive a run that fails at its second file, and one that does not begin. -/
theorem notebook_spares :
    disk.IsTree ∧ disk.readText "out/notes.txt" = .ok "old" ∧
    ((Files.writeProject access "out" false colliding).run.run disk).1 =
      .error (.directoryCreate "out/models/page" (OsError.exists).message) ∧
    ((Files.writeProject access "out" false colliding).run.run disk).2.readText "out/notes.txt" =
      .ok "old" ∧
    (Files.writeProject access "out" false taken).run.run disk =
      (.error (.outputExists "out/notes.txt"), disk) := by
  have htree : disk.IsTree := .of_nodes (by decide)
  have hread : disk.readText "out/notes.txt" = .ok "old" := by decide
  have hbase : ".." ∉ namesOf "out" := by decide
  obtain ⟨-, hspared⟩ := writeProject_spares fallible_access htree hbase (p := colliding)
    (by decide) (Prod.eta _).symm
  obtain ⟨htaken, -⟩ := writeProject_spares fallible_access htree hbase (p := taken)
    (by decide) (Prod.eta _).symm
  obtain ⟨hresult, hdisk⟩ := htaken "out/notes.txt" (by decide +kernel)
  exact ⟨htree, hread, by decide +kernel, (hspared (by decide)).2 _ _ hread,
    Prod.ext hresult hdisk⟩

end Disk

end Schemata
