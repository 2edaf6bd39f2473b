import Schemata.Files.Output
import Schemata.Proofs.Files.Destination

/-!
# What writing keeps

Files are written one after the other, each together with the directories that it stands in.  None
of this takes a directory away or changes a file other than those that are written, so that in the
end every file holds its own content unless another one was written to the same place.

* `keeps_writeText`, `keeps_makeDirectory` - what one operation keeps;
* `Growing` - steps that change no file and take nothing away;
* `Gentle.createParent` - making directories is growing;
* `of_writeFiles`, `of_writeProject` - what a run of writes keeps, and that it leaves every file
  with its content.
-/

namespace Schemata

open Generation (GeneratedFile Project)

namespace Disk

/-- Everything that is on a disk is on the other one too, apart from the files at some places. -/
def Keeps (places : List Location) (d d' : Disk) : Prop :=
  ∀ here node, d.node? here = some node → node = .directory ∨ here ∉ places →
    d'.node? here = some node

namespace Keeps

variable {places places' : List Location} {d d' d'' : Disk}

theorem refl (d : Disk) : Keeps [] d d := fun _ _ hnode _ => hnode

/-- What is kept by one change and by another is kept by both. -/
theorem trans (h : Keeps places d d') (h' : Keeps places' d' d'') :
    Keeps (places ++ places') d d'' := by
  intro here node hnode hkept
  rw [List.mem_append, not_or] at hkept
  exact h' here node (h here node hnode (hkept.imp_right And.left)) (hkept.imp_right And.right)

/-- A node that is put where nothing was, or in place of a file, leaves all the others. -/
theorem put {here : Location} (node : Node) (h : d.node? here ≠ some .directory) :
    Keeps [here] d (d.put here node) := by
  intro there other hother hkept
  have hne : there ≠ here := by
    rintro rfl
    rcases hkept with rfl | hout
    · exact h hother
    · exact hout List.mem_cons_self
  rw [node?_put_other node hne]
  exact hother

/-- A path that can be followed can still be. -/
theorem follow (h : Keeps places d d') {here there : Location} {names : List String}
    (hfollow : d.follow here names = .ok there) : d'.follow here names = .ok there := by
  induction names generalizing here with
  | nil => exact hfollow
  | cons name rest ih =>
    rw [Disk.follow] at hfollow ⊢
    split at hfollow
    · cases hfollow
    · cases hfollow
    · rename_i hnode
      rw [h here .directory hnode (Or.inl rfl)]
      exact ih hfollow

/-- A path still leads where it led. -/
theorem locate (h : Keeps places d d') {path : String} {here : Location}
    (hlocate : d.locate path = .ok here) : d'.locate path = .ok here := by
  unfold Disk.locate at hlocate ⊢
  split at hlocate
  · cases hlocate
  · rename_i hpath
    rw [if_neg hpath]
    exact h.follow hlocate

end Keeps

/-- Making a directory leaves everything that was there. -/
theorem keeps_makeDirectory {d d' : Disk} {path : String} (h : d.makeDirectory path = .ok d') :
    Keeps [] d d' := by
  rw [makeDirectory] at h
  cases hlocate : d.locate path with
  | error reason => rw [hlocate] at h; cases h
  | ok here =>
    rw [hlocate] at h
    cases hfree : d.node? here with
    | some node => simp [hfree, bind, Except.bind] at h
    | none =>
      obtain rfl : d.put here .directory = d' := by simpa [hfree, bind, Except.bind] using h
      intro there node hnode _
      have hne : there ≠ here := by
        rintro rfl
        cases hfree.symm.trans hnode
      rw [node?_put_other _ hne]
      exact hnode

/-- A file that is where a path leads, with a content. -/
structure Holds (d : Disk) (path content : String) : Prop where
  located : d.locate path = .ok (destination path)
  filed : ∃ modified, d.node? (destination path) = some (.file content.toUTF8 modified)
  plain : Path.endsWithSlash path = false

/-- The bytes of a text are read back as the text. -/
theorem textOf_toUTF8 (content : String) : textOf content.toUTF8 = .ok content := by
  have hvalid : String.fromUTF8? content.toUTF8 = some content := by
    rw [String.fromUTF8?, String.toUTF8_eq_toByteArray, dif_pos content.isValidUTF8]
    rfl
  rw [textOf, hvalid]

/-- What a file holds is read back. -/
theorem Holds.readText {d : Disk} {path content : String} (h : Holds d path content) :
    d.readText path = .ok content := by
  obtain ⟨modified, hfile⟩ := h.filed
  have hfound : d.found path = .ok (.file content.toUTF8 modified) := by
    simp [found, h.located, hfile, h.plain, bind, Except.bind]
  rw [Disk.readText, hfound]
  exact textOf_toUTF8 content

/-- A file holds its content while others change. -/
theorem Holds.keeps {d d' : Disk} {places : List Location} {path content : String}
    (h : Holds d path content) (hkeeps : Keeps places d d') (hout : destination path ∉ places) :
    Holds d' path content := by
  obtain ⟨modified, hfile⟩ := h.filed
  exact ⟨hkeeps.locate h.located, ⟨modified, hkeeps _ _ hfile (Or.inr hout)⟩, h.plain⟩

/-- Writing a text changes the file at its path at most, and leaves it there. -/
theorem keeps_writeText {d d' : Disk} {path content : String}
    (h : d.writeText path content = .ok d') :
    Keeps [destination path] d d' ∧ Holds d' path content := by
  obtain ⟨here, hlocate, h⟩ := bind_eq_ok.mp h
  obtain rfl := locate_eq_ok hlocate
  split at h
  · cases h
  · rename_i hslash
    split at h
    · cases h
    · rename_i hfree
      obtain rfl := Except.ok.inj h
      have hfixed : (destination path).isFixed = false := by
        by_contra hfixed
        rw [Bool.not_eq_false] at hfixed
        exact hfree (if_pos hfixed)
      have hkeeps : Keeps [destination path] d
          (d.put (destination path) (.file content.toUTF8 d.now)) := .put _ hfree
      exact ⟨hkeeps, hkeeps.locate hlocate, ⟨d.now, node?_put_self _ hfixed⟩,
        by simpa using hslash⟩

theorem run_attempt (change : Disk → Except OsError Disk) (d : Disk) :
    (attempt change).run d = (match change d with
      | .ok changed => (.ok (), changed)
      | .error reason => (.error reason, d)) := rfl

/-- Steps that change no file and take nothing away. -/
def Growing {α : Type} (steps : StateM Disk α) : Prop := ∀ d, Keeps [] d (steps.run d).2

namespace Growing

variable {α β : Type}

theorem pure (a : α) : Growing (Pure.pure a) := fun d => .refl d

/-- Steps one behind the other take nothing away if none of them does. -/
theorem bind {first : StateM Disk α} {next : α → StateM Disk β} (hfirst : Growing first)
    (hnext : ∀ a, Growing (next a)) : Growing (first >>= next) :=
  fun d => (hfirst d).trans (hnext _ _)

end Growing

/-- Operations that change no file and take nothing away, where they ask what is there and where
they make directories. -/
structure Gentle (files : FileAccess (StateM Disk)) : Prop where
  kind? : ∀ path, Growing (files.kind? path)
  makeDirectory : ∀ path, Growing (files.makeDirectory path)

namespace Gentle

variable {files : FileAccess (StateM Disk)}

/-- Asking for a directory takes nothing away. -/
theorem isDirectory (h : Gentle files) (path : String) : Growing (files.isDirectory path) :=
  (h.kind? path).bind fun _ => .pure _

theorem ensureDirectory (h : Gentle files) (path : String) :
    Growing (files.ensureDirectory path) := by
  refine (h.makeDirectory path).bind fun made => ?_
  cases made with
  | ok => exact .pure _
  | error reason => refine (h.isDirectory path).bind fun there => ?_; split <;> exact .pure _

/-- Making directories upwards takes nothing away, whatever fails. -/
theorem createUpwards (h : Gentle files) (paths : List String) :
    Growing (files.createUpwards paths) := by
  induction paths with
  | nil => exact .pure _
  | cons path above ih =>
    refine (h.makeDirectory path).bind fun made => ?_
    split
    · exact .pure _
    · refine ih.bind fun made => ?_
      split
      · exact .pure _
      · exact h.ensureDirectory path
    · refine (h.isDirectory path).bind fun there => ?_
      split <;> exact .pure _

/-- Making the directory of a file takes nothing away. -/
theorem createParent (h : Gentle files) (path : String) :
    Growing (files.createParent path).run := by
  unfold FileAccess.createParent
  split
  · exact .pure _
  · rename_i above _
    rw [ExceptT.run_bind]
    refine .bind (.bind (h.createUpwards (Path.upwards above)) fun made => .pure _) fun made => ?_
    split
    · split <;> exact .pure _
    · exact .pure _

/-- Looking for what is already there takes nothing away. -/
theorem firstThere (h : Gentle files) (paths : List String) :
    Growing (files.firstThere paths) := by
  induction paths with
  | nil => exact .pure _
  | cons path rest ih =>
    refine ((h.kind? path).bind fun _ => .pure _).bind fun there => ?_
    split
    · exact .pure _
    · exact ih

end Gentle

/-- The operations on a disk take nothing away. -/
theorem gentle_access : Gentle access where
  kind? _ d := .refl d
  makeDirectory path d := by
    change Keeps [] d ((attempt (·.makeDirectory path)).run d).2
    rw [run_attempt]
    cases hmake : d.makeDirectory path with
    | error reason => exact .refl d
    | ok d' => exact keeps_makeDirectory hmake

variable {d d' : Disk}

/-- Steps that succeed do one after the other. -/
theorem run_bind_eq_ok {α β : Type} {first : ExceptT Failure (StateM Disk) α}
    {next : α → ExceptT Failure (StateM Disk) β} {b : β} :
    (first >>= next).run.run d = (.ok b, d') ↔
      ∃ a middle, first.run.run d = (.ok a, middle) ∧ (next a).run.run middle = (.ok b, d') := by
  rw [ExceptT.run_bind, StateT.run_bind]
  rcases hfirst : first.run.run d with ⟨result, middle⟩
  cases result with
  | ok a =>
    constructor
    · exact fun h => ⟨a, middle, rfl, h⟩
    · rintro ⟨_, _, hsame, h⟩
      cases hsame
      exact h
  | error failure =>
    constructor
    · exact fun h => nomatch congrArg Prod.fst h
    · exact fun ⟨_, _, hsame, _⟩ => nomatch congrArg Prod.fst hsame

theorem run_lift_eq_ok {α : Type} {steps : StateM Disk α} {a : α} :
    (liftM steps : ExceptT Failure (StateM Disk) α).run.run d = (.ok a, d') ↔
      steps.run d = (a, d') := by
  change ((Except.ok (steps.run d).1, (steps.run d).2) : Except Failure α × Disk) = _ ↔ _
  rw [Prod.mk.injEq, Except.ok.injEq, ← Prod.mk.injEq]
  rfl

/-- A file that is written is there, and nothing else has changed. -/
theorem of_writeFile {path content : String}
    (h : (access.writeFile path content).run.run d = (.ok (), d')) :
    Keeps [destination path] d d' ∧ Holds d' path content := by
  obtain ⟨_, middle, hparent, h⟩ := run_bind_eq_ok.mp h
  have hgrown : Keeps [] d middle := by
    have := gentle_access.createParent path d
    rwa [hparent] at this
  obtain ⟨outcome, later, hwrite, h⟩ := run_bind_eq_ok.mp h
  have hwrite : (attempt (·.writeText path content)).run middle = (outcome, later) :=
    run_lift_eq_ok.mp hwrite
  rw [run_attempt] at hwrite
  cases hdone : middle.writeText path content with
  | error reason =>
    rw [hdone] at hwrite
    cases hwrite
    exact nomatch congrArg Prod.fst h
  | ok written =>
    rw [hdone] at hwrite
    cases hwrite
    have hsame : later = d' := congrArg Prod.snd h
    obtain ⟨hkeeps, hholds⟩ := keeps_writeText (hsame ▸ hdone)
    exact ⟨hgrown.trans hkeeps, hholds⟩

/-- **Files that are written one after the other** change no other file.  At the place of each of
them there is in the end the last one that goes there, with its content. -/
theorem of_writeFiles {base : String} {files : List GeneratedFile}
    (h : (Files.writeFiles access base files).run.run d = (.ok (), d')) :
    Keeps (files.map fun file => destination (Path.join base file.path)) d d' ∧
    ∀ file ∈ files, ∃ last ∈ files,
      destination (Path.join base last.path) = destination (Path.join base file.path) ∧
      Holds d' (Path.join base last.path) last.content := by
  induction files generalizing d with
  | nil =>
    obtain rfl : d = d' := congrArg Prod.snd h
    exact ⟨.refl d, fun file hfile => absurd hfile List.not_mem_nil⟩
  | cons first rest ih =>
    obtain ⟨_, middle, hfirst, hrest⟩ := run_bind_eq_ok.mp h
    obtain ⟨hkeeps, hholds⟩ := of_writeFile hfirst
    obtain ⟨hlater, hall⟩ := ih hrest
    refine ⟨hkeeps.trans hlater, ?_⟩
    have hlast : ∀ file ∈ rest, ∃ last ∈ first :: rest,
        destination (Path.join base last.path) = destination (Path.join base file.path) ∧
        Holds d' (Path.join base last.path) last.content := fun file hfile => by
      obtain ⟨last, hmem, hlast⟩ := hall file hfile
      exact ⟨last, List.mem_cons_of_mem _ hmem, hlast⟩
    rw [List.forall_mem_cons]
    refine ⟨?_, hlast⟩
    by_cases hagain : destination (Path.join base first.path) ∈
        rest.map fun file => destination (Path.join base file.path)
    · obtain ⟨other, hother, hsame⟩ := List.mem_map.mp hagain
      obtain ⟨last, hmem, hplace, hheld⟩ := hlast other hother
      exact ⟨last, hmem, hplace.trans hsame, hheld⟩
    · exact ⟨first, List.mem_cons_self, rfl, hholds.keeps hlater hagain⟩

/-- **A project that is written** changes no file that is not its own.  At the place of each of its
files there is in the end the last one that goes there, with its content. -/
theorem of_writeProject {base : String} {overwrite : Bool} {p : Project}
    (h : (Files.writeProject access base overwrite p).run.run d = (.ok (), d')) :
    Keeps (p.files.map fun file => destination (Path.join base file.path)) d d' ∧
    ∀ file ∈ p.files, ∃ last ∈ p.files,
      destination (Path.join base last.path) = destination (Path.join base file.path) ∧
      Holds d' (Path.join base last.path) last.content := by
  unfold Files.writeProject at h
  split at h
  · obtain ⟨found, middle, hfirst, h⟩ := run_bind_eq_ok.mp h
    cases found with
    | some path => exact nomatch congrArg Prod.fst h
    | none =>
      have hgrown : Keeps [] d middle := by
        have := gentle_access.firstThere (Files.targets base p) d
        rwa [run_lift_eq_ok.mp hfirst] at this
      obtain ⟨hkeeps, hholds⟩ := of_writeFiles h
      exact ⟨hgrown.trans hkeeps, hholds⟩
  · exact of_writeFiles h

end Disk

end Schemata
