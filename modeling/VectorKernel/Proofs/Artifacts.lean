import VectorKernel.Kernel.Write
import VectorKernel.Proofs.Files.Path
import VectorKernel.Proofs.RoundTrip.Manifest

/-!
# Written kernels

Writing a kernel leaves a source and a manifest that belong together: the
manifest names the source, its fingerprint is that of the source that was
written, and all else in the tree stays, apart from directories on the way that were missing.
The two never have the same place, whatever the procedure is called. They are
the same file only if links had made them so, and then the manifest has taken the
place of the source.
-/

namespace VectorKernel.Kernel

/-- The kernels of a procedure: from a finished source, or generated from a body. -/
inductive Made (procedure : Procedure) : Kernel → Prop
  | ofSource (source : String) (target : Target) : Made procedure (ofSource procedure source target)
  | generate {context : Context} {body : List Statement} {width : UInt64} {kernel : Kernel}
    (success : generate context procedure body width = .ok kernel) : Made procedure kernel

variable {procedure : Procedure} {kernel : Kernel}

/-- A generated kernel is one from a finished source as well. -/
theorem Made.eq_ofSource (made : Made procedure kernel) :
    kernel = Kernel.ofSource procedure kernel.source kernel.target := by
  cases made with
  | ofSource source target => rfl
  | generate success =>
    unfold Kernel.generate at success
    dsimp only at success
    split at success
    · obtain rfl := Except.ok.inj success
      rfl
    · cases success

/-- A kernel of a procedure has that procedure. -/
theorem Made.procedure_eq (made : Made procedure kernel) : kernel.procedure = procedure :=
  congrArg Kernel.procedure made.eq_ofSource

variable {before after : FileTree}

/-- A file operation that others follow: it succeeded, and they started from the
tree that it left. -/
theorem run_fileStep_bind {α β : Type} {step : StateM FileTree (Except FileFault α)}
    {next : α → ExceptT Fault (StateM FileTree) β} {result : β}
    (success : (fileStep step >>= next).run.run before = (.ok result, after)) :
    ∃ value middle, step.run before = (.ok value, middle) ∧
      (next value).run.run middle = (.ok result, after) := by
  have unfolded : (fileStep step).run.run before =
      ((step.run before).1.mapError .file, (step.run before).2) := rfl
  rw [run_bind, unfolded] at success
  rcases ran : step.run before with ⟨fault | value, middle⟩
  · rw [ran] at success
    cases success
  · rw [ran] at success
    exact ⟨value, middle, rfl, success⟩

/-- The steps of a successful writing. -/
theorem write_steps {directory path : Path}
    (success : (kernel.write directory : ExceptT Fault (StateM FileTree) Path).run.run before =
      (.ok path, after)) :
    ∃ ready written, FileTree.AddsDirectories before ready ∧
      ready.write path kernel.source.toUTF8 = .ok written ∧
      written.write (Path.join directory kernel.manifestName) kernel.manifest.text.toUTF8 = .ok after ∧
      path = Path.join directory kernel.fileName := by
  obtain ⟨_, ready, made, rest⟩ := run_fileStep_bind success
  obtain ⟨_, written, source, rest⟩ := run_fileStep_bind rest
  obtain ⟨_, last, manifest, rest⟩ := run_fileStep_bind rest
  cases rest
  have adds := FileTree.OnlyAddsDirectories.ensureDirectories directory before
  rw [made] at adds
  exact ⟨ready, written, adds, FileTree.run_write_eq_ok source,
    FileTree.run_write_eq_ok manifest, rfl⟩

/-- No language uses the extension of manifests. -/
theorem extension_ne_json (language : Language) : language.extension ≠ ".json" := by
  cases language <;> decide

/-- What a directory holds after a kernel was written into it. -/
structure Consistent (procedure : Procedure) (kernel : Kernel) (directory path : Path)
    (before after : FileTree) : Prop where
  /-- The path is that of the file which the manifest names. -/
  path_eq : path = Path.join directory kernel.manifest.file
  source : after.read path = .ok kernel.source.toUTF8
  manifest : ∃ text,
    (Disk.readText (Path.join directory (procedure.name ++ ".json")) : StateM FileTree _).run after =
      (.ok text, after) ∧ Manifest.ofText? text = some kernel.manifest
  /-- The fingerprint is that of the content of the source file. -/
  fingerprint : ∃ content, (Disk.readText path : StateM FileTree _).run after = (.ok content, after) ∧
    VectorKernel.fingerprint ⟨kernel.manifest.language, kernel.manifest.architecture⟩ content =
      kernel.manifest.fingerprint
  parameters : kernel.manifest.parameters.map
      (fun parameter => (parameter.name, parameter.type, parameter.direction, parameter.dimension)) =
    procedure.parameters.map
      (fun parameter => (parameter.name, parameter.type.name, parameter.direction, parameter.dimension))
  working : after.working = before.working
  /-- The two are different files, and all other files are as they were. So is what locations hold,
  apart from the two files and new directories where nothing was. -/
  others : ∃ sourceNumber manifestNumber, sourceNumber ≠ manifestNumber ∧
    after.FileAt path sourceNumber ∧
    after.FileAt (Path.join directory (procedure.name ++ ".json")) manifestNumber ∧
    (∀ number, number ≠ sourceNumber → number ≠ manifestNumber →
      after.content number = before.content number) ∧
    ∀ location, after.holds? location = before.holds? location ∨
      before.holds? location = none ∧
        (after.holds? location = some .directory ∨ after.locate path = .ok location ∨
          after.locate (Path.join directory (procedure.name ++ ".json")) = .ok location)

/-- The paths of the source and of the manifest lead to one file, and it holds the manifest. -/
def Overwritten (procedure : Procedure) (kernel : Kernel) (directory path : Path) (after : FileTree) :
    Prop :=
  ∃ number, after.FileAt path number ∧
    after.FileAt (Path.join directory (procedure.name ++ ".json")) number ∧
    after.content number = kernel.manifest.text.toUTF8

/-- Writing that succeeds has written the source and then the manifest. -/
theorem wroteTwice_of_write {directory path : Path} (made : Made procedure kernel)
    (success : (kernel.write directory : ExceptT Fault (StateM FileTree) Path).run.run before =
      (.ok path, after)) :
    path = Path.join directory kernel.fileName ∧
      ∃ ready location other number otherNumber, FileTree.AddsDirectories before ready ∧
        FileTree.WroteTwice ready after path (Path.join directory (procedure.name ++ ".json")) location other
          number otherNumber kernel.source.toUTF8 kernel.manifest.text.toUTF8 := by
  obtain ⟨ready, written, adds, source, manifest, rfl⟩ := write_steps success
  rw [manifestName, made.procedure_eq] at manifest
  obtain ⟨location, other, number, otherNumber, wrote⟩ := FileTree.wroteTwice source manifest
  exact ⟨rfl, ready, location, other, number, otherNumber, adds, wrote⟩

/-- If source and manifest are different files, they are read back and nothing else changes. -/
theorem consistent_of_wroteTwice {directory : Path} {ready : FileTree} {location other : List String}
    {number otherNumber : Nat} (made : Made procedure kernel)
    (adds : FileTree.AddsDirectories before ready)
    (wrote : FileTree.WroteTwice ready after (Path.join directory kernel.fileName)
      (Path.join directory (procedure.name ++ ".json")) location other number otherNumber
      kernel.source.toUTF8 kernel.manifest.text.toUTF8) (apart : number ≠ otherNumber) :
    Consistent procedure kernel directory (Path.join directory kernel.fileName) before after := by
  have sourceFile : after.FileAt _ number := ⟨location, wrote.located, wrote.entry⟩
  have manifestFile : after.FileAt _ otherNumber := ⟨other, wrote.otherLocated, wrote.otherEntry⟩
  have sourceRead := wrote.content apart ▸ sourceFile.read
  have manifestRead := wrote.otherContent ▸ manifestFile.read
  have parsed : Manifest.ofText? kernel.manifest.text = some kernel.manifest := by
    rw [Manifest.ofText?, kernel.manifest.read_text]
    exact kernel.manifest.ofJson?_toJson
  exact {
    path_eq := rfl
    source := sourceRead
    manifest := ⟨_, FileTree.readText_eq_ok manifestRead, parsed⟩
    fingerprint := ⟨_, FileTree.readText_eq_ok sourceRead,
      (congrArg Kernel.fingerprint made.eq_ofSource).symm⟩
    parameters := by
      rw [← made.procedure_eq, Kernel.manifest, List.map_map]
      rfl
    working := wrote.keeps.working.trans adds.working
    others := by
      refine ⟨number, otherNumber, apart, sourceFile, manifestFile, ?_, fun place => ?_⟩
      · intro file notSource notManifest
        rw [wrote.contents file notSource notManifest, FileTree.content, adds.contents, FileTree.content]
      · rcases wrote.entries place with same | ⟨absent, here⟩
        · rw [same]
          exact (adds.entries place).imp_right (And.imp_right .inl)
        · refine .inr ⟨?_, .inr ?_⟩
          · rcases adds.entries place with same | ⟨absent, -⟩
            · rw [← same, absent]
            · exact absent
          · rcases here with rfl | rfl
            · exact .inl wrote.located
            · exact .inr wrote.otherLocated }

/-- A kernel whose name leads out of the directory it is written into. -/
def scaling : Kernel :=
  .ofSource { name := "../scale", parameters := [⟨"x", NumericType.float 32, .inout, some "n"⟩] }
    "void scale(float x[n]);\n" ⟨.c, .generic⟩

/-- A directory with an earlier source of the kernel and a file of another use, and a link to it. -/
def scalingBefore : FileTree :=
  ((FileTree.empty.plantFile ["out", "scale.c"] "old".toUTF8).plantFile ["out", "notes"]
    "kept".toUTF8).plant ["current"] (.link "out")

/-- What is there after the kernel was written below the directory that the link leads to. -/
def scalingAfter : FileTree :=
  ((scaling.write "current/new" : ExceptT Fault (StateM FileTree) Path).run.run scalingBefore).2

/-- A manifest that is linked to the source is written over it. -/
example :
    (((scaling.write "current/new" : ExceptT Fault (StateM FileTree) Path).run.run
      (scalingBefore.plant ["out", "scale.json"] (.link "scale.c"))).2.locate
        "current/new/../scale.json") = .ok ["working directory", "out", "scale.c"] := by
  decide +kernel

end VectorKernel.Kernel
