import AtomsPlatform.Release.Fingerprint
import AtomsPlatform.Release.Runner

/-!
# Restoring a project in a sandbox

The files that a validation writes into its sandbox, and what is found there afterwards. The store
compares paths as texts and the sandbox resolves them, so a project is restored faithfully as long as
no two of its paths differ in empty and `.` segments only.
-/

namespace AtomsPlatform.Release
open Run
variable {Output : Type} {outputs : AgentOutputs Output} {s : RunStore Output} {projectId : Uuid}
  {options : RunnerOptions}

/-- The files of a project, as the validator gives them to the runner. -/
def validationFiles (s : RunStore Output) (projectId : Uuid) : List SandboxFileInput :=
  (s.projectFiles projectId).map fun file => ⟨file.path, file.content⟩

/-- The files that the runner writes for the files it is given. -/
def restoredFiles (options : RunnerOptions) (files : List SandboxFileInput) : List SandboxFileInput :=
  files.map fun file => { file with path := options.projectDirectory ++ "/" ++ file.path }

section Runner
variable {M : Type → Type} [Monad M] [MonadExcept Thrown M] {provider : SandboxProvider M}
  {hooks : ProjectValidationHooks M}

end Runner

/-- The disk of a sandbox: locations of files, and their contents. -/
abbrev SandboxDisk : Type :=
  Disk (List (List Char)) String

/-- Writing files into a sandbox: each path is resolved, and a later file replaces an earlier one. -/
def writeSandboxFiles (files : List SandboxFileInput) (disk : SandboxDisk) : SandboxDisk :=
  Disk.writeAll (fun file => Posix.resolve file.path) SandboxFileInput.content files disk

/-- Where a file of a project is restored. -/
def restoredAt (options : RunnerOptions) (path : String) : List (List Char) :=
  Posix.resolve (options.projectDirectory ++ "/" ++ path)

/-- A project was restored faithfully: different paths are restored to different files, there are no
    other files, and each path reads as the content of its file. -/
structure RestoredFaithfully (options : RunnerOptions) (files : List AgentProjectFile)
    (disk : SandboxDisk) : Prop where
  injective : ∀ file ∈ files, ∀ other ∈ files,
    restoredAt options file.path = restoredAt options other.path → file.path = other.path
  surjective : ∀ location, disk location ≠ none →
    ∃ file ∈ files, restoredAt options file.path = location
  reads : ∀ file ∈ files, disk (restoredAt options file.path) = some file.content

/-- Two paths that differ in empty and `.` segments only. -/
def Aliases (path other : String) : Prop :=
  path ≠ other ∧ Posix.resolve path = Posix.resolve other

lemma restoredAt_eq {path other : String} :
    restoredAt options path = restoredAt options other ↔
      Posix.resolve path = Posix.resolve other := by
  rw [restoredAt, restoredAt, Posix.resolve_join, Posix.resolve_join, List.append_cancel_left_eq]

/-- The runner's schema trims the paths of files; accepted paths are trimmed already. -/
lemma parseFiles_accepted {files restored : List SandboxFileInput}
    (trimmed : ∀ file ∈ files, Utf16.trimString file.path = file.path)
    (parsed : parseFiles files = .ok restored) : restored = files := by
  have same : (files.map fun file => { file with path := Utf16.trimString file.path }) = files := by
    have each : ∀ file ∈ files,
        (fun file : SandboxFileInput => { file with path := Utf16.trimString file.path }) file =
          id file := by
      intro file mem
      simp only [trimmed file mem, id]
    rw [List.map_congr_left each, List.map_id]
  simp only [parseFiles, same] at parsed
  split at parsed
  · cases parsed
    rfl
  · cases parsed

section Scenario

/-- A project in which two paths denote the same file. -/
def aliasedWrites : List (String × String) :=
  [("package.json", "\x7b\x7d"), ("a.ts", "old"), ("./a.ts", "new")]

/-- A project with two paths that are not aliases. -/
def plainWrites : List (String × String) :=
  [("package.json", "\x7b\x7d"), ("a.ts", "new")]

end Scenario

end AtomsPlatform.Release
