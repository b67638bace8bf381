import AtomsPlatform.Quality.Adapters
import AtomsPlatform.Run.FilePaths

/-!
# Fingerprints of projects

The snapshot of a project that the assessors take a fingerprint of. The schemas of writers bound every
path and content more than the schema of snapshots does, except that a writer may use empty and `.`
segments in a path; and a snapshot has a bounded number of files, and at least one.
-/

namespace AtomsPlatform.Release
open Run Quality
variable {Output : Type} {outputs : AgentOutputs Output} {s : RunStore Output} {projectId : Uuid}

/-- The files of a project, as the assessors read them. -/
def snapshotOf (s : RunStore Output) (projectId : Uuid) : List SnapshotFile :=
  (s.projectFiles projectId).map fun file => ⟨file.path, file.version, file.content⟩

/-- Whether a path has neither empty nor `.` segments. -/
def isDirect (path : String) : Bool :=
  (Posix.segments path).all fun segment => !Posix.isIdle segment

/-- What the schema of snapshots asks of an accepted file beyond its own schema. -/
lemma snapshotFile_valid {path content : String} {version : Nat} (accepted : AcceptedFile path content)
    (numbered : 1 ≤ version) :
    (⟨path, version, content⟩ : SnapshotFile).valid = true ↔
      isDirect path = true ∧ version ≤ maxSafeInteger := by
  obtain ⟨relative, -, bounded⟩ := accepted
  simp only [isProjectFilePath, Bool.and_eq_true, decide_eq_true_eq] at relative
  obtain ⟨⟨⟨⟨nonempty, short⟩, inside⟩, posix⟩, climbs⟩ := relative
  have small : Utf16.lengthOf content ≤ 5000000 :=
    (of_decide_eq_true bounded).trans (by decide)
  have segments : ((path.toList.splitOn '/').all fun segment =>
        segment != [] && segment != ['.'] && segment != ['.', '.']) = isDirect path := by
    rw [isDirect, Bool.eq_iff_iff, List.all_eq_true, List.all_eq_true]
    constructor
    · intro each segment mem
      have here := each segment mem
      simp only [Bool.and_eq_true, bne_iff_ne] at here
      simp [Posix.isIdle, here.1.1, here.1.2]
    · intro each segment mem
      have here := each segment mem
      simp only [Posix.isIdle, Bool.not_eq_true', Bool.or_eq_false_iff, decide_eq_false_iff_not] at here
      have up : segment ≠ ['.', '.'] := fun same => climbs (same ▸ mem)
      simp [here.1, here.2, up]
  simp only [SnapshotFile.valid, segments, Bool.and_eq_true, decide_eq_true_eq]
  constructor
  · rintro ⟨⟨⟨⟨-, direct⟩, -⟩, safe⟩, -⟩
    exact ⟨direct, safe⟩
  · rintro ⟨direct, safe⟩
    exact ⟨⟨⟨⟨⟨⟨⟨nonempty, short⟩, inside⟩, posix⟩, direct⟩, numbered⟩, safe⟩, small⟩

/-- When a snapshot has a fingerprint. -/
lemma fingerprint_ok {files : List SnapshotFile} :
    (∃ digest, fingerprintProjectSnapshot files = .ok digest) ↔
      1 ≤ files.length ∧ files.length ≤ 1000 ∧ (∀ file ∈ files, file.valid = true) ∧
        (files.map SnapshotFile.path).Nodup := by
  constructor
  · rintro ⟨digest, e⟩
    rw [fingerprintProjectSnapshot] at e
    cases parsed : parseQualityInput (fun files : List SnapshotFile => 1 ≤ files.length &&
        files.length ≤ 1000 && files.all SnapshotFile.valid) files with
    | error error =>
      rw [parsed] at e
      cases e
    | ok files' =>
      rw [parsed] at e
      rw [parseQualityInput] at parsed
      split at parsed
      · rename_i valid
        cases parsed
        simp only [Bool.and_eq_true, decide_eq_true_eq, List.all_eq_true] at valid
        refine ⟨valid.1.1, valid.1.2, valid.2, ?_⟩
        by_contra twice
        replace e : (if (files.map SnapshotFile.path).Nodup then
          pure (Sha256.hexDigest ((canonicalJson files).flatMap String.utf8EncodeChar))
          else throw {} : Except QualityInputError String) = .ok digest := e
        rw [if_neg twice] at e
        cases e
      · cases parsed
  · rintro ⟨some, few, valid, distinct⟩
    have parsed : parseQualityInput (fun files : List SnapshotFile => 1 ≤ files.length &&
        files.length ≤ 1000 && files.all SnapshotFile.valid) files = .ok files := by
      rw [parseQualityInput, if_pos]
      simp only [Bool.and_eq_true, decide_eq_true_eq, List.all_eq_true]
      exact ⟨⟨some, few⟩, valid⟩
    rw [fingerprintProjectSnapshot, parsed]
    exact ⟨_, if_pos distinct⟩

/-- A project whose writes were all accepted has a fingerprint exactly if it has between 1 and 1000
    files, no path with an empty or a `.` segment, and no version number beyond the safe integers. -/
theorem fingerprint_of_accepted {history : List (Call Output)} (empty : s.files = [])
    (accepted : ∀ call ∈ history, call.operation.Accepted) :
    (∃ digest, fingerprintProjectSnapshot
        (snapshotOf (execute outputs s history) projectId) = .ok digest) ↔
      1 ≤ ((execute outputs s history).projectFiles projectId).length ∧
      ((execute outputs s history).projectFiles projectId).length ≤ 1000 ∧
      ∀ file ∈ (execute outputs s history).projectFiles projectId,
        isDirect file.path = true ∧ file.version ≤ maxSafeInteger := by
  have start : s.FilesAccepted := by
    constructor <;>
    · intro f mem
      rw [empty] at mem
      cases mem
  have all := execute_accepted outputs start accepted
  generalize execute outputs s history = s' at all ⊢
  have paths : (snapshotOf s' projectId).map SnapshotFile.path =
      (s'.projectFiles projectId).map AgentProjectFile.path := by
    rw [snapshotOf, List.map_map]
    rfl
  have each : (∀ file ∈ snapshotOf s' projectId, file.valid = true) ↔
      ∀ file ∈ s'.projectFiles projectId, isDirect file.path = true ∧
        file.version ≤ maxSafeInteger := by
    rw [snapshotOf, List.forall_mem_map]
    apply forall₂_congr
    intro file mem
    obtain ⟨acceptedFile, numbered⟩ := all.file mem
    exact snapshotFile_valid acceptedFile numbered
  rw [fingerprint_ok, paths, each, snapshotOf, List.length_map]
  constructor
  · rintro ⟨some, few, valid, -⟩
    exact ⟨some, few, valid⟩
  · rintro ⟨some, few, valid⟩
    exact ⟨some, few, valid, projectFiles_nodup⟩

section Scenario

/-- A user writes files, one after the other. -/
def writes (files : List (String × String)) : List (Call Unit) :=
  files.map fun file => { operation := .putProjectFile 1 ⟨file.1, file.2, 0⟩ }

lemma writes_accepted {files : List (String × String)}
    (parsed : ∀ file ∈ files, (⟨file.1, file.2, 0⟩ : FileContentInput).parse =
      some ⟨file.1, file.2, 0⟩) : ∀ call ∈ writes files, call.operation.Accepted := by
  intro call mem
  obtain ⟨file, written, rfl⟩ := List.mem_map.mp mem
  exact ⟨_, parsed file written⟩

/-- A user's write to `src/./index.ts` is accepted, and the project has no fingerprint then. -/
theorem dotSegment_counterexample :
    (∀ call ∈ writes [("src/./index.ts", "")], call.operation.Accepted) ∧
      fingerprintProjectSnapshot
        (snapshotOf (execute silentOutputs {} (writes [("src/./index.ts", "")])) 1) = .error {} :=
  ⟨writes_accepted (by decide), by decide⟩

/-- A project with one ordinary file. -/
theorem fingerprint_of_accepted_index :
    (∃ digest, fingerprintProjectSnapshot
        (snapshotOf (execute silentOutputs {} (writes [("src/index.ts", "")])) 1) = .ok digest) ↔
      1 ≤ ((execute silentOutputs {} (writes [("src/index.ts", "")])).projectFiles 1).length ∧
      ((execute silentOutputs {} (writes [("src/index.ts", "")])).projectFiles 1).length ≤ 1000 ∧
      ∀ file ∈ (execute silentOutputs {} (writes [("src/index.ts", "")])).projectFiles 1,
        isDirect file.path = true ∧ file.version ≤ maxSafeInteger :=
  fingerprint_of_accepted rfl (writes_accepted (by decide))

end Scenario

end AtomsPlatform.Release
