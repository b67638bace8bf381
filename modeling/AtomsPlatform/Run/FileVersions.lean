import AtomsPlatform.Run.Rows
import Mathlib.Data.List.Dedup
import Mathlib.Data.List.Nodup
import Mathlib.Data.List.Range

/-!
# Versions of project files

Every writer of project files states the version it expects, and the stored versions of a path are
1, 2, 3, … in the order in which they were written (`VersionsInOrder`). So an accepted write comes
directly after the version its writer has seen. A patch of several files is written as a whole or not
at all. An agent's patch expects the versions of the snapshot the agent was shown
(`alignExpectedVersions`), so a user's write after the snapshot turns the patch down.
-/

namespace AtomsPlatform.Run
variable {Output : Type} {outputs : AgentOutputs Output} {s s' : RunStore Output}
  {projectId : Uuid} {path : String}

/-- The stored versions of every path are 1, 2, 3, … in the order in which they were written. -/
def RunStore.VersionsInOrder (s : RunStore Output) : Prop :=
  ∀ projectId path, (s.versionsOf projectId path).map ProjectFile.version =
    List.range' 1 (s.versionsOf projectId path).length

/-- Of versions with increasing numbers, the newest is the last. -/
lemma newest_eq_getLast {l : List ProjectFile}
    (sorted : (l.map ProjectFile.version).Pairwise (· < ·)) :
    RunStore.newest l = l.getLast? := by
  induction l with
  | nil => rfl
  | cons f fs ih =>
    obtain ⟨first, rest⟩ := List.pairwise_cons.mp sorted
    simp only [RunStore.newest, ih rest, List.getLast?_cons]
    cases e : fs.getLast? with
    | none => rfl
    | some g =>
      have lt : f.version < g.version :=
        first g.version (List.mem_map_of_mem (List.mem_of_getLast? e))
      simp [Nat.not_le_of_lt lt]

namespace RunStore.VersionsInOrder

lemma latestFile (inOrder : s.VersionsInOrder) :
    s.latestFile projectId path = (s.versionsOf projectId path).getLast? := by
  apply newest_eq_getLast
  rw [inOrder projectId path]
  exact List.pairwise_lt_range'

/-- The version of the newest file is the number of versions. -/
lemma latestVersion (inOrder : s.VersionsInOrder) :
    s.latestVersion projectId path = (s.versionsOf projectId path).length := by
  have last := congrArg List.getLast? (inOrder projectId path)
  simp only [RunStore.latestVersion, inOrder.latestFile, ← List.getLast?_map, last]
  cases (s.versionsOf projectId path).length with
  | zero => rfl
  | succ n => simp [List.range'_1_concat, Nat.add_comm]

end RunStore.VersionsInOrder

/-- The versions of a path after a file was added. -/
lemma versionsOf_append {file : ProjectFile} :
    ({ s with files := s.files ++ [file] } : RunStore Output).versionsOf projectId path =
      s.versionsOf projectId path ++
        if file.projectId = projectId ∧ file.filePath = path then [file] else [] := by
  by_cases e : file.projectId = projectId ∧ file.filePath = path <;>
    simp [RunStore.versionsOf, e]

/-- Creating the version after one that exists succeeds only if that one is the latest, and keeps the
    versions in order. -/
lemma createFile_inOrder {content : String} {version : Nat} (inOrder : s.VersionsInOrder)
    (e : s.createFile ⟨projectId, path, content, version + 1⟩ = .ok s')
    (known : version ≤ s.latestVersion projectId path) :
    version = s.latestVersion projectId path ∧ s'.VersionsInOrder := by
  obtain ⟨rfl, unique⟩ := createFile_ok e
  rw [inOrder.latestVersion] at known ⊢
  have latest : version = (s.versionsOf projectId path).length := by
    by_contra older
    have stored : version + 1 ∈ (s.versionsOf projectId path).map ProjectFile.version := by
      rw [inOrder projectId path, List.mem_range'_1]
      omega
    obtain ⟨f, mem, same⟩ := List.mem_map.mp stored
    simp only [RunStore.versionsOf, List.mem_filter, decide_eq_true_eq] at mem
    exact unique f mem.1 mem.2.1 mem.2.2 same
  refine ⟨latest, ?_⟩
  intro projectId' path'
  rw [versionsOf_append]
  split
  · rename_i same
    obtain ⟨rfl, rfl⟩ := same
    rw [List.map_append, inOrder, List.length_append, List.length_singleton,
      List.range'_1_concat, latest]
    simp [Nat.add_comm]
  · simpa using inOrder projectId' path'

section Patches
variable {plans : List FilePlan} {paths : List String} {files : List AgentGeneratedFile}

/-- The plan of a file that passes the check. -/
def planOf (s : RunStore Output) (projectId : Uuid) (f : AgentGeneratedFile) : FilePlan where
  path := f.path
  content := f.content
  actualVersion := s.latestVersion projectId f.path
  shouldWrite := (s.latestFile projectId f.path).map ProjectFile.content ≠ some f.content

/-- A patch that passes the check expects the latest version of each of its paths. -/
lemma planFiles_ok (e : planFiles s projectId files = .ok plans) :
    (∀ f ∈ files, f.expectedVersion = s.latestVersion projectId f.path) ∧
      plans = files.map (planOf s projectId) := by
  induction files generalizing plans with
  | nil =>
    cases e
    exact ⟨by simp, rfl⟩
  | cons f files ih =>
    simp only [planFiles] at e
    split at e
    · cases e
    · rename_i expected
      obtain ⟨rest, checked, e⟩ := map_eq_ok e
      obtain ⟨all, rfl⟩ := ih checked
      cases e
      refine ⟨?_, rfl⟩
      intro g mem
      obtain rfl | mem := List.mem_cons.mp mem
      · exact (not_not.mp expected).symm
      · exact all g mem

/-- A patch with an outdated expectation does not pass the check. -/
lemma planFiles_conflict {f : AgentGeneratedFile} (mem : f ∈ files)
    (outdated : f.expectedVersion ≠ s.latestVersion projectId f.path) :
    ∃ conflict, planFiles s projectId files = .error conflict := by
  cases e : planFiles s projectId files with
  | error conflict => exact ⟨conflict, rfl⟩
  | ok plans => exact absurd ((planFiles_ok e).1 f mem) outdated

/-- Writing the first plan: a version is added if there is something to write. -/
lemma writePlans_cons {plan : FilePlan}
    (e : writePlans projectId (plan :: plans) s = .ok (paths, s')) :
    (plan.shouldWrite = false ∧ writePlans projectId plans s = .ok (paths, s')) ∨
    (plan.shouldWrite = true ∧ ∃ s₁ paths',
      s.createFile ⟨projectId, plan.path, plan.content, plan.actualVersion + 1⟩ = .ok s₁ ∧
        writePlans projectId plans s₁ = .ok (paths', s')) := by
  simp only [writePlans] at e
  split at e
  · rename_i writes
    split at e
    · cases e
    · rename_i s₁ created
      obtain ⟨⟨paths', s₂⟩, rest, e⟩ := map_eq_ok e
      cases e
      exact .inr ⟨writes, s₁, paths', created, rest⟩
  · rename_i writes
    exact .inl ⟨by simpa using writes, e⟩

/-- Creating a file lowers no latest version. -/
lemma latestVersion_created {file : ProjectFile} {projectId' : Uuid} {path' : String}
    (inOrder : s.VersionsInOrder) (inOrder' : s'.VersionsInOrder)
    (created : s.createFile file = .ok s') :
    s.latestVersion projectId' path' ≤ s'.latestVersion projectId' path' := by
  rw [inOrder.latestVersion, inOrder'.latestVersion, (createFile_ok created).1, versionsOf_append,
    List.length_append]
  exact Nat.le_add_right _ _

/-- Writing plans for versions that exist keeps the versions in order. -/
lemma writePlans_inOrder (inOrder : s.VersionsInOrder)
    (known : ∀ plan ∈ plans, plan.actualVersion ≤ s.latestVersion projectId plan.path)
    (e : writePlans projectId plans s = .ok (paths, s')) : s'.VersionsInOrder := by
  induction plans generalizing s paths with
  | nil =>
    cases e
    exact inOrder
  | cons plan plans ih =>
    obtain ⟨-, rest⟩ | ⟨-, s₁, paths', created, rest⟩ := writePlans_cons e
    · exact ih inOrder (fun p mem => known p (List.mem_cons_of_mem _ mem)) rest
    · obtain ⟨latest, inOrder₁⟩ := createFile_inOrder inOrder created (known plan List.mem_cons_self)
      refine ih inOrder₁ ?_ rest
      intro p mem
      have before := known p (List.mem_cons_of_mem _ mem)
      exact before.trans (latestVersion_created inOrder inOrder₁ created)

/-- Plans leave the paths alone for which there is nothing to write. -/
lemma writePlans_other (e : writePlans projectId plans s = .ok (paths, s'))
    {projectId' : Uuid} (unwritten : ∀ plan ∈ plans, plan.shouldWrite = true →
      ¬ (projectId = projectId' ∧ plan.path = path)) :
    s'.versionsOf projectId' path = s.versionsOf projectId' path := by
  induction plans generalizing s paths with
  | nil =>
    cases e
    rfl
  | cons plan plans ih =>
    have others := fun p mem => unwritten p (List.mem_cons_of_mem plan mem)
    obtain ⟨-, rest⟩ | ⟨writes, s₁, paths', created, rest⟩ := writePlans_cons e
    · exact ih rest others
    · rw [ih rest others, (createFile_ok created).1, versionsOf_append,
        if_neg (unwritten plan List.mem_cons_self writes), List.append_nil]

/-- After plans for distinct paths are written, the latest file of a written path is the planned
    one. -/
lemma writePlans_written (inOrder : s.VersionsInOrder)
    (known : ∀ plan ∈ plans, plan.actualVersion ≤ s.latestVersion projectId plan.path)
    (distinct : (plans.map FilePlan.path).Nodup)
    (e : writePlans projectId plans s = .ok (paths, s')) {plan : FilePlan} (mem : plan ∈ plans)
    (writes : plan.shouldWrite = true) :
    s'.latestFile projectId plan.path =
      some ⟨projectId, plan.path, plan.content, plan.actualVersion + 1⟩ := by
  induction plans generalizing s paths with
  | nil => cases mem
  | cons p plans ih =>
    obtain ⟨notLater, distinct⟩ := List.nodup_cons.mp distinct
    have others := fun q mem => known q (List.mem_cons_of_mem p mem)
    obtain ⟨unwritten, rest⟩ | ⟨-, s₁, paths', created, rest⟩ := writePlans_cons e
    · obtain rfl | mem := List.mem_cons.mp mem
      · rw [writes] at unwritten
        cases unwritten
      · exact ih inOrder others distinct rest mem
    · obtain ⟨-, inOrder₁⟩ := createFile_inOrder inOrder created (known p List.mem_cons_self)
      have others₁ : ∀ q ∈ plans, q.actualVersion ≤ s₁.latestVersion projectId q.path :=
        fun q mem => (others q mem).trans (latestVersion_created inOrder inOrder₁ created)
      obtain rfl | mem := List.mem_cons.mp mem
      · -- The rest of the patch does not touch this path again.
        rw [(writePlans_inOrder inOrder₁ others₁ rest).latestFile, writePlans_other rest,
          (createFile_ok created).1, versionsOf_append]
        · simp
        · intro q mem _ same
          apply notLater
          rw [← same.2]
          exact List.mem_map_of_mem mem
      · exact ih inOrder₁ others₁ distinct rest mem

/-- A patch that was applied as a whole: it expected the latest versions, and leaves each of its
    paths with the content it has for it. -/
structure Patched (projectId : Uuid) (files : List AgentGeneratedFile) (s s' : RunStore Output) :
    Prop where
  expected : ∀ f ∈ files, f.expectedVersion = s.latestVersion projectId f.path
  applied : (files.map AgentGeneratedFile.path).Nodup → ∀ f ∈ files,
    (s'.latestFile projectId f.path).map ProjectFile.content = some f.content
  others : ∀ projectId' path, ¬ (projectId = projectId' ∧ path ∈ files.map AgentGeneratedFile.path) →
    s'.versionsOf projectId' path = s.versionsOf projectId' path
  grows : s.files <+: s'.files

/-- Plans that were checked and written are an applied patch. -/
lemma patched (inOrder : s.VersionsInOrder) (planned : planFiles s projectId files = .ok plans)
    (written : writePlans projectId plans s = .ok (paths, s')) :
    Patched projectId files s s' ∧ s'.VersionsInOrder := by
  obtain ⟨expected, rfl⟩ := planFiles_ok planned
  have known : ∀ plan ∈ files.map (planOf s projectId),
      plan.actualVersion ≤ s.latestVersion projectId plan.path := by
    intro plan mem
    obtain ⟨f, -, rfl⟩ := List.mem_map.mp mem
    exact Nat.le_refl _
  have inOrder' := writePlans_inOrder inOrder known written
  refine ⟨?_, inOrder'⟩
  constructor
  case expected => exact expected
  case applied =>
    intro distinct f mem
    by_cases writes : (planOf s projectId f).shouldWrite = true
    · have paths : (files.map (planOf s projectId)).map FilePlan.path =
          files.map AgentGeneratedFile.path := by
        simp [planOf]
      have latest := writePlans_written inOrder known (paths ▸ distinct) written
        (List.mem_map_of_mem mem) writes
      rw [show f.path = (planOf s projectId f).path from rfl, latest]
      rfl
    · have unchanged : s'.versionsOf projectId f.path = s.versionsOf projectId f.path := by
        refine writePlans_other written ?_
        intro plan mem' writes' same
        obtain ⟨g, mem_g, rfl⟩ := List.mem_map.mp mem'
        cases List.inj_on_of_nodup_map distinct mem_g mem same.2
        exact writes writes'
      rw [inOrder'.latestFile, unchanged, ← inOrder.latestFile]
      simpa [planOf] using writes
  case others =>
    intro projectId' path other
    refine writePlans_other written ?_
    intro plan mem _ same
    obtain ⟨f, mem_f, rfl⟩ := List.mem_map.mp mem
    exact other ⟨same.1, List.mem_map.mpr ⟨f, mem_f, same.2⟩⟩
  case grows =>
    obtain ⟨added, rfl⟩ := writePlans_files written
    exact List.prefix_append _ _

end Patches

section Steps
variable {s₀ s₁ : RunStore Output} {o : Operation Output}

lemma RunStore.VersionsInOrder.of_files (inOrder : s.VersionsInOrder) (same : s'.files = s.files) :
    s'.VersionsInOrder := by
  intro projectId path
  simp only [RunStore.versionsOf, same]
  exact inOrder projectId path

lemma RunStore.VersionsInOrder.touched {runId : Uuid} {version : Nat} {now : Date}
    (inOrder : s.VersionsInOrder) : (s.touched runId version now).VersionsInOrder :=
  inOrder.of_files rfl

/-- Whether a patch was applied shows in the files only. -/
lemma Patched.of_files {files : List AgentGeneratedFile} (patched : Patched projectId files s₀ s₁)
    (before : s₀.files = s.files) (after : s'.files = s₁.files) :
    Patched projectId files s s' := by
  have latest (path : String) : s₀.latestVersion projectId path = s.latestVersion projectId path := by
    simp only [RunStore.latestVersion, RunStore.latestFile, RunStore.versionsOf, before]
  constructor
  case expected =>
    intro f mem
    rw [patched.expected f mem, latest]
  case applied =>
    intro distinct f mem
    simpa only [RunStore.latestFile, RunStore.versionsOf, after] using patched.applied distinct f mem
  case others =>
    intro projectId' path other
    simpa only [RunStore.versionsOf, before, after] using patched.others projectId' path other
  case grows =>
    rw [← before, after]
    exact patched.grows

/-- A patch of files by the worker, with the run and the control version it insists on. -/
structure Patch where
  runId : Uuid
  expectedControlVersion : Nat
  now : Date
  files : List AgentGeneratedFile

/-- The patch of an operation. -/
def Operation.patch? : Operation Output → Option Patch
  | .completeTask input =>
    some ⟨input.runId, input.expectedControlVersion, input.now, input.generatedFiles.getD []⟩
  | .applyGeneratedFiles input =>
    some ⟨input.runId, input.expectedControlVersion, input.now, input.generatedFiles⟩
  | _ => none

/-- Nothing of a patch is stored: at most the heartbeat of the run has changed. -/
def TurnedDown (patch : Patch) (s s' : RunStore Output) : Prop :=
  s' = s ∨ s' = s.touched patch.runId patch.expectedControlVersion patch.now

/-- What an operation can do to the files. -/
inductive FilesChange (o : Operation Output) (s s' : RunStore Output) : Prop where
  | kept :
    s'.files = s.files →
    (∀ patch, o.patch? = some patch → TurnedDown patch s s') →
    FilesChange o s s'
  | written {projectId input} :
    o = .putProjectFile projectId input →
    input.expectedVersion = s.latestVersion projectId input.filePath →
    s' = { s with
      files := s.files ++ [⟨projectId, input.filePath, input.content, input.expectedVersion + 1⟩] } →
    FilesChange o s s'
  | patched {patch run} :
    o.patch? = some patch →
    s.run? patch.runId = some run →
    Patched run.projectId patch.files s s' →
    FilesChange o s s'

/-- A user's write is accepted at the version it expects, or nothing is written. -/
lemma putProjectFile_filesChange {input : FileContentInput} {found : Bool}
    {result : PutProjectFileResult} (inOrder : s.VersionsInOrder)
    (e : putProjectFile projectId input found s = .ok (result, s')) :
    FilesChange (.putProjectFile projectId input) s s' ∧ s'.VersionsInOrder := by
  unfold putProjectFile at e
  split at e
  · cases e
    exact ⟨.kept rfl (fun _ none => nomatch none), inOrder⟩
  extract_lets latest actualVersion expectedMatches file at e
  split at e
  · rename_i matches_
    obtain ⟨s₁, created, e⟩ := map_eq_ok e
    cases e
    have actual : actualVersion.getD 0 = s.latestVersion projectId input.filePath := rfl
    have expected : input.expectedVersion = s.latestVersion projectId input.filePath := by
      rw [← actual]
      simp only [expectedMatches] at matches_
      split at matches_
      · rename_i zero
        simp only [Option.isNone_iff_eq_none] at matches_
        simp [actualVersion, matches_, zero]
      · rw [of_decide_eq_true matches_]
        rfl
    obtain ⟨-, inOrder'⟩ := createFile_inOrder inOrder created actual.le
    refine ⟨.written rfl expected ?_, inOrder'⟩
    rw [(createFile_ok created).1, expected, ← actual]
  · cases e
    exact ⟨.kept rfl (fun _ none => nomatch none), inOrder⟩

/-- The row a transaction of the worker reads is that of the run, with a new heartbeat. -/
lemma run?_touched {runId : Uuid} {version : Nat} {now : Date} {run₀ : AgentRun}
    (row : (s.touched runId version now).run? runId = some run₀) :
    ∃ run, s.run? runId = some run ∧ run₀.projectId = run.projectId := by
  rw [RunStore.touched, run?_updateRun ?keeps] at row
  case keeps => exact fun _ e => e
  obtain ⟨run, before, rfl⟩ := Option.map_eq_some_iff.mp row
  refine ⟨run, before, ?_⟩
  split <;> rfl

lemma touched_run? {runId : Uuid} {run : AgentRun} (row : s.run? runId = some run)
    (version : Nat) (now : Date) : ∃ run₀,
      (s.touched runId version now).run? runId = some run₀ ∧ run₀.projectId = run.projectId := by
  rw [RunStore.touched, run?_updateRun ?keeps, row]
  case keeps => exact fun _ e => e
  refine ⟨_, rfl, ?_⟩
  dsimp only
  split <;> rfl

lemma completeTask_filesChange {input : CompleteTaskInput Output} {artifactId : Uuid}
    {result : PatchResult (WorkerTaskRecord Output)} (inOrder : s.VersionsInOrder)
    (e : completeTask outputs input artifactId s = .ok (result, s')) :
    FilesChange (.completeTask input) s s' ∧ s'.VersionsInOrder := by
  obtain ⟨-, -, rfl⟩ | ⟨s₀, current, rfl, task, effect⟩ := completeTask_cases e
  · exact ⟨.kept rfl fun _ _ => .inl rfl, inOrder⟩
  obtain ⟨-, -, rfl⟩ | ⟨-, run, row, ⟨conflict, -, -, rfl⟩ | applied⟩ := effect
  · exact ⟨.kept rfl fun _ some => by cases some; exact .inr rfl, inOrder.touched⟩
  · exact ⟨.kept rfl fun _ some => by cases some; exact .inr rfl, inOrder.touched⟩
  · obtain ⟨plans, paths, s₁, planned, written, finished⟩ := applied
    obtain ⟨-, files, -⟩ := finishTask_ok finished
    obtain ⟨patched, inOrder₁⟩ := patched inOrder.touched planned written
    obtain ⟨run', row', project⟩ := run?_touched row
    rw [project] at patched
    exact ⟨.patched rfl row' (patched.of_files rfl files), inOrder₁.of_files files⟩

lemma applyGeneratedFiles_filesChange {input : ApplyGeneratedFilesInput}
    {result : PatchResult (List String)} (inOrder : s.VersionsInOrder)
    (e : applyGeneratedFiles input s = .ok (result, s')) :
    FilesChange (.applyGeneratedFiles input : Operation Output) s s' ∧ s'.VersionsInOrder := by
  obtain ⟨-, -, rfl⟩ | ⟨s₀, run, rfl, row, effect⟩ := applyGeneratedFiles_cases e
  · exact ⟨.kept rfl fun _ _ => .inl rfl, inOrder⟩
  obtain ⟨conflict, -, -, rfl⟩ | ⟨plans, paths, s₁, planned, written, -, rfl⟩ := effect
  · exact ⟨.kept rfl fun _ some => by cases some; exact .inr rfl, inOrder.touched⟩
  · obtain ⟨patched, inOrder₁⟩ := patched inOrder.touched planned written
    obtain ⟨run', row', project⟩ := run?_touched row
    rw [project] at patched
    exact ⟨.patched rfl row' (patched.of_files rfl rfl), inOrder₁.of_files rfl⟩

/-- The step lemma of file versions. -/
lemma perform_filesChange (outputs : AgentOutputs Output) (o : Operation Output) (env : Environment)
    (inOrder : s.VersionsInOrder) :
    FilesChange o s (perform outputs o env s).2 ∧ (perform outputs o env s).2.VersionsInOrder := by
  obtain ⟨error, e⟩ | ⟨r, e, -⟩ := perform_cases outputs o env s
  · rw [e]
    exact ⟨.kept rfl fun _ _ => .inl rfl, inOrder⟩
  have reads (none : o.writesFiles = false) (unpatched : o.patch? = .none) :
      FilesChange o s (perform outputs o env s).2 ∧
        (perform outputs o env s).2.VersionsInOrder := by
    have same := perform_files outputs env s none
    refine ⟨.kept same ?_, inOrder.of_files same⟩
    intro patch some
    rw [unpatched] at some
    cases some
  cases o with
  | completeTask => exact completeTask_filesChange inOrder e
  | applyGeneratedFiles => exact applyGeneratedFiles_filesChange inOrder e
  | putProjectFile => exact putProjectFile_filesChange inOrder e
  | _ => exact reads rfl rfl

/-- The run lemma of file versions. -/
lemma execute_inOrder (outputs : AgentOutputs Output) (inOrder : s.VersionsInOrder)
    (history : List (Call Output)) : (execute outputs s history).VersionsInOrder := by
  induction history generalizing s with
  | nil => exact inOrder
  | cons call history ih =>
    exact ih (perform_filesChange outputs call.operation call.env inOrder).2

end Steps

section Snapshots
variable {o : Operation Output}

/-- Files are only ever added. -/
lemma FilesChange.grows (change : FilesChange o s s') : s.files <+: s'.files := by
  cases change with
  | kept same _ => exact same ▸ List.prefix_rfl
  | written _ _ after =>
    rw [after]
    exact List.prefix_append _ _
  | patched _ _ patched => exact patched.grows

/-- When files were added, no latest version is lower than before. -/
lemma latestVersion_mono (inOrder : s.VersionsInOrder) (inOrder' : s'.VersionsInOrder)
    (grows : s.files <+: s'.files) : s.latestVersion projectId path ≤ s'.latestVersion projectId path := by
  rw [inOrder.latestVersion, inOrder'.latestVersion]
  exact (grows.filter _).length_le

lemma execute_latestVersion (inOrder : s.VersionsInOrder) (history : List (Call Output)) :
    s.latestVersion projectId path ≤ (execute outputs s history).latestVersion projectId path := by
  induction history generalizing s with
  | nil => exact Nat.le_refl _
  | cons call history ih =>
    obtain ⟨change, inOrder'⟩ := perform_filesChange outputs call.operation call.env inOrder
    exact (latestVersion_mono inOrder inOrder' change.grows).trans (ih inOrder')

/-- The map `observed` of `alignExpectedVersions`, with 0 for a path that is not in it. -/
def observedVersion (currentFiles : List AgentProjectFile) : String → Nat :=
  currentFiles.foldl
    (fun observed file => Function.update observed file.path (max (observed file.path) file.version))
    fun _ => 0

/-- Source `alignExpectedVersions`, on the files of the output. -/
def alignExpectedVersions (currentFiles : List AgentProjectFile) (files : List AgentGeneratedFile) :
    List AgentGeneratedFile :=
  files.map fun file => { file with expectedVersion := observedVersion currentFiles file.path }

/-- A path that the current files show in one version only is observed in it. -/
lemma observedVersion_eq {currentFiles : List AgentProjectFile} {version : Nat}
    (all : ∀ f ∈ currentFiles, f.path = path → f.version = version)
    (shown : version = 0 ∨ ∃ f ∈ currentFiles, f.path = path) :
    observedVersion currentFiles path = version := by
  have fold (observed : String → Nat) (known : observed path = 0 ∨ observed path = version)
      (shown : observed path = version ∨ ∃ f ∈ currentFiles, f.path = path) :
      currentFiles.foldl (fun observed file =>
        Function.update observed file.path (max (observed file.path) file.version)) observed path =
          version := by
    clear * - all known shown
    induction currentFiles generalizing observed with
    | nil =>
      obtain same | ⟨f, mem, -⟩ := shown
      · exact same
      · cases mem
    | cons f files ih =>
      have others := fun g mem => all g (List.mem_cons_of_mem f mem)
      by_cases e : f.path = path
      · have here : Function.update observed f.path (max (observed f.path) f.version) path =
            version := by
          rw [e, Function.update_self, all f List.mem_cons_self e]
          obtain zero | same := known
          · rw [zero, Nat.zero_max]
          · rw [same, Nat.max_self]
        exact ih others _ (.inr here) (.inl here)
      · have same : Function.update observed f.path (max (observed f.path) f.version) path =
            observed path := Function.update_of_ne (Ne.symm e) ..
        refine ih others _ ?_ ?_
        · obtain zero | seen := known
          · exact .inl (same.trans zero)
          · exact .inr (same.trans seen)
        obtain seen | ⟨g, mem, eq⟩ := shown
        · exact .inl (same.trans seen)
        · obtain rfl | mem := List.mem_cons.mp mem
          · exact absurd eq e
          · exact .inr ⟨g, mem, eq⟩
  exact fold _ (.inl rfl) (shown.imp_left Eq.symm)

/-- An aligned patch expects the latest versions at the time of the snapshot. -/
lemma observedVersion_snapshot {currentFiles : List AgentProjectFile} (inOrder : s.VersionsInOrder)
    (snapshot : listProjectFiles projectId s = .ok (currentFiles, s')) :
    observedVersion currentFiles path = s.latestVersion projectId path := by
  cases snapshot
  apply observedVersion_eq
  · intro f mem same
    obtain ⟨path', -, shown⟩ := List.mem_filterMap.mp mem
    obtain ⟨file, latest, rfl⟩ := Option.map_eq_some_iff.mp shown
    have stored : file ∈ s.versionsOf projectId path' := by
      rw [inOrder.latestFile] at latest
      exact List.mem_of_getLast? latest
    simp only [RunStore.versionsOf, List.mem_filter, decide_eq_true_eq] at stored
    cases same
    simp only [RunStore.latestVersion]
    rw [stored.2.2, latest]
    rfl
  · rw [inOrder.latestVersion]
    cases e : s.versionsOf projectId path with
    | nil => exact .inl rfl
    | cons file files =>
      obtain ⟨latest, last⟩ : ∃ f, (s.versionsOf projectId path).getLast? = some f := by
        simp [e, List.getLast?_cons]
      have stored : latest ∈ s.versionsOf projectId path := List.mem_of_getLast? last
      simp only [RunStore.versionsOf, List.mem_filter, decide_eq_true_eq] at stored
      refine .inr ⟨⟨latest.filePath, latest.content, latest.version⟩, ?_, stored.2.2⟩
      refine List.mem_filterMap.mpr ⟨path, ?_, ?_⟩
      · simp only [List.mem_dedup, List.mem_map, List.mem_filter, decide_eq_true_eq]
        exact ⟨latest, ⟨stored.1, stored.2.1⟩, stored.2.2⟩
      · rw [inOrder.latestFile, last]
        rfl

end Snapshots

section Overtaken

/-- A patch with an outdated expectation is turned down. -/
lemma patch_turnedDown {o : Operation Output} {env : Environment} {patch : Patch} {run : AgentRun}
    {f : AgentGeneratedFile} (inOrder : s.VersionsInOrder) (patches : o.patch? = some patch)
    (row : s.run? patch.runId = some run) (mem : f ∈ patch.files)
    (outdated : f.expectedVersion ≠ s.latestVersion run.projectId f.path) :
    TurnedDown patch s (perform outputs o env s).2 := by
  cases (perform_filesChange outputs o env inOrder).1 with
  | kept _ turnedDown => exact turnedDown patch patches
  | written put _ _ =>
    rw [put] at patches
    cases patches
  | patched patches' row' patched =>
    cases patches.symm.trans patches'
    cases row.symm.trans row'
    exact absurd (patched.expected f mem) outdated

/-- The answer that reports a conflict. -/
def AnswersConflict : (o : Operation Output) → Except Failure o.Answer → Prop
  | .completeTask _, .ok (.fileConflict _) => True
  | .applyGeneratedFiles _, .ok (.fileConflict _) => True
  | _, _ => False

/-- Whether the task that a patch belongs to exists and is not completed yet; a repair has none. -/
def Operation.TaskOpen (s : RunStore Output) : Operation Output → Prop
  | .completeTask input =>
    ∃ task, s.task? input.taskId = some task ∧ task.status ≠ .completed
  | _ => True

/-- For an active run and an open task, a patch with an outdated expectation is answered with a
    conflict. -/
lemma patch_conflict {o : Operation Output} {env : Environment} {patch : Patch} {run : AgentRun}
    {f : AgentGeneratedFile} (patches : o.patch? = some patch)
    (row : s.run? patch.runId = some run) (mem : f ∈ patch.files)
    (outdated : f.expectedVersion ≠ s.latestVersion run.projectId f.path)
    (commits : env.fate = .commits)
    (active : s.owns patch.runId (isAt .running patch.expectedControlVersion) = true)
    (open_ : o.TaskOpen s) : AnswersConflict o (perform outputs o env s).1 := by
  obtain ⟨run₀, row₀, project⟩ := touched_run? row patch.expectedControlVersion patch.now
  rw [← project] at outdated
  obtain ⟨conflict, planned⟩ := planFiles_conflict
    (s := s.touched patch.runId patch.expectedControlVersion patch.now) mem outdated
  cases o with
  | completeTask input =>
    cases patches
    obtain ⟨task, found, unfinished⟩ := open_
    have found₀ : (s.touched input.runId input.expectedControlVersion input.now).task?
        input.taskId = some task := found
    have answer : transact outputs env (.completeTask input) s = .ok (.fileConflict conflict,
        s.touched input.runId input.expectedControlVersion input.now) := by
      simp only [RunStore.touched] at row₀ planned found₀
      simp only [transact, completeTask, whileActive, active, if_true, found₀, unfinished, if_false,
        row₀, planned]
      rfl
    simp only [perform, answer, commits]
    trivial
  | applyGeneratedFiles input =>
    cases patches
    have answer : transact outputs env (.applyGeneratedFiles input) s =
        .ok (.fileConflict conflict,
          s.touched input.runId input.expectedControlVersion input.now) := by
      simp only [RunStore.touched] at row₀ planned
      simp only [transact, applyGeneratedFiles, whileActive, active, if_true, row₀, planned]
      rfl
    simp only [perform, answer, commits]
    trivial
  | _ => cases patches

/-- A patch that a user's write has overtaken: the patch expects what the snapshot showed, and the
    write to one of its paths was committed after the snapshot and before the call. -/
structure Overtaken (outputs : AgentOutputs Output) (snapshot edited current : RunStore Output)
    (edit call : Call Output) (patch : Patch) (run : AgentRun) : Prop where
  shown : ∃ currentFiles files,
    listProjectFiles run.projectId snapshot = .ok (currentFiles, snapshot) ∧
      patch.files = alignExpectedVersions currentFiles files
  edits : ∃ input, edit.operation = .putProjectFile run.projectId input ∧
    input.filePath ∈ patch.files.map AgentGeneratedFile.path
  committed : (edit.step outputs edited).files ≠ edited.files
  patches : call.operation.patch? = some patch
  row : current.run? patch.runId = some run

/-- A committed write of a user raises the latest version of its path. -/
lemma putProjectFile_raises {call : Call Output} {input : FileContentInput}
    (inOrder : s.VersionsInOrder) (edits : call.operation = .putProjectFile projectId input)
    (committed : (call.step outputs s).files ≠ s.files) :
    (call.step outputs s).latestVersion projectId input.filePath =
      s.latestVersion projectId input.filePath + 1 := by
  obtain ⟨change, inOrder'⟩ := perform_filesChange outputs call.operation call.env inOrder
  rw [inOrder.latestVersion]
  rw [Call.step, inOrder'.latestVersion]
  cases change with
  | kept same _ => exact absurd same committed
  | written edits' _ after =>
    cases edits.symm.trans edits'
    rw [after, versionsOf_append]
    simp
  | patched patches _ _ =>
    rw [edits] at patches
    cases patches

/-- The file of an overtaken patch that expects an older version than the latest. -/
lemma Overtaken.outdated {between later : List (Call Output)} {edit call : Call Output}
    {patch : Patch} {run : AgentRun} (inOrder : s.VersionsInOrder)
    (overtaken : Overtaken outputs s (execute outputs s between)
      (execute outputs s (between ++ [edit] ++ later)) edit call patch run) :
    ∃ f ∈ patch.files, f.expectedVersion ≠
      (execute outputs s (between ++ [edit] ++ later)).latestVersion run.projectId f.path := by
  obtain ⟨currentFiles, files, snapshot, aligned⟩ := overtaken.shown
  obtain ⟨input, edits, mem⟩ := overtaken.edits
  obtain ⟨f, mem, path⟩ := List.mem_map.mp mem
  refine ⟨f, mem, ?_⟩
  have expected : f.expectedVersion = s.latestVersion run.projectId f.path := by
    rw [aligned] at mem
    obtain ⟨g, -, rfl⟩ := List.mem_map.mp mem
    exact observedVersion_snapshot inOrder snapshot
  have inOrder' := execute_inOrder outputs inOrder between
  have before : s.latestVersion run.projectId f.path ≤
      (execute outputs s between).latestVersion run.projectId f.path :=
    execute_latestVersion inOrder between
  have raised := putProjectFile_raises inOrder' edits overtaken.committed
  have after : (edit.step outputs (execute outputs s between)).latestVersion run.projectId f.path ≤
      (execute outputs (edit.step outputs (execute outputs s between)) later).latestVersion
        run.projectId f.path :=
    execute_latestVersion (perform_filesChange outputs _ edit.env inOrder').2 later
  have history : execute outputs s (between ++ [edit] ++ later) =
      execute outputs (edit.step outputs (execute outputs s between)) later := by
    simp [execute]
  rw [history, expected]
  rw [← path] at raised
  omega

/-- After every history of calls the versions of every path are 1, 2, 3, …, and a further call adds a
    user's write or a whole patch at exactly the versions it expects, or no file at all. A patch that
    a user's write has overtaken is turned down, and for an active run and an open task it is
    answered with a conflict. -/
theorem project_files_never_lose_updates (outputs : AgentOutputs Output) {s₀ : RunStore Output}
    (inOrder₀ : s₀.VersionsInOrder) (history : List (Call Output)) :
    (execute outputs s₀ history).VersionsInOrder ∧
    (∀ call : Call Output, FilesChange call.operation (execute outputs s₀ history)
      (execute outputs s₀ (history ++ [call]))) ∧
    ∀ (between later : List (Call Output)) (edit call : Call Output) (patch : Patch)
      (run : AgentRun) (s : RunStore Output),
      s = execute outputs (execute outputs s₀ history) (between ++ [edit] ++ later) →
      Overtaken outputs (execute outputs s₀ history)
        (execute outputs (execute outputs s₀ history) between) s edit call patch run →
      TurnedDown patch s (call.step outputs s) ∧
        (call.env.fate = .commits →
          s.owns patch.runId (isAt .running patch.expectedControlVersion) = true →
          call.operation.TaskOpen s →
          AnswersConflict call.operation (perform outputs call.operation call.env s).1) := by
  have inOrder := execute_inOrder outputs inOrder₀ history
  refine ⟨inOrder, ?_, ?_⟩
  · intro call
    have change := (perform_filesChange outputs call.operation call.env inOrder).1
    simpa [execute, Call.step] using change
  · intro between later edit call patch run s e overtaken
    subst e
    obtain ⟨f, mem, outdated⟩ := overtaken.outdated inOrder
    have inOrder' := execute_inOrder outputs inOrder (between ++ [edit] ++ later)
    refine ⟨patch_turnedDown inOrder' overtaken.patches overtaken.row mem outdated, ?_⟩
    intro commits active open_
    exact patch_conflict overtaken.patches overtaken.row mem outdated commits active open_

end Overtaken

section Scenario

/-- Alex has been started on a project with one file. -/
def alexStarted : List (Call Unit) :=
  [⟨.claimRun ⟨1, .start, 0, none, none⟩ 10, {}⟩,
    ⟨.putProjectFile 1 ⟨"app/page.tsx", "first", 0⟩, {}⟩,
    ⟨.prepareTask ⟨1, 1, .alex, "Generate application files and commands", 5, "", 12, none⟩,
      { id := 20 }⟩,
    ⟨.startTask 1 1 20 13, {}⟩]

/-- The user edits the file while Alex is working. -/
def userEdits : Call Unit :=
  ⟨.putProjectFile 1 ⟨"app/page.tsx", "by the user", 1⟩, {}⟩

/-- The patch of Alex, who was shown the first version. -/
def alexPatch : Patch :=
  ⟨1, 1, 15, alignExpectedVersions [⟨"app/page.tsx", "first", 1⟩]
    [⟨"app/page.tsx", "by Alex", 0⟩]⟩

/-- Alex completes his task. -/
def alexCompletes : Call Unit :=
  ⟨.completeTask ⟨1, 1, 20, (), some alexPatch.files, 15⟩, {}⟩

/-- The edit overtakes the patch, whatever else happens before Alex completes his task. -/
lemma alexPatch_overtaken {later : List (Call Unit)} {run : AgentRun} (project : run.projectId = 1)
    (row : (execute silentOutputs (execute silentOutputs pendingRun alexStarted)
      ([] ++ [userEdits] ++ later)).run? 1 = some run) :
    Overtaken silentOutputs (execute silentOutputs pendingRun alexStarted)
      (execute silentOutputs (execute silentOutputs pendingRun alexStarted) [])
      (execute silentOutputs (execute silentOutputs pendingRun alexStarted)
        ([] ++ [userEdits] ++ later)) userEdits alexCompletes alexPatch run where
  shown := by
    refine ⟨_, _, ?_, rfl⟩
    rw [project]
    rfl
  edits := ⟨_, by rw [project]; rfl, by decide⟩
  committed := by decide
  patches := rfl
  row := row

/-- `project_files_never_lose_updates` for this edit: the patch is turned down as a conflict. -/
theorem project_files_never_lose_updates_edited :
    TurnedDown alexPatch
        (execute silentOutputs (execute silentOutputs pendingRun alexStarted)
          ([] ++ [userEdits] ++ []))
        (alexCompletes.step silentOutputs
          (execute silentOutputs (execute silentOutputs pendingRun alexStarted)
            ([] ++ [userEdits] ++ []))) ∧
      AnswersConflict alexCompletes.operation (perform silentOutputs alexCompletes.operation {}
        (execute silentOutputs (execute silentOutputs pendingRun alexStarted)
          ([] ++ [userEdits] ++ []))).1 := by
  have inOrder : pendingRun.VersionsInOrder := fun _ _ => rfl
  obtain ⟨-, -, overtaken⟩ := project_files_never_lose_updates silentOutputs inOrder alexStarted
  obtain ⟨turnedDown, conflict⟩ :=
    overtaken [] [] userEdits alexCompletes alexPatch _ _ rfl (alexPatch_overtaken rfl rfl)
  refine ⟨turnedDown, conflict rfl (by decide) ?_⟩
  exact ⟨_, rfl, by decide⟩

/-- An overtaken patch is not always answered with a conflict: when the user has also paused the run,
    Alex is told that it was stopped. -/
theorem overtaken_patch_stopped :
    ¬ ∀ (outputs : AgentOutputs Unit) (s₀ : RunStore Unit) (history between later : List (Call Unit))
      (edit call : Call Unit) (patch : Patch) (run : AgentRun) (s : RunStore Unit),
      s₀.VersionsInOrder →
      s = execute outputs (execute outputs s₀ history) (between ++ [edit] ++ later) →
      Overtaken outputs (execute outputs s₀ history)
        (execute outputs (execute outputs s₀ history) between) s edit call patch run →
      call.env.fate = .commits →
      AnswersConflict call.operation (perform outputs call.operation call.env s).1 := by
  intro always
  have conflict := always silentOutputs pendingRun alexStarted []
    [⟨.transitionRun 1 .pause .running 1 14, {}⟩] userEdits alexCompletes alexPatch _ _
    (fun _ _ => rfl) rfl (alexPatch_overtaken rfl rfl) rfl
  exact conflict

end Scenario

end AtomsPlatform.Run
