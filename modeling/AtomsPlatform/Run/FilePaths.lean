import AtomsPlatform.Run.FileVersions
import AtomsPlatform.Lib.Disk

/-!
# Paths and contents of project files

What the schemas of a user's write and of an agent's files ask of a path and of a content, and what
follows for a project whose writes were all accepted: every stored path is one the schema returns, and
the newest files of a project have different paths.
-/

namespace AtomsPlatform.Run
attribute [local instance] Splitting.lawfulBEq_text
variable {Output : Type} {outputs : AgentOutputs Output} {s s' : RunStore Output} {projectId : Uuid}

/-- What `ProjectFilePathSchema` asks of a trimmed path. -/
def isProjectFilePath (path : String) : Bool :=
  1 ≤ Utf16.lengthOf path && Utf16.lengthOf path ≤ 1024 && path.toList.head? != some '/' &&
    decide ('\\' ∉ path.toList) && decide (['.', '.'] ∉ Posix.segments path)

/-- Source `ProjectFilePathSchema`. -/
def parseProjectFilePath (path : String) : Option String :=
  let path := Utf16.trimString path
  if isProjectFilePath path then some path else none

/-- `z.string().max(2_000_000)` -/
def isFileContent (content : String) : Bool :=
  Utf16.lengthOf content ≤ 2000000

/-- Source `FileContentInputSchema`. -/
def FileContentInput.parse (input : FileContentInput) : Option FileContentInput :=
  match parseProjectFilePath input.filePath with
  | none => none
  | some filePath => if isFileContent input.content then some { input with filePath } else none

/-- Source `AgentGeneratedFileSchema`. -/
def AgentGeneratedFile.parse (file : AgentGeneratedFile) : Option AgentGeneratedFile :=
  match parseProjectFilePath file.path with
  | none => none
  | some path => if isFileContent file.content then some { file with path } else none

/-- Whether the files an operation may write were accepted by their schema. -/
def Operation.Accepted : Operation Output → Prop
  | .putProjectFile _ input => ∃ raw : FileContentInput, raw.parse = some input
  | .completeTask input =>
    ∀ file ∈ input.generatedFiles.getD [], ∃ raw : AgentGeneratedFile, raw.parse = some file
  | .applyGeneratedFiles input =>
    ∀ file ∈ input.generatedFiles, ∃ raw : AgentGeneratedFile, raw.parse = some file
  | _ => True

/-- A path and a content that a schema returned. -/
structure AcceptedFile (path content : String) : Prop where
  relative : isProjectFilePath path = true
  trimmed : Utf16.trimString path = path
  bounded : isFileContent content = true

section Schemas

lemma parseProjectFilePath_eq_some {raw path : String}
    (e : parseProjectFilePath raw = some path) :
    isProjectFilePath path = true ∧ Utf16.trimString path = path := by
  unfold parseProjectFilePath at e
  dsimp only at e
  split at e
  · rename_i valid
    cases e
    exact ⟨valid, Utf16.trimString_trimString raw⟩
  · cases e

lemma FileContentInput.parse_eq_some {raw input : FileContentInput} (e : raw.parse = some input) :
    AcceptedFile input.filePath input.content := by
  unfold FileContentInput.parse at e
  split at e
  · cases e
  · rename_i filePath parsed
    split at e
    · rename_i content
      cases e
      obtain ⟨valid, trimmed⟩ := parseProjectFilePath_eq_some parsed
      exact ⟨valid, trimmed, content⟩
    · cases e

lemma AgentGeneratedFile.parse_eq_some {raw file : AgentGeneratedFile} (e : raw.parse = some file) :
    AcceptedFile file.path file.content := by
  unfold AgentGeneratedFile.parse at e
  split at e
  · cases e
  · rename_i path parsed
    split at e
    · rename_i content
      cases e
      obtain ⟨valid, trimmed⟩ := parseProjectFilePath_eq_some parsed
      exact ⟨valid, trimmed, content⟩
    · cases e

end Schemas

section Histories

/-- Every stored version is one of an accepted file. -/
structure RunStore.FilesAccepted (s : RunStore Output) : Prop where
  accepted : ∀ f ∈ s.files, AcceptedFile f.filePath f.content
  numbered : ∀ f ∈ s.files, 1 ≤ f.version

lemma RunStore.FilesAccepted.of_files (all : s.FilesAccepted) (same : s'.files = s.files) :
    s'.FilesAccepted := by
  constructor
  · rw [same]
    exact all.accepted
  · rw [same]
    exact all.numbered

/-- Creating an accepted file. -/
lemma createFile_accepted {path content : String} {version : Nat} (all : s.FilesAccepted)
    (accepted : AcceptedFile path content)
    (e : s.createFile ⟨projectId, path, content, version + 1⟩ = .ok s') : s'.FilesAccepted := by
  obtain ⟨rfl, -⟩ := createFile_ok e
  constructor
  · intro f mem
    obtain mem | mem := List.mem_append.mp mem
    · exact all.accepted f mem
    · rw [List.mem_singleton.mp mem]
      exact accepted
  · intro f mem
    obtain mem | mem := List.mem_append.mp mem
    · exact all.numbered f mem
    · rw [List.mem_singleton.mp mem]
      exact Nat.le_add_left ..

/-- Writing plans for accepted files. -/
lemma writePlans_accepted {plans : List FilePlan} {paths : List String} (all : s.FilesAccepted)
    (accepted : ∀ plan ∈ plans, AcceptedFile plan.path plan.content)
    (e : writePlans projectId plans s = .ok (paths, s')) : s'.FilesAccepted := by
  induction plans generalizing s paths with
  | nil =>
    cases e
    exact all
  | cons plan plans ih =>
    have others := fun p mem => accepted p (List.mem_cons_of_mem plan mem)
    obtain ⟨-, rest⟩ | ⟨-, s₁, paths', created, rest⟩ := writePlans_cons e
    · exact ih all others rest
    · exact ih (createFile_accepted all (accepted plan List.mem_cons_self) created) others rest

/-- Plans for accepted files. -/
lemma planFiles_accepted {files : List AgentGeneratedFile} {plans : List FilePlan}
    (accepted : ∀ file ∈ files, ∃ raw : AgentGeneratedFile, raw.parse = some file)
    (e : planFiles s projectId files = .ok plans) :
    ∀ plan ∈ plans, AcceptedFile plan.path plan.content := by
  obtain ⟨-, rfl⟩ := planFiles_ok e
  intro plan mem
  obtain ⟨file, written, rfl⟩ := List.mem_map.mp mem
  obtain ⟨raw, parsed⟩ := accepted file written
  exact AgentGeneratedFile.parse_eq_some parsed

/-- The step lemma: an operation that writes accepted files only. -/
lemma perform_accepted {o : Operation Output} (outputs : AgentOutputs Output) (env : Environment)
    (all : s.FilesAccepted) (accepted : o.Accepted) :
    (perform outputs o env s).2.FilesAccepted := by
  obtain ⟨error, e⟩ | ⟨r, e, -⟩ := perform_cases outputs o env s
  · rw [e]
    exact all
  have reads (none : o.writesFiles = false) : (perform outputs o env s).2.FilesAccepted :=
    all.of_files (perform_files outputs env s none)
  generalize (perform outputs o env s).2 = s' at e reads ⊢
  cases o with
  | completeTask input =>
    obtain ⟨-, -, rfl⟩ | ⟨s₀, current, rfl, task, effect⟩ := completeTask_cases e
    · exact all
    obtain ⟨-, -, rfl⟩ | ⟨-, run, row, ⟨conflict, -, -, rfl⟩ | applied⟩ := effect
    · exact all.of_files rfl
    · exact all.of_files rfl
    · obtain ⟨plans, paths, s₁, planned, written, finished⟩ := applied
      obtain ⟨-, files, -⟩ := finishTask_ok finished
      have touched : (s.touched input.runId input.expectedControlVersion input.now).FilesAccepted :=
        all.of_files rfl
      exact (writePlans_accepted touched (planFiles_accepted accepted planned) written).of_files files
  | applyGeneratedFiles input =>
    obtain ⟨-, -, rfl⟩ | ⟨s₀, run, rfl, row, effect⟩ := applyGeneratedFiles_cases e
    · exact all
    obtain ⟨conflict, -, -, rfl⟩ | ⟨plans, paths, s₁, planned, written, -, rfl⟩ := effect
    · exact all.of_files rfl
    · have touched : (s.touched input.runId input.expectedControlVersion input.now).FilesAccepted :=
        all.of_files rfl
      exact (writePlans_accepted touched (planFiles_accepted accepted planned) written).of_files rfl
  | putProjectFile projectId input =>
    replace e : putProjectFile projectId input env.found s = .ok (r, s') := e
    obtain ⟨raw, parsed⟩ := accepted
    unfold putProjectFile at e
    split at e
    · cases e
      exact all
    extract_lets latest actualVersion expectedMatches file at e
    split at e
    · obtain ⟨s₁, created, e⟩ := map_eq_ok e
      cases e
      exact createFile_accepted all (FileContentInput.parse_eq_some parsed) created
    · cases e
      exact all
  | _ => exact reads rfl

/-- The run lemma: a history of accepted writes. -/
lemma execute_accepted (outputs : AgentOutputs Output) {history : List (Call Output)}
    (all : s.FilesAccepted) (accepted : ∀ call ∈ history, call.operation.Accepted) :
    (execute outputs s history).FilesAccepted := by
  induction history generalizing s with
  | nil => exact all
  | cons call history ih =>
    have first := perform_accepted outputs call.env all (accepted call List.mem_cons_self)
    exact ih first fun call' mem => accepted call' (List.mem_cons_of_mem _ mem)

end Histories

section Projects

/-- The paths of a project. -/
def RunStore.projectPaths (s : RunStore Output) (projectId : Uuid) : List String :=
  ((s.files.filter fun f => f.projectId = projectId).map ProjectFile.filePath).dedup

/-- The files of a project: the newest version of each path. -/
def RunStore.projectFiles (s : RunStore Output) (projectId : Uuid) : List AgentProjectFile :=
  (s.projectPaths projectId).filterMap fun path => (s.latestFile projectId path).map fun f =>
    ⟨f.filePath, f.content, f.version⟩

/-- The newest of some versions is one of them. -/
lemma newest_mem {l : List ProjectFile} {f : ProjectFile} (e : RunStore.newest l = some f) :
    f ∈ l := by
  induction l generalizing f with
  | nil => cases e
  | cons g l ih =>
    simp only [RunStore.newest] at e
    split at e
    · cases e
      exact List.mem_cons_self
    · rename_i later newest
      split at e
      · cases e
        exact List.mem_cons_self
      · cases e
        exact List.mem_cons_of_mem _ (ih newest)

lemma newest_isSome {l : List ProjectFile} (some : l ≠ []) : ∃ f, RunStore.newest l = .some f := by
  cases l with
  | nil => exact absurd rfl some
  | cons f l =>
    simp only [RunStore.newest]
    split
    · exact ⟨_, rfl⟩
    · split <;> exact ⟨_, rfl⟩

lemma latestFile_stored {path : String} {f : ProjectFile}
    (e : s.latestFile projectId path = some f) :
    f ∈ s.files ∧ f.projectId = projectId ∧ f.filePath = path := by
  have mem := newest_mem e
  simp only [RunStore.versionsOf, List.mem_filter, decide_eq_true_eq] at mem
  exact mem

/-- Each path of a project has a newest version. -/
lemma latestFile_of_path {path : String} (mem : path ∈ s.projectPaths projectId) :
    ∃ f, s.latestFile projectId path = some f := by
  rw [RunStore.projectPaths, List.mem_dedup] at mem
  obtain ⟨f, here, rfl⟩ := List.mem_map.mp mem
  obtain ⟨stored, project⟩ := List.mem_filter.mp here
  apply newest_isSome
  apply List.ne_nil_of_mem (a := f)
  rw [RunStore.versionsOf, List.mem_filter]
  exact ⟨stored, by simpa using project⟩

/-- The files of a project have its paths, each once. -/
lemma projectFiles_paths :
    (s.projectFiles projectId).map AgentProjectFile.path = s.projectPaths projectId := by
  have each : ∀ l : List String, (∀ path ∈ l, ∃ f, s.latestFile projectId path = some f) →
      (l.filterMap fun path => (s.latestFile projectId path).map fun f =>
        (⟨f.filePath, f.content, f.version⟩ : AgentProjectFile)).map AgentProjectFile.path = l := by
    intro l latest
    induction l with
    | nil => rfl
    | cons path l ih =>
      obtain ⟨f, e⟩ := latest path List.mem_cons_self
      rw [List.filterMap_cons, e]
      simp only [Option.map_some, List.map_cons]
      rw [(latestFile_stored e).2.2, ih fun path mem => latest path (List.mem_cons_of_mem _ mem)]
  exact each _ fun _ mem => latestFile_of_path mem

lemma projectFiles_nodup : ((s.projectFiles projectId).map AgentProjectFile.path).Nodup := by
  rw [projectFiles_paths]
  exact List.nodup_dedup _

/-- A file of a project is the newest version of its path. -/
lemma mem_projectFiles {file : AgentProjectFile} (mem : file ∈ s.projectFiles projectId) :
    s.latestFile projectId file.path = some ⟨projectId, file.path, file.content, file.version⟩ := by
  obtain ⟨path, -, e⟩ := List.mem_filterMap.mp mem
  obtain ⟨f, latest, rfl⟩ := Option.map_eq_some_iff.mp e
  obtain ⟨-, project, rfl⟩ := latestFile_stored latest
  rw [← project] at latest ⊢
  exact latest

/-- The files of a project whose writes were accepted. -/
lemma RunStore.FilesAccepted.file (all : s.FilesAccepted) {file : AgentProjectFile}
    (mem : file ∈ s.projectFiles projectId) :
    AcceptedFile file.path file.content ∧ 1 ≤ file.version := by
  obtain ⟨stored, -, -⟩ := latestFile_stored (mem_projectFiles mem)
  exact ⟨all.accepted _ stored, all.numbered _ stored⟩

end Projects

end AtomsPlatform.Run
