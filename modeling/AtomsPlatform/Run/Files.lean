import AtomsPlatform.Run.Repository

/-!
# Project files

The writers of project files: a user's write, the completion of a task with generated files, and a
repair. A file is stored as a sequence of versions. The two writers of the worker check every expected
version before they write the first file; a version that exists already is refused by the unique
constraint on project, path and version.
-/

namespace AtomsPlatform.Run
variable {Output : Type}

/-- Source `AgentGeneratedFile`. -/
structure AgentGeneratedFile where
  path : String
  content : String
  expectedVersion : Nat
deriving DecidableEq, Repr

/-- Source `AgentProjectFile`. -/
structure AgentProjectFile where
  path : String
  content : String
  version : Nat
deriving DecidableEq, Repr

namespace RunStore

/-- The stored versions of a path. -/
def versionsOf (s : RunStore Output) (projectId : Uuid) (path : String) : List ProjectFile :=
  s.files.filter fun f => f.projectId = projectId ∧ f.filePath = path

/-- The version with the greatest number. -/
def newest : List ProjectFile → Option ProjectFile
  | [] => none
  | f :: fs =>
    match newest fs with
    | none => some f
    | some g => if g.version ≤ f.version then some f else some g

/-- `projectFile.findFirst({ where: { projectId, filePath }, orderBy: { version: "desc" } })` -/
def latestFile (s : RunStore Output) (projectId : Uuid) (path : String) : Option ProjectFile :=
  newest (s.versionsOf projectId path)

/-- `latest?.version ?? 0` -/
def latestVersion (s : RunStore Output) (projectId : Uuid) (path : String) : Nat :=
  ((s.latestFile projectId path).map ProjectFile.version).getD 0

/-- `projectFile.create`, with the unique constraint on project, path and version. -/
def createFile (s : RunStore Output) (file : ProjectFile) : Except Failure (RunStore Output) :=
  if s.files.any fun f => f.projectId = file.projectId ∧ f.filePath = file.filePath ∧
      f.version = file.version then
    .error (.prisma "P2002" "Unique constraint failed")
  else .ok { s with files := s.files ++ [file] }

end RunStore

/-- Source `listProjectFiles`: the newest version of each path. -/
def listProjectFiles (projectId : Uuid) : Transaction Output (List AgentProjectFile) := fun s =>
  let paths := ((s.files.filter fun f => f.projectId = projectId).map ProjectFile.filePath).dedup
  .ok (paths.filterMap fun path => (s.latestFile projectId path).map fun f =>
    ⟨f.filePath, f.content, f.version⟩, s)

/-- A file that lost its compare-and-swap. -/
structure FileConflict where
  path : String
  expectedVersion : Nat
  actualVersion : Nat
deriving DecidableEq, Repr

/-- One entry of `filePlans`. -/
structure FilePlan where
  path : String
  content : String
  actualVersion : Nat
  shouldWrite : Bool
deriving DecidableEq, Repr

/-- The first loop: every compare-and-swap is checked before anything is written. -/
def planFiles (s : RunStore Output) (projectId : Uuid) :
    List AgentGeneratedFile → Except FileConflict (List FilePlan)
  | [] => .ok []
  | file :: files =>
    let actualVersion := s.latestVersion projectId file.path
    if actualVersion ≠ file.expectedVersion then
      .error ⟨file.path, file.expectedVersion, actualVersion⟩
    else
      (planFiles s projectId files).map fun plans =>
        { path := file.path
          content := file.content
          actualVersion
          shouldWrite := (s.latestFile projectId file.path).map ProjectFile.content ≠
            some file.content } :: plans

/-- The second loop: the written paths, and the store with the new versions. -/
def writePlans (projectId : Uuid) :
    List FilePlan → RunStore Output → Except Failure (List String × RunStore Output)
  | [], s => .ok ([], s)
  | plan :: plans, s =>
    if plan.shouldWrite then
      match s.createFile ⟨projectId, plan.path, plan.content, plan.actualVersion + 1⟩ with
      | .error e => .error e
      | .ok s => (writePlans projectId plans s).map fun (paths, s) => (plan.path :: paths, s)
    else writePlans projectId plans s

/-- Source `CompleteTaskResult` and `ApplyGeneratedFilesResult`. -/
inductive PatchResult (α : Type) where
  | ok :
    α → PatchResult α
  | stopped
  | fileConflict :
    FileConflict → PatchResult α
deriving DecidableEq, Repr

/-- Source `ApplyGeneratedFilesInput`. -/
structure ApplyGeneratedFilesInput where
  runId : Uuid
  expectedControlVersion : Nat
  generatedFiles : List AgentGeneratedFile
  now : Date
deriving DecidableEq, Repr

/-- Source `applyGeneratedFiles`. -/
def applyGeneratedFiles (input : ApplyGeneratedFilesInput) :
    Transaction Output (PatchResult (List String)) :=
  whileActive input.runId input.expectedControlVersion input.now .stopped fun s =>
    match s.run? input.runId with
    | none => .error (.prisma "P2025" "Record not found")
    | some run =>
      match planFiles s run.projectId input.generatedFiles with
      | .error conflict => .ok (.fileConflict conflict, s)
      | .ok plans =>
        match writePlans run.projectId plans s with
        | .error e => .error e
        | .ok (writtenPaths, s) =>
          .ok (.ok writtenPaths, s.appendEvent input.runId (.codeGenerated none writtenPaths))

/-- Source `CompleteTaskInput`. -/
structure CompleteTaskInput (Output : Type) where
  runId : Uuid
  expectedControlVersion : Nat
  taskId : Uuid
  output : Output
  generatedFiles : Option (List AgentGeneratedFile) := none
  now : Date
deriving DecidableEq, Repr

/-- David's branch of `completeTask`: the migration artifact his output describes, if it is valid. -/
def davidArtifact (outputs : AgentOutputs Output) (s : RunStore Output) (run : AgentRun)
    (taskId id : Uuid) (output : Output) : Except Failure MigrationArtifact :=
  match outputs.parse .david output with
  | none => .error (.error "Invalid David output")
  | some output =>
    let david := outputs.david output
    if david.blockingFinding then
      .error (.error "David data-policy report contains a blocking finding")
    else
      match s.latestFile run.projectId david.schemaPrismaPath with
      | none =>
        .error (.error
          s!"David referenced a missing Prisma schema: {david.schemaPrismaPath}")
      | some schema =>
        .ok
          { id
            workspaceId := run.workspaceId
            projectId := run.projectId
            sourceRunId := run.id
            agentTaskId := taskId
            schemaPath := david.schemaPrismaPath
            schemaContent := schema.content
            migrationPaths := david.migrationPaths
            seedPath := david.seedPath
            destructive := david.destructiveChanges
            policyReport := david.dataPolicyReport }

/-- `migrationArtifact.updateMany` and `migrationArtifact.upsert` of `completeTask`: the identifier of
    the stored artifact, which supersedes those of other tasks. -/
def storeArtifact (artifact : MigrationArtifact) (s : RunStore Output) : Uuid × RunStore Output :=
  let superseded := s.migrationArtifacts.map fun a =>
    if a.projectId = artifact.projectId ∧ a.superseded = false ∧
        a.agentTaskId ≠ artifact.agentTaskId then { a with superseded := true }
    else a
  match superseded.find? fun a => a.agentTaskId = artifact.agentTaskId with
  | some existing =>
    (existing.id, { s with
      migrationArtifacts := superseded.map fun a =>
        if a.agentTaskId = artifact.agentTaskId then
          { a with
            superseded := false
            schemaPath := artifact.schemaPath
            schemaContent := artifact.schemaContent
            migrationPaths := artifact.migrationPaths
            seedPath := artifact.seedPath
            destructive := artifact.destructive
            policyReport := artifact.policyReport }
        else a })
  | none => (artifact.id, { s with migrationArtifacts := superseded ++ [artifact] })

/-- The events of a completed task, in their order. -/
def completionEvents (input : CompleteTaskInput Output) (task : AgentTask Output)
    (migrationArtifactId : Option Uuid) (writtenPaths : List String) : List RunEventPayload :=
  [.taskCompleted task.id task.agentName task.ordinal task.attempt,
    .artifactCreated task.id task.agentName s!"{task.agentName.lowerName}-output"
      migrationArtifactId] ++
  (if task.agentName = .sarah then [.artifactCreated task.id task.agentName "seo-package" none]
    else []) ++
  (if task.agentName = .adrian then
    [.artifactCreated task.id task.agentName "content-package" none] else []) ++
  if input.generatedFiles.isSome then [.codeGenerated (some task.id) writtenPaths] else []

/-- The migration artifact of a task, for David only. -/
def taskArtifact (outputs : AgentOutputs Output) (s : RunStore Output) (run : AgentRun)
    (task : AgentTask Output) (id : Uuid) (output : Output) :
    Except Failure (Option MigrationArtifact) :=
  if task.agentName = .david then (davidArtifact outputs s run task.id id output).map some
  else .ok none

/-- The statements of `completeTask` after the files are written. -/
def finishTask (outputs : AgentOutputs Output) (input : CompleteTaskInput Output)
    (artifactId : Uuid) (run : AgentRun) (current : AgentTask Output) (writtenPaths : List String)
    (s : RunStore Output) : Except Failure (PatchResult (WorkerTaskRecord Output) × RunStore Output) :=
  match taskArtifact outputs s run current artifactId input.output with
  | .error e => .error e
  | .ok artifact =>
    let completed (t : AgentTask Output) : AgentTask Output :=
      { t with
        status := .completed
        output := some input.output
        error := none
        completedAt := some input.now }
    let s := s.updateTask input.taskId completed
    let stored := artifact.map fun a => storeArtifact a s
    let s := (stored.map Prod.snd).getD s
    let task := completed current
    .ok (.ok (toWorkerTaskRecord task),
      s.appendEvents input.runId
        (completionEvents input task (stored.map Prod.fst) writtenPaths))

/-- Source `completeTask`; `artifactId` is generated for a new migration artifact. -/
def completeTask (outputs : AgentOutputs Output) (input : CompleteTaskInput Output)
    (artifactId : Uuid) : Transaction Output (PatchResult (WorkerTaskRecord Output)) :=
  whileActive input.runId input.expectedControlVersion input.now .stopped fun s =>
    match s.task? input.taskId with
    | none => .error (.prisma "P2025" "Record not found")
    | some current =>
      if current.status = .completed then .ok (.ok (toWorkerTaskRecord current), s)
      else
        match s.run? input.runId with
        | none => .error (.prisma "P2025" "Record not found")
        | some run =>
          match planFiles s run.projectId (input.generatedFiles.getD []) with
          | .error conflict => .ok (.fileConflict conflict, s)
          | .ok plans =>
            match writePlans run.projectId plans s with
            | .error e => .error e
            | .ok (writtenPaths, s) =>
              finishTask outputs input artifactId run current writtenPaths s

/-- Source `FileContentInput`. -/
structure FileContentInput where
  filePath : String
  content : String
  expectedVersion : Nat
deriving DecidableEq, Repr

/-- Source `PutProjectFileResult`. -/
inductive PutProjectFileResult where
  | projectNotFound
  | ok :
    ProjectFile → PutProjectFileResult
  | versionConflict :
    (actualVersion : Option Nat) → PutProjectFileResult
deriving DecidableEq, Repr

/-- The transaction of `putProjectFile`; `found` is whether the user's project was found. -/
def putProjectFile (projectId : Uuid) (input : FileContentInput) (found : Bool) :
    Transaction Output PutProjectFileResult := fun s =>
  if found = false then .ok (.projectNotFound, s) else
  let latest := s.latestFile projectId input.filePath
  let actualVersion := latest.map ProjectFile.version
  let expectedMatches : Bool :=
    if input.expectedVersion = 0 then latest.isNone else actualVersion = some input.expectedVersion
  if expectedMatches then
    let file : ProjectFile :=
      ⟨projectId, input.filePath, input.content, actualVersion.getD 0 + 1⟩
    (s.createFile file).map fun s => (.ok file, s)
  else .ok (.versionConflict actualVersion, s)

end AtomsPlatform.Run
