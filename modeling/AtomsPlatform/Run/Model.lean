import AtomsPlatform.Contracts
import AtomsPlatform.Lib.Table
import AtomsPlatform.Lib.Utf16
import Mathlib.Logic.Function.Basic

/-!
# Runs: data model

The rows that the control API, the orchestrator worker and the expiry sweeps share: runs with their
tasks, the files of a project, sandbox and preview sessions, and the event log of each run. Agent
outputs are of an arbitrary type `Output`; what the platform reads of them is an `AgentOutputs`.
-/

namespace AtomsPlatform.Run

/-- What a transaction can fail with. -/
inductive Failure where
  /-- An error of the database client, with its code. -/
  | prisma :
    (code message : String) → Failure
  /-- Any other `Error`. -/
  | error :
    (message : String) → Failure
deriving DecidableEq, Repr

/-- The JSON stored in the `error` columns of runs and tasks. -/
structure RunError where
  code : String
  name : String
  message : String
  retryable : Bool
  reason : Option String := none
deriving DecidableEq, Repr

/-- Source `AgentTaskStatus`. -/
inductive AgentTaskStatus where
  | pending
  | running
  | waitingForApproval
  | completed
  | failed
  | cancelled
  | skipped
deriving DecidableEq, Repr

/-- What the platform reads of David's output. -/
structure DavidOutput where
  blockingFinding : Bool
  schemaPrismaPath : String
  migrationPaths : List String
  seedPath : String
  destructiveChanges : Bool
  dataPolicyReport : String
deriving DecidableEq, Repr

/-- The agent output schemas of `@atoms/agents`, as far as the platform uses them. -/
structure AgentOutputs (Output : Type) where
  /-- `AgentOutputSchemas[agent].parse`: the normalised output, if the value is valid. -/
  parse : AgentName → Output → Option Output
  /-- The fields of a valid output of David. -/
  david : Output → DavidOutput
  /-- `requiresApproval` of a valid output of Mike. -/
  requiresApproval : Output → Bool
  /-- The number of CTA and ad variants of a valid output of Adrian. -/
  contentVariants : Output → Nat

/-- Model `AgentRun` of the schema. -/
structure AgentRun where
  id : Uuid
  workspaceId : Uuid
  projectId : Uuid
  status : AgentRunStatus := .pending
  prompt : String
  controlVersion : Nat := 0
  error : Option RunError := none
  startedAt : Option Date := none
  pausedAt : Option Date := none
  completedAt : Option Date := none
  cancelledAt : Option Date := none
  lastHeartbeatAt : Option Date := none
  reminderSentAt : Option Date := none
  purgedAt : Option Date := none
deriving DecidableEq, Repr

/-- Model `AgentTask` of the schema; a run has one task for each ordinal. -/
structure AgentTask (Output : Type) where
  id : Uuid
  runId : Uuid
  agentName : AgentName
  description : String
  ordinal : Nat
  status : AgentTaskStatus := .pending
  attempt : Nat := 0
  input : Option String := none
  output : Option Output := none
  error : Option RunError := none
  startedAt : Option Date := none
  completedAt : Option Date := none
deriving DecidableEq, Repr

/-- Model `ProjectFile` of the schema: one version of one path. -/
structure ProjectFile where
  projectId : Uuid
  filePath : String
  content : String
  version : Nat
deriving DecidableEq, Repr

/-- Source `MigrationArtifactStatus` and the fields `completeTask` writes. -/
structure MigrationArtifact where
  id : Uuid
  workspaceId : Uuid
  projectId : Uuid
  sourceRunId : Uuid
  agentTaskId : Uuid
  superseded : Bool := false
  schemaPath : String
  /-- The content whose SHA-256 is stored as `schemaHash`. -/
  schemaContent : String
  migrationPaths : List String
  seedPath : String
  destructive : Bool
  policyReport : String
deriving DecidableEq, Repr

/-- Source `SandboxSessionStatus`. -/
inductive SandboxSessionStatus where
  | provisioning
  | validating
  | ready
  | failed
  | terminated
deriving DecidableEq, Repr

/-- Model `SandboxSession` of the schema. -/
structure SandboxSession where
  id : Uuid
  workspaceId : Uuid
  projectId : Uuid
  runId : Uuid
  externalId : String
  attempt : Nat
  status : SandboxSessionStatus := .provisioning
  expiresAt : Date
  error : Option RunError := none
  terminatedAt : Option Date := none
deriving DecidableEq, Repr

/-- Model `SandboxCommand` of the schema. -/
structure SandboxCommand where
  id : Uuid
  sandboxSessionId : Uuid
  ordinal : Nat
  name : String
  command : String
  succeeded : Bool
  exitCode : Int
  stdout : Utf16
  stderr : Utf16
  durationMs : Nat
  startedAt : Date
  completedAt : Date
deriving DecidableEq, Repr

/-- Model `PreviewSession` of the schema. -/
structure PreviewSession where
  id : Uuid
  runId : Uuid
  sandboxSessionId : Uuid
  ready : Bool
  gatewayUrl : String
  processId : Nat
  expiresAt : Date
  readyAt : Option Date
  stoppedAt : Option Date := none
  error : Option RunError := none
deriving DecidableEq, Repr

/-- The run events of the components that are not part of this model: the database worker, the
    previews and the release assessor. -/
inductive OtherEvent where
  | integrationStatusChanged (change : DatabaseStatusChanged)
  | previewStopped (previewSessionId : Uuid) (expiresAt : Date)
  | previewFailed (previewSessionId : Uuid) (expiresAt : Date)
  | releaseAssessmentStarted (assessmentId : Uuid) (attempt : Nat)
  | releaseReady (assessmentId : Uuid) (checkCount criterionCount : Nat)
  | releaseBlocked (assessmentId : Uuid) (issueCount : Nat)
  | releaseCriterionKeyUnresolved (assessmentId : Uuid) (scenario : String)
      (missingKeys : List String)
deriving DecidableEq, Repr

/-- The payloads of the run events, one constructor for each event type. -/
inductive RunEventPayload where
  | statusChanged (status next : AgentRunStatus) (command : RunJobCommand) (controlVersion : Nat)
  | taskCreated (taskId : Uuid) (agent : AgentName) (ordinal : Nat) (description : String)
  | taskSkipped (taskId : Uuid) (agent : AgentName) (ordinal : Nat) (description : String)
      (reason : Option String)
  | taskStarted (taskId : Uuid) (agent : AgentName) (ordinal attempt : Nat)
  | taskCompleted (taskId : Uuid) (agent : AgentName) (ordinal attempt : Nat)
  | taskFailed (taskId : Uuid) (agent : AgentName) (ordinal attempt : Nat) (error : RunError)
  | artifactCreated (taskId : Uuid) (agent : AgentName) (artifactType : String)
      (migrationArtifactId : Option Uuid)
  | codeGenerated (taskId : Option Uuid) (paths : List String)
  | sandboxReady (sandboxSessionId : Uuid)
  | taskProgress (sandboxSessionId : Uuid) (ordinal : Nat) (step : String) (succeeded : Bool)
      (exitCode : Int) (durationMs : Nat) (stdout stderr : Utf16)
  | previewUpdated (previewSessionId : Uuid) (url : String) (expiresAt : Date)
  | approvalRequired (scope : ApprovalScope) (reason : String)
  | runCompleted (completedAt : Date)
  | runFailed (error : RunError)
  | approvalReminderDue (pausedAt : Date)
  | dataPurged (cancelledAt : Date)
  | ofOther (event : OtherEvent)
deriving DecidableEq, Repr

/-- The tables the worker, the control API and the sweeps share. -/
structure RunStore (Output : Type) where
  runs : List AgentRun := []
  tasks : List (AgentTask Output) := []
  files : List ProjectFile := []
  migrationArtifacts : List MigrationArtifact := []
  sandboxSessions : List SandboxSession := []
  sandboxCommands : List SandboxCommand := []
  previewSessions : List PreviewSession := []
  logs : Uuid → RunLog RunEventPayload := fun _ => {}

namespace RunStore
variable {Output : Type}

/-- The run of an id. -/
def run? (s : RunStore Output) (id : Uuid) : Option AgentRun :=
  Table.lookup AgentRun.id id s.runs

/-- Whether the run of an id satisfies a condition (the count of `updateMany`). -/
def owns (s : RunStore Output) (id : Uuid) (p : AgentRun → Bool) : Bool :=
  Table.holds AgentRun.id id p s.runs

/-- `agentRun.updateMany({ where: { id, … }, data })`. -/
def updateRun (s : RunStore Output) (id : Uuid) (p : AgentRun → Bool) (data : AgentRun → AgentRun) :
    RunStore Output :=
  { s with runs := Table.update AgentRun.id id p data s.runs }

/-- The task of an id. -/
def task? (s : RunStore Output) (id : Uuid) : Option (AgentTask Output) :=
  Table.lookup AgentTask.id id s.tasks

/-- `agentTask.update({ where: { id }, data })`. -/
def updateTask (s : RunStore Output) (id : Uuid) (data : AgentTask Output → AgentTask Output) :
    RunStore Output :=
  { s with tasks := Table.update AgentTask.id id (fun _ => true) data s.tasks }

/-- Source `appendEvent`. -/
def appendEvent (s : RunStore Output) (runId : Uuid) (event : RunEventPayload) : RunStore Output :=
  { s with logs := Function.update s.logs runId ((s.logs runId).append event) }

/-- Several events of one run. -/
def appendEvents (s : RunStore Output) (runId : Uuid) (events : List RunEventPayload) :
    RunStore Output :=
  events.foldl (fun s event => s.appendEvent runId event) s

end RunStore

/-- A transaction: it fails and changes nothing, or answers and commits. -/
abbrev Transaction (Output α : Type) : Type :=
  RunStore Output → Except Failure (α × RunStore Output)

end AtomsPlatform.Run
