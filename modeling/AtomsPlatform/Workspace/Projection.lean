import AtomsPlatform.Workspace.Events
import AtomsPlatform.Lib.Window
import Mathlib.Logic.Function.Basic

/-!
# The workspace projection

What the browser shows of a run, as `reduceRunEvent` computes it from the run's events. The projection
remembers the last 500 events; an event that it remembers is not reduced again.
-/

namespace AtomsPlatform.Workspace

/-- Source `TaskStatus`. -/
inductive TaskStatus where
  | idle
  | queued
  | running
  | waiting
  | completed
  | failed
  | skipped
deriving DecidableEq, Repr

/-- Source `AgentTaskProjection`. -/
@[ext]
structure AgentTaskProjection where
  id : Option String := none
  agent : RunAgentName
  ordinal : Option ℚ := none
  description : Option String := none
  status : TaskStatus
  attempt : Option ℚ := none
deriving DecidableEq, Repr

/-- Source `PreviewProjection`. -/
abbrev PreviewProjection : Type :=
  PreviewUpdated

/-- Source `ValidationProjection`. -/
abbrev ValidationProjection : Type :=
  ValidationProgress

/-- Source `DatabaseProjection`. -/
abbrev DatabaseProjection : Type :=
  DatabaseStatusUpdate

/-- Source `WorkspaceProjection`. -/
@[ext]
structure WorkspaceProjection where
  events : List RunEventEnvelope
  tasks : RunAgentName → AgentTaskProjection
  activeAgent : Option RunAgentName
  approvalReason : Option String
  approvalScope : Option ApprovalScope
  preview : Option PreviewProjection
  validations : List ValidationProjection
  generatedPaths : List String
  database : Option DatabaseProjection
  inferredRunStatus : Option AgentRunStatus
  error : Option String

/-- Source `createWorkspaceProjection`. -/
def createWorkspaceProjection : WorkspaceProjection where
  events := []
  tasks agent := { agent, status := .idle }
  activeAgent := none
  approvalReason := none
  approvalScope := none
  preview := none
  validations := []
  generatedPaths := []
  database := none
  inferredRunStatus := none
  error := none

section Readers

/-- Source `asRecord`. -/
def asRecord : JsonValue → List (String × JsonValue)
  | .object fields => fields
  | _ => []

/-- Source `readString`. -/
def readString : Option JsonValue → Option String
  | some (.string value) => some value
  | _ => none

/-- Source `readNumber`. -/
def readNumber : Option JsonValue → Option ℚ
  | some (.number value) => some value
  | _ => none

/-- Source `readAgent`. -/
def readAgent : Option JsonValue → Option RunAgentName
  | some (.string value) => agentOrder.find? fun agent => agent.name = value
  | _ => none

/-- The name of a run status. -/
def runStatusName : AgentRunStatus → String
  | .pending => "PENDING"
  | .running => "RUNNING"
  | .paused => "PAUSED"
  | .completed => "COMPLETED"
  | .failed => "FAILED"
  | .cancelled => "CANCELLED"

/-- Source `readRunStatus`. -/
def readRunStatus : Option JsonValue → Option AgentRunStatus
  | some (.string value) =>
    [AgentRunStatus.pending, .running, .paused, .completed, .failed, .cancelled].find? fun status =>
      runStatusName status = value
  | _ => none

/-- Source `readError`. -/
def readError : Option JsonValue → Option String
  | some (.string value) => some value
  | some (.object fields) => readString (fields.lookup "message")
  | _ => none

/-- The strings of an array. -/
def stringsOf : Option JsonValue → List String
  | some (.array values) => values.filterMap fun value => readString (some value)
  | _ => []

end Readers

/-- The fields of a task that an event sets. -/
structure TaskPatch where
  status : TaskStatus
  id : Option String := none
  ordinal : Option ℚ := none
  description : Option String := none
  attempt : Option ℚ := none

/-- Merges a patch into a task; what the patch leaves out stays. -/
def TaskPatch.merge (patch : TaskPatch) (task : AgentTaskProjection) : AgentTaskProjection where
  id := patch.id <|> task.id
  agent := task.agent
  ordinal := patch.ordinal <|> task.ordinal
  description := patch.description <|> task.description
  status := patch.status
  attempt := patch.attempt <|> task.attempt

/-- Source `updateTask`. -/
def updateTask (projection : WorkspaceProjection) (agent : RunAgentName) (patch : TaskPatch) :
    WorkspaceProjection :=
  { projection with
    tasks := Function.update projection.tasks agent
      { patch.merge (projection.tasks agent) with agent } }

section Events

/-- The patch of `task.created` and of `task.skipped`. -/
def descriptionPatch (status : TaskStatus) (payload : JsonValue) : TaskPatch :=
  let record := asRecord payload
  { status
    id := readString (record.lookup "taskId")
    ordinal := readNumber (record.lookup "ordinal")
    description := readString (record.lookup "description") }

/-- `task.created` and `task.skipped`, which differ in the status they set. -/
def describeTask (status : TaskStatus) (next : WorkspaceProjection) (payload : JsonValue) :
    WorkspaceProjection :=
  match readAgent ((asRecord payload).lookup "agent") with
  | some agent => updateTask next agent (descriptionPatch status payload)
  | none => next

/-- The patch of `task.started` and of `task.completed`. -/
def attemptPatch (status : TaskStatus) (payload : JsonValue) : TaskPatch :=
  let record := asRecord payload
  { status
    id := readString (record.lookup "taskId")
    ordinal := readNumber (record.lookup "ordinal")
    attempt := readNumber (record.lookup "attempt") }

/-- `task.started` -/
def taskStarted (next : WorkspaceProjection) (payload : JsonValue) : WorkspaceProjection :=
  match readAgent ((asRecord payload).lookup "agent") with
  | some agent =>
    { updateTask next agent (attemptPatch .running payload) with activeAgent := some agent }
  | none => next

/-- `task.completed` -/
def taskCompleted (next : WorkspaceProjection) (payload : JsonValue) : WorkspaceProjection :=
  match readAgent ((asRecord payload).lookup "agent") with
  | some agent =>
    let updated := updateTask next agent (attemptPatch .completed payload)
    { updated with
      activeAgent := if updated.activeAgent = some agent then none else updated.activeAgent }
  | none => next

/-- The error that is shown for a failed task. -/
def taskError (agent : RunAgentName) (payload : JsonValue) : String :=
  (readError ((asRecord payload).lookup "error")).getD (agent.name ++ " failed")

/-- `task.failed` -/
def taskFailed (next : WorkspaceProjection) (payload : JsonValue) : WorkspaceProjection :=
  match readAgent ((asRecord payload).lookup "agent") with
  | some agent =>
    { updateTask next agent { status := .failed } with
      activeAgent := none
      error := some (taskError agent payload) }
  | none => next

/-- The reason that is shown for an approval. -/
def reasonShown (payload : JsonValue) : String :=
  let approval := normalizeApprovalRequiredEventPayload payload
  (approval.map ApprovalRequired.reason <|> readString ((asRecord payload).lookup "reason")).getD
    "Approval is required before the run can continue."

/-- `approval.required` -/
def approvalRequired (next : WorkspaceProjection) (payload : JsonValue) : WorkspaceProjection :=
  let approval := normalizeApprovalRequiredEventPayload payload
  { next with
    approvalReason := some (reasonShown payload)
    approvalScope := approval.map ApprovalRequired.scope
    inferredRunStatus := some .paused
    tasks :=
      match next.activeAgent with
      | some agent => (updateTask next agent { status := .waiting }).tasks
      | none => next.tasks }

/-- `run.status_changed` -/
def runStatusChanged (next : WorkspaceProjection) (payload : JsonValue) : WorkspaceProjection :=
  match readRunStatus ((asRecord payload).lookup "to") with
  | some status =>
    { next with
      inferredRunStatus := some status
      approvalReason := if status ≠ .paused then none else next.approvalReason
      approvalScope := if status ≠ .paused then none else next.approvalScope }
  | none => next

/-- `run.completed` -/
def runCompleted (next : WorkspaceProjection) : WorkspaceProjection :=
  { next with
    inferredRunStatus := some .completed
    activeAgent := none
    approvalReason := none
    approvalScope := none }

/-- The error that is shown for a failed run. -/
def runError (payload : JsonValue) : String :=
  let record := asRecord payload
  (readError (record.lookup "error") <|> readString (record.lookup "message")).getD "Run failed"

/-- `run.failed` -/
def runFailed (next : WorkspaceProjection) (payload : JsonValue) : WorkspaceProjection :=
  { next with
    inferredRunStatus := some .failed
    activeAgent := none
    approvalReason := none
    approvalScope := none
    error := some (runError payload) }

/-- `preview.updated` -/
def previewUpdated (formats : Formats) (next : WorkspaceProjection) (payload : JsonValue) :
    WorkspaceProjection :=
  match previewUpdatedPayload formats payload with
  | some preview => { next with preview := some preview }
  | none => next

/-- `task.progress` -/
def taskProgress (formats : Formats) (next : WorkspaceProjection) (payload : JsonValue) :
    WorkspaceProjection :=
  match validationProgressPayload formats payload with
  | some validation =>
    { next with
      validations :=
        (next.validations.filter fun item => item.step ≠ validation.step) ++ [validation] }
  | none => next

/-- `[...new Set(paths)].sort()` -/
def sortedSet (paths : List String) : List String :=
  paths.eraseDups.insertionSort fun a b => Utf16.le a b

/-- `code_generated` -/
def codeGenerated (next : WorkspaceProjection) (payload : JsonValue) : WorkspaceProjection :=
  { next with
    generatedPaths :=
      sortedSet (next.generatedPaths ++ stringsOf ((asRecord payload).lookup "paths")) }

/-- `integration.status_changed` -/
def integrationStatusChanged (formats : Formats) (next : WorkspaceProjection) (payload : JsonValue) :
    WorkspaceProjection :=
  match databaseStatusChangedPayload formats payload with
  | some database =>
    if next.database.all fun shown => shown.operationVersion ≤ database.operationVersion then
      { next with database := some database }
    else next
  | none => next

/-- What an event does to the projection, by its type. -/
def showEvent (formats : Formats) (next : WorkspaceProjection) (event : RunEventEnvelope) :
    WorkspaceProjection :=
  match event.eventType with
  | .taskCreated => describeTask .queued next event.payload
  | .taskStarted | .legacyTaskStarted => taskStarted next event.payload
  | .taskCompleted => taskCompleted next event.payload
  | .taskFailed => taskFailed next event.payload
  | .taskSkipped => describeTask .skipped next event.payload
  | .approvalRequired | .legacyApprovalRequired => approvalRequired next event.payload
  | .runStatusChanged => runStatusChanged next event.payload
  | .runCompleted => runCompleted next
  | .runFailed | .error => runFailed next event.payload
  | .previewUpdated => previewUpdated formats next event.payload
  | .taskProgress => taskProgress formats next event.payload
  | .codeGenerated => codeGenerated next event.payload
  | .integrationStatusChanged => integrationStatusChanged formats next event.payload
  | _ => next

end Events

/-- Source `reduceRunEvent`. -/
def reduceRunEvent (formats : Formats) (current : WorkspaceProjection) (event : RunEventEnvelope) :
    WorkspaceProjection :=
  if current.events.any fun item => item.sequence = event.sequence then current
  else
    showEvent formats
      { current with
        events := Window.remember RunEventEnvelope.sequence 500 current.events event }
      event

/-- The projection after events were reduced one after the other. -/
def projectionOf (formats : Formats) (log : List RunEventEnvelope) : WorkspaceProjection :=
  log.foldl (reduceRunEvent formats) createWorkspaceProjection

end AtomsPlatform.Workspace
