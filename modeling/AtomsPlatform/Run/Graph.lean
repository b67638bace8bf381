import AtomsPlatform.Lib.Program
import AtomsPlatform.Run.Operations
import AtomsPlatform.Run.Agents

/-!
# Run graph

The graph that a job of a run executes: the eight agents in a line, with the plan gate before Alex and
the content gate at the end. A node reads the state and returns an update; when it has, the update is
applied, which with a checkpointer is also saved for the thread of the run. A later execution on the
same thread starts again at the first node, with the saved outputs.
-/

namespace AtomsPlatform.Run
open Interleaving
variable {Output : Type}

/-- Source `AgentReferenceAttachment`. -/
structure AgentReferenceAttachment where
  id : Uuid
  isImage : Bool
  fileName : String
  mimeType : String
  dataBase64 : String
deriving DecidableEq, Repr

/-- Source `AgentExecutionRequest`. -/
structure AgentExecutionRequest (schemas : AgentOutputSchemas Output) where
  agentName : AgentName
  runId : Uuid
  prompt : String
  upstreamOutputs : RunOutputs schemas
  currentFiles : List AgentProjectFile
  referenceAttachments : List AgentReferenceAttachment := []
  projectType : Option ProjectType := none

/-- Source `RunState`. -/
structure RunState (schemas : AgentOutputSchemas Output) where
  runId : Uuid
  workspaceId : Uuid
  projectId : Uuid
  prompt : String
  command : RunJobCommand
  approvalScope : Option ApprovalScope
  controlVersion : Nat
  approvalBypassConsumed : Bool := false
  outputs : RunOutputs schemas := RunOutputs.none

/-- What a node returns: a part of the state. -/
structure RunUpdate (schemas : AgentOutputSchemas Output) where
  approvalBypassConsumed : Option Bool := none
  outputs : RunOutputs schemas := RunOutputs.none

variable {schemas : AgentOutputSchemas Output}

/-- The reducers of `RunState`. -/
def RunState.apply (state : RunState schemas) (update : RunUpdate schemas) : RunState schemas :=
  { state with
    approvalBypassConsumed := update.approvalBypassConsumed.getD state.approvalBypassConsumed
    outputs := state.outputs.merge update.outputs }

/-- The nodes of the graph. -/
inductive RunNode where
  | agent :
    AgentName → RunNode
  | approval
  | contentApproval
deriving DecidableEq, Repr

/-- Which optional collaborators a worker has, and its limit of repairs. -/
structure RunProcessorOptions where
  checkpointer : Bool := false
  validator : Bool := false
  assessor : Bool := false
  attachmentLoader : Bool := false
  repairer : Bool := false
  maxRepairAttempts : Nat := 0
deriving DecidableEq, Repr

variable (schemas) in
/-- The calls of a job: the clock, a transaction on the shared tables, two plain reads, and the
    collaborators. -/
inductive WorkerCall where
  | now
  | store (operation : Operation Output)
  | getProjectType (projectId : Uuid)
  | getWorkspacePlan (workspaceId : Uuid)
  -- `RunAttachmentLoader`, `AgentRuntime`, `RunValidator`, `RunValidationLease`, `ReleaseAssessor`
  | load (runId : Uuid)
  | execute (request : AgentExecutionRequest schemas)
  | validate (run : RunExecutionRecord) (attempt : Nat)
  | revoke (lease : Uuid)
  | assess (run : RunExecutionRecord) (attempt : Nat)
  -- LangGraph: the saved outputs of a thread, and the end of a node
  | loadThread (runId : Uuid)
  | endNode (node : RunNode) (state : RunState schemas) (update : RunUpdate schemas)

/-- What a call answers when it does not fail. -/
@[reducible]
def WorkerCall.Answer : WorkerCall schemas → Type
  | .now => Date
  | .store operation => operation.Answer
  | .getProjectType _ => ProjectType
  | .getWorkspacePlan _ => WorkspacePlan
  | .load _ => List AgentReferenceAttachment
  | .execute request => schemas.Valid request.agentName
  | .validate .. => Option Uuid
  | .revoke _ | .assess .. => Unit
  | .loadThread _ => RunOutputs schemas
  | .endNode .. => Unit

variable (schemas) in
/-- Programs of the worker. -/
abbrev WorkerProgram (α : Type) : Type :=
  Fallible (WorkerCall schemas) WorkerCall.Answer Thrown α

/-- The program that makes one call. -/
abbrev call (c : WorkerCall schemas) : WorkerProgram schemas c.Answer :=
  invoke c

/-- A computation of the worker itself, which may throw. -/
def compute {α : Type} : Except Thrown α → WorkerProgram schemas α
  | .ok a => pure a
  | .error error => throw error

/-- `runHasReferences` -/
def runHasReferences (options : RunProcessorOptions) (runId : Uuid) : WorkerProgram schemas Bool :=
  if options.attachmentLoader then do
    let references ← call (.load runId)
    pure (0 < references.length)
  else pure false

/-- Why an agent is skipped, if it is: it runs only if the project type needs it and the plan entitles
    it. The plan is read for premium agents only. -/
def findSkipReason (agentName : AgentName) (projectType : ProjectType) (workspaceId : Uuid) :
    WorkerProgram schemas (Option SkipReason) :=
  if !isRequiredForProjectType projectType agentName then
    pure (some .notRequiredForProjectType)
  else if agentName ∈ premiumAgents then do
    let plan ← call (.getWorkspacePlan workspaceId)
    pure (if !isEntitled plan agentName then some .planNotEntitled else none)
  else pure none

/-- The input of `prepareTask` and `skipTask`. -/
def taskRequest (agentName : AgentName) (state : RunState schemas) (upstreamOutputs : RunOutputs schemas)
    (skipReason : Option SkipReason) (now : Date) : PrepareTaskInput where
  runId := state.runId
  expectedControlVersion := state.controlVersion
  agentName
  description := taskDescription agentName
  ordinal := taskOrdinal agentName
  input := schemas.taskInput state.prompt fun agent => (upstreamOutputs agent).map Subtype.val
  now
  skipReason := skipReason.map SkipReason.name

/-- The output of a task that was completed before. -/
def restoreOutput (agentName : AgentName) (task : WorkerTaskRecord Output) :
    WorkerProgram schemas (RunUpdate schemas) :=
  match task.output.bind (schemas.accept agentName) with
  | none => throw zodError
  | some restored => pure { outputs := RunOutputs.single agentName restored }

/-- `agentName === "Alex" || agentName === "David"` -/
def generatesFiles (agentName : AgentName) : Bool :=
  agentName = .alex ∨ agentName = .david

/-- The project files an agent is shown. -/
def listCurrentFiles (agentName : AgentName) (projectId : Uuid) :
    WorkerProgram schemas (List AgentProjectFile) :=
  if generatesFiles agentName then call (.store (.listProjectFiles projectId)) else pure []

/-- The references an agent is shown. -/
def loadReferences (options : RunProcessorOptions) (agentName : AgentName) (runId : Uuid) :
    WorkerProgram schemas (List AgentReferenceAttachment) :=
  if (agentName = .sophia ∨ agentName = .emma) ∧ options.attachmentLoader then call (.load runId)
  else pure []

/-- What is checked of an output beyond its schema. -/
def checkOutput (agentName : AgentName) (output : schemas.Valid agentName)
    (upstreamOutputs : RunOutputs schemas) : Except Thrown Unit :=
  if agentName = .sarah then
    enforceDeterministicSeoChecks schemas output.val ((upstreamOutputs .bob).map Subtype.val)
  else .ok ()

/-- The body of the `try` of an agent node. -/
def executeTask (options : RunProcessorOptions) (agentName : AgentName) (state : RunState schemas)
    (upstreamOutputs : RunOutputs schemas) (projectType : ProjectType) (taskId : Uuid) :
    WorkerProgram schemas (RunUpdate schemas) := do
  let currentFiles ← listCurrentFiles agentName state.projectId
  let referenceAttachments ← loadReferences options agentName state.runId
  let output ← call (.execute
    { agentName, runId := state.runId, prompt := state.prompt, upstreamOutputs, currentFiles,
      referenceAttachments, projectType := some projectType })
  compute (checkOutput agentName output upstreamOutputs)
  let now ← call .now
  let completed ← call (.store (.completeTask
    { runId := state.runId
      expectedControlVersion := state.controlVersion
      taskId
      output := output.val
      generatedFiles := if generatesFiles agentName then some (schemas.files output.val) else none
      now }))
  match completed with
  | .stopped =>
    throw (runStoppedError "Run stopped before the agent result could be applied" "stopped")
  | .fileConflict conflict => throw (generatedFileConflictError conflict)
  | .ok _ => pure { outputs := RunOutputs.single agentName output }

/-- The body of the `catch` of an agent node. -/
def failStartedTask {α : Type} (state : RunState schemas) (taskId : Uuid) (error : Thrown) :
    WorkerProgram schemas α :=
  if (error.head?.bind ErrorFrame.stoppedStatus?).isSome then throw error
  else do
    let now ← call .now
    let failed ← call (.store (.failTask state.runId state.controlVersion taskId
      (toWorkerError error) now))
    if failed then throw error
    else throw (runStoppedError "Run stopped while the task result was in flight" "stopped")

/-- Source `runAgent`. -/
def runAgent (options : RunProcessorOptions) (agentName : AgentName) (state : RunState schemas) :
    WorkerProgram schemas (RunUpdate schemas) := do
  let upstreamOutputs ← compute (parseUpstreamOutputs state.outputs)
  let projectType ← call (.getProjectType state.projectId)
  let skipReason ← findSkipReason agentName projectType state.workspaceId
  let now ← call .now
  if skipReason.isSome then
    match ← call (.store (.skipTask (taskRequest agentName state upstreamOutputs skipReason now))) with
    | .stopped =>
      throw (runStoppedError "Run stopped before the skipped task could be recorded" "stopped")
    | .ok _ => pure {}
  else
    match ← call (.store (.prepareTask (taskRequest agentName state upstreamOutputs none now))) with
    | .stopped => throw (runStoppedError "Run stopped before task preparation" "stopped")
    | .ok prepared =>
      if prepared.status = .completed then restoreOutput agentName prepared
      else
        let now ← call .now
        match ← call (.store (.startTask state.runId state.controlVersion prepared.id now)) with
        | .stopped => throw (runStoppedError "Run stopped before task execution" "stopped")
        | .ok started =>
          if started.status = .completed then restoreOutput agentName started
          else
            tryCatch
              (executeTask options agentName state upstreamOutputs projectType started.id)
              fun error => failStartedTask state started.id error

/-- The end of both gates: an approve job of the gate's scope passes, once; otherwise the run is
    paused. -/
def awaitApproval (scope : ApprovalScope) (reason waiting stopped : String)
    (state : RunState schemas) : WorkerProgram schemas (RunUpdate schemas) :=
  if state.command = .approve ∧ state.approvalScope = some scope ∧
      state.approvalBypassConsumed = false then
    pure { approvalBypassConsumed := some true }
  else do
    let now ← call .now
    let paused ← call (.store (.requestApproval state.runId state.controlVersion scope reason now))
    throw (if paused then runStoppedError waiting "PAUSED" else runStoppedError stopped "stopped")

/-- `mike.requiresApproval || (await runHasReferences(…))` -/
def planNeedsApproval (options : RunProcessorOptions) (mike : schemas.Valid .mike) (runId : Uuid) :
    WorkerProgram schemas Bool :=
  if schemas.requiresApproval mike.val then pure true else runHasReferences options runId

/-- Source `approvalGate`. Text in a reference must never be able to switch the approval off, so a run
    that carries references always stops. -/
def approvalGate (options : RunProcessorOptions) (state : RunState schemas) :
    WorkerProgram schemas (RunUpdate schemas) :=
  match state.outputs .mike with
  | none => throw zodError
  | some mike =>
    if (state.outputs .alex).isSome then pure {}
    else do
      let needed ← planNeedsApproval options mike state.runId
      if needed then
        awaitApproval .plan "Approve the product and architecture plan before code generation"
          "Run is waiting for plan approval" "Run stopped before approval could be requested" state
      else pure {}

/-- Source `contentApprovalGate`. -/
def contentApprovalGate (state : RunState schemas) : WorkerProgram schemas (RunUpdate schemas) :=
  match state.outputs .adrian with
  | none => pure {}
  | some adrian =>
    if schemas.contentVariants adrian.val = 0 then pure {}
    else
      awaitApproval .content "Approve content variants before applying copy changes"
        "Run is waiting for content approval"
        "Run stopped before content approval could be requested" state

/-- What a node does. -/
def runNode (options : RunProcessorOptions) (node : RunNode) (state : RunState schemas) :
    WorkerProgram schemas (RunUpdate schemas) :=
  match node with
  | .agent agentName => runAgent options agentName state
  | .approval => approvalGate options state
  | .contentApproval => contentApprovalGate state

/-- Source `buildRunGraph`: the nodes in the order of the edges. -/
def runGraph : List RunNode :=
  [.agent .sophia, .agent .mike, .agent .emma, .agent .bob, .approval, .agent .alex, .agent .david,
    .agent .sarah, .agent .adrian, .contentApproval]

/-- Executes the nodes from one on. -/
def runNodes (options : RunProcessorOptions) :
    List RunNode → RunState schemas → WorkerProgram schemas (RunState schemas)
  | [], state => pure state
  | node :: nodes, state => do
    let update ← runNode options node state
    call (.endNode node state update)
    runNodes options nodes (state.apply update)

/-- What was saved for the thread of a run. -/
def loadSaved (options : RunProcessorOptions) (runId : Uuid) :
    WorkerProgram schemas (RunOutputs schemas) :=
  if options.checkpointer then call (.loadThread runId) else pure RunOutputs.none

/-- `graph.invoke` on the thread of the run: the input's outputs are merged into the saved ones. -/
def invokeGraph (options : RunProcessorOptions) (input : RunState schemas) :
    WorkerProgram schemas (RunState schemas) := do
  let saved ← loadSaved options input.runId
  runNodes options runGraph { input with outputs := saved.merge input.outputs }

end AtomsPlatform.Run
