import AtomsPlatform.Run.Model

/-!
# Worker repository

The transactions of the worker's `PrismaWorkerRepository` that change a run. All but `claimRun` and
the three closing transitions start with `touchActiveRun`, which takes the row of the run if it is
RUNNING at the expected control version; when it is not, nothing happens (`whileActive`).
-/

namespace AtomsPlatform.Run
variable {Output : Type}

/-- Source `RunExecutionRecord`. -/
structure RunExecutionRecord where
  id : Uuid
  workspaceId : Uuid
  projectId : Uuid
  status : AgentRunStatus
  prompt : String
  controlVersion : Nat
deriving DecidableEq, Repr

/-- Source `toRunExecutionRecord`. -/
def toRunExecutionRecord (run : AgentRun) : RunExecutionRecord where
  id := run.id
  workspaceId := run.workspaceId
  projectId := run.projectId
  status := run.status
  prompt := run.prompt
  controlVersion := run.controlVersion

/-- Source `WorkerTaskRecord`. -/
structure WorkerTaskRecord (Output : Type) where
  id : Uuid
  runId : Uuid
  agentName : AgentName
  description : String
  ordinal : Nat
  status : AgentTaskStatus
  attempt : Nat
  output : Option Output
deriving DecidableEq, Repr

/-- Source `toWorkerTaskRecord`. -/
def toWorkerTaskRecord (task : AgentTask Output) : WorkerTaskRecord Output where
  id := task.id
  runId := task.runId
  agentName := task.agentName
  description := task.description
  ordinal := task.ordinal
  status := task.status
  attempt := task.attempt
  output := task.output

/-- Source `RunClaimResult`. -/
inductive RunClaimResult where
  | ready :
    RunExecutionRecord → RunClaimResult
  | missing
  | stale :
    (status : AgentRunStatus) → (controlVersion : Nat) → RunClaimResult
deriving DecidableEq, Repr

/-- Source `TaskMutationResult`. -/
inductive TaskMutationResult (Output : Type) where
  | ok :
    WorkerTaskRecord Output → TaskMutationResult Output
  | stopped
deriving DecidableEq, Repr

/-- The `where` clause of the fenced updates: a status at a control version. -/
def isAt (status : AgentRunStatus) (controlVersion : Nat) (run : AgentRun) : Bool :=
  run.status = status ∧ run.controlVersion = controlVersion

/-- Source `claimRun`. -/
def claimRun (job : RunJob) (now : Date) : Transaction Output RunClaimResult := fun s =>
  match s.run? job.runId with
  | none => .ok (.missing, s)
  | some current =>
    if current.status = .running ∧ current.controlVersion = job.controlVersion + 1 then
      .ok (.ready (toRunExecutionRecord current), s)
    else if ¬ (current.status = .pending ∧ current.controlVersion = job.controlVersion) then
      .ok (.stale current.status current.controlVersion, s)
    else
      let claimed : AgentRun :=
        { current with
          status := .running
          controlVersion := current.controlVersion + 1
          startedAt := some (current.startedAt.getD now)
          lastHeartbeatAt := some now }
      let s := s.updateRun job.runId (isAt .pending job.controlVersion) fun _ => claimed
      .ok (.ready (toRunExecutionRecord claimed), s.appendEvent job.runId
        (.statusChanged .pending .running job.command claimed.controlVersion))

/-- Source `touchActiveRun`, and what follows it in each transaction: `stopped` when the run is not
    RUNNING at the expected control version. -/
def whileActive {α : Type} (runId : Uuid) (expectedControlVersion : Nat) (now : Date) (stopped : α)
    (rest : Transaction Output α) : Transaction Output α := fun s =>
  if s.owns runId (isAt .running expectedControlVersion) then
    rest (s.updateRun runId (isAt .running expectedControlVersion) fun r =>
      { r with lastHeartbeatAt := some now })
  else .ok (stopped, s)

/-- Source `PrepareTaskInput`. -/
structure PrepareTaskInput where
  runId : Uuid
  expectedControlVersion : Nat
  agentName : AgentName
  description : String
  ordinal : Nat
  input : String
  now : Date
  skipReason : Option String := none
deriving DecidableEq, Repr

/-- `agentTask.findUnique({ where: { runId_ordinal } })` -/
def RunStore.taskAt (s : RunStore Output) (runId : Uuid) (ordinal : Nat) :
    Option (AgentTask Output) :=
  s.tasks.find? fun t => t.runId = runId ∧ t.ordinal = ordinal

/-- The two transactions that create a task, which differ in its status and in the event. -/
def ensureTask (input : PrepareTaskInput) (id : Uuid) (status : AgentTaskStatus)
    (event : RunEventPayload) : Transaction Output (TaskMutationResult Output) :=
  whileActive input.runId input.expectedControlVersion input.now .stopped fun s =>
    match s.taskAt input.runId input.ordinal with
    | some existing => .ok (.ok (toWorkerTaskRecord existing), s)
    | none =>
      if s.tasks.any fun t => t.id = id then
        .error (.prisma "P2002" "Unique constraint failed")
      else
        let task : AgentTask Output :=
          { id
            runId := input.runId
            agentName := input.agentName
            description := input.description
            ordinal := input.ordinal
            status
            input := some input.input }
        let s := { s with tasks := s.tasks ++ [task] }
        .ok (.ok (toWorkerTaskRecord task), s.appendEvent input.runId event)

/-- Source `prepareTask`; `id` is generated. -/
def prepareTask (input : PrepareTaskInput) (id : Uuid) :
    Transaction Output (TaskMutationResult Output) :=
  ensureTask input id .pending
    (.taskCreated id input.agentName input.ordinal input.description)

/-- Source `skipTask`; `id` is generated. -/
def skipTask (input : PrepareTaskInput) (id : Uuid) :
    Transaction Output (TaskMutationResult Output) :=
  ensureTask input id .skipped
    (.taskSkipped id input.agentName input.ordinal input.description input.skipReason)

/-- Source `startTask`. -/
def startTask (runId : Uuid) (expectedControlVersion : Nat) (taskId : Uuid) (now : Date) :
    Transaction Output (TaskMutationResult Output) :=
  whileActive runId expectedControlVersion now .stopped fun s =>
    match s.task? taskId with
    | none => .error (.prisma "P2025" "Record not found")
    | some current =>
      if current.status = .completed then .ok (.ok (toWorkerTaskRecord current), s)
      else
        let started (t : AgentTask Output) : AgentTask Output :=
          { t with
            status := .running
            attempt := t.attempt + 1
            startedAt := some now
            completedAt := none
            error := none }
        let s := s.updateTask taskId started
        let task := started current
        .ok (.ok (toWorkerTaskRecord task), s.appendEvent runId
          (.taskStarted task.id task.agentName task.ordinal task.attempt))

/-- Source `failTask`; the answer is whether the run was still active. -/
def failTask (runId : Uuid) (expectedControlVersion : Nat) (taskId : Uuid) (error : RunError)
    (now : Date) : Transaction Output Bool :=
  whileActive runId expectedControlVersion now false fun s =>
    match s.task? taskId with
    | none => .error (.prisma "P2025" "Record to update not found")
    | some task =>
      let s := s.updateTask taskId fun t =>
        { t with status := .failed, error := some error, completedAt := some now }
      .ok (true, s.appendEvent runId
        (.taskFailed task.id task.agentName task.ordinal task.attempt error))

/-- A closing transition of a run: it leaves RUNNING under the next control version. -/
def leaveRunning (runId : Uuid) (expectedControlVersion : Nat) (data : AgentRun → AgentRun)
    (event : RunEventPayload) : Transaction Output Bool := fun s =>
  if s.owns runId (isAt .running expectedControlVersion) then
    let s := s.updateRun runId (isAt .running expectedControlVersion) fun r =>
      { data r with controlVersion := r.controlVersion + 1 }
    .ok (true, s.appendEvent runId event)
  else .ok (false, s)

/-- Source `requestApproval`. -/
def requestApproval (runId : Uuid) (expectedControlVersion : Nat) (scope : ApprovalScope)
    (reason : String) (now : Date) : Transaction Output Bool :=
  leaveRunning runId expectedControlVersion
    (fun r => { r with status := .paused, pausedAt := some now, lastHeartbeatAt := some now })
    (.approvalRequired scope reason)

/-- Source `completeRun`. -/
def completeRun (runId : Uuid) (expectedControlVersion : Nat) (now : Date) :
    Transaction Output Bool :=
  leaveRunning runId expectedControlVersion
    (fun r =>
      { r with status := .completed, completedAt := some now, lastHeartbeatAt := some now })
    (.runCompleted now)

/-- Source `failRun`. -/
def failRun (runId : Uuid) (expectedControlVersion : Nat) (error : RunError) (now : Date) :
    Transaction Output Bool :=
  leaveRunning runId expectedControlVersion
    (fun r =>
      { r with
        status := .failed
        error := some error
        completedAt := some now
        lastHeartbeatAt := some now })
    (.runFailed error)

end AtomsPlatform.Run
