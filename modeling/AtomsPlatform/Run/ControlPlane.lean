import AtomsPlatform.Lib.Interfaces
import AtomsPlatform.Lib.Trace
import AtomsPlatform.Run.Platform
import AtomsPlatform.Run.Rows
import Mathlib.Data.List.Sort

/-!
# The control plane of runs

The components around the worker as they are: the control API's actions on runs, which read a run,
change it and enqueue a job; the queue, which delivers the jobs that were enqueued, any number of
times; the three sweeps, which read candidates and then change one after the other; and the other
components that append to the log of a run. Together with the deliveries they share one store and are
interleaved at their calls.
-/

namespace AtomsPlatform.Run
open Interleaving
variable {Output : Type}

/-- Source `RunActionInput`. -/
structure RunActionInput where
  action : RunAction
  approvalScope : Option ApprovalScope := none
  expectedStatus : Option AgentRunStatus := none
  expectedControlVersion : Option Nat := none
  reason : Option String := none
deriving DecidableEq, Repr

/-- Source `RunActionInputSchema`: a scope is named to approve, and for no other action. -/
def RunActionInput.valid (input : RunActionInput) : Bool :=
  input.approvalScope.isSome = decide (input.action = .approve)

/-- The command of the job that an action enqueues. -/
def RunAction.command? : RunAction → Option RunJobCommand
  | .approve => some .approve
  | .resume => some .resume
  | .retry => some .retry
  | .pause | .cancel => none

/-- A candidate of `sendReminders`. -/
structure ReminderCandidate where
  id : Uuid
  pausedAt : Option Date
deriving DecidableEq, Repr

/-- A candidate of `purgeExpiredRunData`. -/
structure PurgeCandidate where
  id : Uuid
  cancelledAt : Option Date
deriving DecidableEq, Repr

variable (schemas : AgentOutputSchemas Output)

/-- The calls of the control plane: those of jobs, among them all transactions on the shared tables;
    the queue; the candidates of two sweeps; and an event of another component. -/
inductive ControlCall where
  | worker (c : WorkerCall schemas)
  | enqueue (job : RunJob)
  | findReminders (pausedBefore : Date) (limit : Nat)
  | findExpired (cancelledBefore : Date) (limit : Nat)
  | appendEvent (runId : Uuid) (event : OtherEvent)

variable {schemas}

/-- What a call answers when it does not fail. -/
@[reducible]
def ControlCall.Answer : ControlCall schemas → Type
  | .worker c => c.Answer
  | .enqueue _ | .appendEvent .. => Unit
  | .findReminders .. => List ReminderCandidate
  | .findExpired .. => List PurgeCandidate

variable (schemas) in
/-- Programs of the control plane. -/
abbrev ControlProgram (α : Type) : Type :=
  Fallible (ControlCall schemas) ControlCall.Answer Thrown α

/-- A transaction on the shared tables. -/
abbrev store (o : Operation Output) : ControlProgram schemas o.Answer :=
  invoke (ControlCall.worker (.store o))

/-- The clock. -/
abbrev clock : ControlProgram schemas Date :=
  invoke (ControlCall.worker .now)

section ControlApi

/-- Source `ApiError`. -/
def apiError (code message : String) : Thrown :=
  [{ name := "ApiError", message, code := some code }]

/-- Source `concurrencyError`. -/
def concurrencyError : Thrown :=
  apiError "RUN_CONCURRENCY_CONFLICT" "The run changed before the action could be applied"

/-- Source `assertClientPreconditions`. -/
def meetsClientPreconditions (current : AgentRun) (input : RunActionInput) : Bool :=
  (input.expectedStatus.all fun status => status = current.status) &&
    input.expectedControlVersion.all fun version => version = current.controlVersion

/-- Source `providerFailure`, whose JSON has no name. -/
def providerFailure (code : String) (error : Thrown) : RunError where
  code
  name := ""
  message := (error.head?.map ErrorFrame.message).getD "Provider operation failed"
  retryable := true

/-- Enqueues a job; a run whose job cannot be enqueued is marked as failed. -/
def enqueueOrFail (job : RunJob) (message : String) : ControlProgram schemas Unit :=
  tryCatch (invoke (ControlCall.enqueue job)) fun error => do
    let now ← clock
    store (.markRunFailed job.runId job.controlVersion
      (providerFailure "QUEUE_ENQUEUE_FAILED" error) now)
    throw (apiError "RUN_QUEUE_UNAVAILABLE" message)

/-- The end of `createRun`, for a run that was stored before. -/
def startRun (runId : Uuid) : ControlProgram schemas Unit :=
  enqueueOrFail { runId, command := .start, controlVersion := 0 }
    "Run was persisted but could not be enqueued"

/-- The job of an action that was applied. -/
def jobOf (updated : AgentRun) (input : RunActionInput) (command : RunJobCommand) : RunJob where
  runId := updated.id
  command
  controlVersion := updated.controlVersion
  reason := input.reason
  approvalScope := if input.action = .approve then input.approvalScope else none

/-- What `controlRun` does once its action was applied. -/
def enqueueAction (updated : AgentRun) (input : RunActionInput) : ControlProgram schemas Unit :=
  match input.action.command? with
  | none => pure ()
  | some command =>
    enqueueOrFail (jobOf updated input command)
      "Run state changed but execution could not be enqueued"

/-- What `controlRun` does for a run that it read and an action that is valid for it. -/
def applyAction (current : AgentRun) (input : RunActionInput) (occurredAt : Date) :
    ControlProgram schemas Unit := do
  match ← store (.transitionRun current.id input.action current.status current.controlVersion
      occurredAt) with
  | none =>
    let _ ← store (.getRun current.id)
    throw concurrencyError
  | some updated => enqueueAction updated input

/-- Source `controlRun`. -/
def controlRun (runExecutionEnabled : Bool) (runId : Uuid) (input : RunActionInput) :
    ControlProgram schemas Unit := do
  match ← store (.getRun runId) with
  | none => throw (apiError "RUN_NOT_FOUND" "Run not found")
  | some current =>
    if !meetsClientPreconditions current input then throw concurrencyError
    else
      let occurredAt ← clock
      match resolveRunTransition input.action current.status occurredAt with
      | none => throw (apiError "INVALID_RUN_TRANSITION" "Action is not valid")
      | some (_, enqueue) =>
        if enqueue && !runExecutionEnabled then
          throw (apiError "RUN_EXECUTION_DISABLED" "Run execution is disabled by deployment policy")
        else applyAction current input occurredAt

end ControlApi

section Sweeps

/-- Changes one candidate after the other; the answer has those that were changed. -/
def changeEach {γ : Type} (id : γ → Uuid) (change : γ → ControlProgram schemas Bool) :
    List γ → ControlProgram schemas (List Uuid)
  | [] => pure []
  | candidate :: candidates => do
    let changed ← change candidate
    let ids ← changeEach id change candidates
    pure (if changed then id candidate :: ids else ids)

/-- Source `expirePausedRuns`. -/
def expirePausedRuns (limit : Nat) (pausedBefore now : Date) :
    ControlProgram schemas (List Uuid) := do
  let candidates ← store (.findPausedRuns pausedBefore limit)
  changeEach AgentRun.id (fun r => store (.expirePausedRun r.id r.controlVersion now)) candidates

/-- Source `sendReminders`. -/
def sendReminders (limit : Nat) (pausedBefore now : Date) : ControlProgram schemas (List Uuid) := do
  let candidates ← invoke (ControlCall.findReminders pausedBefore limit)
  changeEach ReminderCandidate.id (fun w => store (.sendReminder w.id w.pausedAt now)) candidates

/-- Source `purgeExpiredRunData`. -/
def purgeExpiredRunData (limit : Nat) (cancelledBefore now : Date) :
    ControlProgram schemas (List Uuid) := do
  let candidates ← invoke (ControlCall.findExpired cancelledBefore limit)
  changeEach PurgeCandidate.id (fun w => store (.purgeRunData w.id w.cancelledAt now)) candidates

/-- Source `MAX_BATCHES_PER_SWEEP`. -/
def maxBatchesPerSweep : Nat := 10

/-- The loop of a sweep: a short batch means that the backlog is done. -/
def sweepBatches (batchSize : Nat) (batch : ControlProgram schemas (List Uuid)) :
    (remaining : Nat) → ControlProgram schemas Unit
  | 0 => pure ()
  | remaining + 1 => do
    let changed ← batch
    if changed.length < batchSize then pure () else sweepBatches batchSize batch remaining

/-- Source `sweepOnce` of the three sweepers; `after` is `ttlMs` or `afterMs`. -/
def sweepOnce (batchSize after : Nat) (batch : (before now : Date) → ControlProgram schemas (List Uuid)) :
    ControlProgram schemas Unit := do
  let now ← clock
  tryCatch (sweepBatches batchSize (batch (now - after) now) maxBatchesPerSweep) fun _ => pure ()

end Sweeps

/-- What can be started. -/
inductive ControlActivity (Output : Type) where
  | start :
    (runId : Uuid) → ControlActivity Output
  | control :
    (runId : Uuid) → RunActionInput → ControlActivity Output
  | delivery :
    (job : RunJob) → RunAttempt → ControlActivity Output
  | expiry :
    (batchSize ttlMs : Nat) → ControlActivity Output
  | reminders :
    (batchSize afterMs : Nat) → ControlActivity Output
  | purges :
    (batchSize afterMs : Nat) → ControlActivity Output
  | append :
    (runId : Uuid) → OtherEvent → ControlActivity Output
  -- the sandbox and preview records of validations, and users' writes of files
  | record :
    Operation Output → ControlActivity Output

/-- Whether a transaction is one that records a validation, or a user's write of a file. -/
def Operation.records : Operation Output → Bool
  | .createSandboxSession _ | .markSandboxFilesRestored .. | .recordSandboxCommand _ => true
  | .recordPreviewReady _ | .putProjectFile .. => true
  | _ => false

/-- What is configured: the worker's collaborators, whether runs are executed, and the attachments
    snapshotted for each run. -/
structure Deployment where
  options : RunProcessorOptions := {}
  runExecutionEnabled : Bool := true
  references : Uuid → List AgentReferenceAttachment := fun _ => []

/-- The program of an activity. -/
def ControlActivity.program (d : Deployment) :
    ControlActivity Output → ControlProgram schemas Unit
  | .start runId => startRun runId
  | .control runId input => controlRun d.runExecutionEnabled runId input
  | .delivery job attempt => do
    let _ ← embed ControlCall.worker (process d.options job attempt)
    pure ()
  | .expiry batchSize ttlMs => sweepOnce batchSize ttlMs (expirePausedRuns batchSize)
  | .reminders batchSize afterMs => sweepOnce batchSize afterMs (sendReminders batchSize)
  | .purges batchSize afterMs => sweepOnce batchSize afterMs (purgeExpiredRunData batchSize)
  | .append runId event => invoke (ControlCall.appendEvent runId event)
  | .record o => do
    let _ ← store o
    pure ()

variable (schemas) in
/-- The shared tables with what LangGraph saved, and the jobs that were enqueued. -/
structure ControlStore where
  platform : Platform schemas := {}
  queue : List RunJob := []

/-- The tables. -/
abbrev ControlStore.tables (s : ControlStore schemas) : RunStore Output :=
  s.platform.tables

/-- The candidates of `sendReminders`. -/
def RunStore.reminderCandidates (s : RunStore Output) (pausedBefore : Date) (limit : Nat) :
    List ReminderCandidate :=
  let due := s.runs.filter fun r =>
    r.status = .paused ∧ (r.pausedAt.any fun t => t < pausedBefore) ∧ r.reminderSentAt = none
  ((due.insertionSort fun r r' => r.pausedAt.getD 0 ≤ r'.pausedAt.getD 0).take limit).map fun r =>
    ⟨r.id, r.pausedAt⟩

/-- The candidates of `purgeExpiredRunData`: only runs that were cancelled on expiry. -/
def RunStore.purgeCandidates (s : RunStore Output) (cancelledBefore : Date) (limit : Nat) :
    List PurgeCandidate :=
  let due := s.runs.filter fun r =>
    r.status = .cancelled ∧ r.purgedAt = none ∧
      (r.cancelledAt.any fun t => t < cancelledBefore) ∧
      r.error.any fun error => error.code = expiredError.code
  ((due.insertionSort fun r r' => r.cancelledAt.getD 0 ≤ r'.cancelledAt.getD 0).take limit).map
    fun r => ⟨r.id, r.cancelledAt⟩

/-- Whether what a failing call was to do took effect. -/
def WorkerEnvironment.takesEffect (env : WorkerEnvironment schemas) : Bool :=
  env.failure.isNone || env.saves

/-- Answers a call. -/
def ControlCall.perform (d : Deployment) :
    (c : ControlCall schemas) → WorkerEnvironment schemas → ControlStore schemas →
    Except Thrown c.Answer × ControlStore schemas
  | .worker c, env, s =>
    let (answer, platform) := c.perform d.options d.references env s.platform
    (answer, { s with platform })
  | .enqueue job, env, s =>
    (env.answer (), if env.takesEffect then { s with queue := s.queue ++ [job] } else s)
  | .findReminders pausedBefore limit, env, s =>
    (env.answer (s.tables.reminderCandidates pausedBefore limit), s)
  | .findExpired cancelledBefore limit, env, s =>
    (env.answer (s.tables.purgeCandidates cancelledBefore limit), s)
  | .appendEvent runId event, env, s =>
    (env.answer (),
      if env.takesEffect ∧ (s.tables.run? runId).isSome then
        { s with platform.tables := s.tables.appendEvent runId (.ofOther event) }
      else s)

/-- Jobs are delivered that were enqueued. -/
def ControlActivity.admitted (s : ControlStore schemas) : ControlActivity Output → Bool
  | .delivery job _ => job ∈ s.queue
  | .control _ input => input.valid
  | .record o => o.records
  | _ => true

variable (schemas) in
/-- The control plane of runs. -/
def controlPlane (d : Deployment) :
    System (ControlCall schemas) (fun c => Except Thrown c.Answer) (ControlStore schemas)
      (ControlActivity Output) (Except Thrown Unit) where
  Choice := WorkerEnvironment schemas
  perform := ControlCall.perform d
  body activity := (activity.program d).run
  admits s activity := activity.admitted s = true

instance (d : Deployment) (s : ControlStore schemas) (activity : ControlActivity Output) :
    Decidable ((controlPlane schemas d).admits s activity) :=
  inferInstanceAs (Decidable (activity.admitted s = true))

variable (schemas) in
/-- Configurations of the control plane. -/
abbrev ControlConfig : Type :=
  Config (ControlCall schemas) (fun c => Except Thrown c.Answer) (ControlStore schemas)
    (ControlActivity Output) (Except Thrown Unit)

/-- A run as it is created. -/
def AgentRun.fresh (id workspaceId projectId : Uuid) (prompt : String) : AgentRun :=
  { id, workspaceId, projectId, prompt }

/-- Before anything was started: the runs are as they were created, with empty logs and without
    tasks, and nothing was saved or enqueued. -/
structure Begins (c : ControlConfig schemas) : Prop where
  keyed : (c.store.tables.runs.map AgentRun.id).Nodup
  runs : ∀ r ∈ c.store.tables.runs, r = .fresh r.id r.workspaceId r.projectId r.prompt
  logs : ∀ runId, c.store.tables.logs runId = {}
  tasks : c.store.tables.tasks = []
  saved : ∀ runId, c.store.platform.saved runId = RunOutputs.none
  queue : c.store.queue = []
  threads : c.threads = []

section Scenario
variable {requiresApproval : Bool} {variants : Nat} {d : Deployment}

/-- The control plane of the scenarios. -/
abbrev plainPlane (requiresApproval : Bool) (variants : Nat) (d : Deployment) :
    System (ControlCall (plainSchemas requiresApproval variants)) (fun c => Except Thrown c.Answer)
      (ControlStore (plainSchemas requiresApproval variants)) (ControlActivity Unit)
      (Except Thrown Unit) :=
  controlPlane (plainSchemas requiresApproval variants) d

/-- One run was created, and nothing was started. -/
def freshPlane : ControlConfig (plainSchemas requiresApproval variants) where
  store := { platform := { tables := pendingRun } }
  threads := []

lemma freshPlane_begins :
    Begins (freshPlane : ControlConfig (plainSchemas requiresApproval variants)) := by
  refine ⟨List.nodup_singleton _, ?_, fun _ => rfl, rfl, fun _ => rfl, rfl, rfl⟩
  intro r mem
  rw [List.mem_singleton.mp mem]
  rfl

/-- A thread makes `n` calls that go well; `id` is generated. -/
def proceeds (thread n : Nat) (id : Uuid) : List (plainPlane requiresApproval variants d).Move :=
  List.replicate n (.act thread (smoothly id))

/-- A call at a later time. -/
def later (now : Date) : WorkerEnvironment (plainSchemas requiresApproval variants) :=
  { smoothly 0 with now }

/-- The run is started, and a delivery of its first job, thread 1, gets as far as the plan gate. -/
def plansRun : List (plainPlane requiresApproval variants d).Move :=
  .spawn (.start 1) :: proceeds 0 1 0 ++
    .spawn (.delivery ⟨1, .start, 0, none, none⟩ ⟨1, 1⟩) :: proceeds 1 12 11 ++
    proceeds 1 9 12 ++ proceeds 1 9 13 ++ proceeds 1 9 14

/-- The plan is shown to the user. -/
def asksForPlan : List (plainPlane requiresApproval variants d).Move :=
  plansRun ++ proceeds 1 2 15

/-- A user's action on the run, as thread `thread`, which makes `calls` calls. -/
def acts (thread calls : Nat) (input : RunActionInput) :
    List (plainPlane requiresApproval variants d).Move :=
  .spawn (.control 1 input) :: proceeds thread calls 0

end Scenario

end AtomsPlatform.Run
