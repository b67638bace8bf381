import AtomsPlatform.Run.Repository

/-!
# Run control and expiry

What changes a run from outside the worker: the actions of the control API, its handling of a job that
could not be enqueued, and the sweeps over paused runs. An action is decided from a run that was read
earlier, and applied by a compare-and-set on the status and control version that were read.
-/

namespace AtomsPlatform.Run
variable {Output : Type}

/-- Source `RunAction`. -/
inductive RunAction where
  | pause
  | resume
  | cancel
  | retry
  | approve
deriving DecidableEq, Repr

/-- Source `resolveRunTransition`: what an action does to a run of a status, and whether a job is
    enqueued; `none` when the action is not valid. -/
def resolveRunTransition (action : RunAction) (currentStatus : AgentRunStatus) (occurredAt : Date) :
    Option ((AgentRun → AgentRun) × Bool) :=
  match action with
  | .pause =>
    if currentStatus = .pending ∨ currentStatus = .running then
      some (fun r => { r with status := .paused, pausedAt := some occurredAt }, false)
    else none
  | .resume | .approve =>
    if currentStatus = .paused then
      some (fun r => { r with status := .pending, pausedAt := none, reminderSentAt := none }, true)
    else none
  | .cancel =>
    if currentStatus = .pending ∨ currentStatus = .running ∨ currentStatus = .paused then
      some (fun r => { r with status := .cancelled, cancelledAt := some occurredAt }, false)
    else none
  | .retry =>
    if currentStatus = .failed then
      some (fun r =>
        { r with
          status := .pending
          error := none
          startedAt := none
          pausedAt := none
          completedAt := none
          cancelledAt := none }, true)
    else none

/-- Source `transitionRun`, with the patch of an action that was resolved for a run read before;
    `found` is whether the run is one of the user's. -/
def transitionRun (runId : Uuid) (action : RunAction) (expectedStatus : AgentRunStatus)
    (expectedControlVersion : Nat) (occurredAt : Date) (found : Bool) :
    Transaction Output (Option AgentRun) := fun s =>
  match resolveRunTransition action expectedStatus occurredAt with
  | none => .error (.error "INVALID_RUN_TRANSITION")
  | some (patch, _) =>
    if found && s.owns runId (isAt expectedStatus expectedControlVersion) then
      let s := s.updateRun runId (isAt expectedStatus expectedControlVersion) fun r =>
        { patch r with controlVersion := r.controlVersion + 1 }
      .ok (s.run? runId, s)
    else .ok (none, s)

/-- Source `markRunFailed`. -/
def markRunFailed (runId : Uuid) (expectedControlVersion : Nat) (error : RunError) (now : Date) :
    Transaction Output Unit := fun s =>
  .ok ((), s.updateRun runId (isAt .pending expectedControlVersion) fun r =>
    { r with status := .failed, completedAt := some now, error := some error })

/-- Source `expiredError`. -/
def expiredError : RunError where
  code := "APPROVAL_EXPIRED"
  name := "ApprovalExpired"
  message := "The run was paused longer than the allowed time and was cancelled. " ++
    "Start a new run to continue."
  retryable := false

/-- The candidates of `expirePausedRuns`. -/
def findPausedRuns (pausedBefore : Date) (limit : Nat) : Transaction Output (List AgentRun) :=
  fun s =>
    .ok ((s.runs.filter fun r => r.status = .paused ∧ r.pausedAt.any fun t => t < pausedBefore).take
      limit, s)

/-- The update of `expirePausedRuns` for one candidate; the answer is whether it was cancelled. -/
def expirePausedRun (runId : Uuid) (controlVersion : Nat) (now : Date) : Transaction Output Bool :=
  fun s =>
    .ok (s.owns runId (isAt .paused controlVersion),
      s.updateRun runId (isAt .paused controlVersion) fun r =>
        { r with
          status := .cancelled
          cancelledAt := some now
          controlVersion := r.controlVersion + 1
          error := some expiredError })

/-- The transaction of `sendReminders` for one candidate. -/
def sendReminder (runId : Uuid) (pausedAt : Option Date) (now : Date) : Transaction Output Bool :=
  fun s =>
    let due (r : AgentRun) : Bool := r.status = .paused ∧ r.reminderSentAt = none
    if s.owns runId due then
      let s := s.updateRun runId due fun r => { r with reminderSentAt := some now }
      .ok (true, s.appendEvent runId (.approvalReminderDue (pausedAt.getD now)))
    else .ok (false, s)

/-- Source `PURGE_REDACTION_MARKER`. -/
def purgeRedactionMarker : String :=
  "[redacted: retention period elapsed -- see docs/design-partner-runbook.md]"

/-- The transaction of `purgeExpiredRunData` for one candidate. -/
def purgeRunData (runId : Uuid) (cancelledAt : Option Date) (now : Date) : Transaction Output Bool :=
  fun s =>
    let purgeable (r : AgentRun) : Bool := r.status = .cancelled ∧ r.purgedAt = none
    if s.owns runId purgeable then
      let s := s.updateRun runId purgeable fun r =>
        { r with prompt := purgeRedactionMarker, purgedAt := some now }
      let s := { s with
        tasks := s.tasks.map fun (t : AgentTask Output) =>
          if t.runId = runId then { t with input := none, output := none } else t }
      .ok (true, s.appendEvent runId (.dataPurged (cancelledAt.getD now)))
    else .ok (false, s)

end AtomsPlatform.Run
