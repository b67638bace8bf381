import AtomsPlatform.Lib.Versions
import AtomsPlatform.Run.Rows

/-!
# Run fencing

A worker's operation names the control version it was claimed with, and changes nothing when the run
has moved on (`perform_fenced`). The control version never goes down and rises with every change of
the status, apart from the one by which the control API marks a run as failed whose job could not be
enqueued. `run_fencing` states this for every call after every history of calls.
-/

namespace AtomsPlatform.Run
variable {Output : Type} {outputs : AgentOutputs Output} {id : Uuid} {s : RunStore Output}

/-- The run, status and control version that a worker's operation insists on. -/
def Operation.fence : Operation Output → Option (Uuid × AgentRunStatus × Nat)
  | .claimRun job _ => some (job.runId, .pending, job.controlVersion)
  | .prepareTask input | .skipTask input =>
    some (input.runId, .running, input.expectedControlVersion)
  | .completeTask input => some (input.runId, .running, input.expectedControlVersion)
  | .applyGeneratedFiles input => some (input.runId, .running, input.expectedControlVersion)
  | .createSandboxSession input => some (input.run.id, .running, input.run.controlVersion)
  | .recordSandboxCommand input => some (input.runId, .running, input.expectedControlVersion)
  | .recordPreviewReady input => some (input.run.id, .running, input.run.controlVersion)
  | .startTask runId version .. | .failTask runId version .. => some (runId, .running, version)
  | .markSandboxFilesRestored runId version .. => some (runId, .running, version)
  | .requestApproval runId version .. | .completeRun runId version .. | .failRun runId version .. =>
    some (runId, .running, version)
  | _ => none

/-- A job is not claimed, and nothing is written, unless the run is PENDING at the job's version. -/
lemma claimRun_fenced {job : RunJob} {now : Date} {s' : RunStore Output} {result : RunClaimResult}
    (lost : s.owns job.runId (isAt .pending job.controlVersion) = false)
    (e : claimRun job now s = .ok (result, s')) : s' = s := by
  simp only [claimRun] at e
  split at e
  · cases e
    rfl
  · rename_i current row
    split at e
    · cases e
      rfl
    split at e
    · cases e
      rfl
    · rename_i pending
      have owned : s.owns job.runId (isAt .pending job.controlVersion) = true := by
        rw [owns_run row]
        exact isAt_iff.mpr (not_not.mp pending)
      rw [lost] at owned
      cases owned

lemma leaveRunning_fenced {runId : Uuid} {version : Nat} {data : AgentRun → AgentRun}
    {event : RunEventPayload} {b : Bool} {s' : RunStore Output}
    (lost : s.owns runId (isAt .running version) = false)
    (e : leaveRunning runId version data event s = .ok (b, s')) : s' = s := by
  simp only [leaveRunning, lost] at e
  cases e
  rfl

/-- A worker's operation whose run is not at the status and control version it insists on changes
    nothing. -/
lemma perform_fenced {o : Operation Output} {env : Environment} {status : AgentRunStatus}
    {version : Nat} (fence : o.fence = some (id, status, version))
    (lost : s.owns id (isAt status version) = false) : (perform outputs o env s).2 = s := by
  obtain ⟨error, e⟩ | ⟨r, e, -⟩ := perform_cases outputs o env s
  · rw [e]
  generalize (perform outputs o env s).2 = s' at e ⊢
  cases o with
  | claimRun =>
    cases fence
    exact claimRun_fenced lost e
  | requestApproval | completeRun | failRun =>
    cases fence
    exact leaveRunning_fenced lost e
  | prepareTask | skipTask | startTask | completeTask | failTask | applyGeneratedFiles
  | createSandboxSession | markSandboxFilesRestored | recordSandboxCommand | recordPreviewReady =>
    cases fence
    dsimp only [transact, prepareTask, skipTask] at e
    exact whileActive_fenced lost e
  | _ => cases fence

section Changes
variable {o : Operation Output} {r r' : AgentRun}

/-- An action applies to no finished run, and to a failed one only if it is a retry. -/
lemma resolveRunTransition_applies {action : RunAction} {status : AgentRunStatus} {now : Date}
    {transition} (e : resolveRunTransition action status now = some transition) :
    status ≠ .completed ∧ status ≠ .cancelled ∧ (status = .failed → action = .retry) := by
  cases action <;>
  · simp only [resolveRunTransition] at e
    split at e
    · rename_i valid
      cases status <;> simp_all
    · cases e

/-- No action makes a run RUNNING or COMPLETED. -/
lemma resolveRunTransition_status {action : RunAction} {status : AgentRunStatus} {now : Date}
    {patch : AgentRun → AgentRun} {enqueues : Bool}
    (e : resolveRunTransition action status now = some (patch, enqueues)) (r : AgentRun) :
    (patch r).status ≠ .running ∧ (patch r).status ≠ .completed := by
  cases action <;>
  · simp only [resolveRunTransition] at e
    split at e
    · cases e
      exact ⟨by simp, by simp⟩
    · cases e

/-- No change lowers the control version. -/
lemma RunChange.monotone (change : RunChange o r r') : r.controlVersion ≤ r'.controlVersion := by
  cases change with
  | kept _ version => exact Nat.le_of_eq version.symm
  | enqueueFailed _ _ _ version => exact Nat.le_of_eq version.symm
  | claimed _ _ version => omega
  | left _ _ version => omega
  | expired _ _ version => omega
  | acted _ _ after =>
    rw [after]
    exact Nat.le_succ _

/-- A change of the status raises the control version, unless the run could not be enqueued. -/
lemma RunChange.rises (change : RunChange o r r') (differs : r'.status ≠ r.status) :
    r.controlVersion < r'.controlVersion ∨
      r'.status = .failed ∧ ∃ version error now, o = .markRunFailed r.id version error now := by
  cases change with
  | kept status _ => exact absurd status differs
  | enqueueFailed marks _ status _ => exact .inr ⟨status, _, _, _, marks⟩
  | claimed _ _ version => exact .inl (by omega)
  | left _ _ version => exact .inl (by omega)
  | expired _ _ version => exact .inl (by omega)
  | acted _ _ after =>
    rw [after]
    exact .inl (Nat.lt_succ_self _)

/-- Nothing changes the status of a completed or cancelled run. -/
lemma RunChange.absorbed (change : RunChange o r r')
    (finished : r.status = .completed ∨ r.status = .cancelled) : r'.status = r.status := by
  cases change with
  | kept status _ => exact status
  | claimed status _ _ => simp [status] at finished
  | left status _ _ => simp [status] at finished
  | expired status _ _ => simp [status] at finished
  | enqueueFailed _ status _ _ => simp [status] at finished
  | acted _ resolved _ =>
    obtain ⟨notCompleted, notCancelled, -⟩ := resolveRunTransition_applies resolved
    exact absurd finished (not_or.mpr ⟨notCompleted, notCancelled⟩)

/-- A failed run stays failed, unless it is retried. -/
lemma RunChange.failed (change : RunChange o r r') (failed : r.status = .failed) :
    r'.status = .failed ∨
      ∃ occurredAt, o = .transitionRun r.id .retry .failed r.controlVersion occurredAt := by
  cases change with
  | kept status _ => exact .inl (status.trans failed)
  | claimed status _ _ => simp [status] at failed
  | left status _ _ => simp [status] at failed
  | expired status _ _ => simp [status] at failed
  | enqueueFailed _ status _ _ => simp [status] at failed
  | @acted action occurredAt _ _ acts resolved _ =>
    obtain ⟨-, -, retry⟩ := resolveRunTransition_applies resolved
    rw [retry failed, failed] at acts
    exact .inr ⟨occurredAt, acts⟩

end Changes

/-- `markRunFailed` turns a run that is PENDING at the version into a failed one, or leaves it
    alone. -/
lemma markRunFailed_row {runId : Uuid} {version : Nat} {error : RunError} {now : Date}
    {env : Environment} {r r' : AgentRun} (row : s.run? id = some r)
    (row' : (perform outputs (.markRunFailed runId version error now) env s).2.run? id = some r') :
    r' = r ∨ runId = id ∧ r.status = .pending ∧ r.controlVersion = version ∧
      r' = { r with status := .failed, completedAt := some now, error := some error } := by
  obtain ⟨_, e⟩ | ⟨u, e, -⟩ :=
    perform_cases outputs (.markRunFailed runId version error now) env s
  · rw [e] at row'
    cases row.symm.trans row'
    exact .inl rfl
  · generalize (perform outputs (.markRunFailed runId version error now) env s).2 = s' at e row'
    cases e
    rw [run?_updateRun ?keeps, row] at row'
    case keeps => exact fun _ e => e
    cases row'
    dsimp only
    split
    · rename_i pending
      obtain ⟨rfl, pending⟩ := pending
      obtain ⟨status, version⟩ := isAt_iff.mp pending
      exact .inr ⟨rfl, status, version, rfl⟩
    · exact .inl rfl

/-- What holds of one call that finds a run as `r` and leaves it as `r'`. -/
structure CallFenced (outputs : AgentOutputs Output) (id : Uuid) (call : Call Output)
    (s : RunStore Output) (r r' : AgentRun) : Prop where
  versionKept : r.controlVersion ≤ r'.controlVersion
  versionRaised :
    (∀ runId version error now, call.operation ≠ .markRunFailed runId version error now) →
    r'.status ≠ r.status → r.controlVersion < r'.controlVersion
  outdated : ∀ status version, call.operation.fence = some (id, status, version) →
    r.status ≠ status ∨ r.controlVersion ≠ version → call.step outputs s = s
  absorbing : r.status = .completed ∨ r.status = .cancelled → r'.status = r.status
  failedLeft : r.status = .failed → r'.status ≠ .failed →
    ∃ occurredAt, call.operation = .transitionRun id .retry .failed r.controlVersion occurredAt
  markedFailed : ∀ runId version error now,
    call.operation = .markRunFailed runId version error now →
    r' = r ∨ runId = id ∧ r.status = .pending ∧ r.controlVersion = version ∧
      r' = { r with status := .failed, completedAt := some now, error := some error }

/-- The step lemma of run fencing. -/
lemma callFenced (outputs : AgentOutputs Output) (call : Call Output) {r : AgentRun} (row : s.run? id = some r) :
    ∃ r', (call.step outputs s).run? id = some r' ∧ CallFenced outputs id call s r r' := by
  obtain ⟨r', row', change, -⟩ := perform_runStep outputs call.operation call.env s id r row
  refine ⟨r', row', ?_⟩
  constructor
  case versionKept => exact change.monotone
  case versionRaised =>
    intro unmarked differs
    obtain raised | ⟨-, _, _, _, marks⟩ := change.rises differs
    · exact raised
    · exact absurd marks (unmarked _ _ _ _)
  case outdated =>
    intro status version fence moved
    apply perform_fenced fence
    rw [owns_run row]
    refine Bool.eq_false_iff.mpr fun current => ?_
    obtain ⟨status, version⟩ := isAt_iff.mp current
    obtain moved | moved := moved
    · exact moved status
    · exact moved version
  case absorbing => exact change.absorbed
  case failedLeft =>
    intro failed leaves
    obtain stays | ⟨occurredAt, retries⟩ := change.failed failed
    · exact absurd stays leaves
    · rw [run?_id row] at retries
      exact ⟨occurredAt, retries⟩
  case markedFailed =>
    intro runId version error now marks
    obtain ⟨operation, env⟩ := call
    cases marks
    exact markRunFailed_row row row'

/-- The control version of a run. -/
def controlVersionOf (id : Uuid) (s : RunStore Output) : Nat :=
  ((s.run? id).map AgentRun.controlVersion).getD 0

/-- Whether a run is RUNNING. -/
def isRunning (id : Uuid) (s : RunStore Output) : Bool :=
  s.owns id fun r => r.status = .running

/-- The control version of a run fences its executions. -/
lemma controlVersion_fences (outputs : AgentOutputs Output) (id : Uuid) :
    Versions.Fences (Call.step outputs) (controlVersionOf id) (isRunning id)
      fun s => ∃ r, s.run? id = some r where
  keeps := by
    intro s call ⟨r, row⟩
    obtain ⟨r', row', -⟩ := callFenced outputs call row
    exact ⟨r', row'⟩
  monotone := by
    intro s call ⟨r, row⟩
    obtain ⟨r', row', fenced⟩ := callFenced outputs call row
    simp only [controlVersionOf, row, row']
    exact fenced.versionKept
  enters := by
    intro s call ⟨r, row⟩ before after
    obtain ⟨r', row', change, -⟩ := perform_runStep outputs call.operation call.env s id r row
    have row'' : (call.step outputs s).run? id = some r' := row'
    simp only [isRunning, owns_run row, owns_run row'', decide_eq_true_eq, decide_eq_false_iff_not]
      at before after
    simp only [controlVersionOf, row, row'']
    obtain raised | ⟨failed, -⟩ := change.rises (by rw [after]; exact Ne.symm before)
    · exact raised
    · rw [after] at failed
      cases failed

section Scenario

/-- The job of the run is delivered twice; then the user pauses and resumes the run, and its second
    job is delivered. -/
def claimedTwice : List (Call Unit) :=
  [⟨.claimRun ⟨1, .start, 0, none, none⟩ 10, {}⟩, ⟨.claimRun ⟨1, .start, 0, none, none⟩ 11, {}⟩,
    ⟨.transitionRun 1 .pause .running 1 12, {}⟩, ⟨.transitionRun 1 .resume .paused 2 13, {}⟩,
    ⟨.claimRun ⟨1, .resume, 3, none, none⟩ 14, {}⟩]

example : Versions.entries (Call.step silentOutputs) (controlVersionOf 1) (isRunning 1) pendingRun
    claimedTwice = [1, 4] := by
  decide

end Scenario

end AtomsPlatform.Run
