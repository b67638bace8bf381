import AtomsPlatform.Run.Files
import AtomsPlatform.Run.Sandbox
import AtomsPlatform.Run.Control

/-!
# Operations on runs

Everything that changes the shared tables of runs, as one type of operations: the worker's
transactions, those of the control API and those of the sweeps. The environment of a call supplies
generated identifiers and what tables outside the model hold, and decides its fate.
-/

namespace AtomsPlatform.Run

/-- The transactions on the shared tables. -/
inductive Operation (Output : Type) where
  -- `PrismaWorkerRepository`
  | claimRun (job : RunJob) (now : Date)
  | prepareTask (input : PrepareTaskInput)
  | skipTask (input : PrepareTaskInput)
  | startTask (runId : Uuid) (expectedControlVersion : Nat) (taskId : Uuid) (now : Date)
  | completeTask (input : CompleteTaskInput Output)
  | failTask (runId : Uuid) (expectedControlVersion : Nat) (taskId : Uuid) (error : RunError)
      (now : Date)
  | applyGeneratedFiles (input : ApplyGeneratedFilesInput)
  | listProjectFiles (projectId : Uuid)
  | createSandboxSession (input : CreateSandboxSessionInput)
  | markSandboxFilesRestored (runId : Uuid) (expectedControlVersion : Nat) (sandboxSessionId : Uuid)
      (now : Date)
  | recordSandboxCommand (input : RecordSandboxCommandInput)
  | recordPreviewReady (input : RecordPreviewReadyInput)
  | requestApproval (runId : Uuid) (expectedControlVersion : Nat) (scope : ApprovalScope)
      (reason : String) (now : Date)
  | completeRun (runId : Uuid) (expectedControlVersion : Nat) (now : Date)
  | failRun (runId : Uuid) (expectedControlVersion : Nat) (error : RunError) (now : Date)
  -- the control API
  | getRun (runId : Uuid)
  | transitionRun (runId : Uuid) (action : RunAction) (expectedStatus : AgentRunStatus)
      (expectedControlVersion : Nat) (occurredAt : Date)
  | markRunFailed (runId : Uuid) (expectedControlVersion : Nat) (error : RunError) (now : Date)
  | putProjectFile (projectId : Uuid) (input : FileContentInput)
  -- the sweeps
  | findPausedRuns (pausedBefore : Date) (limit : Nat)
  | expirePausedRun (runId : Uuid) (controlVersion : Nat) (now : Date)
  | sendReminder (runId : Uuid) (pausedAt : Option Date) (now : Date)
  | purgeRunData (runId : Uuid) (cancelledAt : Option Date) (now : Date)

variable {Output : Type}

/-- What an operation answers when it does not fail. -/
@[reducible]
def Operation.Answer : Operation Output → Type
  | .claimRun .. => RunClaimResult
  | .prepareTask .. | .skipTask .. | .startTask .. => TaskMutationResult Output
  | .completeTask .. => PatchResult (WorkerTaskRecord Output)
  | .failTask .. => Bool
  | .applyGeneratedFiles .. => PatchResult (List String)
  | .listProjectFiles .. => List AgentProjectFile
  | .createSandboxSession .. => Option Uuid
  | .markSandboxFilesRestored .. | .recordSandboxCommand .. | .recordPreviewReady .. => Bool
  | .requestApproval .. | .completeRun .. | .failRun .. => Bool
  | .getRun .. | .transitionRun .. => Option AgentRun
  | .markRunFailed .. => Unit
  | .putProjectFile .. => PutProjectFileResult
  | .findPausedRuns .. => List AgentRun
  | .expirePausedRun .. | .sendReminder .. | .purgeRunData .. => Bool

/-- How a call ends: it takes effect or not, and its caller may see an error although it did. -/
inductive Fate where
  | commits
  | aborts :
    Failure → Fate
  | unacknowledged :
    Failure → Fate
deriving DecidableEq, Repr

/-- What the environment decides about one call. -/
structure Environment where
  fate : Fate := .commits
  /-- An identifier generated for a new row. -/
  id : Uuid := 0
  /-- Whether the user's project or run was found. -/
  found : Bool := true
deriving DecidableEq, Repr

/-- The transaction of an operation. -/
def transact (outputs : AgentOutputs Output) (env : Environment) :
    (o : Operation Output) → Transaction Output o.Answer
  | .claimRun job now => claimRun job now
  | .prepareTask input => prepareTask input env.id
  | .skipTask input => skipTask input env.id
  | .startTask runId version taskId now => startTask runId version taskId now
  | .completeTask input => completeTask outputs input env.id
  | .failTask runId version taskId error now => failTask runId version taskId error now
  | .applyGeneratedFiles input => applyGeneratedFiles input
  | .listProjectFiles projectId => listProjectFiles projectId
  | .createSandboxSession input => createSandboxSession input env.id
  | .markSandboxFilesRestored runId version sessionId now =>
    markSandboxFilesRestored runId version sessionId now
  | .recordSandboxCommand input => recordSandboxCommand input env.id
  | .recordPreviewReady input => recordPreviewReady input
  | .requestApproval runId version scope reason now =>
    requestApproval runId version scope reason now
  | .completeRun runId version now => completeRun runId version now
  | .failRun runId version error now => failRun runId version error now
  | .getRun runId => fun s => .ok (if env.found then s.run? runId else none, s)
  | .transitionRun runId action status version occurredAt =>
    transitionRun runId action status version occurredAt env.found
  | .markRunFailed runId version error now => markRunFailed runId version error now
  | .putProjectFile projectId input => putProjectFile projectId input env.found
  | .findPausedRuns pausedBefore limit => findPausedRuns pausedBefore limit
  | .expirePausedRun runId version now => expirePausedRun runId version now
  | .sendReminder runId pausedAt now => sendReminder runId pausedAt now
  | .purgeRunData runId cancelledAt now => purgeRunData runId cancelledAt now

/-- Performs an operation: the transaction may refuse, and the environment decides its fate. -/
def perform (outputs : AgentOutputs Output) (o : Operation Output) (env : Environment)
    (s : RunStore Output) : Except Failure o.Answer × RunStore Output :=
  match transact outputs env o s, env.fate with
  | .ok (r, s'), .commits => (.ok r, s')
  | .ok (_, s'), .unacknowledged error => (.error error, s')
  | .error error, .commits | .error error, .unacknowledged _ => (.error error, s)
  | _, .aborts error => (.error error, s)

/-- The two ways a call can go: it changes nothing and fails, or the transaction takes effect and the
    caller sees its answer or an error. -/
lemma perform_cases (outputs : AgentOutputs Output) (o : Operation Output) (env : Environment)
    (s : RunStore Output) :
    (∃ error, perform outputs o env s = (.error error, s)) ∨
    ∃ r, transact outputs env o s = .ok (r, (perform outputs o env s).2) ∧
      ((perform outputs o env s).1 = .ok r ∨ ∃ error, (perform outputs o env s).1 = .error error) := by
  simp only [perform]
  split
  · rename_i r s' e fate
    exact .inr ⟨r, e, .inl rfl⟩
  · rename_i r s' error e fate
    exact .inr ⟨r, e, .inr ⟨error, rfl⟩⟩
  · exact .inl ⟨_, rfl⟩
  · exact .inl ⟨_, rfl⟩
  · exact .inl ⟨_, rfl⟩

/-- An answered transaction was committed. -/
lemma perform_answered {outputs : AgentOutputs Output} {o : Operation Output} {env : Environment}
    {tables : RunStore Output} {a : o.Answer}
    (answered : (perform outputs o env tables).1 = .ok a) :
    transact outputs env o tables = .ok (a, (perform outputs o env tables).2) ∧
      env.fate = .commits := by
  generalize e : perform outputs o env tables = result at answered ⊢
  simp only [perform] at e
  split at e
  · rename_i r s' done fate
    subst e
    cases answered
    exact ⟨done, fate⟩
  all_goals
    subst e
    cases answered

/-- One call of a run of the system: an operation and its environment. -/
structure Call (Output : Type) where
  operation : Operation Output
  env : Environment := {}

/-- The tables after one call. -/
def Call.step (outputs : AgentOutputs Output) (s : RunStore Output) (call : Call Output) :
    RunStore Output :=
  (perform outputs call.operation call.env s).2

/-- The tables after a history of calls. -/
def execute (outputs : AgentOutputs Output) (s : RunStore Output) (history : List (Call Output)) :
    RunStore Output :=
  history.foldl (Call.step outputs) s

section Scenario

/-- Outputs that say nothing. -/
def silentOutputs : AgentOutputs Unit where
  parse := fun _ output => some output
  david := fun _ => ⟨false, "", [], "", false, ""⟩
  requiresApproval := fun _ => false
  contentVariants := fun _ => 0

/-- A platform with one run that waits for its job. -/
def pendingRun : RunStore Unit :=
  { runs := [{ id := 1, workspaceId := 1, projectId := 1, prompt := "A landing page" }] }

end Scenario

end AtomsPlatform.Run
