import AtomsPlatform.Preview.Validator
import AtomsPlatform.Release.RunnerRules
import AtomsPlatform.Run.Calls
import AtomsPlatform.Run.Leases
import Mathlib.Data.List.Permutation

/-!
# Executions and their sandboxes

How far an execution has come with a sandbox, as its calls tell: it was given one, has recorded it under
a session, has put the target of its preview, has announced the preview, and has completed the run; or it
is cleaning up. An execution makes the calls on its session in this order, and none after the completion;
when it ends without one, it has asked the store of the previews to forget its target (`program_phases`).
-/

namespace AtomsPlatform.Preview
open Interleaving Mutable Run Release
variable {Output : Type} {schemas : AgentOutputSchemas Output}

section Phases

/-- What an execution holds: the session of a run under which it has recorded its sandbox. -/
structure Holding where
  runId : Uuid
  sessionId : Uuid
  sandboxId : String
deriving DecidableEq, Repr

/-- How far an execution has come with a sandbox. -/
inductive Phase where
  | idle
  | provided (sandboxId : String)
  | recorded (b : Holding)
  | published (b : Holding) (target : PreviewTarget)
  | ready (b : Holding) (target : PreviewTarget) (input : RecordPreviewReadyInput)
  | completed (b : Holding) (target : PreviewTarget) (input : RecordPreviewReadyInput)
  | closing (b : Holding) (deleted : Bool)

namespace Phase

/-- What is held. -/
def holding? : Phase → Option Holding
  | .idle | .provided _ => none
  | .recorded b | .published b _ | .ready b .. | .completed b .. | .closing b _ => some b

/-- A session is held. -/
def Holds (sessionId : Uuid) (x : Phase) : Prop :=
  ∃ b, x.holding? = some b ∧ sessionId = b.sessionId

/-- There is nothing that is or will be published. -/
def Dormant : Phase → Prop
  | .idle | .provided _ | .closing _ true => True
  | _ => False

/-- An execution may end. -/
def Settled : Phase → Prop
  | .completed .. => True
  | x => x.Dormant

/-- The run was not completed. -/
def Open : Phase → Prop
  | .completed .. => False
  | _ => True

/-- A sandbox is recorded. -/
def record (runId sessionId : Uuid) : Phase → Phase
  | .provided sandboxId => .recorded ⟨runId, sessionId, sandboxId⟩
  | x => x

/-- A target is put. -/
def publish (target : PreviewTarget) : Phase → Phase
  | .recorded b => .published b target
  | x => x

/-- A preview is announced. -/
def announce (input : RecordPreviewReadyInput) : Phase → Phase
  | .published b target => .ready b target input
  | x => x

/-- The run is completed. -/
def complete : Phase → Phase
  | .ready b target input => .completed b target input
  | x => x

/-- The cleanup begins, or goes on. -/
def close (deletes : Bool) : Phase → Phase
  | .recorded b | .published b _ | .ready b .. => .closing b deletes
  | .closing b deleted => .closing b (deleted || deletes)
  | x => x

/-- The phase after a call. -/
def note (x : Phase) : Event (ExecutionCall schemas) (fun o => Except Thrown o.Result) → Phase
  | ⟨.provider (.create _), .ok sandbox⟩ => .provided sandbox.id
  | ⟨.worker (.store (.createSandboxSession input)), .ok (some sessionId)⟩ =>
    x.record input.run.id sessionId
  | ⟨.put target, .ok _⟩ => x.publish target
  | ⟨.worker (.store (.recordPreviewReady input)), .ok true⟩ => x.announce input
  | ⟨.worker (.store (.completeRun ..)), .ok true⟩ => x.complete
  | ⟨.delete _, _⟩ => x.close true
  | ⟨.markSandboxFailed .., _⟩ | ⟨.markPreviewStopped .., _⟩ => x.close false
  | _ => x

/-- The calls that an execution makes in a phase. -/
def Allows (x : Phase) : ExecutionCall schemas → Prop
  | .provider (.create _) => x.Dormant
  | .worker (.store (.createSandboxSession input)) => x = .provided input.externalId
  | .worker (.store (.markSandboxFilesRestored _ _ sessionId _)) =>
    ∃ b, x = .recorded b ∧ sessionId = b.sessionId
  | .put target => ∃ b, x = .recorded b ∧ target.sessionId = b.sessionId ∧ target.runId = b.runId
  | .worker (.store (.recordPreviewReady input)) =>
    ∃ b target, x = .published b target ∧ input.run.id = b.runId ∧ input.sandboxSessionId = b.sessionId
  | .worker (.store (.completeRun runId ..)) =>
    ∃ b target input, x = .ready b target input ∧ runId = b.runId
  | .delete sessionId | .markSandboxFailed sessionId .. | .markPreviewStopped sessionId _ =>
    x.Open ∧ x.Holds sessionId
  | _ => x.Open

variable {x : Phase}

lemma open_of_dormant (dormant : x.Dormant) : x.Open := by
  cases x with
  | completed => cases dormant
  | _ => trivial

lemma settled_of_dormant (dormant : x.Dormant) : x.Settled := by
  cases x with
  | completed => trivial
  | _ => exact dormant

/-- A deletion leaves nothing that is published. -/
lemma dormant_close (unfinished : x.Open) : (x.close true).Dormant := by
  cases x with
  | completed => cases unfinished
  | closing b deleted =>
    cases deleted with
    | false => trivial
    | true => trivial
  | _ => trivial

lemma Dormant.close {deletes : Bool} (dormant : x.Dormant) : (x.close deletes).Dormant := by
  cases x with
  | idle | provided => trivial
  | closing b deleted =>
    cases deleted with
    | false => cases dormant
    | true => trivial
  | _ => cases dormant

lemma open_close {deletes : Bool} (unfinished : x.Open) : (x.close deletes).Open := by
  cases x with
  | completed => cases unfinished
  | _ => trivial

lemma holding_close {deletes : Bool} : (x.close deletes).holding? = x.holding? := by
  cases x <;> rfl

lemma Holds.close {sessionId : Uuid} {deletes : Bool} (held : x.Holds sessionId) :
    (x.close deletes).Holds sessionId := by
  unfold Holds
  rw [holding_close]
  exact held

end Phase

/-- The answers that are possible: promises are always scheduled. -/
def Possible : (o : ExecutionCall schemas) → Except Thrown o.Result → Prop
  | .schedule, .error _ => False
  | _, _ => True

/-- The judgement by the phase. -/
abbrev phases (schemas : AgentOutputSchemas Output) :
    Judgement (ExecutionCall schemas) (fun o => Except Thrown o.Result) Phase :=
  answering Possible Phase.note Phase.Allows

/-- The calls of a worker that leave the phase alone and are made in every phase before the completion. -/
def quiet : WorkerCall schemas → Bool
  | .store (.createSandboxSession _) | .store (.markSandboxFilesRestored ..) => false
  | .store (.recordPreviewReady _) | .store (.completeRun ..) => false
  | _ => true

lemma note_quiet {c : WorkerCall schemas} (is : quiet c = true) (x : Phase)
    (r : Except Thrown c.Answer) : x.note ⟨.worker c, r⟩ = x := by
  cases c with
  | store o =>
    cases o with
    | createSandboxSession | recordPreviewReady | completeRun => cases is
    | _ => rfl
  | _ => rfl

lemma allows_quiet {c : WorkerCall schemas} (is : quiet c = true) {x : Phase} (unfinished : x.Open) :
    x.Allows (.worker c) := by
  cases c with
  | store o =>
    cases o with
    | createSandboxSession | markSandboxFilesRestored | recordPreviewReady | completeRun => cases is
    | _ => exact unfinished
  | _ => exact unfinished

end Phases

section Graph

/-- The contract of the quiet calls. -/
def quietCalls (schemas : AgentOutputSchemas Output) :
    Contract (WorkerCall schemas) fun c => Except Thrown c.Answer where
  requires c := quiet c = true
  ensures _ _ := True

variable {processor : RunProcessorOptions} {state : RunState schemas}

lemma quiet_auxiliary {α : Type} {p : WorkerProgram schemas α} (runId : Uuid)
    (outputs : RunOutputs schemas) (yields : Yields (auxiliary runId outputs) p fun _ => True) :
    Yields (quietCalls schemas) p fun _ => True := by
  refine Yields.of_auxiliary yields fun c allowed => ?_
  cases c with
  | store o => cases o <;> first | rfl | cases allowed
  | _ => rfl

lemma compute_quiet {α : Type} {result : Except Thrown α} :
    Yields (quietCalls schemas) (compute result) fun _ => True := by
  cases result with
  | error error => exact .throw
  | ok a => exact .pure trivial

lemma restoreOutput_quiet {agentName : AgentName} {task : WorkerTaskRecord Output} :
    Yields (quietCalls schemas) (restoreOutput agentName task) fun _ => True := by
  unfold restoreOutput
  split
  · exact .throw
  · exact .pure trivial

lemma executeTask_quiet {agentName : AgentName} {upstreamOutputs : RunOutputs schemas}
    {projectType : ProjectType} {taskId : Uuid} :
    Yields (quietCalls schemas)
      (executeTask processor agentName state upstreamOutputs projectType taskId) fun _ => True := by
  refine .bind (quiet_auxiliary state.runId upstreamOutputs listCurrentFiles_auxiliary) fun currentFiles _ => ?_
  refine .bind (quiet_auxiliary state.runId upstreamOutputs loadReferences_auxiliary) fun references _ => ?_
  refine .step rfl fun output _ => .bind compute_quiet fun _ _ => ?_
  refine .step rfl fun now _ => .step rfl fun completed _ => ?_
  cases completed with
  | stopped => exact .throw
  | fileConflict conflict => exact .throw
  | ok record => exact .pure trivial

lemma runAgent_quiet {agentName : AgentName} :
    Yields (quietCalls schemas) (runAgent processor agentName state) fun _ => True := by
  refine .bind compute_quiet fun upstreamOutputs _ => ?_
  refine .step rfl fun projectType _ => ?_
  refine .bind (quiet_auxiliary state.runId upstreamOutputs findSkipReason_auxiliary) fun skipReason _ => ?_
  refine .step rfl fun now _ => ?_
  split
  · refine .step rfl fun skipped _ => ?_
    cases skipped with
    | stopped => exact .throw
    | ok record => exact .pure trivial
  refine .step rfl fun prepared _ => ?_
  cases prepared with
  | stopped => exact .throw
  | ok prepared =>
    dsimp only
    split
    · exact restoreOutput_quiet
    refine .step rfl fun now' _ => .step rfl fun started _ => ?_
    cases started with
    | stopped => exact .throw
    | ok started =>
      dsimp only
      split
      · exact restoreOutput_quiet
      refine .tryCatch executeTask_quiet fun error => ?_
      unfold failStartedTask
      split
      · exact .throw
      · refine .step rfl fun now _ => .step rfl fun failed _ => ?_
        split
        · exact .throw
        · exact .throw

lemma awaitApproval_quiet {scope : ApprovalScope} {reason waiting stopped : String} :
    Yields (quietCalls schemas) (awaitApproval scope reason waiting stopped state) fun _ => True := by
  unfold awaitApproval
  split
  · exact .pure trivial
  · exact .step rfl fun now _ => .step rfl fun paused _ => .throw

lemma runNode_quiet {node : RunNode} :
    Yields (quietCalls schemas) (runNode processor node state) fun _ => True := by
  cases node with
  | agent agentName => exact runAgent_quiet
  | approval =>
    show Yields _ (approvalGate processor state) _
    unfold approvalGate
    split
    · exact .throw
    split
    · exact .pure trivial
    refine .bind (quiet_auxiliary state.runId state.outputs planNeedsApproval_auxiliary) fun needed _ => ?_
    split
    · exact awaitApproval_quiet
    · exact .pure trivial
  | contentApproval =>
    show Yields _ (contentApprovalGate state) _
    unfold contentApprovalGate
    split
    · exact .pure trivial
    split
    · exact .pure trivial
    · exact awaitApproval_quiet

/-- The graph, from any node on; the induction is on the nodes that are left. -/
lemma runNodes_quiet (nodes : List RunNode) (state : RunState schemas) :
    Yields (quietCalls schemas) (runNodes processor nodes state) fun _ => True := by
  induction nodes generalizing state with
  | nil => exact .pure trivial
  | cons node nodes ih => exact .bind runNode_quiet fun update _ => .step rfl fun _ _ => ih _

lemma invokeGraph_quiet {input : RunState schemas} :
    Yields (quietCalls schemas) (Run.invokeGraph processor input) fun _ => True := by
  refine .bind (P := fun _ => True) ?_ fun saved _ => runNodes_quiet runGraph _
  unfold loadSaved
  split
  · exact .call rfl fun _ _ => trivial
  · exact .pure trivial

end Graph

section Parts

/-- Assertions that the quiet calls keep. -/
def Steady (P : Variables → Phase → Prop) : Prop :=
  ∀ v x, P v x → x.Open

variable {P : Variables → Phase → Prop}

lemma keeps_worker {c : WorkerCall schemas} (is : quiet c = true) (steady : Steady P) :
    Keeps (phases schemas) P (worker c) := by
  refine Keeps.invoke (fun v x holds => allows_quiet is (steady v x holds)) ?_
  exact fun v x r _ => note_quiet is x r

/-- A program of quiet calls. -/
lemma keeps_lift {α : Type} {p : WorkerProgram schemas α} (steady : Steady P)
    (yields : Yields (quietCalls schemas) p fun _ => True) :
    Keeps (phases schemas) P (lift p) := by
  have main (v : Variables) (x : Phase) (holds : P v x) :
      ∀ q : Prog (WorkerCall schemas) (fun c => Except Thrown c.Answer) (Except Thrown α),
        q.Meets (quietCalls schemas) (Outcome (fun _ => True) fun _ => True) →
        (Prog.embed ExecutionCall.worker q).Satisfies (phases schemas) (fun _ x' => x' = x) x := by
    intro q
    induction q with
    | ret r => exact fun _ => rfl
    | call c k ih =>
      intro meets
      refine ⟨allows_quiet meets.1 (steady v x holds), fun r _ => ?_⟩
      rw [note_quiet meets.1]
      exact ih r (meets.2 r trivial)
  intro v x holds
  refine Prog.Satisfies.bind ((main v x holds p.run yields).mono ?_)
  rintro r _ rfl
  cases r with
  | ok a => exact holds
  | error e => exact holds

lemma keeps_computed {α : Type} {r : Except Thrown α} :
    Keeps (phases schemas) P (computed r) := by
  cases r with
  | ok a => exact .pure
  | error e => exact .throw

lemma keeps_provider {o : ProviderCall} (kept : ∀ spec, o ≠ .create spec) (steady : Steady P) :
    Keeps (phases schemas) P (request (.provider o)) := by
  have silent (x : Phase) (r : Except Thrown o.Result) :
      x.note (⟨.provider o, r⟩ : Event (ExecutionCall schemas) _) = x := by
    cases o with
    | create spec => exact absurd rfl (kept spec)
    | _ => rfl
  refine Keeps.invoke (fun v x holds => ?_) fun v x r _ => silent x r
  cases o with
  | create spec => exact absurd rfl (kept spec)
  | _ => exact steady v x holds

lemma keeps_requireSessionId : Keeps (phases schemas) P requireSessionId := by
  refine .bind .get fun v => ?_
  split
  · exact .pure
  · exact .throw

variable {options : Phase2RunValidatorOptions} {run : RunExecutionRecord} {attempt : Nat}

lemma keeps_issue {sessionId : Uuid} {expiresAt : Date} (steady : Steady P) :
    Keeps (phases schemas) P (issue options sessionId expiresAt) :=
  .bind (keeps_worker rfl steady) fun _ => keeps_computed

/-- The calls on a sandbox leave the phase alone. -/
lemma executes (steady : Steady P) : Executes (phases schemas) P provider where
  now := keeps_worker rfl steady
  writeFiles _ _ := keeps_provider (fun _ => nofun) steady
  exec _ _ := keeps_provider (fun _ => nofun) steady
  startProcess _ _ := keeps_provider (fun _ => nofun) steady
  exposePort _ _ := keeps_provider (fun _ => nofun) steady

/-- The hooks during the steps leave the phase alone. -/
lemma reports (steady : Steady P) : Reports (phases schemas) P (hooks options run attempt) where
  onStep _ _ := by
    refine .bind keeps_requireSessionId fun sessionId => ?_
    refine .bind (keeps_worker rfl steady) fun now => ?_
    refine .bind (keeps_worker rfl steady) fun active => ?_
    split
    · exact .pure
    · exact .throw
  previewEnvironment _ _ := by
    refine .bind keeps_requireSessionId fun sessionId => ?_
    refine .bind (keeps_issue steady) fun address => ?_
    refine .bind (Keeps.invoke steady fun _ _ _ _ => rfl) fun secret => ?_
    exact .pure

end Parts

section Validator

/-- No session is recorded, and nothing is to be published. -/
def Unrecorded (v : Variables) (x : Phase) : Prop :=
  v.sandboxSessionId = none ∧ x.Dormant

/-- A sandbox was given that is not recorded. -/
def Provided (sandbox : SandboxHandle) (v : Variables) (x : Phase) : Prop :=
  v.sandboxSessionId = none ∧ x = .provided sandbox.id

/-- A session is recorded of the run. -/
def Recorded (run : RunExecutionRecord) (v : Variables) (x : Phase) : Prop :=
  ∃ b, x = .recorded b ∧ b.runId = run.id ∧ v.sandboxSessionId = some b.sessionId

/-- A session is recorded of the run, and has been read. -/
def RecordedAs (run : RunExecutionRecord) (sessionId : Uuid) (v : Variables) (x : Phase) : Prop :=
  ∃ b, x = .recorded b ∧ b.runId = run.id ∧ sessionId = b.sessionId ∧ v.sandboxSessionId = some sessionId

/-- What a `catch` finds: a session that is recorded is in the variable. -/
def Unsettled (v : Variables) (x : Phase) : Prop :=
  Unrecorded v x ∨ x.Open ∧ ∃ sessionId, x.Holds sessionId ∧ v.sandboxSessionId = some sessionId

/-- Nothing is to be published. -/
def Asleep (_ : Variables) (x : Phase) : Prop :=
  x.Dormant

/-- Nothing is to be published of a session. -/
def Closed (sessionId : Uuid) (_ : Variables) (x : Phase) : Prop :=
  x.Dormant ∧ x.Holds sessionId

/-- A preview is announced of the run, and its lease is at a place. -/
def Leased (run : RunExecutionRecord) (place : Uuid) (v : Variables) (x : Phase) : Prop :=
  ∃ b target input sandboxId, x = .ready b target input ∧ b.runId = run.id ∧
    v.leases[place]? = some ⟨b.sessionId, sandboxId, false⟩

/-- The lease at a place is revoked, and nothing is published. -/
def Spent (place : Uuid) (v : Variables) (x : Phase) : Prop :=
  x.Dormant ∧ ∃ lease, v.leases[place]? = some lease ∧ lease.revoked = true

/-- The lease at a place, of a session, is being revoked. -/
def Revoking (A : Phase → Prop) (sessionId place : Uuid) (v : Variables) (x : Phase) : Prop :=
  A x ∧ x.Holds sessionId ∧ ∃ lease, v.leases[place]? = some lease ∧ lease.revoked = true

/-- An execution may end. -/
def Finished (_ : Variables) (x : Phase) : Prop :=
  x.Settled

variable {options : Phase2RunValidatorOptions} {run : RunExecutionRecord} {attempt place : Nat}
  {sandbox : SandboxHandle} {v : Variables} {x : Phase}

lemma Recorded.unsettled (recorded : Recorded run v x) : Unsettled v x := by
  obtain ⟨b, rfl, -, named⟩ := recorded
  exact .inr ⟨trivial, _, ⟨b, rfl, rfl⟩, named⟩

lemma RecordedAs.recorded {sessionId : Uuid} (recorded : RecordedAs run sessionId v x) : Recorded run v x := by
  obtain ⟨b, is, own, rfl, named⟩ := recorded
  exact ⟨b, is, own, named⟩

lemma Provided.unrecorded (provided : Provided sandbox v x) : Unrecorded v x := by
  obtain ⟨none, rfl⟩ := provided
  exact ⟨none, trivial⟩

lemma steady_unsettled : Steady Unsettled := by
  intro v x unsettled
  rcases unsettled with ⟨-, dormant⟩ | ⟨unfinished, -⟩
  · exact Phase.open_of_dormant dormant
  · exact unfinished

lemma steady_recorded : Steady (Recorded run) := by
  intro v x recorded
  exact steady_unsettled v x recorded.unsettled

lemma steady_recordedAs {sessionId : Uuid} : Steady (RecordedAs run sessionId) :=
  fun v x recorded => steady_recorded v x recorded.recorded

lemma steady_provided : Steady (Provided sandbox) := by
  intro v x provided
  exact Phase.open_of_dormant provided.unrecorded.2

lemma steady_unrecorded : Steady Unrecorded :=
  fun _ _ unrecorded => Phase.open_of_dormant unrecorded.2

lemma steady_asleep : Steady Asleep :=
  fun _ _ dormant => Phase.open_of_dormant dormant

lemma steady_leased : Steady (Leased run place) := by
  intro v x leased
  obtain ⟨b, target, input, sandboxId, rfl, -⟩ := leased
  trivial

/-- A session that is recorded is in the variable. -/
lemma triple_requireSessionId :
    Triple (phases schemas) (Recorded run) requireSessionId (RecordedAs run) fun _ => Unsettled := by
  refine .bind (R := fun v' v x => v' = v ∧ Recorded run v x) ?_ fun v' => ?_
  · exact .get fun v x recorded => ⟨rfl, recorded⟩
  split
  · rename_i sessionId named
    refine .pure ?_
    rintro v x ⟨rfl, b, is, own, named'⟩
    cases named'.symm.trans named
    exact ⟨b, is, own, rfl, named⟩
  · exact .throw fun v x ⟨_, recorded⟩ => recorded.unsettled

lemma triple_onSandboxCreated {expiresAt : Date} :
    Triple (phases schemas) (Provided sandbox) ((hooks options run attempt).onSandboxCreated sandbox expiresAt)
      (fun _ => Recorded run) fun _ => Unsettled := by
  refine .bind (R := fun _ => Provided sandbox) ?_ fun _ => ?_
  · exact .modify fun v x provided => provided
  refine .bind (R := fun _ => Provided sandbox) ?_ fun now => ?_
  · exact (keeps_worker rfl steady_provided).onError fun _ _ _ provided => .inl provided.unrecorded
  refine .bind (R := fun mutation v x => (mutation = none → Unrecorded v x) ∧
    ∀ sessionId, mutation = some sessionId → x = .recorded ⟨run.id, sessionId, sandbox.id⟩) ?_
    fun mutation => ?_
  · refine .invoke fun v x provided => ⟨provided.2, fun r _ => ?_⟩
    have unrecorded := provided.unrecorded
    obtain ⟨-, rfl⟩ := provided
    rcases r with error | _ | sessionId
    · exact .inl unrecorded
    · refine ⟨fun _ => unrecorded, fun _ same => ?_⟩
      cases same
    · refine ⟨fun same => ?_, fun _ same => ?_⟩
      · cases same
      · cases same
        rfl
  · cases mutation with
    | none => exact .throw fun v x holds => .inl (holds.1 rfl)
    | some sessionId => exact .modify fun v x holds => ⟨_, holds.2 sessionId rfl, rfl, rfl⟩

lemma triple_onFilesRestored :
    Triple (phases schemas) (Recorded run) ((hooks options run attempt).onFilesRestored sandbox)
      (fun _ => Recorded run) fun _ => Unsettled := by
  refine .bind triple_requireSessionId fun sessionId => ?_
  refine .bind (R := fun _ => RecordedAs run sessionId) ?_ fun now => ?_
  · exact (keeps_worker rfl steady_recordedAs).onError fun _ _ _ recorded => recorded.recorded.unsettled
  refine .bind (R := fun _ => Recorded run) ?_ fun active => ?_
  · refine .invoke ?_
    rintro v x ⟨b, rfl, own, rfl, named⟩
    refine ⟨⟨b, rfl, rfl⟩, fun r _ => ?_⟩
    have recorded : Recorded run v (.recorded b) := ⟨b, rfl, own, named⟩
    cases r with
    | ok active => exact recorded
    | error error => exact recorded.unsettled
  split
  · exact .pure fun v x recorded => recorded
  · exact .throw fun v x recorded => recorded.unsettled

lemma triple_runner {input : ProjectValidationInput} :
    Triple (phases schemas) Unrecorded
      (ProjectValidationRunner.validate options.runner provider (hooks options run attempt) input)
      (fun _ => Recorded run) fun _ => Unsettled := by
  refine triple_validation (B := Provided) (C := fun _ => Recorded run) (D := fun _ => Recorded run)
    (F := Unsettled) ?_ (fun _ _ unrecorded => .inl unrecorded) ?_
    (fun sandbox expiresAt => triple_onSandboxCreated) ?_ (fun sandbox => triple_onFilesRestored)
    (fun sandbox => executes steady_recorded) (fun sandbox => reports steady_recorded)
    (fun _ _ _ recorded => recorded.unsettled) fun sandbox => ?_
  · exact (keeps_worker rfl steady_unrecorded).onError fun _ _ _ unrecorded => .inl unrecorded
  · refine fun spec => .invoke fun v x unrecorded => ⟨unrecorded.2, fun r _ => ?_⟩
    cases r with
    | ok sandbox => exact ⟨unrecorded.1, rfl⟩
    | error error => exact .inl unrecorded
  · intro sandbox files
    exact ((executes steady_recorded).writeFiles _ _).onError fun _ _ _ recorded => recorded.unsettled
  · exact keeps_provider (fun _ => nofun) steady_unsettled

lemma triple_publish {result : ProjectValidationResult} :
    Triple (phases schemas) (Recorded run) (publish options run result)
      (fun lease v x => ∃ place, lease = some place ∧ Leased run place v x) fun _ => Unsettled := by
  refine .bind (R := fun _ => Recorded run) (.modify fun v x recorded => recorded) fun _ => ?_
  refine .bind triple_requireSessionId fun sessionId => ?_
  refine .bind (R := fun _ => RecordedAs run sessionId) ?_ fun gatewayUrl => ?_
  · exact (keeps_issue steady_recordedAs).onError fun _ _ _ recorded => recorded.recorded.unsettled
  let published (v : Variables) (x : Phase) : Prop :=
    ∃ b, x = .published b (previewTarget run sessionId result) ∧ b.runId = run.id ∧
      sessionId = b.sessionId ∧ v.sandboxSessionId = some sessionId
  refine .bind (R := fun _ => published) ?_ fun _ => ?_
  · refine .invoke ?_
    rintro v x ⟨b, rfl, own, rfl, named⟩
    refine ⟨⟨b, rfl, rfl, own.symm⟩, fun r _ => ?_⟩
    cases r with
    | ok => exact ⟨b, rfl, own, rfl, named⟩
    | error error => exact .inr ⟨trivial, _, ⟨b, rfl, rfl⟩, named⟩
  refine .bind (R := fun _ => published) ?_ fun now => ?_
  · refine (keeps_worker rfl ?_).onError ?_
    · rintro v x ⟨b, rfl, -⟩
      trivial
    · rintro _ v x ⟨b, rfl, -, rfl, named⟩
      exact .inr ⟨trivial, _, ⟨b, rfl, rfl⟩, named⟩
  refine .bind (R := fun active v x => ∃ b, x.holding? = some b ∧ v.sandboxSessionId = some b.sessionId ∧
    x.Open ∧ (active = true → b.runId = run.id ∧ sessionId = b.sessionId ∧
      ∃ target input, x = .ready b target input)) ?_ fun active => ?_
  · refine .invoke ?_
    rintro v x ⟨b, rfl, own, rfl, named⟩
    refine ⟨⟨b, _, rfl, own.symm, rfl⟩, fun r _ => ?_⟩
    rcases r with error | _ | _
    · exact .inr ⟨trivial, _, ⟨b, rfl, rfl⟩, named⟩
    · exact ⟨b, rfl, named, trivial, nofun⟩
    · exact ⟨b, rfl, named, trivial, fun _ => ⟨own, rfl, _, _, rfl⟩⟩
  cases active with
  | true =>
    refine .bind (R := fun place => Leased run place) ?_ fun place => .pure fun _ _ leased =>
      ⟨place, rfl, leased⟩
    refine .bind (R := fun v' v x => v' = v ∧ ∃ b, b.runId = run.id ∧ sessionId = b.sessionId ∧
      ∃ target input, x = .ready b target input) (.get ?_) fun v' => ?_
    · rintro v x ⟨b, -, -, -, announced⟩
      exact ⟨rfl, b, announced rfl⟩
    refine .bind (R := fun _ => Leased run v'.leases.length) (.modify ?_) fun _ => .pure fun _ _ l => l
    rintro v x ⟨rfl, b, own, rfl, target, input, rfl⟩
    exact ⟨b, target, input, _, rfl, own, List.getElem?_concat_length⟩
  | false =>
    refine .throw ?_
    rintro v x ⟨b, held, named, unfinished, -⟩
    exact .inr ⟨unfinished, _, ⟨b, held, rfl⟩, named⟩

/-- A call of a cleanup, or of a revocation. -/
lemma triple_closing {o : ExecutionCall schemas} {deletes : Bool} {P Q : Variables → Phase → Prop}
    (closes : ∀ (x : Phase) (r : Except Thrown o.Result), x.note ⟨o, r⟩ = x.close deletes)
    (allowed : ∀ v x, P v x → x.Allows o) (imp : ∀ v x, P v x → Q v (x.close deletes)) :
    Triple (phases schemas) P (request o) (fun _ => Q) fun _ => Q := by
  refine .invoke fun v x holds => ⟨allowed v x holds, fun r _ => ?_⟩
  rw [closes]
  cases r with
  | ok a => exact imp v x holds
  | error e => exact imp v x holds

lemma triple_ignoring {P Q : Variables → Phase → Prop} {p : ExecutionProgram schemas Unit}
    {E : Thrown → Variables → Phase → Prop}
    (triple : Triple (phases schemas) P p (fun _ => Q) fun _ => Q) :
    Triple (phases schemas) P (ignoring p) (fun _ => Q) E :=
  .tryCatch triple fun _ => .pure fun _ _ holds => holds

/-- The end of the cleanup. -/
lemma triple_terminateSandbox :
    Triple (phases schemas) Asleep (terminateSandbox v) (fun _ => Asleep) fun _ => Asleep := by
  unfold terminateSandbox
  split
  · exact triple_ignoring (keeps_provider (fun _ => nofun) steady_asleep)
  · exact triple_ignoring (keeps_provider (fun _ => nofun) steady_asleep)
  · exact .pure fun _ _ dormant => dormant

/-- After the cleanup nothing is to be published. -/
lemma triple_cleanUp {error : Thrown} :
    Triple (phases schemas) Unsettled (cleanUp error) (fun _ => Asleep) fun _ => Asleep := by
  refine .bind (R := fun v' v x => v' = v ∧ Unsettled v x) (.get fun v x holds => ⟨rfl, holds⟩)
    fun v' => ?_
  split
  · rename_i unnamed
    refine triple_terminateSandbox.mono ?_ (fun _ _ _ dormant => dormant) fun _ _ _ dormant => dormant
    rintro v x ⟨rfl, ⟨-, dormant⟩ | ⟨-, sessionId, -, named⟩⟩
    · exact dormant
    · cases unnamed.symm.trans named
  · rename_i sessionId named
    refine .bind (R := fun _ => Closed sessionId) ?_ fun _ => ?_
    · have known (v : Variables) (x : Phase) (holds : v' = v ∧ Unsettled v x) : x.Open ∧ x.Holds sessionId := by
        obtain ⟨rfl, ⟨unnamed, -⟩ | ⟨unfinished, sessionId', held, named'⟩⟩ := holds
        · cases unnamed.symm.trans named
        · cases named'.symm.trans named
          exact ⟨unfinished, held⟩
      apply triple_ignoring
      refine triple_closing (o := .delete sessionId) (fun _ _ => rfl) known fun v x holds => ?_
      exact ⟨Phase.dormant_close (known v x holds).1, (known v x holds).2.close⟩
    refine .bind (R := fun _ => Closed sessionId) ?_ fun now => ?_
    · exact (keeps_worker rfl fun _ _ closed => Phase.open_of_dormant closed.1).onError fun _ _ _ closed => closed.1
    refine .bind (R := fun _ => Asleep) ?_ fun _ => triple_terminateSandbox
    apply triple_ignoring
    exact triple_closing (o := .markSandboxFailed sessionId (toWorkerError error) now) (fun _ _ => rfl)
      (fun _ _ closed => ⟨Phase.open_of_dormant closed.1, closed.2⟩) fun _ _ closed => closed.1.close

/-- A validation ends with a lease, or with nothing that is to be published. -/
lemma triple_validate :
    Triple (phases schemas) Asleep (Phase2RunValidator.validate options run attempt)
      (fun lease v x => ∃ place, lease = some place ∧ Leased run place v x) fun _ => Asleep := by
  refine .bind (keeps_worker rfl steady_asleep) fun files => ?_
  refine .bind (R := fun _ => Asleep) ?_ fun acceptanceManifest => ?_
  · unfold chooseManifest
    split
    · exact .pure fun _ _ dormant => dormant
    · exact .bind (keeps_worker rfl steady_asleep) fun _ => .pure fun _ _ dormant => dormant
  refine .bind (R := fun _ => Unrecorded) (.modify fun v x dormant => ⟨rfl, dormant⟩) fun _ => ?_
  refine .tryCatch (R := fun _ => Unsettled) (.bind triple_runner fun result => triple_publish)
    fun error => ?_
  exact .bind triple_cleanUp fun _ => .throw fun _ _ dormant => dormant

/-- A task of a revocation, whose rejection is caught. -/
lemma triple_caught {P Q : Variables → Phase → Prop} {E : Thrown → Variables → Phase → Prop}
    {task : ExecutionProgram schemas Unit}
    (leads : Triple (phases schemas) P task (fun _ => Q) fun _ => Q) :
    Triple (phases schemas) P
      (tryCatch
        (do
          task
          pure [])
        fun error => pure [error])
      (fun _ => Q) E :=
  .tryCatch (R := fun _ => Q) (.bind leads fun _ => .pure fun _ _ holds => holds)
    fun _ => .pure fun _ _ holds => holds

/-- The tasks of a revocation. -/
lemma keeps_rejections {P : Variables → Phase → Prop} {tasks : List (ExecutionProgram schemas Unit)}
    (kept : ∀ task ∈ tasks, Keeps (phases schemas) P task) :
    Keeps (phases schemas) P (rejections tasks) := by
  induction tasks with
  | nil => exact .pure
  | cons task tasks ih =>
    refine .bind (triple_caught (kept task List.mem_cons_self)) fun rejected => ?_
    exact .bind (ih fun task mem => kept task (List.mem_cons_of_mem _ mem)) fun later => .pure

/-- One of the tasks leads to what all of them keep. -/
lemma triple_rejections {P Q : Variables → Phase → Prop} {tasks : List (ExecutionProgram schemas Unit)}
    {task : ExecutionProgram schemas Unit} (mem : task ∈ tasks)
    (before : ∀ task ∈ tasks, Keeps (phases schemas) P task)
    (after : ∀ task ∈ tasks, Keeps (phases schemas) Q task)
    (leads : Triple (phases schemas) P task (fun _ => Q) fun _ => Q) :
    Triple (phases schemas) P (rejections tasks) (fun _ => Q) fun _ => Q := by
  induction tasks with
  | nil => cases mem
  | cons first tasks ih =>
    have rest := fun task mem => after task (List.mem_cons_of_mem first mem)
    rcases List.mem_cons.mp mem with rfl | mem
    · refine .bind (triple_caught leads) fun rejected => ?_
      exact .bind (keeps_rejections rest) fun later => .pure fun _ _ holds => holds
    · have earlier := ih mem (fun task mem => before task (List.mem_cons_of_mem first mem)) rest
      refine .bind (triple_caught (before first List.mem_cons_self)) fun rejected => ?_
      exact .bind earlier fun later => .pure fun _ _ holds => holds

/-- They may take effect in any order. -/
lemma triple_allSettled {P Q : Variables → Phase → Prop} {tasks : List (ExecutionProgram schemas Unit)}
    {task : ExecutionProgram schemas Unit} (steady : Steady P) (mem : task ∈ tasks)
    (before : ∀ task ∈ tasks, Keeps (phases schemas) P task)
    (after : ∀ task ∈ tasks, Keeps (phases schemas) Q task)
    (leads : Triple (phases schemas) P task (fun _ => Q) fun _ => Q) :
    Triple (phases schemas) P (allSettled tasks) (fun _ => Q) fun _ => Q := by
  refine .bind (R := fun _ => P) (.invoke fun v x holds => ⟨steady v x holds, fun r may => ?_⟩) fun order => ?_
  · cases r with
    | ok order => exact holds
    | error error => exact may.elim
  · have perm : (tasks.permutations.getD order tasks).Perm tasks := by
      rw [List.getD_eq_getElem?_getD]
      cases found : tasks.permutations[order]? with
      | none => exact List.Perm.refl _
      | some inOrder => exact List.mem_permutations.mp (List.mem_of_getElem? found)
    exact triple_rejections (perm.mem_iff.mpr mem) (fun task mem => before task (perm.mem_iff.mp mem))
      (fun task mem => after task (perm.mem_iff.mp mem)) leads

/-- A call of a revocation. -/
lemma triple_revoking {o : ExecutionCall schemas} {sessionId : Uuid} {deletes : Bool} {A B : Phase → Prop}
    (closes : ∀ (x : Phase) (r : Except Thrown o.Result), x.note ⟨o, r⟩ = x.close deletes)
    (allowed : ∀ x, A x → x.Holds sessionId → x.Allows o) (imp : ∀ x, A x → B (x.close deletes)) :
    Triple (phases schemas) (Revoking A sessionId place) (request o) (fun _ => Revoking B sessionId place)
      fun _ => Revoking B sessionId place :=
  triple_closing closes (fun _ x revoking => allowed x revoking.1 revoking.2.1)
    fun _ x revoking => ⟨imp x revoking.1, revoking.2.1.close, revoking.2.2⟩

/-- The tasks of a revocation keep it going. -/
lemma keeps_revoking {sessionId : Uuid} {sandboxId : String} {A : Phase → Prop}
    (unfinished : ∀ x, A x → x.Open) (kept : ∀ x deletes, A x → A (x.close deletes)) :
    ∀ task ∈ [request (.delete sessionId), request (.provider (.terminate sandboxId)), do
      let now ← worker .now
      request (.markPreviewStopped sessionId now)],
      Keeps (phases schemas) (Revoking A sessionId place) task := by
  have steady : Steady (Revoking A sessionId place) := fun _ x revoking => unfinished x revoking.1
  intro task mem
  rcases List.mem_cons.mp mem with rfl | mem
  · exact triple_revoking (fun _ _ => rfl) (fun x holds held => ⟨unfinished x holds, held⟩) fun x => kept x true
  rcases List.mem_pair.mp mem with rfl | rfl
  · exact keeps_provider (fun _ => nofun) steady
  · refine .bind (keeps_worker rfl steady) fun now => ?_
    exact triple_revoking (fun _ _ => rfl) (fun x holds held => ⟨unfinished x holds, held⟩)
      fun x => kept x false

/-- A revocation spends the lease. -/
lemma triple_revoke :
    Triple (phases schemas) (fun v x => Leased run place v x ∨ Spent place v x)
      (Phase2RunValidator.revoke place) (fun _ => Spent place) fun _ => Spent place := by
  refine .bind (R := fun v' v x => v' = v ∧ (Leased run place v x ∨ Spent place v x))
    (.get fun v x holds => ⟨rfl, holds⟩) fun v' => ?_
  split
  · rename_i none
    refine .pure ?_
    rintro v x ⟨rfl, ⟨b, target, input, sandboxId, -, -, there⟩ | ⟨-, lease, there, -⟩⟩
    · cases none.symm.trans there
    · cases none.symm.trans there
  rename_i lease there
  split
  · rename_i revoked
    refine .pure ?_
    rintro v x ⟨rfl, ⟨b, target, input, sandboxId, -, -, there'⟩ | spent⟩
    · cases there'.symm.trans there
      cases revoked
    · exact spent
  · rename_i held
    refine .bind (R := fun _ => Revoking Phase.Open lease.sessionId place) ?_ fun _ => ?_
    · refine .modify ?_
      rintro v x ⟨rfl, ⟨b, target, input, sandboxId, rfl, -, there'⟩ | ⟨-, lease', there', revoked⟩⟩
      · cases there'.symm.trans there
        refine ⟨trivial, ⟨b, rfl, rfl⟩, _, List.getElem?_set_self ?_, rfl⟩
        exact (List.getElem?_eq_some_iff.mp there).1
      · cases there'.symm.trans there
        exact absurd revoked held
    have spent {v : Variables} {x : Phase} (revoked : Revoking Phase.Dormant lease.sessionId place v x) :
        Spent place v x := ⟨revoked.1, revoked.2.2⟩
    refine .bind (R := fun _ => Revoking Phase.Dormant lease.sessionId place) ?_ fun failures => ?_
    · refine Triple.mono (triple_allSettled (fun _ _ revoking => revoking.1) List.mem_cons_self
        (keeps_revoking (fun _ unfinished => unfinished) fun _ _ => Phase.open_close)
        (keeps_revoking (fun _ => Phase.open_of_dormant) fun _ _ => Phase.Dormant.close) ?_)
        (fun _ _ holds => holds) (fun _ _ _ holds => holds) fun _ _ _ => spent
      exact triple_revoking (fun _ _ => rfl) (fun x unfinished held => ⟨unfinished, held⟩)
        fun x => Phase.dormant_close
    · split
      · exact .pure fun _ _ => spent
      · exact .throw fun _ _ => spent

end Validator

section Processor
variable {options : Phase2RunValidatorOptions} {processor : RunProcessorOptions} {place : Nat}
  {run : RunExecutionRecord}

lemma triple_completeRun {now : Date} :
    Triple (phases schemas) (Leased run place)
      (worker (.store (.completeRun run.id run.controlVersion now)))
      (fun completed v x => (completed = true → Finished v x) ∧ (completed = false → Leased run place v x))
      fun _ => Leased run place := by
  refine .invoke ?_
  rintro v x ⟨b, target, input, sandboxId, rfl, own, there⟩
  refine ⟨⟨b, target, input, rfl, own.symm⟩, fun r _ => ?_⟩
  have leased : Leased run place v (.ready b target input) :=
    ⟨b, target, input, sandboxId, rfl, own, there⟩
  rcases r with error | _ | _
  · exact leased
  · exact ⟨nofun, fun _ => leased⟩
  · exact ⟨fun _ => trivial, nofun⟩

/-- What the processor asks of its collaborators, they keep with this validator. -/
lemma execution_respects :
    Collaborators.Respects (executionCollaborators options processor) (phases schemas) Asleep Asleep Finished
      Leased Spent where
  now := keeps_worker rfl steady_asleep
  nowLeased _ _ := keeps_worker rfl steady_leased
  nowFailing := keeps_worker rfl steady_asleep
  claimRun _ _ := keeps_worker rfl steady_asleep
  invokeGraph _ := keeps_lift steady_asleep (.bind invokeGraph_quiet fun _ _ => .pure trivial)
  listProjectFiles _ := keeps_worker rfl steady_asleep
  repair repair configured input := by
    have is : processor.repairer = true := by
      by_contra without
      rw [executionCollaborators, if_neg without] at configured
      cases configured
    rw [executionCollaborators, if_pos is] at configured
    cases configured
    exact keeps_lift steady_asleep (quiet_auxiliary _ _ repair_auxiliary)
  validate _ _ := triple_validate
  assess run lease attempt := by
    unfold Collaborators.assess
    split
    · exact .pure
    · rename_i assess configured
      have is : processor.assessor = true := by
        by_contra without
        rw [executionCollaborators, if_neg without] at configured
        cases configured
      rw [executionCollaborators, if_pos is] at configured
      cases configured
      refine .bind (.tryCatch (.bind (keeps_worker rfl steady_leased) fun _ => .pure) fun _ => .pure) ?_
      exact fun _ => .pure
  completeRun _ _ _ := triple_completeRun
  failRun _ _ _ := keeps_worker rfl steady_asleep
  revoke _ _ := by
    refine .tryCatch (R := fun _ => Spent _) (.bind triple_revoke fun _ => .pure ?_) fun _ => .pure ?_
    · exact fun _ _ spent => spent
    · exact fun _ _ spent => spent
  failing_of_dormant dormant := dormant
  failing_of_spent spent := spent.1
  finished_of_failing dormant := Phase.settled_of_dormant dormant

/-- The operations of other components leave the phase alone. -/
lemma quiet_of_admitted {operation : Operation Output} (admitted : (PreviewActivity.request operation).admitted = true) :
    quiet (.store operation : WorkerCall schemas) = true := by
  cases operation with
  | createSandboxSession | markSandboxFilesRestored | recordPreviewReady | completeRun => cases admitted
  | _ => rfl

/-- What is started makes its calls in the order of the phases, and ends with nothing that is published
    unless it has completed the run. -/
lemma program_phases {activity : PreviewActivity Output} (admitted : activity.admitted = true) :
    (((activity.program options processor).start {}) :
        Prog (ExecutionCall schemas) (fun o => Except Thrown o.Result) _).Satisfies (phases schemas)
      (fun _ x => x.Settled) .idle := by
  have triple : Triple (phases schemas) Asleep (activity.program options processor)
      (fun _ => Finished) fun _ => Finished := by
    cases activity with
    | delivery job attempt =>
      exact .bind execution_respects.process fun _ => .pure fun _ _ ends => ends
    | request operation =>
      refine .bind ((keeps_worker (quiet_of_admitted admitted) steady_asleep).onError fun _ _ _ => Phase.settled_of_dormant) ?_
      exact fun _ => .pure fun _ _ => Phase.settled_of_dormant
  apply (triple {} .idle trivial).mono
  intro r x ends
  obtain ⟨r, v⟩ := r
  cases r with
  | ok _ => exact ends
  | error error => exact ends

end Processor
end AtomsPlatform.Preview
