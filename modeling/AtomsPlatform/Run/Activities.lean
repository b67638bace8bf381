import AtomsPlatform.Run.Calls
import AtomsPlatform.Run.StatusHistory
import AtomsPlatform.Run.Tasks

/-!
# What activities do

Each activity of the control plane makes the calls it is there for and no others (`ControlActivity.mayCall`),
and a gate that a job opens was named by the job (`JobOpens`). Both are read off the programs, and hold of
every call in every history.
-/

namespace AtomsPlatform.Run
open Interleaving
variable {Output : Type} {schemas : AgentOutputSchemas Output} {d : Deployment}

/-- The transactions of jobs. -/
def Operation.ofJobs : Operation Output → Bool
  | .listProjectFiles _ => true
  | o => o.byWorker

/-- Tasks are changed in the name of their own runs; `slot` is a guess of the run of each task. -/
def Operation.OwnTask (slot : Uuid → Uuid) : Operation Output → Prop
  | .startTask runId _ taskId _ | .failTask runId _ taskId _ _ => slot taskId = runId
  | .completeTask input => slot input.taskId = input.runId
  | _ => True

/-- The scope that a gate asks the approval of. -/
def RunNode.scope? : RunNode → Option ApprovalScope
  | .agent _ => none
  | .approval => some .plan
  | .contentApproval => some .content

/-- The end of a node that a job opens is the end of a gate, and the job is to approve its scope. -/
def JobOpens (job : RunJob) (node : RunNode) (state : RunState schemas) (update : RunUpdate schemas) :
    Prop :=
  update.approvalBypassConsumed = some true →
    job.command = .approve ∧ state.runId = job.runId ∧ ∃ scope, job.approvalScope = some scope ∧
      node.scope? = some scope

/-- The calls that a job is there for. -/
def JobCall (job : RunJob) : WorkerCall schemas → Prop
  | .store o => o.ofJobs = true
  | .endNode node state update => JobOpens job node state update
  | _ => True

/-- What a job may assume of answers: a claimed run is the job's, and the tasks it is answered with are
    those that it asked for. -/
def JobAnswer (slot : Uuid → Uuid) : (c : WorkerCall schemas) → Except Thrown c.Answer → Prop
  | .store (.claimRun job _), .ok (.ready run) => run.id = job.runId
  | .store (.prepareTask input), .ok (.ok record) => slot record.id = input.runId
  | .store (.startTask _ _ taskId _), .ok (.ok record) => record.id = taskId
  | _, _ => True

variable (schemas) in
/-- What a job promises about its calls. -/
def jobContract (slot : Uuid → Uuid) (job : RunJob) :
    Contract (WorkerCall schemas) fun c => Except Thrown c.Answer where
  requires
    | .store o => o.ofJobs = true ∧ o.OwnTask slot
    | c => JobCall job c
  ensures := JobAnswer slot

section Jobs
variable {slot : Uuid → Uuid} {job : RunJob} {options : RunProcessorOptions}
  {state : RunState schemas}

/-- The state of a graph is the job's. -/
def RunState.Of (job : RunJob) (state : RunState schemas) : Prop :=
  state.runId = job.runId ∧ state.command = job.command ∧ state.approvalScope = job.approvalScope

/-- Auxiliary calls are a job's own. -/
lemma auxiliary_calls {α : Type} {p : WorkerProgram schemas α} {Q : α → Prop} (runId : Uuid)
    (outputs : RunOutputs schemas) (yields : Yields (auxiliary runId outputs) p Q) :
    Yields (jobContract schemas slot job) p Q := by
  refine Yields.of_auxiliary yields ?_
  intro c allowed
  cases c with
  | store o => cases o <;> first | exact ⟨rfl, trivial⟩ | cases allowed
  | endNode => cases allowed
  | _ => trivial

lemma runAgent_opens {agentName : AgentName} :
    Yields (jobContract schemas slot job) (runAgent options agentName state)
      fun update => update.approvalBypassConsumed = none := by
  have restored {task : WorkerTaskRecord Output} :
      Yields (jobContract schemas slot job) (restoreOutput agentName task)
        fun update => update.approvalBypassConsumed = none := by
    unfold restoreOutput
    split
    · exact .throw
    · exact .pure rfl
  have computed {α : Type} {result : Except Thrown α} :
      Yields (jobContract schemas slot job) (compute result) fun _ => True := by
    cases result with
    | error error => exact .throw
    | ok a => exact .pure trivial
  unfold runAgent
  refine .bind computed fun upstreamOutputs _ => ?_
  refine .step trivial fun projectType _ => ?_
  refine .bind (auxiliary_calls state.runId state.outputs findSkipReason_auxiliary) fun skipReason _ => ?_
  refine .step trivial fun now _ => ?_
  split
  · refine .step ⟨rfl, trivial⟩ fun skipped _ => ?_
    cases skipped with
    | stopped => exact .throw
    | ok record => exact .pure rfl
  refine .step ⟨rfl, trivial⟩ fun prepared here => ?_
  cases prepared with
  | stopped => exact .throw
  | ok prepared =>
    have own : slot prepared.id = state.runId := here
    dsimp only
    split
    · exact restored
    refine .step trivial fun now' _ => .step ⟨rfl, own⟩ fun started same => ?_
    cases started with
    | stopped => exact .throw
    | ok started =>
      have same : started.id = prepared.id := same
      have own : slot started.id = state.runId := same ▸ own
      dsimp only
      split
      · exact restored
      refine .tryCatch ?body fun error => ?failed
      case body =>
        unfold executeTask
        refine .bind (auxiliary_calls state.runId state.outputs listCurrentFiles_auxiliary) fun currentFiles _ => ?_
        refine .bind (auxiliary_calls state.runId state.outputs loadReferences_auxiliary) fun references _ => ?_
        refine .step trivial fun output _ => .bind computed fun _ _ => ?_
        refine .step trivial fun now _ => .step ⟨rfl, own⟩ fun completed _ => ?_
        cases completed with
        | stopped => exact .throw
        | fileConflict conflict => exact .throw
        | ok record => exact .pure rfl
      case failed =>
        unfold failStartedTask
        split
        · exact .throw
        · refine .step trivial fun now _ => .step ⟨rfl, own⟩ fun failed _ => ?_
          split <;> exact .throw

/-- A gate is opened by a job that approves its scope. -/
lemma awaitApproval_opens {scope : ApprovalScope} {reason waiting stopped : String} :
    Yields (jobContract schemas slot job) (awaitApproval scope reason waiting stopped state)
      fun _ => state.command = .approve ∧ state.approvalScope = some scope := by
  unfold awaitApproval
  split
  · rename_i approves
    exact .pure ⟨approves.1, approves.2.1⟩
  · exact .step trivial fun now _ => .step ⟨rfl, trivial⟩ fun paused _ => .throw

/-- What a node's update says about the job. -/
lemma runNode_opens {node : RunNode} (of : state.Of job) :
    Yields (jobContract schemas slot job) (runNode options node state) (JobOpens job node state) := by
  have passed : JobOpens job node state {} := by
    intro bypass
    cases bypass
  have named {scope : ApprovalScope} {update : RunUpdate schemas} (is : node.scope? = some scope)
      (approves : state.command = .approve ∧ state.approvalScope = some scope) :
      JobOpens job node state update := by
    obtain ⟨run, command, named⟩ := of
    rw [command, named] at approves
    exact fun _ => ⟨approves.1, run, scope, approves.2, is⟩
  cases node with
  | agent agentName =>
    refine runAgent_opens.mono ?_ fun _ _ => trivial
    intro update kept bypass
    rw [kept] at bypass
    cases bypass
  | approval =>
    show Yields _ (approvalGate options state) _
    unfold approvalGate
    split
    · exact .throw
    split
    · exact .pure passed
    refine .bind (auxiliary_calls state.runId state.outputs planNeedsApproval_auxiliary) fun needed _ => ?_
    split
    · exact awaitApproval_opens.mono (fun _ approves => named rfl approves) fun _ _ => trivial
    · exact .pure passed
  | contentApproval =>
    show Yields _ (contentApprovalGate state) _
    unfold contentApprovalGate
    split
    · exact .pure passed
    split
    · exact .pure passed
    · exact awaitApproval_opens.mono (fun _ approves => named rfl approves) fun _ _ => trivial

/-- The graph, from any node on; the induction is on the nodes that are left. -/
lemma runNodes_opens (nodes : List RunNode) (of : state.Of job) :
    Yields (jobContract schemas slot job) (runNodes options nodes state) fun _ => True := by
  induction nodes generalizing state with
  | nil => exact .pure trivial
  | cons node nodes ih =>
    refine .bind (runNode_opens of) fun update opens => ?_
    exact .step opens fun _ _ => ih of

lemma finishRun_calls (run : RunExecutionRecord) (lease : Option Uuid) (validatedAttempt : Nat) :
    Yields (jobContract schemas slot job) (finishRun options run lease validatedAttempt)
      fun _ => True := by
  refine .bind (auxiliary_calls run.id RunOutputs.none assess_auxiliary) fun _ _ => ?_
  refine .step trivial fun now _ => .step ⟨rfl, trivial⟩ fun completed _ => ?_
  split
  · exact .pure trivial
  · exact .bind (auxiliary_calls run.id RunOutputs.none revoke_auxiliary) fun _ _ => .pure trivial

/-- A delivery keeps the contract of its job. -/
lemma process_calls (attempt : RunAttempt) :
    Yields (jobContract schemas slot job) (process options job attempt) fun _ => True := by
  unfold process
  split
  · exact .throw
  refine .step trivial fun now _ => .step ⟨rfl, trivial⟩ fun claim claimed => ?_
  cases claim with
  | missing => exact .pure trivial
  | stale status version => exact .pure trivial
  | ready run =>
    have here : run.id = job.runId := claimed
    refine .bind (P := fun _ => True) (.tryCatch ?_ fun error => .pure trivial) fun executed _ => ?_
    · refine .bind (P := fun _ => True) ?_ fun _ _ => .pure trivial
      refine .bind (P := fun _ => True) ?graph fun final _ => ?_
      case graph =>
        unfold invokeGraph
        refine .bind (P := fun _ => True) ?_ fun saved _ => ?_
        · unfold loadSaved
          split
          · exact .call trivial fun _ _ => trivial
          · exact .pure trivial
        · exact runNodes_opens runGraph ⟨here, rfl, rfl⟩
      refine .bind (auxiliary_calls run.id final.outputs repairMissingRoutes_auxiliary)
        fun repairsUsed _ => ?_
      exact auxiliary_calls run.id final.outputs (validateWithRepairs_auxiliary ..)
    · have settled {lease : Option Uuid} {error : Thrown} :
          Yields (jobContract schemas slot job) (settle run attempt lease error) fun _ => True :=
        auxiliary_calls run.id RunOutputs.none settle_auxiliary
      cases executed with
      | error error => exact settled
      | ok validated => exact .tryCatch (finishRun_calls ..) fun error => settled

end Jobs

/-- The calls that an activity is there for. -/
def ControlActivity.mayCall : ControlActivity Output → ControlCall schemas → Prop
  | .delivery job _, .worker c => JobCall job c
  | .delivery .., _ => False
  | .start _, .enqueue job => job.command = .start
  | .start _, .worker (.store (.markRunFailed ..)) => True
  | .control .., .enqueue _ => True
  | .control .., .worker (.store (.getRun _)) => True
  | .control .., .worker (.store (.transitionRun ..)) => True
  | .control .., .worker (.store (.markRunFailed ..)) => True
  | .expiry .., .worker (.store (.findPausedRuns ..)) => True
  | .expiry .., .worker (.store (.expirePausedRun ..)) => True
  | .reminders .., .findReminders .. => True
  | .reminders .., .worker (.store (.sendReminder ..)) => True
  | .purges .., .findExpired .. => True
  | .purges .., .worker (.store (.purgeRunData ..)) => True
  | .append .., .appendEvent .. => True
  | .record _, .worker (.store o) => o.records = true
  | .record _, _ | .append .., _ => False
  | _, .worker .now => True
  | _, _ => False

/-- Other activities than deliveries change no tasks. -/
def ControlCall.OwnTask (slot : Uuid → Uuid) : ControlCall schemas → Prop
  | .worker (.store o) => o.OwnTask slot
  | _ => True

variable (schemas) in
/-- The contract of an activity. -/
def activityContract (slot : Uuid → Uuid) (activity : ControlActivity Output) :
    Contract (ControlCall schemas) fun c => Except Thrown c.Answer where
  requires c := activity.mayCall c ∧ c.OwnTask slot
  ensures
    | .worker c, r => JobAnswer slot c r
    | _, _ => True

variable (schemas) in
/-- The contract of an activity that is no delivery. -/
def callContract (activity : ControlActivity Output) :
    Contract (ControlCall schemas) fun c => Except Thrown c.Answer where
  requires := activity.mayCall
  ensures _ _ := True

section Programs
variable {activity : ControlActivity Output} {slot : Uuid → Uuid}

/-- Changing one candidate after the other; the induction is on the candidates. -/
lemma changeEach_calls {γ : Type} {id : γ → Uuid} {change : γ → ControlProgram schemas Bool}
    {candidates : List γ}
    (calls : ∀ candidate, Yields (callContract schemas activity) (change candidate) fun _ => True) :
    Yields (callContract schemas activity) (changeEach id change candidates) fun _ => True := by
  induction candidates with
  | nil => exact .pure trivial
  | cons candidate candidates ih =>
    exact .bind (calls candidate) fun changed _ => .bind ih fun ids _ => .pure trivial

lemma sweepOnce_calls {batchSize after : Nat}
    {batch : (before now : Date) → ControlProgram schemas (List Uuid)}
    (clocked : activity.mayCall (ControlCall.worker (WorkerCall.now : WorkerCall schemas)))
    (calls : ∀ before now, Yields (callContract schemas activity) (batch before now) fun _ => True) :
    Yields (callContract schemas activity) (sweepOnce batchSize after batch) fun _ => True := by
  refine .step clocked fun now _ => .tryCatch ?_ fun _ => .pure trivial
  generalize maxBatchesPerSweep = remaining
  induction remaining with
  | zero => exact .pure trivial
  | succ remaining ih =>
    refine .bind (calls _ now) fun changed _ => ?_
    split
    · exact .pure trivial
    · exact ih

lemma enqueueOrFail_calls {job : RunJob} {message : String}
    (enqueues : activity.mayCall (.enqueue job : ControlCall schemas))
    (clocked : activity.mayCall (ControlCall.worker (WorkerCall.now : WorkerCall schemas)))
    (marks : ∀ error now, activity.mayCall (ControlCall.worker
      (.store (.markRunFailed job.runId job.controlVersion error now) : WorkerCall schemas))) :
    Yields (callContract schemas activity) (enqueueOrFail job message) fun _ => True := by
  refine .tryCatch (.call enqueues fun _ _ => trivial) fun error => ?_
  exact .step clocked fun now _ => .step (marks _ now) fun _ _ => .throw

lemma controlRun_calls {enabled : Bool} {runId : Uuid} {input : RunActionInput} :
    Yields (callContract schemas (.control runId input)) (controlRun enabled runId input)
      fun _ => True := by
  refine .step trivial fun found _ => ?_
  cases found with
  | none => exact .throw
  | some current =>
    dsimp only
    split
    · exact .throw
    refine .step trivial fun occurredAt _ => ?_
    split
    · exact .throw
    split
    · exact .throw
    refine .step trivial fun updated _ => ?_
    cases updated with
    | none => exact .step trivial fun _ _ => .throw
    | some updated =>
      show Yields _ (enqueueAction updated input) _
      unfold enqueueAction
      split
      · exact .pure trivial
      · exact enqueueOrFail_calls trivial trivial fun _ _ => trivial

/-- Who is not a delivery changes no task. -/
lemma ownTask_of_mayCall {call : ControlCall schemas}
    (other : ∀ job attempt, activity ≠ .delivery job attempt) (may : activity.mayCall call) :
    call.OwnTask slot := by
  cases call with
  | worker c =>
    cases c with
    | store o =>
      cases o with
      | startTask | completeTask | failTask =>
        cases activity with
        | delivery job attempt => exact absurd rfl (other job attempt)
        | record => cases may
        | _ => exact may.elim
      | _ => trivial
    | _ => trivial
  | _ => trivial

/-- Each activity makes the calls it is there for. -/
lemma program_calls {s : ControlStore schemas} (admitted : activity.admitted s = true) :
    Yields (activityContract schemas slot activity) (activity.program d) fun _ => True := by
  have plainly (other : ∀ job attempt, activity ≠ .delivery job attempt)
      (calls : Yields (callContract schemas activity) (activity.program d) fun _ => True) :
      Yields (activityContract schemas slot activity) (activity.program d) fun _ => True := by
    refine Prog.Meets.weaken calls ?_ fun _ _ _ _ => trivial
    exact fun call may => ⟨may, ownTask_of_mayCall other may⟩
  cases activity with
  | start runId =>
    refine plainly (by simp) ?_
    exact enqueueOrFail_calls rfl trivial fun _ _ => trivial
  | control runId input => exact plainly (by simp) controlRun_calls
  | delivery job attempt =>
    have calls : Yields ((activityContract schemas slot (.delivery job attempt)).restrict
        ControlCall.worker) (process d.options job attempt) fun _ => True := by
      refine Prog.Meets.weaken (process_calls attempt) ?_ fun _ _ _ ens => ens
      intro call promised
      cases call with
      | store o => exact ⟨promised.1, promised.2⟩
      | _ => exact ⟨promised, trivial⟩
    exact .bind calls.embed fun _ _ => .pure trivial
  | expiry batchSize ttlMs =>
    refine plainly (by simp) (sweepOnce_calls trivial fun before now => ?_)
    refine .step trivial fun candidates _ => changeEach_calls fun candidate => ?_
    exact .call trivial fun _ _ => trivial
  | reminders batchSize afterMs =>
    refine plainly (by simp) (sweepOnce_calls trivial fun before now => ?_)
    refine .step trivial fun candidates _ => changeEach_calls fun candidate => ?_
    exact .call trivial fun _ _ => trivial
  | purges batchSize afterMs =>
    refine plainly (by simp) (sweepOnce_calls trivial fun before now => ?_)
    refine .step trivial fun candidates _ => changeEach_calls fun candidate => ?_
    exact .call trivial fun _ _ => trivial
  | append runId event => exact plainly (by simp) (.call trivial fun _ _ => trivial)
  | record o => exact plainly (by simp) (.step admitted fun _ _ => .pure trivial)

end Programs

/-- The calls of a thread of the control plane, with their answers. -/
abbrev ControlCalls (schemas : AgentOutputSchemas Output) : Type :=
  List (Event (ControlCall schemas) fun c => Except Thrown c.Answer)

/-- A collaborator that answers answers what it is asked. -/
lemma answer_ok {α : Type} {env : WorkerEnvironment schemas} {a b : α} (e : env.answer a = .ok b) :
    b = a := by
  unfold WorkerEnvironment.answer at e
  split at e
  · cases e
    rfl
  · cases e

section Accounts
variable {Φ : ControlCalls schemas → ControlCall schemas → Prop}

/-- What holds from one change to the next is kept by changing one candidate after the other. -/
lemma changeEach_accounts {γ : Type} {id : γ → Uuid} {change : γ → ControlProgram schemas Bool}
    {candidates : List γ} {P : ControlCalls schemas → Prop}
    (each : ∀ w ∈ candidates, Accounts Φ P (change w) (fun _ => P) fun _ _ => True) :
    Accounts Φ P (changeEach id change candidates) (fun _ => P) fun _ _ => True := by
  induction candidates with
  | nil => exact .pure fun _ holds => holds
  | cons w candidates ih =>
    refine .bind (each w List.mem_cons_self) fun changed => ?_
    refine .bind (ih fun w mem => each w (List.mem_cons_of_mem _ mem)) fun ids => ?_
    exact .pure fun _ holds => holds

/-- A sweep accounts for its calls if each of its batches does. -/
lemma sweepOnce_accounts {batchSize after : Nat}
    {batch : (before now : Date) → ControlProgram schemas (List Uuid)}
    (clocked : ∀ calls, Φ calls (.worker .now))
    (each : ∀ before now, Accounts Φ (fun _ => True) (batch before now) (fun _ _ => True)
      fun _ _ => True) :
    Accounts Φ (fun _ => True) (sweepOnce batchSize after batch) (fun _ _ => True)
      fun _ _ => True := by
  refine .bind (R := fun _ _ => True) ?_ fun now => ?_
  · exact Accounts.call (fun calls _ => clocked calls) (fun _ _ _ => trivial) fun _ _ _ => trivial
  refine .tryCatch (R := fun _ _ => True) ?_ fun _ => .pure fun _ _ => trivial
  generalize maxBatchesPerSweep = remaining
  induction remaining with
  | zero => exact .pure fun _ _ => trivial
  | succ remaining ih =>
    refine .bind (each _ now) fun changed => ?_
    split
    · exact .pure fun _ _ => trivial
    · exact ih

end Accounts

section Runs
variable {c₀ c c₁ : ControlConfig schemas} {h h₁ h₂ : ControlHistory schemas d}

/-- A guess of the run of each task agrees with the stored tasks. -/
def Agrees (s : ControlStore schemas) (slot : Uuid → Uuid) : Prop :=
  ∀ t ∈ s.tables.tasks, slot t.id = t.runId

/-- No two tasks share their identifier. -/
def TasksKeyed (s : ControlStore schemas) : Prop :=
  (s.tables.tasks.map AgentTask.id).Nodup

variable {slot : Uuid → Uuid}

/-- There is a right guess. -/
lemma exists_agrees {s : ControlStore schemas} (keyed : TasksKeyed s) : ∃ slot, Agrees s slot := by
  refine ⟨fun id => ((s.tables.task? id).map AgentTask.runId).getD 0, fun t mem => ?_⟩
  have found : s.tables.task? t.id = some t := Table.lookup_of_mem keyed mem
  simp [found]

/-- A transaction keeps every task, and its run; what it adds has a new identifier. -/
lemma TaskStep.kept {o : Operation Output} {s s' : RunStore Output} (step : TaskStep o s s') :
    (∀ t ∈ s.tasks, ∃ t' ∈ s'.tasks, t'.id = t.id ∧ t'.runId = t.runId) ∧
      ((s.tasks.map AgentTask.id).Nodup → (s'.tasks.map AgentTask.id).Nodup) := by
  obtain same | ⟨_, task, _, _, fresh, _, tasks⟩ := step.places
  · constructor
    · intro t mem
      have place : t.place ∈ s'.tasks.map AgentTask.place := same ▸ List.mem_map_of_mem mem
      obtain ⟨t', mem', e⟩ := List.mem_map.mp place
      exact ⟨t', mem', congrArg Prod.fst e, congrArg (fun place => place.2.1) e⟩
    · have ids (l : List (AgentTask Output)) :
          l.map AgentTask.id = (l.map AgentTask.place).map Prod.fst := by
        rw [List.map_map]
        rfl
      rw [ids s'.tasks, same, ← ids]
      exact id
  · constructor
    · intro t mem
      exact ⟨t, tasks ▸ List.mem_append_left _ mem, rfl, rfl⟩
    · intro keyed
      rw [tasks]
      exact Table.nodup_append keyed fresh

/-- What a transaction is answered with is about the tasks as they are guessed. -/
lemma transact_answers {o : Operation Output} {env : Environment} {s : RunStore Output}
    (outputs : AgentOutputs Output)
    (agrees : ∀ t ∈ (perform outputs o env s).2.tasks, slot t.id = t.runId) :
    JobAnswer slot (.store o : WorkerCall schemas)
      ((perform outputs o env s).1.mapError Failure.thrown) := by
  cases answered : (perform outputs o env s).1 with
  | error error => cases o <;> trivial
  | ok result =>
    obtain ⟨e, -⟩ := perform_answered answered
    generalize (perform outputs o env s).2 = s' at *
    cases o with
    | claimRun job now =>
      cases result with
      | ready run => exact claimRun_answer e
      | missing => trivial
      | stale status version => trivial
    | prepareTask input =>
      cases result with
      | stopped => trivial
      | ok record =>
        obtain ⟨stopped, -⟩ | ⟨-, ⟨task, found, same, tasks⟩ | ⟨task, -, -, place, -, same, tasks⟩⟩ :=
          ensureTask_cases e
        · cases stopped
        · cases same
          have mem := List.mem_of_find?_eq_some found
          have here := List.find?_some found
          simp only [decide_eq_true_eq] at here
          exact (agrees task (tasks ▸ mem)).trans here.1
        · cases same
          refine (agrees task ?_).trans place.1
          rw [tasks]
          exact List.mem_append_right _ (List.mem_singleton_self _)
    | startTask runId version taskId now =>
      cases result with
      | stopped => trivial
      | ok record =>
        obtain ⟨stopped, -⟩ | ⟨-, task, row, ⟨-, same, -⟩ | ⟨-, same, -⟩⟩ := startTask_cases e
        · cases stopped
        · cases same
          exact (Table.lookup_key row : task.id = taskId)
        · cases same
          exact (Table.lookup_key row : task.id = taskId)
    | _ => trivial

/-- The store answers as the contracts of activities assume. -/
lemma controlPlane_upholds :
    System.Upholds (controlPlane schemas d)
      (fun (slot : Uuid → Uuid) activity => activityContract schemas slot activity)
      TasksKeyed Agrees (fun _ _ _ _ => True) := by
  constructor
  · intro i activity call env s keyed _ _
    have same (tables : ((controlPlane schemas d).perform call env s).2.tables.tasks = s.tables.tasks)
        (other : ∀ slot r, (activityContract schemas slot activity).ensures call r) :
        TasksKeyed ((controlPlane schemas d).perform call env s).2 ∧
          ∀ slot, Agrees ((controlPlane schemas d).perform call env s).2 slot →
            Agrees s slot ∧ (activityContract schemas slot activity).ensures call
              ((controlPlane schemas d).perform call env s).1 := by
      refine ⟨?_, fun slot agrees => ⟨?_, other slot _⟩⟩
      · rw [TasksKeyed, tables]
        exact keyed
      · exact fun t mem => agrees t (tables ▸ mem)
    cases call with
    | worker c =>
      by_cases transacts : ∃ o, c = .store o
      · obtain ⟨o, rfl⟩ := transacts
        obtain ⟨kept, keys⟩ := (perform_taskStep schemas.toAgentOutputs o env.transaction s.tables).kept
        refine ⟨keys keyed, fun slot agrees => ⟨?_, transact_answers _ agrees⟩⟩
        intro t mem
        obtain ⟨t', mem', id, run⟩ := kept t mem
        rw [← id, ← run]
        exact agrees t' mem'
      · obtain tables | ⟨o, transacts', -⟩ :=
          perform_tables d.options d.references c env s.platform
        · refine same (congrArg RunStore.tasks tables) fun slot r => ?_
          cases c with
          | store o => exact absurd ⟨o, rfl⟩ transacts
          | _ => trivial
        · exact absurd ⟨o, transacts'⟩ transacts
    | enqueue | appendEvent =>
      refine same ?_ fun _ _ => trivial
      show (ControlCall.perform d _ env s).2.tables.tasks = _
      simp only [ControlCall.perform]
      split <;> rfl
    | findReminders | findExpired => exact same rfl fun _ _ => trivial
  · intro s activity _ admitted slot _
    exact (program_calls admitted).meets

/-- Every thread keeps its contract. -/
lemma Traced.sound (begins : Begins c₀)
    (traced : (controlPlane schemas d).Traced (controlPlane schemas d).Unguarded c₀ h c) :
    System.Sound (fun (slot : Uuid → Uuid) activity => activityContract schemas slot activity)
      TasksKeyed Agrees c := by
  refine controlPlane_upholds.sound_reaches (fun _ => trivial) ?_ traced.reaches
  obtain ⟨s, threads⟩ := c₀
  obtain rfl : threads = [] := begins.threads
  refine System.Sound.start ?_
  rw [TasksKeyed, begins.tasks]
  exact List.nodup_nil

/-- Every call of a history is one that the thread's activity is there for. -/
lemma Traced.mayCall (begins : Begins c₀)
    (traced : (controlPlane schemas d).Traced (controlPlane schemas d).Unguarded c₀ h c) {i : Nat}
    {activity : ControlActivity Output} {call : ControlCall schemas} {k}
    (at_i : c.threads[i]? = some ⟨activity, .call call k⟩) : activity.mayCall call := by
  have sound := Traced.sound begins traced
  obtain ⟨slot, agrees⟩ := exists_agrees sound.store
  exact (sound.requires at_i agrees).1

/-- A task is changed in the name of its own run only. -/
lemma Traced.ownTask (begins : Begins c₀)
    (traced : (controlPlane schemas d).Traced (controlPlane schemas d).Unguarded c₀ h c) {i : Nat}
    {activity : ControlActivity Output} {call : ControlCall schemas} {k}
    (at_i : c.threads[i]? = some ⟨activity, .call call k⟩) :
    ∃ slot, Agrees c.store slot ∧ call.OwnTask slot := by
  have sound := Traced.sound begins traced
  obtain ⟨slot, agrees⟩ := exists_agrees sound.store
  exact ⟨slot, agrees, (sound.requires at_i agrees).2⟩

end Runs

end AtomsPlatform.Run
