import AtomsPlatform.Run.Calls
import AtomsPlatform.Run.Tasks

/-!
# Completed tasks

Deliveries of a run's jobs race in the tasks they prepare, start, complete and fail, and each holds its
own copy of every output. Two steps can part the copies: a `failTask` that hits a completed task, which
it reopens, and a `completeTask` that finds its task completed with another output, after which the
graph goes on with its own. In every run without such steps a completed task keeps its output until it
is purged, and whatever an execution passes to an agent is what is persisted.

The proof follows the outputs through the program of a job: a `Watch` names an output that is *not*
persisted, and no job ever gets hold of it. Which run and agent a task identifier belongs to is not
known when the program is read, so a watch guesses it, and is live while its guess is right.
-/

namespace AtomsPlatform.Run
open Interleaving
variable {Output : Type} {schemas : AgentOutputSchemas Output}

/-- Whether the effect of a transaction takes place. -/
def Environment.TakesEffect (env : Environment) : Prop :=
  ∀ error, env.fate ≠ .aborts error

instance (env : Environment) : Decidable env.TakesEffect :=
  match e : env.fate with
  | .commits => isTrue fun error same => by rw [e] at same; cases same
  | .unacknowledged _ => isTrue fun error same => by rw [e] at same; cases same
  | .aborts error => isFalse fun effect => effect error e

/-- The step does not part a completed task from its output: no `failTask` that takes effect hits a
    completed task, and a `completeTask` that is answered finds its task open or completed with the
    same output. -/
def WorkerCall.KeepsOutputs (s : Platform schemas) (env : Environment) :
    WorkerCall schemas → Prop
  | .store (.failTask runId version taskId _ _) =>
    env.TakesEffect → s.tables.owns runId (isAt .running version) = true →
      ∀ t ∈ s.tables.task? taskId, t.status ≠ .completed
  | .store (.completeTask input) =>
    env.fate = .commits →
      s.tables.owns input.runId (isAt .running input.expectedControlVersion) = true →
      ∀ t ∈ s.tables.task? input.taskId, t.status = .completed → t.output = some input.output
  | _ => True

instance [DecidableEq Output] (s : Platform schemas) (env : Environment) (c : WorkerCall schemas) :
    Decidable (c.KeepsOutputs s env) :=
  match c with
  | .store o => by
    cases o <;> unfold WorkerCall.KeepsOutputs <;> infer_instance
  | .now | .getProjectType _ | .getWorkspacePlan _ | .load _ | .execute _ | .validate .. =>
    inferInstanceAs (Decidable True)
  | .revoke _ | .assess .. | .loadThread _ | .endNode .. => inferInstanceAs (Decidable True)

/-- A guess of the run and agent of each task identifier, and possibly an output of an agent of a
    run. -/
structure Watch (Output : Type) where
  slot : Uuid → Uuid × AgentName
  target : Option (Uuid × AgentName × Output) := none

/-- The guess agrees with the stored tasks, and the output is not persisted. -/
def Watch.Live (s : Platform schemas) (x : Watch Output) : Prop :=
  (∀ t ∈ s.tables.tasks, x.slot t.id = (t.runId, t.agentName)) ∧
    ∀ runId agent output, x.target = some (runId, agent, output) →
      ¬ Persisted s.tables runId agent output

/-- The watched output is not among those of a run. -/
def Watch.Avoids (x : Watch Output) (runId : Uuid) (outputs : RunOutputs schemas) : Prop :=
  ∀ agent output, outputs agent = some output → x.target ≠ some (runId, agent, output.val)

variable (schemas) in
/-- A record of a completed task holds a valid output of its agent, which is not the watched one. -/
def Watch.AvoidsRecord (x : Watch Output) (record : WorkerTaskRecord Output) : Prop :=
  record.status = .completed → ∀ output, record.output = some output →
    schemas.parse (x.slot record.id).2 output = some output ∧
      x.target ≠ some ((x.slot record.id).1, (x.slot record.id).2, output)

variable (schemas) in
/-- What a job promises about the watched output, and may assume. -/
def taskContract (x : Watch Output) :
    Contract (WorkerCall schemas) fun c => Except Thrown c.Answer where
  requires
    | .store (.prepareTask input) | .store (.skipTask input) =>
      input.ordinal = taskOrdinal input.agentName
    | .store (.completeTask input) =>
      schemas.parse (x.slot input.taskId).2 input.output = some input.output
    | .execute request => x.Avoids request.runId request.upstreamOutputs
    | .endNode _ state update => x.Avoids state.runId (state.apply update).outputs
    | _ => True
  ensures
    | .store (.prepareTask input), .ok (.ok record) =>
      x.slot record.id = (input.runId, input.agentName) ∧ x.AvoidsRecord schemas record
    | .store (.startTask _ _ taskId _), .ok (.ok record) =>
      record.id = taskId ∧ x.AvoidsRecord schemas record
    | .store (.completeTask input), .ok (.ok _) =>
      x.target ≠ some ((x.slot input.taskId).1, (x.slot input.taskId).2, input.output)
    | .loadThread runId, .ok outputs => x.Avoids runId outputs
    | _, _ => True

/-- Tasks are well-formed and hold valid outputs, and what is saved for a thread is persisted. -/
structure OutputsSound (s : Platform schemas) : Prop where
  wellFormed : TasksWellFormed s.tables.tasks
  valid : ∀ t ∈ s.tables.tasks, ∀ output, t.output = some output →
    schemas.parse t.agentName output = some output
  saved : ∀ runId agent output, s.saved runId agent = some output →
    Persisted s.tables runId agent output.val

section Program
variable {x : Watch Output} {options : RunProcessorOptions} {κ : Contract (WorkerCall schemas)
  fun c => Except Thrown c.Answer}

lemma compute_yields {α : Type} {result : Except Thrown α} {Q : α → Prop}
    (returns : ∀ a, result = .ok a → Q a) : Yields κ (compute result) Q := by
  cases result with
  | error error => exact .throw
  | ok a => exact .pure (returns a rfl)

/-- Auxiliary calls keep the contract while the outputs they show avoid the watched one. -/
lemma auxiliary_yields {α : Type} {p : WorkerProgram schemas α} {Q : α → Prop} {runId : Uuid}
    {outputs : RunOutputs schemas} (avoids : x.Avoids runId outputs)
    (yields : Yields (auxiliary runId outputs) p Q) : Yields (taskContract schemas x) p Q := by
  refine Yields.of_auxiliary yields ?_
  intro c allowed
  cases c with
  | execute request =>
    obtain ⟨run, shown⟩ := allowed
    show x.Avoids request.runId request.upstreamOutputs
    rw [run, shown]
    exact avoids
  | store o => cases o <;> trivial
  | endNode => cases allowed
  | _ => trivial

/-- There is nothing to avoid in no outputs. -/
lemma Watch.avoids_none (x : Watch Output) (runId : Uuid) :
    x.Avoids runId (RunOutputs.none : RunOutputs schemas) := by
  intro agent output held
  cases held

/-- An update without outputs leaves the outputs of a state alone. -/
lemma Watch.Avoids.kept {state : RunState schemas} {consumed : Option Bool}
    (avoids : x.Avoids state.runId state.outputs) :
    x.Avoids state.runId (state.apply { approvalBypassConsumed := consumed }).outputs :=
  avoids

lemma Watch.Avoids.merge_single {runId : Uuid} {outputs : RunOutputs schemas} {agent : AgentName}
    {output : schemas.Valid agent} (avoids : x.Avoids runId outputs)
    (other : x.target ≠ some (runId, agent, output.val)) :
    x.Avoids runId (outputs.merge (RunOutputs.single agent output)) := by
  intro agent' output' held
  by_cases same : agent' = agent
  · subst same
    rw [RunOutputs.merge_single_self] at held
    cases held
    exact other
  · rw [RunOutputs.merge_single_ne same] at held
    exact avoids agent' output' held

/-- A node's update keeps the watched output away. -/
def Watch.Safe (x : Watch Output) (state : RunState schemas) (update : RunUpdate schemas) : Prop :=
  x.Avoids state.runId (state.apply update).outputs

/-- A restored output is the stored one, for its schema accepts it as it is. -/
lemma restoreOutput_yields {agentName : AgentName} {state : RunState schemas}
    {record : WorkerTaskRecord Output} (avoids : x.Avoids state.runId state.outputs)
    (slot : x.slot record.id = (state.runId, agentName)) (done : record.status = .completed)
    (clear : x.AvoidsRecord schemas record) :
    Yields (taskContract schemas x) (restoreOutput agentName record) (x.Safe state) := by
  unfold restoreOutput
  split
  · exact .throw
  · rename_i restored accepted
    obtain ⟨output, stored, accepted⟩ := Option.bind_eq_some_iff.mp accepted
    obtain ⟨valid, other⟩ := clear done output stored
    rw [slot] at valid other
    have same := (accept_eq_some accepted).symm.trans valid
    refine .pure (avoids.merge_single ?_)
    rw [Option.some.inj same]
    exact other

lemma executeTask_yields {agentName : AgentName} {state : RunState schemas}
    {projectType : ProjectType} {taskId : Uuid} (avoids : x.Avoids state.runId state.outputs)
    (slot : x.slot taskId = (state.runId, agentName)) :
    Yields (taskContract schemas x) (executeTask options agentName state state.outputs projectType taskId)
      (x.Safe state) := by
  unfold executeTask
  refine .bind (auxiliary_yields avoids listCurrentFiles_auxiliary) fun currentFiles _ => ?_
  refine .bind (auxiliary_yields avoids loadReferences_auxiliary) fun referenceAttachments _ => ?_
  refine .step avoids fun output _ => ?_
  refine .bind (P := fun _ => True) (compute_yields fun _ _ => trivial) fun _ _ => ?_
  refine .step trivial fun now _ => ?_
  refine .step ?valid fun completed kept => ?_
  case valid =>
    show schemas.parse (x.slot taskId).2 output.val = some output.val
    rw [slot]
    exact output.property
  cases completed with
  | stopped => exact .throw
  | fileConflict conflict => exact .throw
  | ok record =>
    have other : x.target ≠ some ((x.slot taskId).1, (x.slot taskId).2, output.val) := kept
    rw [slot] at other
    exact .pure (avoids.merge_single other)

lemma failStartedTask_yields {α : Type} {state : RunState schemas} {taskId : Uuid} {error : Thrown}
    {Q : α → Prop} : Yields (taskContract schemas x) (failStartedTask state taskId error) Q := by
  unfold failStartedTask
  split
  · exact .throw
  · refine .step trivial fun now _ => .step trivial fun failed _ => ?_
    split <;> exact .throw

/-- The agent nodes keep the contract. -/
lemma runAgent_yields {agentName : AgentName} {state : RunState schemas}
    (avoids : x.Avoids state.runId state.outputs) :
    Yields (taskContract schemas x) (runAgent options agentName state) (x.Safe state) := by
  unfold runAgent
  rw [parseUpstreamOutputs_eq]
  refine .bind (P := (· = state.outputs)) (.pure rfl) ?_
  rintro _ rfl
  refine .step trivial fun projectType _ => ?_
  refine .bind (auxiliary_yields avoids findSkipReason_auxiliary) fun skipReason _ => ?_
  refine .step trivial fun now _ => ?_
  split
  · refine .step rfl fun skipped _ => ?_
    cases skipped with
    | stopped => exact .throw
    | ok record => exact .pure avoids.kept
  refine .step rfl fun prepared found => ?_
  cases prepared with
  | stopped => exact .throw
  | ok prepared =>
    obtain ⟨slot, clear⟩ :
      x.slot prepared.id = (state.runId, agentName) ∧ x.AvoidsRecord schemas prepared := found
    dsimp only
    split
    · rename_i done
      exact restoreOutput_yields avoids slot done clear
    refine .step trivial fun now' _ => .step trivial fun started found' => ?_
    cases started with
    | stopped => exact .throw
    | ok started =>
      obtain ⟨same, clear'⟩ : started.id = prepared.id ∧ x.AvoidsRecord schemas started := found'
      rw [← same] at slot
      dsimp only
      split
      · rename_i done
        exact restoreOutput_yields avoids slot done clear'
      · exact .tryCatch (executeTask_yields avoids slot) fun _ => failStartedTask_yields

lemma awaitApproval_yields {scope : ApprovalScope} {reason waiting stopped : String}
    {state : RunState schemas} (avoids : x.Avoids state.runId state.outputs) :
    Yields (taskContract schemas x) (awaitApproval scope reason waiting stopped state) (x.Safe state) := by
  unfold awaitApproval
  split
  · exact .pure avoids.kept
  · exact .step trivial fun now _ => .step trivial fun paused _ => .throw

lemma approvalGate_yields {state : RunState schemas} (avoids : x.Avoids state.runId state.outputs) :
    Yields (taskContract schemas x) (approvalGate options state) (x.Safe state) := by
  unfold approvalGate
  split
  · exact .throw
  · rename_i mike _
    split
    · exact .pure avoids.kept
    refine .bind (auxiliary_yields avoids planNeedsApproval_auxiliary) fun needed _ => ?_
    split
    · exact awaitApproval_yields avoids
    · exact .pure avoids.kept

lemma contentApprovalGate_yields {state : RunState schemas}
    (avoids : x.Avoids state.runId state.outputs) :
    Yields (taskContract schemas x) (contentApprovalGate state) (x.Safe state) := by
  unfold contentApprovalGate
  split
  · exact .pure avoids.kept
  split
  · exact .pure avoids.kept
  · exact awaitApproval_yields avoids

/-- The graph keeps the contract, from any node on; the induction is on the nodes that are left. -/
lemma runNodes_yields (nodes : List RunNode) {state : RunState schemas}
    (avoids : x.Avoids state.runId state.outputs) :
    Yields (taskContract schemas x) (runNodes options nodes state) fun final =>
      x.Avoids state.runId final.outputs := by
  induction nodes generalizing state with
  | nil => exact .pure avoids
  | cons node nodes ih =>
    have ended : Yields (taskContract schemas x) (runNode options node state) (x.Safe state) := by
      cases node with
      | agent agentName => exact runAgent_yields avoids
      | approval => exact approvalGate_yields avoids
      | contentApproval => exact contentApprovalGate_yields avoids
    refine .bind ended fun update safe => ?_
    refine .step safe fun _ _ => ?_
    exact ih safe

lemma invokeGraph_yields (input : RunState schemas) (blank : input.outputs = RunOutputs.none) :
    Yields (taskContract schemas x) (invokeGraph options input) fun final =>
      x.Avoids input.runId final.outputs := by
  unfold invokeGraph
  refine .bind (P := fun saved => x.Avoids input.runId saved) ?saved fun saved avoids => ?_
  case saved =>
    unfold loadSaved
    split
    · exact .call trivial fun _ avoids => avoids
    · exact .pure (x.avoids_none input.runId)
  refine runNodes_yields runGraph ?_
  rw [blank, RunOutputs.merge_none]
  exact avoids

/-- Failing a run shows agents nothing. -/
lemma settle_yields (run : RunExecutionRecord) (attempt : RunAttempt) (lease : Option Uuid)
    (error : Thrown) :
    Yields (taskContract schemas x) (settle run attempt lease error) fun _ => True := by
  exact auxiliary_yields (x.avoids_none run.id) settle_auxiliary

lemma finishRun_yields (run : RunExecutionRecord) (lease : Option Uuid) (validatedAttempt : Nat) :
    Yields (taskContract schemas x) (finishRun options run lease validatedAttempt)
      fun _ => True := by
  refine .bind (auxiliary_yields (x.avoids_none run.id) assess_auxiliary) fun _ _ => ?_
  refine .step trivial fun now _ => .step trivial fun completed _ => ?_
  split
  · exact .pure trivial
  · exact .bind (auxiliary_yields (x.avoids_none run.id) revoke_auxiliary) fun _ _ => .pure trivial

/-- A delivery keeps the contract of every watch. -/
lemma process_yields (job : RunJob) (attempt : RunAttempt) :
    Yields (taskContract schemas x) (process options job attempt) fun _ => True := by
  unfold process
  split
  · exact .throw
  refine .step trivial fun now _ => .step trivial fun claim _ => ?_
  cases claim with
  | missing => exact .pure trivial
  | stale status version => exact .pure trivial
  | ready run =>
    refine .bind (P := fun _ => True) (.tryCatch ?_ fun error => .pure trivial) fun executed _ => ?_
    · refine .bind (P := fun _ => True) ?_ fun _ _ => .pure trivial
      refine .bind (invokeGraph_yields (graphInput job run) rfl) fun final avoids => ?_
      refine .bind (auxiliary_yields avoids repairMissingRoutes_auxiliary) fun repairsUsed _ => ?_
      exact auxiliary_yields avoids (validateWithRepairs_auxiliary ..)
    · cases executed with
      | error error => exact settle_yields ..
      | ok validated => exact .tryCatch (finishRun_yields ..) fun error => settle_yields ..

end Program

section Store
variable {x : Watch Output} {s : Platform schemas} {o : Operation Output} {env : Environment}
  {options : RunProcessorOptions} {references : Uuid → List AgentReferenceAttachment}

/-- A transaction that does not take effect changes nothing. -/
lemma perform_aborted {outputs : AgentOutputs Output} {tables : RunStore Output}
    (aborted : ¬ env.TakesEffect) : (perform outputs o env tables).2 = tables := by
  simp only [Environment.TakesEffect, not_forall, not_not] at aborted
  obtain ⟨error, fate⟩ := aborted
  simp only [perform, fate]

/-- There is a live watch for any output that is not persisted, and for none. -/
lemma exists_live (sound : OutputsSound s) : ∃ slot : Uuid → Uuid × AgentName, ∀ target,
    (∀ runId agent output, target = some (runId, agent, output) →
      ¬ Persisted s.tables runId agent output) → Watch.Live s ⟨slot, target⟩ := by
  refine ⟨fun id => ((s.tables.task? id).map fun t => (t.runId, t.agentName)).getD (0, .sophia), ?_⟩
  intro target fresh
  refine ⟨?_, fresh⟩
  intro t mem
  show ((s.tables.task? t.id).map fun t => (t.runId, t.agentName)).getD (0, .sophia) = _
  rw [sound.wellFormed.task?_iff.mpr ⟨mem, rfl⟩]
  rfl

/-- What is persisted stays persisted in steps that keep outputs. -/
lemma persisted_transact (sound : OutputsSound s)
    (allowed : ∀ runId version taskId error now, o = .failTask runId version taskId error now →
      env.TakesEffect → s.tables.owns runId (isAt .running version) = true →
      ∀ t, s.tables.task? taskId = some t → t.status ≠ .completed)
    {runId : Uuid} {agent : AgentName} {output : Output}
    (persisted : Persisted s.tables runId agent output) :
    Persisted (perform schemas.toAgentOutputs o env s.tables).2 runId agent output := by
  by_cases effect : env.TakesEffect
  · refine persisted.perform sound.wellFormed _ env ?_
    intro run version taskId error now made active t row done
    exact absurd done (allowed run version taskId error now made effect active t row)
  · rw [perform_aborted effect]
    exact persisted

/-- Stored outputs stay valid when every completed task gets a valid output. -/
lemma valid_transact (sound : OutputsSound s)
    (completes : ∀ input, o = .completeTask input → ∀ t, s.tables.task? input.taskId = some t →
      schemas.parse t.agentName input.output = some input.output) :
    ∀ t ∈ (perform schemas.toAgentOutputs o env s.tables).2.tasks, ∀ output,
      t.output = some output → schemas.parse t.agentName output = some output := by
  have updated {taskId : Uuid} {data : AgentTask Output → AgentTask Output}
      (valid : ∀ t, s.tables.task? taskId = some t → ∀ output, (data t).output = some output →
        schemas.parse (data t).agentName output = some output) :
      ∀ t ∈ (s.tables.updateTask taskId data).tasks, ∀ output, t.output = some output →
        schemas.parse t.agentName output = some output := by
    intro t mem
    obtain ⟨t₀, mem₀, rfl⟩ := List.mem_map.mp mem
    split
    · rename_i here
      exact valid t₀ (sound.wellFormed.task?_iff.mpr ⟨mem₀, here.1⟩)
    · exact sound.valid t₀ mem₀
  have stored {taskId : Uuid} (t : AgentTask Output) (row : s.tables.task? taskId = some t) :=
    sound.valid t (Table.lookup_mem row)
  cases perform_taskStep schemas.toAgentOutputs o env s.tables with
  | same tasks =>
    rw [tasks]
    exact sound.valid
  | created _ _ _ _ blank tasks =>
    rw [tasks]
    intro t mem output held
    obtain mem | mem := List.mem_append.mp mem
    · exact sound.valid t mem output held
    · rw [List.mem_singleton.mp mem, blank.2] at held
      cases held
  | started _ _ _ tasks =>
    rw [tasks]
    exact updated stored
  | completed made _ _ tasks =>
    rw [tasks]
    refine updated fun t row output held => ?_
    cases held
    exact completes _ made t row
  | failed _ _ _ tasks =>
    rw [tasks]
    exact updated stored
  | purged _ _ tasks =>
    rw [tasks]
    intro t mem output held
    obtain ⟨t₀, mem₀, rfl⟩ := List.mem_map.mp mem
    split at held
    · cases held
    · rename_i other
      rw [if_neg other]
      exact sound.valid t₀ mem₀ output held

/-- A watch that is live after a transaction was live before. -/
lemma live_transact
    (kept : ∀ {runId agent output}, Persisted s.tables runId agent output →
      Persisted (perform schemas.toAgentOutputs o env s.tables).2 runId agent output)
    (live : Watch.Live (s.transact o env).2 x) : Watch.Live s x := by
  refine ⟨?_, ?_⟩
  · intro t mem
    obtain same | ⟨_, _, _, _, _, _, tasks⟩ :=
      (perform_taskStep schemas.toAgentOutputs o env s.tables).places
    · have place : t.place ∈ s.tables.tasks.map AgentTask.place := List.mem_map_of_mem mem
      rw [← same] at place
      obtain ⟨t', mem', e⟩ := List.mem_map.mp place
      have id : t'.id = t.id := congrArg Prod.fst e
      have run : t'.runId = t.runId := congrArg (fun place => place.2.1) e
      have agent : t'.agentName = t.agentName := congrArg (fun place => place.2.2.1) e
      rw [← id, ← run, ← agent]
      exact live.1 t' mem'
    · refine live.1 t ?_
      show t ∈ (perform schemas.toAgentOutputs o env s.tables).2.tasks
      rw [tasks]
      exact List.mem_append_left _ mem
  · intro runId agent output target persisted
    exact live.2 runId agent output target (kept persisted)

/-- The answer to `prepareTask` is about the task of the run and agent it names. -/
lemma prepareTask_answered (sound : OutputsSound s) {input : PrepareTaskInput}
    (ordinal : input.ordinal = taskOrdinal input.agentName) {record : WorkerTaskRecord Output}
    (live : Watch.Live (s.transact (.prepareTask input) env).2 x)
    (answered : (perform schemas.toAgentOutputs (.prepareTask input) env s.tables).1 =
      .ok (.ok record)) :
    x.slot record.id = (input.runId, input.agentName) ∧ x.AvoidsRecord schemas record := by
  obtain ⟨e, -⟩ := perform_answered answered
  have slot := live.1
  have fresh := live.2
  simp only [Platform.transact, Platform.record] at slot fresh
  generalize (perform schemas.toAgentOutputs (.prepareTask input) env s.tables).2 = tables at *
  obtain ⟨stopped, -⟩ | ⟨-, ⟨task, found, same, tasks⟩ |
    ⟨task, -, -, ⟨run, agent, -⟩, blank, same, tasks⟩⟩ := ensureTask_cases e
  · cases stopped
  · cases same
    rw [ordinal] at found
    obtain ⟨mem, run, agent⟩ := sound.wellFormed.taskAt_iff.mp found
    rw [tasks] at slot
    have here : x.slot task.id = (task.runId, task.agentName) := slot task mem
    rw [run, agent] at here
    refine ⟨here, ?_⟩
    intro done output stored
    refine ⟨?_, ?_⟩
    · show schemas.parse (x.slot task.id).2 output = some output
      rw [here, ← agent]
      exact sound.valid task mem output stored
    · intro target
      refine fresh _ _ _ target ⟨task, tasks ▸ mem, ?_, ?_, done, .inl stored⟩
      · exact run.trans (congrArg Prod.fst here).symm
      · exact agent.trans (congrArg Prod.snd here).symm
  · cases same
    have mem : task ∈ tables.tasks := by rw [tasks]; simp
    refine ⟨?_, ?_⟩
    · rw [← run, ← agent]
      exact slot task mem
    · intro done
      have pending : task.status = .completed := done
      rw [blank.1] at pending
      cases pending

/-- The answer to `startTask` is about the task it names. -/
lemma startTask_answered (sound : OutputsSound s) {runId taskId : Uuid} {version : Nat} {now : Date}
    {record : WorkerTaskRecord Output}
    (live : Watch.Live (s.transact (.startTask runId version taskId now) env).2 x)
    (answered : (perform schemas.toAgentOutputs (.startTask runId version taskId now) env
      s.tables).1 = .ok (.ok record)) :
    record.id = taskId ∧ x.AvoidsRecord schemas record := by
  obtain ⟨e, -⟩ := perform_answered answered
  have slot := live.1
  have fresh := live.2
  simp only [Platform.transact, Platform.record] at slot fresh
  generalize (perform schemas.toAgentOutputs (.startTask runId version taskId now) env
    s.tables).2 = tables at *
  obtain ⟨stopped, -⟩ | ⟨-, task, row, ⟨done, same, tasks⟩ | ⟨-, same, -⟩⟩ := startTask_cases e
  · cases stopped
  · cases same
    obtain ⟨mem, id⟩ := sound.wellFormed.task?_iff.mp row
    rw [tasks] at slot
    have here : x.slot task.id = (task.runId, task.agentName) := slot task mem
    refine ⟨id, ?_⟩
    intro _ output stored
    show schemas.parse (x.slot task.id).2 output = some output ∧
      x.target ≠ some ((x.slot task.id).1, (x.slot task.id).2, output)
    rw [here]
    refine ⟨sound.valid task mem output stored, ?_⟩
    intro target
    exact fresh _ _ _ target ⟨task, tasks ▸ mem, rfl, rfl, done, .inl stored⟩
  · cases same
    refine ⟨(sound.wellFormed.task?_iff.mp row).2, ?_⟩
    intro running
    cases running

/-- After `completeTask` was answered the output is persisted. -/
lemma completeTask_answered (sound : OutputsSound s) {input : CompleteTaskInput Output}
    {record : WorkerTaskRecord Output}
    (live : Watch.Live (s.transact (.completeTask input) env).2 x)
    (allowed : env.fate = .commits →
      s.tables.owns input.runId (isAt .running input.expectedControlVersion) = true →
      ∀ t, s.tables.task? input.taskId = some t → t.status = .completed →
        t.output = some input.output)
    (answered : (perform schemas.toAgentOutputs (.completeTask input) env s.tables).1 =
      .ok (.ok record)) :
    x.target ≠ some ((x.slot input.taskId).1, (x.slot input.taskId).2, input.output) := by
  obtain ⟨e, fate⟩ := perform_answered answered
  have slot := live.1
  have fresh := live.2
  simp only [Platform.transact, Platform.record] at slot fresh
  generalize (perform schemas.toAgentOutputs (.completeTask input) env s.tables).2 = tables at *
  obtain ⟨refused, -⟩ | ⟨active, task, row, outcome⟩ := completeTask_tasks e
  · exact absurd rfl (refused record)
  obtain ⟨mem, id⟩ := sound.wellFormed.task?_iff.mp row
  -- in both cases the row of the task now holds the output
  have holds : ∃ t ∈ tables.tasks, t.id = input.taskId ∧ t.status = .completed ∧
      t.output = some input.output := by
    obtain ⟨done, tasks⟩ | ⟨-, tasks⟩ := outcome
    · exact ⟨task, tasks ▸ mem, id, done, allowed fate active task row done⟩
    · refine ⟨task.completed input.output input.now, ?_, id, rfl, rfl⟩
      rw [tasks]
      exact Table.mem_update_self mem id rfl
  obtain ⟨t, mem', id', done, stored⟩ := holds
  have here : x.slot t.id = (t.runId, t.agentName) := slot t mem'
  rw [← id', here]
  intro target
  exact fresh _ _ _ target ⟨t, mem', rfl, rfl, done, .inl stored⟩

/-- A transaction in which all live promises are kept is answered as the live watches assume. -/
lemma transact_upholds (sound : OutputsSound s)
    (promised : ∀ x : Watch Output, x.Live s → (taskContract schemas x).requires (.store o))
    (allowed : (WorkerCall.store o).KeepsOutputs s env) :
    OutputsSound (s.transact o env).2 ∧ ∀ x : Watch Output, x.Live (s.transact o env).2 →
      x.Live s ∧ (taskContract schemas x).ensures (.store o)
        ((s.transact o env).1.mapError Failure.thrown) := by
  obtain ⟨slot, live⟩ := exists_live sound
  have blank : Watch.Live s ⟨slot, none⟩ := live none fun _ _ _ target => by cases target
  have unharmed : ∀ runId version taskId error now,
      o = .failTask runId version taskId error now → env.TakesEffect →
      s.tables.owns runId (isAt .running version) = true →
      ∀ t, s.tables.task? taskId = some t → t.status ≠ .completed := by
    rintro runId version taskId error now rfl
    exact allowed
  have kept {runId agent output} (persisted : Persisted s.tables runId agent output) :
      Persisted (perform schemas.toAgentOutputs o env s.tables).2 runId agent output :=
    persisted_transact sound unharmed persisted
  have ordinal : ∀ input, o = .prepareTask input ∨ o = .skipTask input →
      input.ordinal = taskOrdinal input.agentName := by
    rintro input (rfl | rfl)
    · exact promised _ blank
    · exact promised _ blank
  refine ⟨⟨?wellFormed, ?valid, ?saved⟩, ?_⟩
  case wellFormed => exact (perform_taskStep ..).wellFormed sound.wellFormed ordinal
  case valid =>
    refine valid_transact sound ?_
    rintro input rfl t row
    have valid := promised _ blank
    obtain ⟨mem, id⟩ := sound.wellFormed.task?_iff.mp row
    have here : slot input.taskId = (t.runId, t.agentName) := id ▸ blank.1 t mem
    have agent : (slot input.taskId).2 = t.agentName := congrArg Prod.snd here
    exact agent ▸ valid
  case saved => exact fun runId agent output held => kept (sound.saved runId agent output held)
  intro x live
  refine ⟨live_transact kept live, ?_⟩
  show (taskContract schemas x).ensures (.store o)
    ((perform schemas.toAgentOutputs o env s.tables).1.mapError Failure.thrown)
  cases o with
  | prepareTask input =>
    cases answered : (perform schemas.toAgentOutputs (.prepareTask input) env s.tables).1 with
    | error error => trivial
    | ok result =>
      cases result with
      | stopped => trivial
      | ok record => exact prepareTask_answered sound (ordinal input (.inl rfl)) live answered
  | startTask runId version taskId now =>
    cases answered : (perform schemas.toAgentOutputs (.startTask runId version taskId now) env
      s.tables).1 with
    | error error => trivial
    | ok result =>
      cases result with
      | stopped => trivial
      | ok record => exact startTask_answered sound live answered
  | completeTask input =>
    cases answered : (perform schemas.toAgentOutputs (.completeTask input) env s.tables).1 with
    | error error => trivial
    | ok result =>
      cases result with
      | stopped => trivial
      | fileConflict conflict => trivial
      | ok record =>
        exact completeTask_answered sound live allowed answered
  | _ => trivial

/-- What is saved at the end of a node is persisted, for no watch that is live would allow it
    otherwise. -/
lemma endNode_sound (sound : OutputsSound s) {node : RunNode} {state : RunState schemas}
    {update : RunUpdate schemas} (env' : WorkerEnvironment schemas)
    (promised : ∀ x : Watch Output, x.Live s → x.Avoids state.runId (state.apply update).outputs) :
    OutputsSound (s.endNode options node state update env').2 := by
  obtain ⟨slot, live⟩ := exists_live sound
  have persisted (agent : AgentName) (output : schemas.Valid agent)
      (held : (state.apply update).outputs agent = some output) :
      Persisted s.tables state.runId agent output.val := by
    by_contra fresh
    refine promised ⟨slot, some (state.runId, agent, output.val)⟩ (live _ ?_) agent output held rfl
    rintro _ _ _ ⟨⟩
    exact fresh
  have recorded : OutputsSound (s.record [.ended node state update]) :=
    ⟨sound.wellFormed, sound.valid, sound.saved⟩
  unfold Platform.endNode
  dsimp only
  split
  · split
    · refine ⟨sound.wellFormed, sound.valid, ?_⟩
      intro runId agent output held
      simp only [Platform.save, Function.update_apply] at held
      split at held
      · rename_i here
        subst here
        exact persisted agent output held
      · exact sound.saved runId agent output held
    · exact recorded
  · exact recorded

/-- The store of the run subsystem upholds the contracts in steps that keep outputs. -/
lemma runSystem_upholds :
    System.Upholds (runSystem schemas options references)
      (fun (x : Watch Output) _ => taskContract schemas x) OutputsSound Watch.Live
      (fun _ c env s => c.KeepsOutputs s env.transaction) := by
  constructor
  · intro i activity c env s sound promised allowed
    cases c with
    | store o => exact transact_upholds sound promised allowed
    | endNode node state update =>
      refine ⟨endNode_sound sound env promised, ?_⟩
      intro x live
      refine ⟨?_, trivial⟩
      have tables : (s.endNode options node state update env).2.tables = s.tables := by
        unfold Platform.endNode
        dsimp only
        split
        · split <;> rfl
        · rfl
      unfold Watch.Live at live ⊢
      rw [← tables]
      exact live
    | loadThread runId =>
      refine ⟨sound, fun x live => ⟨live, ?_⟩⟩
      cases failure : env.failure with
      | some error =>
        show (taskContract schemas x).ensures (.loadThread runId) (env.answer _)
        simp only [WorkerEnvironment.answer, failure]
        trivial
      | none =>
        show (taskContract schemas x).ensures (.loadThread runId) (env.answer _)
        simp only [WorkerEnvironment.answer, failure]
        intro agent output held target
        exact live.2 _ _ _ target (sound.saved runId agent output held)
    | validate run attempt =>
      exact ⟨⟨sound.wellFormed, sound.valid, sound.saved⟩, fun x live => ⟨live, trivial⟩⟩
    | _ => exact ⟨sound, fun x live => ⟨live, trivial⟩⟩
  · intro s activity sound admitted x live
    cases activity with
    | delivery job attempt =>
      exact (Yields.bind (Q := fun _ => True) (process_yields job attempt) fun _ _ =>
        .pure trivial).meets
    | request operation =>
      have others : (taskContract schemas x).requires (.store operation) := by
        cases operation with
        | prepareTask | skipTask | completeTask => cases admitted
        | _ => trivial
      exact (Yields.step (Q := fun _ => True) others fun _ _ => .pure trivial).meets

end Store

section Runs
variable {options : RunProcessorOptions} {references : Uuid → List AgentReferenceAttachment}
  {c c' c₀ : RunConfig schemas}

/-- The guard of runs whose steps keep outputs. -/
def KeepingOutputs (c : RunConfig schemas) : (runSystem schemas options references).Label → Prop
  | .act _ call env => call.KeepsOutputs c.store env.transaction
  | .spawn _ => True

instance [DecidableEq Output] (c : RunConfig schemas)
    (l : (runSystem schemas options references).Label) : Decidable (KeepingOutputs c l) :=
  match l with
  | .act _ call env => inferInstanceAs (Decidable (call.KeepsOutputs c.store env.transaction))
  | .spawn _ => inferInstanceAs (Decidable True)

/-- Runs whose steps keep outputs stay sound. -/
lemma outputs_sound (starts : Starts c₀)
    (run : (runSystem schemas options references).Reaches KeepingOutputs c₀ c) :
    System.Sound (fun (x : Watch Output) _ => taskContract schemas x) OutputsSound Watch.Live c := by
  refine runSystem_upholds.sound_reaches (fun guard => guard) ?_ run
  obtain ⟨s, threads⟩ := c₀
  obtain rfl : threads = [] := starts.threads
  have tasks : s.tables.tasks = [] := starts.tasks
  apply System.Sound.start
  refine ⟨?_, ?_, ?_⟩
  · rw [tasks]
    exact ⟨List.nodup_nil, List.nodup_nil, fun _ mem => absurd mem List.not_mem_nil⟩
  · rw [tasks]
    exact fun _ mem => absurd mem List.not_mem_nil
  · intro runId agent output held
    have blank : s.saved runId = RunOutputs.none := starts.saved runId
    rw [blank] at held
    cases held

/-- One step keeps a completed task, or purges it. -/
lemma step_keeps_completed (sound : OutputsSound c.store)
    {l : (runSystem schemas options references).Label} (guard : KeepingOutputs c l)
    (step : (runSystem schemas options references).Step c l c') {t : AgentTask Output}
    (mem : t ∈ c.store.tables.tasks) (done : t.status = .completed) :
    t ∈ c'.store.tables.tasks ∨
      t.wiped ∈ c'.store.tables.tasks ∧ c'.store.tables.purged t.runId = true := by
  cases step with
  | spawn _ => exact .inl mem
  | @act i tag call k env at_i =>
    show t ∈ (call.perform options references env c.store).2.tables.tasks ∨
      t.wiped ∈ (call.perform options references env c.store).2.tables.tasks ∧
        (call.perform options references env c.store).2.tables.purged t.runId = true
    obtain same | ⟨o, rfl, changed⟩ :=
      perform_tables options references call env c.store
    · rw [same]
      exact .inl mem
    rw [changed]
    by_cases effect : env.transaction.TakesEffect
    · refine (perform_taskStep ..).keeps_completed sound.wellFormed mem done ?_
      rintro runId version taskId error now rfl active rfl
      exact guard effect active t (sound.wellFormed.task?_iff.mpr ⟨mem, rfl⟩) done
    · rw [perform_aborted effect]
      exact .inl mem

/-- In every run whose steps keep outputs, with any deliveries of any jobs and any other transactions
    interleaved in any way, a completed task never changes again until its run is purged, and the
    outputs that an execution passes to an agent, in the graph or in a repair, are the persisted
    ones. -/
theorem completed_tasks_absorbing (starts : Starts c₀)
    (run : (runSystem schemas options references).Reaches KeepingOutputs c₀ c) :
    (∀ c', (runSystem schemas options references).Reaches KeepingOutputs c c' →
      ∀ t ∈ c.store.tables.tasks, t.status = .completed →
        t ∈ c'.store.tables.tasks ∨
          t.wiped ∈ c'.store.tables.tasks ∧ c'.store.tables.purged t.runId = true) ∧
    ∀ (i : Nat) activity (request : AgentExecutionRequest schemas) k,
      c.threads[i]? = some ⟨activity, .call (.execute request) k⟩ →
      ∀ agent output, request.upstreamOutputs agent = some output →
        Persisted c.store.tables request.runId agent output.val := by
  have sound := outputs_sound starts run
  refine ⟨?_, ?_⟩
  · intro c' later t mem done
    induction later with
    | refl => exact .inl mem
    | @tail b c' earlier st ih =>
      obtain ⟨l, guard, step⟩ := st
      have sound' := (outputs_sound starts (run.trans earlier)).store
      obtain kept | ⟨wiped, purged⟩ := ih
      · exact step_keeps_completed sound' guard step kept done
      · -- a purged task is completed too, and purging it again changes nothing
        obtain kept | twice := step_keeps_completed sound' guard step wiped done
        · refine .inr ⟨kept, ?_⟩
          cases step with
          | spawn _ => exact purged
          | @act i tag call k env at_i =>
            show (call.perform options references env b.store).2.tables.purged t.runId = true
            obtain same | ⟨o, rfl, changed⟩ :=
              perform_tables options references call env b.store
            · rw [same]
              exact purged
            · rw [changed]
              exact perform_purged _ _ purged
        · exact .inr twice
  · intro i activity request k at_i agent output held
    by_contra fresh
    obtain ⟨slot, live⟩ := exists_live sound.store
    have watch : Watch.Live c.store ⟨slot, some (request.runId, agent, output.val)⟩ := by
      refine live _ ?_
      rintro _ _ _ ⟨⟩
      exact fresh
    exact sound.requires at_i watch agent output held rfl

end Runs

section Scenario

/-- The run subsystem of the scenarios, without optional collaborators. -/
abbrev plainSystem : System (WorkerCall (plainSchemas false 0)) (fun c => Except Thrown c.Answer)
    (Platform (plainSchemas false 0)) (Activity Unit) (Except Thrown Unit) :=
  runSystem (plainSchemas false 0) {} fun _ => []

/-- The first job of the run is delivered. -/
def firstDelivery : plainSystem.Move :=
  .spawn (.delivery ⟨1, .start, 0, none, none⟩ ⟨1, 1⟩)

/-- A thread makes `n` calls that go well; `id` is generated. -/
def goesOn (thread n : Nat) (id : Uuid) : List plainSystem.Move :=
  List.replicate n (.act thread (smoothly id))

/-- Two deliveries of the first job start Sophia's task; the first completes it. -/
def sophiaCompleted : List plainSystem.Move :=
  [firstDelivery, firstDelivery] ++ goesOn 0 10 11 ++ goesOn 1 8 12 ++ [.act 1 throwing] ++
    goesOn 0 1 11

/-- The second delivery reports that its own execution of Sophia failed. -/
def sophiaReopened : List plainSystem.Move :=
  goesOn 1 2 12

/-- A first delivery completes Sophia's task and is abandoned; the job is delivered again. -/
def sophiaRestored : List plainSystem.Move × List plainSystem.Move :=
  (firstDelivery :: goesOn 0 11 11, firstDelivery :: goesOn 1 12 12)

/-- The request of the second delivery is for its run, and has Sophia's output. -/
def isRestored (c : RunConfig (plainSchemas false 0)) : Bool :=
  match System.pending c 1 with
  | some (.execute request) => decide (request.runId = 1) && (request.upstreamOutputs .sophia).isSome
  | _ => false

lemma sophiaRestored_runs : ∃ c c' : RunConfig (plainSchemas false 0),
    plainSystem.Reaches KeepingOutputs pendingPlatform c ∧
    plainSystem.Reaches KeepingOutputs c c' ∧
    (∃ t ∈ c.store.tables.tasks, t.status = .completed) ∧
    ∃ request, System.pending c' 1 = some (.execute request) ∧
      request.runId = 1 ∧ (request.upstreamOutputs .sophia).isSome = true := by
  have run : ((System.executeUnder (S := plainSystem) KeepingOutputs pendingPlatform
      sophiaRestored.1).any fun c =>
        (c.store.tables.tasks.any fun t => decide (t.status = .completed)) &&
          (System.executeUnder (S := plainSystem) KeepingOutputs c sophiaRestored.2).any isRestored) =
      true := by
    decide
  obtain ⟨c, e, run⟩ := (Option.any_eq_true _ _).mp run
  obtain ⟨done, run⟩ := Bool.and_eq_true_iff.mp run
  obtain ⟨c', e', run⟩ := (Option.any_eq_true _ _).mp run
  obtain ⟨t, mem, done⟩ := List.any_eq_true.mp done
  unfold isRestored at run
  split at run
  · rename_i request at_1
    obtain ⟨here, held⟩ := Bool.and_eq_true_iff.mp run
    exact ⟨c, c', System.executeUnder_reaches e, System.executeUnder_reaches e',
      ⟨t, mem, of_decide_eq_true done⟩, request, at_1, of_decide_eq_true here, held⟩
  · cases run

/-- `completed_tasks_absorbing` when a job is delivered again after its first task. -/
theorem completed_tasks_absorbing_restored : ∃ c c' : RunConfig (plainSchemas false 0),
    plainSystem.Reaches KeepingOutputs pendingPlatform c ∧
    plainSystem.Reaches KeepingOutputs c c' ∧
    (∃ t ∈ c.store.tables.tasks, t.status = .completed ∧ (t ∈ c'.store.tables.tasks ∨
      t.wiped ∈ c'.store.tables.tasks ∧ c'.store.tables.purged t.runId = true)) ∧
    Persisted c'.store.tables 1 .sophia () := by
  obtain ⟨c, c', first, second, ⟨t, mem, done⟩, request, at_1, here, held⟩ := sophiaRestored_runs
  refine ⟨c, c', first, second, ⟨t, mem, done, ?_⟩, ?_⟩
  · exact (completed_tasks_absorbing pendingPlatform_starts first).1 c' second t mem done
  · obtain ⟨output, held⟩ := Option.isSome_iff_exists.mp held
    simp only [System.pending] at at_1
    split at at_1
    · rename_i activity call k thread
      cases at_1
      have kept := (completed_tasks_absorbing pendingPlatform_starts (first.trans second)).2
        1 activity request k thread .sophia output held
      rw [here] at kept
      exact kept
    · cases at_1

/-- Without the guard a completed task can be reopened, by an execution of the same job that lost the
    race. -/
theorem completed_task_reopened : ¬ ∀ c₀ c c' : RunConfig (plainSchemas false 0),
    Starts c₀ → plainSystem.Reaches plainSystem.Unguarded c₀ c →
    plainSystem.Reaches plainSystem.Unguarded c c' →
    ∀ t ∈ c.store.tables.tasks, t.status = .completed →
      t ∈ c'.store.tables.tasks ∨
        t.wiped ∈ c'.store.tables.tasks ∧ c'.store.tables.purged t.runId = true := by
  intro absorbing
  have run : ((plainSystem.execute pendingPlatform sophiaCompleted).any fun c =>
      (c.store.tables.tasks.any fun t => decide (t.status = .completed)) &&
        (plainSystem.execute c sophiaReopened).any fun c' =>
          c'.store.tables.tasks.all fun t => decide (t.status ≠ .completed)) = true := by
    decide
  obtain ⟨c, e, run⟩ := (Option.any_eq_true _ _).mp run
  obtain ⟨done, run⟩ := Bool.and_eq_true_iff.mp run
  obtain ⟨c', e', reopened⟩ := (Option.any_eq_true _ _).mp run
  obtain ⟨t, mem, done⟩ := List.any_eq_true.mp done
  have done : t.status = .completed := of_decide_eq_true done
  have open_ (t' : AgentTask Unit) (mem' : t' ∈ c'.store.tables.tasks) : t'.status ≠ .completed :=
    of_decide_eq_true (List.all_eq_true.mp reopened t' mem')
  obtain kept | ⟨wiped, -⟩ := absorbing _ c c' pendingPlatform_starts (System.execute_reaches e)
    (System.execute_reaches e') t mem done
  · exact open_ t kept done
  · exact open_ t.wiped wiped done

end Scenario

end AtomsPlatform.Run
