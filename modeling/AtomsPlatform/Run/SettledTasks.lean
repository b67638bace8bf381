import AtomsPlatform.Lib.RelyGuarantee
import AtomsPlatform.Run.Calls
import AtomsPlatform.Run.Interference

/-!
# Tasks of completed runs

A run is completed by a job that went through the whole graph, so every agent should be done with: its
task is completed with the output that the graph carries, or skipped while the graph carries none.
Whether an agent is skipped is decided anew in every job, and `skipTask` leaves the task that an earlier
job began as it is, be it open, failed or completed, although the graph then carries nothing of it. As
long as that does not happen, a completed run has settled tasks.

The jobs of a run follow one another. An execution that crashed is a thread that acts no more once the
next job of its run is delivered, which is what it means here to be retired.
-/

namespace AtomsPlatform.Run
open Interleaving
variable {Output : Type} {schemas : AgentOutputSchemas Output}

/-- An agent is done with: it has one task, which is completed with the output that the graph carries, or
    skipped while the graph carries none. -/
def TaskSettled (tables : RunStore Output) (runId : Uuid) (agent : AgentName)
    (carried : Option (schemas.Valid agent)) : Prop :=
  ∃ task, (tables.tasks.filter fun t => t.runId = runId ∧ t.agentName = agent) = [task] ∧
    ((∃ output, task.status = .completed ∧ task.output = some output.val ∧
        carried = some output) ∨
      task.status = .skipped ∧ carried = none)

/-- The tasks of a run agree with what the graph carried at its end, in the job that holds the run under
    the control version. -/
structure Platform.Settled (s : Platform schemas) (runId : Uuid) (version : Nat) : Prop where
  agents : ∃ state update, s.lastEnded runId = some (.contentApproval, state, update) ∧
    state.controlVersion = version ∧
    ∀ agent, TaskSettled s.tables runId agent ((state.apply update).outputs agent)
  rows : ∀ t ∈ s.tables.tasks, t.runId = runId → t.status = .completed ∨ t.status = .skipped

/-- A later job of the same run. -/
def supersedes : Activity Output → Activity Output → Prop
  | .delivery later _, .delivery job _ => later.runId = job.runId
  | _, _ => False

instance (later job : Activity Output) : Decidable (supersedes later job) := by
  cases later <;> cases job <;> unfold supersedes <;> infer_instance

/-- The agent that is skipped has no task of an earlier job, or was skipped there too, or its output is
    among those saved for the thread of the run. -/
def WorkerCall.SkipsUnbegun (s : Platform schemas) (env : Environment) : WorkerCall schemas → Prop
  | .store (.skipTask input) =>
    env.TakesEffect → s.tables.owns input.runId (isAt .running input.expectedControlVersion) = true →
      ∀ t ∈ s.tables.taskAt input.runId input.ordinal,
        t.status = .skipped ∨ (s.saved input.runId input.agentName).isSome = true
  | _ => True

instance (s : Platform schemas) (env : Environment) (call : WorkerCall schemas) :
    Decidable (call.SkipsUnbegun s env) := by
  unfold WorkerCall.SkipsUnbegun
  split <;> infer_instance

section Guards
variable {options : RunProcessorOptions} {references : Uuid → List AgentReferenceAttachment}

/-- The jobs of a run follow one another: only the last one that was delivered acts. -/
def InSequence (c : RunConfig schemas) : (runSystem schemas options references).Label → Prop
  | .act i _ _ => ¬ Retired supersedes c i
  | .spawn _ => True

/-- The jobs of a run follow one another, and no agent is skipped whose task an earlier one began. -/
def SkippingUnbegun (c : RunConfig schemas) :
    (runSystem schemas options references).Label → Prop
  | .act i call env => ¬ Retired supersedes c i ∧ call.SkipsUnbegun c.store env.transaction
  | .spawn _ => True

instance (c : RunConfig schemas) (l : (runSystem schemas options references).Label) :
    Decidable (InSequence c l) := by
  unfold InSequence
  split <;> infer_instance

instance (c : RunConfig schemas) (l : (runSystem schemas options references).Label) :
    Decidable (SkippingUnbegun c l) := by
  unfold SkippingUnbegun
  split <;> infer_instance

end Guards

/-- What holds at all times: only cancelled runs are purged, and nothing is saved without a
    checkpointer. -/
structure Consistent (options : RunProcessorOptions) (s : Platform schemas) : Prop
    extends OutputsSound s where
  cancels : PurgesCancelled s.tables
  unsaved : options.checkpointer = false → ∀ runId, s.saved runId = RunOutputs.none

/-- A task of an agent of a run. -/
def HasTask (tables : RunStore Output) (runId : Uuid) (agent : AgentName) (taskId : Uuid) : Prop :=
  ∃ t ∈ tables.tasks, t.id = taskId ∧ t.runId = runId ∧ t.agentName = agent

/-- What holds when a job makes a call: it acts on its own run, what it completes and saves is valid and
    persisted, it fails no task whose output is saved, and completes its run only with settled tasks. -/
def JobSafe (job : RunJob) : WorkerCall schemas → Platform schemas → Prop
  | .store (.claimRun claimed _), _ => claimed.runId = job.runId
  | .store (.prepareTask input), _ | .store (.skipTask input), _ =>
    input.ordinal = taskOrdinal input.agentName
  | .store (.startTask _ _ taskId _), s => ∃ agent, HasTask s.tables job.runId agent taskId
  | .store (.completeTask input), s =>
    ∃ agent, HasTask s.tables job.runId agent input.taskId ∧
      schemas.parse agent input.output = some input.output
  | .store (.failTask _ _ taskId _ _), s =>
    ∃ agent, HasTask s.tables job.runId agent taskId ∧ s.saved job.runId agent = none
  | .store (.completeRun runId version _), s =>
    s.tables.owns runId (isAt .running version) = true → s.Settled runId version
  | .endNode _ state update, s =>
    state.runId = job.runId ∧ ∀ agent output, (state.apply update).outputs agent = some output →
      Persisted s.tables state.runId agent output.val
  | _, _ => True

variable (schemas) in
/-- The conditions under which the jobs of a run are judged. -/
def settling (options : RunProcessorOptions) (references : Uuid → List AgentReferenceAttachment) :
    Regime (runSystem schemas options references) where
  inv := Consistent options
  rely
    | .delivery job _, _, s, s' => Undisturbed job.runId s s'
    | .request _, _, _, _ => True
  safe
    | .delivery job _, call, s => JobSafe job call s
    | .request _, call, _ => ∃ o : Operation Output, call = .store o ∧ o.byWorker = false
  allows _ call env s := call.SkipsUnbegun s (WorkerEnvironment.transaction env)

section Tasks
variable {s s' : Platform schemas} {o : Operation Output} {env : Environment} {runId taskId : Uuid}
  {agent agent' : AgentName} {t : AgentTask Output}

/-- The task of an agent is the only one. -/
lemma TasksWellFormed.filter_slot {tasks : List (AgentTask Output)} (wf : TasksWellFormed tasks)
    (mem : t ∈ tasks) :
    (tasks.filter fun t' => t'.runId = t.runId ∧ t'.agentName = t.agentName) = [t] := by
  refine Eq.trans ?_ (Table.filter_key wf.slots mem)
  refine List.filter_congr fun t' _ => ?_
  simp only [Prod.mk.injEq]

/-- A task has one place. -/
lemma HasTask.of_mem (has : HasTask s.tables runId agent taskId) (wf : TasksWellFormed s.tables.tasks)
    (mem : t ∈ s.tables.tasks) (id : t.id = taskId) : t.runId = runId ∧ t.agentName = agent := by
  obtain ⟨t', mem', id', run, name⟩ := has
  have same : t = t' := List.inj_on_of_nodup_map wf.ids mem mem' (id.trans id'.symm)
  rw [same]
  exact ⟨run, name⟩

/-- Tasks keep their place while others act. -/
lemma HasTask.undisturbed (has : HasTask s.tables runId agent taskId) {k : Uuid}
    (others : Undisturbed k s s') : HasTask s'.tables runId agent taskId := by
  obtain ⟨t, mem, id, run, name⟩ := has
  obtain ⟨t', mem', place⟩ := others.places t mem
  exact ⟨t', mem', (congrArg Prod.fst place).trans id,
    (congrArg (fun place => place.2.1) place).trans run,
    (congrArg (fun place => place.2.2.1) place).trans name⟩

lemma HasTask.transact (has : HasTask s.tables runId agent taskId) :
    HasTask (s.transact o env).2.tables runId agent taskId := by
  obtain ⟨t, mem, id, run, name⟩ := has
  obtain ⟨t', mem', place⟩ :=
    (perform_taskStep schemas.toAgentOutputs o env s.tables).place_kept mem
  exact ⟨t', mem', (congrArg Prod.fst place).trans id,
    (congrArg (fun place => place.2.1) place).trans run,
    (congrArg (fun place => place.2.2.1) place).trans name⟩

end Tasks

section Consistency
variable {options : RunProcessorOptions} {references : Uuid → List AgentReferenceAttachment}
  {s : Platform schemas} {o : Operation Output} {env : Environment}

/-- A transaction keeps the store consistent if it creates tasks under the ordinal of their agent,
    completes them with valid outputs and fails none whose output is saved. -/
lemma Consistent.transact (inv : Consistent options s)
    (ordinal : ∀ input, o = .prepareTask input ∨ o = .skipTask input →
      input.ordinal = taskOrdinal input.agentName)
    (completes : ∀ input, o = .completeTask input → ∀ t, s.tables.task? input.taskId = some t →
      schemas.parse t.agentName input.output = some input.output)
    (fails : ∀ runId version taskId error now, o = .failTask runId version taskId error now →
      ∀ t, s.tables.task? taskId = some t → s.saved t.runId t.agentName = none) :
    Consistent options (s.transact o env).2 where
  wellFormed := (perform_taskStep ..).wellFormed inv.wellFormed ordinal
  valid := valid_transact inv.toOutputsSound completes
  saved := by
    intro runId agent output held
    have held : s.saved runId agent = some output := held
    refine (inv.saved runId agent output held).perform inv.wellFormed _ env ?_
    rintro run version taskId error now made - t row - rfl rfl
    rw [fails run version taskId error now made t row] at held
    cases held
  cancels := inv.cancels.perform _ o env
  unsaved := inv.unsaved

/-- The end of a node keeps the store consistent if what is saved is persisted. -/
lemma Consistent.endNode (inv : Consistent options s) {node : RunNode} {state : RunState schemas}
    {update : RunUpdate schemas} {env : WorkerEnvironment schemas}
    (persisted : ∀ agent output, (state.apply update).outputs agent = some output →
      Persisted s.tables state.runId agent output.val) :
    Consistent options (s.endNode options node state update env).2 := by
  have tables : (s.endNode options node state update env).2.tables = s.tables :=
    Platform.endNode_tables
  refine ⟨⟨?_, ?_, ?_⟩, ?_, ?_⟩
  · rw [tables]
    exact inv.wellFormed
  · rw [tables]
    exact inv.valid
  · rw [tables]
    intro runId agent output held
    unfold Platform.endNode at held
    dsimp only at held
    split at held
    · split at held
      · simp only [Platform.save, Function.update_apply] at held
        split at held
        · rename_i here
          subst here
          exact persisted agent output held
        · exact inv.saved runId agent output held
      · exact inv.saved runId agent output held
    · exact inv.saved runId agent output held
  · rw [tables]
    exact inv.cancels
  · intro without
    unfold Platform.endNode
    simp only [without, Bool.false_eq_true, if_false]
    exact inv.unsaved without

/-- The calls of a job keep the store consistent. -/
lemma Consistent.perform (inv : Consistent options s) {job : RunJob} {c : WorkerCall schemas}
    {env : WorkerEnvironment schemas} (safe : JobSafe job c s) :
    Consistent options (c.perform options references env s).2 := by
  cases c with
  | store o =>
    refine inv.transact ?_ ?_ ?_
    · rintro input (rfl | rfl) <;> exact safe
    · rintro input rfl t row
      obtain ⟨agent, has, valid⟩ := safe
      obtain ⟨mem, id⟩ := inv.wellFormed.task?_iff.mp row
      rw [(has.of_mem inv.wellFormed mem id).2]
      exact valid
    · rintro runId version taskId error now rfl t row
      obtain ⟨agent, has, unsaved⟩ := safe
      obtain ⟨mem, id⟩ := inv.wellFormed.task?_iff.mp row
      obtain ⟨run, name⟩ := has.of_mem inv.wellFormed mem id
      rw [run, name]
      exact unsaved
  | endNode node state update => exact inv.endNode safe.2
  | validate run attempt => exact ⟨⟨inv.wellFormed, inv.valid, inv.saved⟩, inv.cancels, inv.unsaved⟩
  | _ => exact inv

/-- The transactions of others keep the store consistent. -/
lemma Consistent.perform_other (inv : Consistent options s) (other : o.byWorker = false) :
    Consistent options (s.transact o env).2 := by
  refine inv.transact ?_ ?_ ?_
  · rintro input (rfl | rfl) <;> cases other
  · rintro input rfl
    cases other
  · rintro runId version taskId error now rfl
    cases other

/-- A call of a job leaves other runs undisturbed. -/
lemma JobSafe.aside {job : RunJob} {c : WorkerCall schemas} (safe : JobSafe job c s)
    (wf : TasksWellFormed s.tables.tasks) {runId : Uuid} (other : job.runId ≠ runId) :
    c.Aside runId s := by
  have elsewhere {agent : AgentName} {taskId : Uuid} (has : HasTask s.tables job.runId agent taskId) :
      ∀ t ∈ s.tables.tasks, t.id = taskId → t.runId ≠ runId := by
    intro t mem id
    rw [(has.of_mem wf mem id).1]
    exact other
  cases c with
  | store o =>
    cases o with
    | claimRun claimed now =>
      show claimed.runId ≠ runId
      rw [show claimed.runId = job.runId from safe]
      exact other
    | startTask =>
      obtain ⟨agent, has⟩ := safe
      exact elsewhere has
    | completeTask | failTask =>
      obtain ⟨agent, has, -⟩ := safe
      exact elsewhere has
    | _ => trivial
  | endNode node state update =>
    show state.runId ≠ runId
    rw [safe.1]
    exact other
  | _ => trivial

/-- A transaction of others leaves every run undisturbed. -/
lemma aside_of_other (other : o.byWorker = false) (runId : Uuid) : o.Aside runId s.tables := by
  cases o with
  | claimRun | startTask | completeTask | failTask => cases other
  | _ => trivial

end Consistency

/-- Where a job is when some nodes are left: what the graph carries is persisted, what it will carry of
    the agents that are left is what is saved, and an agent of which it carries nothing was skipped. -/
structure Underway (left : List RunNode) (state : RunState schemas) (s : Platform schemas) : Prop where
  held : ∀ agent output, state.outputs agent = some output →
    Persisted s.tables state.runId agent output.val
  saved : ∀ agent, .agent agent ∈ left → state.outputs agent = s.saved state.runId agent
  skipped : s.tables.owns state.runId (isAt .running state.controlVersion) = true →
    ∀ agent, .agent agent ∉ left → state.outputs agent = none →
      ∃ t ∈ s.tables.tasks, t.runId = state.runId ∧ t.agentName = agent ∧ t.status = .skipped

/-- A task of the agent that a job is about to complete. -/
structure Executing (left : List RunNode) (state : RunState schemas) (agent : AgentName)
    (taskId : Uuid) (s : Platform schemas) : Prop extends Underway left state s where
  place : HasTask s.tables state.runId agent taskId
  begun : s.tables.owns state.runId (isAt .running state.controlVersion) = true →
    ∃ t ∈ s.tables.tasks, t.id = taskId ∧ t.runId = state.runId ∧ t.status ≠ .completed

/-- A task that a job may fail. -/
def Failing (state : RunState schemas) (agent : AgentName) (taskId : Uuid) (s : Platform schemas) :
    Prop :=
  HasTask s.tables state.runId agent taskId ∧ s.saved state.runId agent = none

/-- The output that a record of a completed task holds is the agent's, and persisted. -/
def Restorable (state : RunState schemas) (agent : AgentName) (record : WorkerTaskRecord Output)
    (s : Platform schemas) : Prop :=
  record.status = .completed → ∀ output, record.output = some output →
    schemas.parse agent output = some output ∧ Persisted s.tables state.runId agent output

/-- The last node of the graph returned, and left the state. -/
def Ended (last : Option RunNode) (state : RunState schemas) (s : Platform schemas) : Prop :=
  ∀ node, last = some node → ∃ before update,
    s.lastEnded state.runId = some (node, before, update) ∧ state = before.apply update

section Assertions
variable {options : RunProcessorOptions} {s s' : Platform schemas} {o : Operation Output}
  {env : Environment} {left nodes : List RunNode} {node : RunNode} {state : RunState schemas}
  {agent : AgentName} {taskId : Uuid}

lemma Underway.undisturbed (underway : Underway left state s)
    (others : Undisturbed state.runId s s') : Underway left state s' where
  held agent output held := others.persisted agent _ (underway.held agent output held)
  saved agent mem := by
    rw [others.saved]
    exact underway.saved agent mem
  skipped running agent done none := by
    obtain ⟨running, kept⟩ := others.running _ running
    obtain ⟨t, mem, run, name, skipped⟩ := underway.skipped running agent done none
    exact ⟨t, kept t mem run, run, name, skipped⟩

lemma Executing.undisturbed (executing : Executing left state agent taskId s)
    (others : Undisturbed state.runId s s') : Executing left state agent taskId s' where
  toUnderway := executing.toUnderway.undisturbed others
  place := executing.place.undisturbed others
  begun running := by
    obtain ⟨running, kept⟩ := others.running _ running
    obtain ⟨t, mem, id, run, open_⟩ := executing.begun running
    exact ⟨t, kept t mem run, id, run, open_⟩

lemma Failing.undisturbed (failing : Failing state agent taskId s)
    (others : Undisturbed state.runId s s') : Failing state agent taskId s' :=
  ⟨failing.1.undisturbed others, others.saved ▸ failing.2⟩

lemma Ended.undisturbed {last : Option RunNode} (ended : Ended last state s)
    (others : Undisturbed state.runId s s') : Ended last state s' := by
  intro node e
  obtain ⟨before, update, returned, same⟩ := ended node e
  exact ⟨before, update, others.ended.trans returned, same⟩

/-- A job's own transaction on the task of an agent that is left, other than a failure. -/
lemma Underway.transact (underway : Underway left state s) (inv : Consistent options s)
    (mem : .agent agent ∈ left)
    (own : ∀ taskId, o.taskId? = some taskId → HasTask s.tables state.runId agent taskId)
    (claims : ∀ job now, o ≠ .claimRun job now)
    (fails : ∀ runId version taskId error now, o ≠ .failTask runId version taskId error now) :
    Underway left state (s.transact o env).2 where
  held agent output held := by
    refine (underway.held agent output held).perform inv.wellFormed _ env ?_
    intro run version taskId error now made
    exact absurd made (fails run version taskId error now)
  saved := underway.saved
  skipped running agent' done none := by
    have running : (perform schemas.toAgentOutputs o env s.tables).2.owns state.runId
      (isAt .running state.controlVersion) = true := running
    have before := running_back _ (fun job now made => absurd made (claims job now)) running
    obtain ⟨t, stored, run, name, skipped⟩ := underway.skipped before agent' done none
    refine ⟨t, ?_, run, name, skipped⟩
    refine (perform_taskStep ..).row_kept stored (fun changes => ?_) ?_
    · -- the task is the one of another agent
      have same := ((own t.id changes).of_mem inv.wellFormed stored rfl).2
      rw [name] at same
      rw [same] at done
      exact done mem
    · rw [run]
      exact (inv.cancels.perform _ o env).unpurged running

/-- An agent that returned its output is done with. -/
lemma Underway.returned (underway : Underway (.agent agent :: nodes) state s)
    (fresh : .agent agent ∉ nodes) {output : schemas.Valid agent}
    (persisted : Persisted s.tables state.runId agent output.val) :
    Underway nodes (state.apply { outputs := RunOutputs.single agent output }) s where
  held agent' output' held := by
    have held : state.outputs.merge (RunOutputs.single agent output) agent' = some output' := held
    by_cases same : agent' = agent
    · subst same
      rw [RunOutputs.merge_single_self] at held
      cases held
      exact persisted
    · rw [RunOutputs.merge_single_ne same] at held
      exact underway.held agent' output' held
  saved agent' mem := by
    have ne : agent' ≠ agent := by
      rintro rfl
      exact fresh mem
    refine Eq.trans ?_ (underway.saved agent' (List.mem_cons_of_mem _ mem))
    exact RunOutputs.merge_single_ne ne
  skipped running agent' done none := by
    have none : state.outputs.merge (RunOutputs.single agent output) agent' = Option.none := none
    by_cases same : agent' = agent
    · subst same
      rw [RunOutputs.merge_single_self] at none
      cases none
    · rw [RunOutputs.merge_single_ne same] at none
      refine underway.skipped running agent' (fun mem => ?_) none
      obtain ⟨⟨⟩⟩ | mem := List.mem_cons.mp mem
      · exact same rfl
      · exact done mem

/-- An agent that was skipped is done with. -/
lemma Underway.skip (underway : Underway (.agent agent :: nodes) state s)
    (settles : state.outputs agent = none →
      ∃ t ∈ s.tables.tasks, t.runId = state.runId ∧ t.agentName = agent ∧ t.status = .skipped) :
    Underway nodes (state.apply {}) s where
  held := underway.held
  saved agent' mem := underway.saved agent' (List.mem_cons_of_mem _ mem)
  skipped running agent' done none := by
    by_cases same : agent' = agent
    · subst same
      exact settles none
    · refine underway.skipped running agent' (fun mem => ?_) none
      obtain ⟨⟨⟩⟩ | mem := List.mem_cons.mp mem
      · exact same rfl
      · exact done mem

/-- A gate that returns changes no outputs. -/
lemma Underway.passed (underway : Underway (node :: nodes) state s)
    (gate : ∀ agent, node ≠ .agent agent) {consumed : Option Bool} :
    Underway nodes (state.apply { approvalBypassConsumed := consumed }) s where
  held := underway.held
  saved agent mem := underway.saved agent (List.mem_cons_of_mem _ mem)
  skipped running agent done none := by
    refine underway.skipped running agent (fun mem => ?_) none
    obtain same | mem := List.mem_cons.mp mem
    · exact gate agent same.symm
    · exact done mem

/-- The end of a node leaves the job where it is. -/
lemma Underway.endNode {update : RunUpdate schemas} {env : WorkerEnvironment schemas}
    (underway : Underway nodes (state.apply update) s) :
    Underway nodes (state.apply update) (s.endNode options node state update env).2 ∧
      Ended (some node) (state.apply update) (s.endNode options node state update env).2 := by
  have tables : (s.endNode options node state update env).2.tables = s.tables :=
    Platform.endNode_tables
  refine ⟨⟨?_, ?_, ?_⟩, ?_⟩
  · rw [tables]
    exact underway.held
  · intro agent mem
    unfold Platform.endNode
    dsimp only
    split
    · split
      · exact (congrFun (Function.update_self ..) agent).symm
      · exact underway.saved agent mem
    · exact underway.saved agent mem
  · rw [tables]
    exact underway.skipped
  · rintro _ ⟨⟩
    refine ⟨state, update, ?_, rfl⟩
    have recorded : (s.record [.ended node state update]).lastEnded state.runId =
      some (node, state, update) := Platform.lastEnded_record_self
    unfold Platform.endNode
    dsimp only
    split
    · split <;> exact recorded
    · exact recorded

/-- When no node is left, the tasks are settled. -/
lemma Underway.settled (underway : Underway [] state s) (inv : Consistent options s)
    (ended : Ended (some .contentApproval) state s)
    (running : s.tables.owns state.runId (isAt .running state.controlVersion) = true) :
    s.Settled state.runId state.controlVersion := by
  have settled (agent : AgentName) :
      TaskSettled s.tables state.runId agent (state.outputs agent) := by
    cases carried : state.outputs agent with
    | some output =>
      obtain ⟨t, mem, run, rfl, done, stored⟩ := underway.held agent output carried
      refine ⟨t, run ▸ inv.wellFormed.filter_slot mem, .inl ⟨output, done, ?_, rfl⟩⟩
      refine stored.resolve_right ?_
      rintro ⟨-, purged⟩
      rw [inv.cancels.unpurged running] at purged
      cases purged
    | none =>
      obtain ⟨t, mem, run, rfl, skipped⟩ :=
        underway.skipped running agent List.not_mem_nil carried
      exact ⟨t, run ▸ inv.wellFormed.filter_slot mem, .inr ⟨skipped, rfl⟩⟩
  obtain ⟨before, update, returned, same⟩ := ended _ rfl
  refine ⟨⟨before, update, returned, ?_, ?_⟩, ?_⟩
  · rw [same]
    rfl
  · rw [← same]
    exact settled
  · intro t mem run
    obtain ⟨task, only, outcome⟩ := settled t.agentName
    have here : t ∈ [task] := by
      rw [← only]
      exact List.mem_filter.mpr ⟨mem, decide_eq_true ⟨run, rfl⟩⟩
    rw [List.mem_singleton.mp here]
    obtain ⟨output, done, -⟩ | ⟨skipped, -⟩ := outcome
    · exact .inl done
    · exact .inr skipped

/-- The task that `skipTask` is answered with is of an agent that is skipped, or of one whose output is
    saved. -/
lemma skipped_task {input : PrepareTaskInput} {record : WorkerTaskRecord Output}
    (wf : TasksWellFormed s.tables.tasks) (ordinal : input.ordinal = taskOrdinal input.agentName)
    (allowed : (.store (.skipTask input) : WorkerCall schemas).SkipsUnbegun s env)
    (e : transact schemas.toAgentOutputs env (.skipTask input) s.tables =
      .ok (.ok record, (s.transact (.skipTask input) env).2.tables)) (fate : env.fate = .commits)
    (unsaved : s.saved input.runId input.agentName = none) :
    ∃ t ∈ (s.transact (.skipTask input) env).2.tables.tasks, t.runId = input.runId ∧
      t.agentName = input.agentName ∧ t.status = .skipped := by
  have effect : env.TakesEffect := by
    intro error same
    rw [fate] at same
    cases same
  generalize (s.transact (.skipTask input) env).2.tables = tables at e ⊢
  obtain ⟨stopped, -⟩ | ⟨active, ⟨task, found, -, tasks⟩ |
    ⟨task, -, -, ⟨run, name, -⟩, blank, -, tasks⟩⟩ := ensureTask_cases e
  · cases stopped
  · have skipped := (allowed effect active task found).resolve_right (by simp [unsaved])
    rw [ordinal] at found
    obtain ⟨mem, run, name⟩ := wf.taskAt_iff.mp found
    exact ⟨task, tasks ▸ mem, run, name, skipped⟩
  · refine ⟨task, ?_, run, name, blank.1⟩
    rw [tasks]
    exact List.mem_append_right _ (List.mem_singleton_self _)

/-- The task that `prepareTask` is answered with. -/
lemma prepared_task {input : PrepareTaskInput} {record : WorkerTaskRecord Output}
    (inv : Consistent options s) (ordinal : input.ordinal = taskOrdinal input.agentName)
    (run : input.runId = state.runId)
    (e : transact schemas.toAgentOutputs env (.prepareTask input) s.tables =
      .ok (.ok record, (s.transact (.prepareTask input) env).2.tables)) :
    HasTask (s.transact (.prepareTask input) env).2.tables state.runId input.agentName record.id ∧
      Restorable state input.agentName record (s.transact (.prepareTask input) env).2 := by
  unfold Restorable
  generalize (s.transact (.prepareTask input) env).2.tables = tables at e ⊢
  obtain ⟨stopped, -⟩ | ⟨-, ⟨task, found, same, tasks⟩ |
    ⟨task, -, -, ⟨run', name, -⟩, blank, same, tasks⟩⟩ := ensureTask_cases e
  · cases stopped
  · cases same
    rw [ordinal] at found
    obtain ⟨mem, run', name⟩ := inv.wellFormed.taskAt_iff.mp found
    refine ⟨⟨task, tasks ▸ mem, rfl, run'.trans run, name⟩, ?_⟩
    intro done output stored
    refine ⟨name ▸ inv.valid task mem output stored, ?_⟩
    exact ⟨task, tasks ▸ mem, run'.trans run, name, done, .inl stored⟩
  · cases same
    refine ⟨⟨task, ?_, rfl, run'.trans run, name⟩, ?_⟩
    · rw [tasks]
      exact List.mem_append_right _ (List.mem_singleton_self _)
    · intro done
      have pending : task.status = .completed := done
      rw [blank.1] at pending
      cases pending

/-- The task that `startTask` is answered with: it is completed, or the graph carries nothing of its
    agent and the task was begun. -/
lemma started_task {version : Nat} {now : Date} {record : WorkerTaskRecord Output}
    (inv : Consistent options s) (underway : Underway (.agent agent :: nodes) state s)
    (has : HasTask s.tables state.runId agent taskId)
    (e : transact schemas.toAgentOutputs env (.startTask state.runId version taskId now) s.tables =
      .ok (.ok record, (s.transact (.startTask state.runId version taskId now) env).2.tables)) :
    Restorable state agent record (s.transact (.startTask state.runId version taskId now) env).2 ∧
      (record.status ≠ .completed → state.outputs agent = none ∧
        Executing (.agent agent :: nodes) state agent record.id
          (s.transact (.startTask state.runId version taskId now) env).2) := by
  have kept : Underway (.agent agent :: nodes) state
      (s.transact (.startTask state.runId version taskId now) env).2 := by
    refine underway.transact inv List.mem_cons_self ?_ (by simp) (by simp)
    rintro _ ⟨⟩
    exact has
  have place : HasTask (s.transact (.startTask state.runId version taskId now) env).2.tables
    state.runId agent taskId := has.transact
  obtain ⟨stopped, -⟩ | ⟨-, task, row, outcome⟩ := startTask_cases e
  · cases stopped
  obtain ⟨mem, id⟩ := inv.wellFormed.task?_iff.mp row
  obtain ⟨run, name⟩ := has.of_mem inv.wellFormed mem id
  obtain ⟨done, same, tasks⟩ | ⟨open_, same, tasks⟩ := outcome
  · cases same
    refine ⟨?_, fun open_ => absurd done open_⟩
    intro _ output stored
    refine ⟨name ▸ inv.valid task mem output stored, ?_⟩
    exact ⟨task, tasks ▸ mem, run, name, done, .inl stored⟩
  · cases same
    refine ⟨?_, fun _ => ⟨?_, kept, ?_, fun _ => ?_⟩⟩
    · intro done
      cases done
    · -- an output that the graph carries would be that of a completed task
      by_contra carried
      obtain ⟨output, carried⟩ := Option.ne_none_iff_exists'.mp carried
      obtain ⟨t, mem', run', name', done, -⟩ := underway.held agent output carried
      have same : t = task := List.inj_on_of_nodup_map inv.wellFormed.slots mem' mem
        (by rw [run, run', name, name'])
      rw [same] at done
      exact open_ done
    · show HasTask _ _ _ task.id
      rw [id]
      exact place
    · refine ⟨task.started now, ?_, rfl, run, by simp [AgentTask.started]⟩
      rw [tasks]
      exact Table.mem_update_self mem id rfl

end Assertions

section Program
variable {options : RunProcessorOptions} {references : Uuid → List AgentReferenceAttachment}
  {job : RunJob} {attempt : RunAttempt} {α : Type} {P : Platform schemas → Prop}
  {state : RunState schemas} {agent : AgentName} {nodes : List RunNode} {taskId : Uuid}

/-- Auxiliary calls keep what interference keeps. -/
lemma auxiliary_assures {p : WorkerProgram schemas α} {Q : α → Prop} (runId : Uuid)
    (outputs : RunOutputs schemas) (yields : Yields (auxiliary runId outputs) p Q)
    (stable : ∀ s s', Undisturbed job.runId s s' → P s → P s') :
    Assures (settling schemas options references) (.delivery job attempt) P p (fun _ => P)
      fun _ => P := by
  have harmless {c : WorkerCall schemas} (allowed : c.Auxiliary runId outputs)
      (s : Platform schemas) : JobSafe job c s ∧ c.Aside job.runId s := by
    cases c with
    | store o => cases o <;> first | exact ⟨trivial, trivial⟩ | cases allowed
    | endNode => cases allowed
    | _ => exact ⟨trivial, trivial⟩
  refine Triple.mono (Fulfils.assures yields ?_ ?_ ?_) (fun _ holds => holds)
    (fun _ _ holds => holds.2) fun _ _ holds => holds.2
  · exact fun _ others _ holds => stable _ _ others holds
  · exact fun allowed _ _ => (harmless allowed _).1
  · intro c s env allowed inv holds _
    refine ⟨stable _ _ ?_ holds, trivial⟩
    exact perform_undisturbed inv.wellFormed inv.cancels (harmless allowed s).2

/-- Auxiliary calls, where nothing is asked of errors. -/
lemma auxiliary_passes {p : WorkerProgram schemas α} {Q : α → Prop} (runId : Uuid)
    (outputs : RunOutputs schemas) (yields : Yields (auxiliary runId outputs) p Q)
    (stable : ∀ s s', Undisturbed job.runId s s' → P s → P s') :
    Assures (settling schemas options references) (.delivery job attempt) P p (fun _ => P)
      fun _ _ => True :=
  (auxiliary_assures runId outputs yields stable).mono (fun _ holds => holds)
    (fun _ _ holds => holds) fun _ _ _ => trivial

/-- The clock keeps what interference keeps. -/
lemma now_assures (stable : ∀ s s', Undisturbed job.runId s s' → P s → P s') :
    Assures (settling schemas options references) (.delivery job attempt) P (call .now) (fun _ => P)
      fun _ _ => True := by
  have yields : Yields (auxiliary job.runId (RunOutputs.none : RunOutputs schemas)) (call .now)
      fun _ => True := .call trivial fun _ _ => trivial
  exact auxiliary_passes _ _ yields stable

/-- The rule of transactions. -/
lemma store_assures {o : Operation Output} {Q : o.Answer → Platform schemas → Prop}
    {E : Platform schemas → Prop} (stable : ∀ s s', Undisturbed job.runId s s' → P s → P s')
    (safe : ∀ s, Consistent options s → P s → JobSafe job (.store o) s)
    (answer : ∀ s env a, Consistent options s → P s → (WorkerCall.store o).SkipsUnbegun s env →
      transact schemas.toAgentOutputs env o s.tables = .ok (a, (s.transact o env).2.tables) →
      env.fate = .commits → Q a (s.transact o env).2)
    (error : ∀ s env, Consistent options s → P s → E (s.transact o env).2) :
    Assures (settling schemas options references) (.delivery job attempt) P (call (.store o)) Q
      fun _ => E := by
  refine Assures.call (M := P) (fun s s' others _ holds => stable s s' others holds)
    (fun s inv holds => safe s inv holds) ?_
  intro s env inv holds allowed
  show Outcome _ _ ((perform schemas.toAgentOutputs o env.transaction s.tables).1.mapError
    Failure.thrown)
  cases answered : (perform schemas.toAgentOutputs o env.transaction s.tables).1 with
  | error failure => exact error s env.transaction inv holds
  | ok a =>
    obtain ⟨e, fate⟩ := perform_answered answered
    exact answer s env.transaction a inv holds allowed e fate

lemma compute_assures {result : Except Thrown α} :
    Assures (settling schemas options references) (.delivery job attempt) P (compute result)
      (fun _ => P) fun _ => P := by
  cases result with
  | error error => exact .throw fun _ holds => holds
  | ok a => exact .pure fun _ holds => holds

/-- A restored output is the persisted one. -/
lemma restoreOutput_settles {record : WorkerTaskRecord Output} (fresh : .agent agent ∉ nodes)
    (done : record.status = .completed) :
    Assures (settling schemas options references) (.delivery job attempt)
      (fun s => Underway (.agent agent :: nodes) state s ∧ Restorable state agent record s)
      (restoreOutput agent record) (fun update => Underway nodes (state.apply update))
      fun _ _ => True := by
  unfold restoreOutput
  split
  · exact .throw fun _ _ => trivial
  · rename_i restored accepted
    obtain ⟨output, stored, accepted⟩ := Option.bind_eq_some_iff.mp accepted
    refine .pure ?_
    rintro s ⟨underway, restorable⟩
    obtain ⟨valid, persisted⟩ := restorable done output stored
    have same := (accept_eq_some accepted).symm.trans valid
    refine underway.returned fresh ?_
    rw [Option.some.inj same]
    exact persisted

/-- The agent is executed and its task completed, or the task may be failed. -/
lemma executeTask_settles {projectType : ProjectType} (own : state.runId = job.runId)
    (fresh : .agent agent ∉ nodes) (blank : state.outputs agent = none) :
    Assures (settling schemas options references) (.delivery job attempt)
      (Executing (.agent agent :: nodes) state agent taskId)
      (executeTask options agent state state.outputs projectType taskId)
      (fun update => Underway nodes (state.apply update))
      fun _ => Failing state agent taskId := by
  have fails {s : Platform schemas} (executing : Executing (.agent agent :: nodes) state agent taskId s) :
      Failing state agent taskId s := by
    refine ⟨executing.place, ?_⟩
    rw [← executing.saved agent List.mem_cons_self, blank]
  have stable : ∀ s s', Undisturbed job.runId s s' →
      Executing (.agent agent :: nodes) state agent taskId s →
      Executing (.agent agent :: nodes) state agent taskId s' :=
    fun _ _ others executing => executing.undisturbed (own ▸ others)
  -- until the task is completed nothing is lost
  have keeps {β : Type} {p : WorkerProgram schemas β} {Q : β → Prop}
      (yields : Yields (auxiliary state.runId state.outputs) p Q) :
      Assures (settling schemas options references) (.delivery job attempt)
        (Executing (.agent agent :: nodes) state agent taskId) p
        (fun _ => Executing (.agent agent :: nodes) state agent taskId)
        fun _ => Failing state agent taskId :=
    (auxiliary_assures _ _ yields stable).mono (fun _ holds => holds) (fun _ _ holds => holds)
      fun _ _ => fails
  unfold executeTask
  refine .bind (keeps listCurrentFiles_auxiliary) fun currentFiles => ?_
  refine .bind (keeps loadReferences_auxiliary) fun referenceAttachments => ?_
  refine .bind (keeps (.call (Q := fun _ => True) ⟨rfl, rfl⟩ fun _ _ => trivial)) fun output => ?_
  refine .bind (compute_assures.mono (fun _ holds => holds) (fun _ _ holds => holds)
    fun _ _ => fails) fun _ => ?_
  refine .bind (keeps (.call (Q := fun _ => True) trivial fun _ _ => trivial)) fun now => ?_
  refine .bind (R := fun completed s =>
    (∀ record, completed = PatchResult.ok record →
      Underway nodes (state.apply { outputs := RunOutputs.single agent output }) s) ∧
    ((∀ record, completed ≠ PatchResult.ok record) → Failing state agent taskId s))
    (store_assures stable ?safe ?answer ?error) fun completed => ?_
  case safe =>
    exact fun s inv executing => ⟨agent, own ▸ executing.place, output.property⟩
  case error =>
    exact fun s env inv executing => ⟨(fails executing).1.transact, (fails executing).2⟩
  case answer =>
    intro s env result inv executing _ e _
    have e : completeTask _ _ env.id s.tables = _ := e
    cases result with
    | stopped =>
      refine ⟨fun _ same => ?_, fun _ => ⟨(fails executing).1.transact, (fails executing).2⟩⟩
      cases same
    | fileConflict conflict =>
      refine ⟨fun _ same => ?_, fun _ => ⟨(fails executing).1.transact, (fails executing).2⟩⟩
      cases same
    | ok record =>
      refine ⟨fun _ _ => Underway.returned ?_ fresh ?_, fun other => absurd rfl (other record)⟩
      · refine executing.toUnderway.transact inv List.mem_cons_self ?_ (by simp) (by simp)
        rintro _ ⟨⟩
        exact executing.place
      · obtain ⟨refused, -⟩ | ⟨active, task, row, outcome⟩ := completeTask_tasks e
        · exact absurd rfl (refused record)
        obtain ⟨mem, id⟩ := inv.wellFormed.task?_iff.mp row
        obtain ⟨run, name⟩ := executing.place.of_mem inv.wellFormed mem id
        obtain ⟨done, -⟩ | ⟨-, tasks⟩ := outcome
        · -- nobody else completed the task in between
          obtain ⟨t, mem', id', -, open_⟩ := executing.begun active
          have same : t = task := List.inj_on_of_nodup_map inv.wellFormed.ids mem' mem
            (id'.trans id.symm)
          rw [same] at open_
          exact absurd done open_
        · refine ⟨task.completed output.val now, ?_, run, name, rfl, .inl rfl⟩
          rw [tasks]
          exact Table.mem_update_self mem id rfl
  cases completed with
  | stopped => exact .throw fun _ holds => holds.2 fun _ same => by cases same
  | fileConflict conflict => exact .throw fun _ holds => holds.2 fun _ same => by cases same
  | ok record => exact .pure fun _ holds => holds.1 record rfl

lemma failStartedTask_settles {error : Thrown} {Q : α → Platform schemas → Prop}
    (own : state.runId = job.runId) :
    Assures (settling schemas options references) (.delivery job attempt)
      (Failing state agent taskId) (failStartedTask state taskId error) Q fun _ _ => True := by
  have stable : ∀ s s', Undisturbed job.runId s s' → Failing state agent taskId s →
      Failing state agent taskId s' :=
    fun _ _ others failing => failing.undisturbed (own ▸ others)
  unfold failStartedTask
  split
  · exact .throw fun _ _ => trivial
  refine .bind (now_assures stable) fun now => ?_
  refine .bind (R := fun _ _ => True) ?_ fun failed => ?_
  · refine store_assures stable ?_ (fun _ _ _ _ _ _ _ _ => trivial) fun _ _ _ _ => trivial
    exact fun s inv failing => ⟨agent, own ▸ failing.1, own ▸ failing.2⟩
  · split <;> exact .throw fun _ _ => trivial

/-- An agent node settles the task of its agent. -/
lemma runAgent_settles (own : state.runId = job.runId) (fresh : .agent agent ∉ nodes) :
    Assures (settling schemas options references) (.delivery job attempt)
      (Underway (.agent agent :: nodes) state) (runAgent options agent state)
      (fun update => Underway nodes (state.apply update)) fun _ _ => True := by
  have stable : ∀ s s', Undisturbed job.runId s s' →
      Underway (.agent agent :: nodes) state s → Underway (.agent agent :: nodes) state s' :=
    fun _ _ others underway => underway.undisturbed (own ▸ others)
  have getsType : Yields (auxiliary state.runId state.outputs)
      (call (.getProjectType state.projectId)) fun _ => True := .call trivial fun _ _ => trivial
  unfold runAgent
  rw [parseUpstreamOutputs_eq]
  refine .bind (R := fun upstream s => upstream = state.outputs ∧
    Underway (.agent agent :: nodes) state s) (.pure fun _ underway => ⟨rfl, underway⟩) ?_
  intro upstreamOutputs
  refine .extract (fun _ holds => holds.1) fun same => ?_
  subst same
  refine .mono ?_ (fun _ holds => holds.2) (fun _ _ holds => holds) fun _ _ holds => holds
  refine .bind (auxiliary_passes _ _ getsType stable) fun projectType => ?_
  refine .bind (auxiliary_passes state.runId state.outputs findSkipReason_auxiliary stable)
    fun skipReason => ?_
  refine .bind (now_assures stable) fun now => ?_
  split
  · refine .bind (R := fun skipped s => match skipped with
      | .stopped => True
      | .ok _ => Underway nodes (state.apply {}) s) (store_assures stable ?safe ?answer ?error)
      fun skipped => ?_
    case safe => exact fun _ _ _ => rfl
    case error => exact fun _ _ _ _ => trivial
    case answer =>
      intro s env result inv underway allowed e fate
      cases result with
      | stopped => trivial
      | ok record =>
        refine Underway.skip (underway.transact inv List.mem_cons_self ?_ ?_ ?_) fun none => ?_
        · simp [Operation.taskId?]
        · simp
        · simp
        refine skipped_task inv.wellFormed rfl allowed e fate ?_
        exact (underway.saved agent List.mem_cons_self).symm.trans none
    cases skipped with
    | stopped => exact .throw fun _ _ => trivial
    | ok record => exact .pure fun _ underway => underway
  refine .bind (R := fun prepared s => match prepared with
    | .stopped => True
    | .ok record => Underway (.agent agent :: nodes) state s ∧
        HasTask s.tables state.runId agent record.id ∧ Restorable state agent record s)
    (store_assures stable ?safe ?answer ?error) fun prepared => ?_
  case safe => exact fun _ _ _ => rfl
  case error => exact fun _ _ _ _ => trivial
  case answer =>
    intro s env result inv underway allowed e fate
    cases result with
    | stopped => trivial
    | ok record =>
      refine ⟨?_, prepared_task inv rfl rfl e⟩
      exact underway.transact inv List.mem_cons_self (by simp [Operation.taskId?]) (by simp)
        (by simp)
  cases prepared with
  | stopped => exact .throw fun _ _ => trivial
  | ok prepared =>
    dsimp only
    split
    · rename_i done
      exact (restoreOutput_settles fresh done).mono (fun _ holds => ⟨holds.1, holds.2.2⟩)
        (fun _ _ holds => holds) fun _ _ holds => holds
    have stable' : ∀ s s', Undisturbed job.runId s s' →
        (Underway (.agent agent :: nodes) state s ∧
          HasTask s.tables state.runId agent prepared.id) →
        Underway (.agent agent :: nodes) state s' ∧
          HasTask s'.tables state.runId agent prepared.id :=
      fun s s' others holds => ⟨stable s s' others holds.1, holds.2.undisturbed others⟩
    refine Triple.mono (P := fun s => Underway (.agent agent :: nodes) state s ∧
      HasTask s.tables state.runId agent prepared.id) ?_ (fun _ holds => ⟨holds.1, holds.2.1⟩)
      (fun _ _ holds => holds) fun _ _ holds => holds
    refine .bind (now_assures stable') fun now' => ?_
    refine .bind (R := fun started s => ∀ record, started = TaskMutationResult.ok record →
      Underway (.agent agent :: nodes) state s ∧ Restorable state agent record s ∧
        (record.status ≠ .completed → state.outputs agent = none ∧
          Executing (.agent agent :: nodes) state agent record.id s))
      (store_assures stable' ?safe ?answer ?error) fun started => ?_
    case safe => exact fun _ _ holds => ⟨agent, own ▸ holds.2⟩
    case error => exact fun _ _ _ _ => trivial
    case answer =>
      rintro s env result inv ⟨underway, has⟩ allowed e fate record rfl
      refine ⟨?_, started_task inv underway has e⟩
      refine underway.transact inv List.mem_cons_self ?_ (by simp) (by simp)
      rintro _ ⟨⟩
      exact has
    cases started with
    | stopped => exact .throw fun _ _ => trivial
    | ok started =>
      refine .mono ?_ (fun _ holds => holds started rfl) (fun _ _ holds => holds) fun _ _ holds => holds
      dsimp only
      split
      · rename_i done
        exact (restoreOutput_settles fresh done).mono (fun _ holds => ⟨holds.1, holds.2.1⟩)
          (fun _ _ holds => holds) fun _ _ holds => holds
      · rename_i open_
        refine .extract (fun _ holds => (holds.2.2 open_).1) fun blank => ?_
        refine .tryCatch (R := fun _ => Failing state agent started.id) ?_ fun error =>
          failStartedTask_settles own
        exact (executeTask_settles own fresh blank).mono (fun _ holds => (holds.2.2 open_).2)
          (fun _ _ holds => holds) fun _ _ holds => holds

/-- A gate that asks for approval pauses the run and stops. -/
lemma awaitApproval_settles {node : RunNode} {scope : ApprovalScope} {reason waiting stopped : String}
    (own : state.runId = job.runId) (gate : ∀ agent, node ≠ .agent agent) :
    Assures (settling schemas options references) (.delivery job attempt)
      (Underway (node :: nodes) state) (awaitApproval scope reason waiting stopped state)
      (fun update => Underway nodes (state.apply update)) fun _ _ => True := by
  have stable : ∀ s s', Undisturbed job.runId s s' → Underway (node :: nodes) state s →
      Underway (node :: nodes) state s' :=
    fun _ _ others underway => underway.undisturbed (own ▸ others)
  unfold awaitApproval
  split
  · exact .pure fun _ underway => underway.passed gate
  refine .bind (now_assures stable) fun now => ?_
  refine .bind (R := fun _ _ => True) ?_ fun paused => .throw fun _ _ => trivial
  exact store_assures stable (fun _ _ _ => trivial) (fun _ _ _ _ _ _ _ _ => trivial)
    fun _ _ _ _ => trivial

/-- Every node leaves the job with the nodes after it. -/
lemma runNode_settles {node : RunNode} (own : state.runId = job.runId) (fresh : node ∉ nodes) :
    Assures (settling schemas options references) (.delivery job attempt)
      (Underway (node :: nodes) state) (runNode options node state)
      (fun update => Underway nodes (state.apply update)) fun _ _ => True := by
  have stable {left : List RunNode} : ∀ s s', Undisturbed job.runId s s' → Underway left state s →
      Underway left state s' := fun _ _ others underway => underway.undisturbed (own ▸ others)
  cases node with
  | agent agent => exact runAgent_settles own fresh
  | approval =>
    have passes : Assures (settling schemas options references) (.delivery job attempt)
        (Underway (.approval :: nodes) state) (pure {}) (fun update => Underway nodes (state.apply update))
        fun _ _ => True :=
      .pure fun _ underway => underway.passed (fun _ same => by cases same)
    show Assures _ _ _ (approvalGate options state) _ _
    unfold approvalGate
    split
    · exact .throw fun _ _ => trivial
    split
    · exact passes
    refine .bind (auxiliary_passes state.runId state.outputs planNeedsApproval_auxiliary stable)
      fun needed => ?_
    split
    · exact awaitApproval_settles own fun _ same => by cases same
    · exact passes
  | contentApproval =>
    have passes : Assures (settling schemas options references) (.delivery job attempt)
        (Underway (.contentApproval :: nodes) state) (pure {})
        (fun update => Underway nodes (state.apply update)) fun _ _ => True :=
      .pure fun _ underway => underway.passed (fun _ same => by cases same)
    show Assures _ _ _ (contentApprovalGate state) _ _
    unfold contentApprovalGate
    split
    · exact passes
    split
    · exact passes
    · exact awaitApproval_settles own fun _ same => by cases same

/-- The graph settles the tasks of all agents that are left; the induction is on the nodes. -/
lemma runNodes_settles (own : state.runId = job.runId) (distinct : nodes.Nodup) (last : Option RunNode) :
    Assures (settling schemas options references) (.delivery job attempt)
      (fun s => Underway nodes state s ∧ Ended last state s) (runNodes options nodes state)
      (fun final s => final.runId = job.runId ∧ final.controlVersion = state.controlVersion ∧
        Underway [] final s ∧ Ended (nodes.getLast?.or last) final s) fun _ _ => True := by
  induction nodes generalizing state last with
  | nil => exact .pure fun _ holds => ⟨own, rfl, holds⟩
  | cons node nodes ih =>
    obtain ⟨fresh, distinct⟩ := List.nodup_cons.mp distinct
    refine .bind (R := fun update => Underway nodes (state.apply update)) ?_ fun update => ?_
    · exact (runNode_settles own fresh).mono (fun _ holds => holds.1) (fun _ _ holds => holds)
        fun _ _ holds => holds
    refine .bind (R := fun _ s => Underway nodes (state.apply update) s ∧
      Ended (some node) (state.apply update) s) ?_ fun _ => ?_
    · refine Assures.call (M := Underway nodes (state.apply update)) ?_ ?_ ?_
      · exact fun s s' others _ underway => underway.undisturbed (own ▸ others)
      · exact fun s _ underway => ⟨own, underway.held⟩
      · intro s env inv underway _
        show Outcome _ _ (s.endNode options node state update env).1
        have ended : Underway nodes (state.apply update) (s.endNode options node state update env).2 ∧
            Ended (some node) (state.apply update) (s.endNode options node state update env).2 :=
          underway.endNode
        cases (s.endNode options node state update env).1 with
        | error error => trivial
        | ok _ => exact ended
    · have whole : (node :: nodes).getLast?.or last = nodes.getLast?.or (some node) := by
        rw [List.getLast?_cons]
        cases nodes.getLast? <;> rfl
      rw [whole]
      exact ih (by exact own) distinct (some node)

/-- A job that went through the graph: no node is left, and the last one was the content gate. -/
def Finished (job : RunJob) (version : Nat) (s : Platform schemas) : Prop :=
  ∃ final : RunState schemas, final.runId = job.runId ∧ final.controlVersion = version ∧
    Underway [] final s ∧ Ended (some .contentApproval) final s

lemma Finished.undisturbed {version : Nat} {s s' : Platform schemas}
    (finished : Finished job version s) (others : Undisturbed job.runId s s') :
    Finished job version s' := by
  obtain ⟨final, own, version, underway, ended⟩ := finished
  rw [← own] at others
  exact ⟨final, own, version, underway.undisturbed others, ended.undisturbed others⟩

/-- The whole graph settles the tasks of all agents. -/
lemma runGraph_settles (own : state.runId = job.runId) :
    Assures (settling schemas options references) (.delivery job attempt) (Underway runGraph state)
      (runNodes options runGraph state) (fun _ => Finished job state.controlVersion)
      fun _ _ => True := by
  refine (runNodes_settles own (by decide) none).mono ?_ ?_ fun _ _ holds => holds
  · intro s underway
    refine ⟨underway, fun node e => ?_⟩
    cases e
  · rintro final s ⟨own, version, underway, ended⟩
    exact ⟨final, own, version, underway, ended⟩

/-- The graph starts with what is saved, which is all persisted. -/
lemma invokeGraph_settles (own : state.runId = job.runId) (blank : state.outputs = RunOutputs.none) :
    Assures (settling schemas options references) (.delivery job attempt)
      (fun s => options.checkpointer = false → s.saved job.runId = RunOutputs.none)
      (invokeGraph options state) (fun _ => Finished job state.controlVersion) fun _ _ => True := by
  -- every agent is left, so nothing needs to have been skipped
  have starts {saved : RunOutputs schemas} {s : Platform schemas}
      (held : ∀ agent output, saved agent = some output →
        Persisted s.tables state.runId agent output.val) (same : saved = s.saved state.runId) :
      Underway runGraph { state with outputs := saved } s := by
    refine ⟨held, fun agent _ => congrFun same agent, fun _ agent done => ?_⟩
    exact absurd (by cases agent <;> decide) done
  unfold invokeGraph
  refine .bind (R := fun saved => Underway runGraph { state with outputs := saved }) ?_ fun saved => ?_
  · unfold loadSaved
    split
    · refine Assures.call (M := fun _ => True) (fun _ _ _ _ _ => trivial) (fun _ _ _ => trivial) ?_
      intro s env inv _ _
      show Outcome _ _ (env.answer (s.saved state.runId))
      unfold WorkerEnvironment.answer
      cases env.failure with
      | some error => trivial
      | none =>
        refine starts ?_ rfl
        exact inv.saved state.runId
    · rename_i without
      refine .pure fun s unsaved => starts ?_ ?_
      · intro agent output held
        cases held
      · rw [own, unsaved (eq_false_of_ne_true without)]
  rw [blank, RunOutputs.merge_none]
  exact runGraph_settles (by exact own)

/-- A run is completed with settled tasks only. -/
lemma finishRun_settles {run : RunExecutionRecord} {lease : Option Uuid} {validatedAttempt : Nat}
    (own : run.id = job.runId) :
    Assures (settling schemas options references) (.delivery job attempt)
      (Finished job run.controlVersion) (finishRun options run lease validatedAttempt)
      (fun _ _ => True) fun _ _ => True := by
  have stable : ∀ s s' : Platform schemas, Undisturbed job.runId s s' →
      Finished job run.controlVersion s → Finished job run.controlVersion s' :=
    fun _ _ others finished => finished.undisturbed others
  unfold finishRun
  refine .bind (auxiliary_passes run.id RunOutputs.none assess_auxiliary stable) fun _ => ?_
  refine .bind (now_assures stable) fun now => ?_
  refine .bind (R := fun _ _ => True) ?_ fun completed => ?_
  · refine store_assures stable ?_ (fun _ _ _ _ _ _ _ _ => trivial) fun _ _ _ _ => trivial
    rintro s inv ⟨final, here, version, underway, ended⟩ running
    rw [own] at running ⊢
    rw [← here, ← version] at running ⊢
    exact underway.settled inv ended running
  split
  · exact .pure fun _ _ => trivial
  · exact (auxiliary_passes run.id RunOutputs.none revoke_auxiliary fun _ _ _ _ => trivial).bind
      fun _ => .pure fun _ _ => trivial

lemma settle_settles {run : RunExecutionRecord} {lease : Option Uuid} {error : Thrown} :
    Assures (settling schemas options references) (.delivery job attempt) (fun _ => True)
      (settle run attempt lease error) (fun _ _ => True) fun _ _ => True :=
  auxiliary_passes run.id RunOutputs.none settle_auxiliary fun _ _ _ _ => trivial

/-- A job makes safe calls only. -/
lemma process_settles :
    Assures (settling schemas options references) (.delivery job attempt) (fun _ => True)
      (process options job attempt) (fun _ _ => True) fun _ _ => True := by
  unfold process
  split
  · exact .throw fun _ _ => trivial
  refine .bind (now_assures fun _ _ _ _ => trivial) fun now => ?_
  refine .bind (R := fun claim s => ∀ run, claim = .ready run → run.id = job.runId ∧
    (options.checkpointer = false → s.saved job.runId = RunOutputs.none)) ?_ fun claim => ?_
  · refine store_assures (fun _ _ _ _ => trivial) (fun _ _ _ => rfl) ?_ fun _ _ _ _ => trivial
    rintro s env _ inv - - e - run rfl
    exact ⟨claimRun_answer e, fun without => inv.unsaved without job.runId⟩
  cases claim with
  | missing => exact .pure fun _ _ => trivial
  | stale status version => exact .pure fun _ _ => trivial
  | ready run =>
    refine .extract (fun _ claimed => (claimed run rfl).1) fun own => ?_
    refine .bind (R := fun executed s => ∀ validated, executed = .ok validated →
      Finished job run.controlVersion s) ?_ fun executed => ?_
    · refine .tryCatch (R := fun _ _ => True) ?_ fun error => .pure fun _ _ _ same => by cases same
      refine .bind (R := fun _ => Finished job run.controlVersion) ?_ fun validated =>
        .pure fun _ finished _ _ => finished
      have stable : ∀ s s' : Platform schemas, Undisturbed job.runId s s' →
          Finished job run.controlVersion s → Finished job run.controlVersion s' :=
        fun _ _ others finished => finished.undisturbed others
      unfold executeRun
      refine .bind (R := fun _ => Finished job run.controlVersion) ?_ fun final => ?_
      · refine (invokeGraph_settles (by exact own) rfl).mono ?_ (fun _ _ holds => holds)
          fun _ _ holds => holds
        exact fun _ claimed => (claimed run rfl).2
      refine .bind (auxiliary_passes run.id final.outputs repairMissingRoutes_auxiliary stable)
        fun repairsUsed => ?_
      exact auxiliary_passes run.id final.outputs (validateWithRepairs_auxiliary ..) stable
    · cases executed with
      | error error =>
        exact settle_settles.mono (fun _ _ => trivial) (fun _ _ holds => holds) fun _ _ holds => holds
      | ok validated =>
        refine .tryCatch (R := fun _ _ => True) ?_ fun error => settle_settles
        exact (finishRun_settles own).mono (fun _ finished => finished validated rfl)
          (fun _ _ holds => holds) fun _ _ holds => holds

end Program

section Runs
variable {options : RunProcessorOptions} {references : Uuid → List AgentReferenceAttachment}
  {c₀ c c' : RunConfig schemas}

/-- The regime governs the runs in which no agent is skipped whose task was begun. -/
lemma settling_governs :
    Governs (settling schemas options references) supersedes SkippingUnbegun where
  refl t _ _ := by
    cases t with
    | delivery => exact Undisturbed.refl
    | request => trivial
  trans {t _ _ _ _} first second := by
    cases t with
    | delivery => exact Undisturbed.trans first second
    | request => trivial
  keeps {t call env s} inv safe _ := by
    cases t with
    | delivery job attempt => exact Consistent.perform inv safe
    | request operation =>
      obtain ⟨o, rfl, other⟩ := safe
      exact Consistent.perform_other inv other
  allowed guard _ := guard
  frame {c i j t t' call call' env k k'} guard inv at_i safe ne at_j active := by
    cases t' with
    | request => trivial
    | delivery job' attempt' =>
      show Undisturbed job'.runId c.store (call.perform options references env c.store).2
      refine perform_undisturbed inv.wellFormed inv.cancels ?_
      cases t with
      | request =>
        obtain ⟨o, rfl, other⟩ := safe
        exact aside_of_other other _
      | delivery job attempt =>
        refine JobSafe.aside safe inv.wellFormed ?_
        intro same
        -- of two jobs of one run the later one supersedes the other
        obtain lt | gt := Nat.lt_or_gt_of_ne ne
        · exact guard.1 ⟨j, _, _, lt, at_i, at_j, same.symm⟩
        · exact active ⟨i, _, _, gt, at_j, at_i, same⟩
  start {c t} _ inv admitted := by
    have secures : Assures (settling schemas options references) t (fun _ => True)
        (t.program options) (fun _ _ => True) fun _ _ => True := by
      cases t with
      | delivery job attempt => exact process_settles.bind fun _ => .pure fun _ _ => trivial
      | request operation =>
        refine .bind (R := fun _ _ => True) ?_ fun _ => .pure fun _ _ => trivial
        refine Assures.call (M := fun _ => True) (fun _ _ _ _ _ => trivial) ?_ ?_
        · intro s inv _
          have other : (!operation.byWorker) = true := admitted
          exact ⟨operation, rfl, by simpa using other⟩
        · intro s env inv _ _
          cases (System.perform _ (WorkerCall.store operation) env s).1 <;> trivial
    exact (secures c.store trivial).mono fun _ _ _ => trivial

/-- Nothing happened yet. -/
lemma Starts.consistent (starts : Starts c₀) : Consistent options c₀.store := by
  refine ⟨⟨?_, ?_, ?_⟩, ?_, fun _ => starts.saved⟩
  · rw [starts.tasks]
    exact ⟨List.nodup_nil, List.nodup_nil, fun _ mem => absurd mem List.not_mem_nil⟩
  · rw [starts.tasks]
    exact fun _ mem => absurd mem List.not_mem_nil
  · intro runId agent output held
    rw [starts.saved runId] at held
    cases held
  · intro runId purged
    rw [starts.purged runId] at purged
    cases purged

/-- Only `completeRun` completes a run. -/
lemma step_completes {l : (runSystem schemas options references).Label}
    (step : (runSystem schemas options references).Step c l c') {runId : Uuid} {r r' : AgentRun}
    (row : c.store.tables.run? runId = some r) (row' : c'.store.tables.run? runId = some r')
    (before : r.status ≠ .completed) (after : r'.status = .completed) :
    ∃ i t now env, ∃ k, c.threads[i]? = some ⟨t, .call (.store (.completeRun runId r.controlVersion now)) k⟩ ∧
      l = .act i (.store (.completeRun runId r.controlVersion now)) env ∧ r.status = .running ∧
      c'.store = (c.store.transact (.completeRun runId r.controlVersion now)
        (WorkerEnvironment.transaction env)).2 := by
  cases step with
  | spawn _ =>
    cases row.symm.trans row'
    exact absurd after before
  | @act i tag call k env at_i =>
    have row' : (call.perform options references env c.store).2.tables.run? runId = some r' := row'
    obtain same | ⟨o, rfl, tables⟩ := perform_tables options references call env c.store
    · rw [same] at row'
      cases row.symm.trans row'
      exact absurd after before
    · rw [tables] at row'
      obtain ⟨r₁, events, row₁, -, move⟩ :=
        (perform_runMoves schemas.toAgentOutputs o env.transaction c.store.tables runId).row r row
      cases row₁.symm.trans row'
      cases move with
      | completed completes running =>
        cases run?_id row
        subst completes
        exact ⟨i, tag, _, env, k, at_i, rfl, running, rfl⟩
      | idle | worked | reminded | purged => exact absurd after before
      | claimed | asked | failed | enqueueFailed | expired => cases after
      | acted _ resolved => exact absurd after (resolveRunTransition_status resolved r).2

/-- In every run in which the jobs of each run follow one another and no agent is skipped whose task an
    earlier job began, unless its output is saved, a run is completed with settled tasks only, whatever
    the plans and project types are and however jobs end. -/
theorem completed_runs_settled (starts : Starts c₀)
    (run : (runSystem schemas options references).Reaches SkippingUnbegun c₀ c)
    {l : (runSystem schemas options references).Label} (guard : SkippingUnbegun c l)
    (step : (runSystem schemas options references).Step c l c') {runId : Uuid} {r r' : AgentRun}
    (row : c.store.tables.run? runId = some r) (row' : c'.store.tables.run? runId = some r')
    (before : r.status ≠ .completed) (after : r'.status = .completed) :
    c'.store.Settled runId r.controlVersion := by
  obtain ⟨i, t, now, env, k, at_i, rfl, running, tables⟩ := step_completes step row row' before after
  have secured : Secured (settling schemas options references) supersedes c := by
    refine settling_governs.secured_reaches ?_ run
    obtain ⟨s, threads⟩ := c₀
    obtain rfl : threads = [] := starts.threads
    exact .start starts.consistent
  have safe := secured.safe settling_governs at_i guard.1
  have settled : c.store.Settled runId r.controlVersion := by
    cases t with
    | request operation =>
      obtain ⟨o, same, other⟩ := safe
      cases same
      cases other
    | delivery job attempt =>
      apply safe
      rw [owns_run row]
      exact isAt_iff.mpr ⟨running, rfl⟩
  rw [tables]
  -- completing the run changes neither the tasks nor what was carried
  have tasks : (c.store.transact (.completeRun runId r.controlVersion now) env.transaction).2.tables.tasks =
      c.store.tables.tasks := perform_tasks _ _ _ rfl
  obtain ⟨⟨state, update, ended, version, agents⟩, rows⟩ := settled
  refine ⟨⟨state, update, ?_, version, fun agent => ?_⟩, ?_⟩
  · rw [Platform.lastEnded_transact]
    exact ended
  · unfold TaskSettled
    rw [tasks]
    exact agents agent
  · rw [tasks]
    exact rows

end Runs

section Scenario

/-- Outputs that say nothing but where the schema is. -/
def schemaOutputs : AgentOutputSchemas Unit where
  toAgentOutputs := { silentOutputs with
    david := fun _ => ⟨false, "prisma/schema.prisma", [], "prisma/seed.ts", false, ""⟩ }
  parse_normal := fun _ => rfl
  files := fun _ => []
  routes := fun _ => []
  routeMetadata := fun _ => []
  taskInput := fun prompt _ => prompt

/-- The run subsystem of the scenarios, without optional collaborators. -/
abbrev schemaSystem : System (WorkerCall schemaOutputs) (fun c => Except Thrown c.Answer)
    (Platform schemaOutputs) (Activity Unit) (Except Thrown Unit) :=
  runSystem schemaOutputs {} fun _ => []

/-- One run of a project with a schema waits for its job. -/
def schemaPlatform : RunConfig schemaOutputs where
  store := { tables := { pendingRun with files := [⟨1, "prisma/schema.prisma", "", 1⟩] } }
  threads := []

lemma schemaPlatform_starts : Starts schemaPlatform := by
  refine ⟨rfl, fun runId => ?_, fun _ => rfl, rfl, rfl⟩
  have starts : Starts (pendingPlatform : RunConfig (plainSchemas false 0)) := pendingPlatform_starts
  exact starts.purged runId

/-- A call that goes well while the workspace has a plan; `id` is generated. -/
def onPlan (plan : WorkspacePlan) (id : Uuid) : WorkerEnvironment schemaOutputs :=
  { transaction := { id }, plan, output := fun _ => .ok ⟨(), rfl⟩ }

/-- A thread makes `n` calls that go well while the workspace has a plan. -/
def works (plan : WorkspacePlan) (thread first n : Nat) : List schemaSystem.Move :=
  (List.range n).map fun i => .act thread (onPlan plan (first + i))

/-- The first job of the run, as thread 0, on the free plan: it is about to complete the run. -/
def freeRun : List schemaSystem.Move :=
  .spawn (.delivery ⟨1, .start, 0, none, none⟩ ⟨1, 1⟩) :: works .free 0 100 67

/-- `completed_runs_settled` for a workspace on the free plan, whose premium agents are skipped. -/
theorem completed_runs_settled_free : ∃ (c c' : RunConfig schemaOutputs) (r : AgentRun),
    schemaSystem.Reaches SkippingUnbegun schemaPlatform c ∧
    (∃ l, SkippingUnbegun c l ∧ schemaSystem.Step c l c') ∧
    c.store.tables.run? 1 = some r ∧ r.status = .running ∧
    c'.store.Settled 1 r.controlVersion := by
  have run : ((System.executeUnder (S := schemaSystem) SkippingUnbegun schemaPlatform freeRun).any
      fun c => (c.store.tables.run? 1).any (fun r => decide (r.status = .running)) &&
        (System.executeUnder (S := schemaSystem) SkippingUnbegun c [.act 0 (onPlan .free 0)]).any
          fun c' => (c'.store.tables.run? 1).any fun r => decide (r.status = .completed)) = true := by
    decide
  obtain ⟨c, e, run⟩ := (Option.any_eq_true _ _).mp run
  obtain ⟨before, run⟩ := Bool.and_eq_true_iff.mp run
  obtain ⟨r, row, running⟩ := (Option.any_eq_true _ _).mp before
  obtain ⟨c', e', after⟩ := (Option.any_eq_true _ _).mp run
  obtain ⟨r', row', completed⟩ := (Option.any_eq_true _ _).mp after
  have running := of_decide_eq_true running
  obtain ⟨l, c₁, guard, step, last⟩ := System.executeUnder_cons e'
  cases last
  refine ⟨c, c', r, System.executeUnder_reaches e, ⟨l, guard, step⟩, row, running, ?_⟩
  refine completed_runs_settled schemaPlatform_starts (System.executeUnder_reaches e) guard step row
    row' ?_ (of_decide_eq_true completed)
  rw [running]
  exact AgentRunStatus.noConfusion

/-- Sophia fails in the first job, as thread 0, on the pro plan; the run is retried on the free plan, as
    thread 2, which is about to complete it. -/
def downgradedRun : List schemaSystem.Move :=
  .spawn (.delivery ⟨1, .start, 0, none, none⟩ ⟨1, 1⟩) :: works .pro 0 100 8 ++
    .act 0 { output := fun _ => .error [{ message := "overloaded" }] } :: works .pro 0 108 4 ++
    [.spawn (.request (.transitionRun 1 .retry .failed 2 0)), .act 1 (onPlan .free 0),
      .spawn (.delivery ⟨1, .retry, 3, none, none⟩ ⟨1, 1⟩)] ++ works .free 2 200 67

/-- Without the condition a completed run can have a failed task: the agent that failed is skipped when
    the run is retried. -/
theorem completed_run_failed_task : ¬ ∀ (c₀ c c' : RunConfig schemaOutputs) (l : schemaSystem.Label)
    (runId : Uuid) (r r' : AgentRun), Starts c₀ → schemaSystem.Reaches InSequence c₀ c →
    InSequence c l → schemaSystem.Step c l c' → c.store.tables.run? runId = some r →
    c'.store.tables.run? runId = some r' → r.status ≠ .completed → r'.status = .completed →
    c'.store.Settled runId r.controlVersion := by
  intro settles
  have run : ((System.executeUnder (S := schemaSystem) InSequence schemaPlatform downgradedRun).any
      fun c => (c.store.tables.run? 1).any (fun r => decide (r.status = .running)) &&
        (System.executeUnder (S := schemaSystem) InSequence c [.act 2 (onPlan .free 0)]).any fun c' =>
          (c'.store.tables.run? 1).any (fun r => decide (r.status = .completed)) &&
            c'.store.tables.tasks.any fun t => decide (t.runId = 1 ∧ t.status = .failed)) = true := by
    decide
  obtain ⟨c, e, run⟩ := (Option.any_eq_true _ _).mp run
  obtain ⟨before, run⟩ := Bool.and_eq_true_iff.mp run
  obtain ⟨r, row, running⟩ := (Option.any_eq_true _ _).mp before
  obtain ⟨c', e', run⟩ := (Option.any_eq_true _ _).mp run
  obtain ⟨after, failed⟩ := Bool.and_eq_true_iff.mp run
  obtain ⟨r', row', completed⟩ := (Option.any_eq_true _ _).mp after
  obtain ⟨t, mem, failed⟩ := List.any_eq_true.mp failed
  obtain ⟨here, failed⟩ := of_decide_eq_true failed
  have running := of_decide_eq_true running
  obtain ⟨l, c₁, guard, step, last⟩ := System.executeUnder_cons e'
  cases last
  have settled := settles _ c c' l 1 r r' schemaPlatform_starts (System.executeUnder_reaches e) guard
    step row row' (fun done => by rw [running] at done; cases done) (of_decide_eq_true completed)
  obtain done | skipped := settled.rows t mem here
  · rw [failed] at done
    cases done
  · rw [failed] at skipped
    cases skipped

end Scenario

end AtomsPlatform.Run
