import AtomsPlatform.Run.Processor

/-!
# The run subsystem as a system

Any number of deliveries of run jobs, and of single transactions of the control API, the sweeps and
the validator, over one store and interleaved at their calls. The environment decides what the clock,
the plain reads and the collaborators answer and how each transaction ends. An execution that is
abandoned (a crash) is a thread that is not scheduled again. Every job may be delivered at any time
and any number of times; its claim decides whether it is executed.
-/

namespace AtomsPlatform.Run
open Interleaving
variable {Output : Type}

section Store
variable (schemas : AgentOutputSchemas Output)

/-- What happened in jobs, as far as the tables do not show it. -/
inductive Happening where
  /-- A job claimed its run. -/
  | claimed :
    (job : RunJob) → Happening
  /-- A node of the graph returned an update. -/
  | ended :
    (node : RunNode) → (state : RunState schemas) → (update : RunUpdate schemas) → Happening
  /-- A validation was started. -/
  | validated :
    (runId : Uuid) → (attempt : Nat) → Happening

/-- The tables, the outputs that LangGraph saved for the thread of each run, and the history. -/
structure Platform where
  tables : RunStore Output := {}
  saved : Uuid → RunOutputs schemas := fun _ => RunOutputs.none
  history : List (Happening schemas) := []

/-- What the environment decides about one call. -/
structure WorkerEnvironment where
  transaction : Environment := {}
  now : Date := 0
  projectType : ProjectType := .general
  plan : WorkspacePlan := .pro
  output : (agent : AgentName) → Except Thrown (schemas.Valid agent)
  lease : Option Uuid := none
  /-- What a collaborator throws, if it does. -/
  failure : Option Thrown := none
  /-- Whether a failing save of a thread took effect. -/
  saves : Bool := true

end Store

variable {schemas : AgentOutputSchemas Output}

/-- The answer of a collaborator. -/
def WorkerEnvironment.answer {α : Type} (env : WorkerEnvironment schemas) (a : α) :
    Except Thrown α :=
  match env.failure with
  | none => .ok a
  | some error => .error error

/-- Whether the data of a run was purged, its references included. -/
def RunStore.purged (s : RunStore Output) (runId : Uuid) : Bool :=
  s.owns runId fun r => r.purgedAt.isSome

/-- Adds to the history. -/
def Platform.record (s : Platform schemas) (happenings : List (Happening schemas)) :
    Platform schemas :=
  { s with history := s.history ++ happenings }

/-- What a transaction adds to the history. -/
def Operation.happenings : (o : Operation Output) → Except Failure o.Answer → List (Happening schemas)
  | .claimRun job _, .ok (.ready _) => [.claimed job]
  | _, _ => []

/-- The platform after a transaction. -/
def Platform.transact (s : Platform schemas) (o : Operation Output) (env : Environment) :
    Except Failure o.Answer × Platform schemas :=
  let (answer, tables) := perform schemas.toAgentOutputs o env s.tables
  (answer, { s with tables }.record (o.happenings answer))

/-- Saves the outputs of a thread. -/
def Platform.save (s : Platform schemas) (runId : Uuid) (outputs : RunOutputs schemas) :
    Platform schemas :=
  { s with saved := Function.update s.saved runId outputs }

/-- The end of a node: with a checkpointer the updated state is saved, which can fail. -/
def Platform.endNode (s : Platform schemas) (options : RunProcessorOptions) (node : RunNode)
    (state : RunState schemas) (update : RunUpdate schemas) (env : WorkerEnvironment schemas) :
    Except Thrown Unit × Platform schemas :=
  let s := s.record [.ended node state update]
  if options.checkpointer then
    (env.answer (),
      if env.failure.isNone || env.saves then s.save state.runId (state.apply update).outputs else s)
  else (.ok (), s)

/-- Answers a call; `references` are the attachments snapshotted for each run. -/
def WorkerCall.perform (options : RunProcessorOptions)
    (references : Uuid → List AgentReferenceAttachment) :
    (c : WorkerCall schemas) → WorkerEnvironment schemas → Platform schemas →
    Except Thrown c.Answer × Platform schemas
  | .now, env, s => (.ok env.now, s)
  | .store operation, env, s =>
    let (answer, s) := s.transact operation env.transaction
    (answer.mapError Failure.thrown, s)
  | .getProjectType _, env, s => (env.answer env.projectType, s)
  | .getWorkspacePlan _, env, s => (env.answer env.plan, s)
  | .load runId, env, s =>
    (env.answer (if s.tables.purged runId then [] else references runId), s)
  | .execute request, env, s => (env.output request.agentName, s)
  | .validate run attempt, env, s => (env.answer env.lease, s.record [.validated run.id attempt])
  | .revoke _, env, s => (env.answer (), s)
  | .assess .., env, s => (env.answer (), s)
  | .loadThread runId, env, s => (env.answer (s.saved runId), s)
  | .endNode node state update, env, s => s.endNode options node state update env

/-- A call changes the tables as its transaction does, or not at all. -/
lemma perform_tables (options : RunProcessorOptions)
    (references : Uuid → List AgentReferenceAttachment) (c : WorkerCall schemas)
    (env : WorkerEnvironment schemas)
    (s : Platform schemas) :
    (c.perform options references env s).2.tables = s.tables ∨
    ∃ o, c = .store o ∧ (c.perform options references env s).2.tables =
      (perform schemas.toAgentOutputs o env.transaction s.tables).2 := by
  cases c with
  | store o => exact .inr ⟨o, rfl, rfl⟩
  | endNode node state update =>
    refine .inl ?_
    show (s.endNode options node state update env).2.tables = s.tables
    unfold Platform.endNode
    dsimp only
    split
    · split <;> rfl
    · rfl
  | _ => exact .inl rfl

/-- What can be started. -/
inductive Activity (Output : Type) where
  | delivery :
    (job : RunJob) → RunAttempt → Activity Output
  | request :
    Operation Output → Activity Output

/-- Whether a transaction is one of a job's own. -/
def Operation.byWorker : Operation Output → Bool
  | .claimRun .. | .prepareTask _ | .skipTask _ | .startTask .. | .completeTask _ => true
  | .failTask .. | .applyGeneratedFiles _ | .requestApproval .. | .completeRun .. => true
  | .failRun .. => true
  | _ => false

/-- The program of an activity. -/
def Activity.program (options : RunProcessorOptions) :
    Activity Output → WorkerProgram schemas Unit
  | .delivery job attempt => do
    let _ ← process options job attempt
    pure ()
  | .request operation => do
    let _ ← call (.store operation)
    pure ()

/-- The transactions of jobs are made by jobs only. -/
def Activity.admitted : Activity Output → Bool
  | .delivery .. => true
  | .request operation => !operation.byWorker

/-- The run subsystem. -/
def runSystem (schemas : AgentOutputSchemas Output) (options : RunProcessorOptions)
    (references : Uuid → List AgentReferenceAttachment) :
    System (WorkerCall schemas) (fun c => Except Thrown c.Answer) (Platform schemas)
      (Activity Output) (Except Thrown Unit) where
  Choice := WorkerEnvironment schemas
  perform := WorkerCall.perform options references
  body activity := (activity.program options).run
  admits _ activity := activity.admitted = true

instance (schemas : AgentOutputSchemas Output) (options : RunProcessorOptions)
    (references : Uuid → List AgentReferenceAttachment) (s : Platform schemas)
    (activity : Activity Output) :
    Decidable ((runSystem schemas options references).admits s activity) :=
  inferInstanceAs (Decidable (activity.admitted = true))

variable (schemas) in
/-- Configurations of the run subsystem. -/
abbrev RunConfig : Type :=
  Config (WorkerCall schemas) (fun c => Except Thrown c.Answer) (Platform schemas)
    (Activity Output) (Except Thrown Unit)

/-- Before any job was processed: there is no task, nothing is saved or purged, nothing happened and
    nothing is started; the runs and all other rows are arbitrary. -/
structure Starts (c : RunConfig schemas) : Prop where
  tasks : c.store.tables.tasks = []
  purged : ∀ runId, c.store.tables.purged runId = false
  saved : ∀ runId, c.store.saved runId = RunOutputs.none
  history : c.store.history = []
  threads : c.threads = []

section Scenario

/-- Outputs that say nothing but whether a plan needs approval and how many variants there are. -/
def plainSchemas (requiresApproval : Bool) (variants : Nat) : AgentOutputSchemas Unit where
  toAgentOutputs := { silentOutputs with
    requiresApproval := fun _ => requiresApproval
    contentVariants := fun _ => variants }
  parse_normal := fun _ => rfl
  files := fun _ => []
  routes := fun _ => []
  routeMetadata := fun _ => []
  taskInput := fun prompt _ => prompt

variable {requiresApproval : Bool} {variants : Nat}

/-- A call that goes well; `id` is generated. -/
def smoothly (id : Uuid) : WorkerEnvironment (plainSchemas requiresApproval variants) :=
  { transaction := { id }, output := fun _ => .ok ⟨(), rfl⟩ }

/-- A call whose collaborator throws. -/
def throwing : WorkerEnvironment (plainSchemas requiresApproval variants) :=
  { output := fun _ => .error [{ message := "overloaded" }]
    failure := some [{ message := "overloaded" }] }

/-- One run waits for its job, and nothing was started. -/
def pendingPlatform : RunConfig (plainSchemas requiresApproval variants) where
  store := { tables := pendingRun }
  threads := []

lemma pendingPlatform_starts :
    Starts (pendingPlatform : RunConfig (plainSchemas requiresApproval variants)) := by
  refine ⟨rfl, ?_, fun _ => rfl, rfl, rfl⟩
  intro runId
  show pendingRun.purged runId = false
  by_cases here : runId = 1
  · subst here
    rfl
  · simp [RunStore.purged, RunStore.owns, pendingRun, Table.holds, Table.lookup_cons, Ne.symm here]

end Scenario

end AtomsPlatform.Run
