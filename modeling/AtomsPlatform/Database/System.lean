import AtomsPlatform.Database.Routes

/-!
# The database subsystem as a system

Any number of requests, deliveries and sweeps over one store, interleaved at their calls. The
environment decides for each call what the clock and the collaborators answer, which identifiers are
generated, and its `Fate`: a transaction may be aborted with any error, and it may commit while its
caller sees an error. An execution that is abandoned (a crash) is a thread that is not scheduled
again. Every job on the queue may be delivered at any time and any number of times.
-/

namespace AtomsPlatform.Database
open Interleaving

/-- How a call ends. -/
inductive Fate where
  | commits
  /-- Nothing happened, and the caller sees the error. -/
  | aborts :
    Failure → Fate
  /-- The call took effect, and the caller sees the error. -/
  | unacknowledged :
    Failure → Fate
deriving DecidableEq, Repr

/-- What the environment decides about one call. -/
structure Environment where
  fate : Fate := .commits
  now : Date := 0
  id : Uuid := 0
  operationId : Uuid := 0
  findingIds : Uuid → Uuid := fun _ => 0
  provisioned : DatabaseProvisionResult := ⟨"", "", "", ""⟩
  resources : List ManagedDatabaseResource := []
  health : DatabaseHealthState := .healthy
  secret : String := ""
  files : List MigrationFile := []
  reports : List DatabaseMigrationStepReport := []

/-- Whether the effect of a call takes place. -/
def Environment.TakesEffect (env : Environment) : Prop :=
  ∀ error, env.fate ≠ .aborts error

/-- The tables, and the jobs put on the queue `database-operations`. A job stays deliverable. -/
structure DatabaseState where
  store : DatabaseStore := {}
  queue : List DatabaseOperationJob := []

/-- The status of an instance. -/
def DatabaseState.statusOf (s : DatabaseState) (id : Uuid) : Option DatabaseInstanceStatus :=
  (s.store.instance? id).map DatabaseInstance.status

/-- The identifier under which a job is stored; a second job of one identifier is not added. -/
def sameJob (job job' : DatabaseOperationJob) : Bool :=
  job.operationId = job'.operationId ∧ job.command = job'.command ∧
    job.operationVersion = job'.operationVersion

/-- Source `enqueue`. -/
def enqueueJob (job : DatabaseOperationJob) (queue : List DatabaseOperationJob) :
    List DatabaseOperationJob :=
  if queue.any (sameJob job) then queue else queue ++ [job]

/-- The queue after an operation. -/
def Operation.enqueued : Operation → List DatabaseOperationJob → List DatabaseOperationJob
  | .enqueue job, queue => enqueueJob job queue
  | _, queue => queue

/-- The effect of a call on the tables. Collaborators answer as the environment says. -/
def transact (env : Environment) : (o : Operation) → Transaction o.Answer
  | .now => fun s => .ok (env.now, s)
  | .claim job now => claim job now
  | .countProvisioning database => countProvisioning database
  | .recordProvisioned database result now => recordProvisioned database result now
  | .recordHealthCheck database message now => recordHealthCheck database message now
  | .startMigration database now => startMigration database now
  | .listProjectFiles _ => fun s => .ok (env.files, s)
  | .completeMigration database reports now => completeMigration database reports now
  | .completeDestroy database now => completeDestroy database now
  | .fail database error now => fail database error now
  | .getProjectWorkspaceMembership userId projectId =>
    getProjectWorkspaceMembership userId projectId
  | .createDatabaseOperation userId projectId idempotencyKey input now =>
    createDatabaseOperation userId projectId idempotencyKey input now env.id env.operationId
  | .findByIdempotencyKey idempotencyKey => findByIdempotencyKey idempotencyKey
  | .requestDatabaseAction userId projectId databaseInstanceId now =>
    requestDatabaseAction userId projectId databaseInstanceId now
  | .markDatabaseOperationFailed databaseInstanceId operationId operationVersion error now =>
    markDatabaseOperationFailed databaseInstanceId operationId operationVersion error now
  | .beginSweep input => beginSweep input env.id
  | .listTrackedResources => listTrackedResources
  | .recoverStaleOperations input => recoverStaleOperations input env.findingIds
  | .findRecoveryDispatch job => findRecoveryDispatch job
  | .recordRecoveryDispatchFailure current error now =>
    recordRecoveryDispatchFailure current error now
  | .observeMissingResource sweepId database now =>
    observeMissingResource sweepId database now env.id
  | .resolveMissingResource databaseInstanceId now => resolveMissingResource databaseInstanceId now
  | .observeOrphanResource sweepId resource now graceMs =>
    observeOrphanResource sweepId resource now graceMs env.id
  | .claimOrphanCleanup sweepId findingId externalId now =>
    claimOrphanCleanup sweepId findingId externalId now
  | .releaseOrphanCleanupClaim findingId now => releaseOrphanCleanupClaim findingId now
  | .resolveOrphanResource externalId resolution now =>
    resolveOrphanResource externalId resolution now
  | .resolveUnseenOrphanResources seenExternalIds now =>
    resolveUnseenOrphanResources seenExternalIds now
  | .completeSweep sweepId summary now => completeSweep sweepId summary now
  | .failSweep sweepId error now => failSweep sweepId error now
  | .approveOrphanCleanup findingId externalId approvedBy now =>
    approveOrphanCleanup findingId externalId approvedBy now
  | .provision .. => fun s => .ok (env.provisioned, s)
  | .listManagedResources => fun s => .ok (env.resources, s)
  | .getHealth _ => fun s => .ok (env.health, s)
  | .getEphemeralConnection .. => fun s => .ok (env.secret, s)
  | .destroy .. => fun s => .ok ((), s)
  | .getSecret _ => fun s => .ok (env.secret, s)
  | .revokeSecret _ => fun s => .ok ((), s)
  | .migrate .. => fun s => .ok (env.reports, s)
  | .enqueue _ => fun s => .ok ((), s)

/-- Answers a call: the transaction itself may refuse, and the environment decides its fate. -/
def perform (o : Operation) (env : Environment) (s : DatabaseState) :
    Except Failure o.Answer × DatabaseState :=
  match transact env o s.store, env.fate with
  | .ok (r, store), .commits => (.ok r, ⟨store, o.enqueued s.queue⟩)
  | .ok (_, store), .unacknowledged error => (.error error, ⟨store, o.enqueued s.queue⟩)
  | .error error, .commits | .error error, .unacknowledged _ => (.error error, s)
  | _, .aborts error => (.error error, s)

/-- What can be started. -/
inductive Activity where
  | delivery :
    (job : DatabaseOperationJob) → (attempt maxAttempts healthAttempts : Nat) → Activity
  | provisionRequest :
    (userId projectId : Uuid) → (idempotencyKey : String) → ProvisionDatabaseInput → Activity
  | deleteRequest :
    (userId projectId databaseInstanceId : Uuid) → Activity
  | reconciliation :
    ReconcilerOptions → Activity
  | cleanupApproval :
    (findingId : Uuid) → (externalId : String) → (approvedBy : Uuid) → Activity
deriving DecidableEq, Repr

/-- How an activity ends. -/
inductive Response where
  | processed :
    DatabaseProcessResult → Response
  | accepted :
    DatabaseInstanceRecord → Response
  | reconciled :
    Option DatabaseReconciliationSummary → Response
  | approval :
    ApproveOrphanCleanupResult → Response
deriving DecidableEq, Repr

/-- The program of an activity. -/
def Activity.program : Activity → Program Response
  | .delivery job attempt maxAttempts healthAttempts => do
    let result ← process job attempt maxAttempts healthAttempts
    pure (.processed result)
  | .provisionRequest userId projectId idempotencyKey input => do
    let database ← provisionProjectDatabase userId projectId idempotencyKey input
    pure (.accepted database)
  | .deleteRequest userId projectId databaseInstanceId => do
    let database ← controlProjectDatabase userId projectId databaseInstanceId
    pure (.accepted database)
  | .reconciliation options => do
    let summary ← reconcile options
    pure (.reconciled summary)
  | .cleanupApproval findingId externalId approvedBy => do
    let result ← approveCleanup findingId externalId approvedBy
    pure (.approval result)

/-- Only what is on the queue is delivered. -/
def Activity.admitted (s : DatabaseState) : Activity → Prop
  | .delivery job .. => job ∈ s.queue
  | _ => True

instance (s : DatabaseState) (activity : Activity) : Decidable (activity.admitted s) :=
  match activity with
  | .delivery job .. => inferInstanceAs (Decidable (job ∈ s.queue))
  | .provisionRequest .. | .deleteRequest .. | .reconciliation .. | .cleanupApproval .. =>
    inferInstanceAs (Decidable True)

/-- The database subsystem. -/
def databaseSystem : System Operation (fun o => Except Failure o.Answer) DatabaseState Activity
    (Except Failure Response) where
  Choice := Environment
  perform := perform
  body activity := activity.program.run
  admits s activity := activity.admitted s

instance (s : DatabaseState) (activity : Activity) : Decidable (databaseSystem.admits s activity) :=
  inferInstanceAs (Decidable (activity.admitted s))

/-- Configurations of the database subsystem. -/
abbrev DatabaseConfig : Type :=
  Config Operation (fun o => Except Failure o.Answer) DatabaseState Activity
    (Except Failure Response)

/-- The start of a run: no instance, an empty queue and nothing started; the projects, members and
    migration artifacts are arbitrary. -/
def Starts (c : DatabaseConfig) : Prop :=
  c.store.store.instances = [] ∧ c.store.queue = [] ∧ c.threads = []

section Schedules

/-- One project with one owner and one validated artifact, before anything was started. -/
def freshPlatform : DatabaseConfig where
  store :=
    { store :=
        { projects := [{ id := 1, workspaceId := 1, name := "shop" }]
          memberships := [{ userId := 1, workspaceId := 1, role := .owner }]
          migrationArtifacts :=
            [{ id := 1
               projectId := 1
               sourceRunId := 1
               validated := true
               schemaHash := "5ac"
               destructive := false }] } }
  threads := []

/-- A thread makes `n` calls that take effect, at one point in time; `id` is generated. -/
def proceeds (thread n : Nat) (now : Date) (id : Uuid) : List databaseSystem.Move :=
  List.replicate n (.act thread { now, id, operationId := 8 })

/-- A call of a thread is refused. -/
def refused (thread : Nat) : databaseSystem.Move :=
  .act thread { fate := .aborts (.error "Queue unavailable") }

lemma freshPlatform_starts : Starts freshPlatform :=
  ⟨rfl, rfl, rfl⟩

end Schedules

end AtomsPlatform.Database
