import AtomsPlatform.Lib.Program
import AtomsPlatform.Database.Repository
import AtomsPlatform.Database.Control
import AtomsPlatform.Database.Reconciliation

/-!
# Programs over the shared store

What the worker, the control API and the sweep do, as programs over `Operation`: `process` for one
delivery of a job, the two database routes, and `reconcile` for one sweep. Errors travel as in the
source: an operation that fails is caught where the source has a `catch`, and nowhere else.
-/

namespace AtomsPlatform.Database
open Interleaving

/-- Source `DatabaseHealthState`. -/
inductive DatabaseHealthState where
  | provisioning
  | healthy
  | unhealthy
deriving DecidableEq, Repr

/-- The name of a health state. -/
def DatabaseHealthState.name : DatabaseHealthState → String
  | .provisioning => "PROVISIONING"
  | .healthy => "HEALTHY"
  | .unhealthy => "UNHEALTHY"

/-- A project file as the migration runner gets it. -/
structure MigrationFile where
  path : String
  content : String
deriving DecidableEq, Repr

/-- The calls the programs make: the clock, one transaction, or one collaborator. -/
inductive Operation where
  | now
  -- `DatabaseOperationRepository`
  | claim (job : DatabaseOperationJob) (now : Date)
  | countProvisioning (database : DatabaseExecutionRecord)
  | recordProvisioned (database : DatabaseExecutionRecord) (result : DatabaseProvisionResult)
      (now : Date)
  | recordHealthCheck (database : DatabaseExecutionRecord) (message : String) (now : Date)
  | startMigration (database : DatabaseExecutionRecord) (now : Date)
  | listProjectFiles (projectId : Uuid)
  | completeMigration (database : DatabaseExecutionRecord)
      (reports : List DatabaseMigrationStepReport) (now : Date)
  | completeDestroy (database : DatabaseExecutionRecord) (now : Date)
  | fail (database : DatabaseExecutionRecord) (error : OperationError) (now : Date)
  -- `DatabaseControlRepository`
  | getProjectWorkspaceMembership (userId projectId : Uuid)
  | createDatabaseOperation (userId projectId : Uuid) (idempotencyKey : String)
      (input : ProvisionDatabaseInput) (now : Date)
  | findByIdempotencyKey (idempotencyKey : String)
  | requestDatabaseAction (userId projectId databaseInstanceId : Uuid) (now : Date)
  | markDatabaseOperationFailed (databaseInstanceId operationId : Uuid) (operationVersion : Nat)
      (error : OperationError) (now : Date)
  -- `DatabaseReconciliationRepository`
  | beginSweep (input : BeginSweepInput)
  | listTrackedResources
  | recoverStaleOperations (input : RecoverInput)
  | findRecoveryDispatch (job : DatabaseOperationJob)
  | recordRecoveryDispatchFailure (current : DatabaseInstance) (error : OperationError) (now : Date)
  | observeMissingResource (sweepId : Uuid) (database : TrackedDatabaseResource) (now : Date)
  | resolveMissingResource (databaseInstanceId : Uuid) (now : Date)
  | observeOrphanResource (sweepId : Uuid) (resource : ManagedDatabaseResource) (now : Date)
      (graceMs : Nat)
  | claimOrphanCleanup (sweepId findingId : Uuid) (externalId : String) (now : Date)
  | releaseOrphanCleanupClaim (findingId : Uuid) (now : Date)
  | resolveOrphanResource (externalId resolution : String) (now : Date)
  | resolveUnseenOrphanResources (seenExternalIds : List String) (now : Date)
  | completeSweep (sweepId : Uuid) (summary : DatabaseReconciliationSummary) (now : Date)
  | failSweep (sweepId : Uuid) (error : OperationError) (now : Date)
  | approveOrphanCleanup (findingId : Uuid) (externalId : String) (approvedBy : Uuid) (now : Date)
  -- `DatabaseProvider`, `SecretStore`, `DatabaseMigrationRunner`, the queue
  | provision (operationId projectId : Uuid) (displayName region : String)
  | listManagedResources
  | getHealth (externalId : String)
  | getEphemeralConnection (externalId connectionSecretRef : String)
  | destroy (externalId : String) (connectionSecretRef : Option String)
  | getSecret (reference : String)
  | revokeSecret (reference : String)
  | migrate (files : List MigrationFile) (connectionUrl : String) (database : DatabaseExecutionRecord)
  | enqueue (job : DatabaseOperationJob)

/-- What a call answers when it does not fail. -/
@[reducible]
def Operation.Answer : Operation → Type
  | .now => Date
  | .claim .. => DatabaseClaimResult
  | .countProvisioning .. | .recordProvisioned .. | .recordHealthCheck .. | .startMigration .. => Bool
  | .listProjectFiles .. => List MigrationFile
  | .completeMigration .. | .completeDestroy .. => Bool
  | .fail .. => Unit
  | .getProjectWorkspaceMembership .. => Option Membership
  | .createDatabaseOperation .. => CreateDatabaseOperationResult
  | .findByIdempotencyKey .. => Option DatabaseInstance
  | .requestDatabaseAction .. => DestroyDatabaseOperationResult
  | .markDatabaseOperationFailed .. => Unit
  | .beginSweep .. => Uuid
  | .listTrackedResources => List TrackedDatabaseResource
  | .recoverStaleOperations .. => DatabaseRecoveryPlan
  | .findRecoveryDispatch .. => Option DatabaseInstance
  | .recordRecoveryDispatchFailure .. | .observeMissingResource .. | .resolveMissingResource .. => Unit
  | .observeOrphanResource .. => OrphanResourceObservation
  | .claimOrphanCleanup .. => Bool
  | .releaseOrphanCleanupClaim .. | .resolveOrphanResource .. => Unit
  | .resolveUnseenOrphanResources .. | .completeSweep .. | .failSweep .. => Unit
  | .approveOrphanCleanup .. => ApproveOrphanCleanupResult
  | .provision .. => DatabaseProvisionResult
  | .listManagedResources => List ManagedDatabaseResource
  | .getHealth .. => DatabaseHealthState
  | .getEphemeralConnection .. => String
  | .destroy .. => Unit
  | .getSecret .. => String
  | .revokeSecret .. => Unit
  | .migrate .. => List DatabaseMigrationStepReport
  | .enqueue .. => Unit

/-- Programs over the shared store. -/
abbrev Program (α : Type) : Type :=
  Fallible Operation Operation.Answer Failure α

/-- The program that makes one call. -/
abbrev call (o : Operation) : Program o.Answer :=
  invoke o

/-- Source `toDatabaseError`. -/
def toDatabaseError (error : Failure) : OperationError :=
  match error with
  | .provider code message retryable | .secretStore code message retryable =>
    { code, message, retryable := some retryable }
  | .migration step exitCode =>
    { code := "DATABASE_MIGRATION_FAILED"
      message := s!"Database migration step {step} exited with code {exitCode}"
      retryable := some false
      step := some step
      exitCode := some exitCode }
  | error =>
    { code := "DATABASE_OPERATION_FAILED"
      message := error.message?.getD "Unknown database operation failure"
      retryable := some false }

/-- Source `DatabaseProcessResult`. -/
inductive DatabaseProcessResult where
  | completed
  | failed
  | missing
  | stale
deriving DecidableEq, Repr

/-- The health loop of `process`: `false` when ownership was lost, an error when the services are
    unhealthy or the `remaining` attempts run out. The delay between two polls has no effect. -/
def pollHealth (database : DatabaseExecutionRecord) (externalId : String) (index : Nat) :
    (remaining : Nat) → Program Bool
  | 0 => throw (.provider "DATABASE_HEALTH_TIMEOUT" "Timed out waiting for Supabase health" true)
  | remaining + 1 => do
    let health ← call (.getHealth externalId)
    let now ← call .now
    let recorded ← call
      (.recordHealthCheck database s!"Health poll {index + 1}: {health.name}" now)
    if recorded then
      match health with
      | .unhealthy =>
        throw (.provider "DATABASE_UNHEALTHY" "Supabase services reported unhealthy" true)
      | .healthy => pure true
      | .provisioning => pollHealth database externalId (index + 1) remaining
    else pure false

/-- The migration phase of `process`. The lease is revoked on every way out. -/
def migrateDatabase (database : DatabaseExecutionRecord) (provisioned : DatabaseProvisionResult) :
    Program DatabaseProcessResult := do
  let now ← call .now
  let started ← call (.startMigration database now)
  if started then
    let lease ← call
      (.getEphemeralConnection provisioned.externalId provisioned.connectionSecretRef)
    finallyIgnoring
      (do
        let connectionUrl ← call (.getSecret lease)
        let files ← call (.listProjectFiles database.projectId)
        let steps ← call (.migrate files connectionUrl database)
        let now ← call .now
        let completed ← call (.completeMigration database steps now)
        if completed then pure .completed else pure .stale)
      (call (.revokeSecret lease))
  else pure .stale

/-- The provider's part of the destroy branch of `process`. -/
def destroyResource (database : DatabaseExecutionRecord) : Program Unit :=
  match database.externalId with
  | some externalId => call (.destroy externalId database.connectionSecretRef)
  | none => pure ()

/-- The destroy branch of `process`. -/
def destroyDatabase (database : DatabaseExecutionRecord) : Program DatabaseProcessResult := do
  destroyResource database
  let now ← call .now
  let completed ← call (.completeDestroy database now)
  if completed then pure .completed else pure .stale

/-- The provision branch of `process`. -/
def provisionDatabase (database : DatabaseExecutionRecord) (healthAttempts : Nat) :
    Program DatabaseProcessResult := do
  let provisioned ← call
    (.provision database.operationId database.projectId database.displayName database.region)
  let now ← call .now
  let owned ← call (.countProvisioning database)
  if owned then
    let recorded ← call (.recordProvisioned database provisioned now)
    if recorded then
      let activeDatabase : DatabaseExecutionRecord :=
        { database with
          externalId := some provisioned.externalId
          connectionSecretRef := some provisioned.connectionSecretRef
          status := .healthCheck }
      let healthy ← pollHealth activeDatabase provisioned.externalId 0 healthAttempts
      if healthy then migrateDatabase activeDatabase provisioned else pure .stale
    else pure .stale
  else pure .stale

/-- The `try` block of `process`. -/
def operate (job : DatabaseOperationJob) (database : DatabaseExecutionRecord) (healthAttempts : Nat) :
    Program DatabaseProcessResult :=
  match job.command with
  | .destroy => destroyDatabase database
  | .provision => provisionDatabase database healthAttempts

/-- The `catch` block of `process`. -/
def recordFailure (database : DatabaseExecutionRecord) (attempt maxAttempts : Nat)
    (error : Failure) : Program DatabaseProcessResult := do
  let now ← call .now
  call (.fail database (toDatabaseError error) now)
  if isRetryable error && attempt < maxAttempts then throw error else pure .failed

/-- Source `process`: one delivery of a job. -/
def process (job : DatabaseOperationJob) (attempt maxAttempts healthAttempts : Nat) :
    Program DatabaseProcessResult := do
  let now ← call .now
  let claimed ← call (.claim job now)
  match claimed with
  | .missing => pure .missing
  | .stale _ => pure .stale
  | .ready database =>
    tryCatch (operate job database healthAttempts) (recordFailure database attempt maxAttempts)

end AtomsPlatform.Database
