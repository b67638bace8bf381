import AtomsPlatform.Database.Processor

/-!
# Database routes and reconciliation sweep

The two mutating database routes of the control API, the operator's approval, and `reconcile`.
-/

namespace AtomsPlatform.Database
open Interleaving

/-- Source `requireAdministrativeRole`. -/
def requireAdministrativeRole (role : WorkspaceRole) : Program Unit :=
  match role with
  | .owner | .admin => pure ()
  | .member =>
    throw (.api 403 "INSUFFICIENT_WORKSPACE_ROLE"
      "The workspace role does not allow this operation")

/-- The membership check both routes start with. -/
def authorize (userId projectId : Uuid) : Program Unit := do
  let membership ← call (.getProjectWorkspaceMembership userId projectId)
  match membership with
  | none => throw (.api 404 "WORKSPACE_ACCESS_DENIED" "Workspace access denied")
  | some membership => requireAdministrativeRole membership.role

/-- Enqueues a job for a record, and marks the operation as failed when that is not possible. -/
def enqueueOrMarkFailed (database : DatabaseInstanceRecord) (command : DatabaseOperationCommand)
    (unavailable : String) : Program Unit :=
  tryCatch
    (call (.enqueue
      { operationId := database.operationId
        databaseInstanceId := database.id
        command
        operationVersion := database.operationVersion }))
    fun error => do
      let now ← call .now
      call (.markDatabaseOperationFailed database.id database.operationId database.operationVersion
        { code := "DATABASE_QUEUE_ENQUEUE_FAILED"
          message := error.message?.getD "Queue unavailable" } now)
      throw (.api 503 "DATABASE_QUEUE_UNAVAILABLE" unavailable)

/-- The codes of a unique violation and of a write conflict. -/
def isConflict : Failure → Bool
  | .prisma code _ => code = "P2002" || code = "P2034"
  | _ => false

/-- Source `createDatabaseOperation`: after a conflict, the request is answered from the row that has
    the idempotency key. -/
def requestDatabase (userId projectId : Uuid) (idempotencyKey : String)
    (input : ProvisionDatabaseInput) (now : Date) : Program CreateDatabaseOperationResult :=
  tryCatch (call (.createDatabaseOperation userId projectId idempotencyKey input now)) fun error =>
    if isConflict error then do
      let existing ← call (.findByIdempotencyKey idempotencyKey)
      match existing with
      | none => throw error
      | some existing =>
        match replay existing projectId input with
        | .ok answer => pure answer
        | .error error => throw error
    else throw error

/-- Source route `provisionProjectDatabase`. -/
def provisionProjectDatabase (userId projectId : Uuid) (idempotencyKey : String)
    (input : ProvisionDatabaseInput) : Program DatabaseInstanceRecord := do
  authorize userId projectId
  let now ← call .now
  let result ← requestDatabase userId projectId idempotencyKey input now
  match result with
  | .projectNotFound => throw (.api 404 "PROJECT_NOT_FOUND" "Project not found")
  | .artifactNotFound =>
    throw (.api 404 "MIGRATION_ARTIFACT_NOT_FOUND"
      "A validated David migration artifact was not found")
  | .destructiveApprovalRequired =>
    throw (.api 409 "DESTRUCTIVE_MIGRATION_APPROVAL_REQUIRED"
      "The schema diff contains destructive changes and requires explicit approval")
  | .idempotencyConflict =>
    throw (.api 409 "IDEMPOTENCY_KEY_CONFLICT"
      "The idempotency key was already used for another operation")
  | .ok database replayed =>
    if replayed = false ∧ database.status = .queued then
      enqueueOrMarkFailed database .provision
        "Database operation was persisted but could not be enqueued"
    pure database

/-- Source route `controlProjectDatabase`. -/
def controlProjectDatabase (userId projectId databaseInstanceId : Uuid) :
    Program DatabaseInstanceRecord := do
  authorize userId projectId
  let now ← call .now
  let result ← call (.requestDatabaseAction userId projectId databaseInstanceId now)
  match result with
  | .notFound => throw (.api 404 "DATABASE_NOT_FOUND" "Database not found")
  | .invalidStatus status =>
    throw (.api 409 "DATABASE_ACTION_CONFLICT" s!"Database cannot be destroyed from {status}")
  | .ok database =>
    if database.status = .deleting then
      enqueueOrMarkFailed database .destroy
        "Database deletion was persisted but could not be enqueued"
    pure database

/-- Source `DatabaseReconcilerOptions`, with the defaults of the constructor. -/
structure ReconcilerOptions where
  staleAfterMs : Nat := 20 * 60000
  orphanGraceMs : Nat := 24 * 60 * 60000
  abandonedSweepAfterMs : Nat := 30 * 60000
  maxRecoveryAttempts : Nat := 3
  recoveryBatchSize : Nat := 100
  cleanupApprovedOrphans : Bool := false
deriving DecidableEq, Repr

/-- Source `toReconciliationError`. -/
def toReconciliationError (error : Failure) (fallbackCode : String) : OperationError :=
  match error with
  | .provider code message retryable => { code, message, retryable := some retryable }
  | error =>
    { code := fallbackCode
      message := error.message?.getD "Unknown reconciliation error"
      retryable := some true }

/-- Source `recordRecoveryDispatchFailure`. -/
def noteDispatchFailure (job : DatabaseOperationJob) (error : OperationError) (now : Date) :
    Program Unit := do
  let current ← call (.findRecoveryDispatch job)
  match current with
  | none => pure ()
  | some current => call (.recordRecoveryDispatchFailure current error now)

/-- The dispatch loop of `reconcile`: the number of jobs enqueued. -/
def dispatchRecovery : List DatabaseOperationJob → Program Nat
  | [] => pure 0
  | job :: jobs => do
    tryCatch (call (.enqueue job)) fun error => do
      let now ← call .now
      noteDispatchFailure job (toReconciliationError error "DATABASE_RECOVERY_ENQUEUE_FAILED") now
      throw error
    let recovered ← dispatchRecovery jobs
    pure (recovered + 1)

/-- The loop of `reconcile` over the tracked resources: the number of missing ones. -/
def checkTracked (sweepId : Uuid) (present : List String) :
    List TrackedDatabaseResource → Program Nat
  | [] => pure 0
  | tracked :: rest => do
    let now ← call .now
    if present.contains tracked.externalId then
      call (.resolveMissingResource tracked.databaseInstanceId now)
      checkTracked sweepId present rest
    else
      call (.observeMissingResource sweepId tracked now)
      let missing ← checkTracked sweepId present rest
      pure (missing + 1)

/-- The cleanup of one orphan: whether it was destroyed. -/
def cleanUpOrphan (options : ReconcilerOptions) (sweepId : Uuid) (resource : ManagedDatabaseResource)
    (observation : OrphanResourceObservation) : Program Bool := do
  let now ← call .now
  let eligible := observation.status = .approved ∧ 2 ≤ observation.observationCount ∧
    observation.cleanupAfter ≤ now
  if options.cleanupApprovedOrphans ∧ eligible then
    let now ← call .now
    let claimed ← call (.claimOrphanCleanup sweepId observation.findingId resource.externalId now)
    if claimed then
      tryCatch (call (.destroy resource.externalId none)) fun error => do
        let now ← call .now
        call (.releaseOrphanCleanupClaim observation.findingId now)
        throw error
      let now ← call .now
      call (.resolveOrphanResource resource.externalId "DELETED_AFTER_APPROVAL" now)
      pure true
    else pure false
  else pure false

/-- The loop of `reconcile` over the provider's resources: orphans seen and orphans destroyed. -/
def checkOrphans (options : ReconcilerOptions) (sweepId : Uuid) (tracked : List String) :
    List ManagedDatabaseResource → Program (Nat × Nat)
  | [] => pure (0, 0)
  | resource :: rest => do
    let now ← call .now
    if tracked.contains resource.externalId then
      call (.resolveOrphanResource resource.externalId "ADOPTED" now)
      checkOrphans options sweepId tracked rest
    else
      let observation ← call (.observeOrphanResource sweepId resource now options.orphanGraceMs)
      let cleaned ← cleanUpOrphan options sweepId resource observation
      let (orphans, destroyed) ← checkOrphans options sweepId tracked rest
      pure (orphans + 1, if cleaned then destroyed + 1 else destroyed)

/-- The `try` block of `reconcile`. -/
def sweep (options : ReconcilerOptions) (sweepId : Uuid) (staleBefore : Date) :
    Program DatabaseReconciliationSummary := do
  let providerResources ← call .listManagedResources
  let trackedResources ← call .listTrackedResources
  let now ← call .now
  let recovery ← call (.recoverStaleOperations
    { sweepId
      staleBefore
      now
      maxRecoveryAttempts := options.maxRecoveryAttempts
      limit := options.recoveryBatchSize })
  let recoveredOperations ← dispatchRecovery recovery.dispatches
  let seen := providerResources.map ManagedDatabaseResource.externalId
  let missingResources ← checkTracked sweepId seen trackedResources
  let (orphanCandidates, cleanedResources) ← checkOrphans options sweepId
    (trackedResources.map TrackedDatabaseResource.externalId) providerResources
  let now ← call .now
  call (.resolveUnseenOrphanResources seen now)
  let summary : DatabaseReconciliationSummary :=
    { recoveredOperations
      exhaustedOperations := recovery.exhaustedOperations
      missingResources
      orphanCandidates
      cleanedResources }
  let now ← call .now
  call (.completeSweep sweepId summary now)
  pure summary

/-- The `catch` block of `reconcile`. -/
def abandonSweep (sweepId : Uuid) (error : Failure) : Program DatabaseReconciliationSummary := do
  let now ← call .now
  tryCatch (call (.failSweep sweepId
    (toReconciliationError error "DATABASE_RECONCILIATION_FAILED") now)) fun _ => pure ()
  throw error

/-- Source `beginSweep`: `none` when another sweep holds the lease. -/
def takeSweepLease (input : BeginSweepInput) : Program (Option Uuid) :=
  tryCatch
    (do
      let sweepId ← call (.beginSweep input)
      pure (some sweepId))
    fun error => if isConflict error then pure none else throw error

/-- Source `reconcile`; `none` when the sweep was skipped. -/
def reconcile (options : ReconcilerOptions) : Program (Option DatabaseReconciliationSummary) := do
  let startedAt ← call .now
  let staleBefore := startedAt - options.staleAfterMs
  let begun ← takeSweepLease
    { now := startedAt
      staleBefore
      orphanGraceBefore := startedAt - options.orphanGraceMs
      abandonedSweepBefore := startedAt - options.abandonedSweepAfterMs
      dryRun := !options.cleanupApprovedOrphans }
  match begun with
  | none => pure none
  | some sweepId => do
    let summary ← tryCatch (sweep options sweepId staleBefore) (abandonSweep sweepId)
    pure (some summary)

/-- Source `approveOrphanCleanup`. -/
def approveCleanup (findingId : Uuid) (externalId : String) (approvedBy : Uuid) :
    Program ApproveOrphanCleanupResult := do
  let now ← call .now
  call (.approveOrphanCleanup findingId externalId approvedBy now)

end AtomsPlatform.Database
