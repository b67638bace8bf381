import AtomsPlatform.Database.Model
import Mathlib.Data.List.Sort

/-!
# Database reconciliation repository

The transactions of the sweep's `PrismaDatabaseReconciliationRepository`: taking the sweep lease,
fencing and re-dispatching stale operations, and the findings about resources that are missing at the
provider or unknown to the platform.
-/

namespace AtomsPlatform.Database

/-- Source `RECOVERABLE_STATUSES`. -/
def recoverable : DatabaseInstanceStatus → Bool
  | .queued | .provisioning | .healthCheck | .migrating | .deleting | .failed => true
  | .ready | .active | .suspended | .deleted => false

/-- The event of source `appendIntegrationEvent`. -/
def integrationEvent (d : DatabaseInstance) (operationVersion : Nat)
    (status : DatabaseInstanceStatus) (message : String) : DatabaseStatusChanged where
  databaseInstanceId := d.id
  operationId := d.operationId
  operationVersion := operationVersion
  status := status
  message := message

/-- Source `FindingInput`. -/
structure FindingInput where
  sweepId : Uuid
  fingerprint : Fingerprint
  databaseInstanceId : Option Uuid
  externalId : Option String
  resourceName : Option String
  now : Date
  cleanupAfter : Option Date

/-- The row `observeFinding` leaves behind, from the row it found. -/
def observed (id : Uuid) (input : FindingInput) (existing : Option Finding) : Finding :=
  match existing with
  | none =>
    { id
      fingerprint := input.fingerprint
      sweepId := input.sweepId
      status := .opened
      databaseInstanceId := input.databaseInstanceId
      externalId := input.externalId
      resourceName := input.resourceName
      firstSeenAt := input.now
      lastSeenAt := input.now
      cleanupAfter := input.cleanupAfter }
  | some f =>
    if f.status = .resolved then
      { f with
        sweepId := input.sweepId
        status := .opened
        databaseInstanceId := input.databaseInstanceId
        externalId := input.externalId
        resourceName := input.resourceName
        observationCount := 1
        firstSeenAt := input.now
        lastSeenAt := input.now
        cleanupAfter := input.cleanupAfter
        approvedBy := none
        approvedAt := none
        resolvedAt := none
        resolution := none }
    else
      { f with
        sweepId := input.sweepId
        databaseInstanceId := input.databaseInstanceId
        externalId := input.externalId
        resourceName := input.resourceName
        observationCount := f.observationCount + 1
        lastSeenAt := input.now }

/-- Source `observeFinding`; `id` is generated for a new finding. -/
def observeFinding (id : Uuid) (input : FindingInput) (s : DatabaseStore) : Finding × DatabaseStore :=
  let existing := Table.lookup Finding.fingerprint input.fingerprint s.findings
  let finding := observed id input existing
  match existing with
  | none => (finding, { s with findings := s.findings ++ [finding] })
  | some _ =>
    (finding, { s with
      findings := Table.update Finding.fingerprint input.fingerprint (fun _ => true)
        (fun _ => finding) s.findings })

/-- `databaseReconciliationFinding.updateMany({ where, data })` -/
def updateFindings (s : DatabaseStore) (p : Finding → Bool) (data : Finding → Finding) :
    DatabaseStore :=
  { s with findings := s.findings.map fun f => if p f then data f else f }

/-- The input of `beginSweep`. -/
structure BeginSweepInput where
  now : Date
  staleBefore : Date
  orphanGraceBefore : Date
  abandonedSweepBefore : Date
  dryRun : Bool
deriving DecidableEq, Repr

/-- The transaction of `beginSweep`. At most one sweep is running: the partial unique index on
    `databaseReconciliationSweep` refuses a second one. -/
def beginSweep (input : BeginSweepInput) (id : Uuid) : Transaction Uuid := fun s =>
  let sweeps := s.sweeps.map fun w =>
    if w.status = .running ∧ w.startedAt ≤ input.abandonedSweepBefore then
      { w with
        status := .failed
        completedAt := some input.now
        error := some
          { code := "ABANDONED_RECONCILIATION_SWEEP"
            message := "The previous sweep exceeded its execution lease"
            retryable := some true } }
    else w
  let s := { s with sweeps }
  let s := updateFindings s
    (fun f => f.status = .cleaning ∧ s.sweeps.any fun w => w.id = f.sweepId ∧ w.status ≠ .running)
    (fun f => { f with status := .approved })
  if s.sweeps.any fun w => w.status = .running ∨ w.id = id then
    .error (.prisma "P2002" "Unique constraint failed")
  else
    let sweep : Sweep :=
      { id
        status := .running
        dryRun := input.dryRun
        staleBefore := input.staleBefore
        orphanGraceBefore := input.orphanGraceBefore
        startedAt := input.now }
    .ok (id, { s with sweeps := s.sweeps ++ [sweep] })

/-- Source `TrackedDatabaseResource`. -/
structure TrackedDatabaseResource where
  databaseInstanceId : Uuid
  operationId : Uuid
  operationVersion : Nat
  projectId : Uuid
  sourceRunId : Uuid
  externalId : String
  status : DatabaseInstanceStatus
deriving DecidableEq, Repr

/-- Source `listTrackedResources`. -/
def listTrackedResources : Transaction (List TrackedDatabaseResource) := fun s =>
  .ok (s.instances.filterMap fun d =>
    match d.externalId, s.artifactOf d with
    | some externalId, some artifact =>
      if d.status = .deleted then none
      else some
        { databaseInstanceId := d.id
          operationId := d.operationId
          operationVersion := d.operationVersion
          projectId := d.projectId
          sourceRunId := artifact.sourceRunId
          externalId
          status := d.status.exposed }
    | _, _ => none, s)

/-- The input of `recoverStaleOperations`. -/
structure RecoverInput where
  sweepId : Uuid
  staleBefore : Date
  now : Date
  maxRecoveryAttempts : Nat
  limit : Nat
deriving DecidableEq, Repr

/-- Source `DatabaseRecoveryPlan`. -/
structure DatabaseRecoveryPlan where
  dispatches : List DatabaseOperationJob := []
  exhaustedOperations : Nat := 0
deriving DecidableEq, Repr

/-- The order `lastHeartbeatAt: "asc"`, with absent dates last. -/
def heartbeatLe (d e : DatabaseInstance) : Bool :=
  match d.lastHeartbeatAt, e.lastHeartbeatAt with
  | some x, some y => x ≤ y
  | some _, none => true
  | none, some _ => false
  | none, none => true

/-- Whether an instance may be picked up: a recoverable status and no recent heartbeat. -/
def isStale (staleBefore : Date) (d : DatabaseInstance) : Bool :=
  recoverable d.status && d.lastHeartbeatAt.all fun t => t ≤ staleBefore

/-- The candidates of a sweep, oldest heartbeat first, rows of one heartbeat in order of creation. -/
def recoveryCandidates (input : RecoverInput) (s : DatabaseStore) : List DatabaseInstance :=
  ((s.instances.filter (isStale input.staleBefore)).insertionSort
    fun d e => heartbeatLe d e = true).take input.limit

/-- `candidate.status === "DELETING" ? "destroy" : "provision"` -/
def recoveryCommand (status : DatabaseInstanceStatus) : DatabaseOperationCommand :=
  if status = .deleting then .destroy else .provision

/-- The branch of `recoverStaleOperations` for a candidate without attempts left. -/
def exhaustCandidate (input : RecoverInput) (findingId : Uuid) (candidate : DatabaseInstance)
    (plan : DatabaseRecoveryPlan) (s : DatabaseStore) : DatabaseRecoveryPlan × DatabaseStore :=
  let unchanged (d : DatabaseInstance) : Bool :=
    d.operationVersion = candidate.operationVersion ∧ d.recoveryCount = candidate.recoveryCount
  if s.owns candidate.id unchanged then
    let s := s.updateInstance candidate.id unchanged fun d =>
      { d with
        status := .failed
        lastReconciledAt := some input.now
        lastHeartbeatAt := some input.now
        error := some
          { code := "DATABASE_RECOVERY_EXHAUSTED"
            message := "Automatic database recovery attempts were exhausted"
            retryable := some false } }
    let s := (observeFinding findingId
      { sweepId := input.sweepId
        fingerprint := ⟨.recoveryExhausted, .instance candidate.id⟩
        databaseInstanceId := some candidate.id
        externalId := candidate.externalId
        resourceName := some candidate.displayName
        now := input.now
        cleanupAfter := none } s).2
    let s := s.appendEventFor (s.artifactOf candidate)
      (integrationEvent candidate candidate.operationVersion .failed
        "Automatic recovery attempts were exhausted; operator action is required")
    ({ plan with exhaustedOperations := plan.exhaustedOperations + 1 }, s)
  else (plan, s)

/-- The `where` clause of the fencing update: the row is as it was read. -/
def unchangedSince (candidate d : DatabaseInstance) : Bool :=
  d.operationVersion = candidate.operationVersion ∧ d.recoveryCount = candidate.recoveryCount ∧
    d.status = candidate.status

/-- The `data` of the fencing update. -/
def fenceInstance (candidate : DatabaseInstance) (now : Date) (d : DatabaseInstance) :
    DatabaseInstance :=
  { d with
    operationVersion := candidate.operationVersion + 1
    recoveryCount := d.recoveryCount + 1
    lastReconciledAt := some now
    lastHeartbeatAt := some now }

/-- The job that recovers a candidate. -/
def recoveryJob (candidate : DatabaseInstance) : DatabaseOperationJob where
  operationId := candidate.operationId
  databaseInstanceId := candidate.id
  operationVersion := candidate.operationVersion + 1
  command := recoveryCommand candidate.status

/-- The branch of `recoverStaleOperations` that fences a candidate and dispatches it again. -/
def dispatchCandidate (input : RecoverInput) (candidate : DatabaseInstance)
    (plan : DatabaseRecoveryPlan) (s : DatabaseStore) : DatabaseRecoveryPlan × DatabaseStore :=
  if s.owns candidate.id (unchangedSince candidate) then
    let s := s.updateInstance candidate.id (unchangedSince candidate)
      (fenceInstance candidate input.now)
    let s := s.appendEventFor (s.artifactOf candidate)
      (integrationEvent candidate (candidate.operationVersion + 1) candidate.status
        ("Reconciliation fenced the stale execution and dispatched recovery " ++
          toString (candidate.recoveryCount + 1)))
    ({ plan with dispatches := plan.dispatches ++ [recoveryJob candidate] }, s)
  else (plan, s)

/-- One iteration of `recoverStaleOperations`. -/
def recoverCandidate (input : RecoverInput) (findingIds : Uuid → Uuid)
    (acc : DatabaseRecoveryPlan × DatabaseStore) (candidate : DatabaseInstance) :
    DatabaseRecoveryPlan × DatabaseStore :=
  if candidate.status = .failed ∧ isRetryableError candidate.error = false then acc
  else if input.maxRecoveryAttempts ≤ candidate.recoveryCount then
    exhaustCandidate input (findingIds candidate.id) candidate acc.1 acc.2
  else dispatchCandidate input candidate acc.1 acc.2

/-- Source `recoverStaleOperations`; `findingIds` generates identifiers for new findings. -/
def recoverStaleOperations (input : RecoverInput) (findingIds : Uuid → Uuid) :
    Transaction DatabaseRecoveryPlan := fun s =>
  .ok ((recoveryCandidates input s).foldl (recoverCandidate input findingIds) ({}, s))

/-- The first statement of `recordRecoveryDispatchFailure`. -/
def findRecoveryDispatch (job : DatabaseOperationJob) : Transaction (Option DatabaseInstance) :=
  fun s =>
    .ok ((s.instance? job.databaseInstanceId).filter fun d =>
      d.operationId = job.operationId ∧ d.operationVersion = job.operationVersion, s)

/-- The statements of `recordRecoveryDispatchFailure` after the read, for the row it returned. The
    update names the row by its id alone, and the row may have changed since the read. -/
def recordRecoveryDispatchFailure (current : DatabaseInstance) (error : OperationError) (now : Date) :
    Transaction Unit := fun s =>
  if s.owns current.id fun _ => true then
    let s := s.updateInstance current.id (fun _ => true) fun d =>
      { d with
        status := .failed
        error := some error
        lastHeartbeatAt := some now
        lastReconciledAt := some now }
    .ok ((), s.appendEventFor (s.artifactOf current)
      (integrationEvent current current.operationVersion .failed
        "Recovery dispatch failed before a worker could claim it"))
  else .error (.prisma "P2025" "Record to update not found")

/-- Source `observeMissingResource`. -/
def observeMissingResource (sweepId : Uuid) (database : TrackedDatabaseResource) (now : Date)
    (findingId : Uuid) : Transaction Unit := fun s =>
  let (finding, s) := observeFinding findingId
    { sweepId
      fingerprint := ⟨.providerResourceMissing, .instance database.databaseInstanceId⟩
      databaseInstanceId := some database.databaseInstanceId
      externalId := some database.externalId
      resourceName := none
      now
      cleanupAfter := none } s
  let vanished (d : DatabaseInstance) : Bool :=
    d.operationVersion = database.operationVersion ∧
      (d.status = .ready ∨ d.status = .active ∨ d.status = .suspended)
  if finding.observationCount < 2 then .ok ((), s)
  else if database.status ≠ .ready ∧ database.status ≠ .suspended then .ok ((), s)
  else if s.owns database.databaseInstanceId vanished then
    let s := s.updateInstance database.databaseInstanceId vanished fun d =>
      { d with
        status := .failed
        lastReconciledAt := some now
        error := some
          { code := "DATABASE_PROVIDER_RESOURCE_MISSING"
            message := "The tracked provider resource was absent in two consecutive inventories"
            retryable := some false } }
    .ok ((), s.appendEvent database.sourceRunId
      { databaseInstanceId := database.databaseInstanceId
        operationId := database.operationId
        operationVersion := database.operationVersion
        status := .failed
        message := "Provider resource is missing; no automatic replacement was created" })
  else .ok ((), s)

/-- Source `resolveMissingResource`. -/
def resolveMissingResource (databaseInstanceId : Uuid) (now : Date) : Transaction Unit := fun s =>
  .ok ((), updateFindings s
    (fun f => f.databaseInstanceId = some databaseInstanceId ∧
      f.fingerprint.kind = .providerResourceMissing ∧ (f.status = .opened ∨ f.status = .approved))
    fun f =>
      { f with
        status := .resolved
        resolvedAt := some now
        resolution := some "PROVIDER_RESOURCE_PRESENT" })

/-- Source `OrphanResourceObservation`. -/
structure OrphanResourceObservation where
  findingId : Uuid
  status : FindingStatus
  observationCount : Nat
  cleanupAfter : Date
deriving DecidableEq, Repr

/-- Source `observeOrphanResource`. -/
def observeOrphanResource (sweepId : Uuid) (resource : ManagedDatabaseResource) (now : Date)
    (graceMs : Nat) (findingId : Uuid) : Transaction OrphanResourceObservation := fun s =>
  let (finding, s) := observeFinding findingId
    { sweepId
      fingerprint := ⟨.orphanProviderResource, .resource resource.externalId⟩
      databaseInstanceId := none
      externalId := some resource.externalId
      resourceName := some resource.name
      now
      cleanupAfter := some (now + graceMs) } s
  match finding.cleanupAfter with
  | none => .error (.error "Orphan finding is missing its cleanup boundary")
  | some cleanupAfter =>
    .ok (⟨finding.id, finding.status, finding.observationCount, cleanupAfter⟩, s)

/-- Source `claimOrphanCleanup`. -/
def claimOrphanCleanup (sweepId findingId : Uuid) (externalId : String) (now : Date) :
    Transaction Bool := fun s =>
  let claimable (f : Finding) : Bool :=
    f.id = findingId ∧ f.sweepId = sweepId ∧ f.fingerprint.kind = .orphanProviderResource ∧
      f.status = .approved ∧ f.externalId = some externalId ∧ 2 ≤ f.observationCount ∧
      f.cleanupAfter.any fun t => t ≤ now
  if (s.sweeps.any fun w => w.id = sweepId ∧ w.status = .running) = false then .ok (false, s)
  else if s.findings.any claimable = false then .ok (false, s)
  else if s.instances.any fun d => d.externalId = some externalId ∧ d.status ≠ .deleted then
    .ok (false, s)
  else
    .ok (true, updateFindings s claimable fun f =>
      { f with status := .cleaning, lastSeenAt := now })

/-- Source `releaseOrphanCleanupClaim`. -/
def releaseOrphanCleanupClaim (findingId : Uuid) (now : Date) : Transaction Unit := fun s =>
  .ok ((), updateFindings s (fun f => f.id = findingId ∧ f.status = .cleaning) fun f =>
    { f with status := .approved, lastSeenAt := now })

/-- The findings about orphans that are not settled yet. -/
def Finding.isOpenOrphan (f : Finding) : Bool :=
  f.fingerprint.kind = .orphanProviderResource ∧
    (f.status = .opened ∨ f.status = .approved ∨ f.status = .cleaning)

/-- Source `resolveOrphanResource`. -/
def resolveOrphanResource (externalId resolution : String) (now : Date) : Transaction Unit := fun s =>
  .ok ((), updateFindings s (fun f => f.isOpenOrphan && f.externalId = some externalId) fun f =>
    { f with status := .resolved, resolution := some resolution, resolvedAt := some now })

/-- Source `resolveUnseenOrphanResources`. -/
def resolveUnseenOrphanResources (seenExternalIds : List String) (now : Date) : Transaction Unit :=
  fun s =>
    .ok ((), updateFindings s
      (fun f => f.isOpenOrphan && f.externalId.any fun id => ¬ seenExternalIds.contains id) fun f =>
      { f with
        status := .resolved
        resolution := some "NO_LONGER_PRESENT"
        resolvedAt := some now })

/-- Source `completeSweep`. -/
def completeSweep (sweepId : Uuid) (summary : DatabaseReconciliationSummary) (now : Date) :
    Transaction Unit := fun s =>
  .ok ((), { s with
    sweeps := Table.update Sweep.id sweepId (fun w => w.status = .running)
      (fun w =>
        { w with
          status := .succeeded
          summary := some summary
          completedAt := some now
          error := none }) s.sweeps })

/-- Source `failSweep`. -/
def failSweep (sweepId : Uuid) (error : OperationError) (now : Date) : Transaction Unit := fun s =>
  .ok ((), { s with
    sweeps := Table.update Sweep.id sweepId (fun w => w.status = .running)
      (fun w => { w with status := .failed, error := some error, completedAt := some now })
      s.sweeps })

/-- Source `ApproveOrphanCleanupResult`. -/
inductive ApproveOrphanCleanupResult where
  | approved :
    (findingId : Uuid) → ApproveOrphanCleanupResult
  | notFound
  | notReady
deriving DecidableEq, Repr

/-- Source `approveOrphanCleanup`. -/
def approveOrphanCleanup (findingId : Uuid) (externalId : String) (approvedBy : Uuid) (now : Date) :
    Transaction ApproveOrphanCleanupResult := fun s =>
  match s.findings.find? fun f =>
    f.id = findingId ∧ f.externalId = some externalId ∧
      f.fingerprint.kind = .orphanProviderResource with
  | none => .ok (.notFound, s)
  | some finding =>
    if finding.status = .approved then .ok (.approved finding.id, s)
    else if finding.status ≠ .opened then .ok (.notReady, s)
    else if finding.observationCount < 2 then .ok (.notReady, s)
    else
      .ok (.approved finding.id, updateFindings s
        (fun f => f.id = finding.id ∧ f.status = .opened ∧ f.externalId = some externalId) fun f =>
        { f with status := .approved, approvedBy := some approvedBy, approvedAt := some now })

end AtomsPlatform.Database
