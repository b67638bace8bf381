import AtomsPlatform.Database.Model

/-!
# Database operation repository

The transactions of the worker's `PrismaDatabaseOperationRepository`. Each is guarded by a read or by
the `where` clause of its update; all but `fail` give up when their guard matches no row.
-/

namespace AtomsPlatform.Database

/-- Source `DatabaseExecutionRecord`: what an execution carries from its claim to its last write. -/
structure DatabaseExecutionRecord where
  id : Uuid
  operationId : Uuid
  workspaceId : Uuid
  projectId : Uuid
  displayName : String
  region : String
  externalId : Option String
  connectionSecretRef : Option String
  status : DatabaseInstanceStatus
  operationVersion : Nat
  migrationArtifact : MigrationArtifact
deriving DecidableEq, Repr

/-- Source `DatabaseProvisionResult`. -/
structure DatabaseProvisionResult where
  externalId : String
  databaseName : String
  region : String
  connectionSecretRef : String
deriving DecidableEq, Repr

/-- Source `DatabaseClaimResult`. -/
inductive DatabaseClaimResult where
  | ready :
    DatabaseExecutionRecord → DatabaseClaimResult
  | missing : DatabaseClaimResult
  | stale :
    (status : String) → DatabaseClaimResult
deriving DecidableEq, Repr

/-- Source `toExecutionRecord`, for a record whose region and artifact are present. -/
def toExecutionRecord (record : DatabaseInstance) (region : String) (artifact : MigrationArtifact) :
    DatabaseExecutionRecord where
  id := record.id
  operationId := record.operationId
  workspaceId := record.workspaceId
  projectId := record.projectId
  displayName := record.displayName
  region := region
  externalId := record.externalId
  connectionSecretRef := record.connectionSecretRef
  status := record.status.exposed
  operationVersion := record.operationVersion
  migrationArtifact := artifact

/-- Source `appendStatusEvent`. -/
def appendStatusEvent (s : DatabaseStore) (database : DatabaseExecutionRecord)
    (status : DatabaseInstanceStatus) (message : String) : DatabaseStore :=
  s.appendEvent database.migrationArtifact.sourceRunId
    { databaseInstanceId := database.id
      operationId := database.operationId
      operationVersion := database.operationVersion
      status := status
      message := message }

/-- The statuses a provision job gives way to. -/
def settled : DatabaseInstanceStatus → Bool
  | .ready | .active | .deleting | .deleted => true
  | _ => false

/-- Source `claim`. -/
def claim (job : DatabaseOperationJob) (now : Date) : Transaction DatabaseClaimResult := fun s =>
  match s.instance? job.databaseInstanceId with
  | none => .ok (.missing, s)
  | some current =>
    if current.operationId ≠ job.operationId then .ok (.missing, s)
    else if current.operationVersion ≠ job.operationVersion then
      .ok (.stale "OPERATION_VERSION_MISMATCH", s)
    else
      match s.artifactOf current, current.region with
      | some artifact, some region =>
        match job.command with
        | .destroy =>
          if current.status = .deleting then
            let s := s.updateInstance current.id (fun _ => true) fun d =>
              { d with lastHeartbeatAt := some now, attempt := d.attempt + 1 }
            .ok (.ready (toExecutionRecord current region artifact), s)
          else .ok (.stale current.status.name, s)
        | .provision =>
          if settled current.status then .ok (.stale current.status.name, s)
          else
            let data (d : DatabaseInstance) : DatabaseInstance :=
              { d with
                status := .provisioning
                attempt := d.attempt + 1
                lastHeartbeatAt := some now
                error := none }
            let database := toExecutionRecord (data current) region artifact
            let s := s.updateInstance current.id (fun _ => true) data
            let s := appendStatusEvent s database .provisioning
              "Supabase provisioning started or reconciled"
            .ok (.ready database, s)
      | _, _ => .ok (.stale "MISSING_MIGRATION_ARTIFACT", s)

/-- The `where` clause of the guarded updates: the operation, at its version, in a status. -/
def ownedIn (database : DatabaseExecutionRecord) (status : DatabaseInstanceStatus)
    (d : DatabaseInstance) : Bool :=
  d.operationId = database.operationId ∧ d.operationVersion = database.operationVersion ∧
    d.status = status

/-- The first statement of `recordProvisioned`, which counts the rows the execution owns. -/
def countProvisioning (database : DatabaseExecutionRecord) : Transaction Bool := fun s =>
  .ok (s.owns database.id (ownedIn database .provisioning), s)

/-- `secretReference.upsert` of `recordProvisioned`. -/
def upsertSecretReference (s : DatabaseStore) (database : DatabaseExecutionRecord)
    (reference : String) : DatabaseStore :=
  if s.secretReferences.any fun r => r.reference == reference then
    { s with
      secretReferences := Table.update SecretReference.reference reference (fun _ => true)
        (fun r => { r with active := true, revokedAt := none }) s.secretReferences }
  else
    { s with
      secretReferences := s.secretReferences ++
        [{ reference, workspaceId := database.workspaceId, projectId := database.projectId }] }

/-- The statements of `recordProvisioned` after the count. The row may have changed since. -/
def recordProvisioned (database : DatabaseExecutionRecord) (result : DatabaseProvisionResult)
    (now : Date) : Transaction Bool := fun s =>
  let s := upsertSecretReference s database result.connectionSecretRef
  if s.owns database.id (ownedIn database .provisioning) then
    let s := s.updateInstance database.id (ownedIn database .provisioning) fun d =>
      { d with
        externalId := some result.externalId
        databaseName := some result.databaseName
        region := some result.region
        connectionSecretRef := some result.connectionSecretRef
        status := .healthCheck
        lastSyncedAt := some now
        lastHeartbeatAt := some now }
    .ok (true, appendStatusEvent s database .healthCheck
      "Supabase resource exists; waiting for healthy services")
  else .ok (false, s)

/-- Source `recordHealthCheck`. -/
def recordHealthCheck (database : DatabaseExecutionRecord) (message : String) (now : Date) :
    Transaction Bool := fun s =>
  if s.owns database.id (ownedIn database .healthCheck) then
    let s := s.updateInstance database.id (ownedIn database .healthCheck) fun d =>
      { d with lastHeartbeatAt := some now, lastSyncedAt := some now }
    .ok (true, appendStatusEvent s database .healthCheck message)
  else .ok (false, s)

/-- Whether a migration run is the one of an instance and an artifact. -/
def isMigrationRunOf (database : DatabaseExecutionRecord) (m : MigrationRun) : Bool :=
  m.databaseInstanceId = database.id ∧ m.migrationArtifactId = database.migrationArtifact.id

/-- `migrationRun.upsert` of `startMigration`. -/
def upsertMigrationRun (s : DatabaseStore) (database : DatabaseExecutionRecord) (now : Date) :
    DatabaseStore :=
  if s.migrationRuns.any (isMigrationRunOf database) then
    { s with
      migrationRuns := s.migrationRuns.map fun m =>
        if isMigrationRunOf database m then
          { m with status := .running, startedAt := some now, completedAt := none, error := none }
        else m }
  else
    { s with
      migrationRuns := s.migrationRuns ++
        [{ databaseInstanceId := database.id
           migrationArtifactId := database.migrationArtifact.id
           status := .running
           schemaHash := database.migrationArtifact.schemaHash
           destructive := database.migrationArtifact.destructive
           startedAt := some now }] }

/-- Source `startMigration`. -/
def startMigration (database : DatabaseExecutionRecord) (now : Date) : Transaction Bool := fun s =>
  if s.owns database.id (ownedIn database .healthCheck) then
    let s := s.updateInstance database.id (ownedIn database .healthCheck) fun d =>
      { d with status := .migrating, lastHeartbeatAt := some now }
    let s := upsertMigrationRun s database now
    .ok (true, appendStatusEvent s database .migrating
      "Applying forward-only migrations and idempotent seed data in E2B")
  else .ok (false, s)

/-- Source `completeMigration`. Updating a migration run that does not exist is an error. -/
def completeMigration (database : DatabaseExecutionRecord)
    (reports : List DatabaseMigrationStepReport) (now : Date) : Transaction Bool := fun s =>
  if s.owns database.id (ownedIn database .migrating) then
    let s := s.updateInstance database.id (ownedIn database .migrating) fun d =>
      { d with
        status := .ready
        readyAt := some now
        lastHeartbeatAt := some now
        error := none }
    if s.migrationRuns.any (isMigrationRunOf database) then
      let s := { s with
        migrationRuns := s.migrationRuns.map fun m =>
          if isMigrationRunOf database m then
            { m with
              status := .succeeded
              commandResults := reports
              completedAt := some now
              error := none }
          else m }
      .ok (true, appendStatusEvent s database .ready
        "Provisioning, health checks, migration, seed, and connectivity checks passed")
    else .error (.prisma "P2025" "Record to update not found")
  else .ok (false, s)

/-- `secretReference.updateMany` of `completeDestroy`. -/
def revokeSecretReference (s : DatabaseStore) (connectionSecretRef : Option String) (now : Date) :
    DatabaseStore :=
  match connectionSecretRef with
  | some reference =>
    { s with
      secretReferences := Table.update SecretReference.reference reference (fun _ => true)
        (fun r => { r with active := false, revokedAt := some now }) s.secretReferences }
  | none => s

/-- Source `completeDestroy`. -/
def completeDestroy (database : DatabaseExecutionRecord) (now : Date) : Transaction Bool := fun s =>
  if s.owns database.id (ownedIn database .deleting) then
    let s := s.updateInstance database.id (ownedIn database .deleting) fun d =>
      { d with
        status := .deleted
        deletedAt := some now
        lastHeartbeatAt := some now
        connectionSecretRef := none
        error := none }
    let s := revokeSecretReference s database.connectionSecretRef now
    .ok (true, appendStatusEvent s database .deleted
      "Provider resource and stored connection capability were revoked")
  else .ok (false, s)

/-- The `where` clause of `fail`: the operation at its version, in any status. -/
def atVersion (operationId : Uuid) (operationVersion : Nat) (d : DatabaseInstance) : Bool :=
  d.operationId = operationId ∧ d.operationVersion = operationVersion

/-- Source `fail`. Neither the migration runs nor the event depend on how many rows were updated. -/
def fail (database : DatabaseExecutionRecord) (error : OperationError) (now : Date) :
    Transaction Unit := fun s =>
  let s := s.updateInstance database.id (atVersion database.operationId database.operationVersion)
    fun d => { d with status := .failed, error := some error, lastHeartbeatAt := some now }
  let s := { s with
    migrationRuns := s.migrationRuns.map fun m =>
      if m.databaseInstanceId = database.id ∧ (m.status = .queued ∨ m.status = .running) then
        { m with status := .failed, error := some error, completedAt := some now }
      else m }
  .ok ((), appendStatusEvent s database .failed
    "Database operation failed; diagnostics are available without secret values")

end AtomsPlatform.Database
