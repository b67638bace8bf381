import AtomsPlatform.Database.Model

/-!
# Database control repository

The transactions of the control API's `PrismaDatabaseControlRepository`: requesting a database,
requesting its deletion, and marking an operation that could not be enqueued as failed.
-/

namespace AtomsPlatform.Database

/-- Source `DatabaseInstanceRecord`. -/
structure DatabaseInstanceRecord where
  id : Uuid
  operationId : Uuid
  workspaceId : Uuid
  projectId : Uuid
  migrationArtifactId : Uuid
  externalId : Option String
  displayName : String
  databaseName : Option String
  region : String
  status : DatabaseInstanceStatus
  operationVersion : Nat
  attempt : Nat
  recoveryCount : Nat
  error : Option OperationError
  lastHeartbeatAt : Option Date
  lastSyncedAt : Option Date
  readyAt : Option Date
  deletedAt : Option Date
deriving DecidableEq, Repr

/-- Source `toDatabaseRecord`. -/
def toDatabaseRecord (record : DatabaseInstance) : Except Failure DatabaseInstanceRecord :=
  match record.migrationArtifactId, record.region with
  | some migrationArtifactId, some region =>
    .ok
      { id := record.id
        operationId := record.operationId
        workspaceId := record.workspaceId
        projectId := record.projectId
        migrationArtifactId
        externalId := record.externalId
        displayName := record.displayName
        databaseName := record.databaseName
        region
        status := record.status.exposed
        operationVersion := record.operationVersion
        attempt := record.attempt
        recoveryCount := record.recoveryCount
        error := record.error
        lastHeartbeatAt := record.lastHeartbeatAt
        lastSyncedAt := record.lastSyncedAt
        readyAt := record.readyAt
        deletedAt := record.deletedAt }
  | _, _ => .error (.error "Phase 3 database instance is missing its artifact or region")

/-- Source `ProvisionDatabaseInput`. -/
structure ProvisionDatabaseInput where
  migrationArtifactId : Uuid
  region : String
  approveDestructiveChanges : Bool
deriving DecidableEq, Repr

/-- Source `CreateDatabaseOperationResult`. -/
inductive CreateDatabaseOperationResult where
  | ok :
    (database : DatabaseInstanceRecord) → (replayed : Bool) → CreateDatabaseOperationResult
  | projectNotFound
  | artifactNotFound
  | destructiveApprovalRequired
  | idempotencyConflict
deriving DecidableEq, Repr

/-- Source `DestroyDatabaseOperationResult`. -/
inductive DestroyDatabaseOperationResult where
  | ok :
    DatabaseInstanceRecord → DestroyDatabaseOperationResult
  | notFound
  | invalidStatus :
    (status : String) → DestroyDatabaseOperationResult
deriving DecidableEq, Repr

/-- The event of source `appendRunEvent`. -/
def runEvent (database : DatabaseInstance) (status : DatabaseInstanceStatus) (message : String) :
    DatabaseStatusChanged where
  databaseInstanceId := database.id
  operationId := database.operationId
  operationVersion := database.operationVersion
  status := status
  message := message

/-- Whether a user is a member of a workspace. -/
def DatabaseStore.isMember (s : DatabaseStore) (userId workspaceId : Uuid) : Bool :=
  s.memberships.any fun m => m.userId = userId ∧ m.workspaceId = workspaceId

/-- Whether a user is a member of the workspace of a project. -/
def DatabaseStore.reaches (s : DatabaseStore) (userId projectId : Uuid) : Bool :=
  s.projects.any fun p => p.id = projectId ∧ s.isMember userId p.workspaceId

/-- Source `getProjectWorkspaceMembership`. -/
def getProjectWorkspaceMembership (userId projectId : Uuid) : Transaction (Option Membership) :=
  fun s =>
    .ok (s.memberships.find? fun m => m.userId = userId ∧
      s.projects.any (fun p => p.id = projectId ∧ p.archived = false ∧
        p.workspaceId = m.workspaceId), s)

/-- The answer to a request whose idempotency key is taken. -/
def replay (existing : DatabaseInstance) (projectId : Uuid) (input : ProvisionDatabaseInput) :
    Except Failure CreateDatabaseOperationResult :=
  if existing.projectId = projectId ∧
      existing.migrationArtifactId = some input.migrationArtifactId then
    (toDatabaseRecord existing).map fun database => .ok database true
  else .ok .idempotencyConflict

/-- `databaseInstance.findUnique({ where: { idempotencyKey } })` -/
def findByIdempotencyKey (idempotencyKey : String) : Transaction (Option DatabaseInstance) := fun s =>
  .ok (s.instances.find? fun d => d.idempotencyKey == idempotencyKey, s)

/-- The transaction of `createDatabaseOperation`; `id` and `operationId` are generated. -/
def createDatabaseOperation (userId projectId : Uuid) (idempotencyKey : String)
    (input : ProvisionDatabaseInput) (now : Date) (id operationId : Uuid) :
    Transaction CreateDatabaseOperationResult := fun s =>
  match s.instances.find? fun d => d.idempotencyKey == idempotencyKey with
  | some existing => (replay existing projectId input).map fun answer => (answer, s)
  | none =>
    match s.projects.find? fun p =>
      p.id = projectId ∧ p.archived = false ∧ s.isMember userId p.workspaceId with
    | none => .ok (.projectNotFound, s)
    | some project =>
      match s.migrationArtifacts.find? fun a =>
        a.id = input.migrationArtifactId ∧ a.projectId = projectId ∧ a.validated with
      | none => .ok (.artifactNotFound, s)
      | some artifact =>
        if artifact.destructive ∧ ¬ input.approveDestructiveChanges then
          .ok (.destructiveApprovalRequired, s)
        else if s.instances.any fun d => d.id = id ∨ d.operationId = operationId then
          .error (.prisma "P2002" "Unique constraint failed")
        else
          let database : DatabaseInstance :=
            { id
              operationId
              workspaceId := project.workspaceId
              projectId := project.id
              migrationArtifactId := some artifact.id
              idempotencyKey
              displayName := project.name
              region := some input.region
              destructiveApproved := artifact.destructive && input.approveDestructiveChanges
              lastHeartbeatAt := some now }
          let s := { s with instances := s.instances ++ [database] }
          let s := s.appendEvent artifact.sourceRunId
            (runEvent database .queued "Database provisioning queued after explicit confirmation")
          (toDatabaseRecord database).map fun record => (.ok record false, s)

/-- The statuses from which a deletion is accepted. -/
def destroyable : DatabaseInstanceStatus → Bool
  | .ready | .active | .suspended | .failed => true
  | _ => false

/-- Source `requestDatabaseAction`; deletion is the only action. -/
def requestDatabaseAction (userId projectId databaseInstanceId : Uuid) (now : Date) :
    Transaction DestroyDatabaseOperationResult := fun s =>
  match s.instance? databaseInstanceId with
  | none => .ok (.notFound, s)
  | some current =>
    if ¬ (current.projectId = projectId ∧ s.reaches userId projectId) then .ok (.notFound, s)
    else if current.status = .deleting ∨ current.status = .deleted then
      (toDatabaseRecord current).map fun record => (.ok record, s)
    else if destroyable current.status = false then .ok (.invalidStatus current.status.name, s)
    else
      let data (d : DatabaseInstance) : DatabaseInstance :=
        { d with
          status := .deleting
          operationVersion := d.operationVersion + 1
          lastHeartbeatAt := some now
          error := none }
      let s' := s.updateInstance current.id (fun _ => true) data
      let s' := s'.appendEventFor (s.artifactOf current)
        (runEvent (data current) .deleting "Database deletion queued after explicit confirmation")
      (toDatabaseRecord (data current)).map fun record => (.ok record, s')

/-- Source `markDatabaseOperationFailed`. -/
def markDatabaseOperationFailed (databaseInstanceId operationId : Uuid) (operationVersion : Nat)
    (error : OperationError) (now : Date) : Transaction Unit := fun s =>
  .ok ((), s.updateInstance databaseInstanceId
    (fun d => d.operationId = operationId ∧ d.operationVersion = operationVersion)
    fun d => { d with status := .failed, error := some error, lastHeartbeatAt := some now })

end AtomsPlatform.Database
