import AtomsPlatform.Contracts
import AtomsPlatform.Lib.Table
import Mathlib.Logic.Function.Basic

/-!
# Managed databases: data model

The rows that the control API, the database worker and the reconciliation sweep share, and the
operations through which they are changed. An operation is one committed transaction or one call to
a collaborator outside the repository (provider, secret store, migration runner, queue). The answers
of the collaborators, the clock and the generated identifiers come from an `Environment`.
-/

namespace AtomsPlatform.Database

/-- The errors that the modelled code tells apart. -/
inductive Failure where
  /-- `DatabaseProviderError` -/
  | provider :
    (code message : String) → (retryable : Bool) → Failure
  /-- `SecretStoreError` -/
  | secretStore :
    (code message : String) → (retryable : Bool) → Failure
  /-- `DatabaseMigrationError` -/
  | migration :
    (step : String) → (exitCode : Int) → Failure
  /-- An error of the database client, with its code. -/
  | prisma :
    (code message : String) → Failure
  /-- `ApiError` -/
  | api :
    (statusCode : Nat) → (code message : String) → Failure
  /-- Any other `Error`. -/
  | error :
    (message : String) → Failure
  /-- A thrown value that is no `Error`. -/
  | thrown : Failure
deriving DecidableEq, Repr

/-- `error instanceof Error ? error.message : …` -/
def Failure.message? : Failure → Option String
  | .provider _ m _ | .secretStore _ m _ | .prisma _ m | .api _ _ m | .error m => some m
  | .migration step exitCode =>
    some s!"Database migration step {step} exited with code {exitCode}"
  | .thrown => none

/-- Source `isRetryable`. -/
def isRetryable : Failure → Bool
  | .provider _ _ retryable | .secretStore _ _ retryable => retryable
  | _ => false

/-- The JSON stored in the `error` columns; an absent key is `none`. -/
structure OperationError where
  code : String
  message : String
  retryable : Option Bool := none
  step : Option String := none
  exitCode : Option Int := none
deriving DecidableEq, Repr

/-- Source `isRetryableError`. -/
def isRetryableError (error : Option OperationError) : Bool :=
  error.any fun e => e.retryable == some true

/-- Model `DatabaseInstance` of the schema. -/
structure DatabaseInstance where
  id : Uuid
  operationId : Uuid
  workspaceId : Uuid
  projectId : Uuid
  migrationArtifactId : Option Uuid
  idempotencyKey : String
  displayName : String
  region : Option String
  externalId : Option String := none
  databaseName : Option String := none
  connectionSecretRef : Option String := none
  status : DatabaseInstanceStatus := .queued
  operationVersion : Nat := 0
  attempt : Nat := 0
  recoveryCount : Nat := 0
  error : Option OperationError := none
  destructiveApproved : Bool := false
  lastSyncedAt : Option Date := none
  lastHeartbeatAt : Option Date := none
  lastReconciledAt : Option Date := none
  readyAt : Option Date := none
  deletedAt : Option Date := none
deriving DecidableEq, Repr

/-- Model `MigrationArtifact` of the schema. -/
structure MigrationArtifact where
  id : Uuid
  projectId : Uuid
  sourceRunId : Uuid
  validated : Bool
  schemaHash : String
  destructive : Bool
deriving DecidableEq, Repr

/-- Source `MigrationRunStatus`. -/
inductive MigrationRunStatus where
  | queued
  | running
  | succeeded
  | failed
  | blocked
deriving DecidableEq, Repr

/-- Source `DatabaseMigrationStepReport`. -/
structure DatabaseMigrationStepReport where
  ordinal : Nat
  name : String
  command : String
deriving DecidableEq, Repr

/-- Model `MigrationRun` of the schema; there is one row for an instance and an artifact. -/
structure MigrationRun where
  databaseInstanceId : Uuid
  migrationArtifactId : Uuid
  status : MigrationRunStatus
  schemaHash : String
  destructive : Bool
  commandResults : List DatabaseMigrationStepReport := []
  error : Option OperationError := none
  startedAt : Option Date := none
  completedAt : Option Date := none
deriving DecidableEq, Repr

/-- Model `SecretReference` of the schema. -/
structure SecretReference where
  reference : String
  workspaceId : Uuid
  projectId : Uuid
  active : Bool := true
  revokedAt : Option Date := none
deriving DecidableEq, Repr

/-- Source `ManagedDatabaseResource`. -/
structure ManagedDatabaseResource where
  externalId : String
  name : String
  region : Option String := none
  status : Option String := none
  createdAt : Option String := none
deriving DecidableEq, Repr

/-- Source `DatabaseReconciliationFindingKind`. -/
inductive FindingKind where
  | providerResourceMissing
  | orphanProviderResource
  | recoveryExhausted
deriving DecidableEq, Repr

/-- Source `DatabaseReconciliationFindingStatus`. -/
inductive FindingStatus where
  | opened
  | approved
  | cleaning
  | resolved
  | ignored
deriving DecidableEq, Repr

/-- What a finding is about: an instance or a provider resource. -/
inductive StableId where
  | instance :
    Uuid → StableId
  | resource :
    (externalId : String) → StableId
deriving DecidableEq, Repr

/-- Source `findingFingerprint`, before hashing. -/
structure Fingerprint where
  kind : FindingKind
  stableId : StableId
deriving DecidableEq, Repr

/-- Model `DatabaseReconciliationFinding` of the schema. -/
structure Finding where
  id : Uuid
  fingerprint : Fingerprint
  sweepId : Uuid
  status : FindingStatus
  databaseInstanceId : Option Uuid
  externalId : Option String
  resourceName : Option String
  observationCount : Nat := 1
  firstSeenAt : Date
  lastSeenAt : Date
  cleanupAfter : Option Date
  approvedBy : Option Uuid := none
  approvedAt : Option Date := none
  resolvedAt : Option Date := none
  resolution : Option String := none
deriving DecidableEq, Repr

/-- Source `DatabaseReconciliationSweepStatus`. -/
inductive SweepStatus where
  | running
  | succeeded
  | failed
deriving DecidableEq, Repr

/-- Source `DatabaseReconciliationSummary`. -/
structure DatabaseReconciliationSummary where
  recoveredOperations : Nat
  exhaustedOperations : Nat
  missingResources : Nat
  orphanCandidates : Nat
  cleanedResources : Nat
deriving DecidableEq, Repr

/-- Model `DatabaseReconciliationSweep` of the schema. -/
structure Sweep where
  id : Uuid
  status : SweepStatus
  dryRun : Bool
  staleBefore : Date
  orphanGraceBefore : Date
  startedAt : Date
  completedAt : Option Date := none
  error : Option OperationError := none
  summary : Option DatabaseReconciliationSummary := none
deriving DecidableEq, Repr

/-- Source `WorkspaceRole`. -/
inductive WorkspaceRole where
  | owner
  | admin
  | member
deriving DecidableEq, Repr

/-- Model `Project` of the schema. -/
structure Project where
  id : Uuid
  workspaceId : Uuid
  name : String
  archived : Bool := false
deriving DecidableEq, Repr

/-- Model `Membership` of the schema. -/
structure Membership where
  userId : Uuid
  workspaceId : Uuid
  role : WorkspaceRole
deriving DecidableEq, Repr

/-- The tables the three components share, and the event logs of the runs. -/
structure DatabaseStore where
  instances : List DatabaseInstance := []
  migrationArtifacts : List MigrationArtifact := []
  migrationRuns : List MigrationRun := []
  secretReferences : List SecretReference := []
  findings : List Finding := []
  sweeps : List Sweep := []
  projects : List Project := []
  memberships : List Membership := []
  runLogs : Uuid → RunLog DatabaseStatusChanged := fun _ => {}

namespace DatabaseStore

/-- The instance of an id. -/
def instance? (s : DatabaseStore) (id : Uuid) : Option DatabaseInstance :=
  Table.lookup DatabaseInstance.id id s.instances

/-- Whether the instance of an id satisfies a condition (the count of `updateMany`). -/
def owns (s : DatabaseStore) (id : Uuid) (p : DatabaseInstance → Bool) : Bool :=
  Table.holds DatabaseInstance.id id p s.instances

/-- `databaseInstance.updateMany({ where: { id, … }, data })`. -/
def updateInstance (s : DatabaseStore) (id : Uuid) (p : DatabaseInstance → Bool)
    (data : DatabaseInstance → DatabaseInstance) : DatabaseStore :=
  { s with instances := Table.update DatabaseInstance.id id p data s.instances }

/-- The artifact an instance includes. -/
def artifactOf (s : DatabaseStore) (d : DatabaseInstance) : Option MigrationArtifact :=
  d.migrationArtifactId.bind fun id => Table.lookup MigrationArtifact.id id s.migrationArtifacts

/-- Appends a status event to a run's log. -/
def appendEvent (s : DatabaseStore) (runId : Uuid) (event : DatabaseStatusChanged) : DatabaseStore :=
  { s with runLogs := Function.update s.runLogs runId ((s.runLogs runId).append event) }

/-- Appends a status event to the log of the run an artifact came from, if there is an artifact. -/
def appendEventFor (s : DatabaseStore) (artifact : Option MigrationArtifact)
    (event : DatabaseStatusChanged) : DatabaseStore :=
  match artifact with
  | some artifact => s.appendEvent artifact.sourceRunId event
  | none => s

end DatabaseStore

/-- A transaction: it fails and changes nothing, or answers and commits. -/
abbrev Transaction (α : Type) : Type :=
  DatabaseStore → Except Failure (α × DatabaseStore)

end AtomsPlatform.Database
