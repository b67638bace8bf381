import AtomsPlatform.Lib.Mutable
import AtomsPlatform.Lib.Sha256
import AtomsPlatform.Staging.Evidence

/-!
# Staging verifier

`runPhase3ProviderStagingScenario` of the database provider package: the managed resources are listed,
a database is provisioned, waited for, migrated and destroyed, and the managed resources are listed
again. The provider, the secret store, the migration runner, the configured cleanup, the clock and the
sleeps are calls, and any call may fail. What the source keeps in variables of the scenario is the
record `Scenario`, so that what was written before a failure is seen by the cleanup.
-/

namespace AtomsPlatform.Staging
open Interleaving
open Workspace (JsonValue)

section Options

/-- The regions. -/
inductive Region where
  | americas
  | emea
  | apac
deriving DecidableEq, Repr

def Region.text : Region → String
  | .americas => "americas"
  | .emea => "emea"
  | .apac => "apac"

/-- A file of the fixture. -/
structure FixtureFile where
  path : String
  content : String
deriving DecidableEq, Repr

/-- Source `Phase3ProviderStagingScenarioOptions`, as far as they are data. -/
structure ScenarioOptions where
  fixtureFiles : List FixtureFile
  changeTicket : String
  approvedBudgetCadMicros : Int
  workflowRun : Option WorkflowRun := none
  region : Option Region := none
  scenarioId : Option Uuid := none
  projectId : Option Uuid := none
  healthTimeoutMs : Option Int := none
  healthPollIntervalMs : Option Int := none
  cleanupOwnedResource : Bool := false
  inventoryEvidence : Option JsonValue := none

/-- What `ScenarioInputSchema` reads. -/
structure ScenarioInput where
  scenarioId : Uuid
  projectId : Uuid
  changeTicket : String
  approvedBudgetCadMicros : Int
  workflowRun : Option WorkflowRun
  region : Region
  fixtureFiles : List FixtureFile

/-- What is asked of a file whose path is trimmed. -/
def FixtureFile.accepted (file : FixtureFile) : Bool :=
  1 ≤ Utf16.lengthOf file.path && Utf16.lengthOf file.path ≤ 1024 &&
    Utf16.lengthOf file.content ≤ 5000000

/-- Source `ScenarioInputSchema`, of an input whose texts are trimmed. -/
def ScenarioInput.accepted (input : ScenarioInput) : Bool :=
  isChangeTicket input.changeTicket && decide (0 ≤ input.approvedBudgetCadMicros) &&
    decide (input.approvedBudgetCadMicros ≤ maxSafeInteger) &&
    input.workflowRun.all WorkflowRun.accepted &&
    (1 ≤ input.fixtureFiles.length && input.fixtureFiles.length ≤ 1000) &&
    input.fixtureFiles.all FixtureFile.accepted

/-- The input of a scenario with these identifiers. -/
def ScenarioOptions.input (options : ScenarioOptions) (scenarioId projectId : Uuid) :
    ScenarioInput where
  scenarioId
  projectId
  changeTicket := Utf16.trimString options.changeTicket
  approvedBudgetCadMicros := options.approvedBudgetCadMicros
  workflowRun := options.workflowRun
  region := options.region.getD .americas
  fixtureFiles := options.fixtureFiles.map fun file => { file with path := Utf16.trimString file.path }

/-- `healthTimeoutMs`, with its default. -/
def ScenarioOptions.timeout (options : ScenarioOptions) : Int :=
  options.healthTimeoutMs.getD 300000

/-- `healthPollIntervalMs`, with its default. -/
def ScenarioOptions.pollInterval (options : ScenarioOptions) : Int :=
  options.healthPollIntervalMs.getD 5000

/-- What is asked of the two durations. -/
def ScenarioOptions.durationsAccepted (options : ScenarioOptions) : Bool :=
  (5000 ≤ options.timeout && options.timeout ≤ 900000) &&
    (250 ≤ options.pollInterval && options.pollInterval ≤ 30000)

end Options

section Interfaces

/-- Something that was thrown: its code if it is a string, and its message if it is an error. -/
structure Failure where
  code : Option Utf16 := none
  message : Option Utf16 := none
deriving DecidableEq, Repr

/-- Source `DatabaseProvisionInput`. -/
structure ProvisionInput where
  operationId : Uuid
  projectId : Uuid
  displayName : String
  region : Region
deriving DecidableEq, Repr

/-- Source `DatabaseProvisionResult`, as far as the scenario reads it. -/
structure ProvisionResult where
  externalId : String
  region : String
  connectionSecretRef : String
  providerOperationMetadata : List (String × String) := []
deriving DecidableEq, Repr

/-- Source `ManagedDatabaseResource`, as far as the scenario reads it. -/
structure ManagedDatabaseResource where
  externalId : String
deriving DecidableEq, Repr

/-- Source `DatabaseHealthState`. -/
inductive HealthState where
  | provisioning
  | healthy
  | unhealthy
deriving DecidableEq, Repr

def HealthState.text : HealthState → String
  | .provisioning => "PROVISIONING"
  | .healthy => "HEALTHY"
  | .unhealthy => "UNHEALTHY"

/-- Source `DatabaseMigrationStepName`. -/
inductive StepName where
  | install
  | migrate
  | seed
  | connectivity
deriving DecidableEq, Repr

def StepName.text : StepName → String
  | .install => "install"
  | .migrate => "migrate"
  | .seed => "seed"
  | .connectivity => "connectivity"

/-- Source `DatabaseMigrationStepReport`, as far as the scenario reads it. -/
structure StepReport where
  name : StepName
  exitCode : Int
  durationMs : Int
deriving DecidableEq, Repr

/-- How a migration went: the steps that were reported to `onStep`, and what it was rejected with. -/
structure MigrationRun where
  steps : List StepReport
  failure : Option Failure
deriving DecidableEq, Repr

/-- The calls of a scenario. A sleep from which the scenario does not go on is `sleepForever`: it is
    rejected or does not end. -/
inductive Operation where
  | randomUuid
  | now
  | sleep (durationMs : Int)
  | sleepForever (durationMs : Int)
  | listManagedResources
  | provision (input : ProvisionInput)
  | getHealth (externalId : String)
  | getEphemeralConnection (externalId scope connectionSecretRef : String)
  | getSecret (reference : String)
  | revoke (reference : String)
  | migrate (files : List FixtureFile) (connectionUrl : String) (scenarioId : Uuid)
      (changeTicket : String)
  | destroy (externalId connectionSecretRef : String)
  | cleanupOwnedResource (externalId connectionSecretRef : String)
deriving DecidableEq, Repr

/-- What an operation answers: a lease is its reference, a health status its state. -/
def Operation.Answer : Operation → Type
  | .randomUuid => Uuid
  | .now => Date
  | .sleepForever _ => Empty
  | .listManagedResources => List ManagedDatabaseResource
  | .provision _ => ProvisionResult
  | .getHealth _ => HealthState
  | .getEphemeralConnection .. | .getSecret _ => String
  | .migrate .. => MigrationRun
  | .sleep _ | .revoke _ | .destroy .. => Unit
  | .cleanupOwnedResource .. => Option JsonValue

end Interfaces

section Scenario

/-- The variables of source `runPhase3ProviderStagingScenario`. -/
structure Scenario where
  gates : GateName → GateEvidence
  errors : List StagingError := []
  managedResourcesBefore : Nat := 0
  managedResourcesAfter : Nat := 0
  createdResources : Nat := 0
  deletedResources : Nat := 0
  externalId : Option String := none
  externalResourceFingerprint : Option String := none
  connectionSecretRef : Option String := none
  leaseReference : Option String := none
  ownedByScenario : Bool := false
  inventoryBeforeCompleted : Bool := false
  scenarioFailed : Bool := false
  migrationSteps : List StepReport := []
  resourcesBefore : List String := []

/-- The variables at the start: every gate has not run. -/
def Scenario.initial : Scenario where
  gates name := ⟨name, .failed, 0, .object [("reason", .string "not_run")]⟩

/-- Programs with these variables. -/
abbrev Program (α : Type) : Type :=
  Mutable Operation Operation.Answer Failure Scenario α

/-- One call. -/
abbrev call (o : Operation) : Program o.Answer :=
  Mutable.invoke o

/-- Source `stagingError`. -/
def stagingError (code message : String) : Failure :=
  ⟨some (Utf16.ofString code), some (Utf16.ofString message)⟩

/-- The message of what was thrown, with what is said of something that is no error. -/
def Failure.messageOr (error : Failure) (otherwise : String) : Utf16 :=
  error.message.getD (Utf16.ofString otherwise)

/-- Source `toSafeStagingError`. -/
def toSafeStagingError (rules : TextRules) (error : Failure) : StagingError :=
  let rawCode := error.code.getD (Utf16.ofString "PHASE3_STAGING_SCENARIO_FAILED")
  let rawMessage := error.messageOr "The Phase 3 staging scenario failed"
  ⟨if isErrorCode rawCode then rawCode else Utf16.ofString "PHASE3_STAGING_SCENARIO_FAILED",
    (rules.redactEvidenceText rawMessage).take 1000⟩

/-- `scenarioFailed = true` -/
def markFailed : Program Unit :=
  modify fun s => { s with scenarioFailed := true }

/-- `errors.push` -/
def pushError (error : StagingError) : Program Unit :=
  modify fun s => { s with errors := s.errors ++ [error] }

/-- Source `setGate`. -/
def setGate (name : GateName) (status : GateStatus) (gateStartedAt : Date)
    (details : List (String × JsonValue)) : Program Unit := do
  let now : Date ← call .now
  modify fun s => { s with
    gates := Function.update s.gates name
      ⟨name, status, max 0 ((now : Int) - gateStartedAt), .object details⟩ }

end Scenario

section Lifecycle

/-- `budgetWithinTarget` -/
def budgetWithinTarget (input : ScenarioInput) : Bool :=
  decide (0 < input.approvedBudgetCadMicros) &&
    decide (input.approvedBudgetCadMicros ≤ variableCostTargetCadMicros)

/-- The cost gate. -/
def setCostGate (input : ScenarioInput) : Program Unit := do
  let costStartedAt ← call .now
  let within := budgetWithinTarget input
  setGate .variableCost (if within then .pending else .failed) costStartedAt [
    ("reason", .string (if within then "awaiting_post_run_measurement" else "invalid_approved_budget")),
    ("approvedBudgetCadMicros", .number input.approvedBudgetCadMicros),
    ("targetCadMicros", .number variableCostTargetCadMicros)]

/-- The inventory before the scenario. -/
def inventoryBefore (options : ScenarioOptions) : Program Unit := do
  let inventoryStartedAt ← call .now
  let before ← call .listManagedResources
  modify fun s => { s with
    managedResourcesBefore := before.length
    resourcesBefore := before.map ManagedDatabaseResource.externalId
    inventoryBeforeCompleted := true }
  setGate .providerInventoryBefore .passed inventoryStartedAt
    (("managedResourceCount", .number before.length) ::
      (options.inventoryEvidence.map fun evidence => ("scopeAudit", evidence)).toList)

/-- The database of the scenario, with a reference to its secret. -/
def provisionOwned (input : ScenarioInput) : Program (String × String) := do
  let provisionStartedAt ← call .now
  let provisioned ← call (.provision
    ⟨input.scenarioId, input.projectId, "Atoms Phase 3 staging", input.region⟩)
  let externalId := provisioned.externalId
  modify fun s => { s with
    externalId := some externalId
    connectionSecretRef := some provisioned.connectionSecretRef
    externalResourceFingerprint :=
      some (Sha256.hexDigest (externalId.toList.flatMap String.utf8EncodeChar))
    ownedByScenario := decide (externalId ∉ s.resourcesBefore) }
  let s ← get
  if s.ownedByScenario then
    modify fun s => { s with createdResources := 1 }
    setGate .providerProvision .passed provisionStartedAt [
      ("provider", .string "SUPABASE"), ("region", .string provisioned.region),
      ("reconciled", .string
        ((provisioned.providerOperationMetadata.lookup "reconciled").getD "false"))]
    pure (externalId, provisioned.connectionSecretRef)
  else
    setGate .providerProvision .failed provisionStartedAt [
      ("provider", .string "SUPABASE"), ("reason", .string "resource_preexisted")]
    throw (stagingError "STAGING_RESOURCE_PREEXISTED"
      "The deterministic provider resource existed before this scenario")

/-- The details of the health gate. -/
def healthDetails (healthAttempts : Nat) (state : HealthState) : List (String × JsonValue) :=
  [("attempts", .number healthAttempts), ("state", .string state.text)]

/-- Whether the health loop gives up: the clock is read only if the database is not unhealthy. -/
def givesUp (state : HealthState) (healthDeadline : Int) : Program Bool :=
  if state = .unhealthy then pure true
  else do
    let now : Date ← call .now
    pure (decide (healthDeadline ≤ now))

/-- A round of the health loop: whether the database is healthy. -/
def pollHealth (externalId : String) (healthStartedAt : Date) (healthDeadline : Int)
    (healthAttempts : Nat) : Program Bool := do
  let state : HealthState ← call (.getHealth externalId)
  if state = .healthy then
    setGate .providerHealth .passed healthStartedAt (healthDetails healthAttempts state)
    pure true
  else
    let late ← givesUp state healthDeadline
    if late then
      setGate .providerHealth .failed healthStartedAt (healthDetails healthAttempts state)
      throw (stagingError "PROVIDER_HEALTH_TIMEOUT"
        "The staging database did not reach a healthy state")
    else pure false

/-- The health loop: it sleeps as often as `rounds` says, and does not go on from the sleep after. -/
def awaitHealthy (options : ScenarioOptions) (externalId : String) (healthStartedAt : Date)
    (healthDeadline : Int) : (rounds healthAttempts : Nat) → Program Unit
  | 0, healthAttempts => do
    let healthy ← pollHealth externalId healthStartedAt healthDeadline (healthAttempts + 1)
    if healthy then pure ()
    else
      let never ← call (.sleepForever options.pollInterval)
      Empty.elim never
  | rounds + 1, healthAttempts => do
    let healthy ← pollHealth externalId healthStartedAt healthDeadline (healthAttempts + 1)
    if healthy then pure ()
    else
      call (.sleep options.pollInterval)
      awaitHealthy options externalId healthStartedAt healthDeadline rounds (healthAttempts + 1)

/-- The gate of a migration step. -/
def StepName.gate : StepName → GateName
  | .install => .e2bInstall
  | .migrate => .databaseMigrate
  | .seed => .databaseSeed
  | .connectivity => .databaseConnectivity

/-- The gate that source `setMigrationGate` sets. -/
def StepReport.gate (step : StepReport) : GateEvidence where
  name := step.name.gate
  status := if step.exitCode = 0 then .passed else .failed
  durationMs := step.durationMs
  details := .object [("exitCode", .number step.exitCode)]

/-- What `onStep` does. -/
def Scenario.onStep (s : Scenario) (step : StepReport) : Scenario :=
  { s with
    migrationSteps := s.migrationSteps ++ [step]
    gates := Function.update s.gates step.gate.name step.gate }

/-- The migration of the database, with all its steps reported. -/
def applyMigrations (input : ScenarioInput) (externalId connectionSecretRef : String) :
    Program Unit := do
  let reference ← call (.getEphemeralConnection externalId "migrate" connectionSecretRef)
  modify fun s => { s with leaseReference := some reference }
  let connectionUrl ← call (.getSecret reference)
  let run ← call (.migrate input.fixtureFiles connectionUrl input.scenarioId input.changeTicket)
  modify fun s => run.steps.foldl Scenario.onStep s
  match run.failure with
  | some error => throw error
  | none => do
    let s ← get
    match [StepName.install, .migrate, .seed, .connectivity].find? fun name =>
        !s.migrationSteps.any fun step => step.name = name with
    | some name =>
      throw (stagingError "MIGRATION_STEP_MISSING" ("The E2B migration report omitted " ++ name.text))
    | none => pure ()

/-- The `try` block of source `runPhase3ProviderStagingScenario`. -/
def lifecycle (options : ScenarioOptions) (input : ScenarioInput) (rounds : Nat) : Program Unit :=
  if budgetWithinTarget input then do
    inventoryBefore options
    let (externalId, connectionSecretRef) ← provisionOwned input
    let healthStartedAt ← call .now
    let now : Date ← call .now
    awaitHealthy options externalId healthStartedAt ((now : Int) + options.timeout) rounds 0
    applyMigrations input externalId connectionSecretRef
  else
    throw (stagingError "APPROVED_BUDGET_INVALID"
      "Approved budget must be positive and no greater than the Phase 3 target")

end Lifecycle

section Finally

/-- The lease is revoked. -/
def revokeLease (rules : TextRules) : Program Unit := do
  let s ← get
  match s.leaseReference with
  | none => pure ()
  | some reference =>
    tryCatch (call (.revoke reference)) fun error => do
      markFailed
      pushError (toSafeStagingError rules
        ⟨some (Utf16.ofString "LEASE_REVOCATION_FAILED"),
          some (error.messageOr "The staging database lease could not be revoked")⟩)

/-- A resource was deleted. -/
def countDeleted : Program Unit :=
  modify fun s => { s with deletedResources := 1 }

/-- The owned resource is destroyed, or cleaned up as configured. -/
def disposeOwned (options : ScenarioOptions) (externalId connectionSecretRef : String)
    (cleanupStartedAt : Date) : Program Unit := do
  let cleanupDetails ←
    if options.cleanupOwnedResource then
      call (.cleanupOwnedResource externalId connectionSecretRef)
    else do
      call (.destroy externalId connectionSecretRef)
      pure (some (.object [("strategy", .string "direct_confirmed_teardown")]))
  countDeleted
  setGate .providerCleanup .passed cleanupStartedAt [
    ("destroyedOwnedResource", .bool true),
    match cleanupDetails with
    | none => ("strategy", .string "custom_approved_cleanup")
    | some cleanup => ("cleanup", cleanup)]

/-- The fallback: whether the owned resource was destroyed after all. -/
def fallbackDestroy (externalId connectionSecretRef : String) : Program Bool :=
  tryCatch (do
    call (.destroy externalId connectionSecretRef)
    countDeleted
    pure true) fun _ => pure false

/-- The cleanup of the `finally` block. -/
def cleanupOwned (rules : TextRules) (options : ScenarioOptions) : Program Unit := do
  let cleanupStartedAt ← call .now
  let s ← get
  match s.ownedByScenario, s.externalId, s.connectionSecretRef with
  | true, some externalId, some connectionSecretRef =>
    tryCatch (disposeOwned options externalId connectionSecretRef cleanupStartedAt) fun error => do
      markFailed
      let fallbackDestroyed ← fallbackDestroy externalId connectionSecretRef
      setGate .providerCleanup .failed cleanupStartedAt [
        ("destroyedOwnedResource", .bool fallbackDestroyed),
        ("emergencyFallbackAttempted", .bool true)]
      pushError (toSafeStagingError rules
        ⟨some (Utf16.ofString "PROVIDER_CLEANUP_FAILED"),
          some (error.messageOr "The owned staging resource could not be deleted")⟩)
  | _, _, _ =>
    setGate .providerCleanup .failed cleanupStartedAt [
      ("destroyedOwnedResource", .bool false), ("reason", .string "no_owned_resource")]

/-- `inventoryRestored`: the inventories are compared by their sizes. -/
def Scenario.inventoryRestored (s : Scenario) (after : List ManagedDatabaseResource) : Bool :=
  let ownedResourceStillPresent := s.externalId.any fun externalId =>
    after.any fun resource => resource.externalId = externalId
  !ownedResourceStillPresent && s.managedResourcesAfter = s.managedResourcesBefore

/-- The inventory after the scenario is compared with the one before. -/
def compareInventory (inventoryAfterStartedAt : Date) : Program Unit := do
  let after ← call .listManagedResources
  modify fun s => { s with managedResourcesAfter := after.length }
  let s ← get
  let inventoryRestored := s.inventoryRestored after
  modify fun s => { s with scenarioFailed := s.scenarioFailed || !inventoryRestored }
  setGate .providerInventoryAfter (if inventoryRestored then .passed else .failed)
    inventoryAfterStartedAt [
      ("managedResourceCount", .number after.length),
      ("baselineRestored", .bool inventoryRestored)]
  if inventoryRestored then pure ()
  else
    pushError ⟨Utf16.ofString "PROVIDER_INVENTORY_NOT_RESTORED",
      Utf16.ofString "Provider inventory did not return to its pre-scenario baseline"⟩

/-- The inventory after the scenario. -/
def inventoryAfter (rules : TextRules) : Program Unit := do
  let inventoryAfterStartedAt ← call .now
  let s ← get
  if s.inventoryBeforeCompleted then
    tryCatch (compareInventory inventoryAfterStartedAt) fun error => do
      markFailed
      setGate .providerInventoryAfter .failed inventoryAfterStartedAt [
        ("reason", .string "inventory_unavailable")]
      pushError (toSafeStagingError rules
        ⟨some (Utf16.ofString "FINAL_INVENTORY_FAILED"),
          some (error.messageOr "Final provider inventory failed")⟩)
  else
    setGate .providerInventoryAfter .failed inventoryAfterStartedAt [
      ("reason", .string "baseline_inventory_not_recorded")]

end Finally

/-- Source `orderedGates`. -/
def Scenario.orderedGates (s : Scenario) : List GateEvidence :=
  GateName.options.map s.gates

/-- Source `result`. -/
def Scenario.result (s : Scenario) : StagingResult :=
  if !s.scenarioFailed &&
      s.orderedGates.all fun gate => gate.name = .variableCost || gate.status = .passed then
    .awaitingCost
  else .failed

/-- The evidence that is read by the schema: of equal errors the first is kept. -/
def Scenario.evidence (s : Scenario) (input : ScenarioInput) (startedAt completedAt : Date) :
    Evidence where
  scenarioId := input.scenarioId
  changeTicket := input.changeTicket
  result := s.result
  startedAt
  completedAt
  externalResourceFingerprint := s.externalResourceFingerprint
  managedResourcesBefore := s.managedResourcesBefore
  managedResourcesAfter := s.managedResourcesAfter
  createdResources := s.createdResources
  deletedResources := s.deletedResources
  workflowRun := input.workflowRun
  approvedBudgetCadMicros := input.approvedBudgetCadMicros
  gates := s.orderedGates
  errors := s.errors.eraseDups

/-- The scenario, once its input is read. -/
def runScenario (rules : TextRules) (options : ScenarioOptions) (rounds : Nat)
    (input : ScenarioInput) : Program (Option Evidence) := do
  let startedAt ← call .now
  setCostGate input
  tryCatch (lifecycle options input rounds) fun error => do
    markFailed
    pushError (toSafeStagingError rules error)
  revokeLease rules
  cleanupOwned rules options
  inventoryAfter rules
  let s ← get
  let completedAt ← call .now
  pure ((s.evidence input startedAt completedAt).parse rules)

/-- An identifier that is given, or a random one. -/
def identifierOr : Option Uuid → Program Uuid
  | some given => pure given
  | none => call .randomUuid

/-- Source `runPhase3ProviderStagingScenario`: the evidence, or nothing if a schema refuses the input
    or the evidence, in which case the source throws. -/
def runPhase3ProviderStagingScenario (rules : TextRules) (options : ScenarioOptions)
    (rounds : Nat) : Program (Option Evidence) :=
  if options.durationsAccepted then do
    let scenarioId ← identifierOr options.scenarioId
    let projectId ← identifierOr options.projectId
    let input := options.input scenarioId projectId
    if input.accepted then runScenario rules options rounds input else pure none
  else pure none

end AtomsPlatform.Staging
