import AtomsPlatform.Contracts
import AtomsPlatform.Lib.Utf16
import AtomsPlatform.Workspace.Events

/-!
# Staging evidence

The evidence that a run of the provider's staging scenario leaves behind, and what its schema accepts.
Two functions of the source work with regular expressions on whole texts, the redaction of messages and
the search for credentials in the serialised evidence: they are parameters, and nothing depends on them.
-/

namespace AtomsPlatform.Staging
open Workspace (JsonValue)

/-- `Number.MAX_SAFE_INTEGER` -/
def maxSafeInteger : Int := 9007199254740991

/-- Source `PHASE3_VARIABLE_COST_TARGET_CAD_MICROS`. -/
def variableCostTargetCadMicros : Int := 4000000

/-- Source `Phase3StagingGateName`. -/
inductive GateName where
  | providerInventoryBefore
  | providerProvision
  | providerHealth
  | e2bInstall
  | databaseMigrate
  | databaseSeed
  | databaseConnectivity
  | providerCleanup
  | providerInventoryAfter
  | variableCost
deriving DecidableEq, Repr

/-- `Phase3StagingGateNameSchema.options` -/
def GateName.options : List GateName :=
  [.providerInventoryBefore, .providerProvision, .providerHealth, .e2bInstall, .databaseMigrate,
    .databaseSeed, .databaseConnectivity, .providerCleanup, .providerInventoryAfter, .variableCost]

/-- The statuses of gates. -/
inductive GateStatus where
  | passed
  | failed
  | pending
deriving DecidableEq, Repr

/-- Source `Phase3StagingGateEvidence`. -/
structure GateEvidence where
  name : GateName
  status : GateStatus
  durationMs : Int
  details : JsonValue

/-- An entry of the errors of the evidence. -/
structure StagingError where
  code : Utf16
  message : Utf16
deriving DecidableEq, Repr

/-- Source `Phase3WorkflowRun`. -/
structure WorkflowRun where
  repository : String
  runId : String
  runAttempt : Int
  commitSha : String
deriving DecidableEq, Repr

/-- The results of a scenario. -/
inductive StagingResult where
  | passed
  | failed
  | awaitingCost
deriving DecidableEq, Repr

/-- Source `Phase3ProviderStagingEvidence`, where the cost was not measured. -/
structure Evidence where
  scenarioId : Uuid
  changeTicket : String
  result : StagingResult
  startedAt : Date
  completedAt : Date
  externalResourceFingerprint : Option String
  managedResourcesBefore : Nat
  managedResourcesAfter : Nat
  createdResources : Nat
  deletedResources : Nat
  workflowRun : Option WorkflowRun
  approvedBudgetCadMicros : Int
  gates : List GateEvidence
  errors : List StagingError

/-- The functions on whole texts: source `redactEvidenceText`, and the search of the schema for
    credentials in the serialised evidence. -/
structure TextRules where
  redactEvidenceText : Utf16 → Utf16
  credentialShaped : Evidence → Bool

section Schema

/-- Whether a code unit is one of `[A-Z]`. -/
def isUpper (u : UInt16) : Bool :=
  0x41 ≤ u.toNat && u.toNat ≤ 0x5A

/-- Whether a code unit is one of `[0-9]`. -/
def isDigit (u : UInt16) : Bool :=
  0x30 ≤ u.toNat && u.toNat ≤ 0x39

/-- `/^[A-Z][A-Z0-9_]{2,99}$/` -/
def isErrorCode (code : Utf16) : Bool :=
  match code with
  | [] => false
  | u :: rest =>
    isUpper u && (2 ≤ rest.length && rest.length ≤ 99) &&
      rest.all fun u => isUpper u || isDigit u || u.toNat = 0x5F

/-- Source `Phase3StagingErrorSchema`, of an error with a trimmed message. -/
def StagingError.accepted (error : StagingError) : Bool :=
  isErrorCode error.code && 1 ≤ error.message.length && error.message.length ≤ 1000

/-- The cost gate of the evidence. -/
def Evidence.costGate (evidence : Evidence) : Option GateEvidence :=
  evidence.gates.find? fun gate => gate.name = .variableCost

/-- What the schema asks of evidence with the result `PASSED` or `AWAITING_COST`. -/
def Evidence.lifecyclePassed (evidence : Evidence) : Bool :=
  decide (0 < evidence.approvedBudgetCadMicros) &&
    decide (evidence.approvedBudgetCadMicros ≤ variableCostTargetCadMicros) &&
    decide (evidence.managedResourcesBefore = evidence.managedResourcesAfter) &&
    evidence.externalResourceFingerprint.isSome &&
    decide (evidence.createdResources = 1) && decide (evidence.deletedResources = 1) &&
    evidence.errors.isEmpty &&
    evidence.gates.all fun gate => gate.name = .variableCost || gate.status = .passed

/-- Source `Phase3ProviderStagingEvidenceSchema`, where the cost was not measured and the messages are
    trimmed. The formats of identifiers, dates and the fingerprint hold by construction. -/
def Evidence.accepted (rules : TextRules) (evidence : Evidence) : Bool :=
  decide (evidence.createdResources ≤ 1) && decide (evidence.deletedResources ≤ 1) &&
    decide (evidence.gates.length = GateName.options.length) &&
    (evidence.gates.all fun gate => 0 ≤ gate.durationMs && gate.durationMs ≤ maxSafeInteger) &&
    decide (evidence.errors.length ≤ 20) && evidence.errors.all StagingError.accepted &&
    (GateName.options.all fun name => evidence.gates.any fun gate => gate.name = name) &&
    !rules.credentialShaped evidence &&
    decide (evidence.startedAt ≤ evidence.completedAt) &&
    (evidence.costGate.all fun gate => gate.status ≠ .passed) &&
    match evidence.result with
    | .failed => true
    | .awaitingCost =>
      (evidence.costGate.any fun gate => gate.status = .pending) && evidence.lifecyclePassed
    | .passed => false

/-- What the schema makes of evidence: the messages are trimmed. -/
def Evidence.parse (rules : TextRules) (evidence : Evidence) : Option Evidence :=
  let trimmed := { evidence with
    errors := evidence.errors.map fun error => { error with message := Utf16.trim error.message } }
  if trimmed.accepted rules then some trimmed else none

end Schema

section Input

/-- Whether a character is one of `[A-Za-z0-9]` or of the given ones. -/
def isWordOr (others : List Char) (c : Char) : Bool :=
  ('a' ≤ c && c ≤ 'z') || ('A' ≤ c && c ≤ 'Z') || ('0' ≤ c && c ≤ '9') || others.contains c

/-- What is asked of a change ticket that is trimmed. -/
def isChangeTicket (ticket : String) : Bool :=
  match ticket.toList with
  | [] => false
  | c :: rest =>
    ticket.length ≤ 191 && isWordOr [] c && rest.all (isWordOr ['.', '_', ':', '/', '-'])

/-- Source `Phase3WorkflowRunSchema`. -/
def WorkflowRun.accepted (run : WorkflowRun) : Bool :=
  let segments := run.repository.toList.splitOn '/'
  (segments.length = 2 && segments.all fun segment =>
      !segment.isEmpty && segment.all (isWordOr ['_', '.', '-'])) &&
    (match run.runId.toList with
      | [] => false
      | c :: rest => ('1' ≤ c && c ≤ '9') && rest.all Char.isDigit) &&
    decide (0 < run.runAttempt) && decide (run.runAttempt ≤ maxSafeInteger) &&
    run.commitSha.length = 40 &&
    run.commitSha.toList.all fun c => ('a' ≤ c && c ≤ 'f') || ('0' ≤ c && c ≤ '9')

end Input

end AtomsPlatform.Staging
