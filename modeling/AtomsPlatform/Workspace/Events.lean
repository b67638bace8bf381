import AtomsPlatform.Contracts
import AtomsPlatform.Lib.Utf16
import Mathlib.Data.Rat.Defs
import Mathlib.Data.List.Infix
import Mathlib.Algebra.Group.Nat.Defs

/-!
# Run events as the browser receives them

The envelopes of run events, and the schemas of `packages/contracts` by which the workspace reads
their payloads.
-/

namespace AtomsPlatform.Workspace

/-- Source `JsonValue`; its numbers are finite. -/
inductive JsonValue where
  | null
  | bool :
    Bool → JsonValue
  | number :
    ℚ → JsonValue
  | string :
    String → JsonValue
  | array :
    List JsonValue → JsonValue
  | object :
    List (String × JsonValue) → JsonValue

/-- Source `RunEventType`. -/
inductive RunEventType where
  | runCreated
  | runStatusChanged
  | taskCreated
  | taskStarted
  | taskProgress
  | taskCompleted
  | taskFailed
  | taskSkipped
  | artifactCreated
  | approvalRequired
  | sandboxReady
  | previewUpdated
  | integrationStatusChanged
  | deploymentStatusChanged
  | runCompleted
  | runFailed
  | releaseAssessmentStarted
  | releaseReady
  | releaseBlocked
  | releaseCriterionKeyUnresolved
  | runApprovalReminderDue
  | runDataPurged
  /-- `task_started` -/
  | legacyTaskStarted
  | codeGenerated
  /-- `approval_required` -/
  | legacyApprovalRequired
  | error
deriving DecidableEq, Repr

/-- Source `RunAgentName`. -/
inductive RunAgentName where
  | sophia
  | mike
  | emma
  | bob
  | alex
  | david
  | sarah
  | adrian
  | customerSuccess
deriving DecidableEq, Repr

/-- Source `AGENT_ORDER`. -/
def agentOrder : List RunAgentName :=
  [.sophia, .mike, .emma, .bob, .alex, .david, .sarah, .adrian, .customerSuccess]

/-- The name of an agent. -/
def RunAgentName.name : RunAgentName → String
  | .sophia => "Sophia"
  | .mike => "Mike"
  | .emma => "Emma"
  | .bob => "Bob"
  | .alex => "Alex"
  | .david => "David"
  | .sarah => "Sarah"
  | .adrian => "Adrian"
  | .customerSuccess => "CustomerSuccess"

/-- Source `RunEventEnvelope`. -/
structure RunEventEnvelope where
  sequence : Nat
  runId : String
  eventType : RunEventType
  payload : JsonValue
  occurredAt : String

/-- The string formats of the schema library. A URL is trimmed when it is read. -/
structure Formats where
  uuid : String → Bool
  url : String → Option String
  datetime : String → Bool

section Fields
variable {β : Type}

/-- `z.object(…).strict()`: the fields of an object without other keys. -/
def strictObject (keys : List String) : JsonValue → Option (List (String × JsonValue))
  | .object fields => if fields.all (fun field => field.1 ∈ keys) then some fields else none
  | _ => none

/-- `z.string()` with a further check. -/
def checkedString (check : String → Bool) : Option JsonValue → Option String
  | some (.string value) => if check value then some value else none
  | _ => none

/-- `z.string().trim().min(1).max(2_000)` -/
def trimmedText : Option JsonValue → Option String
  | some (.string value) =>
    let trimmed := Utf16.trimString value
    if 1 ≤ Utf16.lengthOf trimmed ∧ Utf16.lengthOf trimmed ≤ 2000 then some trimmed else none
  | _ => none

/-- `z.string().url()` -/
def urlText (formats : Formats) : Option JsonValue → Option String
  | some (.string value) => formats.url value
  | _ => none

/-- `z.number().int()`: a safe integer. -/
def safeInteger : Option JsonValue → Option Int
  | some (.number value) =>
    if value.den = 1 ∧ value.num.natAbs ≤ 2 ^ 53 - 1 then some value.num else none
  | _ => none

/-- `z.number().int().nonnegative()` -/
def nonnegativeInteger (value : Option JsonValue) : Option Nat :=
  (safeInteger value).bind fun n => if 0 ≤ n then some n.toNat else none

/-- `z.enum([…])` -/
def enumeration (options : List β) (name : β → String) : Option JsonValue → Option β
  | some (.string value) => options.find? fun option => name option = value
  | _ => none

/-- `.optional()` -/
def optionally (parse : Option JsonValue → Option β) : Option JsonValue → Option (Option β)
  | none => some none
  | some value => (parse (some value)).map some

end Fields

/-- The statuses of a preview. -/
inductive PreviewStatus where
  | ready
  | stopped
  | expired
  | error
deriving DecidableEq, Repr

/-- The name of a status. -/
def PreviewStatus.name : PreviewStatus → String
  | .ready => "READY"
  | .stopped => "STOPPED"
  | .expired => "EXPIRED"
  | .error => "ERROR"

/-- The statuses of a validation step. -/
inductive ValidationStatus where
  | succeeded
  | failed
deriving DecidableEq, Repr

/-- The name of a status. -/
def ValidationStatus.name : ValidationStatus → String
  | .succeeded => "SUCCEEDED"
  | .failed => "FAILED"

/-- What the workspace uses of source `ApprovalRequiredEventPayloadV1`. -/
structure ApprovalRequired where
  scope : ApprovalScope
  reason : String
deriving DecidableEq, Repr

/-- What the workspace uses of source `PreviewUpdatedEventPayloadV1`. -/
structure PreviewUpdated where
  status : PreviewStatus
  url : Option String
  expiresAt : String
deriving DecidableEq, Repr

/-- What the workspace uses of source `SandboxValidationProgressEventPayloadV1`. -/
structure ValidationProgress where
  step : String
  status : ValidationStatus
  exitCode : Int
  durationMs : Nat
  stdout : String
  stderr : String
deriving DecidableEq, Repr

/-- What the workspace uses of source `DatabaseStatusChangedEventPayloadV1`. -/
structure DatabaseStatusUpdate where
  databaseInstanceId : String
  operationVersion : Nat
  status : DatabaseInstanceStatus
  message : Option String
deriving DecidableEq, Repr

section Schemas
variable (formats : Formats)

/-- The name of a scope. -/
def scopeName : ApprovalScope → String
  | .plan => "plan"
  | .content => "content"

/-- Source `normalizeApprovalRequiredEventPayload`. No letter outside ASCII is the capital of a letter
    of `content`. -/
def normalizeApprovalRequiredEventPayload (payload : JsonValue) : Option ApprovalRequired :=
  let current : Option ApprovalRequired := do
    let fields ← strictObject ["version", "scope", "reason"] payload
    let _ ← checkedString (· == "v1") (fields.lookup "version")
    let scope ← enumeration [.plan, .content] scopeName (fields.lookup "scope")
    let reason ← trimmedText (fields.lookup "reason")
    pure { scope, reason }
  let legacy : Option ApprovalRequired := do
    let fields ← strictObject ["reason"] payload
    let reason ← trimmedText (fields.lookup "reason")
    let mentioned := decide ("content".toList <:+: reason.toLower.toList)
    pure { scope := if mentioned then .content else .plan, reason }
  current <|> legacy

/-- Source `PreviewUpdatedEventPayloadV1Schema`. -/
def previewUpdatedPayload (payload : JsonValue) : Option PreviewUpdated := do
  let fields ←
    strictObject ["version", "previewSessionId", "status", "url", "expiresAt"] payload
  let _ ← checkedString (· == "v1") (fields.lookup "version")
  let _ ← checkedString formats.uuid (fields.lookup "previewSessionId")
  let status ← enumeration [PreviewStatus.ready, .stopped, .expired, .error] PreviewStatus.name
    (fields.lookup "status")
  let url ← optionally (urlText formats) (fields.lookup "url")
  let expiresAt ← checkedString formats.datetime (fields.lookup "expiresAt")
  pure { status, url, expiresAt }

/-- The steps of a sandbox validation. -/
def validationSteps : List String :=
  ["install", "prisma-validate", "lint", "typecheck", "test", "build", "preview-start",
    "preview-health", "db-start", "db-migrate", "db-seed", "acceptance"]

/-- Source `SandboxValidationProgressEventPayloadV1Schema`. -/
def validationProgressPayload (payload : JsonValue) : Option ValidationProgress := do
  let fields ← strictObject ["version", "phase", "sandboxSessionId", "ordinal", "step", "status",
    "exitCode", "durationMs", "stdout", "stderr"] payload
  let _ ← checkedString (· == "v1") (fields.lookup "version")
  let _ ← checkedString (· == "sandbox-validation") (fields.lookup "phase")
  let _ ← checkedString formats.uuid (fields.lookup "sandboxSessionId")
  let ordinal ← safeInteger (fields.lookup "ordinal")
  guard (0 < ordinal)
  let step ← checkedString (· ∈ validationSteps) (fields.lookup "step")
  let status ← enumeration [ValidationStatus.succeeded, .failed] ValidationStatus.name
    (fields.lookup "status")
  let exitCode ← safeInteger (fields.lookup "exitCode")
  let durationMs ← nonnegativeInteger (fields.lookup "durationMs")
  let stdout ← checkedString (Utf16.lengthOf · ≤ 64012) (fields.lookup "stdout")
  let stderr ← checkedString (Utf16.lengthOf · ≤ 64012) (fields.lookup "stderr")
  pure { step, status, exitCode, durationMs, stdout, stderr }

/-- The statuses that are told to the browser. -/
def toldStatuses : List DatabaseInstanceStatus :=
  [.queued, .provisioning, .healthCheck, .migrating, .ready, .suspended, .failed, .deleting, .deleted]

/-- Source `DatabaseStatusChangedEventPayloadV1Schema`. -/
def databaseStatusChangedPayload (payload : JsonValue) : Option DatabaseStatusUpdate := do
  let fields ← strictObject ["version", "integration", "databaseInstanceId", "operationId",
    "operationVersion", "provider", "status", "message"] payload
  let _ ← checkedString (· == "v1") (fields.lookup "version")
  let _ ← checkedString (· == "generated-database") (fields.lookup "integration")
  let databaseInstanceId ← checkedString formats.uuid (fields.lookup "databaseInstanceId")
  let _ ← checkedString formats.uuid (fields.lookup "operationId")
  let operationVersion ← nonnegativeInteger (fields.lookup "operationVersion")
  let _ ← checkedString (· == "SUPABASE") (fields.lookup "provider")
  let status ← enumeration toldStatuses DatabaseInstanceStatus.name (fields.lookup "status")
  let message ← optionally trimmedText (fields.lookup "message")
  pure { databaseInstanceId, operationVersion, status, message }

end Schemas

end AtomsPlatform.Workspace
