import AtomsPlatform.Contracts
import AtomsPlatform.Lib.Utf16
import Mathlib.Data.List.Nodup
import Mathlib.Algebra.Group.Nat.Defs

/-!
# Quality: schemas

The values of `@atoms/quality` and what its schemas ask of them beyond their types. A value that a
schema refuses is a `QualityInputError`, with a fixed message.
-/

namespace AtomsPlatform.Quality

/-- Source `QualityInputError`. -/
structure QualityInputError where
deriving DecidableEq, Repr

/-- Source `parseQualityInput`, on a value of the schema's type. -/
def parseQualityInput {α : Type} (valid : α → Bool) (value : α) : Except QualityInputError α :=
  if valid value then .ok value else .error {}

/-- `Number.MAX_SAFE_INTEGER` -/
def maxSafeInteger : Nat := 2 ^ 53 - 1

/-- Source `CheckKind`. -/
inductive CheckKind where
  | lint
  | typecheck
  | test
  | build
  | regression
  | e2e
  | accessibility
  | performance
  | security
deriving DecidableEq, Repr

/-- The name of a check. -/
def CheckKind.name : CheckKind → String
  | .lint => "LINT"
  | .typecheck => "TYPECHECK"
  | .test => "TEST"
  | .build => "BUILD"
  | .regression => "REGRESSION"
  | .e2e => "E2E"
  | .accessibility => "ACCESSIBILITY"
  | .performance => "PERFORMANCE"
  | .security => "SECURITY"

/-- Source `BASELINE_CHECKS`. -/
def baselineChecks : List CheckKind :=
  [.lint, .typecheck, .test, .build]

/-- `CheckKindSchema.options` -/
def checkKinds : List CheckKind :=
  baselineChecks ++ [.regression, .e2e, .accessibility, .performance, .security]

/-- Source `QualityScope`. -/
structure QualityScope where
  workspaceId : Uuid
  projectId : Uuid
  runId : Uuid
  controlVersion : Nat
  attempt : Nat
  snapshotSha256 : String
deriving DecidableEq, Repr

/-- `/^[a-f0-9]{64}$/` -/
def isSha256 (text : String) : Bool :=
  text.toList.length = 64 && text.toList.all fun c => c ∈ "0123456789abcdef".toList

/-- Source `QualityScopeSchema`. -/
def QualityScope.valid (scope : QualityScope) : Bool :=
  scope.controlVersion ≤ maxSafeInteger && 1 ≤ scope.attempt && scope.attempt ≤ maxSafeInteger &&
    isSha256 scope.snapshotSha256

/-- `/^US-[0-9]{3}$/` -/
def isStoryId (id : String) : Bool :=
  match id.toList with
  | ['U', 'S', '-', a, b, c] => a.isDigit && b.isDigit && c.isDigit
  | _ => false

/-- Source `CriterionIdSchema`: `/^US-[0-9]{3}:[1-9][0-9]?$/` -/
def isCriterionId (id : String) : Bool :=
  match id.toList with
  | ['U', 'S', '-', a, b, c, ':', d] =>
    a.isDigit && b.isDigit && c.isDigit && d.isDigit && d != '0'
  | ['U', 'S', '-', a, b, c, ':', d, e] =>
    a.isDigit && b.isDigit && c.isDigit && d.isDigit && d != '0' && e.isDigit
  | _ => false

/-- One segment of a criterion key. -/
def isKeySegment (segment : List Char) : Bool :=
  (segment.head?.any fun c => c.isLower) &&
    segment.all fun c => c.isLower || c.isDigit || c = '_'

/-- Source `CriterionKeySchema`: `/^[a-z][a-z0-9_]*(\.[a-z][a-z0-9_]*)+$/` -/
def isCriterionKey (key : String) : Bool :=
  let segments := key.toList.splitOn '.'
  2 ≤ segments.length && segments.all isKeySegment

/-- `z.string().trim().min(1).max(4_000)` on a trimmed text. -/
def isCriterionText (text : String) : Bool :=
  1 ≤ Utf16.lengthOf text && Utf16.lengthOf text ≤ 4000

/-- A criterion of an acceptance snapshot. -/
structure AcceptanceCriterion where
  id : String
  key : String
  text : String
deriving DecidableEq, Repr

/-- Source `AcceptanceSnapshot`. -/
structure AcceptanceSnapshot where
  taskId : Uuid
  taskAttempt : Nat
  scope : QualityScope
  criteria : List AcceptanceCriterion
deriving DecidableEq, Repr

/-- Source `AcceptanceSnapshotSchema`. -/
def AcceptanceSnapshot.valid (snapshot : AcceptanceSnapshot) : Bool :=
  snapshot.taskAttempt ≤ maxSafeInteger && snapshot.scope.valid &&
    1 ≤ snapshot.criteria.length && snapshot.criteria.length ≤ 1000 &&
    (snapshot.criteria.all fun criterion =>
      isCriterionId criterion.id && isCriterionKey criterion.key && isCriterionText criterion.text) &&
    decide (snapshot.criteria.map AcceptanceCriterion.id).Nodup

/-- Source `EvidenceStatusSchema`. -/
inductive EvidenceStatus where
  | passed
  | failed
  | skipped
  | error
deriving DecidableEq, Repr

/-- The kinds of evidence: the checks, and acceptance. -/
inductive EvidenceKind where
  | check :
    CheckKind → EvidenceKind
  | acceptance
deriving DecidableEq, Repr

/-- Source `QualityEvidence`. -/
structure QualityEvidence where
  id : Uuid
  sourceArtifactId : Uuid
  scope : QualityScope
  kind : EvidenceKind
  status : EvidenceStatus
  completedAt : Date
  acceptanceTaskId : Option Uuid
  acceptanceTaskAttempt : Option Nat
  criterionIds : List String
deriving DecidableEq, Repr

/-- Source `QualityEvidenceSchema`: acceptance evidence names its task, the attempt and criteria, and
    other evidence none of them. -/
def QualityEvidence.valid (evidence : QualityEvidence) : Bool :=
  evidence.scope.valid && (evidence.acceptanceTaskAttempt.all fun n => n ≤ maxSafeInteger) &&
    evidence.criterionIds.length ≤ 1000 && evidence.criterionIds.all isCriterionId &&
    (match evidence.kind with
      | .acceptance => evidence.acceptanceTaskId.isSome && evidence.acceptanceTaskAttempt.isSome &&
          !evidence.criterionIds.isEmpty
      | .check _ => evidence.acceptanceTaskId.isNone && evidence.acceptanceTaskAttempt.isNone &&
          evidence.criterionIds.isEmpty) &&
    decide evidence.criterionIds.Nodup

/-- Source `QualityPolicy`. -/
structure QualityPolicy where
  requiredChecks : List CheckKind
  maxEvidenceAgeSeconds : Nat
deriving DecidableEq, Repr

/-- Source `QualityPolicySchema`. -/
def QualityPolicy.valid (policy : QualityPolicy) : Bool :=
  baselineChecks.length ≤ policy.requiredChecks.length &&
    policy.requiredChecks.length ≤ checkKinds.length &&
    1 ≤ policy.maxEvidenceAgeSeconds && policy.maxEvidenceAgeSeconds ≤ 604800 &&
    (baselineChecks.all fun kind => kind ∈ policy.requiredChecks) &&
    decide policy.requiredChecks.Nodup

/-- Source `STANDARD_RELEASE_POLICY`. -/
def standardReleasePolicy : QualityPolicy where
  requiredChecks := checkKinds
  maxEvidenceAgeSeconds := 86400

/-- The standard policy satisfies its own schema. -/
lemma standardReleasePolicy_valid : standardReleasePolicy.valid = true := by
  decide

/-- Source `QualityEvaluationInput`. -/
structure QualityEvaluationInput where
  scope : QualityScope
  evaluatedAt : Date
  policy : QualityPolicy
  acceptance : Option AcceptanceSnapshot
  evidence : List QualityEvidence
deriving DecidableEq, Repr

/-- Source `QualityEvaluationInputSchema`. -/
def QualityEvaluationInput.valid (input : QualityEvaluationInput) : Bool :=
  input.scope.valid && input.policy.valid && (input.acceptance.all AcceptanceSnapshot.valid) &&
    input.evidence.length ≤ 2000 && input.evidence.all QualityEvidence.valid

/-- Source `QualityIssueCodeSchema`. -/
inductive QualityIssueCode where
  | missingAcceptance
  | acceptanceScopeMismatch
  | duplicateEvidence
  | evidenceScopeMismatch
  | evidenceFromFuture
  | evidenceTooOld
  | acceptanceTaskMismatch
  | unknownCriterion
  | evidenceNotPassed
  | missingCheck
  | missingCriterionEvidence
deriving DecidableEq, Repr

/-- The name of a code. -/
def QualityIssueCode.name : QualityIssueCode → String
  | .missingAcceptance => "MISSING_ACCEPTANCE"
  | .acceptanceScopeMismatch => "ACCEPTANCE_SCOPE_MISMATCH"
  | .duplicateEvidence => "DUPLICATE_EVIDENCE"
  | .evidenceScopeMismatch => "EVIDENCE_SCOPE_MISMATCH"
  | .evidenceFromFuture => "EVIDENCE_FROM_FUTURE"
  | .evidenceTooOld => "EVIDENCE_TOO_OLD"
  | .acceptanceTaskMismatch => "ACCEPTANCE_TASK_MISMATCH"
  | .unknownCriterion => "UNKNOWN_CRITERION"
  | .evidenceNotPassed => "EVIDENCE_NOT_PASSED"
  | .missingCheck => "MISSING_CHECK"
  | .missingCriterionEvidence => "MISSING_CRITERION_EVIDENCE"

/-- Source `QualityIssue`. -/
structure QualityIssue where
  code : QualityIssueCode
  evidenceId : Option Uuid := none
  check : Option CheckKind := none
  criterionId : Option String := none
deriving DecidableEq, Repr

/-- Whether a check or a criterion is covered. -/
inductive CoverageStatus where
  | passed
  | blocked
deriving DecidableEq, Repr

/-- Source `CoverageSchema`, for a check or a criterion. -/
structure Coverage (Subject : Type) where
  subject : Subject
  status : CoverageStatus
  evidenceIds : List Uuid
deriving DecidableEq, Repr

/-- The status of an assessment. -/
inductive ReleaseStatus where
  | ready
  | blocked
deriving DecidableEq, Repr

/-- Source `ReleaseAssessment`. -/
structure ReleaseAssessment where
  scope : QualityScope
  evaluatedAt : Date
  policy : QualityPolicy
  status : ReleaseStatus
  acceptanceTaskId : Option Uuid
  checks : List (Coverage CheckKind)
  traceToAcceptance : List (Coverage String)
  issues : List QualityIssue
deriving DecidableEq, Repr

/-- `item.status !== "PASSED" || item.evidenceIds.length === 0` fails. -/
def Coverage.complete {Subject : Type} (coverage : Coverage Subject) : Bool :=
  coverage.status = .passed && !coverage.evidenceIds.isEmpty

/-- What `ReleaseAssessmentSchema` asks of a READY assessment. -/
def ReleaseAssessment.complete (assessment : ReleaseAssessment) : Bool :=
  assessment.acceptanceTaskId.isSome && !assessment.traceToAcceptance.isEmpty &&
    decide (assessment.checks.length = assessment.policy.requiredChecks.length) &&
    decide (assessment.checks.map Coverage.subject).Nodup &&
    (assessment.policy.requiredChecks.all fun kind =>
      assessment.checks.any fun check => check.subject = kind) &&
    decide (assessment.traceToAcceptance.map Coverage.subject).Nodup &&
    assessment.checks.all Coverage.complete && assessment.traceToAcceptance.all Coverage.complete

/-- Source `ReleaseAssessmentSchema`. -/
def ReleaseAssessment.valid (assessment : ReleaseAssessment) : Bool :=
  assessment.scope.valid && assessment.policy.valid && assessment.checks.length ≤ 9 &&
    assessment.traceToAcceptance.length ≤ 1000 &&
    (assessment.checks.all fun coverage => coverage.evidenceIds.length ≤ 2000) &&
    (assessment.traceToAcceptance.all fun coverage =>
      isCriterionId coverage.subject && coverage.evidenceIds.length ≤ 2000) &&
    (assessment.issues.all fun issue => issue.criterionId.all isCriterionId) &&
    decide (assessment.status = .ready ↔ assessment.issues = []) &&
    (assessment.status = .blocked || assessment.complete)

end AtomsPlatform.Quality
