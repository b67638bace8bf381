import AtomsPlatform.Quality.Adapters
import Mathlib.Data.List.Dedup
import Mathlib.Data.Nat.Log

/-!
# Quality: evaluation

`evaluateRelease`: every piece of evidence is inspected, what is usable is counted for the checks and
criteria it covers, and everything that is wrong or missing is an issue. The report is in a canonical
order.
-/

namespace AtomsPlatform.Quality

/-- A UUID as text. A number of more than 128 bits, which is none, would have a longer first group. -/
def uuidText (id : Uuid) : String :=
  let digits (first last : Nat) : List Char :=
    (List.range' last (first - last)).reverse.map fun i => Sha256.hexDigit (id / 16 ^ i)
  String.ofList (['-'].intercalate
    [digits (max 32 (Nat.log 16 id + 1)) 24, digits 24 20, digits 20 16, digits 16 12, digits 12 0])

/-- Source `sameScope`. -/
def sameScope (left right : QualityScope) : Bool :=
  left = right

variable (input : QualityEvaluationInput)

/-- `acceptanceMatches` -/
def acceptanceMatches : Bool :=
  input.acceptance.any fun acceptance => sameScope input.scope acceptance.scope

/-- The criteria of the snapshot. -/
def criteriaOf : List AcceptanceCriterion :=
  (input.acceptance.map AcceptanceSnapshot.criteria).getD []

/-- What is wrong with the acceptance snapshot. -/
def acceptanceIssues : List QualityIssue :=
  if input.acceptance.isNone then [{ code := .missingAcceptance }]
  else if !acceptanceMatches input then [{ code := .acceptanceScopeMismatch }]
  else []

/-- Why a piece of evidence is rejected: its id, its scope, its age. -/
def rejections (evidence : QualityEvidence) : List QualityIssueCode :=
  (if 1 < (input.evidence.map QualityEvidence.id).count evidence.id then [.duplicateEvidence]
    else []) ++
  (if sameScope input.scope evidence.scope then [] else [.evidenceScopeMismatch]) ++
  (if input.evaluatedAt < evidence.completedAt then [.evidenceFromFuture]
    else if input.policy.maxEvidenceAgeSeconds * 1000 < input.evaluatedAt - evidence.completedAt then
      [.evidenceTooOld]
    else []) ++
  (if evidence.kind = .acceptance ∧ (!acceptanceMatches input ∨
      evidence.acceptanceTaskId ≠ input.acceptance.map AcceptanceSnapshot.taskId ∨
      evidence.acceptanceTaskAttempt ≠ input.acceptance.map AcceptanceSnapshot.taskAttempt) then
    [.acceptanceTaskMismatch] else [])

/-- The criteria a piece of evidence names that the snapshot does not have. -/
def unknownCriteria (evidence : QualityEvidence) : List String :=
  if evidence.kind = .acceptance then
    evidence.criterionIds.filter fun id =>
      !((criteriaOf input).any fun criterion => criterion.id = id)
  else []

/-- Whether a piece of evidence is counted. -/
def usable (evidence : QualityEvidence) : Bool :=
  (rejections input evidence).isEmpty && (unknownCriteria input evidence).isEmpty

/-- The issues of one piece of evidence. -/
def evidenceIssues (evidence : QualityEvidence) : List QualityIssue :=
  (rejections input evidence).map (fun code => { code, evidenceId := some evidence.id }) ++
  (unknownCriteria input evidence).map (fun id =>
    { code := .unknownCriterion, evidenceId := some evidence.id, criterionId := some id }) ++
  if evidence.status = .passed then []
  else [{ code := .evidenceNotPassed, evidenceId := some evidence.id }]

/-- `accepted` -/
def accepted : List QualityEvidence :=
  input.evidence.filter (usable input)

/-- What evidence amounts to for its subject. -/
def coverage {Subject : Type} (subject : Subject) (evidence : List QualityEvidence) :
    Coverage Subject where
  subject
  status := if !evidence.isEmpty && evidence.all fun item => item.status = .passed then .passed
    else .blocked
  evidenceIds := (evidence.map QualityEvidence.id).insertionSort fun left right =>
    Utf16.le (uuidText left) (uuidText right)

/-- The accepted evidence for a check. -/
def evidenceForCheck (kind : CheckKind) : List QualityEvidence :=
  (accepted input).filter fun item => item.kind = .check kind

/-- The accepted evidence for a criterion. -/
def evidenceForCriterion (criterion : AcceptanceCriterion) : List QualityEvidence :=
  if acceptanceMatches input then
    (accepted input).filter fun item =>
      item.kind = .acceptance && item.criterionIds.contains criterion.id
  else []

/-- `[...input.policy.requiredChecks].sort()` -/
def sortedChecks : List CheckKind :=
  input.policy.requiredChecks.insertionSort fun left right => Utf16.le left.name right.name

/-- Everything that is wrong or missing. -/
def allIssues : List QualityIssue :=
  acceptanceIssues input ++ input.evidence.flatMap (evidenceIssues input) ++
  ((sortedChecks input).filter fun kind => (evidenceForCheck input kind).isEmpty).map
    (fun kind => { code := .missingCheck, check := some kind }) ++
  ((criteriaOf input).filter fun criterion => (evidenceForCriterion input criterion).isEmpty).map
    fun criterion => { code := .missingCriterionEvidence, criterionId := some criterion.id }

/-- `JSON.stringify` of an issue. -/
def QualityIssue.json (issue : QualityIssue) : String :=
  let member (name : String) (value : Option String) : List Char :=
    match value with
    | none => []
    | some value => ',' :: jsonString name ++ ':' :: jsonString value
  String.ofList ("\x7b".toList ++ jsonString "code" ++ ':' :: jsonString issue.code.name ++
    member "evidenceId" (issue.evidenceId.map uuidText) ++
    member "check" (issue.check.map CheckKind.name) ++ member "criterionId" issue.criterionId ++
    "\x7d".toList)

/-- The issues in canonical order. -/
def uniqueIssues : List QualityIssue :=
  (allIssues input).dedup.insertionSort fun left right => Utf16.le left.json right.json

/-- The assembled report. -/
def report : ReleaseAssessment where
  scope := input.scope
  evaluatedAt := input.evaluatedAt
  policy := { input.policy with requiredChecks := sortedChecks input }
  status := if (uniqueIssues input).isEmpty then .ready else .blocked
  acceptanceTaskId := input.acceptance.map AcceptanceSnapshot.taskId
  checks := (sortedChecks input).map fun kind => coverage kind (evidenceForCheck input kind)
  traceToAcceptance :=
    ((criteriaOf input).map fun criterion =>
      coverage criterion.id (evidenceForCriterion input criterion)).insertionSort
        fun left right => Utf16.le left.subject right.subject
  issues := uniqueIssues input

/-- Source `evaluateRelease`. -/
def evaluateRelease (input : QualityEvaluationInput) :
    Except QualityInputError ReleaseAssessment := do
  let input ← parseQualityInput QualityEvaluationInput.valid input
  parseQualityInput ReleaseAssessment.valid (report input)

variable {input}

end AtomsPlatform.Quality
