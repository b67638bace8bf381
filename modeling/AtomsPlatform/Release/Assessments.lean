import AtomsPlatform.Quality.Readiness
import AtomsPlatform.Database.Model
import AtomsPlatform.Run.Model

/-!
# Assessments of releases

The rows in which assessments and their evidence are stored, and the transactions of the worker and of
the control API that write them. There is one assessment for each run, control version, attempt and
source; a new one takes the place of the one before it.
-/

namespace AtomsPlatform.Release
open Run Quality

/-- Source `ReleaseAssessmentScope`. -/
structure ReleaseAssessmentScope where
  workspaceId : Uuid
  projectId : Uuid
  runId : Uuid
  controlVersion : Nat
  attempt : Nat
deriving DecidableEq, Repr

/-- `{ ...scope, snapshotSha256 }` -/
def ReleaseAssessmentScope.quality (scope : ReleaseAssessmentScope) (snapshotSha256 : String) :
    QualityScope where
  workspaceId := scope.workspaceId
  projectId := scope.projectId
  runId := scope.runId
  controlVersion := scope.controlVersion
  attempt := scope.attempt
  snapshotSha256

/-- Source `ReleaseAssessmentSource`. -/
inductive ReleaseAssessmentSource where
  | worker
  | manual
deriving DecidableEq, Repr

/-- The issues of a stored assessment: those of an evaluation, or that there was none. -/
inductive StoredIssue where
  | ofQuality :
    QualityIssue → StoredIssue
  | evaluatorFailure
deriving DecidableEq, Repr

/-- What a stored assessment says; the policy `{}` of a failed evaluation is `none`. -/
structure AssessmentData where
  status : ReleaseStatus
  acceptanceTaskId : Option Uuid
  policy : Option QualityPolicy
  checks : List (Coverage CheckKind)
  traceToAcceptance : List (Coverage String)
  issues : List StoredIssue
  snapshotSha256 : String
  evaluatedAt : Date
deriving DecidableEq, Repr

/-- The data of an evaluation, with the fingerprint and the time it is stored with. -/
def AssessmentData.of (assessment : Quality.ReleaseAssessment) (snapshotSha256 : String)
    (evaluatedAt : Date) : AssessmentData where
  status := assessment.status
  acceptanceTaskId := assessment.acceptanceTaskId
  policy := some assessment.policy
  checks := assessment.checks
  traceToAcceptance := assessment.traceToAcceptance
  issues := assessment.issues.map .ofQuality
  snapshotSha256
  evaluatedAt

/-- The data of a failed evaluation. -/
def AssessmentData.evaluatorFailure (now : Date) : AssessmentData where
  status := .blocked
  acceptanceTaskId := none
  policy := none
  checks := []
  traceToAcceptance := []
  issues := [.evaluatorFailure]
  snapshotSha256 := String.ofList (List.replicate 64 '0')
  evaluatedAt := now

/-- The key `runId_controlVersion_attempt_source`. -/
structure AssessmentKey where
  runId : Uuid
  controlVersion : Nat
  attempt : Nat
  source : ReleaseAssessmentSource
deriving DecidableEq, Repr

/-- Model `ReleaseAssessment` of the schema. -/
structure ReleaseAssessmentRow where
  id : Uuid
  scope : ReleaseAssessmentScope
  source : ReleaseAssessmentSource
  data : AssessmentData
  createdAt : Date
deriving DecidableEq, Repr

/-- The key of a scope and a source. -/
def ReleaseAssessmentScope.key (scope : ReleaseAssessmentScope) (source : ReleaseAssessmentSource) :
    AssessmentKey where
  runId := scope.runId
  controlVersion := scope.controlVersion
  attempt := scope.attempt
  source

/-- The key of a row. -/
def ReleaseAssessmentRow.key (row : ReleaseAssessmentRow) : AssessmentKey :=
  row.scope.key row.source

/-- Model `ReleaseEvidence` of the schema. -/
structure ReleaseEvidenceRow where
  id : Uuid
  assessmentId : Uuid
  sourceArtifactId : Uuid
  kind : EvidenceKind
  status : EvidenceStatus
  completedAt : Date
  acceptanceTaskId : Option Uuid
  acceptanceTaskAttempt : Option Nat
  criterionIds : List String
deriving DecidableEq, Repr

/-- The row of a piece of evidence. -/
def evidenceRowOf (assessmentId : Uuid) (item : QualityEvidence) : ReleaseEvidenceRow where
  id := item.id
  assessmentId
  sourceArtifactId := item.sourceArtifactId
  kind := item.kind
  status := item.status
  completedAt := item.completedAt
  acceptanceTaskId := item.acceptanceTaskId
  acceptanceTaskAttempt := item.acceptanceTaskAttempt
  criterionIds := item.criterionIds

/-- What is generated in the course of an assessment: its id, the ids of acceptance evidence, and the
    default of the column `createdAt`. -/
structure Generated where
  assessmentId : Uuid
  uuid : Nat → Uuid
  createdAt : Date

/-- The tables that releases are assessed from and that their assessments are stored in. -/
structure ReleaseTables (Output : Type) where
  platform : RunStore Output
  /-- The column `createdAt` of the runs. -/
  runCreatedAt : Uuid → Date := fun _ => 0
  projects : List Database.Project := []
  memberships : List Database.Membership := []
  assessments : List ReleaseAssessmentRow := []
  evidence : List ReleaseEvidenceRow := []

variable {Output : Type}

/-- Writes a row under its key. The row that was there takes the new id, and its evidence follows it;
    a run that does not exist, or an id that another row has, is refused. -/
def upsertAssessment (row : ReleaseAssessmentRow) (s : ReleaseTables Output) :
    Except Failure (ReleaseTables Output) :=
  if (s.platform.run? row.scope.runId).isNone then
    .error (.prisma "P2003" "Foreign key constraint violated")
  else if s.assessments.any fun other => other.id = row.id ∧ other.key ≠ row.key then
    .error (.prisma "P2002" "Unique constraint failed")
  else
    match Table.lookup ReleaseAssessmentRow.key row.key s.assessments with
    | none => .ok { s with assessments := s.assessments ++ [row] }
    | some previous =>
      .ok { s with
        assessments := Table.update ReleaseAssessmentRow.key row.key (fun _ => true)
          (fun previous => { row with createdAt := previous.createdAt }) s.assessments
        evidence := s.evidence.map fun e =>
          if e.assessmentId = previous.id then { e with assessmentId := row.id } else e }

/-- `releaseEvidence.deleteMany({ where: { assessmentId } })` -/
def deleteEvidence (assessmentId : Uuid) (s : ReleaseTables Output) : ReleaseTables Output :=
  { s with evidence := s.evidence.filter fun e => e.assessmentId ≠ assessmentId }

/-- `releaseEvidence.createMany`: an id that is taken, or twice among the new rows, is refused. -/
def createEvidence (rows : List ReleaseEvidenceRow) (s : ReleaseTables Output) :
    Except Failure (ReleaseTables Output) :=
  if ((s.evidence ++ rows).map ReleaseEvidenceRow.id).Nodup then
    .ok { s with evidence := s.evidence ++ rows }
  else .error (.prisma "P2002" "Unique constraint failed")

/-- What `validateRunEventPayload` asks of the events of an assessment. -/
def acceptsEvent : OtherEvent → Bool
  | .releaseAssessmentStarted _ attempt => 1 ≤ attempt
  | .releaseBlocked _ issueCount => 1 ≤ issueCount
  | .releaseCriterionKeyUnresolved _ scenario missingKeys =>
    1 ≤ Utf16.lengthOf scenario && Utf16.lengthOf scenario ≤ 120 && 1 ≤ missingKeys.length &&
      missingKeys.length ≤ 50 &&
      missingKeys.all fun key => 1 ≤ Utf16.lengthOf key && Utf16.lengthOf key ≤ 200
  | _ => true

/-- Source `appendReleaseEvent`, for one event after the other. -/
def appendReleaseEvents (runId : Uuid) (events : List OtherEvent) (s : ReleaseTables Output) :
    Except Failure (ReleaseTables Output) :=
  if events.all acceptsEvent then
    .ok { s with platform := s.platform.appendEvents runId (events.map .ofOther) }
  else .error (.error "Invalid event payload.")

/-- The event that says how an evaluation ended. -/
def statusEvent (assessmentId : Uuid) (assessment : Quality.ReleaseAssessment) : OtherEvent :=
  match assessment.status with
  | .ready => .releaseReady assessmentId assessment.checks.length assessment.traceToAcceptance.length
  | .blocked => .releaseBlocked assessmentId (max assessment.issues.length 1)

variable (generated : Generated)

/-- Source `persistAssessment`. -/
def persistAssessment (scope : ReleaseAssessmentScope)
    (assessment : Quality.ReleaseAssessment) (evidence : List QualityEvidence)
    (unresolvedScenarios : List (Utf16 × List Utf16)) (s : ReleaseTables Output) :
    Except Failure (ReleaseTables Output) := do
  let s ← upsertAssessment
    { id := generated.assessmentId
      scope
      source := .worker
      data := .of assessment assessment.scope.snapshotSha256 assessment.evaluatedAt
      createdAt := generated.createdAt } s
  let s ← createEvidence (evidence.map (evidenceRowOf generated.assessmentId))
    (deleteEvidence generated.assessmentId s)
  appendReleaseEvents scope.runId
    (.releaseAssessmentStarted generated.assessmentId scope.attempt ::
      statusEvent generated.assessmentId assessment ::
      unresolvedScenarios.map fun unresolved =>
        .releaseCriterionKeyUnresolved generated.assessmentId (Utf16.toString unresolved.1)
          (unresolved.2.map Utf16.toString)) s

/-- Source `persistEvaluatorFailure`. -/
def persistEvaluatorFailure (scope : ReleaseAssessmentScope) (now : Date)
    (s : ReleaseTables Output) : Except Failure (ReleaseTables Output) := do
  let s ← upsertAssessment
    { id := generated.assessmentId
      scope
      source := .worker
      data := .evaluatorFailure now
      createdAt := generated.createdAt } s
  appendReleaseEvents scope.runId
    [.releaseAssessmentStarted generated.assessmentId scope.attempt,
      .releaseBlocked generated.assessmentId 1]
    (deleteEvidence generated.assessmentId s)

/-- Source `#persist` of the control API. -/
def persistManual (scope : ReleaseAssessmentScope) (data : AssessmentData) (s : ReleaseTables Output) :
    Except Failure (ReleaseAssessmentRow × ReleaseTables Output) := do
  let row : ReleaseAssessmentRow :=
    { id := generated.assessmentId
      scope
      source := .manual
      data
      createdAt := generated.createdAt }
  let s ← upsertAssessment row s
  pure ((Table.lookup ReleaseAssessmentRow.key row.key s.assessments).getD row, s)

/-- The assessment under a key. -/
def ReleaseTables.assessment? (s : ReleaseTables Output) (key : AssessmentKey) :
    Option ReleaseAssessmentRow :=
  Table.lookup ReleaseAssessmentRow.key key s.assessments

end AtomsPlatform.Release
