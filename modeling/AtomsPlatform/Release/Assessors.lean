import AtomsPlatform.Lib.Collect
import AtomsPlatform.Release.Assessments
import AtomsPlatform.Release.Fingerprint
import AtomsPlatform.Run.Repository

/-!
# The assessors

Two components assess releases. The worker's `DeterministicReleaseAssessor` assesses the attempt that
it has just validated, and `triggerReleaseAssessment` of the control API the latest run of a project on
demand. Each collects its evidence with queries of its own and evaluates it with the standard policy;
whatever fails on the way is stored as a blocked assessment.
-/

namespace AtomsPlatform.Release
open Run Quality
variable {Output : Type}

section Commands

/-- Source `SandboxCommandName`, the type of the column `name` of the commands. -/
inductive SandboxCommandName where
  | install
  | prismaValidate
  | lint
  | typecheck
  | test
  | build
  | previewStart
  | previewHealth
  | acceptance
  | dbStart
  | dbMigrate
  | dbSeed
deriving DecidableEq, Repr

/-- The step whose commands are stored under a name. -/
def SandboxCommandName.step : SandboxCommandName → String
  | .install => "install"
  | .prismaValidate => "prisma-validate"
  | .lint => "lint"
  | .typecheck => "typecheck"
  | .test => "test"
  | .build => "build"
  | .previewStart => "preview-start"
  | .previewHealth => "preview-health"
  | .acceptance => "acceptance"
  | .dbStart => "db-start"
  | .dbMigrate => "db-migrate"
  | .dbSeed => "db-seed"

/-- The values of the enumeration. -/
def sandboxCommandNames : List SandboxCommandName :=
  [.install, .prismaValidate, .lint, .typecheck, .test, .build, .previewStart, .previewHealth,
    .acceptance, .dbStart, .dbMigrate, .dbSeed]

/-- Source `toSandboxCommandName`, on the name of a step. -/
def toSandboxCommandName (step : String) : Option SandboxCommandName :=
  sandboxCommandNames.find? fun name => name.step = step

/-- Source `SANDBOX_COMMAND_NAME_TO_STEP`, the same in both components. -/
def SandboxCommandName.toStep? : SandboxCommandName → Option StepName
  | .install => some .install
  | .prismaValidate => some .prismaValidate
  | .lint => some .lint
  | .typecheck => some .typecheck
  | .test => some .test
  | .build => some .build
  | .previewStart => some .previewStart
  | .previewHealth => some .previewHealth
  | .acceptance | .dbStart | .dbMigrate | .dbSeed => none

/-- Source `NON_BASELINE_SANDBOX_COMMAND_NAMES`. -/
def nonBaselineSandboxCommandNames : List SandboxCommandName :=
  [.acceptance, .dbStart, .dbMigrate, .dbSeed]

/-- The value of the column `name`. -/
def commandName (command : SandboxCommand) : Option SandboxCommandName :=
  toSandboxCommandName command.name

/-- The commands of the sessions that satisfy a condition, in the order of their ordinals. -/
def commandsOf (p : SandboxSession → Bool) (s : RunStore Output) : List SandboxCommand :=
  (s.sandboxCommands.filter fun command => s.sandboxSessions.any fun session =>
    session.id = command.sandboxSessionId && p session).insertionSort
      fun left right => left.ordinal ≤ right.ordinal

/-- `agentTask.findFirst({ where: { runId, agentName }, orderBy: { ordinal: "asc" } })` -/
def firstTask (runId : Uuid) (agentName : AgentName) (s : RunStore Output) :
    Option (AgentTask Output) :=
  ((s.tasks.filter fun task => task.runId = runId ∧ task.agentName = agentName).insertionSort
    fun left right => left.ordinal ≤ right.ordinal).head?

end Commands

/-- What the assessors are configured with: the user stories that `EmmaCriteriaSchema` reads of an
    output, the report that `JSON.parse` and `AcceptanceRunOutputSchema` make of a line, and the
    criteria that each scenario is evidence for. -/
structure AssessorOptions (Output : Type) where
  userStories : Output → Option (List UserStory)
  report : Utf16 → Option (List AcceptanceScenarioResult)
  criterionKeysByScenario : List (Utf16 × List Utf16) := []

variable (options : AssessorOptions Output) (generated : Generated) (now : Date)

section Worker

/-- Source `AcceptanceTaskSnapshot`. -/
structure AcceptanceTaskSnapshot (Output : Type) where
  taskId : Uuid
  attempt : Nat
  output : Output

/-- Source `BaselineCommandRecord`. -/
structure BaselineCommandRecord where
  id : Uuid
  name : StepName
  startedAt : Date
  completedAt : Date
  exitCode : Int
deriving DecidableEq, Repr

/-- Source `AcceptanceRunRecord`. -/
structure AcceptanceRunRecord where
  id : Uuid
  completedAt : Date
  stdout : Utf16
deriving DecidableEq, Repr

/-- Source `ReleaseEvidenceInputs`. -/
structure ReleaseEvidenceInputs (Output : Type) where
  files : List SnapshotFile
  acceptanceTask : Option (AcceptanceTaskSnapshot Output)
  baselineCommands : List BaselineCommandRecord
  acceptanceRun : Option AcceptanceRunRecord

/-- The completed task of Emma, with its output. -/
def acceptanceTaskOf (runId : Uuid) (s : RunStore Output) : Option (AcceptanceTaskSnapshot Output) :=
  (firstTask runId .emma s).bind fun task =>
    if task.status = .completed then
      task.output.map fun output => ⟨task.id, task.attempt, output⟩
    else none

/-- The record of a baseline command. -/
def baselineCommandRecord (command : SandboxCommand) : BaselineCommandRecord where
  id := command.id
  name := ((commandName command).bind SandboxCommandName.toStep?).getD .install
  startedAt := command.startedAt
  completedAt := command.completedAt
  exitCode := command.exitCode

/-- Whether a command is a baseline command. -/
def isBaseline (command : SandboxCommand) : Bool :=
  !(commandName command).any fun name => name ∈ nonBaselineSandboxCommandNames

/-- The first command with the name `ACCEPTANCE`. -/
def acceptanceRunOf (commands : List SandboxCommand) : Option AcceptanceRunRecord :=
  (commands.find? fun command => commandName command = some .acceptance).map fun command =>
    ⟨command.id, command.completedAt, command.stdout⟩

/-- Whether a session is that of an attempt of a run. -/
def isAttempt (runId : Uuid) (attempt : Nat) (session : SandboxSession) : Bool :=
  session.runId = runId ∧ session.attempt = attempt

/-- Source `loadEvidenceInputs`. -/
def loadEvidenceInputs (runId : Uuid) (attempt : Nat) (s : RunStore Output) :
    Except Failure (ReleaseEvidenceInputs Output) :=
  match s.run? runId with
  | none => .error (.prisma "P2025" "No record was found for a query.")
  | some run =>
    let sandboxCommands := commandsOf (isAttempt runId attempt) s
    .ok
      { files := snapshotOf s run.projectId
        acceptanceTask := acceptanceTaskOf runId s
        baselineCommands := (sandboxCommands.filter isBaseline).map baselineCommandRecord
        acceptanceRun := acceptanceRunOf sandboxCommands }

/-- The acceptance snapshot of Emma's task, if there is one. -/
def snapshotOfTask (scope : QualityScope) (task : Option (AcceptanceTaskSnapshot Output)) :
    Except QualityInputError (Option AcceptanceSnapshot) :=
  match task with
  | none => .ok none
  | some task =>
    (createAcceptanceSnapshot scope task.taskId task.attempt (options.userStories task.output)).map
      some

/-- The evidence of a baseline command. -/
def evidenceOfRecord (scope : QualityScope) (command : BaselineCommandRecord) :
    Except QualityInputError (Option QualityEvidence) :=
  evidenceFromValidationStep scope command.id command.name command.startedAt command.completedAt
    command.exitCode

/-- The evidence of the acceptance run for the criteria of the snapshot, and the scenarios with keys
    that are none of its criteria's; nothing if the run or the snapshot is missing. -/
def acceptanceEvidence (scope : QualityScope) (acceptance : Option AcceptanceSnapshot)
    (acceptanceRun : Option AcceptanceRunRecord) :
    Except QualityInputError (List QualityEvidence × List (Utf16 × List Utf16)) :=
  match acceptance, acceptanceRun with
  | some acceptance, some acceptanceRun =>
    let resolution := resolveCriterionIdsByScenario acceptance options.criterionKeysByScenario
    (evidenceFromAcceptanceRun options.report generated.uuid scope acceptanceRun.id acceptance.taskId
      acceptance.taskAttempt acceptanceRun.completedAt resolution.criterionIdsByScenario
      acceptanceRun.stdout).map fun evidence => (evidence, resolution.unresolvedScenarios)
  | _, _ => .ok ([], [])

/-- What the worker evaluates, and the unresolved scenarios. -/
def workerEvaluation (scope : ReleaseAssessmentScope) (inputs : ReleaseEvidenceInputs Output) :
    Except QualityInputError (QualityEvaluationInput × List (Utf16 × List Utf16)) := do
  let snapshotSha256 ← fingerprintProjectSnapshot inputs.files
  let qualityScope := scope.quality snapshotSha256
  let acceptance ← snapshotOfTask options qualityScope inputs.acceptanceTask
  let evidence ← Collect.collect (evidenceOfRecord qualityScope) inputs.baselineCommands
  let (accepted, unresolved) ←
    acceptanceEvidence options generated qualityScope acceptance inputs.acceptanceRun
  let input : QualityEvaluationInput :=
    { scope := qualityScope
      evaluatedAt := now
      policy := standardReleasePolicy
      acceptance
      evidence := evidence ++ accepted }
  pure (input, unresolved)

/-- The scope that the worker assesses. -/
def workerScope (run : RunExecutionRecord) (attempt : Nat) : ReleaseAssessmentScope where
  workspaceId := run.workspaceId
  projectId := run.projectId
  runId := run.id
  controlVersion := run.controlVersion
  attempt

/-- Source `assess` of `DeterministicReleaseAssessor`. -/
def assess (run : RunExecutionRecord) (attempt : Nat) (s : ReleaseTables Output) :
    ReleaseTables Output :=
  let scope := workerScope run attempt
  let assessed : Option (ReleaseTables Output) := do
    let inputs ← (loadEvidenceInputs run.id attempt s.platform).toOption
    let (input, unresolved) ← (workerEvaluation options generated now scope inputs).toOption
    let assessment ← (evaluateRelease input).toOption
    (persistAssessment generated scope assessment input.evidence unresolved s).toOption
  match assessed with
  | some s => s
  | none =>
    -- a failure of the second attempt to write is ignored as well
    ((persistEvaluatorFailure generated scope now s).toOption).getD s

end Worker

section Manual

/-- Source `TriggerReleaseAssessmentResult`. -/
inductive TriggerReleaseAssessmentResult where
  | ok :
    ReleaseAssessmentRow → TriggerReleaseAssessmentResult
  | projectNotFound
  | noEligibleRun
deriving DecidableEq, Repr

/-- The project of an id, if it is not archived and the user is a member of its workspace. -/
def ReleaseTables.memberProject (s : ReleaseTables Output) (userId projectId : Uuid) :
    Option Database.Project :=
  s.projects.find? fun project => project.id = projectId ∧ project.archived = false ∧
    s.memberships.any fun m => m.userId = userId ∧ m.workspaceId = project.workspaceId

/-- The latest run of a project. -/
def ReleaseTables.latestRun (s : ReleaseTables Output) (projectId : Uuid) : Option AgentRun :=
  ((s.platform.runs.filter fun run => run.projectId = projectId).insertionSort fun left right =>
    s.runCreatedAt right.id ≤ s.runCreatedAt left.id).head?

/-- The scope that is assessed on demand, always of the first attempt. -/
def manualScope (project : Database.Project) (run : AgentRun) : ReleaseAssessmentScope where
  workspaceId := project.workspaceId
  projectId := project.id
  runId := run.id
  controlVersion := run.controlVersion
  attempt := 1

/-- The evidence of a command; a command of another step has none. -/
def evidenceOfCommand (scope : QualityScope) (command : SandboxCommand) :
    Except QualityInputError (Option QualityEvidence) :=
  match (commandName command).bind SandboxCommandName.toStep? with
  | none => .ok none
  | some step =>
    evidenceFromValidationStep scope command.id step command.startedAt command.completedAt
      command.exitCode

/-- What is evaluated on demand. -/
def manualEvaluation (scope : ReleaseAssessmentScope) (s : RunStore Output) :
    Except QualityInputError QualityEvaluationInput := do
  let snapshotSha256 ← fingerprintProjectSnapshot (snapshotOf s scope.projectId)
  let qualityScope := scope.quality snapshotSha256
  let acceptance ← snapshotOfTask options qualityScope (acceptanceTaskOf scope.runId s)
  let evidence ← Collect.collect (evidenceOfCommand qualityScope)
    (commandsOf (fun session => session.runId = scope.runId) s)
  pure
    { scope := qualityScope
      evaluatedAt := now
      policy := standardReleasePolicy
      acceptance
      evidence }

/-- Source `triggerReleaseAssessment`. -/
def triggerReleaseAssessment (userId projectId : Uuid) (s : ReleaseTables Output) :
    Except Failure (TriggerReleaseAssessmentResult × ReleaseTables Output) :=
  match s.memberProject userId projectId with
  | none => .ok (.projectNotFound, s)
  | some project =>
    match s.latestRun project.id with
    | none => .ok (.noEligibleRun, s)
    | some run =>
      let scope := manualScope project run
      let assessed : Option (ReleaseAssessmentRow × ReleaseTables Output) := do
        let input ← (manualEvaluation options now scope s.platform).toOption
        let assessment ← (evaluateRelease input).toOption
        (persistManual generated scope (.of assessment input.scope.snapshotSha256 now) s).toOption
      match assessed with
      | some (row, s) => .ok (.ok row, s)
      | none =>
        (persistManual generated scope (.evaluatorFailure now) s).map fun (row, s) => (.ok row, s)

end Manual

end AtomsPlatform.Release
