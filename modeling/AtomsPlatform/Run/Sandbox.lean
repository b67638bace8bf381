import AtomsPlatform.Run.Repository

/-!
# Sandbox and preview records

The transactions through which a validation reports its sandbox: the session, that the files were
restored, each command, and the preview. Like every write of the worker they are made while the run is
active only.
-/

namespace AtomsPlatform.Run
variable {Output : Type}

/-- Source `CreateSandboxSessionInput`. -/
structure CreateSandboxSessionInput where
  run : RunExecutionRecord
  attempt : Nat
  externalId : String
  expiresAt : Date
  now : Date
deriving DecidableEq, Repr

/-- The session of a run and an attempt. -/
def isSessionOf (input : CreateSandboxSessionInput) (session : SandboxSession) : Bool :=
  session.runId = input.run.id ∧ session.attempt = input.attempt

/-- Source `createSandboxSession`; `none` when the run is no longer active, `id` is generated. -/
def createSandboxSession (input : CreateSandboxSessionInput) (id : Uuid) :
    Transaction Output (Option Uuid) :=
  whileActive input.run.id input.run.controlVersion input.now none fun s =>
    match s.sandboxSessions.find? (isSessionOf input) with
    | some session =>
      .ok (some session.id, { s with
        sandboxSessions := s.sandboxSessions.map fun session =>
          if isSessionOf input session then
            { session with
              externalId := input.externalId
              status := .provisioning
              expiresAt := input.expiresAt
              error := none
              terminatedAt := none }
          else session })
    | none =>
      if s.sandboxSessions.any fun session => session.id = id ∨
          session.externalId = input.externalId then
        .error (.prisma "P2002" "Unique constraint failed")
      else
        .ok (some id, { s with
          sandboxSessions := s.sandboxSessions ++
            [{ id
               workspaceId := input.run.workspaceId
               projectId := input.run.projectId
               runId := input.run.id
               externalId := input.externalId
               attempt := input.attempt
               expiresAt := input.expiresAt }] })

/-- `sandboxSession.updateMany({ where: { id, runId }, data })`, when it matches a row. -/
def updateSession (sessionId runId : Uuid) (data : SandboxSession → SandboxSession)
    (s : RunStore Output) : Option (RunStore Output) :=
  let matched (session : SandboxSession) : Bool := session.id = sessionId ∧ session.runId = runId
  if s.sandboxSessions.any matched then
    some { s with
      sandboxSessions := s.sandboxSessions.map fun session =>
        if matched session then data session else session }
  else none

/-- Source `markSandboxFilesRestored`. -/
def markSandboxFilesRestored (runId : Uuid) (expectedControlVersion : Nat) (sandboxSessionId : Uuid)
    (now : Date) : Transaction Output Bool :=
  whileActive runId expectedControlVersion now false fun s =>
    match updateSession sandboxSessionId runId (fun w => { w with status := .validating }) s with
    | none => .ok (false, s)
    | some s => .ok (true, s.appendEvent runId (.sandboxReady sandboxSessionId))

/-- Source `ValidationStepReport`, with its result. -/
structure ValidationStepReport where
  ordinal : Nat
  name : String
  command : String
  exitCode : Int
  stdout : Utf16
  stderr : Utf16
  durationMs : Nat
  startedAt : Date
  completedAt : Date
deriving DecidableEq, Repr

/-- Source `RecordSandboxCommandInput`. -/
structure RecordSandboxCommandInput where
  runId : Uuid
  expectedControlVersion : Nat
  sandboxSessionId : Uuid
  step : ValidationStepReport
  now : Date
deriving DecidableEq, Repr

/-- Source `truncateDiagnostic`. -/
def truncateDiagnostic (value : Utf16) : Utf16 :=
  if value.length ≤ 64000 then value
  else value.take 64000 ++ Utf16.ofString "\n[truncated]"

/-- The row of a reported step. -/
def sandboxCommandOf (input : RecordSandboxCommandInput) (id : Uuid) : SandboxCommand where
  id
  sandboxSessionId := input.sandboxSessionId
  ordinal := input.step.ordinal
  name := input.step.name
  command := input.step.command
  succeeded := input.step.exitCode = 0
  exitCode := input.step.exitCode
  stdout := truncateDiagnostic input.step.stdout
  stderr := truncateDiagnostic input.step.stderr
  durationMs := input.step.durationMs
  startedAt := input.step.startedAt
  completedAt := input.step.completedAt

/-- The row of a session and an ordinal. -/
def isCommandOf (input : RecordSandboxCommandInput) (command : SandboxCommand) : Bool :=
  command.sandboxSessionId = input.sandboxSessionId ∧ command.ordinal = input.step.ordinal

/-- `sandboxCommand.upsert`; `id` is generated. -/
def upsertCommand (input : RecordSandboxCommandInput) (id : Uuid) (commands : List SandboxCommand) :
    Except Failure (List SandboxCommand) :=
  if commands.any (isCommandOf input) then
    .ok (commands.map fun c => if isCommandOf input c then sandboxCommandOf input c.id else c)
  else if commands.any fun c => c.id = id then
    .error (.prisma "P2002" "Unique constraint failed")
  else .ok (commands ++ [sandboxCommandOf input id])

/-- Source `recordSandboxCommand`. -/
def recordSandboxCommand (input : RecordSandboxCommandInput) (id : Uuid) : Transaction Output Bool :=
  whileActive input.runId input.expectedControlVersion input.now false fun s =>
    if s.sandboxSessions.any fun session =>
        session.id = input.sandboxSessionId ∧ session.runId = input.runId then
      match upsertCommand input id s.sandboxCommands with
      | .error error => .error error
      | .ok commands =>
        let s := { s with sandboxCommands := commands }
        let command := sandboxCommandOf input id
        .ok (true, s.appendEvent input.runId (.taskProgress input.sandboxSessionId command.ordinal
          command.name command.succeeded command.exitCode command.durationMs command.stdout
          command.stderr))
    else .ok (false, s)

/-- Source `RecordPreviewReadyInput`. -/
structure RecordPreviewReadyInput where
  run : RunExecutionRecord
  sandboxSessionId : Uuid
  gatewayUrl : String
  processId : Nat
  expiresAt : Date
  now : Date
deriving DecidableEq, Repr

/-- Source `recordPreviewReady`. -/
def recordPreviewReady (input : RecordPreviewReadyInput) : Transaction Output Bool :=
  whileActive input.run.id input.run.controlVersion input.now false fun s =>
    let ready (w : SandboxSession) : SandboxSession := { w with status := .ready, error := none }
    match updateSession input.sandboxSessionId input.run.id ready s with
    | none => .ok (false, s)
    | some s =>
      let preview : PreviewSession :=
        { id := input.sandboxSessionId
          runId := input.run.id
          sandboxSessionId := input.sandboxSessionId
          ready := true
          gatewayUrl := input.gatewayUrl
          processId := input.processId
          expiresAt := input.expiresAt
          readyAt := some input.now }
      let same (p : PreviewSession) : Bool := p.sandboxSessionId = input.sandboxSessionId
      let previews :=
        if s.previewSessions.any same then
          s.previewSessions.map fun p => if same p then { preview with id := p.id } else p
        else s.previewSessions ++ [preview]
      let s := { s with previewSessions := previews }
      .ok (true, s.appendEvent input.run.id
        (.previewUpdated input.sandboxSessionId input.gatewayUrl input.expiresAt))

end AtomsPlatform.Run
