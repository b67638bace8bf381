import AtomsPlatform.Lib.Performance
import AtomsPlatform.Preview.Validator
import AtomsPlatform.Release.RunnerRules

/-!
# Reopened previews

`PreviewReopenProcessor` restores the saved files of a completed run into a fresh sandbox and starts its
preview. The sandbox, the store of the previews, the tables and the event log are changed one after the
other; whatever fails on the way, what was begun is taken back (`reopen_opened_xor_cleanedUp`).
-/

namespace AtomsPlatform.Preview.Reopen
open Interleaving Mutable Run Release
variable {Output : Type}

section Repository

/-- Source `PREVIEW_REOPEN_FIRST_ATTEMPT`. -/
def previewReopenFirstAttempt : Nat := 1001

/-- Source `CreatePreviewReopenSessionInput`. -/
structure CreatePreviewReopenSessionInput where
  projectId : Uuid
  workspaceId : Uuid
  runId : Uuid
  externalId : String
  expiresAt : Date
deriving DecidableEq, Repr

/-- Source `RecordPreviewReopenedInput`. -/
structure RecordPreviewReopenedInput where
  sandboxSessionId : Uuid
  projectId : Uuid
  workspaceId : Uuid
  runId : Uuid
  gatewayUrl : String
  processId : Nat
  expiresAt : Date
  now : Date
deriving DecidableEq, Repr

/-- Why a preview was not reopened: there is a message where there was no sandbox, and otherwise an
    error of the worker. -/
inductive ReopenFailure where
  | noFiles (message : String)
  | failed (sandboxSessionId : Option Uuid) (error : RunError)
deriving DecidableEq, Repr

/-- `sandboxSessionId` of a failure. -/
def ReopenFailure.sandboxSessionId : ReopenFailure → Option Uuid
  | .noFiles _ => none
  | .failed sandboxSessionId _ => sandboxSessionId

/-- Source `RecordPreviewReopenFailedInput`. -/
structure RecordPreviewReopenFailedInput where
  runId : Uuid
  failure : ReopenFailure
  now : Date
deriving DecidableEq, Repr

/-- `last._max.attempt ?? 0` -/
def lastAttempt (runId : Uuid) (s : RunStore Output) : Nat :=
  ((s.sandboxSessions.filter fun session => session.runId = runId).map SandboxSession.attempt).foldr max 0

/-- Source `createPreviewReopenSession`; `none` when the run is not a completed run of the project, `id` is
    generated. -/
def createPreviewReopenSession (input : CreatePreviewReopenSessionInput) (id : Uuid) :
    Transaction Output (Option Uuid) := fun s =>
  let found (run : AgentRun) : Bool :=
    run.id = input.runId ∧ run.projectId = input.projectId ∧ run.workspaceId = input.workspaceId ∧
      run.status = .completed
  match s.runs.find? found with
  | none => .ok (none, s)
  | some run =>
    if s.sandboxSessions.any fun session => session.id = id ∨ session.externalId = input.externalId then
      .error (.prisma "P2002" "Unique constraint failed")
    else
      .ok (some id, { s with
        sandboxSessions := s.sandboxSessions ++
          [{ id
             workspaceId := input.workspaceId
             projectId := input.projectId
             runId := run.id
             externalId := input.externalId
             attempt := max (previewReopenFirstAttempt - 1) (lastAttempt run.id s) + 1
             expiresAt := input.expiresAt }] })

/-- The row of a reopened preview. -/
def reopenedPreview (input : RecordPreviewReopenedInput) : PreviewSession where
  id := input.sandboxSessionId
  runId := input.runId
  sandboxSessionId := input.sandboxSessionId
  ready := true
  gatewayUrl := input.gatewayUrl
  processId := input.processId
  expiresAt := input.expiresAt
  readyAt := some input.now

/-- Source `recordPreviewReopened`. -/
def recordPreviewReopened (input : RecordPreviewReopenedInput) : Transaction Output Unit := fun s =>
  match Table.lookup SandboxSession.id input.sandboxSessionId s.sandboxSessions with
  | none => .error (.prisma "P2025" "An operation failed because it depends on a record that was not found")
  | some _ =>
    if s.previewSessions.any fun preview => preview.id = input.sandboxSessionId ∨
        preview.sandboxSessionId = input.sandboxSessionId then
      .error (.prisma "P2002" "Unique constraint failed")
    else
      let s := { s with
        sandboxSessions := Table.update SandboxSession.id input.sandboxSessionId (fun _ => true)
          (fun session => { session with status := .ready, error := none }) s.sandboxSessions
        previewSessions := s.previewSessions ++ [reopenedPreview input] }
      .ok ((), s.appendEvent input.runId
        (.previewUpdated input.sandboxSessionId input.gatewayUrl input.expiresAt))

/-- Source `recordPreviewReopenFailed`. -/
def recordPreviewReopenFailed (input : RecordPreviewReopenFailedInput) : Transaction Output Unit := fun s =>
  let s :=
    match input.failure with
    | .failed (some sandboxSessionId) error => { s with
        sandboxSessions := Table.update SandboxSession.id sandboxSessionId (fun _ => true)
          (fun session => { session with
            status := .failed, error := some error, terminatedAt := some input.now }) s.sandboxSessions }
    | .failed none _ | .noFiles _ => s
  .ok ((), s.appendEvent input.runId
    (.ofOther (.previewFailed (input.failure.sandboxSessionId.getD input.runId) input.now)))

end Repository

section Programs

/-- Source `PreviewReopenJob`. -/
structure PreviewReopenJob where
  projectId : Uuid
  workspaceId : Uuid
  runId : Uuid
deriving DecidableEq, Repr

/-- The calls of a reopening. -/
inductive ReopenCall where
  | now
  | listProjectFiles (projectId : Uuid)
  | createPreviewReopenSession (input : CreatePreviewReopenSessionInput)
  | recordPreviewReopened (input : RecordPreviewReopenedInput)
  | recordPreviewReopenFailed (input : RecordPreviewReopenFailedInput)
  | provider (o : ProviderCall)
  /-- `randomBytes(32).toString("base64url")` -/
  | randomBytes
  | put (target : PreviewTarget)
  | delete (sessionId : Uuid)

/-- What a call answers when it does not fail. -/
@[reducible]
def ReopenCall.Result : ReopenCall → Type
  | .now => Date
  | .listProjectFiles _ => List AgentProjectFile
  | .createPreviewReopenSession _ => Option Uuid
  | .provider o => o.Result
  | .randomBytes => String
  | .recordPreviewReopened _ | .recordPreviewReopenFailed _ | .put _ | .delete _ => Unit

/-- The variables of `process`. -/
structure Variables where
  sandboxSessionId : Option Uuid := none
  sandbox : Option SandboxHandle := none
  result : Option ProjectValidationResult := none

/-- Programs of a reopening. -/
abbrev ReopenProgram (α : Type) : Type :=
  Mutable ReopenCall ReopenCall.Result Thrown Variables α

/-- The program that makes one call. -/
abbrev request (o : ReopenCall) : ReopenProgram o.Result :=
  Mutable.invoke o

/-- A computation of the processor itself, which may throw. -/
def computed {α : Type} : Except Thrown α → ReopenProgram α
  | .ok a => pure a
  | .error error => throw error

/-- Source `PreviewReopenProcessorOptions`, as far as they are not called: the runner's options, and the
    addresses that the signer issues at a time. -/
structure PreviewReopenProcessorOptions where
  runner : RunnerOptions := {}
  issue : (now : Date) → (sessionId : Uuid) → (expiresAt : Date) → Except Thrown String

/-- The provider that the runner calls. -/
def provider : SandboxProvider ReopenProgram where
  now := request .now
  create spec := request (.provider (.create spec))
  writeFiles sandboxId files := request (.provider (.writeFiles sandboxId files))
  exec sandboxId command := request (.provider (.exec sandboxId command))
  startProcess sandboxId command := request (.provider (.startProcess sandboxId command))
  exposePort sandboxId port := request (.provider (.exposePort sandboxId port))
  terminate sandboxId := request (.provider (.terminate sandboxId))

/-- Source `PreviewReopenNotApplicableError`. -/
def previewReopenNotApplicableError : Thrown :=
  [{ name := "PreviewReopenNotApplicableError"
     message := "The run is not a completed run of this project; there is no preview to reopen" }]

/-- Source `requireSessionId`, of the variable. -/
def requireSessionId : ReopenProgram Uuid := do
  let v ← get
  match v.sandboxSessionId with
  | some sessionId => pure sessionId
  | none => throw [{ message := "The preview sandbox session was not recorded before it was used" }]

variable (options : PreviewReopenProcessorOptions) (job : PreviewReopenJob)

/-- `this.#previewSigner.issue(sessionId, expiresAt)` -/
def issue (sessionId : Uuid) (expiresAt : Date) : ReopenProgram String := do
  let now ← request .now
  computed (options.issue now sessionId expiresAt)

/-- The hooks of the validation. -/
def hooks : ProjectValidationHooks ReopenProgram where
  onSandboxCreated created expiresAt := do
    modify fun v => { v with sandbox := some created }
    let id ← request (.createPreviewReopenSession
      { projectId := job.projectId
        workspaceId := job.workspaceId
        runId := job.runId
        externalId := created.id
        expiresAt })
    match id with
    | none => throw previewReopenNotApplicableError
    | some id => modify fun v => { v with sandboxSessionId := some id }
  onFilesRestored _ := pure ()
  previewEnvironment _ previewExpiresAt := do
    let sessionId ← requireSessionId
    let publicUrl ← issue options sessionId previewExpiresAt
    let secret ← request .randomBytes
    pure [("NEXTAUTH_URL", withoutSlash publicUrl), ("NEXTAUTH_SECRET", secret), ("AUTH_SECRET", secret)]
  onStep _ _ := pure ()

/-- The target of the reopened preview. -/
def previewTarget (sessionId : Uuid) (result : ProjectValidationResult) : PreviewTarget where
  sessionId
  workspaceId := job.workspaceId
  projectId := job.projectId
  runId := job.runId
  upstreamUrl := result.preview.url
  requestHeaders := result.preview.requestHeaders
  expiresAt := result.expiresAt

/-- The end of the `try`: the preview is published. -/
def publish (result : ProjectValidationResult) : ReopenProgram Unit := do
  modify fun v => { v with result := some result }
  let sessionId ← requireSessionId
  let gatewayUrl ← issue options sessionId result.expiresAt
  request (.put (previewTarget job sessionId result))
  let now ← request .now
  request (.recordPreviewReopened
    { sandboxSessionId := sessionId
      projectId := job.projectId
      workspaceId := job.workspaceId
      runId := job.runId
      gatewayUrl
      processId := result.previewProcessId
      expiresAt := result.expiresAt
      now })

/-- A promise whose rejection is ignored: `.catch(() => undefined)`. -/
def ignoring (p : ReopenProgram Unit) : ReopenProgram Unit :=
  tryCatch p fun _ => pure ()

/-- The sandbox that the `catch` terminates, if there is one. -/
def Variables.remaining (v : Variables) : Option SandboxHandle :=
  match v.result with
  | some result => some result.sandbox
  | none => v.sandbox

/-- The entry of the session is deleted, if there is a session. -/
def deleteEntry (v : Variables) : ReopenProgram Unit :=
  match v.sandboxSessionId with
  | none => pure ()
  | some sandboxSessionId => ignoring (request (.delete sandboxSessionId))

/-- The sandbox is terminated, if there is one. -/
def terminateSandbox (v : Variables) : ReopenProgram Unit :=
  match v.remaining with
  | none => pure ()
  | some sandbox => ignoring (request (.provider (.terminate sandbox.id)))

/-- The `catch` of `process`. -/
def cleanUp (error : Thrown) : ReopenProgram Unit := do
  let v ← get
  deleteEntry v
  terminateSandbox v
  -- Nothing but the hook throws an error of this class.
  if error = previewReopenNotApplicableError then pure ()
  else do
    let now ← request .now
    ignoring (request (.recordPreviewReopenFailed
      { runId := job.runId
        failure := .failed v.sandboxSessionId (toWorkerError error)
        now }))

/-- Source `process`. -/
def PreviewReopenProcessor.process : ReopenProgram Unit := do
  let files ← request (.listProjectFiles job.projectId)
  if files.isEmpty then do
    let now ← request .now
    request (.recordPreviewReopenFailed
      { runId := job.runId, failure := .noFiles "The project has no saved files to preview.", now })
  else
    tryCatch
      (do
        let result ← ProjectValidationRunner.validate options.runner provider (hooks options job)
          { files := files.map fun file => ⟨file.path, file.content⟩
            metadata := [("workspaceId", toString job.workspaceId),
              ("projectId", toString job.projectId), ("runId", toString job.runId),
              ("purpose", "preview-reopen")]
            previewOnly := true }
        publish options job result)
      (cleanUp job)

end Programs

section World

/-- The tables, the store of the previews, and what was asked of them and of the provider. -/
structure ReopenWorld (Output : Type) where
  tables : RunStore Output
  targets : PreviewSessionStore := fun _ => none
  /-- Whether a sandbox was requested. -/
  requested : Bool := false
  /-- The sandboxes that were created. -/
  created : List SandboxHandle := []
  /-- The sandboxes whose termination was attempted. -/
  terminated : List String := []
  /-- The sessions whose entry was attempted to be deleted. -/
  deleted : List Uuid := []

/-- What the environment decides about one call: whether it fails, and what it answers. -/
structure ReopenEnvironment where
  failure : Option Thrown := none
  /-- Whether a write to the store of the previews that fails has taken effect. -/
  effective : Bool := false
  now : Date := 0
  id : Uuid := 0
  sandbox : SandboxHandle := ⟨"", 0⟩
  exec : ExecResult := ⟨0, [], [], 0⟩
  pid : Nat := 0
  url : PreviewUrl := ⟨3000, "", []⟩
  secret : String := ""

/-- What is answered, if the call does not fail. -/
def ReopenEnvironment.answer {α : Type} (env : ReopenEnvironment) (a : α) : Except Thrown α :=
  match env.failure with
  | none => .ok a
  | some error => .error error

/-- A transaction: one that fails has committed nothing. -/
def ReopenWorld.transact {α : Type} (s : ReopenWorld Output) (env : ReopenEnvironment)
    (transaction : Transaction Output α) : Except Thrown α × ReopenWorld Output :=
  match env.failure, transaction s.tables with
  | some error, _ => (.error error, s)
  | none, .error failure => (.error failure.thrown, s)
  | none, .ok (a, tables) => (.ok a, { s with tables })

/-- A write to the store of the previews. -/
def ReopenWorld.store (s : ReopenWorld Output) (env : ReopenEnvironment)
    (written : Except Thrown (Unit × PreviewSessionStore)) : Except Thrown Unit × ReopenWorld Output :=
  match env.failure, written with
  | none, .ok (_, targets) => (.ok (), { s with targets })
  | none, .error error => (.error error, s)
  | some error, .ok (_, targets) => (.error error, if env.effective then { s with targets } else s)
  | some error, .error _ => (.error error, s)

/-- A call on the provider. -/
def ProviderCall.perform (env : ReopenEnvironment) (s : ReopenWorld Output) :
    (o : ProviderCall) → Except Thrown o.Result × ReopenWorld Output
  | .create _ =>
    let s := { s with requested := true }
    match env.failure with
    | none => (.ok env.sandbox, { s with created := s.created ++ [env.sandbox] })
    | some error => (.error error, s)
  | .terminate sandboxId => (env.answer (), { s with terminated := s.terminated ++ [sandboxId] })
  | .writeFiles .. => (env.answer (), s)
  | .exec .. => (env.answer env.exec, s)
  | .startProcess .. => (env.answer env.pid, s)
  | .exposePort .. => (env.answer env.url, s)

/-- Answers a call; the clock does not fail. -/
def ReopenCall.perform (schema : PreviewTargetSchema) :
    (o : ReopenCall) → ReopenEnvironment → ReopenWorld Output → Except Thrown o.Result × ReopenWorld Output
  | .now, env, s => (.ok env.now, s)
  | .listProjectFiles projectId, env, s => s.transact env (Run.listProjectFiles projectId)
  | .createPreviewReopenSession input, env, s =>
    s.transact env (Reopen.createPreviewReopenSession input env.id)
  | .recordPreviewReopened input, env, s => s.transact env (Reopen.recordPreviewReopened input)
  | .recordPreviewReopenFailed input, env, s => s.transact env (Reopen.recordPreviewReopenFailed input)
  | .provider o, env, s => ProviderCall.perform env s o
  | .randomBytes, env, s => (env.answer env.secret, s)
  | .put target, env, s => s.store env (s.targets.put schema target env.now)
  | .delete sessionId, env, s =>
    { s with deleted := s.deleted ++ [sessionId] }.store env (.ok ((), s.targets.delete sessionId))

/-- One job, from its start to its end. -/
def reopen (options : PreviewReopenProcessorOptions) (schema : PreviewTargetSchema) (job : PreviewReopenJob)
    (tables : RunStore Output) (targets : PreviewSessionStore) (choose : Nat → ReopenEnvironment) :
    Except Thrown Unit × ReopenWorld Output :=
  let ((r, _), s) := ((PreviewReopenProcessor.process options job).start {}).carryOut
    (ReopenCall.perform schema) choose 0 { tables, targets }
  (r, s)

end World

end AtomsPlatform.Preview.Reopen
