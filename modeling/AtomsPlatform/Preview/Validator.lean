import AtomsPlatform.Lib.Interfaces
import AtomsPlatform.Lib.Mutable
import AtomsPlatform.Release.Runner
import AtomsPlatform.Run.Collaborators
import AtomsPlatform.Run.Platform
import AtomsPlatform.Run.SandboxRows

/-!
# Previews of runs

`Phase2RunValidator` validates a project in a sandbox and publishes its preview: the session of the
sandbox in the tables, and the target of the preview in the store of the gateway. The variables that its
hooks, its `catch` and the leases share are the variables of the program. The processor with this
validator is an execution of a run job.
-/

namespace AtomsPlatform.Preview
open Interleaving Run Release

section SessionStore

/-- Source `PreviewTarget`. -/
structure PreviewTarget where
  sessionId : Uuid
  workspaceId : Uuid
  projectId : Uuid
  runId : Uuid
  upstreamUrl : String
  requestHeaders : List (String × String)
  expiresAt : Date
deriving DecidableEq, Repr

/-- Source `PreviewTargetSchema`: whether it accepts the address of a target, and its headers as it leaves
    them. -/
structure PreviewTargetSchema where
  upstreamUrl : String → Bool
  requestHeaders : List (String × String) → Option (List (String × String))

/-- `PreviewTargetSchema.parse(target)` -/
def PreviewTargetSchema.parse (schema : PreviewTargetSchema) (target : PreviewTarget) :
    Except Thrown PreviewTarget :=
  match schema.requestHeaders target.requestHeaders with
  | none => .error zodError
  | some requestHeaders =>
    if schema.upstreamUrl target.upstreamUrl then .ok { target with requestHeaders }
    else .error zodError

/-- The targets by their keys. A key expires at the time that its target says. -/
abbrev PreviewSessionStore : Type :=
  Uuid → Option PreviewTarget

namespace PreviewSessionStore

/-- Source `put`. -/
def put (schema : PreviewTargetSchema) (target : PreviewTarget) (now : Date)
    (s : PreviewSessionStore) : Except Thrown (Unit × PreviewSessionStore) :=
  match schema.parse target with
  | .error error => .error error
  | .ok parsed =>
    if parsed.expiresAt ≤ now then
      .error [{ name := "RangeError", message := "Cannot store an expired preview target" }]
    else .ok ((), Function.update s parsed.sessionId (some parsed))

/-- Source `get`. -/
def get (s : PreviewSessionStore) (sessionId : Uuid) (now : Date) : Option PreviewTarget :=
  (s sessionId).filter fun target => now < target.expiresAt

/-- Source `delete`. -/
def delete (s : PreviewSessionStore) (sessionId : Uuid) : PreviewSessionStore :=
  Function.update s sessionId none

end PreviewSessionStore

end SessionStore

section Cleanup
variable {Output : Type}

/-- Source `markSandboxFailed`. -/
def markSandboxFailed (sandboxSessionId : Uuid) (error : RunError) (now : Date) :
    Transaction Output Unit := fun s =>
  .ok ((), { s with
    sandboxSessions := Table.update SandboxSession.id sandboxSessionId (fun _ => true)
      (fun w => { w with status := .failed, error := some error, terminatedAt := some now })
      s.sandboxSessions })

/-- Source `markPreviewStopped`. -/
def markPreviewStopped (sandboxSessionId : Uuid) (now : Date) : Transaction Output Unit := fun s =>
  match Table.lookup SandboxSession.id sandboxSessionId s.sandboxSessions with
  | none => .ok ((), s)
  | some session =>
    let s := { s with
      sandboxSessions := Table.update SandboxSession.id session.id (fun _ => true)
        (fun w => { w with status := .terminated, terminatedAt := some now }) s.sandboxSessions }
    match Table.lookup PreviewSession.sandboxSessionId session.id s.previewSessions with
    | none => .ok ((), s)
    | some preview =>
      let s := { s with
        previewSessions := Table.update PreviewSession.id preview.id (fun _ => true)
          (fun p => { p with ready := false, stoppedAt := some now }) s.previewSessions }
      .ok ((), s.appendEvent session.runId
        (.ofOther (.previewStopped preview.id preview.expiresAt)))

end Cleanup

section Programs
variable {Output : Type}

/-- The calls on the provider of sandboxes. -/
inductive ProviderCall where
  | create (spec : SandboxSpec)
  | writeFiles (sandboxId : String) (files : List SandboxFileInput)
  | exec (sandboxId : String) (command : ExecCommand)
  | startProcess (sandboxId : String) (command : ExecCommand)
  | exposePort (sandboxId : String) (port : Nat)
  | terminate (sandboxId : String)

/-- What a call answers when it does not fail. -/
@[reducible]
def ProviderCall.Result : ProviderCall → Type
  | .create _ => SandboxHandle
  | .exec .. => ExecResult
  | .startProcess .. => Nat
  | .exposePort .. => PreviewUrl
  | .writeFiles .. | .terminate _ => Unit

/-- The calls of an execution. -/
inductive ExecutionCall (schemas : AgentOutputSchemas Output) where
  | worker (c : WorkerCall schemas)
  | provider (o : ProviderCall)
  /-- `randomBytes(32).toString("base64url")` -/
  | randomBytes
  /-- The order in which promises that were started together take effect. -/
  | schedule
  | put (target : PreviewTarget)
  | delete (sessionId : Uuid)
  | markSandboxFailed (sandboxSessionId : Uuid) (error : RunError) (now : Date)
  | markPreviewStopped (sandboxSessionId : Uuid) (now : Date)

variable {schemas : AgentOutputSchemas Output}

/-- What a call answers when it does not fail. -/
@[reducible]
def ExecutionCall.Result : ExecutionCall schemas → Type
  | .worker c => c.Answer
  | .provider o => o.Result
  | .randomBytes => String
  | .schedule => Nat
  | .put _ | .delete _ | .markSandboxFailed .. | .markPreviewStopped .. => Unit

/-- What is left to revoke of a validation: the variables of the closure `revoke`. -/
structure Lease where
  sessionId : Uuid
  sandboxId : String
  revoked : Bool := false
deriving DecidableEq, Repr

/-- The variables of `validate`, and the leases that it has returned. -/
structure Variables where
  sandboxSessionId : Option Uuid := none
  sandbox : Option SandboxHandle := none
  result : Option ProjectValidationResult := none
  leases : List Lease := []

/-- Programs of an execution. -/
abbrev ExecutionProgram (schemas : AgentOutputSchemas Output) (α : Type) : Type :=
  Mutable (ExecutionCall schemas) ExecutionCall.Result Thrown Variables α

/-- The program that makes one call. -/
abbrev request (o : ExecutionCall schemas) : ExecutionProgram schemas o.Result :=
  Mutable.invoke o

/-- The program that makes one call of a worker. -/
abbrev worker (c : WorkerCall schemas) : ExecutionProgram schemas c.Answer :=
  Mutable.invoke (ExecutionCall.worker c)

/-- A program of a worker. -/
def lift {α : Type} (p : WorkerProgram schemas α) : ExecutionProgram schemas α :=
  ExceptT.mk fun v => (Prog.embed ExecutionCall.worker p.run).bind fun r => .ret (r, v)

/-- A computation of the execution itself, which may throw. -/
def computed {α : Type} : Except Thrown α → ExecutionProgram schemas α
  | .ok a => pure a
  | .error error => throw error

/-- Source `Phase2RunValidatorOptions`, as far as they are not called: the runner's options, the addresses
    that the signer issues at a time, and the choice of scenarios. -/
structure Phase2RunValidatorOptions where
  runner : RunnerOptions := {}
  issue : (now : Date) → (sessionId : Uuid) → (expiresAt : Date) → Except Thrown String
  acceptanceManifestForProjectType : Option (ProjectType → Option AcceptanceManifest) := none

/-- The provider that the runner calls. -/
def provider : SandboxProvider (ExecutionProgram schemas) where
  now := worker .now
  create spec := request (.provider (.create spec))
  writeFiles sandboxId files := request (.provider (.writeFiles sandboxId files))
  exec sandboxId command := request (.provider (.exec sandboxId command))
  startProcess sandboxId command := request (.provider (.startProcess sandboxId command))
  exposePort sandboxId port := request (.provider (.exposePort sandboxId port))
  terminate sandboxId := request (.provider (.terminate sandboxId))

/-- Source `requireSessionId`, of the variable. -/
def requireSessionId : ExecutionProgram schemas Uuid := do
  let v ← get
  match v.sandboxSessionId with
  | some sessionId => pure sessionId
  | none => throw [{ message := "Sandbox session was not persisted before lifecycle update" }]

/-- `url.replace(/\/$/u, "")` -/
def withoutSlash (url : String) : String :=
  if url.toList.getLast? = some '/' then String.ofList url.toList.dropLast else url

variable (options : Phase2RunValidatorOptions)

/-- `this.#previewSigner.issue(sessionId, expiresAt)` -/
def issue (sessionId : Uuid) (expiresAt : Date) : ExecutionProgram schemas String := do
  let now ← worker .now
  computed (options.issue now sessionId expiresAt)

/-- The hooks of `validate`. -/
def hooks (run : RunExecutionRecord) (attempt : Nat) :
    ProjectValidationHooks (ExecutionProgram schemas) where
  onSandboxCreated created expiresAt := do
    modify fun v => { v with sandbox := some created }
    let now ← worker .now
    let mutation ← worker (.store (.createSandboxSession
      { run, attempt, externalId := created.id, expiresAt, now }))
    match mutation with
    | none => throw (runStoppedError "Run stopped while the sandbox was being recorded" "stopped")
    | some sandboxSessionId =>
      modify fun v => { v with sandboxSessionId := some sandboxSessionId }
  onFilesRestored _ := do
    let sessionId ← requireSessionId
    let now ← worker .now
    let active ← worker (.store (.markSandboxFilesRestored run.id run.controlVersion sessionId now))
    if active then pure ()
    else throw (runStoppedError "Run stopped after restoring the project revision" "stopped")
  previewEnvironment _ previewExpiresAt := do
    let sessionId ← requireSessionId
    let address ← issue options sessionId previewExpiresAt
    let secret ← request .randomBytes
    pure [("NEXTAUTH_URL", withoutSlash address), ("NEXTAUTH_SECRET", secret), ("AUTH_SECRET", secret)]
  onStep _ step := do
    let sessionId ← requireSessionId
    let now ← worker .now
    let active ← worker (.store (.recordSandboxCommand
      { runId := run.id
        expectedControlVersion := run.controlVersion
        sandboxSessionId := sessionId
        step
        now }))
    if active then pure ()
    else throw (runStoppedError "Run stopped during sandbox validation" "stopped")

/-- The scenarios of the project's type, if any are wanted. -/
def chooseManifest (run : RunExecutionRecord) : ExecutionProgram schemas (Option AcceptanceManifest) :=
  match options.acceptanceManifestForProjectType with
  | none => pure none
  | some choose => do
    let projectType ← worker (.getProjectType run.projectId)
    pure (choose projectType)

/-- A new lease. -/
def grant (sessionId : Uuid) (sandboxId : String) : ExecutionProgram schemas Uuid := do
  let v ← get
  modify fun v => { v with leases := v.leases ++ [{ sessionId, sandboxId }] }
  pure v.leases.length

/-- The target of a preview. -/
def previewTarget (run : RunExecutionRecord) (sessionId : Uuid) (result : ProjectValidationResult) :
    PreviewTarget where
  sessionId
  workspaceId := run.workspaceId
  projectId := run.projectId
  runId := run.id
  upstreamUrl := result.preview.url
  requestHeaders := result.preview.requestHeaders
  expiresAt := result.expiresAt

/-- The end of the `try` of `validate`: the preview is published. -/
def publish (run : RunExecutionRecord) (result : ProjectValidationResult) :
    ExecutionProgram schemas (Option Uuid) := do
  modify fun v => { v with result := some result }
  let sessionId ← requireSessionId
  let gatewayUrl ← issue options sessionId result.expiresAt
  request (.put (previewTarget run sessionId result))
  let now ← worker .now
  let active ← worker (.store (.recordPreviewReady
    { run
      sandboxSessionId := sessionId
      gatewayUrl
      processId := result.previewProcessId
      expiresAt := result.expiresAt
      now }))
  if active then do
    let lease ← grant sessionId result.sandbox.id
    pure (some lease)
  else throw (runStoppedError "Run stopped before the preview became visible" "stopped")

/-- A promise whose rejection is ignored: `.catch(() => undefined)`. -/
def ignoring (p : ExecutionProgram schemas Unit) : ExecutionProgram schemas Unit :=
  tryCatch p fun _ => pure ()

/-- The end of the `catch` of `validate`: the sandbox is terminated, if there is one. -/
def terminateSandbox (v : Variables) : ExecutionProgram schemas Unit :=
  match v.result, v.sandbox with
  | some result, _ => ignoring (request (.provider (.terminate result.sandbox.id)))
  | none, some sandbox => ignoring (request (.provider (.terminate sandbox.id)))
  | none, none => pure ()

/-- The `catch` of `validate`. -/
def cleanUp (error : Thrown) : ExecutionProgram schemas Unit := do
  let v ← get
  match v.sandboxSessionId with
  | none => pure ()
  | some sandboxSessionId => do
    ignoring (request (.delete sandboxSessionId))
    let now ← worker .now
    ignoring (request (.markSandboxFailed sandboxSessionId (toWorkerError error) now))
  terminateSandbox v

/-- Source `validate`; the lease is returned as its place in `leases`. -/
def Phase2RunValidator.validate (run : RunExecutionRecord) (attempt : Nat) :
    ExecutionProgram schemas (Option Uuid) := do
  let files ← worker (.store (.listProjectFiles run.projectId))
  let acceptanceManifest ← chooseManifest options run
  modify fun v => { v with sandboxSessionId := none, sandbox := none, result := none }
  tryCatch
    (do
      let result ← ProjectValidationRunner.validate options.runner provider
        (hooks options run attempt)
        { files := files.map fun file => ⟨file.path, file.content⟩
          metadata := [("workspaceId", toString run.workspaceId), ("projectId", toString run.projectId),
            ("runId", toString run.id), ("attempt", toString attempt)]
          acceptanceManifest }
      publish options run result)
    fun error => do
      cleanUp error
      throw error

/-- What tasks are rejected with. -/
def rejections : List (ExecutionProgram schemas Unit) → ExecutionProgram schemas (List Thrown)
  | [] => pure []
  | task :: tasks => do
    let rejected ← tryCatch
      (do
        task
        pure [])
      fun error => pure [error]
    let later ← rejections tasks
    pure (rejected ++ later)

/-- The failures among `Promise.allSettled(tasks)`: the tasks take effect in any order. -/
def allSettled (tasks : List (ExecutionProgram schemas Unit)) :
    ExecutionProgram schemas (List Thrown) := do
  let order ← request .schedule
  rejections (tasks.permutations.getD order tasks)

/-- Source `revoke` of the lease at a place in `leases`. -/
def Phase2RunValidator.revoke (place : Uuid) : ExecutionProgram schemas Unit := do
  let v ← get
  match v.leases[place]? with
  | none => pure ()
  | some lease =>
    if lease.revoked then pure ()
    else do
      modify fun v => { v with leases := v.leases.set place { lease with revoked := true } }
      let failures ← allSettled
        [request (.delete lease.sessionId),
          request (.provider (.terminate lease.sandboxId)),
          do
            let now ← worker .now
            request (.markPreviewStopped lease.sessionId now)]
      if failures.isEmpty then pure ()
      else throw [{ name := "AggregateError", message := "Preview lease cleanup failed" }]

/-- The collaborators of the processor, with this validator. -/
def executionCollaborators (processor : RunProcessorOptions) :
    Collaborators schemas (RunOutputs schemas) (ExecutionProgram schemas) where
  now := worker .now
  claimRun job now := worker (.store (.claimRun job now))
  invokeGraph input := lift do
    let finalState ← Run.invokeGraph processor input
    pure finalState.outputs
  parseUpstreamOutputs := Run.parseUpstreamOutputs
  listProjectFiles projectId := worker (.store (.listProjectFiles projectId))
  validator := some (Phase2RunValidator.validate options)
  assessor :=
    if processor.assessor then
      some fun run attempt => Collaborators.attempted (worker (.assess run attempt))
    else none
  repairer :=
    if processor.repairer then
      some fun input =>
        lift (repair input.run input.failure input.upstreamOutputs input.repairAttempt)
    else none
  maxRepairAttempts := processor.maxRepairAttempts
  revoke lease := Collaborators.attempted (Phase2RunValidator.revoke lease)
  completeRun runId version now := worker (.store (.completeRun runId version now))
  failRun runId version error now := worker (.store (.failRun runId version error now))

end Programs

section System
variable {Output : Type} (schemas : AgentOutputSchemas Output)

/-- The tables and what belongs to them, and the store of the previews. -/
structure PreviewPlatform where
  worker : Run.Platform schemas := {}
  targets : PreviewSessionStore := fun _ => none

/-- What the environment decides about one call. -/
structure PreviewEnvironment where
  worker : WorkerEnvironment schemas
  sandbox : SandboxHandle := ⟨"", 0⟩
  exec : ExecResult := ⟨0, [], [], 0⟩
  pid : Nat := 0
  url : PreviewUrl := ⟨3000, "", []⟩
  secret : String := ""
  order : Nat := 0

/-- What is started: the delivery of a job, or a transaction of another component. -/
inductive PreviewActivity (Output : Type) where
  | delivery :
    (job : RunJob) → RunAttempt → PreviewActivity Output
  | request :
    Operation Output → PreviewActivity Output

/-- The transactions of executions are made by executions only. -/
def PreviewActivity.admitted : PreviewActivity Output → Bool
  | .delivery .. => true
  | .request operation => !operation.byWorker && !operation.reportsSandbox

variable {schemas}

/-- The tables. -/
abbrev PreviewPlatform.tables (s : PreviewPlatform schemas) : RunStore Output :=
  s.worker.tables

/-- What the environment answers for the provider. -/
def ProviderCall.answer (env : PreviewEnvironment schemas) : (o : ProviderCall) → o.Result
  | .create _ => env.sandbox
  | .exec .. => env.exec
  | .startProcess .. => env.pid
  | .exposePort .. => env.url
  | .writeFiles .. | .terminate _ => ()

/-- A write, which may be refused, may not take effect, and may take effect unseen. -/
def Fate.settle {α σ : Type} (fate : Run.Fate) (written : Except Thrown (α × σ)) (s : σ) :
    Except Thrown α × σ :=
  match written, fate with
  | .ok (a, s'), .commits => (.ok a, s')
  | .ok (_, s'), .unacknowledged error => (.error error.thrown, s')
  | .error error, .commits | .error error, .unacknowledged _ => (.error error, s)
  | _, .aborts error => (.error error.thrown, s)

/-- A transaction on the tables. -/
def PreviewPlatform.transact (s : PreviewPlatform schemas) (fate : Run.Fate)
    (transaction : Transaction Output Unit) : Except Thrown Unit × PreviewPlatform schemas :=
  let (r, tables) := Fate.settle fate ((transaction s.tables).mapError Failure.thrown) s.tables
  (r, { s with worker := { s.worker with tables } })

/-- A write to the store of the previews. -/
def PreviewPlatform.store (s : PreviewPlatform schemas) (fate : Run.Fate)
    (written : Except Thrown (Unit × PreviewSessionStore)) :
    Except Thrown Unit × PreviewPlatform schemas :=
  let (r, targets) := Fate.settle fate written s.targets
  (r, { s with targets })

/-- Answers a call. -/
def ExecutionCall.perform (processor : RunProcessorOptions)
    (references : Uuid → List AgentReferenceAttachment) (schema : PreviewTargetSchema) :
    (o : ExecutionCall schemas) → PreviewEnvironment schemas → PreviewPlatform schemas →
      Except Thrown o.Result × PreviewPlatform schemas
  | .worker c, env, s =>
    let (r, platform) := c.perform processor references env.worker s.worker
    (r, { s with worker := platform })
  | .provider o, env, s => (env.worker.answer (o.answer env), s)
  | .randomBytes, env, s => (.ok env.secret, s)
  | .schedule, env, s => (.ok env.order, s)
  | .put target, env, s =>
    s.store env.worker.transaction.fate (s.targets.put schema target env.worker.now)
  | .delete sessionId, env, s =>
    s.store env.worker.transaction.fate (.ok ((), s.targets.delete sessionId))
  | .markSandboxFailed sandboxSessionId error now, env, s =>
    s.transact env.worker.transaction.fate (Preview.markSandboxFailed sandboxSessionId error now)
  | .markPreviewStopped sandboxSessionId now, env, s =>
    s.transact env.worker.transaction.fate (Preview.markPreviewStopped sandboxSessionId now)

/-- The program of an activity. -/
def PreviewActivity.program (options : Phase2RunValidatorOptions) (processor : RunProcessorOptions) :
    PreviewActivity Output → ExecutionProgram schemas Unit
  | .delivery job attempt => do
    let _ ← (executionCollaborators options processor).process job attempt
  | .request operation => do
    let _ ← worker (.store operation)

/-- Executions and the transactions of other components, interleaved call by call. -/
def previewSystem (schemas : AgentOutputSchemas Output) (options : Phase2RunValidatorOptions)
    (processor : RunProcessorOptions) (references : Uuid → List AgentReferenceAttachment)
    (schema : PreviewTargetSchema) :
    System (ExecutionCall schemas) (fun o => Except Thrown o.Result) (PreviewPlatform schemas)
      (PreviewActivity Output) (Except Thrown Unit × Variables) where
  Choice := PreviewEnvironment schemas
  perform := ExecutionCall.perform processor references schema
  body activity := (activity.program options processor).start {}
  admits _ activity := activity.admitted = true

instance (options : Phase2RunValidatorOptions) (processor : RunProcessorOptions)
    (references : Uuid → List AgentReferenceAttachment) (schema : PreviewTargetSchema)
    (s : PreviewPlatform schemas) (activity : PreviewActivity Output) :
    Decidable ((previewSystem schemas options processor references schema).admits s activity) :=
  inferInstanceAs (Decidable (activity.admitted = true))

end System

end AtomsPlatform.Preview
