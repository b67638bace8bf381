import AtomsPlatform.Attachment.Model
import AtomsPlatform.Lib.Trace
import AtomsPlatform.Lib.Utf16
import AtomsPlatform.Run.Model
import Mathlib.Data.List.Sort

/-!
# Requests for runs

The control API's route `createRun` with the repository's `createRunWithIdempotency`: a run is stored
under the idempotency key of its request, and its start job is put on the queue afterwards. The
transaction that stores a run is at the isolation level READ COMMITTED, so its reads are calls of their
own; what it writes becomes visible with its commit, where the unique index on project and key is
checked. Requests are interleaved with anything else that happens to projects, attachments and runs. A
request whose process crashes is a thread that is not scheduled again.
-/

namespace AtomsPlatform.Creation
open Interleaving
open Run (AgentRun RunError)
open Attachment (ProjectAttachment Project Membership)

section Rows

/-- A row of model `AgentRun` of the schema, with its idempotency key. -/
structure RunRow extends AgentRun where
  idempotencyKey : Option String
deriving DecidableEq, Repr

/-- What the unique index on runs is about. -/
def RunRow.slot (r : RunRow) : Uuid × Option String :=
  (r.projectId, r.idempotencyKey)

/-- Model `AgentRunAttachment` of the schema. -/
structure AgentRunAttachment where
  runId : Uuid
  attachmentId : Uuid
  fileName : String
  contentType : Attachment.AttachmentMimeType
  sizeBytes : Nat
  sha256 : String
  objectKey : Attachment.ObjectKey
deriving DecidableEq, Repr

/-- The primary key of the attachments of runs. -/
def AgentRunAttachment.key (a : AgentRunAttachment) : Uuid × Uuid :=
  (a.runId, a.attachmentId)

/-- The tables, and the start jobs that were put on the queue. -/
structure ControlStore where
  projects : List Project := []
  memberships : List Membership := []
  attachments : List ProjectAttachment := []
  runs : List RunRow := []
  runAttachments : List AgentRunAttachment := []
  queue : List RunJob := []

/-- The attachments of a run. -/
def ControlStore.attachmentsOf (s : ControlStore) (runId : Uuid) : List Uuid :=
  (s.runAttachments.filter fun a => a.runId = runId).map AgentRunAttachment.attachmentId

/-- The project that a user may use. -/
def ControlStore.project? (s : ControlStore) (userId projectId : Uuid) : Option Project :=
  s.projects.find? fun p => p.id = projectId ∧ p.archived = false ∧
    s.memberships.any fun m => m.userId = userId ∧ m.workspaceId = p.workspaceId

end Rows

section Errors

/-- The details of an error response. -/
inductive ErrorDetails where
  | none
  | attachments (attachmentIds : List Uuid)
  | run (runId : Uuid) (status : AgentRunStatus) (controlVersion : Nat)
deriving DecidableEq, Repr

/-- Errors: of the database with its code, `RepositoryAttachmentError`, `ApiError`, and any other. -/
inductive Failure where
  | prisma (code message : String)
  | attachments (attachmentIds : List Uuid)
  | api (statusCode : Nat) (code message : String) (details : ErrorDetails)
  | other (message : Option String)
deriving DecidableEq, Repr

/-- The message of an error, if it is an `Error`. -/
def Failure.message : Failure → Option String
  | .prisma _ message | .api _ _ message _ => some message
  | .attachments _ => some "Every run attachment must be clean and belong to the project"
  | .other message => message

/-- Whether an error is a violation of a unique index. -/
def Failure.isUniqueViolation : Failure → Bool
  | .prisma code _ => code = "P2002"
  | _ => false

/-- Source `providerFailure`, whose JSON has no name. -/
def providerFailure (code : String) (error : Failure) : RunError where
  code
  name := ""
  message := error.message.getD "Provider operation failed"
  retryable := true

end Errors

section Requests

/-- Source `MAX_PROJECT_ATTACHMENTS`. -/
def maxProjectAttachments : Nat := 5

/-- What source `CreateRunInputSchema` and `CreateRunHeadersSchema` read, for a user and a project. -/
structure CreateRunRequest where
  userId : Uuid
  projectId : Uuid
  prompt : String
  idempotencyKey : String
  attachmentIds : List Uuid
  distinct : attachmentIds.Nodup
deriving DecidableEq

/-- A character of an idempotency key. -/
def isKeyChar (c : Char) : Bool :=
  ('a' ≤ c && c ≤ 'z') || ('A' ≤ c && c ≤ 'Z') || ('0' ≤ c && c ≤ '9') || ['.', '_', '-'].contains c

/-- The schemas of the route, on texts that are not trimmed yet. -/
def CreateRunRequest.parse (userId projectId : Uuid) (prompt idempotencyKey : String)
    (attachmentIds : List Uuid) : Option CreateRunRequest :=
  let prompt := Utf16.trimString prompt
  let idempotencyKey := Utf16.trimString idempotencyKey
  if 1 ≤ Utf16.lengthOf prompt ∧ Utf16.lengthOf prompt ≤ 100000 ∧ 8 ≤ idempotencyKey.length ∧
      idempotencyKey.length ≤ 128 ∧ idempotencyKey.toList.all isKeyChar ∧
      attachmentIds.length ≤ maxProjectAttachments then
    if distinct : attachmentIds.Nodup then
      some { userId, projectId, prompt, idempotencyKey, attachmentIds, distinct }
    else none
  else none

/-- A run that was found, with the identifiers of its attachments in their order. -/
structure ExistingRun where
  run : AgentRun
  attachmentIds : List Uuid
deriving DecidableEq, Repr

/-- Source `CreateRunWithIdempotencyResult`. -/
inductive CreateRunResult where
  | projectNotFound
  | idempotencyConflict (run : AgentRun)
  | ok (run : AgentRun) (replayed : Bool)
deriving DecidableEq, Repr

/-- Identifiers in their order. -/
def sorted (ids : List Uuid) : List Uuid :=
  ids.insertionSort (· ≤ ·)

/-- Source `sameAttachmentIds`. -/
def sameAttachmentIds (left right : List Uuid) : Bool :=
  left.length = right.length ∧ sorted left = sorted right

/-- Whether a run that was found is what a request asks for. -/
def ExistingRun.answers (existing : ExistingRun) (request : CreateRunRequest) : Bool :=
  existing.run.prompt = request.prompt ∧
    sameAttachmentIds existing.attachmentIds request.attachmentIds

/-- The answer from a run that was found. -/
def replay (existing : ExistingRun) (request : CreateRunRequest) : CreateRunResult :=
  if existing.answers request then .ok existing.run true else .idempotencyConflict existing.run

end Requests

section Calls

/-- Something else that happens to the tables: to projects and members, to attachments, or to a run,
    whose project and prompt stay what they are. -/
inductive Change where
  | tenants (projects : List Project) (memberships : List Membership)
  | attachments (rows : List ProjectAttachment)
  | run (row : AgentRun)
deriving DecidableEq, Repr

/-- The statements, and the calls of the clock and of the queue. -/
inductive Operation where
  | now
  | findProject (userId projectId : Uuid)
  | findRun (projectId : Uuid) (idempotencyKey : String)
  | findCleanAttachments (ids : List Uuid) (projectId workspaceId : Uuid)
  | storeRun (projectId workspaceId : Uuid) (prompt idempotencyKey : String)
      (attachments : List ProjectAttachment)
  | enqueue (job : RunJob)
  | markRunFailed (runId : Uuid) (expectedControlVersion : Nat) (error : RunError) (now : Date)
  | elsewhere (change : Change)
deriving DecidableEq, Repr

/-- What an operation answers. -/
def Operation.Answer : Operation → Type
  | .now => Date
  | .findProject .. => Option Project
  | .findRun .. => Option ExistingRun
  | .findCleanAttachments .. => List ProjectAttachment
  | .storeRun .. => AgentRun
  | .enqueue _ | .markRunFailed .. | .elsewhere _ => Unit

/-- Programs on these operations. -/
abbrev Program (α : Type) : Type :=
  Fallible Operation Operation.Answer Failure α

/-- One call. -/
abbrev call (o : Operation) : Program o.Answer :=
  invoke o

end Calls

section Programs

/-- Attachments of a project that are clean. -/
def findCleanAttachments (project : Project) (ids : List Uuid) : Program (List ProjectAttachment) :=
  call (.findCleanAttachments ids project.id project.workspaceId)

/-- The attachments that a request is about. -/
def findAttachments (project : Project) (ids : List Uuid) : Program (List ProjectAttachment) :=
  if ids.length = 0 then pure [] else findCleanAttachments project ids

/-- The part of the transaction that makes a run. -/
def makeRun (project : Project) (request : CreateRunRequest) : Program CreateRunResult := do
  let attachments ← findAttachments project request.attachmentIds
  let invalidIds := request.attachmentIds.filter fun id =>
    id ∉ attachments.map ProjectAttachment.id
  if invalidIds.length > 0 then throw (.attachments invalidIds)
  else
    let run ← call
      (.storeRun project.id project.workspaceId request.prompt request.idempotencyKey attachments)
    pure (.ok run false)

/-- The transaction of source `createRunWithIdempotency`. -/
def createRunTransaction (request : CreateRunRequest) : Program CreateRunResult := do
  let project ← call (.findProject request.userId request.projectId)
  match project with
  | none => pure .projectNotFound
  | some project =>
    let existing ← call (.findRun project.id request.idempotencyKey)
    match existing with
    | some existing => pure (replay existing request)
    | none => makeRun project request

/-- Source `createRunWithIdempotency`. -/
def createRunWithIdempotency (request : CreateRunRequest) : Program CreateRunResult :=
  tryCatch (createRunTransaction request) fun error =>
    if error.isUniqueViolation then do
      let existing ← call (.findRun request.projectId request.idempotencyKey)
      match existing with
      | none => throw error
      | some existing => pure (replay existing request)
    else throw error

/-- A response of the route: the status code and the run. -/
structure RunResponse where
  statusCode : Nat
  run : AgentRun
deriving DecidableEq, Repr

/-- The start job of a run. -/
def startJob (run : AgentRun) : RunJob where
  runId := run.id
  command := .start
  controlVersion := run.controlVersion

/-- The end of the route for a run that was just stored. -/
def enqueueStart (run : AgentRun) : Program RunResponse := do
  tryCatch (call (.enqueue (startJob run))) fun error => do
    let now ← call .now
    call (.markRunFailed run.id run.controlVersion (providerFailure "QUEUE_ENQUEUE_FAILED" error) now)
    throw (.api 503 "RUN_QUEUE_UNAVAILABLE" "Run was persisted but could not be enqueued" .none)
  pure ⟨201, run⟩

/-- Source route `createRun`. -/
def createRun (runExecutionEnabled : Bool) (request : CreateRunRequest) : Program RunResponse :=
  if runExecutionEnabled then do
    let result ← tryCatch (createRunWithIdempotency request) fun error =>
      match error with
      | .attachments ids =>
        throw (.api 409 "RUN_ATTACHMENTS_NOT_READY"
          "Every run attachment must be clean and belong to the project" (.attachments ids))
      | error => throw error
    match result with
    | .projectNotFound => throw (.api 404 "PROJECT_NOT_FOUND" "Project not found" .none)
    | .idempotencyConflict run =>
      throw (.api 409 "IDEMPOTENCY_KEY_CONFLICT"
        "The idempotency key was already used for a different run request"
        (.run run.id run.status run.controlVersion))
    | .ok run replayed => if replayed then pure ⟨200, run⟩ else enqueueStart run
  else
    throw (.api 503 "RUN_EXECUTION_DISABLED" "Run execution is disabled by deployment policy" .none)

end Programs

section System

/-- How a call ends: it takes effect, nothing happens, or it takes effect and the answer is lost. -/
inductive Fate where
  | commits
  | aborts (error : Failure)
  | unacknowledged (error : Failure)
deriving DecidableEq, Repr

/-- What the environment decides about one call. -/
structure Environment where
  fate : Fate := .commits
  now : Date := 0
  id : Uuid := 0
deriving DecidableEq, Repr

/-- Whether the effect of a call takes place. -/
def Environment.takesEffect (env : Environment) : Bool :=
  match env.fate with
  | .aborts _ => false
  | .commits | .unacknowledged _ => true

/-- The rows of the attachments of a run: each must have been inspected and copied. -/
def runAttachmentsOf (runId : Uuid) :
    List ProjectAttachment → Except Failure (List AgentRunAttachment)
  | [] => .ok []
  | attachment :: attachments =>
    match attachment.detectedContentType, attachment.sha256, attachment.cleanObjectKey with
    | some contentType, some sha256, some objectKey =>
      (runAttachmentsOf runId attachments).map fun rows =>
        { runId
          attachmentId := attachment.id
          fileName := attachment.fileName
          contentType
          sizeBytes := attachment.sizeBytes
          sha256
          objectKey } :: rows
    | _, _, _ => .error (.attachments [attachment.id])

/-- The run of a project and a key, with its attachments in their order. -/
def ControlStore.existingRun? (s : ControlStore) (projectId : Uuid) (idempotencyKey : String) :
    Option ExistingRun :=
  (Table.lookup RunRow.slot (projectId, some idempotencyKey) s.runs).map fun row =>
    ⟨row.toAgentRun, sorted (s.attachmentsOf row.id)⟩

/-- The writes of the transaction that makes a run: the key, the identifier of the run and the pairs of
    run and attachment are unique. -/
def storeRun (projectId workspaceId : Uuid) (prompt idempotencyKey : String)
    (attachments : List ProjectAttachment) (id : Uuid) (s : ControlStore) :
    Except Failure (AgentRun × ControlStore) :=
  let run : AgentRun := { id, workspaceId, projectId, prompt }
  if s.runs.any fun r => r.slot = (projectId, some idempotencyKey) ∨ r.id = id then
    .error (.prisma "P2002" "Unique constraint failed")
  else
    match runAttachmentsOf id attachments with
    | .error error => .error error
    | .ok rows =>
      if ((s.runAttachments ++ rows).map AgentRunAttachment.key).Nodup then
        .ok (run, { s with
          runs := s.runs ++ [{ run with idempotencyKey := some idempotencyKey }]
          runAttachments := s.runAttachments ++ rows })
      else .error (.prisma "P2002" "Unique constraint failed")

/-- What else happens to a run. -/
def RunRow.changed (row : AgentRun) (r : RunRow) : RunRow where
  toAgentRun := { row with
    id := r.id
    workspaceId := r.workspaceId
    projectId := r.projectId
    prompt := r.prompt }
  idempotencyKey := r.idempotencyKey

/-- The effect of something else that happens. -/
def Change.apply (s : ControlStore) : Change → ControlStore
  | .tenants projects memberships => { s with projects, memberships }
  | .attachments rows => { s with attachments := rows }
  | .run row => { s with
    runs := Table.update (fun r : RunRow => r.id) row.id (fun _ => true) (RunRow.changed row) s.runs }

/-- What a call does. -/
def transact (env : Environment) :
    (o : Operation) → ControlStore → Except Failure (o.Answer × ControlStore)
  | .now, s => .ok (env.now, s)
  | .findProject userId projectId, s => .ok (s.project? userId projectId, s)
  | .findRun projectId idempotencyKey, s => .ok (s.existingRun? projectId idempotencyKey, s)
  | .findCleanAttachments ids projectId workspaceId, s =>
    .ok (s.attachments.filter fun a => a.id ∈ ids ∧ a.projectId = projectId ∧
      a.workspaceId = workspaceId ∧ a.status = .clean, s)
  | .storeRun projectId workspaceId prompt idempotencyKey attachments, s =>
    storeRun projectId workspaceId prompt idempotencyKey attachments env.id s
  | .enqueue job, s =>
    .ok ((), { s with queue := if job ∈ s.queue then s.queue else s.queue ++ [job] })
  | .markRunFailed runId expectedControlVersion error now, s =>
    .ok ((), { s with
      runs := Table.update (fun r : RunRow => r.id) runId
        (fun r => r.status = .pending ∧ r.controlVersion = expectedControlVersion)
        (fun r => { r with status := .failed, completedAt := some now, error := some error })
        s.runs })
  | .elsewhere change, s => .ok ((), change.apply s)

/-- Answers a call: the statement may be refused, and the environment decides its fate. -/
def perform (o : Operation) (env : Environment) (s : ControlStore) :
    Except Failure o.Answer × ControlStore :=
  match transact env o s, env.fate with
  | .ok (r, s'), .commits => (.ok r, s')
  | .ok (_, s'), .unacknowledged error => (.error error, s')
  | .error error, .commits | .error error, .unacknowledged _ => (.error error, s)
  | _, .aborts error => (.error error, s)

/-- What can be started: a request, with what the deployment says about runs, or something else. -/
inductive Activity where
  | creation (runExecutionEnabled : Bool) (request : CreateRunRequest)
  | other (change : Change)
deriving DecidableEq

/-- How an activity ends. -/
inductive Response where
  | run (response : RunResponse)
  | changed
deriving DecidableEq, Repr

/-- The program of an activity. -/
def Activity.program : Activity → Program Response
  | .creation runExecutionEnabled request => do
    let response ← createRun runExecutionEnabled request
    pure (.run response)
  | .other change => do
    call (.elsewhere change)
    pure .changed

/-- Any number of requests, interleaved at their calls. -/
def creationSystem : System Operation (fun o => Except Failure o.Answer) ControlStore Activity
    (Except Failure Response) where
  Choice := Environment
  perform := perform
  body activity := activity.program.run
  admits _ _ := True

instance (s : ControlStore) (activity : Activity) : Decidable (creationSystem.admits s activity) :=
  inferInstanceAs (Decidable True)

/-- Configurations. -/
abbrev CreationConfig : Type :=
  Config Operation (fun o => Except Failure o.Answer) ControlStore Activity (Except Failure Response)

/-- The start of a history: no run, no start job and nothing started; the rest is arbitrary. -/
structure Starts (c : CreationConfig) : Prop where
  runs : c.store.runs = []
  runAttachments : c.store.runAttachments = []
  queue : c.store.queue = []
  threads : c.threads = []

end System

end AtomsPlatform.Creation
