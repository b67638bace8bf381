import AtomsPlatform.Attachment.Routes

/-!
# The attachment subsystem as a system

Any number of requests, scan deliveries and uploads over one store, interleaved at their calls. The
environment decides what the clock and the scanner answer and the fate of each call. Every job on the
queue may be delivered at any time and any number of times, also while an earlier delivery of it is
still running; everybody who was given a presigned request may write to its key until it expires.
-/

namespace AtomsPlatform.Attachment
open Interleaving

/-- How a call ends: it takes effect or not, and its caller may see an error although it did. -/
inductive Fate where
  | commits
  | aborts :
    Failure → Fate
  | unacknowledged :
    Failure → Fate
deriving DecidableEq, Repr

/-- What the environment decides about one call. -/
structure Environment where
  fate : Fate := .commits
  now : Date := 0
  id : Uuid := 0
  scan : MalwareScanResult := .clean "clamav"
  etag : Option String := none
deriving DecidableEq, Repr

/-- Whether the effect of a call takes place. -/
def Environment.takesEffect (env : Environment) : Bool :=
  match env.fate with
  | .aborts _ => false
  | .commits | .unacknowledged _ => true

/-- The effect of a call. -/
def transact (env : Environment) : (o : Operation) → Transaction o.Answer
  | .now => fun s => .ok (env.now, s)
  | .createId => fun s => .ok (env.id, s)
  | .createAttachment userId projectId attachmentId metadata uploadExpiresAt =>
    createAttachment userId projectId attachmentId metadata uploadExpiresAt
  | .getAttachment userId projectId attachmentId => getAttachment userId projectId attachmentId
  | .expireUpload attachmentId => expireUpload attachmentId
  | .quarantineUpload attachmentId scanVersion etag =>
    quarantineUpload attachmentId scanVersion etag
  | .failAttachment userId projectId attachmentId expectedStatus failureCode =>
    failAttachment userId projectId attachmentId expectedStatus failureCode
  | .findUnique attachmentId => findUnique attachmentId
  | .findUniqueOrThrow attachmentId => findUniqueOrThrow attachmentId
  | .startScan attachmentId scanVersion => startScan attachmentId scanVersion
  | .completeClean input => completeClean input
  | .finish input status => finish input status
  | .createUploadRequest key expiresAt => createUploadRequest key expiresAt
  | .createDownloadRequest .. => fun s => .ok ((), s)
  | .headObject key => headObject key
  | .getObject key maxBytes => getObject key maxBytes
  | .copyObject sourceKey destinationKey contentType =>
    copyObject sourceKey destinationKey contentType env.etag
  | .deleteObject key => deleteObject key
  | .putObject key object => putObject key object env.now
  | .scan attachmentId bytes => scan attachmentId bytes env.scan
  | .enqueue job => enqueue job

/-- Answers a call: the call itself may fail, and the environment decides its fate. -/
def perform (o : Operation) (env : Environment) (s : AttachmentState) :
    Except Failure o.Answer × AttachmentState :=
  match transact env o s, env.fate with
  | .ok (r, s'), .commits => (.ok r, s')
  | .ok (_, s'), .unacknowledged error => (.error error, s')
  | .error error, .commits | .error error, .unacknowledged _ => (.error error, s)
  | _, .aborts error => (.error error, s)

/-- What can be started. -/
inductive Activity where
  | intent :
    (userId projectId : Uuid) → CreateAttachmentUploadIntentInput → Activity
  | completion :
    (userId projectId attachmentId : Uuid) → (etag : Option String) → Activity
  | download :
    (userId projectId attachmentId : Uuid) → Activity
  | upload :
    (key : ObjectKey) → StoredObject → Activity
  | delivery :
    AttachmentScanJob → AttachmentScanAttempt → Activity
deriving DecidableEq, Repr

/-- How an activity ends. -/
inductive Response where
  | attachment :
    ProjectAttachment → Response
  | served :
    ObjectKey → Response
  | uploaded
  | processed :
    AttachmentScanOutcome → Response
deriving DecidableEq, Repr

variable (calculateSha256 : Bytes → String)

/-- The program of an activity. -/
def Activity.program : Activity → Program Response
  | .intent userId projectId metadata => do
    let attachment ← createAttachmentUploadIntent userId projectId metadata
    pure (.attachment attachment)
  | .completion userId projectId attachmentId etag => do
    let attachment ← completeAttachmentUpload userId projectId attachmentId etag
    pure (.attachment attachment)
  | .download userId projectId attachmentId => do
    let key ← downloadProjectAttachment userId projectId attachmentId
    pure (.served key)
  | .upload key object => do
    call (.putObject key object)
    pure .uploaded
  | .delivery job attempt => do
    let outcome ← process calculateSha256 job attempt
    pure (.processed outcome)

/-- Only what is on the queue is delivered. -/
def Activity.admitted (s : AttachmentState) : Activity → Bool
  | .delivery job _ => decide (job ∈ s.queue)
  | _ => true

/-- The attachment subsystem. -/
def attachmentSystem : System Operation (fun o => Except Failure o.Answer) AttachmentState Activity
    (Except Failure Response) where
  Choice := Environment
  perform := perform
  body activity := (activity.program calculateSha256).run
  admits s activity := activity.admitted s = true

instance (s : AttachmentState) (activity : Activity) :
    Decidable ((attachmentSystem calculateSha256).admits s activity) :=
  inferInstanceAs (Decidable (activity.admitted s = true))

/-- Configurations of the attachment subsystem. -/
abbrev AttachmentConfig : Type :=
  Config Operation (fun o => Except Failure o.Answer) AttachmentState Activity
    (Except Failure Response)

/-- The start of a run: no attachment, no object, no presigned request, nothing accepted and nothing
    started; the projects and members are arbitrary. -/
structure Starts (c : AttachmentConfig) : Prop where
  attachments : c.store.attachments = []
  objects : ∀ key, c.store.objects key = none
  uploads : c.store.uploads = []
  queue : c.store.queue = []
  accepted : c.store.accepted = []
  threads : c.threads = []

section Scenario

/-- Two documents of one size. -/
def firstPdf : Bytes :=
  [0x25, 0x50, 0x44, 0x46, 0x2d, 0x31]

/-- The other document. -/
def secondPdf : Bytes :=
  [0x25, 0x50, 0x44, 0x46, 0x2d, 0x32]

/-- SHA-256 on the two documents. -/
def sha256OfPdfs (bytes : Bytes) : String :=
  if bytes = firstPdf then "21af8e71c8703196df7fe1ff901869a88fe64c07bbaa83d838efb45a52b4f303"
  else if bytes = secondPdf then
    "468b145bbc44c6e9436af27c6aa4378a76b0e1c52829f59abd537da87572f240"
  else ""

/-- The subsystem, for these documents. -/
abbrev pdfSystem : System Operation (fun o => Except Failure o.Answer) AttachmentState Activity
    (Except Failure Response) :=
  attachmentSystem sha256OfPdfs

/-- One project with one member, before anything was started. -/
def freshProject : AttachmentConfig where
  store :=
    { projects := [{ id := 1, workspaceId := 1 }]
      memberships := [{ userId := 1, workspaceId := 1 }] }
  threads := []

lemma freshProject_starts : Starts freshProject :=
  ⟨rfl, fun _ => rfl, rfl, rfl, rfl, rfl⟩

/-- A thread makes `n` calls that take effect, at one point in time; 7 is generated. -/
def proceeds (thread n : Nat) (now : Date) : List pdfSystem.Move :=
  List.replicate n (.act thread { now, id := 7 })

/-- The key under which the first attachment is uploaded. -/
def uploadKey : ObjectKey :=
  .quarantine 1 1 7

/-- An upload of a document. -/
def uploadOf (bytes : Bytes) : Activity :=
  .upload uploadKey { bytes, contentType := some .pdf, etag := none }

/-- The first job of the scan queue. -/
def scanJob : AttachmentScanJob :=
  { attachmentId := 7, scanVersion := 1 }

/-- An upload was requested (0) and made (1). -/
def uploaded : List pdfSystem.Move :=
  [.spawn (.intent 1 1 { fileName := "plan.pdf", contentType := .pdf, sizeBytes := 6 })] ++
    proceeds 0 5 0 ++
    [.spawn (uploadOf firstPdf)] ++ proceeds 1 1 1

/-- A thread completes the upload, which queues the scan. -/
def completed (thread : Nat) : List pdfSystem.Move :=
  .spawn (.completion 1 1 7 none) :: proceeds thread 7 2

/-- A delivery of the scan job, up to its `n`-th call. -/
def delivered (thread n : Nat) : List pdfSystem.Move :=
  .spawn (.delivery scanJob { attempt := 1, maxAttempts := 3 }) :: proceeds thread n 3

end Scenario

end AtomsPlatform.Attachment
