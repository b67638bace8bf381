import AtomsPlatform.Attachment.Repository
import AtomsPlatform.Lib.Program

/-!
# Attachment scan processor

`AttachmentProcessor.process` of the orchestrator worker, as a program of calls. The hash function of
`calculateSha256` is a parameter.
-/

namespace AtomsPlatform.Attachment
open Interleaving

/-- The calls of the attachment subsystem: clock and identifiers, the statements of the two
    repositories, and the requests to the object store, the malware scanner and the queue. -/
inductive Operation where
  | now
  | createId
  -- `PrismaAttachmentRepository`
  | createAttachment (userId projectId attachmentId : Uuid)
      (metadata : CreateAttachmentUploadIntentInput) (uploadExpiresAt : Date)
  | getAttachment (userId projectId attachmentId : Uuid)
  | expireUpload (attachmentId : Uuid)
  | quarantineUpload (attachmentId : Uuid) (scanVersion : Nat) (etag : Option String)
  | failAttachment (userId projectId attachmentId : Uuid) (expectedStatus : ExpectedStatus)
      (failureCode : String)
  -- `PrismaAttachmentScanRepository`
  | findUnique (attachmentId : Uuid)
  | findUniqueOrThrow (attachmentId : Uuid)
  | startScan (attachmentId : Uuid) (scanVersion : Nat)
  | completeClean (input : CompleteCleanInput)
  | finish (input : FinishInput) (status : FinalStatus)
  -- `ObjectStorageProvider`, and the PUT of whoever holds a presigned request
  | createUploadRequest (key : ObjectKey) (expiresAt : Date)
  | createDownloadRequest (key : ObjectKey) (fileName : String)
  | headObject (key : ObjectKey)
  | getObject (key : ObjectKey) (maxBytes : Nat)
  | copyObject (sourceKey destinationKey : ObjectKey) (contentType : AttachmentMimeType)
  | deleteObject (key : ObjectKey)
  | putObject (key : ObjectKey) (object : StoredObject)
  -- `MalwareScanner`; it is sent the bytes only
  | scan (attachmentId : Uuid) (bytes : Bytes)
  -- `AttachmentScanQueue`
  | enqueue (job : AttachmentScanJob)
deriving DecidableEq, Repr

/-- What an operation answers when it does not fail. -/
@[reducible]
def Operation.Answer : Operation → Type
  | .now => Date
  | .createId => Uuid
  | .createAttachment .. => CreateAttachmentResult
  | .getAttachment .. | .findUnique _ => Option ProjectAttachment
  | .quarantineUpload .. | .startScan .. => Option ProjectAttachment
  | .expireUpload _ | .findUniqueOrThrow _ => ProjectAttachment
  | .completeClean _ | .finish .. => Bool
  | .headObject _ => Option ObjectMetadata
  | .getObject .. => Bytes
  | .scan .. => MalwareScanResult
  | .failAttachment .. | .createUploadRequest .. | .createDownloadRequest .. => Unit
  | .copyObject .. | .deleteObject _ | .putObject .. | .enqueue _ => Unit

/-- Programs of the attachment subsystem. -/
abbrev Program (α : Type) : Type :=
  Fallible Operation Operation.Answer Failure α

/-- Makes a call. -/
abbrev call (o : Operation) : Program o.Answer :=
  invoke o

/-- `.catch(() => undefined)` -/
def ignoring (p : Program Unit) : Program Unit :=
  tryCatch p fun _ => pure ()

/-- Source `AttachmentScanAttempt`. -/
structure AttachmentScanAttempt where
  attempt : Nat
  maxAttempts : Nat
deriving DecidableEq, Repr

/-- Source `AttachmentScanOutcome`. -/
inductive AttachmentScanOutcome where
  | clean
  | rejected
  | failed
  | missing
  | stale
deriving DecidableEq, Repr

/-- Source `AttachmentClaimResult`. -/
inductive AttachmentClaimResult where
  | ready :
    (attachment : ProjectAttachment) → AttachmentClaimResult
  | missing
  | stale
deriving DecidableEq, Repr

/-- Source `claim`. -/
def claim (job : AttachmentScanJob) : Program AttachmentClaimResult := do
  let current ← call (.findUnique job.attachmentId)
  match current with
  | none => pure .missing
  | some current =>
    if current.scanVersion ≠ job.scanVersion then pure .stale
    else
      match current.status with
      | .quarantined => do
        let claimed ← call (.startScan current.id job.scanVersion)
        match claimed with
        | none => pure .stale
        | some attachment => pure (.ready attachment)
      | .scanning => do
        let attachment ← call (.findUniqueOrThrow current.id)
        pure (.ready attachment)
      | _ => pure .stale

/-- Source `#rejectAndDelete`. -/
def rejectAndDelete (attachment : ProjectAttachment) (failureCode : String)
    (detectedContentType : Option AttachmentMimeType) (sha256 : Option String)
    (metadata : ScanMetadata) : Program AttachmentScanOutcome := do
  let now ← call .now
  let rejected ← call (.finish
    { attachmentId := attachment.id
      scanVersion := attachment.scanVersion
      failureCode
      detectedContentType
      sha256
      metadata
      now } .rejected)
  if rejected then do
    ignoring (call (.deleteObject attachment.quarantineObjectKey))
    pure .rejected
  else pure .stale

/-- The end of a scan that found nothing: the object is copied to its clean key, and the attachment
    becomes clean unless somebody else was faster. -/
def promote (attachment : ProjectAttachment) (verifiedContentType : AttachmentMimeType)
    (sha256 scanner : String) : Program AttachmentScanOutcome := do
  let cleanObjectKey : ObjectKey :=
    .clean attachment.workspaceId attachment.projectId attachment.id sha256
  call (.copyObject attachment.quarantineObjectKey cleanObjectKey verifiedContentType)
  let now ← call .now
  let committed ← call (.completeClean
    { attachmentId := attachment.id
      scanVersion := attachment.scanVersion
      detectedContentType := verifiedContentType
      sha256
      cleanObjectKey
      metadata := .passed scanner
      now })
  if committed then do
    ignoring (call (.deleteObject attachment.quarantineObjectKey))
    pure .clean
  else do
    ignoring (call (.deleteObject cleanObjectKey))
    pure .stale

variable (calculateSha256 : Bytes → String)

/-- The body of the `try` block of `process`. -/
def scanAttachment (attachment : ProjectAttachment) : Program AttachmentScanOutcome := do
  let bytes ← call (.getObject attachment.quarantineObjectKey attachment.sizeBytes)
  if bytes.length ≠ attachment.sizeBytes then
    rejectAndDelete attachment "SIZE_MISMATCH" none none
      (.sizes attachment.sizeBytes bytes.length)
  else
    let detectedContentType := detectAttachmentMimeType bytes
    let sha256 := calculateSha256 bytes
    if detectedContentType ≠ some attachment.declaredContentType then
      rejectAndDelete attachment "CONTENT_TYPE_MISMATCH" detectedContentType (some sha256)
        (.contentTypes attachment.declaredContentType detectedContentType)
    else do
      let scan ← call (.scan attachment.id bytes)
      match scan with
      | .infected scanner signature =>
        rejectAndDelete attachment "MALWARE_DETECTED" detectedContentType (some sha256)
          (.detection scanner signature)
      | .clean scanner => promote attachment attachment.declaredContentType sha256 scanner

/-- The `catch` block of `process`. -/
def failScan (attachment : ProjectAttachment) (attempt : AttachmentScanAttempt) (error : Failure) :
    Program AttachmentScanOutcome :=
  if attempt.attempt < attempt.maxAttempts then throw error
  else do
    let now ← call .now
    let _ ← call (.finish
      { attachmentId := attachment.id
        scanVersion := attachment.scanVersion
        failureCode := "SCAN_PROVIDER_FAILURE"
        metadata := .failure (error.message?.getD "Scan failed")
        now } .failed)
    pure .failed

/-- Source `process`. -/
def process (job : AttachmentScanJob) (attempt : AttachmentScanAttempt) :
    Program AttachmentScanOutcome := do
  let claim ← claim job
  match claim with
  | .missing => pure .missing
  | .stale => pure .stale
  | .ready attachment =>
    tryCatch (scanAttachment calculateSha256 attachment) fun error =>
      failScan attachment attempt error

end AtomsPlatform.Attachment
