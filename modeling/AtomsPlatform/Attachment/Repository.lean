import AtomsPlatform.Attachment.Model

/-!
# Project attachments: repositories and object store

The statements of the control API's `PrismaAttachmentRepository` and of the worker's
`PrismaAttachmentScanRepository`, and what the object store does. The transactions `completeUpload`
and `claim` read first and write later under the isolation level of the database (read committed), so
each of their statements stands for itself here; the programs put them together.
-/

namespace AtomsPlatform.Attachment

section ControlApi

/-- Source `CreateAttachmentResult`. -/
inductive CreateAttachmentResult where
  | ok :
    (attachment : ProjectAttachment) → CreateAttachmentResult
  | projectNotFound
  | limitReached
deriving DecidableEq, Repr

/-- Source `CompleteAttachmentResult`. -/
inductive CompleteAttachmentResult where
  | ok :
    (attachment : ProjectAttachment) → CompleteAttachmentResult
  | notFound
  | stale :
    (status : AttachmentStatus) → CompleteAttachmentResult
deriving DecidableEq, Repr

/-- Source `createAttachment`; the advisory lock makes one transaction of it. -/
def createAttachment (userId projectId attachmentId : Uuid)
    (metadata : CreateAttachmentUploadIntentInput) (uploadExpiresAt : Date) :
    Transaction CreateAttachmentResult := fun s =>
  match s.projects.find? fun project =>
      project.id = projectId ∧ project.archived = false ∧ s.isMember userId project.workspaceId with
  | none => .ok (.projectNotFound, s)
  | some project =>
    if 5 ≤ (s.attachments.filter fun r => r.projectId = project.id).length then
      .ok (.limitReached, s)
    else
      match s.attachment? attachmentId with
      | some _ => .error (.error "Unique constraint failed on the fields: (id)")
      | none =>
        let attachment : ProjectAttachment :=
          { id := attachmentId
            workspaceId := project.workspaceId
            projectId := project.id
            fileName := metadata.fileName
            declaredContentType := metadata.contentType
            sizeBytes := metadata.sizeBytes
            quarantineObjectKey := .quarantine project.workspaceId project.id attachmentId
            uploadExpiresAt }
        .ok (.ok attachment, { s with attachments := s.attachments ++ [attachment] })

/-- Source `getAttachment`, and the first statement of `completeUpload`. -/
def getAttachment (userId projectId attachmentId : Uuid) : Transaction (Option ProjectAttachment) :=
  fun s => .ok ((s.attachment? attachmentId).filter (s.visible userId projectId), s)

/-- The statement of `completeUpload` for an upload that came too late: it addresses the row by its
    id alone. -/
def expireUpload (attachmentId : Uuid) : Transaction ProjectAttachment := fun s =>
  let data := fun r : ProjectAttachment =>
    { r with status := .expired, failureCode := some "UPLOAD_EXPIRED" }
  match s.attachment? attachmentId with
  | none => .error (.error "Record to update not found.")
  | some r => .ok (data r, s.updateAttachment attachmentId (fun _ => true) data)

/-- The guarded statement of `completeUpload`, with the row it reads back when it succeeded. -/
def quarantineUpload (attachmentId : Uuid) (scanVersion : Nat) (etag : Option String) :
    Transaction (Option ProjectAttachment) := fun s =>
  let p := fun r : ProjectAttachment => r.status = .awaitingUpload ∧ r.scanVersion = scanVersion
  let s' := s.updateAttachment attachmentId (fun r => p r) fun r =>
    { r with
      status := .quarantined
      scanVersion := r.scanVersion + 1
      etag
      failureCode := none }
  if s.owns attachmentId fun r => p r then .ok (s'.attachment? attachmentId, s') else .ok (none, s)

/-- The statuses in which the routes give an attachment up. -/
inductive ExpectedStatus where
  | awaitingUpload
  | quarantined
deriving DecidableEq, Repr

/-- As a status of attachments. -/
def ExpectedStatus.status : ExpectedStatus → AttachmentStatus
  | .awaitingUpload => .awaitingUpload
  | .quarantined => .quarantined

/-- Source `failAttachment`. -/
def failAttachment (userId projectId attachmentId : Uuid) (expectedStatus : ExpectedStatus)
    (failureCode : String) : Transaction Unit := fun s =>
  .ok ((), s.updateAttachment attachmentId
    (fun r => s.visible userId projectId r ∧ r.status = expectedStatus.status) fun r =>
    { r with status := .failed, failureCode := some failureCode })

end ControlApi

section Worker

/-- `findUnique` by id. -/
def findUnique (attachmentId : Uuid) : Transaction (Option ProjectAttachment) := fun s =>
  .ok (s.attachment? attachmentId, s)

/-- `findUniqueOrThrow` by id. -/
def findUniqueOrThrow (attachmentId : Uuid) : Transaction ProjectAttachment := fun s =>
  match s.attachment? attachmentId with
  | none => .error (.error "No record was found for a query.")
  | some r => .ok (r, s)

/-- The guarded statement of `claim`, with the row it reads back when it succeeded. -/
def startScan (attachmentId : Uuid) (scanVersion : Nat) : Transaction (Option ProjectAttachment) :=
  fun s =>
  let p := fun r : ProjectAttachment => r.status = .quarantined ∧ r.scanVersion = scanVersion
  let s' := s.updateAttachment attachmentId (fun r => p r) fun r =>
    { r with status := .scanning, failureCode := none }
  if s.owns attachmentId fun r => p r then .ok (s'.attachment? attachmentId, s') else .ok (none, s)

/-- The input of `completeClean`. -/
structure CompleteCleanInput where
  attachmentId : Uuid
  scanVersion : Nat
  detectedContentType : AttachmentMimeType
  sha256 : String
  cleanObjectKey : ObjectKey
  metadata : ScanMetadata
  now : Date
deriving DecidableEq, Repr

/-- Whether an attachment is being scanned in a version. -/
def isScanning (scanVersion : Nat) (r : ProjectAttachment) : Bool :=
  r.status = .scanning ∧ r.scanVersion = scanVersion

/-- Source `completeClean`. -/
def completeClean (input : CompleteCleanInput) : Transaction Bool := fun s =>
  .ok (s.owns input.attachmentId (isScanning input.scanVersion),
    s.updateAttachment input.attachmentId (isScanning input.scanVersion) fun r =>
      { r with
        status := .clean
        detectedContentType := some input.detectedContentType
        sha256 := some input.sha256
        cleanObjectKey := some input.cleanObjectKey
        scanMetadata := some input.metadata
        failureCode := none
        scannedAt := some input.now })

/-- The status a scan that found nothing to promote ends with. -/
inductive FinalStatus where
  | rejected
  | failed
deriving DecidableEq, Repr

/-- As a status of attachments. -/
def FinalStatus.status : FinalStatus → AttachmentStatus
  | .rejected => .rejected
  | .failed => .failed

/-- The input of `reject` and `fail`. -/
structure FinishInput where
  attachmentId : Uuid
  scanVersion : Nat
  failureCode : String
  detectedContentType : Option AttachmentMimeType := none
  sha256 : Option String := none
  metadata : ScanMetadata
  now : Date
deriving DecidableEq, Repr

/-- Source `#finish`; the answer of `reject` and `fail`. -/
def finish (input : FinishInput) (status : FinalStatus) : Transaction Bool := fun s =>
  .ok (s.owns input.attachmentId (isScanning input.scanVersion),
    s.updateAttachment input.attachmentId (isScanning input.scanVersion) fun r =>
      { r with
        status := status.status
        failureCode := some input.failureCode
        scanMetadata := some input.metadata
        scannedAt := some input.now
        detectedContentType := input.detectedContentType.or r.detectedContentType
        sha256 := input.sha256.or r.sha256 })

end Worker

section ObjectStore

/-- Source `createUploadRequest`: from now on the key can be written, until the request expires. -/
def createUploadRequest (key : ObjectKey) (expiresAt : Date) : Transaction Unit := fun s =>
  .ok ((), { s with uploads := s.uploads ++ [(key, expiresAt)] })

/-- The PUT of an uploader, which needs a presigned request that has not expired. -/
def putObject (key : ObjectKey) (object : StoredObject) (now : Date) : Transaction Unit := fun s =>
  if s.uploads.any fun upload => upload.1 = key ∧ now < upload.2 then
    .ok ((), s.putAt key (some object))
  else .error (.error "Request has expired")

/-- Source `headObject`. -/
def headObject (key : ObjectKey) : Transaction (Option ObjectMetadata) := fun s =>
  .ok ((s.objects key).map fun object =>
    { sizeBytes := object.bytes.length, contentType := object.contentType, etag := object.etag }, s)

/-- Source `getObject`. -/
def getObject (key : ObjectKey) (maxBytes : Nat) : Transaction Bytes := fun s =>
  match s.objects key with
  | none => .error (.error "The specified key does not exist.")
  | some object =>
    if maxBytes < object.bytes.length then .error (.error "Object exceeds the allowed size")
    else .ok (object.bytes, s)

/-- Source `copyObject`: the store copies what is under the source key when it serves the request. -/
def copyObject (sourceKey destinationKey : ObjectKey) (contentType : AttachmentMimeType)
    (etag : Option String) : Transaction Unit := fun s =>
  match s.objects sourceKey with
  | none => .error (.error "The specified key does not exist.")
  | some object =>
    .ok ((), s.putAt destinationKey
      (some { bytes := object.bytes, contentType := some contentType, etag }))

/-- Source `deleteObject`. -/
def deleteObject (key : ObjectKey) : Transaction Unit := fun s =>
  .ok ((), s.putAt key none)

/-- The malware scanner's answer, and a record of what it accepted. -/
def scan (attachmentId : Uuid) (bytes : Bytes) (result : MalwareScanResult) :
    Transaction MalwareScanResult := fun s =>
  match result with
  | .clean scanner => .ok (.clean scanner, { s with accepted := s.accepted ++ [(attachmentId, bytes)] })
  | .infected scanner signature => .ok (.infected scanner signature, s)

/-- Source `enqueue`; a second job of one identifier is not added. -/
def enqueue (job : AttachmentScanJob) : Transaction Unit := fun s =>
  .ok ((), { s with queue := if job ∈ s.queue then s.queue else s.queue ++ [job] })

end ObjectStore

end AtomsPlatform.Attachment
