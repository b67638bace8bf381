import AtomsPlatform.Contracts
import AtomsPlatform.Lib.Table
import Mathlib.Logic.Function.Basic

/-!
# Project attachments: data model

The rows and objects that the attachment routes of the control API and the scan worker share, and
the content inspection. A row is in the database; the bytes are in the object store, under the
quarantine key while they are not trusted and under the clean key afterwards.
-/

namespace AtomsPlatform.Attachment

/-- Source `AttachmentMimeType`. -/
inductive AttachmentMimeType where
  /-- `application/pdf` -/
  | pdf
  /-- `text/plain` -/
  | plain
  /-- `image/png` -/
  | png
  /-- `image/jpeg` -/
  | jpeg
  /-- `image/webp` -/
  | webp
deriving DecidableEq, Repr

/-- Source `AttachmentStatus`. -/
inductive AttachmentStatus where
  | awaitingUpload
  | quarantined
  | scanning
  | clean
  | rejected
  | failed
  | expired
deriving DecidableEq, Repr

/-- How the messages spell a status. -/
def AttachmentStatus.text : AttachmentStatus → String
  | .awaitingUpload => "AWAITING_UPLOAD"
  | .quarantined => "QUARANTINED"
  | .scanning => "SCANNING"
  | .clean => "CLEAN"
  | .rejected => "REJECTED"
  | .failed => "FAILED"
  | .expired => "EXPIRED"

/-- The contents of an object. -/
abbrev Bytes : Type :=
  List UInt8

/-- The keys of the object store that the code builds. -/
inductive ObjectKey where
  /-- `tenants/…/projects/…/attachments/…/quarantine/source` -/
  | quarantine :
    (workspaceId projectId attachmentId : Uuid) → ObjectKey
  /-- `tenants/…/projects/…/attachments/…/clean/<sha256>` -/
  | clean :
    (workspaceId projectId attachmentId : Uuid) → (sha256 : String) → ObjectKey
deriving DecidableEq, Repr

/-- The attachment a key was built for. -/
def ObjectKey.attachmentId : ObjectKey → Uuid
  | .quarantine _ _ id | .clean _ _ id _ => id

/-- The JSON of the `scanMetadata` column. -/
inductive ScanMetadata where
  | sizes :
    (expectedBytes actualBytes : Nat) → ScanMetadata
  | contentTypes :
    (declaredContentType : AttachmentMimeType) → (detectedContentType : Option AttachmentMimeType) →
    ScanMetadata
  | detection :
    (scanner signature : String) → ScanMetadata
  | passed :
    (scanner : String) → ScanMetadata
  | failure :
    (message : String) → ScanMetadata
deriving DecidableEq, Repr

/-- Model `ProjectAttachment` of the schema. -/
structure ProjectAttachment where
  id : Uuid
  workspaceId : Uuid
  projectId : Uuid
  fileName : String
  declaredContentType : AttachmentMimeType
  detectedContentType : Option AttachmentMimeType := none
  sizeBytes : Nat
  quarantineObjectKey : ObjectKey
  cleanObjectKey : Option ObjectKey := none
  etag : Option String := none
  sha256 : Option String := none
  status : AttachmentStatus := .awaitingUpload
  scanVersion : Nat := 0
  failureCode : Option String := none
  scanMetadata : Option ScanMetadata := none
  uploadExpiresAt : Date
  scannedAt : Option Date := none
deriving DecidableEq, Repr

/-- Source `AttachmentScanJob`. -/
structure AttachmentScanJob where
  attachmentId : Uuid
  scanVersion : Nat
deriving DecidableEq, Repr

/-- Source `CreateAttachmentUploadIntentInput`. -/
structure CreateAttachmentUploadIntentInput where
  fileName : String
  contentType : AttachmentMimeType
  sizeBytes : Nat
deriving DecidableEq, Repr

/-- Model `Project` of the schema. -/
structure Project where
  id : Uuid
  workspaceId : Uuid
  archived : Bool := false
deriving DecidableEq, Repr

/-- Model `Membership` of the schema. -/
structure Membership where
  userId : Uuid
  workspaceId : Uuid
deriving DecidableEq, Repr

/-- The errors that the modelled code tells apart. -/
inductive Failure where
  /-- `ApiError` -/
  | api :
    (statusCode : Nat) → (code message : String) → Failure
  /-- Any other `Error`. -/
  | error :
    (message : String) → Failure
  /-- A thrown value that is no `Error`. -/
  | thrown : Failure
deriving DecidableEq, Repr

/-- `error instanceof Error ? error.message : …` -/
def Failure.message? : Failure → Option String
  | .api _ _ message | .error message => some message
  | .thrown => none

/-- An object: its bytes, and the metadata that the store keeps. A content type that is none of the
    accepted ones is `none`. -/
structure StoredObject where
  bytes : Bytes
  contentType : Option AttachmentMimeType
  etag : Option String
deriving DecidableEq, Repr

/-- Source `ObjectMetadata`. -/
structure ObjectMetadata where
  sizeBytes : Nat
  contentType : Option AttachmentMimeType
  etag : Option String
deriving DecidableEq, Repr

/-- Source `MalwareScanResult`. -/
inductive MalwareScanResult where
  | clean :
    (scanner : String) → MalwareScanResult
  | infected :
    (scanner signature : String) → MalwareScanResult
deriving DecidableEq, Repr

section Inspection

/-- Source `startsWith`. -/
def startsWith (bytes : Bytes) (start : List UInt8) : Bool :=
  start.isPrefixOf bytes

/-- Source `isPlainText`. -/
def isPlainText (bytes : Bytes) : Bool :=
  if bytes.isEmpty || bytes.contains 0 then false
  else
    match String.fromUTF8? ⟨bytes.toArray⟩ with
    | none => false
    | some text =>
      text.toList.all fun character => 32 ≤ character.toNat || [9, 10, 12, 13].contains character.toNat

/-- Source `detectAttachmentMimeType`. -/
def detectAttachmentMimeType (bytes : Bytes) : Option AttachmentMimeType :=
  if startsWith bytes [0x25, 0x50, 0x44, 0x46, 0x2d] then some .pdf
  else if startsWith bytes [0x89, 0x50, 0x4e, 0x47, 0x0d, 0x0a, 0x1a, 0x0a] then some .png
  else if startsWith bytes [0xff, 0xd8, 0xff] then some .jpeg
  else if startsWith bytes [0x52, 0x49, 0x46, 0x46] && decide (12 ≤ bytes.length) &&
      startsWith (bytes.drop 8) [0x57, 0x45, 0x42, 0x50] then some .webp
  else if isPlainText bytes then some .plain
  else none

end Inspection

/-- The tables, the bucket, the presigned uploads with their expiry, the queue `attachment-scans`,
    and what the malware scanner has accepted so far, with the attachment it was asked for. -/
structure AttachmentState where
  projects : List Project := []
  memberships : List Membership := []
  attachments : List ProjectAttachment := []
  objects : ObjectKey → Option StoredObject := fun _ => none
  uploads : List (ObjectKey × Date) := []
  queue : List AttachmentScanJob := []
  accepted : List (Uuid × Bytes) := []

namespace AttachmentState

/-- The attachment of an id. -/
def attachment? (s : AttachmentState) (id : Uuid) : Option ProjectAttachment :=
  Table.lookup ProjectAttachment.id id s.attachments

/-- Whether the attachment of an id satisfies a condition (the count of `updateMany`). -/
def owns (s : AttachmentState) (id : Uuid) (p : ProjectAttachment → Bool) : Bool :=
  Table.holds ProjectAttachment.id id p s.attachments

/-- `projectAttachment.updateMany({ where: { id, … }, data })`. -/
def updateAttachment (s : AttachmentState) (id : Uuid) (p : ProjectAttachment → Bool)
    (data : ProjectAttachment → ProjectAttachment) : AttachmentState :=
  { s with attachments := Table.update ProjectAttachment.id id p data s.attachments }

/-- Whether a user is a member of the workspace. -/
def isMember (s : AttachmentState) (userId workspaceId : Uuid) : Bool :=
  s.memberships.any fun m => m.userId = userId ∧ m.workspaceId = workspaceId

/-- Whether an attachment belongs to the project, and the user to the project's workspace. -/
def visible (s : AttachmentState) (userId projectId : Uuid) (r : ProjectAttachment) : Bool :=
  r.projectId = projectId ∧
    s.projects.any fun project => project.id = projectId ∧ s.isMember userId project.workspaceId

/-- Stores an object under a key, in the place of the one that was there. -/
def putAt (s : AttachmentState) (key : ObjectKey) (object : Option StoredObject) : AttachmentState :=
  { s with objects := Function.update s.objects key object }

/-- The status of an attachment. -/
def statusOf (s : AttachmentState) (id : Uuid) : Option AttachmentStatus :=
  (s.attachment? id).map ProjectAttachment.status

end AttachmentState

/-- A transaction or a call to the object store, the scanner or the queue: it fails and changes
    nothing, or answers and takes effect. -/
abbrev Transaction (α : Type) : Type :=
  AttachmentState → Except Failure (α × AttachmentState)

end AtomsPlatform.Attachment
