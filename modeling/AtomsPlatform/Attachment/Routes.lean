import AtomsPlatform.Attachment.Processor

/-!
# Attachment routes

The upload, completion and download routes of the control API for an authenticated principal.
-/

namespace AtomsPlatform.Attachment
open Interleaving

/-- Source `ATTACHMENT_UPLOAD_TTL_SECONDS`. -/
def uploadTtlSeconds : Nat :=
  15 * 60

/-- Source `completeUpload`. -/
def completeUpload (userId projectId attachmentId : Uuid) (etag : Option String) (now : Date) :
    Program CompleteAttachmentResult := do
  let current ← call (.getAttachment userId projectId attachmentId)
  match current with
  | none => pure .notFound
  | some current =>
    if current.status ≠ .awaitingUpload then pure (.stale current.status)
    else if current.uploadExpiresAt ≤ now then do
      let expired ← call (.expireUpload current.id)
      pure (.stale expired.status)
    else do
      let updated ← call (.quarantineUpload current.id current.scanVersion etag)
      match updated with
      | none => do
        let latest ← call (.findUniqueOrThrow current.id)
        pure (.stale latest.status)
      | some attachment => pure (.ok attachment)

/-- Source route `createAttachmentUploadIntent`. -/
def createAttachmentUploadIntent (userId projectId : Uuid)
    (metadata : CreateAttachmentUploadIntentInput) : Program ProjectAttachment := do
  let attachmentId ← call .createId
  let createdAt ← call .now
  let expiresAt := createdAt + uploadTtlSeconds * 1000
  let created ← call (.createAttachment userId projectId attachmentId metadata expiresAt)
  match created with
  | .projectNotFound => throw (.api 404 "PROJECT_NOT_FOUND" "Project not found")
  | .limitReached =>
    throw (.api 409 "ATTACHMENT_LIMIT_REACHED" "A project can contain at most five attachments")
  | .ok attachment => do
    tryCatch
      (do
        let signedAt ← call .now
        call (.createUploadRequest attachment.quarantineObjectKey
          (signedAt + uploadTtlSeconds * 1000)))
      fun _ => do
        call (.failAttachment userId projectId attachmentId .awaitingUpload
          "UPLOAD_SIGNING_FAILED")
        throw (.api 503 "OBJECT_STORAGE_UNAVAILABLE"
          "The attachment upload could not be prepared")
    pure attachment

/-- `replace(/^"|"$/gu, "")` -/
def unquoted (etag : String) : String :=
  let dropQuote (cs : List Char) : List Char :=
    match cs with
    | '"' :: rest => rest
    | cs => cs
  String.ofList (dropQuote (dropQuote etag.toList).reverse).reverse

/-- Whether what was uploaded is what the intent and the request say. -/
def matchesIntent (attachment : ProjectAttachment) (suppliedEtag : Option String)
    (object : ObjectMetadata) : Bool :=
  object.sizeBytes = attachment.sizeBytes ∧
    object.contentType = some attachment.declaredContentType ∧
    suppliedEtag.all fun etag => object.etag.map unquoted = some (unquoted etag)

/-- The last part of the completion route: the scan is requested, or the attachment failed. -/
def requestScan (userId projectId : Uuid) (attachment : ProjectAttachment) :
    Program ProjectAttachment := do
  tryCatch
    (call (.enqueue { attachmentId := attachment.id, scanVersion := attachment.scanVersion }))
    fun _ => do
      call (.failAttachment userId projectId attachment.id .quarantined "SCAN_QUEUE_UNAVAILABLE")
      ignoring (call (.deleteObject attachment.quarantineObjectKey))
      throw (.api 503 "ATTACHMENT_SCAN_QUEUE_UNAVAILABLE"
        "Upload was quarantined but could not be queued for scanning")
  pure attachment

/-- The completion route once the object's metadata was found to be right. -/
def acceptUpload (userId projectId : Uuid) (attachment : ProjectAttachment)
    (etag : Option String) : Program ProjectAttachment := do
  let now ← call .now
  let completed ← completeUpload userId projectId attachment.id etag now
  match completed with
  | .ok attachment => requestScan userId projectId attachment
  | .notFound => throw (.api 404 "ATTACHMENT_NOT_FOUND" "Attachment not found")
  | .stale .expired => do
    ignoring (call (.deleteObject attachment.quarantineObjectKey))
    throw (.api 409 "ATTACHMENT_STATE_CONFLICT" "Attachment is EXPIRED")
  | .stale status =>
    throw (.api 409 "ATTACHMENT_STATE_CONFLICT" ("Attachment is " ++ status.text))

/-- The completion route for an upload that has not expired. -/
def verifyUpload (userId projectId : Uuid) (attachment : ProjectAttachment)
    (suppliedEtag : Option String) : Program ProjectAttachment := do
  let object ← tryCatch (call (.headObject attachment.quarantineObjectKey)) fun _ =>
    throw (.api 503 "OBJECT_STORAGE_UNAVAILABLE" "The uploaded object could not be verified")
  match object with
  | none => throw (.api 409 "ATTACHMENT_UPLOAD_MISSING" "The uploaded object was not found")
  | some object =>
    if matchesIntent attachment suppliedEtag object then
      acceptUpload userId projectId attachment (object.etag.map unquoted)
    else do
      call (.failAttachment userId projectId attachment.id .awaitingUpload
        "UPLOAD_METADATA_MISMATCH")
      ignoring (call (.deleteObject attachment.quarantineObjectKey))
      throw (.api 409 "ATTACHMENT_UPLOAD_MISMATCH"
        "Uploaded object metadata does not match the upload intent")

/-- Source route `completeAttachmentUpload`. -/
def completeAttachmentUpload (userId projectId attachmentId : Uuid)
    (suppliedEtag : Option String) : Program ProjectAttachment := do
  let attachment ← call (.getAttachment userId projectId attachmentId)
  match attachment with
  | none => throw (.api 404 "ATTACHMENT_NOT_FOUND" "Attachment not found")
  | some attachment =>
    if attachment.status ≠ .awaitingUpload then
      throw (.api 409 "ATTACHMENT_STATE_CONFLICT" ("Attachment is " ++ attachment.status.text))
    else do
      let now ← call .now
      if attachment.uploadExpiresAt ≤ now then do
        let later ← call .now
        let _ ← completeUpload userId projectId attachment.id none later
        ignoring (call (.deleteObject attachment.quarantineObjectKey))
        throw (.api 409 "ATTACHMENT_UPLOAD_EXPIRED" "The attachment upload intent has expired")
      else verifyUpload userId projectId attachment suppliedEtag

/-- Source route `downloadProjectAttachment`: the key that is served. -/
def downloadProjectAttachment (userId projectId attachmentId : Uuid) : Program ObjectKey := do
  let attachment ← call (.getAttachment userId projectId attachmentId)
  match attachment with
  | none => throw (.api 404 "ATTACHMENT_NOT_FOUND" "Attachment not found")
  | some attachment =>
    match attachment.status, attachment.cleanObjectKey with
    | .clean, some key => do
      call (.createDownloadRequest key attachment.fileName)
      pure key
    | _, _ => throw (.api 409 "ATTACHMENT_NOT_CLEAN" "Only clean attachments can be downloaded")

end AtomsPlatform.Attachment
