import AtomsPlatform.Attachment.System

/-!
# What one operation does to attachments and objects

The row of an attachment changes in one of seven ways (`AttachmentChange`), whatever the environment
decides, and a new row starts as `createAttachment` makes it. Only uploads, copies and deletions change
the object under a key.
-/

namespace AtomsPlatform.Attachment

section Lookup
variable {s : AttachmentState} {id k : Uuid} {p : ProjectAttachment → Bool}
  {data : ProjectAttachment → ProjectAttachment} {r : ProjectAttachment}

lemma attachment?_id (row : s.attachment? id = some r) : r.id = id :=
  Table.lookup_key row

/-- The row of an attachment after an update of a possibly different one. -/
lemma attachment?_update (keeps : ∀ r, r.id = k → (data r).id = k) :
    (s.updateAttachment k p data).attachment? id =
      (s.attachment? id).map fun r => if id = k ∧ p r = true then data r else r := by
  by_cases e : id = k
  · subst e
    simpa [AttachmentState.attachment?, AttachmentState.updateAttachment] using
      Table.lookup_update keeps
  · simp only [AttachmentState.attachment?, AttachmentState.updateAttachment, e, false_and,
      if_false, Option.map_id']
    exact Table.lookup_update_ne keeps e

lemma owns_iff : s.owns id p = true ↔ ∃ r, s.attachment? id = some r ∧ p r = true :=
  Table.holds_iff

lemma owns_row (row : s.attachment? id = some r) : s.owns id p = p r := by
  show (s.attachment? id).any p = p r
  rw [row]
  rfl

lemma isScanning_iff {version : Nat} :
    isScanning version r = true ↔ r.status = .scanning ∧ r.scanVersion = version := by
  simp [isScanning]

end Lookup

/-- The ways in which an operation changes the row of an attachment. -/
inductive AttachmentChange (o : Operation) (r r' : ProjectAttachment) : Prop where
  | kept :
    r' = r →
    AttachmentChange o r r'
  | expired :
    o = .expireUpload r.id →
    r' = { r with status := .expired, failureCode := some "UPLOAD_EXPIRED" } →
    AttachmentChange o r r'
  | quarantined {etag} :
    o = .quarantineUpload r.id r.scanVersion etag →
    r.status = .awaitingUpload →
    r' = { r with
      status := .quarantined
      scanVersion := r.scanVersion + 1
      etag
      failureCode := none } →
    AttachmentChange o r r'
  | givenUp {userId projectId failureCode} {expectedStatus : ExpectedStatus} :
    o = .failAttachment userId projectId r.id expectedStatus failureCode →
    r.status = expectedStatus.status →
    r' = { r with status := .failed, failureCode := some failureCode } →
    AttachmentChange o r r'
  | claimed :
    o = .startScan r.id r.scanVersion →
    r.status = .quarantined →
    r' = { r with status := .scanning, failureCode := none } →
    AttachmentChange o r r'
  | cleaned {input} :
    o = .completeClean input →
    r.id = input.attachmentId →
    r.status = .scanning →
    r.scanVersion = input.scanVersion →
    r' = { r with
      status := .clean
      detectedContentType := some input.detectedContentType
      sha256 := some input.sha256
      cleanObjectKey := some input.cleanObjectKey
      scanMetadata := some input.metadata
      failureCode := none
      scannedAt := some input.now } →
    AttachmentChange o r r'
  | finished {input} {status : FinalStatus} :
    o = .finish input status →
    r.id = input.attachmentId →
    r.status = .scanning →
    r.scanVersion = input.scanVersion →
    r' = { r with
      status := status.status
      failureCode := some input.failureCode
      scanMetadata := some input.metadata
      scannedAt := some input.now
      detectedContentType := input.detectedContentType.or r.detectedContentType
      sha256 := input.sha256.or r.sha256 } →
    AttachmentChange o r r'

/-- A row as `createAttachment` makes it. -/
structure Fresh (r : ProjectAttachment) : Prop where
  status : r.status = .awaitingUpload
  quarantineObjectKey : r.quarantineObjectKey = .quarantine r.workspaceId r.projectId r.id
  cleanObjectKey : r.cleanObjectKey = none

/-- What an operation does to the attachment of an id. -/
structure AttachmentStep (o : Operation) (id : Uuid) (s s' : AttachmentState) : Prop where
  change : ∀ r, s.attachment? id = some r → ∃ r', s'.attachment? id = some r' ∧ AttachmentChange o r r'
  fresh : ∀ r', s.attachment? id = none → s'.attachment? id = some r' → Fresh r'

section Steps
variable {o : Operation} {id : Uuid} {s s' : AttachmentState}

lemma AttachmentStep.of_same (same : s'.attachments = s.attachments) : AttachmentStep o id s s' := by
  have lookup : s'.attachment? id = s.attachment? id := by
    simp only [AttachmentState.attachment?, same]
  refine ⟨fun r row => ⟨r, lookup.trans row, .kept rfl⟩, fun r' none row => ?_⟩
  rw [lookup, none] at row
  cases row

/-- An update of one row is an `AttachmentStep` if the change it makes is an `AttachmentChange`. -/
lemma AttachmentStep.of_update {k : Uuid} {p : ProjectAttachment → Bool}
    {data : ProjectAttachment → ProjectAttachment} (keeps : ∀ r, r.id = k → (data r).id = k)
    (change : ∀ r, r.id = k → p r = true → AttachmentChange o r (data r)) :
    AttachmentStep o id s (s.updateAttachment k p data) := by
  constructor
  · intro r row
    rw [attachment?_update keeps, row]
    refine ⟨_, rfl, ?_⟩
    show AttachmentChange o r (if id = k ∧ p r = true then data r else r)
    split
    · rename_i cond
      exact change r ((attachment?_id row).trans cond.1) cond.2
    · exact .kept rfl
  · intro r' none row
    rw [attachment?_update keeps, none] at row
    cases row

/-- `createAttachment` adds one fresh row with a new id, or changes nothing. -/
lemma createAttachment_ok {userId projectId attachmentId : Uuid}
    {metadata : CreateAttachmentUploadIntentInput} {uploadExpiresAt : Date}
    {result : CreateAttachmentResult}
    (e : createAttachment userId projectId attachmentId metadata uploadExpiresAt s =
      .ok (result, s')) :
    (s' = s ∧ ∀ r, result ≠ .ok r) ∨
      ∃ r, Fresh r ∧ r.id = attachmentId ∧ s.attachment? attachmentId = none ∧ result = .ok r ∧
        s' = { s with attachments := s.attachments ++ [r] } := by
  simp only [createAttachment] at e
  split at e
  · cases e
    exact .inl ⟨rfl, fun _ eq => by cases eq⟩
  · split at e
    · cases e
      exact .inl ⟨rfl, fun _ eq => by cases eq⟩
    split at e
    · cases e
    · rename_i absent
      cases e
      exact .inr ⟨_, ⟨rfl, rfl, rfl⟩, rfl, absent, rfl, rfl⟩

lemma createAttachment_step {userId projectId attachmentId : Uuid}
    {metadata : CreateAttachmentUploadIntentInput} {uploadExpiresAt : Date}
    {result : CreateAttachmentResult}
    (e : createAttachment userId projectId attachmentId metadata uploadExpiresAt s =
      .ok (result, s')) : AttachmentStep o id s s' := by
  obtain ⟨rfl, -⟩ | ⟨new, fresh, new_id, absent, -, rfl⟩ := createAttachment_ok e
  · exact .of_same rfl
  constructor
  · intro r row
    exact ⟨r, Table.lookup_append_of_some row, .kept rfl⟩
  · intro r' none row
    by_cases here : attachmentId = id
    · subst here
      have added := Table.lookup_append_new none new_id
      cases row.symm.trans added
      exact fresh
    · have other := Table.lookup_append_ne (t := s.attachments)
        (fun same : new.id = id => here (new_id.symm.trans same))
      cases none.symm.trans (other.symm.trans row)

lemma expireUpload_step {attachmentId : Uuid} {result : ProjectAttachment}
    (e : expireUpload attachmentId s = .ok (result, s')) :
    AttachmentStep (.expireUpload attachmentId) id s s' := by
  simp only [expireUpload] at e
  split at e
  · cases e
  · cases e
    refine .of_update (fun _ e => e) ?_
    rintro r rfl -
    exact .expired rfl rfl

lemma quarantineUpload_step {attachmentId : Uuid} {scanVersion : Nat} {etag : Option String}
    {result : Option ProjectAttachment}
    (e : quarantineUpload attachmentId scanVersion etag s = .ok (result, s')) :
    AttachmentStep (.quarantineUpload attachmentId scanVersion etag) id s s' := by
  simp only [quarantineUpload] at e
  split at e
  · cases e
    refine .of_update (fun _ e => e) ?_
    rintro r rfl holds
    obtain ⟨status, rfl⟩ := of_decide_eq_true holds
    exact .quarantined rfl status rfl
  · cases e
    exact .of_same rfl

lemma failAttachment_step {userId projectId attachmentId : Uuid} {expectedStatus : ExpectedStatus}
    {failureCode : String} {u : Unit}
    (e : failAttachment userId projectId attachmentId expectedStatus failureCode s = .ok (u, s')) :
    AttachmentStep (.failAttachment userId projectId attachmentId expectedStatus failureCode)
      id s s' := by
  cases e
  refine .of_update (fun _ e => e) ?_
  rintro r rfl holds
  obtain ⟨-, status⟩ := of_decide_eq_true holds
  exact .givenUp rfl status rfl

lemma startScan_step {attachmentId : Uuid} {scanVersion : Nat} {result : Option ProjectAttachment}
    (e : startScan attachmentId scanVersion s = .ok (result, s')) :
    AttachmentStep (.startScan attachmentId scanVersion) id s s' := by
  simp only [startScan] at e
  split at e
  · cases e
    refine .of_update (fun _ e => e) ?_
    rintro r rfl holds
    obtain ⟨status, rfl⟩ := of_decide_eq_true holds
    exact .claimed rfl status rfl
  · cases e
    exact .of_same rfl

lemma completeClean_step {input : CompleteCleanInput} {b : Bool}
    (e : completeClean input s = .ok (b, s')) :
    AttachmentStep (.completeClean input) id s s' := by
  cases e
  refine .of_update (fun _ e => e) ?_
  intro r here holds
  obtain ⟨status, version⟩ := isScanning_iff.mp holds
  exact .cleaned rfl here status version rfl

lemma finish_step {input : FinishInput} {status : FinalStatus} {b : Bool}
    (e : finish input status s = .ok (b, s')) : AttachmentStep (.finish input status) id s s' := by
  cases e
  refine .of_update (fun _ e => e) ?_
  intro r here holds
  obtain ⟨scanning, version⟩ := isScanning_iff.mp holds
  exact .finished rfl here scanning version rfl

lemma findUnique_ok {attachmentId : Uuid} {result : Option ProjectAttachment}
    (e : findUnique attachmentId s = .ok (result, s')) :
    s' = s ∧ s.attachment? attachmentId = result := by
  simp only [findUnique, Except.ok.injEq, Prod.mk.injEq] at e
  exact ⟨e.2.symm, e.1⟩

lemma findUniqueOrThrow_ok {attachmentId : Uuid} {r : ProjectAttachment}
    (e : findUniqueOrThrow attachmentId s = .ok (r, s')) :
    s' = s ∧ s.attachment? attachmentId = some r := by
  simp only [findUniqueOrThrow] at e
  split at e
  · cases e
  · rename_i row
    cases e
    exact ⟨rfl, row⟩

/-- A scan that was started is on the row that was read back. -/
lemma startScan_ok {attachmentId : Uuid} {scanVersion : Nat} {r : ProjectAttachment}
    (e : startScan attachmentId scanVersion s = .ok (some r, s')) :
    s'.attachment? attachmentId = some r ∧ r.status = .scanning := by
  simp only [startScan] at e
  split at e
  · rename_i owned
    obtain ⟨r₀, row₀, holds⟩ := owns_iff.mp owned
    simp only [Except.ok.injEq, Prod.mk.injEq] at e
    obtain ⟨row, rfl⟩ := e
    refine ⟨row, ?_⟩
    rw [attachment?_update, row₀, Option.map_some, if_pos ⟨rfl, holds⟩] at row
    · cases row
      rfl
    · exact fun _ e => e
  · cases e

end Steps

/-- A call takes effect as its transaction says, or changes nothing and is answered by an error. -/
lemma perform_cases (o : Operation) (env : Environment) (s : AttachmentState) :
    (∃ error, perform o env s = (.error error, s)) ∨
      ∃ r, transact env o s = .ok (r, (perform o env s).2) ∧
        (env.fate = .commits ∧ (perform o env s).1 = .ok r ∨
          ∃ error, env.fate = .unacknowledged error ∧ (perform o env s).1 = .error error) := by
  unfold perform
  cases e : transact env o s with
  | error error =>
    cases env.fate with
    | commits => exact .inl ⟨_, rfl⟩
    | aborts error => exact .inl ⟨_, rfl⟩
    | unacknowledged => exact .inl ⟨_, rfl⟩
  | ok answer =>
    obtain ⟨r, s'⟩ := answer
    cases env.fate with
    | commits => exact .inr ⟨r, rfl, .inl ⟨rfl, rfl⟩⟩
    | aborts error => exact .inl ⟨_, rfl⟩
    | unacknowledged error => exact .inr ⟨r, rfl, .inr ⟨error, rfl, rfl⟩⟩

/-- A call that the environment aborts changes nothing. -/
lemma perform_aborted {o : Operation} {env : Environment} {s : AttachmentState}
    (aborted : env.takesEffect = false) : (perform o env s).2 = s := by
  unfold Environment.takesEffect at aborted
  unfold perform
  cases e : env.fate with
  | commits =>
    rw [e] at aborted
    cases aborted
  | unacknowledged =>
    rw [e] at aborted
    cases aborted
  | aborts error =>
    cases transact env o s with
    | ok answer => rfl
    | error error' => rfl

/-- The step lemma for the rows: every operation changes an attachment in one of the seven ways. -/
theorem perform_attachments (o : Operation) (env : Environment) (s : AttachmentState) (id : Uuid) :
    AttachmentStep o id s (perform o env s).2 := by
  obtain ⟨error, e⟩ | ⟨r, e, -⟩ := perform_cases o env s
  · rw [e]
    exact .of_same rfl
  generalize (perform o env s).2 = s' at e ⊢
  cases o with
  | createAttachment => exact createAttachment_step e
  | expireUpload => exact expireUpload_step e
  | quarantineUpload => exact quarantineUpload_step e
  | failAttachment => exact failAttachment_step e
  | startScan => exact startScan_step e
  | completeClean => exact completeClean_step e
  | finish => exact finish_step e
  | findUniqueOrThrow =>
    obtain ⟨rfl, -⟩ := findUniqueOrThrow_ok e
    exact .of_same rfl
  | getObject =>
    simp only [transact, getObject] at e
    split at e
    · cases e
    split at e
    · cases e
    · cases e
      exact .of_same rfl
  | copyObject =>
    simp only [transact, copyObject] at e
    split at e
    · cases e
    · cases e
      exact .of_same rfl
  | putObject =>
    simp only [transact, putObject] at e
    split at e
    · cases e
      exact .of_same rfl
    · cases e
  | scan =>
    simp only [transact, scan] at e
    split at e
    · cases e
      exact .of_same rfl
    · cases e
      exact .of_same rfl
  | now | createId | getAttachment | findUnique | createUploadRequest | createDownloadRequest
  | headObject | deleteObject | enqueue =>
    cases e
    exact .of_same rfl

/-- What an operation does beside the rows. -/
inductive Effect (o : Operation) (s s' : AttachmentState) : Prop where
  | rows {attachments} :
    s' = { s with attachments } →
    Effect o s s'
  | put {key object} {expiresAt : Date} :
    o = .putObject key object →
    (key, expiresAt) ∈ s.uploads →
    s' = s.putAt key (some object) →
    Effect o s s'
  | copied {sourceKey destinationKey contentType source etag} :
    o = .copyObject sourceKey destinationKey contentType →
    s.objects sourceKey = some source →
    s' = s.putAt destinationKey (some ⟨source.bytes, some contentType, etag⟩) →
    Effect o s s'
  | deleted {key} :
    o = .deleteObject key →
    s' = s.putAt key none →
    Effect o s s'
  | presigned {key expiresAt} :
    o = .createUploadRequest key expiresAt →
    s' = { s with uploads := s.uploads ++ [(key, expiresAt)] } →
    Effect o s s'
  | accepted {attachmentId bytes} :
    o = .scan attachmentId bytes →
    s' = { s with accepted := s.accepted ++ [(attachmentId, bytes)] } →
    Effect o s s'
  | queued {queue} :
    s' = { s with queue } →
    Effect o s s'

/-- What an operation does to the object under a key. -/
inductive ObjectChange (o : Operation) (key : ObjectKey) (s s' : AttachmentState) : Prop where
  | kept :
    s'.objects key = s.objects key →
    ObjectChange o key s s'
  | put {object} {expiresAt : Date} :
    o = .putObject key object →
    (key, expiresAt) ∈ s.uploads →
    s'.objects key = some object →
    ObjectChange o key s s'
  | copied {sourceKey contentType source etag} :
    o = .copyObject sourceKey key contentType →
    s.objects sourceKey = some source →
    s'.objects key = some ⟨source.bytes, some contentType, etag⟩ →
    ObjectChange o key s s'
  | deleted :
    o = .deleteObject key →
    s'.objects key = none →
    ObjectChange o key s s'

section Effects
variable {s s' : AttachmentState} {key : ObjectKey} {o : Operation} {object : Option StoredObject}

lemma getObject_ok {maxBytes : Nat} {bytes : Bytes}
    (e : getObject key maxBytes s = .ok (bytes, s')) :
    s' = s ∧ ∃ object, s.objects key = some object ∧ object.bytes = bytes := by
  simp only [getObject] at e
  split at e
  · cases e
  · rename_i object found
    split at e
    · cases e
    · cases e
      exact ⟨rfl, object, found, rfl⟩

lemma putObject_effect {object : StoredObject} {now : Date} {u : Unit}
    (e : putObject key object now s = .ok (u, s')) : Effect (.putObject key object) s s' := by
  simp only [putObject] at e
  split at e
  · rename_i presigned
    cases e
    obtain ⟨⟨_, expiresAt⟩, mem, valid⟩ := List.any_eq_true.mp presigned
    obtain ⟨rfl, -⟩ := of_decide_eq_true valid
    exact .put rfl mem rfl
  · cases e

lemma copyObject_effect {sourceKey destinationKey : ObjectKey} {contentType : AttachmentMimeType}
    {etag : Option String} {u : Unit}
    (e : copyObject sourceKey destinationKey contentType etag s = .ok (u, s')) :
    Effect (.copyObject sourceKey destinationKey contentType) s s' := by
  simp only [copyObject] at e
  split at e
  · cases e
  · rename_i source found
    cases e
    exact .copied rfl found rfl

lemma scan_effect {attachmentId : Uuid} {bytes : Bytes} {answer result : MalwareScanResult}
    (e : scan attachmentId bytes answer s = .ok (result, s')) :
    Effect (.scan attachmentId bytes) s s' := by
  simp only [scan] at e
  split at e
  · cases e
    exact .accepted rfl rfl
  · cases e
    exact .rows rfl

/-- Every call that does not fail has one of the effects. -/
lemma transact_effect {env : Environment} {r : o.Answer} (e : transact env o s = .ok (r, s')) :
    Effect o s s' := by
  cases o with
  | putObject => exact putObject_effect e
  | copyObject => exact copyObject_effect e
  | scan => exact scan_effect e
  | deleteObject =>
    cases e
    exact .deleted rfl rfl
  | createUploadRequest =>
    cases e
    exact .presigned rfl rfl
  | enqueue =>
    cases e
    exact .queued rfl
  | getObject =>
    obtain ⟨rfl, -⟩ := getObject_ok e
    exact .rows rfl
  | createAttachment =>
    obtain ⟨rfl, -⟩ | ⟨_, -, -, -, -, rfl⟩ := createAttachment_ok e
    · exact .rows rfl
    · exact .rows rfl
  | expireUpload =>
    simp only [transact, expireUpload] at e
    split at e
    · cases e
    · cases e
      exact .rows rfl
  | quarantineUpload =>
    simp only [transact, quarantineUpload] at e
    split at e
    · cases e
      exact .rows rfl
    · cases e
      exact .rows rfl
  | startScan =>
    simp only [transact, startScan] at e
    split at e
    · cases e
      exact .rows rfl
    · cases e
      exact .rows rfl
  | findUniqueOrThrow =>
    obtain ⟨rfl, -⟩ := findUniqueOrThrow_ok e
    exact .rows rfl
  | now | createId | getAttachment | failAttachment | findUnique | completeClean | finish
  | createDownloadRequest | headObject =>
    cases e
    exact .rows rfl

/-- The step lemma for everything beside the rows. -/
theorem perform_effect (o : Operation) (env : Environment) (s : AttachmentState) :
    Effect o s (perform o env s).2 := by
  obtain ⟨error, e⟩ | ⟨r, e, -⟩ := perform_cases o env s
  · rw [e]
    exact .rows rfl
  · exact transact_effect e

lemma putAt_self : (s.putAt key object).objects key = object :=
  Function.update_self ..

lemma putAt_ne {key' : ObjectKey} (ne : key ≠ key') :
    (s.putAt key' object).objects key = s.objects key :=
  Function.update_of_ne ne ..

/-- The effect of an operation on one key. -/
lemma Effect.objects (effect : Effect o s s') (key : ObjectKey) : ObjectChange o key s s' := by
  cases effect with
  | rows e | presigned _ e | accepted _ e | queued e =>
    rw [e]
    exact .kept rfl
  | @put key' object _ call mem e =>
    rw [e]
    by_cases here : key = key'
    · subst here
      exact .put call mem putAt_self
    · exact .kept (putAt_ne here)
  | @copied _ key' _ _ _ call found e =>
    rw [e]
    by_cases here : key = key'
    · subst here
      exact .copied call found putAt_self
    · exact .kept (putAt_ne here)
  | @deleted key' call e =>
    rw [e]
    by_cases here : key = key'
    · subst here
      exact .deleted call putAt_self
    · exact .kept (putAt_ne here)

/-- The step lemma for the objects. -/
theorem perform_objects (o : Operation) (env : Environment) (s : AttachmentState)
    (key : ObjectKey) : ObjectChange o key s (perform o env s).2 :=
  (perform_effect o env s).objects key

/-- Only `createUploadRequest` makes a key writable. -/
lemma perform_uploads {env : Environment} {upload : ObjectKey × Date}
    (mem : upload ∈ (perform o env s).2.uploads) :
    upload ∈ s.uploads ∨ o = .createUploadRequest upload.1 upload.2 := by
  cases perform_effect o env s with
  | rows e | put _ _ e | copied _ _ e | deleted _ e | accepted _ e | queued e =>
    rw [e] at mem
    exact .inl mem
  | presigned call e =>
    rw [e] at mem
    obtain mem | mem := List.mem_append.mp mem
    · exact .inl mem
    · rw [List.mem_singleton.mp mem]
      exact .inr call

/-- What the scanner accepted stays accepted. -/
lemma perform_accepted {x : Uuid × Bytes} (mem : x ∈ s.accepted) (o : Operation)
    (env : Environment) : x ∈ (perform o env s).2.accepted := by
  cases perform_effect o env s with
  | rows e | put _ _ e | copied _ _ e | deleted _ e | presigned _ e | queued e =>
    rw [e]
    exact mem
  | accepted _ e =>
    rw [e]
    exact List.mem_append_left _ mem

end Effects

end AtomsPlatform.Attachment
