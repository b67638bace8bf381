import AtomsPlatform.Attachment.Rows
import AtomsPlatform.Lib.RelyGuarantee

/-!
# Claimed attachments

What every execution of a scan can rely on once it has claimed its attachment: the row stays the row
that was read, in the version that was read, and never becomes unclaimed (`Claimed`). The rows and the
keys stored in them fit together (`KeyedRows`). All calls but a few are harmless to that, and the
requests and uploads make harmless calls only; the others are the business of the scan, and of the
modules that follow.
-/

namespace AtomsPlatform.Attachment
open Interleaving

section Keys

/-- Whether a key is one for objects that passed the scan. -/
def ObjectKey.isClean : ObjectKey → Bool
  | .quarantine .. => false
  | .clean .. => true

/-- The clean key of an attachment for a digest, as `process` builds it. -/
def ProjectAttachment.cleanKey (r : ProjectAttachment) (sha256 : String) : ObjectKey :=
  .clean r.workspaceId r.projectId r.id sha256

/-- The keys stored in a row are the ones built for it, and the metadata of a clean row is complete. -/
structure Keyed (r : ProjectAttachment) : Prop where
  quarantine : r.quarantineObjectKey = .quarantine r.workspaceId r.projectId r.id
  clean : r.status = .clean → ∃ sha256, r.sha256 = some sha256 ∧
    r.cleanObjectKey = some (r.cleanKey sha256) ∧ r.detectedContentType = some r.declaredContentType

/-- All rows are keyed. -/
def KeyedRows (s : AttachmentState) : Prop :=
  ∀ id r, s.attachment? id = some r → Keyed r

/-- The scan of an attachment has been claimed. -/
def AttachmentStatus.started : AttachmentStatus → Bool
  | .awaitingUpload | .quarantined => false
  | _ => true

/-- A row is still the one that was read: what is written once, and the version. -/
structure SameUpload (a r : ProjectAttachment) : Prop where
  workspaceId : r.workspaceId = a.workspaceId
  projectId : r.projectId = a.projectId
  declaredContentType : r.declaredContentType = a.declaredContentType
  sizeBytes : r.sizeBytes = a.sizeBytes
  quarantineObjectKey : r.quarantineObjectKey = a.quarantineObjectKey
  scanVersion : r.scanVersion = a.scanVersion

/-- The scan of an attachment has been claimed in the version in which the row was read. -/
def Claimed (s : AttachmentState) (a : ProjectAttachment) : Prop :=
  ∃ r, s.attachment? a.id = some r ∧ SameUpload a r ∧ r.status.started = true

lemma SameUpload.refl (a : ProjectAttachment) : SameUpload a a :=
  ⟨rfl, rfl, rfl, rfl, rfl, rfl⟩

lemma SameUpload.cleanKey {a r : ProjectAttachment} (same : SameUpload a r) (id : r.id = a.id)
    (sha256 : String) : r.cleanKey sha256 = a.cleanKey sha256 := by
  simp only [ProjectAttachment.cleanKey, same.workspaceId, same.projectId, id]

/-- A change of a started row changes neither what was read nor that it is started. -/
lemma AttachmentChange.started {o : Operation} {a r r' : ProjectAttachment}
    (change : AttachmentChange o r r') (same : SameUpload a r) (started : r.status.started = true) :
    SameUpload a r' ∧ r'.status.started = true := by
  cases change with
  | kept e =>
    rw [e]
    exact ⟨same, started⟩
  | expired _ e =>
    rw [e]
    exact ⟨⟨same.1, same.2, same.3, same.4, same.5, same.6⟩, rfl⟩
  | quarantined _ status _ =>
    rw [status] at started
    cases started
  | givenUp _ _ e =>
    rw [e]
    exact ⟨⟨same.1, same.2, same.3, same.4, same.5, same.6⟩, rfl⟩
  | claimed _ status _ =>
    rw [status] at started
    cases started
  | cleaned _ _ _ _ e =>
    rw [e]
    exact ⟨⟨same.1, same.2, same.3, same.4, same.5, same.6⟩, rfl⟩
  | @finished _ final _ _ _ _ e =>
    rw [e]
    exact ⟨⟨same.1, same.2, same.3, same.4, same.5, same.6⟩, by cases final <;> rfl⟩

/-- A claim is never lost. -/
lemma Claimed.perform {s : AttachmentState} {a : ProjectAttachment} (claimed : Claimed s a)
    (o : Operation) (env : Environment) : Claimed (perform o env s).2 a := by
  obtain ⟨r, row, same, started⟩ := claimed
  obtain ⟨r', row', change⟩ := (perform_attachments o env s a.id).change r row
  obtain ⟨same', started'⟩ := change.started same started
  exact ⟨r', row', same', started'⟩

/-- A `completeClean` that commits what its own scan found. -/
structure Commits (s : AttachmentState) (input : CompleteCleanInput) (a : ProjectAttachment) : Prop where
  claimed : Claimed s a
  attachmentId : input.attachmentId = a.id
  scanVersion : input.scanVersion = a.scanVersion
  detectedContentType : input.detectedContentType = a.declaredContentType
  cleanObjectKey : input.cleanObjectKey = a.cleanKey input.sha256

/-- A change keeps a row keyed. -/
lemma AttachmentChange.keyed {o : Operation} {r r' : ProjectAttachment} {s : AttachmentState}
    (change : AttachmentChange o r r') (row : s.attachment? r.id = some r) (keyed : Keyed r)
    (commits : ∀ input, o = .completeClean input → ∃ a, Commits s input a) : Keyed r' := by
  cases change with
  | kept e => rwa [e]
  | expired _ e =>
    rw [e]
    exact ⟨keyed.quarantine, fun status => by cases status⟩
  | quarantined _ _ e =>
    rw [e]
    exact ⟨keyed.quarantine, fun status => by cases status⟩
  | givenUp _ _ e =>
    rw [e]
    exact ⟨keyed.quarantine, fun status => by cases status⟩
  | claimed _ _ e =>
    rw [e]
    exact ⟨keyed.quarantine, fun status => by cases status⟩
  | @cleaned input call here _ _ e =>
    obtain ⟨a, commit⟩ := commits input call
    obtain ⟨r₁, row₁, same, -⟩ := commit.claimed
    have id : r.id = a.id := here.trans commit.attachmentId
    rw [← id, row] at row₁
    cases row₁
    rw [e]
    refine ⟨keyed.quarantine, fun _ => ⟨input.sha256, rfl, ?_, ?_⟩⟩
    · exact congrArg some (commit.cleanObjectKey.trans (same.cleanKey id _).symm)
    · exact congrArg some (commit.detectedContentType.trans same.declaredContentType.symm)
  | @finished _ final _ _ _ _ e =>
    rw [e]
    exact ⟨keyed.quarantine, fun status => by cases final <;> cases status⟩

/-- Rows stay keyed when scans commit what they found only. -/
lemma KeyedRows.perform {s : AttachmentState} {o : Operation} (keyed : KeyedRows s)
    (commits : ∀ input, o = .completeClean input → ∃ a, Commits s input a) (env : Environment) :
    KeyedRows (perform o env s).2 := by
  intro id r' row'
  have step := perform_attachments o env s id
  cases row : s.attachment? id with
  | none =>
    have fresh := step.fresh r' row row'
    refine ⟨fresh.quarantineObjectKey, fun status => ?_⟩
    rw [fresh.status] at status
    cases status
  | some r =>
    obtain ⟨r₁, row₁, change⟩ := step.change r row
    cases row₁.symm.trans row'
    rw [← attachment?_id row] at row
    exact change.keyed row (keyed _ r row) commits

/-- Before there are rows, all are keyed. -/
lemma Starts.keyedRows {c : AttachmentConfig} (starts : Starts c) : KeyedRows c.store := by
  intro id r row
  simp only [AttachmentState.attachment?, starts.attachments, Table.lookup_nil] at row
  cases row

end Keys

section Harmless

/-- The calls that leave clean objects and clean rows alone. -/
def Operation.harmless : Operation → Bool
  | .completeClean _ | .copyObject .. => false
  | .deleteObject key | .createUploadRequest key _ => !key.isClean
  | _ => true

/-- Harmless calls, and rows as answers. -/
def harmlessly : Contract Operation fun o => Except Failure o.Answer where
  requires o := o.harmless = true
  ensures
    | .createAttachment .., .ok (.ok r) => Keyed r
    | .getAttachment .., .ok (some r) => Keyed r
    | .quarantineUpload .., .ok (some r) => Keyed r
    | _, _ => True

/-- The answers are as `harmlessly` assumes. -/
lemma harmlessly_answers {s : AttachmentState} {o : Operation} (keyed : KeyedRows s)
    (requires : harmlessly.requires o) (env : Environment) :
    harmlessly.ensures o (perform o env s).1 := by
  obtain ⟨error, e⟩ | ⟨r, e, ⟨-, answer⟩ | ⟨error, -, answer⟩⟩ := perform_cases o env s
  · rw [e]
    cases o with
    | createAttachment | getAttachment | quarantineUpload => trivial
    | _ => trivial
  · rw [answer]
    have keyed' : KeyedRows (perform o env s).2 := by
      refine keyed.perform ?_ env
      rintro input rfl
      cases requires
    cases o with
    | createAttachment =>
      obtain ⟨-, none⟩ | ⟨row, fresh, -, -, rfl, -⟩ := createAttachment_ok e
      · cases r with
        | ok row => exact absurd rfl (none row)
        | projectNotFound => trivial
        | limitReached => trivial
      · refine ⟨fresh.quarantineObjectKey, fun status => ?_⟩
        rw [fresh.status] at status
        cases status
    | getAttachment userId projectId attachmentId =>
      cases r with
      | none => trivial
      | some row =>
        simp only [transact, getAttachment, Except.ok.injEq, Prod.mk.injEq] at e
        exact keyed attachmentId row (Option.filter_eq_some_iff.mp e.1).1
    | quarantineUpload attachmentId =>
      cases r with
      | none => trivial
      | some row =>
        simp only [transact, quarantineUpload] at e
        split at e
        · simp only [Except.ok.injEq, Prod.mk.injEq] at e
          obtain ⟨row', same⟩ := e
          rw [same] at row'
          exact keyed' attachmentId row row'
        · cases e
    | _ => trivial
  · rw [answer]
    cases o with
    | createAttachment | getAttachment | quarantineUpload => trivial
    | _ => trivial

/-- The quarantine key of a keyed row may be deleted. -/
lemma Keyed.harmless {r : ProjectAttachment} (keyed : Keyed r) :
    (Operation.deleteObject r.quarantineObjectKey).harmless = true := by
  rw [keyed.quarantine]
  rfl

lemma deleteObject_harmlessly {r : ProjectAttachment} (keyed : Keyed r) :
    Yields harmlessly (ignoring (call (.deleteObject r.quarantineObjectKey))) fun _ => True :=
  .tryCatch (.call keyed.harmless fun _ _ => trivial) fun _ => .pure trivial

lemma createAttachmentUploadIntent_harmlessly {userId projectId : Uuid}
    {metadata : CreateAttachmentUploadIntentInput} :
    Yields harmlessly (createAttachmentUploadIntent userId projectId metadata) fun _ => True := by
  unfold createAttachmentUploadIntent
  refine .step rfl fun attachmentId _ => .step rfl fun createdAt _ => .step rfl fun created keyed => ?_
  cases created with
  | projectNotFound => exact .throw
  | limitReached => exact .throw
  | ok attachment =>
    have quarantine : (!attachment.quarantineObjectKey.isClean) = true := by
      rw [Keyed.quarantine keyed]
      rfl
    refine .bind (P := fun _ => True) (.tryCatch ?_ fun _ => ?_) fun _ _ => .pure trivial
    · exact .step rfl fun signedAt _ => .call quarantine fun _ _ => trivial
    · exact .step rfl fun _ _ => .throw

lemma completeUpload_harmlessly {userId projectId attachmentId : Uuid} {etag : Option String}
    {now : Date} : Yields harmlessly (completeUpload userId projectId attachmentId etag now)
      fun result => ∀ r, result = .ok r → Keyed r := by
  unfold completeUpload
  refine .step rfl fun current _ => ?_
  cases current with
  | none => exact .pure fun _ e => by cases e
  | some current =>
    dsimp only
    split
    · exact .pure fun _ e => by cases e
    split
    · exact .step rfl fun _ _ => .pure fun _ e => by cases e
    · refine .step rfl fun updated keyed => ?_
      cases updated with
      | none => exact .step rfl fun _ _ => .pure fun _ e => by cases e
      | some attachment =>
        refine .pure ?_
        rintro r ⟨⟩
        exact keyed

lemma requestScan_harmlessly {userId projectId : Uuid} {attachment : ProjectAttachment}
    (keyed : Keyed attachment) :
    Yields harmlessly (requestScan userId projectId attachment) fun _ => True := by
  unfold requestScan
  refine .bind (P := fun _ => True) (.tryCatch (.call rfl fun _ _ => trivial) fun _ => ?_)
    fun _ _ => .pure trivial
  exact .step rfl fun _ _ => .bind (deleteObject_harmlessly keyed) fun _ _ => .throw

lemma acceptUpload_harmlessly {userId projectId : Uuid} {attachment : ProjectAttachment}
    {etag : Option String} (keyed : Keyed attachment) :
    Yields harmlessly (acceptUpload userId projectId attachment etag) fun _ => True := by
  unfold acceptUpload
  refine .step rfl fun now _ => .bind completeUpload_harmlessly fun completed ok => ?_
  cases completed with
  | ok attachment => exact requestScan_harmlessly (ok attachment rfl)
  | notFound => exact .throw
  | stale status =>
    cases status with
    | expired => exact .bind (deleteObject_harmlessly keyed) fun _ _ => .throw
    | _ => exact .throw

lemma verifyUpload_harmlessly {userId projectId : Uuid} {attachment : ProjectAttachment}
    {suppliedEtag : Option String} (keyed : Keyed attachment) :
    Yields harmlessly (verifyUpload userId projectId attachment suppliedEtag) fun _ => True := by
  unfold verifyUpload
  refine .bind (P := fun _ => True) (.tryCatch (.call rfl fun _ _ => trivial) fun _ => .throw)
    fun object _ => ?_
  cases object with
  | none => exact .throw
  | some object =>
    dsimp only
    split
    · exact acceptUpload_harmlessly keyed
    · exact .step rfl fun _ _ => .bind (deleteObject_harmlessly keyed) fun _ _ => .throw

lemma completeAttachmentUpload_harmlessly {userId projectId attachmentId : Uuid}
    {suppliedEtag : Option String} :
    Yields harmlessly (completeAttachmentUpload userId projectId attachmentId suppliedEtag)
      fun _ => True := by
  unfold completeAttachmentUpload
  refine .step rfl fun attachment keyed => ?_
  cases attachment with
  | none => exact .throw
  | some attachment =>
    dsimp only
    split
    · exact .throw
    refine .step rfl fun now _ => ?_
    split
    · refine .step rfl fun later _ => .bind completeUpload_harmlessly fun _ _ => ?_
      exact .bind (deleteObject_harmlessly keyed) fun _ _ => .throw
    · exact verifyUpload_harmlessly keyed

lemma downloadProjectAttachment_harmlessly {userId projectId attachmentId : Uuid} :
    Yields harmlessly (downloadProjectAttachment userId projectId attachmentId) fun _ => True := by
  unfold downloadProjectAttachment
  refine .step rfl fun attachment _ => ?_
  cases attachment with
  | none => exact .throw
  | some attachment =>
    dsimp only
    split
    · exact .step rfl fun _ _ => .pure trivial
    · exact .throw

lemma rejectAndDelete_harmlessly {attachment : ProjectAttachment} {failureCode : String}
    {detectedContentType : Option AttachmentMimeType} {sha256 : Option String}
    {metadata : ScanMetadata} (keyed : Keyed attachment) :
    Yields harmlessly
      (rejectAndDelete attachment failureCode detectedContentType sha256 metadata)
      fun _ => True := by
  unfold rejectAndDelete
  refine .step rfl fun now _ => .step rfl fun rejected _ => ?_
  split
  · exact .bind (deleteObject_harmlessly keyed) fun _ _ => .pure trivial
  · exact .pure trivial

lemma failScan_harmlessly {attachment : ProjectAttachment} {error : Failure}
    {attempt : AttachmentScanAttempt} :
    Yields harmlessly (failScan attachment attempt error) fun _ => True := by
  unfold failScan
  split
  · exact .throw
  · exact .step rfl fun now _ => .step rfl fun _ _ => .pure trivial

variable {calculateSha256 : Bytes → String}

/-- Requests and uploads make harmless calls only. -/
lemma requests_harmlessly {activity : Activity}
    (request : ∀ job attempt, activity ≠ .delivery job attempt) :
    Yields harmlessly (activity.program calculateSha256) fun _ => True := by
  cases activity with
  | intent => exact .bind createAttachmentUploadIntent_harmlessly fun _ _ => .pure trivial
  | completion => exact .bind completeAttachmentUpload_harmlessly fun _ _ => .pure trivial
  | download => exact .bind downloadProjectAttachment_harmlessly fun _ _ => .pure trivial
  | upload => exact .step rfl fun _ _ => .pure trivial
  | delivery job attempt => exact absurd rfl (request job attempt)

end Harmless

section Scans
variable {calculateSha256 : Bytes → String} {W : Regime (attachmentSystem calculateSha256)}
  {t : Activity} {α : Type}

/-- A regime in which claims persist and harmless calls are safe. -/
structure Tame (W : Regime (attachmentSystem calculateSha256)) : Prop where
  keyed : ∀ {s}, W.inv s → KeyedRows s
  claimed : ∀ {t o s s' a}, W.rely t o s s' → Claimed s a → Claimed s' a
  harmless : ∀ {t o s}, o.harmless = true → W.safe t o s

/-- The rule of calls whose errors need no care. -/
lemma assures_call {o : Operation} {P M : AttachmentState → Prop}
    {Q : o.Answer → AttachmentState → Prop}
    (stable : ∀ s s₁, W.rely t o s s₁ → W.inv s₁ → P s → M s₁)
    (safe : ∀ s, W.inv s → M s → W.safe t o s)
    (answer : ∀ s r env, W.inv s → M s → W.allows t o env s → env.fate = .commits →
      transact env o s = .ok (r, (perform o env s).2) → Q r (perform o env s).2) :
    Assures W t P (call o) Q fun _ _ => True := by
  refine .call stable safe fun s env inv holds allowed => ?_
  show Outcome _ _ (perform o env s).1
  obtain ⟨error, e⟩ | ⟨r, e, ⟨commits, result⟩ | ⟨error, -, result⟩⟩ := perform_cases o env s
  · rw [e]
    trivial
  · rw [result]
    exact answer s r env inv holds allowed commits e
  · rw [result]
    trivial

/-- The rule of harmless calls under which an assertion is kept. -/
lemma Tame.keep (tame : Tame W) {o : Operation} {P : AttachmentState → Prop}
    (harmless : o.harmless = true)
    (stable : ∀ s s₁, W.rely t o s s₁ → W.inv s₁ → P s → P s₁)
    (kept : ∀ s env, W.inv s → P s → P (perform o env s).2) :
    Assures W t P (Attachment.call o) (fun _ => P) fun _ _ => True :=
  assures_call stable (fun _ _ _ => tame.harmless harmless)
    fun s _ env inv holds _ _ _ => kept s env inv holds

/-- What makes harmless calls only needs nothing. -/
lemma Tame.harmlessly (tame : Tame W) {p : Program α} {P : AttachmentState → Prop} {Q : α → Prop}
    (yields : Yields harmlessly p Q) : Assures W t P p (fun a _ => Q a) fun _ _ => True := by
  have assures : Assures W t (fun _ => True) p (fun a _ => Q a ∧ True) fun _ _ => True ∧ True := by
    refine Fulfils.assures yields (fun _ _ _ _ => trivial) (fun req _ _ => tame.harmless req) ?_
    intro o s env req inv _ _
    exact ⟨trivial, harmlessly_answers (tame.keyed inv) req env⟩
  exact assures.mono (fun _ _ => trivial) (fun _ _ holds => holds.1) fun _ _ _ => trivial

/-- `claim` answers with a claimed attachment. -/
lemma Tame.claim (tame : Tame W) {job : AttachmentScanJob} {P : AttachmentState → Prop} :
    Assures W t P (claim job)
      (fun result s => ∀ a, result = .ready a → Claimed s a ∧ Keyed a) fun _ _ => True := by
  unfold Attachment.claim
  refine .bind (R := fun current s => ∀ r, current = some r →
      s.attachment? r.id = some r ∧ Keyed r) ?_ fun current => ?_
  · refine assures_call (M := fun _ => True) (fun _ _ _ _ _ => trivial)
      (fun _ _ _ => tame.harmless rfl) ?_
    intro s r env inv _ _ _ e row found
    obtain ⟨same, result⟩ := findUnique_ok e
    rw [found] at result
    rw [same, attachment?_id result]
    exact ⟨result, tame.keyed inv _ row result⟩
  cases current with
  | none => exact .pure fun _ _ _ e => by cases e
  | some current =>
    dsimp only
    split
    · exact .pure fun _ _ _ e => by cases e
    cases status : current.status with
    | quarantined =>
      refine .bind (R := fun claimed s => ∀ a, claimed = some a → Claimed s a ∧ Keyed a) ?_
        fun claimed => ?_
      · refine assures_call (M := fun _ => True) (fun _ _ _ _ _ => trivial)
          (fun _ _ _ => tame.harmless rfl) ?_
        rintro s r env inv - - - e a rfl
        obtain ⟨row, scanning⟩ := startScan_ok e
        have keyed : KeyedRows (perform (.startScan current.id job.scanVersion) env s).2 :=
          (tame.keyed inv).perform (fun _ e => by cases e) env
        refine ⟨⟨a, ?_, .refl a, ?_⟩, keyed _ a row⟩
        · rwa [attachment?_id row]
        · rw [scanning]
          rfl
      · cases claimed with
        | none => exact .pure fun _ _ _ e => by cases e
        | some attachment =>
          refine .pure ?_
          rintro s claimed a ⟨⟩
          exact claimed attachment rfl
    | scanning =>
      refine .bind (R := fun a s => Claimed s a ∧ Keyed a) ?_ fun attachment => ?_
      · refine assures_call (M := fun s => Claimed s current) ?_
          (fun _ _ _ => tame.harmless rfl) ?_
        · intro s s₁ rely _ read
          obtain ⟨row, -⟩ := read current rfl
          refine tame.claimed rely ⟨current, row, .refl current, ?_⟩
          rw [status]
          rfl
        · intro s r env inv claimed _ _ e
          obtain ⟨unchanged, row⟩ := findUniqueOrThrow_ok e
          rw [unchanged]
          obtain ⟨r₀, row₀, same, started⟩ := claimed
          cases row₀.symm.trans row
          refine ⟨⟨r, ?_, .refl r, started⟩, tame.keyed inv _ r row⟩
          rwa [attachment?_id row]
      · refine .pure ?_
        rintro s claimed a ⟨⟩
        exact claimed
    | _ => exact .pure fun _ _ _ e => by cases e

end Scans

end AtomsPlatform.Attachment
