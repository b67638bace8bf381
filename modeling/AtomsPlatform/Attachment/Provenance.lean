import AtomsPlatform.Attachment.Claims

/-!
# What is served is what was scanned

The bytes that are scanned are read first, and the object is copied later, by its key. Whoever holds
the presigned request of the upload can replace the object in between. As long as nobody does, every
object under a clean key is one that the content inspection and the scanner accepted, with the digest
and the size on the row.
-/

namespace AtomsPlatform.Attachment
open Interleaving

variable {calculateSha256 : Bytes → String}

/-- Whether a call belongs to the scan of what was read from a quarantine key and is not yet copied. -/
def Operation.watches (o : Operation) (key : ObjectKey) : Bool :=
  match o with
  | .scan attachmentId _ => !key.isClean && key.attachmentId == attachmentId
  | .copyObject sourceKey _ _ => !key.isClean && sourceKey == key
  | _ => false

/-- Whether a program is in the midst of such a scan. -/
def scansUnder (key : ObjectKey) :
    Prog Operation (fun o => Except Failure o.Answer) (Except Failure Response) → Bool
  | .call o _ => o.watches key
  | .ret _ => false

/-- Nobody writes to a quarantine key between the read of a scan and its copy. -/
def UploadsUnscanned (calculateSha256 : Bytes → String) (c : AttachmentConfig) :
    (attachmentSystem calculateSha256).Label → Prop
  | .act _ (.putObject key _) env =>
    Environment.takesEffect env = true → ∀ t ∈ c.threads, scansUnder key t.prog = false
  | _ => True

instance (c : AttachmentConfig) : (l : (attachmentSystem calculateSha256).Label) →
    Decidable (UploadsUnscanned calculateSha256 c l)
  | .spawn _ => instDecidableTrue
  | .act i o env => by
    apply Operation.casesOn (motive := fun o => Decidable (UploadsUnscanned calculateSha256 c (.act i o env))) o <;>
      intros <;> dsimp only [UploadsUnscanned] <;> infer_instance

/-- Some bytes were accepted for an attachment, and have the digest and the size that go with them. -/
structure Vetted (calculateSha256 : Bytes → String) (s : AttachmentState) (id : Uuid)
    (sha256 : String) (bytes : Bytes) : Prop where
  accepted : (id, bytes) ∈ s.accepted
  digest : calculateSha256 bytes = sha256
  row : ∃ r, s.attachment? id = some r ∧ r.sizeBytes = bytes.length ∧
    detectAttachmentMimeType bytes = some r.declaredContentType

/-- Only vetted bytes are under clean keys, and those are not writable. -/
structure Provenance (calculateSha256 : Bytes → String) (s : AttachmentState) : Prop where
  keyed : KeyedRows s
  uploads : ∀ upload ∈ s.uploads, upload.1.isClean = false
  vetted : ∀ workspaceId projectId id sha256 object,
    s.objects (.clean workspaceId projectId id sha256) = some object →
    Vetted calculateSha256 s id sha256 object.bytes

/-- What is under the quarantine key of an attachment, if anything, has these bytes. -/
def Holds (s : AttachmentState) (a : ProjectAttachment) (bytes : Bytes) : Prop :=
  ∀ object, s.objects a.quarantineObjectKey = some object → object.bytes = bytes

/-- Bytes that were read for a claimed attachment and found to be what was declared. -/
structure Inspected (s : AttachmentState) (a : ProjectAttachment) (bytes : Bytes) : Prop where
  claimed : Claimed s a
  sizeBytes : bytes.length = a.sizeBytes
  contentType : detectAttachmentMimeType bytes = some a.declaredContentType
  holds : Holds s a bytes

/-- A copy promotes what was inspected and accepted. -/
structure Promotes (calculateSha256 : Bytes → String) (s : AttachmentState)
    (sourceKey destinationKey : ObjectKey) (a : ProjectAttachment) (bytes : Bytes) : Prop where
  inspected : Inspected s a bytes
  accepted : (a.id, bytes) ∈ s.accepted
  sourceKey : sourceKey = a.quarantineObjectKey
  destinationKey : destinationKey = a.cleanKey (calculateSha256 bytes)

/-- What a scan may do to clean objects and rows. -/
def PromotesOnly (calculateSha256 : Bytes → String) : Operation → AttachmentState → Prop
  | .completeClean input, s => ∃ a, Commits s input a
  | .copyObject sourceKey destinationKey _, s =>
    ∃ a bytes, Promotes calculateSha256 s sourceKey destinationKey a bytes
  | .createUploadRequest key _, _ => key.isClean = false
  | _, _ => True

/-- What a scan relies on before a call. -/
structure Undisturbed (o : Operation) (s s' : AttachmentState) : Prop where
  claimed : ∀ a, Claimed s a → Claimed s' a
  accepted : ∀ x ∈ s.accepted, x ∈ s'.accepted
  watched : ∀ key, o.watches key = true → ∀ object, s'.objects key = some object →
    s.objects key = some object

section Steps
variable {s : AttachmentState} {o : Operation}

/-- What was declared of an attachment never changes. -/
lemma AttachmentChange.declared {r r' : ProjectAttachment} (change : AttachmentChange o r r') :
    r'.sizeBytes = r.sizeBytes ∧ r'.declaredContentType = r.declaredContentType := by
  cases change with
  | kept e | expired _ e | quarantined _ _ e | givenUp _ _ e | claimed _ _ e | cleaned _ _ _ _ e
  | finished _ _ _ _ e =>
    rw [e]
    exact ⟨rfl, rfl⟩

lemma Vetted.perform {id : Uuid} {sha256 : String} {bytes : Bytes}
    (vetted : Vetted calculateSha256 s id sha256 bytes) (o : Operation) (env : Environment) :
    Vetted calculateSha256 (perform o env s).2 id sha256 bytes := by
  refine ⟨perform_accepted vetted.accepted o env, vetted.digest, ?_⟩
  obtain ⟨r, row, size, contentType⟩ := vetted.row
  obtain ⟨r', row', change⟩ := (perform_attachments o env s id).change r row
  obtain ⟨size', declared'⟩ := change.declared
  refine ⟨r', row', size'.trans size, ?_⟩
  rw [contentType, declared']

/-- What a copy promotes is vetted. -/
lemma Promotes.vetted {sourceKey destinationKey : ObjectKey} {a : ProjectAttachment} {bytes : Bytes}
    (promotes : Promotes calculateSha256 s sourceKey destinationKey a bytes) :
    Vetted calculateSha256 s a.id (calculateSha256 bytes) bytes := by
  obtain ⟨r, row, same, -⟩ := promotes.inspected.claimed
  refine ⟨promotes.accepted, rfl, r, row, ?_, ?_⟩
  · rw [same.sizeBytes, promotes.inspected.sizeBytes]
  · rw [same.declaredContentType, promotes.inspected.contentType]

/-- The step lemma of the invariant. -/
lemma Provenance.perform (inv : Provenance calculateSha256 s)
    (only : PromotesOnly calculateSha256 o s) (env : Environment) :
    Provenance calculateSha256 (perform o env s).2 := by
  have commits : ∀ input, o = .completeClean input → ∃ a, Commits s input a := by
    rintro input rfl
    exact only
  refine ⟨inv.keyed.perform commits env, ?_, ?_⟩
  · intro upload mem
    obtain before | rfl := perform_uploads mem
    · exact inv.uploads upload before
    · exact only
  · intro workspaceId projectId id sha256 object found
    cases perform_objects o env s (.clean workspaceId projectId id sha256) with
    | kept same =>
      rw [same] at found
      exact (inv.vetted _ _ _ _ object found).perform o env
    | put _ mem _ =>
      have writable := inv.uploads _ mem
      cases writable
    | copied call source found' =>
      subst call
      obtain ⟨a, bytes, promotes⟩ := only
      cases found'.symm.trans found
      have read := promotes.inspected.holds _ (promotes.sourceKey ▸ source)
      cases promotes.destinationKey
      rw [read]
      exact promotes.vetted.perform _ env
    | deleted _ gone => cases gone.symm.trans found

/-- A call of one thread is what a scan in another relies on, if it does not upload in its way. -/
lemma perform_undisturbed {o' : Operation} {env : Environment}
    (only : PromotesOnly calculateSha256 o s)
    (uploads : ∀ key object, o = .putObject key object → env.takesEffect = true →
      o'.watches key = false) : Undisturbed o' s (perform o env s).2 := by
  refine ⟨fun a claimed => claimed.perform o env, fun x mem => perform_accepted mem o env, ?_⟩
  intro key watched object found
  cases perform_objects o env s key with
  | kept same => rwa [same] at found
  | deleted _ gone => cases gone.symm.trans found
  | put call _ _ =>
    cases effect : env.takesEffect with
    | true =>
      rw [uploads key _ call effect] at watched
      cases watched
    | false => rwa [perform_aborted effect] at found
  | copied call _ _ =>
    -- copies go to clean keys, and those are not watched
    subst call
    obtain ⟨a, bytes, promotes⟩ := only
    rw [promotes.destinationKey] at watched
    cases o' <;> cases watched

end Steps

/-- The conditions under which executions of a scan are judged. -/
def provenance (calculateSha256 : Bytes → String) : Regime (attachmentSystem calculateSha256) where
  inv := Provenance calculateSha256
  rely _ := Undisturbed
  safe _ := PromotesOnly calculateSha256
  allows _ _ _ _ := True

lemma provenance_tame : Tame (provenance calculateSha256) where
  keyed inv := inv.keyed
  claimed rely := rely.claimed _
  harmless {t o s} harmless := by
    cases o with
    | completeClean | copyObject => cases harmless
    | createUploadRequest key => exact (Bool.not_eq_true' _).mp harmless
    | _ => trivial

section Scan
variable {t : Activity} {attachment : ProjectAttachment} {bytes : Bytes}

/-- Watching its quarantine key, a scan keeps what it inspected. -/
lemma Inspected.undisturbed {o : Operation} {s s' : AttachmentState}
    (inspected : Inspected s attachment bytes)
    (watches : o.watches attachment.quarantineObjectKey = true) (rely : Undisturbed o s s') :
    Inspected s' attachment bytes :=
  ⟨rely.claimed _ inspected.claimed, inspected.sizeBytes, inspected.contentType,
    fun object found => inspected.holds object (rely.watched _ watches object found)⟩

lemma Keyed.watches_scan (keyed : Keyed attachment) :
    (Operation.scan attachment.id bytes).watches attachment.quarantineObjectKey = true := by
  rw [keyed.quarantine]
  simp [Operation.watches, ObjectKey.isClean, ObjectKey.attachmentId]

lemma Keyed.watches_copyObject (keyed : Keyed attachment) {destinationKey : ObjectKey}
    {contentType : AttachmentMimeType} :
    (Operation.copyObject attachment.quarantineObjectKey destinationKey contentType).watches
      attachment.quarantineObjectKey = true := by
  rw [keyed.quarantine]
  simp [Operation.watches, ObjectKey.isClean]

/-- What was inspected and accepted is promoted. -/
lemma promote_provenance {scanner : String} (keyed : Keyed attachment) :
    Assures (provenance calculateSha256) t
      (fun s => Inspected s attachment bytes ∧ (attachment.id, bytes) ∈ s.accepted)
      (promote attachment attachment.declaredContentType (calculateSha256 bytes) scanner)
      (fun _ _ => True) fun _ _ => True := by
  have claimed {o : Operation} (s s₁) (rely : (provenance calculateSha256).rely t o s s₁)
      (_ : (provenance calculateSha256).inv s₁) (claimed : Claimed s attachment) :
      Claimed s₁ attachment :=
    rely.claimed _ claimed
  unfold promote
  extract_lets cleanObjectKey
  refine .bind (R := fun _ s => Claimed s attachment) ?_ fun _ => ?_
  · refine assures_call
      (M := fun s => Inspected s attachment bytes ∧ (attachment.id, bytes) ∈ s.accepted) ?_ ?_ ?_
    · rintro s s₁ rely - ⟨inspected, accepted⟩
      exact ⟨inspected.undisturbed keyed.watches_copyObject rely, rely.accepted _ accepted⟩
    · rintro s - ⟨inspected, accepted⟩
      exact ⟨attachment, bytes, inspected, accepted, rfl, rfl⟩
    · rintro s _ env - ⟨inspected, -⟩ - - -
      exact inspected.claimed.perform _ env
  refine .bind (R := fun _ s => Claimed s attachment) ?_ fun now => ?_
  · exact provenance_tame.keep rfl claimed fun s env _ claimed => claimed.perform _ env
  refine .bind (R := fun _ _ => True) ?_ fun committed => ?_
  · refine assures_call (M := fun s => Claimed s attachment) claimed ?_
      fun _ _ _ _ _ _ _ _ => trivial
    exact fun s _ claimed => ⟨attachment, claimed, rfl, rfl, rfl, rfl⟩
  split
  · exact (provenance_tame.harmlessly (deleteObject_harmlessly keyed)).bind
      fun _ => .pure fun _ _ => trivial
  · refine .bind (R := fun _ _ => True) (.tryCatch (R := fun _ _ => True) ?_ fun _ =>
      .pure fun _ _ => trivial) fun _ => .pure fun _ _ => trivial
    exact assures_call (M := fun _ => True) (fun _ _ _ _ _ => trivial) (fun _ _ _ => trivial)
      fun _ _ _ _ _ _ _ _ => trivial

lemma scanAttachment_provenance (keyed : Keyed attachment) :
    Assures (provenance calculateSha256) t (fun s => Claimed s attachment)
      (scanAttachment calculateSha256 attachment) (fun _ _ => True) fun _ _ => True := by
  unfold scanAttachment
  refine .bind (R := fun bytes s => Claimed s attachment ∧ Holds s attachment bytes) ?_
    fun bytes => ?_
  · refine assures_call (M := fun s => Claimed s attachment) ?_ (fun _ _ _ => trivial) ?_
    · exact fun s s₁ rely _ claimed => rely.claimed _ claimed
    · intro s bytes env _ claimed _ _ e
      obtain ⟨same, object, found, read⟩ := getObject_ok e
      rw [same]
      refine ⟨claimed, fun object' found' => ?_⟩
      cases found.symm.trans found'
      exact read
  split
  · exact provenance_tame.harmlessly (rejectAndDelete_harmlessly keyed)
  rename_i size
  extract_lets detectedContentType sha256
  split
  · exact provenance_tame.harmlessly (rejectAndDelete_harmlessly keyed)
  rename_i detected
  refine .bind (R := fun scan s => Inspected s attachment bytes ∧
    ∀ scanner, scan = .clean scanner → (attachment.id, bytes) ∈ s.accepted) ?_ fun scan => ?_
  · refine assures_call (M := fun s => Inspected s attachment bytes) ?_ (fun _ _ _ => trivial) ?_
    · rintro s s₁ rely - ⟨claimed, holds⟩
      have inspected : Inspected s attachment bytes :=
        ⟨claimed, not_not.mp size, not_not.mp detected, holds⟩
      exact inspected.undisturbed keyed.watches_scan rely
    · intro s result env _ inspected _ _ e
      have read : (perform (.scan attachment.id bytes) env s).2.objects = s.objects := by
        cases scan_effect e with
        | rows e | accepted _ e | queued e => rw [e]
        | put call | copied call | deleted call | presigned call => cases call
      refine ⟨⟨inspected.claimed.perform _ env, inspected.sizeBytes, inspected.contentType, ?_⟩, ?_⟩
      · intro object found
        rw [read] at found
        exact inspected.holds object found
      · rintro scanner rfl
        simp only [transact, scan] at e
        split at e
        · simp only [Except.ok.injEq, Prod.mk.injEq] at e
          rw [← e.2]
          exact List.mem_append_right _ (List.mem_singleton.mpr rfl)
        · cases e
  cases scan with
  | infected => exact provenance_tame.harmlessly (rejectAndDelete_harmlessly keyed)
  | clean scanner =>
    refine (promote_provenance keyed).mono ?_ (fun _ _ _ => trivial) fun _ _ _ => trivial
    exact fun s holds => ⟨holds.1, holds.2 scanner rfl⟩

/-- Every call of a scan keeps to `PromotesOnly`. -/
lemma process_provenance {job : AttachmentScanJob} {attempt : AttachmentScanAttempt} :
    Assures (provenance calculateSha256) t (fun _ => True) (process calculateSha256 job attempt)
      (fun _ _ => True) fun _ _ => True := by
  unfold process
  refine .bind provenance_tame.claim fun claim => ?_
  cases claim with
  | missing => exact .pure fun _ _ => trivial
  | stale => exact .pure fun _ _ => trivial
  | ready attachment =>
    refine .extract (fun s claimed => (claimed attachment rfl).2) fun keyed => ?_
    refine .tryCatch (R := fun _ _ => True) ?_ fun error =>
      provenance_tame.harmlessly failScan_harmlessly
    exact (scanAttachment_provenance keyed).mono (fun s claimed => (claimed attachment rfl).1)
      (fun _ _ _ => trivial) fun _ _ _ => trivial

end Scan

/-- Nobody supersedes anybody. -/
lemma provenance_governs : Governs (provenance calculateSha256) (fun _ _ => False)
    (UploadsUnscanned calculateSha256) where
  refl _ _ s := ⟨fun _ holds => holds, fun _ mem => mem, fun _ _ _ found => found⟩
  trans first second :=
    ⟨fun a holds => second.claimed a (first.claimed a holds),
      fun x mem => second.accepted x (first.accepted x mem),
      fun key watched object found =>
        first.watched key watched object (second.watched key watched object found)⟩
  keeps inv only _ := inv.perform only _
  allowed _ _ := ⟨not_retired, trivial⟩
  frame {c i j t t' o o' env k k'} guard _ _ only _ at_j _ := by
    refine perform_undisturbed only ?_
    rintro key object rfl effect
    exact guard effect _ (List.mem_of_getElem? at_j)
  start {c t} _ inv _ := by
    have secures : Assures (provenance calculateSha256) t (fun _ => True)
        (t.program calculateSha256) (fun _ _ => True) fun _ _ => True := by
      cases t with
      | delivery job attempt =>
        exact process_provenance.bind fun _ => .pure fun _ _ => trivial
      | _ => exact provenance_tame.harmlessly (requests_harmlessly fun _ _ e => by cases e)
    exact (secures c.store trivial).mono fun _ _ _ => trivial

/-- What is stored under the clean key of an attachment, if anything, is what the scanner and the
    inspection accepted for it, and the row tells its digest and its size. -/
def ServedAsScanned (calculateSha256 : Bytes → String) (s : AttachmentState)
    (r : ProjectAttachment) : Prop :=
  ∃ key, r.cleanObjectKey = some key ∧ ∀ object, s.objects key = some object →
    (r.id, object.bytes) ∈ s.accepted ∧
      detectAttachmentMimeType object.bytes = some r.declaredContentType ∧
      r.detectedContentType = some r.declaredContentType ∧
      r.sha256 = some (calculateSha256 object.bytes) ∧ r.sizeBytes = object.bytes.length

/-- A copy that is about to be made finds what the scanner accepted under its source key, if
    anything. -/
def CopiesAccepted (s : AttachmentState) (sourceKey destinationKey : ObjectKey) : Prop :=
  ∃ bytes, (destinationKey.attachmentId, bytes) ∈ s.accepted ∧
    ∀ object, s.objects sourceKey = some object → object.bytes = bytes

/-- In every run in which nobody writes to the quarantine key of an attachment between the read of a
    scan and its copy, the bytes of every clean attachment are bytes that were accepted for it, with
    the digest and the size on the row, and no execution copies anything else. -/
theorem served_as_scanned {c₀ c : AttachmentConfig} (starts : Starts c₀)
    (run : (attachmentSystem calculateSha256).Reaches (UploadsUnscanned calculateSha256) c₀ c) :
    (∀ id r, c.store.attachment? id = some r → r.status = .clean →
      ServedAsScanned calculateSha256 c.store r) ∧
      ∀ (i : Nat) t sourceKey destinationKey contentType k,
        c.threads[i]? = some ⟨t, .call (.copyObject sourceKey destinationKey contentType) k⟩ →
        CopiesAccepted c.store sourceKey destinationKey := by
  have inv : Provenance calculateSha256 c₀.store := by
    refine ⟨starts.keyedRows, ?_, ?_⟩
    · rw [starts.uploads]
      exact fun _ mem => absurd mem List.not_mem_nil
    · intro workspaceId projectId id sha256 object found
      rw [starts.objects] at found
      cases found
  obtain ⟨s, threads⟩ := c₀
  obtain rfl : threads = [] := starts.threads
  have secured := provenance_governs.secured_reaches (.start inv) run
  constructor
  · intro id r row clean
    have reached : Provenance calculateSha256 c.store := secured.store
    obtain ⟨sha256, digest, key, contentType⟩ := (reached.keyed id r row).clean clean
    refine ⟨_, key, fun object found => ?_⟩
    have vetted := reached.vetted _ _ _ _ object found
    obtain ⟨r', row', size, declared⟩ := vetted.row
    rw [attachment?_id row] at row'
    cases row.symm.trans row'
    refine ⟨vetted.accepted, declared, contentType, ?_, size⟩
    rw [digest, vetted.digest]
  · intro i t sourceKey destinationKey contentType k at_i
    obtain ⟨a, bytes, promotes⟩ := secured.safe provenance_governs at_i not_retired
    refine ⟨bytes, ?_, fun object found => ?_⟩
    · rw [promotes.destinationKey]
      exact promotes.accepted
    · rw [promotes.sourceKey] at found
      exact promotes.inspected.holds object found

section Scenario

/-- `served_as_scanned` for an attachment that was scanned and found clean. -/
theorem served_as_scanned_clean : ∃ c r,
    pdfSystem.Reaches (UploadsUnscanned sha256OfPdfs) freshProject c ∧
      c.store.attachment? 7 = some r ∧ r.status = .clean ∧
      ServedAsScanned sha256OfPdfs c.store r := by
  have run : ((System.executeUnder (S := pdfSystem) (UploadsUnscanned sha256OfPdfs) freshProject
        (uploaded ++ completed 2 ++ delivered 3 7)).any fun c =>
      (c.store.attachment? 7).any fun r => decide (r.status = .clean)) = true := by
    decide
  obtain ⟨c, e, run⟩ := (Option.any_eq_true _ _).mp run
  obtain ⟨r, row, clean⟩ := (Option.any_eq_true _ _).mp run
  have clean := of_decide_eq_true clean
  have reached := System.executeUnder_reaches e
  exact ⟨c, r, reached, row, clean, (served_as_scanned freshProject_starts reached).1 7 r row clean⟩

/-- The uploader (4) replaces the object after the scan (3) has read it and before it is copied. -/
def replaced : List pdfSystem.Move :=
  uploaded ++ completed 2 ++ delivered 3 4 ++ [.spawn (uploadOf secondPdf)] ++ proceeds 4 1 3 ++
    proceeds 3 3 4

/-- Without the condition bytes that nobody scanned are promoted. -/
theorem unscanned_bytes_served :
    ¬ ∀ (calculateSha256 : Bytes → String) (c₀ c : AttachmentConfig) (id : Uuid)
      (r : ProjectAttachment), Starts c₀ →
      (attachmentSystem calculateSha256).Reaches (attachmentSystem calculateSha256).Unguarded c₀ c →
      c.store.attachment? id = some r → r.status = .clean →
      ServedAsScanned calculateSha256 c.store r := by
  intro served
  have run : ((pdfSystem.execute freshProject replaced).any fun c =>
      (c.store.attachment? 7).any fun r => decide (r.status = .clean) &&
        decide (c.store.accepted = [(7, firstPdf)]) &&
        r.cleanObjectKey.all fun key =>
          (c.store.objects key).any fun object => decide (object.bytes = secondPdf)) = true := by
    decide
  obtain ⟨c, e, run⟩ := (Option.any_eq_true _ _).mp run
  simp only [Option.any_eq_true, Bool.and_eq_true, decide_eq_true_eq] at run
  obtain ⟨r, row, ⟨clean, accepted⟩, bytes⟩ := run
  obtain ⟨key, found, scanned⟩ := served sha256OfPdfs freshProject c 7 r freshProject_starts
    (System.execute_reaches e) row clean
  rw [found, Option.all_some] at bytes
  obtain ⟨object, stored, second⟩ := (Option.any_eq_true _ _).mp bytes
  have mem := (scanned object stored).1
  rw [accepted, of_decide_eq_true second, List.mem_singleton, Prod.mk.injEq] at mem
  have distinct : secondPdf ≠ firstPdf := by decide
  exact distinct mem.2

end Scenario

end AtomsPlatform.Attachment
