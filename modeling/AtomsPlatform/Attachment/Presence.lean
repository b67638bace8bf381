import AtomsPlatform.Attachment.Claims

/-!
# Clean attachments have their object

Two executions of one scan copy to the same clean key, because the key is built from the digest. The
one that comes second deletes "its" copy again, which is the object of the first. As long as no
`completeClean` is refused by an attachment that is clean under the very key it would have written,
what is deleted is abandoned: the row has come to its end without that key, and nothing brings it back.
-/

namespace AtomsPlatform.Attachment
open Interleaving

/-- The scan of an attachment is over, or it never came to one. -/
def AttachmentStatus.settled : AttachmentStatus → Bool
  | .clean | .rejected | .failed | .expired => true
  | .awaitingUpload | .quarantined | .scanning => false

namespace AttachmentState

/-- Whether the attachment a key was built for is clean under this key. -/
def cleanUnder (s : AttachmentState) (key : ObjectKey) : Bool :=
  (s.attachment? key.attachmentId).any fun r => r.status = .clean ∧ r.cleanObjectKey = some key

end AttachmentState

section Abandonment
variable {s s' : AttachmentState} {key : ObjectKey} {o : Operation}

lemma cleanUnder_iff : s.cleanUnder key = true ↔ ∃ r, s.attachment? key.attachmentId = some r ∧
    r.status = .clean ∧ r.cleanObjectKey = some key := by
  simp [AttachmentState.cleanUnder, Option.any_eq_true]

/-- The attachment a key was built for has come to its end without it. -/
def Abandoned (s : AttachmentState) (key : ObjectKey) : Prop :=
  ∃ r, s.attachment? key.attachmentId = some r ∧ r.status.settled = true ∧
    ¬ (r.status = .clean ∧ r.cleanObjectKey = some key)

/-- There is an object under a key, or none will be needed. -/
def Present (s : AttachmentState) (key : ObjectKey) : Prop :=
  (s.objects key).isSome = true ∨ Abandoned s key

lemma Abandoned.not_cleanUnder (abandoned : Abandoned s key) : s.cleanUnder key = false := by
  obtain ⟨r, row, -, other⟩ := abandoned
  by_contra clean
  obtain ⟨r', row', both⟩ := cleanUnder_iff.mp (eq_true_of_ne_false clean)
  cases row.symm.trans row'
  exact other both

/-- What is abandoned stays abandoned. -/
lemma Abandoned.perform (abandoned : Abandoned s key) (o : Operation) (env : Environment) :
    Abandoned (perform o env s).2 key := by
  obtain ⟨r, row, settled, other⟩ := abandoned
  obtain ⟨r', row', change⟩ := (perform_attachments o env s _).change r row
  refine ⟨r', row', ?_⟩
  cases change with
  | kept e =>
    rw [e]
    exact ⟨settled, other⟩
  | expired _ e =>
    rw [e]
    exact ⟨rfl, fun both => by cases both.1⟩
  | givenUp _ _ e =>
    rw [e]
    exact ⟨rfl, fun both => by cases both.1⟩
  | quarantined _ status _ =>
    rw [status] at settled
    cases settled
  | claimed _ status _ =>
    rw [status] at settled
    cases settled
  | cleaned _ _ status _ _ =>
    rw [status] at settled
    cases settled
  | finished _ _ status _ _ =>
    rw [status] at settled
    cases settled

end Abandonment

variable {calculateSha256 : Bytes → String}

/-- No scan is refused its commit by an attachment that is clean under the key it was to write. -/
def PromotesOnce (calculateSha256 : Bytes → String) (c : AttachmentConfig) :
    (attachmentSystem calculateSha256).Label → Prop
  | .act _ (.completeClean input) env =>
    Environment.fate env = .commits → c.store.cleanUnder input.cleanObjectKey = false
  | _ => True

instance (c : AttachmentConfig) : (l : (attachmentSystem calculateSha256).Label) →
    Decidable (PromotesOnce calculateSha256 c l)
  | .spawn _ => instDecidableTrue
  | .act i o env => by
    apply Operation.casesOn (motive := fun o => Decidable (PromotesOnce calculateSha256 c (.act i o env))) o <;>
      intros <;> dsimp only [PromotesOnce] <;> infer_instance

/-- What a scan may do to objects: it commits a key that is present, and deletes abandoned ones. -/
def KeepsPresent : Operation → AttachmentState → Prop
  | .completeClean input, s => (∃ a, Commits s input a) ∧ Present s input.cleanObjectKey
  | .deleteObject key, s => key.isClean = true → Abandoned s key
  | _, _ => True

/-- What a scan relies on between its calls. -/
structure Persists (s s' : AttachmentState) : Prop where
  claimed : ∀ a, Claimed s a → Claimed s' a
  abandoned : ∀ key, Abandoned s key → Abandoned s' key
  present : ∀ key, key.isClean = true → Present s key → Present s' key

/-- The objects of clean attachments are there. -/
structure ObjectsPresent (s : AttachmentState) : Prop where
  keyed : KeyedRows s
  present : ∀ key, s.cleanUnder key = true → (s.objects key).isSome = true

section Steps
variable {s : AttachmentState} {o : Operation}

/-- A call that keeps to `KeepsPresent` is what others rely on. -/
lemma perform_persists (keeps : KeepsPresent o s) (env : Environment) :
    Persists s (perform o env s).2 := by
  refine ⟨fun a claimed => claimed.perform o env, fun key abandoned => abandoned.perform o env, ?_⟩
  rintro key clean (object | abandoned)
  · cases perform_objects o env s key with
    | kept same =>
      left
      rw [same]
      exact object
    | put _ _ found =>
      left
      rw [found]
      rfl
    | copied _ _ found =>
      left
      rw [found]
      rfl
    | deleted call _ =>
      subst call
      exact .inr ((keeps clean).perform _ env)
  · exact .inr (abandoned.perform o env)

/-- The step lemma of the invariant. -/
lemma ObjectsPresent.perform (inv : ObjectsPresent s) (keeps : KeepsPresent o s)
    (env : Environment) : ObjectsPresent (perform o env s).2 := by
  have commits : ∀ input, o = .completeClean input → ∃ a, Commits s input a := by
    rintro input rfl
    exact keeps.1
  refine ⟨inv.keyed.perform commits env, ?_⟩
  intro key clean
  obtain ⟨r', row', status, found⟩ := cleanUnder_iff.mp clean
  have step := perform_attachments o env s key.attachmentId
  cases row : s.attachment? key.attachmentId with
  | none =>
    rw [(step.fresh r' row row').status] at status
    cases status
  | some r =>
    obtain ⟨r₁, row₁, change⟩ := step.change r row
    cases row₁.symm.trans row'
    cases change with
    | kept e =>
      -- the row was clean before, so nothing is allowed to delete its object
      subst e
      have before := cleanUnder_iff.mpr ⟨_, row, status, found⟩
      have object := inv.present key before
      cases perform_objects o env s key with
      | kept same => rwa [same]
      | put _ _ found => rw [found]; rfl
      | copied _ _ found => rw [found]; rfl
      | deleted call _ =>
        subst call
        obtain ⟨sha256, -, keyed, -⟩ := (inv.keyed _ _ row).clean status
        have isClean : key.isClean = true := by
          cases found.symm.trans keyed
          rfl
        rw [(keeps isClean).not_cleanUnder] at before
        cases before
    | @cleaned input call _ scanning _ e =>
      -- the row becomes clean under a key that is present
      subst call
      rw [e] at found
      cases found
      obtain object | ⟨r₂, row₂, settled, -⟩ := keeps.2
      · cases perform_objects (.completeClean input) env s input.cleanObjectKey with
        | kept same => rwa [same]
        | put call | copied call | deleted call => cases call
      · cases row.symm.trans row₂
        rw [scanning] at settled
        cases settled
    | expired _ e | quarantined _ _ e | givenUp _ _ e | claimed _ _ e =>
      rw [e] at status
      cases status
    | @finished _ final _ _ _ _ e =>
      rw [e] at status
      cases final <;> cases status

end Steps

/-- The conditions under which executions of a scan are judged. -/
def presence (calculateSha256 : Bytes → String) : Regime (attachmentSystem calculateSha256) where
  inv := ObjectsPresent
  rely _ _ := Persists
  safe _ := KeepsPresent
  allows _ o env s := ∀ input, o = .completeClean input → Environment.fate env = .commits →
    s.cleanUnder input.cleanObjectKey = false

lemma presence_tame : Tame (presence calculateSha256) where
  keyed inv := inv.keyed
  claimed rely := rely.claimed _
  harmless {t o s} harmless := by
    cases o with
    | completeClean => cases harmless
    | deleteObject key =>
      intro clean
      simp [Operation.harmless, clean] at harmless
    | _ => trivial

section Scan
variable {t : Activity}

/-- A clean key is present once it was copied to, as long as the copy is not deleted. -/
lemma promote_presence {attachment : ProjectAttachment} {verifiedContentType : AttachmentMimeType}
    {sha256 scanner : String} (keyed : Keyed attachment)
    (declared : verifiedContentType = attachment.declaredContentType) :
    Assures (presence calculateSha256) t (fun s => Claimed s attachment)
      (promote attachment verifiedContentType sha256 scanner) (fun _ _ => True)
      fun _ _ => True := by
  unfold promote
  extract_lets cleanObjectKey
  have key : cleanObjectKey = attachment.cleanKey sha256 := rfl
  have clean : cleanObjectKey.isClean = true := rfl
  refine .bind (R := fun _ s => Claimed s attachment ∧ Present s cleanObjectKey) ?_ fun _ => ?_
  · refine assures_call (M := fun s => Claimed s attachment) ?_ (fun _ _ _ => trivial) ?_
    · exact fun s s₁ rely _ claimed => rely.claimed _ claimed
    · intro s _ env inv claimed _ _ e
      refine ⟨claimed.perform _ env, .inl ?_⟩
      simp only [transact, copyObject] at e
      split at e
      · cases e
      · simp only [Except.ok.injEq, Prod.mk.injEq, true_and] at e
        rw [← e, putAt_self]
        rfl
  refine .bind (R := fun _ s => Claimed s attachment ∧ Present s cleanObjectKey) ?_ fun now => ?_
  · refine presence_tame.keep rfl ?_ ?_
    · exact fun s s₁ rely _ holds => ⟨rely.claimed _ holds.1, rely.present _ clean holds.2⟩
    · rintro s env inv ⟨claimed, present⟩
      have kept := perform_persists (o := .now) (s := s) trivial env
      exact ⟨kept.claimed _ claimed, kept.present _ clean present⟩
  -- a refused commit means that the row has come to its end without the key
  refine .bind (R := fun committed s => committed = false → Abandoned s cleanObjectKey) ?_
    fun committed => ?_
  · refine assures_call (M := fun s => Claimed s attachment ∧ Present s cleanObjectKey) ?_ ?_ ?_
    · exact fun s s₁ rely _ holds => ⟨rely.claimed _ holds.1, rely.present _ clean holds.2⟩
    · rintro s _ ⟨claimed, present⟩
      exact ⟨⟨attachment, claimed, rfl, rfl, declared, key⟩, present⟩
    · rintro s committed env inv ⟨⟨r, row, same, started⟩, -⟩ allowed commits e refused
      refine Abandoned.perform ?_ _ env
      have other := allowed _ rfl commits
      simp only [transact, completeClean, Except.ok.injEq, Prod.mk.injEq] at e
      have owned := e.1
      rw [refused, owns_row row] at owned
      refine ⟨r, row, ?_, ?_⟩
      · cases status : r.status with
        | awaitingUpload | quarantined =>
          rw [status] at started
          cases started
        | scanning =>
          have scanning := isScanning_iff.mpr ⟨status, same.scanVersion⟩
          rw [scanning] at owned
          cases owned
        | clean | rejected | failed | expired => rfl
      · intro both
        have under : s.cleanUnder cleanObjectKey = true := cleanUnder_iff.mpr ⟨r, row, both⟩
        rw [other] at under
        cases under
  split
  · exact (presence_tame.harmlessly (deleteObject_harmlessly keyed)).bind fun _ => .pure fun _ _ => trivial
  · rename_i refused
    have refused := eq_false_of_ne_true refused
    refine .bind (R := fun _ _ => True) (.tryCatch (R := fun _ _ => True) ?_ fun _ =>
      .pure fun _ _ => trivial) fun _ => .pure fun _ _ => trivial
    refine assures_call (M := fun s => Abandoned s cleanObjectKey) ?_ ?_ fun _ _ _ _ _ _ _ _ => trivial
    · exact fun s s₁ rely _ abandoned => rely.abandoned _ (abandoned refused)
    · exact fun s _ abandoned _ => abandoned

lemma scanAttachment_presence {attachment : ProjectAttachment} (keyed : Keyed attachment) :
    Assures (presence calculateSha256) t (fun s => Claimed s attachment)
      (scanAttachment calculateSha256 attachment) (fun _ _ => True) fun _ _ => True := by
  have keep {o : Operation} (harmless : o.harmless = true) :
      Assures (presence calculateSha256) t (fun s => Claimed s attachment) (call o)
        (fun _ s => Claimed s attachment) fun _ _ => True := by
    refine presence_tame.keep harmless ?_ ?_
    · exact fun s s₁ rely _ claimed => rely.claimed _ claimed
    · exact fun s env _ claimed => claimed.perform _ env
  unfold scanAttachment
  refine .bind (keep rfl) fun bytes => ?_
  split
  · exact presence_tame.harmlessly (rejectAndDelete_harmlessly keyed)
  extract_lets detectedContentType sha256
  split
  · exact presence_tame.harmlessly (rejectAndDelete_harmlessly keyed)
  refine .bind (keep rfl) fun scan => ?_
  cases scan with
  | infected => exact presence_tame.harmlessly (rejectAndDelete_harmlessly keyed)
  | clean => exact promote_presence keyed rfl

/-- Every call of a scan keeps to `KeepsPresent`. -/
lemma process_presence {job : AttachmentScanJob} {attempt : AttachmentScanAttempt} :
    Assures (presence calculateSha256) t (fun _ => True) (process calculateSha256 job attempt)
      (fun _ _ => True) fun _ _ => True := by
  unfold process
  refine .bind presence_tame.claim fun claim => ?_
  cases claim with
  | missing => exact .pure fun _ _ => trivial
  | stale => exact .pure fun _ _ => trivial
  | ready attachment =>
    refine .extract (fun s claimed => (claimed attachment rfl).2) fun keyed => ?_
    refine .tryCatch (R := fun _ _ => True) ?_ fun error =>
      presence_tame.harmlessly failScan_harmlessly
    exact (scanAttachment_presence keyed).mono (fun s claimed => (claimed attachment rfl).1)
      (fun _ _ _ => trivial) fun _ _ _ => trivial

end Scan

/-- Nobody supersedes anybody. -/
lemma presence_governs : Governs (presence calculateSha256) (fun _ _ => False)
    (PromotesOnce calculateSha256) where
  refl _ _ s := ⟨fun _ holds => holds, fun _ holds => holds, fun _ _ holds => holds⟩
  trans first second :=
    ⟨fun a holds => second.claimed a (first.claimed a holds),
      fun key holds => second.abandoned key (first.abandoned key holds),
      fun key clean holds => second.present key clean (first.present key clean holds)⟩
  keeps inv safe _ := inv.perform safe _
  allowed {c i o env t k} guard _ := by
    refine ⟨not_retired, ?_⟩
    rintro input rfl
    exact guard
  frame _ _ _ safe _ _ _ := perform_persists safe _
  start {c t} _ inv _ := by
    have secures : Assures (presence calculateSha256) t (fun _ => True)
        (t.program calculateSha256) (fun _ _ => True) fun _ _ => True := by
      cases t with
      | delivery job attempt =>
        exact process_presence.bind fun _ => .pure fun _ _ => trivial
      | _ => exact presence_tame.harmlessly (requests_harmlessly fun _ _ e => by cases e)
    exact (secures c.store trivial).mono fun _ _ _ => trivial

/-- In every run in which no scan is refused its commit by an attachment that is clean under the key
    it was to write, every clean attachment has its object, however many executions of its scan there
    were and however they were interleaved. -/
theorem clean_attachment_has_object {c₀ c : AttachmentConfig} (starts : Starts c₀)
    (run : (attachmentSystem calculateSha256).Reaches (PromotesOnce calculateSha256) c₀ c)
    {id : Uuid} {r : ProjectAttachment} (row : c.store.attachment? id = some r)
    (clean : r.status = .clean) :
    ∃ key, r.cleanObjectKey = some key ∧ (c.store.objects key).isSome = true := by
  have inv : ObjectsPresent c₀.store := by
    refine ⟨starts.keyedRows, fun key under => ?_⟩
    obtain ⟨r, row, -⟩ := cleanUnder_iff.mp under
    simp only [AttachmentState.attachment?, starts.attachments, Table.lookup_nil] at row
    cases row
  obtain ⟨s, threads⟩ := c₀
  obtain rfl : threads = [] := starts.threads
  have reached := (presence_governs.secured_reaches (.start inv) run).store
  obtain ⟨sha256, -, found, -⟩ := (reached.keyed id r row).clean clean
  refine ⟨_, found, reached.present _ (cleanUnder_iff.mpr ⟨r, ?_, clean, found⟩)⟩
  show c.store.attachment? r.id = some r
  rwa [attachment?_id row]

section Scenario

/-- Two executions (3 and 4) of one scan copy the object; the second one comes first. -/
def redelivered : List pdfSystem.Move :=
  uploaded ++ completed 2 ++ delivered 3 5 ++ delivered 4 7

/-- `clean_attachment_has_object` for an attachment that was scanned by two executions. -/
theorem clean_attachment_has_object_redelivered : ∃ c r, ∃ key,
    pdfSystem.Reaches (PromotesOnce sha256OfPdfs) freshProject c ∧
      c.store.attachment? 7 = some r ∧ r.status = .clean ∧ r.cleanObjectKey = some key ∧
      (c.store.objects key).isSome = true := by
  have run : ((System.executeUnder (S := pdfSystem) (PromotesOnce sha256OfPdfs) freshProject
        redelivered).any fun c =>
      (c.store.attachment? 7).any fun r => decide (r.status = .clean)) = true := by
    decide
  obtain ⟨c, e, run⟩ := (Option.any_eq_true _ _).mp run
  obtain ⟨r, row, clean⟩ := (Option.any_eq_true _ _).mp run
  have clean := of_decide_eq_true clean
  have reached := System.executeUnder_reaches e
  obtain ⟨key, found, object⟩ :=
    clean_attachment_has_object freshProject_starts reached row clean
  exact ⟨c, r, key, reached, row, clean, found, object⟩

/-- Without the condition the execution that comes second deletes the object of the first. -/
theorem clean_attachment_loses_object :
    ¬ ∀ (calculateSha256 : Bytes → String) (c₀ c : AttachmentConfig) (id : Uuid)
      (r : ProjectAttachment), Starts c₀ →
      (attachmentSystem calculateSha256).Reaches (attachmentSystem calculateSha256).Unguarded c₀ c →
      c.store.attachment? id = some r → r.status = .clean →
      ∃ key, r.cleanObjectKey = some key ∧ (c.store.objects key).isSome = true := by
  intro present
  have run : ((pdfSystem.execute freshProject (redelivered ++ proceeds 3 3 4)).any fun c =>
      (c.store.attachment? 7).any fun r => decide (r.status = .clean) &&
        r.cleanObjectKey.all fun key => (c.store.objects key).isNone) = true := by
    decide
  obtain ⟨c, e, run⟩ := (Option.any_eq_true _ _).mp run
  simp only [Option.any_eq_true, Bool.and_eq_true, decide_eq_true_eq] at run
  obtain ⟨r, row, clean, gone⟩ := run
  obtain ⟨key, found, object⟩ := present sha256OfPdfs freshProject c 7 r freshProject_starts
    (System.execute_reaches e) row clean
  rw [found, Option.all_some, Option.isNone_iff_eq_none] at gone
  rw [gone] at object
  cases object

end Scenario

end AtomsPlatform.Attachment
