import AtomsPlatform.Attachment.Rows

/-!
# The status machine of attachments

Every statement that writes a status names the status it expects, with one exception: the statement
by which `completeUpload` expires a late upload addresses the row by its id alone, after an earlier
read. As long as that read is still true when the statement takes effect, statuses move along
`AttachmentStatus.Moves` only; the run at the end shows what happens otherwise.
-/

namespace AtomsPlatform.Attachment
open Interleaving

/-- The moves of the status machine. -/
inductive AttachmentStatus.Moves : AttachmentStatus → AttachmentStatus → Prop where
  | quarantine : Moves .awaitingUpload .quarantined
  | expire : Moves .awaitingUpload .expired
  | failUpload : Moves .awaitingUpload .failed
  | scan : Moves .quarantined .scanning
  | failQueue : Moves .quarantined .failed
  | accept : Moves .scanning .clean
  | reject : Moves .scanning .rejected
  | failScan : Moves .scanning .failed

/-- The statuses that are never left. -/
def AttachmentStatus.absorbing : AttachmentStatus → Bool
  | .clean | .rejected | .expired => true
  | _ => false

/-- Nothing moves out of an absorbing status. -/
lemma AttachmentStatus.Moves.not_absorbing {st st' : AttachmentStatus} (move : st.Moves st') :
    st.absorbing = false := by
  cases move with
  | quarantine | expire | failUpload | scan | failQueue | accept | reject | failScan => rfl

variable {calculateSha256 : Bytes → String}

/-- A late upload is expired only while it is still awaited. -/
def ExpiresAwaited (calculateSha256 : Bytes → String) (c : AttachmentConfig) :
    (attachmentSystem calculateSha256).Label → Prop
  | .act _ (.expireUpload attachmentId) env =>
    Environment.takesEffect env = true →
      c.store.statusOf attachmentId = some .awaitingUpload
  | _ => True

instance (c : AttachmentConfig) : (l : (attachmentSystem calculateSha256).Label) →
    Decidable (ExpiresAwaited calculateSha256 c l)
  | .spawn _ => instDecidableTrue
  | .act i o env => by
    apply Operation.casesOn (motive := fun o => Decidable (ExpiresAwaited calculateSha256 c (.act i o env))) o <;>
      intros <;> dsimp only [ExpiresAwaited] <;> infer_instance

/-- From one store to another, every status made at most one move, and what is new is awaited. -/
structure StatusStep (s s' : AttachmentState) : Prop where
  moves : ∀ id st, s.statusOf id = some st →
    ∃ st', s'.statusOf id = some st' ∧ (st' = st ∨ st.Moves st')
  fresh : ∀ id st', s.statusOf id = none → s'.statusOf id = some st' → st' = .awaitingUpload

lemma statusOf_eq {s : AttachmentState} {id : Uuid} {st : AttachmentStatus} :
    s.statusOf id = some st ↔ ∃ r, s.attachment? id = some r ∧ r.status = st :=
  Option.map_eq_some_iff

/-- All changes of a row are moves, except that an expiry is one only for an awaited upload. -/
lemma AttachmentChange.moves {o : Operation} {r r' : ProjectAttachment}
    (change : AttachmentChange o r r')
    (awaited : o = .expireUpload r.id → r' = r ∨ r.status = .awaitingUpload) :
    r'.status = r.status ∨ r.status.Moves r'.status := by
  cases change with
  | kept e => exact .inl (by rw [e])
  | expired call e =>
    obtain same | status := awaited call
    · exact .inl (by rw [same])
    · rw [e, status]
      exact .inr .expire
  | quarantined _ status e =>
    rw [e, status]
    exact .inr .quarantine
  | @givenUp _ _ _ expectedStatus _ status e =>
    rw [e, status]
    cases expectedStatus with
    | awaitingUpload => exact .inr .failUpload
    | quarantined => exact .inr .failQueue
  | claimed _ status e =>
    rw [e, status]
    exact .inr .scan
  | cleaned _ _ status _ e =>
    rw [e, status]
    exact .inr .accept
  | @finished _ final _ _ status _ e =>
    rw [e, status]
    cases final with
    | rejected => exact .inr .reject
    | failed => exact .inr .failScan

/-- The step lemma: one call moves statuses along the machine. -/
lemma perform_statusStep {o : Operation} {env : Environment} {s : AttachmentState}
    (awaited : ∀ id, o = .expireUpload id → env.takesEffect = true →
      s.statusOf id = some .awaitingUpload) :
    StatusStep s (perform o env s).2 := by
  constructor
  · intro id st status
    obtain ⟨r, row, rfl⟩ := statusOf_eq.mp status
    obtain ⟨r', row', change⟩ := (perform_attachments o env s id).change r row
    refine ⟨r'.status, statusOf_eq.mpr ⟨r', row', rfl⟩, change.moves ?_⟩
    intro expires
    cases effect : env.takesEffect with
    | false =>
      rw [perform_aborted effect, row] at row'
      exact .inl (Option.some.inj row').symm
    | true =>
      have here := attachment?_id row
      rw [here] at expires
      exact .inr (Option.some.inj (status.symm.trans (awaited id expires effect)))
  · intro id st' absent status
    obtain ⟨r', row', rfl⟩ := statusOf_eq.mp status
    exact ((perform_attachments o env s id).fresh r' (Option.map_eq_none_iff.mp absent) row').status

/-- One step of a run moves statuses along the machine. -/
lemma statusStep_of_step {c c' : AttachmentConfig} {l : (attachmentSystem calculateSha256).Label}
    (guard : ExpiresAwaited calculateSha256 c l)
    (step : (attachmentSystem calculateSha256).Step c l c') : StatusStep c.store c'.store := by
  cases step with
  | @act i tag o k ch at_i =>
    refine perform_statusStep ?_
    rintro id rfl effect
    exact guard effect
  | spawn =>
    exact ⟨fun _ st status => ⟨st, status, .inl rfl⟩, fun _ _ absent status => by
      rw [absent] at status
      cases status⟩

/-- Every run in which late uploads are expired only while they are awaited moves the statuses along
    the machine: a step makes at most one move, new attachments are awaited, and an attachment that
    is clean, rejected or expired stays so forever. -/
theorem attachment_status_machine {c₀ c : AttachmentConfig}
    (run : (attachmentSystem calculateSha256).Reaches (ExpiresAwaited calculateSha256) c₀ c) :
    (∀ l c', ExpiresAwaited calculateSha256 c l → (attachmentSystem calculateSha256).Step c l c' →
      StatusStep c.store c'.store) ∧
      ∀ id st, st.absorbing = true → c₀.store.statusOf id = some st →
        c.store.statusOf id = some st := by
  refine ⟨fun l c' guard step => statusStep_of_step guard step, ?_⟩
  intro id st final status
  refine run.invariant (P := fun c => c.store.statusOf id = some st) ?_ status
  intro c l c' status guard step
  obtain ⟨st', status', rfl | move⟩ := (statusStep_of_step guard step).moves id st status
  · exact status'
  · rw [move.not_absorbing] at final
    cases final

section Scenario

/-- `attachment_status_machine` for an attachment that was uploaded, scanned and found clean. -/
theorem attachment_status_machine_clean : ∃ c c' : AttachmentConfig,
    c.store.statusOf 7 = some .clean ∧
      pdfSystem.Reaches (ExpiresAwaited sha256OfPdfs) c c' ∧ c'.store.statusOf 7 = some .clean := by
  have run : ((System.executeUnder (S := pdfSystem) (ExpiresAwaited sha256OfPdfs) freshProject
        (uploaded ++ completed 2 ++ delivered 3 7)).any fun c =>
      decide (c.store.statusOf 7 = some .clean) &&
        (System.executeUnder (S := pdfSystem) (ExpiresAwaited sha256OfPdfs) c
          (delivered 4 1)).isSome) = true := by
    decide
  obtain ⟨c, e, run⟩ := (Option.any_eq_true _ _).mp run
  simp only [Bool.and_eq_true, decide_eq_true_eq, Option.isSome_iff_exists] at run
  obtain ⟨status, c', e'⟩ := run
  have later := System.executeUnder_reaches e'
  exact ⟨c, c', status, later, (attachment_status_machine later).2 7 .clean rfl status⟩

/-- A second completion request (2) reads the attachment while it is awaited, but late; meanwhile
    the first one (3) completes the upload, and the scan (4) finds it clean. -/
def lateCompletion : List pdfSystem.Move :=
  uploaded ++ [.spawn (.completion 1 1 7 none)] ++ proceeds 2 4 900000 ++ completed 3 ++
    delivered 4 7

/-- Without the condition a clean attachment can expire. -/
theorem clean_attachment_expires :
    ¬ ∀ (calculateSha256 : Bytes → String) (c₀ c c' : AttachmentConfig)
      (l : (attachmentSystem calculateSha256).Label), Starts c₀ →
      (attachmentSystem calculateSha256).Reaches (attachmentSystem calculateSha256).Unguarded c₀ c →
      (attachmentSystem calculateSha256).Step c l c' → StatusStep c.store c'.store := by
  intro machine
  have run : ((pdfSystem.execute freshProject lateCompletion).any fun c =>
      decide (c.store.statusOf 7 = some .clean) &&
        (pdfSystem.next c (.act 2 {})).any fun c' =>
          decide (c'.store.statusOf 7 = some .expired)) = true := by
    decide
  obtain ⟨c, e, run⟩ := (Option.any_eq_true _ _).mp run
  simp only [Bool.and_eq_true, Option.any_eq_true, decide_eq_true_eq] at run
  obtain ⟨clean, c', e', expired⟩ := run
  obtain ⟨l, step⟩ := System.next_step e'
  have moved := machine sha256OfPdfs freshProject c c' l freshProject_starts
    (System.execute_reaches e) step
  obtain ⟨st, status, rfl | move⟩ := moved.moves 7 .clean clean
  · cases expired.symm.trans status
  · cases move

end Scenario

end AtomsPlatform.Attachment
