import AtomsPlatform.Database.Worker

/-!
# Deletion of a managed database

A delete request moves an instance to DELETING under a new operation version, and what was dispatched
before is fenced off by that version. `provisionFence` is the version below which every provision job
of the instance stays, wherever it is held; it never decreases (phase one, any run). Once the instance
is DELETING at version `D`, no provision job of version `D` or later comes into being, unless a sweep
finds the instance FAILED with a retryable error and takes the failed deletion for a failed
provisioning (phase two, guarded runs).
-/

namespace AtomsPlatform.Database
open Interleaving

/-- Programs hold provision jobs of the instance, and the records claimed for them, only for versions
    below `D`. -/
def deletionContract (id : Uuid) (D : Nat) :
    Contract Operation fun o => Except Failure o.Answer where
  requires
    | .enqueue job | .claim job _ =>
      job.databaseInstanceId = id → job.command = .provision → job.operationVersion < D
    | .recordProvisioned database _ _ | .startMigration database _
    | .completeMigration database _ _ =>
      database.id = id → database.operationVersion < D
    | _ => True
  ensures
    | .claim job _, .ok (.ready database) => Carries job database
    | .createDatabaseOperation .., .ok (.ok database false) =>
      database.id = id → database.operationVersion < D
    | .recoverStaleOperations _, .ok plan =>
      ∀ job ∈ plan.dispatches, job.databaseInstanceId = id → job.command = .provision →
        job.operationVersion < D
    | _, _ => True

section Programs
variable {id : Uuid} {D : Nat} {database : DatabaseExecutionRecord}

/-- The contract of a delivery is stronger than that of the deletion, if its job is fenced. -/
lemma process_deletion {job : DatabaseOperationJob} {attempt maxAttempts healthAttempts : Nat}
    (fenced : job.databaseInstanceId = id → job.command = .provision → job.operationVersion < D) :
    Yields (deletionContract id D) (process job attempt maxAttempts healthAttempts)
      fun _ => True := by
  have older {database : DatabaseExecutionRecord}
      (carries : Carries job database ∧ job.command = .provision) :
      database.id = id → database.operationVersion < D := by
    intro eq
    rw [carries.1.operationVersion]
    exact fenced (carries.1.id.symm.trans eq) carries.2
  refine Prog.Meets.weaken process_worker ?_ ?_
  · intro o requires
    cases o with
    | claim job' now =>
      cases requires
      exact fenced
    | recordProvisioned database result now => exact older requires
    | startMigration database now => exact older requires
    | completeMigration database reports now => exact older requires
    | enqueue job => exact requires.elim
    | _ => trivial
  · intro o r requires ens
    cases o with
    | claim job' now =>
      cases r with
      | error error => trivial
      | ok r =>
        cases r with
        | ready database => exact ens
        | missing => trivial
        | stale status => trivial
    | _ => trivial

lemma authorize_deletion {userId projectId : Uuid} :
    Yields (deletionContract id D) (authorize userId projectId) fun _ => True := by
  refine .step trivial fun membership _ => ?_
  cases membership with
  | none => exact .throw
  | some membership =>
    simp only [requireAdministrativeRole]
    cases membership.role with
    | owner => exact .pure trivial
    | admin => exact .pure trivial
    | member => exact .throw

lemma enqueueOrMarkFailed_deletion {record : DatabaseInstanceRecord}
    {command : DatabaseOperationCommand} {unavailable : String}
    (fenced : record.id = id → command = .provision → record.operationVersion < D) :
    Yields (deletionContract id D) (enqueueOrMarkFailed record command unavailable)
      fun _ => True := by
  refine .tryCatch (.call fenced fun _ _ => trivial) fun error => ?_
  refine .step trivial fun now _ => ?_
  refine .step trivial fun _ _ => ?_
  exact .throw

lemma requestDatabase_deletion {userId projectId : Uuid} {key : String}
    {input : ProvisionDatabaseInput} {now : Date} :
    Yields (deletionContract id D) (requestDatabase userId projectId key input now) fun r =>
      ∀ record, r = .ok record false → record.id = id → record.operationVersion < D := by
  refine .tryCatch (.call trivial ?_) fun error => ?_
  · intro r ens record e
    subst e
    exact ens
  · split
    · refine .step trivial fun existing _ => ?_
      cases existing with
      | none => exact .throw
      | some existing =>
        simp only [replay]
        split
        · rename_i answer e
          refine .pure ?_
          rintro record rfl
          split at e
          · cases r : toDatabaseRecord existing <;> simp [r, Except.map] at e
          · cases e
        · exact .throw
    · exact .throw

lemma provisionProjectDatabase_deletion {userId projectId : Uuid} {key : String}
    {input : ProvisionDatabaseInput} :
    Yields (deletionContract id D) (provisionProjectDatabase userId projectId key input)
      fun _ => True := by
  refine .bind authorize_deletion fun _ _ => ?_
  refine .step trivial fun now _ => ?_
  refine .bind requestDatabase_deletion fun r created => ?_
  cases r with
  | ok record replayed =>
    dsimp only
    split
    · rename_i queued
      obtain ⟨rfl, -⟩ := queued
      exact .bind (enqueueOrMarkFailed_deletion fun eq _ => created record rfl eq)
        fun _ _ => .pure trivial
    · exact .pure trivial
  | projectNotFound => exact .throw
  | artifactNotFound => exact .throw
  | destructiveApprovalRequired => exact .throw
  | idempotencyConflict => exact .throw

lemma controlProjectDatabase_deletion {userId projectId databaseInstanceId : Uuid} :
    Yields (deletionContract id D) (controlProjectDatabase userId projectId databaseInstanceId)
      fun _ => True := by
  refine .bind authorize_deletion fun _ _ => ?_
  refine .step trivial fun now _ => ?_
  refine .step trivial fun r _ => ?_
  cases r with
  | ok record =>
    dsimp only
    split
    · exact .bind (enqueueOrMarkFailed_deletion fun _ command => nomatch command)
        fun _ _ => .pure trivial
    · exact .pure trivial
  | notFound => exact .throw
  | invalidStatus status => exact .throw

lemma dispatchRecovery_deletion {jobs : List DatabaseOperationJob}
    (fenced : ∀ job ∈ jobs, job.databaseInstanceId = id → job.command = .provision →
      job.operationVersion < D) :
    Yields (deletionContract id D) (dispatchRecovery jobs) fun _ => True := by
  induction jobs with
  | nil => exact .pure trivial
  | cons job jobs ih =>
    refine .bind (P := fun _ => True) (.tryCatch ?_ fun error => ?_) fun _ _ => ?_
    · exact .call (fenced job List.mem_cons_self) fun _ _ => trivial
    · refine .step trivial fun now _ => ?_
      refine .bind (P := fun _ => True) ?_ fun _ _ => .throw
      refine .step trivial fun current _ => ?_
      cases current with
      | none => exact .pure trivial
      | some current => exact .call trivial fun _ _ => trivial
    · refine .bind (ih fun j mem => fenced j (List.mem_cons_of_mem _ mem)) fun n _ => ?_
      exact .pure trivial

lemma checkTracked_deletion {sweepId : Uuid} {present : List String}
    {tracked : List TrackedDatabaseResource} :
    Yields (deletionContract id D) (checkTracked sweepId present tracked) fun _ => True := by
  induction tracked with
  | nil => exact .pure trivial
  | cons resource tracked ih =>
    refine .step trivial fun now _ => ?_
    split
    · exact .step trivial fun _ _ => ih
    · refine .step trivial fun _ _ => ?_
      exact .bind ih fun missing _ => .pure trivial

lemma cleanUpOrphan_deletion {options : ReconcilerOptions} {sweepId : Uuid}
    {resource : ManagedDatabaseResource} {observation : OrphanResourceObservation} :
    Yields (deletionContract id D) (cleanUpOrphan options sweepId resource observation)
      fun _ => True := by
  refine .step trivial fun now _ => ?_
  dsimp only
  split
  · refine .step trivial fun now _ => ?_
    refine .step trivial fun claimed _ => ?_
    cases claimed with
    | false => exact .pure trivial
    | true =>
      refine .bind (P := fun _ => True) (.tryCatch ?_ fun error => ?_) fun _ _ => ?_
      · exact .call trivial fun _ _ => trivial
      · refine .step trivial fun now _ => ?_
        exact .step trivial fun _ _ => .throw
      · refine .step trivial fun now _ => ?_
        exact .step trivial fun _ _ => .pure trivial
  · exact .pure trivial

lemma checkOrphans_deletion {options : ReconcilerOptions} {sweepId : Uuid} {tracked : List String}
    {resources : List ManagedDatabaseResource} :
    Yields (deletionContract id D) (checkOrphans options sweepId tracked resources)
      fun _ => True := by
  induction resources with
  | nil => exact .pure trivial
  | cons resource resources ih =>
    refine .step trivial fun now _ => ?_
    split
    · exact .step trivial fun _ _ => ih
    · refine .step trivial fun observation _ => ?_
      refine .bind cleanUpOrphan_deletion fun cleaned _ => ?_
      exact .bind ih fun counts _ => .pure trivial

lemma reconcile_deletion {options : ReconcilerOptions} :
    Yields (deletionContract id D) (reconcile options) fun _ => True := by
  refine .step trivial fun startedAt _ => ?_
  refine .bind (P := fun _ => True) (.tryCatch ?_ fun error => ?_) fun begun _ => ?_
  · exact .step trivial fun sweepId _ => .pure trivial
  · split
    · exact .pure trivial
    · exact .throw
  cases begun with
  | none => exact .pure trivial
  | some sweepId =>
    refine .bind (P := fun _ => True) (.tryCatch ?_ fun error => ?_) fun _ _ => .pure trivial
    · refine .step trivial fun providerResources _ => ?_
      refine .step trivial fun trackedResources _ => ?_
      refine .step trivial fun now _ => ?_
      refine .step trivial fun recovery dispatched => ?_
      refine .bind (dispatchRecovery_deletion dispatched) fun recovered _ => ?_
      refine .bind checkTracked_deletion fun missing _ => ?_
      refine .bind checkOrphans_deletion fun counts _ => ?_
      refine .step trivial fun now _ => ?_
      refine .step trivial fun _ _ => ?_
      refine .step trivial fun now _ => ?_
      exact .step trivial fun _ _ => .pure trivial
    · refine .step trivial fun now _ => ?_
      refine .bind (P := fun _ => True) (.tryCatch ?_ fun error => .pure trivial)
        fun _ _ => .throw
      exact .call trivial fun _ _ => trivial

/-- Every activity keeps the contract, if the job it delivers does. -/
lemma program_deletion {activity : Activity}
    (fenced : ∀ job attempt maxAttempts healthAttempts,
      activity = .delivery job attempt maxAttempts healthAttempts →
      job.databaseInstanceId = id → job.command = .provision → job.operationVersion < D) :
    Yields (deletionContract id D) activity.program fun _ => True := by
  cases activity with
  | delivery job attempt maxAttempts healthAttempts =>
    exact .bind (process_deletion (fenced _ _ _ _ rfl)) fun _ _ => .pure trivial
  | provisionRequest userId projectId key input =>
    exact .bind provisionProjectDatabase_deletion fun _ _ => .pure trivial
  | deleteRequest userId projectId databaseInstanceId =>
    exact .bind controlProjectDatabase_deletion fun _ _ => .pure trivial
  | reconciliation options => exact .bind reconcile_deletion fun _ _ => .pure trivial
  | cleanupApproval findingId externalId approvedBy =>
    refine .bind (P := fun _ => True) ?_ fun _ _ => .pure trivial
    refine .step trivial fun now _ => ?_
    exact .call trivial fun _ _ => trivial

end Programs

section Fence
variable {id : Uuid} {D : Nat}

/-- The version below which every provision job of the instance stays. -/
def provisionFence (s : DatabaseStore) (id : Uuid) : Nat :=
  match s.instance? id with
  | none => 0
  | some d =>
    if d.status = .deleting ∨ d.status = .deleted then d.operationVersion
    else d.operationVersion + 1

/-- No change of a row lowers its fence. -/
lemma RowChange.fence_mono {o : Operation} {d d' : DatabaseInstance} (change : RowChange o d d') :
    (if d.status = .deleting ∨ d.status = .deleted then d.operationVersion
      else d.operationVersion + 1) ≤
    if d'.status = .deleting ∨ d'.status = .deleted then d'.operationVersion
      else d'.operationVersion + 1 := by
  cases change with
  | kept status version =>
    rw [status, version]
  | provisioning _ _ _ _ unsettled status version =>
    rw [status, version]
    split <;> simp
  | advanced adv _ _ before after version =>
    rw [before, after, version]
    cases adv <;> simp
  | failed status version =>
    rw [status, version]
    split <;> simp
  | deleting destroyable status version =>
    rw [status, version]
    split <;> simp
  | recovered _ status version =>
    obtain status | status := status
    · rw [status]
      split <;> omega
    · rw [status]
      split <;> simp <;> omega

lemma provisionFence_mono (id : Uuid) (o : Operation) (env : Environment) (s : DatabaseState) :
    provisionFence s.store id ≤ provisionFence (perform o env s).2.store id := by
  cases row : s.store.instance? id with
  | none => simp [provisionFence, row]
  | some d =>
    obtain ⟨d', row', change⟩ := perform_rowStep id o env s d row
    simp only [provisionFence, row, row']
    exact change.fence_mono

lemma Recovers.fence_mono {s s' : DatabaseStore} (recovers : Recovers id s s') :
    provisionFence s id ≤ provisionFence s' id := by
  cases row : s.instance? id with
  | none => simp [provisionFence, row]
  | some d =>
    obtain ⟨d', row', status, version⟩ := recovers d row
    simp only [provisionFence, row, row']
    obtain status | status := status
    · rw [status]
      split <;> omega
    · rw [status]
      split <;> simp <;> omega

/-- The provision jobs of a plan for the instance stay below a version. -/
def DatabaseRecoveryPlan.Below (plan : DatabaseRecoveryPlan) (id : Uuid) (bound : Nat) : Prop :=
  ∀ job ∈ plan.dispatches, job.databaseInstanceId = id → job.command = .provision →
    job.operationVersion < bound

/-- What a recovery dispatches stays below the fence it leaves behind. -/
lemma recoverCandidate_below {input : RecoverInput} {findingIds : Uuid → Uuid}
    {candidate : DatabaseInstance} {acc : DatabaseRecoveryPlan × DatabaseStore}
    (stale : recoverable candidate.status = true)
    (below : acc.1.Below id (provisionFence acc.2 id)) :
    (recoverCandidate input findingIds acc candidate).1.Below id
      (provisionFence (recoverCandidate input findingIds acc candidate).2 id) := by
  simp only [recoverCandidate]
  split
  · exact below
  split
  · -- giving up dispatches nothing
    intro job mem eq command
    have old : job ∈ acc.1.dispatches := by
      simp only [exhaustCandidate] at mem
      split at mem <;> exact mem
    exact (below job old eq command).trans_le exhaustCandidate_recovers.fence_mono
  · obtain same | ⟨d, row, unchanged, dispatches, row'⟩ :=
      dispatchCandidate_cases input candidate acc.1 acc.2
    · rw [same]
      exact below
    · intro job mem eq command
      rw [dispatches, List.mem_append, List.mem_singleton] at mem
      obtain old | rfl := mem
      · exact (below job old eq command).trans_le dispatchCandidate_recovers.fence_mono
      · obtain ⟨version, -, status⟩ := unchangedSince_iff.mp unchanged
        have active : ¬ (candidate.status = .deleting ∨ candidate.status = .deleted) := by
          rintro (deleting | deleted)
          · simp [recoveryJob, recoveryCommand, deleting] at command
          · simp [recoverable, deleted] at stale
        have same : candidate.id = id := eq
        subst same
        simp only [provisionFence, row', fenceInstance, status, active, if_false, recoveryJob]
        exact Nat.lt_succ_self _

lemma foldl_below {input : RecoverInput} {findingIds : Uuid → Uuid}
    {candidates : List DatabaseInstance} {acc : DatabaseRecoveryPlan × DatabaseStore}
    (stale : ∀ candidate ∈ candidates, recoverable candidate.status = true)
    (below : acc.1.Below id (provisionFence acc.2 id)) :
    (candidates.foldl (recoverCandidate input findingIds) acc).1.Below id
      (provisionFence (candidates.foldl (recoverCandidate input findingIds) acc).2 id) := by
  induction candidates generalizing acc with
  | nil => exact below
  | cons candidate candidates ih =>
    refine ih (fun c mem => stale c (List.mem_cons_of_mem _ mem)) ?_
    exact recoverCandidate_below (stale candidate List.mem_cons_self) below

lemma recoveryCandidates_recoverable {input : RecoverInput} {s : DatabaseStore}
    {candidate : DatabaseInstance} (mem : candidate ∈ recoveryCandidates input s) :
    recoverable candidate.status = true := by
  have mem' := (List.mem_insertionSort _).mp (List.mem_of_mem_take mem)
  have stale := (List.mem_filter.mp mem').2
  simp only [isStale, Bool.and_eq_true] at stale
  exact stale.1

lemma recoverStaleOperations_below {input : RecoverInput} {findingIds : Uuid → Uuid}
    {s s' : DatabaseStore} {plan : DatabaseRecoveryPlan}
    (e : recoverStaleOperations input findingIds s = .ok (plan, s')) :
    plan.Below id (provisionFence s' id) := by
  have below : ((recoveryCandidates input s).foldl (recoverCandidate input findingIds)
      ({}, s)).1.Below id (provisionFence ((recoveryCandidates input s).foldl
        (recoverCandidate input findingIds) ({}, s)).2 id) := by
    refine foldl_below (fun candidate mem => recoveryCandidates_recoverable mem) ?_
    simp [DatabaseRecoveryPlan.Below]
  rw [Except.ok.inj e] at below
  exact below

end Fence

section PhaseOne
variable {id : Uuid} {D : Nat}

lemma mem_enqueued {o : Operation} {queue : List DatabaseOperationJob} {job : DatabaseOperationJob}
    (mem : job ∈ o.enqueued queue) : job ∈ queue ∨ o = .enqueue job := by
  cases o with
  | enqueue job' =>
    simp only [Operation.enqueued, enqueueJob] at mem
    split at mem
    · exact .inl mem
    · rw [List.mem_append, List.mem_singleton] at mem
      exact mem.imp_right fun e => by rw [e]
  | _ => exact .inl mem

/-- Every provision job of the instance on the queue stays below the fence. -/
def QueueFenced (id : Uuid) (s : DatabaseState) : Prop :=
  ∀ job ∈ s.queue, job.databaseInstanceId = id → job.command = .provision →
    job.operationVersion < provisionFence s.store id

/-- The answers are as the contract of every version from the new fence on assumes. -/
lemma perform_ensures {o : Operation} {env : Environment} {s : DatabaseState}
    (live : provisionFence (perform o env s).2.store id ≤ D) :
    (deletionContract id D).ensures o (perform o env s).1 := by
  obtain ⟨error, e⟩ | ⟨r, store, e, -, after, answer⟩ := perform_cases o env s
  · rw [e]
    cases o <;> trivial
  obtain answer | ⟨error, answer⟩ := answer
  · rw [answer]
    rw [after] at live
    cases o with
    | claim job now =>
      cases r with
      | ready database =>
        obtain ⟨same, operation, version, -⟩ := claim_ready e
        exact ⟨same, operation, version⟩
      | missing => trivial
      | stale status => trivial
    | createDatabaseOperation userId projectId key input now =>
      obtain ⟨-, replayed⟩ | ⟨⟨record, rfl, same, version⟩, -, ⟨d, row, status, -⟩, -⟩ :=
        createDatabaseOperation_cases e
      · cases r with
        | ok record flag =>
          cases flag with
          | true => trivial
          | false => exact absurd rfl (replayed record)
        | _ => trivial
      · intro eq
        rw [same] at eq
        subst eq
        rw [version]
        refine lt_of_lt_of_le ?_ live
        simp [provisionFence, row, status]
    | recoverStaleOperations input =>
      intro job mem eq command
      exact (recoverStaleOperations_below e job mem eq command).trans_le live
    | _ => trivial
  · rw [answer]
    cases o <;> trivial

/-- Phase one: whatever happens, the provision jobs of the instance stay below its fence. -/
lemma upholds_fence : databaseSystem.Upholds (fun D (_ : Activity) => deletionContract id D)
    (QueueFenced id) (fun s D => provisionFence s.store id ≤ D) (fun _ _ _ _ => True) where
  step := by
    intro i tag o env s fenced requires _
    have mono := provisionFence_mono id o env s
    constructor
    · intro job mem eq command
      refine lt_of_lt_of_le ?_ mono
      obtain ⟨error, e⟩ | ⟨r, store, e, -, after, answer⟩ := perform_cases o env s
      · exact fenced job (by simpa [databaseSystem, e] using mem) eq command
      · have mem' : job ∈ o.enqueued s.queue := by simpa [databaseSystem, after] using mem
        obtain old | rfl := mem_enqueued mem'
        · exact fenced job old eq command
        · exact requires _ (Nat.le_refl _) eq command
    · intro D live
      exact ⟨mono.trans live, perform_ensures live⟩
  body := by
    intro s activity fenced admitted D live
    refine Prog.Meets.mono (program_deletion ?_) fun _ _ => trivial
    rintro job attempt maxAttempts healthAttempts rfl eq command
    exact (fenced job admitted eq command).trans_le live

end PhaseOne

/-- The statuses of an instance whose deletion was accepted. -/
def InDeletion (status : DatabaseInstanceStatus) : Prop :=
  status = .deleting ∨ status = .failed ∨ status = .deleted

/-- A step that puts a provision job of the instance on the queue. -/
def EnqueuesProvision (id : Uuid) : databaseSystem.Label → Prop
  | .act _ (.enqueue job) env =>
    job.databaseInstanceId = id ∧ job.command = .provision ∧ Environment.TakesEffect env
  | _ => False

/-- A step that is granted a claim of a provision job of the instance. -/
def ClaimsProvision (id : Uuid) (s : DatabaseState) : databaseSystem.Label → Prop
  | .act _ (.claim job now) env =>
    job.databaseInstanceId = id ∧ job.command = .provision ∧
      ∃ database, (perform (.claim job now) env s).1 = .ok (.ready database)
  | _ => False

/-- A sweep finds the instance FAILED with a retryable error, and with recovery attempts left. -/
def RecoversFailed (id : Uuid) (s : DatabaseState) : databaseSystem.Label → Prop
  | .act _ (.recoverStaleOperations input) env =>
    Environment.TakesEffect env ∧ ∃ candidate ∈ recoveryCandidates input s.store,
      candidate.id = id ∧ candidate.status = .failed ∧ isRetryableError candidate.error = true ∧
        candidate.recoveryCount < input.maxRecoveryAttempts
  | _ => False

/-- A provision job reaches the queue after the operation version it was decided for has passed. -/
def EnqueuesLate (id : Uuid) (s : DatabaseState) : databaseSystem.Label → Prop
  | .act _ (.enqueue job) env =>
    job.databaseInstanceId = id ∧ job.command = .provision ∧ Environment.TakesEffect env ∧
      (s.store.instance? id).map DatabaseInstance.operationVersion ≠ some job.operationVersion
  | _ => False

section PhaseTwo
variable {id : Uuid} {D : Nat}

/-- The instance is in deletion at version `D` or later, and all its provision jobs are older. -/
def DeletionStands (id : Uuid) (D : Nat) (s : DatabaseState) : Prop :=
  (∃ d, s.store.instance? id = some d ∧ D ≤ d.operationVersion ∧ InDeletion d.status) ∧
    ∀ job ∈ s.queue, job.databaseInstanceId = id → job.command = .provision →
      job.operationVersion < D

/-- A change of the row that keeps the contract keeps the instance in deletion. -/
lemma RowChange.inDeletion {o : Operation} {d d' : DatabaseInstance} (change : RowChange o d d')
    (eq : d.id = id) (version : D ≤ d.operationVersion) (status : InDeletion d.status)
    (requires : (deletionContract id D).requires o) :
    D ≤ d'.operationVersion ∧ InDeletion d'.status := by
  cases change with
  | kept status' version' =>
    rw [status', version']
    exact ⟨version, status⟩
  | provisioning op command same version' _ _ _ =>
    subst op
    have older := requires (same.trans eq) command
    omega
  | advanced adv same version' before after version'' =>
    cases adv with
    | provisioned =>
      have older := requires (same.trans eq)
      omega
    | migrating =>
      have older := requires (same.trans eq)
      omega
    | ready =>
      have older := requires (same.trans eq)
      omega
    | deleted => exact ⟨version''.symm ▸ version, .inr (.inr after)⟩
  | failed status' version' => exact ⟨version'.symm ▸ version, .inr (.inl status')⟩
  | deleting _ status' version' =>
    rw [version']
    exact ⟨version.trans (Nat.le_succ _), .inl status'⟩
  | recovered _ status' version' =>
    refine ⟨version.trans version', ?_⟩
    obtain same | failed := status'
    · exact same.symm ▸ status
    · exact .inr (.inl failed)

/-- A plan dispatches no provision job of the instance. -/
def DatabaseRecoveryPlan.SparesDeletion (plan : DatabaseRecoveryPlan) (id : Uuid) : Prop :=
  ∀ job ∈ plan.dispatches, job.databaseInstanceId = id → job.command ≠ .provision

/-- A candidate in deletion that is not revived is not provisioned again. -/
lemma recoverCandidate_spares {input : RecoverInput} {findingIds : Uuid → Uuid}
    {candidate : DatabaseInstance} {acc : DatabaseRecoveryPlan × DatabaseStore}
    (stale : recoverable candidate.status = true)
    (guard : candidate.id = id → candidate.status = .failed →
      isRetryableError candidate.error = true → input.maxRecoveryAttempts ≤ candidate.recoveryCount)
    (inDeletion : ∀ d, acc.2.instance? id = some d → InDeletion d.status)
    (spares : acc.1.SparesDeletion id) :
    (recoverCandidate input findingIds acc candidate).1.SparesDeletion id := by
  simp only [recoverCandidate]
  split
  · exact spares
  rename_i retried
  split
  · intro job mem
    refine spares job ?_
    simp only [exhaustCandidate] at mem
    split at mem <;> exact mem
  · rename_i attempts
    obtain same | ⟨d, row, unchanged, dispatches, -⟩ :=
      dispatchCandidate_cases input candidate acc.1 acc.2
    · rw [same]
      exact spares
    · intro job mem eq
      rw [dispatches, List.mem_append, List.mem_singleton] at mem
      obtain old | rfl := mem
      · exact spares job old eq
      · have same : candidate.id = id := eq
        subst same
        obtain ⟨-, -, status⟩ := unchangedSince_iff.mp unchanged
        obtain deleting | failed | deleted := inDeletion d row
        · simp [recoveryJob, recoveryCommand, ← status, deleting]
        · rw [status] at failed
          have retryable : isRetryableError candidate.error = true := by
            simpa [failed] using retried
          exact absurd (guard rfl failed retryable) attempts
        · simp [← status, deleted, recoverable] at stale

lemma foldl_spares {input : RecoverInput} {findingIds : Uuid → Uuid}
    {candidates : List DatabaseInstance} {acc : DatabaseRecoveryPlan × DatabaseStore}
    (stale : ∀ candidate ∈ candidates, recoverable candidate.status = true)
    (guard : ∀ candidate ∈ candidates, candidate.id = id → candidate.status = .failed →
      isRetryableError candidate.error = true → input.maxRecoveryAttempts ≤ candidate.recoveryCount)
    (inDeletion : ∃ d, acc.2.instance? id = some d ∧ InDeletion d.status)
    (spares : acc.1.SparesDeletion id) :
    (candidates.foldl (recoverCandidate input findingIds) acc).1.SparesDeletion id := by
  induction candidates generalizing acc with
  | nil => exact spares
  | cons candidate candidates ih =>
    obtain ⟨d, row, status⟩ := inDeletion
    refine ih (fun c mem => stale c (List.mem_cons_of_mem _ mem))
      (fun c mem => guard c (List.mem_cons_of_mem _ mem)) ?_ ?_
    · obtain ⟨d', row', status', -⟩ := recoverCandidate_recovers d row
      refine ⟨d', row', ?_⟩
      obtain same | failed := status'
      · exact same.symm ▸ status
      · exact .inr (.inl failed)
    · refine recoverCandidate_spares (stale candidate List.mem_cons_self)
        (guard candidate List.mem_cons_self) ?_ spares
      intro d' row'
      cases row.symm.trans row'
      exact status

/-- A plan made while the instance is in deletion, without a revival, spares it. -/
lemma recoverStaleOperations_spares {input : RecoverInput} {env : Environment} {s : DatabaseState}
    {store : DatabaseStore} {plan : DatabaseRecoveryPlan} {i : Nat}
    (stands : DeletionStands id D s) (effect : env.TakesEffect)
    (guard : ¬ RecoversFailed id s (.act i (.recoverStaleOperations input) env))
    (e : recoverStaleOperations input env.findingIds s.store = .ok (plan, store)) :
    plan.SparesDeletion id := by
  obtain ⟨⟨d, row, -, status⟩, -⟩ := stands
  have spares : ((recoveryCandidates input s.store).foldl
      (recoverCandidate input env.findingIds) ({}, s.store)).1.SparesDeletion id := by
    refine foldl_spares (fun candidate mem => recoveryCandidates_recoverable mem) ?_
      ⟨d, row, status⟩ (by simp [DatabaseRecoveryPlan.SparesDeletion])
    intro candidate mem same failed retryable
    by_contra attempts
    exact guard ⟨effect, candidate, mem, same, failed, retryable, Nat.lt_of_not_le attempts⟩
  rw [Except.ok.inj e] at spares
  exact spares

/-- While the deletion stands, the answers are as its contract assumes. -/
lemma perform_ensures_deletion {o : Operation} {env : Environment} {s : DatabaseState} {i : Nat}
    (stands : DeletionStands id D s) (guard : ¬ RecoversFailed id s (.act i o env)) :
    (deletionContract id D).ensures o (perform o env s).1 := by
  obtain ⟨error, e⟩ | ⟨r', store, e, takes, -, answer | ⟨error, answer⟩⟩ := perform_cases o env s
  · rw [e]
    cases o <;> trivial
  · rw [answer]
    cases o with
    | claim job now =>
      cases r' with
      | ready database =>
        obtain ⟨same, operation, version, -⟩ := claim_ready e
        exact ⟨same, operation, version⟩
      | missing => trivial
      | stale status => trivial
    | createDatabaseOperation userId projectId key input now =>
      obtain ⟨-, replayed⟩ | ⟨⟨record, rfl, same, -⟩, absent, -⟩ := createDatabaseOperation_cases e
      · cases r' with
        | ok record flag =>
          cases flag with
          | true => trivial
          | false => exact absurd rfl (replayed record)
        | _ => trivial
      · -- the generated identifier is not the instance's, whose row exists
        intro eq
        obtain ⟨⟨d, row, -⟩, -⟩ := stands
        rw [← same, eq, row] at absent
        cases absent
    | recoverStaleOperations input =>
      intro job mem eq command
      exact absurd command (recoverStaleOperations_spares stands takes guard e job mem eq)
    | _ => trivial
  · rw [answer]
    cases o <;> trivial

/-- Phase two: from an accepted deletion on, the deletion stands. -/
lemma upholds_deletion : databaseSystem.Upholds
    (fun (_ : Unit) (_ : Activity) => deletionContract id D) (DeletionStands id D)
    (fun _ _ => True) (fun i o env s => ¬ RecoversFailed id s (.act i o env)) where
  step := by
    intro i tag o env s stands requires guard
    have requires := requires () trivial
    refine ⟨⟨?_, ?_⟩, fun _ _ => ⟨trivial, perform_ensures_deletion stands guard⟩⟩
    · obtain ⟨⟨d, row, version, status⟩, -⟩ := stands
      obtain ⟨d', row', change⟩ := perform_rowStep id o env s d row
      exact ⟨d', row', change.inDeletion (instance?_id row) version status requires⟩
    · intro job mem eq command
      obtain ⟨error, e⟩ | ⟨r, store, -, -, after, -⟩ := perform_cases o env s
      · exact stands.2 job (by simpa [databaseSystem, e] using mem) eq command
      · have mem' : job ∈ o.enqueued s.queue := by simpa [databaseSystem, after] using mem
        obtain old | rfl := mem_enqueued mem'
        · exact stands.2 job old eq command
        · exact requires eq command
  body := by
    intro s activity stands admitted _ _
    refine Prog.Meets.mono (program_deletion ?_) fun _ _ => trivial
    rintro job attempt maxAttempts healthAttempts rfl eq command
    exact stands.2 job admitted eq command

/-- The steps under which an accepted deletion stands. -/
def SparesDeletion (id : Uuid) (c : DatabaseConfig) (l : databaseSystem.Label) : Prop :=
  ¬ RecoversFailed id c.store l ∧ ¬ EnqueuesLate id c.store l

/-- Every state reached after an accepted deletion is sound for the version of the deletion. -/
lemma sound_of_deleting {c₀ c₁ c₂ : DatabaseConfig} (starts : Starts c₀)
    (run₁ : databaseSystem.Reaches databaseSystem.Unguarded c₀ c₁)
    (deleting : c₁.store.statusOf id = some .deleting)
    (run₂ : databaseSystem.Reaches (SparesDeletion id) c₁ c₂) :
    ∃ D, System.Sound (fun (_ : Unit) (_ : Activity) => deletionContract id D) (DeletionStands id D)
      (fun _ _ => True) c₂ := by
  obtain ⟨_, noJobs, noThreads⟩ := starts
  have sound₀ : System.Sound (fun D (_ : Activity) => deletionContract id D) (QueueFenced id)
      (fun s D => provisionFence s.store id ≤ D) c₀ := by
    refine ⟨?_, ?_⟩
    · simp [QueueFenced, noJobs]
    · simp [noThreads]
  have sound₁ := upholds_fence.sound_reaches (fun _ => trivial) sound₀ run₁
  simp only [DatabaseState.statusOf, Option.map_eq_some_iff] at deleting
  obtain ⟨d, row, status⟩ := deleting
  have fence : provisionFence c₁.store.store id = d.operationVersion := by
    simp [provisionFence, row, status]
  refine ⟨d.operationVersion, upholds_deletion.sound_reaches ?_ ⟨⟨?_, ?_⟩, ?_⟩ run₂⟩
  · exact fun guard => guard.1
  · exact ⟨d, row, Nat.le_refl _, .inl status⟩
  · intro job mem eq command
    exact fence ▸ sound₁.store job mem eq command
  · intro t mem _ _
    exact sound₁.threads t mem _ (Nat.le_of_eq fence)

/-- While the deletion stands, a provision job would reach the queue late. -/
lemma not_enqueuesProvision {c c' : DatabaseConfig} {l : databaseSystem.Label}
    (sound : System.Sound (fun (_ : Unit) (_ : Activity) => deletionContract id D)
      (DeletionStands id D) (fun _ _ => True) c)
    (guard : ¬ EnqueuesLate id c.store l) (step : databaseSystem.Step c l c') :
    ¬ EnqueuesProvision id l := by
  obtain ⟨⟨d, row, version, -⟩, -⟩ := sound.store
  cases step with
  | @act i tag o k env at_i =>
    have requires := sound.requires at_i (x := ()) trivial
    cases o with
    | enqueue job =>
      rintro ⟨eq, command, effect⟩
      refine guard ⟨eq, command, effect, ?_⟩
      have older := requires eq command
      simp only [row, Option.map_some, ne_eq, Option.some.injEq]
      omega
    | _ => exact not_false
  | spawn adm => exact not_false

/-- While the deletion stands, every provision job is stale. -/
lemma not_claimsProvision {c c' : DatabaseConfig} {l : databaseSystem.Label}
    (sound : System.Sound (fun (_ : Unit) (_ : Activity) => deletionContract id D)
      (DeletionStands id D) (fun _ _ => True) c)
    (step : databaseSystem.Step c l c') : ¬ ClaimsProvision id c.store l := by
  obtain ⟨⟨d, row, version, -⟩, -⟩ := sound.store
  cases step with
  | @act i tag o k env at_i =>
    have requires := sound.requires at_i (x := ()) trivial
    cases o with
    | claim job now =>
      rintro ⟨eq, command, database, ready⟩
      obtain ⟨error, e⟩ | ⟨r, store, e, -, -, answer | ⟨error, answer⟩⟩ :=
        perform_cases (.claim job now) env c.store
      · rw [e] at ready
        cases ready
      · rw [answer] at ready
        cases ready
        obtain ⟨-, -, -, d', row', version', -⟩ := claim_ready e
        rw [eq, row] at row'
        cases row'
        have older := requires eq command
        omega
      · rw [answer] at ready
        cases ready
    | _ => exact not_false
  | spawn adm => exact not_false

end PhaseTwo

section Scenario

/-- Database 7 is requested, cannot be enqueued and fails; its deletion is requested. -/
def deletionRequested : List databaseSystem.Move :=
  [.spawn (.provisionRequest 1 1 "key" ⟨1, "ca-central-1", false⟩)] ++ proceeds 0 3 0 7 ++
    [refused 0] ++ proceeds 0 2 0 7 ++
    [.spawn (.deleteRequest 1 1 7)] ++ proceeds 1 3 0 7

/-- A sweep recovers the stale deletion and cannot enqueue its job; the next sweep takes the instance
    for a failed provisioning, and its job is delivered. -/
def deletionForgotten : List databaseSystem.Move :=
  [.spawn (.reconciliation {})] ++ proceeds 2 6 2000000 10 ++ [refused 2] ++
    proceeds 2 5 2000000 10 ++
    [.spawn (.reconciliation {})] ++ proceeds 3 7 5000000 11 ++
    [.spawn (.delivery ⟨8, 7, .provision, 3⟩ 1 5 30)] ++ proceeds 4 1 5000000 12

/-- The two schedules lead to an instance in deletion, and from there to a provisioning. -/
lemma deletionForgotten_runs : ∃ c₁ c₂ c₃ l,
    databaseSystem.Reaches databaseSystem.Unguarded freshPlatform c₁ ∧
    c₁.store.statusOf 7 = some .deleting ∧
    databaseSystem.Reaches databaseSystem.Unguarded c₁ c₂ ∧ databaseSystem.Step c₂ l c₃ ∧
    c₃.store.statusOf 7 = some .provisioning := by
  have run : ((databaseSystem.execute freshPlatform deletionRequested).any fun c₁ =>
      decide (c₁.store.statusOf 7 = some .deleting) &&
        (databaseSystem.execute c₁ deletionForgotten).any fun c₂ =>
          (databaseSystem.next c₂ (.act 4 {})).any fun c₃ =>
            decide (c₃.store.statusOf 7 = some .provisioning)) = true := by
    decide
  obtain ⟨c₁, e₁, run⟩ := (Option.any_eq_true _ _).mp run
  obtain ⟨deleting, run⟩ := Bool.and_eq_true_iff.mp run
  obtain ⟨c₂, e₂, run⟩ := (Option.any_eq_true _ _).mp run
  obtain ⟨c₃, e₃, provisioning⟩ := (Option.any_eq_true _ _).mp run
  obtain ⟨l, step⟩ := System.next_step e₃
  exact ⟨c₁, c₂, c₃, l, System.execute_reaches e₁, of_decide_eq_true deleting,
    System.execute_reaches e₂, step, of_decide_eq_true provisioning⟩

end Scenario

end AtomsPlatform.Database
