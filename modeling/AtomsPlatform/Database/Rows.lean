import AtomsPlatform.Database.System

/-!
# What one operation does to an instance row

Every operation changes the row of an instance in one of six ways (`RowChange`), whatever the
environment decides. The lemmas follow the repositories, one for each transaction; `perform_row`
collects them. An operation other than a request for a database adds no row.
-/

namespace AtomsPlatform.Database
open Interleaving

section Lookup
variable {s : DatabaseStore} {id k runId : Uuid} {p : DatabaseInstance → Bool}
  {data : DatabaseInstance → DatabaseInstance} {event : DatabaseStatusChanged}

@[simp]
lemma instance?_appendEvent : (s.appendEvent runId event).instance? id = s.instance? id :=
  rfl

@[simp]
lemma instance?_appendEventFor {artifact : Option MigrationArtifact} :
    (s.appendEventFor artifact event).instance? id = s.instance? id := by
  cases artifact <;> rfl

/-- The row of an instance after an update of a possibly different one. -/
lemma instance?_updateInstance (keeps : ∀ d, (data d).id = d.id) :
    (s.updateInstance k p data).instance? id =
      (s.instance? id).map fun d => if id = k ∧ p d = true then data d else d := by
  by_cases e : id = k
  · subst e
    simpa [DatabaseStore.instance?, DatabaseStore.updateInstance] using
      Table.lookup_update fun d e => (keeps d).trans e
  · simp only [DatabaseStore.instance?, DatabaseStore.updateInstance, e, false_and, if_false,
      Option.map_id']
    exact Table.lookup_update_ne (fun d e => (keeps d).trans e) e

lemma instance?_id {d : DatabaseInstance} (row : s.instance? id = some d) : d.id = id :=
  Table.lookup_key row

lemma owns_of_row {d : DatabaseInstance} (row : s.instance? id = some d) : s.owns id p = p d := by
  simp only [DatabaseStore.owns, Table.holds]
  rw [show Table.lookup DatabaseInstance.id id s.instances = some d from row]
  rfl

lemma owns_iff : s.owns id p = true ↔ ∃ d, s.instance? id = some d ∧ p d = true :=
  Table.holds_iff

end Lookup

/-- The operations that move an instance from one status to the next. -/
inductive Advances : Operation → DatabaseExecutionRecord →
    DatabaseInstanceStatus → DatabaseInstanceStatus → Prop where
  | provisioned {database result now} :
    Advances (.recordProvisioned database result now) database .provisioning .healthCheck
  | migrating {database now} :
    Advances (.startMigration database now) database .healthCheck .migrating
  | ready {database reports now} :
    Advances (.completeMigration database reports now) database .migrating .ready
  | deleted {database now} :
    Advances (.completeDestroy database now) database .deleting .deleted

/-- What an operation can do to a row. -/
inductive RowChange (o : Operation) (d d' : DatabaseInstance) : Prop where
  | kept :
    d'.status = d.status →
    d'.operationVersion = d.operationVersion →
    RowChange o d d'
  | provisioning {job now} :
    o = .claim job now →
    job.command = .provision →
    job.databaseInstanceId = d.id →
    d.operationVersion = job.operationVersion →
    settled d.status = false →
    d'.status = .provisioning →
    d'.operationVersion = d.operationVersion →
    RowChange o d d'
  | advanced {database before after} :
    Advances o database before after →
    database.id = d.id →
    d.operationVersion = database.operationVersion →
    d.status = before →
    d'.status = after →
    d'.operationVersion = d.operationVersion →
    RowChange o d d'
  | failed :
    d'.status = .failed →
    d'.operationVersion = d.operationVersion →
    RowChange o d d'
  | deleting :
    destroyable d.status = true →
    d'.status = .deleting →
    d'.operationVersion = d.operationVersion + 1 →
    RowChange o d d'
  | recovered {input} :
    o = .recoverStaleOperations input →
    d'.status = d.status ∨ d'.status = .failed →
    d.operationVersion ≤ d'.operationVersion →
    RowChange o d d'

/-- What an operation can do to the row of an instance in a store. -/
def RowStep (o : Operation) (id : Uuid) (s s' : DatabaseStore) : Prop :=
  ∀ d, s.instance? id = some d → ∃ d', s'.instance? id = some d' ∧ RowChange o d d'

variable {o : Operation} {id : Uuid} {s s' : DatabaseStore}

lemma RowStep.of_same (same : s'.instance? id = s.instance? id) : RowStep o id s s' := by
  intro d row
  exact ⟨d, same.trans row, .kept rfl rfl⟩

/-- An update of one row is a `RowStep` if the change it makes is a `RowChange`. -/
lemma RowStep.of_update {s₀ : DatabaseStore} {k : Uuid} {p : DatabaseInstance → Bool}
    {data : DatabaseInstance → DatabaseInstance} (keeps : ∀ d, (data d).id = d.id)
    (updated : s'.instance? id = (s₀.updateInstance k p data).instance? id)
    (before : s₀.instance? id = s.instance? id)
    (change : ∀ d, s.instance? id = some d → id = k → p d = true → RowChange o d (data d)) :
    RowStep o id s s' := by
  intro d row
  have row' : s'.instance? id = some (if id = k ∧ p d = true then data d else d) := by
    rw [updated, instance?_updateInstance keeps, before, row]
    rfl
  refine ⟨_, row', ?_⟩
  split
  · rename_i cond
    exact change d row cond.1 cond.2
  · exact .kept rfl rfl

section Worker
variable {job : DatabaseOperationJob} {database : DatabaseExecutionRecord} {now : Date}

lemma claim_rowStep {r : DatabaseClaimResult} (e : claim job now s = .ok (r, s')) :
    RowStep (.claim job now) id s s' := by
  simp only [claim] at e
  split at e
  · cases e
    exact .of_same rfl
  · rename_i current row
    have same {d : DatabaseInstance} (row' : s.instance? id = some d) (eq : id = current.id) :
        d = current := by
      rw [eq, instance?_id row, row] at row'
      exact (Option.some.inj row').symm
    split at e
    · cases e
      exact .of_same rfl
    split at e
    · cases e
      exact .of_same rfl
    · rename_i version
      split at e
      · split at e
        · split at e
          · cases e
            refine .of_update ?_ rfl rfl ?_
            · exact fun _ => rfl
            · intro d row' eq _
              exact .kept rfl rfl
          · cases e
            exact .of_same rfl
        · rename_i command
          split at e
          · cases e
            exact .of_same rfl
          · rename_i unsettled
            cases e
            refine .of_update ?_ rfl rfl ?_
            · exact fun _ => rfl
            · intro d row' eq _
              cases same row' eq
              refine .provisioning rfl command (instance?_id row).symm ?_ ?_ rfl rfl
              · exact not_not.mp version
              · exact Bool.eq_false_iff.mpr unsettled
      · cases e
        exact .of_same rfl

/-- What is granted to a claim: the row it is for, at the version of the job. -/
lemma claim_ready (e : claim job now s = .ok (.ready database, s')) :
    database.id = job.databaseInstanceId ∧ database.operationId = job.operationId ∧
      database.operationVersion = job.operationVersion ∧
      ∃ d, s.instance? job.databaseInstanceId = some d ∧ d.operationVersion = job.operationVersion ∧
        (job.command = .provision → settled d.status = false) ∧
        (job.command = .destroy → d.status = .deleting) := by
  simp only [claim] at e
  split at e
  · cases e
  · rename_i current row
    split at e
    · cases e
    rename_i operation
    have operation := not_not.mp operation
    split at e
    · cases e
    · rename_i version
      have version := not_not.mp version
      split at e
      · split at e
        · rename_i command
          split at e
          · rename_i deleting
            cases e
            refine ⟨instance?_id row, operation, version, current, row, version, ?_, fun _ => deleting⟩
            simp [command]
          · cases e
        · rename_i command
          split at e
          · cases e
          · rename_i unsettled
            cases e
            refine ⟨instance?_id row, operation, version, current, row, version, ?_, ?_⟩
            · exact fun _ => Bool.eq_false_iff.mpr unsettled
            · simp [command]
      · cases e

/-- A claim that is not granted changes nothing. -/
lemma claim_refused {r : DatabaseClaimResult} (e : claim job now s = .ok (r, s'))
    (refused : ∀ database, r ≠ .ready database) : s' = s := by
  simp only [claim] at e
  split at e
  · cases e
    rfl
  split at e
  · cases e
    rfl
  split at e
  · cases e
    rfl
  split at e
  · split at e
    · split at e
      · cases e
        exact absurd rfl (refused _)
      · cases e
        rfl
    · split at e
      · cases e
        rfl
      · cases e
        exact absurd rfl (refused _)
  · cases e
    rfl

/-- What the guards of the worker's updates say about the row they match. -/
lemma ownedIn_iff {status : DatabaseInstanceStatus} {d : DatabaseInstance} :
    ownedIn database status d = true ↔
      d.operationId = database.operationId ∧ d.operationVersion = database.operationVersion ∧
        d.status = status := by
  simp [ownedIn]

@[simp]
lemma instance?_upsertSecretReference {reference : String} :
    (upsertSecretReference s database reference).instance? id = s.instance? id := by
  simp only [upsertSecretReference]
  split <;> rfl

@[simp]
lemma owns_upsertSecretReference {reference : String} {p : DatabaseInstance → Bool} :
    (upsertSecretReference s database reference).owns id p = s.owns id p := by
  simp only [upsertSecretReference]
  split <;> rfl

@[simp]
lemma instance?_upsertMigrationRun :
    (upsertMigrationRun s database now).instance? id = s.instance? id := by
  simp only [upsertMigrationRun]
  split <;> rfl

@[simp]
lemma instance?_revokeSecretReference {reference : Option String} :
    (revokeSecretReference s reference now).instance? id = s.instance? id := by
  cases reference <;> rfl

lemma recordProvisioned_rowStep {result : DatabaseProvisionResult} {r : Bool}
    (e : recordProvisioned database result now s = .ok (r, s')) :
    RowStep (.recordProvisioned database result now) id s s' := by
  simp only [recordProvisioned] at e
  split at e
  · cases e
    refine .of_update ?_ rfl instance?_upsertSecretReference ?_
    · exact fun _ => rfl
    · rintro d row rfl own
      obtain ⟨-, version, status⟩ := ownedIn_iff.mp own
      exact .advanced .provisioned (instance?_id row).symm version status rfl rfl
  · cases e
    exact .of_same instance?_upsertSecretReference

lemma recordHealthCheck_rowStep {message : String} {r : Bool}
    (e : recordHealthCheck database message now s = .ok (r, s')) :
    RowStep (.recordHealthCheck database message now) id s s' := by
  simp only [recordHealthCheck] at e
  split at e
  · cases e
    refine .of_update ?_ rfl rfl ?_
    · exact fun _ => rfl
    · intro d row eq own
      exact .kept rfl rfl
  · cases e
    exact .of_same rfl

lemma startMigration_rowStep {r : Bool} (e : startMigration database now s = .ok (r, s')) :
    RowStep (.startMigration database now) id s s' := by
  simp only [startMigration] at e
  split at e
  · cases e
    refine .of_update ?_ instance?_upsertMigrationRun rfl ?_
    · exact fun _ => rfl
    · rintro d row rfl own
      obtain ⟨-, version, status⟩ := ownedIn_iff.mp own
      exact .advanced .migrating (instance?_id row).symm version status rfl rfl
  · cases e
    exact .of_same rfl

lemma completeMigration_rowStep {reports : List DatabaseMigrationStepReport} {r : Bool}
    (e : completeMigration database reports now s = .ok (r, s')) :
    RowStep (.completeMigration database reports now) id s s' := by
  simp only [completeMigration] at e
  split at e
  · split at e
    · cases e
      refine .of_update ?_ rfl rfl ?_
      · exact fun _ => rfl
      · rintro d row rfl own
        obtain ⟨-, version, status⟩ := ownedIn_iff.mp own
        exact .advanced .ready (instance?_id row).symm version status rfl rfl
    · cases e
  · cases e
    exact .of_same rfl

lemma completeDestroy_rowStep {r : Bool} (e : completeDestroy database now s = .ok (r, s')) :
    RowStep (.completeDestroy database now) id s s' := by
  simp only [completeDestroy] at e
  split at e
  · cases e
    refine .of_update ?_ instance?_revokeSecretReference rfl ?_
    · exact fun _ => rfl
    · rintro d row rfl own
      obtain ⟨-, version, status⟩ := ownedIn_iff.mp own
      exact .advanced .deleted (instance?_id row).symm version status rfl rfl
  · cases e
    exact .of_same rfl

lemma fail_rowStep {error : OperationError} {r : Unit}
    (e : fail database error now s = .ok (r, s')) : RowStep (.fail database error now) id s s' := by
  cases e
  refine .of_update ?_ rfl rfl ?_
  · exact fun _ => rfl
  · intro d row eq at_version
    exact .failed rfl rfl

end Worker

section Control

/-- What a request for a database answers and leaves behind. A database that is not a replay is a new
    row, queued at version 0; every other row stays. -/
lemma createDatabaseOperation_cases {userId projectId newId newOperationId : Uuid} {key : String}
    {input : ProvisionDatabaseInput} {now : Date} {r : CreateDatabaseOperationResult}
    (e : createDatabaseOperation userId projectId key input now newId newOperationId s =
      .ok (r, s')) :
    (s' = s ∧ ∀ database, r ≠ .ok database false) ∨
    (∃ database, r = .ok database false ∧ database.id = newId ∧ database.operationVersion = 0) ∧
      s.instance? newId = none ∧
      (∃ d, s'.instance? newId = some d ∧ d.status = .queued ∧ d.operationVersion = 0) ∧
      (∀ id, id ≠ newId → s'.instance? id = s.instance? id) := by
  simp only [createDatabaseOperation] at e
  split at e
  · rename_i existing _
    left
    simp only [replay] at e
    split at e
    · simp only [toDatabaseRecord] at e
      split at e <;> simp [Except.map] at e
      exact ⟨e.2.symm, by simp [← e.1]⟩
    · simp [Except.map] at e
      exact ⟨e.2.symm, by simp [← e.1]⟩
  split at e
  · left
    cases e
    exact ⟨rfl, by simp⟩
  split at e
  · left
    cases e
    exact ⟨rfl, by simp⟩
  split at e
  · left
    cases e
    exact ⟨rfl, by simp⟩
  split at e
  · cases e
  · rename_i fresh
    right
    have absent : s.instance? newId = none := by
      simp only [List.any_eq_true, not_exists, not_and, decide_eq_true_eq, not_or] at fresh
      refine List.find?_eq_none.mpr ?_
      intro d mem
      simpa using (fresh d mem).1
    simp only [toDatabaseRecord, Except.map] at e
    cases e
    refine ⟨⟨_, rfl, rfl, rfl⟩, absent, ?_, ?_⟩
    · exact ⟨_, Table.lookup_append_new absent rfl, rfl, rfl⟩
    · intro id ne
      exact Table.lookup_append_ne ne.symm

lemma requestDatabaseAction_rowStep {userId projectId databaseInstanceId : Uuid} {now : Date}
    {r : DestroyDatabaseOperationResult}
    (e : requestDatabaseAction userId projectId databaseInstanceId now s = .ok (r, s')) :
    RowStep o id s s' := by
  simp only [requestDatabaseAction] at e
  split at e
  · cases e
    exact .of_same rfl
  · rename_i current row
    split at e
    · cases e
      exact .of_same rfl
    split at e
    · simp only [toDatabaseRecord] at e
      split at e <;> simp [Except.map] at e
      rw [← e.2]
      exact .of_same rfl
    split at e
    · cases e
      exact .of_same rfl
    · rename_i destroyed
      simp only [toDatabaseRecord] at e
      split at e <;> simp [Except.map] at e
      rw [← e.2]
      refine .of_update ?_ instance?_appendEventFor rfl ?_
      · exact fun _ => rfl
      · intro d row' eq _
        rw [eq, instance?_id row, row] at row'
        cases row'
        exact .deleting (by simpa using destroyed) rfl rfl

lemma markDatabaseOperationFailed_rowStep {databaseInstanceId operationId : Uuid} {version : Nat}
    {error : OperationError} {now : Date} {r : Unit}
    (e : markDatabaseOperationFailed databaseInstanceId operationId version error now s =
      .ok (r, s')) : RowStep o id s s' := by
  cases e
  refine .of_update ?_ rfl rfl ?_
  · exact fun _ => rfl
  · intro d row eq at_version
    exact .failed rfl rfl

end Control

section Reconciliation
variable {input : RecoverInput} {findingId : Uuid} {candidate : DatabaseInstance}
  {acc : DatabaseRecoveryPlan × DatabaseStore} {finding : FindingInput}

@[simp]
lemma instance?_observeFinding :
    (observeFinding findingId finding s).2.instance? id = s.instance? id := by
  simp only [observeFinding]
  split <;> rfl

/-- What a recovery can do to the row of an instance: it only fences it, or gives it up. -/
def Recovers (id : Uuid) (s s' : DatabaseStore) : Prop :=
  ∀ d, s.instance? id = some d → ∃ d', s'.instance? id = some d' ∧
    (d'.status = d.status ∨ d'.status = .failed) ∧ d.operationVersion ≤ d'.operationVersion

lemma Recovers.refl : Recovers id s s := by
  intro d row
  exact ⟨d, row, .inl rfl, Nat.le_refl _⟩

lemma Recovers.trans {s'' : DatabaseStore} (first : Recovers id s s') (second : Recovers id s' s'') :
    Recovers id s s'' := by
  intro d row
  obtain ⟨d', row', status', version'⟩ := first d row
  obtain ⟨d'', row'', status'', version''⟩ := second d' row'
  refine ⟨d'', row'', ?_, version'.trans version''⟩
  obtain same | failed := status''
  · rw [same]
    exact status'
  · exact .inr failed

/-- An update of one row is a recovery if the change it makes is one. -/
lemma Recovers.of_update {k : Uuid} {p : DatabaseInstance → Bool}
    {data : DatabaseInstance → DatabaseInstance} (keeps : ∀ d, (data d).id = d.id)
    (updated : s'.instance? id = (s.updateInstance k p data).instance? id)
    (status : ∀ d, (data d).status = d.status ∨ (data d).status = .failed)
    (version : ∀ d, p d = true → d.operationVersion ≤ (data d).operationVersion) :
    Recovers id s s' := by
  intro d row
  have row' : s'.instance? id = some (if id = k ∧ p d = true then data d else d) := by
    rw [updated, instance?_updateInstance keeps, row]
    rfl
  refine ⟨_, row', ?_⟩
  split
  · rename_i cond
    exact ⟨status d, version d cond.2⟩
  · exact ⟨.inl rfl, Nat.le_refl _⟩

lemma exhaustCandidate_recovers {plan : DatabaseRecoveryPlan} :
    Recovers id s (exhaustCandidate input findingId candidate plan s).2 := by
  simp only [exhaustCandidate]
  split
  · refine .of_update ?_ (instance?_appendEventFor.trans instance?_observeFinding) ?_ ?_
    · exact fun _ => rfl
    · exact fun _ => .inr rfl
    · exact fun _ _ => Nat.le_refl _
  · exact .refl

lemma unchangedSince_iff {d : DatabaseInstance} :
    unchangedSince candidate d = true ↔ d.operationVersion = candidate.operationVersion ∧
      d.recoveryCount = candidate.recoveryCount ∧ d.status = candidate.status := by
  simp [unchangedSince]

lemma dispatchCandidate_recovers {plan : DatabaseRecoveryPlan} :
    Recovers id s (dispatchCandidate input candidate plan s).2 := by
  simp only [dispatchCandidate]
  split
  · refine .of_update ?_ instance?_appendEventFor ?_ ?_
    · exact fun _ => rfl
    · exact fun _ => .inl rfl
    · intro d unchanged
      rw [(unchangedSince_iff.mp unchanged).1]
      exact Nat.le_succ _
  · exact .refl

/-- A candidate is dispatched only if its row is still as it was read. -/
lemma dispatchCandidate_cases (input : RecoverInput) (candidate : DatabaseInstance)
    (plan : DatabaseRecoveryPlan) (s : DatabaseStore) :
    dispatchCandidate input candidate plan s = (plan, s) ∨
    ∃ d, s.instance? candidate.id = some d ∧ unchangedSince candidate d = true ∧
      (dispatchCandidate input candidate plan s).1.dispatches =
        plan.dispatches ++ [recoveryJob candidate] ∧
      (dispatchCandidate input candidate plan s).2.instance? candidate.id =
        some (fenceInstance candidate input.now d) := by
  simp only [dispatchCandidate]
  split
  · rename_i owned
    right
    obtain ⟨d, row, unchanged⟩ := owns_iff.mp owned
    have keeps : ∀ d, (fenceInstance candidate input.now d).id = d.id := fun _ => rfl
    refine ⟨d, row, unchanged, rfl, ?_⟩
    rw [instance?_appendEventFor, instance?_updateInstance keeps, row, Option.map_some,
      if_pos ⟨rfl, unchanged⟩]
  · exact .inl rfl

lemma recoverCandidate_recovers {findingIds : Uuid → Uuid} :
    Recovers id acc.2 (recoverCandidate input findingIds acc candidate).2 := by
  simp only [recoverCandidate]
  split
  · exact .refl
  split
  · exact exhaustCandidate_recovers
  · exact dispatchCandidate_recovers

lemma foldl_recovers {findingIds : Uuid → Uuid} (candidates : List DatabaseInstance)
    (acc : DatabaseRecoveryPlan × DatabaseStore) :
    Recovers id acc.2 (candidates.foldl (recoverCandidate input findingIds) acc).2 := by
  induction candidates generalizing acc with
  | nil => exact .refl
  | cons candidate candidates ih => exact recoverCandidate_recovers.trans (ih _)

lemma recoverStaleOperations_rowStep {findingIds : Uuid → Uuid} {r : DatabaseRecoveryPlan}
    (e : recoverStaleOperations input findingIds s = .ok (r, s')) :
    RowStep (.recoverStaleOperations input) id s s' := by
  intro d row
  have e' := Except.ok.inj e
  obtain ⟨d', row', status, version⟩ := foldl_recovers _ ({}, s) d row
  rw [e'] at row'
  exact ⟨d', row', .recovered rfl status version⟩

lemma recordRecoveryDispatchFailure_rowStep {current : DatabaseInstance} {error : OperationError}
    {now : Date} {r : Unit}
    (e : recordRecoveryDispatchFailure current error now s = .ok (r, s')) : RowStep o id s s' := by
  simp only [recordRecoveryDispatchFailure] at e
  split at e
  · cases e
    refine .of_update ?_ instance?_appendEventFor rfl ?_
    · exact fun _ => rfl
    · intro d row eq _
      exact .failed rfl rfl
  · cases e

lemma observeMissingResource_rowStep {sweepId : Uuid} {database : TrackedDatabaseResource}
    {now : Date} {r : Unit}
    (e : observeMissingResource sweepId database now findingId s = .ok (r, s')) :
    RowStep o id s s' := by
  simp only [observeMissingResource] at e
  split at e
  · cases e
    exact .of_same instance?_observeFinding
  split at e
  · cases e
    exact .of_same instance?_observeFinding
  split at e
  · cases e
    refine .of_update ?_ instance?_appendEvent instance?_observeFinding ?_
    · exact fun _ => rfl
    · intro d row eq _
      exact .failed rfl rfl
  · cases e
    exact .of_same instance?_observeFinding

lemma claimOrphanCleanup_instance? {sweepId : Uuid} {externalId : String} {now : Date} {r : Bool}
    (e : claimOrphanCleanup sweepId findingId externalId now s = .ok (r, s')) :
    s'.instance? id = s.instance? id := by
  simp only [claimOrphanCleanup] at e
  split at e
  · cases e
    rfl
  split at e
  · cases e
    rfl
  split at e
  · cases e
    rfl
  · cases e
    rfl

lemma observeOrphanResource_instance? {sweepId : Uuid} {resource : ManagedDatabaseResource}
    {now : Date} {graceMs : Nat} {r : OrphanResourceObservation}
    (e : observeOrphanResource sweepId resource now graceMs findingId s = .ok (r, s')) :
    s'.instance? id = s.instance? id := by
  simp only [observeOrphanResource] at e
  split at e
  · cases e
  · cases e
    exact instance?_observeFinding

lemma approveOrphanCleanup_instance? {externalId : String} {approvedBy : Uuid} {now : Date}
    {r : ApproveOrphanCleanupResult}
    (e : approveOrphanCleanup findingId externalId approvedBy now s = .ok (r, s')) :
    s'.instance? id = s.instance? id := by
  simp only [approveOrphanCleanup] at e
  split at e
  · cases e
    rfl
  split at e
  · cases e
    rfl
  split at e
  · cases e
    rfl
  split at e
  · cases e
    rfl
  · cases e
    rfl

lemma beginSweep_instance? {begin : BeginSweepInput} {newId r : Uuid}
    (e : beginSweep begin newId s = .ok (r, s')) : s'.instance? id = s.instance? id := by
  simp only [beginSweep] at e
  split at e
  · cases e
  · cases e
    rfl

end Reconciliation

/-- Every operation changes the row of an instance in one of the ways of `RowChange`. -/
lemma transact_rowStep {env : Environment} {r : o.Answer} (e : transact env o s = .ok (r, s')) :
    RowStep o id s s' := by
  cases o with
  | claim job now => exact claim_rowStep e
  | recordProvisioned database result now => exact recordProvisioned_rowStep e
  | recordHealthCheck database message now => exact recordHealthCheck_rowStep e
  | startMigration database now => exact startMigration_rowStep e
  | completeMigration database reports now => exact completeMigration_rowStep e
  | completeDestroy database now => exact completeDestroy_rowStep e
  | fail database error now => exact fail_rowStep e
  | createDatabaseOperation userId projectId key input now =>
    obtain ⟨rfl, -⟩ | ⟨-, absent, -, others⟩ := createDatabaseOperation_cases e
    · exact .of_same rfl
    · intro d row
      have ne : id ≠ env.id := by
        rintro rfl
        rw [absent] at row
        cases row
      exact ⟨d, (others id ne).trans row, .kept rfl rfl⟩
  | requestDatabaseAction userId projectId databaseInstanceId now =>
    exact requestDatabaseAction_rowStep e
  | markDatabaseOperationFailed databaseInstanceId operationId version error now =>
    exact markDatabaseOperationFailed_rowStep e
  | recoverStaleOperations input => exact recoverStaleOperations_rowStep e
  | recordRecoveryDispatchFailure current error now =>
    exact recordRecoveryDispatchFailure_rowStep e
  | observeMissingResource sweepId database now => exact observeMissingResource_rowStep e
  | claimOrphanCleanup sweepId findingId externalId now =>
    exact .of_same (claimOrphanCleanup_instance? e)
  | observeOrphanResource sweepId resource now graceMs =>
    exact .of_same (observeOrphanResource_instance? e)
  | approveOrphanCleanup findingId externalId approvedBy now =>
    exact .of_same (approveOrphanCleanup_instance? e)
  | beginSweep input => exact .of_same (beginSweep_instance? e)
  -- the other operations only read, or write other tables, without a branch
  | _ =>
    cases e
    exact .of_same rfl

/-- The two ways a call can go: it changes nothing and fails, or the transaction takes effect and the
    caller sees its answer or an error. -/
lemma perform_cases (o : Operation) (env : Environment) (s : DatabaseState) :
    (∃ error, perform o env s = (.error error, s)) ∨
    ∃ r store, transact env o s.store = .ok (r, store) ∧ env.TakesEffect ∧
      (perform o env s).2 = ⟨store, o.enqueued s.queue⟩ ∧
      ((perform o env s).1 = .ok r ∨ ∃ error, (perform o env s).1 = .error error) := by
  simp only [perform]
  split
  · rename_i r store e fate
    exact .inr ⟨r, store, e, fun error => by simp [fate], rfl, .inl rfl⟩
  · rename_i r store error e fate
    exact .inr ⟨r, store, e, fun error => by simp [fate], rfl, .inr ⟨error, rfl⟩⟩
  · exact .inl ⟨_, rfl⟩
  · exact .inl ⟨_, rfl⟩
  · exact .inl ⟨_, rfl⟩

/-- The step lemma of the rows. -/
lemma perform_rowStep (id : Uuid) (o : Operation) (env : Environment) (s : DatabaseState) :
    RowStep o id s.store (perform o env s).2.store := by
  obtain ⟨error, e⟩ | ⟨r, store, e, -, after, -⟩ := perform_cases o env s
  · rw [e]
    exact .of_same rfl
  · rw [after]
    exact transact_rowStep e

end AtomsPlatform.Database
