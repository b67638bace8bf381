import AtomsPlatform.Database.Rows

/-!
# The table of instances

What an operation does to a row beyond its status: only the worker's record of a provisioning says
which resource a row is about, only a sweep counts recoveries, and a deleted row stays deleted unless
a failure is recorded on it. `Recovered` is what one recovery does to one row, with the jobs it plans.
-/

namespace AtomsPlatform.Database
open Interleaving

/-- There is one row for an identifier. -/
def InstancesKeyed (s : DatabaseStore) : Prop :=
  (s.instances.map DatabaseInstance.id).Nodup

/-- The instance an operation records a failure on, whatever its status. -/
def Operation.failing? : Operation → Option Uuid
  | .fail database _ _ => some database.id
  | .markDatabaseOperationFailed databaseInstanceId _ _ _ _ => some databaseInstanceId
  | .recordRecoveryDispatchFailure current _ _ => some current.id
  | _ => none

/-- What an operation does to the fields of a row. -/
structure FieldChange (o : Operation) (d d' : DatabaseInstance) : Prop where
  externalId : d'.externalId = d.externalId ∨ ∃ database result now,
    o = .recordProvisioned database result now ∧ d'.externalId = some result.externalId
  recoveryCount : d'.recoveryCount = d.recoveryCount ∨ ∃ input, o = .recoverStaleOperations input
  deleted : d.status = .deleted → d'.status = .deleted ∨ o.failing? = some d.id

/-- What an operation does to the table of instances. -/
structure InstanceStep (o : Operation) (s s' : DatabaseStore) : Prop where
  keyed : InstancesKeyed s'
  change : ∀ id d, s.instance? id = some d → ∃ d', s'.instance? id = some d' ∧ FieldChange o d d'
  new : ∀ id d', s.instance? id = none → s'.instance? id = some d' →
    d'.externalId = none ∧ d'.recoveryCount = 0

lemma FieldChange.refl {o : Operation} {d : DatabaseInstance} : FieldChange o d d :=
  ⟨.inl rfl, .inl rfl, .inl⟩

/-- A change of a row that is not deleted, and of other fields. -/
lemma FieldChange.of_live {o : Operation} {d d' : DatabaseInstance}
    (externalId : d'.externalId = d.externalId) (recoveryCount : d'.recoveryCount = d.recoveryCount)
    (live : d.status ≠ .deleted) : FieldChange o d d' :=
  ⟨.inl externalId, .inl recoveryCount, fun deleted => absurd deleted live⟩

/-- A failure is recorded on a row. -/
lemma FieldChange.of_failing {o : Operation} {d d' : DatabaseInstance}
    (externalId : d'.externalId = d.externalId) (recoveryCount : d'.recoveryCount = d.recoveryCount)
    (failing : o.failing? = some d.id) : FieldChange o d d' :=
  ⟨.inl externalId, .inl recoveryCount, fun _ => .inr failing⟩

section Table
variable {o : Operation} {s s' : DatabaseStore} {k : Uuid} {p : DatabaseInstance → Bool}
  {data : DatabaseInstance → DatabaseInstance}

lemma InstancesKeyed.lookup (keyed : InstancesKeyed s) {d : DatabaseInstance}
    (mem : d ∈ s.instances) : s.instance? d.id = some d :=
  Table.lookup_of_mem keyed mem

lemma instance?_of_instances (same : s'.instances = s.instances) (id : Uuid) :
    s'.instance? id = s.instance? id := by
  rw [DatabaseStore.instance?, same]
  rfl

lemma InstancesKeyed.of_instances (keyed : InstancesKeyed s) (same : s'.instances = s.instances) :
    InstancesKeyed s' := by
  rw [InstancesKeyed, same]
  exact keyed

lemma InstancesKeyed.updateInstance (keyed : InstancesKeyed s) (keeps : ∀ d, (data d).id = d.id) :
    InstancesKeyed (s.updateInstance k p data) := by
  have same : (s.updateInstance k p data).instances.map DatabaseInstance.id =
      s.instances.map DatabaseInstance.id := Table.keys_update fun d _ => keeps d
  rw [InstancesKeyed, same]
  exact keyed

lemma InstanceStep.of_same (keyed : InstancesKeyed s) (same : s'.instances = s.instances) :
    InstanceStep o s s' := by
  refine ⟨keyed.of_instances same, fun id d row => ?_, fun id d' absent row => ?_⟩
  · exact ⟨d, (instance?_of_instances same id).trans row, .refl⟩
  · rw [instance?_of_instances same id, absent] at row
    cases row

/-- An update of one row is a step if the change it makes is a `FieldChange`. -/
lemma InstanceStep.of_update {s₀ : DatabaseStore} (keyed : InstancesKeyed s)
    (keeps : ∀ d, (data d).id = d.id)
    (updated : s'.instances = (s₀.updateInstance k p data).instances)
    (before : s₀.instances = s.instances)
    (change : ∀ d, s.instance? k = some d → p d = true → FieldChange o d (data d)) :
    InstanceStep o s s' := by
  have row' (id : Uuid) : s'.instance? id =
      (s.instance? id).map fun d => if id = k ∧ p d = true then data d else d := by
    rw [instance?_of_instances updated, instance?_updateInstance keeps,
      instance?_of_instances before]
  refine ⟨((keyed.of_instances before).updateInstance keeps).of_instances updated,
    fun id d row => ?_, fun id d' absent row => ?_⟩
  · rw [row' id, row]
    refine ⟨_, rfl, ?_⟩
    dsimp only
    split
    · rename_i matched
      exact change d (matched.1 ▸ row) matched.2
    · exact .refl
  · rw [row' id, absent] at row
    cases row

end Table

section Worker
variable {o : Operation} {s s' : DatabaseStore} {database : DatabaseExecutionRecord} {now : Date}

@[simp]
lemma instances_appendEventFor {artifact : Option MigrationArtifact} {event : DatabaseStatusChanged} :
    (s.appendEventFor artifact event).instances = s.instances := by
  cases artifact <;> rfl

@[simp]
lemma instances_upsertSecretReference {reference : String} :
    (upsertSecretReference s database reference).instances = s.instances := by
  unfold upsertSecretReference
  split <;> rfl

@[simp]
lemma instances_upsertMigrationRun : (upsertMigrationRun s database now).instances = s.instances := by
  unfold upsertMigrationRun
  split <;> rfl

@[simp]
lemma instances_revokeSecretReference {reference : Option String} :
    (revokeSecretReference s reference now).instances = s.instances := by
  cases reference <;> rfl

@[simp]
lemma instances_observeFinding {id : Uuid} {input : FindingInput} :
    (observeFinding id input s).2.instances = s.instances := by
  unfold observeFinding
  dsimp only
  split <;> rfl

lemma ownedIn_live {status : DatabaseInstanceStatus} {d : DatabaseInstance}
    (owned : ownedIn database status d = true) (live : status ≠ .deleted) : d.status ≠ .deleted := by
  rw [(ownedIn_iff.mp owned).2.2]
  exact live

lemma claim_instances {job : DatabaseOperationJob} {r : DatabaseClaimResult} (keyed : InstancesKeyed s)
    (e : claim job now s = .ok (r, s')) : InstanceStep o s s' := by
  simp only [claim] at e
  split at e
  · cases e
    exact .of_same keyed rfl
  rename_i current row
  split at e
  · cases e
    exact .of_same keyed rfl
  split at e
  · cases e
    exact .of_same keyed rfl
  split at e
  · split at e
    · split at e
      · cases e
        refine .of_update keyed ?_ rfl rfl ?_
        · exact fun _ => rfl
        · exact fun d _ _ => ⟨.inl rfl, .inl rfl, .inl⟩
      · cases e
        exact .of_same keyed rfl
    · split at e
      · cases e
        exact .of_same keyed rfl
      · rename_i unsettled
        cases e
        refine .of_update keyed ?_ rfl rfl ?_
        · exact fun _ => rfl
        · intro d row' _
          rw [instance?_id row, row] at row'
          cases row'
          refine .of_live rfl rfl fun deleted => unsettled ?_
          rw [deleted]
          rfl
  · cases e
    exact .of_same keyed rfl

lemma recordProvisioned_instances {result : DatabaseProvisionResult} {r : Bool}
    (keyed : InstancesKeyed s) (e : recordProvisioned database result now s = .ok (r, s')) :
    InstanceStep (.recordProvisioned database result now) s s' := by
  simp only [recordProvisioned] at e
  split at e
  · cases e
    refine .of_update keyed ?_ rfl instances_upsertSecretReference ?_
    · exact fun _ => rfl
    · intro d row owned
      refine ⟨.inr ⟨database, result, now, rfl, rfl⟩, .inl rfl, fun deleted => ?_⟩
      exact absurd deleted (ownedIn_live owned (by decide))
  · cases e
    exact .of_same keyed instances_upsertSecretReference

lemma recordHealthCheck_instances {message : String} {r : Bool} (keyed : InstancesKeyed s)
    (e : recordHealthCheck database message now s = .ok (r, s')) : InstanceStep o s s' := by
  simp only [recordHealthCheck] at e
  split at e
  · cases e
    refine .of_update keyed ?_ rfl rfl ?_
    · exact fun _ => rfl
    · exact fun d row owned => .of_live rfl rfl (ownedIn_live owned (by decide))
  · cases e
    exact .of_same keyed rfl

lemma startMigration_instances {r : Bool} (keyed : InstancesKeyed s)
    (e : startMigration database now s = .ok (r, s')) : InstanceStep o s s' := by
  simp only [startMigration] at e
  split at e
  · cases e
    refine .of_update keyed ?_ instances_upsertMigrationRun rfl ?_
    · exact fun _ => rfl
    · exact fun d row owned => .of_live rfl rfl (ownedIn_live owned (by decide))
  · cases e
    exact .of_same keyed rfl

lemma completeMigration_instances {reports : List DatabaseMigrationStepReport} {r : Bool}
    (keyed : InstancesKeyed s) (e : completeMigration database reports now s = .ok (r, s')) :
    InstanceStep o s s' := by
  simp only [completeMigration] at e
  split at e
  · split at e
    · cases e
      refine .of_update keyed ?_ rfl rfl ?_
      · exact fun _ => rfl
      · exact fun d row owned => .of_live rfl rfl (ownedIn_live owned (by decide))
    · cases e
  · cases e
    exact .of_same keyed rfl

lemma completeDestroy_instances {r : Bool} (keyed : InstancesKeyed s)
    (e : completeDestroy database now s = .ok (r, s')) : InstanceStep o s s' := by
  simp only [completeDestroy] at e
  split at e
  · cases e
    refine .of_update keyed ?_ instances_revokeSecretReference rfl ?_
    · exact fun _ => rfl
    · exact fun d row owned => .of_live rfl rfl (ownedIn_live owned (by decide))
  · cases e
    exact .of_same keyed rfl

lemma fail_instances {error : OperationError} {r : Unit} (keyed : InstancesKeyed s)
    (e : fail database error now s = .ok (r, s')) :
    InstanceStep (.fail database error now) s s' := by
  cases e
  refine .of_update keyed ?_ rfl rfl ?_
  · exact fun _ => rfl
  · exact fun d row _ => .of_failing rfl rfl (congrArg some (instance?_id row).symm)

end Worker

section Control
variable {o : Operation} {s s' : DatabaseStore} {now : Date}

lemma createDatabaseOperation_instances {userId projectId id operationId : Uuid} {key : String}
    {input : ProvisionDatabaseInput} {r : CreateDatabaseOperationResult} (keyed : InstancesKeyed s)
    (e : createDatabaseOperation userId projectId key input now id operationId s = .ok (r, s')) :
    InstanceStep o s s' := by
  simp only [createDatabaseOperation] at e
  split at e
  · rename_i existing _
    cases answered : replay existing projectId input with
    | ok answer =>
      rw [answered] at e
      cases e
      exact .of_same keyed rfl
    | error error =>
      rw [answered] at e
      cases e
  split at e
  · cases e
    exact .of_same keyed rfl
  split at e
  · cases e
    exact .of_same keyed rfl
  split at e
  · cases e
    exact .of_same keyed rfl
  split at e
  · cases e
  · rename_i fresh
    simp only [toDatabaseRecord, Except.map] at e
    cases e
    have absent : ∀ d ∈ s.instances, d.id ≠ id := by
      intro d mem same
      exact fresh (List.any_eq_true.mpr ⟨d, mem, decide_eq_true (.inl same)⟩)
    refine ⟨Table.nodup_append keyed absent, fun id' d row => ?_, fun id' d' absent' row => ?_⟩
    · exact ⟨d, Table.lookup_append_of_some row, .refl⟩
    · by_cases here : id = id'
      · subst here
        cases (Table.lookup_append_new absent' rfl).symm.trans row
        exact ⟨rfl, rfl⟩
      · cases ((Table.lookup_append_ne here).symm.trans row).symm.trans absent'

lemma requestDatabaseAction_instances {userId projectId databaseInstanceId : Uuid}
    {r : DestroyDatabaseOperationResult} (keyed : InstancesKeyed s)
    (e : requestDatabaseAction userId projectId databaseInstanceId now s = .ok (r, s')) :
    InstanceStep o s s' := by
  simp only [requestDatabaseAction] at e
  split at e
  · cases e
    exact .of_same keyed rfl
  rename_i current row
  split at e
  · cases e
    exact .of_same keyed rfl
  split at e
  · cases record : toDatabaseRecord current with
    | ok record' =>
      rw [record] at e
      cases e
      exact .of_same keyed rfl
    | error error =>
      rw [record] at e
      cases e
  split at e
  · cases e
    exact .of_same keyed rfl
  · rename_i live _
    simp only [toDatabaseRecord] at e
    split at e
    · cases e
      refine .of_update keyed ?_ instances_appendEventFor rfl ?_
      · exact fun _ => rfl
      · intro d row' _
        rw [instance?_id row, row] at row'
        cases row'
        exact .of_live rfl rfl fun deleted => live (.inr deleted)
    · cases e

lemma markDatabaseOperationFailed_instances {databaseInstanceId operationId : Uuid} {version : Nat}
    {error : OperationError} {r : Unit} (keyed : InstancesKeyed s)
    (e : markDatabaseOperationFailed databaseInstanceId operationId version error now s =
      .ok (r, s')) :
    InstanceStep (.markDatabaseOperationFailed databaseInstanceId operationId version error now)
      s s' := by
  cases e
  refine .of_update keyed ?_ rfl rfl ?_
  · exact fun _ => rfl
  · exact fun d row _ => .of_failing rfl rfl (congrArg some (instance?_id row).symm)

end Control

section Recovery

/-- The error of an instance whose recovery was given up. -/
def recoveryExhausted : OperationError where
  code := "DATABASE_RECOVERY_EXHAUSTED"
  message := "Automatic database recovery attempts were exhausted"
  retryable := some false

/-- The jobs of a plan for an instance. -/
def DatabaseRecoveryPlan.jobsFor (plan : DatabaseRecoveryPlan) (id : Uuid) :
    List DatabaseOperationJob :=
  plan.dispatches.filter fun job => job.databaseInstanceId = id

/-- What a recovery does to a row, and the jobs it plans for it. -/
inductive Recovered (input : RecoverInput) (d d' : DatabaseInstance) :
    List DatabaseOperationJob → Prop where
  | kept :
    d' = d →
    Recovered input d d' []
  | exhausted :
    recoverable d.status = true →
    input.maxRecoveryAttempts ≤ d.recoveryCount →
    d' = { d with
      status := .failed
      lastReconciledAt := some input.now
      lastHeartbeatAt := some input.now
      error := some recoveryExhausted } →
    Recovered input d d' []
  | fenced :
    recoverable d.status = true →
    d.recoveryCount < input.maxRecoveryAttempts →
    d' = fenceInstance d input.now d →
    Recovered input d d' [recoveryJob d]

variable {input : RecoverInput} {findingIds : Uuid → Uuid} {candidate d : DatabaseInstance}
  {acc : DatabaseRecoveryPlan × DatabaseStore} {o : Operation} {s s' : DatabaseStore} {id : Uuid}

lemma jobsFor_append_ne {plan : DatabaseRecoveryPlan} {job : DatabaseOperationJob}
    (ne : job.databaseInstanceId ≠ id) :
    ({ plan with dispatches := plan.dispatches ++ [job] } : DatabaseRecoveryPlan).jobsFor id =
      plan.jobsFor id := by
  simp [DatabaseRecoveryPlan.jobsFor, List.filter_append, ne]

/-- A recovery leaves the rows of other instances alone, and plans nothing for them. -/
lemma recoverCandidate_other (ne : id ≠ candidate.id) :
    (recoverCandidate input findingIds acc candidate).2.instance? id = acc.2.instance? id ∧
      (recoverCandidate input findingIds acc candidate).1.jobsFor id = acc.1.jobsFor id := by
  simp only [recoverCandidate, exhaustCandidate, dispatchCandidate]
  repeat' split
  · exact ⟨rfl, rfl⟩
  · refine ⟨?_, rfl⟩
    rw [instance?_appendEventFor, instance?_observeFinding]
    exact Table.lookup_update_ne (fun _ same => same) ne
  · exact ⟨rfl, rfl⟩
  · refine ⟨?_, jobsFor_append_ne ne.symm⟩
    rw [instance?_appendEventFor]
    exact Table.lookup_update_ne (fun _ same => same) ne
  · exact ⟨rfl, rfl⟩

/-- The recovery of a candidate that is as it was read. -/
lemma recoverCandidate_self (row : acc.2.instance? candidate.id = some candidate)
    (status : recoverable candidate.status = true) :
    ∃ d' jobs, (recoverCandidate input findingIds acc candidate).2.instance? candidate.id = some d' ∧
      (recoverCandidate input findingIds acc candidate).1.jobsFor candidate.id =
        acc.1.jobsFor candidate.id ++ jobs ∧ Recovered input candidate d' jobs := by
  simp only [recoverCandidate]
  split
  · exact ⟨candidate, [], row, (List.append_nil _).symm, .kept rfl⟩
  split
  · rename_i attempts
    simp only [exhaustCandidate]
    split
    · refine ⟨_, [], ?_, (List.append_nil _).symm, .exhausted status attempts rfl⟩
      rw [instance?_appendEventFor, instance?_observeFinding, instance?_updateInstance, row]
      · simp [recoveryExhausted]
      · exact fun _ => rfl
    · exact ⟨candidate, [], row, (List.append_nil _).symm, .kept rfl⟩
  · rename_i attempts
    simp only [dispatchCandidate]
    split
    · refine ⟨_, [recoveryJob candidate], ?_, ?_, .fenced status (Nat.lt_of_not_le attempts) rfl⟩
      · rw [instance?_appendEventFor, instance?_updateInstance, row]
        · simp [unchangedSince]
        · exact fun _ => rfl
      · simp [DatabaseRecoveryPlan.jobsFor, List.filter_append, recoveryJob]
    · exact ⟨candidate, [], row, (List.append_nil _).symm, .kept rfl⟩

/-- Candidates of other instances leave a row alone, and plan nothing for it. -/
lemma foldl_other (input : RecoverInput) (findingIds : Uuid → Uuid)
    (acc : DatabaseRecoveryPlan × DatabaseStore) {candidates : List DatabaseInstance}
    (others : id ∉ candidates.map DatabaseInstance.id) :
    (candidates.foldl (recoverCandidate input findingIds) acc).2.instance? id = acc.2.instance? id ∧
      (candidates.foldl (recoverCandidate input findingIds) acc).1.jobsFor id = acc.1.jobsFor id := by
  induction candidates generalizing acc with
  | nil => exact ⟨rfl, rfl⟩
  | cons candidate candidates ih =>
    rw [List.map_cons, List.mem_cons, not_or] at others
    obtain ⟨same, rest⟩ := ih (recoverCandidate input findingIds acc candidate) others.2
    obtain ⟨same', rest'⟩ := recoverCandidate_other others.1
    exact ⟨same.trans same', rest.trans rest'⟩

/-- A recovery of several candidates, each of which is as it was read. -/
lemma foldl_recovered (input : RecoverInput) (findingIds : Uuid → Uuid)
    (acc : DatabaseRecoveryPlan × DatabaseStore) {candidates : List DatabaseInstance}
    (distinct : (candidates.map DatabaseInstance.id).Nodup)
    (rows : ∀ c ∈ candidates, acc.2.instance? c.id = some c ∧ recoverable c.status = true)
    (row : acc.2.instance? id = some d) :
    ∃ d' jobs, (candidates.foldl (recoverCandidate input findingIds) acc).2.instance? id = some d' ∧
      (candidates.foldl (recoverCandidate input findingIds) acc).1.jobsFor id =
        acc.1.jobsFor id ++ jobs ∧ Recovered input d d' jobs := by
  induction candidates generalizing acc with
  | nil => exact ⟨d, [], row, (List.append_nil _).symm, .kept rfl⟩
  | cons candidate candidates ih =>
    rw [List.map_cons, List.nodup_cons] at distinct
    obtain ⟨self, status⟩ := rows candidate List.mem_cons_self
    rw [List.foldl_cons]
    by_cases here : id = candidate.id
    · -- no later candidate is of this instance
      subst here
      cases self.symm.trans row
      obtain ⟨d', jobs, row', planned, recovered⟩ := recoverCandidate_self self status
      obtain ⟨same, rest⟩ :=
        foldl_other input findingIds (recoverCandidate input findingIds acc _) distinct.1
      exact ⟨d', jobs, same.trans row', rest.trans planned, recovered⟩
    · obtain ⟨same, rest⟩ := recoverCandidate_other here
      have rows' : ∀ c ∈ candidates,
          (recoverCandidate input findingIds acc candidate).2.instance? c.id = some c ∧
            recoverable c.status = true := by
        intro c mem
        obtain ⟨own, recoverable⟩ := rows c (List.mem_cons_of_mem _ mem)
        have ne : c.id ≠ candidate.id := fun same =>
          distinct.1 (same ▸ List.mem_map_of_mem mem)
        exact ⟨(recoverCandidate_other ne).1.trans own, recoverable⟩
      obtain ⟨d', jobs, row', planned, recovered⟩  :=
        ih (recoverCandidate input findingIds acc candidate) distinct.2 rows' (same.trans row)
      rw [rest] at planned
      exact ⟨d', jobs, row', planned, recovered⟩

lemma recoverCandidate_ids :
    (recoverCandidate input findingIds acc candidate).2.instances.map DatabaseInstance.id =
      acc.2.instances.map DatabaseInstance.id := by
  simp only [recoverCandidate, exhaustCandidate, dispatchCandidate]
  repeat' split
  all_goals simp only [instances_appendEventFor, instances_observeFinding]
  · exact Table.keys_update fun _ _ => rfl
  · exact Table.keys_update fun _ _ => rfl

lemma foldl_ids (candidates : List DatabaseInstance) :
    (candidates.foldl (recoverCandidate input findingIds) acc).2.instances.map DatabaseInstance.id =
      acc.2.instances.map DatabaseInstance.id := by
  induction candidates generalizing acc with
  | nil => rfl
  | cons candidate candidates ih => exact ih.trans recoverCandidate_ids

/-- The candidates are rows of the table, each at most once. -/
lemma recoveryCandidates_rows (input : RecoverInput) (keyed : InstancesKeyed s) :
    ((recoveryCandidates input s).map DatabaseInstance.id).Nodup ∧
      ∀ c ∈ recoveryCandidates input s, s.instance? c.id = some c ∧ recoverable c.status = true := by
  have sorted := List.perm_insertionSort (fun d e => heartbeatLe d e = true)
    (s.instances.filter (isStale input.staleBefore))
  constructor
  · have stale : ((s.instances.filter (isStale input.staleBefore)).map DatabaseInstance.id).Nodup :=
      keyed.sublist (List.filter_sublist.map _)
    exact ((sorted.map _).nodup_iff.mpr stale).sublist ((List.take_sublist _ _).map _)
  · intro c mem
    have stale := List.mem_filter.mp (sorted.mem_iff.mp (List.mem_of_mem_take mem))
    exact ⟨keyed.lookup stale.1, (Bool.and_eq_true_iff.mp stale.2).1⟩

/-- What a sweep's recovery does to the row of an instance. -/
lemma recoverStaleOperations_recovered {plan : DatabaseRecoveryPlan} (keyed : InstancesKeyed s)
    (e : recoverStaleOperations input findingIds s = .ok (plan, s')) :
    (∀ d, s.instance? id = some d →
        ∃ d', s'.instance? id = some d' ∧ Recovered input d d' (plan.jobsFor id)) ∧
      (s.instance? id = none → s'.instance? id = none ∧ plan.jobsFor id = []) := by
  obtain ⟨distinct, rows⟩ := recoveryCandidates_rows input keyed
  have result := Except.ok.inj e
  refine ⟨fun d row => ?_, fun absent => ?_⟩
  · obtain ⟨d', jobs, row', planned, recovered⟩ :=
      foldl_recovered input findingIds ({}, s) distinct rows row
    rw [result] at row' planned
    exact ⟨d', row', planned ▸ recovered⟩
  · have others : id ∉ (recoveryCandidates input s).map DatabaseInstance.id := by
      intro mem
      obtain ⟨c, there, rfl⟩ := List.mem_map.mp mem
      cases (rows c there).1.symm.trans absent
    obtain ⟨same, rest⟩ := foldl_other input findingIds ({}, s) others
    rw [result] at same rest
    exact ⟨same.trans absent, rest⟩

/-- A recovery neither moves a resource nor revives a deleted row. -/
lemma Recovered.fieldChange {d' : DatabaseInstance} {jobs : List DatabaseOperationJob}
    (recovered : Recovered input d d' jobs) : FieldChange (.recoverStaleOperations input) d d' := by
  have live (status : recoverable d.status = true) : d.status ≠ .deleted := by
    intro deleted
    rw [deleted] at status
    cases status
  cases recovered with
  | kept same =>
    subst same
    exact .refl
  | exhausted status _ e | fenced status _ e =>
    subst e
    exact ⟨.inl rfl, .inr ⟨input, rfl⟩, fun deleted => absurd deleted (live status)⟩

lemma recoverStaleOperations_instances {plan : DatabaseRecoveryPlan} (keyed : InstancesKeyed s)
    (e : recoverStaleOperations input findingIds s = .ok (plan, s')) :
    InstanceStep (.recoverStaleOperations input) s s' := by
  have keyed' : InstancesKeyed s' := by
    rw [InstancesKeyed, ← show _ = s' from congrArg Prod.snd (Except.ok.inj e), foldl_ids]
    exact keyed
  refine ⟨keyed', fun id d row => ?_, fun id d' absent row => ?_⟩
  · obtain ⟨d', row', recovered⟩ := (recoverStaleOperations_recovered keyed e).1 d row
    exact ⟨d', row', recovered.fieldChange⟩
  · cases ((recoverStaleOperations_recovered keyed e).2 absent).1.symm.trans row

lemma recordRecoveryDispatchFailure_instances {current : DatabaseInstance} {error : OperationError}
    {now : Date} {r : Unit} (keyed : InstancesKeyed s)
    (e : recordRecoveryDispatchFailure current error now s = .ok (r, s')) :
    InstanceStep (.recordRecoveryDispatchFailure current error now) s s' := by
  simp only [recordRecoveryDispatchFailure] at e
  split at e
  · cases e
    refine .of_update keyed ?_ instances_appendEventFor rfl ?_
    · exact fun _ => rfl
    · exact fun d row _ => .of_failing rfl rfl (congrArg some (instance?_id row).symm)
  · cases e

lemma observeMissingResource_instances {sweepId findingId : Uuid}
    {database : TrackedDatabaseResource} {now : Date} {r : Unit} (keyed : InstancesKeyed s)
    (e : observeMissingResource sweepId database now findingId s = .ok (r, s')) :
    InstanceStep o s s' := by
  simp only [observeMissingResource] at e
  split at e
  · cases e
    exact .of_same keyed instances_observeFinding
  split at e
  · cases e
    exact .of_same keyed instances_observeFinding
  split at e
  · cases e
    refine .of_update keyed ?_ rfl instances_observeFinding ?_
    · exact fun _ => rfl
    · intro d row vanished
      refine .of_live rfl rfl fun deleted => ?_
      rw [deleted] at vanished
      simp at vanished
  · cases e
    exact .of_same keyed instances_observeFinding

end Recovery

section Steps
variable {o : Operation} {s s' : DatabaseStore}

/-- Every operation is a step of the table of instances. -/
lemma transact_instances {env : Environment} {r : o.Answer} (keyed : InstancesKeyed s)
    (e : transact env o s = .ok (r, s')) : InstanceStep o s s' := by
  cases o with
  | claim job now => exact claim_instances keyed e
  | recordProvisioned database result now => exact recordProvisioned_instances keyed e
  | recordHealthCheck database message now => exact recordHealthCheck_instances keyed e
  | startMigration database now => exact startMigration_instances keyed e
  | completeMigration database reports now => exact completeMigration_instances keyed e
  | completeDestroy database now => exact completeDestroy_instances keyed e
  | fail database error now => exact fail_instances keyed e
  | createDatabaseOperation userId projectId key input now =>
    exact createDatabaseOperation_instances keyed e
  | requestDatabaseAction userId projectId databaseInstanceId now =>
    exact requestDatabaseAction_instances keyed e
  | markDatabaseOperationFailed databaseInstanceId operationId version error now =>
    exact markDatabaseOperationFailed_instances keyed e
  | recoverStaleOperations input => exact recoverStaleOperations_instances keyed e
  | recordRecoveryDispatchFailure current error now =>
    exact recordRecoveryDispatchFailure_instances keyed e
  | observeMissingResource sweepId database now => exact observeMissingResource_instances keyed e
  | beginSweep input =>
    simp only [transact, beginSweep] at e
    split at e
    · cases e
    · cases e
      exact .of_same keyed rfl
  | observeOrphanResource sweepId resource now graceMs =>
    simp only [transact, observeOrphanResource] at e
    split at e
    · cases e
    · cases e
      exact .of_same keyed instances_observeFinding
  | claimOrphanCleanup sweepId findingId externalId now =>
    simp only [transact, claimOrphanCleanup] at e
    repeat' split at e
    all_goals
      cases e
      exact .of_same keyed rfl
  | approveOrphanCleanup findingId externalId approvedBy now =>
    simp only [transact, approveOrphanCleanup] at e
    repeat' split at e
    all_goals
      cases e
      exact .of_same keyed rfl
  -- the other operations write no instances
  | _ =>
    cases e
    exact .of_same keyed rfl

/-- The step lemma of the table of instances. -/
lemma perform_instances {s : DatabaseState} (keyed : InstancesKeyed s.store) (o : Operation)
    (env : Environment) : InstanceStep o s.store (perform o env s).2.store := by
  obtain ⟨error, e⟩ | ⟨r, store, e, -, after, -⟩ := perform_cases o env s
  · rw [e]
    exact .of_same keyed rfl
  · rw [after]
    exact transact_instances keyed e

/-- The rows keep distinct identifiers in every run. -/
lemma instancesKeyed_of_reaches {G : DatabaseConfig → databaseSystem.Label → Prop}
    {c₀ c : DatabaseConfig} (starts : Starts c₀) (run : databaseSystem.Reaches G c₀ c) :
    InstancesKeyed c.store.store := by
  refine run.invariant (P := fun c => InstancesKeyed c.store.store) ?_ ?_
  · intro c l c' keyed _ step
    cases step with
    | act env at_i => exact (perform_instances keyed _ env).keyed
    | spawn adm => exact keyed
  · show InstancesKeyed c₀.store.store
    rw [InstancesKeyed, starts.1]
    exact List.nodup_nil

end Steps

end AtomsPlatform.Database
