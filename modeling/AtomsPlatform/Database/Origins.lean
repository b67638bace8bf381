import AtomsPlatform.Database.Instances

/-!
# Where instances come from

A row of the table of instances is created by one request, and no operation ever changes whose it is,
which artifact it was requested for or under which idempotency key (`Origin`). Rows are not removed:
the table of a later state begins with the origins of an earlier one.
-/

namespace AtomsPlatform.Database
open Interleaving

/-- What a request for a database writes into its row for good. -/
structure Origin where
  id : Uuid
  workspaceId : Uuid
  projectId : Uuid
  migrationArtifactId : Option Uuid
  idempotencyKey : String
deriving DecidableEq, Repr

/-- The origin of a row. -/
def DatabaseInstance.origin (d : DatabaseInstance) : Origin where
  id := d.id
  workspaceId := d.workspaceId
  projectId := d.projectId
  migrationArtifactId := d.migrationArtifactId
  idempotencyKey := d.idempotencyKey

/-- A row keeps its origin, and a region once it has one. -/
structure Continues (d d' : DatabaseInstance) : Prop where
  origin : d'.origin = d.origin
  region : d.region.isSome → d'.region.isSome

lemma Continues.refl (d : DatabaseInstance) : Continues d d :=
  ⟨rfl, id⟩

lemma Continues.trans {d d' d'' : DatabaseInstance} (first : Continues d d')
    (second : Continues d' d'') : Continues d d'' :=
  ⟨second.origin.trans first.origin, fun some => second.region (first.region some)⟩

/-- Every row of a table continues in another one, at the same place. -/
structure SameRows (s s' : DatabaseStore) : Prop where
  rows : List.Forall₂ Continues s.instances s'.instances
  migrationArtifacts : s'.migrationArtifacts = s.migrationArtifacts

section SameRows
variable {s s' s'' : DatabaseStore}

lemma forall₂_continues_refl (ds : List DatabaseInstance) : List.Forall₂ Continues ds ds := by
  induction ds with
  | nil => exact .nil
  | cons d ds ih => exact .cons (.refl d) ih

lemma forall₂_continues_trans {ds ds' ds'' : List DatabaseInstance}
    (first : List.Forall₂ Continues ds ds') (second : List.Forall₂ Continues ds' ds'') :
    List.Forall₂ Continues ds ds'' := by
  induction first generalizing ds'' with
  | nil => exact second
  | cons head _ ih =>
    cases second with
    | cons head' second => exact .cons (head.trans head') (ih second)

lemma SameRows.refl (s : DatabaseStore) : SameRows s s :=
  ⟨forall₂_continues_refl _, rfl⟩

lemma SameRows.trans (first : SameRows s s') (second : SameRows s' s'') : SameRows s s'' :=
  ⟨forall₂_continues_trans first.rows second.rows,
    second.migrationArtifacts.trans first.migrationArtifacts⟩

lemma SameRows.of_instances (instances : s'.instances = s.instances)
    (migrationArtifacts : s'.migrationArtifacts = s.migrationArtifacts) : SameRows s s' :=
  ⟨instances ▸ forall₂_continues_refl _, migrationArtifacts⟩

/-- An update of one row, which continues it. -/
lemma SameRows.updateInstance {k : Uuid} {p : DatabaseInstance → Bool}
    {data : DatabaseInstance → DatabaseInstance} (change : ∀ d, Continues d (data d)) :
    SameRows s (s.updateInstance k p data) := by
  refine ⟨?_, rfl⟩
  show List.Forall₂ Continues s.instances (Table.update DatabaseInstance.id k p data s.instances)
  rw [Table.update, List.forall₂_map_right_iff]
  apply List.forall₂_same.mpr
  intro d _
  split
  · exact change d
  · exact .refl d

/-- An update of one row, and changes of other tables. -/
lemma SameRows.of_update {s₀ : DatabaseStore} {k : Uuid} {p : DatabaseInstance → Bool}
    {data : DatabaseInstance → DatabaseInstance} (before : SameRows s s₀)
    (updated : s'.instances = (s₀.updateInstance k p data).instances)
    (migrationArtifacts : s'.migrationArtifacts = s₀.migrationArtifacts)
    (change : ∀ d, Continues d (data d)) : SameRows s s' :=
  before.trans ((SameRows.updateInstance change).trans (.of_instances updated migrationArtifacts))

@[simp]
lemma SameRows.appendEventFor {artifact : Option MigrationArtifact} {event : DatabaseStatusChanged} :
    SameRows s (s.appendEventFor artifact event) := by
  cases artifact with
  | none => exact .refl s
  | some artifact => exact .of_instances rfl rfl

@[simp]
lemma SameRows.observeFinding {findingId : Uuid} {input : FindingInput} :
    SameRows s (Database.observeFinding findingId input s).2 := by
  refine .of_instances instances_observeFinding ?_
  simp only [Database.observeFinding]
  split <;> rfl

end SameRows

section Operations
variable {o : Operation} {s s' : DatabaseStore} {database : DatabaseExecutionRecord} {now : Date}

lemma claim_sameRows {job : DatabaseOperationJob} {r : DatabaseClaimResult}
    (e : claim job now s = .ok (r, s')) : SameRows s s' := by
  simp only [claim] at e
  split at e
  · cases e
    exact .refl s
  split at e
  · cases e
    exact .refl s
  split at e
  · cases e
    exact .refl s
  split at e
  · split at e
    · split at e
      · cases e
        apply SameRows.updateInstance
        exact fun d => ⟨rfl, id⟩
      · cases e
        exact .refl s
    · split at e
      · cases e
        exact .refl s
      · cases e
        refine .of_update (.refl s) rfl rfl ?_
        exact fun d => ⟨rfl, id⟩
  · cases e
    exact .refl s

lemma recordProvisioned_sameRows {result : DatabaseProvisionResult} {r : Bool}
    (e : recordProvisioned database result now s = .ok (r, s')) : SameRows s s' := by
  have secret : SameRows s (upsertSecretReference s database result.connectionSecretRef) := by
    rw [upsertSecretReference]
    split <;> exact .of_instances rfl rfl
  simp only [recordProvisioned] at e
  split at e
  · cases e
    refine .of_update secret rfl rfl ?_
    exact fun d => ⟨rfl, fun _ => rfl⟩
  · cases e
    exact secret

lemma recordHealthCheck_sameRows {message : String} {r : Bool}
    (e : recordHealthCheck database message now s = .ok (r, s')) : SameRows s s' := by
  simp only [recordHealthCheck] at e
  split at e
  · cases e
    refine .of_update (.refl s) rfl rfl ?_
    exact fun d => ⟨rfl, id⟩
  · cases e
    exact .refl s

lemma startMigration_sameRows {r : Bool} (e : startMigration database now s = .ok (r, s')) :
    SameRows s s' := by
  simp only [startMigration, upsertMigrationRun] at e
  split at e
  · cases e
    apply SameRows.of_update (.refl s)
    · split <;> rfl
    · split <;> rfl
    · exact fun d => ⟨rfl, id⟩
  · cases e
    exact .refl s

lemma completeMigration_sameRows {reports : List DatabaseMigrationStepReport} {r : Bool}
    (e : completeMigration database reports now s = .ok (r, s')) : SameRows s s' := by
  simp only [completeMigration] at e
  split at e
  · split at e
    · cases e
      refine .of_update (.refl s) rfl rfl ?_
      exact fun d => ⟨rfl, id⟩
    · cases e
  · cases e
    exact .refl s

lemma completeDestroy_sameRows {r : Bool} (e : completeDestroy database now s = .ok (r, s')) :
    SameRows s s' := by
  simp only [completeDestroy, revokeSecretReference] at e
  split at e
  · cases e
    apply SameRows.of_update (.refl s)
    · split <;> rfl
    · split <;> rfl
    · exact fun d => ⟨rfl, id⟩
  · cases e
    exact .refl s

lemma fail_sameRows {error : OperationError} {r : Unit}
    (e : Database.fail database error now s = .ok (r, s')) : SameRows s s' := by
  cases e
  refine .of_update (.refl s) rfl rfl ?_
  exact fun d => ⟨rfl, id⟩

lemma requestDatabaseAction_sameRows {userId projectId databaseInstanceId : Uuid}
    {r : DestroyDatabaseOperationResult}
    (e : requestDatabaseAction userId projectId databaseInstanceId now s = .ok (r, s')) :
    SameRows s s' := by
  simp only [requestDatabaseAction] at e
  split at e
  · cases e
    exact .refl s
  rename_i current _
  split at e
  · cases e
    exact .refl s
  split at e
  · cases record : toDatabaseRecord current with
    | ok record' =>
      rw [record] at e
      cases e
      exact .refl s
    | error error =>
      rw [record] at e
      cases e
  split at e
  · cases e
    exact .refl s
  · simp only [toDatabaseRecord] at e
    split at e
    · cases e
      apply SameRows.trans (SameRows.updateInstance _) SameRows.appendEventFor
      exact fun d => ⟨rfl, id⟩
    · cases e

lemma recoverCandidate_sameRows {input : RecoverInput} {findingIds : Uuid → Uuid}
    {acc : DatabaseRecoveryPlan × DatabaseStore} {candidate : DatabaseInstance} :
    SameRows acc.2 (recoverCandidate input findingIds acc candidate).2 := by
  simp only [recoverCandidate, exhaustCandidate, dispatchCandidate]
  split
  · exact .refl _
  split
  · split
    · apply SameRows.trans (SameRows.updateInstance _)
        (SameRows.trans SameRows.observeFinding SameRows.appendEventFor)
      exact fun d => ⟨rfl, id⟩
    · exact .refl _
  · split
    · apply SameRows.trans (SameRows.updateInstance _) SameRows.appendEventFor
      exact fun d => ⟨rfl, id⟩
    · exact .refl _

lemma recoverStaleOperations_sameRows {input : RecoverInput} {findingIds : Uuid → Uuid}
    {plan : DatabaseRecoveryPlan}
    (e : recoverStaleOperations input findingIds s = .ok (plan, s')) : SameRows s s' := by
  have folded (candidates : List DatabaseInstance) (acc : DatabaseRecoveryPlan × DatabaseStore) :
      SameRows acc.2 (candidates.foldl (recoverCandidate input findingIds) acc).2 := by
    induction candidates generalizing acc with
    | nil => exact .refl _
    | cons candidate candidates ih => exact recoverCandidate_sameRows.trans (ih _)
  have result : _ = s' := congrArg Prod.snd (Except.ok.inj e)
  rw [← result]
  exact folded _ ({}, s)

lemma recordRecoveryDispatchFailure_sameRows {current : DatabaseInstance} {error : OperationError}
    {r : Unit} (e : recordRecoveryDispatchFailure current error now s = .ok (r, s')) :
    SameRows s s' := by
  simp only [recordRecoveryDispatchFailure] at e
  split at e
  · cases e
    apply SameRows.trans (SameRows.updateInstance _) SameRows.appendEventFor
    exact fun d => ⟨rfl, id⟩
  · cases e

lemma observeMissingResource_sameRows {sweepId findingId : Uuid} {resource : TrackedDatabaseResource}
    {r : Unit} (e : observeMissingResource sweepId resource now findingId s = .ok (r, s')) :
    SameRows s s' := by
  simp only [observeMissingResource] at e
  split at e
  · cases e
    exact .observeFinding
  split at e
  · cases e
    exact .observeFinding
  split at e
  · cases e
    refine .of_update .observeFinding rfl rfl ?_
    exact fun d => ⟨rfl, id⟩
  · cases e
    exact .observeFinding

/-- What a request for a database answers and leaves behind: a new row, if the key was free. -/
lemma createDatabaseOperation_rows {userId projectId newId operationId : Uuid} {key : String}
    {input : ProvisionDatabaseInput} {r : CreateDatabaseOperationResult}
    (e : createDatabaseOperation userId projectId key input now newId operationId s = .ok (r, s')) :
    (s' = s ∧ ∀ database, r ≠ .ok database false) ∨
      ∃ d database, r = .ok database false ∧ s'.instances = s.instances ++ [d] ∧
        s'.migrationArtifacts = s.migrationArtifacts ∧ d.region = some input.region ∧
        d.projectId = projectId ∧ d.migrationArtifactId = some input.migrationArtifactId ∧
        d.idempotencyKey = key ∧ ∀ d' ∈ s.instances, d'.idempotencyKey ≠ key := by
  simp only [createDatabaseOperation] at e
  split at e
  · rename_i existing _
    left
    simp only [replay] at e
    split at e
    · cases record : toDatabaseRecord existing with
      | ok database =>
        rw [record] at e
        cases e
        exact ⟨rfl, fun _ same => by cases same⟩
      | error error =>
        rw [record] at e
        cases e
    · cases e
      exact ⟨rfl, fun _ same => by cases same⟩
  rename_i free
  split at e
  · cases e
    exact .inl ⟨rfl, fun _ same => by cases same⟩
  rename_i project found
  split at e
  · cases e
    exact .inl ⟨rfl, fun _ same => by cases same⟩
  rename_i artifact artifact_found
  split at e
  · cases e
    exact .inl ⟨rfl, fun _ same => by cases same⟩
  split at e
  · cases e
  · right
    have is_project := List.find?_some found
    have is_artifact := List.find?_some artifact_found
    simp only [decide_eq_true_eq] at is_project is_artifact
    have unused : ∀ d' ∈ s.instances, d'.idempotencyKey ≠ key := by
      intro d' mem same
      exact List.find?_eq_none.mp free d' mem (by simpa using same)
    simp only [toDatabaseRecord, Except.map] at e
    cases e
    exact ⟨_, _, rfl, rfl, rfl, rfl, is_project.1, congrArg some is_artifact.1, rfl, unused⟩

/-- Every other operation leaves the rows where they are. -/
lemma transact_sameRows {env : Environment} {r : o.Answer} (e : transact env o s = .ok (r, s'))
    (other : ∀ userId projectId key input now,
      o ≠ .createDatabaseOperation userId projectId key input now) : SameRows s s' := by
  cases o with
  | claim job now => exact claim_sameRows e
  | recordProvisioned database result now => exact recordProvisioned_sameRows e
  | recordHealthCheck database message now => exact recordHealthCheck_sameRows e
  | startMigration database now => exact startMigration_sameRows e
  | completeMigration database reports now => exact completeMigration_sameRows e
  | completeDestroy database now => exact completeDestroy_sameRows e
  | fail database error now => exact fail_sameRows e
  | createDatabaseOperation userId projectId key input now => exact absurd rfl (other _ _ _ _ _)
  | requestDatabaseAction userId projectId databaseInstanceId now =>
    exact requestDatabaseAction_sameRows e
  | markDatabaseOperationFailed databaseInstanceId operationId version error now =>
    cases e
    apply SameRows.updateInstance
    exact fun d => ⟨rfl, id⟩
  | recoverStaleOperations input => exact recoverStaleOperations_sameRows e
  | recordRecoveryDispatchFailure current error now => exact recordRecoveryDispatchFailure_sameRows e
  | observeMissingResource sweepId database now => exact observeMissingResource_sameRows e
  | beginSweep input =>
    simp only [transact, beginSweep] at e
    split at e
    · cases e
    · cases e
      exact .of_instances rfl rfl
  | observeOrphanResource sweepId resource now graceMs =>
    simp only [transact, observeOrphanResource] at e
    split at e
    · cases e
    · cases e
      exact .observeFinding
  | claimOrphanCleanup sweepId findingId externalId now =>
    simp only [transact, claimOrphanCleanup] at e
    repeat' split at e
    all_goals
      cases e
      exact .of_instances rfl rfl
  | approveOrphanCleanup findingId externalId approvedBy now =>
    simp only [transact, approveOrphanCleanup] at e
    repeat' split at e
    all_goals
      cases e
      exact .of_instances rfl rfl
  -- the other operations write neither instances nor artifacts
  | _ =>
    cases e
    exact .of_instances rfl rfl

end Operations

section Holders
variable {s s' : DatabaseStore} {key : String} {d : DatabaseInstance}

/-- The row that holds an idempotency key. -/
def DatabaseStore.holder? (s : DatabaseStore) (key : String) : Option DatabaseInstance :=
  s.instances.find? fun d => d.idempotencyKey == key

lemma SameRows.holder (same : SameRows s s') (held : s.holder? key = some d) :
    ∃ d', s'.holder? key = some d' ∧ Continues d d' := by
  obtain ⟨rows, -⟩ := same
  simp only [DatabaseStore.holder?] at held ⊢
  generalize s.instances = ds at rows held
  generalize s'.instances = ds' at rows
  induction rows with
  | nil => cases held
  | @cons first first' ds ds' continues _ ih =>
    have keys : first'.idempotencyKey = first.idempotencyKey :=
      congrArg Origin.idempotencyKey continues.origin
    by_cases here : first.idempotencyKey = key
    · rw [List.find?_cons_of_pos (by simpa using here)] at held
      cases held
      exact ⟨first', List.find?_cons_of_pos (by simpa [keys] using here), continues⟩
    · rw [List.find?_cons_of_neg (by simpa using here)] at held
      obtain ⟨d', held', continues'⟩ := ih held
      refine ⟨d', ?_, continues'⟩
      rw [List.find?_cons_of_neg (by simpa [keys] using here)]
      exact held'

/-- The row that holds a key keeps it. -/
lemma transact_holder {o : Operation} {env : Environment} {r : o.Answer}
    (e : transact env o s = .ok (r, s')) (held : s.holder? key = some d) :
    ∃ d', s'.holder? key = some d' ∧ Continues d d' := by
  by_cases creates : ∃ userId projectId key input now,
      o = .createDatabaseOperation userId projectId key input now
  · obtain ⟨userId, projectId, key', input, now, rfl⟩ := creates
    rcases createDatabaseOperation_rows e with ⟨rfl, -⟩ | ⟨new, -, -, appended, -⟩
    · exact ⟨d, held, .refl d⟩
    · have kept : s'.holder? key = some d := by
        rw [DatabaseStore.holder?] at held ⊢
        rw [appended, List.find?_append, held]
        rfl
      exact ⟨d, kept, .refl d⟩
  · have other : ∀ userId projectId key input now,
        o ≠ .createDatabaseOperation userId projectId key input now :=
      fun userId projectId key input now same => creates ⟨_, _, _, _, _, same⟩
    exact (transact_sameRows e other).holder held

/-- In every run the row that holds a key goes on holding it. -/
lemma holder_of_reaches {G : DatabaseConfig → databaseSystem.Label → Prop} {c c' : DatabaseConfig}
    (run : databaseSystem.Reaches G c c') (held : c.store.store.holder? key = some d) :
    ∃ d', c'.store.store.holder? key = some d' ∧ Continues d d' := by
  apply run.invariant (P := fun c' => ∃ d', c'.store.store.holder? key = some d' ∧ Continues d d')
  · intro c₁ l c₂ held₁ _ step
    obtain ⟨d₁, held₁, continues⟩ := held₁
    cases step with
    | @act i tag o k env at_i =>
      obtain ⟨error, e⟩ | ⟨r, store, e, -, after, -⟩ := perform_cases o env c₁.store
      · exact ⟨d₁, by simpa [databaseSystem, e] using held₁, continues⟩
      · obtain ⟨d₂, held₂, continues₂⟩ := transact_holder e held₁
        exact ⟨d₂, by simpa [databaseSystem, after] using held₂, continues.trans continues₂⟩
    | spawn adm => exact ⟨d₁, held₁, continues⟩
  · exact ⟨d, held, .refl d⟩

end Holders

end AtomsPlatform.Database
