import AtomsPlatform.Database.Instances
import AtomsPlatform.Database.OrphanCleanup

/-!
# Missing resources

A sweep that misses the resource of an instance counts the absence in a finding, and a second absence in
a row fails the instance. The finding is resolved when a sweep gets as far as seeing the resource again.
What a failed instance says is read back into the history: whether the inventory before was without the
resource as well.
-/

namespace AtomsPlatform.Database
open Interleaving

section Failures

/-- The error of an instance whose resource is missing. -/
def resourceMissing : OperationError where
  code := "DATABASE_PROVIDER_RESOURCE_MISSING"
  message := "The tracked provider resource was absent in two consecutive inventories"
  retryable := some false

/-- The error that a failed instance has. -/
def DatabaseStore.failure? (s : DatabaseStore) (id : Uuid) : Option OperationError :=
  (s.instance? id).bind fun d => if d.status = .failed then d.error else none

/-- The error that an operation was handed over. -/
def Operation.handed? : Operation → Option OperationError
  | .fail _ error _ | .markDatabaseOperationFailed _ _ _ error _
  | .recordRecoveryDispatchFailure _ error _ => some error
  | _ => none

/-- The errors that an operation fails an instance with. -/
inductive Blames : Operation → OperationError → Prop where
  | handed {o error} :
    o.handed? = some error →
    Blames o error
  | exhausted {input} :
    Blames (.recoverStaleOperations input) recoveryExhausted
  | missing {sweepId tracked now} :
    Blames (.observeMissingResource sweepId tracked now) resourceMissing

/-- Whoever has an error after an operation had it before, or the operation blames it. -/
def FailureStep (o : Operation) (s s' : DatabaseStore) : Prop :=
  ∀ id error, s'.failure? id = some error → s.failure? id = some error ∨ Blames o error

variable {o : Operation} {s s' s₀ : DatabaseStore} {id : Uuid} {error : OperationError}

lemma failure?_of_row {d : DatabaseInstance} (row : s.instance? id = some d)
    (failed : d.status = .failed) : s.failure? id = d.error := by
  rw [DatabaseStore.failure?, row]
  exact if_pos failed

lemma failure?_eq_some (e : s.failure? id = some error) :
    ∃ d, s.instance? id = some d ∧ d.status = .failed ∧ d.error = some error := by
  obtain ⟨d, row, failed⟩ := Option.bind_eq_some_iff.mp e
  split at failed
  · rename_i status
    exact ⟨d, row, status, failed⟩
  · cases failed

lemma FailureStep.of_same (same : s'.instances = s.instances) : FailureStep o s s' := by
  intro id error e
  rw [DatabaseStore.failure?, instance?_of_instances same] at e
  exact .inl e

/-- An update of one row, which blames what it fails the row with. -/
lemma FailureStep.of_update {k : Uuid} {p : DatabaseInstance → Bool}
    {data : DatabaseInstance → DatabaseInstance} (keeps : ∀ d, (data d).id = d.id)
    (updated : s'.instances = (s₀.updateInstance k p data).instances)
    (before : s₀.instances = s.instances)
    (blames : ∀ d, (data d).status = .failed → ∀ error, (data d).error = some error →
      (d.status = .failed ∧ d.error = some error) ∨ Blames o error) : FailureStep o s s' := by
  intro id error e
  obtain ⟨d', row', failed, there⟩ := failure?_eq_some e
  rw [instance?_of_instances updated, instance?_updateInstance keeps,
    instance?_of_instances before] at row'
  obtain ⟨d, row, same⟩ := Option.map_eq_some_iff.mp row'
  split at same
  · subst same
    rcases blames d failed error there with ⟨status, same⟩ | blamed
    · exact .inl ((failure?_of_row row status).trans same)
    · exact .inr blamed
  · subst same
    exact .inl ((failure?_of_row row failed).trans there)

lemma claim_failures {job : DatabaseOperationJob} {now : Date} {r : DatabaseClaimResult}
    (e : claim job now s = .ok (r, s')) : FailureStep o s s' := by
  simp only [claim] at e
  split at e
  · cases e
    exact .of_same rfl
  split at e
  · cases e
    exact .of_same rfl
  split at e
  · cases e
    exact .of_same rfl
  split at e
  · split at e
    · split at e
      · cases e
        refine .of_update ?_ rfl rfl ?_
        · exact fun _ => rfl
        exact fun d failed error there => .inl ⟨failed, there⟩
      · cases e
        exact .of_same rfl
    · split at e
      · cases e
        exact .of_same rfl
      · cases e
        refine .of_update ?_ rfl rfl ?_
        · exact fun _ => rfl
        intro d failed
        cases failed
  · cases e
    exact .of_same rfl

lemma createDatabaseOperation_failures {userId projectId newId operationId : Uuid} {key : String}
    {input : ProvisionDatabaseInput} {now : Date} {r : CreateDatabaseOperationResult}
    (e : createDatabaseOperation userId projectId key input now newId operationId s = .ok (r, s')) :
    FailureStep o s s' := by
  simp only [createDatabaseOperation] at e
  split at e
  · obtain ⟨answer, same⟩ := exists_of_map_ok e
    cases same
    exact .of_same rfl
  split at e
  · cases e
    exact .of_same rfl
  split at e
  · cases e
    exact .of_same rfl
  split at e
  · cases e
    exact .of_same rfl
  split at e
  · cases e
  · simp only [toDatabaseRecord, Except.map] at e
    cases e
    intro id error failed
    obtain ⟨d', row', status, there⟩ := failure?_eq_some failed
    cases row : s.instance? id with
    | some d =>
      cases (Table.lookup_append_of_some row).symm.trans row'
      exact .inl ((failure?_of_row row status).trans there)
    | none =>
      -- a new row is queued
      by_cases here : newId = id
      · cases (Table.lookup_append_new row here).symm.trans row'
        cases status
      · cases ((Table.lookup_append_ne here).symm.trans row').symm.trans row

lemma requestDatabaseAction_failures {userId projectId databaseInstanceId : Uuid} {now : Date}
    {r : DestroyDatabaseOperationResult}
    (e : requestDatabaseAction userId projectId databaseInstanceId now s = .ok (r, s')) :
    FailureStep o s s' := by
  simp only [requestDatabaseAction] at e
  split at e
  · cases e
    exact .of_same rfl
  split at e
  · cases e
    exact .of_same rfl
  split at e
  · obtain ⟨answer, same⟩ := exists_of_map_ok e
    cases same
    exact .of_same rfl
  split at e
  · cases e
    exact .of_same rfl
  · obtain ⟨answer, same⟩ := exists_of_map_ok e
    cases same
    refine .of_update ?_ instances_appendEventFor rfl ?_
    · exact fun _ => rfl
    · intro d failed
      cases failed

/-- An instance that a sweep fails was missing before: its finding is not resolved. -/
lemma observeMissingResource_failures {sweepId findingId : Uuid} {database : TrackedDatabaseResource}
    {now : Date} {r : Unit}
    (e : observeMissingResource sweepId database now findingId s = .ok (r, s')) :
    FailureStep (.observeMissingResource sweepId database now) s s' := by
  simp only [observeMissingResource] at e
  split at e
  · cases e
    exact .of_same instances_observeFinding
  split at e
  · cases e
    exact .of_same instances_observeFinding
  split at e
  · cases e
    refine .of_update ?_ rfl instances_observeFinding ?_
    · exact fun _ => rfl
    · intro d _ error there
      cases there
      exact .inr .missing
  · cases e
    exact .of_same instances_observeFinding

/-- Every operation is a step of the failures. -/
lemma transact_failures {env : Environment} {r : o.Answer} (keyed : InstancesKeyed s)
    (e : transact env o s = .ok (r, s')) : FailureStep o s s' := by
  cases o with
  | claim job now => exact claim_failures e
  | recordProvisioned database result now =>
    simp only [transact, recordProvisioned] at e
    split at e
    · cases e
      refine .of_update ?_ rfl instances_upsertSecretReference ?_
      · exact fun _ => rfl
      intro d failed
      cases failed
    · cases e
      exact .of_same instances_upsertSecretReference
  | recordHealthCheck database message now =>
    simp only [transact, recordHealthCheck] at e
    split at e
    · cases e
      refine .of_update ?_ rfl rfl ?_
      · exact fun _ => rfl
      exact fun d failed error there => .inl ⟨failed, there⟩
    · cases e
      exact .of_same rfl
  | startMigration database now =>
    simp only [transact, startMigration] at e
    split at e
    · cases e
      refine .of_update ?_ instances_upsertMigrationRun rfl ?_
      · exact fun _ => rfl
      intro d failed
      cases failed
    · cases e
      exact .of_same rfl
  | completeMigration database reports now =>
    simp only [transact, completeMigration] at e
    split at e
    · split at e
      · cases e
        refine .of_update ?_ rfl rfl ?_
        · exact fun _ => rfl
        intro d failed
        cases failed
      · cases e
    · cases e
      exact .of_same rfl
  | completeDestroy database now =>
    simp only [transact, completeDestroy] at e
    split at e
    · cases e
      refine .of_update ?_ instances_revokeSecretReference rfl ?_
      · exact fun _ => rfl
      intro d failed
      cases failed
    · cases e
      exact .of_same rfl
  | fail database error now =>
    cases e
    refine .of_update ?_ rfl rfl ?_
    · exact fun _ => rfl
    intro d _ error blamed
    exact .inr (.handed blamed)
  | markDatabaseOperationFailed databaseInstanceId operationId version error now =>
    cases e
    refine .of_update ?_ rfl rfl ?_
    · exact fun _ => rfl
    intro d _ error blamed
    exact .inr (.handed blamed)
  | recordRecoveryDispatchFailure current error now =>
    simp only [transact, recordRecoveryDispatchFailure] at e
    split at e
    · cases e
      refine .of_update ?_ instances_appendEventFor rfl ?_
      · exact fun _ => rfl
      intro d _ error blamed
      exact .inr (.handed blamed)
    · cases e
  | createDatabaseOperation userId projectId key input now =>
    exact createDatabaseOperation_failures e
  | requestDatabaseAction userId projectId databaseInstanceId now =>
    exact requestDatabaseAction_failures e
  | recoverStaleOperations input =>
    intro id error failed
    obtain ⟨d', row', status, there⟩ := failure?_eq_some failed
    cases row : s.instance? id with
    | none => cases ((recoverStaleOperations_recovered keyed e).2 row).1.symm.trans row'
    | some d =>
      obtain ⟨d'', row'', recovered⟩ := (recoverStaleOperations_recovered keyed e).1 d row
      cases row''.symm.trans row'
      generalize r.jobsFor id = jobs at recovered
      cases recovered with
      | kept same =>
        subst same
        exact .inl ((failure?_of_row row status).trans there)
      | exhausted _ _ same =>
        subst same
        cases there
        exact .inr .exhausted
      | fenced _ _ same =>
        subst same
        exact .inl ((failure?_of_row row status).trans there)
  | observeMissingResource sweepId database now => exact observeMissingResource_failures e
  | beginSweep input =>
    simp only [transact, beginSweep] at e
    split at e
    · cases e
    · cases e
      exact .of_same rfl
  | observeOrphanResource sweepId resource now graceMs =>
    simp only [transact, observeOrphanResource] at e
    split at e
    · cases e
    · cases e
      exact .of_same instances_observeFinding
  | claimOrphanCleanup sweepId findingId externalId now =>
    simp only [transact, claimOrphanCleanup] at e
    repeat' split at e
    all_goals
      cases e
      exact .of_same rfl
  | approveOrphanCleanup findingId externalId approvedBy now =>
    simp only [transact, approveOrphanCleanup] at e
    repeat' split at e
    all_goals
      cases e
      exact .of_same rfl
  -- the other operations write no instances
  | _ =>
    cases e
    exact .of_same rfl

/-- The finding about a missing resource of an instance. -/
def DatabaseStore.missing? (s : DatabaseStore) (id : Uuid) : Option Finding :=
  Table.lookup Finding.fingerprint ⟨.providerResourceMissing, .instance id⟩ s.findings

lemma observeFinding_finding {findingId : Uuid} {input : FindingInput} :
    (observeFinding findingId input s).1 =
      observed findingId input (Table.lookup Finding.fingerprint input.fingerprint s.findings) := by
  unfold observeFinding
  dsimp only
  split
  · rfl
  · rfl

lemma observed_count {findingId : Uuid} {input : FindingInput} {existing : Option Finding}
    (again : 2 ≤ (observed findingId input existing).observationCount) :
    ∃ f, existing = some f ∧ f.status ≠ .resolved := by
  cases existing with
  | none => exact absurd again (by decide : ¬ 2 ≤ 1)
  | some f =>
    refine ⟨f, rfl, fun resolved => ?_⟩
    rw [observed, if_pos resolved] at again
    exact absurd again (by decide : ¬ 2 ≤ 1)

/-- An instance is failed by an absence only if its finding is not resolved, and at the version that the
    absence is about. -/
lemma observeMissingResource_marks {sweepId findingId : Uuid} {database : TrackedDatabaseResource}
    {now : Date} {r : Unit}
    (e : observeMissingResource sweepId database now findingId s = .ok (r, s'))
    (marked : s'.failure? id = some error) (before : s.failure? id ≠ some error) :
    database.databaseInstanceId = id ∧
      ∃ f, s.missing? id = some f ∧ f.status ≠ .resolved := by
  have unmarked (same : s'.instances = s.instances) : False := by
    rw [DatabaseStore.failure?, instance?_of_instances same] at marked
    exact before marked
  simp only [observeMissingResource] at e
  split at e
  · cases e
    exact (unmarked instances_observeFinding).elim
  rename_i counted
  split at e
  · cases e
    exact (unmarked instances_observeFinding).elim
  split at e
  · cases e
    have here : database.databaseInstanceId = id := by
      by_contra other
      refine before (Eq.trans ?_ marked)
      refine (congrArg (Option.bind · _) ?_).trans rfl
      rw [instance?_appendEvent, instance?_updateInstance,
        instance?_of_instances instances_observeFinding]
      · cases s.instance? id with
        | none => rfl
        | some d => exact congrArg some (if_neg fun both => other both.1.symm).symm
      · exact fun _ => rfl
    subst here
    rw [observeFinding_finding] at counted
    exact ⟨rfl, observed_count (Nat.le_of_not_lt counted)⟩
  · cases e
    exact (unmarked instances_observeFinding).elim

end Failures

section History

/-- The inventory that a thread fetched in a step. -/
def fetched? : DatabaseConfig × databaseSystem.Label → Option (Nat × List ManagedDatabaseResource)
  | (c, .act i .listManagedResources env) =>
    (perform .listManagedResources env c.store).1.toOption.map fun resources => (i, resources)
  | _ => none

/-- The inventories that were fetched, in order. -/
def inventories (h : DatabaseHistory) : List (Nat × List ManagedDatabaseResource) :=
  h.filterMap fetched?

/-- A resource is not in an inventory. -/
def LacksResource (resources : List ManagedDatabaseResource) (externalId : String) : Prop :=
  externalId ∉ resources.map ManagedDatabaseResource.externalId

/-- A thread listed an instance under an external identifier and an operation version. -/
def TrackedBy (i : Nat) (id : Uuid) (externalId : String) (operationVersion : Nat)
    (h : DatabaseHistory) : Prop :=
  ∃ (h₁ : DatabaseHistory) (c : DatabaseConfig) (env : Environment) (h₂ : DatabaseHistory)
    (d : DatabaseInstance),
    h = h₁ ++ (c, .act i .listTrackedResources env) :: h₂ ∧ c.store.store.instance? id = some d ∧
      d.externalId = some externalId ∧ d.operationVersion = operationVersion

/-- A step that fails an instance as missing, without having been handed such an error. -/
def FailsMissing (id : Uuid) : DatabaseConfig × databaseSystem.Label → Prop
  | (c, .act _ o env) =>
    (∀ error, o.handed? = some error → error.code ≠ resourceMissing.code) ∧
      ∃ error, error.code = resourceMissing.code ∧ c.store.store.failure? id ≠ some error ∧
        (perform o env c.store).2.store.failure? id = some error
  | (_, .spawn _) => False

/-- An absence is counted in this step for the second time running: the inventory of its sweep and the
    one fetched immediately before lack the resource, and both sweeps tracked the instance under the
    same external identifier and operation version. -/
def AbsentTwice (id : Uuid) (h : DatabaseHistory) :
    DatabaseConfig × databaseSystem.Label → Prop
  | (_, .act i (.observeMissingResource _ tracked _) _) =>
    tracked.databaseInstanceId = id ∧
      ∃ xs j before resources ys, inventories h = xs ++ (j, before) :: (i, resources) :: ys ∧
        LacksResource before tracked.externalId ∧ LacksResource resources tracked.externalId ∧
        TrackedBy j id tracked.externalId tracked.operationVersion h ∧
        TrackedBy i id tracked.externalId tracked.operationVersion h
  | _ => False

/-- A sweep that counts an absence onto a finding that is not resolved follows one that has got as far as
    this instance: the sweep with the inventory immediately before called for a count of an absence too,
    of the instance under the same external identifier and operation version. -/
def Consecutive (h : DatabaseHistory) : DatabaseConfig × databaseSystem.Label → Prop
  | (c, .act i (.observeMissingResource _ tracked _) _) =>
    ∀ f, c.store.store.missing? tracked.databaseInstanceId = some f → f.status ≠ .resolved →
      ∃ xs j before resources ys, inventories h = xs ++ (j, before) :: (i, resources) :: ys ∧
        ∃ sweepId tracked' now r, ⟨.observeMissingResource sweepId tracked' now, r⟩ ∈ System.calls j h ∧
          tracked'.databaseInstanceId = tracked.databaseInstanceId ∧
          tracked'.externalId = tracked.externalId ∧
          tracked'.operationVersion = tracked.operationVersion
  | _ => True

end History

section Accounts

/-- What a sweep has done before it fetches an inventory or counts an absence. -/
def absenceAccount (h : DatabaseCalls) : Operation → Prop
  | .listManagedResources => ∀ r, ⟨.listManagedResources, r⟩ ∉ h
  | .observeMissingResource _ tracked _ =>
    ∃ resources listed, ⟨.listManagedResources, .ok resources⟩ ∈ h ∧
      ⟨.listTrackedResources, .ok listed⟩ ∈ h ∧ tracked ∈ listed ∧
      LacksResource resources tracked.externalId
  | _ => True

/-- Calls that are not accounted for. -/
def Operation.unremarkable : Operation → Bool
  | .listManagedResources | .observeMissingResource .. => false
  | _ => true

variable {o : Operation} {h : DatabaseCalls} {r : Except Failure o.Answer}

lemma unremarkable_account (unremarkable : o.unremarkable = true) : absenceAccount h o := by
  cases o with
  | listManagedResources | observeMissingResource => cases unremarkable
  | _ => trivial

/-- A sweep that has fetched an inventory and listed the tracked resources. -/
structure Comparing (resources : List ManagedDatabaseResource)
    (listed : List TrackedDatabaseResource) (h : DatabaseCalls) : Prop where
  fetched : ⟨.listManagedResources, .ok resources⟩ ∈ h
  listed : ⟨.listTrackedResources, .ok listed⟩ ∈ h

variable {resources : List ManagedDatabaseResource} {listed : List TrackedDatabaseResource}

lemma Comparing.append (comparing : Comparing resources listed h) :
    Comparing resources listed (h ++ [⟨o, r⟩]) :=
  ⟨List.mem_append_left _ comparing.fetched, List.mem_append_left _ comparing.listed⟩

/-- Stepping over a call that is not accounted for. -/
lemma unremarkable_step {α : Type} {P : DatabaseCalls → Prop} {f : o.Answer → Program α}
    {Q : α → DatabaseCalls → Prop} (unremarkable : o.unremarkable = true)
    (next : ∀ a, Accounts absenceAccount (fun h => ∃ h₀, P h₀ ∧ h = h₀ ++ [⟨o, .ok a⟩]) (f a) Q
      fun _ _ => True) : Accounts absenceAccount P (call o >>= f) Q fun _ _ => True := by
  refine .bind (R := fun a h => ∃ h₀, P h₀ ∧ h = h₀ ++ [⟨o, .ok a⟩]) ?_ next
  exact Accounts.call (fun _ _ => unremarkable_account unremarkable)
    (fun h a holds => ⟨h, holds, rfl⟩) fun _ _ _ => trivial

/-- A program that makes no other calls than such. -/
lemma unremarkable_program {calls : Operation → Bool} {α : Type} {p : Program α}
    {P : DatabaseCalls → Prop} (yields : Yields (making calls) p fun _ => True)
    (unremarkable : ∀ o, calls o = true → o.unremarkable = true)
    (keeps : ∀ h o r, P h → P (h ++ [⟨o, r⟩])) :
    Accounts absenceAccount P p (fun _ => P) fun _ => P :=
  accounts_of_making yields (fun _ o made _ => unremarkable_account (unremarkable o made))
    fun h o r _ holds => keeps h o r holds

/-- A sweep that has not fetched an inventory yet. -/
def Unfetched (h : DatabaseCalls) : Prop :=
  ∀ r, ⟨.listManagedResources, r⟩ ∉ h

lemma Unfetched.append (unfetched : Unfetched h) (unremarkable : o.unremarkable = true) :
    Unfetched (h ++ [⟨o, r⟩]) := by
  intro r' mem
  rcases List.mem_append.mp mem with before | new
  · exact unfetched r' before
  · injection List.mem_singleton.mp new with same
    subst same
    cases unremarkable

/-- Absences are counted of what is tracked and not in the inventory. -/
lemma checkTracked_absences {sweepId : Uuid} {rest : List TrackedDatabaseResource}
    (part : ∀ tracked ∈ rest, tracked ∈ listed) :
    Accounts absenceAccount (Comparing resources listed)
      (checkTracked sweepId (resources.map ManagedDatabaseResource.externalId) rest)
      (fun _ _ => True) fun _ _ => True := by
  induction rest with
  | nil => exact .pure fun _ _ => trivial
  | cons tracked rest ih =>
    have rest' := ih fun tracked' mem => part tracked' (List.mem_cons_of_mem tracked mem)
    have next (o : Operation) (a : o.Answer) : Accounts absenceAccount
        (fun h => ∃ h₀, Comparing resources listed h₀ ∧ h = h₀ ++ [⟨o, .ok a⟩])
        (checkTracked sweepId (resources.map ManagedDatabaseResource.externalId) rest)
        (fun _ _ => True) fun _ _ => True := by
      refine rest'.mono ?_ (fun _ _ _ => trivial) fun _ _ _ => trivial
      rintro h ⟨h₀, comparing, rfl⟩
      exact comparing.append
    refine .bind (R := fun _ => Comparing resources listed) ?_ fun now => ?_
    · exact Accounts.call (fun _ _ => trivial) (fun _ _ comparing => comparing.append)
        fun _ _ _ => trivial
    split
    · exact unremarkable_step rfl fun a => next _ a
    · rename_i absent
      refine .bind (R := fun a h => ∃ h₀, Comparing resources listed h₀ ∧
        h = h₀ ++ [⟨.observeMissingResource sweepId tracked now, .ok a⟩]) ?_ fun a => ?_
      · refine Accounts.call ?_ (fun h a comparing => ⟨h, comparing, rfl⟩) fun _ _ _ => trivial
        intro h comparing
        refine ⟨resources, listed, comparing.fetched, comparing.listed,
          part tracked List.mem_cons_self, fun mem => absent ?_⟩
        exact List.contains_iff_mem.mpr mem
      · exact .bind (next (.observeMissingResource sweepId tracked now) a) fun missing => .pure fun _ _ => trivial

/-- The account of a sweep. -/
lemma reconcile_absences {options : ReconcilerOptions} :
    Accounts absenceAccount (· = []) (reconcile options) (fun _ _ => True) fun _ _ => True := by
  have quiet {o : Operation} {P : DatabaseCalls → Prop} (unremarkable : o.unremarkable = true) :
      Accounts absenceAccount P (call o) (fun _ _ => True) fun _ _ => True :=
    Accounts.call (fun _ _ => unremarkable_account unremarkable) (fun _ _ _ => trivial)
      fun _ _ _ => trivial
  refine .bind (R := fun _ => Unfetched) ?_ fun startedAt => ?_
  · refine Accounts.call (fun _ _ => trivial) ?_ fun _ _ _ => trivial
    rintro h a rfl
    exact Unfetched.append (fun r mem => absurd mem List.not_mem_nil) rfl
  refine .bind (R := fun _ => Unfetched) ?_ fun begun => ?_
  · refine .tryCatch (R := fun _ => Unfetched) ?_ fun error => ?_
    · refine .bind (R := fun _ => Unfetched) ?_ fun sweepId => .pure fun _ unfetched => unfetched
      exact Accounts.call (fun _ _ => trivial) (fun _ _ unfetched => unfetched.append rfl)
        fun _ _ unfetched => unfetched.append rfl
    · split
      · exact .pure fun h unfetched => unfetched
      · exact .throw fun _ _ => trivial
  cases begun with
  | none => exact .pure fun _ _ => trivial
  | some sweepId =>
    refine .bind (R := fun _ _ => True) ?_ fun summary => .pure fun _ _ => trivial
    refine .tryCatch (R := fun _ _ => True) ?_ fun error => ?_
    · refine .bind (R := fun resources h => ⟨.listManagedResources, .ok resources⟩ ∈ h) ?_
        fun resources => ?_
      · refine Accounts.call (fun _ unfetched => unfetched) ?_ fun _ _ _ => trivial
        exact fun h a _ => List.mem_append_right _ List.mem_cons_self
      refine .bind (R := Comparing resources) ?_ fun listed => ?_
      · refine Accounts.call (fun _ _ => trivial) ?_ fun _ _ _ => trivial
        exact fun h a fetched =>
          ⟨List.mem_append_left _ fetched, List.mem_append_right _ List.mem_cons_self⟩
      refine .bind (R := fun _ => Comparing resources listed) ?_ fun now => ?_
      · exact Accounts.call (fun _ _ => trivial) (fun _ _ comparing => comparing.append)
          fun _ _ _ => trivial
      refine .bind (R := fun _ => Comparing resources listed) ?_ fun recovery => ?_
      · exact Accounts.call (fun _ _ => trivial) (fun _ _ comparing => comparing.append)
          fun _ _ _ => trivial
      refine .bind ((unremarkable_program dispatchRecovery_makes ?_ ?_).mono (fun _ c => c)
        (fun _ _ c => c) fun _ _ _ => trivial) fun recovered => ?_
      · exact fun o made => by cases o <;> first | rfl | cases made
      · exact fun h o r comparing => comparing.append
      refine .bind (checkTracked_absences fun _ mem => mem) fun missing => ?_
      refine .bind ((unremarkable_program checkOrphans_makes ?_ ?_).mono (fun _ c => c)
        (fun _ _ _ => trivial) fun _ _ _ => trivial) fun counts => ?_
      · exact fun o made => by cases o <;> first | rfl | cases made
      · exact fun _ _ _ _ => trivial
      refine .bind (quiet rfl) fun now => ?_
      refine .bind (quiet rfl) fun _ => ?_
      refine .bind (quiet rfl) fun now => ?_
      exact .bind (quiet rfl) fun _ => .pure fun _ _ => trivial
    · refine .bind (quiet rfl) fun now => ?_
      refine .bind (R := fun _ _ => True) ?_ fun _ => .throw fun _ _ => trivial
      exact .tryCatch (quiet rfl) fun _ => .pure fun _ _ => trivial

end Accounts

section Runs
variable {G : DatabaseConfig → databaseSystem.Label → Prop} {c₀ c c₁ : DatabaseConfig}
  {h earlier later : DatabaseHistory} {i : Nat}

lemma onlySweeps_fetch : OnlySweeps .listManagedResources := by
  intro t made
  cases t with
  | reconciliation options => exact ⟨options, rfl⟩
  | _ => cases made

lemma onlySweeps_absence {sweepId : Uuid} {tracked : TrackedDatabaseResource} {now : Date} :
    OnlySweeps (.observeMissingResource sweepId tracked now) := by
  intro t made
  cases t with
  | reconciliation options => exact ⟨options, rfl⟩
  | _ => cases made

/-- Inventories are the answers of fetches. -/
lemma mem_inventories {resources : List ManagedDatabaseResource}
    (mem : (i, resources) ∈ inventories h) :
    ⟨.listManagedResources, .ok resources⟩ ∈ System.calls i h := by
  obtain ⟨⟨c₁, l⟩, there, fetched⟩ := List.mem_filterMap.mp mem
  cases l with
  | spawn => cases fetched
  | act j o env =>
    cases o with
    | listManagedResources =>
      obtain ⟨found, answer, same⟩ := Option.map_eq_some_iff.mp fetched
      cases same
      have did : ⟨.listManagedResources, (perform .listManagedResources env c₁.store).1⟩ ∈
          System.calls i h := System.mem_calls_of_mem there
      cases e : (perform .listManagedResources env c₁.store).1 with
      | ok found' =>
        rw [e] at did answer
        cases answer
        exact did
      | error error =>
        rw [e] at answer
        cases answer
    | _ => cases fetched

/-- A sweep fetches one inventory. -/
lemma inventory_unique (traced : databaseSystem.Traced G c₀ h c) (start : c₀.threads = [])
    {r r' : Except Failure (List ManagedDatabaseResource)}
    (fetched : ⟨.listManagedResources, r⟩ ∈ System.calls i h)
    (fetched' : ⟨.listManagedResources, r'⟩ ∈ System.calls i h) : r = r' := by
  -- a sweep that fetches has not fetched before
  have first {calls calls' : DatabaseCalls} {r : Except Failure (List ManagedDatabaseResource)}
      (split : System.calls i h = calls ++ ⟨.listManagedResources, r⟩ :: calls') :
      Unfetched calls := by
    obtain ⟨h₁, c₁, env, h₂, whole, -, before, -⟩ := System.calls_split split
    have account := step_accounted_by (fun _ => reconcile_absences) traced start onlySweeps_fetch whole
    rw [before] at account
    exact account
  obtain ⟨calls, calls', split⟩ := List.append_of_mem fetched
  rw [split] at fetched'
  rcases List.mem_append.mp fetched' with before | after
  · exact (first split r' before).elim
  rcases List.mem_cons.mp after with same | after
  · cases same
    rfl
  · obtain ⟨calls₁, calls₂, split'⟩ := List.append_of_mem after
    rw [split', ← List.cons_append, ← List.append_assoc] at split
    exact (first split r (List.mem_append_right _ List.mem_cons_self)).elim

/-- What a thread has listed was in the row of the instance. -/
lemma trackedBy_of_listed (starts : Starts c₀) (traced : databaseSystem.Traced G c₀ h c)
    {listed : List TrackedDatabaseResource} {tracked : TrackedDatabaseResource}
    (answered : ⟨.listTrackedResources, .ok listed⟩ ∈ System.calls i h) (mem : tracked ∈ listed) :
    TrackedBy i tracked.databaseInstanceId tracked.externalId tracked.operationVersion h := by
  obtain ⟨h₁, c₁, env, h₂, split, answer⟩ := System.mem_calls answered
  have keyed := instancesKeyed_of_reaches starts (traced.split split).1.reaches
  refine ⟨h₁, c₁, env, h₂, ?_⟩
  obtain ⟨error, e⟩ | ⟨r, store, e, -, -, answered | ⟨error, answered⟩⟩ :=
    perform_cases .listTrackedResources env c₁.store
  · cases (congrArg Prod.fst e).symm.trans answer
  · cases answered.symm.trans answer
    cases e
    obtain ⟨d, there, found⟩ := List.mem_filterMap.mp mem
    split at found
    · rename_i externalId artifact external _
      split at found
      · cases found
      · cases found
        exact ⟨d, split, keyed.lookup there, external, rfl⟩
    · cases found
  · cases answered.symm.trans answer

/-- Whatever fails an instance as missing is a sweep that counts another absence. -/
lemma failsMissing_observes {x : DatabaseConfig × databaseSystem.Label} {id : Uuid}
    (keyed : InstancesKeyed x.1.store.store) (fails : FailsMissing id x) :
    ∃ i sweepId tracked now env, x.2 = .act i (.observeMissingResource sweepId tracked now) env ∧
      tracked.databaseInstanceId = id ∧
      ∃ f, x.1.store.store.missing? id = some f ∧ f.status ≠ .resolved := by
  obtain ⟨c, l⟩ := x
  cases l with
  | spawn => exact fails.elim
  | act i o env =>
    obtain ⟨unhanded, error, code, before, after⟩ := fails
    obtain ⟨error', e⟩ | ⟨r, store, e, -, done, -⟩ := perform_cases o env c.store
    · rw [e] at after
      exact absurd after before
    rw [done] at after
    rcases transact_failures keyed e id error after with there | blamed
    · exact absurd there before
    cases blamed with
    | handed handed => exact absurd code (unhanded error handed)
    | exhausted => exact absurd code (by decide)
    | @missing sweepId tracked now =>
      obtain ⟨here, finding⟩ := observeMissingResource_marks e after before
      exact ⟨i, sweepId, tracked, now, env, rfl, here, finding⟩

end Runs

section Scenario

/-- The calls of a delivery, which is given a resource. -/
def provisions (thread n : Nat) : List databaseSystem.Move :=
  List.replicate n (.act thread
    { id := 7
      operationId := 8
      provisioned := ⟨"ref", "postgres", "ca-central-1", "vault"⟩ })

/-- A sweep makes `n` calls, while the provider lists nothing. -/
def sweepsWithout (thread n : Nat) (now : Date) (id : Uuid) : List databaseSystem.Move :=
  List.replicate n (.act thread { now, id })

/-- An instance is requested (0) and ready (1), and a sweep misses its resource (2). -/
def missedOnce : List databaseSystem.Move :=
  [.spawn (.provisionRequest 1 1 "key" ⟨1, "ca-central-1", false⟩)] ++ proceeds 0 4 0 7 ++
    [.spawn (.delivery ⟨8, 7, .provision, 0⟩ 1 5 30)] ++ provisions 1 17 ++
    [.spawn (.reconciliation {})] ++ sweepsWithout 2 12 10 20

/-- The next sweep misses it again (3). -/
def missedAgain : List databaseSystem.Move :=
  missedOnce ++ [.spawn (.reconciliation {})] ++ sweepsWithout 3 8 20 21

/-- The next sweep lists it and is refused before it compares anything (3). The one after that misses it
    again (4). -/
def seenBetween : List databaseSystem.Move :=
  missedOnce ++ [.spawn (.reconciliation {})] ++ sweepsOver 3 5 20 21 ++ [refused 3] ++
    sweepsOver 3 2 20 21 ++ [.spawn (.reconciliation {})] ++ sweepsWithout 4 8 30 22

/-- The thread fails the instance, of whose resource it counts an absence. -/
def failsInstance (i : Nat) (id : Uuid) (externalId : String) :
    DatabaseConfig × databaseSystem.Label → Bool
  | (c, .act j (.observeMissingResource sweepId tracked now) env) =>
    decide (j = i) && decide (tracked.externalId = externalId) && (c.store.store.failure? id).isNone &&
      decide ((perform (.observeMissingResource sweepId tracked now) env c.store).2.store.failure? id =
        some resourceMissing)
  | _ => false

/-- The step counts an absence of the resource. -/
def countsAbsence (i : Nat) (tracked : TrackedDatabaseResource) :
    DatabaseConfig × databaseSystem.Label → Bool
  | (_, .act j (.observeMissingResource _ tracked' _) _) => decide (i = j) && decide (tracked = tracked')
  | _ => false

/-- A step that counts no absence onto a finding, or does so after only one other sweep, which has counted
    the same absence. -/
def countsConsecutively (h : DatabaseHistory) : DatabaseConfig × databaseSystem.Label → Bool
  | (c, .act i (.observeMissingResource _ tracked _) _) =>
    (c.store.store.missing? tracked.databaseInstanceId).isNone ||
      match inventories h with
      | [(j, _), (k, _)] => decide (k = i) && h.any (countsAbsence j tracked)
      | _ => false
  | _ => true

variable {h : DatabaseHistory} {x : DatabaseConfig × databaseSystem.Label} {id : Uuid}
  {i : Nat} {externalId : String}

lemma failsInstance_eq_true (fails : failsInstance i id externalId x = true) :
    FailsMissing id x ∧ ∃ sweepId tracked now env,
      x.2 = .act i (.observeMissingResource sweepId tracked now) env ∧ tracked.externalId = externalId := by
  rw [failsInstance.eq_def] at fails
  split at fails
  · rename_i c j sweepId tracked now env
    simp only [Bool.and_eq_true, decide_eq_true_eq, Option.isNone_iff_eq_none] at fails
    obtain ⟨⟨⟨rfl, same⟩, before⟩, after⟩ := fails
    refine ⟨⟨?_, resourceMissing, rfl, ?_, after⟩, ?_⟩
    · exact fun error handed => nomatch handed
    · rw [before]
      exact nofun
    · exact ⟨sweepId, tracked, now, env, rfl, same⟩
  · cases fails

lemma consecutive_of_test (test : countsConsecutively h x = true) : Consecutive h x := by
  rw [countsConsecutively.eq_def] at test
  split at test
  · rename_i c i sweepId tracked now env
    intro f finding _
    rw [finding, Option.isNone_some, Bool.false_or] at test
    split at test
    · rename_i j before k resources order
      obtain ⟨here, counted⟩ := Bool.and_eq_true_iff.mp test
      cases of_decide_eq_true here
      obtain ⟨⟨c', l⟩, mem, counts⟩ := List.any_eq_true.mp counted
      rw [countsAbsence.eq_def] at counts
      split at counts
      · rename_i c₁ j' sweepId' tracked' now' env' same
        cases same
        obtain ⟨there, same⟩ := Bool.and_eq_true_iff.mp counts
        cases of_decide_eq_true there
        cases of_decide_eq_true same
        exact ⟨[], j, before, resources, [], order, sweepId', tracked, now', _,
          System.mem_calls_of_mem mem, rfl, rfl, rfl⟩
      · cases counts
    · cases test
  · rename_i other
    obtain ⟨c, l⟩ := x
    cases l with
    | spawn => trivial
    | act i o env =>
      cases o with
      | observeMissingResource sweepId tracked now => exact (other _ _ _ _ _ _ rfl).elim
      | _ => trivial

end Scenario

end AtomsPlatform.Database
