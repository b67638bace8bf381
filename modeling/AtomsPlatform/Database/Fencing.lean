import AtomsPlatform.Database.Worker

/-!
# Fencing of database operations

An execution owns its instance through the operation version of its job. Once a newer version is
committed, or another delivery of the same job has finished the operation, the guards of the worker's
writes match no row any more: the writes report `false` and change nothing. The exception is `fail`,
which writes the migration runs and the event whatever its guard matches, and the row itself as long
as the version is still the same. A delivery that is granted a claim on the finished operation, after
it was set to FAILED, gives the version back to the executions that had lost it.
-/

namespace AtomsPlatform.Database
open Interleaving

/-- A job has lost an instance: a newer version was committed, or the operation is finished. -/
def Lost (job : DatabaseOperationJob) (d : DatabaseInstance) : Prop :=
  job.operationVersion < d.operationVersion ∨
    d.operationVersion = job.operationVersion ∧ (d.status = .ready ∨ d.status = .deleted)

/-- A job has lost the instance it is for. -/
def LostOwnership (job : DatabaseOperationJob) (s : DatabaseState) : Prop :=
  ∃ d, s.store.instance? job.databaseInstanceId = some d ∧ Lost job d

/-- The rows an execution writes: instances, migration runs and the logs of the runs. -/
structure SameRecords (s s' : DatabaseState) : Prop where
  instances : s'.store.instances = s.store.instances
  migrationRuns : s'.store.migrationRuns = s.store.migrationRuns
  runLogs : s'.store.runLogs = s.store.runLogs

/-- A thread reaches the failure handler of `process`. -/
def ReachesFail (thread : Nat) : databaseSystem.Label → Prop
  | .act i (.fail ..) env => i = thread ∧ Environment.TakesEffect env
  | _ => False

/-- A provision job of the same instance and version is granted a claim again. -/
def Reclaims (job : DatabaseOperationJob) (s : DatabaseState) : databaseSystem.Label → Prop
  | .act _ (.claim job' _) env =>
    job'.databaseInstanceId = job.databaseInstanceId ∧ job'.command = .provision ∧
      job'.operationVersion = job.operationVersion ∧ Environment.TakesEffect env ∧
      ∃ d, s.store.instance? job.databaseInstanceId = some d ∧
        d.operationVersion = job.operationVersion ∧ settled d.status = false
  | _ => False

/-- The steps under which an execution that lost its instance stays fenced. -/
def KeepsFence (thread : Nat) (job : DatabaseOperationJob) (c : DatabaseConfig)
    (l : databaseSystem.Label) : Prop :=
  ¬ ReachesFail thread l ∧ ¬ Reclaims job c.store l

/-- `Lost`, as it is preserved by later steps: none of the statuses a worker writes under. -/
def Fenced (job : DatabaseOperationJob) (d : DatabaseInstance) : Prop :=
  job.operationVersion < d.operationVersion ∨
    d.operationVersion = job.operationVersion ∧
      (d.status = .ready ∨ d.status = .active ∨ d.status = .suspended ∨ d.status = .failed ∨
        d.status = .deleted)

/-- The instance of a job is fenced. -/
def FencedState (job : DatabaseOperationJob) (s : DatabaseState) : Prop :=
  ∃ d, s.store.instance? job.databaseInstanceId = some d ∧ Fenced job d

variable {job : DatabaseOperationJob} {database : DatabaseExecutionRecord}

lemma Lost.fenced {d : DatabaseInstance} (lost : Lost job d) : Fenced job d := by
  obtain newer | ⟨version, ready | deleted⟩ := lost
  · exact .inl newer
  · exact .inr ⟨version, .inl ready⟩
  · exact .inr ⟨version, .inr (.inr (.inr (.inr deleted)))⟩

/-- A change of a fenced row that is no new claim keeps it fenced. -/
lemma RowChange.fenced {o : Operation} {d d' : DatabaseInstance} (change : RowChange o d d')
    (fenced : Fenced job d)
    (noClaim : ∀ job' now, o = .claim job' now → job'.databaseInstanceId = d.id →
      job'.command = .provision → d.operationVersion = job'.operationVersion →
      d.operationVersion = job.operationVersion → settled d.status = true) : Fenced job d' := by
  cases change with
  | kept status version =>
    simp only [Fenced, status, version]
    exact fenced
  | provisioning op command same version unsettled status version' =>
    obtain newer | ⟨equal, -⟩ := fenced
    · exact .inl (version' ▸ newer)
    · rw [noClaim _ _ op same command version equal] at unsettled
      cases unsettled
  | advanced adv same version before after version' =>
    obtain newer | ⟨equal, status⟩ := fenced
    · exact .inl (version' ▸ newer)
    · rw [before] at status
      cases adv <;> simp at status
  | failed status version =>
    obtain newer | ⟨equal, -⟩ := fenced
    · exact .inl (version ▸ newer)
    · exact .inr ⟨version.trans equal, .inr (.inr (.inr (.inl status)))⟩
  | deleting _ status version =>
    refine .inl ?_
    obtain newer | ⟨equal, -⟩ := fenced <;> omega
  | recovered _ status version =>
    obtain newer | ⟨equal, before⟩ := fenced
    · exact .inl (newer.trans_le version)
    obtain later | same := Nat.lt_or_eq_of_le version
    · exact .inl (equal ▸ later)
    refine .inr ⟨same.symm.trans equal, ?_⟩
    obtain status | status := status
    · exact status.symm ▸ before
    · exact .inr (.inr (.inr (.inl status)))

/-- A fenced row is owned by no record of the job, in any status a worker writes under. -/
lemma Fenced.not_owned {d : DatabaseInstance} {status : DatabaseInstanceStatus}
    (fenced : Fenced job d) (carries : Carries job database)
    (written : status = .provisioning ∨ status = .healthCheck ∨ status = .migrating ∨
      status = .deleting) : ownedIn database status d = false := by
  refine Bool.eq_false_iff.mpr fun owned => ?_
  obtain ⟨-, version, rfl⟩ := ownedIn_iff.mp owned
  rw [carries.operationVersion] at version
  obtain newer | ⟨-, status⟩ := fenced
  · omega
  · obtain e | e | e | e := written <;> simp [e] at status

lemma FencedState.not_owns {s : DatabaseState} {status : DatabaseInstanceStatus}
    (fenced : FencedState job s) (carries : Carries job database)
    (written : status = .provisioning ∨ status = .healthCheck ∨ status = .migrating ∨
      status = .deleting) : s.store.owns database.id (ownedIn database status) = false := by
  obtain ⟨d, row, fenced⟩ := fenced
  rw [carries.id, owns_of_row row]
  exact fenced.not_owned carries written

/-- A step of any thread that is no new claim of the job keeps the instance fenced. -/
lemma FencedState.kept {s : DatabaseState} {o : Operation} {env : Environment} {i : Nat}
    (fenced : FencedState job s) (noClaim : ¬ Reclaims job s (.act i o env)) :
    FencedState job (perform o env s).2 := by
  obtain ⟨d, row, fenced⟩ := fenced
  obtain ⟨error, e⟩ | ⟨r, store, e, effect, after, -⟩ := perform_cases o env s
  · rw [e]
    exact ⟨d, row, fenced⟩
  · obtain ⟨d', row', change⟩ := perform_rowStep job.databaseInstanceId o env s d row
    refine ⟨d', row', change.fenced fenced ?_⟩
    rintro job' now rfl same command version equal
    by_contra unsettled
    rw [instance?_id row] at same
    exact noClaim ⟨same, command, version.symm.trans equal, effect, d, row, equal,
      Bool.eq_false_iff.mpr unsettled⟩

/-- The claim of a fenced job is refused, unless it is granted to the version again. -/
lemma FencedState.claim_same {s s' : DatabaseStore} {queue : List DatabaseOperationJob} {now : Date}
    {r : DatabaseClaimResult} {i : Nat} {env : Environment}
    (fenced : FencedState job ⟨s, queue⟩) (effect : env.TakesEffect)
    (noClaim : ¬ Reclaims job ⟨s, queue⟩ (.act i (.claim job now) env))
    (e : claim job now s = .ok (r, s')) : s' = s := by
  obtain ⟨d, row, fenced⟩ := fenced
  cases r with
  | missing => exact claim_refused e (by simp)
  | stale status => exact claim_refused e (by simp)
  | ready database =>
    exfalso
    obtain ⟨-, -, -, d', row', version, provision, destroy⟩ := claim_ready e
    cases row.symm.trans row'
    obtain newer | ⟨-, status⟩ := fenced
    · omega
    cases command : job.command with
    | provision => exact noClaim ⟨rfl, command, rfl, effect, d, row, version, provision command⟩
    | destroy => simp [destroy command] at status

lemma SameRecords.refl {s : DatabaseState} : SameRecords s s :=
  ⟨rfl, rfl, rfl⟩

/-- Every write of a fenced execution matches no row, apart from the failure handler. -/
lemma FencedState.step_same {s : DatabaseState} {o : Operation} {env : Environment} {i : Nat}
    (fenced : FencedState job s) (requires : (workerContract job).requires o)
    (noFail : ¬ ReachesFail i (.act i o env)) (noClaim : ¬ Reclaims job s (.act i o env)) :
    SameRecords s (perform o env s).2 := by
  obtain ⟨error, e⟩ | ⟨r, store, e, effect, after, -⟩ := perform_cases o env s
  · rw [e]
    exact .refl
  rw [after]
  cases o with
  | claim job' now =>
    cases requires
    cases fenced.claim_same effect noClaim e
    exact .refl
  | recordProvisioned database result now =>
    have unowned := fenced.not_owns requires.1 (.inl rfl)
    simp only [transact, recordProvisioned, owns_upsertSecretReference, unowned] at e
    cases e
    simp only [upsertSecretReference]
    split <;> exact ⟨rfl, rfl, rfl⟩
  | recordHealthCheck database message now =>
    have unowned := fenced.not_owns requires.1 (.inr (.inl rfl))
    simp only [transact, recordHealthCheck, unowned] at e
    cases e
    exact .refl
  | startMigration database now =>
    have unowned := fenced.not_owns requires.1 (.inr (.inl rfl))
    simp only [transact, startMigration, unowned] at e
    cases e
    exact .refl
  | completeMigration database reports now =>
    have unowned := fenced.not_owns requires.1 (.inr (.inr (.inl rfl)))
    simp only [transact, completeMigration, unowned] at e
    cases e
    exact .refl
  | completeDestroy database now =>
    have unowned := fenced.not_owns requires.1 (.inr (.inr (.inr rfl)))
    simp only [transact, completeDestroy, unowned] at e
    cases e
    exact .refl
  | fail database error now => exact absurd ⟨rfl, effect⟩ noFail
  | now | countProvisioning | listProjectFiles | provision | getHealth | getEphemeralConnection
  | destroy | getSecret | revokeSecret | migrate =>
    cases e
    exact .refl
  | _ => exact requires.elim

/-- The contract of an activity: that of its job for a delivery, none for the others. -/
def activityContract : Activity → Contract Operation fun o => Except Failure o.Answer
  | .delivery job .. => workerContract job
  | _ => ⟨fun _ => True, fun _ _ => True⟩

/-- In every run, every delivery keeps the contract of its job. -/
lemma upholds_worker : databaseSystem.Upholds (fun (_ : Unit) => activityContract)
    (fun _ => True) (fun _ _ => True) (fun _ _ _ _ => True) where
  step := by
    intro i activity o env s _ _ _
    refine ⟨trivial, fun _ _ => ⟨trivial, ?_⟩⟩
    cases activity with
    | delivery job attempt maxAttempts healthAttempts =>
      obtain ⟨error, e⟩ | ⟨r, store, e, -, -, answer | ⟨error, answer⟩⟩ := perform_cases o env s
      · simp only [databaseSystem, e]
        cases o <;> trivial
      · simp only [databaseSystem, answer]
        cases o with
        | claim job' now =>
          cases r with
          | ready database =>
            obtain ⟨same, operation, version, -⟩ := claim_ready e
            exact ⟨same, operation, version⟩
          | missing => trivial
          | stale status => trivial
        | _ => trivial
      · simp only [databaseSystem, answer]
        cases o <;> trivial
    | _ => trivial
  body := by
    intro s activity _ _ _ _
    cases activity with
    | delivery job attempt maxAttempts healthAttempts =>
      have meets : Yields (workerContract job)
          (Activity.delivery job attempt maxAttempts healthAttempts).program fun _ => True :=
        .bind process_worker fun _ _ => .pure trivial
      exact Prog.Meets.mono meets fun _ _ => trivial
    | _ => exact Prog.meets_unconstrained _

/-- An execution that has lost its instance writes nothing any more: as long as it does not reach its
    failure handler and the lost version is not claimed again, each of its steps leaves the
    instances, the migration runs and the event logs as they were. -/
theorem lost_execution_writes_nothing {thread attempt maxAttempts healthAttempts : Nat}
    {c₀ c₁ c₂ c₃ : DatabaseConfig} {o : Operation} {env : Environment} {prog}
    (starts : Starts c₀)
    (run₁ : databaseSystem.Reaches databaseSystem.Unguarded c₀ c₁)
    (execution : c₁.threads[thread]? =
      some ⟨.delivery job attempt maxAttempts healthAttempts, prog⟩)
    (lost : LostOwnership job c₁.store)
    (run₂ : databaseSystem.Reaches (KeepsFence thread job) c₁ c₂)
    (guard : KeepsFence thread job c₂ (.act thread o env))
    (step : databaseSystem.Step c₂ (.act thread o env) c₃) : SameRecords c₂.store c₃.store := by
  have sound₀ : System.Sound (fun (_ : Unit) => activityContract) (fun _ => True)
      (fun _ _ => True) c₀ := by
    refine ⟨trivial, ?_⟩
    simp [starts.2.2]
  have sound₁ := upholds_worker.sound_reaches (fun _ => trivial) sound₀ run₁
  have sound₂ := upholds_worker.sound_reaches (fun _ => trivial) sound₁ run₂.unguarded
  obtain ⟨fenced, prog', execution'⟩ : FencedState job c₂.store ∧
      ∃ prog, c₂.threads[thread]? = some ⟨.delivery job attempt maxAttempts healthAttempts, prog⟩ := by
    refine run₂.invariant (P := fun c => FencedState job c.store ∧ ∃ prog,
      c.threads[thread]? = some ⟨.delivery job attempt maxAttempts healthAttempts, prog⟩) ?_ ?_
    · rintro c l c' ⟨fenced, prog, execution⟩ guard step
      refine ⟨?_, step.tag_kept execution⟩
      cases step with
      | act env at_i => exact fenced.kept guard.2
      | spawn adm => exact fenced
    · obtain ⟨d, row, lost⟩ := lost
      exact ⟨⟨d, row, lost.fenced⟩, prog, execution⟩
  cases step with
  | act env at_thread =>
    rw [execution'] at at_thread
    cases at_thread
    exact fenced.step_same (sound₂.requires execution' (x := ()) trivial) guard.1 guard.2

section Scenario

/-- Database 7 is requested and its job is delivered and claimed; then a sweep takes the execution for
    dead and fences it. -/
def executionFenced : List databaseSystem.Move :=
  [.spawn (.provisionRequest 1 1 "key" ⟨1, "ca-central-1", false⟩)] ++ proceeds 0 4 0 7 ++
    [.spawn (.delivery ⟨8, 7, .provision, 0⟩ 1 5 30)] ++ proceeds 1 2 0 7 ++
    [.spawn (.reconciliation {})] ++ proceeds 2 6 2000000 10

/-- The job of the fenced execution. -/
def fencedJob : DatabaseOperationJob :=
  ⟨8, 7, .provision, 0⟩

/-- The provider refuses a call of the fenced execution. -/
def providerRefuses : databaseSystem.Move :=
  .act 1 { fate := .aborts (.provider "SUPABASE_UNAVAILABLE" "Service unavailable" true) }

/-- The execution has lost its instance while it calls the provider. -/
lemma executionFenced_lost : ∃ c₁ c₂ prog o env,
    databaseSystem.Reaches databaseSystem.Unguarded freshPlatform c₁ ∧
    c₁.threads[1]? = some ⟨.delivery fencedJob 1 5 30, prog⟩ ∧ LostOwnership fencedJob c₁.store ∧
    KeepsFence 1 fencedJob c₁ (.act 1 o env) ∧ databaseSystem.Step c₁ (.act 1 o env) c₂ := by
  have run : ((databaseSystem.execute freshPlatform executionFenced).any fun c₁ =>
      (c₁.threads[1]?.any fun t => decide (t.tag = .delivery fencedJob 1 5 30)) &&
        ((c₁.store.store.instance? 7).any fun d => decide (0 < d.operationVersion)) &&
        ((System.pending c₁ 1).any fun o => o matches .provision ..) &&
        (databaseSystem.next c₁ providerRefuses).isSome) = true := by
    decide
  obtain ⟨c₁, e₁, run⟩ := (Option.any_eq_true _ _).mp run
  simp only [Bool.and_eq_true, Option.any_eq_true, Option.isSome_iff_exists, decide_eq_true_eq]
    at run
  obtain ⟨⟨⟨⟨t, at_1, tag⟩, d, row, version⟩, o, pending, provision⟩, c₂, e₂⟩ := run
  obtain ⟨o', pending', step⟩ := System.next_act e₂
  cases pending.symm.trans pending'
  refine ⟨c₁, c₂, t.prog, o, _, System.execute_reaches e₁, ?_, ⟨d, row, .inl version⟩, ?_, step⟩
  · rw [at_1, ← tag]
  · cases o with
    | provision => exact ⟨not_false, not_false⟩
    | _ => simp at provision

/-- The refused execution then appends its failure to the event log. -/
lemma executionFenced_appends : ∃ c₁ c₂ c₃ prog o env,
    databaseSystem.Reaches databaseSystem.Unguarded freshPlatform c₁ ∧
    c₁.threads[1]? = some ⟨.delivery fencedJob 1 5 30, prog⟩ ∧ LostOwnership fencedJob c₁.store ∧
    databaseSystem.Reaches databaseSystem.Unguarded c₁ c₂ ∧
    databaseSystem.Step c₂ (.act 1 o env) c₃ ∧
    (c₂.store.store.runLogs 1).eventSequence = 3 ∧
    (c₃.store.store.runLogs 1).eventSequence = 4 := by
  have run : ((databaseSystem.execute freshPlatform executionFenced).any fun c₁ =>
      (c₁.threads[1]?.any fun t => decide (t.tag = .delivery fencedJob 1 5 30)) &&
        ((c₁.store.store.instance? 7).any fun d => decide (0 < d.operationVersion)) &&
        (databaseSystem.execute c₁ [providerRefuses, .act 1 {}]).any fun c₂ =>
          decide ((c₂.store.store.runLogs 1).eventSequence = 3) &&
            (databaseSystem.next c₂ (.act 1 {})).any fun c₃ =>
              decide ((c₃.store.store.runLogs 1).eventSequence = 4)) = true := by
    decide
  obtain ⟨c₁, e₁, run⟩ := (Option.any_eq_true _ _).mp run
  simp only [Bool.and_eq_true, Option.any_eq_true, decide_eq_true_eq] at run
  obtain ⟨⟨⟨t, at_1, tag⟩, d, row, version⟩, c₂, e₂, before, c₃, e₃, after⟩ := run
  obtain ⟨o, -, step⟩ := System.next_act e₃
  refine ⟨c₁, c₂, c₃, t.prog, o, _, System.execute_reaches e₁, ?_, ⟨d, row, .inl version⟩,
    System.execute_reaches e₂, step, before, after⟩
  rw [at_1, ← tag]

/-- `lost_execution_writes_nothing` at the refused call of the fenced execution. -/
theorem lost_execution_writes_nothing_refused : ∃ c₁ c₂ : DatabaseConfig,
    databaseSystem.Reaches databaseSystem.Unguarded freshPlatform c₁ ∧
    LostOwnership fencedJob c₁.store ∧ SameRecords c₁.store c₂.store := by
  obtain ⟨c₁, c₂, prog, o, env, run, execution, lost, guard, step⟩ := executionFenced_lost
  exact ⟨c₁, c₂, run, lost, lost_execution_writes_nothing freshPlatform_starts run execution lost
    .refl guard step⟩

/-- Without the guard a lost execution can write: its failure handler appends an event. -/
theorem lost_execution_writes :
    ¬ ∀ (job : DatabaseOperationJob) (thread attempt maxAttempts healthAttempts : Nat)
      (c₀ c₁ c₂ c₃ : DatabaseConfig) (o : Operation) (env : Environment) (prog),
      Starts c₀ → databaseSystem.Reaches databaseSystem.Unguarded c₀ c₁ →
      c₁.threads[thread]? = some ⟨.delivery job attempt maxAttempts healthAttempts, prog⟩ →
      LostOwnership job c₁.store → databaseSystem.Reaches databaseSystem.Unguarded c₁ c₂ →
      databaseSystem.Step c₂ (.act thread o env) c₃ → SameRecords c₂.store c₃.store := by
  intro kept
  obtain ⟨c₁, c₂, c₃, prog, o, env, run₁, execution, lost, run₂, step, before, after⟩ :=
    executionFenced_appends
  have same := kept _ _ _ _ _ _ c₁ c₂ c₃ o env prog freshPlatform_starts run₁ execution lost run₂
    step
  rw [same.runLogs, before] at after
  omega

end Scenario

end AtomsPlatform.Database
