import AtomsPlatform.Database.Instances
import AtomsPlatform.Database.RecoveryDispatch
import Mathlib.Data.List.Count

/-!
# Recovery accounting

A sweep counts a recovery attempt on every instance of its batch in one transaction, and dispatches
the jobs afterwards. The counters are right about a sweep that ends exactly if it came through its
batch: the queue refused no job, or the last one only, whose refusal is then on record. A refusal in
the middle of the batch leaves the instances behind it counted, with neither a job nor a failure.
-/

namespace AtomsPlatform.Database
open Interleaving

/-- What a recovery plans in a step, whether or not its caller learns of it. -/
def planOf : DatabaseConfig × databaseSystem.Label → DatabaseRecoveryPlan
  | (c, .act _ (.recoverStaleOperations input) env) =>
    match recoverStaleOperations input env.findingIds c.store.store, env.fate with
    | _, .aborts _ => {}
    | .ok (plan, _), _ => plan
    | .error _, _ => {}
  | _ => {}

/-- A thread puts a job on the queue. -/
inductive Enqueues (i : Nat) (job : DatabaseOperationJob) :
    DatabaseConfig × databaseSystem.Label → Prop where
  | intro {c env} :
    env.TakesEffect →
    Enqueues i job (c, .act i (.enqueue job) env)

/-- A thread records on an instance that its job was refused. -/
inductive Notes (i : Nat) (id : Uuid) : DatabaseConfig × databaseSystem.Label → Prop where
  | intro {c current error now env r s'} :
    current.id = id →
    env.TakesEffect →
    recordRecoveryDispatchFailure current error now c.store.store = .ok (r, s') →
    Notes i id (c, .act i (.recordRecoveryDispatchFailure current error now) env)

/-- A sweep has put a job for an operation version of an instance on the queue, or has recorded on
    the instance that its job was refused. -/
def AccountsFor (i : Nat) (h : DatabaseHistory) (id : Uuid) (version : Nat) : Prop :=
  (∃ job : DatabaseOperationJob, job.databaseInstanceId = id ∧ job.operationVersion = version ∧
    ∃ x ∈ h, Enqueues i job x) ∨ ∃ x ∈ h, Notes i id x

/-- The attempts a sweep has counted are those it accounts for. -/
def AccountsExactly (i : Nat) (h : DatabaseHistory) : Prop :=
  ∀ c input env, (c, .act i (.recoverStaleOperations input) env) ∈ h → ∀ id d d',
    c.store.store.instance? id = some d →
    (perform (.recoverStaleOperations input) env c.store).2.store.instance? id = some d' →
    (d.recoveryCount < d'.recoveryCount ↔ AccountsFor i h id d'.operationVersion)

/-- A sweep has come through its batch: it has learned of its plan, and the queue has refused no job
    of it but the last one, which then was put on the queue nevertheless or is on record as
    refused. -/
structure ComesThrough (i : Nat) (h : DatabaseHistory) : Prop where
  planned : ∀ c input env, (c, .act i (.recoverStaleOperations input) env) ∈ h →
    (planOf (c, .act i (.recoverStaleOperations input) env)).dispatches ≠ [] → env.fate = .commits
  refused : ∀ job ∈ refusedJobs (System.calls i h),
    plannedJobs (System.calls i h) = acceptedJobs (System.calls i h) ++ [job] ∧
      ((∃ x ∈ h, Enqueues i job x) ∨ ∃ x ∈ h, Notes i job.databaseInstanceId x)

/-- An instance is put in the state of exhausted recoveries. -/
def Exhausted (d : DatabaseInstance) : Prop :=
  d.status = .failed ∧ d.error = some recoveryExhausted

/-- A job was put on the queue. -/
def PutOnQueue (h : DatabaseHistory) (job : DatabaseOperationJob) : Prop :=
  ∃ i, ∃ x ∈ h, Enqueues i job x

/-- The jobs planned for an instance. -/
def plannedFor (id : Uuid) (h : DatabaseHistory) : List DatabaseOperationJob :=
  h.flatMap fun x => (planOf x).jobsFor id

section Step
variable {c : DatabaseConfig} {i : Nat} {input : RecoverInput} {env : Environment} {id : Uuid}
  {job : DatabaseOperationJob} {d : DatabaseInstance}

/-- A recovery that takes effect carries its plan out, and is answered with it or with an error. -/
lemma planOf_recovery (c : DatabaseConfig) (i : Nat) (input : RecoverInput) (env : Environment) :
    (planOf (c, .act i (.recoverStaleOperations input) env) = {} ∧
      (perform (.recoverStaleOperations input) env c.store).2 = c.store) ∨
    recoverStaleOperations input env.findingIds c.store.store =
      .ok (planOf (c, .act i (.recoverStaleOperations input) env),
        (perform (.recoverStaleOperations input) env c.store).2.store) := by
  cases e : env.fate with
  | aborts error =>
    refine .inl ⟨?_, ?_⟩
    · simp only [planOf, e]
    · simp only [perform, e]
  | commits | unacknowledged error =>
    refine .inr ?_
    simp only [planOf, perform, transact, recoverStaleOperations, e]

/-- What the caller learns of a plan. -/
lemma plannedIn_recovery (c : DatabaseConfig) (i : Nat) (input : RecoverInput) (env : Environment) :
    plannedIn ⟨.recoverStaleOperations input,
      (perform (.recoverStaleOperations input) env c.store).1⟩ =
      if env.fate = .commits then (planOf (c, .act i (.recoverStaleOperations input) env)).dispatches
      else [] := by
  cases e : env.fate <;>
    simp [planOf, perform, transact, recoverStaleOperations, e, plannedIn]

variable (i input env) in
/-- What a recovery does to the row of an instance, by the jobs it plans for it. -/
lemma recovered_of_row (keyed : InstancesKeyed c.store.store)
    (row : c.store.store.instance? id = some d) :
    ∃ d', (perform (.recoverStaleOperations input) env c.store).2.store.instance? id = some d' ∧
      Recovered input d d' ((planOf (c, .act i (.recoverStaleOperations input) env)).jobsFor id) := by
  obtain ⟨none, same⟩ | done := planOf_recovery c i input env
  · rw [none, same]
    exact ⟨d, row, .kept rfl⟩
  · exact (recoverStaleOperations_recovered keyed done).1 d row

variable (i input env) in
/-- Nothing is planned for an instance without a row. -/
lemma unplanned_of_absent (keyed : InstancesKeyed c.store.store)
    (absent : c.store.store.instance? id = none) :
    (perform (.recoverStaleOperations input) env c.store).2.store.instance? id = none ∧
      (planOf (c, .act i (.recoverStaleOperations input) env)).jobsFor id = [] := by
  obtain ⟨none, same⟩ | done := planOf_recovery c i input env
  · rw [none, same]
    exact ⟨absent, rfl⟩
  · exact (recoverStaleOperations_recovered keyed done).2 absent

lemma mem_jobsFor {plan : DatabaseRecoveryPlan} (mem : job ∈ plan.dispatches) :
    job ∈ plan.jobsFor job.databaseInstanceId :=
  List.mem_filter.mpr ⟨mem, by simp⟩

lemma Recovered.fenced_of_mem {d' : DatabaseInstance} {jobs : List DatabaseOperationJob}
    (recovered : Recovered input d d' jobs) (mem : job ∈ jobs) :
    jobs = [job] ∧ d.recoveryCount < d'.recoveryCount ∧
      d'.operationVersion = job.operationVersion := by
  cases recovered with
  | kept => cases mem
  | exhausted => cases mem
  | fenced _ _ e =>
    subst e
    rw [List.mem_singleton.mp mem]
    exact ⟨rfl, Nat.lt_succ_self _, rfl⟩

lemma Recovered.exists_of_lt {d' : DatabaseInstance} {jobs : List DatabaseOperationJob}
    (recovered : Recovered input d d' jobs) (counted : d.recoveryCount < d'.recoveryCount) :
    ∃ job ∈ jobs, job.operationVersion = d'.operationVersion := by
  cases recovered with
  | kept e | exhausted _ _ e =>
    subst e
    exact absurd counted (Nat.lt_irrefl _)
  | fenced _ _ e =>
    subst e
    exact ⟨_, List.mem_singleton_self _, rfl⟩

/-- An attempt is counted on the instance of every job of a plan. -/
lemma counted_of_planned (keyed : InstancesKeyed c.store.store)
    (mem : job ∈ (planOf (c, .act i (.recoverStaleOperations input) env)).dispatches) :
    ∃ d d', c.store.store.instance? job.databaseInstanceId = some d ∧
      (perform (.recoverStaleOperations input) env c.store).2.store.instance?
        job.databaseInstanceId = some d' ∧
      d.recoveryCount < d'.recoveryCount ∧ d'.operationVersion = job.operationVersion := by
  have own := mem_jobsFor mem
  cases row : c.store.store.instance? job.databaseInstanceId with
  | none =>
    rw [(unplanned_of_absent i input env keyed row).2] at own
    cases own
  | some d =>
    obtain ⟨d', row', recovered⟩ := recovered_of_row i input env keyed row
    exact ⟨d, d', rfl, row', (recovered.fenced_of_mem own).2⟩

variable (i input env) in
/-- A plan has at most one job for an instance. -/
lemma planOf_distinct (keyed : InstancesKeyed c.store.store) :
    ((planOf (c, .act i (.recoverStaleOperations input) env)).dispatches.map
      DatabaseOperationJob.databaseInstanceId).Nodup := by
  rw [List.nodup_iff_count_le_one]
  intro id
  have few : ((planOf (c, .act i (.recoverStaleOperations input) env)).jobsFor id).length ≤ 1 := by
    cases row : c.store.store.instance? id with
    | none =>
      rw [(unplanned_of_absent i input env keyed row).2]
      exact Nat.zero_le _
    | some d =>
      obtain ⟨d', -, recovered⟩ := recovered_of_row i input env keyed row
      generalize (planOf _).jobsFor id = jobs at recovered
      cases recovered <;> simp
  rw [List.count, List.countP_map, List.countP_eq_length_filter]
  exact few

end Step

section Sweep
variable {G : DatabaseConfig → databaseSystem.Label → Prop} {c₀ c c₁ : DatabaseConfig}
  {h before after : DatabaseHistory} {i : Nat} {o : Operation} {job : DatabaseOperationJob}
  {id : Uuid} {options : ReconcilerOptions} {p : Prog Operation (fun o => Except Failure o.Answer)
    (Except Failure Response)} {input : RecoverInput} {env : Environment}

/-- The account of a sweep's recoveries, with the summary turned into a response. -/
lemma reconciliation_recoveries :
    Accounts recoveryAccount (· = []) (Activity.reconciliation options).program
      (fun _ => Dispatched) fun _ => Dispatched :=
  .bind reconcile_recoveries fun _ => .pure fun _ dispatched => dispatched

/-- What a sweep has done before a step of it. -/
lemma recovery_accounted (traced : databaseSystem.Traced G c₀ h c) (starts : Starts c₀)
    (at_i : c.threads[i]? = some ⟨.reconciliation options, p⟩)
    (split : h = before ++ (c₁, .act i o env) :: after) :
    recoveryAccount (System.calls i before) o :=
  traced.accounted_step starts.2.2 at_i split (reconciliation_recoveries [] rfl)

/-- A sweep that has ended has left its loop. -/
lemma dispatched_of_ended {r : Except Failure Response}
    (traced : databaseSystem.Traced G c₀ h c) (starts : Starts c₀)
    (at_i : c.threads[i]? = some ⟨.reconciliation options, .ret r⟩) :
    Dispatched (System.calls i h) := by
  have post := traced.concluded starts.2.2 at_i (reconciliation_recoveries [] rfl)
  cases r with
  | ok response => exact post
  | error error => exact post

/-- A sweep plans in one step. -/
lemma plannedJobs_of_recovery (traced : databaseSystem.Traced G c₀ h c) (starts : Starts c₀)
    (at_i : c.threads[i]? = some ⟨.reconciliation options, p⟩)
    (mem : (c₁, .act i (.recoverStaleOperations input) env) ∈ h) :
    plannedJobs (System.calls i h) =
      if env.fate = .commits then (planOf (c₁, .act i (.recoverStaleOperations input) env)).dispatches
      else [] := by
  obtain ⟨before, after, split⟩ := List.append_of_mem mem
  have idle : Idle (System.calls i before) := recovery_accounted traced starts at_i split
  have later : plannedJobs (System.calls i after) = [] := by
    refine List.flatMap_eq_nil_iff.mpr fun ⟨o, r⟩ there => ?_
    cases o with
    | recoverStaleOperations input' =>
      -- the second recovery would not find the sweep idle
      obtain ⟨between, c₂, env', rest, split', -⟩ := System.mem_calls there
      have split'' : h = (before ++ (c₁, .act i (.recoverStaleOperations input) env) :: between) ++
          (c₂, .act i (.recoverStaleOperations input') env') :: rest := by
        rw [split, split']
        simp
      have again : Idle _ := recovery_accounted traced starts at_i split''
      have called : _ ∈ System.calls i
          (before ++ (c₁, .act i (.recoverStaleOperations input) env) :: between) :=
        System.mem_calls_of_mem (List.mem_append_right _ List.mem_cons_self)
      cases again _ called
    | _ => rfl
  have here : System.calls i [(c₁, (.act i (.recoverStaleOperations input) env :
      databaseSystem.Label))] = [⟨.recoverStaleOperations input,
        (perform (.recoverStaleOperations input) env c₁.store).1⟩] :=
    System.calls_act (h := [])
  have whole : System.calls i h = (System.calls i before ++ [⟨.recoverStaleOperations input,
      (perform (.recoverStaleOperations input) env c₁.store).1⟩]) ++ System.calls i after := by
    rw [split, System.calls_append, ← List.singleton_append, System.calls_append, here,
      List.append_assoc]
  rw [whole, plannedJobs, List.flatMap_append]
  rw [plannedJobs] at later
  rw [later, List.append_nil]
  have planned := plannedJobs_append (h := System.calls i before)
    (x := ⟨.recoverStaleOperations input, (perform (.recoverStaleOperations input) env c₁.store).1⟩)
  rw [idle.ledger.planned, List.nil_append] at planned
  exact planned.trans (plannedIn_recovery c₁ i input env)

/-- What is planned before a step is planned. -/
lemma mem_plannedJobs_append {h h' : DatabaseCalls} (mem : job ∈ plannedJobs h) :
    job ∈ plannedJobs (h ++ h') := by
  rw [plannedJobs, List.flatMap_append]
  exact List.mem_append_left _ mem

/-- A job a sweep has put on the queue is of its plan, and the queue has answered for it. -/
lemma planned_of_enqueues (traced : databaseSystem.Traced G c₀ h c) (starts : Starts c₀)
    (at_i : c.threads[i]? = some ⟨.reconciliation options, p⟩)
    {x : DatabaseConfig × databaseSystem.Label} (mem : x ∈ h) (enqueues : Enqueues i job x) :
    job ∈ plannedJobs (System.calls i h) ∧
      (job ∈ acceptedJobs (System.calls i h) ∨ job ∈ refusedJobs (System.calls i h)) := by
  cases enqueues with
  | @intro c₁ env effect =>
  have called := System.mem_calls_of_mem mem
  constructor
  · obtain ⟨before, after, split⟩ := List.append_of_mem mem
    obtain ⟨done, rest, ledger⟩ : ∃ done rest, Ledger (done ++ job :: rest) done [] _ :=
      recovery_accounted traced starts at_i split
    rw [split, System.calls_append]
    refine mem_plannedJobs_append ?_
    rw [ledger.planned]
    exact List.mem_append_right _ List.mem_cons_self
  · cases e : (databaseSystem.perform (.enqueue job) env c₁.store).1 with
    | ok answer =>
      rw [e] at called
      exact .inl (List.mem_filterMap.mpr ⟨_, called, rfl⟩)
    | error error =>
      rw [e] at called
      exact .inr (List.mem_filterMap.mpr ⟨_, called, rfl⟩)

/-- What is found for a job is its instance. -/
lemma findRecoveryDispatch_id {current : DatabaseInstance} {s : DatabaseState}
    (found : (perform (.findRecoveryDispatch job) env s).1 = .ok (some current)) :
    current.id = job.databaseInstanceId := by
  obtain ⟨error, e⟩ | ⟨r, store, e, -, -, answered | ⟨error, answered⟩⟩ :=
    perform_cases (.findRecoveryDispatch job) env s
  · cases (congrArg Prod.fst e).symm.trans found
  · cases answered.symm.trans found
    have row := congrArg Prod.fst (Except.ok.inj e)
    exact instance?_id (Option.filter_eq_some_iff.mp row).1
  · cases answered.symm.trans found

/-- A failure a sweep has recorded is about a job the queue has refused. -/
lemma refused_of_notes (traced : databaseSystem.Traced G c₀ h c) (starts : Starts c₀)
    (at_i : c.threads[i]? = some ⟨.reconciliation options, p⟩)
    {x : DatabaseConfig × databaseSystem.Label} (mem : x ∈ h) (notes : Notes i id x) :
    ∃ job ∈ refusedJobs (System.calls i h), job.databaseInstanceId = id := by
  cases notes with
  | @intro c₁ current error now env r s' about effect recorded =>
  obtain ⟨before, after, split⟩ := List.append_of_mem mem
  obtain ⟨job, refused, found⟩ : ∃ job ∈ refusedJobs _, _ :=
    recovery_accounted traced starts at_i split
  obtain ⟨h₁, c₂, env', h₂, -, answer⟩ := System.mem_calls found
  refine ⟨job, ?_, (findRecoveryDispatch_id answer).symm.trans about⟩
  rw [split, System.calls_append, refusedJobs, List.filterMap_append]
  exact List.mem_append_left _ refused

/-- What a sweep accounts for it has planned. -/
lemma planned_of_accountsFor {r : Except Failure Response} {version : Nat}
    (traced : databaseSystem.Traced G c₀ h c) (starts : Starts c₀)
    (at_i : c.threads[i]? = some ⟨.reconciliation options, .ret r⟩)
    (accounts : AccountsFor i h id version) :
    ∃ job ∈ plannedJobs (System.calls i h), job.databaseInstanceId = id ∧
      (job ∈ acceptedJobs (System.calls i h) ∨ job ∈ refusedJobs (System.calls i h)) := by
  obtain ⟨job, about, -, x, mem, enqueues⟩ | ⟨x, mem, notes⟩ := accounts
  · obtain ⟨planned, answered⟩ := planned_of_enqueues traced starts at_i mem enqueues
    exact ⟨job, planned, about, answered⟩
  · obtain ⟨job, refused, about⟩ := refused_of_notes traced starts at_i mem notes
    refine ⟨job, ?_, about, .inr refused⟩
    obtain ⟨plan, ledger⟩ | ⟨done, job', rest, ledger⟩ := dispatched_of_ended traced starts at_i
    · rw [ledger.refused] at refused
      cases refused
    · rw [ledger.refused, List.mem_singleton] at refused
      rw [ledger.planned, refused]
      exact List.mem_append_right _ List.mem_cons_self

/-- A sweep that has planned something has done so in a step, and has learned of it. -/
lemma recovery_of_planned (traced : databaseSystem.Traced G c₀ h c) (starts : Starts c₀)
    (at_i : c.threads[i]? = some ⟨.reconciliation options, p⟩)
    (mem : job ∈ plannedJobs (System.calls i h)) :
    ∃ c₁ input env, (c₁, .act i (.recoverStaleOperations input) env) ∈ h ∧ env.fate = .commits ∧
      plannedJobs (System.calls i h) =
        (planOf (c₁, .act i (.recoverStaleOperations input) env)).dispatches := by
  obtain ⟨⟨o, r⟩, called, planned⟩ := List.mem_flatMap.mp mem
  cases o with
  | recoverStaleOperations input =>
    obtain ⟨before, c₁, env, after, split, -⟩ := System.mem_calls called
    have here : (c₁, .act i (.recoverStaleOperations input) env) ∈ h := by
      rw [split]
      exact List.mem_append_right _ List.mem_cons_self
    have jobs := plannedJobs_of_recovery traced starts at_i here
    split at jobs
    · rename_i commits
      exact ⟨c₁, input, env, here, commits, jobs⟩
    · rw [jobs] at mem
      cases mem
  | _ => cases planned

/-- The rows are keyed wherever a step is taken. -/
lemma keyed_of_mem (traced : databaseSystem.Traced G c₀ h c) (starts : Starts c₀)
    {l : databaseSystem.Label} (mem : (c₁, l) ∈ h) : InstancesKeyed c₁.store.store := by
  obtain ⟨before, after, split⟩ := List.append_of_mem mem
  exact instancesKeyed_of_reaches starts (traced.split split).1.reaches

/-- A sweep that comes through its batch accounts for every job it has planned. -/
lemma ComesThrough.accountsFor {r : Except Failure Response} (through : ComesThrough i h)
    (traced : databaseSystem.Traced G c₀ h c) (starts : Starts c₀)
    (at_i : c.threads[i]? = some ⟨.reconciliation options, .ret r⟩)
    (planned : job ∈ plannedJobs (System.calls i h)) :
    AccountsFor i h job.databaseInstanceId job.operationVersion := by
  have enqueued (accepted : job ∈ acceptedJobs (System.calls i h)) : ∃ x ∈ h, Enqueues i job x := by
    obtain ⟨⟨o, r⟩, called, accepted⟩ := List.mem_filterMap.mp accepted
    cases o with
    | enqueue job' =>
      cases r with
      | error => cases accepted
      | ok answer =>
        cases accepted
        obtain ⟨before, c₁, env, after, split, answer⟩ := System.mem_calls called
        refine ⟨(c₁, .act i (.enqueue job) env), ?_, .intro fun error aborts => ?_⟩
        · rw [split]
          exact List.mem_append_right _ List.mem_cons_self
        · have none : (perform (.enqueue job) env c₁.store).1 = .error error := by
            simp only [perform, aborts]
          cases none.symm.trans answer
    | _ => cases accepted
  obtain ⟨plan, ledger⟩ | ⟨done, job', rest, ledger⟩ := dispatched_of_ended traced starts at_i
  · refine .inl ⟨job, rfl, rfl, enqueued ?_⟩
    rw [ledger.accepted]
    rwa [ledger.planned] at planned
  · have refused : job' ∈ refusedJobs (System.calls i h) := by
      rw [ledger.refused]
      exact List.mem_singleton_self _
    obtain ⟨last, put | noted⟩ := through.refused job' refused
    all_goals rw [last, List.mem_append, List.mem_singleton] at planned
    all_goals obtain accepted | rfl := planned
    · exact .inl ⟨job, rfl, rfl, enqueued accepted⟩
    · exact .inl ⟨job, rfl, rfl, put⟩
    · exact .inl ⟨job, rfl, rfl, enqueued accepted⟩
    · exact .inr noted

/-- What comes after the refused job of a plan is not accounted for. -/
lemma AccountsExactly.comesThrough {r : Except Failure Response} (exactly : AccountsExactly i h)
    (traced : databaseSystem.Traced G c₀ h c) (starts : Starts c₀)
    (at_i : c.threads[i]? = some ⟨.reconciliation options, .ret r⟩) : ComesThrough i h := by
  -- every job of the plan was counted
  have accounted {c₁ : DatabaseConfig} {input : RecoverInput} {env : Environment}
      {job : DatabaseOperationJob}
      (mem : (c₁, .act i (.recoverStaleOperations input) env) ∈ h)
      (planned : job ∈ (planOf (c₁, .act i (.recoverStaleOperations input) env)).dispatches) :
      AccountsFor i h job.databaseInstanceId job.operationVersion := by
    obtain ⟨d, d', row, row', counted, version⟩ :=
      counted_of_planned (keyed_of_mem traced starts mem) planned
    rw [← version]
    exact (exactly c₁ input env mem _ d d' row row').mp counted
  constructor
  · intro c₁ input env mem nonempty
    by_contra lost
    obtain ⟨job, planned⟩ := List.exists_mem_of_ne_nil _ nonempty
    obtain ⟨job', planned', -⟩ :=
      planned_of_accountsFor traced starts at_i (accounted mem planned)
    rw [plannedJobs_of_recovery traced starts at_i mem, if_neg lost] at planned'
    cases planned'
  · intro job refused
    obtain ⟨plan, ledger⟩ | ⟨done, job', rest, ledger⟩ := dispatched_of_ended traced starts at_i
    · rw [ledger.refused] at refused
      cases refused
    rw [ledger.refused, List.mem_singleton] at refused
    subst refused
    have here : job ∈ plannedJobs (System.calls i h) := by
      rw [ledger.planned]
      exact List.mem_append_right _ List.mem_cons_self
    obtain ⟨c₁, input, env, mem, -, jobs⟩ := recovery_of_planned traced starts at_i here
    have distinct := planOf_distinct i input env
      (keyed_of_mem traced starts mem)
    rw [← jobs, ledger.planned, List.map_append, List.map_cons] at distinct
    have ended : rest = [] := by
      rw [List.eq_nil_iff_forall_not_mem]
      intro later there
      have planned : later ∈ plannedJobs (System.calls i h) := by
        rw [ledger.planned]
        exact List.mem_append_right _ (List.mem_cons_of_mem _ there)
      rw [jobs] at planned
      obtain ⟨job', -, about, answered⟩ :=
        planned_of_accountsFor traced starts at_i (accounted mem planned)
      have key := List.mem_map_of_mem (f := DatabaseOperationJob.databaseInstanceId) there
      rw [← about] at key
      rw [ledger.accepted, ledger.refused, List.mem_singleton] at answered
      obtain accepted | rfl := answered
      · exact (List.nodup_append.mp distinct).2.2 _ (List.mem_map_of_mem accepted) _
          (List.mem_cons_of_mem _ key) rfl
      · exact (List.nodup_cons.mp (List.nodup_append.mp distinct).2.1).1 key
    refine ⟨?_, ?_⟩
    · rw [ledger.planned, ledger.accepted, ended]
    · rw [jobs] at here
      obtain ⟨job', about, -, x, taken, enqueues⟩ | noted := accounted mem here
      · have there := (planned_of_enqueues traced starts at_i taken enqueues).1
        rw [jobs] at there
        have same : job' = job := List.inj_on_of_nodup_map
          (planOf_distinct i _ _ (keyed_of_mem traced starts mem)) there here about
        exact .inl ⟨x, taken, same ▸ enqueues⟩
      · exact .inr noted

/-- The attempts counted in a sweep that has ended are those it accounts for exactly if it has come
    through its batch. -/
lemma accountsExactly_iff {r : Except Failure Response}
    (traced : databaseSystem.Traced G c₀ h c) (starts : Starts c₀)
    (at_i : c.threads[i]? = some ⟨.reconciliation options, .ret r⟩) :
    AccountsExactly i h ↔ ComesThrough i h := by
  refine ⟨fun exactly => exactly.comesThrough traced starts at_i, fun through => ?_⟩
  intro c₁ input env mem id d d' row row'
  have keyed := keyed_of_mem traced starts mem
  have jobs := plannedJobs_of_recovery traced starts at_i mem
  constructor
  · intro counted
    obtain ⟨d'', row'', recovered⟩ := recovered_of_row i input env keyed row
    cases row'.symm.trans row''
    obtain ⟨job, own, version⟩ := recovered.exists_of_lt counted
    obtain ⟨planned, about⟩ := List.mem_filter.mp own
    have about : job.databaseInstanceId = id := of_decide_eq_true about
    rw [if_pos (through.planned c₁ input env mem (List.ne_nil_of_mem planned))] at jobs
    rw [← jobs] at planned
    rw [← about, ← version]
    exact through.accountsFor traced starts at_i planned
  · intro accounts
    obtain ⟨job, planned, about, -⟩ := planned_of_accountsFor traced starts at_i accounts
    split at jobs
    · rw [jobs] at planned
      obtain ⟨e, e', own, own', counted, -⟩ := counted_of_planned keyed planned
      rw [about] at own own'
      cases row.symm.trans own
      cases row'.symm.trans own'
      exact counted
    · rw [jobs] at planned
      cases planned

end Sweep

section Count
variable {G : DatabaseConfig → databaseSystem.Label → Prop} {c₀ c : DatabaseConfig}
  {h : DatabaseHistory} {id : Uuid} {jobs : List DatabaseOperationJob} {d d' : DatabaseInstance}
  {input : RecoverInput}

/-- The jobs planned for an instance so far are as many as its attempts. -/
structure Counted (jobs : List DatabaseOperationJob) (d : DatabaseInstance) : Prop where
  length : jobs.length = d.recoveryCount
  distinct : jobs.Nodup
  earlier : ∀ job ∈ jobs, job.operationVersion ≤ d.operationVersion

lemma RowChange.version_mono {o : Operation} (change : RowChange o d d') :
    d.operationVersion ≤ d'.operationVersion := by
  cases change with
  | kept _ version | provisioning _ _ _ _ _ _ version | advanced _ _ _ _ _ version
  | failed _ version => exact version.ge
  | deleting _ _ version =>
    rw [version]
    exact Nat.le_succ _
  | recovered _ _ version => exact version

/-- A recovery counts what it plans. -/
lemma Counted.recovered {jobs' : List DatabaseOperationJob} (counted : Counted jobs d)
    (recovered : Recovered input d d' jobs') : Counted (jobs ++ jobs') d' := by
  cases recovered with
  | kept e | exhausted _ _ e =>
    subst e
    rw [List.append_nil]
    exact ⟨counted.length, counted.distinct, counted.earlier⟩
  | fenced _ _ e =>
    subst e
    -- the version of the new job is new
    have fresh : recoveryJob d ∉ jobs := fun mem =>
      absurd (counted.earlier _ mem) (Nat.not_succ_le_self _)
    refine ⟨?_, List.Nodup.append counted.distinct (List.nodup_singleton _) ?_, ?_⟩
    · rw [List.length_append, counted.length]
      rfl
    · rwa [List.disjoint_singleton]
    · intro job mem
      obtain mem | mem := List.mem_append.mp mem
      · exact (counted.earlier job mem).trans (Nat.le_succ _)
      · rw [List.mem_singleton.mp mem]
        exact Nat.le_refl _

lemma plannedFor_append {x : DatabaseConfig × databaseSystem.Label} :
    plannedFor id (h ++ [x]) = plannedFor id h ++ (planOf x).jobsFor id := by
  rw [plannedFor, List.flatMap_append, List.flatMap_singleton, plannedFor]

/-- In every run, the attempts counted on an instance are the jobs planned for it. -/
lemma plannedFor_counted (traced : databaseSystem.Traced G c₀ h c) (starts : Starts c₀) :
    (∀ d, c.store.store.instance? id = some d → Counted (plannedFor id h) d) ∧
      (c.store.store.instance? id = none → plannedFor id h = []) := by
  induction traced with
  | nil =>
    refine ⟨fun d row => ?_, fun _ => rfl⟩
    rw [DatabaseStore.instance?, starts.1] at row
    cases row
  | @snoc h c l c' traced guard step ih =>
    obtain ⟨counted, none⟩ := ih
    have keyed := instancesKeyed_of_reaches starts traced.reaches
    rw [plannedFor_append]
    cases step with
    | spawn =>
      rw [show (planOf _).jobsFor id = [] from rfl, List.append_nil]
      exact ⟨counted, none⟩
    | @act i tag o k env at_i =>
      by_cases recovery : ∃ input, o = .recoverStaleOperations input
      · obtain ⟨input, rfl⟩ := recovery
        cases row : c.store.store.instance? id with
        | none =>
          obtain ⟨none', unplanned⟩ := unplanned_of_absent i input env keyed row
          refine ⟨fun d' row' => ?_, fun _ => ?_⟩
          · cases none'.symm.trans row'
          · rw [none row, unplanned, List.append_nil]
        | some d =>
          obtain ⟨d₁, row₁, recovered⟩ := recovered_of_row i input env keyed row
          refine ⟨fun d' row' => ?_, fun none' => ?_⟩
          · cases row₁.symm.trans row'
            exact (counted d row).recovered recovered
          · cases row₁.symm.trans none'
      · have silent : planOf (c, .act i o env) = {} := by
          cases o with
          | recoverStaleOperations input => exact absurd ⟨input, rfl⟩ recovery
          | _ => rfl
        have nothing : (planOf (c, .act i o env)).jobsFor id = [] := by
          rw [silent]
          rfl
        rw [nothing, List.append_nil]
        have change := perform_instances keyed o env
        cases row : c.store.store.instance? id with
        | none =>
          rw [none row]
          refine ⟨fun d' row' => ⟨?_, List.nodup_nil, List.forall_mem_nil _⟩, fun _ => rfl⟩
          exact (change.new id d' row row').2.symm
        | some d =>
          obtain ⟨d₁, row₁, fields⟩ := change.change id d row
          obtain ⟨d₂, row₂, version⟩ := perform_rowStep id o env c.store d row
          cases row₁.symm.trans row₂
          refine ⟨fun d' row' => ?_, fun none' => ?_⟩
          · cases row₁.symm.trans row'
            have same := fields.recoveryCount.resolve_right recovery
            refine ⟨(counted d row).length.trans same.symm, (counted d row).distinct, ?_⟩
            exact fun job mem => ((counted d row).earlier job mem).trans version.version_mono
          · cases row₁.symm.trans none'

end Count

/-- What a sweep counts is what it accounts for, exactly if it comes through its batch; and recoveries
    of an instance are exhausted after as many jobs as there are attempts, if all jobs planned for it
    were put on the queue. -/
theorem recovery_accounting {G : DatabaseConfig → databaseSystem.Label → Prop}
    {c₀ c : DatabaseConfig} {h : DatabaseHistory} (starts : Starts c₀)
    (traced : databaseSystem.Traced G c₀ h c) :
    (∀ (i : Nat) (options : ReconcilerOptions) (r : Except Failure Response),
      c.threads[i]? = some ⟨.reconciliation options, .ret r⟩ →
      (AccountsExactly i h ↔ ComesThrough i h)) ∧
    ∀ before after c₁ i input env id d d',
      h = before ++ (c₁, .act i (.recoverStaleOperations input) env) :: after →
      c₁.store.store.instance? id = some d →
      (perform (.recoverStaleOperations input) env c₁.store).2.store.instance? id = some d' →
      ¬ Exhausted d → Exhausted d' → (∀ job ∈ plannedFor id before, PutOnQueue before job) →
      ∃ jobs : List DatabaseOperationJob, jobs.Nodup ∧ input.maxRecoveryAttempts ≤ jobs.length ∧
        ∀ job ∈ jobs, job.databaseInstanceId = id ∧ PutOnQueue before job := by
  refine ⟨fun i options r at_i => accountsExactly_iff traced starts at_i, ?_⟩
  intro before after c₁ i input env id d d' split row row' attempting exhausted put
  obtain ⟨traced₁, -, -⟩ := traced.split split
  have keyed := instancesKeyed_of_reaches starts traced₁.reaches
  have counted := (plannedFor_counted traced₁ starts).1 d row
  obtain ⟨d₁, row₁, recovered⟩ := recovered_of_row i input env keyed row
  cases row'.symm.trans row₁
  have enough : input.maxRecoveryAttempts ≤ d.recoveryCount := by
    generalize (planOf _).jobsFor id = jobs at recovered
    cases recovered with
    | kept e =>
      subst e
      exact absurd exhausted attempting
    | exhausted _ enough _ => exact enough
    | fenced _ _ e =>
      subst e
      exact absurd exhausted attempting
  refine ⟨plannedFor id before, counted.distinct, counted.length ▸ enough, fun job mem => ?_⟩
  obtain ⟨x, -, own⟩ := List.mem_flatMap.mp mem
  exact ⟨of_decide_eq_true (List.mem_filter.mp own).2, put job mem⟩

section Scenario

/-- Two databases are requested and never delivered, and a sweep recovers both. -/
def twoRecoveries : List databaseSystem.Move :=
  [.spawn (.provisionRequest 1 1 "key" ⟨1, "ca-central-1", false⟩)] ++ proceeds 0 4 0 7 ++
    [.spawn (.provisionRequest 1 1 "other" ⟨1, "ca-central-1", false⟩)] ++
    List.replicate 4 (.act 1 { id := 9, operationId := 10 }) ++
    [.spawn (.reconciliation {})] ++ proceeds 2 6 2000000 1

/-- The queue accepts both jobs. -/
def bothDispatched : List databaseSystem.Move :=
  twoRecoveries ++ proceeds 2 6 2000000 1

/-- The queue refuses the first job, and the sweep records it and ends. -/
def firstRefused : List databaseSystem.Move :=
  twoRecoveries ++ [refused 2] ++ proceeds 2 5 2000000 1

/-- A thread is a sweep that has ended. -/
def ended (c : DatabaseConfig) (i : Nat) : Bool :=
  match c.threads[i]? with
  | some ⟨.reconciliation _, .ret _⟩ => true
  | _ => false

lemma ended_at {c : DatabaseConfig} {i : Nat} (done : ended c i = true) :
    ∃ options r, c.threads[i]? = some ⟨.reconciliation options, .ret r⟩ := by
  simp only [ended] at done
  split at done
  · rename_i options r at_i
    exact ⟨options, r, at_i⟩
  · cases done

/-- A step whose caller learns of its effect. -/
def acknowledged : DatabaseConfig × databaseSystem.Label → Bool
  | (_, .act _ _ env) => decide (env.fate = .commits)
  | (_, .spawn _) => true

/-- `recovery_accounting` for a sweep whose two jobs the queue accepts. -/
theorem recovery_accounting_dispatched : ∃ h c,
    databaseSystem.Traced databaseSystem.Unguarded freshPlatform h c ∧
      (acceptedJobs (System.calls 2 h)).length = 2 ∧ AccountsExactly 2 h := by
  have run : ((System.record (S := databaseSystem) freshPlatform bothDispatched).any fun recorded =>
      recorded.1.all acknowledged && ended recorded.2 2 &&
      decide ((acceptedJobs (System.calls 2 recorded.1)).length = 2) &&
      (refusedJobs (System.calls 2 recorded.1)).isEmpty) = true := by
    decide
  obtain ⟨⟨h, c⟩, e, run⟩ := (Option.any_eq_true _ _).mp run
  simp only [Bool.and_eq_true, decide_eq_true_eq, List.isEmpty_iff] at run
  obtain ⟨⟨⟨learned, done⟩, two⟩, none⟩ := run
  obtain ⟨options, r, at_i⟩ := ended_at done
  have traced := System.record_traced (S := databaseSystem) .nil e
  rw [List.nil_append] at traced
  refine ⟨h, c, traced, two,
    ((recovery_accounting freshPlatform_starts traced).1 2 options r at_i).mpr ⟨?_, ?_⟩⟩
  · intro c₁ input env mem _
    exact of_decide_eq_true (List.all_eq_true.mp learned _ mem)
  · intro job refused
    rw [none] at refused
    cases refused

/-- A step of a sweep that counts an attempt on an instance. -/
def countsOn (id : Uuid) : DatabaseConfig × databaseSystem.Label → Bool
  | (c, .act 2 (.recoverStaleOperations input) env) =>
    (c.store.store.instance? id).any fun d =>
      ((perform (.recoverStaleOperations input) env c.store).2.store.instance? id).any fun d' =>
        d.recoveryCount < d'.recoveryCount
  | _ => false

/-- A step that neither puts a job for an instance on the queue nor records that it was refused. -/
def silentAbout (id : Uuid) : DatabaseConfig × databaseSystem.Label → Bool
  | (_, .act 2 (.enqueue job) _) => decide (job.databaseInstanceId ≠ id)
  | (_, .act 2 (.recordRecoveryDispatchFailure current _ _) _) => decide (current.id ≠ id)
  | _ => true

/-- A refusal leaves the instances behind it counted. -/
theorem recovery_miscounts : ¬ ∀ (c₀ c : DatabaseConfig) (h : DatabaseHistory) (i : Nat)
    (options : ReconcilerOptions) (r : Except Failure Response), Starts c₀ →
    databaseSystem.Traced databaseSystem.Unguarded c₀ h c →
    c.threads[i]? = some ⟨.reconciliation options, .ret r⟩ → AccountsExactly i h := by
  intro exactly
  have run : ((System.record (S := databaseSystem) freshPlatform firstRefused).any fun recorded =>
      recorded.1.any (countsOn 9) && recorded.1.all (silentAbout 9) && ended recorded.2 2) =
      true := by
    decide
  obtain ⟨⟨h, c⟩, e, run⟩ := (Option.any_eq_true _ _).mp run
  simp only [Bool.and_eq_true, List.any_eq_true] at run
  obtain ⟨⟨⟨⟨c₁, l⟩, mem, counts⟩, silent⟩, done⟩ := run
  have silent : ∀ x ∈ h, silentAbout 9 x = true := List.all_eq_true.mp silent
  obtain ⟨options, r, at_i⟩ := ended_at done
  have traced := System.record_traced (S := databaseSystem) .nil e
  rw [List.nil_append] at traced
  have account := exactly freshPlatform c h 2 options r freshPlatform_starts traced at_i
  rw [countsOn.eq_def] at counts
  split at counts
  · rename_i c₂ input env same
    cases same
    simp only [Option.any_eq_true, decide_eq_true_eq] at counts
    obtain ⟨d, row, d', row', counted⟩ := counts
    obtain ⟨job, about, -, x, mem, enqueues⟩ | ⟨x, mem, notes⟩ :=
      (account c₁ input env mem 9 d d' row row').mp counted
    · have other := silent x mem
      cases enqueues
      exact of_decide_eq_true other about
    · have other := silent x mem
      cases notes with
      | intro about => exact of_decide_eq_true other about
  · cases counts

end Scenario

end AtomsPlatform.Database
