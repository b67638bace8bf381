import AtomsPlatform.Database.Activities
import AtomsPlatform.Database.Findings

/-!
# What a sweep has done

The account of a sweep: what it has called before it observes, claims or destroys a resource. A sweep
observes each resource of its inventory once, and no two sweeps have one identifier.
-/

namespace AtomsPlatform.Database
open Interleaving

section Accounts

/-- A sweep was begun in these calls. -/
def Begun (h : DatabaseCalls) (sweepId : Uuid) : Prop :=
  ∃ input, ⟨.beginSweep input, .ok sweepId⟩ ∈ h

/-- The resource that a call observes. -/
def observedId : Event Operation (fun o => Except Failure o.Answer) → Option String
  | ⟨.observeOrphanResource _ resource _ _, _⟩ => some resource.externalId
  | _ => none

/-- What a sweep has done before it observes, claims or destroys. -/
def cleanupAccount (h : DatabaseCalls) : Operation → Prop
  | .observeOrphanResource sweepId resource _ _ =>
    Begun h sweepId ∧ ∃ resources, ⟨.listManagedResources, .ok resources⟩ ∈ h ∧
      ((resources.map ManagedDatabaseResource.externalId).Nodup →
        resource.externalId ∉ h.filterMap observedId)
  | .claimOrphanCleanup sweepId _ _ _ => Begun h sweepId
  | .destroy externalId _ =>
    ∃ sweepId findingId now h',
      h = h' ++ [⟨.claimOrphanCleanup sweepId findingId externalId now, .ok true⟩]
  | _ => True

/-- Calls that are not accounted for. -/
def Operation.quiet : Operation → Bool
  | .observeOrphanResource .. | .claimOrphanCleanup .. | .destroy .. => false
  | _ => true

/-- A sweep that observes no other resources than some of its inventory. -/
structure Sweeping (sweepId : Uuid) (resources checked : List ManagedDatabaseResource)
    (h : DatabaseCalls) : Prop where
  begun : Begun h sweepId
  listed : ⟨.listManagedResources, .ok resources⟩ ∈ h
  observed : ∀ id ∈ h.filterMap observedId, id ∈ checked.map ManagedDatabaseResource.externalId

variable {sweepId : Uuid} {resources checked : List ManagedDatabaseResource} {h : DatabaseCalls}
  {o : Operation} {r : Except Failure o.Answer}

lemma quiet_account (quiet : o.quiet = true) : cleanupAccount h o := by
  cases o with
  | observeOrphanResource | claimOrphanCleanup | destroy => cases quiet
  | _ => trivial

lemma observedId_quiet (quiet : o.quiet = true) : observedId ⟨o, r⟩ = none := by
  cases o with
  | observeOrphanResource => cases quiet
  | _ => rfl

lemma Begun.append (begun : Begun h sweepId) : Begun (h ++ [⟨o, r⟩]) sweepId :=
  begun.imp fun _ mem => List.mem_append_left _ mem

lemma Sweeping.append (sweeping : Sweeping sweepId resources checked h)
    (silent : observedId ⟨o, r⟩ = none) : Sweeping sweepId resources checked (h ++ [⟨o, r⟩]) := by
  refine ⟨sweeping.begun.append, List.mem_append_left _ sweeping.listed, ?_⟩
  rw [List.filterMap_append, List.filterMap_cons, silent]
  simpa using sweeping.observed

/-- Checking one more resource. -/
lemma Sweeping.snoc (sweeping : Sweeping sweepId resources checked h)
    (resource : ManagedDatabaseResource) :
    Sweeping sweepId resources (checked ++ [resource]) h := by
  refine ⟨sweeping.begun, sweeping.listed, fun id mem => ?_⟩
  rw [List.map_append]
  exact List.mem_append_left _ (sweeping.observed id mem)

/-- Calls that are not accounted for, in a program that makes no others. -/
lemma sweeping_quietly {calls : Operation → Bool} {α : Type} {p : Program α}
    (yields : Yields (making calls) p fun _ => True)
    (quiet : ∀ o, calls o = true → o.quiet = true) :
    Accounts cleanupAccount (Sweeping sweepId resources checked) p
      (fun _ => Sweeping sweepId resources checked)
      fun _ => Sweeping sweepId resources checked :=
  accounts_of_making yields (fun _ o made _ => quiet_account (quiet o made))
    fun _ o _ made sweeping => sweeping.append (observedId_quiet (quiet o made))

/-- Stepping over a call that is not accounted for. -/
lemma sweeping_step {α : Type} {f : o.Answer → Program α} {Q : α → DatabaseCalls → Prop}
    (quiet : o.quiet = true)
    (next : ∀ a, Accounts cleanupAccount (Sweeping sweepId resources checked) (f a) Q
      fun _ _ => True) :
    Accounts cleanupAccount (Sweeping sweepId resources checked) (call o >>= f) Q
      fun _ _ => True := by
  refine .bind (R := fun _ => Sweeping sweepId resources checked) ?_ next
  exact Accounts.call (fun _ _ => quiet_account quiet)
    (fun _ _ sweeping => sweeping.append (observedId_quiet quiet)) fun _ _ _ => trivial

lemma quiet_call {P : DatabaseCalls → Prop} (quiet : o.quiet = true) :
    Accounts cleanupAccount P (call o) (fun _ _ => True) fun _ _ => True :=
  Accounts.call (fun _ _ => quiet_account quiet) (fun _ _ _ => trivial) fun _ _ _ => trivial

/-- Nothing is destroyed before it is claimed. -/
lemma cleanUpOrphan_account {options : ReconcilerOptions} {resource : ManagedDatabaseResource}
    {observation : OrphanResourceObservation} :
    Accounts cleanupAccount (Sweeping sweepId resources checked)
      (cleanUpOrphan options sweepId resource observation)
      (fun _ => Sweeping sweepId resources checked) fun _ _ => True := by
  refine sweeping_step rfl fun now => ?_
  dsimp only
  split
  · refine sweeping_step rfl fun now => ?_
    refine .bind (R := fun claimed h => Sweeping sweepId resources checked h ∧
      (claimed = true → ∃ h', h = h' ++
        [⟨.claimOrphanCleanup sweepId observation.findingId resource.externalId now, .ok true⟩]))
      ?_ fun claimed => ?_
    · refine Accounts.call (fun _ sweeping => sweeping.begun) ?_ fun _ _ _ => trivial
      rintro h a sweeping
      refine ⟨sweeping.append rfl, ?_⟩
      rintro rfl
      exact ⟨h, rfl⟩
    cases claimed with
    | false => exact .pure fun _ sweeping => sweeping.1
    | true =>
      refine .bind (R := fun _ => Sweeping sweepId resources checked) ?_ fun _ => ?_
      · refine .tryCatch (R := fun _ _ => True) ?_ fun error => ?_
        · refine Accounts.call ?_ (fun _ _ sweeping => sweeping.1.append rfl) fun _ _ _ => trivial
          exact fun h sweeping => ⟨sweepId, _, now, sweeping.2 rfl⟩
        · refine .bind (quiet_call rfl) fun now => ?_
          exact .bind (quiet_call rfl) fun _ => .throw fun _ _ => trivial
      · refine sweeping_step rfl fun now => ?_
        exact sweeping_step rfl fun _ => .pure fun _ sweeping => sweeping
  · exact .pure fun _ sweeping => sweeping

/-- Every resource of an inventory is observed at most once. -/
lemma checkOrphans_account {options : ReconcilerOptions} {tracked : List String}
    {rest : List ManagedDatabaseResource} (split : resources = checked ++ rest) :
    Accounts cleanupAccount (Sweeping sweepId resources checked)
      (checkOrphans options sweepId tracked rest) (fun _ _ => True) fun _ _ => True := by
  induction rest generalizing checked with
  | nil => exact .pure fun _ _ => trivial
  | cons resource rest ih =>
    have split' : resources = (checked ++ [resource]) ++ rest := by
      rw [split, List.append_assoc]
      rfl
    refine sweeping_step rfl fun now => ?_
    split_ifs
    · refine sweeping_step rfl fun _ => ?_
      exact (ih split').mono (fun _ sweeping => sweeping.snoc resource) (fun _ _ _ => trivial)
        fun _ _ _ => trivial
    · refine .bind (R := fun _ => Sweeping sweepId resources (checked ++ [resource])) ?_
        fun observation => ?_
      · refine Accounts.call ?_ ?_ fun _ _ _ => trivial
        · intro h sweeping
          refine ⟨sweeping.begun, resources, sweeping.listed, fun distinct mem => ?_⟩
          -- what was observed before is in the part of the inventory that is already checked
          rw [split, List.map_append, List.map_cons, List.nodup_append] at distinct
          exact distinct.2.2 _ (sweeping.observed _ mem) _ List.mem_cons_self rfl
        · intro h a sweeping
          refine ⟨sweeping.begun.append, List.mem_append_left _ sweeping.listed, fun id mem => ?_⟩
          rw [List.filterMap_append] at mem
          rw [List.map_append]
          obtain before | new := List.mem_append.mp mem
          · exact List.mem_append_left _ (sweeping.observed id before)
          · exact List.mem_append_right _ new
      refine .bind cleanUpOrphan_account fun cleaned => ?_
      exact .bind (ih split') fun counts => .pure fun _ _ => trivial

/-- The account of a sweep. -/
lemma reconcile_account {options : ReconcilerOptions} :
    Accounts cleanupAccount (· = []) (reconcile options) (fun _ _ => True) fun _ _ => True := by
  have fresh {o : Operation} {r : Except Failure o.Answer} {h : DatabaseCalls}
      (quiet : o.quiet = true) (none : h.filterMap observedId = []) :
      List.filterMap observedId (h ++ [⟨o, r⟩]) = [] := by
    rw [List.filterMap_append, none, List.filterMap_cons, observedId_quiet quiet]
    rfl
  refine .bind (R := fun _ h => h.filterMap observedId = []) ?_ fun startedAt => ?_
  · refine Accounts.call (fun _ _ => trivial) ?_ fun _ _ _ => trivial
    rintro h a rfl
    rfl
  refine .bind (R := fun begun h => h.filterMap observedId = [] ∧
    ∀ sweepId, begun = some sweepId → Begun h sweepId) ?_ fun begun => ?_
  · refine .tryCatch (R := fun _ h => h.filterMap observedId = []) ?_ fun error => ?_
    · refine .bind (R := fun sweepId h => h.filterMap observedId = [] ∧ Begun h sweepId) ?_
        fun sweepId => .pure ?_
      · refine Accounts.call (fun _ _ => trivial) ?_ fun h e none =>
          fresh (o := .beginSweep _) rfl none
        intro h a none
        exact ⟨fresh (o := .beginSweep _) rfl none, _,
          List.mem_append_right _ (List.mem_singleton_self _)⟩
      · rintro h ⟨none, begun⟩
        refine ⟨none, ?_⟩
        rintro _ ⟨⟩
        exact begun
    · split
      · exact .pure fun h none => ⟨none, fun _ e => nomatch e⟩
      · exact .throw fun _ _ => trivial
  cases begun with
  | none => exact .pure fun _ _ => trivial
  | some sweepId =>
    refine .bind (R := fun _ _ => True) ?_ fun summary => .pure fun _ _ => trivial
    refine .tryCatch (R := fun _ _ => True) ?_ fun error => ?_
    · refine .bind (R := fun resources => Sweeping sweepId resources []) ?_ fun resources => ?_
      · refine Accounts.call (fun _ _ => trivial) ?_ fun _ _ _ => trivial
        intro h a begun
        refine ⟨(begun.2 sweepId rfl).append, ?_, fun id mem => ?_⟩
        · exact List.mem_append_right _ (List.mem_singleton_self _)
        · rw [fresh (o := .listManagedResources) rfl begun.1] at mem
          exact mem
      refine sweeping_step rfl fun trackedResources => ?_
      refine sweeping_step rfl fun now => ?_
      refine sweeping_step rfl fun recovery => ?_
      refine .bind ((sweeping_quietly dispatchRecovery_makes ?_).mono (fun _ s => s)
        (fun _ _ s => s) fun _ _ _ => trivial) fun recovered => ?_
      · exact fun o made => by cases o <;> first | rfl | cases made
      refine .bind ((sweeping_quietly checkTracked_makes ?_).mono (fun _ s => s)
        (fun _ _ s => s) fun _ _ _ => trivial) fun missing => ?_
      · exact fun o made => by cases o <;> first | rfl | cases made
      refine .bind (checkOrphans_account rfl) fun counts => ?_
      refine .bind (quiet_call rfl) fun now => ?_
      refine .bind (quiet_call rfl) fun _ => ?_
      refine .bind (quiet_call rfl) fun now => ?_
      exact .bind (quiet_call rfl) fun _ => .pure fun _ _ => trivial
    · refine .bind (quiet_call rfl) fun now => ?_
      refine .bind (R := fun _ _ => True) ?_ fun _ => .throw fun _ _ => trivial
      exact .tryCatch (quiet_call rfl) fun _ => .pure fun _ _ => trivial

end Accounts

section Sweeps
variable {s s' : DatabaseStore} {o : Operation}

/-- The identifiers of the sweeps. -/
def DatabaseStore.sweepIds (s : DatabaseStore) : List Uuid :=
  s.sweeps.map Sweep.id

lemma sweeps_observeFinding {id : Uuid} {input : FindingInput} :
    (observeFinding id input s).2.sweeps = s.sweeps := by
  unfold observeFinding
  dsimp only
  split <;> rfl

lemma recoverCandidate_sweeps {input : RecoverInput} {findingIds : Uuid → Uuid}
    {candidate : DatabaseInstance} {acc : DatabaseRecoveryPlan × DatabaseStore} :
    (recoverCandidate input findingIds acc candidate).2.sweeps = acc.2.sweeps := by
  simp only [recoverCandidate, exhaustCandidate, dispatchCandidate]
  repeat' split
  · rfl
  · exact unswept_appendEventFor.sweeps.trans sweeps_observeFinding
  · rfl
  · exact unswept_appendEventFor.sweeps
  · rfl

lemma recoverStaleOperations_sweeps {input : RecoverInput} {findingIds : Uuid → Uuid}
    {r : DatabaseRecoveryPlan} (e : recoverStaleOperations input findingIds s = .ok (r, s')) :
    s'.sweeps = s.sweeps := by
  have fold : ∀ (candidates : List DatabaseInstance) (acc : DatabaseRecoveryPlan × DatabaseStore),
      (candidates.foldl (recoverCandidate input findingIds) acc).2.sweeps = acc.2.sweeps := by
    intro candidates
    induction candidates with
    | nil => exact fun acc => rfl
    | cons candidate candidates ih => exact fun acc => (ih _).trans recoverCandidate_sweeps
  have same := fold (recoveryCandidates input s) ({}, s)
  rwa [Except.ok.inj e] at same

/-- The lease that an abandoned sweep still has is taken away. -/
def expireSweep (input : BeginSweepInput) (w : Sweep) : Sweep :=
  if w.status = .running ∧ w.startedAt ≤ input.abandonedSweepBefore then
    { w with
      status := .failed
      completedAt := some input.now
      error := some
        { code := "ABANDONED_RECONCILIATION_SWEEP"
          message := "The previous sweep exceeded its execution lease"
          retryable := some true } }
  else w

lemma expireSweep_id {input : BeginSweepInput} {w : Sweep} : (expireSweep input w).id = w.id := by
  unfold expireSweep
  split <;> rfl

/-- A sweep is begun under a new identifier. -/
lemma beginSweep_sweepIds {input : BeginSweepInput} {id r : Uuid}
    (e : beginSweep input id s = .ok (r, s')) :
    r ∉ s.sweepIds ∧ s'.sweepIds = s.sweepIds ++ [r] := by
  have kept : (s.sweeps.map (expireSweep input)).map Sweep.id = s.sweepIds := by
    rw [List.map_map]
    exact List.map_congr_left fun w _ => expireSweep_id
  simp only [beginSweep] at e
  split at e
  · cases e
  · rename_i fresh
    cases e
    constructor
    · intro mem
      rw [← kept] at mem
      obtain ⟨w, there, same⟩ := List.mem_map.mp mem
      exact fresh (List.any_eq_true.mpr ⟨w, there, decide_eq_true (.inr same)⟩)
    · show (List.map (expireSweep input) s.sweeps ++ [_]).map Sweep.id = _
      rw [List.map_append, kept]
      rfl

lemma updated_sweepIds {k : Uuid} {p : Sweep → Bool} {data : Sweep → Sweep}
    (keeps : ∀ w, (data w).id = w.id) :
    (Table.update Sweep.id k p data s.sweeps).map Sweep.id = s.sweepIds := by
  rw [Table.update, List.map_map]
  refine List.map_congr_left fun w _ => ?_
  show (if _ then data w else w).id = w.id
  split
  · exact keeps w
  · rfl

/-- No sweep is forgotten. -/
lemma transact_sweepIds {env : Environment} {r : o.Answer} (e : transact env o s = .ok (r, s')) :
    s.sweepIds ⊆ s'.sweepIds := by
  have same (sweeps : s'.sweeps = s.sweeps) : s.sweepIds ⊆ s'.sweepIds := by
    rw [DatabaseStore.sweepIds, DatabaseStore.sweepIds, sweeps]
    exact fun _ mem => mem
  cases o with
  | beginSweep input =>
    rw [(beginSweep_sweepIds e).2]
    exact List.subset_append_left _ _
  | completeSweep | failSweep =>
    cases e
    intro w mem
    refine Eq.subst (motive := (w ∈ ·)) (Eq.symm ?_) mem
    exact updated_sweepIds fun _ => rfl
  | recoverStaleOperations input => exact same (recoverStaleOperations_sweeps e)
  | observeMissingResource sweepId database now =>
    simp only [transact, observeMissingResource] at e
    repeat' split at e
    all_goals
      cases e
      exact same sweeps_observeFinding
  | observeOrphanResource sweepId resource now graceMs =>
    simp only [transact, observeOrphanResource] at e
    split at e
    · cases e
    · cases e
      exact same sweeps_observeFinding
  | claimOrphanCleanup sweepId findingId externalId now =>
    simp only [transact, claimOrphanCleanup] at e
    repeat' split at e
    all_goals
      cases e
      exact same rfl
  | approveOrphanCleanup findingId externalId approvedBy now =>
    simp only [transact, approveOrphanCleanup] at e
    repeat' split at e
    all_goals
      cases e
      exact same rfl
  | claim job now => exact same (claim_unswept e).sweeps
  | recordProvisioned database result now => exact same (recordProvisioned_unswept e).sweeps
  | recordHealthCheck database message now =>
    simp only [transact, recordHealthCheck] at e
    split at e <;> cases e <;> exact same rfl
  | startMigration database now => exact same (startMigration_unswept e).sweeps
  | completeMigration database reports now =>
    simp only [transact, completeMigration] at e
    repeat' split at e
    all_goals
      cases e
      try exact same rfl
  | completeDestroy database now => exact same (completeDestroy_unswept e).sweeps
  | createDatabaseOperation userId projectId key input now =>
    exact same (createDatabaseOperation_unswept e).sweeps
  | requestDatabaseAction userId projectId databaseInstanceId now =>
    exact same (requestDatabaseAction_unswept e).sweeps
  | recordRecoveryDispatchFailure current error now =>
    exact same (recordRecoveryDispatchFailure_unswept e).sweeps
  -- the other operations write no sweeps
  | _ =>
    cases e
    exact same rfl

lemma perform_sweepIds (o : Operation) (env : Environment) (s : DatabaseState) :
    s.store.sweepIds ⊆ (perform o env s).2.store.sweepIds := by
  obtain ⟨error, e⟩ | ⟨r, store, e, -, after, -⟩ := perform_cases o env s
  · rw [e]
    exact fun _ mem => mem
  · rw [after]
    exact transact_sweepIds e

end Sweeps

section Runs
variable {G : DatabaseConfig → databaseSystem.Label → Prop} {c₀ c : DatabaseConfig}
  {h : DatabaseHistory}

/-- Sweeps are there since they were begun, and no two threads have begun the same. -/
structure SweepsOwned (h : DatabaseHistory) (c : DatabaseConfig) : Prop where
  known : ∀ (i : Nat) sweepId, Begun (System.calls i h) sweepId → sweepId ∈ c.store.store.sweepIds
  unique : ∀ (i j : Nat) sweepId, Begun (System.calls i h) sweepId →
    Begun (System.calls j h) sweepId → i = j

/-- What a thread has begun after a call. -/
lemma begun_append {h : DatabaseCalls} {o : Operation} {r : Except Failure o.Answer} {sweepId : Uuid}
    (begun : Begun (h ++ [⟨o, r⟩]) sweepId) :
    Begun h sweepId ∨
      ∃ input, (⟨o, r⟩ : Event Operation fun o => Except Failure o.Answer) =
        ⟨.beginSweep input, .ok sweepId⟩ := by
  obtain ⟨input, mem⟩ := begun
  obtain before | new := List.mem_append.mp mem
  · exact .inl ⟨input, before⟩
  · exact .inr ⟨input, (List.mem_singleton.mp new).symm⟩

/-- An answered begin of a sweep puts a new sweep in the table. -/
lemma perform_beginSweep {input : BeginSweepInput} {env : Environment} {s : DatabaseState}
    {sweepId : Uuid} (answer : (perform (.beginSweep input) env s).1 = .ok sweepId) :
    sweepId ∉ s.store.sweepIds ∧ sweepId ∈ (perform (.beginSweep input) env s).2.store.sweepIds := by
  obtain ⟨error, e⟩ | ⟨r, store, e, -, after, answered | ⟨error, answered⟩⟩ :=
    perform_cases (.beginSweep input) env s
  · rw [e] at answer
    cases answer
  · cases answered.symm.trans answer
    obtain ⟨fresh, new⟩ := beginSweep_sweepIds e
    rw [after, new]
    exact ⟨fresh, List.mem_append_right _ (List.mem_singleton_self _)⟩
  · cases answered.symm.trans answer

lemma sweepsOwned_of_traced (traced : databaseSystem.Traced G c₀ h c) : SweepsOwned h c := by
  induction traced with
  | nil =>
    have nothing (i : Nat) (w : Uuid) : ¬ Begun (System.calls i ([] : DatabaseHistory)) w :=
      fun ⟨_, mem⟩ => absurd mem List.not_mem_nil
    exact ⟨fun i w begun => (nothing i w begun).elim, fun i j w begun => (nothing i w begun).elim⟩
  | @snoc h c l c' traced guard step ih =>
    cases step with
    | spawn adm =>
      refine ⟨fun i w begun => ?_, fun i j w begun begun' => ?_⟩
      · rw [System.calls_spawn] at begun
        exact ih.known i w begun
      · rw [System.calls_spawn] at begun begun'
        exact ih.unique i j w begun begun'
    | @act k tag o next env at_k =>
      -- a call begins a sweep that was begun before, or the thread begins a new one
      have cases_of (i : Nat) (w : Uuid)
          (begun : Begun (System.calls i (h ++ [(c, .act k o env)])) w) :
          Begun (System.calls i h) w ∨ i = k ∧ w ∉ c.store.store.sweepIds ∧
            w ∈ (perform o env c.store).2.store.sweepIds := by
        by_cases same : k = i
        · subst same
          rw [System.calls_act] at begun
          obtain before | ⟨input, new⟩ := begun_append begun
          · exact .inl before
          · injection new with call answer
            subst call
            exact .inr ⟨rfl, perform_beginSweep (eq_of_heq answer)⟩
        · rw [System.calls_act_ne same] at begun
          exact .inl begun
      refine ⟨fun i w begun => ?_, fun i j w begun begun' => ?_⟩
      · obtain before | ⟨-, -, new⟩ := cases_of i w begun
        · exact perform_sweepIds _ _ _ (ih.known i w before)
        · exact new
      · obtain before | ⟨rfl, fresh, -⟩ := cases_of i w begun
        · obtain before' | ⟨rfl, fresh, -⟩ := cases_of j w begun'
          · exact ih.unique i j w before before'
          · exact absurd (ih.known i w before) fresh
        · obtain before' | ⟨rfl, -, -⟩ := cases_of j w begun'
          · exact absurd (ih.known j w before') fresh
          · rfl

end Runs

end AtomsPlatform.Database
