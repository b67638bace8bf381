import AtomsPlatform.Database.Worker
import AtomsPlatform.Lib.Trace

/-!
# Which calls an activity makes

The calls of each activity, read off its program. That a thread is about to make some call tells what
it was started as.
-/

namespace AtomsPlatform.Database
open Interleaving

/-- What a thread has called, with the answers. -/
abbrev DatabaseCalls : Type :=
  List (Event Operation fun o => Except Failure o.Answer)

/-- A run of the subsystem, step by step. -/
abbrev DatabaseHistory : Type :=
  List (DatabaseConfig × databaseSystem.Label)

/-- The contract of making no other calls than these. -/
def making (calls : Operation → Bool) : Contract Operation fun o => Except Failure o.Answer where
  requires o := calls o = true
  ensures _ _ := True

/-- Calls of a request. -/
def Operation.requests : Operation → Bool
  | .now | .getProjectWorkspaceMembership .. | .createDatabaseOperation ..
  | .findByIdempotencyKey .. | .requestDatabaseAction .. | .enqueue _
  | .markDatabaseOperationFailed .. => true
  | _ => false

/-- Calls of a delivery that has been given its resource, or destroys it. -/
def Operation.finishes : Operation → Bool
  | .now | .recordHealthCheck .. | .startMigration .. | .listProjectFiles .. | .completeMigration ..
  | .completeDestroy .. | .fail .. | .getHealth .. | .getEphemeralConnection .. | .destroy ..
  | .getSecret .. | .revokeSecret .. | .migrate .. => true
  | _ => false

/-- Calls of a delivery. -/
def Operation.delivers : Operation → Bool
  | .claim .. | .provision .. | .countProvisioning .. | .recordProvisioned .. => true
  | o => o.finishes

/-- Calls of an operator's approval. -/
def Operation.approves : Operation → Bool
  | .now | .approveOrphanCleanup .. => true
  | _ => false

/-- Calls of a sweep that dispatches recoveries. -/
def Operation.dispatches : Operation → Bool
  | .now | .enqueue _ | .findRecoveryDispatch .. | .recordRecoveryDispatchFailure .. => true
  | _ => false

/-- Calls of a sweep that checks the tracked resources. -/
def Operation.tracks : Operation → Bool
  | .now | .resolveMissingResource .. | .observeMissingResource .. => true
  | _ => false

/-- Calls of a sweep that checks the provider's resources. -/
def Operation.cleans : Operation → Bool
  | .now | .resolveOrphanResource .. | .observeOrphanResource .. | .claimOrphanCleanup ..
  | .releaseOrphanCleanupClaim .. | .destroy .. => true
  | _ => false

/-- Calls of a sweep at its beginning and its end. -/
def Operation.frames : Operation → Bool
  | .now | .beginSweep _ | .listManagedResources | .listTrackedResources
  | .recoverStaleOperations _ | .resolveUnseenOrphanResources .. | .completeSweep ..
  | .failSweep .. => true
  | _ => false

/-- Calls of a sweep. -/
def Operation.sweeps (o : Operation) : Bool :=
  o.frames || o.dispatches || o.tracks || o.cleans

/-- Calls of an activity. -/
def Activity.makes : Activity → Operation → Bool
  | .delivery .. => Operation.delivers
  | .provisionRequest .. | .deleteRequest .. => Operation.requests
  | .reconciliation _ => Operation.sweeps
  | .cleanupApproval .. => Operation.approves

section Programs

/-- Who makes certain calls only also makes no others than some more. -/
lemma making_mono {calls calls' : Operation → Bool} {α : Type} {p : Program α} {Q : α → Prop}
    (yields : Yields (making calls) p Q) (more : ∀ o, calls o = true → calls' o = true) :
    Yields (making calls') p Q :=
  Prog.Meets.weaken yields more fun _ _ _ _ => trivial

lemma delivers_of_finishes (o : Operation) (finishes : o.finishes = true) : o.delivers = true := by
  cases o <;> first | rfl | exact finishes

lemma authorize_makes {userId projectId : Uuid} :
    Yields (making Operation.requests) (authorize userId projectId) fun _ => True := by
  refine .step rfl fun membership _ => ?_
  cases membership with
  | none => exact .throw
  | some membership =>
    simp only [requireAdministrativeRole]
    split
    · exact .pure trivial
    · exact .pure trivial
    · exact .throw

lemma enqueueOrMarkFailed_makes {record : DatabaseInstanceRecord}
    {command : DatabaseOperationCommand} {unavailable : String} :
    Yields (making Operation.requests) (enqueueOrMarkFailed record command unavailable)
      fun _ => True := by
  refine .tryCatch (.call rfl fun _ _ => trivial) fun error => ?_
  refine .step rfl fun now _ => ?_
  exact .step rfl fun _ _ => .throw

lemma requestDatabase_makes {userId projectId : Uuid} {key : String}
    {input : ProvisionDatabaseInput} {now : Date} :
    Yields (making Operation.requests) (requestDatabase userId projectId key input now)
      fun _ => True := by
  refine .tryCatch (.call rfl fun _ _ => trivial) fun error => ?_
  split
  · refine .step rfl fun existing _ => ?_
    cases existing with
    | none => exact .throw
    | some existing =>
      dsimp only
      split
      · exact .pure trivial
      · exact .throw
  · exact .throw

lemma provisionProjectDatabase_makes {userId projectId : Uuid} {key : String}
    {input : ProvisionDatabaseInput} :
    Yields (making Operation.requests) (provisionProjectDatabase userId projectId key input)
      fun _ => True := by
  refine .bind authorize_makes fun _ _ => ?_
  refine .step rfl fun now _ => ?_
  refine .bind requestDatabase_makes fun r _ => ?_
  cases r with
  | ok record replayed =>
    dsimp only
    split
    · exact .bind enqueueOrMarkFailed_makes fun _ _ => .pure trivial
    · exact .pure trivial
  | projectNotFound | artifactNotFound | destructiveApprovalRequired | idempotencyConflict =>
    exact .throw

lemma controlProjectDatabase_makes {userId projectId databaseInstanceId : Uuid} :
    Yields (making Operation.requests)
      (controlProjectDatabase userId projectId databaseInstanceId) fun _ => True := by
  refine .bind authorize_makes fun _ _ => ?_
  refine .step rfl fun now _ => ?_
  refine .step rfl fun r _ => ?_
  cases r with
  | ok record =>
    dsimp only
    split
    · exact .bind enqueueOrMarkFailed_makes fun _ _ => .pure trivial
    · exact .pure trivial
  | notFound | invalidStatus => exact .throw

lemma pollHealth_makes {database : DatabaseExecutionRecord} {externalId : String}
    {index remaining : Nat} :
    Yields (making Operation.finishes) (pollHealth database externalId index remaining)
      fun _ => True := by
  induction remaining generalizing index with
  | zero => exact .throw
  | succ remaining ih =>
    refine .step rfl fun health _ => ?_
    refine .step rfl fun now _ => ?_
    refine .step rfl fun recorded _ => ?_
    cases recorded with
    | false => exact .pure trivial
    | true =>
      cases health with
      | provisioning => exact ih
      | healthy => exact .pure trivial
      | unhealthy => exact .throw

lemma migrateDatabase_makes {database : DatabaseExecutionRecord}
    {provisioned : DatabaseProvisionResult} :
    Yields (making Operation.finishes) (migrateDatabase database provisioned) fun _ => True := by
  refine .step rfl fun now _ => ?_
  refine .step rfl fun started _ => ?_
  cases started with
  | false => exact .pure trivial
  | true =>
    refine .step rfl fun lease _ => ?_
    refine .finallyIgnoring ?_ (.call rfl fun _ _ => trivial)
    refine .step rfl fun connectionUrl _ => ?_
    refine .step rfl fun files _ => ?_
    refine .step rfl fun steps _ => ?_
    refine .step rfl fun now _ => ?_
    refine .step rfl fun completed _ => ?_
    cases completed <;> exact .pure trivial

lemma provisionDatabase_makes {database : DatabaseExecutionRecord} {healthAttempts : Nat} :
    Yields (making Operation.delivers) (provisionDatabase database healthAttempts)
      fun _ => True := by
  refine .step rfl fun provisioned _ => ?_
  refine .step rfl fun now _ => ?_
  refine .step rfl fun owned _ => ?_
  cases owned with
  | false => exact .pure trivial
  | true =>
    refine .step rfl fun recorded _ => ?_
    cases recorded with
    | false => exact .pure trivial
    | true =>
      refine .bind (making_mono pollHealth_makes delivers_of_finishes) fun healthy _ => ?_
      cases healthy with
      | false => exact .pure trivial
      | true => exact making_mono migrateDatabase_makes delivers_of_finishes

lemma destroyDatabase_makes {database : DatabaseExecutionRecord} :
    Yields (making Operation.finishes) (destroyDatabase database) fun _ => True := by
  refine .bind (P := fun _ => True) ?_ fun _ _ => ?_
  · rw [destroyResource]
    cases database.externalId with
    | none => exact .pure trivial
    | some externalId => exact .call rfl fun _ _ => trivial
  · refine .step rfl fun now _ => ?_
    refine .step rfl fun completed _ => ?_
    cases completed <;> exact .pure trivial

lemma recordFailure_makes {database : DatabaseExecutionRecord} {attempt maxAttempts : Nat}
    {error : Failure} :
    Yields (making Operation.finishes) (recordFailure database attempt maxAttempts error)
      fun _ => True := by
  refine .step rfl fun now _ => ?_
  refine .step rfl fun _ _ => ?_
  split
  · exact .throw
  · exact .pure trivial

lemma process_makes {job : DatabaseOperationJob} {attempt maxAttempts healthAttempts : Nat} :
    Yields (making Operation.delivers) (process job attempt maxAttempts healthAttempts)
      fun _ => True := by
  refine .step rfl fun now _ => ?_
  refine .step rfl fun claimed _ => ?_
  cases claimed with
  | missing => exact .pure trivial
  | stale status => exact .pure trivial
  | ready database =>
    refine .tryCatch ?_ fun error => making_mono recordFailure_makes delivers_of_finishes
    rw [operate]
    cases job.command with
    | destroy => exact making_mono destroyDatabase_makes delivers_of_finishes
    | provision => exact provisionDatabase_makes

lemma dispatchRecovery_makes {jobs : List DatabaseOperationJob} :
    Yields (making Operation.dispatches) (dispatchRecovery jobs) fun _ => True := by
  induction jobs with
  | nil => exact .pure trivial
  | cons job jobs ih =>
    refine .bind (P := fun _ => True) (.tryCatch ?_ fun error => ?_) fun _ _ => ?_
    · exact .call rfl fun _ _ => trivial
    · refine .step rfl fun now _ => ?_
      refine .bind (P := fun _ => True) ?_ fun _ _ => .throw
      refine .step rfl fun current _ => ?_
      cases current with
      | none => exact .pure trivial
      | some current => exact .call rfl fun _ _ => trivial
    · exact .bind ih fun n _ => .pure trivial

lemma checkTracked_makes {sweepId : Uuid} {present : List String}
    {tracked : List TrackedDatabaseResource} :
    Yields (making Operation.tracks) (checkTracked sweepId present tracked) fun _ => True := by
  induction tracked with
  | nil => exact .pure trivial
  | cons resource tracked ih =>
    refine .step rfl fun now _ => ?_
    split
    · exact .step rfl fun _ _ => ih
    · refine .step rfl fun _ _ => ?_
      exact .bind ih fun missing _ => .pure trivial

lemma cleanUpOrphan_makes {options : ReconcilerOptions} {sweepId : Uuid}
    {resource : ManagedDatabaseResource} {observation : OrphanResourceObservation} :
    Yields (making Operation.cleans) (cleanUpOrphan options sweepId resource observation)
      fun _ => True := by
  refine .step rfl fun now _ => ?_
  dsimp only
  split
  · refine .step rfl fun now _ => ?_
    refine .step rfl fun claimed _ => ?_
    cases claimed with
    | false => exact .pure trivial
    | true =>
      refine .bind (P := fun _ => True) (.tryCatch ?_ fun error => ?_) fun _ _ => ?_
      · exact .call rfl fun _ _ => trivial
      · refine .step rfl fun now _ => ?_
        exact .step rfl fun _ _ => .throw
      · refine .step rfl fun now _ => ?_
        exact .step rfl fun _ _ => .pure trivial
  · exact .pure trivial

lemma checkOrphans_makes {options : ReconcilerOptions} {sweepId : Uuid} {tracked : List String}
    {resources : List ManagedDatabaseResource} :
    Yields (making Operation.cleans) (checkOrphans options sweepId tracked resources)
      fun _ => True := by
  induction resources with
  | nil => exact .pure trivial
  | cons resource resources ih =>
    refine .step rfl fun now _ => ?_
    split
    · exact .step rfl fun _ _ => ih
    · refine .step rfl fun observation _ => ?_
      refine .bind cleanUpOrphan_makes fun cleaned _ => ?_
      exact .bind ih fun counts _ => .pure trivial

lemma reconcile_makes {options : ReconcilerOptions} :
    Yields (making Operation.sweeps) (reconcile options) fun _ => True := by
  refine .step rfl fun startedAt _ => ?_
  refine .bind (P := fun _ => True) (.tryCatch ?_ fun error => ?_) fun begun _ => ?_
  · exact .step rfl fun sweepId _ => .pure trivial
  · split
    · exact .pure trivial
    · exact .throw
  cases begun with
  | none => exact .pure trivial
  | some sweepId =>
    refine .bind (P := fun _ => True) (.tryCatch ?_ fun error => ?_) fun _ _ => .pure trivial
    · refine .step rfl fun providerResources _ => ?_
      refine .step rfl fun trackedResources _ => ?_
      refine .step rfl fun now _ => ?_
      refine .step rfl fun recovery _ => ?_
      refine .bind (making_mono dispatchRecovery_makes ?_) fun recovered _ => ?_
      · exact fun o calls => by simp [Operation.sweeps, calls]
      refine .bind (making_mono checkTracked_makes ?_) fun missing _ => ?_
      · exact fun o calls => by simp [Operation.sweeps, calls]
      refine .bind (making_mono checkOrphans_makes ?_) fun counts _ => ?_
      · exact fun o calls => by simp [Operation.sweeps, calls]
      refine .step rfl fun now _ => ?_
      refine .step rfl fun _ _ => ?_
      refine .step rfl fun now _ => ?_
      exact .step rfl fun _ _ => .pure trivial
    · refine .step rfl fun now _ => ?_
      refine .bind (P := fun _ => True) (.tryCatch ?_ fun error => .pure trivial)
        fun _ _ => .throw
      exact .call rfl fun _ _ => trivial

/-- An activity makes no other calls than its own. -/
lemma program_makes (activity : Activity) :
    Yields (making activity.makes) activity.program fun _ => True := by
  cases activity with
  | delivery job attempt maxAttempts healthAttempts =>
    exact .bind process_makes fun _ _ => .pure trivial
  | provisionRequest userId projectId key input =>
    exact .bind provisionProjectDatabase_makes fun _ _ => .pure trivial
  | deleteRequest userId projectId databaseInstanceId =>
    exact .bind controlProjectDatabase_makes fun _ _ => .pure trivial
  | reconciliation options => exact .bind reconcile_makes fun _ _ => .pure trivial
  | cleanupApproval findingId externalId approvedBy =>
    refine .bind (P := fun _ => True) ?_ fun _ _ => .pure trivial
    refine .step rfl fun now _ => ?_
    exact .call rfl fun _ _ => trivial

/-- A program that makes only certain calls keeps what these calls keep. -/
lemma accounts_of_making {Φ : DatabaseCalls → Operation → Prop} {P : DatabaseCalls → Prop}
    {calls : Operation → Bool} {α : Type} {p : Program α}
    (yields : Yields (making calls) p fun _ => True)
    (before : ∀ h o, calls o = true → P h → Φ h o)
    (keeps : ∀ h o r, calls o = true → P h → P (h ++ [⟨o, r⟩])) :
    Accounts Φ P p (fun _ => P) fun _ => P := by
  refine (Triple.of_fulfils yields ?_).mono (fun _ holds => holds) ?_ ?_
  · exact fun made holds next =>
      ⟨before _ _ made holds, fun r => next r _ trivial (keeps _ _ r made holds)⟩
  · exact fun _ _ holds => holds.2
  · exact fun _ _ holds => holds.2

end Programs

section Runs
variable {G : DatabaseConfig → databaseSystem.Label → Prop} {c₀ c : DatabaseConfig}
  {h : DatabaseHistory} {i : Nat} {o : Operation}

/-- In every run, the call a thread is about to make is one of its activity. -/
lemma makes_of_traced (traced : databaseSystem.Traced G c₀ h c) (start : c₀.threads = [])
    {t : Activity} {k} (at_i : c.threads[i]? = some ⟨t, .call o k⟩) : t.makes o = true := by
  have account : Accounts (fun _ o => t.makes o = true) (fun _ => True) t.program
      (fun _ _ => True) fun _ _ => True :=
    accounts_of_making (program_makes t) (fun _ _ made _ => made) fun _ _ _ _ _ => trivial
  exact traced.accounted start at_i (account [] trivial)

end Runs

end AtomsPlatform.Database
