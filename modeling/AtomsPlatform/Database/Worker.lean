import AtomsPlatform.Database.Rows

/-!
# What a delivery promises

The contract of one delivery of a job: it touches the tables through the operations of its command
only, and always with the record that its own claim returned, that is, under the operation and the
version of its job. The lemmas follow the parts of `process`.
-/

namespace AtomsPlatform.Database
open Interleaving

/-- A record is the one of a job: same instance, operation and version. -/
structure Carries (job : DatabaseOperationJob) (database : DatabaseExecutionRecord) : Prop where
  id : database.id = job.databaseInstanceId
  operationId : database.operationId = job.operationId
  operationVersion : database.operationVersion = job.operationVersion

/-- The contract of a delivery of a job. -/
def workerContract (job : DatabaseOperationJob) :
    Contract Operation fun o => Except Failure o.Answer where
  requires
    | .claim job' _ => job' = job
    | .countProvisioning database | .recordProvisioned database _ _
    | .recordHealthCheck database _ _ | .startMigration database _
    | .completeMigration database _ _ =>
      Carries job database ∧ job.command = .provision
    | .completeDestroy database _ => Carries job database ∧ job.command = .destroy
    | .fail database _ _ => Carries job database
    | .now | .listProjectFiles _ | .provision .. | .getHealth _ | .getEphemeralConnection ..
    | .destroy .. | .getSecret _ | .revokeSecret _ | .migrate .. => True
    | _ => False
  ensures
    | .claim job' _, .ok (.ready database) => Carries job' database
    | _, _ => True

variable {job : DatabaseOperationJob} {database : DatabaseExecutionRecord}

lemma pollHealth_worker {externalId : String} {index remaining : Nat}
    (carries : Carries job database ∧ job.command = .provision) :
    Yields (workerContract job) (pollHealth database externalId index remaining)
      fun _ => True := by
  induction remaining generalizing index with
  | zero => exact .throw
  | succ remaining ih =>
    refine .step trivial fun health _ => ?_
    refine .step trivial fun now _ => ?_
    refine .step carries fun recorded _ => ?_
    cases recorded with
    | false => exact .pure trivial
    | true =>
      cases health with
      | provisioning => exact ih
      | healthy => exact .pure trivial
      | unhealthy => exact .throw

lemma migrateDatabase_worker {provisioned : DatabaseProvisionResult}
    (carries : Carries job database ∧ job.command = .provision) :
    Yields (workerContract job) (migrateDatabase database provisioned) fun _ => True := by
  refine .step trivial fun now _ => ?_
  refine .step carries fun started _ => ?_
  cases started with
  | false => exact .pure trivial
  | true =>
    refine .step trivial fun lease _ => ?_
    refine .finallyIgnoring ?_ (.call trivial fun _ _ => trivial)
    refine .step trivial fun connectionUrl _ => ?_
    refine .step trivial fun files _ => ?_
    refine .step trivial fun steps _ => ?_
    refine .step trivial fun now _ => ?_
    refine .step carries fun completed _ => ?_
    cases completed <;> exact .pure trivial

lemma provisionDatabase_worker {healthAttempts : Nat}
    (carries : Carries job database ∧ job.command = .provision) :
    Yields (workerContract job) (provisionDatabase database healthAttempts) fun _ => True := by
  refine .step trivial fun provisioned _ => ?_
  refine .step trivial fun now _ => ?_
  refine .step carries fun owned _ => ?_
  cases owned with
  | false => exact .pure trivial
  | true =>
    refine .step carries fun recorded _ => ?_
    cases recorded with
    | false => exact .pure trivial
    | true =>
      -- the active record differs from the claimed one in fields the contract does not mention
      obtain ⟨same, command⟩ := carries
      have active {e c s} : Carries job { database with
          externalId := e, connectionSecretRef := c, status := s } ∧ job.command = .provision :=
        ⟨⟨same.id, same.operationId, same.operationVersion⟩, command⟩
      refine .bind (pollHealth_worker active) fun healthy _ => ?_
      cases healthy with
      | false => exact .pure trivial
      | true => exact migrateDatabase_worker active

lemma destroyDatabase_worker (carries : Carries job database ∧ job.command = .destroy) :
    Yields (workerContract job) (destroyDatabase database) fun _ => True := by
  refine .bind (P := fun _ => True) ?_ fun _ _ => ?_
  · rw [destroyResource]
    cases database.externalId with
    | none => exact .pure trivial
    | some externalId => exact .call trivial fun _ _ => trivial
  · refine .step trivial fun now _ => ?_
    refine .step carries fun completed _ => ?_
    cases completed <;> exact .pure trivial

/-- A delivery keeps the contract of its job. -/
lemma process_worker {attempt maxAttempts healthAttempts : Nat} :
    Yields (workerContract job) (process job attempt maxAttempts healthAttempts) fun _ => True := by
  refine .step trivial fun now _ => ?_
  refine .step rfl fun claimed ens => ?_
  cases claimed with
  | missing => exact .pure trivial
  | stale status => exact .pure trivial
  | ready database =>
    have carries : Carries job database := ens
    refine .tryCatch ?_ fun error => ?_
    · rw [operate]
      cases command : job.command with
      | destroy => exact destroyDatabase_worker ⟨carries, command⟩
      | provision => exact provisionDatabase_worker ⟨carries, command⟩
    · refine .step trivial fun now _ => ?_
      refine .step carries fun _ _ => ?_
      split
      · exact .throw
      · exact .pure trivial

end AtomsPlatform.Database
