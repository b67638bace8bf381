import AtomsPlatform.Database.Instances
import AtomsPlatform.Database.OrphanCleanup

/-!
# Cleanups and live databases

The claim of a cleanup checks that no live instance is about the resource, but the resource is
destroyed later. In between, a delivery that the provider has given the resource can record it. The
history tells who holds a resource: a delivery records only what it was given, and only once.
-/

namespace AtomsPlatform.Database
open Interleaving

/-- No instance but deleted ones is about a resource. -/
def Untracked (externalId : String) (s : DatabaseStore) : Prop :=
  ∀ id d, s.instance? id = some d → d.externalId = some externalId → d.status = .deleted

/-- A delivery was given a resource in these calls. -/
def Given (h : DatabaseCalls) (externalId : String) : Prop :=
  ∃ operationId projectId displayName region result,
    ⟨.provision operationId projectId displayName region, .ok result⟩ ∈ h ∧
      result.externalId = externalId

/-- A delivery has come to record what it was given. -/
def CameToRecord (h : DatabaseCalls) : Prop :=
  ∃ database result now r, ⟨.recordProvisioned database result now, r⟩ ∈ h

/-- A delivery was given a resource and has not come to record it. -/
def Holds (h : DatabaseCalls) (externalId : String) : Prop :=
  Given h externalId ∧ ¬ CameToRecord h

/-- A step in which the provider gives a resource to a delivery. -/
inductive Gives (externalId : String) : DatabaseConfig × databaseSystem.Label → Prop where
  | intro {c i operationId projectId displayName region env result} :
    (perform (.provision operationId projectId displayName region) env c.store).1 = .ok result →
    result.externalId = externalId →
    Gives externalId (c, .act i (.provision operationId projectId displayName region) env)

/-- A step in which a delivery comes to record a resource. -/
inductive Records (externalId : String) : DatabaseConfig × databaseSystem.Label → Prop where
  | intro {c i database result now env} :
    result.externalId = externalId →
    Records externalId (c, .act i (.recordProvisioned database result now) env)

/-- A step that records a failure on a deleted instance of a resource. -/
inductive FailsDeleted (externalId : String) : DatabaseConfig × databaseSystem.Label → Prop where
  | intro {c i o env d} :
    o.failing? = some d.id →
    c.store.store.instance? d.id = some d →
    d.externalId = some externalId →
    d.status = .deleted →
    FailsDeleted externalId (c, .act i o env)

/-- From the claim of a cleanup until the resource is destroyed, nobody holds the resource or is given
    it, and no failure is recorded on a deleted instance of it. -/
structure Undisturbed (externalId : String) (before between : DatabaseHistory) : Prop where
  unheld : ∀ i, ¬ Holds (System.calls i before) externalId
  ungiven : ∀ x ∈ between, ¬ Gives externalId x
  unfailed : ∀ x ∈ between, ¬ FailsDeleted externalId x

/-- All cleanups of a history are undisturbed. -/
def CleanupsUndisturbed (h : DatabaseHistory) : Prop :=
  ∀ before c i sweepId findingId externalId now env between c' reference env' after,
    h = (before ++ (c, .act i (.claimOrphanCleanup sweepId findingId externalId now) env) :: between)
      ++ (c', .act i (.destroy externalId reference) env') :: after →
    System.calls i between = [] → Undisturbed externalId before between

/-- The provider gives no resource that was destroyed. -/
def GivesNoDestroyed (h : DatabaseHistory) : Prop :=
  ∀ before c i externalId reference env after,
    h = before ++ (c, .act i (.destroy externalId reference) env) :: after → env.TakesEffect →
    ∀ x ∈ after, ¬ Gives externalId x

section Account

/-- What a delivery has done before it records a resource. -/
def provisioningAccount (h : DatabaseCalls) : Operation → Prop
  | .recordProvisioned _ result _ => Given h result.externalId ∧ ¬ CameToRecord h
  | _ => True

variable {h : DatabaseCalls} {externalId : String} {o : Operation}
  {r : Except Failure o.Answer}

lemma finishes_account (finishes : o.finishes = true) : provisioningAccount h o := by
  cases o with
  | recordProvisioned => cases finishes
  | _ => trivial

lemma Given.append (given : Given h externalId) : Given (h ++ [⟨o, r⟩]) externalId := by
  obtain ⟨operationId, projectId, displayName, region, result, mem, here⟩ := given
  exact ⟨operationId, projectId, displayName, region, result, List.mem_append_left _ mem, here⟩

/-- Other calls do not come to record. -/
lemma not_cameToRecord_append (not : ¬ CameToRecord h)
    (other : ∀ database result now, o ≠ .recordProvisioned database result now) :
    ¬ CameToRecord (h ++ [⟨o, r⟩]) := by
  rintro ⟨database, result, now, r', mem⟩
  obtain before | new := List.mem_append.mp mem
  · exact not ⟨database, result, now, r', before⟩
  · exact other database result now (congrArg Sigma.fst (List.mem_singleton.mp new)).symm

lemma finishing_account {α : Type} {p : Program α} {P : DatabaseCalls → Prop}
    (yields : Yields (making Operation.finishes) p fun _ => True) :
    Accounts provisioningAccount P p (fun _ _ => True) fun _ _ => True :=
  (accounts_of_making yields (fun _ _ made _ => finishes_account made) fun _ _ _ _ _ => trivial).mono
    (fun _ _ => trivial) (fun _ _ _ => trivial) fun _ _ _ => trivial

lemma provisionDatabase_account {database : DatabaseExecutionRecord} {healthAttempts : Nat} :
    Accounts provisioningAccount (fun h => ¬ CameToRecord h)
      (provisionDatabase database healthAttempts) (fun _ _ => True) fun _ _ => True := by
  refine .bind (R := fun provisioned h => Given h provisioned.externalId ∧ ¬ CameToRecord h) ?_
    fun provisioned => ?_
  · refine Accounts.call (fun _ _ => trivial) ?_ fun _ _ _ => trivial
    intro h a not
    refine ⟨⟨_, _, _, _, a, List.mem_append_right _ (List.mem_singleton_self _), rfl⟩, ?_⟩
    exact not_cameToRecord_append not fun _ _ _ e => nomatch e
  refine .bind (R := fun _ h => Given h provisioned.externalId ∧ ¬ CameToRecord h) ?_ fun now => ?_
  · refine Accounts.call (fun _ _ => trivial) ?_ fun _ _ _ => trivial
    exact fun h a holds =>
      ⟨holds.1.append, not_cameToRecord_append holds.2 fun _ _ _ e => nomatch e⟩
  refine .bind (R := fun _ h => Given h provisioned.externalId ∧ ¬ CameToRecord h) ?_ fun owned => ?_
  · refine Accounts.call (fun _ _ => trivial) ?_ fun _ _ _ => trivial
    exact fun h a holds =>
      ⟨holds.1.append, not_cameToRecord_append holds.2 fun _ _ _ e => nomatch e⟩
  cases owned with
  | false => exact .pure fun _ _ => trivial
  | true =>
    refine .bind (R := fun _ _ => True) ?_ fun recorded => ?_
    · exact Accounts.call (fun _ holds => holds) (fun _ _ _ => trivial) fun _ _ _ => trivial
    cases recorded with
    | false => exact .pure fun _ _ => trivial
    | true =>
      refine .bind (finishing_account pollHealth_makes) fun healthy => ?_
      cases healthy with
      | false => exact .pure fun _ _ => trivial
      | true => exact finishing_account migrateDatabase_makes

/-- A delivery records what it was given, and once. -/
lemma process_account {job : DatabaseOperationJob} {attempt maxAttempts healthAttempts : Nat} :
    Accounts provisioningAccount (· = []) (process job attempt maxAttempts healthAttempts)
      (fun _ _ => True) fun _ _ => True := by
  refine .bind (R := fun _ h => ¬ CameToRecord h) ?_ fun now => ?_
  · refine Accounts.call (fun _ _ => trivial) ?_ fun _ _ _ => trivial
    rintro h a rfl
    have nothing : ¬ CameToRecord [] := fun ⟨_, _, _, _, mem⟩ => absurd mem List.not_mem_nil
    exact not_cameToRecord_append nothing fun _ _ _ e => nomatch e
  refine .bind (R := fun _ h => ¬ CameToRecord h) ?_ fun claimed => ?_
  · refine Accounts.call (fun _ _ => trivial) ?_ fun _ _ _ => trivial
    exact fun h a not => not_cameToRecord_append not fun _ _ _ e => nomatch e
  cases claimed with
  | missing => exact .pure fun _ _ => trivial
  | stale status => exact .pure fun _ _ => trivial
  | ready database =>
    refine .tryCatch (R := fun _ _ => True) ?_ fun error => finishing_account recordFailure_makes
    rw [operate]
    cases job.command with
    | destroy => exact finishing_account destroyDatabase_makes
    | provision => exact provisionDatabase_account

end Account

section Runs
variable {G : DatabaseConfig → databaseSystem.Label → Prop} {c₀ c c₁ : DatabaseConfig}
  {h before between after : DatabaseHistory} {i : Nat} {externalId : String}

/-- What is recorded was given to the same delivery, which had not come to record before. -/
lemma records_accounted (traced : databaseSystem.Traced G c₀ h c) (start : c₀.threads = [])
    {x : DatabaseConfig × databaseSystem.Label} (records : Records externalId x)
    (split : h = before ++ x :: after) : ∃ i, Holds (System.calls i before) externalId := by
  obtain ⟨here⟩ := records
  rename_i c₁ i database result now env
  obtain ⟨traced₁, -⟩ := traced.split split
  obtain ⟨t, k, at_i⟩ := traced.pending split
  have made := makes_of_traced traced₁ start at_i
  cases t with
  | delivery job attempt maxAttempts healthAttempts =>
    have account : Accounts provisioningAccount (· = [])
        (Activity.delivery job attempt maxAttempts healthAttempts).program (fun _ _ => True)
        fun _ _ => True :=
      .bind process_account fun result => .pure fun _ _ => trivial
    have holds := traced₁.accounted start at_i (account [] rfl)
    exact ⟨i, here ▸ holds⟩
  | _ => cases made

/-- A resource that nobody holds and nobody is given is not held. -/
lemma not_holds_append (unheld : ∀ i, ¬ Holds (System.calls i before) externalId)
    (ungiven : ∀ x ∈ between, ¬ Gives externalId x) :
    ¬ Holds (System.calls i (before ++ between)) externalId := by
  rintro ⟨⟨operationId, projectId, displayName, region, result, mem, here⟩, not⟩
  rw [System.calls_append] at mem not
  obtain earlier | later := List.mem_append.mp mem
  · refine unheld i ⟨⟨_, _, _, _, result, earlier, here⟩, ?_⟩
    rintro ⟨database, result', now, r, recorded⟩
    exact not ⟨database, result', now, r, List.mem_append_left _ recorded⟩
  · obtain ⟨h₁, c₁, env, h₂, split, answer⟩ := System.mem_calls later
    have there : (c₁, .act i (.provision operationId projectId displayName region) env) ∈ between := by
      rw [split]
      exact List.mem_append_right _ List.mem_cons_self
    exact ungiven _ there (.intro answer here)

/-- Nobody comes to record a resource that nobody holds and nobody is given. -/
lemma not_records (traced : databaseSystem.Traced G c₀ h c) (start : c₀.threads = [])
    {x : DatabaseConfig × databaseSystem.Label}
    (unheld : ∀ i, ¬ Holds (System.calls i before) externalId)
    (ungiven : ∀ x ∈ between, ¬ Gives externalId x)
    (split : h = (before ++ between) ++ x :: after) : ¬ Records externalId x := by
  intro records
  obtain ⟨i, holds⟩ := records_accounted traced start records split
  exact not_holds_append unheld ungiven holds

/-- The step lemma of untracked resources. -/
lemma Untracked.act {o : Operation} {env : Environment}
    (untracked : Untracked externalId c.store.store) (keyed : InstancesKeyed c.store.store)
    (unrecorded : ¬ Records externalId (c, .act i o env))
    (unfailed : ¬ FailsDeleted externalId (c, .act i o env)) :
    Untracked externalId (perform o env c.store).2.store := by
  have step := perform_instances keyed o env
  intro id d' row' about
  cases row : c.store.store.instance? id with
  | none =>
    rw [(step.new id d' row row').1] at about
    cases about
  | some d =>
    obtain ⟨d'', row'', change⟩ := step.change id d row
    cases row''.symm.trans row'
    obtain same | ⟨database, result, now, rfl, recorded⟩ := change.externalId
    · have about' := same.symm.trans about
      have deleted := untracked id d row about'
      obtain kept | failing := change.deleted deleted
      · exact kept
      · rw [← instance?_id row] at row
        exact absurd (.intro failing row about' deleted) unfailed
    · exact absurd (.intro (Option.some.inj (recorded.symm.trans about))) unrecorded

/-- A granted claim leaves the resource untracked. -/
lemma claim_untracked {sweepId findingId : Uuid} {now : Date} {env : Environment} {s : DatabaseState}
    (answer : (perform (.claimOrphanCleanup sweepId findingId externalId now) env s).1 = .ok true) :
    Untracked externalId
      (perform (.claimOrphanCleanup sweepId findingId externalId now) env s).2.store := by
  obtain ⟨error, e⟩ | ⟨r, store, e, -, result, answered | ⟨error, answered⟩⟩ :=
    perform_cases (.claimOrphanCleanup sweepId findingId externalId now) env s
  · cases (congrArg Prod.fst e).symm.trans answer
  rotate_left
  · cases answered.symm.trans answer
  cases answered.symm.trans answer
  intro id d row about
  rw [result] at row
  have before := (claimOrphanCleanup_instance? e).symm.trans row
  exact claimOrphanCleanup_untracked e d (Table.lookup_mem before) about

/-- The run lemma of untracked resources: they stay so while the cleanup is undisturbed. -/
lemma untracked_since {x : DatabaseConfig × databaseSystem.Label} (starts : Starts c₀)
    (traced : databaseSystem.Traced G c₀ h c) (split : h = (before ++ x :: between))
    (claimed : ∀ c', databaseSystem.Step x.1 x.2 c' → Untracked externalId c'.store.store)
    (other : ¬ Gives externalId x) (undisturbed : Undisturbed externalId before between) :
    Untracked externalId c.store.store := by
  induction traced generalizing between with
  | nil => cases before <;> cases split
  | @snoc h c l c' traced guard step ih =>
    obtain rfl | ⟨between, last, rfl⟩ := List.eq_nil_or_concat between
    · obtain ⟨rfl, same⟩ := List.append_inj' split rfl
      cases same
      exact claimed c' step
    · rw [List.concat_eq_append] at split undisturbed
      have split' : h ++ [(c, l)] = (before ++ x :: between) ++ [last] := by
        rw [split]
        simp
      obtain ⟨rfl, same⟩ := List.append_inj' split' rfl
      cases same
      have ungiven : ∀ y ∈ x :: between, ¬ Gives externalId y := by
        intro y mem
        obtain rfl | mem := List.mem_cons.mp mem
        · exact other
        · exact undisturbed.ungiven y (List.mem_append_left _ mem)
      have untracked := ih rfl ⟨undisturbed.unheld,
        fun y mem => undisturbed.ungiven y (List.mem_append_left _ mem),
        fun y mem => undisturbed.unfailed y (List.mem_append_left _ mem)⟩
      cases step with
      | spawn adm => exact untracked
      | @act i tag o k env at_i =>
        refine untracked.act (i := i) (instancesKeyed_of_reaches starts traced.reaches) ?_ ?_
        · exact not_records (traced.snoc guard (.act env at_i)) starts.2.2 undisturbed.unheld ungiven
            rfl
        · exact undisturbed.unfailed _ (List.mem_append_right _ (List.mem_singleton_self _))

end Runs

section Scenario

/-- Calls that ask the provider for a resource. -/
def Operation.provides : Operation → Bool
  | .provision .. => true
  | _ => false

/-- A step that neither asks the provider for a resource nor records a failure. -/
def uneventful : DatabaseConfig × databaseSystem.Label → Bool
  | (_, .act _ o _) => !o.provides && o.failing?.isNone
  | (_, .spawn _) => true

/-- A history in which nothing is provided and nothing fails. -/
lemma undisturbed_of_uneventful {h : DatabaseHistory} (quiet : h.all uneventful = true) :
    (∀ x ∈ h, ∀ externalId, ¬ Gives externalId x) ∧ CleanupsUndisturbed h := by
  have calm : ∀ x ∈ h, uneventful x = true := List.all_eq_true.mp quiet
  have ungiven : ∀ x ∈ h, ∀ externalId, ¬ Gives externalId x := by
    intro x mem externalId gives
    cases gives
    cases calm _ mem
  refine ⟨ungiven, ?_⟩
  rintro before c i sweepId findingId externalId now env between c' reference env' after rfl -
  have inner {x} (mem : x ∈ between) :
      x ∈ (before ++ (c, .act i (.claimOrphanCleanup sweepId findingId externalId now) env) :: between)
        ++ (c', .act i (.destroy externalId reference) env') :: after :=
    List.mem_append_left _ (List.mem_append_right _ (List.mem_cons_of_mem _ mem))
  refine ⟨?_, fun x mem => ungiven x (inner mem) externalId, fun x mem fails => ?_⟩
  · rintro j ⟨⟨operationId, projectId, displayName, region, result, given, here⟩, -⟩
    obtain ⟨h₁, c₁, env, h₂, split, answer⟩ := System.mem_calls given
    have there : (c₁, .act j (.provision operationId projectId displayName region) env) ∈ before := by
      rw [split]
      exact List.mem_append_right _ List.mem_cons_self
    exact ungiven _ (List.mem_append_left _ (List.mem_append_left _ there)) externalId
      (.intro answer here)
  · have quiet := calm x (inner mem)
    cases fails with
    | @intro c i o env d failing =>
      obtain ⟨-, none⟩ := Bool.and_eq_true_iff.mp quiet
      rw [failing] at none
      cases none

/-- Options of sweeps that clean up, after the default grace period. -/
def cautiousOptions : ReconcilerOptions :=
  { cleanupApprovedOrphans := true }

/-- The first delivery is given a resource and crashes (1). Two sweeps see the resource (2, 3), an
    operator approves its cleanup (4), and the third sweep recovers the instance and claims the
    cleanup (5), while the recovering delivery is given the resource and records it (6). -/
def liveClaimed : List databaseSystem.Move :=
  [.spawn (.provisionRequest 1 1 "key" ⟨1, "ca-central-1", false⟩)] ++ proceeds 0 4 0 7 ++
    [.spawn (.delivery ⟨8, 7, .provision, 0⟩ 1 5 30)] ++ proceeds 1 2 0 7 ++
    [.act 1 { provisioned := ⟨"ref", "postgres", "ca-central-1", "vault"⟩ }] ++
    [.spawn (.reconciliation cautiousOptions)] ++ sweepsOver 2 14 2000000 1 ++
    [.spawn (.reconciliation cautiousOptions)] ++ sweepsOver 3 14 100000000 2 ++
    [.spawn (.cleanupApproval 1 "ref" 1)] ++ proceeds 4 2 100000001 0 ++
    [.spawn (.reconciliation cautiousOptions)] ++ sweepsOver 5 12 200000000 3 ++
    [.spawn (.delivery ⟨8, 7, .provision, 3⟩ 1 5 30)] ++ proceeds 6 2 200000000 7 ++
    [.act 6 { provisioned := ⟨"ref", "postgres", "ca-central-1", "vault"⟩ }] ++
    proceeds 6 3 200000000 7

/-- A step that destroys nothing. -/
def undestroying : DatabaseConfig × databaseSystem.Label → Bool
  | (_, .act _ (.destroy ..) _) => false
  | _ => true

end Scenario

end AtomsPlatform.Database
