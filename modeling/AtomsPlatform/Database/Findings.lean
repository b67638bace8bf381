import AtomsPlatform.Database.Rows

/-!
# Orphan findings

The finding about one provider resource, and the ways in which an operation changes it. A finding
lives in episodes: it is opened by an observation, and it is over when it is resolved; the next
observation opens it again.
-/

namespace AtomsPlatform.Database

/-- The fingerprint of the finding about a resource that no instance tracks. -/
def orphanOf (externalId : String) : Fingerprint :=
  ⟨.orphanProviderResource, .resource externalId⟩

/-- The finding about a resource. -/
def DatabaseStore.orphan? (s : DatabaseStore) (externalId : String) : Option Finding :=
  Table.lookup Finding.fingerprint (orphanOf externalId) s.findings

/-- There is one finding for a fingerprint, and orphan findings are about the resource they name. -/
structure FindingsKeyed (s : DatabaseStore) : Prop where
  distinct : (s.findings.map Finding.fingerprint).Nodup
  named : ∀ f ∈ s.findings, f.fingerprint.kind = .orphanProviderResource →
    ∃ externalId, f.fingerprint = orphanOf externalId ∧ f.externalId = some externalId

/-- A finding as an observation opens it. -/
structure Opened (now graceMs : Nat) (f : Finding) : Prop where
  status : f.status = .opened
  observationCount : f.observationCount = 1
  cleanupAfter : f.cleanupAfter = some (now + graceMs)
  approvedBy : f.approvedBy = none
  approvedAt : f.approvedAt = none

/-- The finding is in no episode. -/
def Absent (f? : Option Finding) : Prop :=
  ∀ f, f? = some f → f.status = .resolved

/-- What is counted and dated in an episode stays as it is. -/
def SameEpisode (f f' : Finding) : Prop :=
  f'.observationCount = f.observationCount ∧ f'.cleanupAfter = f.cleanupAfter

/-- The ways in which an operation changes the finding about a resource. -/
inductive FindingChange (o : Operation) (externalId : String) (f? f'? : Option Finding) : Prop where
  | kept :
    f'? = f? →
    FindingChange o externalId f? f'?
  | opened {sweepId resource now graceMs f'} :
    o = .observeOrphanResource sweepId resource now graceMs →
    resource.externalId = externalId →
    Absent f? →
    f'? = some f' →
    Opened now graceMs f' →
    FindingChange o externalId f? f'?
  | observed {sweepId resource now graceMs f f'} :
    o = .observeOrphanResource sweepId resource now graceMs →
    resource.externalId = externalId →
    f? = some f →
    f.status ≠ .resolved →
    f'? = some f' →
    f'.status = f.status →
    f'.observationCount = f.observationCount + 1 →
    f'.cleanupAfter = f.cleanupAfter →
    FindingChange o externalId f? f'?
  | approved {findingId approvedBy now f f'} :
    o = .approveOrphanCleanup findingId externalId approvedBy now →
    f? = some f →
    f.status = .opened →
    f'? = some f' →
    f'.status = .approved →
    SameEpisode f f' →
    FindingChange o externalId f? f'?
  | claimed {sweepId findingId now f f'} :
    o = .claimOrphanCleanup sweepId findingId externalId now →
    f? = some f →
    f.status = .approved →
    f'? = some f' →
    f'.status = .cleaning →
    SameEpisode f f' →
    FindingChange o externalId f? f'?
  | released {f f'} :
    f? = some f →
    f.status = .cleaning →
    f'? = some f' →
    f'.status = .approved →
    SameEpisode f f' →
    FindingChange o externalId f? f'?
  | resolved {f f'} :
    f? = some f →
    f'? = some f' →
    f'.status = .resolved →
    FindingChange o externalId f? f'?

section Lookup
variable {s s' : DatabaseStore} {externalId : String} {f : Finding} {p : Finding → Bool}
  {data : Finding → Finding} {o : Operation}

lemma orphan?_fingerprint (row : s.orphan? externalId = some f) :
    f.fingerprint = orphanOf externalId :=
  Table.lookup_key row

lemma FindingsKeyed.externalId_eq (keyed : FindingsKeyed s) (row : s.orphan? externalId = some f) :
    f.externalId = some externalId := by
  have fingerprint := orphan?_fingerprint row
  obtain ⟨x, e, found⟩ := keyed.named f (Table.lookup_mem row) (by rw [fingerprint]; rfl)
  cases e.symm.trans fingerprint
  exact found

/-- The orphan finding with an external id is the finding about this resource. -/
lemma FindingsKeyed.orphan? (keyed : FindingsKeyed s) (mem : f ∈ s.findings)
    (kind : f.fingerprint.kind = .orphanProviderResource) (found : f.externalId = some externalId) :
    s.orphan? externalId = some f := by
  obtain ⟨x, e, found'⟩ := keyed.named f mem kind
  cases found.symm.trans found'
  have row := Table.lookup_of_mem keyed.distinct mem
  rwa [e] at row

lemma orphan?_of_findings (same : s'.findings = s.findings) :
    s'.orphan? externalId = s.orphan? externalId := by
  simp only [DatabaseStore.orphan?, same]

/-- The finding about a resource after an update of findings. -/
lemma orphan?_updateFindings (keeps : ∀ f, (data f).fingerprint = f.fingerprint) :
    (updateFindings s p data).orphan? externalId =
      (s.orphan? externalId).map fun f => if p f then data f else f := by
  refine Table.lookup_map (g := fun f => if p f then data f else f) fun f => ?_
  split
  · exact keeps f
  · rfl

lemma FindingsKeyed.of_findings (keyed : FindingsKeyed s) (same : s'.findings = s.findings) :
    FindingsKeyed s' := by
  constructor
  · rw [same]
    exact keyed.distinct
  · rw [same]
    exact keyed.named

/-- Updates that keep fingerprints and external ids keep the findings keyed. -/
lemma FindingsKeyed.updateFindings (keyed : FindingsKeyed s)
    (keeps : ∀ f, (data f).fingerprint = f.fingerprint ∧ (data f).externalId = f.externalId) :
    FindingsKeyed (updateFindings s p data) := by
  have same : ∀ f, (if p f then data f else f).fingerprint = f.fingerprint ∧
      (if p f then data f else f).externalId = f.externalId := by
    intro f
    split
    · exact keeps f
    · exact ⟨rfl, rfl⟩
  constructor
  · have keys : (Database.updateFindings s p data).findings.map Finding.fingerprint =
        s.findings.map Finding.fingerprint := by
      show (s.findings.map _).map _ = _
      rw [List.map_map]
      exact List.map_congr_left fun f _ => (same f).1
    rw [keys]
    exact keyed.distinct
  · intro f' mem kind
    obtain ⟨f, before, rfl⟩ := List.mem_map.mp mem
    rw [(same f).1] at kind
    obtain ⟨x, e, found⟩ := keyed.named f before kind
    exact ⟨x, (same f).1.trans e, (same f).2.trans found⟩

end Lookup

section Observation
variable {s : DatabaseStore} {id : Uuid} {input : FindingInput} {externalId : String}

/-- What an observation leaves is the finding of its fingerprint. -/
lemma observed_fingerprint {existing : Option Finding}
    (found : ∀ f, existing = some f → f.fingerprint = input.fingerprint) :
    (observed id input existing).fingerprint = input.fingerprint := by
  unfold observed
  cases existing with
  | none => rfl
  | some f =>
    dsimp only
    split
    · exact found f rfl
    · exact found f rfl

lemma observed_externalId {existing : Option Finding} :
    (observed id input existing).externalId = input.externalId := by
  unfold observed
  cases existing with
  | none => rfl
  | some f =>
    dsimp only
    split <;> rfl

lemma lookup_observeFinding (fingerprint : Fingerprint) :
    Table.lookup Finding.fingerprint fingerprint (observeFinding id input s).2.findings =
      if input.fingerprint = fingerprint then
        some (observed id input (Table.lookup Finding.fingerprint fingerprint s.findings))
      else Table.lookup Finding.fingerprint fingerprint s.findings := by
  have keeps : (observed id input
      (Table.lookup Finding.fingerprint input.fingerprint s.findings)).fingerprint =
        input.fingerprint :=
    observed_fingerprint fun f row => Table.lookup_key row
  by_cases here : input.fingerprint = fingerprint
  · subst here
    rw [if_pos rfl]
    unfold observeFinding
    dsimp only
    cases row : Table.lookup Finding.fingerprint input.fingerprint s.findings with
    | none =>
      rw [row] at keeps
      exact Table.lookup_append_new row keeps
    | some f =>
      rw [row] at keeps
      show Table.lookup _ _ (Table.update ..) = _
      rw [Table.lookup_update fun _ _ => keeps, row]
      rfl
  · rw [if_neg here]
    unfold observeFinding
    dsimp only
    cases row : Table.lookup Finding.fingerprint input.fingerprint s.findings with
    | none =>
      rw [row] at keeps
      refine Table.lookup_append_ne ?_
      rw [keeps]
      exact here
    | some f =>
      rw [row] at keeps
      exact Table.lookup_update_ne (fun _ _ => keeps) (Ne.symm here)

/-- Observations keep the findings keyed. -/
lemma FindingsKeyed.observeFinding (keyed : FindingsKeyed s)
    (named : input.fingerprint.kind = .orphanProviderResource →
      ∃ externalId, input.fingerprint = orphanOf externalId ∧ input.externalId = some externalId) :
    FindingsKeyed (observeFinding id input s).2 := by
  have keeps : (observed id input
      (Table.lookup Finding.fingerprint input.fingerprint s.findings)).fingerprint =
        input.fingerprint :=
    observed_fingerprint fun f row => Table.lookup_key row
  unfold Database.observeFinding
  dsimp only
  cases row : Table.lookup Finding.fingerprint input.fingerprint s.findings with
  | none =>
    rw [row] at keeps
    constructor
    · show (List.map _ (s.findings ++ [_])).Nodup
      rw [List.map_append, List.nodup_append]
      refine ⟨keyed.distinct, List.nodup_singleton _, ?_⟩
      intro x mem y new
      rw [List.mem_singleton.mp new]
      obtain ⟨f, before, rfl⟩ := List.mem_map.mp mem
      intro same
      rw [keeps] at same
      have found := Table.lookup_of_mem keyed.distinct before
      rw [same, row] at found
      cases found
    · intro f mem kind
      obtain mem | new := List.mem_append.mp mem
      · exact keyed.named f mem kind
      · rw [List.mem_singleton.mp new] at kind ⊢
        rw [keeps] at kind ⊢
        rw [observed_externalId]
        exact named kind
  | some f =>
    rw [row] at keeps
    constructor
    · have keys : (Table.update Finding.fingerprint input.fingerprint (fun _ => true)
          (fun _ => observed id input (some f)) s.findings).map Finding.fingerprint =
          s.findings.map Finding.fingerprint := by
        rw [Table.update, List.map_map]
        refine List.map_congr_left fun g _ => ?_
        by_cases here : g.fingerprint = input.fingerprint
        · simp [here, keeps]
        · simp [here]
      show (List.map _ (Table.update ..)).Nodup
      rw [keys]
      exact keyed.distinct
    · intro g' mem kind
      obtain ⟨g, before, rfl⟩ := List.mem_map.mp mem
      by_cases here : g.fingerprint = input.fingerprint
      · simp only [here, and_self, if_true] at kind ⊢
        rw [keeps] at kind ⊢
        rw [observed_externalId]
        exact named kind
      · simp only [here, false_and, if_false] at kind ⊢
        exact keyed.named g before kind

end Observation

/-- Operations that are not about findings and sweeps leave both as they are. -/
structure Unswept (s s' : DatabaseStore) : Prop where
  findings : s'.findings = s.findings
  sweeps : s'.sweeps = s.sweeps

section Frame
variable {s s' : DatabaseStore} {database : DatabaseExecutionRecord} {now : Date}

lemma unswept_appendEventFor {artifact : Option MigrationArtifact} {event : DatabaseStatusChanged} :
    Unswept s (s.appendEventFor artifact event) := by
  cases artifact <;> exact ⟨rfl, rfl⟩

lemma unswept_upsertSecretReference {reference : String} :
    Unswept s (upsertSecretReference s database reference) := by
  unfold upsertSecretReference
  split <;> exact ⟨rfl, rfl⟩

lemma unswept_upsertMigrationRun : Unswept s (upsertMigrationRun s database now) := by
  unfold upsertMigrationRun
  split <;> exact ⟨rfl, rfl⟩

lemma unswept_revokeSecretReference {reference : Option String} :
    Unswept s (revokeSecretReference s reference now) := by
  cases reference <;> exact ⟨rfl, rfl⟩

lemma claim_unswept {job : DatabaseOperationJob} {r : DatabaseClaimResult}
    (e : claim job now s = .ok (r, s')) : Unswept s s' := by
  simp only [claim] at e
  repeat' split at e
  all_goals
    cases e
    exact ⟨rfl, rfl⟩

lemma recordProvisioned_unswept {result : DatabaseProvisionResult} {r : Bool}
    (e : recordProvisioned database result now s = .ok (r, s')) : Unswept s s' := by
  have upserted : Unswept s (upsertSecretReference s database result.connectionSecretRef) :=
    unswept_upsertSecretReference
  simp only [recordProvisioned] at e
  split at e
  · cases e
    exact ⟨upserted.findings, upserted.sweeps⟩
  · cases e
    exact upserted

lemma startMigration_unswept {r : Bool} (e : startMigration database now s = .ok (r, s')) :
    Unswept s s' := by
  simp only [startMigration] at e
  split at e
  · cases e
    exact ⟨unswept_upsertMigrationRun.findings, unswept_upsertMigrationRun.sweeps⟩
  · cases e
    exact ⟨rfl, rfl⟩

lemma completeDestroy_unswept {r : Bool} (e : completeDestroy database now s = .ok (r, s')) :
    Unswept s s' := by
  simp only [completeDestroy] at e
  split at e
  · cases e
    exact ⟨unswept_revokeSecretReference.findings, unswept_revokeSecretReference.sweeps⟩
  · cases e
    exact ⟨rfl, rfl⟩

/-- An answer that is made from a record. -/
lemma exists_of_map_ok {α β : Type} {e : Except Failure α} {f : α → β} {b : β}
    (ok : e.map f = .ok b) : ∃ a, f a = b := by
  cases e with
  | ok a => exact ⟨a, Except.ok.inj ok⟩
  | error error => cases ok

lemma createDatabaseOperation_unswept {userId projectId id operationId : Uuid} {key : String}
    {input : ProvisionDatabaseInput} {r : CreateDatabaseOperationResult}
    (e : createDatabaseOperation userId projectId key input now id operationId s = .ok (r, s')) :
    Unswept s s' := by
  simp only [createDatabaseOperation] at e
  split at e
  · obtain ⟨answer, same⟩ := exists_of_map_ok e
    cases same
    exact ⟨rfl, rfl⟩
  repeat' split at e
  all_goals cases e
  all_goals exact ⟨rfl, rfl⟩

lemma requestDatabaseAction_unswept {userId projectId databaseInstanceId : Uuid}
    {r : DestroyDatabaseOperationResult}
    (e : requestDatabaseAction userId projectId databaseInstanceId now s = .ok (r, s')) :
    Unswept s s' := by
  simp only [requestDatabaseAction] at e
  split at e
  · cases e
    exact ⟨rfl, rfl⟩
  split at e
  · cases e
    exact ⟨rfl, rfl⟩
  split at e
  · obtain ⟨record, same⟩ := exists_of_map_ok e
    cases same
    exact ⟨rfl, rfl⟩
  split at e
  · cases e
    exact ⟨rfl, rfl⟩
  · obtain ⟨record, same⟩ := exists_of_map_ok e
    cases same
    exact ⟨unswept_appendEventFor.findings, unswept_appendEventFor.sweeps⟩

lemma recordRecoveryDispatchFailure_unswept {current : DatabaseInstance} {error : OperationError}
    {r : Unit} (e : recordRecoveryDispatchFailure current error now s = .ok (r, s')) :
    Unswept s s' := by
  simp only [recordRecoveryDispatchFailure] at e
  split at e
  · cases e
    exact ⟨unswept_appendEventFor.findings, unswept_appendEventFor.sweeps⟩
  · cases e

end Frame

/-- What an operation does to findings. -/
structure FindingStep (o : Operation) (s s' : DatabaseStore) : Prop where
  change : ∀ externalId, FindingChange o externalId (s.orphan? externalId) (s'.orphan? externalId)
  keyed : FindingsKeyed s'

section Steps
variable {o : Operation} {s s' : DatabaseStore}

lemma FindingStep.of_same (keyed : FindingsKeyed s) (same : s'.findings = s.findings) :
    FindingStep o s s' :=
  ⟨fun _ => .kept (orphan?_of_findings same), keyed.of_findings same⟩

/-- An update is a step if it changes each finding it matches in an allowed way. -/
lemma FindingStep.of_update {p : Finding → Bool} {data : Finding → Finding}
    (keyed : FindingsKeyed s) (updated : s'.findings = (updateFindings s p data).findings)
    (keeps : ∀ f, (data f).fingerprint = f.fingerprint ∧ (data f).externalId = f.externalId)
    (change : ∀ externalId f, s.orphan? externalId = some f → p f = true →
      FindingChange o externalId (some f) (some (data f))) : FindingStep o s s' := by
  refine ⟨fun externalId => ?_, (keyed.updateFindings keeps).of_findings updated⟩
  rw [orphan?_of_findings updated, orphan?_updateFindings fun f => (keeps f).1]
  cases row : s.orphan? externalId with
  | none => exact .kept rfl
  | some f =>
    rw [Option.map_some]
    split
    · rename_i matched
      exact change externalId f row matched
    · exact .kept rfl

/-- Observations of anything but an orphan leave the orphan findings as they are. -/
lemma FindingStep.of_observeFinding {id : Uuid} {input : FindingInput} (keyed : FindingsKeyed s)
    (other : input.fingerprint.kind ≠ .orphanProviderResource) :
    FindingStep o s (observeFinding id input s).2 := by
  refine ⟨fun externalId => .kept ?_, keyed.observeFinding fun kind => absurd kind other⟩
  refine (lookup_observeFinding (orphanOf externalId)).trans (if_neg ?_)
  intro same
  rw [same] at other
  exact other rfl

section Sweep
variable {sweepId findingId id : Uuid} {externalId : String} {now : Date}

lemma beginSweep_findings {input : BeginSweepInput} {r : Uuid} (keyed : FindingsKeyed s)
    (e : beginSweep input id s = .ok (r, s')) : FindingStep o s s' := by
  simp only [beginSweep] at e
  split at e
  · cases e
  · cases e
    refine .of_update keyed rfl ?_ ?_
    · exact fun _ => ⟨rfl, rfl⟩
    · intro x f row matched
      have cleaning : f.status = .cleaning := (of_decide_eq_true matched).1
      exact .released rfl cleaning rfl rfl ⟨rfl, rfl⟩

lemma observeMissingResource_findings {database : TrackedDatabaseResource} {r : Unit}
    (keyed : FindingsKeyed s)
    (e : observeMissingResource sweepId database now findingId s = .ok (r, s')) :
    FindingStep o s s' := by
  have step : FindingStep o s (observeFinding findingId
      { sweepId
        fingerprint := ⟨.providerResourceMissing, .instance database.databaseInstanceId⟩
        databaseInstanceId := some database.databaseInstanceId
        externalId := some database.externalId
        resourceName := none
        now
        cleanupAfter := none } s).2 :=
    .of_observeFinding keyed (by simp)
  simp only [observeMissingResource] at e
  repeat' split at e
  all_goals
    cases e
    exact ⟨step.change, step.keyed.of_findings rfl⟩

/-- What a recovery does to findings. -/
lemma recoverCandidate_findings {input : RecoverInput} {findingIds : Uuid → Uuid}
    {candidate : DatabaseInstance} {acc : DatabaseRecoveryPlan × DatabaseStore}
    (keyed : FindingsKeyed acc.2) :
    FindingsKeyed (recoverCandidate input findingIds acc candidate).2 ∧
      ∀ externalId, (recoverCandidate input findingIds acc candidate).2.orphan? externalId =
        acc.2.orphan? externalId := by
  simp only [recoverCandidate, exhaustCandidate, dispatchCandidate]
  repeat' split
  · exact ⟨keyed, fun _ => rfl⟩
  · have same {s : DatabaseStore} {artifact event} :
        (s.appendEventFor artifact event).findings = s.findings := unswept_appendEventFor.findings
    have other : (⟨.recoveryExhausted, .instance candidate.id⟩ : Fingerprint).kind ≠
        .orphanProviderResource := by simp
    refine ⟨.of_findings (.observeFinding ?_ fun kind => absurd kind other) same, fun x => ?_⟩
    · exact keyed.of_findings rfl
    · refine (orphan?_of_findings same).trans ((lookup_observeFinding (orphanOf x)).trans ?_)
      exact if_neg fun same => other (congrArg Fingerprint.kind same)
  · exact ⟨keyed, fun _ => rfl⟩
  · have same {s : DatabaseStore} {artifact event} :
        (s.appendEventFor artifact event).findings = s.findings := unswept_appendEventFor.findings
    exact ⟨keyed.of_findings same, fun x => orphan?_of_findings same⟩
  · exact ⟨keyed, fun _ => rfl⟩

lemma recoverStaleOperations_findings {input : RecoverInput} {findingIds : Uuid → Uuid}
    {r : DatabaseRecoveryPlan} (keyed : FindingsKeyed s)
    (e : recoverStaleOperations input findingIds s = .ok (r, s')) : FindingStep o s s' := by
  have fold : ∀ (candidates : List DatabaseInstance) (acc : DatabaseRecoveryPlan × DatabaseStore),
      FindingsKeyed acc.2 →
      FindingsKeyed (candidates.foldl (recoverCandidate input findingIds) acc).2 ∧
        ∀ x, (candidates.foldl (recoverCandidate input findingIds) acc).2.orphan? x =
          acc.2.orphan? x := by
    intro candidates
    induction candidates with
    | nil => exact fun acc keyed => ⟨keyed, fun _ => rfl⟩
    | cons candidate candidates ih =>
      intro acc keyed
      obtain ⟨keyed', same⟩ := recoverCandidate_findings keyed
      obtain ⟨keyed'', same'⟩ := ih _ keyed'
      exact ⟨keyed'', fun x => (same' x).trans (same x)⟩
  obtain ⟨keyed', same⟩ := fold (recoveryCandidates input s) ({}, s) keyed
  rw [Except.ok.inj e] at keyed' same
  exact ⟨fun x => .kept (same x), keyed'⟩

/-- What the observation of an orphan writes. -/
def orphanInput (sweepId : Uuid) (resource : ManagedDatabaseResource) (now : Date) (graceMs : Nat) :
    FindingInput where
  sweepId
  fingerprint := orphanOf resource.externalId
  databaseInstanceId := none
  externalId := some resource.externalId
  resourceName := some resource.name
  now
  cleanupAfter := some (now + graceMs)

/-- An observation of an orphan opens its finding, or counts in the episode there is. -/
lemma observeOrphanResource_findings {resource : ManagedDatabaseResource} {graceMs : Nat}
    {r : OrphanResourceObservation} (keyed : FindingsKeyed s)
    (e : observeOrphanResource sweepId resource now graceMs findingId s = .ok (r, s')) :
    FindingStep (.observeOrphanResource sweepId resource now graceMs) s s' := by
  have written : s' = (observeFinding findingId (orphanInput sweepId resource now graceMs) s).2 := by
    simp only [observeOrphanResource] at e
    split at e
    · cases e
    · cases e
      rfl
  subst written
  refine ⟨fun x => ?_, keyed.observeFinding fun _ => ⟨resource.externalId, rfl, rfl⟩⟩
  have after : (observeFinding findingId (orphanInput sweepId resource now graceMs) s).2.orphan? x =
      if orphanOf resource.externalId = orphanOf x then
        some (observed findingId (orphanInput sweepId resource now graceMs) (s.orphan? x))
      else s.orphan? x :=
    lookup_observeFinding (orphanOf x)
  by_cases here : resource.externalId = x
  · subst here
    rw [if_pos rfl] at after
    cases row : s.orphan? resource.externalId with
    | none =>
      rw [row] at after
      refine .opened rfl rfl (fun f e => ?_) after ⟨rfl, rfl, rfl, rfl, rfl⟩
      cases e
    | some f =>
      rw [row] at after
      by_cases ended : f.status = .resolved
      · simp only [observed, if_pos ended] at after
        refine .opened rfl rfl ?_ after ⟨rfl, rfl, rfl, rfl, rfl⟩
        rintro _ ⟨⟩
        exact ended
      · simp only [observed, if_neg ended] at after
        exact .observed rfl rfl rfl ended after rfl rfl rfl
  · refine .kept (after.trans (if_neg ?_))
    intro same
    injection same with _ same
    exact here (StableId.resource.inj same)

lemma claimOrphanCleanup_findings {r : Bool} (keyed : FindingsKeyed s)
    (e : claimOrphanCleanup sweepId findingId externalId now s = .ok (r, s')) :
    FindingStep (.claimOrphanCleanup sweepId findingId externalId now) s s' := by
  simp only [claimOrphanCleanup] at e
  split at e
  · cases e
    exact .of_same keyed rfl
  split at e
  · cases e
    exact .of_same keyed rfl
  split at e
  · cases e
    exact .of_same keyed rfl
  · cases e
    refine .of_update keyed rfl ?_ ?_
    · exact fun _ => ⟨rfl, rfl⟩
    · intro x f row matched
      obtain ⟨-, -, -, approved, found, -⟩ := of_decide_eq_true matched
      cases (keyed.externalId_eq row).symm.trans found
      exact .claimed rfl rfl approved rfl rfl ⟨rfl, rfl⟩

lemma releaseOrphanCleanupClaim_findings {r : Unit} (keyed : FindingsKeyed s)
    (e : releaseOrphanCleanupClaim findingId now s = .ok (r, s')) : FindingStep o s s' := by
  cases e
  refine .of_update keyed rfl ?_ ?_
  · exact fun _ => ⟨rfl, rfl⟩
  · intro x f row matched
    exact .released rfl (of_decide_eq_true matched).2 rfl rfl ⟨rfl, rfl⟩

/-- Updates that resolve are steps. -/
lemma FindingStep.of_resolving {p : Finding → Bool} {data : Finding → Finding}
    (keyed : FindingsKeyed s)
    (keeps : ∀ f, (data f).fingerprint = f.fingerprint ∧ (data f).externalId = f.externalId)
    (resolves : ∀ f, (data f).status = .resolved) : FindingStep o s (updateFindings s p data) :=
  .of_update keyed rfl keeps fun _ f _ _ => .resolved rfl rfl (resolves f)

lemma approveOrphanCleanup_findings {approvedBy : Uuid} {r : ApproveOrphanCleanupResult}
    (keyed : FindingsKeyed s)
    (e : approveOrphanCleanup findingId externalId approvedBy now s = .ok (r, s')) :
    FindingStep (.approveOrphanCleanup findingId externalId approvedBy now) s s' := by
  simp only [approveOrphanCleanup] at e
  split at e
  · cases e
    exact .of_same keyed rfl
  split at e
  · cases e
    exact .of_same keyed rfl
  split at e
  · cases e
    exact .of_same keyed rfl
  split at e
  · cases e
    exact .of_same keyed rfl
  · cases e
    refine .of_update keyed rfl ?_ ?_
    · exact fun _ => ⟨rfl, rfl⟩
    · intro x f row matched
      obtain ⟨-, opened, found⟩ := of_decide_eq_true matched
      cases (keyed.externalId_eq row).symm.trans found
      exact .approved rfl rfl opened rfl rfl ⟨rfl, rfl⟩

end Sweep

/-- Every operation changes the finding about a resource in one of the ways of `FindingChange`. -/
lemma transact_findings {env : Environment} {r : o.Answer} (keyed : FindingsKeyed s)
    (e : transact env o s = .ok (r, s')) : FindingStep o s s' := by
  cases o with
  | beginSweep input => exact beginSweep_findings keyed e
  | recoverStaleOperations input => exact recoverStaleOperations_findings keyed e
  | observeMissingResource sweepId database now => exact observeMissingResource_findings keyed e
  | observeOrphanResource sweepId resource now graceMs =>
    exact observeOrphanResource_findings keyed e
  | claimOrphanCleanup sweepId findingId externalId now =>
    exact claimOrphanCleanup_findings keyed e
  | releaseOrphanCleanupClaim findingId now => exact releaseOrphanCleanupClaim_findings keyed e
  | approveOrphanCleanup findingId externalId approvedBy now =>
    exact approveOrphanCleanup_findings keyed e
  | resolveMissingResource | resolveOrphanResource | resolveUnseenOrphanResources =>
    cases e
    exact .of_resolving keyed (fun _ => ⟨rfl, rfl⟩) fun _ => rfl
  | claim job now => exact .of_same keyed (claim_unswept e).findings
  | recordProvisioned database result now =>
    exact .of_same keyed (recordProvisioned_unswept e).findings
  | recordHealthCheck database message now =>
    simp only [transact, recordHealthCheck] at e
    split at e <;> cases e <;> exact .of_same keyed rfl
  | startMigration database now => exact .of_same keyed (startMigration_unswept e).findings
  | completeMigration database reports now =>
    simp only [transact, completeMigration] at e
    repeat' split at e
    all_goals
      cases e
      try exact .of_same keyed rfl
  | completeDestroy database now => exact .of_same keyed (completeDestroy_unswept e).findings
  | createDatabaseOperation userId projectId key input now =>
    exact .of_same keyed (createDatabaseOperation_unswept e).findings
  | requestDatabaseAction userId projectId databaseInstanceId now =>
    exact .of_same keyed (requestDatabaseAction_unswept e).findings
  | recordRecoveryDispatchFailure current error now =>
    exact .of_same keyed (recordRecoveryDispatchFailure_unswept e).findings
  -- the other operations write no findings
  | _ =>
    cases e
    exact .of_same keyed rfl

/-- The step lemma of the findings. -/
lemma perform_findings {s : DatabaseState} (keyed : FindingsKeyed s.store) (o : Operation)
    (env : Environment) : FindingStep o s.store (perform o env s).2.store := by
  obtain ⟨error, e⟩ | ⟨r, store, e, -, after, -⟩ := perform_cases o env s
  · rw [e]
    exact .of_same keyed rfl
  · rw [after]
    exact transact_findings keyed e

end Steps

end AtomsPlatform.Database
