import AtomsPlatform.Lib.Ending
import AtomsPlatform.Run.Behaviours
import Mathlib.Data.Fintype.Basic

/-!
# The outcome of a delivery

How a delivery of a job ends, whatever its collaborators do. The calls of each part of `process` are
read off its text: what executes the run obtains at most one lease, what concludes it completes the run
or revokes the lease, and what settles a failure revokes the lease and fails the run at most once
(`Tried`, `Concluded`, `Settled`). An assessment does not matter for any of this, unless the assessor
throws before it returns a promise: the `catch` that is meant to ignore it is one on the promise.
-/

namespace AtomsPlatform.Run
open Interleaving
variable {Output : Type} {schemas : AgentOutputSchemas Output} {Outputs : Type}

/-- The calls that execute a run: they neither end it nor give back a lease. -/
def Collaboration.Work : Collaboration schemas Outputs → Prop
  | .invokeGraph _ | .listProjectFiles _ | .validate .. | .repair _ => True
  | _ => False

/-- The lease that a call obtained. -/
def obtained : CollaborationEvent schemas Outputs → Option Uuid
  | ⟨.validate .., .ok lease⟩ => lease
  | _ => none

/-- Calls that executed a run, and the lease that came of them. -/
def Worked (lease : Option Uuid) (h : List (CollaborationEvent schemas Outputs)) : Prop :=
  (∀ e ∈ h, e.1.Work) ∧ h.filterMap obtained = lease.toList

/-- What is done after an assessment. -/
def Collaborators.conclude {M : Type → Type} [Monad M] [MonadExcept Thrown M]
    (collaborators : Collaborators schemas Outputs M) (run : RunExecutionRecord)
    (lease : Option Uuid) : M ProcessRunResult := do
  let now ← collaborators.now
  let completed ← collaborators.completeRun run.id run.controlVersion now
  if completed then pure .completed
  else do
    collaborators.awaitRevoke lease
    pure (.stopped "stale")

/-- The call that revokes a lease, if there is one. -/
def Revoked (lease : Option Uuid) (h : List (CollaborationEvent schemas Outputs)) : Prop :=
  match lease with
  | none => h = []
  | some lease => ∃ r, h = [⟨.revoke lease, r⟩]

/-- The calls that conclude a run, and how they end. -/
inductive Concluded (run : RunExecutionRecord) (lease : Option Uuid) :
    List (CollaborationEvent schemas Outputs) → Except Thrown ProcessRunResult → Prop where
  | clock (e : Thrown) :
    Concluded run lease [⟨.now, .error e⟩] (.error e)
  | uncertain (now : Date) (e : Thrown) :
    Concluded run lease
      [⟨.now, .ok now⟩, ⟨.completeRun run.id run.controlVersion now, .error e⟩] (.error e)
  | completed (now : Date) :
    Concluded run lease
      [⟨.now, .ok now⟩, ⟨.completeRun run.id run.controlVersion now, .ok true⟩] (.ok .completed)
  | stale (now : Date) {h} :
    Revoked lease h →
    Concluded run lease
      (⟨.now, .ok now⟩ :: ⟨.completeRun run.id run.controlVersion now, .ok false⟩ :: h)
      (.ok (.stopped "stale"))
  | unrevoked (now : Date) (e : Thrown) {h} :
    Revoked lease h →
    Concluded run lease
      (⟨.now, .ok now⟩ :: ⟨.completeRun run.id run.controlVersion now, .ok false⟩ :: h) (.error e)

/-- The calls after the lease of a failed run is revoked, and how they end. -/
inductive Settled (run : RunExecutionRecord) (attempt : RunAttempt) (error : Thrown) :
    List (CollaborationEvent schemas Outputs) → Except Thrown ProcessRunResult → Prop where
  | stopped {status : String} :
    findRunStoppedError error = some status →
    Settled run attempt error [] (.ok (.stopped status))
  | rethrown :
    findRunStoppedError error = none →
    isRetryableError error ∧ attempt.attempt < attempt.maxAttempts →
    Settled run attempt error [] (.error error)
  | clock (e : Thrown) :
    ¬ (isRetryableError error ∧ attempt.attempt < attempt.maxAttempts) →
    Settled run attempt error [⟨.now, .error e⟩] (.error e)
  | uncertain (now : Date) (e : Thrown) :
    ¬ (isRetryableError error ∧ attempt.attempt < attempt.maxAttempts) →
    Settled run attempt error
      [⟨.now, .ok now⟩,
        ⟨.failRun run.id run.controlVersion (toWorkerError error) now, .error e⟩] (.error e)
  | failed (now : Date) (failed : Bool) :
    ¬ (isRetryableError error ∧ attempt.attempt < attempt.maxAttempts) →
    Settled run attempt error
      [⟨.now, .ok now⟩,
        ⟨.failRun run.id run.controlVersion (toWorkerError error) now, .ok failed⟩]
      (.ok (if failed then .failed else .stopped "stale"))

section Parts

variable {options : RunProcessorOptions} {parse : Outputs → Except Thrown (RunOutputs schemas)}
  {run : RunExecutionRecord} {outputs : Outputs} {h : List (CollaborationEvent schemas Outputs)}

/-- Programs that execute a part of a run and do not obtain a lease. -/
abbrev Leaseless {α : Type} (p : ProcessorProgram schemas Outputs α) : Prop :=
  Accounts (fun _ _ => True) (Worked none) p (fun _ => Worked none) fun _ => Worked none

lemma Worked.snoc {e : CollaborationEvent schemas Outputs} (worked : Worked none h)
    (work : e.1.Work) : Worked (obtained e) (h ++ [e]) := by
  constructor
  · intro e' mem
    rcases List.mem_append.mp mem with mem | mem
    · exact worked.1 e' mem
    · rw [List.mem_singleton.mp mem]
      exact work
  · rw [List.filterMap_append, worked.2]
    cases lease : obtained e <;> simp [lease]

lemma works_call {o : Collaboration schemas Outputs} (work : o.Work)
    (none : ∀ r, obtained ⟨o, r⟩ = none) : Leaseless (ask o) := by
  apply Accounts.call
  · exact fun _ _ => trivial
  · intro h a worked
    have after := worked.snoc (e := ⟨o, .ok a⟩) work
    rwa [none] at after
  · intro h e worked
    have after := worked.snoc (e := ⟨o, .error e⟩) work
    rwa [none] at after

lemma works_upstream : Leaseless ((anyCollaborators options parse).upstream outputs) := by
  unfold Collaborators.upstream
  split
  · exact .pure fun _ worked => worked
  · exact .throw fun _ worked => worked

lemma works_repair {input : RunRepairInput schemas} :
    Leaseless (ask (.repair input) : ProcessorProgram schemas Outputs Bool) :=
  works_call trivial fun _ => rfl

lemma works_repairMissingRoutes :
    Leaseless ((anyCollaborators options parse).repairMissingRoutes run outputs) := by
  unfold Collaborators.repairMissingRoutes
  split
  · exact .pure fun _ worked => worked
  rename_i repair configured
  split
  · exact .pure fun _ worked => worked
  rw [repairer_eq configured]
  apply Triple.tryCatch (R := fun _ => Worked none)
  · apply Triple.bind works_upstream
    intro upstream
    split
    · exact .pure fun _ worked => worked
    apply Triple.bind (works_call (o := .listProjectFiles run.projectId) trivial fun _ => rfl)
    intro files
    dsimp only
    split
    · exact .pure fun _ worked => worked
    · exact .bind works_repair fun repaired => .pure fun _ worked => worked
  · intro error
    split
    · exact .throw fun _ worked => worked
    · exact .pure fun _ worked => worked

lemma works_repairValidation {used : Nat} {error : Thrown} :
    Leaseless ((anyCollaborators options parse).repairValidation run outputs used error) := by
  unfold Collaborators.repairValidation
  split
  · rename_i failure repair _ configured
    split
    · rw [repairer_eq configured]
      split
      · apply Triple.bind (R := fun _ => Worked none)
        · apply Triple.tryCatch (R := fun _ => Worked none)
          · exact .bind works_upstream fun upstream => works_repair
          · intro repairError
            split
            · exact .throw fun _ worked => worked
            · exact .pure fun _ worked => worked
        · intro repaired
          split
          · exact .pure fun _ worked => worked
          · exact .throw fun _ worked => worked
      · exact .throw fun _ worked => worked
    · exact .throw fun _ worked => worked
  · exact .throw fun _ worked => worked

/-- A validation is where a lease comes from. -/
lemma works_validate {attempt : Nat} :
    Accounts (fun _ _ => True) (Worked none)
      ((anyCollaborators options parse).validate run attempt) (fun lease => Worked lease)
      fun _ => Worked none := by
  unfold Collaborators.validate
  split
  · exact .pure fun _ worked => worked
  rename_i validate configured
  rw [validator_eq configured]
  apply Accounts.call
  · exact fun _ _ => trivial
  · exact fun h lease worked => worked.snoc (e := ⟨.validate run attempt, .ok lease⟩) trivial
  · exact fun h e worked => worked.snoc (e := ⟨.validate run attempt, .error e⟩) trivial

lemma works_validateOnce {attempt used : Nat} :
    Accounts (fun _ _ => True) (Worked none)
      ((anyCollaborators options parse).validateOnce run outputs attempt used)
      (fun validated => Worked (validated.elim id fun _ => none)) fun _ => Worked none := by
  apply Triple.tryCatch (R := fun _ => Worked none)
  · exact .bind works_validate fun lease => .pure fun _ worked => worked
  · intro error
    exact .bind works_repairValidation fun left => .pure fun _ worked => worked

/-- A round that does not pass leaves no lease behind; the induction is on the repairs that are left. -/
lemma works_validateWithRepairs {attempt used : Nat} (remaining : Nat)
    (left : options.maxRepairAttempts - used = remaining) :
    Accounts (fun _ _ => True) (Worked none)
      ((anyCollaborators options parse).validateWithRepairs run outputs attempt used)
      (fun validated => Worked validated.1) fun _ => Worked none := by
  induction remaining generalizing used with
  | zero =>
    rw [Collaborators.validateWithRepairs]
    apply Triple.bind works_validateOnce
    intro validated
    cases validated with
    | inl lease => exact .pure fun _ worked => worked
    | inr more =>
      have := more.down
      have budget : (anyCollaborators options parse).maxRepairAttempts = options.maxRepairAttempts :=
        rfl
      omega
  | succ remaining ih =>
    rw [Collaborators.validateWithRepairs]
    apply Triple.bind works_validateOnce
    intro validated
    cases validated with
    | inl lease => exact .pure fun _ worked => worked
    | inr more => exact ih (by omega)

lemma works_executeRun {job : RunJob} {attempt : RunAttempt} :
    Accounts (fun _ _ => True) (Worked none)
      ((anyCollaborators options parse).executeRun job run attempt)
      (fun validated => Worked validated.1) fun _ => Worked none := by
  apply Triple.bind (works_call (o := .invokeGraph (graphInput job run)) trivial fun _ => rfl)
  intro outputs
  apply Triple.bind works_repairMissingRoutes
  exact fun used => works_validateWithRepairs _ rfl

lemma ends_assess {attempt : Nat} {r : Except Thrown Unit}
    (ends : Ends ((anyCollaborators options parse).assess run attempt) h r) :
    (h = [] ∧ r = .ok ()) ∨ ∃ answer, h = [⟨.assess run attempt, answer⟩] ∧
      r = answer.map fun _ => () := by
  unfold Collaborators.assess at ends
  split at ends
  · exact .inl (ends_pure.mp ends)
  rename_i assess configured
  rw [assessor_eq configured] at ends
  rcases ends_invoke_bind.mp ends with ⟨e, rfl, rfl⟩ | ⟨settled, h', rfl, rest⟩
  · exact .inr ⟨.error e, rfl, rfl⟩
  · obtain ⟨rfl, rfl⟩ := ends_pure.mp rest
    exact .inr ⟨.ok settled, rfl, rfl⟩

lemma ends_awaitRevoke {lease : Option Uuid} {r : Except Thrown Unit}
    (ends : Ends ((anyCollaborators options parse).awaitRevoke lease) h r) : Revoked lease h := by
  cases lease with
  | none => exact (ends_pure.mp ends).1
  | some lease =>
    obtain ⟨r', h', rfl, rest⟩ := Prog.ends_call.mp ends
    cases r' with
    | ok => exact ⟨_, by rw [(Prog.ends_ret.mp rest).1]⟩
    | error e => exact ⟨_, by rw [(Prog.ends_ret.mp rest).1]⟩

lemma ends_tryRevoke {lease : Option Uuid} {r : Except Thrown Unit}
    (ends : Ends ((anyCollaborators options parse).tryRevoke lease) h r) :
    Revoked lease h ∧ r = .ok () := by
  cases lease with
  | none => exact ends_pure.mp ends
  | some lease =>
    obtain ⟨r', h', rfl, rest⟩ := Prog.ends_call.mp ends
    obtain ⟨rfl, rfl⟩ := Prog.ends_ret.mp rest
    exact ⟨⟨r', rfl⟩, rfl⟩

lemma ends_conclude {lease : Option Uuid} {r : Except Thrown ProcessRunResult}
    (ends : Ends ((anyCollaborators options parse).conclude run lease) h r) :
    Concluded run lease h r := by
  rcases ends_invoke_bind.mp ends with ⟨e, rfl, rfl⟩ | ⟨now, h', rfl, rest⟩
  · exact .clock e
  rcases ends_invoke_bind.mp rest with ⟨e, rfl, rfl⟩ | ⟨completed, h'', rfl, rest'⟩
  · exact .uncertain now e
  cases completed with
  | true =>
    obtain ⟨rfl, rfl⟩ := ends_pure.mp rest'
    exact .completed now
  | false =>
    rcases ends_bind.mp rest' with ⟨e, rfl, failed⟩ | ⟨h₁, _, h₂, rfl, revoked, stopped⟩
    · exact .unrevoked now e (ends_awaitRevoke failed)
    · obtain ⟨rfl, rfl⟩ := ends_pure.mp stopped
      rw [List.append_nil]
      exact .stale now (ends_awaitRevoke revoked)

lemma ends_settle {attempt : RunAttempt} {lease : Option Uuid} {error : Thrown}
    {outcome : Except Thrown ProcessRunResult}
    (ends : Ends ((anyCollaborators options parse).settle run attempt lease error) h outcome) :
    ∃ h₁ h₂, h = h₁ ++ h₂ ∧ Revoked lease h₁ ∧ Settled run attempt error h₂ outcome := by
  rcases ends_bind.mp ends with ⟨e, rfl, failed⟩ | ⟨h₁, _, h₂, rfl, first, rest⟩
  · cases (ends_tryRevoke failed).2
  refine ⟨h₁, h₂, rfl, (ends_tryRevoke first).1, ?_⟩
  split at rest
  · rename_i status stopped
    obtain ⟨rfl, rfl⟩ := ends_pure.mp rest
    exact .stopped stopped
  rename_i running
  split at rest
  · rename_i retry
    obtain ⟨rfl, rfl⟩ := ends_throw.mp rest
    exact .rethrown running retry
  rename_i final
  rcases ends_invoke_bind.mp rest with ⟨e, rfl, rfl⟩ | ⟨now, h', rfl, rest'⟩
  · exact .clock e final
  rcases ends_invoke_bind.mp rest' with ⟨e, rfl, rfl⟩ | ⟨failed, h'', rfl, rest''⟩
  · exact .uncertain now e final
  · obtain ⟨rfl, rfl⟩ := ends_pure.mp rest''
    exact .failed now failed final

lemma ends_attempted {α : Type} {p : ProcessorProgram schemas Outputs α}
    {r : Except Thrown (Except Thrown α)} :
    Ends (Collaborators.attempted p) h r ↔ ∃ r', r = .ok r' ∧ Ends p h r' := by
  unfold Collaborators.attempted
  rw [ends_tryCatch]
  constructor
  · rintro (⟨r', rfl, body⟩ | ⟨h₁, e, h₂, rfl, body, caught⟩)
    · rcases ends_bind.mp body with ⟨e, none, -⟩ | ⟨h₁, a, h₂, rfl, first, rest⟩
      · cases none
      · obtain ⟨rfl, same⟩ := ends_pure.mp rest
        cases same
        rw [List.append_nil]
        exact ⟨.ok a, rfl, first⟩
    · rcases ends_bind.mp body with ⟨e', same, failed⟩ | ⟨h₁', a, h₂', rfl, first, rest⟩
      · cases same
        obtain ⟨rfl, rfl⟩ := ends_pure.mp caught
        rw [List.append_nil]
        exact ⟨.error e, rfl, failed⟩
      · cases (ends_pure.mp rest).2
  · rintro ⟨r', rfl, ends⟩
    cases r' with
    | ok a =>
      refine .inl ⟨.ok a, rfl, ends_bind.mpr (.inr ⟨h, a, [], ?_, ends, ends_pure.mpr ⟨rfl, rfl⟩⟩)⟩
      exact (List.append_nil h).symm
    | error e =>
      refine .inr ⟨h, e, [], (List.append_nil h).symm, ?_, ends_pure.mpr ⟨rfl, rfl⟩⟩
      exact ends_bind.mpr (.inl ⟨e, rfl, ends⟩)

end Parts

section Deliveries

variable {options : RunProcessorOptions} {parse : Outputs → Except Thrown (RunOutputs schemas)}
  {job : RunJob} {run : RunExecutionRecord} {attempt : RunAttempt}
  {h : List (CollaborationEvent schemas Outputs)}

variable (options parse job run attempt) in
/-- The calls of the `try` of `process`, with the lease that there is in the end, and how it ends. -/
inductive Tried : List (CollaborationEvent schemas Outputs) → Option Uuid →
    Except Thrown ProcessRunResult → Prop where
  | failed {h e} :
    Ends ((anyCollaborators options parse).executeRun job run attempt) h (.error e) →
    Tried h none (.error e)
  | finished {h₁ lease validatedAttempt h₂ r} :
    Ends ((anyCollaborators options parse).executeRun job run attempt) h₁
      (.ok (lease, validatedAttempt)) →
    Ends ((anyCollaborators options parse).finishRun run lease validatedAttempt) h₂ r →
    Tried (h₁ ++ h₂) lease r

variable (options parse run attempt) in
/-- The calls of the `catch` of `process`, if there is something to catch. -/
def Caught (lease : Option Uuid) (h : List (CollaborationEvent schemas Outputs))
    (outcome : Except Thrown ProcessRunResult) : Except Thrown ProcessRunResult → Prop
  | .ok result => h = [] ∧ outcome = .ok result
  | .error e => Ends ((anyCollaborators options parse).settle run attempt lease e) h outcome

lemma ends_processRun {outcome : Except Thrown ProcessRunResult} :
    Ends ((anyCollaborators options parse).processRun job run attempt) h outcome ↔
      ∃ h₁ lease r h₂, h = h₁ ++ h₂ ∧ Tried options parse job run attempt h₁ lease r ∧
        Caught options parse run attempt lease h₂ outcome r := by
  unfold Collaborators.processRun
  rw [ends_bind]
  constructor
  · rintro (⟨e, -, none⟩ | ⟨h₁, executed, h₂, rfl, first, rest⟩)
    · obtain ⟨r', absurd, -⟩ := ends_attempted.mp none
      cases absurd
    obtain ⟨_, same, executes⟩ := ends_attempted.mp first
    cases same
    cases executed with
    | error e => exact ⟨h₁, none, .error e, h₂, rfl, .failed executes, rest⟩
    | ok validated =>
      rcases ends_bind.mp rest with ⟨e, -, none⟩ | ⟨h₂', finished, h₃, rfl, second, last⟩
      · obtain ⟨r', absurd, -⟩ := ends_attempted.mp none
        cases absurd
      obtain ⟨_, same, finishes⟩ := ends_attempted.mp second
      cases same
      refine ⟨h₁ ++ h₂', validated.1, finished, h₃, (List.append_assoc ..).symm, ?_, ?_⟩
      · exact .finished executes finishes
      · cases finished with
        | error e => exact last
        | ok result => exact ends_pure.mp last
  · rintro ⟨_, lease, r, h₂, rfl, tried, caught⟩
    apply Or.inr
    cases tried with
    | @failed _ e executes =>
      exact ⟨_, .error e, h₂, rfl, ends_attempted.mpr ⟨_, rfl, executes⟩, caught⟩
    | @finished h₁ _ validatedAttempt h₁' _ executes finishes =>
      refine ⟨h₁, .ok (lease, validatedAttempt), h₁' ++ h₂, List.append_assoc .., ?_, ?_⟩
      · exact ends_attempted.mpr ⟨_, rfl, executes⟩
      · refine ends_bind.mpr (.inr ⟨h₁', r, h₂, rfl, ends_attempted.mpr ⟨_, rfl, finishes⟩, ?_⟩)
        cases r with
        | error e => exact caught
        | ok result => exact ends_pure.mpr caught

/-- How a run is claimed. -/
def claims (job : RunJob) (run : RunExecutionRecord) (now : Date) :
    List (CollaborationEvent schemas Outputs) :=
  [⟨.now, .ok now⟩, ⟨.claimRun job now, .ok (.ready run)⟩]

/-- The calls before a run is claimed. -/
def Collaboration.Opening : Collaboration schemas Outputs → Prop
  | .now | .claimRun .. => True
  | _ => False

/-- A delivery claims no run, or it goes through the `try` and the `catch`. -/
lemma Behaves.claimed {outcome : Except Thrown ProcessRunResult}
    (behaves : Behaves options parse job attempt h outcome) :
    ((∀ e ∈ h, e.1.Opening) ∧ outcome ≠ .ok .completed) ∨
      ∃ run now h', h = claims job run now ++ h' ∧
        Ends ((anyCollaborators options parse).processRun job run attempt) h' outcome := by
  have ends : Ends ((anyCollaborators options parse).process job attempt) h outcome := behaves
  unfold Collaborators.process at ends
  split at ends
  · obtain ⟨rfl, rfl⟩ := ends_throw.mp ends
    exact .inl ⟨fun e mem => absurd mem List.not_mem_nil, by simp⟩
  rcases ends_invoke_bind.mp ends with ⟨e, rfl, rfl⟩ | ⟨now, h', rfl, rest⟩
  · refine .inl ⟨?_, by simp⟩
    intro e' mem
    rw [List.mem_singleton.mp mem]
    trivial
  rcases ends_invoke_bind.mp rest with ⟨e, rfl, rfl⟩ | ⟨claim, h'', rfl, rest'⟩
  · refine .inl ⟨?_, by simp⟩
    intro e' mem
    rcases List.mem_pair.mp mem with rfl | rfl <;> trivial
  have opened : ∀ e ∈ ([⟨.now, .ok now⟩, ⟨.claimRun job now, .ok claim⟩] :
      List (CollaborationEvent schemas Outputs)), e.1.Opening := by
    intro e mem
    rcases List.mem_pair.mp mem with rfl | rfl <;> trivial
  cases claim with
  | missing =>
    obtain ⟨rfl, rfl⟩ := ends_pure.mp rest'
    exact .inl ⟨opened, by simp⟩
  | stale =>
    obtain ⟨rfl, rfl⟩ := ends_pure.mp rest'
    exact .inl ⟨opened, by simp⟩
  | ready run => exact .inr ⟨run, now, h'', rfl, rest'⟩

/-- A claimed run goes through the `try` and the `catch`. -/
lemma behaves_claims {now : Date} {outcome : Except Thrown ProcessRunResult} :
    Behaves options parse job attempt (claims job run now ++ h) outcome ↔
      ¬ (attempt.attempt < 1 ∨ attempt.maxAttempts < attempt.attempt) ∧
        Ends ((anyCollaborators options parse).processRun job run attempt) h outcome := by
  show Ends ((anyCollaborators options parse).process job attempt) (claims job run now ++ h) outcome ↔ _
  unfold Collaborators.process
  split
  · rename_i invalid
    constructor
    · intro ends
      cases (ends_throw.mp ends).1
    · exact fun valid => absurd invalid valid.1
  · rename_i valid
    constructor
    · intro ends
      refine ⟨valid, ?_⟩
      rcases ends_invoke_bind.mp ends with ⟨e, -, none⟩ | ⟨now', h', first, rest⟩
      · cases none
      cases first
      rcases ends_invoke_bind.mp rest with ⟨e, -, none⟩ | ⟨claim, h', second, rest'⟩
      · cases none
      cases second
      exact rest'
    · intro ends
      apply ends_invoke_bind.mpr
      refine .inr ⟨now, _, rfl, ?_⟩
      apply ends_invoke_bind.mpr
      exact .inr ⟨.ready run, h, rfl, ends.2⟩

end Deliveries

section Dependability

variable (options : RunProcessorOptions) (parse : Outputs → Except Thrown (RunOutputs schemas))
  (job : RunJob) (attempt : RunAttempt)

/-- A delivery of a claimed run up to where something fails in the `try`. -/
def Fails (h : List (CollaborationEvent schemas Outputs)) (error : Thrown) : Prop :=
  ∃ run now lease h', h = claims job run now ++ h' ∧
    Tried options parse job run attempt h' lease (.error error)

/-- The same call, of an assessor that does nothing. -/
def idly : CollaborationEvent schemas Outputs → CollaborationEvent schemas Outputs
  | ⟨.assess run attempt, _⟩ => ⟨.assess run attempt, .ok (.ok ())⟩
  | e => e

/-- A call that ends a run. -/
def CollaborationEvent.ends : CollaborationEvent schemas Outputs → Bool
  | ⟨.completeRun .., .ok completed⟩ => completed
  | ⟨.failRun .., _⟩ => true
  | _ => false

/-- A call that fails a run. -/
def CollaborationEvent.fails : CollaborationEvent schemas Outputs → Bool
  | ⟨.failRun .., _⟩ => true
  | _ => false

/-- What is promised of a delivery and its outcome. -/
structure Dependable (h : List (CollaborationEvent schemas Outputs))
    (outcome : Except Thrown ProcessRunResult) : Prop where
  /-- It returns completed exactly if `completeRun` returned true. -/
  completed : outcome = .ok .completed ↔ ∃ runId version now, ⟨.completeRun runId version now, .ok true⟩ ∈ h
  /-- A lease that it obtains is revoked exactly if it does not. -/
  revoked : ∀ {h₁ run n lease h₂}, h = h₁ ++ ⟨.validate run n, .ok (some lease)⟩ :: h₂ →
    ((∃ r, ⟨.revoke lease, r⟩ ∈ h₂) ↔ outcome ≠ .ok .completed)
  /-- A failure is thrown again if it is retryable and attempts are left, and then nothing ends the
      run. -/
  rethrown : ∀ {h₁ h₂ error}, h = h₁ ++ h₂ → Fails options parse job attempt h₁ error →
    findRunStoppedError error = none → isRetryableError error = true →
    attempt.attempt < attempt.maxAttempts → outcome = .error error ∧ ∀ e ∈ h, ¬ e.ends
  /-- The run is failed at most once. -/
  failed : (h.filter CollaborationEvent.fails).length ≤ 1
  /-- With an assessor that does nothing it is the same delivery with the same outcome. -/
  isolated : Behaves options parse job attempt (h.map idly) outcome
  /-- And what fails in it is the same. -/
  unfailing : ∀ {h₁ h₂ error}, h = h₁ ++ h₂ → Fails options parse job attempt h₁ error →
    Fails options parse job attempt (h₁.map idly) error

end Dependability

section Closing

variable {run : RunExecutionRecord} {attempt : RunAttempt} {lease : Option Uuid}
  {h : List (CollaborationEvent schemas Outputs)} {outcome : Except Thrown ProcessRunResult}

/-- Calls after a run is executed that do not end it. -/
def Pending (h : List (CollaborationEvent schemas Outputs)) : Prop :=
  ∀ e ∈ h, ¬ e.1.Work ∧ e.ends = false

variable (run) in
/-- The call of the assessor, if there is one. -/
def Assessed (h : List (CollaborationEvent schemas Outputs)) : Prop :=
  h = [] ∨ ∃ n answer, h = [⟨.assess run n, answer⟩]

variable (run attempt lease) in
/-- The calls after a run is executed: it is concluded, or something fails and is settled. -/
inductive Closed : List (CollaborationEvent schemas Outputs) → Except Thrown ProcessRunResult → Prop
    where
  | concluded {h₁ h₂ result} :
    Assessed run h₁ → Concluded run lease h₂ (.ok result) → Closed (h₁ ++ h₂) (.ok result)
  | settled {h₁ h₂ h₃ error outcome} :
    Pending h₁ → Revoked lease h₂ → Settled run attempt error h₃ outcome →
    Closed (h₁ ++ (h₂ ++ h₃)) outcome

lemma Assessed.pending (assessed : Assessed run h) : Pending h := by
  intro e mem
  rcases assessed with rfl | ⟨n, answer, rfl⟩
  · exact absurd mem List.not_mem_nil
  · rw [List.mem_singleton.mp mem]
    exact ⟨fun work => work, rfl⟩

lemma Revoked.pending (revoked : Revoked lease h) : Pending h := by
  intro e mem
  cases lease with
  | none =>
    rw [show h = [] from revoked] at mem
    exact absurd mem List.not_mem_nil
  | some lease =>
    obtain ⟨r, rfl⟩ := revoked
    rw [List.mem_singleton.mp mem]
    exact ⟨fun work => work, rfl⟩

lemma Concluded.pending {error : Thrown} (concluded : Concluded run lease h (.error error)) :
    Pending h := by
  intro e mem
  cases concluded with
  | clock =>
    rw [List.mem_singleton.mp mem]
    exact ⟨fun work => work, rfl⟩
  | uncertain now =>
    rcases List.mem_pair.mp mem with rfl | rfl <;> exact ⟨fun work => work, rfl⟩
  | unrevoked now _ revoked =>
    rcases List.mem_cons.mp mem with rfl | mem
    · exact ⟨fun work => work, rfl⟩
    rcases List.mem_cons.mp mem with rfl | mem
    · exact ⟨fun work => work, rfl⟩
    · exact revoked.pending e mem

lemma Pending.append {h₁ h₂ : List (CollaborationEvent schemas Outputs)} (first : Pending h₁)
    (second : Pending h₂) : Pending (h₁ ++ h₂) := by
  intro e mem
  rcases List.mem_append.mp mem with mem | mem
  · exact first e mem
  · exact second e mem

/-- Nothing that closes a run executes it. -/
lemma Closed.not_work (closed : Closed run attempt lease h outcome) : ∀ e ∈ h, ¬ e.1.Work := by
  intro e mem
  cases closed with
  | concluded assessed concluded =>
    rcases List.mem_append.mp mem with mem | mem
    · exact (assessed.pending e mem).1
    cases concluded with
    | completed now =>
      rcases List.mem_pair.mp mem with rfl | rfl <;> exact fun work => work
    | stale now revoked =>
      rcases List.mem_cons.mp mem with rfl | mem
      · exact fun work => work
      rcases List.mem_cons.mp mem with rfl | mem
      · exact fun work => work
      · exact (revoked.pending e mem).1
  | settled pending revoked settled =>
    rcases List.mem_append.mp mem with mem | mem
    · exact (pending e mem).1
    rcases List.mem_append.mp mem with mem | mem
    · exact (revoked.pending e mem).1
    cases settled with
    | stopped => exact absurd mem List.not_mem_nil
    | rethrown => exact absurd mem List.not_mem_nil
    | clock =>
      rw [List.mem_singleton.mp mem]
      exact fun work => work
    | uncertain => rcases List.mem_pair.mp mem with rfl | rfl <;> exact fun work => work
    | failed => rcases List.mem_pair.mp mem with rfl | rfl <;> exact fun work => work

lemma Pending.not_completed (pending : Pending h) {runId : Uuid} {version : Nat} {now : Date} :
    ⟨.completeRun runId version now, .ok true⟩ ∉ h := by
  intro mem
  cases (pending _ mem).2

lemma not_failed (unended : ∀ e ∈ h, e.ends = false) : h.filter CollaborationEvent.fails = [] := by
  apply List.filter_eq_nil_iff.mpr
  intro e mem fails
  have going := unended e mem
  obtain ⟨o, r⟩ := e
  cases o with
  | failRun => cases going
  | _ => cases fails

lemma Pending.not_failed (pending : Pending h) : h.filter CollaborationEvent.fails = [] :=
  Run.not_failed fun e mem => (pending e mem).2

/-- A run that is settled is not completed. -/
lemma Settled.not_completed {error : Thrown} (settled : Settled run attempt error h outcome) :
    outcome ≠ .ok .completed ∧
      ∀ {runId version now}, ⟨.completeRun runId version now, .ok true⟩ ∉ h := by
  cases settled with
  | failed now failed => cases failed <;> simp
  | _ => simp

lemma Settled.failed_once {error : Thrown} (settled : Settled run attempt error h outcome) :
    (h.filter CollaborationEvent.fails).length ≤ 1 := by
  cases settled with
  | stopped => exact Nat.zero_le 1
  | rethrown => exact Nat.zero_le 1
  | clock => exact Nat.zero_le 1
  | uncertain => exact Nat.le_refl 1
  | failed => exact Nat.le_refl 1

lemma Closed.completed (closed : Closed run attempt lease h outcome) :
    outcome = .ok .completed ↔ ∃ runId version now, ⟨.completeRun runId version now, .ok true⟩ ∈ h := by
  cases closed with
  | concluded assessed concluded =>
    cases concluded with
    | completed now =>
      refine iff_of_true rfl ⟨run.id, run.controlVersion, now, ?_⟩
      exact List.mem_append_right _ (List.mem_pair.mpr (.inr rfl))
    | stale now revoked =>
      apply iff_of_false
      · simp
      rintro ⟨runId, version, now, mem⟩
      rcases List.mem_append.mp mem with mem | mem
      · exact assessed.pending.not_completed mem
      rcases List.mem_cons.mp mem with none | mem
      · cases none
      rcases List.mem_cons.mp mem with none | mem
      · cases none
      · exact revoked.pending.not_completed mem
  | settled pending revoked settled =>
    apply iff_of_false settled.not_completed.1
    rintro ⟨runId, version, now, mem⟩
    rcases List.mem_append.mp mem with mem | mem
    · exact pending.not_completed mem
    rcases List.mem_append.mp mem with mem | mem
    · exact revoked.pending.not_completed mem
    · exact settled.not_completed.2 mem

lemma Closed.failed_once (closed : Closed run attempt lease h outcome) :
    (h.filter CollaborationEvent.fails).length ≤ 1 := by
  cases closed with
  | concluded assessed concluded =>
    rw [List.filter_append, assessed.pending.not_failed]
    cases concluded with
    | completed => exact Nat.zero_le 1
    | @stale now h₂ revoked =>
      show (h₂.filter CollaborationEvent.fails).length ≤ 1
      rw [revoked.pending.not_failed]
      exact Nat.zero_le 1
  | settled pending revoked settled =>
    rw [List.filter_append, List.filter_append, pending.not_failed, revoked.pending.not_failed]
    exact settled.failed_once

lemma Assessed.not_revoked (assessed : Assessed run h) {lease : Uuid} {r : Except Thrown Unit} :
    ⟨.revoke lease, r⟩ ∉ h := by
  intro mem
  rcases assessed with rfl | ⟨n, answer, rfl⟩
  · exact absurd mem List.not_mem_nil
  · cases List.mem_singleton.mp mem

/-- A lease is revoked exactly if the run is not completed. -/
lemma Closed.revoked {lease : Uuid} (closed : Closed run attempt (some lease) h outcome) :
    (∃ r, ⟨.revoke lease, r⟩ ∈ h) ↔ outcome ≠ .ok .completed := by
  cases closed with
  | concluded assessed concluded =>
    cases concluded with
    | completed now =>
      apply iff_of_false
      · rintro ⟨r, mem⟩
        rcases List.mem_append.mp mem with mem | mem
        · exact assessed.not_revoked mem
        · rcases List.mem_pair.mp mem with none | none <;> cases none
      · exact fun stopped => stopped rfl
    | stale now revoked =>
      obtain ⟨r, rfl⟩ := revoked
      refine iff_of_true ⟨r, ?_⟩ (by simp)
      exact List.mem_append_right _ (.tail _ (.tail _ (.head _)))
  | settled pending revoked settled =>
    obtain ⟨r, rfl⟩ := revoked
    refine iff_of_true ⟨r, ?_⟩ settled.not_completed.1
    exact List.mem_append_right _ (.head _)

end Closing

section Tries

variable {options : RunProcessorOptions} {parse : Outputs → Except Thrown (RunOutputs schemas)}
  {job : RunJob} {run : RunExecutionRecord} {attempt : RunAttempt} {lease : Option Uuid}
  {h : List (CollaborationEvent schemas Outputs)} {outcome : Except Thrown ProcessRunResult}

/-- What finishes a run is an assessment and a conclusion, unless the assessor throws. -/
lemma ends_finishRun {n : Nat} {r : Except Thrown ProcessRunResult} :
    Ends ((anyCollaborators options parse).finishRun run lease n) h r ↔
      (∃ e, r = .error e ∧ Ends ((anyCollaborators options parse).assess run n) h (.error e)) ∨
      ∃ h₁ u h₂, h = h₁ ++ h₂ ∧ Ends ((anyCollaborators options parse).assess run n) h₁ (.ok u) ∧
        Ends ((anyCollaborators options parse).conclude run lease) h₂ r :=
  ends_bind

lemma assessed_of_ends {n : Nat} {r : Except Thrown Unit}
    (ends : Ends ((anyCollaborators options parse).assess run n) h r) : Assessed run h := by
  rcases ends_assess ends with ⟨rfl, -⟩ | ⟨answer, rfl, -⟩
  · exact .inl rfl
  · exact .inr ⟨n, answer, rfl⟩

lemma executes {n : Nat} (ends : Ends ((anyCollaborators options parse).executeRun job run attempt) h
    (.ok (lease, n))) : Worked lease h :=
  ends.accounted works_executeRun ⟨fun _ mem => absurd mem List.not_mem_nil, rfl⟩

lemma executes_nothing {error : Thrown}
    (ends : Ends ((anyCollaborators options parse).executeRun job run attempt) h (.error error)) :
    Worked none h :=
  ends.accounted works_executeRun ⟨fun _ mem => absurd mem List.not_mem_nil, rfl⟩

/-- A claimed run is executed and then closed. -/
lemma closes (ends : Ends ((anyCollaborators options parse).processRun job run attempt) h outcome) :
    ∃ h₁ h₂ lease, h = h₁ ++ h₂ ∧ Worked lease h₁ ∧ Closed run attempt lease h₂ outcome := by
  obtain ⟨_, lease, r, h₂, rfl, tried, caught⟩ := ends_processRun.mp ends
  cases tried with
  | failed fails =>
    obtain ⟨h₃, h₄, rfl, revoked, settled⟩ := ends_settle caught
    refine ⟨_, _, none, rfl, executes_nothing fails, ?_⟩
    have pending : Pending ([] : List (CollaborationEvent schemas Outputs)) :=
      fun _ mem => absurd mem List.not_mem_nil
    have closed := Closed.settled pending revoked settled
    exact closed
  | @finished h₁ _ n h₁' _ passes finishes =>
    refine ⟨h₁, h₁' ++ h₂, lease, List.append_assoc .., executes passes, ?_⟩
    cases r with
    | ok result =>
      obtain ⟨rfl, rfl⟩ := caught
      rcases ends_finishRun.mp finishes with ⟨e, none, -⟩ | ⟨h₃, u, h₄, rfl, assessed, concludes⟩
      · cases none
      · rw [List.append_nil]
        exact .concluded (assessed_of_ends assessed) (ends_conclude concludes)
    | error error =>
      obtain ⟨h₅, h₆, rfl, revoked, settled⟩ := ends_settle caught
      refine .settled ?_ revoked settled
      rcases ends_finishRun.mp finishes with ⟨e, -, throws⟩ | ⟨h₃, u, h₄, rfl, assessed, concludes⟩
      · exact (assessed_of_ends throws).pending
      · exact (assessed_of_ends assessed).pending.append (ends_conclude concludes).pending

/-- The calls of a claimed run say where its `try` ends and how. -/
lemma Tried.unique {h₁ h₂ h₁' h₂' : List (CollaborationEvent schemas Outputs)}
    {lease' : Option Uuid} {r r' : Except Thrown ProcessRunResult}
    (tried : Tried options parse job run attempt h₁ lease r)
    (tried' : Tried options parse job run attempt h₁' lease' r') (same : h₁ ++ h₂ = h₁' ++ h₂') :
    h₁ = h₁' ∧ h₂ = h₂' ∧ lease = lease' ∧ r = r' := by
  cases tried with
  | failed fails =>
    cases tried' with
    | failed fails' =>
      obtain ⟨rfl, rfl, error⟩ := Prog.Ends.unique fails fails' same
      cases error
      exact ⟨rfl, rfl, rfl, rfl⟩
    | finished passes' =>
      rw [List.append_assoc] at same
      cases (Prog.Ends.unique fails passes' same).2.2
  | finished passes finishes =>
    rw [List.append_assoc] at same
    cases tried' with
    | failed fails' => cases (Prog.Ends.unique passes fails' same).2.2
    | finished passes' finishes' =>
      rw [List.append_assoc] at same
      obtain ⟨rfl, later, validated⟩ := Prog.Ends.unique passes passes' same
      cases validated
      obtain ⟨rfl, rfl, rfl⟩ := Prog.Ends.unique finishes finishes' later
      exact ⟨rfl, rfl, rfl, rfl⟩

end Tries

section Isolation

variable {options : RunProcessorOptions} {parse : Outputs → Except Thrown (RunOutputs schemas)}
  {job : RunJob} {run : RunExecutionRecord} {attempt : RunAttempt} {lease : Option Uuid}
  {h : List (CollaborationEvent schemas Outputs)}

/-- No call in a list is one of the assessor. -/
def Unassessed (h : List (CollaborationEvent schemas Outputs)) : Prop :=
  ∀ e ∈ h, ∀ run n, e.1 ≠ .assess run n

/-- No call in a list is one of an assessor that throws. -/
def Unthrown (h : List (CollaborationEvent schemas Outputs)) : Prop :=
  ∀ run n e, ⟨.assess run n, .error e⟩ ∉ h

lemma Unassessed.map_idly (unassessed : Unassessed h) : h.map idly = h := by
  have same : h.map idly = h.map id := by
    apply List.map_congr_left
    intro e mem
    have other := unassessed e mem
    obtain ⟨o, r⟩ := e
    cases o with
    | assess run n => exact absurd rfl (other run n)
    | _ => rfl
  rw [same, List.map_id]

lemma Unassessed.unthrown (unassessed : Unassessed h) : Unthrown h :=
  fun run n _ mem => unassessed _ mem run n rfl

lemma Worked.unassessed (worked : Worked lease h) : Unassessed h := by
  intro e mem run n same
  have work := worked.1 e mem
  rw [same] at work
  exact work

lemma Revoked.unassessed (revoked : Revoked lease h) : Unassessed h := by
  intro e mem run n same
  cases lease with
  | none =>
    rw [show h = [] from revoked] at mem
    exact absurd mem List.not_mem_nil
  | some lease =>
    obtain ⟨r, rfl⟩ := revoked
    rw [List.mem_singleton.mp mem] at same
    cases same

lemma Concluded.unassessed {r : Except Thrown ProcessRunResult} (concluded : Concluded run lease h r) :
    Unassessed h := by
  have called {now : Date} {version : Nat} {r} {h' : List (CollaborationEvent schemas Outputs)}
      (rest : Unassessed h') :
      Unassessed (⟨.now, .ok now⟩ :: ⟨.completeRun run.id version now, r⟩ :: h') := by
    intro e mem
    rcases List.mem_cons.mp mem with rfl | mem
    · exact fun _ _ same => by cases same
    rcases List.mem_cons.mp mem with rfl | mem
    · exact fun _ _ same => by cases same
    · exact rest e mem
  have nothing : Unassessed ([] : List (CollaborationEvent schemas Outputs)) :=
    fun _ mem => absurd mem List.not_mem_nil
  cases concluded with
  | clock =>
    intro e mem run n same
    rw [List.mem_singleton.mp mem] at same
    cases same
  | uncertain => exact called nothing
  | completed => exact called nothing
  | stale now revoked => exact called revoked.unassessed
  | unrevoked now _ revoked => exact called revoked.unassessed

lemma Settled.unassessed {error : Thrown} {outcome : Except Thrown ProcessRunResult}
    (settled : Settled run attempt error h outcome) : Unassessed h := by
  intro e mem run n same
  cases settled with
  | stopped => exact absurd mem List.not_mem_nil
  | rethrown => exact absurd mem List.not_mem_nil
  | clock =>
    rw [List.mem_singleton.mp mem] at same
    cases same
  | uncertain => rcases List.mem_pair.mp mem with rfl | rfl <;> cases same
  | failed => rcases List.mem_pair.mp mem with rfl | rfl <;> cases same

lemma Unassessed.append {h₁ h₂ : List (CollaborationEvent schemas Outputs)} (first : Unassessed h₁)
    (second : Unassessed h₂) : Unassessed (h₁ ++ h₂) := by
  intro e mem
  rcases List.mem_append.mp mem with mem | mem
  · exact first e mem
  · exact second e mem

lemma settle_unassessed {error : Thrown} {outcome : Except Thrown ProcessRunResult}
    (ends : Ends ((anyCollaborators options parse).settle run attempt lease error) h outcome) :
    Unassessed h := by
  obtain ⟨h₁, h₂, rfl, revoked, settled⟩ := ends_settle ends
  exact revoked.unassessed.append settled.unassessed

/-- An assessor that returns a promise might as well do nothing. -/
lemma assess_idly {n : Nat} {u : Unit}
    (ends : Ends ((anyCollaborators options parse).assess run n) h (.ok u)) :
    Ends ((anyCollaborators options parse).assess run n) (h.map idly) (.ok u) := by
  unfold Collaborators.assess at ends ⊢
  split at ends
  · obtain ⟨rfl, -⟩ := ends_pure.mp ends
    exact ends_pure.mpr ⟨rfl, rfl⟩
  rename_i assess configured
  rw [assessor_eq configured] at ends ⊢
  rcases ends_invoke_bind.mp ends with ⟨e, none, -⟩ | ⟨settled, h', rfl, rest⟩
  · cases none
  · obtain ⟨rfl, -⟩ := ends_pure.mp rest
    exact ends_invoke_bind.mpr (.inr ⟨.ok (), [], rfl, ends_pure.mpr ⟨rfl, rfl⟩⟩)

/-- The `try` with an assessor that does nothing, if the assessor does not throw. -/
lemma Tried.idly {r : Except Thrown ProcessRunResult}
    (tried : Tried options parse job run attempt h lease r) (unthrown : Unthrown h) :
    Tried options parse job run attempt (h.map Run.idly) lease r := by
  cases tried with
  | failed fails =>
    rw [(executes_nothing fails).unassessed.map_idly]
    exact .failed fails
  | @finished h₁ _ n h₂ _ passes finishes =>
    rw [List.map_append, (executes passes).unassessed.map_idly]
    refine .finished passes ?_
    rcases ends_finishRun.mp finishes with ⟨e, rfl, throws⟩ | ⟨h₃, u, h₄, rfl, assessed, concludes⟩
    · rcases ends_assess throws with ⟨-, none⟩ | ⟨answer, rfl, failed⟩
      · cases none
      cases answer with
      | ok => cases failed
      | error e' => exact absurd (List.mem_append_right _ (.head _)) (unthrown run n e')
    · rw [List.map_append, (ends_conclude concludes).unassessed.map_idly]
      exact ends_finishRun.mpr (.inr ⟨_, u, _, rfl, assess_idly assessed, concludes⟩)

/-- A conclusion is more than an assessment. -/
lemma Assessed.not_concluded {r : Except Thrown ProcessRunResult} (assessed : Assessed run h) :
    ¬ Ends ((anyCollaborators options parse).conclude run lease) h r := by
  intro concludes
  have concluded := ends_conclude concludes
  rcases assessed with rfl | ⟨n, answer, rfl⟩
  · cases concluded
  · exact concluded.unassessed _ (.head _) run n rfl

/-- An assessor that throws makes the `try` fail where one that does nothing would not. -/
lemma Tried.thrown {r : Except Thrown ProcessRunResult}
    (tried : Tried options parse job run attempt h lease r) (thrown : ¬ Unthrown h) :
    ∃ error, r = .error error ∧
      ∀ lease' r', ¬ Tried options parse job run attempt (h.map Run.idly) lease' r' := by
  cases tried with
  | failed fails => exact absurd (executes_nothing fails).unassessed.unthrown thrown
  | @finished h₁ _ n h₂ _ passes finishes =>
    rcases ends_finishRun.mp finishes with ⟨e, rfl, throws⟩ | ⟨h₃, u, h₄, rfl, assessed, concludes⟩
    · refine ⟨e, rfl, ?_⟩
      rcases ends_assess throws with ⟨-, none⟩ | ⟨answer, rfl, failed⟩
      · cases none
      intro lease' r' tried'
      rw [List.map_append, (executes passes).unassessed.map_idly] at tried'
      generalize whole : h₁ ++ [⟨.assess run n, answer⟩].map Run.idly = h' at tried'
      cases tried' with
      | failed fails' =>
        rw [← List.append_nil h'] at whole
        cases (Prog.Ends.unique passes fails' whole).2.2
      | finished passes' finishes' =>
        obtain ⟨rfl, later, validated⟩ := Prog.Ends.unique passes passes' whole
        cases validated
        rw [← later] at finishes'
        rcases ends_finishRun.mp finishes' with
          ⟨e', -, throws'⟩ | ⟨h₃, u, h₄, single, assessed, concludes⟩
        · rcases ends_assess throws' with ⟨none, -⟩ | ⟨answer', same, failed'⟩
          · cases none
          · cases same
            cases failed'
        · rcases List.append_eq_singleton_iff.mp single.symm with ⟨rfl, rest⟩ | ⟨-, rest⟩
          · exact Assessed.not_concluded (.inr ⟨n, _, rest⟩) concludes
          · exact Assessed.not_concluded (.inl rest) concludes
    · exfalso
      apply thrown
      intro run' n' e mem
      rcases List.mem_append.mp mem with mem | mem
      · exact (executes passes).unassessed.unthrown run' n' e mem
      rcases List.mem_append.mp mem with mem | mem
      · rcases ends_assess assessed with ⟨rfl, -⟩ | ⟨answer, rfl, settled⟩
        · exact absurd mem List.not_mem_nil
        · cases List.mem_singleton.mp mem
          cases settled
      · exact (ends_conclude concludes).unassessed.unthrown run' n' e mem

end Isolation

section Promise

variable {options : RunProcessorOptions} {parse : Outputs → Except Thrown (RunOutputs schemas)}
  {job : RunJob} {run : RunExecutionRecord} {attempt : RunAttempt}
  {h : List (CollaborationEvent schemas Outputs)} {outcome : Except Thrown ProcessRunResult}

/-- Where a list is split at an element that is not in its second part. -/
lemma split_before {α : Type} {xs ys before after : List α} {x : α}
    (split : xs ++ ys = before ++ x :: after) (absent : x ∉ ys) :
    ∃ between, xs = before ++ x :: between ∧ after = between ++ ys := by
  rcases List.append_eq_append_iff.mp split with ⟨as, -, rest⟩ | ⟨bs, rfl, rest⟩
  · rw [rest] at absent
    exact absurd (List.mem_append_right _ (.head _)) absent
  · cases bs with
    | nil =>
      rw [List.nil_append] at rest
      rw [← rest] at absent
      exact absurd (.head _) absent
    | cons b bs =>
      obtain ⟨rfl, rfl⟩ := List.cons_eq_cons.mp rest
      exact ⟨bs, rfl, rfl⟩

lemma Worked.lease_eq {lease : Option Uuid} {n : Nat} {lease' : Uuid} (worked : Worked lease h)
    (mem : ⟨.validate run n, .ok (some lease')⟩ ∈ h) : lease = some lease' := by
  have got : lease' ∈ h.filterMap obtained := List.mem_filterMap.mpr ⟨_, mem, rfl⟩
  rw [worked.2] at got
  exact Option.mem_toList.mp got

/-- A delivery with a failure was about a claimed run, and settled it. -/
lemma Fails.settles {h₁ h₂ : List (CollaborationEvent schemas Outputs)} {error : Thrown}
    (behaves : Behaves options parse job attempt h outcome) (split : h = h₁ ++ h₂)
    (fails : Fails options parse job attempt h₁ error) :
    ∃ run now lease h', h₁ = claims job run now ++ h' ∧
      Tried options parse job run attempt h' lease (.error error) ∧
      Ends ((anyCollaborators options parse).settle run attempt lease error) h₂ outcome := by
  obtain ⟨run, now, lease, h', rfl, tried⟩ := fails
  rw [split, List.append_assoc] at behaves
  obtain ⟨-, ends⟩ := behaves_claims.mp behaves
  obtain ⟨h₃, lease', r, h₄, same, tried', caught⟩ := ends_processRun.mp ends
  obtain ⟨rfl, rfl, rfl, rfl⟩ := tried.unique tried' same
  exact ⟨run, now, lease, h', rfl, tried, caught⟩

lemma opening_of_claims {e : CollaborationEvent schemas Outputs} {now : Date}
    (mem : e ∈ claims job run now) : e.1.Opening := by
  rcases List.mem_pair.mp mem with rfl | rfl <;> trivial

lemma not_ends_of_opening {e : CollaborationEvent schemas Outputs} (opening : e.1.Opening) :
    e.ends = false := by
  obtain ⟨o, r⟩ := e
  cases o with
  | completeRun => exact opening.elim
  | failRun => exact opening.elim
  | _ => rfl

lemma not_ends_of_work {e : CollaborationEvent schemas Outputs} (work : e.1.Work) :
    e.ends = false := by
  obtain ⟨o, r⟩ := e
  cases o with
  | completeRun => exact work.elim
  | failRun => exact work.elim
  | _ => rfl

/-- Nothing ends a run before something fails in the `try`. -/
lemma Tried.not_ended {lease : Option Uuid} {error : Thrown}
    (tried : Tried options parse job run attempt h lease (.error error)) :
    ∀ e ∈ h, e.ends = false := by
  intro e mem
  cases tried with
  | failed fails => exact not_ends_of_work ((executes_nothing fails).1 e mem)
  | finished passes finishes =>
    rcases List.mem_append.mp mem with mem | mem
    · exact not_ends_of_work ((executes passes).1 e mem)
    rcases ends_finishRun.mp finishes with ⟨e', -, throws⟩ | ⟨h₃, u, h₄, rfl, assessed, concludes⟩
    · exact ((assessed_of_ends throws).pending e mem).2
    rcases List.mem_append.mp mem with mem | mem
    · exact ((assessed_of_ends assessed).pending e mem).2
    · exact ((ends_conclude concludes).pending e mem).2

/-- It returns completed exactly if `completeRun` returned true. -/
lemma Behaves.completed (behaves : Behaves options parse job attempt h outcome) :
    outcome = .ok .completed ↔ ∃ runId version now, ⟨.completeRun runId version now, .ok true⟩ ∈ h := by
  rcases behaves.claimed with ⟨opening, result⟩ | ⟨run, now, h', rfl, ends⟩
  · apply iff_of_false result
    rintro ⟨runId, version, now, mem⟩
    exact opening _ mem
  obtain ⟨h₁, h₂, lease, rfl, worked, closed⟩ := closes ends
  apply closed.completed.trans
  constructor
  · rintro ⟨runId, version, now', mem⟩
    exact ⟨runId, version, now', List.mem_append_right _ (List.mem_append_right _ mem)⟩
  · rintro ⟨runId, version, now', mem⟩
    rcases List.mem_append.mp mem with mem | mem
    · exact (opening_of_claims mem).elim
    rcases List.mem_append.mp mem with mem | mem
    · exact (worked.1 _ mem).elim
    · exact ⟨runId, version, now', mem⟩

/-- A lease that it obtains is revoked afterwards exactly if the run is not completed. -/
lemma Behaves.revoked (behaves : Behaves options parse job attempt h outcome) {lease : Uuid} {n : Nat}
    {h₁ h₂ : List (CollaborationEvent schemas Outputs)}
    (split : h = h₁ ++ ⟨.validate run n, .ok (some lease)⟩ :: h₂) :
    (∃ r, ⟨.revoke lease, r⟩ ∈ h₂) ↔ outcome ≠ .ok .completed := by
  have mem : (⟨.validate run n, .ok (some lease)⟩ : CollaborationEvent schemas Outputs) ∈ h := by
    rw [split]
    exact List.mem_append_right _ (.head _)
  rcases behaves.claimed with ⟨opening, -⟩ | ⟨run', now, h', rfl, ends⟩
  · exact (opening _ mem).elim
  obtain ⟨h₃, h₄, lease', rfl, worked, closed⟩ := closes ends
  rw [← List.append_assoc] at split
  obtain ⟨between, earlier, rfl⟩ := split_before split fun mem => closed.not_work _ mem trivial
  -- what is called before the run is closed is no revocation
  have executed {e : CollaborationEvent schemas Outputs}
      (mem : e ∈ claims job run' now ++ h₃) (other : ¬ e.1.Opening) : e ∈ h₃ := by
    rcases List.mem_append.mp mem with mem | mem
    · exact absurd (opening_of_claims mem) other
    · exact mem
  have validated : (⟨.validate run n, .ok (some lease)⟩ : CollaborationEvent schemas Outputs) ∈ h₃ := by
    refine executed ?_ id
    rw [earlier]
    exact List.mem_append_right _ (.head _)
  cases worked.lease_eq validated
  refine Iff.trans ?_ closed.revoked
  constructor
  · rintro ⟨r, mem⟩
    rcases List.mem_append.mp mem with mem | mem
    · have early : (⟨.revoke lease, r⟩ : CollaborationEvent schemas Outputs) ∈ h₃ := by
        refine executed ?_ id
        rw [earlier]
        exact List.mem_append_right _ (.tail _ mem)
      exact (worked.1 _ early).elim
    · exact ⟨r, mem⟩
  · rintro ⟨r, mem⟩
    exact ⟨r, List.mem_append_right _ mem⟩

/-- A failure that is retryable is thrown again while attempts are left, and nothing ends the run. -/
lemma Behaves.rethrown (behaves : Behaves options parse job attempt h outcome) {error : Thrown}
    {h₁ h₂ : List (CollaborationEvent schemas Outputs)} (split : h = h₁ ++ h₂)
    (fails : Fails options parse job attempt h₁ error) (running : findRunStoppedError error = none)
    (retryable : isRetryableError error = true) (left : attempt.attempt < attempt.maxAttempts) :
    outcome = .error error ∧ ∀ e ∈ h, ¬ e.ends := by
  obtain ⟨run, now, lease, h', rfl, tried, settles⟩ := fails.settles behaves split
  obtain ⟨h₃, h₄, rfl, revoked, settled⟩ := ends_settle settles
  cases settled with
  | stopped stopped =>
    rw [running] at stopped
    cases stopped
  | clock e final => exact absurd ⟨retryable, left⟩ final
  | uncertain now e final => exact absurd ⟨retryable, left⟩ final
  | failed now failed final => exact absurd ⟨retryable, left⟩ final
  | rethrown =>
    refine ⟨rfl, fun e mem => ?_⟩
    have unended : e.ends = false := by
      rw [split, List.append_nil] at mem
      rcases List.mem_append.mp mem with mem | mem
      · rcases List.mem_append.mp mem with mem | mem
        · exact not_ends_of_opening (opening_of_claims mem)
        · exact tried.not_ended e mem
      · exact (revoked.pending e mem).2
    rw [unended]
    exact Bool.false_ne_true

/-- The run is failed at most once. -/
lemma Behaves.failed_once (behaves : Behaves options parse job attempt h outcome) :
    (h.filter CollaborationEvent.fails).length ≤ 1 := by
  rcases behaves.claimed with ⟨opening, -⟩ | ⟨run, now, h', rfl, ends⟩
  · rw [not_failed fun e mem => not_ends_of_opening (opening e mem)]
    exact Nat.zero_le 1
  · obtain ⟨h₁, h₂, lease, rfl, worked, closed⟩ := closes ends
    have claimed := not_failed fun e mem => not_ends_of_opening (@opening_of_claims _ schemas Outputs
      job run e now mem)
    have executed := not_failed fun e mem => not_ends_of_work (worked.1 e mem)
    rw [List.filter_append, List.filter_append, claimed, executed]
    exact closed.failed_once

/-- With an assessor that does nothing it is the same delivery, unless the assessor throws. -/
lemma Behaves.isolated (behaves : Behaves options parse job attempt h outcome) (unthrown : Unthrown h) :
    Behaves options parse job attempt (h.map idly) outcome := by
  rcases behaves.claimed with ⟨opening, -⟩ | ⟨run, now, h', rfl, ends⟩
  · have unassessed : Unassessed h := by
      intro e mem run n same
      have start := opening e mem
      rw [same] at start
      exact start
    rw [unassessed.map_idly]
    exact behaves
  obtain ⟨h₁, lease, r, h₂, rfl, tried, caught⟩ := ends_processRun.mp ends
  have settled : h₂.map idly = h₂ := by
    cases r with
    | error error => exact (settle_unassessed caught).map_idly
    | ok result =>
      rw [caught.1]
      rfl
  have idle : Tried options parse job run attempt (h₁.map idly) lease r :=
    tried.idly fun run n e mem =>
      unthrown run n e (List.mem_append_right _ (List.mem_append_left _ mem))
  rw [List.map_append, List.map_append, settled]
  apply behaves_claims.mpr
  exact ⟨(behaves_claims.mp behaves).1, ends_processRun.mpr ⟨_, lease, r, h₂, rfl, idle, caught⟩⟩

/-- An assessor that throws makes something fail that would not with one that does nothing. -/
lemma Dependable.unthrown (behaves : Behaves options parse job attempt h outcome)
    (dependable : Dependable options parse job attempt h outcome) : Unthrown h := by
  rcases behaves.claimed with ⟨opening, -⟩ | ⟨run, now, h', rfl, ends⟩
  · exact fun _ _ _ mem => opening _ mem
  obtain ⟨h₁, lease, r, h₂, rfl, tried, caught⟩ := ends_processRun.mp ends
  have tried_unthrown : Unthrown h₁ := by
    apply Classical.byContradiction
    intro thrown
    obtain ⟨error, rfl, never⟩ := tried.thrown thrown
    have fails : Fails options parse job attempt (claims job run now ++ h₁) error :=
      ⟨run, now, lease, h₁, rfl, tried⟩
    obtain ⟨run', now', lease', h'', same, tried'⟩ :=
      dependable.unfailing (List.append_assoc ..).symm fails
    rw [List.map_append] at same
    cases same
    exact never lease' _ tried'
  intro run' n e mem
  rcases List.mem_append.mp mem with mem | mem
  · exact opening_of_claims mem
  rcases List.mem_append.mp mem with mem | mem
  · exact tried_unthrown run' n e mem
  cases r with
  | error error => exact (settle_unassessed caught).unthrown run' n e mem
  | ok result =>
    rw [caught.1] at mem
    exact absurd mem List.not_mem_nil

/-- Whatever its collaborators do, a delivery returns completed exactly if `completeRun` returned true,
    revokes the lease it has otherwise and only then, throws a retryable failure again while attempts
    are left, and fails the run at most once; and with an assessor that does nothing none of this
    changes. All of it holds exactly if the assessor did not throw before it returned a promise. -/
theorem outcome_and_cleanup (behaves : Behaves options parse job attempt h outcome) :
    Dependable options parse job attempt h outcome ↔ ∀ run n e, ⟨.assess run n, .error e⟩ ∉ h := by
  constructor
  · exact fun dependable => dependable.unthrown behaves
  · intro unthrown
    refine
      { completed := behaves.completed
        revoked := behaves.revoked
        rethrown := behaves.rethrown
        failed := behaves.failed_once
        isolated := behaves.isolated unthrown
        unfailing := ?_ }
    intro h₁ h₂ error split fails
    obtain ⟨run, now, lease, h', rfl, tried⟩ := fails
    refine ⟨run, now, lease, h'.map idly, List.map_append, tried.idly ?_⟩
    intro run n e mem
    rw [split] at unthrown
    exact unthrown run n e (List.mem_append_left _ (List.mem_append_right _ mem))

/-- An assessor that throws before it returns a promise. -/
def throwsUnassessed : CollaborationEvent plannedSchemas Unit → Bool
  | ⟨.assess .., .error _⟩ => true
  | _ => false

theorem outcome_and_cleanup_played :
    Dependable (fullOptions 1) plannedOutputs claimedJob ⟨1, 3⟩ (playedDelivery (fullOptions 1) answers).1
      (playedDelivery (fullOptions 1) answers).2 := by
  apply (outcome_and_cleanup behaves_played).mpr
  have settled : ((playedDelivery (fullOptions 1) answers).1.all fun e => !throwsUnassessed e) = true := by
    decide +kernel
  intro run n e mem
  cases List.all_eq_true.mp settled _ mem

/-- The same collaborators, but the assessor throws before it returns a promise. -/
def throwingAnswers (o : Collaboration plannedSchemas Unit) (n : Nat) : Except Thrown o.Result × Nat :=
  match o with
  | .assess .. => (.error [{ message := "no evidence", retryable := some false }], n)
  | o => answers o n

/-- The run is validated, and fails because its assessor throws. -/
theorem thrown_assessment_fails_run :
    (playedDelivery (fullOptions 2) throwingAnswers).2 = .ok .failed ∧
      ¬ ∀ (h : List (CollaborationEvent plannedSchemas Unit)) (outcome : Except Thrown ProcessRunResult),
        Behaves (fullOptions 2) plannedOutputs claimedJob ⟨1, 3⟩ h outcome →
          Dependable (fullOptions 2) plannedOutputs claimedJob ⟨1, 3⟩ h outcome := by
  constructor
  · decide +kernel
  · intro claim
    have behaves := @behaves_played (fullOptions 2) throwingAnswers
    have unthrown := (claim _ _ behaves).unthrown behaves
    have thrown : (playedDelivery (fullOptions 2) throwingAnswers).1.any throwsUnassessed = true := by
      decide +kernel
    obtain ⟨⟨o, r⟩, mem, throws⟩ := List.any_eq_true.mp thrown
    cases o with
    | assess run n =>
      cases r with
      | ok => cases throws
      | error e => exact unthrown run n e mem
    | _ => cases throws

end Promise

end AtomsPlatform.Run
