import AtomsPlatform.Lib.Mutable
import AtomsPlatform.Run.Collaborators
import Mathlib.Data.Fintype.Basic

/-!
# Leases of an execution

What the processor does with the lease of a validation, whatever its collaborators are: it is revoked
only while it is held, the run is completed only under it, and there is no call after the completion.
`Respects` says what the collaborators keep of this, and `process` then keeps it too, whose end leaves no
lease that is held.
-/

namespace AtomsPlatform.Run
open Interleaving Mutable
variable {Output : Type} {schemas : AgentOutputSchemas Output} {Outputs Op X ν : Type} {Res : Op → Type}

/-- The collaborators keep apart an execution without a lease, with one, and with one that is spent; in
    the first case and in the last it can fail. Then, or with the run completed, it is finished. -/
structure Collaborators.Respects
    (collaborators : Collaborators schemas Outputs (Mutable Op Res Thrown ν))
    (J : Judgement Op (fun o => Except Thrown (Res o)) X) (dormant failing finished : ν → X → Prop)
    (leased : RunExecutionRecord → Uuid → ν → X → Prop) (spent : Uuid → ν → X → Prop) : Prop where
  now : Keeps J dormant collaborators.now
  nowLeased : ∀ run lease, Keeps J (leased run lease) collaborators.now
  nowFailing : Keeps J failing collaborators.now
  claimRun : ∀ job now, Keeps J dormant (collaborators.claimRun job now)
  invokeGraph : ∀ input, Keeps J dormant (collaborators.invokeGraph input)
  listProjectFiles : ∀ projectId, Keeps J dormant (collaborators.listProjectFiles projectId)
  repair : ∀ repair, collaborators.repairer = some repair → ∀ input, Keeps J dormant (repair input)
  validate : ∀ run attempt, Triple J dormant (collaborators.validate run attempt)
    (fun lease v x => ∃ place, lease = some place ∧ leased run place v x) fun _ => dormant
  assess : ∀ run lease attempt, Keeps J (leased run lease) (collaborators.assess run attempt)
  completeRun : ∀ run lease now, Triple J (leased run lease)
    (collaborators.completeRun run.id run.controlVersion now)
    (fun completed v x => (completed = true → finished v x) ∧ (completed = false → leased run lease v x))
    fun _ => leased run lease
  failRun : ∀ (run : RunExecutionRecord) error now,
    Keeps J failing (collaborators.failRun run.id run.controlVersion error now)
  revoke : ∀ run lease, Triple J (fun v x => leased run lease v x ∨ spent lease v x)
    (collaborators.revoke lease) (fun _ => spent lease) fun _ => spent lease
  failing_of_dormant : ∀ {v x}, dormant v x → failing v x
  failing_of_spent : ∀ {lease v x}, spent lease v x → failing v x
  finished_of_failing : ∀ {v x}, failing v x → finished v x

namespace Collaborators
variable {collaborators : Collaborators schemas Outputs (Mutable Op Res Thrown ν)}
  {J : Judgement Op (fun o => Except Thrown (Res o)) X} {dormant failing finished : ν → X → Prop}
  {leased : RunExecutionRecord → Uuid → ν → X → Prop} {spent : Uuid → ν → X → Prop}
  {run : RunExecutionRecord} {outputs : Outputs} {attempt used : Nat}

lemma keeps_upstream {P : ν → X → Prop} : Keeps J P (collaborators.upstream outputs) := by
  unfold upstream
  split
  · exact .pure
  · exact .throw

/-- The outcome of a part as a value. -/
lemma triple_attempted {α : Type} {p : Mutable Op Res Thrown ν α} {P : ν → X → Prop}
    {Q : α → ν → X → Prop} {E : Thrown → ν → X → Prop} {E' : Thrown → ν → X → Prop}
    (triple : Triple J P p Q E) :
    Triple J P (attempted p) (fun outcome v x => Outcome (fun a => Q a v x) (fun e => E e v x) outcome)
      E' := by
  refine .tryCatch (R := E) ?_ fun error => .pure fun _ _ holds => holds
  exact .bind triple fun a => .pure fun _ _ holds => holds

variable (respects : collaborators.Respects J dormant failing finished leased spent)
include respects

lemma Respects.repairRoutes {repair : RunRepairInput schemas → Mutable Op Res Thrown ν Bool}
    (configured : collaborators.repairer = some repair) :
    Keeps J dormant (collaborators.repairRoutes repair run outputs) := by
  refine .bind keeps_upstream fun upstream => ?_
  split
  · exact .pure
  refine .bind (respects.listProjectFiles _) fun files => ?_
  dsimp only
  split
  · exact .pure
  · exact .bind (respects.repair repair configured _) fun repaired => .pure

lemma Respects.repairMissingRoutes :
    Keeps J dormant (collaborators.repairMissingRoutes run outputs) := by
  unfold Collaborators.repairMissingRoutes
  split
  · exact .pure
  rename_i repair configured
  split
  · exact .pure
  refine .tryCatch (respects.repairRoutes configured) fun error => ?_
  split
  · exact .throw
  · exact .pure

lemma Respects.repairValidation {error : Thrown} :
    Keeps J dormant (collaborators.repairValidation run outputs used error) := by
  unfold Collaborators.repairValidation
  split
  · rename_i failure repair _ configured
    split
    · split
      · refine .bind ?_ fun repaired => ?_
        · refine .tryCatch (.bind keeps_upstream fun upstream => ?_) fun repairError => ?_
          · exact respects.repair repair configured _
          · split
            · exact .throw
            · exact .pure
        · cases repaired with
          | true => exact .pure
          | false => exact .throw
      · exact .throw
    · exact .throw
  · exact .throw

/-- A round that does not pass leaves no lease behind. -/
lemma Respects.validateOnce :
    Triple J dormant (collaborators.validateOnce run outputs attempt used)
      (fun validated v x => match validated with
        | .inl lease => ∃ place, lease = some place ∧ leased run place v x
        | .inr _ => dormant v x) fun _ => dormant := by
  refine .tryCatch (R := fun _ => dormant) ?_ fun error => ?_
  · exact .bind (respects.validate run _) fun lease => .pure fun _ _ held => held
  · exact .bind respects.repairValidation fun left => .pure fun _ _ without => without

/-- The induction is on the repairs that are left. -/
lemma Respects.validateWithRepairs
    (remaining : Nat) (left : collaborators.maxRepairAttempts - used = remaining) :
    Triple J dormant (collaborators.validateWithRepairs run outputs attempt used)
      (fun validated v x => ∃ place, validated.1 = some place ∧ leased run place v x)
      fun _ => dormant := by
  induction remaining generalizing used with
  | zero =>
    rw [Collaborators.validateWithRepairs]
    refine .bind respects.validateOnce fun validated => ?_
    cases validated with
    | inl lease => exact .pure fun _ _ held => held
    | inr more =>
      have := more.down
      omega
  | succ remaining ih =>
    rw [Collaborators.validateWithRepairs]
    refine .bind respects.validateOnce fun validated => ?_
    cases validated with
    | inl lease => exact .pure fun _ _ held => held
    | inr more => exact ih (by omega)

lemma Respects.executeRun {job : RunJob} {attempt : RunAttempt} :
    Triple J dormant (collaborators.executeRun job run attempt)
      (fun validated v x => ∃ place, validated.1 = some place ∧ leased run place v x)
      fun _ => dormant := by
  refine .bind (respects.invokeGraph _) fun outputs => ?_
  refine .bind respects.repairMissingRoutes fun repairsUsed => ?_
  exact respects.validateWithRepairs _ rfl

/-- The end of an execution: while it can still fail, the lease is held or spent. -/
lemma Respects.finishRun {place : Uuid} :
    Triple J (leased run place) (collaborators.finishRun run (some place) attempt)
      (fun _ => finished) fun _ v x => leased run place v x ∨ spent place v x := by
  refine .bind (R := fun _ => leased run place) ?_ fun _ => ?_
  · exact (respects.assess run place attempt).onError fun _ _ _ held => .inl held
  refine .bind (R := fun _ => leased run place) ?_ fun now => ?_
  · exact (respects.nowLeased run place).onError fun _ _ _ held => .inl held
  refine .bind (R := fun completed v x => (completed = true → finished v x) ∧
    (completed = false → leased run place v x)) ?_ fun completed => ?_
  · exact (respects.completeRun run place now).onError fun _ _ _ held => .inl held
  cases completed with
  | true => exact .pure fun _ _ ends => ends.1 rfl
  | false =>
    refine .bind (R := fun _ => finished) ?_ fun _ => .pure fun _ _ ends => ends
    refine .bind (R := fun _ => spent place) ?_ fun settled => ?_
    · exact (respects.revoke run place).mono (fun _ _ held => .inl (held.2 rfl))
        (fun _ _ _ done => done) fun _ _ _ done => .inr done
    · cases settled with
      | ok => exact .pure fun _ _ done => respects.finished_of_failing (respects.failing_of_spent done)
      | error error => exact .throw fun _ _ done => .inr done

/-- Whatever went wrong, the failure is recorded without a lease. -/
lemma Respects.settle (lease : Option Uuid) {attempt : RunAttempt} {error : Thrown} :
    Triple J (fun v x => match lease with
        | none => dormant v x
        | some place => leased run place v x ∨ spent place v x)
      (collaborators.settle run attempt lease error) (fun _ => finished) fun _ => finished := by
  refine Triple.mono (Q := fun _ => failing) (E := fun _ => failing) ?_ (fun _ _ holds => holds)
    (fun _ _ _ => respects.finished_of_failing) fun _ _ _ => respects.finished_of_failing
  refine .bind (R := fun _ => failing) ?_ fun _ => ?_
  · cases lease with
    | none => exact .pure fun _ _ without => respects.failing_of_dormant without
    | some place =>
      refine .bind (R := fun _ => spent place) ?_ fun settled => ?_
      · exact (respects.revoke run place).onError fun _ _ _ => respects.failing_of_spent
      · exact .pure fun _ _ done => respects.failing_of_spent done
  split
  · exact .pure fun _ _ failing => failing
  split
  · exact .throw fun _ _ failing => failing
  · refine .bind respects.nowFailing fun now => ?_
    exact .bind (respects.failRun run _ now) fun failed => .pure fun _ _ failing => failing

lemma Respects.process {job : RunJob} {attempt : RunAttempt} :
    Triple J dormant (collaborators.process job attempt) (fun _ => finished) fun _ => finished := by
  have idle {v : ν} {x : X} (without : dormant v x) : finished v x :=
    respects.finished_of_failing (respects.failing_of_dormant without)
  unfold Collaborators.process
  split
  · exact .throw fun _ _ => idle
  refine .bind (respects.now.onError fun _ _ _ => idle) fun now => ?_
  refine .bind ((respects.claimRun job now).onError fun _ _ _ => idle) fun claim => ?_
  cases claim with
  | missing => exact .pure fun _ _ => idle
  | stale => exact .pure fun _ _ => idle
  | ready run =>
    refine .bind (triple_attempted respects.executeRun) fun executed => ?_
    cases executed with
    | error error => exact respects.settle none
    | ok validated =>
      obtain ⟨lease, validatedAttempt⟩ := validated
      refine .extract (φ := ∃ place, lease = some place) ?_ ?_
      · rintro v x ⟨place, rfl, -⟩
        exact ⟨place, rfl⟩
      rintro ⟨place, rfl⟩
      refine .bind (R := fun outcome v x => Outcome (fun _ => finished v x)
        (fun _ => leased run place v x ∨ spent place v x) outcome) ?_ fun finished => ?_
      · refine (triple_attempted respects.finishRun).mono ?_ (fun _ _ _ holds => holds)
          fun _ _ _ holds => holds
        rintro v x ⟨place', same, held⟩
        cases same
        exact held
      · cases finished with
        | error error => exact respects.settle (some place)
        | ok result => exact .pure fun _ _ ends => ends

end Collaborators
end AtomsPlatform.Run
