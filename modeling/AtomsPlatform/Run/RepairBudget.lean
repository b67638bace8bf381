import AtomsPlatform.Run.Behaviours
import Mathlib.Data.Fintype.Basic

/-!
# The budget of repairs

How many repairs and validations a delivery of a job can ask for, whatever its collaborators answer. The
calls are counted in a `Tally`. A repair of missing routes that does not write files is not counted as
spent, so there is one more call of the repairer than the budget says if that happens, and the budget
holds for the others (`repair_budget`).
-/

namespace AtomsPlatform.Run
open Interleaving
variable {Output : Type} {schemas : AgentOutputSchemas Output} {Outputs : Type}

/-- What is counted: the calls, the session attempts that are validated, the repairs, and the repairs
    before the first validation that did not return true. -/
structure Tally where
  calls : Nat := 0
  attempts : List Nat := []
  repairs : Nat := 0
  unspent : Nat := 0
deriving DecidableEq, Repr

/-- Whether a repair wrote files. -/
def wroteFiles : Except Thrown Bool → Bool
  | .ok repaired => repaired
  | .error _ => false

/-- The tally after a call. -/
def Tally.note (t : Tally) : CollaborationEvent schemas Outputs → Tally
  | ⟨.validate _ attempt, _⟩ => { t with calls := t.calls + 1, attempts := t.attempts ++ [attempt] }
  | ⟨.repair _, answer⟩ =>
    { t with
      calls := t.calls + 1
      repairs := t.repairs + 1
      unspent := t.unspent + if t.attempts = [] ∧ wroteFiles answer = false then 1 else 0 }
  | _ => { t with calls := t.calls + 1 }

/-- The tally of some calls. -/
def tally (h : List (CollaborationEvent schemas Outputs)) : Tally :=
  h.foldl Tally.note {}

/-- The budget of `m` repairs, for at most `n` calls. -/
structure Tally.Within (m n : Nat) (t : Tally) : Prop where
  repairs : t.repairs ≤ m + t.unspent
  unspent : t.unspent ≤ 1
  unrepaired : m = 0 → t.repairs = 0
  validations : t.attempts.length ≤ m + 1
  distinct : t.attempts.Nodup
  calls : t.calls ≤ n

/-- After some rounds of the loop: `used` repairs are spent, and the attempts so far are below the one
    of the next round. -/
structure Tally.Looping (m attempt used : Nat) (t : Tally) : Prop where
  left : used ≤ m
  repairs : t.repairs ≤ used + t.unspent
  unspent : t.unspent ≤ 1
  unrepaired : m = 0 → t.repairs = 0
  validations : t.attempts.length ≤ used
  distinct : t.attempts.Nodup
  below : ∀ a ∈ t.attempts, a < attempt + used * repairAttemptStride
  calls : t.calls ≤ 5 + 2 * used

/-- Before the loop, nothing is counted but calls. -/
def Tally.Fresh (n : Nat) (t : Tally) : Prop :=
  t.attempts = [] ∧ t.repairs = 0 ∧ t.unspent = 0 ∧ t.calls ≤ n

/-- The judgement by the tally. -/
def tallying : Judgement (Collaboration schemas Outputs) (fun o => Except Thrown o.Result) Tally :=
  recording Tally.note fun _ _ => True

/-- Programs judged by the tally. -/
abbrev Tallies {α : Type} (P : Tally → Prop) (p : ProcessorProgram schemas Outputs α)
    (Q : α → Tally → Prop) (E : Thrown → Tally → Prop) : Prop :=
  Triple tallying P p Q E

/-- The rule of calls. -/
lemma Tallies.call {o : Collaboration schemas Outputs} {P : Tally → Prop}
    {Q : o.Result → Tally → Prop} {E : Thrown → Tally → Prop}
    (onOk : ∀ t a, P t → Q a (t.note ⟨o, .ok a⟩)) (onError : ∀ t e, P t → E e (t.note ⟨o, .error e⟩)) :
    Tallies P (invoke o) Q E := by
  apply Triple.invoke
  intro t holds
  refine ⟨trivial, fun r => ?_⟩
  cases r with
  | ok a => exact onOk t a holds
  | error e => exact onError t e holds

/-- Calls that are only counted. -/
def Collaboration.Quiet : Collaboration schemas Outputs → Prop
  | .validate .. | .repair _ => False
  | _ => True

lemma Tally.note_quiet {o : Collaboration schemas Outputs} (quiet : o.Quiet) {t : Tally}
    {r : Except Thrown o.Result} : t.note ⟨o, r⟩ = { t with calls := t.calls + 1 } := by
  cases o with
  | validate => exact quiet.elim
  | repair => exact quiet.elim
  | _ => rfl

variable {m n attempt used : Nat} {t : Tally}

lemma Tally.Within.call (within : t.Within m n) : Tally.Within m (n + 1) { t with calls := t.calls + 1 } :=
  { within with calls := Nat.succ_le_succ within.calls }

lemma Tally.Within.mono {n' : Nat} (within : t.Within m n) (le : n ≤ n') : t.Within m n' :=
  { within with calls := Nat.le_trans within.calls le }

lemma Tally.Fresh.call (fresh : t.Fresh n) : Tally.Fresh (n + 1) { t with calls := t.calls + 1 } :=
  ⟨fresh.1, fresh.2.1, fresh.2.2.1, Nat.succ_le_succ fresh.2.2.2⟩

lemma Tally.Fresh.within (fresh : t.Fresh n) : t.Within m n := by
  obtain ⟨attempts, repairs, unspent, calls⟩ := fresh
  exact
    { repairs := by omega
      unspent := by omega
      unrepaired := fun _ => repairs
      validations := by rw [attempts]; exact Nat.zero_le _
      distinct := by rw [attempts]; exact List.nodup_nil
      calls }

/-- A quiet call in a delivery that is within its budget. -/
lemma Tallies.quiet {o : Collaboration schemas Outputs} (quiet : o.Quiet) :
    Tallies (Tally.Within m n) (invoke o) (fun _ => Tally.Within m (n + 1))
      fun _ => Tally.Within m (n + 1) := by
  apply Tallies.call
  · intro t a within
    rw [Tally.note_quiet quiet]
    exact within.call
  · intro t e within
    rw [Tally.note_quiet quiet]
    exact within.call

/-- A quiet call before the loop. -/
lemma Tallies.early {o : Collaboration schemas Outputs} (quiet : o.Quiet) :
    Tallies (Tally.Fresh n) (invoke o) (fun _ => Tally.Fresh (n + 1)) fun _ => Tally.Fresh (n + 1) := by
  apply Tallies.call
  · intro t a fresh
    rw [Tally.note_quiet quiet]
    exact fresh.call
  · intro t e fresh
    rw [Tally.note_quiet quiet]
    exact fresh.call

/-- A loop that goes on is within its budget. -/
lemma Tally.Looping.within (looping : t.Looping m attempt used) (le : 5 + 2 * used ≤ n) :
    t.Within m n :=
  { repairs := by have := looping.repairs; have := looping.left; omega
    unspent := looping.unspent
    unrepaired := looping.unrepaired
    validations := by have := looping.validations; have := looping.left; omega
    distinct := looping.distinct
    calls := Nat.le_trans looping.calls le }

/-- The loop starts without repairs spent. -/
lemma Tally.Fresh.looping (fresh : t.Fresh 5) : t.Looping m attempt 0 := by
  obtain ⟨attempts, repairs, unspent, calls⟩ := fresh
  exact
    { left := Nat.zero_le m
      repairs := by omega
      unspent := by omega
      unrepaired := fun _ => repairs
      validations := by rw [attempts]; exact Nat.le_refl 0
      distinct := by rw [attempts]; exact List.nodup_nil
      below := by rw [attempts]; exact fun a mem => absurd mem List.not_mem_nil
      calls }

lemma Tally.Fresh.mono {n' : Nat} (fresh : t.Fresh n) (le : n ≤ n') : t.Fresh n' :=
  ⟨fresh.1, fresh.2.1, fresh.2.2.1, Nat.le_trans fresh.2.2.2 le⟩

/-- The repair of missing routes starts the loop with itself spent if it wrote files, and unspent if
    not. -/
lemma Tally.Fresh.repair (fresh : t.Fresh 4) (some_repair : 1 ≤ m) {input : RunRepairInput schemas}
    (answer : Except Thrown Bool) :
    (t.note (⟨.repair input, answer⟩ : CollaborationEvent schemas Outputs)).Looping m attempt
      (if wroteFiles answer then 1 else 0) := by
  obtain ⟨attempts, repairs, unspent, calls⟩ := fresh
  have not_zero (zero : m = 0) {p : Prop} : p := by omega
  cases wrote : wroteFiles answer with
  | true =>
    exact
      { left := some_repair
        repairs := by simp [Tally.note, repairs, unspent, wrote]
        unspent := by simp [Tally.note, unspent, wrote]
        unrepaired := fun zero => not_zero zero
        validations := by simp [Tally.note, attempts]
        distinct := by simp [Tally.note, attempts]
        below := by simp [Tally.note, attempts]
        calls := by simp [Tally.note]; omega }
  | false =>
    exact
      { left := Nat.zero_le m
        repairs := by simp [Tally.note, repairs, unspent, wrote, attempts]
        unspent := by simp [Tally.note, unspent, wrote, attempts]
        unrepaired := fun zero => not_zero zero
        validations := by simp [Tally.note, attempts]
        distinct := by simp [Tally.note, attempts]
        below := by simp [Tally.note, attempts]
        calls := by simp [Tally.note]; omega }

/-- A round of the loop after its validation: its attempt is one of those that were validated. -/
structure Tally.Validated (m attempt used : Nat) (t : Tally) : Prop where
  left : used ≤ m
  repairs : t.repairs ≤ used + t.unspent
  unspent : t.unspent ≤ 1
  unrepaired : m = 0 → t.repairs = 0
  some_attempt : t.attempts ≠ []
  validations : t.attempts.length ≤ used + 1
  distinct : t.attempts.Nodup
  below : ∀ a ∈ t.attempts, a < attempt + (used + 1) * repairAttemptStride
  calls : t.calls ≤ 6 + 2 * used

/-- The attempt of a round is above all attempts before. -/
lemma Tally.Looping.validate (looping : t.Looping m attempt used) {run : RunExecutionRecord}
    {answer : Except Thrown (Option Uuid)} :
    (t.note (⟨.validate run (attempt + used * repairAttemptStride), answer⟩ :
      CollaborationEvent schemas Outputs)).Validated m attempt used := by
  have next : used * repairAttemptStride < (used + 1) * repairAttemptStride :=
    Nat.mul_lt_mul_of_pos_right (Nat.lt_succ_self used) (by decide)
  have := looping.validations
  have := looping.calls
  refine
    { left := looping.left
      repairs := looping.repairs
      unspent := looping.unspent
      unrepaired := looping.unrepaired
      some_attempt := by simp [Tally.note]
      validations := by simp [Tally.note]; omega
      distinct := ?_
      below := ?_
      calls := by simp [Tally.note]; omega }
  · show (t.attempts ++ [attempt + used * repairAttemptStride]).Nodup
    rw [List.nodup_append]
    refine ⟨looping.distinct, List.nodup_singleton _, ?_⟩
    intro a mem b mem' same
    have lt := looping.below a mem
    rw [same, List.mem_singleton.mp mem'] at lt
    exact Nat.lt_irrefl _ lt
  · intro a mem
    rcases List.mem_append.mp mem with mem | mem
    · exact Nat.lt_trans (looping.below a mem) (Nat.add_lt_add_left next attempt)
    · rw [List.mem_singleton.mp mem]
      exact Nat.add_lt_add_left next attempt

lemma Tally.Validated.within (validated : t.Validated m attempt used) (le : 6 + 2 * used ≤ n) :
    t.Within m n :=
  { repairs := by have := validated.repairs; have := validated.left; omega
    unspent := validated.unspent
    unrepaired := validated.unrepaired
    validations := by have := validated.validations; have := validated.left; omega
    distinct := validated.distinct
    calls := Nat.le_trans validated.calls le }

/-- A repair after a validation is spent, whatever comes of it. -/
lemma Tally.Validated.repair (validated : t.Validated m attempt used) (left : used < m)
    {input : RunRepairInput schemas} {answer : Except Thrown Bool} :
    (t.note (⟨.repair input, answer⟩ : CollaborationEvent schemas Outputs)).Looping m attempt
      (used + 1) := by
  have unspent : (t.note (⟨.repair input, answer⟩ : CollaborationEvent schemas Outputs)).unspent =
      t.unspent := by
    simp [Tally.note, validated.some_attempt]
  have repairs := validated.repairs
  have calls := validated.calls
  exact
    { left
      repairs := by rw [unspent]; simp [Tally.note]; omega
      unspent := by rw [unspent]; exact validated.unspent
      unrepaired := fun zero => by omega
      validations := validated.validations
      distinct := validated.distinct
      below := validated.below
      calls := by simp [Tally.note]; omega }

section Parts

variable {options : RunProcessorOptions} {parse : Outputs → Except Thrown (RunOutputs schemas)}
  {run : RunExecutionRecord} {outputs : Outputs}

lemma tallies_upstream {P : Tally → Prop} :
    Tallies P ((anyCollaborators options parse).upstream outputs) (fun _ => P) fun _ => P := by
  unfold Collaborators.upstream
  split
  · exact .pure fun _ holds => holds
  · exact .throw fun _ holds => holds

/-- The repair of missing routes, in a delivery with a budget. -/
lemma tallies_repairRoutes {attempt : Nat} (some_repair : 1 ≤ m) :
    Tallies (Tally.Fresh 3)
      ((anyCollaborators options parse).repairRoutes (fun input => ask (.repair input)) run outputs)
      (fun used => Tally.Looping m attempt used) fun _ => Tally.Looping m attempt 0 := by
  have early {k : Nat} (le : k ≤ 5) {t : Tally} (fresh : t.Fresh k) : t.Looping m attempt 0 :=
    (fresh.mono le).looping
  unfold Collaborators.repairRoutes
  apply Triple.bind (R := fun _ => Tally.Fresh 3)
  · exact tallies_upstream.mono (fun _ fresh => fresh) (fun _ _ fresh => fresh) fun _ _ fresh =>
      early (by omega) fresh
  intro upstream
  split
  · exact .pure fun _ fresh => early (by omega) fresh
  apply Triple.bind (R := fun _ => Tally.Fresh 4)
  · exact (Tallies.early (o := .listProjectFiles run.projectId) trivial).mono (fun _ fresh => fresh)
      (fun _ _ fresh => fresh) fun _ _ fresh => early (by omega) fresh
  intro files
  dsimp only
  split
  · exact .pure fun _ fresh => early (by omega) fresh
  apply Triple.bind (R := fun repaired => Tally.Looping m attempt (if repaired then 1 else 0))
  · apply Tallies.call
    · exact fun t repaired fresh => fresh.repair some_repair (.ok repaired)
    · exact fun t error fresh => fresh.repair some_repair (.error error)
  · exact fun repaired => .pure fun _ looping => looping

/-- What the loop starts with. -/
lemma tallies_repairMissingRoutes {attempt : Nat} :
    Tallies (Tally.Fresh 3) ((anyCollaborators options parse).repairMissingRoutes run outputs)
      (fun used => Tally.Looping options.maxRepairAttempts attempt used)
      fun _ => Tally.Within options.maxRepairAttempts 5 := by
  unfold Collaborators.repairMissingRoutes
  split
  · exact .pure fun _ fresh => (fresh.mono (by omega)).looping
  rename_i repair configured
  split
  · exact .pure fun _ fresh => (fresh.mono (by omega)).looping
  rename_i budget
  have some_repair : 1 ≤ options.maxRepairAttempts := Nat.not_lt.mp budget
  rw [repairer_eq configured]
  apply Triple.tryCatch (tallies_repairRoutes some_repair)
  intro error
  split
  · exact .throw fun _ looping => looping.within (by omega)
  · exact .pure fun _ looping => looping

/-- A repair after a failed validation: if files were written, another round follows. -/
lemma tallies_tryRepair {attempt repairAttempt : Nat} {failure : ValidationFailure} (left : used < m) :
    Tallies (Tally.Validated m attempt used)
      ((anyCollaborators options parse).tryRepair (fun input => ask (.repair input)) run outputs
        failure repairAttempt)
      (fun repaired t =>
        if repaired then t.Looping m attempt (used + 1) else t.Within m (7 + 2 * used))
      fun _ => Tally.Within m (7 + 2 * used) := by
  have spent {t : Tally} (looping : t.Looping m attempt (used + 1)) : t.Within m (7 + 2 * used) :=
    looping.within (by omega)
  apply Triple.tryCatch (R := fun _ => Tally.Within m (7 + 2 * used))
  · apply Triple.bind (R := fun _ => Tally.Validated m attempt used)
    · exact tallies_upstream.mono (fun _ validated => validated) (fun _ _ validated => validated)
        fun _ _ validated => validated.within (by omega)
    intro upstream
    apply Tallies.call
    · intro t repaired validated
      have looping := @Tally.Validated.repair _ schemas Outputs m attempt used t validated left
        { run, failure, upstreamOutputs := upstream, repairAttempt } (.ok repaired)
      cases repaired with
      | true => exact looping
      | false => exact spent looping
    · exact fun t error validated => spent (validated.repair left)
  · intro error
    split
    · exact .throw fun _ within => within
    · exact .pure fun _ within => within

/-- A failed validation: another round follows only after a repair, which is spent. -/
lemma tallies_repairValidation {attempt : Nat} {error : Thrown} :
    Tallies (Tally.Validated options.maxRepairAttempts attempt used)
      ((anyCollaborators options parse).repairValidation run outputs used error)
      (fun _ => Tally.Looping options.maxRepairAttempts attempt (used + 1))
      fun _ => Tally.Within options.maxRepairAttempts (6 + 2 * options.maxRepairAttempts) := by
  have failed {t : Tally} (validated : t.Validated options.maxRepairAttempts attempt used) :
      t.Within options.maxRepairAttempts (6 + 2 * options.maxRepairAttempts) :=
    validated.within (by have := validated.left; omega)
  unfold Collaborators.repairValidation
  split
  · rename_i failure repair _ configured
    split
    · rename_i left
      have left : used < options.maxRepairAttempts := left
      rw [repairer_eq configured]
      split
      · refine Triple.bind ((tallies_tryRepair left).mono (fun _ validated => validated)
          (fun _ _ holds => holds) fun _ _ within => within.mono (by omega)) fun repaired => ?_
        cases repaired with
        | true => exact .pure fun _ looping => looping
        | false => exact .throw fun _ within => Tally.Within.mono within (by omega)
      · exact .throw fun _ validated => failed validated
    · exact .throw fun _ validated => failed validated
  · exact .throw fun _ validated => failed validated

/-- One round of the loop. -/
lemma tallies_validateOnce {attempt : Nat} :
    Tallies (Tally.Looping options.maxRepairAttempts attempt used)
      ((anyCollaborators options parse).validateOnce run outputs attempt used)
      (fun validated t => match validated with
        | .inl _ => t.Within options.maxRepairAttempts (6 + 2 * options.maxRepairAttempts)
        | .inr _ => t.Looping options.maxRepairAttempts attempt (used + 1))
      fun _ => Tally.Within options.maxRepairAttempts (6 + 2 * options.maxRepairAttempts) := by
  apply Triple.tryCatch (R := fun _ => Tally.Validated options.maxRepairAttempts attempt used)
  · apply Triple.bind (R := fun _ =>
      Tally.Within options.maxRepairAttempts (6 + 2 * options.maxRepairAttempts))
    · unfold Collaborators.validate
      split
      · exact .pure fun _ looping => looping.within (by have := looping.left; omega)
      rename_i validate configured
      rw [validator_eq configured]
      apply Tallies.call
      · exact fun t lease looping =>
          looping.validate.within (by have := looping.left; omega)
      · exact fun t error looping => looping.validate
    · exact fun lease => .pure fun _ within => within
  · intro error
    apply Triple.bind tallies_repairValidation
    exact fun left => .pure fun _ looping => looping

/-- The loop of validations; the induction is on the repairs that are left. -/
lemma tallies_validateWithRepairs {attempt : Nat} (remaining : Nat)
    (left : options.maxRepairAttempts - used = remaining) :
    Tallies (Tally.Looping options.maxRepairAttempts attempt used)
      ((anyCollaborators options parse).validateWithRepairs run outputs attempt used)
      (fun _ => Tally.Within options.maxRepairAttempts (6 + 2 * options.maxRepairAttempts))
      fun _ => Tally.Within options.maxRepairAttempts (6 + 2 * options.maxRepairAttempts) := by
  induction remaining generalizing used with
  | zero =>
    rw [Collaborators.validateWithRepairs]
    apply Triple.bind tallies_validateOnce
    intro validated
    cases validated with
    | inl lease => exact .pure fun _ within => within
    | inr more =>
      have := more.down
      have budget : (anyCollaborators options parse).maxRepairAttempts = options.maxRepairAttempts :=
        rfl
      omega
  | succ remaining ih =>
    rw [Collaborators.validateWithRepairs]
    apply Triple.bind tallies_validateOnce
    intro validated
    cases validated with
    | inl lease => exact .pure fun _ within => within
    | inr more => exact ih (by omega)

/-- The outcome of a part as a value. -/
lemma tallies_attempted {α : Type} {P R : Tally → Prop} {p : ProcessorProgram schemas Outputs α}
    (tallies : Tallies P p (fun _ => R) fun _ => R) :
    Tallies P (Collaborators.attempted p) (fun _ => R) fun _ => R := by
  apply Triple.tryCatch (R := fun _ => R)
  · exact .bind tallies fun a => .pure fun _ holds => holds
  · exact fun error => .pure fun _ holds => holds

lemma tallies_executeRun {job : RunJob} {attempt : RunAttempt} :
    Tallies (Tally.Fresh 2) ((anyCollaborators options parse).executeRun job run attempt)
      (fun _ => Tally.Within options.maxRepairAttempts (6 + 2 * options.maxRepairAttempts))
      fun _ => Tally.Within options.maxRepairAttempts (6 + 2 * options.maxRepairAttempts) := by
  apply Triple.bind (R := fun _ => Tally.Fresh 3)
  · exact (Tallies.early (o := .invokeGraph (graphInput job run)) trivial).mono (fun _ fresh => fresh)
      (fun _ _ fresh => fresh) fun _ _ fresh => (fresh.mono (by omega)).within
  intro outputs
  apply Triple.bind (R := Tally.Looping options.maxRepairAttempts attempt.attempt)
  · exact tallies_repairMissingRoutes.mono (fun _ fresh => fresh) (fun _ _ looping => looping)
      fun _ _ within => within.mono (by omega)
  · exact fun repairsUsed => tallies_validateWithRepairs _ rfl

/-- An assessment is one call. -/
lemma tallies_assess {attempt : Nat} :
    Tallies (Tally.Within m n) ((anyCollaborators options parse).assess run attempt)
      (fun _ => Tally.Within m (n + 1)) fun _ => Tally.Within m (n + 1) := by
  unfold Collaborators.assess
  split
  · exact .pure fun _ within => within.mono (Nat.le_succ n)
  · rename_i assess configured
    rw [assessor_eq configured]
    exact .bind (Tallies.quiet trivial) fun _ => .pure fun _ within => within

/-- A revocation is one call. -/
lemma tallies_revoke {lease : Uuid} :
    Tallies (Tally.Within m n) ((anyCollaborators options parse).revoke lease)
      (fun _ => Tally.Within m (n + 1)) fun _ => Tally.Within m (n + 1) :=
  fun _ within => ⟨trivial, fun _ => Tally.Within.call within⟩

lemma tallies_tryRevoke {lease : Option Uuid} :
    Tallies (Tally.Within m n) ((anyCollaborators options parse).tryRevoke lease)
      (fun _ => Tally.Within m (n + 1)) fun _ => Tally.Within m (n + 1) := by
  cases lease with
  | none => exact .pure fun _ within => within.mono (Nat.le_succ n)
  | some lease => exact .bind tallies_revoke fun _ => .pure fun _ within => within

lemma tallies_awaitRevoke {lease : Option Uuid} :
    Tallies (Tally.Within m n) ((anyCollaborators options parse).awaitRevoke lease)
      (fun _ => Tally.Within m (n + 1)) fun _ => Tally.Within m (n + 1) := by
  cases lease with
  | none => exact .pure fun _ within => within.mono (Nat.le_succ n)
  | some lease =>
    apply Triple.bind tallies_revoke
    intro settled
    cases settled with
    | ok => exact .pure fun _ within => within
    | error error => exact .throw fun _ within => within

lemma tallies_finishRun {lease : Option Uuid} {attempt : Nat} :
    Tallies (Tally.Within m n) ((anyCollaborators options parse).finishRun run lease attempt)
      (fun _ => Tally.Within m (n + 4)) fun _ => Tally.Within m (n + 4) := by
  have later {k : Nat} (le : k ≤ n + 4) {t : Tally} (within : t.Within m k) : t.Within m (n + 4) :=
    within.mono le
  refine Triple.bind (tallies_assess.mono (fun _ within => within) (fun _ _ within => within)
    fun _ _ within => later (by omega) within) fun _ => ?_
  refine Triple.bind ((Tallies.quiet (o := .now) trivial).mono (fun _ within => within)
    (fun _ _ within => within) fun _ _ within => later (by omega) within) fun now => ?_
  refine Triple.bind ((Tallies.quiet (o := .completeRun run.id run.controlVersion now) trivial).mono
    (fun _ within => within) (fun _ _ within => within)
    fun _ _ within => later (by omega) within) fun completed => ?_
  cases completed with
  | true => exact .pure fun _ within => later (by omega) within
  | false => exact .bind tallies_awaitRevoke fun _ => .pure fun _ within => within

lemma tallies_settle {attempt : RunAttempt} {lease : Option Uuid} {error : Thrown} :
    Tallies (Tally.Within m n) ((anyCollaborators options parse).settle run attempt lease error)
      (fun _ => Tally.Within m (n + 3)) fun _ => Tally.Within m (n + 3) := by
  have later {k : Nat} (le : k ≤ n + 3) {t : Tally} (within : t.Within m k) : t.Within m (n + 3) :=
    within.mono le
  refine Triple.bind (tallies_tryRevoke.mono (fun _ within => within) (fun _ _ within => within)
    fun _ _ within => later (by omega) within) fun _ => ?_
  split
  · exact .pure fun _ within => later (by omega) within
  split
  · exact .throw fun _ within => later (by omega) within
  refine Triple.bind ((Tallies.quiet (o := .now) trivial).mono (fun _ within => within)
    (fun _ _ within => within) fun _ _ within => later (by omega) within) fun now => ?_
  apply Triple.bind (Tallies.quiet (o := .failRun run.id run.controlVersion (toWorkerError error) now)
    trivial)
  exact fun failed => .pure fun _ within => within

/-- A delivery is within its budget. -/
lemma tallies_process {job : RunJob} {attempt : RunAttempt} :
    Tallies (Tally.Fresh 0) ((anyCollaborators options parse).process job attempt)
      (fun _ => Tally.Within options.maxRepairAttempts (13 + 2 * options.maxRepairAttempts))
      fun _ => Tally.Within options.maxRepairAttempts (13 + 2 * options.maxRepairAttempts) := by
  have early {k : Nat} (le : k ≤ 2) {t : Tally} (fresh : t.Fresh k) :
      t.Within options.maxRepairAttempts (13 + 2 * options.maxRepairAttempts) :=
    (fresh.mono (Nat.le_trans le (by omega))).within
  unfold Collaborators.process
  split
  · exact .throw fun _ fresh => early (by omega) fresh
  refine Triple.bind ((Tallies.early (o := .now) trivial).mono (fun _ fresh => fresh)
    (fun _ _ fresh => fresh) fun _ _ fresh => early (by omega) fresh) fun now => ?_
  refine Triple.bind ((Tallies.early (o := .claimRun job now) trivial).mono (fun _ fresh => fresh)
    (fun _ _ fresh => fresh) fun _ _ fresh => early (by omega) fresh) fun claim => ?_
  cases claim with
  | missing => exact .pure fun _ fresh => early (by omega) fresh
  | stale => exact .pure fun _ fresh => early (by omega) fresh
  | ready run =>
    refine Triple.bind ((tallies_attempted tallies_executeRun).mono (fun _ fresh => fresh)
      (fun _ _ within => within) fun _ _ within => within.mono (by omega)) fun executed => ?_
    cases executed with
    | error error =>
      exact tallies_settle.mono (fun _ within => within) (fun _ _ within => within.mono (by omega))
        fun _ _ within => within.mono (by omega)
    | ok validated =>
      refine Triple.bind ((tallies_attempted tallies_finishRun).mono (fun _ within => within)
        (fun _ _ within => within) fun _ _ within => within.mono (by omega)) fun finished => ?_
      cases finished with
      | error error =>
        exact tallies_settle.mono (fun _ within => within) (fun _ _ within => within.mono (by omega))
          fun _ _ within => within.mono (by omega)
      | ok result => exact .pure fun _ within => within.mono (by omega)

end Parts

section Budget

variable {options : RunProcessorOptions} {parse : Outputs → Except Thrown (RunOutputs schemas)}
  {job : RunJob} {attempt : RunAttempt} {h : List (CollaborationEvent schemas Outputs)}
  {outcome : Except Thrown ProcessRunResult}

lemma Tally.note_calls {e : CollaborationEvent schemas Outputs} : (t.note e).calls = t.calls + 1 := by
  obtain ⟨o, r⟩ := e
  cases o <;> rfl

lemma calls_foldl : (h.foldl Tally.note t).calls = t.calls + h.length := by
  induction h generalizing t with
  | nil => rfl
  | cons e h ih =>
    rw [List.foldl_cons, ih, Tally.note_calls, List.length_cons]
    omega

/-- A delivery that has ended was within its budget. -/
lemma Behaves.within (behaves : Behaves options parse job attempt h outcome) :
    (tally h).Within options.maxRepairAttempts (13 + 2 * options.maxRepairAttempts) := by
  have fresh : Tally.Fresh 0 {} := ⟨rfl, rfl, rfl, Nat.le_refl 0⟩
  have ended := Prog.Leads.recorded behaves (tallies_process {} fresh)
  cases outcome with
  | ok result => exact ended
  | error error => exact ended

/-- Whatever the collaborators do, a delivery ends after a bounded number of calls, and if `m` is the
    limit of repairs: apart from a repair of missing routes that returns false or fails, of which there
    is at most one, there are at most `m` repairs, none if `m` is zero; there are at most `m + 1`
    validations, and their attempts are different. -/
theorem repair_budget (ongoing : Ongoing options parse job attempt h) :
    h.length ≤ 13 + 2 * options.maxRepairAttempts ∧
      ∀ outcome, Behaves options parse job attempt h outcome →
        (tally h).repairs ≤ options.maxRepairAttempts + (tally h).unspent ∧ (tally h).unspent ≤ 1 ∧
          (options.maxRepairAttempts = 0 → (tally h).repairs = 0) ∧
          (tally h).attempts.length ≤ options.maxRepairAttempts + 1 ∧ (tally h).attempts.Nodup := by
  constructor
  · obtain ⟨h', outcome, behaves⟩ := ongoing.ends
    have calls := behaves.within.calls
    have counted : (tally (h ++ h')).calls = (h ++ h').length := by
      rw [tally, calls_foldl]
      exact Nat.zero_add _
    rw [counted, List.length_append] at calls
    omega
  · intro outcome behaves
    have within := behaves.within
    exact ⟨within.repairs, within.unspent, within.unrepaired, within.validations, within.distinct⟩

theorem repair_budget_played :
    (tally (playedDelivery (fullOptions 1) answers).1).repairs ≤ 1 + 1 ∧
      (tally (playedDelivery (fullOptions 1) answers).1).attempts.Nodup := by
  have behaves := @behaves_played (fullOptions 1) answers
  obtain ⟨repairs, unspent, -, -, distinct⟩ :=
    (repair_budget ⟨_, behaves⟩).2 _ behaves
  exact ⟨Nat.le_trans repairs (Nat.add_le_add_left unspent _), distinct⟩

/-- With a limit of one repair, the repairer is called twice: for missing routes, which writes no files,
    and after the validation. -/
theorem repairs_exceed_limit :
    ¬ ∀ (options : RunProcessorOptions) (h : List (CollaborationEvent plannedSchemas Unit))
      (outcome : Except Thrown ProcessRunResult),
      Behaves options plannedOutputs claimedJob ⟨1, 3⟩ h outcome →
        (tally h).repairs ≤ options.maxRepairAttempts := by
  intro claim
  have limited := claim (fullOptions 1) _ _ (@behaves_played (fullOptions 1) answers)
  have twice : (tally (playedDelivery (fullOptions 1) answers).1).repairs = 2 := by
    decide +kernel
  rw [twice] at limited
  exact absurd limited (by decide)

end Budget

end AtomsPlatform.Run
