import AtomsPlatform.Lib.Interpretation
import AtomsPlatform.Lib.Trace
import AtomsPlatform.Release.StoredAssessments

/-!
# Histories of assessments

The worker's assessor next to everything else that writes: the transactions of runs, other assessors, and
assessments on demand. The database refuses a write only because of a constraint. The evidence of a check
has the identifier of its command, and jobs that have the attempt in common but not the control version
share their commands. An assessment is then stored as it was evaluated exactly as long as none of its
checks is already the evidence of an assessment under another key.
-/

namespace AtomsPlatform.Release
open Interleaving Stateful Run Quality
variable {Output : Type}

section Calls

/-- What an evaluation comes to. -/
structure EvaluatedRelease where
  assessment : Quality.ReleaseAssessment
  evidence : List QualityEvidence
  unresolvedScenarios : List (Utf16 × List Utf16)

/-- The evaluation of what was gathered. -/
def evaluation (options : AssessorOptions Output) (generated : Generated) (now : Date)
    (scope : ReleaseAssessmentScope) (inputs : ReleaseEvidenceInputs Output) :
    Except QualityInputError EvaluatedRelease := do
  let (input, unresolvedScenarios) ← workerEvaluation options generated now scope inputs
  let assessment ← evaluateRelease input
  pure ⟨assessment, input.evidence, unresolvedScenarios⟩

/-- The calls on the tables. -/
inductive AssessmentCall (Output : Type) where
  | transaction :
    Operation Output → AssessmentCall Output
  | loadEvidenceInputs :
    (runId : Uuid) → (attempt : Nat) → AssessmentCall Output
  | persistAssessment :
    Generated → ReleaseAssessmentScope → EvaluatedRelease → AssessmentCall Output
  | persistEvaluatorFailure :
    Generated → ReleaseAssessmentScope → (now : Date) → AssessmentCall Output
  | persistManual :
    Generated → ReleaseAssessmentScope → AssessmentData → AssessmentCall Output

/-- The answers to calls. -/
@[reducible]
def AssessmentCall.Answer : AssessmentCall Output → Type
  | .transaction o => o.Answer
  | .loadEvidenceInputs .. => ReleaseEvidenceInputs Output
  | .persistAssessment .. | .persistEvaluatorFailure .. => Unit
  | .persistManual .. => ReleaseAssessmentRow

/-- Programs that make such calls. -/
abbrev AssessmentProgram (Output α : Type) : Type :=
  Fallible (AssessmentCall Output) AssessmentCall.Answer Failure α

/-- What the environment decides about a call. What was gathered before its commands were read may be
    older than the tables. -/
structure AssessmentEnvironment (Output : Type) where
  run : Run.Environment := {}
  files : Option (List SnapshotFile) := none
  acceptanceTask : Option (Option (AcceptanceTaskSnapshot Output)) := none

/-- A write, which is undone if it is refused. -/
def settle {α σ : Type} (written : Except Failure (α × σ)) (s : σ) : Except Failure α × σ :=
  match written with
  | .ok (a, s') => (.ok a, s')
  | .error e => (.error e, s)

/-- What a call does. -/
def performAssessment (outputs : AgentOutputs Output) :
    (o : AssessmentCall Output) → AssessmentEnvironment Output → ReleaseTables Output →
      Except Failure o.Answer × ReleaseTables Output
  | .transaction o, env, s =>
    ((Run.perform outputs o env.run s.platform).1,
      { s with platform := (Run.perform outputs o env.run s.platform).2 })
  | .loadEvidenceInputs runId attempt, env, s =>
    ((loadEvidenceInputs runId attempt s.platform).map fun inputs =>
      { inputs with
        files := env.files.getD inputs.files
        acceptanceTask := env.acceptanceTask.getD inputs.acceptanceTask }, s)
  | .persistAssessment generated scope evaluated, _, s =>
    settle ((persistAssessment generated scope evaluated.assessment evaluated.evidence
      evaluated.unresolvedScenarios s).map ((), ·)) s
  | .persistEvaluatorFailure generated scope now, _, s =>
    settle ((persistEvaluatorFailure generated scope now s).map ((), ·)) s
  | .persistManual generated scope data, _, s => settle (persistManual generated scope data s) s

/-- A call. -/
def ask (o : AssessmentCall Output) : AssessmentProgram Output o.Answer :=
  invoke o

/-- Source `assess` of `DeterministicReleaseAssessor`, call by call. -/
def assessing (options : AssessorOptions Output) (generated : Generated) (now : Date)
    (run : RunExecutionRecord) (attempt : Nat) : AssessmentProgram Output Unit :=
  tryCatch
    (do
      let inputs ← ask (.loadEvidenceInputs run.id attempt)
      let evaluated ← ofExcept ((evaluation options generated now (workerScope run attempt)
        inputs).mapError fun _ => .error "QUALITY_INPUT_INVALID")
      ask (.persistAssessment generated (workerScope run attempt) evaluated))
    fun _ =>
      tryCatch (ask (.persistEvaluatorFailure generated (workerScope run attempt) now))
        fun _ => pure ()

variable {options : AssessorOptions Output} {generated : Generated} {now : Date}
  {run : RunExecutionRecord} {attempt : Nat}

/-- The calls carried out at once. -/
def atOnce (outputs : AgentOutputs Output) (o : AssessmentCall Output) :
    Stateful Failure (ReleaseTables Output) o.Answer :=
  ExceptT.mk fun s => performAssessment outputs o {} s

lemma exec_atOnce {outputs : AgentOutputs Output} {o : AssessmentCall Output}
    {s : ReleaseTables Output} :
    exec (interpret (atOnce outputs) (ask o)) s = performAssessment outputs o {} s :=
  rfl

/-- The end of an assessment that could not be stored. -/
lemma interpret_failure (outputs : AgentOutputs Output) (s : ReleaseTables Output) :
    (exec (interpret (atOnce outputs) (tryCatch
      (ask (.persistEvaluatorFailure generated (workerScope run attempt) now))
      fun _ => pure ())) s).2 =
      ((persistEvaluatorFailure generated (workerScope run attempt) now s).toOption).getD s := by
  rw [interpret_tryCatch, exec_tryCatch, exec_atOnce, performAssessment]
  cases persistEvaluatorFailure generated (workerScope run attempt) now s with
  | ok s' => rfl
  | error e => rfl

lemma tables_getD (o : Option (ReleaseTables Output)) (s' : ReleaseTables Output) :
    (match o with
    | some s => s
    | none => s') = o.getD s' := by
  cases o with
  | none => rfl
  | some s => rfl

/-- An assessment is that of its evaluation. -/
lemma assess_eq (s : ReleaseTables Output) : assess options generated now run attempt s =
    ((loadEvidenceInputs run.id attempt s.platform).toOption.bind fun inputs =>
      (evaluation options generated now (workerScope run attempt) inputs).toOption.bind fun evaluated =>
        (persistAssessment generated (workerScope run attempt) evaluated.assessment
          evaluated.evidence evaluated.unresolvedScenarios s).toOption).getD
      (((persistEvaluatorFailure generated (workerScope run attempt) now s).toOption).getD s) := by
  refine (tables_getD _ _).trans (congrArg (Option.getD · _) ?_)
  refine congrArg _ (funext fun inputs => ?_)
  rw [evaluation]
  cases workerEvaluation options generated now (workerScope run attempt) inputs with
  | error e => rfl
  | ok result =>
    show (evaluateRelease result.1).toOption.bind _ =
      (Except.toOption ((evaluateRelease result.1).bind _)).bind _
    cases evaluateRelease result.1 with
    | error e => rfl
    | ok assessment => rfl

/-- Without anything in between, the calls come to the assessment as a whole. -/
lemma interpret_assessing (outputs : AgentOutputs Output) (s : ReleaseTables Output) :
    (exec (interpret (atOnce outputs) (assessing options generated now run attempt)) s).2 =
      assess options generated now run attempt s := by
  have failed (e : Failure) (body : Stateful Failure (ReleaseTables Output) Unit)
      (threw : exec body s = (.error e, s)) :
      (exec (tryCatch body fun _ => interpret (atOnce outputs) (tryCatch
        (ask (.persistEvaluatorFailure generated (workerScope run attempt) now))
        fun _ => pure ())) s).2 =
        ((persistEvaluatorFailure generated (workerScope run attempt) now s).toOption).getD s := by
    rw [exec_tryCatch_error threw]
    exact interpret_failure outputs s
  rw [assessing, assess_eq, interpret_tryCatch, interpret_bind]
  cases loaded : loadEvidenceInputs run.id attempt s.platform with
  | error e =>
    refine failed e _ ?_
    rw [exec_bind, exec_atOnce, performAssessment, loaded]
    rfl
  | ok inputs =>
    have gathered : exec (interpret (atOnce outputs) (ask (.loadEvidenceInputs run.id attempt))) s =
        (.ok inputs, s) := by
      rw [exec_atOnce, performAssessment, loaded]
      rfl
    show _ = (Option.bind (Except.toOption (evaluation options generated now
      (workerScope run attempt) inputs)) _).getD _
    cases evaluated : evaluation options generated now (workerScope run attempt) inputs with
    | error e =>
      refine failed (.error "QUALITY_INPUT_INVALID") _ ?_
      rw [exec_bind_ok gathered, interpret_bind, evaluated]
      rfl
    | ok evaluated' =>
      show _ = (Except.toOption (persistAssessment generated (workerScope run attempt)
        evaluated'.assessment evaluated'.evidence evaluated'.unresolvedScenarios s)).getD _
      have last : exec (interpret (atOnce outputs) (ask (.loadEvidenceInputs run.id attempt)) >>=
          fun inputs => interpret (atOnce outputs) (do
            let evaluated ← ofExcept ((evaluation options generated now (workerScope run attempt)
              inputs).mapError fun _ => .error "QUALITY_INPUT_INVALID")
            ask (.persistAssessment generated (workerScope run attempt) evaluated))) s =
          settle ((persistAssessment generated (workerScope run attempt) evaluated'.assessment
            evaluated'.evidence evaluated'.unresolvedScenarios s).map ((), ·)) s := by
        rw [exec_bind_ok gathered, interpret_bind, evaluated]
        rfl
      cases written : persistAssessment generated (workerScope run attempt) evaluated'.assessment
          evaluated'.evidence evaluated'.unresolvedScenarios s with
      | error e =>
        rw [written] at last
        exact failed e _ last
      | ok s' =>
        rw [written] at last
        rw [exec_tryCatch_ok last]
        rfl

end Calls

section System

/-- What is done on the tables. -/
inductive AssessmentActivity (Output : Type) where
  | request :
    Operation Output → AssessmentActivity Output
  | assess :
    Generated → (now : Date) → RunExecutionRecord → (attempt : Nat) → AssessmentActivity Output
  | assessOnDemand :
    Generated → ReleaseAssessmentScope → AssessmentData → AssessmentActivity Output

/-- Attempts are counted from one. -/
def AssessmentActivity.counted : AssessmentActivity Output → Bool
  | .assess _ _ _ attempt => 1 ≤ attempt
  | .request _ | .assessOnDemand .. => true

/-- The calls of an activity. -/
def AssessmentActivity.program (options : AssessorOptions Output) :
    AssessmentActivity Output → AssessmentProgram Output Unit
  | .request o => do
    let _ ← ask (.transaction o)
  | .assess generated now run attempt => assessing options generated now run attempt
  | .assessOnDemand generated scope data => do
    let _ ← ask (.persistManual generated scope data)

/-- Source `CLIENT_PORTAL_CRITERION_KEYS_BY_SCENARIO`. -/
def clientPortalCriterionKeysByScenario : List (Utf16 × List Utf16) :=
  [(Utf16.ofString "client-sign-in", [Utf16.ofString "auth.sign_in"]),
    (Utf16.ofString "signed-out-visitor-blocked", [Utf16.ofString "auth.unauthenticated_redirect"])]

/-- How the worker configures its assessor. -/
def workerOptions (userStories : Output → Option (List UserStory))
    (report : Utf16 → Option (List AcceptanceScenarioResult)) : AssessorOptions Output where
  userStories
  report
  criterionKeysByScenario := clientPortalCriterionKeysByScenario

variable (outputs : AgentOutputs Output) (options : AssessorOptions Output)

/-- The activities, interleaved call by call. -/
def assessments : System (AssessmentCall Output) (fun o => Except Failure o.Answer)
    (ReleaseTables Output) (AssessmentActivity Output) (Except Failure Unit) where
  Choice := AssessmentEnvironment Output
  perform := performAssessment outputs
  body activity := (activity.program options).run
  admits _ activity := activity.counted = true

instance (s : ReleaseTables Output) (activity : AssessmentActivity Output) :
    Decidable ((assessments outputs options).admits s activity) :=
  inferInstanceAs (Decidable (_ = _))

/-- The states of the activities. -/
abbrev AssessmentConfig (Output : Type) : Type :=
  Config (AssessmentCall Output) (fun o => Except Failure o.Answer) (ReleaseTables Output)
    (AssessmentActivity Output) (Except Failure Unit)

/-- What happened, the latest last. -/
abbrev AssessmentHistory : Type :=
  List (AssessmentConfig Output × (assessments outputs options).Label)

/-- The calls that an activity has made. -/
abbrev AssessmentCalls (Output : Type) : Type :=
  List (Event (AssessmentCall Output) fun o => Except Failure o.Answer)

/-- What a call generates is new. -/
def FreshCall (s : ReleaseTables Output) : AssessmentCall Output → Prop
  | .persistAssessment generated _ evaluated => FreshFor generated evaluated.evidence s
  | .persistEvaluatorFailure generated .. | .persistManual generated .. =>
    ∀ other ∈ s.assessments, other.id ≠ generated.assessmentId
  | .transaction _ | .loadEvidenceInputs .. => True

instance {generated : Generated} {evidence : List QualityEvidence} {s : ReleaseTables Output} :
    Decidable (FreshFor generated evidence s) :=
  decidable_of_iff ((∀ other ∈ s.assessments, other.id ≠ generated.assessmentId) ∧
    ((evidence.filter fun item => item.kind = .acceptance).map QualityEvidence.id).Nodup ∧
    (∀ item ∈ evidence, item.kind = .acceptance → ∀ e ∈ s.evidence, e.id ≠ item.id) ∧
    ∀ item ∈ evidence, item.kind = .acceptance →
      ∀ check ∈ evidence, check.kind ≠ .acceptance → check.id ≠ item.id)
    ⟨fun ⟨assessment, distinct, stored, checks⟩ => ⟨assessment, distinct, stored, checks⟩,
      fun ⟨assessment, distinct, stored, checks⟩ => ⟨assessment, distinct, stored, checks⟩⟩

instance FreshCall.decidable (s : ReleaseTables Output) : ∀ o, Decidable (FreshCall s o)
  | .persistAssessment .. => inferInstanceAs (Decidable (FreshFor ..))
  | .persistEvaluatorFailure generated .. | .persistManual generated .. =>
    inferInstanceAs (Decidable (∀ other ∈ s.assessments, other.id ≠ generated.assessmentId))
  | .transaction _ | .loadEvidenceInputs .. => .isTrue trivial

/-- What a step generates is new. -/
def Fresh (c : AssessmentConfig Output) : (assessments outputs options).Label → Prop
  | .act _ o _ => FreshCall c.store o
  | .spawn _ => True

instance Fresh.decidable (c : AssessmentConfig Output) : ∀ l, Decidable (Fresh outputs options c l)
  | .act _ o _ => inferInstanceAs (Decidable (FreshCall c.store o))
  | .spawn _ => .isTrue trivial

end System

section Calls
variable {outputs : AgentOutputs Output} {options : AssessorOptions Output}
  {o : AssessmentCall Output} {env : AssessmentEnvironment Output} {s : ReleaseTables Output}
  {key : AssessmentKey}

/-- The key that a call writes under. -/
def AssessmentCall.key? : AssessmentCall Output → Option AssessmentKey
  | .persistAssessment _ scope _ | .persistEvaluatorFailure _ scope _ => some (scope.key .worker)
  | .persistManual _ scope _ => some (scope.key .manual)
  | .transaction _ | .loadEvidenceInputs .. => none

/-- What a call leaves alone. -/
structure Preserved (written : Option AssessmentKey) (s s' : ReleaseTables Output) : Prop where
  constrained : Constrained s'
  runs : ∀ runId, (s.platform.run? runId).isSome = true → (s'.platform.run? runId).isSome = true
  untouched : ∀ key, written ≠ some key → Untouched key s s'

lemma Preserved.refl {written : Option AssessmentKey} (constrained : Constrained s) :
    Preserved written s s :=
  ⟨constrained, fun _ there => there, fun _ _ => .refl⟩

lemma Replaced.preserved {row : ReleaseAssessmentRow} {rows : List ReleaseEvidenceRow}
    {s' : ReleaseTables Output} (replaced : Replaced row rows s s') :
    Preserved (some row.key) s s' := by
  refine ⟨replaced.constrained, fun runId there => ?_, fun key other => ?_⟩
  · rw [RunStore.run?, replaced.runs]
    exact there
  · exact replaced.untouched key fun same => other (congrArg some same.symm)

lemma Upserted.preserved {row : ReleaseAssessmentRow} {s' : ReleaseTables Output}
    (upserted : Upserted row s s') (constrained : Constrained s)
    (fresh : ∀ other ∈ s.assessments, other.id ≠ row.id) : Preserved (some row.key) s s' := by
  refine ⟨upserted.constrained constrained fresh, fun runId there => ?_, fun key other => ?_⟩
  · rw [upserted.platform]
    exact there
  · exact upserted.untouched constrained fresh fun same => other (congrArg some same.symm)

/-- A transaction changes no assessment. -/
lemma transaction_preserved {o : Operation Output} {env : Run.Environment}
    (constrained : Constrained s) :
    Preserved none s { s with platform := (Run.perform outputs o env s.platform).2 } := by
  refine ⟨⟨constrained.keys, constrained.ids, constrained.evidence, constrained.owned, ?_⟩, ?_,
    fun key _ => ⟨rfl, fun _ _ => rfl⟩⟩
  · rcases perform_commands outputs o env s.platform with kept | ⟨new, added⟩
    · rw [kept]
      exact constrained.commands
    · rw [added]
      refine List.nodup_append.mpr ⟨constrained.commands, List.nodup_singleton _, ?_⟩
      intro id mem id' mem' same
      rw [List.mem_singleton.mp mem'] at same
      exact new (same ▸ mem)
  · intro runId there
    obtain ⟨run, row⟩ := Option.isSome_iff_exists.mp there
    obtain ⟨run', row', -⟩ := perform_runStep outputs o env s.platform runId run row
    exact Option.isSome_iff_exists.mpr ⟨run', row'⟩

/-- What is not written under a key leaves the assessment there alone. -/
lemma performAssessment_preserved (constrained : Constrained s) (fresh : FreshCall s o) :
    Preserved o.key? s (performAssessment outputs o env s).2 := by
  cases o with
  | transaction o => exact transaction_preserved constrained
  | loadEvidenceInputs runId attempt => exact .refl constrained
  | persistAssessment generated scope evaluated =>
    rw [performAssessment]
    cases ok : persistAssessment generated scope evaluated.assessment evaluated.evidence
        evaluated.unresolvedScenarios s with
    | error e => exact .refl constrained
    | ok s' => exact (persistAssessment_ok constrained fresh.assessment ok).preserved
  | persistEvaluatorFailure generated scope now =>
    rw [performAssessment]
    cases ok : persistEvaluatorFailure generated scope now s with
    | error e => exact .refl constrained
    | ok s' => exact (persistEvaluatorFailure_ok constrained fresh ok).preserved
  | persistManual generated scope data =>
    rw [performAssessment]
    cases ok : persistManual generated scope data s with
    | error e => exact .refl constrained
    | ok result =>
      obtain ⟨row, s'⟩ := result
      exact (persistManual_ok constrained fresh ok).preserved constrained fresh

/-- What is gathered is of a run that exists, and each command once. -/
lemma loadEvidenceInputs_ok {runId : Uuid} {attempt : Nat} {inputs : ReleaseEvidenceInputs Output}
    (constrained : Constrained s)
    (ok : (performAssessment outputs (.loadEvidenceInputs runId attempt) env s).1 = .ok inputs) :
    (s.platform.run? runId).isSome = true ∧
      (inputs.baselineCommands.map BaselineCommandRecord.id).Nodup := by
  have gathers : (loadEvidenceInputs runId attempt s.platform).map _ = .ok inputs := ok
  obtain ⟨gathered, found, rfl⟩ := map_eq_ok gathers
  rw [loadEvidenceInputs] at found
  split at found
  · cases found
  · rename_i run row
    cases found
    refine ⟨Option.isSome_iff_exists.mpr ⟨run, row⟩, ?_⟩
    show ((List.map baselineCommandRecord _).map BaselineCommandRecord.id).Nodup
    rw [List.map_map]
    have sorted : ((commandsOf (isAttempt runId attempt) s.platform).map SandboxCommand.id).Nodup := by
      refine ((List.perm_insertionSort _ _).map SandboxCommand.id).nodup_iff.mpr ?_
      exact constrained.commands.sublist (List.filter_sublist.map _)
    exact sorted.sublist (List.filter_sublist.map _)

end Calls

section Accounting
variable (options : AssessorOptions Output) (generated : Generated) (now : Date)
  (run : RunExecutionRecord) (attempt : Nat)

/-- What an assessor gathered was evaluated to this. -/
def Evaluates (calls : AssessmentCalls Output) (evaluated : EvaluatedRelease) : Prop :=
  ∃ inputs, ⟨.loadEvidenceInputs run.id attempt, .ok inputs⟩ ∈ calls ∧
    evaluation options generated now (workerScope run attempt) inputs = .ok evaluated

/-- Gathering the inputs or evaluating them threw. -/
def Threw (calls : AssessmentCalls Output) : Prop :=
  (∃ e, ⟨.loadEvidenceInputs run.id attempt, .error e⟩ ∈ calls) ∨
    ∃ inputs, ⟨.loadEvidenceInputs run.id attempt, .ok inputs⟩ ∈ calls ∧
      ∃ e, evaluation options generated now (workerScope run attempt) inputs = .error e

/-- An assessor has tried to store what it evaluated. -/
def Tried (calls : AssessmentCalls Output) (r : Except Failure Unit) : Prop :=
  ∃ evaluated, Evaluates options generated now run attempt calls evaluated ∧
    ⟨.persistAssessment generated (workerScope run attempt) evaluated, r⟩ ∈ calls

/-- What an assessor did before a call. -/
def assessAccount (calls : AssessmentCalls Output) : AssessmentCall Output → Prop
  | .loadEvidenceInputs .. => calls = []
  | .persistAssessment generated' scope evaluated =>
    generated' = generated ∧ scope = workerScope run attempt ∧ ∃ inputs,
      calls = [⟨.loadEvidenceInputs run.id attempt, .ok inputs⟩] ∧
      evaluation options generated now (workerScope run attempt) inputs = .ok evaluated
  | .persistEvaluatorFailure generated' _ now' =>
    generated' = generated ∧ now' = now ∧ (Threw options generated now run attempt calls ∨
      ∃ e, Tried options generated now run attempt calls (.error e))
  | .transaction _ | .persistManual .. => False

variable {options generated now run attempt}

lemma Evaluates.append {calls : AssessmentCalls Output} {evaluated : EvaluatedRelease}
    (evaluates : Evaluates options generated now run attempt calls evaluated)
    (later : AssessmentCalls Output) :
    Evaluates options generated now run attempt (calls ++ later) evaluated := by
  obtain ⟨inputs, mem, ok⟩ := evaluates
  exact ⟨inputs, List.mem_append_left _ mem, ok⟩

lemma Threw.append {calls : AssessmentCalls Output}
    (threw : Threw options generated now run attempt calls) (later : AssessmentCalls Output) :
    Threw options generated now run attempt (calls ++ later) := by
  rcases threw with ⟨e, mem⟩ | ⟨inputs, mem, error⟩
  · exact .inl ⟨e, List.mem_append_left _ mem⟩
  · exact .inr ⟨inputs, List.mem_append_left _ mem, error⟩

lemma Tried.append {calls : AssessmentCalls Output} {r : Except Failure Unit}
    (tried : Tried options generated now run attempt calls r) (later : AssessmentCalls Output) :
    Tried options generated now run attempt (calls ++ later) r := by
  obtain ⟨evaluated, evaluates, mem⟩ := tried
  exact ⟨evaluated, evaluates.append later, List.mem_append_left _ mem⟩

/-- An assessor that has ended tried to store what it evaluated, unless something threw before. -/
lemma assessing_account :
    Accounts (assessAccount options generated now run attempt) (fun calls => calls = [])
      (assessing options generated now run attempt)
      (fun _ calls => Threw options generated now run attempt calls ∨
        ∃ r, Tried options generated now run attempt calls r) fun _ _ => False := by
  refine .tryCatch (R := fun _ calls => Threw options generated now run attempt calls ∨
    ∃ e, Tried options generated now run attempt calls (.error e)) ?_ fun error => ?_
  · refine .bind (R := fun inputs calls =>
      calls = [⟨.loadEvidenceInputs run.id attempt, .ok inputs⟩]) ?_ fun inputs => ?_
    · refine Accounts.call (fun calls start => start) ?_ ?_
      · rintro calls inputs rfl
        rfl
      · intro calls e _
        exact .inl (.inl ⟨e, List.mem_append_right _ List.mem_cons_self⟩)
    cases evaluated : evaluation options generated now (workerScope run attempt) inputs with
    | error e =>
      refine .bind (R := fun _ _ => False) (Triple.throw fun calls gathered => ?_) fun _ _ no => no.elim
      exact .inl (.inr ⟨inputs, gathered ▸ List.mem_cons_self, e, evaluated⟩)
    | ok evaluated' =>
      refine .bind (R := fun found calls => found = evaluated' ∧
        calls = [⟨.loadEvidenceInputs run.id attempt, .ok inputs⟩]) ?_ fun found => ?_
      · exact Triple.pure fun calls gathered => ⟨rfl, gathered⟩
      have tried (calls : AssessmentCalls Output) (r : Except Failure Unit)
          (gathered : calls = [⟨.loadEvidenceInputs run.id attempt, .ok inputs⟩]) :
          Tried options generated now run attempt
            (calls ++ [⟨.persistAssessment generated (workerScope run attempt) evaluated', r⟩]) r := by
        refine ⟨evaluated', ⟨inputs, ?_, evaluated⟩, ?_⟩
        · exact List.mem_append_left _ (gathered ▸ List.mem_cons_self)
        · exact List.mem_append_right _ List.mem_cons_self
      refine Accounts.call ?_ ?_ ?_
      · rintro calls ⟨rfl, gathered⟩
        exact ⟨rfl, rfl, inputs, gathered, evaluated⟩
      · rintro calls ⟨⟩ ⟨rfl, gathered⟩
        exact .inr ⟨_, tried calls _ gathered⟩
      · rintro calls e ⟨rfl, gathered⟩
        exact .inr ⟨e, tried calls _ gathered⟩
  · have later (calls calls' : AssessmentCalls Output)
        (failed : Threw options generated now run attempt calls ∨
          ∃ e, Tried options generated now run attempt calls (.error e)) :
        Threw options generated now run attempt (calls ++ calls') ∨
          ∃ r, Tried options generated now run attempt (calls ++ calls') r := by
      rcases failed with threw | ⟨e, tried⟩
      · exact .inl (threw.append calls')
      · exact .inr ⟨_, tried.append calls'⟩
    refine .tryCatch (R := fun _ calls => Threw options generated now run attempt calls ∨
      ∃ r, Tried options generated now run attempt calls r) ?_ fun _ => ?_
    · refine Accounts.call ?_ ?_ ?_
      · exact fun calls failed => ⟨rfl, rfl, failed⟩
      · exact fun calls _ failed => later calls _ failed
      · exact fun calls e failed => later calls _ failed
    · exact Triple.pure fun calls ended => ended

variable (options) in
/-- What an activity did before a call. -/
def activityAccount :
    AssessmentActivity Output → AssessmentCalls Output → AssessmentCall Output → Prop
  | .request o => fun _ o' => o' = .transaction o
  | .assess generated now run attempt => assessAccount options generated now run attempt
  | .assessOnDemand generated scope data => fun _ o' => o' = .persistManual generated scope data

lemma program_account (activity : AssessmentActivity Output) :
    Accounts (activityAccount options activity) (fun calls => calls = []) (activity.program options)
      (fun _ _ => True) fun _ _ => True := by
  have single (o : AssessmentCall Output) :
      Accounts (fun _ o' => o' = o) (fun calls : AssessmentCalls Output => calls = [])
        (do let _ ← ask o : AssessmentProgram Output Unit) (fun _ _ => True) fun _ _ => True := by
    refine .bind (R := fun _ _ => True) ?_ fun _ => Triple.pure fun _ _ => trivial
    exact Accounts.call (fun _ _ => rfl) (fun _ _ _ => trivial) fun _ _ _ => trivial
  cases activity with
  | request o => exact single _
  | assess generated now run attempt =>
    exact assessing_account.mono (fun _ start => start) (fun _ _ _ => trivial) fun _ _ no => no.elim
  | assessOnDemand generated scope data => exact single _

end Accounting

section Runs
variable {outputs : AgentOutputs Output} {userStories : Output → Option (List UserStory)}
  {report : Utf16 → Option (List AcceptanceScenarioResult)} {c₀ c c' : AssessmentConfig Output}
  {h : AssessmentHistory outputs (workerOptions userStories report)}
  {l : (assessments outputs (workerOptions userStories report)).Label}

/-- What holds all along: the constraints, and that what was gathered is of a run that exists. -/
structure Sound (h : AssessmentHistory outputs (workerOptions userStories report))
    (c : AssessmentConfig Output) : Prop where
  constrained : Constrained c.store
  loaded : ∀ i runId attempt inputs,
    ⟨.loadEvidenceInputs runId attempt, .ok inputs⟩ ∈ System.calls i h →
    (c.store.platform.run? runId).isSome = true ∧
      (inputs.baselineCommands.map BaselineCommandRecord.id).Nodup

/-- The step lemma. -/
lemma Sound.step (sound : Sound h c)
    (fresh : Fresh outputs (workerOptions userStories report) c l)
    (step : (assessments outputs (workerOptions userStories report)).Step c l c') :
    Sound (h ++ [(c, l)]) c' := by
  cases step with
  | @act i tag o k env at_i =>
    have preserved : Preserved o.key? c.store (performAssessment outputs o env c.store).2 :=
      performAssessment_preserved sound.constrained fresh
    refine ⟨preserved.constrained, fun j runId attempt inputs mem => ?_⟩
    by_cases same : i = j
    · subst same
      rw [System.calls_act] at mem
      rcases List.mem_append.mp mem with old | new
      · obtain ⟨there, distinct⟩ := sound.loaded i runId attempt inputs old
        exact ⟨preserved.runs runId there, distinct⟩
      · have event := List.mem_singleton.mp new
        cases o with
        | loadEvidenceInputs =>
          injection event with calls answer
          cases calls
          have ok : (performAssessment outputs (.loadEvidenceInputs runId attempt) env c.store).1 =
              .ok inputs := answer.symm
          obtain ⟨there, distinct⟩ := loadEvidenceInputs_ok sound.constrained ok
          exact ⟨preserved.runs runId there, distinct⟩
        | _ =>
          injection event with calls
          cases calls
    · rw [System.calls_act_ne same] at mem
      obtain ⟨there, distinct⟩ := sound.loaded j runId attempt inputs mem
      exact ⟨preserved.runs runId there, distinct⟩
  | spawn =>
    refine ⟨sound.constrained, fun j runId attempt inputs mem => ?_⟩
    rw [System.calls_spawn] at mem
    exact sound.loaded j runId attempt inputs mem

/-- A history begins without activities, on tables that satisfy the constraints. -/
structure Begins (c₀ : AssessmentConfig Output) : Prop where
  constrained : Constrained c₀.store
  idle : c₀.threads = []

/-- The run lemma. -/
lemma Begins.sound (begins : Begins c₀)
    (traced : (assessments outputs (workerOptions userStories report)).Traced
      (Fresh outputs (workerOptions userStories report)) c₀ h c) : Sound h c := by
  induction traced with
  | nil => exact ⟨begins.constrained, fun _ _ _ _ mem => absurd mem List.not_mem_nil⟩
  | snoc _ fresh step ih => exact ih.step fresh step

/-- Whether a step writes under a key. -/
def Writes (key : AssessmentKey) :
    AssessmentConfig Output × (assessments outputs (workerOptions userStories report)).Label → Prop
  | (_, .act _ o _) => o.key? = some key
  | (_, .spawn _) => False

/-- An evaluation is stored, with its evidence. -/
def Stored (generated : Generated) (scope : ReleaseAssessmentScope) (evaluated : EvaluatedRelease)
    (s : ReleaseTables Output) : Prop :=
  ∃ row, s.assessment? (scope.key .worker) = some row ∧ row.id = generated.assessmentId ∧
    row.data = .of evaluated.assessment evaluated.assessment.scope.snapshotSha256
      evaluated.assessment.evaluatedAt ∧
    s.evidenceOf row.id = evaluated.evidence.map (evidenceRowOf row.id)

/-- What is evaluated is stored until something else is written under its key, and a failure is stored
    only if something threw. -/
structure StoredAsEvaluated (h : AssessmentHistory outputs (workerOptions userStories report))
    (c : AssessmentConfig Output) : Prop where
  persisted : ∀ (h₁ : AssessmentHistory outputs (workerOptions userStories report)) c₁ i generated
    scope evaluated env h₂,
    h = h₁ ++ (c₁, .act i (.persistAssessment generated scope evaluated) env) :: h₂ →
    (performAssessment outputs (.persistAssessment generated scope evaluated) env c₁.store).1 = .ok () ∧
      ((∀ entry ∈ h₂, ¬ Writes (scope.key .worker) entry) → Stored generated scope evaluated c.store)
  evaluated : ∀ (h₁ : AssessmentHistory outputs (workerOptions userStories report)) c₁ i generated
    scope evaluated env h₂,
    h = h₁ ++ (c₁, .act i (.persistAssessment generated scope evaluated) env) :: h₂ →
    ∃ now run attempt k, c₁.threads[i]? = some ⟨.assess generated now run attempt, k⟩ ∧
      scope = workerScope run attempt ∧
      Evaluates (workerOptions userStories report) generated now run attempt (System.calls i h₁)
        evaluated
  failed : ∀ (h₁ : AssessmentHistory outputs (workerOptions userStories report)) c₁ i generated scope
    now env h₂,
    h = h₁ ++ (c₁, .act i (.persistEvaluatorFailure generated scope now) env) :: h₂ →
    ∃ run attempt k, c₁.threads[i]? = some ⟨.assess generated now run attempt, k⟩ ∧
      Threw (workerOptions userStories report) generated now run attempt (System.calls i h₁)
  ended : ∀ (i : Nat) generated now run attempt r,
    c.threads[i]? = some ⟨.assess generated now run attempt, .ret r⟩ →
    Threw (workerOptions userStories report) generated now run attempt (System.calls i h) ∨
      Tried (workerOptions userStories report) generated now run attempt (System.calls i h) (.ok ())

/-- None of the checks that an assessment was gathered from is the evidence of an assessment under
    another key when it is stored. -/
def Unshared (h : AssessmentHistory outputs (workerOptions userStories report)) :
    AssessmentConfig Output × (assessments outputs (workerOptions userStories report)).Label → Prop
  | (c, .act i (.persistAssessment _ scope _) _) => ∀ inputs,
    ⟨.loadEvidenceInputs scope.runId scope.attempt, .ok inputs⟩ ∈ System.calls i h →
    ∀ command ∈ checkCommands inputs.baselineCommands, ∀ e ∈ c.store.evidence, e.id = command.id →
      c.store.belongs (scope.key .worker) e
  | _ => True

lemma Replaced.holds {generated : Generated} {scope : ReleaseAssessmentScope}
    {evaluated : EvaluatedRelease} {s s' : ReleaseTables Output}
    (replaced : Replaced (workerRow generated scope
      (.of evaluated.assessment evaluated.assessment.scope.snapshotSha256
        evaluated.assessment.evaluatedAt))
      (evaluated.evidence.map (evidenceRowOf generated.assessmentId)) s s') :
    Stored generated scope evaluated s' := by
  obtain ⟨row, there, id, data⟩ := replaced.stored
  refine ⟨row, there, id, data, ?_⟩
  have own : row.id = generated.assessmentId := id
  rw [own]
  exact replaced.evidence

lemma Stored.untouched {generated : Generated} {scope : ReleaseAssessmentScope}
    {evaluated : EvaluatedRelease} {s s' : ReleaseTables Output}
    (stored : Stored generated scope evaluated s) (untouched : Untouched (scope.key .worker) s s') :
    Stored generated scope evaluated s' := by
  obtain ⟨row, there, id, data, evidence⟩ := stored
  exact ⟨row, untouched.1.trans there, id, data, (untouched.2 row there).trans evidence⟩

/-- What was evaluated has the identifiers of the checks it was gathered from. -/
lemma evaluation_ok {options : AssessorOptions Output} {generated : Generated} {now : Date}
    {scope : ReleaseAssessmentScope} {inputs : ReleaseEvidenceInputs Output}
    {evaluated : EvaluatedRelease}
    (ok : evaluation options generated now scope inputs = .ok evaluated) :
    Gathered options inputs evaluated.evidence evaluated.unresolvedScenarios := by
  obtain ⟨⟨input, unresolved⟩, gathered, rest⟩ := bind_eq_ok ok
  obtain ⟨assessment, -, done⟩ := bind_eq_ok rest
  cases done
  exact workerEvaluation_ok gathered

/-- The checks are unshared exactly if their commands are. -/
lemma checksUnshared_iff {options : AssessorOptions Output} {inputs : ReleaseEvidenceInputs Output}
    {evidence : List QualityEvidence} {unresolved : List (Utf16 × List Utf16)} {key : AssessmentKey}
    {s : ReleaseTables Output} (gathered : Gathered options inputs evidence unresolved) :
    ChecksUnshared key evidence s ↔ ∀ command ∈ checkCommands inputs.baselineCommands,
      ∀ e ∈ s.evidence, e.id = command.id → s.belongs key e := by
  have members (id : Uuid) : (∃ item ∈ evidence, item.kind ≠ .acceptance ∧ item.id = id) ↔
      ∃ command ∈ checkCommands inputs.baselineCommands, command.id = id := by
    rw [← List.mem_map, ← gathered.checks, List.mem_map]
    simp only [List.mem_filter, decide_eq_true_eq, and_assoc]
  constructor
  · intro unshared command mem e stored same
    obtain ⟨item, mem', check, id⟩ := (members command.id).mpr ⟨command, mem, rfl⟩
    exact unshared item mem' check e stored (same.trans id.symm)
  · intro unshared item mem check e stored same
    obtain ⟨command, mem', id⟩ := (members item.id).mp ⟨item, mem, check, rfl⟩
    exact unshared command mem' e stored (same.trans id.symm)

/-- What an assessor tried to store was stored. -/
lemma Tried.ok {i : Nat} {generated : Generated} {now : Date} {run : RunExecutionRecord}
    {attempt : Nat} {r : Except Failure Unit}
    (tried : Tried (workerOptions userStories report) generated now run attempt (System.calls i h) r)
    (persisted : ∀ (h₁ : AssessmentHistory outputs (workerOptions userStories report)) c₁ i generated
      scope evaluated env h₂,
      h = h₁ ++ (c₁, .act i (.persistAssessment generated scope evaluated) env) :: h₂ →
      (performAssessment outputs (.persistAssessment generated scope evaluated) env c₁.store).1 =
        .ok ()) : r = .ok () := by
  obtain ⟨evaluated, -, mem⟩ := tried
  obtain ⟨h₁, c₁, env, h₂, split, answer⟩ := System.mem_calls mem
  rw [← answer]
  exact persisted h₁ c₁ i _ _ _ env h₂ split

/-- A step that does not write under a key leaves what is stored there. -/
lemma Stored.step {generated : Generated} {scope : ReleaseAssessmentScope}
    {evaluated : EvaluatedRelease} (stored : Stored generated scope evaluated c.store)
    (sound : Sound h c) (fresh : Fresh outputs (workerOptions userStories report) c l)
    (step : (assessments outputs (workerOptions userStories report)).Step c l c')
    (quiet : ¬ Writes (scope.key .worker) (c, l)) : Stored generated scope evaluated c'.store := by
  cases step with
  | @act i tag o k env at_i =>
    have preserved : Preserved o.key? c.store (performAssessment outputs o env c.store).2 :=
      performAssessment_preserved sound.constrained fresh
    exact stored.untouched (preserved.untouched _ quiet)
  | spawn => exact stored

lemma reportable : Reportable clientPortalCriterionKeysByScenario := by
  unfold Reportable
  decide +kernel

lemma answered_iff {generated : Generated} {scope : ReleaseAssessmentScope}
    {evaluated : EvaluatedRelease} {env : AssessmentEnvironment Output} {s : ReleaseTables Output} :
    (performAssessment outputs (.persistAssessment generated scope evaluated) env s).1 = .ok () ↔
      ∃ s', persistAssessment generated scope evaluated.assessment evaluated.evidence
        evaluated.unresolvedScenarios s = .ok s' := by
  rw [performAssessment]
  cases persistAssessment generated scope evaluated.assessment evaluated.evidence
      evaluated.unresolvedScenarios s with
  | error e => exact iff_of_false (fun same => nomatch same) fun ⟨s', same⟩ => nomatch same
  | ok s' => exact iff_of_true rfl ⟨s', rfl⟩

section Steps
variable (begins : Begins c₀)
  (traced : (assessments outputs (workerOptions userStories report)).Traced
    (Fresh outputs (workerOptions userStories report)) c₀ h c)
include begins traced

/-- What a thread did before the call it is about to make. -/
lemma accounted {i : Nat} {tag : AssessmentActivity Output} {o : AssessmentCall Output}
    {k : Except Failure o.Answer → Prog (AssessmentCall Output) (fun o => Except Failure o.Answer)
      (Except Failure Unit)} (at_i : c.threads[i]? = some ⟨tag, .call o k⟩) :
    activityAccount (workerOptions userStories report) tag (System.calls i h) o :=
  traced.accounted begins.idle at_i (program_account tag [] rfl)

/-- The scope of an assessor has a counted attempt. -/
lemma counted {i : Nat} {tag : AssessmentActivity Output}
    {p : Prog (AssessmentCall Output) (fun o => Except Failure o.Answer) (Except Failure Unit)}
    (at_i : c.threads[i]? = some ⟨tag, p⟩) : tag.counted = true :=
  traced.reaches.tags (P := fun _ tag => tag.counted = true) id id begins.idle _
    (List.mem_of_getElem? at_i)

/-- An assessment that is about to be stored will be exactly if its checks are unshared. -/
lemma persists_iff {i : Nat} {tag : AssessmentActivity Output} {generated : Generated}
    {scope : ReleaseAssessmentScope} {evaluated : EvaluatedRelease}
    {k : Except Failure Unit → Prog (AssessmentCall Output) (fun o => Except Failure o.Answer)
      (Except Failure Unit)} (env : AssessmentEnvironment Output)
    (at_i : c.threads[i]? = some ⟨tag, .call (.persistAssessment generated scope evaluated) k⟩)
    (fresh : FreshFor generated evaluated.evidence c.store) :
    (performAssessment outputs (.persistAssessment generated scope evaluated) env c.store).1 = .ok () ↔
      Unshared h (c, .act i (.persistAssessment generated scope evaluated) env) := by
  have account := accounted begins traced at_i
  have sound := begins.sound traced
  cases tag with
  | request o => cases account
  | assessOnDemand => cases account
  | assess generated' now run attempt =>
    obtain ⟨rfl, rfl, inputs, gathered, ok⟩ := account
    have checks := evaluation_ok ok
    obtain ⟨there, distinct⟩ := sound.loaded i run.id attempt inputs (gathered ▸ List.mem_cons_self)
    have ids : ((evaluated.evidence.filter fun item => item.kind ≠ .acceptance).map
        QualityEvidence.id).Nodup := by
      rw [checks.checks]
      exact distinct.sublist (List.filter_sublist.map _)
    have positive : 1 ≤ attempt := of_decide_eq_true (counted begins traced at_i)
    rw [answered_iff, persistAssessment_ok_iff sound.constrained fresh ids there
      (acceptsEvents reportable positive checks.unresolved), checksUnshared_iff checks]
    constructor
    · intro unshared inputs' mem
      rw [gathered] at mem
      cases List.mem_singleton.mp mem
      exact unshared
    · intro unshared
      exact unshared inputs (gathered ▸ List.mem_cons_self)

omit traced in
lemma evaluated_step {i : Nat} {tag : AssessmentActivity Output} {generated : Generated}
    {scope : ReleaseAssessmentScope} {evaluated : EvaluatedRelease}
    {k : Except Failure Unit → Prog (AssessmentCall Output) (fun o => Except Failure o.Answer)
      (Except Failure Unit)}
    (traced : (assessments outputs (workerOptions userStories report)).Traced
      (Fresh outputs (workerOptions userStories report)) c₀ h c)
    (at_i : c.threads[i]? = some ⟨tag, .call (.persistAssessment generated scope evaluated) k⟩) :
    ∃ now run attempt k', c.threads[i]? = some ⟨.assess generated now run attempt, k'⟩ ∧
      scope = workerScope run attempt ∧
      Evaluates (workerOptions userStories report) generated now run attempt (System.calls i h)
        evaluated := by
  have account := accounted begins traced at_i
  cases tag with
  | request o => cases account
  | assessOnDemand => cases account
  | assess generated' now run attempt =>
    obtain ⟨rfl, rfl, inputs, gathered, ok⟩ := account
    exact ⟨now, run, attempt, _, at_i, rfl, inputs, gathered ▸ List.mem_cons_self, ok⟩

/-- The step lemma: an evaluation is stored exactly if its checks are unshared. -/
lemma storedAsEvaluated_step (fresh : Fresh outputs (workerOptions userStories report) c l)
    (step : (assessments outputs (workerOptions userStories report)).Step c l c')
    (stored : StoredAsEvaluated h c) :
    StoredAsEvaluated (h ++ [(c, l)]) c' ↔ Unshared h (c, l) := by
  have sound := begins.sound traced
  constructor
  · intro stored'
    cases step with
    | spawn => trivial
    | @act i tag o k env at_i =>
      cases o with
      | persistAssessment generated scope evaluated =>
        have succeeds := (stored'.persisted h c i generated scope evaluated env [] rfl).1
        exact (persists_iff begins traced env at_i fresh).mp succeeds
      | _ => trivial
  intro unshared
  have persisted : ∀ (h₁ : AssessmentHistory outputs (workerOptions userStories report)) c₁ i generated
      scope evaluated env h₂,
      h ++ [(c, l)] = h₁ ++ (c₁, .act i (.persistAssessment generated scope evaluated) env) :: h₂ →
      (performAssessment outputs (.persistAssessment generated scope evaluated) env c₁.store).1 =
          .ok () ∧
        ((∀ entry ∈ h₂, ¬ Writes (scope.key .worker) entry) →
          Stored generated scope evaluated c'.store) := by
    intro h₁ c₁ i generated scope evaluated env h₂ split
    rcases snoc_eq_append_cons.mp split with ⟨rfl, rfl, last⟩ | ⟨h₂, rfl, earlier⟩
    · cases last
      cases step with
      | act _ at_i =>
        have succeeds := (persists_iff begins traced env at_i fresh).mpr unshared
        refine ⟨succeeds, fun _ => ?_⟩
        obtain ⟨s', ok⟩ := answered_iff.mp succeeds
        have replaced := persistAssessment_ok sound.constrained fresh.assessment ok
        show Stored generated scope evaluated (performAssessment outputs
          (.persistAssessment generated scope evaluated) env c.store).2
        rw [performAssessment, ok]
        exact replaced.holds
    · obtain ⟨succeeds, kept⟩ := stored.persisted h₁ c₁ i generated scope evaluated env h₂ earlier
      refine ⟨succeeds, fun quiet => ?_⟩
      have before := kept fun entry mem => quiet entry (List.mem_append_left _ mem)
      exact before.step sound fresh step (quiet _ (List.mem_append_right _ List.mem_cons_self))
  refine ⟨persisted, ?_, ?_, ?_⟩
  · intro h₁ c₁ i generated scope evaluated env h₂ split
    rcases snoc_eq_append_cons.mp split with ⟨rfl, rfl, last⟩ | ⟨h₂, rfl, earlier⟩
    · cases last
      cases step with
      | act _ at_i => exact evaluated_step begins traced at_i
    · exact stored.evaluated h₁ c₁ i generated scope evaluated env h₂ earlier
  · intro h₁ c₁ i generated scope now env h₂ split
    rcases snoc_eq_append_cons.mp split with ⟨rfl, rfl, last⟩ | ⟨h₂, rfl, earlier⟩
    · cases last
      cases step with
      | @act _ tag _ _ _ at_i =>
        have account := accounted begins traced at_i
        cases tag with
        | request o => cases account
        | assessOnDemand => cases account
        | assess generated' now' run attempt =>
          obtain ⟨rfl, rfl, threw | ⟨e, tried⟩⟩ := account
          · exact ⟨run, attempt, _, at_i, threw⟩
          · -- the attempt to store would have failed
            cases tried.ok fun h₁ c₁ i generated scope evaluated env h₂ split =>
              (stored.persisted h₁ c₁ i generated scope evaluated env h₂ split).1
    · exact stored.failed h₁ c₁ i generated scope now env h₂ earlier
  · intro i generated now run attempt r at_i
    have concluded := (traced.snoc fresh step).concluded begins.idle at_i (assessing_account [] rfl)
    cases r with
    | error e => cases concluded
    | ok u =>
      rcases concluded with threw | ⟨r, tried⟩
      · exact .inl threw
      · have ok := tried.ok fun h₁ c₁ i generated scope evaluated env h₂ split =>
          (persisted h₁ c₁ i generated scope evaluated env h₂ split).1
        exact .inr (ok ▸ tried)

end Steps

/-- In every history of requests, jobs and assessments, interleaved in any way, every evaluation is stored
    as evaluated, and a failure only if something threw, exactly if no assessment is to be stored one of
    whose checks is already the evidence of an assessment under another key. -/
theorem evaluations_stored_iff (begins : Begins c₀)
    (traced : (assessments outputs (workerOptions userStories report)).Traced
      (Fresh outputs (workerOptions userStories report)) c₀ h c) :
    (∀ h₁ c₁, System.Passes h c h₁ c₁ → StoredAsEvaluated h₁ c₁) ↔
      ∀ h₁ entry h₂, h = h₁ ++ entry :: h₂ → Unshared h₁ entry := by
  refine System.Traced.throughout_guarded_iff ?_ ?_ traced
  · refine ⟨?_, ?_, ?_, ?_⟩
    · intro h₁ c₁ i generated scope evaluated env h₂ split
      cases h₁ <;> cases split
    · intro h₁ c₁ i generated scope evaluated env h₂ split
      cases h₁ <;> cases split
    · intro h₁ c₁ i generated scope now env h₂ split
      cases h₁ <;> cases split
    · intro i generated now run attempt r at_i
      rw [begins.idle] at at_i
      cases at_i
  · intro h c l c' traced fresh step stored
    exact storedAsEvaluated_step begins traced fresh step stored

end Runs

section Scenario

/-- A worker whose agents say nothing. -/
abbrev quietAssessments : System (AssessmentCall Unit) (fun o => Except Failure o.Answer)
    (ReleaseTables Unit) (AssessmentActivity Unit) (Except Failure Unit) :=
  assessments silentOutputs (workerOptions (fun _ => none) fun _ => none)

/-- A run that waits for its job, and no assessment. -/
def unassessed : AssessmentConfig Unit :=
  ⟨{ platform := pendingRun }, []⟩

lemma unassessed_begins : Begins unassessed where
  constrained :=
    ⟨List.nodup_nil, List.nodup_nil, List.nodup_nil, fun _ mem => absurd mem List.not_mem_nil,
      List.nodup_nil⟩
  idle := rfl

/-- A transaction by a thread of its own. -/
def requests (thread : Nat) (o : Operation Unit) (id : Uuid := 0) : List quietAssessments.Move :=
  [.spawn (.request o), .act thread { run := { id } }]

/-- The run as it is claimed. -/
def claimedRun (controlVersion : Nat) : RunExecutionRecord :=
  ⟨1, 1, 1, .running, "A landing page", controlVersion⟩

/-- A validation that lints. -/
def lints (thread controlVersion : Nat) : List quietAssessments.Move :=
  requests thread (.createSandboxSession ⟨claimedRun controlVersion, 1, "sandbox", 100, 5⟩) 20 ++
    requests (thread + 1) (.markSandboxFilesRestored 1 controlVersion 20 6) ++
    requests (thread + 2) (.recordSandboxCommand ⟨1, controlVersion, 20,
      ⟨0, "lint", "npm run lint", 0, [], [], 1, 6, 7⟩, 7⟩) 30

/-- An assessment that gathers its inputs and is to be stored. -/
def assesses (thread controlVersion assessmentId : Nat) : List quietAssessments.Move :=
  [.spawn (.assess ⟨assessmentId, id, 8⟩ 8 (claimedRun controlVersion) 1),
    .act thread { files := some [⟨"index.html", 1, ""⟩] }, .act thread {}]

/-- The run is claimed, validated and assessed. -/
def assessedOnce : List quietAssessments.Move :=
  requests 0 (.claimRun ⟨1, .start, 0, none, none⟩ 4) ++ lints 1 1 ++ assesses 4 1 40

/-- It is paused before it is completed, resumed, and validated and assessed again. -/
def assessedTwice : List quietAssessments.Move :=
  assessedOnce ++ requests 5 (.transitionRun 1 .pause .running 1 9) ++
    requests 6 (.transitionRun 1 .resume .paused 2 10) ++
    requests 7 (.claimRun ⟨1, .resume, 3, none, none⟩ 11) ++ lints 8 4 ++ assesses 11 4 50

/-- `evaluations_stored_iff` for a run that is assessed once. -/
theorem evaluations_stored_iff_once :
    ∃ (h : AssessmentHistory silentOutputs (workerOptions (fun _ => none) fun _ => none))
      (c : AssessmentConfig Unit), c.store.evidence.map ReleaseEvidenceRow.id = [30] ∧
      ((∀ h₁ c₁, System.Passes h c h₁ c₁ → StoredAsEvaluated h₁ c₁) ↔
        ∀ h₁ entry h₂, h = h₁ ++ entry :: h₂ → Unshared h₁ entry) := by
  have run : (quietAssessments.record unassessed assessedOnce).any (fun (h, c) =>
      (h.all fun entry => decide (Fresh _ _ entry.1 entry.2)) &&
        decide (c.store.evidence.map ReleaseEvidenceRow.id = [30])) = true := by
    decide +kernel
  obtain ⟨h, c, traced, holds⟩ := System.exists_traced run
  obtain ⟨fresh, stored⟩ := Bool.and_eq_true_iff.mp holds
  refine ⟨h, c, of_decide_eq_true stored, evaluations_stored_iff unassessed_begins ?_⟩
  exact traced.guarded fun entry mem => of_decide_eq_true (List.all_eq_true.mp fresh entry mem)

/-- Whether an assessment is refused in a step. -/
def refuses : AssessmentConfig Unit × quietAssessments.Label → Bool
  | (c, .act _ (.persistAssessment generated scope evaluated) _) =>
    (persistAssessment generated scope evaluated.assessment evaluated.evidence
      evaluated.unresolvedScenarios c.store).toOption.isNone
  | _ => false

/-- A run is paused between its assessment and its completion. After it is resumed, its commands are
    those of the same session, and the second assessment is not stored. -/
theorem evaluations_lost :
    ¬ ∀ (c₀ c : AssessmentConfig Unit)
      (h : AssessmentHistory silentOutputs (workerOptions (fun _ => none) fun _ => none)),
      Begins c₀ → quietAssessments.Traced (Fresh _ _) c₀ h c → StoredAsEvaluated h c := by
  intro always
  have run : (quietAssessments.record unassessed assessedTwice).any (fun (h, _) =>
      (h.all fun entry => decide (Fresh _ _ entry.1 entry.2)) && h.any refuses) = true := by
    decide +kernel
  obtain ⟨h, c, traced, holds⟩ := System.exists_traced run
  obtain ⟨fresh, refused⟩ := Bool.and_eq_true_iff.mp holds
  have guarded := traced.guarded fun entry mem =>
    of_decide_eq_true (List.all_eq_true.mp fresh entry mem)
  have stored := always _ c h unassessed_begins guarded
  obtain ⟨⟨c₁, l⟩, mem, refuses⟩ := List.any_eq_true.mp refused
  obtain ⟨h₁, h₂, split⟩ := List.append_of_mem mem
  cases l with
  | spawn => cases refuses
  | act i o env =>
    cases o with
    | persistAssessment generated scope evaluated =>
      obtain ⟨s', ok⟩ := answered_iff.mp (stored.persisted h₁ c₁ i generated scope evaluated env h₂
        split).1
      have none : (Except.toOption (persistAssessment generated scope evaluated.assessment
        evaluated.evidence evaluated.unresolvedScenarios c₁.store)).isNone = true := refuses
      rw [ok] at none
      cases none
    | _ => cases refuses

end Scenario

end AtomsPlatform.Release
