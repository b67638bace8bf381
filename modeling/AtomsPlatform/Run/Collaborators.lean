import AtomsPlatform.Run.Processor

/-!
# The processor and its collaborators

`RunProcessor.process` again, as a program of any monad with exceptions over the collaborators that it
is constructed with. An assessment and a revocation are asked for and settle: where the source has
`.catch(() => undefined)`, a rejection is ignored, but a call that throws before it returns a promise is
not. With the collaborators of the worker this is the job of the graph and its store
(`process_worker`).
-/

namespace AtomsPlatform.Run
open Interleaving
variable {Output : Type} {schemas : AgentOutputSchemas Output}

/-- Source `RunRepairInput`. -/
structure RunRepairInput (schemas : AgentOutputSchemas Output) where
  run : RunExecutionRecord
  failure : ValidationFailure
  upstreamOutputs : RunOutputs schemas
  repairAttempt : Nat

/-- Source `RunProcessorOptions`, with the graph built from them. What the graph returns is read by
    `parseUpstreamOutputs`; a call of the assessor or of a lease answers how its promise settles. -/
structure Collaborators (schemas : AgentOutputSchemas Output) (Outputs : Type) (M : Type → Type) where
  now : M Date
  claimRun : RunJob → Date → M RunClaimResult
  invokeGraph : RunState schemas → M Outputs
  parseUpstreamOutputs : Outputs → Except Thrown (RunOutputs schemas)
  listProjectFiles : Uuid → M (List AgentProjectFile)
  validator : Option (RunExecutionRecord → Nat → M (Option Uuid)) := none
  assessor : Option (RunExecutionRecord → Nat → M (Except Thrown Unit)) := none
  repairer : Option (RunRepairInput schemas → M Bool) := none
  maxRepairAttempts : Nat := 0
  revoke : Uuid → M (Except Thrown Unit)
  completeRun : Uuid → Nat → Date → M Bool
  failRun : Uuid → Nat → RunError → Date → M Bool

namespace Collaborators
variable {Outputs : Type} {M : Type → Type} [Monad M] [MonadExcept Thrown M]
  (collaborators : Collaborators schemas Outputs M)

/-- `parseUpstreamOutputs(outputs)` -/
def upstream (outputs : Outputs) : M (RunOutputs schemas) :=
  match collaborators.parseUpstreamOutputs outputs with
  | .ok upstream => pure upstream
  | .error error => throw error

/-- The `try` of `#repairMissingRoutes`. -/
def repairRoutes (repair : RunRepairInput schemas → M Bool) (run : RunExecutionRecord)
    (outputs : Outputs) : M Nat := do
  let upstream ← collaborators.upstream outputs
  match upstream .bob with
  | none => pure 0
  | some bob =>
    let files ← collaborators.listProjectFiles run.projectId
    -- the preview opens on "/", so that route is required whether or not it was planned
    let missing := findMissingRoutes (⟨"GET", "/"⟩ :: schemas.routes bob.val)
      (files.map AgentProjectFile.path)
    if missing = [] then pure 0
    else
      let repaired ← repair
        { run
          failure := ⟨routeCoverageStep, 1, describeMissingRoutes missing⟩
          upstreamOutputs := upstream
          repairAttempt := 1 }
      pure (if repaired then 1 else 0)

/-- Source `#repairMissingRoutes`: how many repairs were spent. -/
def repairMissingRoutes (run : RunExecutionRecord) (outputs : Outputs) : M Nat :=
  match collaborators.repairer with
  | none => pure 0
  | some repair =>
    if collaborators.maxRepairAttempts < 1 then pure 0
    else
      tryCatch (collaborators.repairRoutes repair run outputs) fun error =>
        if (findRunStoppedError error).isSome then throw error else pure 0

/-- A repair after a failed validation: whether files were written. A repair that itself fails must not
    hide why the run failed. -/
def tryRepair (repair : RunRepairInput schemas → M Bool) (run : RunExecutionRecord)
    (outputs : Outputs) (failure : ValidationFailure) (repairAttempt : Nat) : M Bool :=
  tryCatch
    (do
      let upstreamOutputs ← collaborators.upstream outputs
      repair { run, failure, upstreamOutputs, repairAttempt })
    fun repairError =>
      if (findRunStoppedError repairError).isSome then throw repairError else pure false

/-- The `catch` of a validation. It returns when the validation is to be repeated, and then a repair
    was left, so that the loop ends. -/
def repairValidation (run : RunExecutionRecord) (outputs : Outputs) (repairsUsed : Nat)
    (validationError : Thrown) : M (PLift (repairsUsed < collaborators.maxRepairAttempts)) :=
  match findValidationFailure validationError, collaborators.repairer with
  | some failure, some repair =>
    if left : repairsUsed < collaborators.maxRepairAttempts then
      if isRepairableValidationStep failure.step then do
        let repaired ← collaborators.tryRepair repair run outputs failure (repairsUsed + 1)
        if repaired then pure ⟨left⟩ else throw validationError
      else throw validationError
    else throw validationError
  | _, _ => throw validationError

/-- `this.#validator?.validate(…)` -/
def validate (run : RunExecutionRecord) (attempt : Nat) : M (Option Uuid) :=
  match collaborators.validator with
  | none => pure none
  | some validate => validate run attempt

/-- One round of the loop of validations: the lease, or leave for another round. -/
def validateOnce (run : RunExecutionRecord) (outputs : Outputs) (attempt repairsUsed : Nat) :
    M (Option Uuid ⊕ PLift (repairsUsed < collaborators.maxRepairAttempts)) :=
  tryCatch
    (do
      let lease ← collaborators.validate run (attempt + repairsUsed * repairAttemptStride)
      pure (.inl lease))
    fun validationError => do
      let left ← collaborators.repairValidation run outputs repairsUsed validationError
      pure (.inr left)

/-- The loop of validations: the lease and the attempt of the one that passed. -/
def validateWithRepairs (run : RunExecutionRecord) (outputs : Outputs) (attempt repairsUsed : Nat) :
    M (Option Uuid × Nat) := do
  match ← collaborators.validateOnce run outputs attempt repairsUsed with
  | .inl lease => pure (lease, attempt + repairsUsed * repairAttemptStride)
  | .inr ⟨_left⟩ => validateWithRepairs run outputs attempt (repairsUsed + 1)
termination_by collaborators.maxRepairAttempts - repairsUsed
decreasing_by omega

/-- `await this.#assessor?.assess(…).catch(() => undefined)` -/
def assess (run : RunExecutionRecord) (attempt : Nat) : M Unit :=
  match collaborators.assessor with
  | none => pure ()
  | some assess => do
    let _settled ← assess run attempt
    pure ()

/-- `await validationLease?.revoke()` -/
def awaitRevoke (lease : Option Uuid) : M Unit :=
  match lease with
  | none => pure ()
  | some lease => do
    match ← collaborators.revoke lease with
    | .ok _ => pure ()
    | .error error => throw error

/-- `await validationLease?.revoke().catch(() => undefined)` -/
def tryRevoke (lease : Option Uuid) : M Unit :=
  match lease with
  | none => pure ()
  | some lease => do
    let _settled ← collaborators.revoke lease
    pure ()

/-- The `catch` of `process`. -/
def settle (run : RunExecutionRecord) (attempt : RunAttempt) (lease : Option Uuid) (error : Thrown) :
    M ProcessRunResult := do
  collaborators.tryRevoke lease
  match findRunStoppedError error with
  | some status => pure (.stopped status)
  | none =>
    if isRetryableError error ∧ attempt.attempt < attempt.maxAttempts then throw error
    else
      let now ← collaborators.now
      let failed ← collaborators.failRun run.id run.controlVersion (toWorkerError error) now
      pure (if failed then .failed else .stopped "stale")

/-- What `process` does with a claimed run until a validation has passed. -/
def executeRun (job : RunJob) (run : RunExecutionRecord) (attempt : RunAttempt) :
    M (Option Uuid × Nat) := do
  let outputs ← collaborators.invokeGraph (graphInput job run)
  let repairsUsed ← collaborators.repairMissingRoutes run outputs
  collaborators.validateWithRepairs run outputs attempt.attempt repairsUsed

/-- What `process` does after a validation has passed. -/
def finishRun (run : RunExecutionRecord) (lease : Option Uuid) (validatedAttempt : Nat) :
    M ProcessRunResult := do
  collaborators.assess run validatedAttempt
  let now ← collaborators.now
  let completed ← collaborators.completeRun run.id run.controlVersion now
  if completed then pure .completed
  else do
    collaborators.awaitRevoke lease
    pure (.stopped "stale")

/-- The outcome of a part of the `try` of `process`. -/
def attempted {α : Type} (p : M α) : M (Except Thrown α) :=
  tryCatch
    (do
      let a ← p
      pure (.ok a))
    fun error => pure (.error error)

/-- The `try` and the `catch` of `process`. -/
def processRun (job : RunJob) (run : RunExecutionRecord) (attempt : RunAttempt) :
    M ProcessRunResult := do
  match ← attempted (collaborators.executeRun job run attempt) with
  | .error error => collaborators.settle run attempt none error
  | .ok (lease, validatedAttempt) =>
    match ← attempted (collaborators.finishRun run lease validatedAttempt) with
    | .error error => collaborators.settle run attempt lease error
    | .ok result => pure result

/-- Source `process`. -/
def process (job : RunJob) (attempt : RunAttempt) : M ProcessRunResult :=
  if attempt.attempt < 1 ∨ attempt.maxAttempts < attempt.attempt then
    throw [{ name := "RangeError", message := "Invalid worker attempt metadata" }]
  else do
    let now ← collaborators.now
    match ← collaborators.claimRun job now with
    | .missing => pure .skippedMissing
    | .stale .. => pure .skippedStale
    | .ready run => collaborators.processRun job run attempt

end Collaborators

section Laws
variable {Op : Type} {Ans : Op → Type} {Res : Op → Type} {ε α β γ : Type}

lemma Prog.bind_ret (p : Prog Op Ans α) : p.bind .ret = p := by
  induction p with
  | ret a => rfl
  | call o k ih =>
    show Prog.call o (fun r => (k r).bind .ret) = .call o k
    exact congrArg (Prog.call o) (funext ih)

lemma Prog.bind_assoc (p : Prog Op Ans α) (f : α → Prog Op Ans β) (g : β → Prog Op Ans γ) :
    (p.bind f).bind g = p.bind fun a => (f a).bind g := by
  induction p with
  | ret a => rfl
  | call o k ih =>
    show Prog.call o (fun r => ((k r).bind f).bind g) = .call o _
    exact congrArg (Prog.call o) (funext ih)

instance : LawfulMonad (Prog Op Ans) :=
  LawfulMonad.mk' _ Prog.bind_ret (fun _ _ => rfl) Prog.bind_assoc

/-- A function of the results may be applied within `try … catch`, or after it. -/
lemma tryCatch_map {p : Fallible Op Res ε α} {h : ε → Fallible Op Res ε α} {f : α → β} :
    (tryCatch (f <$> p) fun e => f <$> h e) = f <$> tryCatch p h := by
  apply ExceptT.ext
  simp only [ExceptT.run_tryCatch, ExceptT.run_map, bind_map_left, map_bind]
  congr 1
  funext r
  cases r <;> rfl

/-- A handler that throws the error again does nothing. -/
lemma tryCatch_throw {p : Fallible Op Res ε α} : (tryCatch p fun e => throw e) = p := by
  apply ExceptT.ext
  rw [ExceptT.run_tryCatch]
  refine (congrArg (p.run >>= ·) (funext fun r => ?_)).trans (bind_pure p.run)
  cases r <;> rfl

end Laws

section Worker
open Collaborators

/-- How the promise of a call settles. -/
def settled {α : Type} (p : WorkerProgram schemas α) : WorkerProgram schemas (Except Thrown α) :=
  tryCatch
    (do
      let a ← p
      pure (.ok a))
    fun error => pure (.error error)

/-- The collaborators of the worker: the graph of agents, the store, the validator of sandboxes, Alex as
    the repairer, and the assessor, whose `assess` is asynchronous as is the lease's `revoke`. -/
def workerCollaborators (options : RunProcessorOptions) :
    Collaborators schemas (RunOutputs schemas) (WorkerProgram schemas) where
  now := call .now
  claimRun job now := call (.store (.claimRun job now))
  invokeGraph input := do
    let finalState ← Run.invokeGraph options input
    pure finalState.outputs
  parseUpstreamOutputs := Run.parseUpstreamOutputs
  listProjectFiles projectId := call (.store (.listProjectFiles projectId))
  validator := if options.validator then some fun run attempt => call (.validate run attempt) else none
  assessor :=
    if options.assessor then some fun run attempt => settled (call (.assess run attempt)) else none
  repairer :=
    if options.repairer then
      some fun input => repair input.run input.failure input.upstreamOutputs input.repairAttempt
    else none
  maxRepairAttempts := options.maxRepairAttempts
  revoke lease := settled (call (.revoke lease))
  completeRun runId version now := call (.store (.completeRun runId version now))
  failRun runId version error now := call (.store (.failRun runId version error now))

variable {options : RunProcessorOptions} {run : RunExecutionRecord} {outputs : RunOutputs schemas}

lemma upstream_worker : (workerCollaborators options).upstream outputs =
    (pure outputs : WorkerProgram schemas (RunOutputs schemas)) := by
  unfold Collaborators.upstream
  show (match Run.parseUpstreamOutputs outputs with
    | .ok upstream => pure upstream
    | .error error => throw error) = _
  rw [parseUpstreamOutputs_eq]

lemma repairRoutes_worker : (workerCollaborators options).repairRoutes
    (fun input => repair input.run input.failure input.upstreamOutputs input.repairAttempt) run
    outputs = Run.repairRoutes run outputs := by
  unfold Collaborators.repairRoutes Run.repairRoutes
  rw [upstream_worker, parseUpstreamOutputs_eq]
  rfl

lemma repairer_worker : (@workerCollaborators _ schemas options).repairer =
    if options.repairer then
      some fun input => repair input.run input.failure input.upstreamOutputs input.repairAttempt
    else none :=
  rfl

lemma repairMissingRoutes_worker : (workerCollaborators options).repairMissingRoutes run outputs =
    Run.repairMissingRoutes options run outputs := by
  unfold Collaborators.repairMissingRoutes Run.repairMissingRoutes
  rw [repairer_worker]
  cases options.repairer with
  | false => rfl
  | true =>
    rw [if_pos rfl]
    dsimp only
    rw [repairRoutes_worker]
    show (if options.maxRepairAttempts < 1 then _ else _) = _
    by_cases none : options.maxRepairAttempts < 1
    · rw [if_pos none, if_pos (by simp [none])]
    · rw [if_neg none, if_neg (by simp [none])]

lemma validate_worker {attempt : Nat} : (workerCollaborators options).validate run attempt =
    (Run.validate options run attempt : WorkerProgram schemas (Option Uuid)) := by
  unfold Collaborators.validate Run.validate
  have configured : (@workerCollaborators _ schemas options).validator =
      if options.validator then some fun run attempt => call (.validate run attempt) else none := rfl
  rw [configured]
  cases options.validator <;> rfl

lemma assess_worker {attempt : Nat} : (workerCollaborators options).assess run attempt =
    (Run.assess options run attempt : WorkerProgram schemas Unit) := by
  unfold Collaborators.assess Run.assess
  have configured : (@workerCollaborators _ schemas options).assessor =
      if options.assessor then some fun run attempt => settled (call (.assess run attempt)) else none := rfl
  rw [configured]
  cases options.assessor with
  | false => rfl
  | true =>
    apply congrArg ExceptT.mk
    apply congrArg (Prog.call _)
    funext r
    cases r <;> rfl

lemma awaitRevoke_worker {lease : Option Uuid} : (workerCollaborators options).awaitRevoke lease =
    (Run.revoke lease : WorkerProgram schemas Unit) := by
  cases lease with
  | none => rfl
  | some lease =>
    apply congrArg ExceptT.mk
    apply congrArg (Prog.call _)
    funext r
    cases r <;> rfl

lemma tryRevoke_worker {lease : Option Uuid} : (workerCollaborators options).tryRevoke lease =
    (tryCatch (Run.revoke lease) fun _ => pure () : WorkerProgram schemas Unit) := by
  cases lease with
  | none => rfl
  | some lease =>
    apply congrArg ExceptT.mk
    apply congrArg (Prog.call _)
    funext r
    cases r <;> rfl

lemma settle_worker {attempt : RunAttempt} {lease : Option Uuid} {error : Thrown} :
    (workerCollaborators options).settle run attempt lease error =
      (Run.settle run attempt lease error : WorkerProgram schemas ProcessRunResult) := by
  unfold Collaborators.settle Run.settle
  rw [tryRevoke_worker]
  rfl

lemma finishRun_worker {lease : Option Uuid} {attempt : Nat} :
    (workerCollaborators options).finishRun run lease attempt =
      (Run.finishRun options run lease attempt : WorkerProgram schemas ProcessRunResult) := by
  unfold Collaborators.finishRun Run.finishRun
  rw [assess_worker, awaitRevoke_worker]
  rfl

lemma tryRepair_worker {failure : ValidationFailure} {repairAttempt : Nat} :
    (workerCollaborators options).tryRepair
        (fun input => repair input.run input.failure input.upstreamOutputs input.repairAttempt) run
        outputs failure repairAttempt =
      tryCatch
        (do
          let upstream ← compute (Run.parseUpstreamOutputs outputs)
          repair run failure upstream repairAttempt)
        fun repairError =>
          if (findRunStoppedError repairError).isSome then throw repairError else pure false := by
  unfold Collaborators.tryRepair
  rw [upstream_worker, parseUpstreamOutputs_eq]
  rfl

lemma repairValidation_worker {repairsUsed : Nat} {error : Thrown} :
    (fun _ => ()) <$> (workerCollaborators options).repairValidation run outputs repairsUsed error =
      Run.repairValidation options run outputs repairsUsed error := by
  unfold Collaborators.repairValidation Run.repairValidation
  cases failed : findValidationFailure error with
  | none => rfl
  | some failure =>
    rw [repairer_worker]
    cases options.repairer with
    | false => rfl
    | true =>
      rw [if_pos rfl]
      dsimp only
      rw [tryRepair_worker]
      show _ <$> (if left : repairsUsed < options.maxRepairAttempts then _ else _) = _
      by_cases left : repairsUsed < options.maxRepairAttempts
      · rw [dif_pos left]
        cases repairable : isRepairableValidationStep failure.step with
        | true =>
          rw [if_pos rfl, if_neg (by simp [left]), map_bind]
          congr 1
          funext repaired
          cases repaired <;> rfl
        | false =>
          rw [if_neg Bool.false_ne_true, if_pos (by simp)]
          rfl
      · rw [dif_neg left, if_pos (by simp [Nat.not_lt.mp left])]
        rfl

/-- A round of the loop, with what it returns as the loop of the worker reads it. -/
lemma validateOnce_worker {attempt repairsUsed : Nat} :
    Sum.elim some (fun _ => none) <$>
        (workerCollaborators options).validateOnce run outputs attempt repairsUsed =
      tryCatch
        (do
          let lease ← Run.validate options run (attempt + repairsUsed * repairAttemptStride)
          pure (some lease))
        (fun validationError => do
          Run.repairValidation options run outputs repairsUsed validationError
          pure none) := by
  unfold Collaborators.validateOnce
  rw [← tryCatch_map, validate_worker]
  congr 1
  · rw [map_bind]
    rfl
  · funext error
    rw [← repairValidation_worker, map_bind, bind_map_left]
    rfl

/-- With no repair left, a validation fails as it is. -/
lemma validateOnce_exhausted {attempt repairsUsed : Nat}
    (exhausted : ¬ repairsUsed < options.maxRepairAttempts) :
    (workerCollaborators options).validateOnce run outputs attempt repairsUsed =
      Sum.inl <$> Run.validate options run (attempt + repairsUsed * repairAttemptStride) := by
  have failed (error : Thrown) : (workerCollaborators options).repairValidation run outputs
      repairsUsed error = throw error := by
    unfold Collaborators.repairValidation
    split
    · exact dif_neg exhausted
    · rfl
  unfold Collaborators.validateOnce
  rw [validate_worker, ← tryCatch_throw (p := Sum.inl <$> _)]
  congr 1
  funext error
  rw [failed]
  rfl

/-- The loop of the worker is the loop over its collaborators; the induction is on the repairs that are
    left. -/
lemma validateWithRepairs_worker {attempt : Nat} (remaining repairsUsed : Nat)
    (left : options.maxRepairAttempts - repairsUsed = remaining) :
    (workerCollaborators options).validateWithRepairs run outputs attempt repairsUsed =
      Run.validateWithRepairs options run outputs attempt remaining repairsUsed := by
  induction remaining generalizing repairsUsed with
  | zero =>
    rw [Collaborators.validateWithRepairs, Run.validateWithRepairs, validateOnce_exhausted (by omega),
      bind_map_left]
  | succ remaining ih =>
    rw [Collaborators.validateWithRepairs, Run.validateWithRepairs, ← validateOnce_worker,
      bind_map_left]
    congr 1
    funext validated
    cases validated with
    | inl lease => rfl
    | inr left => exact ih (repairsUsed + 1) (by omega)

lemma executeRun_worker {job : RunJob} {attempt : RunAttempt} :
    (workerCollaborators options).executeRun job run attempt =
      (Run.executeRun options job run attempt : WorkerProgram schemas (Option Uuid × Nat)) := by
  unfold Collaborators.executeRun Run.executeRun
  show (do
    let finalState ← Run.invokeGraph options (graphInput job run)
    pure finalState.outputs) >>= _ = _
  rw [bind_assoc]
  congr 1
  funext finalState
  rw [pure_bind, repairMissingRoutes_worker]
  congr 1
  funext repairsUsed
  exact validateWithRepairs_worker _ _ rfl

/-- A part whose failure is dealt with at once. -/
lemma attempted_bind {α : Type} {p : WorkerProgram schemas α}
    {h : Thrown → WorkerProgram schemas α} :
    (attempted p >>= fun outcome => match outcome with
      | .error error => h error
      | .ok a => pure a) = tryCatch p h := by
  apply ExceptT.ext
  unfold attempted
  simp only [ExceptT.run_bind, ExceptT.run_tryCatch, bind_assoc]
  congr 1
  funext r
  cases r <;> rfl

lemma processRun_worker {job : RunJob} {attempt : RunAttempt} :
    (workerCollaborators options).processRun job run attempt =
      (Run.processRun options job run attempt : WorkerProgram schemas ProcessRunResult) := by
  unfold Collaborators.processRun Run.processRun
  rw [executeRun_worker]
  congr 1
  funext executed
  cases executed with
  | error error => exact settle_worker
  | ok validated =>
    show attempted _ >>= _ = tryCatch _ _
    rw [finishRun_worker, ← attempted_bind]
    congr 1
    funext outcome
    cases outcome with
    | error error => exact settle_worker
    | ok result => rfl

/-- With the collaborators of the worker, `process` is a job on the graph and the store. -/
theorem process_worker {job : RunJob} {attempt : RunAttempt} :
    (workerCollaborators options).process job attempt =
      (Run.process options job attempt : WorkerProgram schemas ProcessRunResult) := by
  unfold Collaborators.process Run.process
  split
  · rfl
  congr 1
  funext now
  congr 1
  funext claim
  cases claim with
  | missing => rfl
  | stale => rfl
  | ready run => exact processRun_worker

end Worker

end AtomsPlatform.Run
