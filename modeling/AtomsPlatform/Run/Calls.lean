import AtomsPlatform.Run.Processor

/-!
# Auxiliary calls of a job

Most parts of a job neither touch a task nor end a node nor close the run with success: what an agent is
shown, whether it is skipped, the repairs, the validations and the failure. They keep every contract that
allows the auxiliary calls (`Yields.of_auxiliary`).
-/

namespace AtomsPlatform.Run
open Interleaving
variable {Output : Type} {schemas : AgentOutputSchemas Output}

/-- The calls of a job of a run that touch no task, end no node and do not pause or complete the run;
    agents are shown the given outputs. -/
def WorkerCall.Auxiliary (runId : Uuid) (outputs : RunOutputs schemas) : WorkerCall schemas → Prop
  | .now | .getProjectType _ | .getWorkspacePlan _ | .load _ => True
  | .store (.listProjectFiles _) => True
  | .store (.applyGeneratedFiles input) => input.runId = runId
  | .store (.failRun id ..) => id = runId
  | .execute request => request.runId = runId ∧ request.upstreamOutputs = outputs
  | .validate .. | .revoke _ | .assess .. => True
  | _ => False

/-- The contract of the auxiliary calls. -/
def auxiliary (runId : Uuid) (outputs : RunOutputs schemas) :
    Contract (WorkerCall schemas) fun c => Except Thrown c.Answer where
  requires c := c.Auxiliary runId outputs
  ensures _ _ := True

/-- A part of a job with auxiliary calls only keeps every contract that allows them. -/
lemma Yields.of_auxiliary {α : Type} {p : WorkerProgram schemas α} {Q : α → Prop} {runId : Uuid}
    {outputs : RunOutputs schemas}
    {κ : Contract (WorkerCall schemas) fun c => Except Thrown c.Answer}
    (yields : Yields (auxiliary runId outputs) p Q)
    (allows : ∀ c : WorkerCall schemas, c.Auxiliary runId outputs → κ.requires c) : Yields κ p Q :=
  Prog.Meets.weaken yields allows fun _ _ _ _ => trivial

variable {options : RunProcessorOptions} {runId : Uuid} {outputs : RunOutputs schemas}

lemma findSkipReason_auxiliary {agentName : AgentName} {projectType : ProjectType}
    {workspaceId : Uuid} :
    Yields (auxiliary runId outputs) (findSkipReason agentName projectType workspaceId)
      fun _ => True := by
  unfold findSkipReason
  split
  · exact .pure trivial
  split
  · exact .step trivial fun _ _ => .pure trivial
  · exact .pure trivial

lemma listCurrentFiles_auxiliary {agentName : AgentName} {projectId : Uuid} :
    Yields (auxiliary runId outputs) (listCurrentFiles agentName projectId) fun _ => True := by
  unfold listCurrentFiles
  split
  · exact .call trivial fun _ _ => trivial
  · exact .pure trivial

lemma loadReferences_auxiliary {agentName : AgentName} {id : Uuid} :
    Yields (auxiliary runId outputs) (loadReferences options agentName id) fun _ => True := by
  unfold loadReferences
  split
  · exact .call trivial fun _ _ => trivial
  · exact .pure trivial

lemma planNeedsApproval_auxiliary {mike : schemas.Valid .mike} {id : Uuid} :
    Yields (auxiliary runId outputs) (planNeedsApproval options mike id) fun _ => True := by
  unfold planNeedsApproval runHasReferences
  split
  · exact .pure trivial
  split
  · exact .step trivial fun _ _ => .pure trivial
  · exact .pure trivial

variable {run : RunExecutionRecord}

lemma repair_auxiliary {failure : ValidationFailure} {repairAttempt : Nat} :
    Yields (auxiliary run.id outputs) (repair run failure outputs repairAttempt) fun _ => True := by
  unfold repair
  split
  · exact .pure trivial
  refine .step trivial fun currentFiles _ => .step ⟨rfl, rfl⟩ fun output _ => ?_
  refine .step trivial fun now _ => .step rfl fun applied _ => ?_
  cases applied with
  | stopped => exact .throw
  | fileConflict conflict => exact .throw
  | ok writtenPaths => exact .pure trivial

lemma repairMissingRoutes_auxiliary :
    Yields (auxiliary run.id outputs) (repairMissingRoutes options run outputs) fun _ => True := by
  unfold repairMissingRoutes
  split
  · exact .pure trivial
  refine .tryCatch ?routes fun error => ?handler
  case routes =>
    unfold repairRoutes
    rw [parseUpstreamOutputs_eq]
    refine .bind (P := (· = outputs)) (.pure rfl) ?_
    rintro _ rfl
    split
    · exact .pure trivial
    refine .step trivial fun files _ => ?_
    dsimp only
    split
    · exact .pure trivial
    · exact .bind repair_auxiliary fun repaired _ => .pure trivial
  case handler =>
    split
    · exact .throw
    · exact .pure trivial

lemma repairValidation_auxiliary {repairsUsed : Nat} {error : Thrown} :
    Yields (auxiliary run.id outputs) (repairValidation options run outputs repairsUsed error)
      fun _ => True := by
  unfold repairValidation
  split
  · exact .throw
  split
  · exact .throw
  refine .bind (P := fun _ => True) (.tryCatch ?body fun repairError => ?handler) fun repaired _ => ?_
  case body =>
    rw [parseUpstreamOutputs_eq]
    refine .bind (P := (· = outputs)) (.pure rfl) ?_
    rintro _ rfl
    exact repair_auxiliary
  case handler =>
    split
    · exact .throw
    · exact .pure trivial
  · split
    · exact .pure trivial
    · exact .throw

lemma validate_auxiliary {attempt : Nat} :
    Yields (auxiliary runId outputs) (validate options run attempt) fun _ => True := by
  unfold validate
  split
  · exact .call trivial fun _ _ => trivial
  · exact .pure trivial

/-- The loop of validations; the induction is on the repairs that are left. -/
lemma validateWithRepairs_auxiliary (attempt remaining repairsUsed : Nat) :
    Yields (auxiliary run.id outputs)
      (validateWithRepairs options run outputs attempt remaining repairsUsed) fun _ => True := by
  induction remaining generalizing repairsUsed with
  | zero => exact .bind validate_auxiliary fun _ _ => .pure trivial
  | succ remaining ih =>
    refine .bind (P := fun _ => True) (.tryCatch ?_ fun error => ?_) fun validated _ => ?_
    · exact .bind validate_auxiliary fun _ _ => .pure trivial
    · exact .bind repairValidation_auxiliary fun _ _ => .pure trivial
    · cases validated with
      | none => exact ih (repairsUsed + 1)
      | some lease => exact .pure trivial

lemma revoke_auxiliary {lease : Option Uuid} :
    Yields (auxiliary runId outputs) (revoke lease) fun _ => True := by
  cases lease with
  | none => exact .pure trivial
  | some lease => exact .call trivial fun _ _ => trivial

lemma assess_auxiliary {attempt : Nat} :
    Yields (auxiliary runId outputs) (assess options run attempt) fun _ => True := by
  unfold assess
  split
  · exact .tryCatch (.call trivial fun _ _ => trivial) fun _ => .pure trivial
  · exact .pure trivial

lemma settle_auxiliary {attempt : RunAttempt} {lease : Option Uuid} {error : Thrown} :
    Yields (auxiliary run.id outputs) (settle run attempt lease error) fun _ => True := by
  refine .bind (.tryCatch revoke_auxiliary fun _ => .pure trivial) fun _ _ => ?_
  split
  · exact .pure trivial
  split
  · exact .throw
  · exact .step trivial fun now _ => .step rfl fun failed _ => .pure trivial

end AtomsPlatform.Run
