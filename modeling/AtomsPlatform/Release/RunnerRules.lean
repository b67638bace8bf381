import AtomsPlatform.Lib.Mutable
import AtomsPlatform.Release.Runner

/-!
# Triples for the validation runner

The steps of a validation in its sandbox make no calls but those of the provider and of the hooks, and none
that creates or terminates a sandbox. Whatever these calls keep, the steps keep (`Executes.executeSteps`),
and what is asked of a whole validation comes down to its creation, its first hooks and its failure
(`triple_validation`).
-/

namespace AtomsPlatform.Release
open Interleaving Mutable Run

section Rules
variable {Op : Type} {Res : Op → Type} {ν X : Type} {J : Judgement Op (fun o => Except Thrown (Res o)) X}
  {P : ν → X → Prop} {options : RunnerOptions} {provider : SandboxProvider (Mutable Op Res Thrown ν)}
  {hooks : ProjectValidationHooks (Mutable Op Res Thrown ν)} {sandbox : SandboxHandle}

/-- The calls on a sandbox keep a property. -/
structure Executes (J : Judgement Op (fun o => Except Thrown (Res o)) X) (P : ν → X → Prop)
    (provider : SandboxProvider (Mutable Op Res Thrown ν)) : Prop where
  now : Keeps J P provider.now
  writeFiles : ∀ sandboxId files, Keeps J P (provider.writeFiles sandboxId files)
  exec : ∀ sandboxId command, Keeps J P (provider.exec sandboxId command)
  startProcess : ∀ sandboxId command, Keeps J P (provider.startProcess sandboxId command)
  exposePort : ∀ sandboxId port, Keeps J P (provider.exposePort sandboxId port)

/-- The hooks during the steps keep a property. -/
structure Reports (J : Judgement Op (fun o => Except Thrown (Res o)) X) (P : ν → X → Prop)
    (hooks : ProjectValidationHooks (Mutable Op Res Thrown ν)) : Prop where
  onStep : ∀ sandbox step, Keeps J P (hooks.onStep sandbox step)
  previewEnvironment : ∀ sandbox expiresAt, Keeps J P (hooks.previewEnvironment sandbox expiresAt)

lemma keeps_assertSuccessful {step : ValidationStepReport} : Keeps J P (assertSuccessful step) := by
  unfold assertSuccessful
  split
  · exact .pure
  · exact .throw

namespace Executes
variable (executes : Executes J P provider)
include executes

lemma executeStep {ordinal : Nat} {definition : ValidationCommand} :
    Keeps J P (executeStep options provider sandbox ordinal definition) := by
  refine .bind executes.now fun startedAt => ?_
  refine .bind (executes.exec _ _) fun result => ?_
  exact .bind executes.now fun completedAt => .pure

/-- The induction is on the repetitions that are left. -/
lemma retryInstall {ordinal : Nat} {definition : ValidationCommand} (remaining : Nat)
    (step : ValidationStepReport) :
    Keeps J P (retryInstall options provider sandbox ordinal definition remaining step) := by
  induction remaining generalizing step with
  | zero => exact .pure
  | succ remaining ih =>
    unfold Release.retryInstall
    split
    · exact .bind executes.executeStep fun step => ih step
    · exact .pure

lemma executeCommands (reports : Reports J P hooks) (definitions : List ValidationCommand)
    (steps : List ValidationStepReport) :
    Keeps J P (executeCommands options provider hooks sandbox definitions steps) := by
  induction definitions generalizing steps with
  | nil => exact .pure
  | cons definition definitions ih =>
    refine .bind (.bind executes.executeStep fun step => executes.retryInstall _ step) fun step => ?_
    refine .bind (reports.onStep sandbox step) fun _ => ?_
    exact .bind keeps_assertSuccessful fun _ => ih _

lemma tryStep {ordinal : Nat} {name command : String} {p : Mutable Op Res Thrown ν ExecResult}
    (kept : Keeps J P p) : Keeps J P (tryStep provider ordinal name command p) := by
  refine .bind executes.now fun startedAt => ?_
  refine .tryCatch (.bind kept fun result => ?_) fun error => ?_
  · exact .bind executes.now fun completedAt => .pure
  · exact .bind executes.now fun completedAt => .pure

lemma prepareDatabase {steps : List ValidationStepReport} (reports : Reports J P hooks) :
    Keeps J P (prepareDatabase options provider hooks sandbox steps) := by
  unfold Release.prepareDatabase
  split
  · have tried {ordinal : Nat} {name command : String} {exec : ExecCommand} :
        Keeps J P (Release.tryStep provider ordinal name command (provider.exec sandbox.id exec)) :=
      executes.tryStep (executes.exec _ _)
    refine .bind tried fun startStep => .bind (reports.onStep sandbox startStep) fun _ => ?_
    split
    · exact .pure
    refine .bind tried fun migrateStep => .bind (reports.onStep sandbox migrateStep) fun _ => ?_
    split
    · exact .pure
    refine .bind tried fun seedStep => .bind (reports.onStep sandbox seedStep) fun _ => ?_
    exact .pure
  · exact .pure

lemma startPreview {ordinal : Nat} {envs : Option (List (String × String))} :
    Keeps J P (startPreview options provider sandbox ordinal envs) := by
  refine .bind executes.now fun previewStartedAt => ?_
  refine .bind (executes.startProcess _ _) fun pid => ?_
  refine .bind executes.now fun completedAt => ?_
  exact .bind executes.now fun finishedAt => .pure

lemma checkHealth {ordinal : Nat} : Keeps J P (checkHealth options provider sandbox ordinal) := by
  unfold Release.checkHealth
  split
  · exact executes.executeStep
  · exact .bind (executes.writeFiles _ _) fun _ => executes.executeStep

lemma checkAcceptance {input : ProjectValidationInput} {steps : List ValidationStepReport}
    (reports : Reports J P hooks) :
    Keeps J P (checkAcceptance options provider hooks sandbox input steps) := by
  unfold Release.checkAcceptance
  split
  · split
    · exact .pure
    refine .bind (executes.tryStep ?_) fun step => .bind (reports.onStep sandbox step) fun _ => .pure
    exact .bind (executes.writeFiles _ _) fun _ => executes.exec _ _
  · exact .pure

/-- The steps of a validation. -/
lemma executeSteps {input : ProjectValidationInput} {expiresAt : Date} (reports : Reports J P hooks) :
    Triple J P (executeSteps options provider hooks sandbox input expiresAt)
      (fun result v x => result.sandbox = sandbox ∧ P v x) fun _ => P := by
  refine .bind (executes.executeCommands reports _ _) fun steps => ?_
  refine .bind (executes.prepareDatabase reports) fun prepared => ?_
  refine .bind (reports.previewEnvironment sandbox expiresAt) fun environment => ?_
  refine .bind executes.startPreview fun started => ?_
  refine .bind (reports.onStep sandbox _) fun _ => ?_
  refine .bind executes.checkHealth fun healthStep => ?_
  refine .bind (reports.onStep sandbox healthStep) fun _ => ?_
  refine .bind keeps_assertSuccessful fun _ => ?_
  refine .bind (executes.checkAcceptance reports) fun steps => ?_
  exact .bind (executes.exposePort _ _) fun preview => .pure fun v x holds => ⟨rfl, holds⟩

end Executes

/-- The rule of validations: `E` holds when nothing was created, `F` when what was created is to be
    terminated. -/
lemma triple_validation {input : ProjectValidationInput} {A E F : ν → X → Prop}
    {B C D : SandboxHandle → ν → X → Prop}
    (now : Triple J A provider.now (fun _ => A) fun _ => E)
    (unused : ∀ v x, A v x → E v x)
    (create : ∀ spec, Triple J A (provider.create spec) B fun _ => E)
    (created : ∀ sandbox expiresAt,
      Triple J (B sandbox) (hooks.onSandboxCreated sandbox expiresAt) (fun _ => C sandbox) fun _ => F)
    (writeFiles : ∀ sandbox files,
      Triple J (C sandbox) (provider.writeFiles sandbox.id files) (fun _ => C sandbox) fun _ => F)
    (restored : ∀ sandbox, Triple J (C sandbox) (hooks.onFilesRestored sandbox) (fun _ => D sandbox) fun _ => F)
    (executes : ∀ sandbox, Executes J (D sandbox) provider)
    (reports : ∀ sandbox, Reports J (D sandbox) hooks)
    (failed : ∀ sandbox v x, D sandbox v x → F v x)
    (terminate : ∀ sandbox : SandboxHandle,
      Triple J F (provider.terminate sandbox.id) (fun _ => E) fun _ => E) :
    Triple J A (ProjectValidationRunner.validate options provider hooks input)
      (fun result => D result.sandbox) fun _ => E := by
  unfold ProjectValidationRunner.validate
  split
  · exact .throw unused
  split
  · exact .throw unused
  refine .bind now fun createdAt => ?_
  refine .bind (create _) fun sandbox => ?_
  refine .tryCatch (R := fun _ => F) ?_ fun error => ?_
  · refine .bind (created sandbox _) fun _ => ?_
    refine .bind (writeFiles sandbox _) fun _ => ?_
    refine .bind (restored sandbox) fun _ => ?_
    refine ((executes sandbox).executeSteps (reports sandbox)).mono (fun _ _ holds => holds) ?_ ?_
    · intro result v x holds
      rw [holds.1]
      exact holds.2
    · exact fun _ v x holds => failed sandbox v x holds
  · refine .bind (R := fun _ => E) ?_ fun _ => .throw fun _ _ holds => holds
    exact .tryCatch (terminate sandbox) fun _ => .pure fun _ _ holds => holds

end Rules
end AtomsPlatform.Release
