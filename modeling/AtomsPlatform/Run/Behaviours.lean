import AtomsPlatform.Lib.Mutable
import AtomsPlatform.Run.Collaborators

/-!
# Behaviours of the collaborators

The processor over collaborators that may do anything: each is a call that is answered with a result or
an error. A call of the assessor throws before it returns a promise, or returns one that settles; a
lease's `revoke` is asynchronous, so it only settles. `Behaves` are the calls of a delivery with their
answers, up to its outcome.
-/

namespace AtomsPlatform.Run
open Interleaving
variable {Output : Type} {schemas : AgentOutputSchemas Output} {Outputs : Type}

/-- The calls of the processor on its collaborators. -/
inductive Collaboration (schemas : AgentOutputSchemas Output) (Outputs : Type) where
  | now
  | claimRun (job : RunJob) (now : Date)
  | invokeGraph (input : RunState schemas)
  | listProjectFiles (projectId : Uuid)
  | validate (run : RunExecutionRecord) (attempt : Nat)
  | assess (run : RunExecutionRecord) (attempt : Nat)
  | repair (input : RunRepairInput schemas)
  | revoke (lease : Uuid)
  | completeRun (runId : Uuid) (controlVersion : Nat) (now : Date)
  | failRun (runId : Uuid) (controlVersion : Nat) (error : RunError) (now : Date)

/-- What a call answers when it does not fail. -/
@[reducible]
def Collaboration.Result : Collaboration schemas Outputs → Type
  | .now => Date
  | .claimRun .. => RunClaimResult
  | .invokeGraph _ => Outputs
  | .listProjectFiles _ => List AgentProjectFile
  | .validate .. => Option Uuid
  | .assess .. => Except Thrown Unit
  | .revoke _ => Unit
  | .repair _ | .completeRun .. | .failRun .. => Bool

/-- Programs over collaborators. -/
abbrev ProcessorProgram (schemas : AgentOutputSchemas Output) (Outputs α : Type) : Type :=
  Fallible (Collaboration schemas Outputs) Collaboration.Result Thrown α

/-- A call with its answer. -/
abbrev CollaborationEvent (schemas : AgentOutputSchemas Output) (Outputs : Type) : Type :=
  Event (Collaboration schemas Outputs) fun o => Except Thrown o.Result

/-- The program that makes one call. -/
abbrev ask (o : Collaboration schemas Outputs) : ProcessorProgram schemas Outputs o.Result :=
  invoke o

/-- The call of an asynchronous function, and how its promise settles. -/
def settles (o : Collaboration schemas Outputs) :
    ProcessorProgram schemas Outputs (Except Thrown o.Result) :=
  ExceptT.mk (.call o fun r => .ret (.ok r))

/-- Collaborators that may do anything; `options` says which of them there are. -/
def anyCollaborators (options : RunProcessorOptions)
    (parse : Outputs → Except Thrown (RunOutputs schemas)) :
    Collaborators schemas Outputs (ProcessorProgram schemas Outputs) where
  now := ask .now
  claimRun job now := ask (.claimRun job now)
  invokeGraph input := ask (.invokeGraph input)
  parseUpstreamOutputs := parse
  listProjectFiles projectId := ask (.listProjectFiles projectId)
  validator :=
    if options.validator then some fun run attempt => ask (.validate run attempt) else none
  assessor := if options.assessor then some fun run attempt => ask (.assess run attempt) else none
  repairer := if options.repairer then some fun input => ask (.repair input) else none
  maxRepairAttempts := options.maxRepairAttempts
  revoke lease := settles (.revoke lease)
  completeRun runId version now := ask (.completeRun runId version now)
  failRun runId version error now := ask (.failRun runId version error now)

section Optional
variable {options : RunProcessorOptions} {parse : Outputs → Except Thrown (RunOutputs schemas)}

lemma eq_of_optional {α : Type} {present : Bool} {a b : α}
    (configured : (if present then some a else none) = some b) : b = a := by
  cases present with
  | true => exact (Option.some.inj configured).symm
  | false => cases configured

lemma repairer_eq {repair : RunRepairInput schemas → ProcessorProgram schemas Outputs Bool}
    (configured : (anyCollaborators options parse).repairer = some repair) :
    repair = fun input => ask (.repair input) :=
  eq_of_optional configured

lemma validator_eq
    {validate : RunExecutionRecord → Nat → ProcessorProgram schemas Outputs (Option Uuid)}
    (configured : (anyCollaborators options parse).validator = some validate) :
    validate = fun run attempt => ask (.validate run attempt) :=
  eq_of_optional configured

lemma assessor_eq
    {assess : RunExecutionRecord → Nat → ProcessorProgram schemas Outputs (Except Thrown Unit)}
    (configured : (anyCollaborators options parse).assessor = some assess) :
    assess = fun run attempt => ask (.assess run attempt) :=
  eq_of_optional configured

end Optional

/-- The calls of a delivery of a job, and how it ends. -/
def Behaves (options : RunProcessorOptions) (parse : Outputs → Except Thrown (RunOutputs schemas))
    (job : RunJob) (attempt : RunAttempt) (h : List (CollaborationEvent schemas Outputs))
    (outcome : Except Thrown ProcessRunResult) : Prop :=
  ((anyCollaborators options parse).process job attempt).run.Leads h (.ret outcome)

/-- The calls of a delivery that is still going on. -/
def Ongoing (options : RunProcessorOptions) (parse : Outputs → Except Thrown (RunOutputs schemas))
    (job : RunJob) (attempt : RunAttempt) (h : List (CollaborationEvent schemas Outputs)) : Prop :=
  ∃ rest, ((anyCollaborators options parse).process job attempt).run.Leads h rest

/-- A delivery that is going on can still end: every call may fail. -/
lemma Ongoing.ends {options : RunProcessorOptions}
    {parse : Outputs → Except Thrown (RunOutputs schemas)} {job : RunJob} {attempt : RunAttempt}
    {h : List (CollaborationEvent schemas Outputs)} (ongoing : Ongoing options parse job attempt h) :
    ∃ h' outcome, Behaves options parse job attempt (h ++ h') outcome := by
  obtain ⟨rest, leads⟩ := ongoing
  induction rest generalizing h with
  | ret outcome => exact ⟨[], outcome, by rwa [List.append_nil]⟩
  | call o k ih =>
    obtain ⟨h', outcome, behaves⟩ := ih (.error []) (leads.snoc (.error []))
    exact ⟨⟨o, .error []⟩ :: h', outcome, by rwa [List.append_assoc] at behaves⟩

section Scenario

/-- Outputs that say nothing; Bob plans no routes. -/
def plannedSchemas : AgentOutputSchemas Unit where
  toAgentOutputs := silentOutputs
  parse_normal := fun _ => rfl
  files := fun _ => []
  routes := fun _ => []
  routeMetadata := fun _ => []
  taskInput := fun prompt _ => prompt

/-- What the graph returns is read as an output of Bob. -/
def plannedOutputs (_ : Unit) : Except Thrown (RunOutputs plannedSchemas) :=
  .ok (RunOutputs.single .bob ⟨(), rfl⟩)

/-- A run that was claimed. -/
def claimedRun : RunExecutionRecord where
  id := 1
  workspaceId := 2
  projectId := 3
  status := .running
  prompt := "A portal for our clients"
  controlVersion := 0

/-- Its job. -/
def claimedJob : RunJob where
  runId := 1
  command := .start
  controlVersion := 0

/-- What a validation fails with when a test does. -/
def failedTest : Thrown :=
  [{ name := "SandboxValidationError"
     message := "Sandbox validation step test exited with code 1"
     code := some "SANDBOX_VALIDATION_FAILED"
     retryable := some false
     failedStep := some ⟨"test", 1, ""⟩ }]

/-- Collaborators of a run whose project lacks a page for "/": the first repair writes no files, and
    the validation after it fails in its tests; the other calls go well. The state counts the
    repairs. -/
def answers (o : Collaboration plannedSchemas Unit) (n : Nat) : Except Thrown o.Result × Nat :=
  match o with
  | .now => (.ok 0, n)
  | .claimRun .. => (.ok (.ready claimedRun), n)
  | .invokeGraph _ => (.ok (), n)
  | .listProjectFiles _ => (.ok [⟨"app/login/page.tsx", "", 1⟩], n)
  | .repair _ => (.ok (n != 0), n + 1)
  | .validate .. => (if n = 1 then .error failedTest else .ok (some 9), n)
  | .assess .. => (.ok (.ok ()), n)
  | .revoke _ => (.ok (), n)
  | .completeRun .. => (.ok true, n)
  | .failRun .. => (.ok true, n)

/-- A processor with all collaborators and a budget. -/
def fullOptions (maxRepairAttempts : Nat) : RunProcessorOptions where
  validator := true
  assessor := true
  repairer := true
  maxRepairAttempts

/-- The calls of a delivery with collaborators that answer in a given way, and its outcome. -/
def playedDelivery (options : RunProcessorOptions)
    (perform : (o : Collaboration plannedSchemas Unit) → Nat → Except Thrown o.Result × Nat) :
    List (CollaborationEvent plannedSchemas Unit) × Except Thrown ProcessRunResult :=
  ((anyCollaborators options plannedOutputs).process claimedJob ⟨1, 3⟩).run.play perform 0

lemma behaves_played {options : RunProcessorOptions}
    {perform : (o : Collaboration plannedSchemas Unit) → Nat → Except Thrown o.Result × Nat} :
    Behaves options plannedOutputs claimedJob ⟨1, 3⟩ (playedDelivery options perform).1
      (playedDelivery options perform).2 :=
  Prog.leads_play

end Scenario

end AtomsPlatform.Run
