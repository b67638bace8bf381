import AtomsPlatform.Contracts
import AtomsPlatform.Lib.Interfaces
import AtomsPlatform.Lib.Records
import AtomsPlatform.Lib.Trace

/-!
# Execution readiness

The control API says whether runs may be executed, from a report that workers publish in Redis and from its
own setting. A report is trusted for a while, and an answer is kept for a while, so an answer is about the
past. Every process reads a clock of its own.
-/

namespace AtomsPlatform.Readiness
open Interleaving

section Contracts

/-- Source `WorkerReadinessReport`. -/
structure WorkerReadinessReport where
  publishedAt : Date
  runBudgetConfigured : Bool
  workspaceCeilingConfigured : Bool
  providerCredentialsPresent : Bool
  egressVerified : Bool
  attachmentContractVerified : Bool
  browserViabilityRequired : Bool
deriving DecidableEq, Repr

/-- Source `ExecutionGateId`. -/
inductive ExecutionGateId where
  | g1
  | g4
  | g5
  | g7
  | lock3
deriving DecidableEq, Repr

/-- Source `EXECUTION_GATE_IDS`. -/
def executionGateIds : List ExecutionGateId :=
  [.g1, .g4, .g5, .g7, .lock3]

/-- Source `WORKER_READINESS_MAX_AGE_MS`. -/
def workerReadinessMaxAgeMs : Nat := 90000

/-- Whether the worker's own state is known. -/
inductive WorkerState where
  | reporting
  | missing
  | stale
deriving DecidableEq, Repr

/-- Source `ExecutionReadiness`. -/
structure ExecutionReadiness where
  platformReady : Bool := true
  controlPlaneEnabled : Bool
  preconditionsMet : Bool
  executionReady : Bool
  inconsistent : Bool
  failingGates : List ExecutionGateId
  workerState : WorkerState
deriving DecidableEq, Repr

/-- `workerState` of source `evaluateExecutionReadiness`. -/
def workerStateOf (worker : Option WorkerReadinessReport) (now : Date) : WorkerState :=
  match worker with
  | none => .missing
  | some worker =>
    if ((now : Int) - worker.publishedAt).natAbs > workerReadinessMaxAgeMs then .stale else .reporting

/-- `passes` of source `evaluateExecutionReadiness`, for a report that is fresh. -/
def passes (fresh : Option WorkerReadinessReport) : ExecutionGateId → Bool
  | .g1 => fresh.any fun fresh => fresh.runBudgetConfigured && fresh.workspaceCeilingConfigured
  | .g4 => fresh.any WorkerReadinessReport.attachmentContractVerified
  | .g5 => fresh.any WorkerReadinessReport.egressVerified
  | .g7 => fresh.any WorkerReadinessReport.browserViabilityRequired
  | .lock3 => fresh.any WorkerReadinessReport.providerCredentialsPresent

/-- Source `evaluateExecutionReadiness`. -/
def evaluateExecutionReadiness (controlPlaneEnabled : Bool) (worker : Option WorkerReadinessReport)
    (now : Date) : ExecutionReadiness :=
  let workerState := workerStateOf worker now
  let fresh := if workerState = .reporting then worker else none
  let failingGates := executionGateIds.filter fun id => !passes fresh id
  let preconditionsMet : Bool := failingGates.length = 0
  { controlPlaneEnabled
    preconditionsMet
    executionReady := controlPlaneEnabled && preconditionsMet
    inconsistent := controlPlaneEnabled && !preconditionsMet
    failingGates
    workerState }

end Contracts

section Worker

/-- Source `WorkerReadinessFacts`. -/
structure WorkerReadinessFacts where
  runBudgetUsdMicros : Int
  workspaceDailyBudgetUsdMicros : Int
  providerCredentialsPresent : Bool
  egressVerifiedAt : Option String := none
  attachmentContractVerified : Bool
  browserViabilityRequired : Bool
deriving DecidableEq, Repr

/-- What is configured: `Date.parse`, which gives no number for a text that is no date, and the options of
    the services of the control API. -/
structure Deployment where
  parseDate : String → Option Int
  /-- Whether there is a source of reports. -/
  source : Nat → Bool := fun _ => true
  controlPlaneEnabled : Nat → Bool
  cacheMs : Nat → Nat := fun _ => 5000

/-- Whether a recorded probe counts. -/
def egressVerified (parseDate : String → Option Int) (facts : WorkerReadinessFacts) (now : Date) : Bool :=
  (facts.egressVerifiedAt.bind parseDate).any fun verifiedAt => verifiedAt ≤ (now : Int)

/-- Source `buildWorkerReadinessReport`. -/
def buildWorkerReadinessReport (parseDate : String → Option Int) (facts : WorkerReadinessFacts) (now : Date) :
    WorkerReadinessReport where
  publishedAt := now
  runBudgetConfigured := facts.runBudgetUsdMicros > 0
  workspaceCeilingConfigured := facts.workspaceDailyBudgetUsdMicros > 0
  providerCredentialsPresent := facts.providerCredentialsPresent
  egressVerified := egressVerified parseDate facts now
  attachmentContractVerified := facts.attachmentContractVerified
  browserViabilityRequired := facts.browserViabilityRequired

end Worker

section Programs

/-- A process, which has a clock: a worker, or a service of the control API. -/
inductive Process where
  | worker (facts : WorkerReadinessFacts)
  | service (n : Nat)
deriving DecidableEq, Repr

/-- The calls. -/
inductive Operation where
  | now (process : Process)
  | set (report : WorkerReadinessReport)
  | get
  | cached (service : Nat)
  | cache (service : Nat) (since : Date) (value : ExecutionReadiness)
  /-- Time passes. -/
  | elapse (ms : Nat)
  /-- Redis drops the key, because it is too old or because its data are lost. -/
  | drop
deriving DecidableEq, Repr

/-- What a call answers. -/
@[reducible]
def Operation.Answer : Operation → Type
  | .now _ => Date
  | .get => Option WorkerReadinessReport
  | .cached _ => Option (Date × ExecutionReadiness)
  | .set _ | .cache .. | .elapse _ | .drop => Unit

/-- Programs on these calls; Redis may fail. -/
abbrev Program (α : Type) : Type :=
  Fallible Operation Operation.Answer Unit α

/-- One call. -/
abbrev call (o : Operation) : Program o.Answer :=
  invoke o

variable (d : Deployment)

/-- Source `publishOnce`; the error is reported. -/
def publishOnce (facts : WorkerReadinessFacts) : Program Unit := do
  let now ← call (.now (.worker facts))
  tryCatch (call (.set (buildWorkerReadinessReport d.parseDate facts now))) fun _ => pure ()

/-- Source `read` of `RedisWorkerReadinessSource`. -/
def read : Program (Option WorkerReadinessReport) :=
  tryCatch (call .get) fun _ => pure none

/-- `options.source?.read()` -/
def readSource (service : Nat) : Program (Option WorkerReadinessReport) :=
  if d.source service then read else pure none

/-- Source `current` of `ExecutionReadinessService`. -/
def current (service : Nat) : Program ExecutionReadiness := do
  let nowMs ← call (.now (.service service))
  let cached ← call (.cached service)
  match cached with
  | some (since, value) =>
    if (nowMs : Int) - since < d.cacheMs service then pure value else evaluate nowMs
  | none => evaluate nowMs
where
  evaluate (nowMs : Date) : Program ExecutionReadiness := do
    let worker ← readSource d service
    let now ← call (.now (.service service))
    let value := evaluateExecutionReadiness (d.controlPlaneEnabled service) worker now
    call (.cache service nowMs value)
    pure value

end Programs

section System

/-- What the environment decides about one call: what the clock of the process shows, and whether Redis
    fails, or answers nothing in time. -/
structure Environment where
  clock : Date := 0
  fails : Bool := false
  silent : Bool := false
deriving DecidableEq, Repr

/-- The time, the value of the key, and what the services keep. -/
structure Store where
  time : Date := 0
  report : Option WorkerReadinessReport := none
  cached : Nat → Option (Date × ExecutionReadiness) := fun _ => none

/-- What calls answer and do. A write that fails may have been carried out. -/
def perform : (o : Operation) → Environment → Store → Except Unit o.Answer × Store
  | .now _, env, s => (.ok env.clock, s)
  | .set report, env, s =>
    (if env.fails then .error () else .ok (), if env.silent then s else { s with report := some report })
  | .get, env, s => (if env.fails then .error () else .ok (if env.silent then none else s.report), s)
  | .cached service, _, s => (.ok (s.cached service), s)
  | .cache service since value, _, s =>
    (.ok (), { s with cached := Function.update s.cached service (some (since, value)) })
  | .elapse ms, _, s => (.ok (), { s with time := s.time + ms })
  | .drop, _, s => (.ok (), { s with report := none })

/-- What runs. -/
inductive Activity where
  | beat (facts : WorkerReadinessFacts)
  | request (service : Nat)
  | elapse (ms : Nat)
  | drop
deriving DecidableEq, Repr

/-- The program of what runs, with what it answers. -/
def Activity.program (d : Deployment) : Activity → Program (Option ExecutionReadiness)
  | .beat facts => do
    publishOnce d facts
    pure none
  | .request service => do
    let value ← current d service
    pure (some value)
  | .elapse ms => do
    call (.elapse ms)
    pure none
  | .drop => do
    call .drop
    pure none

/-- Any number of workers and of requests to services of the control API. -/
def readinessSystem (d : Deployment) : System Operation (fun o => Except Unit o.Answer) Store Activity
    (Except Unit (Option ExecutionReadiness)) where
  Choice := Environment
  perform := perform
  admits _ _ := True
  body activity := (activity.program d).run

instance (d : Deployment) (s : Store) (activity : Activity) :
    Decidable ((readinessSystem d).admits s activity) :=
  inferInstanceAs (Decidable True)

/-- Configurations. -/
abbrev ReadinessConfig : Type :=
  Config Operation (fun o => Except Unit o.Answer) Store Activity (Except Unit (Option ExecutionReadiness))

end System

end AtomsPlatform.Readiness
