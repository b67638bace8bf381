import AtomsPlatform.Lib.Accounts
import AtomsPlatform.Run.Errors

/-!
# Model budgets

`BudgetedModelGateway` over `PostgresRunProviderBudgetStore`. Before a call of a provider a reservation is
charged to the ledger of its run and to the window of its workspace and day, in one transaction; once the
call has finished, what its cost did not use is given back. The two ledgers are locked row by row, the row
of the run first, so that transactions on the same rows take effect one after the other.
-/

namespace AtomsPlatform.Run.ModelBudget
open Interleaving

section Ledger

/-- A day in UTC. -/
abbrev Day : Type := Nat

/-- Source `BudgetExhaustionScope`. -/
inductive BudgetExhaustionScope where
  | run
  | workspace
deriving DecidableEq, Repr

/-- The input of `reserve`. -/
structure ReserveInput where
  runId : Uuid
  reservationUsdMicros : Nat
  totalBudgetUsdMicros : Nat
  workspaceDailyBudgetUsdMicros : Option Nat := none
deriving DecidableEq, Repr

/-- Source `BudgetReservationResult`. -/
structure BudgetReservationResult where
  accepted : Bool
  remainingUsdMicros : Nat
  exhausted : Option BudgetExhaustionScope := none
  windowDate : Option Day := none
deriving DecidableEq, Repr

/-- The input of `release`. -/
structure ReleaseInput where
  runId : Uuid
  releaseUsdMicros : Nat
  windowDate : Option Day := none
deriving DecidableEq, Repr

/-- A row of `run_provider_budgets`. -/
structure ProviderBudgetRow where
  totalUsdMicros : Nat
  reservedUsdMicros : Nat := 0
  actualUsdMicros : Nat := 0
deriving DecidableEq, Repr

namespace ProviderBudgetRow

/-- `reserved_usd_micros = reserved_usd_micros + …` -/
def reserve (usdMicros : Nat) (row : ProviderBudgetRow) : ProviderBudgetRow :=
  { row with reservedUsdMicros := row.reservedUsdMicros + usdMicros }

/-- `reserved_usd_micros = GREATEST(0, reserved_usd_micros - …)` -/
def release (usdMicros : Nat) (row : ProviderBudgetRow) : ProviderBudgetRow :=
  { row with reservedUsdMicros := row.reservedUsdMicros - usdMicros }

/-- `actual_usd_micros = actual_usd_micros + …` -/
def spend (usdMicros : Nat) (row : ProviderBudgetRow) : ProviderBudgetRow :=
  { row with actualUsdMicros := row.actualUsdMicros + usdMicros }

end ProviderBudgetRow

/-- The rows of the runs, and the reserved amounts of the windows. -/
structure BudgetLedger where
  budgets : Uuid → Option ProviderBudgetRow := fun _ => none
  windows : Uuid × Day → Option Nat := fun _ => none

namespace BudgetLedger

/-- What is reserved for a run. -/
def reservedOf (s : BudgetLedger) (runId : Uuid) : Nat :=
  ((s.budgets runId).map ProviderBudgetRow.reservedUsdMicros).getD 0

/-- What is reserved in a window. -/
def reservedIn (s : BudgetLedger) (window : Uuid × Day) : Nat :=
  (s.windows window).getD 0

/-- `UPDATE … run_provider_budgets SET … WHERE run_id = …` -/
def updateBudget (s : BudgetLedger) (runId : Uuid) (data : ProviderBudgetRow → ProviderBudgetRow) :
    BudgetLedger :=
  { s with budgets := Function.update s.budgets runId ((s.budgets runId).map data) }

/-- `UPDATE … workspace_provider_budget_windows SET reserved_usd_micros = … WHERE …` -/
def updateWindow (s : BudgetLedger) (window : Uuid × Day) (data : Nat → Nat) : BudgetLedger :=
  { s with windows := Function.update s.windows window ((s.windows window).map data) }

/-- `INSERT INTO … run_provider_budgets … ON CONFLICT (run_id) DO NOTHING` -/
def insertBudget (s : BudgetLedger) (runId : Uuid) (totalUsdMicros : Nat) : BudgetLedger :=
  { s with
    budgets := Function.update s.budgets runId (some ((s.budgets runId).getD { totalUsdMicros })) }

/-- `INSERT INTO … workspace_provider_budget_windows … ON CONFLICT … DO NOTHING` -/
def insertWindow (s : BudgetLedger) (window : Uuid × Day) : BudgetLedger :=
  { s with windows := Function.update s.windows window (some (s.reservedIn window)) }

end BudgetLedger

/-- A transaction on the ledger. -/
abbrev LedgerTransaction (α : Type) : Type :=
  BudgetLedger → Except Failure (α × BudgetLedger)

/-- The workspaces of the runs: the rows of `agent_runs`, which the rows of the ledger refer to. -/
abbrev Workspaces : Type :=
  Uuid → Option Uuid

/-- The end of `reserve`, when the run can pay: the window is charged if there is a ceiling for it, and
    then the run. -/
def chargeWindow (input : ReserveInput) (workspaceId : Uuid) (today : Day) (remainingUsdMicros : Nat) :
    LedgerTransaction BudgetReservationResult := fun s =>
  match input.workspaceDailyBudgetUsdMicros with
  | none =>
    .ok ({ accepted := true, remainingUsdMicros := remainingUsdMicros - input.reservationUsdMicros },
      s.updateBudget input.runId (.reserve input.reservationUsdMicros))
  | some workspaceCap =>
    let window := (workspaceId, today)
    let s := s.insertWindow window
    -- The subtraction is that of `Math.max(0, … - …)`.
    let windowRemaining := workspaceCap - s.reservedIn window
    if windowRemaining < input.reservationUsdMicros then
      .ok ({ accepted := false, remainingUsdMicros := windowRemaining, exhausted := some .workspace }, s)
    else
      .ok ({ accepted := true
             remainingUsdMicros := remainingUsdMicros - input.reservationUsdMicros
             windowDate := some today },
        (s.updateWindow window fun reserved => reserved + input.reservationUsdMicros).updateBudget
          input.runId (.reserve input.reservationUsdMicros))

/-- Source `reserve`. -/
def reserve (workspaces : Workspaces) (today : Day) (input : ReserveInput) :
    LedgerTransaction BudgetReservationResult := fun s =>
  if input.reservationUsdMicros = 0 then
    .error (.error "reservationUsdMicros must be a positive integer")
  else if input.totalBudgetUsdMicros = 0 then
    .error (.error "totalBudgetUsdMicros must be a positive integer")
  else if input.workspaceDailyBudgetUsdMicros = some 0 then
    .error (.error "workspaceDailyBudgetUsdMicros must be a positive integer")
  else
    match workspaces input.runId with
    | none => .error (.prisma "P2010" "Raw query failed")
    | some workspaceId =>
      let current := (s.budgets input.runId).getD { totalUsdMicros := input.totalBudgetUsdMicros }
      let effectiveTotalUsdMicros := min current.totalUsdMicros input.totalBudgetUsdMicros
      let remainingUsdMicros := effectiveTotalUsdMicros - current.reservedUsdMicros
      let s := s.insertBudget input.runId input.totalBudgetUsdMicros
      if remainingUsdMicros < input.reservationUsdMicros then
        .ok ({ accepted := false, remainingUsdMicros, exhausted := some .run }, s)
      else chargeWindow input workspaceId today remainingUsdMicros s

/-- Source `release`; the subtractions are those of `GREATEST(0, … - …)`. -/
def release (workspaces : Workspaces) (input : ReleaseInput) : LedgerTransaction Unit := fun s =>
  if input.releaseUsdMicros = 0 then .error (.error "releaseUsdMicros must be a positive integer")
  else
    let s := s.updateBudget input.runId (.release input.releaseUsdMicros)
    match input.windowDate, workspaces input.runId with
    | some windowDate, some workspaceId =>
      .ok ((), s.updateWindow (workspaceId, windowDate) fun reserved => reserved - input.releaseUsdMicros)
    | _, _ => .ok ((), s)

/-- Source `recordActual`, of a cost that is not negative. -/
def recordActual (runId : Uuid) (actualUsdMicros : Nat) : LedgerTransaction Unit := fun s =>
  .ok ((), s.updateBudget runId (.spend actualUsdMicros))

end Ledger

section Programs
variable {Request : Type}

/-- A response of a provider, as far as it is read: costs are rounded to integers. -/
structure ModelResponse where
  estimatedCostUsdMicros : Option Int := none
deriving DecidableEq, Repr

/-- The events of a stream, `some` for `completed`, and how it ends; a stream emits at most one completed
    response. -/
structure ModelStream where
  events : List (Option ModelResponse) := []
  failure : Option Thrown := none
  once : (events.filterMap id).length ≤ 1 := by decide

/-- The calls of a budgeted call. -/
inductive BudgetCall (Request : Type) where
  | reserve (input : ReserveInput)
  | generate (request : Request)
  | stream (request : Request)
  | recordActual (runId : Uuid) (actualUsdMicros : Nat)
  | release (input : ReleaseInput)

/-- What a call answers when it does not fail. -/
@[reducible]
def BudgetCall.Result : BudgetCall Request → Type
  | .reserve _ => BudgetReservationResult
  | .generate _ => ModelResponse
  | .stream _ => ModelStream
  | .recordActual .. | .release _ => Unit

/-- Programs of budgeted calls. -/
abbrev BudgetProgram (Request α : Type) : Type :=
  Fallible (BudgetCall Request) BudgetCall.Result Thrown α

/-- The program that makes one call. -/
abbrev ask (o : BudgetCall Request) : BudgetProgram Request o.Result :=
  invoke o

/-- Source `ProviderBudgetError`. -/
def providerBudgetError (code message : String) : Thrown :=
  [{ name := "ProviderBudgetError", message, code := some code, retryable := some false }]

/-- `SETTLED_COST_MARGIN` is 5/4: the cost with its margin, rounded up. -/
def settledCost (actualUsdMicros : Nat) : Nat :=
  (actualUsdMicros * 5 + 3) / 4

/-- Source `reservationToRelease`, of a cost that is known. -/
def reservationToRelease (reservationUsdMicros actualUsdMicros : Nat) : Nat :=
  reservationUsdMicros - settledCost actualUsdMicros

/-- Source `BudgetedModelGatewayOptions`, as far as they are not called: what the gateway makes of a
    request is its run, if the metadata name one, and its reservation, unless the request is refused. -/
structure BudgetedModelGatewayOptions (Request : Type) where
  totalBudgetUsdMicros : Nat
  workspaceDailyBudgetUsdMicros : Option Nat := none
  runId : Request → Option Uuid
  reservationUsdMicros : Request → Except Thrown Nat

/-- Source `ReservedCall`, without its request. -/
structure ReservedCall where
  runId : Uuid
  reservationUsdMicros : Nat
  windowDate : Option Day
deriving DecidableEq, Repr

variable (options : BudgetedModelGatewayOptions Request) (request : Request)

/-- A computation of the gateway itself, which may throw. -/
def computed {α : Type} : Except Thrown α → BudgetProgram Request α
  | .ok a => pure a
  | .error error => throw error

/-- The error of a reservation that was not accepted. -/
def refused (reservationUsdMicros : Nat) (reservation : BudgetReservationResult) : Thrown :=
  if reservation.exhausted = some .workspace then
    providerBudgetError "WORKSPACE_BUDGET_EXCEEDED"
      (s!"Provider request reservation {reservationUsdMicros} micro-USD exceeds the remaining daily " ++
        s!"workspace budget {reservation.remainingUsdMicros} micro-USD")
  else
    providerBudgetError "PROVIDER_BUDGET_EXCEEDED"
      (s!"Provider request reservation {reservationUsdMicros} micro-USD exceeds remaining run budget " ++
        s!"{reservation.remainingUsdMicros} micro-USD")

/-- Source `#reserve`. -/
def BudgetedModelGateway.reserve : BudgetProgram Request ReservedCall :=
  if options.totalBudgetUsdMicros = 0 then
    throw (providerBudgetError "PROVIDER_BUDGET_DISABLED"
      "Provider execution is disabled because no per-run provider budget is configured")
  else
    match options.runId request with
    | none =>
      throw (providerBudgetError "PROVIDER_BUDGET_CONTEXT_MISSING"
        "Provider calls require a run_id budget context")
    | some runId => do
      let reservationUsdMicros ← computed (options.reservationUsdMicros request)
      let reservation ← ask (.reserve
        { runId
          reservationUsdMicros
          totalBudgetUsdMicros := options.totalBudgetUsdMicros
          workspaceDailyBudgetUsdMicros := options.workspaceDailyBudgetUsdMicros })
      if reservation.accepted then
        pure { runId, reservationUsdMicros, windowDate := reservation.windowDate }
      else throw (refused reservationUsdMicros reservation)

/-- What is given back of a finished call. -/
def giveBack (reserved : ReservedCall) (actualUsdMicros : Nat) : BudgetProgram Request Unit :=
  let releaseUsdMicros := reservationToRelease reserved.reservationUsdMicros actualUsdMicros
  if 0 < releaseUsdMicros then
    ask (.release { runId := reserved.runId, releaseUsdMicros, windowDate := reserved.windowDate })
  else pure ()

/-- Source `#recordActual`. -/
def BudgetedModelGateway.recordActual (reserved : ReservedCall) (response : ModelResponse) :
    BudgetProgram Request Unit :=
  match response.estimatedCostUsdMicros with
  | none | some (.negSucc _) => pure ()
  | some (.ofNat actualUsdMicros) =>
    tryCatch
      (do
        ask (.recordActual reserved.runId actualUsdMicros)
        giveBack reserved actualUsdMicros)
      fun _ => pure ()

/-- Source `generate`. -/
def BudgetedModelGateway.generate : BudgetProgram Request Unit := do
  let reserved ← reserve options request
  let response ← ask (.generate request)
  recordActual reserved response

/-- The loop over the events of a stream. -/
def recordCompleted (reserved : ReservedCall) : List (Option ModelResponse) → BudgetProgram Request Unit
  | [] => pure ()
  | none :: events => recordCompleted reserved events
  | some response :: events => do
    BudgetedModelGateway.recordActual reserved response
    recordCompleted reserved events

/-- Source `stream`. -/
def BudgetedModelGateway.stream : BudgetProgram Request Unit := do
  let reserved ← reserve options request
  let stream ← ask (.stream request)
  recordCompleted reserved stream.events
  match stream.failure with
  | none => pure ()
  | some error => throw error

end Programs

section System
variable (Request : Type)

/-- A budgeted call; the calls of different deployments may have different options. -/
structure BudgetedCall where
  options : BudgetedModelGatewayOptions Request
  request : Request
  streams : Bool := false

/-- What the environment decides about one call. -/
structure BudgetEnvironment where
  failure : Option Thrown := none
  /-- Whether a transaction that fails has committed nevertheless. -/
  effective : Bool := false
  today : Day := 0
  response : ModelResponse := {}
  stream : ModelStream := {}

variable {Request}

/-- What is answered, if the call does not fail. -/
def BudgetEnvironment.answer {α : Type} (env : BudgetEnvironment) (a : α) : Except Thrown α :=
  match env.failure with
  | none => .ok a
  | some error => .error error

/-- What a transaction commits, if it does. -/
def BudgetEnvironment.committed {α : Type} (env : BudgetEnvironment)
    (written : Except Failure (α × BudgetLedger)) : Option (α × BudgetLedger) :=
  match written with
  | .ok result => if env.failure.isNone || env.effective then some result else none
  | .error _ => none

/-- What a transaction answers, and the ledger after it. -/
def BudgetEnvironment.transact {α : Type} (env : BudgetEnvironment) (transaction : LedgerTransaction α)
    (s : BudgetLedger) : Except Thrown α × BudgetLedger :=
  let answer :=
    match transaction s with
    | .ok (a, _) => env.answer a
    | .error failure => .error (env.failure.getD failure.thrown)
  (answer, ((env.committed (transaction s)).map Prod.snd).getD s)

/-- Answers a call. -/
def BudgetCall.perform (workspaces : Workspaces) :
    (o : BudgetCall Request) → BudgetEnvironment → BudgetLedger → Except Thrown o.Result × BudgetLedger
  | .reserve input, env, s => env.transact (ModelBudget.reserve workspaces env.today input) s
  | .generate _, env, s => (env.answer env.response, s)
  | .stream _, env, s => (env.answer env.stream, s)
  | .recordActual runId actualUsdMicros, env, s =>
    env.transact (ModelBudget.recordActual runId actualUsdMicros) s
  | .release input, env, s => env.transact (ModelBudget.release workspaces input) s

/-- The program of a budgeted call. -/
def BudgetedCall.program (call : BudgetedCall Request) : BudgetProgram Request Unit :=
  if call.streams then BudgetedModelGateway.stream call.options call.request
  else BudgetedModelGateway.generate call.options call.request

/-- Any number of budgeted calls, interleaved. -/
def budgetSystem (Request : Type) (workspaces : Workspaces) :
    System (BudgetCall Request) (fun o => Except Thrown o.Result) BudgetLedger (BudgetedCall Request)
      (Except Thrown Unit) where
  Choice := BudgetEnvironment
  perform := BudgetCall.perform workspaces
  body call := call.program.run
  admits _ _ := True

end System

end AtomsPlatform.Run.ModelBudget
