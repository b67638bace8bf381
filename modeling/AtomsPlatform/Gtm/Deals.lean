import AtomsPlatform.Contracts
import AtomsPlatform.Lib.Trace
import AtomsPlatform.Lib.Table

/-!
# Deals

The part of the control API's `PrismaGtmRepository` that creates deals and moves them through their
stages, and the worker's sweep that records which won deals are ready for customer success. An update
of a stage is a read and a write of one transaction, at the isolation level READ COMMITTED: other
transactions may commit in between.
-/

namespace AtomsPlatform.Gtm
open Interleaving

/-- Source `DealStage`. -/
inductive DealStage where
  | prospecting
  | qualification
  | proposal
  | negotiation
  | closedWon
  | closedLost
deriving DecidableEq, Repr

/-- Source `CLOSED_STAGES`. -/
def DealStage.closed : DealStage → Bool
  | .closedWon | .closedLost => true
  | _ => false

/-- The name of a stage in the schema. -/
def DealStage.name : DealStage → String
  | .prospecting => "PROSPECTING"
  | .qualification => "QUALIFICATION"
  | .proposal => "PROPOSAL"
  | .negotiation => "NEGOTIATION"
  | .closedWon => "CLOSED_WON"
  | .closedLost => "CLOSED_LOST"

/-- Model `Deal` of the schema. -/
structure Deal where
  id : Uuid
  gtmScopeId : Uuid
  prospectId : Uuid
  name : String
  stage : DealStage
  amountUsdMicros : Option Int
  closeDateExpected : Option Date
  closedAt : Option Date
deriving DecidableEq, Repr

/-- Model `Prospect` of the schema. -/
structure Prospect where
  id : Uuid
  gtmScopeId : Uuid
deriving DecidableEq, Repr

/-- Model `CustomerSuccessHandoff` of the schema. -/
structure CustomerSuccessHandoff where
  id : Uuid
  gtmScopeId : Uuid
  dealId : Uuid
  prospectId : Uuid
  detectedAt : Date
deriving DecidableEq, Repr

/-- The tables. -/
structure DealStore where
  prospects : List Prospect := []
  deals : List Deal := []
  handoffs : List CustomerSuccessHandoff := []

/-- The deal of an id. -/
def DealStore.deal? (s : DealStore) (id : Uuid) : Option Deal :=
  Table.lookup Deal.id id s.deals

/-- Errors: of the database, and the answers of the API. -/
inductive Failure where
  | prisma :
    (code message : String) → Failure
  | api :
    (statusCode : Nat) → (code message : String) → Failure
deriving DecidableEq, Repr

/-- Source `CreateDealInput`. -/
structure CreateDealInput where
  prospectId : Uuid
  name : String
  stage : Option DealStage
  amountUsdMicros : Option Int
  closeDateExpected : Option Date
deriving DecidableEq, Repr

/-- Source `DealReadyForHandoff`. -/
structure DealReadyForHandoff where
  dealId : Uuid
  gtmScopeId : Uuid
  prospectId : Uuid
  closedAt : Date
deriving DecidableEq, Repr

/-- Source `UpdateDealStageResult`. -/
inductive UpdateDealStageResult where
  | ok :
    Deal → UpdateDealStageResult
  | notFound
  | terminalStage :
    Deal → UpdateDealStageResult
deriving DecidableEq, Repr

/-- The statements, and the calls of the clock and of the membership check. -/
inductive Operation where
  | now
  | getGtmScopeAccess (userId gtmScopeId : Uuid)
  | findProspect (prospectId gtmScopeId : Uuid)
  | createDeal (gtmScopeId : Uuid) (input : CreateDealInput) (stage : DealStage)
    (closedAt : Option Date)
  | findDeal (dealId gtmScopeId : Uuid)
  | updateDeal (dealId : Uuid) (stage : DealStage) (closedAt : Option Date)
  | listDealsReadyForHandoff
  | createHandoff (dealId gtmScopeId prospectId : Uuid) (detectedAt : Date)
deriving DecidableEq, Repr

/-- What an operation answers. -/
def Operation.Answer : Operation → Type
  | .now => Date
  | .getGtmScopeAccess .. => Bool
  | .findProspect .. => Option Prospect
  | .createDeal .. => Deal
  | .findDeal .. => Option Deal
  | .updateDeal .. => Deal
  | .listDealsReadyForHandoff => List DealReadyForHandoff
  | .createHandoff .. => Unit

/-- Programs on these operations. -/
abbrev Program (α : Type) : Type :=
  Fallible Operation Operation.Answer Failure α

/-- One call. -/
abbrev call (o : Operation) : Program o.Answer :=
  invoke o

section Programs

/-- Source `createDeal` of the repository. -/
def createDeal (gtmScopeId : Uuid) (input : CreateDealInput) (now : Date) : Program (Option Deal) := do
  let prospect ← call (.findProspect input.prospectId gtmScopeId)
  match prospect with
  | none => pure none
  | some _ =>
    let stage := input.stage.getD .prospecting
    let deal ← call (.createDeal gtmScopeId input stage (if stage.closed then some now else none))
    pure (some deal)

/-- Source `updateDealStage` of the repository. -/
def updateDealStage (gtmScopeId dealId : Uuid) (stage : DealStage) (now : Date) :
    Program UpdateDealStageResult := do
  let existing ← call (.findDeal dealId gtmScopeId)
  match existing with
  | none => pure .notFound
  | some existing =>
    if existing.stage.closed then pure (.terminalStage existing)
    else
      let updated ← call
        (.updateDeal dealId stage (if stage.closed then some now else existing.closedAt))
      pure (.ok updated)

/-- The check that the routes begin with. -/
def requireAccess (userId gtmScopeId : Uuid) : Program Unit := do
  let access ← call (.getGtmScopeAccess userId gtmScopeId)
  match access with
  | true => pure ()
  | false => throw (.api 404 "WORKSPACE_ACCESS_DENIED" "Workspace access denied")

/-- Source route `createDeal`. -/
def createDealRoute (userId gtmScopeId : Uuid) (input : CreateDealInput) : Program Deal := do
  requireAccess userId gtmScopeId
  let now ← call .now
  let result ← createDeal gtmScopeId input now
  match result with
  | none => throw (.api 404 "PROSPECT_NOT_FOUND" "Prospect not found")
  | some deal => pure deal

/-- Source route `updateDealStage`. -/
def updateDealStageRoute (userId gtmScopeId dealId : Uuid) (stage : DealStage) : Program Deal := do
  requireAccess userId gtmScopeId
  let now ← call .now
  let result ← updateDealStage gtmScopeId dealId stage now
  match result with
  | .notFound => throw (.api 404 "DEAL_NOT_FOUND" "Deal not found")
  | .terminalStage deal =>
    throw (.api 409 "DEAL_STAGE_TERMINAL"
      ("Deal is already " ++ deal.stage.name ++ " and cannot change stage"))
  | .ok deal => pure deal

/-- Source `recordHandoff`: whether a hand-off was created. -/
def recordHandoff (dealId gtmScopeId prospectId : Uuid) (now : Date) : Program Bool :=
  tryCatch
    (do
      call (.createHandoff dealId gtmScopeId prospectId now)
      pure true)
    fun error =>
      match error with
      | .prisma "P2002" _ => pure false
      | error => throw error

/-- The loop of source `reconcile`: how many hand-offs were created. -/
def recordHandoffs : List DealReadyForHandoff → Program Nat
  | [] => pure 0
  | deal :: deals => do
    let now ← call .now
    let created ← recordHandoff deal.dealId deal.gtmScopeId deal.prospectId now
    let more ← recordHandoffs deals
    pure (if created then more + 1 else more)

/-- Source `CustomerSuccessHandoffSummary`. -/
structure HandoffSummary where
  dealsScanned : Nat
  handoffsCreated : Nat
deriving DecidableEq, Repr

/-- Source `reconcile`. -/
def reconcile : Program HandoffSummary := do
  let deals ← call .listDealsReadyForHandoff
  let handoffsCreated ← recordHandoffs deals
  pure { dealsScanned := deals.length, handoffsCreated }

end Programs

section System

/-- How a call ends: it commits, nothing happens, or it commits and the answer is lost. -/
inductive Fate where
  | commits
  | aborts :
    Failure → Fate
  | unacknowledged :
    Failure → Fate
deriving DecidableEq, Repr

/-- What the environment decides about one call. -/
structure Environment where
  fate : Fate := .commits
  now : Date := 0
  id : Uuid := 0
  access : Bool := true

/-- What a statement does to the tables. A write that cannot be done is refused: identifiers and the
    deals of hand-offs are unique, and a hand-off is one of an existing deal. -/
def transact (env : Environment) : (o : Operation) → DealStore → Except Failure (o.Answer × DealStore)
  | .now, s => .ok (env.now, s)
  | .getGtmScopeAccess .., s => .ok (env.access, s)
  | .findProspect prospectId gtmScopeId, s =>
    .ok (s.prospects.find? fun p => p.id = prospectId ∧ p.gtmScopeId = gtmScopeId, s)
  | .createDeal gtmScopeId input stage closedAt, s =>
    if s.deals.any fun d => d.id = env.id then .error (.prisma "P2002" "Unique constraint failed")
    else
      let deal : Deal :=
        { id := env.id
          gtmScopeId
          prospectId := input.prospectId
          name := input.name
          stage
          amountUsdMicros := input.amountUsdMicros
          closeDateExpected := input.closeDateExpected
          closedAt }
      .ok (deal, { s with deals := s.deals ++ [deal] })
  | .findDeal dealId gtmScopeId, s =>
    .ok (s.deals.find? fun d => d.id = dealId ∧ d.gtmScopeId = gtmScopeId, s)
  | .updateDeal dealId stage closedAt, s =>
    match s.deal? dealId with
    | none => .error (.prisma "P2025" "Record to update not found")
    | some deal =>
      .ok ({ deal with stage, closedAt },
        { s with
          deals := Table.update Deal.id dealId (fun _ => true)
            (fun d => { d with stage, closedAt }) s.deals })
  | .listDealsReadyForHandoff, s =>
    .ok ((s.deals.filter fun d =>
        d.stage = .closedWon ∧ s.handoffs.all fun h => h.dealId ≠ d.id).map fun d =>
      { dealId := d.id
        gtmScopeId := d.gtmScopeId
        prospectId := d.prospectId
        closedAt := d.closedAt.getD env.now }, s)
  | .createHandoff dealId gtmScopeId prospectId detectedAt, s =>
    if s.handoffs.any fun h => h.dealId = dealId ∨ h.id = env.id then
      .error (.prisma "P2002" "Unique constraint failed")
    else if (s.deal? dealId).isNone then .error (.prisma "P2003" "Foreign key constraint failed")
    else
      .ok ((), { s with
        handoffs := s.handoffs ++ [{ id := env.id, gtmScopeId, dealId, prospectId, detectedAt }] })

/-- Answers a call: the statement may be refused, and the environment decides its fate. -/
def perform (o : Operation) (env : Environment) (s : DealStore) :
    Except Failure o.Answer × DealStore :=
  match transact env o s, env.fate with
  | .ok (r, s'), .commits => (.ok r, s')
  | .ok (_, s'), .unacknowledged error => (.error error, s')
  | .error error, .commits | .error error, .unacknowledged _ => (.error error, s)
  | _, .aborts error => (.error error, s)

/-- What can be started. -/
inductive Activity where
  | dealCreation (userId gtmScopeId : Uuid) (input : CreateDealInput)
  | stageUpdate (userId gtmScopeId dealId : Uuid) (stage : DealStage)
  | handoffSweep
deriving DecidableEq, Repr

/-- How an activity ends. -/
inductive Response where
  | deal :
    Deal → Response
  | swept :
    HandoffSummary → Response
deriving DecidableEq, Repr

/-- The program of an activity. -/
def Activity.program : Activity → Program Response
  | .dealCreation userId gtmScopeId input => do
    let deal ← createDealRoute userId gtmScopeId input
    pure (.deal deal)
  | .stageUpdate userId gtmScopeId dealId stage => do
    let deal ← updateDealStageRoute userId gtmScopeId dealId stage
    pure (.deal deal)
  | .handoffSweep => do
    let summary ← reconcile
    pure (.swept summary)

/-- Any number of requests and sweeps, interleaved at their statements. -/
def dealSystem : System Operation (fun o => Except Failure o.Answer) DealStore Activity
    (Except Failure Response) where
  Choice := Environment
  perform := perform
  body activity := activity.program.run
  admits _ _ := True

instance (s : DealStore) (activity : Activity) : Decidable (dealSystem.admits s activity) :=
  inferInstanceAs (Decidable True)

/-- Configurations. -/
abbrev DealConfig : Type :=
  Config Operation (fun o => Except Failure o.Answer) DealStore Activity (Except Failure Response)

/-- The start of a run: no deal and no hand-off yet, and nothing started; the prospects are arbitrary. -/
def Starts (c : DealConfig) : Prop :=
  c.store.deals = [] ∧ c.store.handoffs = [] ∧ c.threads = []

end System

end AtomsPlatform.Gtm
