import AtomsPlatform.Contracts
import AtomsPlatform.Lib.Accounts
import AtomsPlatform.Lib.Mutable
import Mathlib.Data.List.Sort

/-!
# The delivery of run events

The browser asks for the events of a run with the number of the last event it has, and the control API
writes events as they are committed, until the run has ended; then the browser reads the status of the run,
and asks again unless the run has ended. The events and the status are read one after the other on both
sides, and everything else may commit in between.
-/

namespace AtomsPlatform.Workspace.Delivery
open Interleaving Mutable

section Store
variable {Stored : Type}

/-- A run, as far as it is streamed: its status, its log, and the users that are members of its workspace.
    A transaction that appends to the log takes the next numbers when it commits. -/
structure StreamedRun (Stored : Type) where
  status : AgentRunStatus := .pending
  log : RunLog Stored := {}
  member : Uuid → Bool := fun _ => true

/-- Source `TERMINAL_RUN_STATUSES`, which are also the statuses the browser stops at. -/
def isTerminal : AgentRunStatus → Bool
  | .completed | .failed | .cancelled => true
  | .pending | .running | .paused => false

/-- Source `listRunEventsAfter`. -/
def listRunEventsAfter (userId : Uuid) (sequence limit : Nat) (s : StreamedRun Stored) :
    List (RunEvent Stored) :=
  if s.member userId then
    ((s.log.events.filter fun event => sequence < event.sequence).insertionSort fun left right =>
      left.sequence ≤ right.sequence).take limit
  else []

/-- Source `getRun`; of the run only the status is read. -/
def getRun (userId : Uuid) (s : StreamedRun Stored) : Option AgentRunStatus :=
  if s.member userId then some s.status else none

/-- What a transaction commits: it appends events, and sets the status. -/
def StreamedRun.commit (payloads : List Stored) (status : AgentRunStatus) (s : StreamedRun Stored) :
    StreamedRun Stored :=
  { s with status, log := payloads.foldl RunLog.append s.log }

end Store

section Programs
variable (Stored Payload : Type)

/-- The calls of a stream, and the commits of everyone else. -/
inductive StreamCall where
  | listRunEventsAfter (userId : Uuid) (sequence limit : Nat)
  | findRun (userId : Uuid)
  /-- `!disconnected && Date.now() - connectedAt < maxConnectionMs` -/
  | connected
  /-- The browser takes an event from the stream and calls `onEvent` with it, which fails if the connection
      breaks, the stream is aborted, or `onEvent` throws. -/
  | receive (event : RunEvent Payload)
  /-- `input.signal.aborted` -/
  | aborted
  /-- The browser asks for the run. -/
  | getRun (userId : Uuid)
  /-- `abortableDelay` -/
  | delay
  | commit (payloads : List Stored) (status : AgentRunStatus)
  | setMember (userId : Uuid) (member : Bool)

variable {Stored Payload}

/-- What a call answers when it does not fail. -/
@[reducible]
def StreamCall.Result : StreamCall Stored Payload → Type
  | .listRunEventsAfter .. => List (RunEvent Stored)
  | .findRun _ => Option AgentRunStatus
  | .connected | .aborted => Bool
  | .getRun _ => AgentRunStatus
  | .receive _ | .delay | .commit .. | .setMember .. => Unit

/-- Why a stream fails: on the side of the control API, which ends a stream that was begun; on the side of
    the browser, where `streamRunEvents` throws; and the rounds that are looked at may be used up. -/
inductive StreamError where
  | server
  | browser
  | unfinished
deriving DecidableEq, Repr

/-- Why `streamRunEvents` returns. -/
inductive StreamEnd where
  | terminal
  | aborted
deriving DecidableEq, Repr

/-- The variables: `cursor` of the browser and the events that `onEvent` was called with, and `cursor` of
    the connection. -/
structure StreamState (Payload : Type) where
  cursor : Nat
  delivered : List (RunEvent Payload) := []
  served : Nat := 0
deriving DecidableEq, Repr

/-- Programs of a stream. The browser takes what the control API writes, in this order, and asks for more
    after the end of a connection only: one program stands for both ends. -/
abbrev StreamProgram (Stored Payload α : Type) : Type :=
  Mutable (StreamCall Stored Payload) StreamCall.Result StreamError (StreamState Payload) α

/-- The program that makes one call. -/
abbrev call (o : StreamCall Stored Payload) : StreamProgram Stored Payload o.Result :=
  Mutable.invoke o

variable (validate : Stored → Option Payload) (userId : Uuid)

/-- The body of the browser's loop over the events of a connection. -/
def receive (event : RunEvent Payload) : StreamProgram Stored Payload PUnit := do
  call (.receive event)
  modify fun v =>
    if event.sequence ≤ v.cursor then v
    else { v with cursor := event.sequence, delivered := v.delivered ++ [event] }

/-- The loop over the events of a read: `validate` is source `validateRunEventPayload` followed by
    `RunEventEnvelopeSchema.parse`. -/
def writeEvents : List (RunEvent Stored) → StreamProgram Stored Payload PUnit
  | [] => pure ⟨⟩
  | event :: events =>
    match validate event.payload with
    | none => throw .server
    | some payload => do
      receive ⟨event.sequence, payload⟩
      modify fun v => { v with served := event.sequence }
      writeEvents events

/-- `latestRun === null || TERMINAL_RUN_STATUSES.has(latestRun.status)` -/
def hasEnded (latestRun : Option AgentRunStatus) : Bool :=
  latestRun.all isTerminal

/-- The loop of the route; heartbeats are comments, which the browser skips. -/
def serveEvents : Nat → StreamProgram Stored Payload PUnit
  | 0 => throw .unfinished
  | rounds + 1 => do
    let connected ← call .connected
    if connected then
      let v ← get
      let events ← call (.listRunEventsAfter userId v.served 100)
      writeEvents validate events
      if events.length = 100 then serveEvents rounds
      else
        let latestRun ← call (.findRun userId)
        if hasEnded latestRun then pure ⟨⟩ else serveEvents rounds
    else pure ⟨⟩

/-- Source `parseLastEventId`, of the number that the browser sends. -/
def parseLastEventId (value : Nat) : Option Nat :=
  if value > 2147483647 then none else some value

/-- The stream of a connection, which `finally` ends whatever happens. -/
def connection (rounds cursor : Nat) : StreamProgram Stored Payload PUnit := do
  modify fun v => { v with served := cursor }
  tryCatch (serveEvents validate userId rounds) fun error =>
    if error = .server then pure ⟨⟩ else throw error

/-- The route `GET /v1/runs/:runId/events`; the browser throws a response that is not a stream. -/
def streamRoute (rounds lastEventId : Nat) : StreamProgram Stored Payload PUnit := do
  let run ← call (.findRun userId)
  match run, parseLastEventId lastEventId with
  | some _, some cursor => connection validate userId rounds cursor
  | _, _ => throw .browser

/-- Source `streamRunEvents` of the browser: `connections` bounds how many it opens, and `rounds` how many
    reads each of them makes. -/
def streamRunEvents (rounds : Nat) : Nat → StreamProgram Stored Payload StreamEnd
  | 0 => throw .unfinished
  | connections + 1 => do
    let aborted ← call .aborted
    if aborted then pure .aborted
    else
      let v ← get
      streamRoute validate userId rounds v.cursor
      let aborted ← call .aborted
      if aborted then pure .aborted
      else
        let status ← call (.getRun userId)
        if isTerminal status then pure .terminal
        else
          call .delay
          streamRunEvents rounds connections

end Programs

section System
variable {Stored Payload : Type} (validate : Stored → Option Payload)

/-- What runs: a browser that streams the run for a user, a transaction of the run, and a change of the
    members. -/
inductive StreamTag (Stored : Type) where
  | browser (userId : Uuid) (afterSequence rounds connections : Nat)
  | commit (payloads : List Stored) (status : AgentRunStatus)
  | setMember (userId : Uuid) (member : Bool)

/-- What a call meets: whether it fails, and what it is told. -/
structure StreamEnvironment where
  fails : Bool := false
  holds : Bool := true
deriving DecidableEq, Repr

/-- An answer, unless the call fails. -/
def StreamEnvironment.answer {α : Type} (env : StreamEnvironment) (error : StreamError) (a : α) :
    Except StreamError α :=
  if env.fails then .error error else .ok a

/-- What calls answer and do. -/
def perform : (o : StreamCall Stored Payload) → StreamEnvironment → StreamedRun Stored →
    Except StreamError o.Result × StreamedRun Stored
  | .listRunEventsAfter userId sequence limit, env, s =>
    (env.answer .server (listRunEventsAfter userId sequence limit s), s)
  | .findRun userId, env, s => (env.answer .server (getRun userId s), s)
  | .connected, env, s => (.ok env.holds, s)
  | .receive _, env, s => (env.answer .browser (), s)
  | .aborted, env, s => (.ok env.holds, s)
  | .getRun userId, env, s =>
    match getRun userId s with
    | some status => (env.answer .browser status, s)
    | none => (.error .browser, s)
  | .delay, env, s => (env.answer .browser (), s)
  | .commit payloads status, env, s =>
    (env.answer .server (), if env.fails then s else s.commit payloads status)
  | .setMember userId member, _, s =>
    (.ok (), { s with member := Function.update s.member userId member })

/-- The program of what runs; only how a browser ends is looked at. -/
def StreamTag.program : StreamTag Stored →
    Prog (StreamCall Stored Payload) (fun o => Except StreamError o.Result)
      (Except StreamError StreamEnd × StreamState Payload)
  | .browser userId afterSequence rounds connections =>
    (streamRunEvents validate userId rounds connections).start { cursor := afterSequence }
  | .commit payloads status => .call (.commit payloads status) fun _ => .ret (.ok .aborted, { cursor := 0 })
  | .setMember userId member => .call (.setMember userId member) fun _ => .ret (.ok .aborted, { cursor := 0 })

/-- Browsers that stream a run while it goes on. -/
def streamSystem : System (StreamCall Stored Payload) (fun o => Except StreamError o.Result)
    (StreamedRun Stored) (StreamTag Stored) (Except StreamError StreamEnd × StreamState Payload) where
  Choice := StreamEnvironment
  perform := perform
  admits _ _ := True
  body := StreamTag.program validate

end System

end AtomsPlatform.Workspace.Delivery
