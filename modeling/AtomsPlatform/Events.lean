import AtomsPlatform.Lib.SequencedLog
import AtomsPlatform.Contracts

/-!
# The run event log

Six components append to the event log of a run, each inside a transaction of its own: the worker's
repository, the database repository, the reconciliation repository, the control API, the expiry
sweeps and the release repository. Each appender increments `eventSequence` on the row of the run and
creates an event under the number it is given. A transaction is any program of calls of these appenders
and of other statements, which touch neither `eventSequence` nor the events.

`run_events_gapless` instantiates the library of sequenced logs: a commit appends (`RunLog.append`)
the events of its transaction one after the other, and nothing else changes a log.
-/

namespace AtomsPlatform.Events
open Interleaving SequencedLog

/-- A stored event: its type and its payload. -/
structure StoredEvent (Json : Type) where
  eventType : String
  payload : Json
deriving DecidableEq, Repr

/-- The schemas of event payloads, from `packages/contracts`. -/
structure EventSchemas (Json : Type) where
  /-- `validateRunEventPayload`: the normalised payload, if it is valid. -/
  validateRunEventPayload : (eventType : String) → Json → Option Json
  /-- `JsonValueSchema.parse` -/
  jsonValue : Json → Option Json
  /-- The payload of a status change: version `v1` of the integration `generated-database` at the
      provider `SUPABASE`, with the fields of the change. -/
  statusChanged : DatabaseStatusChanged → Json

variable {Json α : Type}

/-- The part of a transaction that calls an appender. -/
abbrev Appender (Json α β : Type) : Type :=
  Fallible (Statement Uuid (StoredEvent Json)) (Statement.Answer α) String β

/-- Passes a parsed value on; a value that is not valid is thrown at the caller. -/
def parsed {β : Type} : Option β → Appender Json α β
  | some value => pure value
  | none => throw "Invalid run event payload"

/-- `agentRun.update({ where: { id }, data: { eventSequence: { increment: 1 } } })` -/
def incrementEventSequence (runId : Uuid) : Appender Json α Nat :=
  invoke (Statement.increment runId)

/-- `runEvent.create({ data: { runId, sequence, eventType, payload } })` -/
def createRunEvent (runId : Uuid) (sequence : Nat) (eventType : String) (payload : Json) :
    Appender Json α Unit :=
  invoke (Statement.insert runId sequence ⟨eventType, payload⟩)

variable (schemas : EventSchemas Json)

/-- `appendEvent` of the worker's repository. -/
def workerAppendEvent (runId : Uuid) (eventType : String) (payload : Json) :
    Appender Json α Unit := do
  let validated ← parsed (schemas.validateRunEventPayload eventType payload)
  let normalizedPayload ← parsed (schemas.jsonValue validated)
  let sequence ← incrementEventSequence runId
  createRunEvent runId sequence eventType normalizedPayload

/-- `appendStatusEvent` of the database repository; the payload is parsed again after the counter was
    incremented. -/
def appendStatusEvent (sourceRunId : Uuid) (change : DatabaseStatusChanged) :
    Appender Json α Unit := do
  let payload ← parsed
    (schemas.validateRunEventPayload "integration.status_changed" (schemas.statusChanged change))
  let sequence ← incrementEventSequence sourceRunId
  let payload ← parsed (schemas.jsonValue payload)
  createRunEvent sourceRunId sequence "integration.status_changed" payload

/-- `appendIntegrationEvent` of the reconciliation repository. -/
def appendIntegrationEvent (runId : Uuid) (change : DatabaseStatusChanged) :
    Appender Json α Unit :=
  appendStatusEvent schemas runId change

/-- `appendRunEvent` of the control API, which does not parse the payload. -/
def appendRunEvent (runId : Uuid) (change : DatabaseStatusChanged) : Appender Json α Unit := do
  let sequence ← incrementEventSequence runId
  createRunEvent runId sequence "integration.status_changed" (schemas.statusChanged change)

/-- `appendEvent` of the expiry sweeps. -/
def sweepAppendEvent (runId : Uuid) (eventType : String) (payload : Json) : Appender Json α Unit :=
  workerAppendEvent schemas runId eventType payload

/-- `appendReleaseEvent` of the release repository. -/
def appendReleaseEvent (runId : Uuid) (eventType : String) (payload : Json) :
    Appender Json α Unit :=
  workerAppendEvent schemas runId eventType payload

/-- A call of one of the six appenders. -/
inductive Append (Json : Type) where
  | worker (runId : Uuid) (eventType : String) (payload : Json)
  | database (sourceRunId : Uuid) (change : DatabaseStatusChanged)
  | reconciliation (runId : Uuid) (change : DatabaseStatusChanged)
  | controlApi (runId : Uuid) (change : DatabaseStatusChanged)
  | sweep (runId : Uuid) (eventType : String) (payload : Json)
  | release (runId : Uuid) (eventType : String) (payload : Json)

/-- The program of a call. -/
def Append.program : Append Json → Appender Json α Unit
  | .worker runId eventType payload => workerAppendEvent schemas runId eventType payload
  | .database sourceRunId change => appendStatusEvent schemas sourceRunId change
  | .reconciliation runId change => appendIntegrationEvent schemas runId change
  | .controlApi runId change => appendRunEvent schemas runId change
  | .sweep runId eventType payload => sweepAppendEvent schemas runId eventType payload
  | .release runId eventType payload => appendReleaseEvent schemas runId eventType payload

/-- A transaction body: calls of appenders and other statements, whose answers it can act on. -/
inductive TransactionBody (Json α : Type) where
  | returns
  | throws :
    (error : String) → TransactionBody Json α
  | other :
    (Except String α → TransactionBody Json α) → TransactionBody Json α
  | appends :
    Append Json → TransactionBody Json α → TransactionBody Json α

/-- The program of a transaction body. -/
def TransactionBody.program : TransactionBody Json α → Appender Json α Unit
  | .returns => pure ()
  | .throws error => throw error
  | .other next => ExceptT.mk (.call .other fun answer => (next answer).program.run)
  | .appends append next => do
    append.program schemas
    next.program

/-- The transactions of the six components. -/
def Transacts (body : Body Uuid (StoredEvent Json) α String Unit) : Prop :=
  ∃ transaction : TransactionBody Json α, body = (transaction.program schemas).run

/-- The database as far as the event logs are concerned. -/
abbrev EventConfig (Json α : Type) : Type :=
  Config Uuid (StoredEvent Json) α String Unit

section Discipline

/-- A parse takes no number, whatever is still owed. -/
lemma pays_parsed {β γ : Type} {value : Option β} {f : β → Appender Json α γ}
    {debt : Option (Uuid × Nat)} (next : ∀ b, Pays debt (f b).run) :
    Pays debt (parsed value >>= f).run := by
  cases value with
  | none => trivial
  | some b => exact next b

variable {schemas}

lemma pays_workerAppendEvent {runId : Uuid} {eventType : String} {payload : Json} :
    Pays none (workerAppendEvent schemas runId eventType payload : Appender Json α Unit).run := by
  apply pays_parsed
  intro validated
  apply pays_parsed
  intro normalizedPayload
  exact ⟨rfl, fun sequence => ⟨rfl, rfl⟩⟩

lemma pays_appendStatusEvent {runId : Uuid} {change : DatabaseStatusChanged} :
    Pays none (appendStatusEvent schemas runId change : Appender Json α Unit).run := by
  apply pays_parsed
  intro payload
  refine ⟨rfl, fun sequence => ?_⟩
  apply pays_parsed
  intro payload
  exact ⟨rfl, rfl⟩

/-- Every appender creates exactly one event, under the number it took. -/
lemma pays_append (append : Append Json) :
    Pays none (append.program schemas : Appender Json α Unit).run := by
  cases append with
  | worker => exact pays_workerAppendEvent
  | database => exact pays_appendStatusEvent
  | reconciliation => exact pays_appendStatusEvent
  | controlApi => exact ⟨rfl, fun sequence => ⟨rfl, rfl⟩⟩
  | sweep => exact pays_workerAppendEvent
  | release => exact pays_workerAppendEvent

/-- Every transaction of the six components is disciplined. -/
lemma pays_transaction (transaction : TransactionBody Json α) :
    Pays none (transaction.program schemas).run := by
  induction transaction with
  | returns => exact rfl
  | throws => trivial
  | other next ih => exact ih
  | appends append next ih => exact (pays_append append).bind fun _ => ih

end Discipline

/-- The event log of a run: its counter and its visible events. -/
def EventConfig.log (c : EventConfig Json α) (runId : Uuid) : RunLog (StoredEvent Json) where
  eventSequence := c.counter runId
  events := (recordsOf runId c.table).map fun r => ⟨r.number, r.payload⟩

/-- The events of a run that a transaction has created, in their order. -/
def createdEvents (t : Transaction Uuid (StoredEvent Json) α String Unit) (runId : Uuid) :
    List (StoredEvent Json) :=
  (recordsOf runId t.inserted).map Record.payload

/-- Events that continue the numbering of a log are appended to it one after the other. -/
lemma foldl_append {Payload : Type} (log : RunLog Payload) {records : List (Record Uuid Payload)}
    (numbers : records.map Record.number =
      List.range' (log.eventSequence + 1) records.length) :
    (records.map Record.payload).foldl RunLog.append log =
      ⟨log.eventSequence + records.length, log.events ++ records.map fun r =>
        ⟨r.number, r.payload⟩⟩ := by
  induction records generalizing log with
  | nil => simp
  | cons r records ih =>
    simp only [List.map_cons, List.length_cons, List.range'_succ, List.cons.injEq] at numbers
    obtain ⟨number, numbers⟩ := numbers
    rw [List.map_cons, List.foldl_cons, ih _ numbers]
    simp [RunLog.append, number]
    omega

/-- In every reachable state of the database the visible events of every run are numbered 1 to
    `eventSequence`, in the order in which they became visible. From there, a commit appends to each
    log the events its transaction has created, and no other step changes a log; in particular a
    transaction that fails leaves them all as they were. -/
theorem run_events_gapless (schemas : EventSchemas Json) {c : EventConfig Json α}
    (run : Reachable (Transacts schemas) c) :
    (∀ runId, (c.log runId).events.map RunEvent.sequence =
      List.range' 1 (c.log runId).eventSequence) ∧
    (∀ l (c' : EventConfig Json α), Step (Transacts schemas) c l c' → (∀ id, l ≠ .commits id) →
      c'.log = c.log) ∧
    ∀ id t (c' : EventConfig Json α), c.active id = some t →
      Step (Transacts schemas) c (.commits id) c' → ∀ runId, c'.log runId = (createdEvents t runId).foldl RunLog.append (c.log runId) := by
  have sound : Sound c := by
    refine Sound.run ?_ run
    intro body ⟨transaction, e⟩
    rw [e]
    exact pays_transaction transaction
  refine ⟨?_, ?_, ?_⟩
  · intro runId
    have gapless := sound.gapless runId
    simpa [EventConfig.log, numbersOf, Function.comp_def] using gapless
  · intro l c' step uncommitted
    obtain ⟨counter, table⟩ := step.visible uncommitted
    funext runId
    simp only [EventConfig.log, counter, table]
  · intro id t c' active step runId
    cases step with
    | @commits _ t' b active' rest =>
      cases active.symm.trans active'
      obtain ⟨value, numbers⟩ := sound.commits active rest runId
      rw [createdEvents, foldl_append (c.log runId) numbers]
      simp only [EventConfig.log, value, recordsOf, List.filter_append, List.map_append]

section Scenario

/-- Schemas that accept every text. -/
def textSchemas : EventSchemas String where
  validateRunEventPayload := fun _ payload => some payload
  jsonValue := some
  statusChanged := fun change => change.message

/-- The worker starts a task of run 1. -/
def taskStarted : TransactionBody String Unit :=
  .appends (.worker 1 "task.started" "Sophia") .returns

/-- A transaction takes the first number of run 1 and fails; another one then commits an event. -/
lemma failedThenCommitted : ∃ c : EventConfig String Unit,
    Reachable (Transacts textSchemas) c ∧
      c.log 1 = ⟨1, [⟨1, ⟨"task.started", "Sophia"⟩⟩]⟩ := by
  have admitted : Transacts textSchemas (taskStarted.program textSchemas).run := ⟨_, rfl⟩
  let fresh : Transaction Uuid (StoredEvent String) Unit String Unit :=
    ⟨fun _ => none, [], (taskStarted.program textSchemas).run⟩
  have began : Reachable (Transacts textSchemas) _ :=
    .tail .refl ⟨.begins 0, .begins rfl admitted⟩
  have took : Reachable (Transacts textSchemas) _ :=
    began.tail ⟨.statement 0, .increment (t := fresh) rfl rfl ?_⟩
  have failed : Reachable (Transacts textSchemas) _ :=
    took.tail ⟨.fails 0, .fails rfl⟩
  have began' : Reachable (Transacts textSchemas) _ :=
    failed.tail ⟨.begins 0, .begins rfl admitted⟩
  have took' : Reachable (Transacts textSchemas) _ :=
    began'.tail ⟨.statement 0, .increment (t := fresh) rfl rfl ?_⟩
  have created : Reachable (Transacts textSchemas) _ :=
    took'.tail ⟨.statement 0, .insert (t := ⟨Function.update fresh.written 1 (some 1), [], _⟩)
      rfl rfl⟩
  have committed : Reachable (Transacts textSchemas) _ :=
    created.tail ⟨.commits 0, .commits (t := ⟨Function.update fresh.written 1 (some 1), _, _⟩)
      rfl rfl⟩
  · exact ⟨_, committed, rfl⟩
  all_goals
    intro j u ne at_j
    simp [Config.empty, ne] at at_j

/-- `run_events_gapless` after these two transactions. -/
theorem run_events_gapless_committed : ∃ c : EventConfig String Unit,
    (c.log 1).eventSequence = 1 ∧
    (∀ runId, (c.log runId).events.map RunEvent.sequence =
      List.range' 1 (c.log runId).eventSequence) ∧
    ∀ l (c' : EventConfig String Unit), Step (Transacts textSchemas) c l c' →
      (∀ id, l ≠ .commits id) → c'.log = c.log := by
  obtain ⟨c, run, log⟩ := failedThenCommitted
  obtain ⟨gapless, uncommitted, -⟩ := run_events_gapless textSchemas run
  exact ⟨c, by rw [log], gapless, uncommitted⟩

end Scenario

end AtomsPlatform.Events
