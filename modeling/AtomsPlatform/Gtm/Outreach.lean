import AtomsPlatform.Gtm.ClosedDeals
import AtomsPlatform.Workspace.Events

/-!
# Outreach events

The part of the control API's `PrismaGtmRepository` that records what providers report of the steps of
outreach sequences. There is one row per step and prospect, and a report overwrites it whatever it says
of the time: the row has the outcome of the report that was recorded last.
-/

namespace AtomsPlatform.Gtm.Outreach
open Interleaving
open AtomsPlatform.Workspace (JsonValue)

/-- Source `OutreachChannel`. -/
inductive OutreachChannel where
  | email
  | linkedin
  | call
deriving DecidableEq, Repr

/-- Source `OutreachEventKind`. -/
inductive OutreachEventKind where
  | queued
  | sent
  | opened
  | clicked
  | replied
  | bounced
  | failed
  | suppressed
deriving DecidableEq, Repr

/-- Source `RecordOutreachEventInput`. -/
structure RecordOutreachEventInput where
  prospectId : Uuid
  stepOrdinal : Nat
  channel : OutreachChannel
  kind : OutreachEventKind
  providerMessageId : Option String := none
  occurredAt : Date
  metadata : Option JsonValue := none

/-- Model `OutreachSequence` of the schema. -/
structure OutreachSequence where
  id : Uuid
  gtmScopeId : Uuid
deriving DecidableEq, Repr

/-- Model `OutreachEvent` of the schema. The column `metadata` is either NULL or a value of JSON. -/
structure OutreachEvent where
  id : Uuid
  sequenceId : Uuid
  prospectId : Uuid
  stepOrdinal : Nat
  channel : OutreachChannel
  kind : OutreachEventKind
  providerMessageId : Option String
  occurredAt : Date
  metadata : Option JsonValue
  createdAt : Date

/-- The unique key `sequenceId_prospectId_stepOrdinal`. -/
def OutreachEvent.key (e : OutreachEvent) : Uuid × Uuid × Nat :=
  (e.sequenceId, e.prospectId, e.stepOrdinal)

/-- The tables. -/
structure OutreachStore where
  sequences : List OutreachSequence := []
  prospects : List Prospect := []
  events : List OutreachEvent := []

/-- The row of a step. -/
def OutreachStore.event? (s : OutreachStore) (key : Uuid × Uuid × Nat) : Option OutreachEvent :=
  Table.lookup OutreachEvent.key key s.events

/-- Source `RecordOutreachEventResult`. -/
inductive RecordOutreachEventResult where
  | ok :
    OutreachEvent → RecordOutreachEventResult
  | prospectNotFound

/-- The statements. -/
inductive Operation where
  | findSequence (sequenceId : Uuid)
  | findProspect (prospectId gtmScopeId : Uuid)
  | upsertEvent (sequenceId : Uuid) (input : RecordOutreachEventInput)

/-- What an operation answers. -/
def Operation.Answer : Operation → Type
  | .findSequence _ => Option OutreachSequence
  | .findProspect .. => Option Prospect
  | .upsertEvent .. => OutreachEvent

/-- Programs on these operations. -/
abbrev Program (α : Type) : Type :=
  Fallible Operation Operation.Answer Failure α

/-- One call. -/
abbrev call (o : Operation) : Program o.Answer :=
  invoke o

/-- Source `recordOutreachEvent`. -/
def recordOutreachEvent (sequenceId : Uuid) (input : RecordOutreachEventInput) :
    Program RecordOutreachEventResult := do
  let sequence ← call (.findSequence sequenceId)
  match sequence with
  | none => pure .prospectNotFound
  | some sequence => do
    let prospect ← call (.findProspect input.prospectId sequence.gtmScopeId)
    match prospect with
    | none => pure .prospectNotFound
    | some _ => do
      let event ← call (.upsertEvent sequenceId input)
      pure (.ok event)

section System

/-- What the environment decides about one call. -/
structure Environment where
  fate : Fate := .commits
  now : Date := 0
  id : Uuid := 0

/-- The row that the `create` part of the upsert makes. -/
def created (sequenceId : Uuid) (input : RecordOutreachEventInput) (env : Environment) : OutreachEvent where
  id := env.id
  sequenceId
  prospectId := input.prospectId
  stepOrdinal := input.stepOrdinal
  channel := input.channel
  kind := input.kind
  providerMessageId := input.providerMessageId
  occurredAt := input.occurredAt
  metadata := input.metadata
  createdAt := env.now

/-- The row that the `update` part of the upsert makes. -/
def updated (input : RecordOutreachEventInput) (row : OutreachEvent) : OutreachEvent :=
  { row with
    channel := input.channel
    kind := input.kind
    providerMessageId := input.providerMessageId
    occurredAt := input.occurredAt
    metadata := some (input.metadata.getD .null) }

/-- What a statement does to the tables. -/
def transact (env : Environment) : (o : Operation) → OutreachStore → o.Answer × OutreachStore
  | .findSequence sequenceId, s => (s.sequences.find? fun q => q.id = sequenceId, s)
  | .findProspect prospectId gtmScopeId, s =>
    (s.prospects.find? fun p => p.id = prospectId ∧ p.gtmScopeId = gtmScopeId, s)
  | .upsertEvent sequenceId input, s =>
    let key := (sequenceId, input.prospectId, input.stepOrdinal)
    match s.event? key with
    | none =>
      let row := created sequenceId input env
      (row, { s with events := s.events ++ [row] })
    | some row =>
      (updated input row,
        { s with events := Table.update OutreachEvent.key key (fun _ => true) (updated input) s.events })

/-- Answers a call: the environment decides its fate. -/
def perform (o : Operation) (env : Environment) (s : OutreachStore) :
    Except Failure o.Answer × OutreachStore :=
  match env.fate with
  | .commits => (.ok (transact env o s).1, (transact env o s).2)
  | .unacknowledged error => (.error error, (transact env o s).2)
  | .aborts error => (.error error, s)

/-- A report to be recorded. -/
structure Delivery where
  sequenceId : Uuid
  input : RecordOutreachEventInput

/-- Any number of deliveries, interleaved at their statements. -/
def outreachSystem : System Operation (fun o => Except Failure o.Answer) OutreachStore Delivery
    (Except Failure RecordOutreachEventResult) where
  Choice := Environment
  perform := perform
  body delivery := (recordOutreachEvent delivery.sequenceId delivery.input).run
  admits _ _ := True

instance (s : OutreachStore) (delivery : Delivery) : Decidable (outreachSystem.admits s delivery) :=
  inferInstanceAs (Decidable True)

/-- Configurations. -/
abbrev OutreachConfig : Type :=
  Config Operation (fun o => Except Failure o.Answer) OutreachStore Delivery
    (Except Failure RecordOutreachEventResult)

/-- Histories. -/
abbrev OutreachHistory : Type :=
  List (OutreachConfig × outreachSystem.Label)

end System

section Specification

/-- What a row says of a step. -/
structure StepOutcome where
  kind : OutreachEventKind
  channel : OutreachChannel
  providerMessageId : Option String
  metadata : Option JsonValue
  occurredAt : Date

/-- The metadata as source `toOutreachEventRecord` reads them: the null of JSON is no value. -/
def readMetadata : Option JsonValue → Option JsonValue
  | some .null => none
  | metadata => metadata

/-- What a row says. -/
def OutreachEvent.outcome (e : OutreachEvent) : StepOutcome where
  kind := e.kind
  channel := e.channel
  providerMessageId := e.providerMessageId
  metadata := readMetadata e.metadata
  occurredAt := e.occurredAt

/-- What a report says. -/
def RecordOutreachEventInput.outcome (input : RecordOutreachEventInput) : StepOutcome where
  kind := input.kind
  channel := input.channel
  providerMessageId := input.providerMessageId
  metadata := readMetadata input.metadata
  occurredAt := input.occurredAt

/-- The report that a step recorded for a row: its upsert took effect. -/
def recordedOf (key : Uuid × Uuid × Nat) :
    OutreachConfig × outreachSystem.Label → Option RecordOutreachEventInput
  | (_, .act _ (.upsertEvent sequenceId input) (env : Environment)) =>
    if (sequenceId, input.prospectId, input.stepOrdinal) = key ∧ env.fate.aborted = false then some input
    else none
  | _ => none

/-- The reports that were recorded for a row, in the order of their upserts. -/
def recorded (key : Uuid × Uuid × Nat) (h : OutreachHistory) : List RecordOutreachEventInput :=
  h.filterMap (recordedOf key)

/-- The row of a step says what the latest of its reports says. -/
def KeepsLatest (key : Uuid × Uuid × Nat) (h : OutreachHistory) (c : OutreachConfig) : Prop :=
  ∀ input ∈ recorded key h, (∀ other ∈ recorded key h, other.occurredAt ≤ input.occurredAt) →
    (c.store.event? key).map OutreachEvent.outcome = some input.outcome

/-- Reports at different times. -/
def TimesDiffer (inputs : List RecordOutreachEventInput) : Prop :=
  ∀ a ∈ inputs, ∀ b ∈ inputs, a.occurredAt = b.occurredAt → a = b

end Specification

section Rows
variable {s : OutreachStore} {key : Uuid × Uuid × Nat} {sequenceId : Uuid}
  {input : RecordOutreachEventInput} {env : Environment}

lemma readMetadata_updated {metadata : Option JsonValue} :
    readMetadata (some (metadata.getD .null)) = readMetadata metadata := by
  cases metadata with
  | none => rfl
  | some _ => rfl

lemma key_updated (row : OutreachEvent) (named : row.key = key) : (updated input row).key = key :=
  named

/-- After an upsert the row says what the report says. -/
lemma outcome_upserted :
    ((transact env (.upsertEvent sequenceId input) s).2.event?
      (sequenceId, input.prospectId, input.stepOrdinal)).map OutreachEvent.outcome =
        some input.outcome := by
  rw [transact]
  cases found : s.event? (sequenceId, input.prospectId, input.stepOrdinal) with
  | none =>
    have named : (created sequenceId input env).key =
        (sequenceId, input.prospectId, input.stepOrdinal) := rfl
    dsimp only
    rw [OutreachStore.event?, Table.lookup_append_new found named]
    rfl
  | some row =>
    dsimp only
    rw [OutreachStore.event?] at found ⊢
    rw [Table.lookup_update key_updated, found]
    refine congrArg some ?_
    show (updated input row).outcome = input.outcome
    rw [OutreachEvent.outcome, updated]
    dsimp only
    rw [readMetadata_updated]
    rfl

/-- An upsert leaves the other rows alone. -/
lemma event?_upserted_ne (ne : key ≠ (sequenceId, input.prospectId, input.stepOrdinal)) :
    (transact env (.upsertEvent sequenceId input) s).2.event? key = s.event? key := by
  rw [transact]
  cases s.event? (sequenceId, input.prospectId, input.stepOrdinal) with
  | none =>
    have other : (created sequenceId input env).key ≠ key := ne.symm
    exact Table.lookup_append_ne other
  | some row => exact Table.lookup_update_ne key_updated ne

lemma perform_store {o : Operation} :
    (perform o env s).2 = if env.fate.aborted then s else (transact env o s).2 := by
  rw [perform]
  cases env.fate with
  | commits => rfl
  | aborts _ => rfl
  | unacknowledged _ => rfl

/-- A statement either records a report, or leaves the row alone. -/
lemma recorded_perform {c : OutreachConfig} {i : Nat} {o : Operation} :
    (∃ input, recordedOf key (c, .act i o env) = some input ∧
      ((perform o env s).2.event? key).map OutreachEvent.outcome = some input.outcome) ∨
    (recordedOf key (c, .act i o env) = none ∧ (perform o env s).2.event? key = s.event? key) := by
  rw [perform_store]
  cases o with
  | findSequence _ =>
    refine .inr ⟨rfl, ?_⟩
    split <;> rfl
  | findProspect _ _ =>
    refine .inr ⟨rfl, ?_⟩
    split <;> rfl
  | upsertEvent sequenceId input =>
    by_cases records : (sequenceId, input.prospectId, input.stepOrdinal) = key ∧ env.fate.aborted = false
    · obtain ⟨rfl, effective⟩ := records
      refine .inl ⟨input, if_pos ⟨rfl, effective⟩, ?_⟩
      rw [effective]
      exact outcome_upserted
    · refine .inr ⟨if_neg records, ?_⟩
      split
      · rfl
      · rename_i effective
        refine event?_upserted_ne fun same => records ⟨same.symm, ?_⟩
        exact Bool.eq_false_iff.mpr effective

/-- The step lemma. -/
lemma recorded_step (key : Uuid × Uuid × Nat) {c c' : OutreachConfig} {l : outreachSystem.Label}
    (step : outreachSystem.Step c l c') :
    (∃ input, recordedOf key (c, l) = some input ∧
      (c'.store.event? key).map OutreachEvent.outcome = some input.outcome) ∨
    (recordedOf key (c, l) = none ∧ c'.store.event? key = c.store.event? key) := by
  cases step with
  | spawn _ => exact .inr ⟨rfl, rfl⟩
  | act env _ => exact recorded_perform

/-- The run lemma: the row says what the report says that was recorded last. -/
lemma outcome_of_last {c₀ c : OutreachConfig} {h : OutreachHistory}
    (traced : outreachSystem.Traced outreachSystem.Unguarded c₀ h c) {last : RecordOutreachEventInput}
    (is_last : (recorded key h).getLast? = some last) :
    (c.store.event? key).map OutreachEvent.outcome = some last.outcome := by
  induction traced with
  | nil => cases is_last
  | @snoc h c l c' _ _ step ih =>
    rw [recorded, List.filterMap_append] at is_last
    rcases recorded_step key step with ⟨input, now, row⟩ | ⟨nothing, same⟩
    · rw [List.filterMap_cons_some now, List.filterMap_nil, List.getLast?_concat] at is_last
      cases is_last
      exact row
    · rw [List.filterMap_cons_none nothing, List.filterMap_nil, List.append_nil] at is_last
      rw [same]
      exact ih is_last

end Rows

/-- Some report is the latest. -/
lemma exists_latest {inputs : List RecordOutreachEventInput} (some_input : inputs ≠ []) :
    ∃ input ∈ inputs, ∀ other ∈ inputs, other.occurredAt ≤ input.occurredAt := by
  induction inputs with
  | nil => exact absurd rfl some_input
  | cons input inputs ih =>
    by_cases none : inputs = []
    · subst none
      exact ⟨input, List.mem_cons_self, fun other mem => by rw [List.mem_singleton.mp mem]⟩
    · obtain ⟨latest, mem, later⟩ := ih none
      rcases Nat.le_total latest.occurredAt input.occurredAt with le | le
      · refine ⟨input, List.mem_cons_self, fun other held => ?_⟩
        rcases List.mem_cons.mp held with rfl | held
        · exact le_refl _
        · exact (later other held).trans le
      · refine ⟨latest, List.mem_cons_of_mem _ mem, fun other held => ?_⟩
        rcases List.mem_cons.mp held with rfl | held
        · exact le
        · exact later other held

/-- The row of a step says what the latest of its reports says exactly if that one was recorded last. -/
theorem keepsLatest_iff (key : Uuid × Uuid × Nat) {c₀ c : OutreachConfig} {h : OutreachHistory}
    (traced : outreachSystem.Traced outreachSystem.Unguarded c₀ h c)
    (differ : TimesDiffer (recorded key h)) :
    KeepsLatest key h c ↔ ∀ last ∈ (recorded key h).getLast?, ∀ other ∈ recorded key h,
      other.occurredAt ≤ last.occurredAt := by
  constructor
  · intro keeps last is_last
    have mem : last ∈ recorded key h := List.mem_of_getLast? is_last
    obtain ⟨latest, held, later⟩ := exists_latest (List.ne_nil_of_mem mem)
    have row := keeps latest held later
    rw [outcome_of_last traced is_last] at row
    have time : last.occurredAt = latest.occurredAt :=
      congrArg StepOutcome.occurredAt (Option.some.inj row)
    rw [time]
    exact later
  · intro ordered latest held later
    obtain ⟨last, is_last⟩ : ∃ last, (recorded key h).getLast? = some last :=
      ⟨_, List.getLast?_eq_some_getLast (List.ne_nil_of_mem held)⟩
    have mem : last ∈ recorded key h := List.mem_of_getLast? is_last
    have time : last.occurredAt = latest.occurredAt :=
      le_antisymm (later last mem) (ordered last is_last latest held)
    rw [outcome_of_last traced is_last, differ last mem latest held time]

section Scenario

/-- A sequence with a prospect, and no report yet. -/
def freshSequence : OutreachConfig :=
  ⟨{ sequences := [⟨1, 7⟩], prospects := [⟨2, 7⟩] }, []⟩

/-- The mail was sent. -/
def sentReport : Delivery :=
  ⟨1, { prospectId := 2, stepOrdinal := 0, channel := .email, kind := .sent, occurredAt := 10 }⟩

/-- The mail was opened. -/
def openedReport : Delivery :=
  ⟨1, { prospectId := 2, stepOrdinal := 0, channel := .email, kind := .opened, occurredAt := 20 }⟩

/-- Two reports are delivered one after the other. -/
def deliver (first second : Delivery) : List outreachSystem.Move :=
  [.spawn first, .act 0 {}, .act 0 {}, .act 0 { id := 5 },
    .spawn second, .act 1 {}, .act 1 {}, .act 1 {}]

lemma timesDiffer_of_nodup {inputs : List RecordOutreachEventInput}
    (distinct : (inputs.map RecordOutreachEventInput.occurredAt).Nodup) : TimesDiffer inputs :=
  fun _ mem _ mem' same => List.inj_on_of_nodup_map distinct mem mem' same

/-- A run that records two reports, with their times. -/
lemma exists_recorded (first second : Delivery) (times : List Date)
    (tested : ((System.record freshSequence (deliver first second)).any fun run =>
      decide ((recorded (1, 2, 0) run.1).map RecordOutreachEventInput.occurredAt = times)) = true) :
    ∃ h c, outreachSystem.Traced outreachSystem.Unguarded freshSequence h c ∧
      (recorded (1, 2, 0) h).map RecordOutreachEventInput.occurredAt = times := by
  obtain ⟨h, c, traced, test⟩ := System.exists_traced tested
  exact ⟨h, c, traced, of_decide_eq_true test⟩

/-- `keepsLatest_iff` for reports that are delivered in their order. -/
theorem keepsLatest_inOrder :
    ∃ h c, outreachSystem.Traced outreachSystem.Unguarded freshSequence h c ∧
      (recorded (1, 2, 0) h).map RecordOutreachEventInput.occurredAt = [10, 20] ∧
      KeepsLatest (1, 2, 0) h c := by
  obtain ⟨h, c, traced, times⟩ := exists_recorded sentReport openedReport [10, 20] (by decide)
  have differ : TimesDiffer (recorded (1, 2, 0) h) := timesDiffer_of_nodup (by rw [times]; decide)
  refine ⟨h, c, traced, times, (keepsLatest_iff (1, 2, 0) traced differ).mpr fun last is_last other mem => ?_⟩
  have last_time : last.occurredAt = 20 := by
    have at_end : ((recorded (1, 2, 0) h).map RecordOutreachEventInput.occurredAt).getLast? =
        some last.occurredAt := by
      rw [List.getLast?_map, is_last]
      rfl
    rw [times] at at_end
    exact (Option.some.inj at_end).symm
  have time : other.occurredAt ∈ [10, 20] := times ▸ List.mem_map_of_mem mem
  rw [last_time]
  rcases List.mem_pair.mp time with is | is
  · rw [is]
    decide
  · rw [is]

/-- A report that is delivered late takes the place of a later one. -/
theorem overtaken_keepsLatest :
    ¬ ∀ (key : Uuid × Uuid × Nat) (c₀ c : OutreachConfig) (h : OutreachHistory),
      outreachSystem.Traced outreachSystem.Unguarded c₀ h c → TimesDiffer (recorded key h) →
        KeepsLatest key h c := by
  intro always
  obtain ⟨h, c, traced, times⟩ := exists_recorded openedReport sentReport [20, 10] (by decide)
  have differ : TimesDiffer (recorded (1, 2, 0) h) := timesDiffer_of_nodup (by rw [times]; decide)
  obtain ⟨opened, sent, is⟩ : ∃ opened sent, recorded (1, 2, 0) h = [opened, sent] :=
    List.length_eq_two.mp (by rw [← List.length_map RecordOutreachEventInput.occurredAt, times]; rfl)
  have keeps := always (1, 2, 0) _ _ _ traced differ
  have last : (c.store.event? (1, 2, 0)).map OutreachEvent.outcome = some sent.outcome :=
    outcome_of_last traced (by rw [is]; rfl)
  rw [is] at times
  obtain ⟨opened_at, rest⟩ := List.cons.inj times
  have sent_at : sent.occurredAt = 10 := (List.cons.inj rest).1
  have row := keeps opened (is ▸ List.mem_cons_self) fun other mem => ?_
  · have same := congrArg StepOutcome.occurredAt (Option.some.inj (last.symm.trans row))
    cases sent_at.symm.trans (same.trans opened_at)
  · rw [is] at mem
    rcases List.mem_pair.mp mem with rfl | rfl
    · exact le_refl _
    · rw [opened_at, sent_at]
      decide

end Scenario

end AtomsPlatform.Gtm.Outreach
