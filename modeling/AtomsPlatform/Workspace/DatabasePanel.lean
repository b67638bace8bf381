import AtomsPlatform.Database.Fencing
import AtomsPlatform.Quality.Evaluate
import AtomsPlatform.Workspace.Replay

/-!
# The database that is shown

The projection takes a change of a database's status unless what it shows has a higher
`operationVersion`: over a whole log it is a register (`projectionOf_database`). The versions of an
instance start at zero, so what is shown is the last change of the newest instance exactly if no change
of an older instance stands in its way.
-/

namespace AtomsPlatform.Workspace
open Database Interleaving
variable {formats : Formats} {log : List RunEventEnvelope}

/-- The change of a database's status that an event tells. -/
def statusUpdate? (formats : Formats) (event : RunEventEnvelope) : Option DatabaseStatusUpdate :=
  if event.eventType = .integrationStatusChanged then
    databaseStatusChangedPayload formats event.payload
  else none

/-- The changes that the events of a log tell. -/
def statusUpdates (formats : Formats) (log : List RunEventEnvelope) : List DatabaseStatusUpdate :=
  log.filterMap (statusUpdate? formats)

/-- The instance that was created last: its first change comes after the first changes of the others. -/
def newestInstance (updates : List DatabaseStatusUpdate) : Option String :=
  (updates.map DatabaseStatusUpdate.databaseInstanceId).eraseDups.getLast?

/-- The last change of the instance that was created last. -/
def newestUpdate (updates : List DatabaseStatusUpdate) : Option DatabaseStatusUpdate :=
  (newestInstance updates).bind fun id =>
    updates.reverse.find? fun update => update.databaseInstanceId = id

section Register

lemma showEvent_database {s : WorkspaceProjection} {event : RunEventEnvelope} :
    (showEvent formats s event).database =
      match statusUpdate? formats event with
      | some update => Register.take DatabaseStatusUpdate.operationVersion s.database update
      | none => s.database := by
  by_cases type : event.eventType = .integrationStatusChanged
  · rw [statusUpdate?, if_pos type, showEvent, type]
    show (integrationStatusChanged formats s event.payload).database = _
    exact (congrArg WorkspaceProjection.database integrationStatusChanged_eq).trans rfl
  · rw [statusUpdate?, if_neg type]
    exact (showEvent_kept type).database

/-- The database that is shown is held by a register of the changes. -/
lemma projectionOf_database (ordered : Window.Ordered RunEventEnvelope.sequence log) :
    (projectionOf formats log).database =
      (statusUpdates formats log).foldl (Register.take DatabaseStatusUpdate.operationVersion) none := by
  induction log using List.reverseRecOn with
  | nil => rfl
  | append_singleton log event ih =>
    have before : Window.Ordered RunEventEnvelope.sequence log := (List.pairwise_append.mp ordered).1
    have shown := ih before
    rw [projectionOf_next ordered, showEvent_database, statusUpdates, List.filterMap_append,
      List.foldl_append, ← statusUpdates, ← shown]
    cases update : statusUpdate? formats event with
    | none => simp [update]
    | some update' => simp [update]

end Register

section Newest
variable {updates before after : List DatabaseStatusUpdate} {update : DatabaseStatusUpdate}

/-- A change after which its instance has no further one. -/
def LastOf (update : DatabaseStatusUpdate) (after : List DatabaseStatusUpdate) : Prop :=
  ∀ later ∈ after, later.databaseInstanceId ≠ update.databaseInstanceId

lemma newestUpdate_eq (newest : newestInstance (before ++ update :: after) =
    some update.databaseInstanceId) (last : LastOf update after) :
    newestUpdate (before ++ update :: after) = some update := by
  have skipped : after.reverse.find? (fun later =>
      later.databaseInstanceId = update.databaseInstanceId) = none := by
    rw [List.find?_eq_none]
    intro later mem
    simpa using last later (List.mem_reverse.mp mem)
  rw [newestUpdate, newest, Option.bind_some, List.reverse_append, List.reverse_cons,
    List.append_assoc, List.find?_append, skipped]
  simp

/-- There is a newest instance, and it has a last change, unless there is no change at all. -/
lemma exists_newest (nonempty : updates ≠ []) :
    ∃ before update after, updates = before ++ update :: after ∧
      newestInstance updates = some update.databaseInstanceId ∧ LastOf update after := by
  have ids : (updates.map DatabaseStatusUpdate.databaseInstanceId).eraseDups ≠ [] := by
    obtain ⟨first, rest, rfl⟩ := List.exists_cons_of_ne_nil nonempty
    rw [List.map_cons, List.eraseDups_cons]
    exact List.cons_ne_nil _ _
  obtain ⟨id, newest⟩ := Option.isSome_iff_exists.mp (List.getLast?_isSome.mpr ids)
  have mem : id ∈ updates.map DatabaseStatusUpdate.databaseInstanceId :=
    List.mem_eraseDups.mp (List.mem_of_getLast? newest)
  obtain ⟨one, inside, is_id⟩ := List.mem_map.mp mem
  have found : (updates.reverse.find? fun update => update.databaseInstanceId = id).isSome := by
    rw [List.find?_isSome]
    exact ⟨one, List.mem_reverse.mpr inside, by simpa using is_id⟩
  obtain ⟨update, last⟩ := Option.isSome_iff_exists.mp found
  obtain ⟨is_id, as, bs, split, none⟩ := List.find?_eq_some_iff_append.mp last
  have same : update.databaseInstanceId = id := by simpa using is_id
  refine ⟨bs.reverse, update, as.reverse, ?_, ?_, ?_⟩
  · rw [← List.reverse_reverse updates, split]
    simp
  · rw [same]
    exact newest
  · intro later mem
    rw [same]
    simpa using none later (List.mem_reverse.mp mem)

end Newest

/-- The panel shows the last change of the newest instance exactly if no change before it has a higher
    version, and every change after it, of an older instance, has a lower one. -/
theorem database_panel_iff (formats : Formats) (log : List RunEventEnvelope)
    (ordered : Window.Ordered RunEventEnvelope.sequence log) :
    (projectionOf formats log).database = newestUpdate (statusUpdates formats log) ↔
      ∀ before update after, statusUpdates formats log = before ++ update :: after →
        newestInstance (statusUpdates formats log) = some update.databaseInstanceId →
        LastOf update after →
        Register.Prevails DatabaseStatusUpdate.operationVersion before update after := by
  rw [projectionOf_database ordered]
  generalize statusUpdates formats log = updates
  constructor
  · rintro shown before update after rfl newest last
    have nonempty : before ++ update :: after ≠ [] := by simp
    obtain ⟨before', held, after', split, prevails⟩ :=
      Register.exists_prevails DatabaseStatusUpdate.operationVersion nonempty
    have same : held = update := by
      rw [newestUpdate_eq newest last, split, prevails.held] at shown
      exact Option.some.inj shown
    subst same
    -- the entry that is held stands at the last place where the newest instance has a change
    rcases List.append_eq_append_iff.mp split with ⟨between, rfl, rest⟩ | ⟨between, rfl, rest⟩
    · cases between with
      | nil =>
        cases rest
        simpa using prevails
      | cons first between =>
        cases rest
        exact absurd rfl (last held (by simp))
    · cases between with
      | nil =>
        cases rest
        simpa using prevails
      | cons first between =>
        cases rest
        have lower := prevails.after held (by simp)
        exact absurd lower (Nat.lt_irrefl _)
  · intro prevails
    by_cases nonempty : updates = []
    · rw [nonempty]
      rfl
    · obtain ⟨before, update, after, rfl, newest, last⟩ := exists_newest nonempty
      rw [(prevails before update after rfl newest last).held, newestUpdate_eq newest last]

section Scenario

/-- The fields of the payload that the appenders of status changes store. -/
def statusChangedFields (change : DatabaseStatusChanged) : List (String × JsonValue) :=
  [("version", .string "v1"), ("integration", .string "generated-database"),
    ("databaseInstanceId", .string (Quality.uuidText change.databaseInstanceId)),
    ("operationId", .string (Quality.uuidText change.operationId)),
    ("operationVersion", .number change.operationVersion), ("provider", .string "SUPABASE"),
    ("status", .string change.status.name), ("message", .string change.message)]

/-- The payload that the appenders of status changes store. -/
def statusChangedPayload (change : DatabaseStatusChanged) : JsonValue :=
  .object (statusChangedFields change)

/-- The events of a run's log, as they are delivered. -/
def deliveredEvents (runId : Uuid) (occurredAt : Nat → String) (log : RunLog DatabaseStatusChanged) :
    List RunEventEnvelope :=
  log.events.map fun event =>
    { sequence := event.sequence
      runId := Quality.uuidText runId
      eventType := .integrationStatusChanged
      payload := statusChangedPayload event.payload
      occurredAt := occurredAt event.sequence }

/-- An instance is requested, but its job is refused; its deletion is requested, and another one. -/
def instanceReplaced : List databaseSystem.Move :=
  [.spawn (.provisionRequest 1 1 "first" ⟨1, "ca-central-1", false⟩)] ++ proceeds 0 3 0 7 ++
    [refused 0] ++ proceeds 0 2 0 7 ++
    [.spawn (.deleteRequest 1 1 7)] ++ proceeds 1 3 0 0 ++
    [.spawn (.provisionRequest 1 1 "second" ⟨1, "ca-central-1", false⟩)] ++
    List.replicate 3 (.act 2 { id := 9, operationId := 10 })

/-- The panel goes on to show the deletion of the replaced instance. -/
theorem panel_shows_replaced : ¬ ∀ c : DatabaseConfig,
    databaseSystem.Reaches databaseSystem.Unguarded freshPlatform c →
    ∀ (formats : Formats) (runId : Uuid) (occurredAt : Nat → String),
      (projectionOf formats (deliveredEvents runId occurredAt (c.store.store.runLogs runId))).database =
        newestUpdate
          (statusUpdates formats (deliveredEvents runId occurredAt (c.store.store.runLogs runId))) := by
  intro shown
  have run : ((databaseSystem.execute freshPlatform instanceReplaced).any fun c =>
      let log := deliveredEvents 1 (fun _ => "") (c.store.store.runLogs 1)
      decide ((projectionOf anyFormat log).database ≠ newestUpdate (statusUpdates anyFormat log))) =
        true := by
    decide +kernel
  obtain ⟨c, executed, different⟩ := (Option.any_eq_true _ _).mp run
  exact of_decide_eq_true different (shown c (System.execute_reaches executed) anyFormat 1 fun _ => "")

/-- The second instance has caught up with the version of the first one. -/
def caughtUp : RunLog DatabaseStatusChanged :=
  ((((RunLog.append {} ⟨7, 8, 0, .queued, "Requested"⟩).append ⟨7, 8, 1, .deleting, "Removed"⟩).append
    ⟨9, 10, 0, .queued, "Requested"⟩).append ⟨9, 10, 1, .deleting, "Removed"⟩)

/-- The panel shows the second instance, whose last update prevails. -/
theorem database_panel_caughtUp :
    (projectionOf anyFormat (deliveredEvents 1 (fun _ => "") caughtUp)).database =
        newestUpdate (statusUpdates anyFormat (deliveredEvents 1 (fun _ => "") caughtUp)) ∧
      ∀ before update after,
        statusUpdates anyFormat (deliveredEvents 1 (fun _ => "") caughtUp) =
          before ++ update :: after →
        newestInstance (statusUpdates anyFormat (deliveredEvents 1 (fun _ => "") caughtUp)) =
          some update.databaseInstanceId →
        LastOf update after →
        Register.Prevails DatabaseStatusUpdate.operationVersion before update after := by
  have ordered : Window.Ordered RunEventEnvelope.sequence
      (deliveredEvents 1 (fun _ => "") caughtUp) := by
    simp [Window.Ordered, deliveredEvents, caughtUp, RunLog.append]
  have shown : (projectionOf anyFormat (deliveredEvents 1 (fun _ => "") caughtUp)).database =
      newestUpdate (statusUpdates anyFormat (deliveredEvents 1 (fun _ => "") caughtUp)) := by
    decide +kernel
  exact ⟨shown, (database_panel_iff anyFormat _ ordered).mp shown⟩

end Scenario

end AtomsPlatform.Workspace
