import AtomsPlatform.Lib.Register
import AtomsPlatform.Workspace.Projection

/-!
# Replayed events

An event that the projection still remembers is ignored when it is reduced again. Of the older events
nothing is remembered: they are reduced again, which leaves the projection as it is only if it already
shows what they set (`Shows`).
-/

namespace AtomsPlatform.Workspace
variable {formats : Formats} {s : WorkspaceProjection} {payload : JsonValue}

section Shows

/-- A task has what a patch sets. -/
structure TaskPatch.Shown (patch : TaskPatch) (task : AgentTaskProjection) : Prop where
  status : task.status = patch.status
  id : ∀ id, patch.id = some id → task.id = some id
  ordinal : ∀ ordinal, patch.ordinal = some ordinal → task.ordinal = some ordinal
  description : ∀ text, patch.description = some text → task.description = some text
  attempt : ∀ attempt, patch.attempt = some attempt → task.attempt = some attempt

/-- The task of the agent that a payload names has what a patch sets, and `also` holds of the agent. -/
def ShowsTask (s : WorkspaceProjection) (payload : JsonValue) (patch : TaskPatch)
    (also : RunAgentName → Prop) : Prop :=
  ∀ agent, readAgent ((asRecord payload).lookup "agent") = some agent →
    patch.Shown (s.tasks agent) ∧ also agent

/-- What is shown while an approval is asked for. -/
structure ShowsApproval (s : WorkspaceProjection) (payload : JsonValue) : Prop where
  reason : s.approvalReason = some (reasonShown payload)
  scope : s.approvalScope =
    (normalizeApprovalRequiredEventPayload payload).map ApprovalRequired.scope
  paused : s.inferredRunStatus = some .paused
  waiting : ∀ agent, s.activeAgent = some agent → (s.tasks agent).status = .waiting

/-- No approval is shown. -/
def NoApproval (s : WorkspaceProjection) : Prop :=
  s.approvalReason = none ∧ s.approvalScope = none

/-- The projection shows what an event sets. -/
def Shows (formats : Formats) (s : WorkspaceProjection) (event : RunEventEnvelope) : Prop :=
  let payload := event.payload
  match event.eventType with
  | .taskCreated => ShowsTask s payload (descriptionPatch .queued payload) fun _ => True
  | .taskStarted | .legacyTaskStarted =>
    ShowsTask s payload (attemptPatch .running payload) fun agent => s.activeAgent = some agent
  | .taskCompleted =>
    ShowsTask s payload (attemptPatch .completed payload) fun agent => s.activeAgent ≠ some agent
  | .taskFailed =>
    ShowsTask s payload { status := .failed } fun agent =>
      s.activeAgent = none ∧ s.error = some (taskError agent payload)
  | .taskSkipped => ShowsTask s payload (descriptionPatch .skipped payload) fun _ => True
  | .approvalRequired | .legacyApprovalRequired => ShowsApproval s payload
  | .runStatusChanged =>
    ∀ status, readRunStatus ((asRecord payload).lookup "to") = some status →
      s.inferredRunStatus = some status ∧ (status ≠ .paused → NoApproval s)
  | .runCompleted => s.inferredRunStatus = some .completed ∧ s.activeAgent = none ∧ NoApproval s
  | .runFailed | .error =>
    s.inferredRunStatus = some .failed ∧ s.activeAgent = none ∧ NoApproval s ∧
      s.error = some (runError payload)
  | .previewUpdated =>
    ∀ preview, previewUpdatedPayload formats payload = some preview → s.preview = some preview
  | .taskProgress =>
    ∀ validation, validationProgressPayload formats payload = some validation →
      ∃ earlier, s.validations = earlier ++ [validation] ∧
        ∀ item ∈ earlier, item.step ≠ validation.step
  | .codeGenerated =>
    ∀ path ∈ stringsOf ((asRecord payload).lookup "paths"), path ∈ s.generatedPaths
  | .integrationStatusChanged =>
    ∀ database, databaseStatusChangedPayload formats payload = some database →
      ∃ shown, s.database = some shown ∧
        (shown = database ∨ database.operationVersion < shown.operationVersion)
  | _ => True

end Shows

/-- What holds of every projection: the tasks stand under their agents, and the paths are sorted and
    listed once. -/
structure Consistent (s : WorkspaceProjection) : Prop where
  named : ∀ agent, (s.tasks agent).agent = agent
  distinct : s.generatedPaths.Nodup
  sorted : s.generatedPaths.Pairwise fun a b => Utf16.le a b = true

section Tasks
variable {agent : RunAgentName} {patch : TaskPatch}

lemma orElse_eq_right {β : Type} {a b : Option β} :
    (a <|> b) = b ↔ ∀ x, a = some x → b = some x := by
  cases a with
  | none => simp
  | some x =>
    constructor
    · rintro same y ⟨⟩
      exact same.symm
    · exact fun shown => (shown x rfl).symm

/-- Merging a patch into a task changes nothing if the task has what it sets. -/
lemma TaskPatch.merge_eq_iff {task : AgentTaskProjection} :
    patch.merge task = task ↔ patch.Shown task := by
  rw [AgentTaskProjection.ext_iff]
  simp only [merge, orElse_eq_right]
  constructor
  · rintro ⟨id, -, ordinal, description, status, attempt⟩
    exact ⟨status.symm, id, ordinal, description, attempt⟩
  · intro shown
    exact ⟨shown.id, trivial, shown.ordinal, shown.description, shown.status.symm, shown.attempt⟩

/-- The tasks stay the same if the agent's task has what the patch sets. -/
lemma updateTask_tasks_iff (consistent : Consistent s) :
    (updateTask s agent patch).tasks = s.tasks ↔ patch.Shown (s.tasks agent) := by
  have merged : { patch.merge (s.tasks agent) with agent } = patch.merge (s.tasks agent) := by
    show _ = ({ patch.merge (s.tasks agent) with agent := (s.tasks agent).agent } :
      AgentTaskProjection)
    rw [consistent.named agent]
  rw [updateTask, Function.update_eq_self_iff, merged, TaskPatch.merge_eq_iff]

lemma describeTask_eq_iff {status : TaskStatus} (consistent : Consistent s) :
    describeTask status s payload = s ↔
      ShowsTask s payload (descriptionPatch status payload) fun _ => True := by
  rw [describeTask, ShowsTask]
  cases readAgent ((asRecord payload).lookup "agent") with
  | none => simp
  | some agent => simp [← updateTask_tasks_iff consistent, WorkspaceProjection.ext_iff, updateTask]

lemma taskStarted_eq_iff (consistent : Consistent s) :
    taskStarted s payload = s ↔
      ShowsTask s payload (attemptPatch .running payload) fun agent => s.activeAgent = some agent := by
  rw [taskStarted, ShowsTask]
  cases readAgent ((asRecord payload).lookup "agent") with
  | none => simp
  | some agent =>
    simp [← updateTask_tasks_iff consistent, WorkspaceProjection.ext_iff, updateTask, eq_comm]

lemma taskCompleted_eq_iff (consistent : Consistent s) :
    taskCompleted s payload = s ↔
      ShowsTask s payload (attemptPatch .completed payload) fun agent =>
        s.activeAgent ≠ some agent := by
  rw [taskCompleted, ShowsTask]
  cases readAgent ((asRecord payload).lookup "agent") with
  | none => simp
  | some agent =>
    by_cases active : s.activeAgent = some agent
    · simp [WorkspaceProjection.ext_iff, updateTask, active]
    · simp [← updateTask_tasks_iff consistent, WorkspaceProjection.ext_iff, updateTask, active]

lemma taskFailed_eq_iff (consistent : Consistent s) :
    taskFailed s payload = s ↔
      ShowsTask s payload { status := .failed } fun agent =>
        s.activeAgent = none ∧ s.error = some (taskError agent payload) := by
  rw [taskFailed, ShowsTask]
  cases readAgent ((asRecord payload).lookup "agent") with
  | none => simp
  | some agent =>
    simp [← updateTask_tasks_iff consistent, WorkspaceProjection.ext_iff, updateTask, eq_comm]

/-- The status of the active agent's task is set to waiting. -/
lemma approvalRequired_eq_iff (consistent : Consistent s) :
    approvalRequired s payload = s ↔ ShowsApproval s payload := by
  have shown {task : AgentTaskProjection} :
      TaskPatch.Shown { status := .waiting } task ↔ task.status = .waiting := by
    constructor
    · exact TaskPatch.Shown.status
    · intro waiting
      constructor <;> simp [waiting]
  have waiting : (approvalRequired s payload).tasks = s.tasks ↔
      ∀ agent, s.activeAgent = some agent → (s.tasks agent).status = .waiting := by
    rw [approvalRequired]
    cases s.activeAgent with
    | none => simp
    | some agent => simp [updateTask_tasks_iff consistent, shown]
  rw [WorkspaceProjection.ext_iff, waiting]
  constructor
  · rintro ⟨-, waiting, -, reason, scope, -, -, -, -, paused, -⟩
    exact ⟨reason.symm, scope.symm, paused.symm, waiting⟩
  · intro shown
    exact ⟨rfl, shown.waiting, rfl, shown.reason.symm, shown.scope.symm, rfl, rfl, rfl, rfl,
      shown.paused.symm, rfl⟩

end Tasks

section Paths
variable {paths more : List String}

lemma mem_sortedSet {path : String} : path ∈ sortedSet paths ↔ path ∈ paths := by
  rw [sortedSet, (List.perm_insertionSort _ _).mem_iff, List.mem_eraseDups]

/-- The first occurrences are distinct. -/
lemma nodup_eraseDups {β : Type} [DecidableEq β] (l : List β) : l.eraseDups.Nodup := by
  induction len : l.length using Nat.strong_induction_on generalizing l with
  | _ n ih =>
    cases l with
    | nil => exact .nil
    | cons a l =>
      rw [List.eraseDups_cons, List.nodup_cons]
      constructor
      · simp [List.mem_eraseDups]
      · have shorter : (l.filter fun b => !b == a).length < n := by
          rw [← len]
          exact Nat.lt_succ_of_le (List.length_filter_le _ l)
        exact ih _ shorter _ rfl

lemma sortedSet_nodup : (sortedSet paths).Nodup :=
  (List.perm_insertionSort _ _).nodup_iff.mpr (nodup_eraseDups paths)

lemma sortedSet_sorted : (sortedSet paths).Pairwise fun a b => Utf16.le a b = true := by
  have total : Std.Total fun a b => Utf16.le a b = true := by
    constructor
    intro a b
    rw [Utf16.le_iff, Utf16.le_iff]
    exact List.le_total ..
  have trans : IsTrans String fun a b => Utf16.le a b = true := by
    constructor
    intro a b c first second
    rw [Utf16.le_iff] at first second ⊢
    exact List.le_trans first second
  exact List.pairwise_insertionSort _ _

/-- Adding paths changes nothing if all of them are listed. -/
lemma sortedSet_append_eq_iff (distinct : paths.Nodup)
    (sorted : paths.Pairwise fun a b => Utf16.le a b = true) :
    sortedSet (paths ++ more) = paths ↔ ∀ path ∈ more, path ∈ paths := by
  constructor
  · intro same path mem
    rw [← same, mem_sortedSet]
    exact List.mem_append_right _ mem
  · intro listed
    have perm : (sortedSet (paths ++ more)).Perm paths := by
      apply (List.perm_ext_iff_of_nodup sortedSet_nodup distinct).mpr
      intro path
      rw [mem_sortedSet, List.mem_append]
      exact ⟨fun mem => mem.elim id (listed path), .inl⟩
    apply perm.eq_of_pairwise _ sortedSet_sorted sorted
    intro a b _ _ le le'
    exact Utf16.ofString_injective (List.le_antisymm (Utf16.le_iff.mp le) (Utf16.le_iff.mp le'))

end Paths

/-- Moving the entry of a step to the end changes nothing if it is the only one and stands there. -/
lemma replaceStep_eq_iff {items : List ValidationProjection} {validation : ValidationProjection} :
    (items.filter fun item => item.step ≠ validation.step) ++ [validation] = items ↔
      ∃ earlier, items = earlier ++ [validation] ∧
        ∀ item ∈ earlier, item.step ≠ validation.step := by
  constructor
  · intro same
    refine ⟨_, same.symm, ?_⟩
    intro item mem
    simpa using (List.mem_filter.mp mem).2
  · rintro ⟨earlier, rfl, others⟩
    have kept : earlier.filter (fun item => item.step ≠ validation.step) = earlier :=
      List.filter_eq_self.mpr fun item mem => by simpa using others item mem
    rw [List.filter_append, kept]
    simp

/-- Without regard to what is remembered, an event changes nothing if the projection shows what it
    sets. -/
lemma showEvent_eq_iff {event : RunEventEnvelope} (consistent : Consistent s) :
    showEvent formats s event = s ↔ Shows formats s event := by
  rw [showEvent, Shows]
  cases event.eventType with
  | taskCreated => exact describeTask_eq_iff consistent
  | taskSkipped => exact describeTask_eq_iff consistent
  | taskStarted => exact taskStarted_eq_iff consistent
  | legacyTaskStarted => exact taskStarted_eq_iff consistent
  | taskCompleted => exact taskCompleted_eq_iff consistent
  | taskFailed => exact taskFailed_eq_iff consistent
  | approvalRequired => exact approvalRequired_eq_iff consistent
  | legacyApprovalRequired => exact approvalRequired_eq_iff consistent
  | runStatusChanged =>
    simp only [runStatusChanged]
    cases readRunStatus ((asRecord event.payload).lookup "to") with
    | none => simp
    | some status =>
      by_cases paused : status = .paused
      · simp [WorkspaceProjection.ext_iff, paused, eq_comm]
      · simp [WorkspaceProjection.ext_iff, paused, eq_comm, NoApproval]
        tauto
  | runCompleted =>
    simp [WorkspaceProjection.ext_iff, runCompleted, NoApproval, eq_comm]
    tauto
  | runFailed =>
    simp [WorkspaceProjection.ext_iff, runFailed, NoApproval, eq_comm]
    tauto
  | error =>
    simp [WorkspaceProjection.ext_iff, runFailed, NoApproval, eq_comm]
    tauto
  | previewUpdated =>
    simp only [previewUpdated]
    cases previewUpdatedPayload formats event.payload with
    | none => simp
    | some preview => simp [WorkspaceProjection.ext_iff, eq_comm]
  | taskProgress =>
    simp only [taskProgress]
    cases validationProgressPayload formats event.payload with
    | none => simp
    | some validation =>
      rw [WorkspaceProjection.ext_iff]
      simpa using replaceStep_eq_iff
  | codeGenerated =>
    simp [WorkspaceProjection.ext_iff, codeGenerated,
      sortedSet_append_eq_iff consistent.distinct consistent.sorted]
  | integrationStatusChanged =>
    simp only [integrationStatusChanged]
    cases databaseStatusChangedPayload formats event.payload with
    | none => simp
    | some database =>
      cases shown : s.database with
      | none => simp [WorkspaceProjection.ext_iff, shown]
      | some old =>
        by_cases newer : old.operationVersion ≤ database.operationVersion
        · simp [WorkspaceProjection.ext_iff, shown, newer, Nat.not_lt.mpr newer, eq_comm]
        · simp [newer, Nat.lt_of_not_le newer]
  | _ => exact iff_of_true rfl trivial

section Frame
variable {s' : WorkspaceProjection} {event : RunEventEnvelope}

/-- A step that touches neither what is remembered nor the database, and keeps what holds of every
    projection. -/
structure Kept (s s' : WorkspaceProjection) : Prop where
  events : s'.events = s.events
  database : s'.database = s.database
  consistent : Consistent s → Consistent s'

/-- Consistency is about the tasks and the paths only. -/
lemma Consistent.of_same (consistent : Consistent s) (tasks : s'.tasks = s.tasks)
    (paths : s'.generatedPaths = s.generatedPaths) : Consistent s' := by
  constructor
  · rw [tasks]
    exact consistent.named
  · rw [paths]
    exact consistent.distinct
  · rw [paths]
    exact consistent.sorted

lemma Kept.refl : Kept s s :=
  ⟨rfl, rfl, id⟩

lemma updateTask_kept {agent : RunAgentName} {patch : TaskPatch} :
    Kept s (updateTask s agent patch) := by
  refine ⟨rfl, rfl, fun consistent => ⟨?_, consistent.distinct, consistent.sorted⟩⟩
  intro other
  by_cases same : other = agent
  · simp [updateTask, same]
  · simp [updateTask, Function.update_of_ne same, consistent.named]

/-- After a task was updated, fields other than the tasks may change. -/
lemma Kept.of_updateTask {agent : RunAgentName} {patch : TaskPatch} (events : s'.events = s.events)
    (database : s'.database = s.database) (tasks : s'.tasks = (updateTask s agent patch).tasks)
    (paths : s'.generatedPaths = s.generatedPaths) : Kept s s' :=
  ⟨events, database, fun consistent => (updateTask_kept.consistent consistent).of_same tasks paths⟩

lemma describeTask_kept {status : TaskStatus} : Kept s (describeTask status s payload) := by
  rw [describeTask]
  split
  · exact updateTask_kept
  · exact .refl

lemma taskStarted_kept : Kept s (taskStarted s payload) := by
  rw [taskStarted]
  split
  · exact .of_updateTask rfl rfl rfl rfl
  · exact .refl

lemma taskCompleted_kept : Kept s (taskCompleted s payload) := by
  rw [taskCompleted]
  split
  · exact .of_updateTask rfl rfl rfl rfl
  · exact .refl

lemma taskFailed_kept : Kept s (taskFailed s payload) := by
  rw [taskFailed]
  split
  · exact .of_updateTask rfl rfl rfl rfl
  · exact .refl

lemma approvalRequired_kept : Kept s (approvalRequired s payload) := by
  rw [approvalRequired]
  cases s.activeAgent with
  | none => exact ⟨rfl, rfl, fun consistent => consistent.of_same rfl rfl⟩
  | some agent => exact .of_updateTask rfl rfl rfl rfl

lemma codeGenerated_kept : Kept s (codeGenerated s payload) :=
  ⟨rfl, rfl, fun consistent => ⟨consistent.named, sortedSet_nodup, sortedSet_sorted⟩⟩

/-- Only a change of a database's status touches the database that is shown. -/
lemma showEvent_kept (other : event.eventType ≠ .integrationStatusChanged) :
    Kept s (showEvent formats s event) := by
  have fields {s' : WorkspaceProjection} (events : s'.events = s.events)
      (database : s'.database = s.database) (tasks : s'.tasks = s.tasks)
      (paths : s'.generatedPaths = s.generatedPaths) : Kept s s' :=
    ⟨events, database, fun consistent => consistent.of_same tasks paths⟩
  rw [showEvent]
  cases type : event.eventType with
  | taskCreated => exact describeTask_kept
  | taskSkipped => exact describeTask_kept
  | taskStarted => exact taskStarted_kept
  | legacyTaskStarted => exact taskStarted_kept
  | taskCompleted => exact taskCompleted_kept
  | taskFailed => exact taskFailed_kept
  | approvalRequired => exact approvalRequired_kept
  | legacyApprovalRequired => exact approvalRequired_kept
  | codeGenerated => exact codeGenerated_kept
  | runStatusChanged =>
    simp only [runStatusChanged]
    split
    · exact fields rfl rfl rfl rfl
    · exact .refl
  | runCompleted => exact fields rfl rfl rfl rfl
  | runFailed => exact fields rfl rfl rfl rfl
  | error => exact fields rfl rfl rfl rfl
  | previewUpdated =>
    simp only [previewUpdated]
    split
    · exact fields rfl rfl rfl rfl
    · exact .refl
  | taskProgress =>
    simp only [taskProgress]
    split
    · exact fields rfl rfl rfl rfl
    · exact .refl
  | integrationStatusChanged => exact absurd type other
  | _ => exact .refl

/-- The database that a payload sets is taken like an entry of a register. -/
lemma integrationStatusChanged_eq :
    integrationStatusChanged formats s payload =
      { s with
        database :=
          match databaseStatusChangedPayload formats payload with
          | some database => Register.take DatabaseStatusUpdate.operationVersion s.database database
          | none => s.database } := by
  rw [integrationStatusChanged]
  cases databaseStatusChangedPayload formats payload with
  | none => rfl
  | some database =>
    rw [WorkspaceProjection.ext_iff]
    cases shown : s.database with
    | none => simp [Register.take]
    | some old =>
      by_cases newer : old.operationVersion ≤ database.operationVersion
      · simp [Register.take, newer]
      · simp [Register.take, newer, shown]

/-- Showing an event does not touch what is remembered. -/
lemma showEvent_events : (showEvent formats s event).events = s.events := by
  by_cases type : event.eventType = .integrationStatusChanged
  · rw [showEvent, type]
    show (integrationStatusChanged formats s event.payload).events = s.events
    rw [integrationStatusChanged_eq]
  · exact (showEvent_kept type).events

lemma showEvent_consistent (consistent : Consistent s) : Consistent (showEvent formats s event) := by
  by_cases type : event.eventType = .integrationStatusChanged
  · rw [showEvent, type]
    show Consistent (integrationStatusChanged formats s event.payload)
    rw [integrationStatusChanged_eq]
    exact consistent.of_same rfl rfl
  · exact (showEvent_kept type).consistent consistent

end Frame

section Log
variable {log : List RunEventEnvelope} {event : RunEventEnvelope}

lemma projectionOf_append :
    projectionOf formats (log ++ [event]) = reduceRunEvent formats (projectionOf formats log) event := by
  rw [projectionOf, List.foldl_append]
  rfl

lemma reduceRunEvent_consistent (consistent : Consistent s) :
    Consistent (reduceRunEvent formats s event) := by
  rw [reduceRunEvent]
  split
  · exact consistent
  · exact showEvent_consistent (consistent.of_same rfl rfl)

lemma projectionOf_consistent : Consistent (projectionOf formats log) := by
  induction log using List.reverseRecOn with
  | nil => exact ⟨fun _ => rfl, .nil, .nil⟩
  | append_singleton log event ih =>
    rw [projectionOf_append]
    exact reduceRunEvent_consistent ih

/-- The next event of the log is not among the remembered ones. -/
lemma next_unknown (ordered : Window.Ordered RunEventEnvelope.sequence (log ++ [event]))
    (events : s.events = Window.last 500 log) :
    ¬ (s.events.any fun item => item.sequence = event.sequence) = true := by
  rw [events, List.any_eq_true]
  rintro ⟨item, mem, same⟩
  have lower : item.sequence < event.sequence :=
    (List.pairwise_append.mp ordered).2.2 item (Window.last_sublist.subset mem) event
      (List.mem_singleton_self event)
  exact Nat.ne_of_lt lower (by simpa using same)

/-- The projection remembers the last events of the log. -/
lemma projectionOf_events (ordered : Window.Ordered RunEventEnvelope.sequence log) :
    (projectionOf formats log).events = Window.last 500 log := by
  rw [← Window.foldl_remember ordered]
  induction log using List.reverseRecOn with
  | nil => rfl
  | append_singleton log event ih =>
    have before : Window.Ordered RunEventEnvelope.sequence log := (List.pairwise_append.mp ordered).1
    have events := (ih before).trans (Window.foldl_remember before)
    rw [projectionOf_append, reduceRunEvent, if_neg (next_unknown ordered events),
      showEvent_events, ih before, List.foldl_append, List.foldl_cons, List.foldl_nil]

/-- The next event of the log is shown. -/
lemma projectionOf_next (ordered : Window.Ordered RunEventEnvelope.sequence (log ++ [event])) :
    projectionOf formats (log ++ [event]) =
      showEvent formats
        { projectionOf formats log with
          events := Window.remember RunEventEnvelope.sequence 500 (projectionOf formats log).events
            event }
        event := by
  have before : Window.Ordered RunEventEnvelope.sequence log := (List.pairwise_append.mp ordered).1
  rw [projectionOf_append, reduceRunEvent, if_neg (next_unknown ordered (projectionOf_events before))]

/-- An event of the log is ignored exactly if it is among the last ones. -/
lemma remembered_iff (formats : Formats) (ordered : Window.Ordered RunEventEnvelope.sequence log) (mem : event ∈ log) :
    ((projectionOf formats log).events.any fun item => item.sequence = event.sequence) = true ↔
      event ∈ Window.last 500 log := by
  rw [projectionOf_events ordered, List.any_eq_true]
  constructor
  · rintro ⟨item, inside, same⟩
    have number : item.sequence = event.sequence := by simpa using same
    rw [← ordered.eq_of_number (Window.last_sublist.subset inside) mem number]
    exact inside
  · exact fun inside => ⟨event, inside, by simp⟩

/-- Reducing an event of the log again. -/
lemma reduceRunEvent_again_iff (formats : Formats) (ordered : Window.Ordered RunEventEnvelope.sequence log)
    (mem : event ∈ log) :
    reduceRunEvent formats (projectionOf formats log) event = projectionOf formats log ↔
      event ∈ Window.last 500 log ∨ Shows formats (projectionOf formats log) event := by
  have known := remembered_iff formats ordered mem
  rw [reduceRunEvent]
  by_cases inside : event ∈ Window.last 500 log
  · rw [if_pos (known.mpr inside)]
    exact iff_of_true rfl (.inl inside)
  · obtain ⟨below, full⟩ := Window.forgotten ordered mem inside
    have kept : Window.remember RunEventEnvelope.sequence 500 (projectionOf formats log).events event =
        (projectionOf formats log).events := by
      rw [projectionOf_events ordered]
      exact Window.remember_below (ordered.sublist Window.last_sublist) full below
    rw [if_neg (mt known.mp inside), kept, or_iff_right inside]
    exact showEvent_eq_iff projectionOf_consistent

/-- Replaying events of a prefix of the log, one after the other, leaves the projection as it is exactly
    if each of them is among the last 500 of the prefix, or sets nothing that is not shown already. -/
theorem replay_unchanged_iff (formats : Formats) (log : List RunEventEnvelope)
    (ordered : Window.Ordered RunEventEnvelope.sequence log) (n : Nat)
    (replayed : List RunEventEnvelope) (earlier : ∀ event ∈ replayed, event ∈ log.take n) :
    (∀ k, (replayed.take k).foldl (reduceRunEvent formats) (projectionOf formats (log.take n)) =
        projectionOf formats (log.take n)) ↔
      ∀ event ∈ replayed, event ∈ Window.last 500 (log.take n) ∨
        Shows formats (projectionOf formats (log.take n)) event := by
  have ordered' : Window.Ordered RunEventEnvelope.sequence (log.take n) :=
    ordered.sublist (List.take_sublist n log)
  induction replayed with
  | nil => simp
  | cons event replayed ih =>
    have first := reduceRunEvent_again_iff formats ordered'
      (earlier event List.mem_cons_self)
    have rest := ih fun event mem => earlier event (List.mem_cons_of_mem _ mem)
    rw [List.forall_mem_cons]
    constructor
    · intro unchanged
      have once : reduceRunEvent formats (projectionOf formats (log.take n)) event =
          projectionOf formats (log.take n) := unchanged 1
      refine ⟨first.mp once, rest.mp ?_⟩
      intro k
      have more := unchanged (k + 1)
      rwa [List.take_succ_cons, List.foldl_cons, once] at more
    · rintro ⟨shown, others⟩ (_ | k)
      · rfl
      · rw [List.take_succ_cons, List.foldl_cons, first.mpr shown]
        exact rest.mpr others k

/-- An event that only the list of events shows. -/
def quietEvent (sequence : Nat) : RunEventEnvelope where
  sequence
  runId := "00000000-0000-4000-8000-000000000001"
  eventType := .sandboxReady
  payload := .null
  occurredAt := "2026-07-01T00:00:00.000Z"

/-- Emma's task starts. -/
def emmaStarts (sequence : Nat) : RunEventEnvelope :=
  { quietEvent sequence with
    eventType := .taskStarted
    payload := .object [("agent", .string "Emma")] }

/-- Emma's task is completed. -/
def emmaCompletes (sequence : Nat) : RunEventEnvelope :=
  { emmaStarts sequence with eventType := .taskCompleted }

/-- The string formats are not looked at. -/
def anyFormat : Formats where
  uuid _ := true
  url := some
  datetime _ := true

/-- An event of a short log that is reduced twice more. -/
theorem replay_unchanged_short :
    (([emmaStarts 1, emmaStarts 1]).take 2).foldl (reduceRunEvent anyFormat)
        (projectionOf anyFormat ([emmaStarts 1, emmaCompletes 2, quietEvent 3].take 2)) =
      projectionOf anyFormat ([emmaStarts 1, emmaCompletes 2, quietEvent 3].take 2) := by
  have ordered : Window.Ordered RunEventEnvelope.sequence
      [emmaStarts 1, emmaCompletes 2, quietEvent 3] := by
    simp [Window.Ordered, emmaStarts, emmaCompletes, quietEvent]
  apply (replay_unchanged_iff anyFormat _ ordered 2 [emmaStarts 1, emmaStarts 1] _).mpr
  · intro event mem
    have is_first : event = emmaStarts 1 := by simpa using mem
    rw [is_first]
    exact .inl List.mem_cons_self
  · intro event mem
    have is_first : event = emmaStarts 1 := by simpa using mem
    rw [is_first]
    exact List.mem_cons_self

/-- Emma's task is started and completed, and 500 events follow. -/
def longLog : List RunEventEnvelope :=
  emmaStarts 1 :: emmaCompletes 2 :: (List.range 500).map fun i => quietEvent (i + 3)

lemma longLog_ordered : Window.Ordered RunEventEnvelope.sequence longLog := by
  have later : Window.Ordered RunEventEnvelope.sequence
      ((List.range 500).map fun i => quietEvent (i + 3)) := by
    rw [Window.Ordered, List.pairwise_map]
    exact List.pairwise_lt_range.imp fun lt => Nat.add_lt_add_right lt 3
  apply List.Pairwise.cons _ (List.Pairwise.cons _ later)
  · intro event mem
    rcases List.mem_cons.mp mem with rfl | mem
    · exact Nat.lt_succ_self 1
    · obtain ⟨i, -, rfl⟩ := List.mem_map.mp mem
      show 1 < i + 3
      omega
  · intro event mem
    obtain ⟨i, -, rfl⟩ := List.mem_map.mp mem
    show 2 < i + 3
    omega

/-- Events that only the list of events shows leave the active agent as it is. -/
lemma quietEvents_activeAgent (numbers : List Nat) :
    ((numbers.map quietEvent).foldl (reduceRunEvent formats) s).activeAgent = s.activeAgent := by
  induction numbers generalizing s with
  | nil => rfl
  | cons n numbers ih =>
    have one : (reduceRunEvent formats s (quietEvent n)).activeAgent = s.activeAgent := by
      rw [reduceRunEvent]
      split
      · rfl
      · simp [showEvent, quietEvent]
    rw [List.map_cons, List.foldl_cons, ih, one]

/-- After a log of 502 events, its first event is reduced again: the task is shown as running. -/
theorem replay_changes_long : ¬ ∀ (formats : Formats) (log : List RunEventEnvelope),
    Window.Ordered RunEventEnvelope.sequence log → ∀ n, ∀ event ∈ log.take n,
      reduceRunEvent formats (projectionOf formats (log.take n)) event =
        projectionOf formats (log.take n) := by
  intro unchanged
  have first : emmaStarts 1 ∈ longLog := List.mem_cons_self
  have whole : longLog.take 502 = longLog := List.take_of_length_le (by simp [longLog])
  have again := unchanged anyFormat longLog longLog_ordered 502 (emmaStarts 1) (by rwa [whole])
  rw [whole, reduceRunEvent_again_iff anyFormat longLog_ordered first] at again
  rcases again with inside | shown
  · have window : Window.last 500 longLog = (List.range 500).map fun i => quietEvent (i + 3) := by
      simp [Window.last, longLog]
    rw [window] at inside
    obtain ⟨i, -, same⟩ := List.mem_map.mp inside
    have number : i + 3 = 1 := congrArg RunEventEnvelope.sequence same
    omega
  · have idle : (projectionOf anyFormat longLog).activeAgent = none := by
      have numbers : (List.range 500).map (fun i => quietEvent (i + 3)) =
          ((List.range 500).map (· + 3)).map quietEvent := by
        simp
      rw [projectionOf, longLog, List.foldl_cons, List.foldl_cons, numbers, quietEvents_activeAgent]
      decide
    have active := (shown .emma rfl).2
    rw [idle] at active
    cases active

end Log

end AtomsPlatform.Workspace
