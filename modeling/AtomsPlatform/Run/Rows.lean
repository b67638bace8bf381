import AtomsPlatform.Run.Operations

/-!
# What one operation does to a run

The row of a run changes in one of six ways (`RunChange`), whatever the environment decides; the
lemmas follow the components that write it: the worker, the control API and the sweeps. Before them
stand the frame lemmas: what the bodies of the worker's transactions leave alone.
-/

namespace AtomsPlatform.Run
variable {Output : Type}

section Lookup
variable {s : RunStore Output} {id k runId : Uuid} {p : AgentRun → Bool} {data : AgentRun → AgentRun}
  {event : RunEventPayload} {events : List RunEventPayload}

@[simp]
lemma runs_appendEvent : (s.appendEvent runId event).runs = s.runs :=
  rfl

@[simp]
lemma tasks_appendEvent : (s.appendEvent runId event).tasks = s.tasks :=
  rfl

@[simp]
lemma files_appendEvent : (s.appendEvent runId event).files = s.files :=
  rfl

/-- Appending events changes the logs only. -/
lemma appendEvents_eq (s : RunStore Output) (runId : Uuid) (events : List RunEventPayload) :
    ∃ logs, s.appendEvents runId events = { s with logs } := by
  induction events generalizing s with
  | nil => exact ⟨s.logs, rfl⟩
  | cons event events ih =>
    obtain ⟨logs, e⟩ := ih (s.appendEvent runId event)
    exact ⟨logs, e⟩

@[simp]
lemma runs_appendEvents : (s.appendEvents runId events).runs = s.runs := by
  obtain ⟨logs, e⟩ := appendEvents_eq s runId events
  rw [e]

@[simp]
lemma tasks_appendEvents : (s.appendEvents runId events).tasks = s.tasks := by
  obtain ⟨logs, e⟩ := appendEvents_eq s runId events
  rw [e]

@[simp]
lemma files_appendEvents : (s.appendEvents runId events).files = s.files := by
  obtain ⟨logs, e⟩ := appendEvents_eq s runId events
  rw [e]

/-- The row of a run after an update of a possibly different one. -/
lemma run?_updateRun (keeps : ∀ r, r.id = k → (data r).id = k) :
    (s.updateRun k p data).run? id =
      (s.run? id).map fun r => if id = k ∧ p r = true then data r else r := by
  by_cases e : id = k
  · subst e
    simpa [RunStore.run?, RunStore.updateRun] using Table.lookup_update keeps
  · simp only [RunStore.run?, RunStore.updateRun, e, false_and, if_false, Option.map_id']
    exact Table.lookup_update_ne keeps e

lemma run?_id {r : AgentRun} (row : s.run? id = some r) : r.id = id :=
  Table.lookup_key row

lemma run?_of_runs {s' : RunStore Output} (same : s'.runs = s.runs) : s'.run? id = s.run? id := by
  simp only [RunStore.run?, same]

lemma owns_run {r : AgentRun} (row : s.run? id = some r) : s.owns id p = p r := by
  simp only [RunStore.owns, Table.holds]
  rw [show Table.lookup AgentRun.id id s.runs = some r from row]
  rfl

lemma owns_run_iff : s.owns id p = true ↔ ∃ r, s.run? id = some r ∧ p r = true :=
  Table.holds_iff

lemma isAt_iff {status : AgentRunStatus} {controlVersion : Nat} {r : AgentRun} :
    isAt status controlVersion r = true ↔
      r.status = status ∧ r.controlVersion = controlVersion := by
  simp [isAt]

end Lookup

section Frame
variable {s s' : RunStore Output}

lemma map_eq_ok {ε α β : Type} {x : Except ε α} {f : α → β} {b : β} (e : x.map f = .ok b) :
    ∃ a, x = .ok a ∧ f a = b := by
  cases x with
  | error error => cases e
  | ok a => exact ⟨a, rfl, Except.ok.inj e⟩

/-- Creating a file adds it to the files, if its version is new. -/
lemma createFile_ok {file : ProjectFile} (e : s.createFile file = .ok s') :
    s' = { s with files := s.files ++ [file] } ∧
      ∀ f ∈ s.files, f.projectId = file.projectId → f.filePath = file.filePath →
        f.version ≠ file.version := by
  simp only [RunStore.createFile] at e
  split at e
  · cases e
  · rename_i unique
    cases e
    refine ⟨rfl, ?_⟩
    intro f mem project path version
    apply unique
    simp only [List.any_eq_true, decide_eq_true_eq]
    exact ⟨f, mem, project, path, version⟩

/-- Writing plans adds files and changes nothing else. -/
lemma writePlans_files {projectId : Uuid} {plans : List FilePlan} {paths : List String}
    (e : writePlans projectId plans s = .ok (paths, s')) :
    ∃ files, s' = { s with files := s.files ++ files } := by
  induction plans generalizing s s' paths with
  | nil =>
    cases e
    exact ⟨[], by simp⟩
  | cons plan plans ih =>
    simp only [writePlans] at e
    split at e
    · split at e
      · cases e
      · rename_i s₁ created
        obtain ⟨rfl, -⟩ := createFile_ok created
        obtain ⟨⟨paths', s₂⟩, rest, e⟩ := map_eq_ok e
        obtain ⟨files, rfl⟩ := ih rest
        cases e
        exact ⟨⟨projectId, plan.path, plan.content, plan.actualVersion + 1⟩ :: files, by simp⟩
    · exact ih e

/-- Storing a migration artifact leaves the runs, the files and the tasks alone. -/
lemma storeArtifact_frame (artifact : MigrationArtifact) (s : RunStore Output) :
    (storeArtifact artifact s).2.runs = s.runs ∧ (storeArtifact artifact s).2.files = s.files ∧
      (storeArtifact artifact s).2.tasks = s.tasks := by
  simp only [storeArtifact]
  split <;> exact ⟨rfl, rfl, rfl⟩

lemma storeArtifact_logs (artifact : MigrationArtifact) (s : RunStore Output) :
    (storeArtifact artifact s).2.logs = s.logs := by
  simp only [storeArtifact]
  split <;> rfl

/-- What a completed task leaves behind, apart from artifacts and events. -/
lemma finishTask_ok {outputs : AgentOutputs Output} {input : CompleteTaskInput Output}
    {artifactId : Uuid} {run : AgentRun} {current : AgentTask Output} {paths : List String}
    {r : PatchResult (WorkerTaskRecord Output)}
    (e : finishTask outputs input artifactId run current paths s = .ok (r, s')) :
    s'.runs = s.runs ∧ s'.files = s.files ∧
      s'.tasks = (s.updateTask input.taskId fun t =>
        { t with
          status := .completed
          output := some input.output
          error := none
          completedAt := some input.now }).tasks := by
  simp only [finishTask] at e
  split at e
  · cases e
  · rename_i artifact _
    cases artifact with
    | none =>
      cases e
      simp only [runs_appendEvents, files_appendEvents, tasks_appendEvents]
      exact ⟨rfl, rfl, rfl⟩
    | some artifact =>
      cases e
      simp only [runs_appendEvents, files_appendEvents, tasks_appendEvents, Option.map_some,
        Option.getD_some]
      exact storeArtifact_frame artifact _

end Frame

section Active
variable {α : Type} {s s' : RunStore Output} {runId : Uuid} {version : Nat} {now : Date}
  {stopped r : α} {rest : Transaction Output α}

/-- The tables after `touchActiveRun` took the row of an active run. -/
def RunStore.touched (s : RunStore Output) (runId : Uuid) (version : Nat) (now : Date) :
    RunStore Output :=
  s.updateRun runId (isAt .running version) fun r => { r with lastHeartbeatAt := some now }

/-- The two ways a transaction of the worker goes. -/
lemma whileActive_ok (e : whileActive runId version now stopped rest s = .ok (r, s')) :
    (s.owns runId (isAt .running version) = false ∧ r = stopped ∧ s' = s) ∨
    (s.owns runId (isAt .running version) = true ∧
      rest (s.touched runId version now) = .ok (r, s')) := by
  simp only [whileActive] at e
  split at e
  · rename_i active
    exact .inr ⟨active, e⟩
  · rename_i inactive
    cases e
    exact .inl ⟨Bool.eq_false_iff.mpr inactive, rfl, rfl⟩

/-- When the run is not active, a transaction of the worker changes nothing. -/
lemma whileActive_fenced (inactive : s.owns runId (isAt .running version) = false)
    (e : whileActive runId version now stopped rest s = .ok (r, s')) : s' = s := by
  obtain ⟨-, -, same⟩ | ⟨active, -⟩ := whileActive_ok e
  · exact same
  · rw [inactive] at active
    cases active

end Active

section Patches
variable {s s' : RunStore Output}

/-- What `completeTask` does: nothing when the run is not active; nothing but a heartbeat for a
    completed task or a conflict; else the files are written and the task is completed. -/
lemma completeTask_cases {outputs : AgentOutputs Output} {input : CompleteTaskInput Output}
    {artifactId : Uuid} {result : PatchResult (WorkerTaskRecord Output)}
    (e : completeTask outputs input artifactId s = .ok (result, s')) :
    (s.owns input.runId (isAt .running input.expectedControlVersion) = false ∧
      result = .stopped ∧ s' = s) ∨
    ∃ s₀ current, s₀ = s.touched input.runId input.expectedControlVersion input.now ∧
      s.task? input.taskId = some current ∧
      ((current.status = .completed ∧ result = .ok (toWorkerTaskRecord current) ∧ s' = s₀) ∨
        current.status ≠ .completed ∧ ∃ run, s₀.run? input.runId = some run ∧
          ((∃ conflict, planFiles s₀ run.projectId (input.generatedFiles.getD []) =
              .error conflict ∧ result = .fileConflict conflict ∧ s' = s₀) ∨
            ∃ plans paths s₁,
              planFiles s₀ run.projectId (input.generatedFiles.getD []) = .ok plans ∧
              writePlans run.projectId plans s₀ = .ok (paths, s₁) ∧
              finishTask outputs input artifactId run current paths s₁ = .ok (result, s'))) := by
  obtain ⟨inactive, rfl, rfl⟩ | ⟨-, body⟩ := whileActive_ok e
  · exact .inl ⟨inactive, rfl, rfl⟩
  refine .inr ?_
  split at body
  · cases body
  rename_i current task
  refine ⟨_, current, rfl, task, ?_⟩
  split at body
  · rename_i completed
    cases body
    exact .inl ⟨completed, rfl, rfl⟩
  rename_i open_
  refine .inr ⟨open_, ?_⟩
  split at body
  · cases body
  rename_i run row
  refine ⟨run, row, ?_⟩
  split at body
  · rename_i conflict planned
    cases body
    exact .inl ⟨conflict, planned, rfl, rfl⟩
  · rename_i plans planned
    split at body
    · cases body
    · rename_i paths s₁ written
      exact .inr ⟨plans, paths, s₁, planned, written, body⟩

/-- What `applyGeneratedFiles` does. -/
lemma applyGeneratedFiles_cases {input : ApplyGeneratedFilesInput}
    {result : PatchResult (List String)}
    (e : applyGeneratedFiles input s = .ok (result, s')) :
    (s.owns input.runId (isAt .running input.expectedControlVersion) = false ∧
      result = .stopped ∧ s' = s) ∨
    ∃ s₀ run, s₀ = s.touched input.runId input.expectedControlVersion input.now ∧
      s₀.run? input.runId = some run ∧
      ((∃ conflict, planFiles s₀ run.projectId input.generatedFiles = .error conflict ∧
          result = .fileConflict conflict ∧ s' = s₀) ∨
        ∃ plans paths s₁, planFiles s₀ run.projectId input.generatedFiles = .ok plans ∧
          writePlans run.projectId plans s₀ = .ok (paths, s₁) ∧ result = .ok paths ∧ s' = s₁.appendEvent input.runId (.codeGenerated none paths)) := by
  obtain ⟨inactive, rfl, rfl⟩ | ⟨-, body⟩ := whileActive_ok e
  · exact .inl ⟨inactive, rfl, rfl⟩
  refine .inr ?_
  split at body
  · cases body
  rename_i run row
  refine ⟨_, run, rfl, row, ?_⟩
  split at body
  · rename_i conflict planned
    cases body
    exact .inl ⟨conflict, planned, rfl, rfl⟩
  · rename_i plans planned
    split at body
    · cases body
    · rename_i paths s₁ written
      cases body
      exact .inr ⟨plans, paths, s₁, planned, written, rfl, rfl⟩

end Patches

/-- The approval that an event asks for. -/
def RunEventPayload.approval? : RunEventPayload → Option (ApprovalScope × String)
  | .approvalRequired scope reason => some (scope, reason)
  | _ => none

/-- What an operation makes of the row of a run, and the events it appends to the log of the run. -/
inductive RunMove (o : Operation Output) (r : AgentRun) : AgentRun → List RunEventPayload → Prop where
  | idle :
    RunMove o r r []
  | worked {now events} :
    r.status = .running →
    (∀ event ∈ events, event.approval? = none) →
    RunMove o r { r with lastHeartbeatAt := some now } events
  | claimed {job now} :
    o = .claimRun job now →
    job.runId = r.id →
    r.status = .pending →
    r.controlVersion = job.controlVersion →
    RunMove o r
      { r with
        status := .running
        controlVersion := r.controlVersion + 1
        startedAt := some (r.startedAt.getD now)
        lastHeartbeatAt := some now }
      [.statusChanged .pending .running job.command (r.controlVersion + 1)]
  | asked {scope reason now} :
    o = .requestApproval r.id r.controlVersion scope reason now →
    r.status = .running →
    RunMove o r
      { r with
        status := .paused
        pausedAt := some now
        lastHeartbeatAt := some now
        controlVersion := r.controlVersion + 1 }
      [.approvalRequired scope reason]
  | completed {now} :
    o = .completeRun r.id r.controlVersion now →
    r.status = .running →
    RunMove o r
      { r with
        status := .completed
        completedAt := some now
        lastHeartbeatAt := some now
        controlVersion := r.controlVersion + 1 }
      [.runCompleted now]
  | failed {error now} :
    o = .failRun r.id r.controlVersion error now →
    r.status = .running →
    RunMove o r
      { r with
        status := .failed
        error := some error
        completedAt := some now
        lastHeartbeatAt := some now
        controlVersion := r.controlVersion + 1 }
      [.runFailed error]
  | acted {action occurredAt patch enqueues} :
    o = .transitionRun r.id action r.status r.controlVersion occurredAt →
    resolveRunTransition action r.status occurredAt = some (patch, enqueues) →
    RunMove o r { patch r with controlVersion := r.controlVersion + 1 } []
  | enqueueFailed {error now} :
    o = .markRunFailed r.id r.controlVersion error now →
    r.status = .pending →
    RunMove o r { r with status := .failed, completedAt := some now, error := some error } []
  | expired {now} :
    o = .expirePausedRun r.id r.controlVersion now →
    r.status = .paused →
    RunMove o r
      { r with
        status := .cancelled
        cancelledAt := some now
        controlVersion := r.controlVersion + 1
        error := some expiredError }
      []
  | reminded {pausedAt now} :
    o = .sendReminder r.id pausedAt now →
    r.status = .paused →
    r.reminderSentAt = none →
    RunMove o r { r with reminderSentAt := some now } [.approvalReminderDue (pausedAt.getD now)]
  | purged {cancelledAt now} :
    o = .purgeRunData r.id cancelledAt now →
    r.status = .cancelled →
    r.purgedAt = none →
    RunMove o r { r with prompt := purgeRedactionMarker, purgedAt := some now }
      [.dataPurged (cancelledAt.getD now)]

/-- What an operation does to the row and the log of a run in a store; no run is added or removed. -/
structure RunMoves (o : Operation Output) (id : Uuid) (s s' : RunStore Output) : Prop where
  keys : s'.runs.map AgentRun.id = s.runs.map AgentRun.id
  row : ∀ r, s.run? id = some r → ∃ r' events, s'.run? id = some r' ∧
    s'.logs id = events.foldl RunLog.append (s.logs id) ∧ RunMove o r r' events

/-- What the body of a transaction of a job may do: it leaves the runs alone and appends events to the
    log of its run, which ask for no approval. -/
def Works (runId : Uuid) (s s' : RunStore Output) : Prop :=
  ∃ events, s'.runs = s.runs ∧ s'.logs = (s.appendEvents runId events).logs ∧
    ∀ event ∈ events, event.approval? = none

section Steps
variable {o : Operation Output} {id runId : Uuid} {s s' : RunStore Output} {version : Nat}
  {now : Date} {events : List RunEventPayload}

/-- Events of one run, appended to the logs. -/
lemma logs_appendEvents {k : Uuid} : (s.appendEvents k events).logs id =
    if id = k then events.foldl RunLog.append (s.logs id) else s.logs id := by
  induction events generalizing s with
  | nil => exact (ite_self _).symm
  | cons event events ih =>
    show ((s.appendEvent k event).appendEvents k events).logs id = _
    rw [ih]
    by_cases same : id = k
    · subst same
      simp [RunStore.appendEvent]
    · simp [RunStore.appendEvent, same]

lemma Works.same (runs : s'.runs = s.runs) (logs : s'.logs = s.logs) : Works runId s s' :=
  ⟨[], runs, logs, by simp⟩

lemma Works.appended {s₁ : RunStore Output} (runs : s₁.runs = s.runs) (logs : s₁.logs = s.logs)
    (quiet : ∀ event ∈ events, event.approval? = none) :
    Works runId s (s₁.appendEvents runId events) := by
  refine ⟨events, ?_, ?_, quiet⟩
  · rw [runs_appendEvents, runs]
  · funext k
    rw [logs_appendEvents, logs_appendEvents, logs]

lemma Works.one {s₁ : RunStore Output} {event : RunEventPayload} (runs : s₁.runs = s.runs)
    (logs : s₁.logs = s.logs) (quiet : event.approval? = none) :
    Works runId s (s₁.appendEvent runId event) := by
  have one : ∀ e ∈ [event], e.approval? = none := by simpa using quiet
  exact .appended runs logs one

lemma RunMoves.of_same (runs : s'.runs = s.runs) (logs : s'.logs = s.logs) :
    RunMoves o id s s' := by
  refine ⟨congrArg _ runs, ?_⟩
  intro r row
  refine ⟨r, [], (run?_of_runs runs).trans row, ?_, .idle⟩
  rw [logs]
  rfl

/-- An update of the row it insists on, with the events it appends. -/
lemma RunMoves.of_update (events : List RunEventPayload) {k : Uuid} {p : AgentRun → Bool} {data : AgentRun → AgentRun}
    (keeps : ∀ r, r.id = k → (data r).id = k) (runs : s'.runs = (s.updateRun k p data).runs)
    (logs : s'.logs = (s.appendEvents k events).logs) (owned : s.owns k p = true)
    (move : ∀ r, s.run? k = some r → p r = true → RunMove o r (data r) events) :
    RunMoves o id s s' := by
  refine ⟨(congrArg _ runs).trans (Table.keys_update fun r e => (keeps r e).trans e.symm), ?_⟩
  intro r row
  have row' : s'.run? id = some (if id = k ∧ p r = true then data r else r) := by
    rw [run?_of_runs runs, run?_updateRun keeps, row]
    rfl
  by_cases same : id = k
  · subst same
    rw [owns_run row] at owned
    refine ⟨data r, events, ?_, ?_, move r row owned⟩
    · rw [row', if_pos ⟨rfl, owned⟩]
    · rw [logs, logs_appendEvents, if_pos rfl]
  · refine ⟨r, [], ?_, ?_, .idle⟩
    · rw [row', if_neg fun both => same both.1]
    · rw [logs, logs_appendEvents, if_neg same]
      rfl

/-- An update of a row, which may not apply, without events. -/
lemma RunMoves.of_silent_update {k : Uuid} {p : AgentRun → Bool} {data : AgentRun → AgentRun}
    (keeps : ∀ r, r.id = k → (data r).id = k)
    (move : ∀ r, s.run? k = some r → p r = true → RunMove o r (data r) []) :
    RunMoves o id s (s.updateRun k p data) := by
  by_cases owned : s.owns k p = true
  · exact .of_update [] keeps rfl rfl owned move
  · refine ⟨Table.keys_update fun r e => (keeps r e).trans e.symm, ?_⟩
    intro r row
    refine ⟨r, [], ?_, rfl, .idle⟩
    rw [run?_updateRun keeps, row, Option.map_some, if_neg]
    rintro ⟨rfl, applies⟩
    rw [owns_run row] at owned
    exact owned applies

/-- A transaction of a job moves the heartbeat of the run it holds, and appends what its body does. -/
lemma whileActive_runMoves {α : Type} {stopped a : α} {rest : Transaction Output α}
    (works : ∀ {s₀ : RunStore Output}, rest s₀ = .ok (a, s') → Works runId s₀ s')
    (e : whileActive runId version now stopped rest s = .ok (a, s')) : RunMoves o id s s' := by
  obtain ⟨-, -, rfl⟩ | ⟨active, body⟩ := whileActive_ok e
  · exact .of_same rfl rfl
  · obtain ⟨events, runs, logs, quiet⟩ := works body
    refine .of_update events ?_ runs ?_ active ?_
    · exact fun _ e => e
    · rw [logs]
      funext k
      rw [logs_appendEvents, logs_appendEvents]
      rfl
    · exact fun r _ running => .worked (isAt_iff.mp running).1 quiet

lemma claimRun_runMoves {job : RunJob} {result : RunClaimResult}
    (e : claimRun job now s = .ok (result, s')) : RunMoves (.claimRun job now) id s s' := by
  simp only [claimRun] at e
  split at e
  · cases e
    exact .of_same rfl rfl
  · rename_i current row
    split at e
    · cases e
      exact .of_same rfl rfl
    split at e
    · cases e
      exact .of_same rfl rfl
    · rename_i pending
      obtain ⟨status, version⟩ := not_not.mp pending
      cases e
      have here := run?_id row
      refine .of_update [_] ?_ (runs_appendEvent ..) rfl ?_ ?_
      · exact fun _ _ => here
      · rw [owns_run row]
        exact isAt_iff.mpr ⟨status, version⟩
      · intro r row' _
        cases row.symm.trans row'
        exact .claimed rfl here.symm status version

/-- A claim is answered with the run of the job. -/
lemma claimRun_answer {job : RunJob} {run : RunExecutionRecord}
    (e : claimRun job now s = .ok (.ready run, s')) : run.id = job.runId := by
  simp only [claimRun] at e
  split at e
  · cases e
  · rename_i current row
    split at e
    · cases e
      exact run?_id row
    split at e
    · cases e
    · cases e
      exact run?_id row

lemma ensureTask_runMoves {input : PrepareTaskInput} {taskId : Uuid} {status : AgentTaskStatus}
    {event : RunEventPayload} {result : TaskMutationResult Output} (quiet : event.approval? = none)
    (e : ensureTask input taskId status event s = .ok (result, s')) : RunMoves o id s s' := by
  refine whileActive_runMoves ?_ e
  intro s₀ body
  split at body
  · cases body
    exact .same rfl rfl
  · split at body
    · cases body
    · cases body
      exact .one rfl rfl quiet

lemma startTask_runMoves {taskId : Uuid} {result : TaskMutationResult Output}
    (e : startTask runId version taskId now s = .ok (result, s')) : RunMoves o id s s' := by
  refine whileActive_runMoves ?_ e
  intro s₀ body
  split at body
  · cases body
  · split at body
    · cases body
      exact .same rfl rfl
    · cases body
      exact .one rfl rfl rfl

lemma failTask_runMoves {taskId : Uuid} {error : RunError} {b : Bool}
    (e : failTask runId version taskId error now s = .ok (b, s')) : RunMoves o id s s' := by
  refine whileActive_runMoves ?_ e
  intro s₀ body
  split at body
  · cases body
  · cases body
    exact .one rfl rfl rfl

lemma applyGeneratedFiles_runMoves {input : ApplyGeneratedFilesInput}
    {result : PatchResult (List String)}
    (e : applyGeneratedFiles input s = .ok (result, s')) : RunMoves o id s s' := by
  refine whileActive_runMoves ?_ e
  intro s₀ body
  split at body
  · cases body
  · split at body
    · cases body
      exact .same rfl rfl
    · split at body
      · cases body
      · rename_i paths s₁ written
        obtain ⟨files, rfl⟩ := writePlans_files written
        cases body
        exact .one rfl rfl rfl

/-- The events of a completed task ask for no approval. -/
lemma completionEvents_quiet (input : CompleteTaskInput Output) (task : AgentTask Output)
    (migrationArtifactId : Option Uuid) (writtenPaths : List String) :
    ∀ event ∈ completionEvents input task migrationArtifactId writtenPaths,
      event.approval? = none := by
  intro event mem
  simp only [completionEvents, List.mem_append, List.mem_cons, List.not_mem_nil, or_false] at mem
  obtain ((((rfl | rfl) | mem) | mem) | mem) := mem
  · rfl
  · rfl
  all_goals
    split at mem
    · rw [List.mem_singleton.mp mem]
      rfl
    · exact absurd mem List.not_mem_nil

/-- What follows the files of a completed task leaves the runs alone and appends its events. -/
lemma finishTask_works {outputs : AgentOutputs Output} {input : CompleteTaskInput Output}
    {artifactId : Uuid} {run : AgentRun} {current : AgentTask Output} {paths : List String}
    {r : PatchResult (WorkerTaskRecord Output)}
    (e : finishTask outputs input artifactId run current paths s = .ok (r, s')) :
    Works input.runId s s' := by
  simp only [finishTask] at e
  split at e
  · cases e
  · rename_i artifact _
    cases e
    refine .appended ?_ ?_ (completionEvents_quiet input _ _ paths)
    · cases artifact with
      | none => rfl
      | some artifact => exact (storeArtifact_frame artifact _).1
    · cases artifact with
      | none => rfl
      | some artifact => exact storeArtifact_logs artifact _

lemma completeTask_runMoves {outputs : AgentOutputs Output} {input : CompleteTaskInput Output}
    {artifactId : Uuid} {result : PatchResult (WorkerTaskRecord Output)}
    (e : completeTask outputs input artifactId s = .ok (result, s')) : RunMoves o id s s' := by
  refine whileActive_runMoves ?_ e
  intro s₀ body
  split at body
  · cases body
  split at body
  · cases body
    exact .same rfl rfl
  split at body
  · cases body
  split at body
  · cases body
    exact .same rfl rfl
  · split at body
    · cases body
    · rename_i paths s₁ written
      obtain ⟨files, rfl⟩ := writePlans_files written
      obtain ⟨events, runs, logs, quiet⟩ := finishTask_works body
      exact ⟨events, runs, logs.trans (by funext k; rw [logs_appendEvents, logs_appendEvents]), quiet⟩

/-- An update of a sandbox session changes the sessions only. -/
lemma updateSession_eq {sessionId : Uuid} {data : SandboxSession → SandboxSession}
    (e : updateSession sessionId runId data s = some s') :
    ∃ sandboxSessions, s' = { s with sandboxSessions } := by
  simp only [updateSession] at e
  split at e
  · cases e
    exact ⟨_, rfl⟩
  · cases e

lemma createSandboxSession_runMoves {input : CreateSandboxSessionInput} {sessionId : Uuid}
    {result : Option Uuid} (e : createSandboxSession input sessionId s = .ok (result, s')) :
    RunMoves o id s s' := by
  refine whileActive_runMoves ?_ e
  intro s₀ body
  split at body
  · cases body
    exact .same rfl rfl
  · split at body
    · cases body
    · cases body
      exact .same rfl rfl

lemma markSandboxFilesRestored_runMoves {sessionId : Uuid} {b : Bool}
    (e : markSandboxFilesRestored runId version sessionId now s = .ok (b, s')) :
    RunMoves o id s s' := by
  refine whileActive_runMoves ?_ e
  intro s₀ body
  split at body
  · cases body
    exact .same rfl rfl
  · rename_i s₁ updated
    obtain ⟨sandboxSessions, rfl⟩ := updateSession_eq updated
    cases body
    exact .one rfl rfl rfl

lemma recordSandboxCommand_runMoves {input : RecordSandboxCommandInput} {row : Uuid} {b : Bool}
    (e : recordSandboxCommand input row s = .ok (b, s')) : RunMoves o id s s' := by
  refine whileActive_runMoves ?_ e
  intro s₀ body
  split at body
  · split at body
    · cases body
    · cases body
      exact .one rfl rfl rfl
  · cases body
    exact .same rfl rfl

lemma recordPreviewReady_runMoves {input : RecordPreviewReadyInput} {b : Bool}
    (e : recordPreviewReady input s = .ok (b, s')) : RunMoves o id s s' := by
  refine whileActive_runMoves ?_ e
  intro s₀ body
  simp only at body
  split at body
  · cases body
    exact .same rfl rfl
  · rename_i s₁ updated
    obtain ⟨sandboxSessions, rfl⟩ := updateSession_eq updated
    cases body
    exact .one rfl rfl rfl

/-- The closing transitions of the worker. -/
lemma leaveRunning_runMoves {data : AgentRun → AgentRun} {event : RunEventPayload} {b : Bool}
    (e : leaveRunning runId version data event s = .ok (b, s'))
    (keeps : ∀ r, (data r).id = r.id)
    (move : ∀ r, r.id = runId → r.status = .running → r.controlVersion = version →
      RunMove o r { data r with controlVersion := r.controlVersion + 1 } [event]) :
    RunMoves o id s s' := by
  simp only [leaveRunning] at e
  split at e
  · rename_i active
    cases e
    refine .of_update [event] ?_ (runs_appendEvent ..) rfl active ?_
    · exact fun r e => (keeps r).trans e
    · intro r row running
      obtain ⟨status, version⟩ := isAt_iff.mp running
      exact move r (run?_id row) status version
  · cases e
    exact .of_same rfl rfl

end Steps

section Control
variable {id runId : Uuid} {s s' : RunStore Output} {version : Nat} {now : Date}

/-- The patch of an action keeps the identifier and does not purge. -/
lemma resolveRunTransition_keeps {action : RunAction} {status : AgentRunStatus}
    {patch : AgentRun → AgentRun} {enqueues : Bool}
    (e : resolveRunTransition action status now = some (patch, enqueues)) (r : AgentRun) :
    (patch r).id = r.id ∧ (patch r).purgedAt = r.purgedAt := by
  cases action <;>
  · simp only [resolveRunTransition] at e
    split at e
    · cases e
      exact ⟨rfl, rfl⟩
    · cases e

lemma transitionRun_runMoves {action : RunAction} {status : AgentRunStatus} {found : Bool}
    {result : Option AgentRun}
    (e : transitionRun runId action status version now found s = .ok (result, s')) :
    RunMoves (.transitionRun runId action status version now) id s s' := by
  simp only [transitionRun] at e
  split at e
  · cases e
  · rename_i patch enqueues resolved
    split at e
    · rename_i owned
      cases e
      refine .of_update [] ?_ rfl rfl (Bool.and_eq_true_iff.mp owned).2 ?_
      · exact fun r e => (resolveRunTransition_keeps resolved r).1.trans e
      · intro r row current
        obtain ⟨rfl, rfl⟩ := isAt_iff.mp current
        cases run?_id row
        exact .acted rfl resolved
    · cases e
      exact .of_same rfl rfl

lemma putProjectFile_runMoves {o : Operation Output} {projectId : Uuid} {input : FileContentInput}
    {found : Bool} {result : PutProjectFileResult}
    (e : putProjectFile projectId input found s = .ok (result, s')) : RunMoves o id s s' := by
  unfold putProjectFile at e
  split at e
  · cases e
    exact .of_same rfl rfl
  extract_lets latest actualVersion expectedMatches file at e
  split at e
  · obtain ⟨s₁, created, e⟩ := map_eq_ok e
    obtain ⟨rfl, -⟩ := createFile_ok created
    cases e
    exact .of_same rfl rfl
  · cases e
    exact .of_same rfl rfl

lemma markRunFailed_runMoves {error : RunError} {u : Unit}
    (e : markRunFailed runId version error now s = .ok (u, s')) :
    RunMoves (.markRunFailed runId version error now) id s s' := by
  cases e
  refine .of_silent_update ?_ ?_
  · exact fun _ e => e
  · intro r row pending
    obtain ⟨status, rfl⟩ := isAt_iff.mp pending
    cases run?_id row
    exact .enqueueFailed rfl status

lemma expirePausedRun_runMoves {b : Bool} (e : expirePausedRun runId version now s = .ok (b, s')) :
    RunMoves (.expirePausedRun runId version now) id s s' := by
  cases e
  refine .of_silent_update ?_ ?_
  · exact fun _ e => e
  · intro r row paused
    obtain ⟨status, rfl⟩ := isAt_iff.mp paused
    cases run?_id row
    exact .expired rfl status

lemma sendReminder_runMoves {pausedAt : Option Date} {b : Bool}
    (e : sendReminder runId pausedAt now s = .ok (b, s')) :
    RunMoves (.sendReminder runId pausedAt now) id s s' := by
  simp only [sendReminder] at e
  split at e
  · rename_i due
    cases e
    refine .of_update [_] ?_ (runs_appendEvent ..) rfl due ?_
    · exact fun _ e => e
    · intro r row due
      obtain ⟨paused, unsent⟩ := of_decide_eq_true due
      cases run?_id row
      exact .reminded rfl paused unsent
  · cases e
    exact .of_same rfl rfl

lemma purgeRunData_runMoves {cancelledAt : Option Date} {b : Bool}
    (e : purgeRunData runId cancelledAt now s = .ok (b, s')) :
    RunMoves (.purgeRunData runId cancelledAt now) id s s' := by
  simp only [purgeRunData] at e
  split at e
  · rename_i purgeable
    cases e
    refine .of_update [_] ?_ (runs_appendEvent ..) rfl purgeable ?_
    · exact fun _ e => e
    · intro r row purgeable
      obtain ⟨cancelled, unpurged⟩ := of_decide_eq_true purgeable
      cases run?_id row
      exact .purged rfl cancelled unpurged
  · cases e
    exact .of_same rfl rfl

end Control

/-- Whatever an operation does to a run and its log is one of these moves. -/
lemma perform_runMoves (outputs : AgentOutputs Output) (o : Operation Output) (env : Environment)
    (s : RunStore Output) (id : Uuid) : RunMoves o id s (perform outputs o env s).2 := by
  obtain ⟨error, e⟩ | ⟨r, e, -⟩ := perform_cases outputs o env s
  · rw [e]
    exact .of_same rfl rfl
  generalize (perform outputs o env s).2 = s' at e
  cases o with
  | claimRun => exact claimRun_runMoves e
  | prepareTask => exact ensureTask_runMoves rfl e
  | skipTask => exact ensureTask_runMoves rfl e
  | startTask => exact startTask_runMoves e
  | completeTask => exact completeTask_runMoves e
  | failTask => exact failTask_runMoves e
  | applyGeneratedFiles => exact applyGeneratedFiles_runMoves e
  | createSandboxSession => exact createSandboxSession_runMoves e
  | markSandboxFilesRestored => exact markSandboxFilesRestored_runMoves e
  | recordSandboxCommand => exact recordSandboxCommand_runMoves e
  | recordPreviewReady => exact recordPreviewReady_runMoves e
  | requestApproval =>
    refine leaveRunning_runMoves e (fun _ => rfl) ?_
    rintro r rfl status rfl
    exact .asked rfl status
  | completeRun =>
    refine leaveRunning_runMoves e (fun _ => rfl) ?_
    rintro r rfl status rfl
    exact .completed rfl status
  | failRun =>
    refine leaveRunning_runMoves e (fun _ => rfl) ?_
    rintro r rfl status rfl
    exact .failed rfl status
  | transitionRun => exact transitionRun_runMoves e
  | markRunFailed => exact markRunFailed_runMoves e
  | putProjectFile => exact putProjectFile_runMoves e
  | expirePausedRun => exact expirePausedRun_runMoves e
  | sendReminder => exact sendReminder_runMoves e
  | purgeRunData => exact purgeRunData_runMoves e
  | listProjectFiles | getRun | findPausedRuns =>
    cases e
    exact .of_same rfl rfl

/-- What an operation can do to the row of a run. -/
inductive RunChange (o : Operation Output) (r r' : AgentRun) : Prop where
  | kept :
    r'.status = r.status →
    r'.controlVersion = r.controlVersion →
    RunChange o r r'
  | claimed :
    r.status = .pending →
    r'.status = .running →
    r'.controlVersion = r.controlVersion + 1 →
    RunChange o r r'
  | left :
    r.status = .running →
    r'.status = .paused ∨ r'.status = .completed ∨ r'.status = .failed →
    r'.controlVersion = r.controlVersion + 1 →
    RunChange o r r'
  | acted {action occurredAt patch enqueues} :
    o = .transitionRun r.id action r.status r.controlVersion occurredAt →
    resolveRunTransition action r.status occurredAt = some (patch, enqueues) →
    r' = { patch r with controlVersion := r.controlVersion + 1 } →
    RunChange o r r'
  | expired :
    r.status = .paused →
    r'.status = .cancelled →
    r'.controlVersion = r.controlVersion + 1 →
    RunChange o r r'
  | enqueueFailed {error now} :
    o = .markRunFailed r.id r.controlVersion error now →
    r.status = .pending →
    r'.status = .failed →
    r'.controlVersion = r.controlVersion →
    RunChange o r r'

/-- Only a cancelled run is purged, and a purge is never undone. -/
def PurgeKept (r r' : AgentRun) : Prop :=
  r'.purgedAt = r.purgedAt ∨
    (r.status = .cancelled ∧ r'.status = .cancelled ∧ r'.purgedAt.isSome = true)

/-- What an operation can do to the row of a run in a store. -/
def RunStep (o : Operation Output) (id : Uuid) (s s' : RunStore Output) : Prop :=
  ∀ r, s.run? id = some r → ∃ r', s'.run? id = some r' ∧ RunChange o r r' ∧ PurgeKept r r'

/-- The coarse view of a move. -/
lemma RunMove.change {o : Operation Output} {r r' : AgentRun} {events : List RunEventPayload}
    (move : RunMove o r r' events) : RunChange o r r' ∧ PurgeKept r r' := by
  cases move with
  | idle => exact ⟨.kept rfl rfl, .inl rfl⟩
  | worked _ _ => exact ⟨.kept rfl rfl, .inl rfl⟩
  | claimed _ _ status _ => exact ⟨.claimed status rfl rfl, .inl rfl⟩
  | asked _ status => exact ⟨.left status (.inl rfl) rfl, .inl rfl⟩
  | completed _ status => exact ⟨.left status (.inr (.inl rfl)) rfl, .inl rfl⟩
  | failed _ status => exact ⟨.left status (.inr (.inr rfl)) rfl, .inl rfl⟩
  | acted acts resolved =>
    exact ⟨.acted acts resolved rfl, .inl (resolveRunTransition_keeps resolved r).2⟩
  | enqueueFailed marks status => exact ⟨.enqueueFailed marks status rfl rfl, .inl rfl⟩
  | expired _ status => exact ⟨.expired status rfl rfl, .inl rfl⟩
  | reminded _ _ _ => exact ⟨.kept rfl rfl, .inl rfl⟩
  | purged _ status _ => exact ⟨.kept rfl rfl, .inr ⟨status, status, rfl⟩⟩

/-- Whatever an operation does to a run is one of the six changes. -/
lemma perform_runStep (outputs : AgentOutputs Output) (o : Operation Output) (env : Environment)
    (s : RunStore Output) (id : Uuid) : RunStep o id s (perform outputs o env s).2 := by
  intro r row
  obtain ⟨r', events, row', -, move⟩ := (perform_runMoves outputs o env s id).row r row
  obtain ⟨change, purge⟩ := move.change
  exact ⟨r', row', change, purge⟩

/-- The operations that can add files. -/
def Operation.writesFiles : Operation Output → Bool
  | .completeTask _ | .applyGeneratedFiles _ | .putProjectFile .. => true
  | _ => false

/-- The operations that can change tasks. -/
def Operation.writesTasks : Operation Output → Bool
  | .prepareTask _ | .skipTask _ | .startTask .. | .completeTask _ | .failTask .. => true
  | .purgeRunData .. => true
  | _ => false

section Parts
variable {α β : Type} {s s' : RunStore Output} {runId : Uuid} {version : Nat} {now : Date}
  {stopped a : α} {rest : Transaction Output α}

/-- A transaction of the worker leaves alone what its body leaves alone. -/
lemma whileActive_keeps (part : RunStore Output → β) (ignores : ∀ (s : RunStore Output) runs, part { s with runs } = part s)
    (keeps : ∀ {s₀ : RunStore Output}, rest s₀ = .ok (a, s') → part s' = part s₀)
    (e : whileActive runId version now stopped rest s = .ok (a, s')) : part s' = part s := by
  obtain ⟨-, -, rfl⟩ | ⟨-, body⟩ := whileActive_ok e
  · rfl
  · exact (keeps body).trans (ignores ..)

lemma ensureTask_files {input : PrepareTaskInput} {taskId : Uuid} {status : AgentTaskStatus}
    {event : RunEventPayload} {result : TaskMutationResult Output}
    (e : ensureTask input taskId status event s = .ok (result, s')) : s'.files = s.files := by
  refine whileActive_keeps RunStore.files (fun _ _ => rfl) ?_ e
  intro s₀ body
  split at body
  · cases body
    rfl
  · split at body
    · cases body
    · cases body
      rfl

lemma startTask_files {taskId : Uuid} {result : TaskMutationResult Output}
    (e : startTask runId version taskId now s = .ok (result, s')) : s'.files = s.files := by
  refine whileActive_keeps RunStore.files (fun _ _ => rfl) ?_ e
  intro s₀ body
  split at body
  · cases body
  · split at body
    · cases body
      rfl
    · cases body
      rfl

lemma failTask_files {taskId : Uuid} {error : RunError} {b : Bool}
    (e : failTask runId version taskId error now s = .ok (b, s')) : s'.files = s.files := by
  refine whileActive_keeps RunStore.files (fun _ _ => rfl) ?_ e
  intro s₀ body
  split at body
  · cases body
  · cases body
    rfl

lemma applyGeneratedFiles_tasks {input : ApplyGeneratedFilesInput}
    {result : PatchResult (List String)}
    (e : applyGeneratedFiles input s = .ok (result, s')) : s'.tasks = s.tasks := by
  refine whileActive_keeps RunStore.tasks (fun _ _ => rfl) ?_ e
  intro s₀ body
  split at body
  · cases body
  · split at body
    · cases body
      rfl
    · split at body
      · cases body
      · rename_i paths s₁ written
        obtain ⟨files, rfl⟩ := writePlans_files written
        cases body
        rfl

/-- The files and the tasks, which the sandbox transactions leave alone. -/
def RunStore.work (s : RunStore Output) : List ProjectFile × List (AgentTask Output) :=
  (s.files, s.tasks)

lemma createSandboxSession_work {input : CreateSandboxSessionInput} {sessionId : Uuid}
    {result : Option Uuid} (e : createSandboxSession input sessionId s = .ok (result, s')) :
    s'.work = s.work := by
  refine whileActive_keeps RunStore.work (fun _ _ => rfl) ?_ e
  intro s₀ body
  split at body
  · cases body
    rfl
  · split at body
    · cases body
    · cases body
      rfl

lemma markSandboxFilesRestored_work {sessionId : Uuid} {b : Bool}
    (e : markSandboxFilesRestored runId version sessionId now s = .ok (b, s')) :
    s'.work = s.work := by
  refine whileActive_keeps RunStore.work (fun _ _ => rfl) ?_ e
  intro s₀ body
  split at body
  · cases body
    rfl
  · rename_i s₁ updated
    obtain ⟨sandboxSessions, rfl⟩ := updateSession_eq updated
    cases body
    rfl

lemma recordSandboxCommand_work {input : RecordSandboxCommandInput} {row : Uuid} {b : Bool}
    (e : recordSandboxCommand input row s = .ok (b, s')) : s'.work = s.work := by
  refine whileActive_keeps RunStore.work (fun _ _ => rfl) ?_ e
  intro s₀ body
  split at body
  · split at body
    · cases body
    · cases body
      rfl
  · cases body
    rfl

lemma recordPreviewReady_work {input : RecordPreviewReadyInput} {b : Bool}
    (e : recordPreviewReady input s = .ok (b, s')) : s'.work = s.work := by
  refine whileActive_keeps RunStore.work (fun _ _ => rfl) ?_ e
  intro s₀ body
  simp only at body
  split at body
  · cases body
    rfl
  · rename_i s₁ updated
    obtain ⟨sandboxSessions, rfl⟩ := updateSession_eq updated
    cases body
    rfl

lemma claimRun_work {job : RunJob} {result : RunClaimResult}
    (e : claimRun job now s = .ok (result, s')) : s'.work = s.work := by
  simp only [claimRun] at e
  split at e
  · cases e
    rfl
  · split at e
    · cases e
      rfl
    split at e
    · cases e
      rfl
    · cases e
      rfl

lemma leaveRunning_work {data : AgentRun → AgentRun} {event : RunEventPayload} {b : Bool}
    (e : leaveRunning runId version data event s = .ok (b, s')) : s'.work = s.work := by
  simp only [leaveRunning] at e
  split at e
  · cases e
    rfl
  · cases e
    rfl

lemma transitionRun_work {action : RunAction} {status : AgentRunStatus} {found : Bool}
    {result : Option AgentRun}
    (e : transitionRun runId action status version now found s = .ok (result, s')) :
    s'.work = s.work := by
  simp only [transitionRun] at e
  split at e
  · cases e
  · split at e
    · cases e
      rfl
    · cases e
      rfl

lemma sendReminder_work {pausedAt : Option Date} {b : Bool}
    (e : sendReminder runId pausedAt now s = .ok (b, s')) : s'.work = s.work := by
  simp only [sendReminder] at e
  split at e
  · cases e
    rfl
  · cases e
    rfl

lemma purgeRunData_files {cancelledAt : Option Date} {b : Bool}
    (e : purgeRunData runId cancelledAt now s = .ok (b, s')) : s'.files = s.files := by
  simp only [purgeRunData] at e
  split at e
  · cases e
    rfl
  · cases e
    rfl

lemma putProjectFile_tasks {projectId : Uuid} {input : FileContentInput} {found : Bool}
    {result : PutProjectFileResult}
    (e : putProjectFile projectId input found s = .ok (result, s')) : s'.tasks = s.tasks := by
  unfold putProjectFile at e
  split at e
  · cases e
    rfl
  extract_lets latest actualVersion expectedMatches file at e
  split at e
  · obtain ⟨s₁, created, e⟩ := map_eq_ok e
    obtain ⟨rfl, -⟩ := createFile_ok created
    cases e
    rfl
  · cases e
    rfl

end Parts

/-- Only the operations that write files change the files. -/
lemma perform_files {o : Operation Output} (outputs : AgentOutputs Output) (env : Environment)
    (s : RunStore Output) (reads : o.writesFiles = false) :
    (perform outputs o env s).2.files = s.files := by
  obtain ⟨error, e⟩ | ⟨r, e, -⟩ := perform_cases outputs o env s
  · rw [e]
  generalize (perform outputs o env s).2 = s' at e ⊢
  have files (same : s'.work = s.work) : s'.files = s.files := congrArg Prod.fst same
  cases o with
  | completeTask | applyGeneratedFiles | putProjectFile => cases reads
  | claimRun => exact files (claimRun_work e)
  | prepareTask => exact ensureTask_files e
  | skipTask => exact ensureTask_files e
  | startTask => exact startTask_files e
  | failTask => exact failTask_files e
  | createSandboxSession => exact files (createSandboxSession_work e)
  | markSandboxFilesRestored => exact files (markSandboxFilesRestored_work e)
  | recordSandboxCommand => exact files (recordSandboxCommand_work e)
  | recordPreviewReady => exact files (recordPreviewReady_work e)
  | requestApproval => exact files (leaveRunning_work e)
  | completeRun => exact files (leaveRunning_work e)
  | failRun => exact files (leaveRunning_work e)
  | transitionRun => exact files (transitionRun_work e)
  | sendReminder => exact files (sendReminder_work e)
  | purgeRunData => exact purgeRunData_files e
  | markRunFailed | expirePausedRun | listProjectFiles | getRun | findPausedRuns =>
    cases e
    rfl

/-- Only the operations on tasks and a purge change the tasks. -/
lemma perform_tasks {o : Operation Output} (outputs : AgentOutputs Output) (env : Environment)
    (s : RunStore Output) (reads : o.writesTasks = false) :
    (perform outputs o env s).2.tasks = s.tasks := by
  obtain ⟨error, e⟩ | ⟨r, e, -⟩ := perform_cases outputs o env s
  · rw [e]
  generalize (perform outputs o env s).2 = s' at e ⊢
  have tasks (same : s'.work = s.work) : s'.tasks = s.tasks := congrArg Prod.snd same
  cases o with
  | prepareTask | skipTask | startTask | completeTask | failTask | purgeRunData => cases reads
  | claimRun => exact tasks (claimRun_work e)
  | applyGeneratedFiles => exact applyGeneratedFiles_tasks e
  | createSandboxSession => exact tasks (createSandboxSession_work e)
  | markSandboxFilesRestored => exact tasks (markSandboxFilesRestored_work e)
  | recordSandboxCommand => exact tasks (recordSandboxCommand_work e)
  | recordPreviewReady => exact tasks (recordPreviewReady_work e)
  | requestApproval => exact tasks (leaveRunning_work e)
  | completeRun => exact tasks (leaveRunning_work e)
  | failRun => exact tasks (leaveRunning_work e)
  | transitionRun => exact tasks (transitionRun_work e)
  | putProjectFile => exact putProjectFile_tasks e
  | sendReminder => exact tasks (sendReminder_work e)
  | markRunFailed | expirePausedRun | listProjectFiles | getRun | findPausedRuns =>
    cases e
    rfl

end AtomsPlatform.Run
