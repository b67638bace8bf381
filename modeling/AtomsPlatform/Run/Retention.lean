import AtomsPlatform.Run.Activities

/-!
# Retention

The purge of expired runs redacts the row of a run and the inputs and outputs of its tasks. What the
worker wrote for a run is more than that: the errors of tasks, some of which quote outputs, and what
LangGraph saved for the run's thread, which the purge never touches. `purged_iff` says that a purged
run was expired by the sweep, and that nothing is left of its prompt and outputs, from then on,
exactly if there was neither.
-/

namespace AtomsPlatform.Run
open Interleaving
variable {Output : Type} {schemas : AgentOutputSchemas Output} {d : Deployment}

section Data
variable (schemas)

/-- What LangGraph saves for the thread of a run: the input of a job, or the state after a node. -/
inductive Checkpoint where
  | input
  | after (state : RunState schemas)

/-- What the worker wrote for a run. -/
structure RunData where
  row : Option AgentRun
  tasks : List (AgentTask Output)
  checkpoints : List (Checkpoint schemas)

variable {schemas}

/-- The error texts that are made of outputs: `GeneratedFileConflictError` has a path of a generated
    file, `DeterministicSeoValidationError` has routes and URLs. -/
def RunError.quotesOutput (error : RunError) : Bool :=
  error.name = "GeneratedFileConflictError" ∨ error.name = "DeterministicSeoValidationError"

/-- A task without what is made of the prompt and of outputs. -/
def AgentTask.redacted (task : AgentTask Output) : AgentTask Output :=
  { task.wiped with error := task.error.filter fun error => !error.quotesOutput }

/-- The data of a run without what is made of its prompt and its outputs. -/
def RunData.redact (data : RunData schemas) : RunData schemas where
  row := data.row.map fun r => { r with prompt := purgeRedactionMarker }
  tasks := data.tasks.map AgentTask.redacted
  checkpoints := []

/-- Nothing is left of the prompt and of outputs. -/
def RunData.Redacted (data : RunData schemas) : Prop :=
  data.redact = data

/-- The data of a run that is marked as purged. -/
def RunData.purged (now : Date) (data : RunData schemas) : RunData schemas :=
  { data with row := data.row.map fun r => { r with purgedAt := some now } }

/-- The tasks of a run. -/
def tasksOf (runId : Uuid) (s : ControlStore schemas) : List (AgentTask Output) :=
  s.tables.tasks.filter fun t => t.runId = runId

/-- What a step saves for the thread of a run. -/
def checkpointOf (runId : Uuid) :
    ControlConfig schemas × (controlPlane schemas d).Label → Option (Checkpoint schemas)
  | (_, .act _ (.worker (.loadThread k)) env) =>
    if k = runId ∧ env.takesEffect = true then some .input else none
  | (_, .act _ (.worker (.endNode _ state update)) env) =>
    if state.runId = runId ∧ d.options.checkpointer = true ∧ env.takesEffect = true then
      some (.after (state.apply update))
    else none
  | _ => none

/-- What was saved for the thread of a run; no component removes any of it. -/
def checkpoints (runId : Uuid) (h : ControlHistory schemas d) : List (Checkpoint schemas) :=
  h.filterMap (checkpointOf runId)

/-- What the worker wrote for a run in a history. -/
def runData (runId : Uuid) (h : ControlHistory schemas d) (c : ControlConfig schemas) :
    RunData schemas where
  row := c.store.tables.run? runId
  tasks := tasksOf runId c.store
  checkpoints := checkpoints runId h

/-- The time at which a step purges a run, if it does. -/
def purgeOf (runId : Uuid) (entry : ControlConfig schemas × (controlPlane schemas d).Label) :
    Option Date :=
  match entry.2 with
  | .act _ (.worker (.store (.purgeRunData k _ now))) _ =>
    if k = runId ∧ appendsTo runId entry = true then some now else none
  | _ => none

/-- The last change of a run's status was its expiry. -/
def expired (runId : Uuid) (h : ControlHistory schemas d) : Bool :=
  match (lastStatusChange runId h).bind fun entry => operationOf entry.2 with
  | some (.expirePausedRun ..) => true
  | _ => false

/-- Nothing is saved for the thread of a run in a history, and no error of its tasks quotes an
    output when it is purged, in `c₁`. -/
def LeavesNothing (runId : Uuid) (h : ControlHistory schemas d) (c₁ : ControlConfig schemas) : Prop :=
  (∀ entry ∈ h, checkpointOf runId entry = none) ∧
    ∀ t ∈ tasksOf runId c₁.store, ∀ error, t.error = some error → error.quotesOutput = false

end Data

section Saved
variable {c₀ c : ControlConfig schemas} {h : ControlHistory schemas d} {runId : Uuid}

/-- The outputs in a thread after one more checkpoint. -/
def Checkpoint.outputs (saved : RunOutputs schemas) : Checkpoint schemas → RunOutputs schemas
  | .input => saved
  | .after state => state.outputs

/-- What a call saves for a thread. -/
lemma perform_saved (call : ControlCall schemas) (env : WorkerEnvironment schemas) (i : Nat) :
    (call.perform d env c.store).2.platform.saved runId =
      ((checkpointOf runId ((c, .act i call env) :
        ControlConfig schemas × (controlPlane schemas d).Label)).map
          (Checkpoint.outputs (c.store.platform.saved runId))).getD (c.store.platform.saved runId) := by
  cases call with
  | worker call =>
    cases call with
    | endNode node state update =>
      show (c.store.platform.endNode d.options node state update env).2.saved runId = _
      simp only [Platform.endNode, checkpointOf]
      by_cases configured : d.options.checkpointer = true
      · by_cases effect : env.takesEffect = true
        · have effect' : (env.failure.isNone || env.saves) = true := effect
          by_cases here : state.runId = runId
          · subst here
            simp [configured, effect, effect', Platform.save, Checkpoint.outputs]
          · simp [configured, effect', here, Platform.save, Platform.record, Ne.symm here]
        · have effect' : ¬ (env.failure.isNone || env.saves) = true := effect
          simp [configured, effect, effect', Platform.record]
      · simp [configured, Platform.record]
    | loadThread k =>
      simp only [checkpointOf]
      split <;> rfl
    | _ => rfl
  | enqueue | appendEvent =>
    simp only [ControlCall.perform, checkpointOf]
    split <;> rfl
  | findReminders | findExpired => rfl

/-- The outputs that a later job finds in the thread of a run are those of its checkpoints. -/
lemma saved_checkpoints (begins : Begins c₀)
    (traced : (controlPlane schemas d).Traced (controlPlane schemas d).Unguarded c₀ h c) :
    c.store.platform.saved runId =
      (checkpoints runId h).foldl Checkpoint.outputs RunOutputs.none := by
  induction traced with
  | nil => exact begins.saved runId
  | @snoc h c l c' traced guard step ih =>
    rw [checkpoints, List.filterMap_append, List.foldl_append]
    rw [checkpoints] at ih
    rw [← ih]
    cases step with
    | @act i activity call k env at_i =>
      refine (perform_saved call env i).trans ?_
      rw [List.filterMap_cons]
      cases checkpointOf runId _ <;> rfl
    | spawn _ => rfl

end Saved

section Redaction
variable {now : Date} {r : AgentRun} {tasks : List (AgentTask Output)}
  {saved : List (Checkpoint schemas)}

lemma redacted_wiped_iff {task : AgentTask Output} :
    task.wiped.redacted = task.wiped ↔
      ∀ error, task.error = some error → error.quotesOutput = false := by
  cases held : task.error with
  | none => simp [AgentTask.redacted, AgentTask.wiped, held]
  | some error => simp [AgentTask.redacted, AgentTask.wiped, held, Option.filter]

/-- Of a purged run nothing is left exactly if nothing was saved and no error quotes an output. -/
lemma redacted_purged_iff :
    RunData.Redacted ⟨some { r with prompt := purgeRedactionMarker, purgedAt := some now },
        tasks.map AgentTask.wiped, saved⟩ ↔
      saved = [] ∧ ∀ t ∈ tasks, ∀ error, t.error = some error → error.quotesOutput = false := by
  simp only [RunData.Redacted, RunData.redact, Option.map_some, RunData.mk.injEq, true_and,
    List.map_map, List.map_inj_left, Function.comp_apply, redacted_wiped_iff]
  rw [and_comm, eq_comm]

end Redaction

section Expiry
variable {o : Operation Output} {r r' : AgentRun} {events : List RunEventPayload}

/-- The error of a run changes with its status only, and a run that is cancelled has none afterwards
    unless it is expired. -/
lemma RunMove.error_kept (move : RunMove o r r' events) (sound : r.Sound) :
    (r'.status = r.status → r'.error = r.error) ∧
      (r'.status ≠ r.status → r'.status = .cancelled → r'.error ≠ none →
        ∃ now, o = .expirePausedRun r.id r.controlVersion now) := by
  cases move with
  | idle | worked | reminded | purged => exact ⟨fun _ => rfl, fun differs => absurd rfl differs⟩
  | claimed | asked | completed =>
    exact ⟨fun _ => rfl, fun _ cancelled => by cases cancelled⟩
  | failed _ status | enqueueFailed _ status =>
    refine ⟨fun same => ?_, fun _ cancelled => by cases cancelled⟩
    rw [status] at same
    cases same
  | expired acts status =>
    refine ⟨fun same => ?_, fun _ _ _ => ⟨_, acts⟩⟩
    rw [status] at same
    cases same
  | @acted action occurredAt patch enqueues acts resolved =>
    refine ⟨fun same => absurd same (acted_ne resolved), ?_⟩
    intro _ cancelled error
    exfalso
    cases action with
    | cancel =>
      simp only [resolveRunTransition] at resolved
      split at resolved
      · rename_i live
        cases resolved
        refine error (sound.blank ?_ ?_).1
        · rcases live with e | e | e <;> simp [e]
        · rcases live with e | e | e <;> simp [e]
      · cases resolved
    | pause | resume | approve | retry =>
      simp only [resolveRunTransition] at resolved
      split at resolved
      · cases resolved
        cases cancelled
      · cases resolved

/-- A cancelled run with an error was expired. -/
lemma expired_of_error {c₀ c : ControlConfig schemas} {h : ControlHistory schemas d} {runId : Uuid}
    (begins : Begins c₀)
    (traced : (controlPlane schemas d).Traced (controlPlane schemas d).Unguarded c₀ h c)
    (row : c.store.tables.run? runId = some r) (cancelled : r.status = .cancelled)
    (error : r.error ≠ none) : expired runId h = true := by
  induction traced generalizing r with
  | nil =>
    rw [begins.runs r (Table.lookup_mem row)] at cancelled
    cases cancelled
  | @snoc h c l c' traced guard step ih =>
    obtain ⟨r₀, row₀⟩ := run_begun begins (traced.snoc guard step).reaches row
    obtain ⟨r₁, row₁, sound⟩ := run_sound begins row₀ traced.reaches
    obtain ⟨r', events, row', -, move⟩ := step_move step row₁
    cases row.symm.trans row'
    have changes : changesStatus runId (c, l) = decide (r.status ≠ r₁.status) :=
      changesStatus_rows step row₁ row
    by_cases same : r.status = r₁.status
    · have before : r₁.error ≠ none := by
        cases move with
        | idle => exact error
        | noted => exact error
        | moved _ move => exact (move.error_kept sound).1 same ▸ error
      have earlier := ih row₁ (same ▸ cancelled) before
      rw [expired, lastStatusChange_snoc, changes, decide_eq_false (not_not.mpr same)]
      exact earlier
    · cases move with
      | idle => exact absurd rfl same
      | noted => exact absurd rfl same
      | moved op move =>
        obtain ⟨now, acts⟩ := (move.error_kept sound).2 same cancelled error
        rw [expired, lastStatusChange_snoc, changes, decide_eq_true same, if_pos rfl,
          Option.bind_some, op, acts]

end Expiry

section Frame
variable {slot : Uuid → Uuid} {s s' : RunStore Output} {k : Uuid} {r : AgentRun}

/-- The rows of a run are left alone when a row of another run is updated. -/
lemma filter_updateTask {taskId : Uuid} {data : AgentTask Output → AgentTask Output}
    (other : ∀ t ∈ s.tasks, t.id = taskId → t.runId ≠ k) (keeps : ∀ t, (data t).runId = t.runId) :
    ((s.updateTask taskId data).tasks.filter fun t => t.runId = k) =
      s.tasks.filter fun t => t.runId = k := by
  have main : ∀ tasks : List (AgentTask Output), (∀ t ∈ tasks, t.id = taskId → t.runId ≠ k) →
      ((Table.update AgentTask.id taskId (fun _ => true) data tasks).filter fun t => t.runId = k) =
        tasks.filter fun t => t.runId = k := by
    intro tasks
    induction tasks with
    | nil => exact fun _ => rfl
    | cons t tasks ih =>
      intro other
      have rest := ih fun t mem => other t (List.mem_cons_of_mem _ mem)
      simp only [Table.update, List.map_cons] at rest ⊢
      rw [List.filter_cons, List.filter_cons, rest]
      by_cases here : t.id = taskId
      · have ne := other t List.mem_cons_self here
        simp [here, keeps, ne]
      · simp [here]
  exact main s.tasks other

/-- A purge changes the tasks of its run only. -/
lemma filter_wiped {runId : Uuid} (tasks : List (AgentTask Output)) :
    ((tasks.map fun t => if t.runId = runId then t.wiped else t).filter fun t => t.runId = k) =
      if runId = k then (tasks.filter fun t => t.runId = k).map AgentTask.wiped
      else tasks.filter fun t => t.runId = k := by
  induction tasks with
  | nil => exact (ite_self _).symm
  | cons t tasks ih =>
    rw [List.map_cons, List.filter_cons, List.filter_cons, ih]
    by_cases same : runId = k
    · subst same
      by_cases here : t.runId = runId <;> simp [here, AgentTask.wiped]
    · by_cases here : t.runId = runId
      · simp [here, same, AgentTask.wiped]
      · simp [here, same]

/-- A transaction leaves the tasks of a purged run alone, if it changes tasks in the name of their own
    runs. -/
lemma transact_tasksOf {outputs : AgentOutputs Output} {o : Operation Output} {env : Environment}
    (agrees : ∀ t ∈ s.tasks, slot t.id = t.runId) (own : o.OwnTask slot) (row : s.run? k = some r)
    (cancelled : r.status = .cancelled) (purged : r.purgedAt ≠ none) :
    ((perform outputs o env s).2.tasks.filter fun t => t.runId = k) =
      s.tasks.filter fun t => t.runId = k := by
  by_cases reads : o.writesTasks = false
  · rw [perform_tasks outputs env s reads]
  obtain ⟨error, e⟩ | ⟨a, e, -⟩ := perform_cases outputs o env s
  · rw [e]
  generalize (perform outputs o env s).2 = s' at e
  -- who changes tasks holds its run, which is another one
  have elsewhere {runId : Uuid} {version : Nat}
      (active : s.owns runId (isAt .running version) = true) : runId ≠ k := by
    rintro rfl
    rw [owns_run row] at active
    rw [(isAt_iff.mp active).1] at cancelled
    cases cancelled
  have updated {runId taskId : Uuid} {version : Nat} {data : AgentTask Output → AgentTask Output}
      (active : s.owns runId (isAt .running version) = true) (mine : slot taskId = runId)
      (keeps : ∀ t, (data t).runId = t.runId) (tasks : s'.tasks = (s.updateTask taskId data).tasks) :
      (s'.tasks.filter fun t => t.runId = k) = s.tasks.filter fun t => t.runId = k := by
    rw [tasks]
    refine filter_updateTask ?_ keeps
    rintro t mem rfl
    rw [← agrees t mem, mine]
    exact elsewhere active
  have ensured {input : PrepareTaskInput} {id : Uuid} {status : AgentTaskStatus}
      {event : RunEventPayload} {result : TaskMutationResult Output}
      (e : ensureTask input id status event s = .ok (result, s')) :
      (s'.tasks.filter fun t => t.runId = k) = s.tasks.filter fun t => t.runId = k := by
    obtain ⟨-, same⟩ | ⟨active, ⟨task, -, -, same⟩ | ⟨task, -, -, place, -, -, tasks⟩⟩ :=
      ensureTask_cases e
    · rw [same]
    · rw [same]
    · have ne : task.runId ≠ k := place.1 ▸ elsewhere active
      rw [tasks, List.filter_append]
      simp [ne]
  cases o with
  | prepareTask => exact ensured e
  | skipTask => exact ensured e
  | startTask =>
    obtain ⟨-, same⟩ | ⟨active, task, -, ⟨-, -, same⟩ | ⟨-, -, tasks⟩⟩ := startTask_cases e
    · rw [same]
    · rw [same]
    · refine updated active own ?_ tasks
      exact fun _ => rfl
  | completeTask =>
    obtain ⟨-, same⟩ | ⟨active, task, -, ⟨-, same⟩ | ⟨-, tasks⟩⟩ := completeTask_tasks e
    · rw [same]
    · rw [same]
    · refine updated active own ?_ tasks
      exact fun _ => rfl
  | failTask =>
    obtain ⟨-, same⟩ | ⟨active, -, task, -, tasks⟩ := failTask_cases e
    · rw [same]
    · refine updated active own ?_ tasks
      exact fun _ => rfl
  | purgeRunData runId cancelledAt now =>
    have e : purgeRunData runId cancelledAt now s = .ok (a, s') := e
    simp only [purgeRunData] at e
    split at e
    · rename_i purgeable
      have ne : runId ≠ k := by
        rintro rfl
        rw [owns_run row] at purgeable
        exact purged (of_decide_eq_true purgeable).2
      cases e
      exact (filter_wiped s.tasks).trans (if_neg ne)
    · cases e
      rfl
  | _ => exact absurd rfl reads

/-- The transaction of a purge appends to the log of a run that is cancelled and was not purged. -/
lemma purgeRunData_appends {outputs : AgentOutputs Output} {cancelledAt : Option Date} {now : Date}
    {env : Environment}
    (appends : (perform outputs (.purgeRunData k cancelledAt now) env s).2.logs k ≠ s.logs k) :
    ∃ r, s.run? k = some r ∧ r.status = .cancelled ∧
      (perform outputs (.purgeRunData k cancelledAt now) env s).2.run? k =
        some { r with prompt := purgeRedactionMarker, purgedAt := some now } ∧
      ((perform outputs (.purgeRunData k cancelledAt now) env s).2.tasks.filter fun t => t.runId = k) =
        (s.tasks.filter fun t => t.runId = k).map AgentTask.wiped := by
  obtain ⟨error, e⟩ | ⟨b, e, -⟩ := perform_cases outputs (.purgeRunData k cancelledAt now) env s
  · rw [e] at appends
    exact absurd rfl appends
  generalize (perform outputs (.purgeRunData k cancelledAt now) env s).2 = s' at e appends ⊢
  have e : purgeRunData k cancelledAt now s = .ok (b, s') := e
  simp only [purgeRunData] at e
  split at e
  · rename_i purgeable
    cases e
    obtain ⟨r, row, test⟩ := owns_run_iff.mp purgeable
    refine ⟨r, row, (of_decide_eq_true test).1, ?_, (filter_wiped s.tasks).trans (if_pos rfl)⟩
    rw [run?_of_runs (runs_appendEvent ..)]
    refine (run?_updateRun ?_).trans ?_
    · exact fun _ same => same
    · rw [row, Option.map_some, if_pos ⟨rfl, test⟩]
  · cases e
    exact absurd rfl appends

end Frame

section Runs
variable {c₀ c c' c₁ : ControlConfig schemas} {l : (controlPlane schemas d).Label}
  {h h₁ h₂ : ControlHistory schemas d} {runId : Uuid} {r : AgentRun} {now : Date}

/-- A purged run is never changed. -/
lemma StepMove.purged {r' : AgentRun} {events : List RunEventPayload} (move : StepMove l r r' events)
    (cancelled : r.status = .cancelled) (purged : r.purgedAt ≠ none) : r' = r := by
  cases move with
  | idle => rfl
  | noted => rfl
  | moved _ move =>
    cases move with
    | idle => rfl
    | worked status | asked _ status | completed _ status | failed _ status =>
      rw [status] at cancelled
      cases cancelled
    | claimed _ _ status | enqueueFailed _ status | expired _ status | reminded _ status =>
      rw [status] at cancelled
      cases cancelled
    | purged _ _ unpurged => exact absurd unpurged purged
    | acted _ resolved =>
      rw [cancelled] at resolved
      rename_i action occurredAt patch enqueues acts
      cases action <;> cases resolved

/-- A step leaves the tasks of a purged run alone. -/
lemma step_tasksOf (begins : Begins c₀)
    (traced : (controlPlane schemas d).Traced (controlPlane schemas d).Unguarded c₀ h c)
    (step : (controlPlane schemas d).Step c l c') (row : c.store.tables.run? runId = some r)
    (cancelled : r.status = .cancelled) (purged : r.purgedAt ≠ none) :
    tasksOf runId c'.store = tasksOf runId c.store := by
  cases step with
  | spawn _ => rfl
  | @act i activity call k env at_i =>
    obtain ⟨slot, agrees, own⟩ := Traced.ownTask begins traced at_i
    cases call with
    | worker call =>
      by_cases transacts : ∃ o, call = .store o
      · obtain ⟨o, rfl⟩ := transacts
        exact transact_tasksOf agrees own row cancelled purged
      · obtain tables | ⟨o, transacts', -⟩ :=
          perform_tables d.options d.references call env c.store.platform
        · exact congrArg (fun s : RunStore Output => s.tasks.filter fun t => t.runId = runId) tables
        · exact absurd ⟨o, transacts'⟩ transacts
    | enqueue | appendEvent =>
      show tasksOf runId (ControlCall.perform d _ env c.store).2 = _
      simp only [ControlCall.perform]
      split <;> rfl
    | findReminders | findExpired => rfl

/-- The call of a purge. -/
lemma purgeOf_label (purges : purgeOf runId (c, l) = some now) :
    ∃ i cancelledAt env, l = .act i (.worker (.store (.purgeRunData runId cancelledAt now))) env ∧
      appendsTo runId (c, l) = true := by
  unfold purgeOf at purges
  split at purges
  · rename_i i k cancelledAt now' env label
    obtain rfl : l = _ := label
    split at purges
    · rename_i both
      obtain ⟨rfl, appends⟩ := both
      cases purges
      exact ⟨i, cancelledAt, env, rfl, appends⟩
    · cases purges
  · cases purges

/-- What a purge leaves of a run stays as it is. -/
lemma purged_data (begins : Begins c₀)
    (traced : (controlPlane schemas d).Traced (controlPlane schemas d).Unguarded c₀ h c)
    (split : h = h₁ ++ (c₁, l) :: h₂) (purges : purgeOf runId (c₁, l) = some now) :
    ∃ r, c₁.store.tables.run? runId = some r ∧ r.status = .cancelled ∧
      c.store.tables.run? runId =
        some { r with prompt := purgeRedactionMarker, purgedAt := some now } ∧
      tasksOf runId c.store = (tasksOf runId c₁.store).map AgentTask.wiped := by
  induction traced generalizing h₂ with
  | nil => cases h₁ <;> cases split
  | @snoc h c l' c' traced guard step ih =>
    obtain ⟨-, rfl, same⟩ | ⟨h₂, -, earlier⟩ := snoc_eq_append_cons.mp split
    · cases same
      obtain ⟨i, cancelledAt, env, rfl, appends⟩ := purgeOf_label purges
      have grows := (appendsTo_iff step).mp appends
      cases step with
      | act _ at_i => exact purgeRunData_appends grows
    · obtain ⟨r, row₁, cancelled, row, tasks⟩ := ih earlier
      obtain ⟨r', events, row', -, move⟩ := step_move step row
      have kept := move.purged cancelled (Option.some_ne_none now)
      have still := step_tasksOf begins traced step row cancelled (Option.some_ne_none now)
      exact ⟨r, row₁, cancelled, kept ▸ row', still.trans tasks⟩

/-- Before a run is purged, it was read as a candidate. -/
def purgeAccount (calls : ControlCalls schemas) : ControlCall schemas → Prop
  | .worker (.store (.purgeRunData k cancelledAt _)) =>
    ∃ cutoff limit all, ⟨.findExpired cutoff limit, .ok all⟩ ∈ calls ∧ ⟨k, cancelledAt⟩ ∈ all
  | _ => True

lemma purges_account {batchSize afterMs : Nat} :
    Accounts (purgeAccount : ControlCalls schemas → _) (fun _ => True)
      (sweepOnce batchSize afterMs (purgeExpiredRunData batchSize)) (fun _ _ => True)
      fun _ _ => True := by
  refine sweepOnce_accounts (fun _ => trivial) fun cutoff now => ?_
  refine .bind (R := fun all calls => ⟨.findExpired cutoff batchSize, .ok all⟩ ∈ calls) ?_ fun all => ?_
  · refine Accounts.call (fun _ _ => trivial) ?_ fun _ _ _ => trivial
    exact fun before all _ => List.mem_append_right _ (List.mem_singleton_self _)
  · refine (changeEach_accounts fun w mem => ?_).mono (fun _ known => known) ?_ ?_
    · refine Accounts.call (fun calls known => ⟨cutoff, batchSize, all, known, mem⟩) ?_ ?_
      · exact fun _ _ known => List.mem_append_left _ known
      · exact fun _ _ _ => trivial
    · exact fun _ _ _ => trivial
    · exact fun _ _ _ => trivial

/-- A candidate of a purge is a cancelled run with an error. -/
lemma mem_purgeCandidates {s : RunStore Output} {cutoff : Date} {limit : Nat}
    {cancelledAt : Option Date} (keyed : (s.runs.map AgentRun.id).Nodup)
    (mem : ⟨runId, cancelledAt⟩ ∈ s.purgeCandidates cutoff limit) :
    ∃ r, s.run? runId = some r ∧ r.status = .cancelled ∧ r.error ≠ none := by
  unfold RunStore.purgeCandidates at mem
  obtain ⟨r, taken, same⟩ := List.mem_map.mp mem
  have due := (List.mem_insertionSort _).mp (List.mem_of_mem_take taken)
  obtain ⟨row, test⟩ := List.mem_filter.mp due
  obtain ⟨cancelled, -, -, error⟩ := of_decide_eq_true test
  obtain ⟨error, held, -⟩ := (Option.any_eq_true _ _).mp error
  cases same
  refine ⟨r, Table.lookup_of_mem keyed row, cancelled, ?_⟩
  rw [held]
  exact Option.some_ne_none _

/-- A cancelled run stays cancelled, with its error. -/
lemma cancelled_kept
    (run : (controlPlane schemas d).Reaches (controlPlane schemas d).Unguarded c c')
    (row : c.store.tables.run? runId = some r) (cancelled : r.status = .cancelled) :
    ∃ r', c'.store.tables.run? runId = some r' ∧ r'.status = .cancelled ∧ r'.error = r.error := by
  induction run with
  | refl => exact ⟨r, row, cancelled, rfl⟩
  | tail _ st ih =>
    obtain ⟨r₁, row₁, cancelled₁, error₁⟩ := ih
    obtain ⟨l, -, step⟩ := st
    obtain ⟨r', events, row', -, move⟩ := step_move step row₁
    refine ⟨r', row', ?_⟩
    cases move with
    | idle => exact ⟨cancelled₁, error₁⟩
    | noted => exact ⟨cancelled₁, error₁⟩
    | moved _ move =>
      cases move with
      | idle | worked | purged => exact ⟨cancelled₁, error₁⟩
      | asked _ status | completed _ status | failed _ status =>
        rw [status] at cancelled₁
        cases cancelled₁
      | claimed _ _ status | enqueueFailed _ status | expired _ status | reminded _ status =>
        rw [status] at cancelled₁
        cases cancelled₁
      | acted _ resolved =>
        rw [cancelled₁] at resolved
        rename_i action occurredAt patch enqueues acts
        cases action <;> cases resolved

/-- Only runs are purged that were cancelled by the expiry sweep. -/
lemma purged_expired (begins : Begins c₀)
    (traced : (controlPlane schemas d).Traced (controlPlane schemas d).Unguarded c₀ h c)
    (split : h = h₁ ++ (c₁, l) :: h₂) (purges : purgeOf runId (c₁, l) = some now) :
    expired runId h₁ = true := by
  obtain ⟨i, cancelledAt, env, rfl, -⟩ := purgeOf_label purges
  have before := (traced.split split).1
  obtain ⟨activity, k, at_i⟩ := traced.pending split
  have may : activity.mayCall _ := Traced.mayCall begins before at_i
  cases activity with
  | purges batchSize afterMs =>
    have account : purgeAccount (System.calls i h₁) _ :=
      before.accounted begins.threads at_i (purges_account [] trivial)
    obtain ⟨cutoff, limit, all, did, mem⟩ := account
    obtain ⟨g₁, read, env', g₂, earlier, answer⟩ := System.mem_calls did
    have answered : env'.answer (read.store.tables.purgeCandidates cutoff limit) = .ok all := answer
    obtain ⟨read_traced, -, read', step, run⟩ := before.split earlier
    have keyed : (read.store.tables.runs.map AgentRun.id).Nodup := by
      rw [runs_kept read_traced.reaches]
      exact begins.keyed
    obtain ⟨r, row, cancelled, error⟩ := mem_purgeCandidates keyed (answer_ok answered ▸ mem)
    have later : (controlPlane schemas d).Reaches (controlPlane schemas d).Unguarded read c₁ :=
      run.unguarded.head ⟨_, trivial, step⟩
    obtain ⟨r', row', cancelled', same⟩ := cancelled_kept later row cancelled
    exact expired_of_error begins before row' cancelled' (same ▸ error)
  | delivery | record => cases may
  | _ => exact may.elim

end Runs

section Scenario

/-- The run is started, Sophia's output is stored, and the user pauses the run, which expires and is
    purged; a delivery makes `calls` calls until Sophia's node has ended. -/
def expiresAndPurges (calls : Nat) : List (plainPlane true 0 d).Move :=
  .spawn (.start 1) :: proceeds 0 1 0 ++
    .spawn (.delivery ⟨1, .start, 0, none, none⟩ ⟨1, 1⟩) :: proceeds 1 calls 11 ++
    acts 2 3 ⟨.pause, none, none, none, none⟩ ++
    .spawn (.expiry 5 5) :: List.replicate 3 (.act 3 (later 10)) ++
    .spawn (.purges 5 5) :: List.replicate 3 (.act 4 (later 20))

/-- A purge, found in a history. -/
lemma purge_found {h : ControlHistory (plainSchemas true 0) d}
    (found : (h.any fun entry => purgeOf 1 entry = some 20) = true) :
    ∃ h₁ entry h₂, h = h₁ ++ entry :: h₂ ∧ purgeOf 1 entry = some 20 := by
  obtain ⟨entry, mem, purges⟩ := List.any_eq_true.mp found
  obtain ⟨h₁, h₂, split⟩ := List.append_of_mem mem
  exact ⟨h₁, entry, h₂, split, of_decide_eq_true purges⟩

end Scenario

end AtomsPlatform.Run
