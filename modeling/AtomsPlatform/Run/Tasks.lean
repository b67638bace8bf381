import AtomsPlatform.Run.Rows
import AtomsPlatform.Run.Platform
import Mathlib.Data.List.Nodup

/-!
# What one operation does to the tasks

The tasks change in one of six ways (`TaskStep`), whatever the environment decides. A task keeps its
place: its identifier, its run and its agent. What the worker is answered about a task is the row as it
stands after the call.
-/

namespace AtomsPlatform.Run
variable {Output : Type}

/-- A task as `startTask` writes it. -/
def AgentTask.started (now : Date) (task : AgentTask Output) : AgentTask Output :=
  { task with
    status := .running
    attempt := task.attempt + 1
    startedAt := some now
    completedAt := none
    error := none }

/-- A task as `completeTask` writes it. -/
def AgentTask.completed (output : Output) (now : Date) (task : AgentTask Output) :
    AgentTask Output :=
  { task with status := .completed, output := some output, error := none, completedAt := some now }

/-- A task as `failTask` writes it. -/
def AgentTask.failed (error : RunError) (now : Date) (task : AgentTask Output) : AgentTask Output :=
  { task with status := .failed, error := some error, completedAt := some now }

/-- A task as a purge leaves it. -/
def AgentTask.wiped (task : AgentTask Output) : AgentTask Output :=
  { task with input := none, output := none }

/-- The tasks are told apart by their identifiers, and a run has one task for each agent, with the
    agent's ordinal. -/
structure TasksWellFormed (tasks : List (AgentTask Output)) : Prop where
  ids : (tasks.map AgentTask.id).Nodup
  slots : (tasks.map fun t => (t.runId, t.agentName)).Nodup
  ordinals : ∀ t ∈ tasks, t.ordinal = taskOrdinal t.agentName

/-- What an operation can do to the tasks. -/
inductive TaskStep (o : Operation Output) (s s' : RunStore Output) : Prop where
  | same :
    s'.tasks = s.tasks →
    TaskStep o s s'
  | created {input task} :
    o = .prepareTask input ∨ o = .skipTask input →
    s.taskAt input.runId input.ordinal = none →
    (∀ t ∈ s.tasks, t.id ≠ task.id) →
    task.runId = input.runId ∧ task.agentName = input.agentName ∧ task.ordinal = input.ordinal →
    task.status ≠ .completed ∧ task.output = none →
    s'.tasks = s.tasks ++ [task] →
    TaskStep o s s'
  | started {runId version taskId now task} :
    o = .startTask runId version taskId now →
    s.task? taskId = some task →
    task.status ≠ .completed →
    s'.tasks = (s.updateTask taskId (AgentTask.started now)).tasks →
    TaskStep o s s'
  | completed {input task} :
    o = .completeTask input →
    s.task? input.taskId = some task →
    task.status ≠ .completed →
    s'.tasks = (s.updateTask input.taskId (AgentTask.completed input.output input.now)).tasks →
    TaskStep o s s'
  | failed {runId version taskId error now task} :
    o = .failTask runId version taskId error now →
    s.owns runId (isAt .running version) = true →
    s.task? taskId = some task →
    s'.tasks = (s.updateTask taskId (AgentTask.failed error now)).tasks →
    TaskStep o s s'
  | purged {runId cancelledAt now} :
    o = .purgeRunData runId cancelledAt now →
    s'.purged runId = true →
    s'.tasks = s.tasks.map (fun t => if t.runId = runId then t.wiped else t) →
    TaskStep o s s'

section Operations
variable {s s' : RunStore Output} {runId taskId : Uuid} {version : Nat} {now : Date}

/-- The two ways a task is looked up or created: there is one for the ordinal, or a new one is
    stored. -/
lemma ensureTask_cases {input : PrepareTaskInput} {id : Uuid} {status : AgentTaskStatus}
    {event : RunEventPayload} {result : TaskMutationResult Output}
    (e : ensureTask input id status event s = .ok (result, s')) :
    (result = .stopped ∧ s'.tasks = s.tasks) ∨
    s.owns input.runId (isAt .running input.expectedControlVersion) = true ∧
      ((∃ task, s.taskAt input.runId input.ordinal = some task ∧
          result = .ok (toWorkerTaskRecord task) ∧ s'.tasks = s.tasks) ∨
        ∃ task : AgentTask Output, s.taskAt input.runId input.ordinal = none ∧
          (∀ t ∈ s.tasks, t.id ≠ task.id) ∧
          (task.runId = input.runId ∧ task.agentName = input.agentName ∧
            task.ordinal = input.ordinal) ∧
          (task.status = status ∧ task.output = none) ∧
          result = .ok (toWorkerTaskRecord task) ∧ s'.tasks = s.tasks ++ [task]) := by
  obtain ⟨-, rfl, rfl⟩ | ⟨active, body⟩ := whileActive_ok e
  · exact .inl ⟨rfl, rfl⟩
  refine .inr ⟨active, ?_⟩
  split at body
  · rename_i task existing
    cases body
    exact .inl ⟨task, existing, rfl, rfl⟩
  · rename_i absent
    split at body
    · cases body
    · rename_i fresh
      cases body
      refine .inr ⟨_, absent, ?_, ⟨rfl, rfl, rfl⟩, ⟨rfl, rfl⟩, rfl, rfl⟩
      intro t mem same
      apply fresh
      simp only [List.any_eq_true, decide_eq_true_eq]
      exact ⟨t, mem, same⟩

lemma startTask_cases {result : TaskMutationResult Output}
    (e : startTask runId version taskId now s = .ok (result, s')) :
    (result = .stopped ∧ s'.tasks = s.tasks) ∨
    s.owns runId (isAt .running version) = true ∧ ∃ task, s.task? taskId = some task ∧
      ((task.status = .completed ∧ result = .ok (toWorkerTaskRecord task) ∧ s'.tasks = s.tasks) ∨
        task.status ≠ .completed ∧ result = .ok (toWorkerTaskRecord (task.started now)) ∧
          s'.tasks = (s.updateTask taskId (AgentTask.started now)).tasks) := by
  obtain ⟨-, rfl, rfl⟩ | ⟨active, body⟩ := whileActive_ok e
  · exact .inl ⟨rfl, rfl⟩
  refine .inr ⟨active, ?_⟩
  split at body
  · cases body
  rename_i task row
  refine ⟨task, row, ?_⟩
  split at body
  · rename_i done
    cases body
    exact .inl ⟨done, rfl, rfl⟩
  · rename_i open_
    cases body
    exact .inr ⟨open_, rfl, rfl⟩

lemma failTask_cases {error : RunError} {failed : Bool}
    (e : failTask runId version taskId error now s = .ok (failed, s')) :
    (failed = false ∧ s'.tasks = s.tasks) ∨
    s.owns runId (isAt .running version) = true ∧ failed = true ∧
      ∃ task, s.task? taskId = some task ∧
        s'.tasks = (s.updateTask taskId (AgentTask.failed error now)).tasks := by
  obtain ⟨-, rfl, rfl⟩ | ⟨active, body⟩ := whileActive_ok e
  · exact .inl ⟨rfl, rfl⟩
  refine .inr ⟨active, ?_⟩
  split at body
  · cases body
  · rename_i task row
    cases body
    exact ⟨rfl, task, row, rfl⟩

/-- What `completeTask` does to the tasks and answers. -/
lemma completeTask_tasks {outputs : AgentOutputs Output} {input : CompleteTaskInput Output}
    {artifactId : Uuid} {result : PatchResult (WorkerTaskRecord Output)}
    (e : completeTask outputs input artifactId s = .ok (result, s')) :
    ((∀ record, result ≠ .ok record) ∧ s'.tasks = s.tasks) ∨
    s.owns input.runId (isAt .running input.expectedControlVersion) = true ∧
      ∃ task, s.task? input.taskId = some task ∧
        ((task.status = .completed ∧ s'.tasks = s.tasks) ∨
          task.status ≠ .completed ∧ s'.tasks =
            (s.updateTask input.taskId (AgentTask.completed input.output input.now)).tasks) := by
  obtain ⟨-, rfl, rfl⟩ | ⟨active, -⟩ := whileActive_ok e
  · exact .inl ⟨by simp, rfl⟩
  obtain ⟨inactive, -⟩ | ⟨s₀, task, rfl, row, outcome⟩ := completeTask_cases e
  · rw [inactive] at active
    cases active
  obtain ⟨done, -, rfl⟩ | ⟨open_, run, -, outcome⟩ := outcome
  · exact .inr ⟨active, task, row, .inl ⟨done, rfl⟩⟩
  obtain ⟨conflict, -, rfl, rfl⟩ | ⟨plans, paths, s₁, -, written, finished⟩ := outcome
  · exact .inl ⟨by simp, rfl⟩
  · obtain ⟨files, rfl⟩ := writePlans_files written
    exact .inr ⟨active, task, row, .inr ⟨open_, (finishTask_ok finished).2.2⟩⟩

lemma purgeRunData_cases {cancelledAt : Option Date} {purged : Bool}
    (e : purgeRunData runId cancelledAt now s = .ok (purged, s')) :
    s'.tasks = s.tasks ∨ s'.purged runId = true ∧
      s'.tasks = s.tasks.map fun t => if t.runId = runId then t.wiped else t := by
  simp only [purgeRunData] at e
  split at e
  · rename_i purgeable
    obtain ⟨r, row, purgeable⟩ := owns_run_iff.mp purgeable
    cases e
    refine .inr ⟨?_, rfl⟩
    apply owns_run_iff.mpr
    refine ⟨{ r with prompt := purgeRedactionMarker, purgedAt := some now }, ?_, rfl⟩
    rw [run?_of_runs (runs_appendEvent ..)]
    refine (run?_updateRun ?_).trans ?_
    · exact fun _ same => same
    · rw [row]
      simp only [Option.map_some, true_and, purgeable, if_true]
  · cases e
    exact .inl rfl

end Operations

/-- Whatever an operation does to the tasks is one of the six changes. -/
lemma perform_taskStep (outputs : AgentOutputs Output) (o : Operation Output) (env : Environment)
    (s : RunStore Output) : TaskStep o s (perform outputs o env s).2 := by
  by_cases reads : o.writesTasks = false
  · exact .same (perform_tasks outputs env s reads)
  obtain ⟨error, e⟩ | ⟨r, e, -⟩ := perform_cases outputs o env s
  · rw [e]
    exact .same rfl
  generalize (perform outputs o env s).2 = s' at e
  have ensured {input : PrepareTaskInput} {id : Uuid} {status : AgentTaskStatus}
      {event : RunEventPayload} {result : TaskMutationResult Output} (open_ : status ≠ .completed)
      (made : o = .prepareTask input ∨ o = .skipTask input)
      (e : ensureTask input id status event s = .ok (result, s')) : TaskStep o s s' := by
    obtain ⟨-, same⟩ | ⟨-, ⟨task, -, -, same⟩ | ⟨task, absent, fresh, place, blank, -, tasks⟩⟩ :=
      ensureTask_cases e
    · exact .same same
    · exact .same same
    · exact .created made absent fresh place ⟨blank.1 ▸ open_, blank.2⟩ tasks
  cases o with
  | prepareTask => exact ensured (by decide) (.inl rfl) e
  | skipTask => exact ensured (by decide) (.inr rfl) e
  | startTask =>
    obtain ⟨-, same⟩ | ⟨-, task, row, ⟨-, -, same⟩ | ⟨open_, -, tasks⟩⟩ := startTask_cases e
    · exact .same same
    · exact .same same
    · exact .started rfl row open_ tasks
  | completeTask =>
    obtain ⟨-, same⟩ | ⟨-, task, row, ⟨-, same⟩ | ⟨open_, tasks⟩⟩ := completeTask_tasks e
    · exact .same same
    · exact .same same
    · exact .completed rfl row open_ tasks
  | failTask =>
    obtain ⟨-, same⟩ | ⟨active, -, task, row, tasks⟩ := failTask_cases e
    · exact .same same
    · exact .failed rfl active row tasks
  | purgeRunData =>
    obtain same | ⟨purged, tasks⟩ := purgeRunData_cases e
    · exact .same same
    · exact .purged rfl purged tasks
  | _ => exact absurd rfl reads

section Places
variable {o : Operation Output} {s s' : RunStore Output} {tasks tasks' : List (AgentTask Output)}

/-- What never changes of a task. -/
def AgentTask.place (task : AgentTask Output) : Uuid × Uuid × AgentName × Nat :=
  (task.id, task.runId, task.agentName, task.ordinal)

lemma places_updateTask {taskId : Uuid} {data : AgentTask Output → AgentTask Output}
    (keeps : ∀ t, (data t).place = t.place) :
    (s.updateTask taskId data).tasks.map AgentTask.place = s.tasks.map AgentTask.place := by
  simp only [RunStore.updateTask, Table.update, List.map_map]
  refine List.map_congr_left ?_
  intro t _
  simp only [Function.comp_apply]
  split
  · exact keeps t
  · rfl

/-- A step keeps every place, or creates one task. -/
lemma TaskStep.places (step : TaskStep o s s') :
    s'.tasks.map AgentTask.place = s.tasks.map AgentTask.place ∨
    ∃ input task, (o = .prepareTask input ∨ o = .skipTask input) ∧
      s.taskAt input.runId input.ordinal = none ∧ (∀ t ∈ s.tasks, t.id ≠ task.id) ∧
      (task.runId = input.runId ∧ task.agentName = input.agentName ∧
        task.ordinal = input.ordinal) ∧ s'.tasks = s.tasks ++ [task] := by
  cases step with
  | same tasks => exact .inl (congrArg _ tasks)
  | created made absent fresh place _ tasks =>
    exact .inr ⟨_, _, made, absent, fresh, place, tasks⟩
  | started _ _ _ tasks =>
    rw [tasks]
    exact .inl (places_updateTask fun _ => rfl)
  | completed _ _ _ tasks =>
    rw [tasks]
    exact .inl (places_updateTask fun _ => rfl)
  | failed _ _ _ tasks =>
    rw [tasks]
    exact .inl (places_updateTask fun _ => rfl)
  | purged _ _ tasks =>
    refine .inl ?_
    rw [tasks, List.map_map]
    refine List.map_congr_left ?_
    intro t _
    simp only [Function.comp_apply]
    split <;> rfl

/-- Whether tasks are well-formed depends on their places only. -/
lemma TasksWellFormed.of_places (wf : TasksWellFormed tasks)
    (same : tasks'.map AgentTask.place = tasks.map AgentTask.place) : TasksWellFormed tasks' := by
  refine ⟨?_, ?_, ?_⟩
  · have ids (l : List (AgentTask Output)) :
        l.map AgentTask.id = (l.map AgentTask.place).map Prod.fst := by
      rw [List.map_map]
      rfl
    rw [ids, same, ← ids]
    exact wf.ids
  · have slots (l : List (AgentTask Output)) : (l.map fun t => (t.runId, t.agentName)) =
        (l.map AgentTask.place).map fun place => (place.2.1, place.2.2.1) := by
      rw [List.map_map]
      rfl
    rw [slots, same, ← slots]
    exact wf.slots
  · intro t' mem
    have place : t'.place ∈ tasks.map AgentTask.place := same ▸ List.mem_map_of_mem mem
    obtain ⟨t, mem, e⟩ := List.mem_map.mp place
    have agent : t.agentName = t'.agentName := congrArg (fun place => place.2.2.1) e
    have ordinal : t.ordinal = t'.ordinal := congrArg (fun place => place.2.2.2) e
    rw [← agent, ← ordinal]
    exact wf.ordinals t mem

/-- The task of a run and an agent is found under the agent's ordinal. -/
lemma TasksWellFormed.taskAt_iff (wf : TasksWellFormed s.tasks) {runId : Uuid} {agent : AgentName}
    {t : AgentTask Output} :
    s.taskAt runId (taskOrdinal agent) = some t ↔
      t ∈ s.tasks ∧ t.runId = runId ∧ t.agentName = agent := by
  have found {t : AgentTask Output} (e : s.taskAt runId (taskOrdinal agent) = some t) :
      t ∈ s.tasks ∧ t.runId = runId ∧ t.agentName = agent := by
    have mem := List.mem_of_find?_eq_some e
    have here := List.find?_some e
    simp only [decide_eq_true_eq] at here
    exact ⟨mem, here.1, taskOrdinal_injective ((wf.ordinals t mem).symm.trans here.2)⟩
  refine ⟨found, ?_⟩
  rintro ⟨mem, rfl, rfl⟩
  cases e : s.taskAt t.runId (taskOrdinal t.agentName) with
  | none =>
    have missed := List.find?_eq_none.mp e t mem
    simp only [decide_eq_true_eq, not_and, true_implies] at missed
    exact absurd (wf.ordinals t mem) missed
  | some t' =>
    obtain ⟨mem', run, agent⟩ := found e
    have same : t' = t := List.inj_on_of_nodup_map wf.slots mem' mem (by rw [run, agent])
    rw [same]

lemma TasksWellFormed.task?_iff (wf : TasksWellFormed s.tasks) {id : Uuid} {t : AgentTask Output} :
    s.task? id = some t ↔ t ∈ s.tasks ∧ t.id = id := by
  constructor
  · intro e
    exact ⟨Table.lookup_mem e, Table.lookup_key e⟩
  · rintro ⟨mem, rfl⟩
    exact Table.lookup_of_mem wf.ids mem

/-- Tasks stay well-formed when the worker creates them with the ordinal of their agent. -/
lemma TaskStep.wellFormed (step : TaskStep o s s') (wf : TasksWellFormed s.tasks)
    (ordinal : ∀ input, o = .prepareTask input ∨ o = .skipTask input →
      input.ordinal = taskOrdinal input.agentName) : TasksWellFormed s'.tasks := by
  obtain same | ⟨input, task, made, absent, fresh, ⟨run, agent, ord⟩, tasks⟩ := step.places
  · exact wf.of_places same
  rw [tasks]
  rw [ordinal input made] at absent ord
  refine ⟨?_, ?_, ?_⟩
  · rw [List.map_append, List.nodup_append]
    refine ⟨wf.ids, by simp, ?_⟩
    intro id mem id' mem'
    obtain ⟨t, stored, rfl⟩ := List.mem_map.mp mem
    rw [List.map_singleton, List.mem_singleton] at mem'
    rw [mem']
    exact fresh t stored
  · rw [List.map_append, List.nodup_append]
    refine ⟨wf.slots, by simp, ?_⟩
    intro slot mem slot' mem'
    obtain ⟨t, stored, rfl⟩ := List.mem_map.mp mem
    rw [List.map_singleton, List.mem_singleton] at mem'
    rw [mem']
    intro same
    have taken := wf.taskAt_iff.mpr
      ⟨stored, (congrArg Prod.fst same).trans run, (congrArg Prod.snd same).trans agent⟩
    rw [absent] at taken
    cases taken
  · intro t mem
    obtain mem | mem := List.mem_append.mp mem
    · exact wf.ordinals t mem
    · rw [List.mem_singleton.mp mem, ord, agent]

end Places

section Persistence
variable {o : Operation Output} {s s' : RunStore Output} {t : AgentTask Output}

/-- A purge is never undone. -/
lemma perform_purged (outputs : AgentOutputs Output) (env : Environment) {runId : Uuid}
    (purged : s.purged runId = true) : (perform outputs o env s).2.purged runId = true := by
  obtain ⟨r, row, marked⟩ := owns_run_iff.mp purged
  obtain ⟨r', row', -, kept | ⟨-, -, marked'⟩⟩ := perform_runStep outputs o env s runId r row
  · exact owns_run_iff.mpr ⟨r', row', by rw [kept, marked]⟩
  · exact owns_run_iff.mpr ⟨r', row', marked'⟩

/-- A completed task that no `failTask` hits stays as it is, until it is purged. -/
lemma TaskStep.keeps_completed (step : TaskStep o s s') (wf : TasksWellFormed s.tasks)
    (mem : t ∈ s.tasks) (done : t.status = .completed)
    (unharmed : ∀ {runId version taskId error now}, o = .failTask runId version taskId error now →
      s.owns runId (isAt .running version) = true → t.id ≠ taskId) :
    t ∈ s'.tasks ∨ t.wiped ∈ s'.tasks ∧ s'.purged t.runId = true := by
  have other {taskId : Uuid} {task : AgentTask Output} (row : s.task? taskId = some task)
      (open_ : task.status ≠ .completed) : t.id ≠ taskId := by
    intro same
    cases row.symm.trans (wf.task?_iff.mpr ⟨mem, same⟩)
    exact open_ done
  cases step with
  | same tasks => exact .inl (tasks ▸ mem)
  | created _ _ _ _ _ tasks =>
    rw [tasks]
    exact .inl (List.mem_append_left _ mem)
  | started _ row open_ tasks =>
    rw [tasks]
    exact .inl (Table.mem_update_ne mem (other row open_))
  | completed _ row open_ tasks =>
    rw [tasks]
    exact .inl (Table.mem_update_ne mem (other row open_))
  | failed made active _ tasks =>
    rw [tasks]
    exact .inl (Table.mem_update_ne mem (unharmed made active))
  | @purged runId _ _ _ marked tasks =>
    rw [tasks]
    by_cases here : t.runId = runId
    · refine .inr ⟨List.mem_map.mpr ⟨t, mem, if_pos here⟩, here ▸ marked⟩
    · exact .inl (List.mem_map.mpr ⟨t, mem, if_neg here⟩)

/-- The task of an agent is completed, and its stored output is the given one unless it was
    purged. -/
def Persisted (s : RunStore Output) (runId : Uuid) (agent : AgentName) (output : Output) : Prop :=
  ∃ t ∈ s.tasks, t.runId = runId ∧ t.agentName = agent ∧ t.status = .completed ∧
    (t.output = some output ∨ t.output = none ∧ s.purged runId = true)

/-- What is persisted stays persisted when no `failTask` hits its task. -/
lemma Persisted.perform {runId : Uuid} {agent : AgentName} {output : Output}
    (persisted : Persisted s runId agent output) (wf : TasksWellFormed s.tasks)
    (outputs : AgentOutputs Output) (env : Environment)
    (unharmed : ∀ {run version taskId error now}, o = .failTask run version taskId error now →
      s.owns run (isAt .running version) = true → ∀ t, s.task? taskId = some t →
        t.status = .completed → t.runId = runId → t.agentName ≠ agent) :
    Persisted (perform outputs o env s).2 runId agent output := by
  obtain ⟨t, mem, run, name, done, stored⟩ := persisted
  have untouched {run version taskId error now} (made : o = .failTask run version taskId error now)
      (active : s.owns run (isAt .running version) = true) : t.id ≠ taskId := by
    intro same
    have row := wf.task?_iff.mpr ⟨mem, same⟩
    exact unharmed made active t row done (by assumption) name
  obtain mem' | ⟨mem', purged⟩ :=
    (perform_taskStep outputs o env s).keeps_completed wf mem done untouched
  · refine ⟨t, mem', run, name, done, ?_⟩
    obtain stored | ⟨wiped, purged⟩ := stored
    · exact .inl stored
    · exact .inr ⟨wiped, perform_purged outputs env purged⟩
  · exact ⟨t.wiped, mem', run, name, done, .inr ⟨rfl, run ▸ purged⟩⟩

end Persistence

end AtomsPlatform.Run
