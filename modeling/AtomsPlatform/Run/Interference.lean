import AtomsPlatform.Run.Fencing
import AtomsPlatform.Run.TaskSafety

/-!
# What others do to a run

While a job works on its run, others may stop the run, append to its log or work on other runs. What they
leave alone is collected in `Undisturbed`: as long as the run is RUNNING under its control version, its
tasks are as they were, and what was persisted and saved stays. A step that is `Aside` leaves a run
undisturbed.
-/

namespace AtomsPlatform.Run
open Interleaving
variable {Output : Type} {schemas : AgentOutputSchemas Output}

/-- The last node that returned in a job of the run. -/
def Platform.lastEnded (s : Platform schemas) (runId : Uuid) :
    Option (RunNode × RunState schemas × RunUpdate schemas) :=
  s.history.reverse.findSome? fun
    | .ended node state update => if state.runId = runId then some (node, state, update) else none
    | _ => none

/-- The task that an operation changes. -/
def Operation.taskId? : Operation Output → Option Uuid
  | .startTask _ _ taskId _ | .failTask _ _ taskId _ _ => some taskId
  | .completeTask input => some input.taskId
  | _ => none

/-- Only cancelled runs are purged. -/
def PurgesCancelled (tables : RunStore Output) : Prop :=
  ∀ runId, tables.purged runId = true → tables.owns runId (fun r => r.status = .cancelled) = true

/-- What a job relies on while others act. -/
structure Undisturbed (runId : Uuid) (s s' : Platform schemas) : Prop where
  running : ∀ version, s'.tables.owns runId (isAt .running version) = true →
    s.tables.owns runId (isAt .running version) = true ∧
      ∀ t ∈ s.tables.tasks, t.runId = runId → t ∈ s'.tables.tasks
  places : ∀ t ∈ s.tables.tasks, ∃ t' ∈ s'.tables.tasks, t'.place = t.place
  persisted : ∀ agent output, Persisted s.tables runId agent output →
    Persisted s'.tables runId agent output
  saved : s'.saved runId = s.saved runId
  ended : s'.lastEnded runId = s.lastEnded runId

/-- The operation is not part of a job of the run: it claims and works on other runs. -/
def Operation.Aside (runId : Uuid) (tables : RunStore Output) : Operation Output → Prop
  | .claimRun job _ => job.runId ≠ runId
  | .startTask _ _ taskId _ | .failTask _ _ taskId _ _ =>
    ∀ t ∈ tables.tasks, t.id = taskId → t.runId ≠ runId
  | .completeTask input => ∀ t ∈ tables.tasks, t.id = input.taskId → t.runId ≠ runId
  | _ => True

/-- The call is not part of a job of the run. -/
def WorkerCall.Aside (runId : Uuid) (s : Platform schemas) : WorkerCall schemas → Prop
  | .store o => o.Aside runId s.tables
  | .endNode _ state _ => state.runId ≠ runId
  | _ => True

namespace Undisturbed
variable {runId : Uuid} {s s' s'' : Platform schemas}

lemma refl : Undisturbed runId s s where
  running _ running := ⟨running, fun _ mem _ => mem⟩
  places t mem := ⟨t, mem, rfl⟩
  persisted _ _ persisted := persisted
  saved := rfl
  ended := rfl

lemma trans (first : Undisturbed runId s s') (second : Undisturbed runId s' s'') :
    Undisturbed runId s s'' where
  running version running := by
    obtain ⟨running', kept'⟩ := second.running version running
    obtain ⟨running, kept⟩ := first.running version running'
    exact ⟨running, fun t mem here => kept' t (kept t mem here) here⟩
  places t mem := by
    obtain ⟨t', mem', place'⟩ := first.places t mem
    obtain ⟨t'', mem'', place''⟩ := second.places t' mem'
    exact ⟨t'', mem'', place''.trans place'⟩
  persisted agent output persisted :=
    second.persisted agent output (first.persisted agent output persisted)
  saved := second.saved.trans first.saved
  ended := second.ended.trans first.ended

end Undisturbed

section Tables
variable {o : Operation Output} {env : Environment} {s s' : RunStore Output} {runId : Uuid}
  {version : Nat}

/-- A run that is there after an operation was there before. -/
lemma RunMoves.back (moves : RunMoves o runId s s') {r' : AgentRun}
    (row' : s'.run? runId = some r') :
    ∃ r events, s.run? runId = some r ∧ RunMove o r r' events := by
  have mem : r'.id ∈ s.runs.map AgentRun.id := by
    rw [← moves.keys]
    exact List.mem_map_of_mem (Table.lookup_mem row')
  obtain ⟨r₀, mem₀, same⟩ := List.mem_map.mp mem
  rw [run?_id row'] at same
  cases row : s.run? runId with
  | none =>
    have missed := List.find?_eq_none.mp row r₀ mem₀
    simp only [decide_eq_true_eq] at missed
    exact absurd same missed
  | some r =>
    obtain ⟨r₁, events, row₁, -, move⟩ := moves.row r row
    cases row₁.symm.trans row'
    exact ⟨r, events, rfl, move⟩

/-- A run that is RUNNING after an operation was RUNNING before, under the same control version, unless
    a job claimed it. -/
lemma running_back (outputs : AgentOutputs Output)
    (unclaimed : ∀ job now, o = .claimRun job now → job.runId ≠ runId)
    (running : (perform outputs o env s).2.owns runId (isAt .running version) = true) :
    s.owns runId (isAt .running version) = true := by
  obtain ⟨r', row', at_⟩ := owns_run_iff.mp running
  obtain ⟨r, events, row, move⟩ := (perform_runMoves outputs o env s runId).back row'
  obtain ⟨status, controlVersion⟩ := isAt_iff.mp at_
  refine owns_run_iff.mpr ⟨r, row, ?_⟩
  cases move with
  | idle | worked | reminded | purged => exact at_
  | claimed claims here => exact absurd (here.trans (run?_id row)) (unclaimed _ _ claims)
  | asked | completed | failed | enqueueFailed | expired => cases status
  | acted _ resolved => exact absurd status (resolveRunTransition_status resolved r).1

/-- Only cancelled runs are purged, and they stay cancelled. -/
lemma PurgesCancelled.perform (cancels : PurgesCancelled s) (outputs : AgentOutputs Output)
    (o : Operation Output) (env : Environment) :
    PurgesCancelled (perform outputs o env s).2 := by
  intro runId purged
  obtain ⟨r', row', marked⟩ := owns_run_iff.mp purged
  obtain ⟨r, events, row, move⟩ := (perform_runMoves outputs o env s runId).back row'
  obtain ⟨change, kept | ⟨-, cancelled, -⟩⟩ := move.change
  · have before : s.purged runId = true := owns_run_iff.mpr ⟨r, row, by rw [← kept, marked]⟩
    obtain ⟨r₁, row₁, cancelled⟩ := owns_run_iff.mp (cancels runId before)
    cases row.symm.trans row₁
    have stays := change.absorbed (.inr (of_decide_eq_true cancelled))
    refine owns_run_iff.mpr ⟨r', row', decide_eq_true ?_⟩
    exact stays.trans (of_decide_eq_true cancelled)
  · exact owns_run_iff.mpr ⟨r', row', decide_eq_true cancelled⟩

/-- A run that is RUNNING was not purged. -/
lemma PurgesCancelled.unpurged (cancels : PurgesCancelled s)
    (running : s.owns runId (isAt .running version) = true) : s.purged runId = false := by
  by_contra purged
  obtain ⟨r, row, at_⟩ := owns_run_iff.mp running
  obtain ⟨r', row', cancelled⟩ := owns_run_iff.mp (cancels runId (eq_true_of_ne_false purged))
  cases row.symm.trans row'
  rw [decide_eq_true_eq, (isAt_iff.mp at_).1] at cancelled
  cases cancelled

/-- A step keeps the row of a task that it does not change, unless its run is purged. -/
lemma TaskStep.row_kept (step : TaskStep o s s') {t : AgentTask Output} (mem : t ∈ s.tasks)
    (other : o.taskId? ≠ some t.id) (unpurged : s'.purged t.runId = false) : t ∈ s'.tasks := by
  have ne {taskId : Uuid} (changes : o.taskId? = some taskId) : t.id ≠ taskId := by
    rintro rfl
    exact other changes
  cases step with
  | same tasks =>
    rw [tasks]
    exact mem
  | created _ _ _ _ _ tasks =>
    rw [tasks]
    exact List.mem_append_left _ mem
  | started made _ _ tasks | completed made _ _ tasks | failed made _ _ tasks =>
    rw [tasks]
    exact Table.mem_update_ne mem (ne (made ▸ rfl))
  | @purged purgedId _ _ _ marked tasks =>
    rw [tasks]
    have here : t.runId ≠ purgedId := by
      rintro rfl
      rw [marked] at unpurged
      cases unpurged
    exact List.mem_map.mpr ⟨t, mem, if_neg here⟩

/-- A step keeps every task in its place. -/
lemma TaskStep.place_kept (step : TaskStep o s s') {t : AgentTask Output} (mem : t ∈ s.tasks) :
    ∃ t' ∈ s'.tasks, t'.place = t.place := by
  obtain same | ⟨_, task, _, _, _, _, tasks⟩ := step.places
  · have place : t.place ∈ s'.tasks.map AgentTask.place := by
      rw [same]
      exact List.mem_map_of_mem mem
    obtain ⟨t', mem', e⟩ := List.mem_map.mp place
    exact ⟨t', mem', e⟩
  · refine ⟨t, ?_, rfl⟩
    rw [tasks]
    exact List.mem_append_left _ mem

end Tables

section Calls
variable {options : RunProcessorOptions} {references : Uuid → List AgentReferenceAttachment}
  {runId : Uuid} {s : Platform schemas} {c : WorkerCall schemas} {env : WorkerEnvironment schemas}

/-- The last node of a run after other things happened. -/
lemma Platform.lastEnded_record_other {happenings : List (Happening schemas)}
    (other : ∀ node state update, .ended node state update ∈ happenings → state.runId ≠ runId) :
    (s.record happenings).lastEnded runId = s.lastEnded runId := by
  unfold Platform.lastEnded Platform.record
  rw [List.reverse_append, List.findSome?_append]
  refine (congrArg (Option.or · _) (List.findSome?_eq_none_iff.mpr ?_)).trans (Option.none_or ..)
  intro happening mem
  cases happening with
  | ended node state update =>
    exact if_neg (other node state update (List.mem_reverse.mp mem))
  | claimed | validated => rfl

/-- The last node of a run after a node of the run returned. -/
lemma Platform.lastEnded_record_self {node : RunNode} {state : RunState schemas}
    {update : RunUpdate schemas} :
    (s.record [.ended node state update]).lastEnded state.runId = some (node, state, update) := by
  unfold Platform.lastEnded Platform.record
  rw [List.reverse_append, List.reverse_singleton, List.singleton_append, List.findSome?_cons]
  simp

/-- A transaction ends no node. -/
lemma Platform.lastEnded_transact (s : Platform schemas) (o : Operation Output) (env : Environment) :
    (s.transact o env).2.lastEnded runId = s.lastEnded runId := by
  have recorded : (s.transact o env).2 =
      Platform.record { s with tables := (perform schemas.toAgentOutputs o env s.tables).2 }
        (o.happenings (perform schemas.toAgentOutputs o env s.tables).1) := rfl
  rw [recorded, Platform.lastEnded_record_other]
  · rfl
  · intro node state update mem
    unfold Operation.happenings at mem
    split at mem
    · cases List.mem_singleton.mp mem
    · cases mem

/-- What the end of a node leaves alone. -/
lemma Platform.endNode_tables {node : RunNode} {state : RunState schemas}
    {update : RunUpdate schemas} : (s.endNode options node state update env).2.tables = s.tables := by
  unfold Platform.endNode
  dsimp only
  split
  · split <;> rfl
  · rfl

/-- The end of a node of another run leaves the run undisturbed. -/
lemma Platform.endNode_undisturbed {node : RunNode} {state : RunState schemas}
    {update : RunUpdate schemas} (other : state.runId ≠ runId) :
    Undisturbed runId s (s.endNode options node state update env).2 := by
  have tables : (s.endNode options node state update env).2.tables = s.tables := endNode_tables
  have ended : (s.record [.ended node state update]).lastEnded runId = s.lastEnded runId := by
    refine Platform.lastEnded_record_other ?_
    intro _ _ _ mem
    cases List.mem_singleton.mp mem
    exact other
  refine ⟨?_, ?_, ?_, ?_, ?_⟩
  · rw [tables]
    exact fun version running => ⟨running, fun _ mem _ => mem⟩
  · rw [tables]
    exact fun t mem => ⟨t, mem, rfl⟩
  · rw [tables]
    exact fun _ _ persisted => persisted
  · unfold Platform.endNode
    dsimp only
    split
    · split
      · exact Function.update_of_ne other.symm ..
      · rfl
    · rfl
  · unfold Platform.endNode
    dsimp only
    split
    · split <;> exact ended
    · exact ended

/-- A transaction that is not part of a job of the run leaves it undisturbed. -/
lemma transact_undisturbed {o : Operation Output} {env : Environment}
    (wf : TasksWellFormed s.tables.tasks) (cancels : PurgesCancelled s.tables)
    (aside : o.Aside runId s.tables) : Undisturbed runId s (s.transact o env).2 := by
  have step := perform_taskStep schemas.toAgentOutputs o env s.tables
  -- the tasks of the run are not the ones that the operation changes
  have elsewhere {taskId : Uuid} (changes : o.taskId? = some taskId) :
      ∀ t ∈ s.tables.tasks, t.id = taskId → t.runId ≠ runId := by
    cases o with
    | startTask | completeTask | failTask =>
      cases changes
      exact aside
    | _ => cases changes
  refine ⟨?_, fun t mem => step.place_kept mem, ?_, rfl, Platform.lastEnded_transact ..⟩
  · intro version running
    have running : (perform schemas.toAgentOutputs o env s.tables).2.owns runId
      (isAt .running version) = true := running
    refine ⟨running_back _ ?_ running, ?_⟩
    · rintro job now rfl
      exact aside
    · rintro t mem rfl
      refine step.row_kept mem (fun changes => elsewhere changes t mem rfl rfl) ?_
      exact (cancels.perform _ o env).unpurged running
  · intro agent output persisted
    refine persisted.perform wf _ env ?_
    rintro run version taskId error now rfl active t row done here -
    exact elsewhere rfl t (wf.task?_iff.mp row).1 (wf.task?_iff.mp row).2 here

/-- A call that is not part of a job of the run leaves it undisturbed. -/
lemma perform_undisturbed (wf : TasksWellFormed s.tables.tasks) (cancels : PurgesCancelled s.tables)
    (aside : c.Aside runId s) : Undisturbed runId s (c.perform options references env s).2 := by
  cases c with
  | store o => exact transact_undisturbed wf cancels aside
  | endNode node state update => exact Platform.endNode_undisturbed aside
  | validate run attempt =>
    refine ⟨?_, ?_, ?_, ?_, ?_⟩
    · exact fun version running => ⟨running, fun _ mem _ => mem⟩
    · exact fun t mem => ⟨t, mem, rfl⟩
    · exact fun _ _ persisted => persisted
    · rfl
    · refine Platform.lastEnded_record_other ?_
      intro _ _ _ mem
      cases List.mem_singleton.mp mem
  | _ => exact .refl

end Calls

end AtomsPlatform.Run
