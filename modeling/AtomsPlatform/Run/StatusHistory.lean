import AtomsPlatform.Run.ControlPlane

/-!
# The statuses of a run

What one step of the control plane does to the row and the log of a run, and the last step of a history
that changed the run's status. A run keeps its invariant (`AgentRun.Sound`): an error belongs to a failed or
expired run, and a reminder to a pause.
-/

namespace AtomsPlatform.Run
open Interleaving
variable {Output : Type} {schemas : AgentOutputSchemas Output} {d : Deployment}

section Steps
variable {c c' : ControlConfig schemas} {l : (controlPlane schemas d).Label} {runId : Uuid}
  {r r' : AgentRun} {events : List RunEventPayload}

/-- The status of a run. -/
def statusIn (runId : Uuid) (s : ControlStore schemas) : Option AgentRunStatus :=
  (s.tables.run? runId).map AgentRun.status

/-- The transaction of a step. -/
def operationOf : (controlPlane schemas d).Label → Option (Operation Output)
  | .act _ (.worker (.store o)) _ => some o
  | _ => none

/-- What a step does to the row of a run and appends to its log: what its transaction does, or an
    event of another component, or nothing. -/
inductive StepMove (l : (controlPlane schemas d).Label) (r : AgentRun) :
    AgentRun → List RunEventPayload → Prop where
  | idle :
    StepMove l r r []
  | moved {o r' events} :
    operationOf l = some o →
    RunMove o r r' events →
    StepMove l r r' events
  | noted {event} :
    StepMove l r r [.ofOther event]

/-- What a call does to a run. -/
lemma perform_stepMove (call : ControlCall schemas) (env : WorkerEnvironment schemas) (i : Nat)
    (s : ControlStore schemas) (row : s.tables.run? runId = some r) :
    ∃ r' events, (call.perform d env s).2.tables.run? runId = some r' ∧
      (call.perform d env s).2.tables.logs runId =
        events.foldl RunLog.append (s.tables.logs runId) ∧
      StepMove (.act i call env : (controlPlane schemas d).Label) r r' events := by
  cases call with
  | worker call =>
    obtain same | ⟨o, rfl, tables⟩ := perform_tables d.options d.references call env s.platform
    · refine ⟨r, [], ?_, ?_, .idle⟩
      · show RunStore.run? (call.perform d.options d.references env s.platform).2.tables _ = _
        rw [same]
        exact row
      · show RunStore.logs (call.perform d.options d.references env s.platform).2.tables _ = _
        rw [same]
        rfl
    · obtain ⟨r', events, row', log, move⟩ :=
        (perform_runMoves schemas.toAgentOutputs o env.transaction s.tables runId).row r row
      refine ⟨r', events, ?_, ?_, .moved rfl move⟩
      · exact (congrArg (RunStore.run? · runId) tables).trans row'
      · exact (congrArg (RunStore.logs · runId) tables).trans log
  | enqueue job =>
    refine ⟨r, [], ?_, ?_, .idle⟩ <;>
    · simp only [ControlCall.perform]
      split <;> first | exact row | rfl
  | findReminders | findExpired => exact ⟨r, [], row, rfl, .idle⟩
  | appendEvent k event =>
    simp only [ControlCall.perform]
    split
    · by_cases here : runId = k
      · subst here
        refine ⟨r, [.ofOther event], row, ?_, .noted⟩
        exact Function.update_self ..
      · refine ⟨r, [], row, ?_, .idle⟩
        exact Function.update_of_ne here ..
    · exact ⟨r, [], row, rfl, .idle⟩

/-- What a step does to a run. -/
lemma step_move (step : (controlPlane schemas d).Step c l c')
    (row : c.store.tables.run? runId = some r) :
    ∃ r' events, c'.store.tables.run? runId = some r' ∧
      c'.store.tables.logs runId = events.foldl RunLog.append (c.store.tables.logs runId) ∧
      StepMove l r r' events := by
  cases step with
  | @act i tag call k env at_i => exact perform_stepMove call env i c.store row
  | spawn _ => exact ⟨r, [], row, rfl, .idle⟩

/-- No call adds or removes a run. -/
lemma perform_keys (call : ControlCall schemas) (env : WorkerEnvironment schemas)
    (s : ControlStore schemas) :
    (call.perform d env s).2.tables.runs.map AgentRun.id = s.tables.runs.map AgentRun.id := by
  cases call with
  | worker call =>
    obtain same | ⟨o, rfl, tables⟩ := perform_tables d.options d.references call env s.platform
    · exact congrArg (fun s : RunStore Output => s.runs.map AgentRun.id) same
    · have keys := (perform_runMoves schemas.toAgentOutputs o env.transaction s.tables 0).keys
      exact (congrArg (fun s : RunStore Output => s.runs.map AgentRun.id) tables).trans keys
  | enqueue | appendEvent =>
    simp only [ControlCall.perform]
    split <;> rfl
  | findReminders | findExpired => rfl

/-- No run is added or removed. -/
lemma runs_kept {c₀ c : ControlConfig schemas}
    (run : (controlPlane schemas d).Reaches (controlPlane schemas d).Unguarded c₀ c) :
    c.store.tables.runs.map AgentRun.id = c₀.store.tables.runs.map AgentRun.id := by
  induction run with
  | refl => rfl
  | tail _ st ih =>
    obtain ⟨l, -, step⟩ := st
    cases step with
    | @act i tag call k env at_i => exact (perform_keys call env _).trans ih
    | spawn _ => exact ih

end Steps

/-- An error belongs to a run that failed or expired, a reminder to a run that is paused or was
    cancelled in its pause, and a purge to a cancelled run. -/
structure AgentRun.Sound (r : AgentRun) : Prop where
  failed : r.error ≠ none → r.status = .failed ∨ r.status = .cancelled
  expired : r.status = .cancelled → r.error = none ∨ r.error = some expiredError
  reminded : r.reminderSentAt ≠ none → r.status = .paused ∨ r.status = .cancelled
  paused : r.status = .paused → r.pausedAt ≠ none
  purged : r.purgedAt ≠ none → r.status = .cancelled ∧ r.prompt = purgeRedactionMarker

section Sound
variable {o : Operation Output} {r r' : AgentRun} {events : List RunEventPayload}

/-- A run that is neither failed nor cancelled has no error and was not purged, and a reminder only
    while it is paused. -/
lemma AgentRun.Sound.blank (sound : r.Sound) (failed : r.status ≠ .failed)
    (cancelled : r.status ≠ .cancelled) :
    r.error = none ∧ r.purgedAt = none ∧ (r.reminderSentAt ≠ none → r.status = .paused) := by
  refine ⟨?_, ?_, ?_⟩
  · by_contra present
    exact (sound.failed present).elim failed cancelled
  · by_contra present
    exact cancelled (sound.purged present).1
  · intro present
    exact (sound.reminded present).resolve_right cancelled

/-- A run without an error that was not purged. -/
lemma AgentRun.Sound.of_blank (error : r.error = none) (purged : r.purgedAt = none)
    (reminded : r.reminderSentAt ≠ none → r.status = .paused ∨ r.status = .cancelled)
    (paused : r.status = .paused → r.pausedAt ≠ none) : r.Sound where
  failed present := absurd error present
  expired _ := .inl error
  reminded := reminded
  paused := paused
  purged present := absurd purged present

/-- Failing with an error. -/
lemma AgentRun.Sound.of_failed (failed : r.status = .failed) (purged : r.purgedAt = none)
    (reminded : r.reminderSentAt = none) : r.Sound where
  failed _ := .inl failed
  expired cancelled := by rw [failed] at cancelled; cases cancelled
  reminded present := absurd reminded present
  paused paused := by rw [failed] at paused; cases paused
  purged present := absurd purged present

/-- An action changes the status. -/
lemma acted_ne {action : RunAction} {occurredAt : Date} {patch : AgentRun → AgentRun}
    {enqueues : Bool}
    (resolved : resolveRunTransition action r.status occurredAt = some (patch, enqueues)) :
    (patch r).status ≠ r.status := by
  cases action with
  | pause =>
    simp only [resolveRunTransition] at resolved
    split at resolved
    · rename_i live
      cases resolved
      rcases live with e | e <;> simp [e]
    · cases resolved
  | resume | approve =>
    simp only [resolveRunTransition] at resolved
    split at resolved
    · rename_i paused
      cases resolved
      simp [paused]
    · cases resolved
  | cancel =>
    simp only [resolveRunTransition] at resolved
    split at resolved
    · rename_i live
      cases resolved
      rcases live with e | e | e <;> simp [e]
    · cases resolved
  | retry =>
    simp only [resolveRunTransition] at resolved
    split at resolved
    · rename_i failed
      cases resolved
      simp [failed]
    · cases resolved

/-- Actions keep a run sound. -/
lemma acted_sound {action : RunAction} {occurredAt : Date} {patch : AgentRun → AgentRun}
    {enqueues : Bool}
    (resolved : resolveRunTransition action r.status occurredAt = some (patch, enqueues))
    (sound : r.Sound) :
    AgentRun.Sound { patch r with controlVersion := r.controlVersion + 1 } := by
  cases action with
  | pause =>
    simp only [resolveRunTransition] at resolved
    split at resolved
    · rename_i live
      cases resolved
      have error := sound.blank (by rcases live with e | e <;> simp [e])
        (by rcases live with e | e <;> simp [e])
      refine .of_blank error.1 error.2.1 ?_ ?_
      · exact fun _ => .inl rfl
      · exact fun _ => Option.some_ne_none _
    · cases resolved
  | resume | approve =>
    simp only [resolveRunTransition] at resolved
    split at resolved
    · rename_i paused
      cases resolved
      have error := sound.blank (by simp [paused]) (by simp [paused])
      refine .of_blank error.1 error.2.1 ?_ ?_
      · exact fun present => absurd rfl present
      · exact fun paused => absurd paused (by simp)
    · cases resolved
  | cancel =>
    simp only [resolveRunTransition] at resolved
    split at resolved
    · rename_i live
      cases resolved
      have error := sound.blank (by rcases live with e | e | e <;> simp [e])
        (by rcases live with e | e | e <;> simp [e])
      refine .of_blank error.1 error.2.1 ?_ ?_
      · exact fun _ => .inr rfl
      · exact fun paused => absurd paused (by simp)
    · cases resolved
  | retry =>
    simp only [resolveRunTransition] at resolved
    split at resolved
    · rename_i failed
      cases resolved
      refine .of_blank rfl ?_ ?_ ?_
      · by_contra present
        exact absurd (sound.purged present).1 (by simp [failed])
      · exact fun present => absurd (sound.reminded present) (by simp [failed])
      · exact fun paused => absurd paused (by simp)
    · cases resolved

/-- Operations keep a run sound. -/
lemma RunMove.sound (move : RunMove o r r' events) (sound : r.Sound) : r'.Sound := by
  cases move with
  | idle => exact sound
  | worked _ _ =>
    exact ⟨sound.failed, sound.expired, sound.reminded, sound.paused, sound.purged⟩
  | claimed _ _ status _ =>
    obtain ⟨error, purged, reminder⟩ := sound.blank (by simp [status]) (by simp [status])
    refine .of_blank error purged ?_ ?_
    · exact fun present => absurd (reminder present) (by simp [status])
    · exact fun paused => absurd paused (by simp)
  | asked _ status =>
    obtain ⟨error, purged, -⟩ := sound.blank (by simp [status]) (by simp [status])
    refine .of_blank error purged ?_ ?_
    · exact fun _ => .inl rfl
    · exact fun _ => Option.some_ne_none _
  | completed _ status =>
    obtain ⟨error, purged, reminder⟩ := sound.blank (by simp [status]) (by simp [status])
    refine .of_blank error purged ?_ ?_
    · exact fun present => absurd (reminder present) (by simp [status])
    · exact fun paused => absurd paused (by simp)
  | failed _ status =>
    obtain ⟨-, purged, reminder⟩ := sound.blank (by simp [status]) (by simp [status])
    refine .of_failed rfl purged ?_
    by_contra present
    exact absurd (reminder present) (by simp [status])
  | acted _ resolved => exact acted_sound resolved sound
  | enqueueFailed _ status =>
    obtain ⟨-, purged, reminder⟩ := sound.blank (by simp [status]) (by simp [status])
    refine .of_failed rfl purged ?_
    by_contra present
    exact absurd (reminder present) (by simp [status])
  | expired _ status =>
    obtain ⟨-, purged, -⟩ := sound.blank (by simp [status]) (by simp [status])
    refine ⟨fun _ => .inr rfl, fun _ => .inr rfl, fun _ => .inr rfl, ?_, ?_⟩
    · exact fun paused => absurd paused (by simp)
    · exact fun present => absurd purged present
  | reminded _ status _ =>
    exact ⟨sound.failed, sound.expired, fun _ => .inl status, sound.paused, sound.purged⟩
  | purged _ status _ =>
    exact ⟨sound.failed, sound.expired, sound.reminded, sound.paused, fun _ => ⟨status, rfl⟩⟩

lemma StepMove.sound {l : (controlPlane schemas d).Label} (move : StepMove l r r' events)
    (sound : r.Sound) : r'.Sound := by
  cases move with
  | idle => exact sound
  | moved _ move => exact move.sound sound
  | noted => exact sound

lemma fresh_sound {id workspaceId projectId : Uuid} {prompt : String} :
    (AgentRun.fresh id workspaceId projectId prompt).Sound :=
  .of_blank rfl rfl (fun present => absurd rfl present) fun paused => absurd paused (by simp [AgentRun.fresh])

variable {c₀ c : ControlConfig schemas} {runId : Uuid} {r₀ : AgentRun}

/-- A run stays, and stays sound. -/
lemma run_sound (begins : Begins c₀) (row₀ : c₀.store.tables.run? runId = some r₀)
    (run : (controlPlane schemas d).Reaches (controlPlane schemas d).Unguarded c₀ c) :
    ∃ r, c.store.tables.run? runId = some r ∧ r.Sound := by
  induction run with
  | refl =>
    refine ⟨r₀, row₀, ?_⟩
    rw [begins.runs r₀ (Table.lookup_mem row₀)]
    exact fresh_sound
  | tail _ st ih =>
    obtain ⟨r, row, sound⟩ := ih
    obtain ⟨l, -, step⟩ := st
    obtain ⟨r', events, row', -, move⟩ := step_move step row
    exact ⟨r', row', move.sound sound⟩

/-- Every run was there from the start. -/
lemma run_begun {r : AgentRun} (begins : Begins c₀)
    (run : (controlPlane schemas d).Reaches (controlPlane schemas d).Unguarded c₀ c)
    (row : c.store.tables.run? runId = some r) : ∃ r₀, c₀.store.tables.run? runId = some r₀ := by
  have mem : r.id ∈ c₀.store.tables.runs.map AgentRun.id := by
    rw [← runs_kept run]
    exact List.mem_map_of_mem (Table.lookup_mem row)
  obtain ⟨r₀, mem₀, same⟩ := List.mem_map.mp mem
  refine ⟨r₀, ?_⟩
  rw [← run?_id row, ← same]
  exact Table.lookup_of_mem begins.keyed mem₀

end Sound

section History
variable {c c' : ControlConfig schemas} {l : (controlPlane schemas d).Label} {runId : Uuid}
  {r r' : AgentRun}

variable (schemas d) in
/-- Histories of the control plane. -/
abbrev ControlHistory : Type :=
  List (ControlConfig schemas × (controlPlane schemas d).Label)

/-- Whether a step changes the status of a run. -/
def changesStatus (runId : Uuid) : ControlConfig schemas × (controlPlane schemas d).Label → Bool
  | (c, .act _ call env) => statusIn runId (call.perform d env c.store).2 ≠ statusIn runId c.store
  | (_, .spawn _) => false

/-- A step appends to the log of a run. -/
def appendsTo (runId : Uuid) : ControlConfig schemas × (controlPlane schemas d).Label → Bool
  | (c, .act _ call env) =>
    (call.perform d env c.store).2.tables.logs runId ≠ c.store.tables.logs runId
  | (_, .spawn _) => false

/-- The last step that changed the status of a run. -/
def lastStatusChange (runId : Uuid) (h : ControlHistory schemas d) :
    Option (ControlConfig schemas × (controlPlane schemas d).Label) :=
  h.reverse.find? (changesStatus runId)

/-- Source `PendingApproval`. -/
structure PendingApproval where
  scope : ApprovalScope
  reason : String
deriving DecidableEq, Repr

/-- The approval that the last change of a run's status asked for, if it was a `requestApproval`. -/
def askedApproval (runId : Uuid) (h : ControlHistory schemas d) : Option PendingApproval :=
  match (lastStatusChange runId h).bind fun entry => operationOf entry.2 with
  | some (.requestApproval _ _ scope reason _) => some ⟨scope, reason⟩
  | _ => none

lemma changesStatus_iff (step : (controlPlane schemas d).Step c l c') :
    changesStatus runId (c, l) = true ↔ statusIn runId c'.store ≠ statusIn runId c.store := by
  cases step with
  | act env at_i => exact decide_eq_true_iff
  | spawn _ => simp [changesStatus]

lemma changesStatus_rows (step : (controlPlane schemas d).Step c l c')
    (row : c.store.tables.run? runId = some r) (row' : c'.store.tables.run? runId = some r') :
    changesStatus runId (c, l) = decide (r'.status ≠ r.status) := by
  rw [Bool.eq_iff_iff, changesStatus_iff step, decide_eq_true_iff]
  simp [statusIn, row, row']

lemma appendsTo_iff (step : (controlPlane schemas d).Step c l c') :
    appendsTo runId (c, l) = true ↔
      c'.store.tables.logs runId ≠ c.store.tables.logs runId := by
  cases step with
  | act env at_i => exact decide_eq_true_iff
  | spawn _ => simp [appendsTo]

lemma lastStatusChange_snoc {h : ControlHistory schemas d}
    {entry : ControlConfig schemas × (controlPlane schemas d).Label} :
    lastStatusChange runId (h ++ [entry]) =
      if changesStatus runId entry = true then some entry else lastStatusChange runId h := by
  rw [lastStatusChange, List.reverse_append, List.reverse_singleton, List.singleton_append,
    List.find?_cons]
  cases changesStatus runId entry <;> rfl

/-- A step that leaves the status alone leaves alone what was asked. -/
lemma askedApproval_kept {h : ControlHistory schemas d}
    (same : changesStatus runId (c, l) = false) :
    askedApproval runId (h ++ [(c, l)]) = askedApproval runId h := by
  rw [askedApproval, lastStatusChange_snoc, same]
  rfl

/-- A step that changes the status asks for what its transaction asks. -/
lemma askedApproval_changed {h : ControlHistory schemas d}
    (changed : changesStatus runId (c, l) = true) :
    askedApproval runId (h ++ [(c, l)]) =
      match operationOf l with
      | some (.requestApproval _ _ scope reason _) => some ⟨scope, reason⟩
      | _ => none := by
  rw [askedApproval, lastStatusChange_snoc, if_pos changed]
  rfl

end History

end AtomsPlatform.Run
