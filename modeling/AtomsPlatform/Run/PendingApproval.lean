import AtomsPlatform.Run.StatusHistory

/-!
# The pending approval of a run

The control API reads the approval a paused run waits for off the last event of the run's log. That is
the approval the run was paused for as long as no step disturbs the end of the log: none appends to
the log of a run that waits for an approval (as reminders and database events do), and no user pauses
a run whose log still ends with an approval that was asked for before.
`pendingApproval_truthful_iff` says that these steps are all there is.
-/

namespace AtomsPlatform.Run
open Interleaving
variable {Output : Type} {schemas : AgentOutputSchemas Output} {d : Deployment}

/-- Source `RunRecord`. -/
structure RunRecord extends AgentRun where
  pendingApproval : Option PendingApproval := none
deriving DecidableEq, Repr

/-- The approval that an event asks for. -/
def RunEventPayload.pending? (event : RunEventPayload) : Option PendingApproval :=
  event.approval?.map fun approval => ⟨approval.1, approval.2⟩

/-- Source `#loadPendingApproval`: the events of a log are stored in the order of their sequence. -/
def loadPendingApproval (s : RunStore Output) (runId : Uuid) : Option PendingApproval :=
  match (s.logs runId).events.getLast? with
  | none => none
  | some latest => latest.payload.pending?

/-- Source `getRun`; `found` is whether the run is one of the user's. -/
def getRun (s : RunStore Output) (runId : Uuid) (found : Bool) : Option RunRecord :=
  (if found then s.run? runId else none).map fun run =>
    if run.status ≠ .paused then { run with }
    else { run with pendingApproval := loadPendingApproval s runId }

section Truth

/-- What is reported is the approval that the last change of the status asked for, while the run is
    paused, and nothing else. -/
def ReportsTruly (runId : Uuid) (h : ControlHistory schemas d) (c : ControlConfig schemas) : Prop :=
  ∀ record, getRun c.store.tables runId true = some record →
    record.pendingApproval = if record.status = .paused then askedApproval runId h else none

/-- A step is a user's pause that takes effect. -/
def pauses (runId : Uuid) (entry : ControlConfig schemas × (controlPlane schemas d).Label) : Bool :=
  changesStatus runId entry &&
    match operationOf entry.2 with
    | some (.transitionRun _ .pause ..) => true
    | _ => false

/-- A step that makes the end of the log tell something else than the status: an event for a run that
    waits for an approval, or a pause of a run whose log ends with an approval asked for before. -/
def Disturbs (runId : Uuid) (h : ControlHistory schemas d)
    (entry : ControlConfig schemas × (controlPlane schemas d).Label) : Prop :=
  (statusIn runId entry.1.store = some .paused ∧ askedApproval runId h ≠ none ∧
    appendsTo runId entry = true) ∨
  (pauses runId entry = true ∧ loadPendingApproval entry.1.store.tables runId ≠ none)

end Truth

section Logs
variable {log : RunLog RunEventPayload} {event : RunEventPayload}

lemma append_ne : log.append event ≠ log := by
  intro same
  have counter := congrArg RunLog.eventSequence same
  exact Nat.succ_ne_self _ counter

lemma getLast?_append : (log.append event).events.getLast? = some ⟨log.eventSequence + 1, event⟩ :=
  List.getLast?_concat

end Logs

section Steps
variable {c c' : ControlConfig schemas} {l : (controlPlane schemas d).Label} {runId : Uuid}
  {h : ControlHistory schemas d} {r r' : AgentRun}

lemma reportsTruly_iff (row : c.store.tables.run? runId = some r) :
    ReportsTruly runId h c ↔
      (r.status = .paused → loadPendingApproval c.store.tables runId = askedApproval runId h) := by
  simp only [ReportsTruly, getRun, if_true, row, Option.map_some, Option.some.injEq,
    forall_eq']
  by_cases paused : r.status = .paused
  · simp [paused]
  · simp [paused]

/-- An event for a run whose status it leaves alone keeps the report true unless an approval is
    pending. -/
lemma noted_truly_iff {event : RunEventPayload} (step : (controlPlane schemas d).Step c l c')
    (row : c.store.tables.run? runId = some r) (row' : c'.store.tables.run? runId = some r')
    (log : c'.store.tables.logs runId = (c.store.tables.logs runId).append event)
    (quiet : event.approval? = none) (same : r'.status = r.status) :
    ReportsTruly runId (h ++ [(c, l)]) c' ↔ ¬ Disturbs runId h (c, l) := by
  have unchanged : changesStatus runId (c, l) = false := by
    rw [changesStatus_rows step row row', same]
    simp
  have appended : appendsTo runId (c, l) = true := by
    rw [appendsTo_iff step, log]
    exact append_ne
  have read : loadPendingApproval c'.store.tables runId = none := by
    simp [loadPendingApproval, log, getLast?_append, RunEventPayload.pending?, quiet]
  rw [reportsTruly_iff row', same, askedApproval_kept unchanged, read]
  simp only [Disturbs, pauses, unchanged, appended, statusIn, row, Option.map_some,
    Option.some.injEq, Bool.false_and, Bool.false_eq_true, false_and, or_false, and_true, not_and,
    not_not]
  exact ⟨fun told paused => (told paused).symm, fun asked paused => (asked paused).symm⟩

/-- A step that does not touch the run keeps the report true. -/
lemma idle_truly_iff (step : (controlPlane schemas d).Step c l c')
    (row : c.store.tables.run? runId = some r) (row' : c'.store.tables.run? runId = some r)
    (log : c'.store.tables.logs runId = c.store.tables.logs runId)
    (truly : ReportsTruly runId h c) :
    ReportsTruly runId (h ++ [(c, l)]) c' ↔ ¬ Disturbs runId h (c, l) := by
  have unchanged : changesStatus runId (c, l) = false := by
    rw [changesStatus_rows step row row']
    simp
  have silent : appendsTo runId (c, l) = false := by
    rw [Bool.eq_false_iff, Ne, appendsTo_iff step, log]
    exact fun differs => differs rfl
  have read : loadPendingApproval c'.store.tables runId = loadPendingApproval c.store.tables runId := by
    simp only [loadPendingApproval, log]
  rw [reportsTruly_iff row', askedApproval_kept unchanged, read, ← reportsTruly_iff row]
  simp [Disturbs, pauses, unchanged, silent, truly]

/-- A step that ends outside of a pause keeps the report true. -/
lemma unpaused_truly_iff (row : c.store.tables.run? runId = some r)
    (row' : c'.store.tables.run? runId = some r') (unpaused : r'.status ≠ .paused)
    (quiet : r.status = .paused → appendsTo runId (c, l) = false)
    (other : pauses runId (c, l) = false) :
    ReportsTruly runId (h ++ [(c, l)]) c' ↔ ¬ Disturbs runId h (c, l) := by
  refine iff_of_true ?_ ?_
  · rw [reportsTruly_iff row']
    exact fun paused => absurd paused unpaused
  · rintro (⟨paused, -, appended⟩ | ⟨pause, -⟩)
    · simp only [statusIn, row, Option.map_some, Option.some.injEq] at paused
      rw [quiet paused] at appended
      cases appended
    · rw [other] at pause
      cases pause

/-- A pause keeps the report true unless the log ends with an approval that was asked for before. -/
lemma paused_truly_iff {k : Uuid} {status : AgentRunStatus} {version : Nat} {now : Date}
    (step : (controlPlane schemas d).Step c l c')
    (row : c.store.tables.run? runId = some r) (row' : c'.store.tables.run? runId = some r')
    (op : operationOf l = some (.transitionRun k .pause status version now))
    (log : c'.store.tables.logs runId = c.store.tables.logs runId) (running : r.status ≠ .paused)
    (paused : r'.status = .paused) :
    ReportsTruly runId (h ++ [(c, l)]) c' ↔ ¬ Disturbs runId h (c, l) := by
  have changed : changesStatus runId (c, l) = true := by
    rw [changesStatus_rows step row row', paused]
    exact decide_eq_true (Ne.symm running)
  have read : loadPendingApproval c'.store.tables runId = loadPendingApproval c.store.tables runId := by
    simp only [loadPendingApproval, log]
  rw [reportsTruly_iff row', askedApproval_changed changed, op, read]
  simp [Disturbs, pauses, changed, op, statusIn, row, running, paused]

/-- The step lemma: a step keeps the report true exactly if it does not disturb it. -/
lemma truly_step_iff (step : (controlPlane schemas d).Step c l c')
    (row : c.store.tables.run? runId = some r) (truly : ReportsTruly runId h c) :
    ReportsTruly runId (h ++ [(c, l)]) c' ↔ ¬ Disturbs runId h (c, l) := by
  obtain ⟨r', events, row', log, move⟩ := step_move step row
  have unchanged (same : r'.status = r.status) : pauses runId (c, l) = false := by
    simp [pauses, changesStatus_rows step row row', same]
  cases move with
  | idle => exact idle_truly_iff step row row' log truly
  | noted => exact noted_truly_iff step row row' log rfl rfl
  | moved op move =>
    -- a transaction other than a pause disturbs nothing unless it appends to a paused run's log
    have leaves (was : r.status ≠ .paused) (is : r'.status ≠ .paused)
        (other : pauses runId (c, l) = false) :
        ReportsTruly runId (h ++ [(c, l)]) c' ↔ ¬ Disturbs runId h (c, l) :=
      unpaused_truly_iff row row' is (fun paused => absurd paused was) other
    have silent (is : r'.status ≠ .paused)
        (same : c'.store.tables.logs runId = c.store.tables.logs runId)
        (other : pauses runId (c, l) = false) :
        ReportsTruly runId (h ++ [(c, l)]) c' ↔ ¬ Disturbs runId h (c, l) := by
      refine unpaused_truly_iff row row' is (fun _ => ?_) other
      rw [Bool.eq_false_iff, Ne, appendsTo_iff step, same]
      exact fun differs => differs rfl
    cases move with
    | idle => exact idle_truly_iff step row row' log truly
    | worked status _ => exact leaves (by simp [status]) (by simp [status]) (unchanged rfl)
    | claimed acts _ status _ =>
      exact leaves (by simp [status]) (by simp) (by simp [pauses, op, acts])
    | completed acts status =>
      exact leaves (by simp [status]) (by simp) (by simp [pauses, op, acts])
    | failed acts status =>
      exact leaves (by simp [status]) (by simp) (by simp [pauses, op, acts])
    | enqueueFailed acts status =>
      exact leaves (by simp [status]) (by simp) (by simp [pauses, op, acts])
    | expired acts status => exact silent (by simp) log (by simp [pauses, op, acts])
    | reminded _ _ _ => exact noted_truly_iff step row row' log rfl rfl
    | purged acts status _ =>
      exact leaves (by simp [status]) (by simp [status]) (unchanged rfl)
    | @asked scope reason now acts status =>
      have changed : changesStatus runId (c, l) = true := by
        rw [changesStatus_rows step row row', status]
        rfl
      refine iff_of_true ?_ ?_
      · rw [reportsTruly_iff row', askedApproval_changed changed, op, acts]
        intro _
        simp [loadPendingApproval, log, List.foldl_cons, getLast?_append,
          RunEventPayload.pending?, RunEventPayload.approval?]
      · simp [Disturbs, pauses, op, acts, statusIn, row, status]
    | @acted action occurredAt patch enqueues acts resolved =>
      rw [acts] at op
      cases action with
      | pause =>
        simp only [resolveRunTransition] at resolved
        split at resolved
        · rename_i live
          cases resolved
          exact paused_truly_iff step row row' op log (by rcases live with e | e <;> simp [e]) rfl
        · cases resolved
      | resume | approve | cancel | retry =>
        have is : (patch r).status ≠ .paused := by
          simp only [resolveRunTransition] at resolved
          split at resolved
          · cases resolved
            simp
          · cases resolved
        exact silent is log (by simp [pauses, op])

end Steps

section Runs
variable {c₀ c : ControlConfig schemas} {h : ControlHistory schemas d} {runId : Uuid} {r₀ : AgentRun}

lemma begins_truly (begins : Begins c₀) (row₀ : c₀.store.tables.run? runId = some r₀) :
    ReportsTruly runId ([] : ControlHistory schemas d) c₀ := by
  rw [reportsTruly_iff row₀, begins.runs r₀ (Table.lookup_mem row₀)]
  exact fun paused => absurd paused (by simp [AgentRun.fresh])

/-- In every history of the control plane, with any interleaving of actions, jobs, sweeps and events of
    other components, the approval that is reported for a run is all along the one its last status
    change asked for, exactly if no step disturbs it. -/
theorem pendingApproval_truthful_iff (begins : Begins c₀)
    (row₀ : c₀.store.tables.run? runId = some r₀)
    (traced : (controlPlane schemas d).Traced (controlPlane schemas d).Unguarded c₀ h c) :
    (∀ h₁ c₁, System.Passes h c h₁ c₁ → ReportsTruly runId h₁ c₁) ↔
      ∀ h₁ entry h₂, h = h₁ ++ entry :: h₂ → ¬ Disturbs runId h₁ entry := by
  refine System.Traced.throughout_iff (begins_truly begins row₀) ?_ traced
  intro h c l c' traced step truly
  obtain ⟨r, row, -⟩ := run_sound begins row₀ traced.reaches
  exact truly_step_iff step row truly

end Runs

section Scenario

/-- The database worker reports about a run. -/
def databaseReports : List (plainPlane true 0 {}).Move :=
  .spawn (.append 1 (.integrationStatusChanged ⟨1, 1, 1, .ready, "Ready"⟩)) :: proceeds 2 1 0

/-- `pendingApproval_truthful_iff` for a run that waits for the approval of its plan. -/
theorem pendingApproval_truthful_iff_asked :
    ∃ (h : ControlHistory (plainSchemas true 0) {}) (c : ControlConfig (plainSchemas true 0)),
      askedApproval 1 h = loadPendingApproval c.store.tables 1 ∧
      statusIn 1 c.store = some .paused ∧
      ((∀ h₁ c₁, System.Passes h c h₁ c₁ → ReportsTruly 1 h₁ c₁) ↔
        ∀ h₁ entry h₂, h = h₁ ++ entry :: h₂ → ¬ Disturbs 1 h₁ entry) := by
  have run : ((plainPlane true 0 {}).record freshPlane asksForPlan).any (fun (h, c) =>
      decide (askedApproval 1 h = loadPendingApproval c.store.tables 1) &&
        decide (statusIn 1 c.store = some .paused)) = true := by
    decide
  obtain ⟨h, c, traced, holds⟩ := System.exists_traced run
  obtain ⟨asked, paused⟩ := Bool.and_eq_true_iff.mp holds
  exact ⟨h, c, of_decide_eq_true asked, of_decide_eq_true paused,
    pendingApproval_truthful_iff freshPlane_begins rfl traced⟩

/-- A report of the database worker hides the approval that a run waits for. -/
theorem pendingApproval_hidden :
    ¬ ∀ (c₀ c : ControlConfig (plainSchemas true 0)) (h : ControlHistory (plainSchemas true 0) {})
      (runId : Uuid), Begins c₀ → (plainPlane true 0 {}).Traced (plainPlane true 0 {}).Unguarded c₀ h c →
      ReportsTruly runId h c := by
  intro truly
  have run : ((plainPlane true 0 {}).record freshPlane (asksForPlan ++ databaseReports)).any
      (fun (h, c) => ((getRun c.store.tables 1 true).any fun record =>
        decide (record.status = .paused) && decide (record.pendingApproval = none)) &&
          decide (askedApproval 1 h ≠ none)) = true := by
    decide
  obtain ⟨h, c, traced, holds⟩ := System.exists_traced run
  obtain ⟨read, asked⟩ := Bool.and_eq_true_iff.mp holds
  obtain ⟨record, found, hidden⟩ := (Option.any_eq_true _ _).mp read
  obtain ⟨paused, hidden⟩ := Bool.and_eq_true_iff.mp hidden
  have told := truly _ c h 1 freshPlane_begins traced record found
  rw [of_decide_eq_true hidden, if_pos (of_decide_eq_true paused)] at told
  exact of_decide_eq_true asked told.symm

end Scenario

end AtomsPlatform.Run
