import AtomsPlatform.Run.Activities

/-!
# Reminders

The reminder sweep reads the runs that have been paused for long and then marks one after the other,
if it is paused and was not reminded. That a pause is reminded of at most once holds in every history.
That the pause reminded of is the one that was read, and is reported with its own time, holds exactly
if the run's control version is still the one it was read with (`reminder_honest_iff`), which the
sibling sweep `expirePausedRuns` tests and this one does not.
-/

namespace AtomsPlatform.Run
open Interleaving
variable {Output : Type} {schemas : AgentOutputSchemas Output} {d : Deployment}

section Honesty

/-- The reminder that a step records for a run: the thread that does so, and the time it reports. -/
def reminderOf (runId : Uuid) (entry : ControlConfig schemas × (controlPlane schemas d).Label) :
    Option (Nat × Date) :=
  match entry.2 with
  | .act i (.worker (.store (.sendReminder k pausedAt now))) _ =>
    if k = runId ∧ appendsTo runId entry = true then some (i, pausedAt.getD now) else none
  | _ => none

/-- The cutoff of a thread's read of its candidates. -/
def readBy (i : Nat) : ControlConfig schemas × (controlPlane schemas d).Label → Option Date
  | (_, .act j (.findReminders pausedBefore _) _) => if j = i then some pausedBefore else none
  | _ => none

/-- The last read of a thread: where it was made, and with which cutoff. -/
def lastRead (i : Nat) (h : ControlHistory schemas d) : Option (ControlConfig schemas × Date) :=
  h.reverse.findSome? fun entry => (readBy i entry).map fun cutoff => (entry.1, cutoff)

/-- The time of the pause that was the last change of a run's status. -/
def pausedSince (runId : Uuid) (h : ControlHistory schemas d) : Option Date :=
  match (lastStatusChange runId h).bind fun entry => operationOf entry.2 with
  | some (.requestApproval _ _ _ _ now) => some now
  | some (.transitionRun _ .pause _ _ occurredAt) => some occurredAt
  | _ => none

/-- A reminder of the pause that the sweep has read: the run has been paused since then and since
    before the cutoff, and the time of this pause is reported. -/
def Honest (runId : Uuid) (i : Nat) (reported : Date) (h : ControlHistory schemas d) : Prop :=
  ∃ read cutoff, lastRead i h = some (read, cutoff) ∧ pausedSince runId h = some reported ∧
    reported < cutoff ∧ statusIn runId read.store = some .paused ∧
    ∀ entry ∈ since (fun entry => (readBy i entry).isSome) h, changesStatus runId entry = false

/-- No reminder was recorded since the last change of a run's status. -/
def Unreminded (runId : Uuid) (h : ControlHistory schemas d) : Prop :=
  ∀ entry ∈ since (changesStatus runId) h, reminderOf runId entry = none

/-- The version of a run. -/
def versionIn (runId : Uuid) (s : ControlStore schemas) : Option Nat :=
  (s.tables.run? runId).map AgentRun.controlVersion

/-- A run still has the version that the sweep has read it with. -/
def ReadCurrent (runId : Uuid) (i : Nat) (c : ControlConfig schemas) (h : ControlHistory schemas d) :
    Prop :=
  ∃ read cutoff, lastRead i h = some (read, cutoff) ∧
    versionIn runId read.store = versionIn runId c.store

end Honesty

section Moves
variable {o : Operation Output} {r r' : AgentRun} {events : List RunEventPayload}

/-- A move either leaves the status, the version and the pause of a run alone, or changes its status,
    and then its version if the run was paused. -/
lemma RunMove.pause_kept (move : RunMove o r r' events) :
    (r'.status = r.status ∧ r'.controlVersion = r.controlVersion ∧ r'.pausedAt = r.pausedAt) ∨
      (r'.status ≠ r.status ∧ r.controlVersion ≤ r'.controlVersion ∧
        (r.status = .paused → r.controlVersion < r'.controlVersion)) := by
  cases move with
  | idle => exact .inl ⟨rfl, rfl, rfl⟩
  | worked _ _ => exact .inl ⟨rfl, rfl, rfl⟩
  | reminded _ _ _ => exact .inl ⟨rfl, rfl, rfl⟩
  | purged _ _ _ => exact .inl ⟨rfl, rfl, rfl⟩
  | claimed _ _ status _ =>
    exact .inr ⟨by simp [status], Nat.le_succ _, fun _ => Nat.lt_succ_self _⟩
  | asked _ status | completed _ status | failed _ status | expired _ status =>
    exact .inr ⟨by simp [status], Nat.le_succ _, fun _ => Nat.lt_succ_self _⟩
  | acted _ resolved =>
    exact .inr ⟨acted_ne resolved, Nat.le_succ _, fun _ => Nat.lt_succ_self _⟩
  | enqueueFailed _ status =>
    refine .inr ⟨by simp [status], Nat.le_refl _, fun paused => ?_⟩
    rw [status] at paused
    cases paused

lemma StepMove.pause_kept {l : (controlPlane schemas d).Label} (move : StepMove l r r' events) :
    (r'.status = r.status ∧ r'.controlVersion = r.controlVersion ∧ r'.pausedAt = r.pausedAt) ∨
      (r'.status ≠ r.status ∧ r.controlVersion ≤ r'.controlVersion ∧
        (r.status = .paused → r.controlVersion < r'.controlVersion)) := by
  cases move with
  | idle => exact .inl ⟨rfl, rfl, rfl⟩
  | moved _ move => exact move.pause_kept
  | noted => exact .inl ⟨rfl, rfl, rfl⟩

/-- A reminder is kept as long as the status is. -/
lemma StepMove.reminder_kept {l : (controlPlane schemas d).Label} (move : StepMove l r r' events)
    (same : r'.status = r.status) (sent : r.reminderSentAt ≠ none) :
    r'.reminderSentAt = r.reminderSentAt := by
  cases move with
  | idle => rfl
  | noted => rfl
  | moved _ move =>
    cases move with
    | reminded _ _ unsent => exact absurd unsent sent
    | acted _ resolved => exact absurd same (acted_ne resolved)
    | claimed | asked | completed | failed | enqueueFailed | expired => rfl
    | idle | worked | purged => rfl

/-- A move that pauses a run says since when. -/
lemma RunMove.paused_at (move : RunMove o r r' events) (running : r.status ≠ .paused)
    (paused : r'.status = .paused) :
    (∃ scope reason now, o = .requestApproval r.id r.controlVersion scope reason now ∧
      r'.pausedAt = some now) ∨
    ∃ occurredAt, o = .transitionRun r.id .pause r.status r.controlVersion occurredAt ∧
      r'.pausedAt = some occurredAt := by
  cases move with
  | idle => exact absurd paused running
  | worked _ _ => exact absurd paused running
  | reminded _ _ _ => exact absurd paused running
  | purged _ _ _ => exact absurd paused running
  | claimed | completed | failed | expired | enqueueFailed => cases paused
  | asked acts _ => exact .inl ⟨_, _, _, acts, rfl⟩
  | @acted action occurredAt patch enqueues acts resolved =>
    cases action with
    | pause =>
      simp only [resolveRunTransition] at resolved
      split at resolved
      · cases resolved
        exact .inr ⟨occurredAt, acts, rfl⟩
      · cases resolved
    | resume | approve | cancel | retry =>
      simp only [resolveRunTransition] at resolved
      split at resolved
      · cases resolved
        cases paused
      · cases resolved

end Moves

section Pauses
variable {c₀ c c' c₁ c₂ : ControlConfig schemas} {l : (controlPlane schemas d).Label}
  {h g : ControlHistory schemas d} {runId : Uuid} {r r₁ r₂ : AgentRun} {i : Nat} {reported : Date}

/-- A paused run has been paused since the time that its row says. -/
lemma pausedSince_row (begins : Begins c₀)
    (traced : (controlPlane schemas d).Traced (controlPlane schemas d).Unguarded c₀ h c)
    (row : c.store.tables.run? runId = some r) (paused : r.status = .paused) :
    pausedSince runId h = r.pausedAt := by
  induction traced generalizing r with
  | nil =>
    rw [begins.runs r (Table.lookup_mem row)] at paused
    cases paused
  | @snoc h c l c' traced guard step ih =>
    obtain ⟨r₀, row₀⟩ := run_begun begins (traced.snoc guard step).reaches row
    obtain ⟨r₁, row₁, -⟩ := run_sound begins row₀ traced.reaches
    obtain ⟨r', events, row', -, move⟩ := step_move step row₁
    cases row.symm.trans row'
    by_cases same : r.status = r₁.status
    · have unchanged : changesStatus runId (c, l) = false := by
        rw [changesStatus_rows step row₁ row]
        exact decide_eq_false fun differs => differs same
      obtain ⟨-, -, since⟩ | ⟨differs, -⟩ := move.pause_kept
      · rw [since, ← ih row₁ (same ▸ paused), pausedSince, lastStatusChange_snoc, unchanged]
        rfl
      · exact absurd same differs
    · have changed : changesStatus runId (c, l) = true := by
        rw [changesStatus_rows step row₁ row]
        exact decide_eq_true same
      have running : r₁.status ≠ .paused := fun was => same (paused.trans was.symm)
      rw [pausedSince, lastStatusChange_snoc, if_pos changed, Option.bind_some]
      cases move with
      | idle => exact absurd rfl same
      | noted => exact absurd rfl same
      | moved op move =>
        obtain ⟨scope, reason, now, acts, since⟩ | ⟨occurredAt, acts, since⟩ :=
          move.paused_at running paused
        · rw [op, acts, since]
        · rw [op, acts, since]

/-- From where a run was read paused on, its version tells whether its status has changed. -/
lemma paused_segment
    (traced : (controlPlane schemas d).Traced (controlPlane schemas d).Unguarded c₂ g c₁)
    (row₂ : c₂.store.tables.run? runId = some r₂) (paused : r₂.status = .paused) :
    ∃ r₁, c₁.store.tables.run? runId = some r₁ ∧
      (((∀ entry ∈ g, changesStatus runId entry = false) ∧ r₁.status = .paused ∧
          r₁.controlVersion = r₂.controlVersion ∧ r₁.pausedAt = r₂.pausedAt) ∨
        ((∃ entry ∈ g, changesStatus runId entry = true) ∧
          r₂.controlVersion < r₁.controlVersion)) := by
  induction traced with
  | nil => exact ⟨r₂, row₂, .inl ⟨fun _ mem => absurd mem List.not_mem_nil, paused, rfl, rfl⟩⟩
  | @snoc g c l c' traced guard step ih =>
    obtain ⟨r₁, row₁, since⟩ := ih
    obtain ⟨r', events, row', -, move⟩ := step_move step row₁
    refine ⟨r', row', ?_⟩
    have kept := move.pause_kept
    obtain ⟨quiet, still, version, pausedAt⟩ | ⟨⟨entry, mem, changed⟩, version⟩ := since
    · obtain ⟨status, version', pausedAt'⟩ | ⟨differs, -, rises⟩ := kept
      · refine .inl ⟨?_, status.trans still, version'.trans version, pausedAt'.trans pausedAt⟩
        intro entry mem
        obtain earlier | last := List.mem_append.mp mem
        · exact quiet entry earlier
        · rw [List.mem_singleton.mp last, changesStatus_rows step row₁ row']
          exact decide_eq_false fun differs => differs status
      · refine .inr ⟨⟨(c, l), List.mem_append_right _ (List.mem_singleton_self _), ?_⟩, ?_⟩
        · rw [changesStatus_rows step row₁ row']
          exact decide_eq_true differs
        · exact version ▸ rises still
    · refine .inr ⟨⟨entry, List.mem_append_left _ mem, changed⟩, ?_⟩
      obtain ⟨-, version', -⟩ | ⟨-, le, -⟩ := kept
      · exact version' ▸ version
      · exact Nat.lt_of_lt_of_le version le

/-- The transaction of a reminder appends to the log of a run that is paused and was not reminded. -/
lemma sendReminder_appends {outputs : AgentOutputs Output} {pausedAt : Option Date} {now : Date}
    {env : Environment} {s : RunStore Output} (row : s.run? runId = some r)
    (appends : (perform outputs (.sendReminder runId pausedAt now) env s).2.logs runId ≠
      s.logs runId) :
    r.status = .paused ∧ r.reminderSentAt = none ∧
      ∀ r', (perform outputs (.sendReminder runId pausedAt now) env s).2.run? runId = some r' →
        r'.reminderSentAt ≠ none := by
  obtain ⟨error, e⟩ | ⟨b, e, -⟩ :=
    perform_cases outputs (.sendReminder runId pausedAt now) env s
  · rw [e] at appends
    exact absurd rfl appends
  generalize (perform outputs (.sendReminder runId pausedAt now) env s).2 = s' at e appends ⊢
  have e : sendReminder runId pausedAt now s = .ok (b, s') := e
  simp only [sendReminder] at e
  split at e
  · rename_i due
    cases e
    rw [owns_run row] at due
    obtain ⟨paused, unsent⟩ := of_decide_eq_true due
    refine ⟨paused, unsent, ?_⟩
    intro r' row'
    rw [run?_of_runs (runs_appendEvent ..), run?_updateRun ?keeps, row, Option.map_some,
      if_pos ⟨rfl, due⟩] at row'
    case keeps => exact fun _ e => e
    cases row'
    exact Option.some_ne_none _
  · cases e
    exact absurd rfl appends

/-- The call of a recorded reminder. -/
lemma reminderOf_label (records : reminderOf runId (c, l) = some (i, reported)) :
    ∃ pausedAt now env, l = .act i (.worker (.store (.sendReminder runId pausedAt now))) env ∧
      reported = pausedAt.getD now ∧ appendsTo runId (c, l) = true := by
  unfold reminderOf at records
  split at records
  · rename_i j k pausedAt now env label
    obtain rfl : l = _ := label
    split at records
    · rename_i both
      obtain ⟨rfl, appends⟩ := both
      cases records
      exact ⟨pausedAt, now, env, rfl, rfl, appends⟩
    · cases records
  · cases records

/-- A reminder is recorded for a paused run that was not reminded. -/
lemma reminderOf_row (step : (controlPlane schemas d).Step c l c')
    (row : c.store.tables.run? runId = some r) (records : reminderOf runId (c, l) = some (i, reported)) :
    r.status = .paused ∧ r.reminderSentAt = none ∧
      ∀ r', c'.store.tables.run? runId = some r' → r'.reminderSentAt ≠ none := by
  obtain ⟨pausedAt, now, env, rfl, -, appends⟩ := reminderOf_label records
  have grows := (appendsTo_iff step).mp appends
  cases step with
  | act _ at_i => exact sendReminder_appends row grows

/-- A paused run that was not reminded has had no reminder in its pause. -/
lemma unreminded_row (begins : Begins c₀)
    (traced : (controlPlane schemas d).Traced (controlPlane schemas d).Unguarded c₀ h c)
    (row : c.store.tables.run? runId = some r) (paused : r.status = .paused)
    (unsent : r.reminderSentAt = none) : Unreminded runId h := by
  induction traced generalizing r with
  | nil =>
    rw [begins.runs r (Table.lookup_mem row)] at paused
    cases paused
  | @snoc h c l c' traced guard step ih =>
    obtain ⟨r₀, row₀⟩ := run_begun begins (traced.snoc guard step).reaches row
    obtain ⟨r₁, row₁, -⟩ := run_sound begins row₀ traced.reaches
    obtain ⟨r', events, row', -, move⟩ := step_move step row₁
    cases row.symm.trans row'
    intro entry mem
    rw [since_snoc] at mem
    split at mem
    · exact absurd mem List.not_mem_nil
    rename_i unchanged
    have same : r.status = r₁.status := by
      rw [changesStatus_rows step row₁ row] at unchanged
      exact not_not.mp fun differs => unchanged (decide_eq_true differs)
    obtain rfl | earlier := List.mem_cons.mp mem
    · cases records : reminderOf runId (c, l) with
      | none => rfl
      | some reminder =>
        exact absurd unsent ((reminderOf_row step row₁ records).2.2 r row)
    · have before : r₁.reminderSentAt = none := by
        cases sent : r₁.reminderSentAt with
        | none => rfl
        | some sentAt =>
          have kept := move.reminder_kept same (by rw [sent]; exact Option.some_ne_none _)
          rw [kept, sent] at unsent
          cases unsent
      exact ih row₁ (same ▸ paused) before entry earlier

end Pauses

section Sweeps
variable {all : List ReminderCandidate}

/-- Whether a call reads the candidates of a reminder sweep. -/
def ControlCall.readsReminders : ControlCall schemas → Bool
  | .findReminders .. => true
  | _ => false

/-- The last read of candidates among the calls had a certain answer. -/
def HasRead (all : List ReminderCandidate) (calls : ControlCalls schemas) : Prop :=
  ∃ before cutoff limit after, calls = before ++ ⟨.findReminders cutoff limit, .ok all⟩ :: after ∧
    ∀ event ∈ after, event.1.readsReminders = false

/-- Before a reminder is recorded, the candidate was read. -/
def reminderAccount (calls : ControlCalls schemas) : ControlCall schemas → Prop
  | .worker (.store (.sendReminder k pausedAt _)) => ∃ all, HasRead all calls ∧ ⟨k, pausedAt⟩ ∈ all
  | _ => True

lemma HasRead.snoc {calls : ControlCalls schemas} {event : _} (read : HasRead all calls)
    (other : event.1.readsReminders = false) : HasRead all (calls ++ [event]) := by
  obtain ⟨before, cutoff, limit, after, rfl, quiet⟩ := read
  refine ⟨before, cutoff, limit, after ++ [event], by rw [List.append_assoc, List.cons_append], ?_⟩
  intro e mem
  obtain earlier | last := List.mem_append.mp mem
  · exact quiet e earlier
  · rw [List.mem_singleton.mp last]
    exact other

/-- Every reminder of a sweep is for a candidate of its last read. -/
lemma reminders_account {batchSize afterMs : Nat} :
    Accounts (reminderAccount : ControlCalls schemas → _) (fun _ => True)
      (sweepOnce batchSize afterMs (sendReminders batchSize)) (fun _ _ => True) fun _ _ => True := by
  refine sweepOnce_accounts (fun _ => trivial) fun cutoff now => ?_
  refine .bind (R := fun all => HasRead all) ?_ fun all => ?_
  · refine Accounts.call (fun _ _ => trivial) ?_ fun _ _ _ => trivial
    exact fun before all _ => ⟨before, _, _, [], rfl, fun _ mem => absurd mem List.not_mem_nil⟩
  · refine (changeEach_accounts fun w mem => ?_).mono (fun _ known => known) ?_ ?_
    · refine Accounts.call (fun calls known => ⟨all, known, mem⟩) ?_ fun _ _ _ => trivial
      exact fun _ _ known => known.snoc rfl
    · exact fun _ _ _ => trivial
    · exact fun _ _ _ => trivial

end Sweeps

section Runs
variable {c₀ c c₁ : ControlConfig schemas} {l : (controlPlane schemas d).Label}
  {h h₁ h₂ : ControlHistory schemas d} {runId : Uuid} {i : Nat} {reported : Date}

lemma readBy_some {entry : ControlConfig schemas × (controlPlane schemas d).Label} {cutoff : Date}
    (reads : readBy i entry = some cutoff) :
    ∃ read limit env, entry = (read, .act i (.findReminders cutoff limit) env) := by
  unfold readBy at reads
  split at reads
  · split at reads
    · rename_i same
      subst same
      cases reads
      exact ⟨_, _, _, rfl⟩
    · cases reads
  · cases reads

/-- A candidate is a run that has been paused since before the cutoff. -/
lemma mem_reminderCandidates {s : RunStore Output} {cutoff : Date} {limit : Nat}
    {pausedAt : Option Date} (keyed : (s.runs.map AgentRun.id).Nodup)
    (mem : ⟨runId, pausedAt⟩ ∈ s.reminderCandidates cutoff limit) :
    ∃ r since, s.run? runId = some r ∧ r.status = .paused ∧ r.pausedAt = some since ∧
      since < cutoff ∧ pausedAt = some since := by
  unfold RunStore.reminderCandidates at mem
  obtain ⟨r, taken, same⟩ := List.mem_map.mp mem
  have due := (List.mem_insertionSort _).mp (List.mem_of_mem_take taken)
  obtain ⟨row, test⟩ := List.mem_filter.mp due
  obtain ⟨paused, before, -⟩ := of_decide_eq_true test
  obtain ⟨since, pausedAt, earlier⟩ := (Option.any_eq_true _ _).mp before
  cases same
  exact ⟨r, since, Table.lookup_of_mem keyed row, paused, pausedAt, of_decide_eq_true earlier, pausedAt⟩

/-- What a thread that records a reminder has read. -/
lemma reminder_read {pausedAt : Option Date} {now : Date} {env : WorkerEnvironment schemas}
    (begins : Begins c₀)
    (traced : (controlPlane schemas d).Traced (controlPlane schemas d).Unguarded c₀ h c)
    (split : h = h₁ ++ (c₁, .act i (.worker (.store (.sendReminder runId pausedAt now))) env) :: h₂) :
    ∃ g₁ read cutoff limit env' g₂ r since,
      h₁ = g₁ ++ (read, .act i (.findReminders cutoff limit) env') :: g₂ ∧
      (∀ entry ∈ g₂, readBy i entry = none) ∧
      read.store.tables.run? runId = some r ∧ r.status = .paused ∧ r.pausedAt = some since ∧
      since < cutoff ∧ pausedAt = some since := by
  have before := (traced.split split).1
  obtain ⟨activity, k, at_i⟩ := traced.pending split
  have may : activity.mayCall _ := Traced.mayCall begins before at_i
  cases activity with
  | reminders batchSize afterMs =>
    have account : reminderAccount (System.calls i h₁) _ :=
      before.accounted begins.threads at_i (reminders_account [] trivial)
    obtain ⟨all, ⟨calls, cutoff, limit, after, did, quiet⟩, mem⟩ := account
    obtain ⟨g₁, read, env', g₂, earlier, answer, -, rest⟩ := System.calls_split did
    have answered : env'.answer (read.store.tables.reminderCandidates cutoff limit) = .ok all := answer
    have keyed : (read.store.tables.runs.map AgentRun.id).Nodup := by
      rw [runs_kept (before.split earlier).1.reaches]
      exact begins.keyed
    have found : all = read.store.tables.reminderCandidates cutoff limit := answer_ok answered
    obtain ⟨r, since, row, paused, pausedAt, lt, same⟩ := mem_reminderCandidates keyed (found ▸ mem)
    refine ⟨g₁, read, cutoff, limit, env', g₂, r, since, earlier, ?_, row, paused, pausedAt, lt, same⟩
    intro entry mem
    cases reads : readBy i entry with
    | none => rfl
    | some cutoff' =>
      obtain ⟨c₂, limit', env₂, rfl⟩ := readBy_some reads
      have again := quiet _ (rest ▸ System.mem_calls_of_mem mem)
      cases again
  | delivery | record => cases may
  | _ => exact may.elim

/-- The last read of a history, and what came after it. -/
lemma lastRead_split (g₁ : ControlHistory schemas d) (read : ControlConfig schemas) (cutoff : Date)
    (limit : Nat) (env : WorkerEnvironment schemas) {g₂ : ControlHistory schemas d}
    (quiet : ∀ entry ∈ g₂, readBy i entry = none) :
    lastRead i (g₁ ++ (read, .act i (.findReminders cutoff limit) env) :: g₂) =
        some (read, cutoff) ∧
      since (fun entry => (readBy i entry).isSome)
          (g₁ ++ (read, .act i (.findReminders cutoff limit) env) :: g₂) = g₂.reverse := by
  have reads : readBy i ((read, .act i (.findReminders cutoff limit) env) :
      ControlConfig schemas × (controlPlane schemas d).Label) = some cutoff := if_pos rfl
  constructor
  · have passed : g₂.reverse.findSome?
        (fun entry => (readBy i entry).map fun cutoff => (entry.1, cutoff)) = none := by
      refine List.findSome?_eq_none_iff.mpr fun entry mem => ?_
      rw [quiet entry (List.mem_reverse.mp mem)]
      rfl
    rw [lastRead, List.reverse_append, List.reverse_cons, List.append_assoc, List.singleton_append,
      List.findSome?_append, passed, List.findSome?_cons, reads]
    rfl
  · refine since_split ?_ fun entry mem => ?_
    · rw [reads]
      rfl
    · rw [quiet entry mem]
      rfl

/-- In every history of the control plane, with any interleaving of any number of reminder sweeps with
    actions, jobs and the other sweeps: a recorded reminder is the first of the pause, and it is of
    the pause that the sweep has read, and reports this pause's time, exactly if the run still has the
    control version that it was read with. -/
theorem reminder_honest_iff (begins : Begins c₀)
    (traced : (controlPlane schemas d).Traced (controlPlane schemas d).Unguarded c₀ h c)
    (split : h = h₁ ++ (c₁, l) :: h₂) (records : reminderOf runId (c₁, l) = some (i, reported)) :
    Unreminded runId h₁ ∧ (Honest runId i reported h₁ ↔ ReadCurrent runId i c₁ h₁) := by
  obtain ⟨before, -, c₂, step, -⟩ := traced.split split
  obtain ⟨pausedAt, now, env, rfl, rfl, -⟩ := reminderOf_label records
  obtain ⟨g₁, read, cutoff, limit, env', g₂, r, since, rfl, quiet, row, paused, pausedAt, lt, rfl⟩ :=
    reminder_read begins traced split
  obtain ⟨last, rest⟩ := lastRead_split g₁ read cutoff limit env' quiet
  obtain ⟨r₁, row₁, segment⟩ := paused_segment (before.rest rfl) row paused
  obtain ⟨paused₁, unsent, -⟩ := reminderOf_row step row₁ records
  refine ⟨unreminded_row begins before row₁ paused₁ unsent, ?_⟩
  have versions : versionIn runId read.store = versionIn runId c₁.store ↔
      r₁.controlVersion = r.controlVersion := by
    rw [versionIn, versionIn, row, row₁]
    simp [eq_comm]
  constructor
  · rintro ⟨read', cutoff', last', -, -, -, still⟩
    cases last.symm.trans last'
    refine ⟨read, cutoff, last, versions.mpr ?_⟩
    obtain ⟨-, -, version, -⟩ | ⟨⟨entry, mem, changed⟩, -⟩ := segment
    · exact version
    · exfalso
      obtain rfl | later := List.mem_cons.mp mem
      · -- reading changes nothing
        exact absurd rfl (of_decide_eq_true changed)
      · rw [still entry (rest ▸ List.mem_reverse.mpr later)] at changed
        cases changed
  · rintro ⟨read', cutoff', last', version⟩
    cases last.symm.trans last'
    obtain ⟨unchanged, -, -, same⟩ | ⟨-, later⟩ := segment
    · refine ⟨read, cutoff, last, ?_, lt, ?_, ?_⟩
      · rw [pausedSince_row begins before row₁ paused₁, same, pausedAt]
        rfl
      · rw [statusIn, row, Option.map_some, paused]
      · rw [rest]
        exact fun entry mem => unchanged entry (List.mem_cons_of_mem _ (List.mem_reverse.mp mem))
    · exact absurd (versions.mp version) (Nat.ne_of_gt later)

end Runs

section Scenario

/-- A sweep, thread `thread`, reads its candidates at time 10. -/
def readsCandidates (thread : Nat) : List (plainPlane true 0 {}).Move :=
  [.spawn (.reminders 5 5), .act thread (later 10), .act thread (later 10)]

/-- A sweep reminds of a run that waits for the approval of its plan. -/
def remindsOfPlan : List (plainPlane true 0 {}).Move :=
  asksForPlan ++ readsCandidates 2 ++ proceeds 2 1 0

/-- Between the read and the reminder, the user resumes the run, and pauses it again at time 20. -/
def remindsOfLater : List (plainPlane true 0 {}).Move :=
  asksForPlan ++ readsCandidates 2 ++ acts 3 4 ⟨.resume, none, none, none, none⟩ ++
    acts 4 1 ⟨.pause, none, none, none, none⟩ ++ .act 4 (later 20) :: proceeds 4 1 0 ++
    proceeds 2 1 0

/-- A recorded reminder, found in a history. -/
lemma reminder_found {h : ControlHistory (plainSchemas true 0) {}}
    (found : (h.any fun entry => reminderOf 1 entry = some (2, 0)) = true) :
    ∃ h₁ entry h₂, h = h₁ ++ entry :: h₂ ∧ reminderOf 1 entry = some (2, 0) := by
  obtain ⟨entry, mem, records⟩ := List.any_eq_true.mp found
  obtain ⟨h₁, h₂, split⟩ := List.append_of_mem mem
  exact ⟨h₁, entry, h₂, split, of_decide_eq_true records⟩

/-- `reminder_honest_iff` for a run that waits for the approval of its plan. -/
theorem reminder_honest_iff_plan :
    ∃ (h₁ : ControlHistory (plainSchemas true 0) {}) (c₁ : ControlConfig (plainSchemas true 0)),
      statusIn 1 c₁.store = some .paused ∧
      Unreminded 1 h₁ ∧ (Honest 1 2 0 h₁ ↔ ReadCurrent 1 2 c₁ h₁) := by
  have run : ((plainPlane true 0 {}).record freshPlane remindsOfPlan).any (fun (h, _) =>
      (h.any fun entry => reminderOf 1 entry = some (2, 0)) &&
        System.testsAll (fun _ entry => (reminderOf 1 entry).all fun _ =>
          statusIn 1 entry.1.store = some .paused) h) = true := by
    decide
  obtain ⟨h, c, traced, holds⟩ := System.exists_traced run
  obtain ⟨found, paused⟩ := Bool.and_eq_true_iff.mp holds
  obtain ⟨h₁, ⟨c₁, l⟩, h₂, split, records⟩ := reminder_found found
  have status := System.testsAll_split paused split
  rw [records] at status
  exact ⟨h₁, c₁, of_decide_eq_true status, reminder_honest_iff freshPlane_begins traced split records⟩

/-- A sweep that has read a pause that ended since reminds of a later one. -/
theorem reminder_later_pause :
    ¬ ∀ (c₀ c : ControlConfig (plainSchemas true 0)) (h h₁ h₂ : ControlHistory (plainSchemas true 0) {})
      entry runId i reported, Begins c₀ →
      (plainPlane true 0 {}).Traced (plainPlane true 0 {}).Unguarded c₀ h c →
      h = h₁ ++ entry :: h₂ → reminderOf runId entry = some (i, reported) →
      Unreminded runId h₁ ∧ Honest runId i reported h₁ := by
  intro all
  have run : ((plainPlane true 0 {}).record freshPlane remindsOfLater).any (fun (h, _) =>
      (h.any fun entry => reminderOf 1 entry = some (2, 0)) &&
        System.testsAll (fun h₁ entry => (reminderOf 1 entry).all fun _ =>
          pausedSince 1 h₁ = some 20) h) = true := by
    decide
  obtain ⟨h, c, traced, holds⟩ := System.exists_traced run
  obtain ⟨found, paused⟩ := Bool.and_eq_true_iff.mp holds
  obtain ⟨h₁, entry, h₂, split, records⟩ := reminder_found found
  obtain ⟨-, read, cutoff, -, since, -⟩ := all _ c h h₁ h₂ entry 1 2 0 freshPlane_begins traced split records
  have later := System.testsAll_split paused split
  rw [records, Option.all_some, since] at later
  cases of_decide_eq_true later

end Scenario

end AtomsPlatform.Run
