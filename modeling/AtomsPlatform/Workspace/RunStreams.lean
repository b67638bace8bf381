import AtomsPlatform.Lib.Observers
import AtomsPlatform.Run.StatusHistory
import AtomsPlatform.Workspace.ResumedStreams

/-!
# Streams of the control plane

Browsers that stream a run while the control plane works on it: the worker, the actions of users, the sweeps
and the other components. Every call of the control plane looks to a browser like one transaction that
appends events and sets the status, so what browsers see is a streamed run, and what streams give that are
resumed is what the control plane has appended to the log of the run (`platform_streams`).
-/

namespace AtomsPlatform.Workspace.Delivery
open Interleaving Run
variable {Output Payload : Type} {schemas : AgentOutputSchemas Output} {d : Deployment}
  {validate : RunEventPayload → Option Payload} {runId : Uuid}

section View

/-- A run of the control plane, as far as it is streamed to the members of its workspace. -/
def streamedRun (runId : Uuid) (s : ControlStore schemas) (member : Uuid → Bool) :
    StreamedRun RunEventPayload where
  status := (statusIn runId s).getD .pending
  log := s.tables.logs runId
  member

/-- How the calls of a stream are answered from the tables of the control plane. Only the control plane
    itself commits. -/
def observeRun (runId : Uuid) : (o : StreamCall RunEventPayload Payload) → StreamEnvironment →
    ControlStore schemas → (Uuid → Bool) → Except StreamError o.Result × (Uuid → Bool)
  | .commit _ _, _, _, member => (.error .server, member)
  | o, env, s, member =>
    let (answer, run) := perform o env (streamedRun runId s member)
    (answer, run.member)

/-- The run is one of the control plane. -/
def IsRun (runId : Uuid) (s : ControlStore schemas) : Prop :=
  (s.tables.run? runId).isSome

/-- What a browser asks does not change the run. -/
lemma observeRun_perform (o : StreamCall RunEventPayload Payload) (env : StreamEnvironment)
    (s : ControlStore schemas) (member : Uuid → Bool) : ∃ env', perform o env' (streamedRun runId s member) =
      ((observeRun runId o env s member).1, streamedRun runId s (observeRun runId o env s member).2) := by
  cases o with
  | commit payloads status => exact ⟨{ env with fails := true }, rfl⟩
  | getRun userId =>
    let call : StreamCall RunEventPayload Payload := .getRun userId
    have unchanged : (perform call env (streamedRun runId s member)).2 = streamedRun runId s member := by
      show (perform (.getRun userId : StreamCall RunEventPayload Payload) env _).2 = _
      rw [perform]
      split
      · rfl
      · rfl
    have observed : observeRun runId call env s member =
        ((perform call env (streamedRun runId s member)).1,
          (perform call env (streamedRun runId s member)).2.member) := rfl
    refine ⟨env, ?_⟩
    rw [observed, unchanged]
    exact Prod.ext rfl unchanged
  | listRunEventsAfter | findRun | connected | receive | aborted | delay | setMember =>
    exact ⟨env, rfl⟩

/-- Each call of the control plane looks like a transaction. -/
lemma perform_commits (call : ControlCall schemas) (env : WorkerEnvironment schemas) (s : ControlStore schemas)
    (member : Uuid → Bool) (isRun : IsRun runId s) : IsRun runId (call.perform d env s).2 ∧
      ∃ payloads status, (streamedRun runId s member).commit payloads status =
        streamedRun runId (call.perform d env s).2 member := by
  obtain ⟨r, row⟩ := Option.isSome_iff_exists.mp isRun
  obtain ⟨r', events, row', log, -⟩ := perform_stepMove (d := d) call env 0 s row
  refine ⟨Option.isSome_iff_exists.mpr ⟨r', row'⟩, events, r'.status, ?_⟩
  unfold streamedRun StreamedRun.commit statusIn
  rw [row', log]
  rfl

/-- Browsers see a streamed run. -/
lemma observes : System.Observes (controlPlane schemas d) (streamSystem validate) (streamedRun runId)
    (observeRun runId) (IsRun runId) where
  answers o env s member _ := observeRun_perform o env s member
  invariant call env s isRun := (perform_commits call env s (fun _ => true) isRun).1
  moves call env s member isRun := by
    obtain ⟨payloads, status, result⟩ := (perform_commits (d := d) call env s member isRun).2
    exact ⟨.commit payloads status, .commit payloads status, _, {}, trivial, rfl, result⟩

end View

section Runs

/-- The control plane, with browsers that stream one of its runs. -/
abbrev watchedPlane (schemas : AgentOutputSchemas Output) (d : Deployment)
    (validate : RunEventPayload → Option Payload) (runId : Uuid) :
    System (ControlCall schemas ⊕ StreamCall RunEventPayload Payload)
      (BothAnswers (fun call => Except Thrown call.Answer) fun o => Except StreamError o.Result)
      (ControlStore schemas × (Uuid → Bool)) (ControlActivity Output ⊕ StreamTag RunEventPayload)
      (Except Thrown Unit ⊕ (Except StreamError StreamEnd × StreamState Payload)) :=
  (controlPlane schemas d).beside (streamSystem validate) (streamedRun runId) (observeRun runId)

/-- Configurations of the control plane with browsers. -/
abbrev WatchedConfig (schemas : AgentOutputSchemas Output) (Payload : Type) : Type :=
  Config (ControlCall schemas ⊕ StreamCall RunEventPayload Payload)
    (BothAnswers (fun call => Except Thrown call.Answer) fun o => Except StreamError o.Result)
    (ControlStore schemas × (Uuid → Bool)) (ControlActivity Output ⊕ StreamTag RunEventPayload)
    (Except Thrown Unit ⊕ (Except StreamError StreamEnd × StreamState Payload))

variable {c₀ : ControlConfig schemas} {c : WatchedConfig schemas Payload} {member : Uuid → Bool}
  {h : List (WatchedConfig schemas Payload × (watchedPlane schemas d validate runId).Label)}

/-- What the control plane and browsers lead to, from before anything was started. -/
abbrev Watched (c₀ : ControlConfig schemas) (member : Uuid → Bool)
    (h : List (WatchedConfig schemas Payload × (watchedPlane schemas d validate runId).Label))
    (c : WatchedConfig schemas Payload) : Prop :=
  (watchedPlane schemas d validate runId).Traced (watchedPlane schemas d validate runId).Unguarded
    ⟨(c₀.store, member), []⟩ h c

/-- Streams of browsers that ended, each of which was opened with the number that the one before it had
    reached: from which number on, what they gave, and the number of the last one. -/
inductive Watches (c : WatchedConfig schemas Payload) (after : Nat) : List (RunEvent Payload) → Nat → Prop where
  | start : Watches c after [] after
  | stream {delivered : List (RunEvent Payload)} {i : Nat} {userId : Uuid} {cursor rounds connections : Nat}
    {result : Except StreamError StreamEnd} {v : StreamState Payload} :
    Watches c after delivered cursor →
    c.threads[i]? = some ⟨.inr (.browser userId cursor rounds connections), .ret (.inr (result, v))⟩ →
    Watches c after (delivered ++ v.delivered) v.cursor

/-- They are streams of the streamed run that browsers see. -/
lemma Watches.resumed {after cursor : Nat} {delivered : List (RunEvent Payload)}
    {seen : StreamConfig RunEventPayload Payload} (watches : Watches c after delivered cursor)
    (sees : System.Seen (streamedRun runId) c seen) : Resumed seen after delivered cursor := by
  obtain ⟨place, placed⟩ := sees.placed
  induction watches with
  | start => exact .start
  | stream _ at_i ih =>
    obtain ⟨q, is, here⟩ := placed.observers _ _ _ at_i
    rw [Prog.eq_ret_of_right is.symm] at here
    exact ih.stream here

/-- A run that was created looks like a streamed run without events. -/
lemma streamedRun_begins (begins : Begins c₀) (isRun : IsRun runId c₀.store) :
    streamedRun runId c₀.store member = { member } := by
  obtain ⟨r, row⟩ := Option.isSome_iff_exists.mp isRun
  have fresh : r.status = .pending := by
    rw [begins.runs r (Table.lookup_mem row)]
    rfl
  unfold streamedRun statusIn
  rw [row, begins.logs, Option.map_some, fresh]
  rfl

/-- Whatever the control plane does with a run, and however the streams of browsers end: browsers see a
    streamed run, and streams each of which was opened at the number that the one before has reached have
    called `onEvent` for the events of the log of the run after the first number up to the last one, once for
    each of them and in their order. -/
theorem platform_streams (begins : Begins c₀) (isRun : IsRun runId c₀.store)
    (watched : Watched c₀ member h c) :
    (∃ (h' : StreamHistory validate) (seen : StreamConfig RunEventPayload Payload),
      Streamed member h' seen ∧ System.Seen (streamedRun runId) c seen) ∧
      ∀ after delivered cursor, Watches c after delivered cursor →
        after ≤ cursor ∧ cursor ≤ max after (c.store.1.tables.logs runId).events.length ∧
          delivered.map calledWith =
            ((c.store.1.tables.logs runId).events.filter fun event =>
              after < event.sequence ∧ event.sequence ≤ cursor).map (validated validate) := by
  obtain ⟨-, h', seen, streamed, sees⟩ := watched.observed observes isRun
  rw [streamedRun_begins begins isRun] at streamed
  refine ⟨⟨h', seen, streamed, sees⟩, fun after delivered cursor watches => ?_⟩
  have log : seen.store.log = c.store.1.tables.logs runId := congrArg StreamedRun.log sees.store
  rw [← log]
  exact (watches.resumed sees).given streamed

section Scenario

instance (s : ControlStore schemas × (Uuid → Bool)) (tag : ControlActivity Output ⊕ StreamTag RunEventPayload) :
    Decidable ((watchedPlane schemas d validate runId).admits s tag) :=
  match tag with
  | .inl activity => inferInstanceAs (Decidable (activity.admitted s.1 = true))
  | .inr _ => inferInstanceAs (Decidable True)

/-- The control plane of the scenario, and a browser that passes on what is stored. -/
abbrev plainWatched : System (ControlCall (plainSchemas false 0) ⊕ StreamCall RunEventPayload RunEventPayload)
    (BothAnswers (fun call => Except Thrown call.Answer) fun o => Except StreamError o.Result)
    (ControlStore (plainSchemas false 0) × (Uuid → Bool)) (ControlActivity Unit ⊕ StreamTag RunEventPayload)
    (Except Thrown Unit ⊕ (Except StreamError StreamEnd × StreamState RunEventPayload)) :=
  watchedPlane (plainSchemas false 0) {} some 1

/-- What calls meet that go well; the second one is answered that it does not hold. -/
def goesOn : WorkerEnvironment (plainSchemas false 0) × StreamEnvironment :=
  (smoothly 0, {})

def stopsThere : WorkerEnvironment (plainSchemas false 0) × StreamEnvironment :=
  (smoothly 0, no)

/-- A preview of the run is stopped, and the run is cancelled, while a browser streams it. -/
def cancelledWhileWatched : List plainWatched.Move :=
  [.spawn (.inr (.browser 1 0 2 2)), .act 0 stopsThere, .act 0 goesOn,
    .spawn (.inl (.append 1 (.previewStopped 7 9))), .act 1 goesOn,
    .spawn (.inl (.control 1 { action := .cancel })), .act 2 goesOn, .act 2 goesOn, .act 2 goesOn,
    .act 0 goesOn, .act 0 goesOn, .act 0 goesOn, .act 0 goesOn, .act 0 stopsThere, .act 0 goesOn]

/-- How a browser ended: the user, the number it started with, how it ended, and its variables. -/
def endedStream (c : WatchedConfig (plainSchemas false 0) RunEventPayload) (i : Nat) :
    Option (Uuid × Nat × Bool × StreamState RunEventPayload) :=
  match c.threads[i]? with
  | some ⟨.inr (.browser userId after _ _), .ret (.inr (result, v))⟩ => some (userId, after, result.isOk, v)
  | _ => none

lemma endedStream_eq {c : WatchedConfig (plainSchemas false 0) RunEventPayload} {i : Nat} {userId : Uuid}
    {after : Nat} {ok : Bool} {v : StreamState RunEventPayload}
    (e : endedStream c i = some (userId, after, ok, v)) : ∃ rounds connections result,
      c.threads[i]? = some ⟨.inr (.browser userId after rounds connections), .ret (.inr (result, v))⟩ := by
  unfold endedStream at e
  split at e
  · rename_i at_i
    cases e
    exact ⟨_, _, _, at_i⟩
  · cases e

theorem platform_streams_cancelled :
    ∃ (h : List (WatchedConfig (plainSchemas false 0) RunEventPayload × plainWatched.Label))
      (c : WatchedConfig (plainSchemas false 0) RunEventPayload),
      Watched freshPlane (fun _ => true) h c ∧
        Watches c 0 [⟨1, .ofOther (.previewStopped 7 9)⟩] 1 ∧
        1 ≤ max 0 (c.store.1.tables.logs 1).events.length := by
  have run : (plainWatched.record ⟨(freshPlane.store, fun _ => true), []⟩ cancelledWhileWatched).any (fun r =>
      endedStream r.2 0 = some (1, 0, true,
        { cursor := 1, delivered := [⟨1, .ofOther (.previewStopped 7 9)⟩], served := 1 })) = true := by
    decide
  obtain ⟨h, c, watched, ends⟩ := System.exists_traced run
  obtain ⟨_, _, _, at_first⟩ := endedStream_eq (of_decide_eq_true ends)
  have watches : Watches c 0 [⟨1, .ofOther (.previewStopped 7 9)⟩] 1 := .stream .start at_first
  have isRun : IsRun 1 (freshPlane : ControlConfig (plainSchemas false 0)).store := rfl
  have streams := platform_streams freshPlane_begins isRun watched
  exact ⟨h, c, watched, watches, (streams.2 0 _ 1 watches).2.1⟩

end Scenario
end Runs

end AtomsPlatform.Workspace.Delivery
