import AtomsPlatform.Workspace.DeliveredEvents

/-!
# Streams that are resumed

A stream ends when the run has ended, when it is aborted, or with an error of the connection, of the control
API, or of `onEvent`. The workspace opens the next stream with the number of the last event it has. However
the streams end, and whatever is committed in the meantime, the workspace is given the events of the log one
after the other, each of them once (`resumed_window`).
-/

namespace AtomsPlatform.Workspace.Delivery
open Interleaving
variable {Stored Payload : Type} {validate : Stored → Option Payload} {after : Nat} {userId : Uuid}

section Seen
variable {v : StreamState Payload} {reads : List (EventsRead Stored)}

/-- What the browser was given follows a log that was read. -/
def Seen (validate : Stored → Option Payload) (after : Nat) (v : StreamState Payload)
    (reads : List (EventsRead Stored)) : Prop :=
  ∃ log, (log = {} ∨ ∃ read ∈ reads, read.log = log) ∧ Follows validate after v log

lemma Streams.seen (streams : Streams validate after v reads) : Seen validate after v reads :=
  streams.follows

lemma Writing.seen {rest : List (RunEvent Stored)} (writing : Writing validate after rest v reads) :
    Seen validate after v reads := by
  obtain ⟨earlier, read, done, rfl, sound, follows, -⟩ := writing.begun
  exact ⟨read.log, .inr ⟨read, List.mem_append_right _ (List.mem_singleton.mpr rfl), rfl⟩, follows⟩

/-- What is asked of any error. An error of the control API only ends the connection, and the browser goes
    on from there. -/
def Breaks (validate : Stored → Option Payload) (after : Nat) (error : StreamError) (v : StreamState Payload)
    (reads : List (EventsRead Stored)) : Prop :=
  Seen validate after v reads ∧ (error = .server → Streams validate after v reads)

lemma Streams.breaks (streams : Streams validate after v reads) (error : StreamError) :
    Breaks validate after error v reads :=
  ⟨streams.seen, fun _ => streams⟩

end Seen

section Programs

/-- A call that leaves the reads alone, from where the browser goes on or fails. -/
lemma breaks_call {P : StreamState Payload → List (EventsRead Stored) → Prop} (o : StreamCall Stored Payload)
    (limited : ∀ reads, Limited reads o) (quiet : ∀ env s reads, noteRead o env s reads = reads)
    (imp : ∀ v reads, P v reads → Streams validate after v reads) :
    Mutable.Triple (reading validate) P (call o) (fun _ => P) (Breaks validate after) :=
  (keeps_call o limited quiet).mono (fun _ _ holds => holds) (fun _ _ _ holds => holds)
    fun error _ _ holds => (imp _ _ holds).breaks error

/-- The browser takes an event or fails, and has then not got it. -/
lemma breaks_receive {event : RunEvent Stored} {rest : List (RunEvent Stored)} {payload : Payload} :
    Mutable.Triple (reading validate) (Writing validate after (event :: rest))
      (receive ⟨event.sequence, payload⟩) (fun _ => Given validate after event payload rest)
      (Breaks validate after) := by
  apply Mutable.Triple.bind (R := fun _ => Writing validate after (event :: rest))
  · apply Mutable.Triple.invoke
    intro v reads writing
    refine ⟨trivial, fun env s _ => ?_⟩
    show Outcome _ _ (env.answer StreamError.browser ())
    unfold StreamEnvironment.answer
    split
    · exact ⟨writing.seen, nofun⟩
    · exact writing
  · intro _
    apply Mutable.Triple.modify
    intro v reads writing
    have next := writing.next
    have new : ¬event.sequence ≤ v.cursor := by omega
    exact ⟨v, writing, if_neg new⟩

lemma breaks_writeEvents {events : List (RunEvent Stored)} :
    Mutable.Triple (reading validate) (Writing validate after events) (writeEvents validate events)
      (fun _ => Serving validate after) (Breaks validate after) := by
  induction events with
  | nil => exact .pure fun v reads writing => ⟨writing.streams nofun, writing.served⟩
  | cons event events ih =>
    unfold writeEvents
    cases valid : validate event.payload with
    | none =>
      -- An event that is not valid ends the stream of the connection: it was written up to here.
      apply Mutable.Triple.throw
      intro v reads writing
      apply Streams.breaks
      apply writing.streams
      intro other first
      cases first
      exact valid
    | some payload =>
      apply Mutable.Triple.bind breaks_receive
      intro _
      apply Mutable.Triple.bind (R := fun _ => Writing validate after events) _ fun _ => ih
      exact .modify fun v reads given => given.taken valid

lemma breaks_write {events : List (RunEvent Stored)} :
    Mutable.Triple (reading validate) (Listed validate after events) (writeEvents validate events)
      (fun _ => Serving validate after) (Breaks validate after) := by
  intro v reads listed
  rcases listed with writing | ⟨rfl, serving⟩
  · exact breaks_writeEvents v reads writing
  · exact serving

lemma breaks_list {served : Nat} :
    Mutable.Triple (reading validate) (fun v reads => Serving validate after v reads ∧ v.served = served)
      (call (.listRunEventsAfter userId served 100)) (fun events => Listed validate after events)
      (Breaks validate after) := by
  apply Mutable.Triple.invoke
  intro v reads both
  obtain ⟨serving, rfl⟩ := both
  refine ⟨rfl, fun env s from_log => ?_⟩
  show Outcome _ _ (env.answer StreamError.server _)
  unfold StreamEnvironment.answer
  cases fails : env.fails with
  | true =>
    have failed : ¬(env.fails = false ∧ s.member userId = true) := by
      rw [fails]
      exact fun both => nomatch both.1
    show Breaks validate after .server v (noteRead _ env s reads)
    rw [noteRead_unnoted failed]
    exact serving.streams.breaks .server
  | false => exact serving.listed from_log fails

/-- The loop of the route. -/
lemma breaks_serveEvents {rounds : Nat} :
    Mutable.Triple (reading validate) (Serving validate after) (serveEvents validate userId rounds)
      (fun _ => Streams validate after) (Breaks validate after) := by
  induction rounds with
  | zero => exact .throw fun _ _ serving => serving.streams.breaks _
  | succ rounds ih =>
    unfold serveEvents
    apply Mutable.Triple.bind
      (breaks_call .connected (fun _ => trivial) (fun _ _ _ => rfl) fun _ _ => Serving.streams)
    intro connected
    split
    · apply Mutable.Triple.bind
        (R := fun v₀ v reads => Serving validate after v reads ∧ v.served = v₀.served)
        (.get fun v reads serving => ⟨serving, rfl⟩)
      intro v₀
      apply Mutable.Triple.bind breaks_list
      intro events
      apply Mutable.Triple.bind breaks_write
      intro _
      split
      · exact ih
      · apply Mutable.Triple.bind
          (breaks_call (.findRun userId) (fun _ => trivial) (fun _ _ _ => rfl) fun _ _ => Serving.streams)
        intro latestRun
        split
        · exact .pure fun _ _ => Serving.streams
        · exact ih
    · exact .pure fun _ _ => Serving.streams

/-- A connection ends or breaks; an error of the control API ends it. -/
lemma breaks_connection {rounds cursor : Nat} :
    Mutable.Triple (reading validate) (fun v reads => Streams validate after v reads ∧ v.cursor = cursor)
      (connection validate userId rounds cursor) (fun _ => Streams validate after) (Breaks validate after) := by
  apply Mutable.Triple.bind (R := fun _ => Serving validate after)
  · apply Mutable.Triple.modify
    intro v reads both
    obtain ⟨⟨⟨log, known, follows⟩, reached⟩, rfl⟩ := both
    exact ⟨⟨⟨log, known, ⟨follows.numbered, follows.start, follows.within, follows.delivered⟩⟩, reached⟩, rfl⟩
  · intro _
    apply Mutable.Triple.tryCatch breaks_serveEvents
    intro error
    split
    · rename_i is
      exact .pure fun v reads ends => ends.2 is
    · exact .throw fun _ _ ends => ends

lemma breaks_streamRoute {rounds cursor : Nat} :
    Mutable.Triple (reading validate) (fun v reads => Streams validate after v reads ∧ v.cursor = cursor)
      (streamRoute validate userId rounds cursor) (fun _ => Streams validate after)
      (Breaks validate after) := by
  apply Mutable.Triple.bind
    (breaks_call (.findRun userId) (fun _ => trivial) (fun _ _ _ => rfl) fun _ _ both => both.1)
  intro run
  split
  · rename_i status same_cursor parsed
    have same : same_cursor = cursor := by
      unfold parseLastEventId at parsed
      split at parsed
      · cases parsed
      · exact (Option.some.inj parsed).symm
    rw [same]
    exact breaks_connection
  · exact .throw fun _ _ both => both.1.breaks _

/-- However a stream ends, what it gave follows the log. -/
lemma breaks_streamRunEvents {rounds connections : Nat} :
    Mutable.Triple (reading validate) (Streams validate after)
      (streamRunEvents validate userId rounds connections)
      (fun _ => Streams validate after) (Breaks validate after) := by
  have alone (o : StreamCall Stored Payload) (limited : ∀ reads, Limited reads o)
      (quiet : ∀ env s reads, noteRead o env s reads = reads) :
      Mutable.Triple (reading validate) (Streams validate after) (call o) (fun _ => Streams validate after)
        (Breaks validate after) :=
    breaks_call o limited quiet fun _ _ streams => streams
  induction connections with
  | zero => exact .throw fun _ _ streams => streams.breaks _
  | succ connections ih =>
    unfold streamRunEvents
    apply Mutable.Triple.bind (alone .aborted (fun _ => trivial) fun _ _ _ => rfl)
    intro aborted
    split
    · exact .pure fun _ _ streams => streams
    apply Mutable.Triple.bind (R := fun v₀ v reads => Streams validate after v reads ∧ v.cursor = v₀.cursor)
      (.get fun v reads streams => ⟨streams, rfl⟩)
    intro v₀
    apply Mutable.Triple.bind breaks_streamRoute
    intro _
    apply Mutable.Triple.bind (alone .aborted (fun _ => trivial) fun _ _ _ => rfl)
    intro aborted
    split
    · exact .pure fun _ _ streams => streams
    apply Mutable.Triple.bind (alone (.getRun userId) (fun _ => trivial) fun _ _ _ => rfl)
    intro status
    split
    · exact .pure fun _ _ streams => streams
    exact .bind (alone .delay (fun _ => trivial) fun _ _ _ => rfl) fun _ => ih

end Programs

section Resuming
variable {member : Uuid → Bool} {h : StreamHistory validate} {c : StreamConfig Stored Payload}

/-- What a browser was given, however it ended. -/
def LeftWith (validate : Stored → Option Payload) :
    StreamTag Stored → Except StreamError StreamEnd × StreamState Payload → List (EventsRead Stored) → Prop
  | .browser _ after _ _, (_, v), reads => Seen validate after v reads
  | _, _, _ => True

lemma program_seen (tag : StreamTag Stored) :
    ((streamSystem validate).body tag).Satisfies (reading validate) (LeftWith validate tag) [] := by
  cases tag with
  | browser userId after rounds connections =>
    have triple : Mutable.Triple (reading validate) (Streams validate after)
        (streamRunEvents validate userId rounds connections) (fun _ => Streams validate after)
        (Breaks validate after) := breaks_streamRunEvents
    apply (triple _ [] .start).mono
    intro r reads ends
    obtain ⟨result, v⟩ := r
    cases result with
    | ok stopped => exact Streams.seen ends
    | error error => exact And.left ends
  | commit payloads status => exact ⟨trivial, fun _ _ _ => trivial⟩
  | setMember userId member => exact ⟨trivial, fun _ _ _ => trivial⟩

/-- A stream that ended, whatever the end was, has given the events of the log up to its cursor. -/
lemma follows_ended (streamed : Streamed member h c) {i : Nat} {userId : Uuid} {after rounds connections : Nat}
    {result : Except StreamError StreamEnd} {v : StreamState Payload}
    (at_i : c.threads[i]? = some ⟨.browser userId after rounds connections, .ret (result, v)⟩) :
    Follows validate after v c.store.log := by
  obtain ⟨relies, -, judged⟩ := streamed.accounts rfl relied program_seen
  obtain ⟨log, known, follows⟩ : Seen validate after v (readsOf i h) := judged i _ at_i
  have longer : log.events <+: c.store.log.events := by
    rcases known with rfl | ⟨read, mem, rfl⟩
    · exact List.nil_prefix
    · exact (relies i).earlier read mem
  exact follows.extend (relies i).numbered longer

/-- Streams that ended, each of which was opened with the number that the one before it had reached: from
    which number on, what they gave, and the number of the last one. -/
inductive Resumed (c : StreamConfig Stored Payload) (after : Nat) : List (RunEvent Payload) → Nat → Prop where
  | start : Resumed c after [] after
  | stream {delivered : List (RunEvent Payload)} {i : Nat} {userId : Uuid} {cursor rounds connections : Nat}
    {result : Except StreamError StreamEnd} {v : StreamState Payload} :
    Resumed c after delivered cursor →
    c.threads[i]? = some ⟨.browser userId cursor rounds connections, .ret (result, v)⟩ →
    Resumed c after (delivered ++ v.delivered) v.cursor

/-- Two windows, one after the other. -/
lemma window_append {after cursor n : Nat} {events : List (RunEvent Stored)} (first : after ≤ cursor)
    (second : cursor ≤ n) (within : cursor ≤ max after events.length) :
    window after cursor events ++ window cursor n events = window after n events := by
  by_cases inside : cursor ≤ events.length
  · have length : (events.take cursor).length = cursor := List.length_take_of_le inside
    have parts : events.take n = events.take cursor ++ (events.take n).drop cursor := by
      have again : (events.take n).take cursor = events.take cursor := by
        rw [List.take_take, Nat.min_eq_left second]
      rw [← again, List.take_append_drop]
    calc (events.take cursor).drop after ++ (events.take n).drop cursor
        = (events.take cursor ++ (events.take n).drop cursor).drop after := by
          rw [List.drop_append_of_le_length (by omega)]
      _ = (events.take n).drop after := by rw [← parts]
  · -- Nothing is after `cursor`, and `after` is the same number.
    have same : cursor = after := by omega
    have empty : window after cursor events = [] := by
      apply List.eq_nil_of_length_eq_zero
      rw [length_window]
      omega
    rw [empty, same, List.nil_append]

/-- What streams have given that were resumed. -/
lemma Resumed.given {delivered : List (RunEvent Payload)} {cursor : Nat}
    (resumed : Resumed c after delivered cursor) (streamed : Streamed member h c) :
    after ≤ cursor ∧ cursor ≤ max after c.store.log.events.length ∧
      delivered.map calledWith =
        (c.store.log.events.filter fun event => after < event.sequence ∧ event.sequence ≤ cursor).map
          (validated validate) := by
  have numbered := numbered_log streamed
  rw [numbered.filter]
  induction resumed with
  | start =>
    refine ⟨le_refl _, Nat.le_max_left _ _, ?_⟩
    have empty : window after after c.store.log.events = [] := by
      apply List.eq_nil_of_length_eq_zero
      rw [length_window]
      omega
    rw [empty]
    rfl
  | @stream delivered i userId cursor rounds connections result v _ at_i ih =>
    obtain ⟨started, reached, given⟩ := ih
    have follows := follows_ended streamed at_i
    have first := follows.start
    have within := follows.within
    refine ⟨by omega, by omega, ?_⟩
    rw [List.map_append, given, follows.delivered, ← List.map_append, window_append started first reached]

/-- However streams end, and whatever is committed while they run: with each of them opened at the number
    that the one before has reached, `onEvent` was called for the events of the log after the first number
    up to the last one, once for each of them and in their order. -/
theorem resumed_window (streamed : Streamed member h c) {delivered : List (RunEvent Payload)} {cursor : Nat}
    (resumed : Resumed c after delivered cursor) :
    after ≤ cursor ∧ cursor ≤ max after c.store.log.events.length ∧
      delivered.map calledWith =
        (c.store.log.events.filter fun event => after < event.sequence ∧ event.sequence ≤ cursor).map
          (validated validate) :=
  resumed.given streamed

section Scenario

/-- How a browser ended: the user, the number it started with, how it ended, and its variables. -/
def endedState (c : StreamConfig Stored Payload) (i : Nat) :
    Option (Uuid × Nat × Bool × StreamState Payload) :=
  match c.threads[i]? with
  | some ⟨.browser userId after _ _, .ret (result, v)⟩ => some (userId, after, result.isOk, v)
  | _ => none

lemma endedState_eq {i : Nat} {userId : Uuid} {after : Nat} {ok : Bool} {v : StreamState Payload}
    (e : endedState c i = some (userId, after, ok, v)) :
    ∃ rounds connections result,
      c.threads[i]? = some ⟨.browser userId after rounds connections, .ret (result, v)⟩ := by
  unfold endedState at e
  split at e
  · rename_i at_i
    cases e
    exact ⟨_, _, _, at_i⟩
  · cases e

/-- What a call meets that fails. -/
def fails : StreamEnvironment :=
  { fails := true }

/-- A first stream breaks after its first event, and a second one goes on from there. -/
def resumedRun : List (streamSystem (some : String → Option String)).Move :=
  [.spawn (.browser 1 0 2 2), .spawn (.commit ["task.started", "run.completed"] .completed), .act 1 {},
    .act 0 no, .act 0 {}, .act 0 {}, .act 0 {}, .act 0 {}, .act 0 fails,
    .spawn (.browser 1 1 2 2), .act 2 no, .act 2 {}, .act 2 {}, .act 2 {}, .act 2 {}, .act 2 {}, .act 2 no,
    .act 2 {}]

/-- A test of a history at its end: how both streams ended. -/
def resumesAs (r : StreamHistory (some : String → Option String) × StreamConfig String String) : Bool :=
  endedState r.2 0 = some (1, 0, false, { cursor := 1, delivered := [⟨1, "task.started"⟩], served := 1 }) &&
    endedState r.2 2 = some (1, 1, true, { cursor := 2, delivered := [⟨2, "run.completed"⟩], served := 2 })

theorem resumed_window_broken :
    ∃ (h : StreamHistory (some : String → Option String)) (c : StreamConfig String String),
      Streamed (fun _ => true) h c ∧
        Resumed c 0 [⟨1, "task.started"⟩, (⟨2, "run.completed"⟩ : RunEvent String)] 2 ∧
        2 ≤ max 0 c.store.log.events.length ∧
        [(1, some "task.started"), (2, some "run.completed")] =
          (c.store.log.events.filter fun event => 0 < event.sequence ∧ event.sequence ≤ 2).map
            (validated some) := by
  have run :
      ((streamSystem (some : String → Option String)).record ⟨{}, []⟩ resumedRun).any resumesAs = true := by
    decide
  obtain ⟨h, c, traced, ends⟩ := System.exists_traced run
  obtain ⟨first, second⟩ := Bool.and_eq_true_iff.mp ends
  obtain ⟨_, _, _, at_first⟩ := endedState_eq (of_decide_eq_true first)
  obtain ⟨_, _, _, at_second⟩ := endedState_eq (of_decide_eq_true second)
  have resumed : Resumed c 0 [⟨1, "task.started"⟩, (⟨2, "run.completed"⟩ : RunEvent String)] 2 :=
    .stream (.stream .start at_first) at_second
  obtain ⟨-, within, given⟩ := resumed_window traced resumed
  exact ⟨h, c, traced, resumed, within, given⟩

end Scenario
end Resuming

end AtomsPlatform.Workspace.Delivery
