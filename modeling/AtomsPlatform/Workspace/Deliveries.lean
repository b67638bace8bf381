import AtomsPlatform.Workspace.Delivery

/-!
# What a stream has delivered

The events that a browser was given are those of the log between its first number and its cursor, each of
them once. The cursor is where the reads of its connections have come: it has passed a number exactly if one
of them covers the number (`Covers`).
-/

namespace AtomsPlatform.Workspace.Delivery
open Interleaving
variable {Stored Payload : Type}

section Logs
variable {log log' : RunLog Stored} {event : RunEvent Stored} {payloads : List Stored}

/-- The events of a log are numbered up to its counter. -/
def Numbered (log : RunLog Stored) : Prop :=
  log.events.map RunEvent.sequence = List.range' 1 log.eventSequence

lemma Numbered.length (numbered : Numbered log) : log.events.length = log.eventSequence := by
  have lengths := congrArg List.length numbered
  rwa [List.length_map, List.length_range'] at lengths

lemma Numbered.sequence {n : Nat} (numbered : Numbered log) (at_n : log.events[n]? = some event) :
    event.sequence = n + 1 := by
  have lt : n < log.eventSequence := by
    rw [← numbered.length]
    exact (List.getElem?_eq_some_iff.mp at_n).1
  have number : (log.events.map RunEvent.sequence)[n]? = some event.sequence := by
    rw [List.getElem?_map, at_n]
    rfl
  rw [numbered, List.getElem?_range' lt] at number
  have same := Option.some.inj number
  omega

lemma Numbered.append {payload : Stored} (numbered : Numbered log) : Numbered (log.append payload) := by
  show (log.events ++ [_]).map RunEvent.sequence = _
  rw [List.map_append, numbered]
  show _ = List.range' 1 (log.eventSequence + 1)
  rw [List.range'_concat]
  have next : log.eventSequence + 1 = 1 + 1 * log.eventSequence := by omega
  rw [List.map_singleton, next]

/-- A transaction keeps the numbering, and what was in the log. -/
lemma Numbered.foldl (numbered : Numbered log) (payloads : List Stored) :
    Numbered (payloads.foldl RunLog.append log) ∧ log.events <+: (payloads.foldl RunLog.append log).events ∧
      (payloads.foldl RunLog.append log).eventSequence = log.eventSequence + payloads.length := by
  induction payloads generalizing log with
  | nil => exact ⟨numbered, List.prefix_refl _, rfl⟩
  | cons payload payloads ih =>
    obtain ⟨kept, longer, counter⟩ := ih numbered.append
    refine ⟨kept, (List.prefix_append log.events _).trans longer, counter.trans ?_⟩
    show log.eventSequence + 1 + payloads.length = log.eventSequence + (payloads.length + 1)
    omega

/-- In a list that is numbered from `start`, the elements above a number are the last ones. -/
lemma filter_above {α : Type} {f : α → Nat} {l : List α} {start q : Nat}
    (numbers : l.map f = List.range' start l.length) :
    (l.filter fun a => q < f a) = l.drop (q + 1 - start) := by
  induction l generalizing start with
  | nil => rw [List.drop_nil]; rfl
  | cons a l ih =>
    obtain ⟨first, rest⟩ := List.cons.inj (numbers.trans List.range'_succ)
    rw [List.filter_cons, ih rest]
    by_cases above : q < start
    · have all : q + 1 - start = 0 := by omega
      have all' : q + 1 - (start + 1) = 0 := by omega
      rw [first, if_pos (decide_eq_true above), all, all']
      rfl
    · have next : q + 1 - start = q + 1 - (start + 1) + 1 := by omega
      rw [first, if_neg (fun holds => above (of_decide_eq_true holds)), next]
      rfl

/-- In a list that is numbered from `start`, the elements up to a number are the first ones. -/
lemma filter_upTo {α : Type} {f : α → Nat} {l : List α} {start n : Nat}
    (numbers : l.map f = List.range' start l.length) :
    (l.filter fun a => f a ≤ n) = l.take (n + 1 - start) := by
  induction l generalizing start with
  | nil => rw [List.take_nil]; rfl
  | cons a l ih =>
    obtain ⟨first, rest⟩ := List.cons.inj (numbers.trans List.range'_succ)
    rw [List.filter_cons, ih rest]
    by_cases within : start ≤ n
    · have next : n + 1 - start = n + 1 - (start + 1) + 1 := by omega
      rw [first, if_pos (decide_eq_true within), next]
      rfl
    · have none : n + 1 - start = 0 := by omega
      have none' : n + 1 - (start + 1) = 0 := by omega
      rw [first, if_neg (fun holds => within (of_decide_eq_true holds)), none, none']
      rfl

/-- The first elements of a numbered list are numbered. -/
lemma numbers_take {α : Type} {f : α → Nat} {l : List α} {start n : Nat}
    (numbers : l.map f = List.range' start l.length) :
    (l.take n).map f = List.range' start (l.take n).length := by
  rw [List.map_take, numbers, List.length_take]
  rcases Nat.le_total n l.length with le | le
  · rw [List.take_range'_of_length_ge le, Nat.min_eq_left le]
  · rw [List.take_range'_of_length_le le, Nat.min_eq_right le]

lemma Numbered.numbers (numbered : Numbered log) :
    log.events.map RunEvent.sequence = List.range' 1 log.events.length := by
  rw [numbered.length]
  exact numbered

/-- What is listed after a number is what is stored after it. -/
lemma listRunEventsAfter_eq {s : StreamedRun Stored} {userId : Uuid} {q limit : Nat}
    (numbered : Numbered s.log) (member : s.member userId = true) :
    listRunEventsAfter userId q limit s = (s.log.events.drop q).take limit := by
  have numbers : (s.log.events.map RunEvent.sequence).Pairwise (· ≤ ·) := by
    rw [numbered]
    exact List.pairwise_le_range'
  have ascending : s.log.events.Pairwise fun left right => left.sequence ≤ right.sequence :=
    List.pairwise_map.mp numbers
  rw [listRunEventsAfter, if_pos member]
  have sorted := (ascending.filter fun event => decide (q < event.sequence)).insertionSort_eq
  rw [sorted, filter_above numbered.numbers]
  rfl

/-- The events of a log after one number, up to another one. -/
def window (after n : Nat) (events : List (RunEvent Stored)) : List (RunEvent Stored) :=
  (events.take n).drop after

/-- What is appended does not change a window that was complete, or empty. -/
lemma window_longer {after n : Nat} {events events' : List (RunEvent Stored)} (longer : events <+: events')
    (within : n ≤ max after events.length) : window after n events' = window after n events := by
  obtain ⟨more, rfl⟩ := longer
  by_cases complete : n ≤ events.length
  · rw [window, List.take_append_of_le_length complete]
    rfl
  · -- Both are empty: the events up to `n` are not more than `after`.
    have small : n ≤ after := by omega
    have empty (l : List (RunEvent Stored)) : window after n l = [] := by
      apply List.drop_eq_nil_of_le
      rw [List.length_take]
      omega
    rw [empty, empty]

end Logs

section Reads
variable {validate : Stored → Option Payload} {after : Nat} {v : StreamState Payload} {log log' : RunLog Stored}
  {event : RunEvent Stored}

/-- A read of events: from which number on, what it gave, and the log at that time. -/
structure EventsRead (Stored : Type) where
  sequence : Nat
  events : List (RunEvent Stored)
  log : RunLog Stored
deriving DecidableEq, Repr

/-- A read covers the events up to a number: they were in the log, the read was not cut off before the
    number, and the events it gave up to the number are valid. -/
structure Covers (validate : Stored → Option Payload) (n : Nat) (read : EventsRead Stored) : Prop where
  stored : n ≤ read.log.eventSequence
  uncut : read.events.length < 100 ∨ ∃ event ∈ read.events, n ≤ event.sequence
  valid : ∀ event ∈ read.events, event.sequence ≤ n → (validate event.payload).isSome

/-- An event as `onEvent` is called with it. -/
def calledWith (event : RunEvent Payload) : Nat × Option Payload :=
  (event.sequence, some event.payload)

/-- What a stored event is validated to. -/
def validated (validate : Stored → Option Payload) (event : RunEvent Stored) : Nat × Option Payload :=
  (event.sequence, validate event.payload)

/-- `onEvent` was called once for each event of a log between the first number and the cursor, in their
    order. -/
structure Follows (validate : Stored → Option Payload) (after : Nat) (v : StreamState Payload)
    (log : RunLog Stored) : Prop where
  numbered : Numbered log
  start : after ≤ v.cursor
  within : v.cursor ≤ max after log.events.length
  delivered : v.delivered.map calledWith = (window after v.cursor log.events).map (validated validate)

/-- What the log gains is not delivered yet. -/
lemma Follows.extend (follows : Follows validate after v log) (numbered : Numbered log')
    (longer : log.events <+: log'.events) : Follows validate after v log' where
  numbered := numbered
  start := follows.start
  within := by
    have lengths := longer.length_le
    have within := follows.within
    omega
  delivered := by
    rw [window_longer longer follows.within]
    exact follows.delivered

/-- The next event of the log is delivered. -/
lemma Follows.receive {payload : Payload} (follows : Follows validate after v log)
    (next : log.events[v.cursor]? = some event) (valid : validate event.payload = some payload) {served : Nat} :
    Follows validate after
      { cursor := event.sequence, delivered := v.delivered ++ [⟨event.sequence, payload⟩], served } log where
  numbered := follows.numbered
  start := by
    have number := follows.numbered.sequence next
    have start := follows.start
    show after ≤ event.sequence
    omega
  within := by
    have number := follows.numbered.sequence next
    have lt := (List.getElem?_eq_some_iff.mp next).1
    show event.sequence ≤ _
    omega
  delivered := by
    have lt := (List.getElem?_eq_some_iff.mp next).1
    have number : event.sequence = v.cursor + 1 := follows.numbered.sequence next
    have enough : after ≤ (log.events.take v.cursor).length := by
      rw [List.length_take]
      exact Nat.le_min.mpr ⟨follows.start, follows.start.trans lt.le⟩
    have last : validated validate event = calledWith ⟨event.sequence, payload⟩ := by
      rw [validated, valid]
      rfl
    show (v.delivered ++ [_]).map calledWith = (window after event.sequence log.events).map (validated validate)
    have longer : window after event.sequence log.events = window after v.cursor log.events ++ [event] := by
      rw [number, window, List.take_add_one, next, List.drop_append_of_le_length enough]
      rfl
    rw [longer, List.map_append, List.map_append, follows.delivered, List.map_singleton, List.map_singleton, last]

/-- A read is of the first hundred events after its number. -/
structure EventsRead.Sound (read : EventsRead Stored) : Prop where
  numbered : Numbered read.log
  events : read.events = (read.log.events.drop read.sequence).take 100

lemma EventsRead.Sound.stored {read : EventsRead Stored} (sound : read.Sound) {k : Nat}
    (at_k : read.events[k]? = some event) : read.log.events[read.sequence + k]? = some event := by
  have lt : k < read.events.length := (List.getElem?_eq_some_iff.mp at_k).1
  rw [sound.events, List.length_take] at lt
  rw [sound.events, List.getElem?_take_of_lt (Nat.lt_of_lt_of_le lt (Nat.min_le_left _ _)),
    List.getElem?_drop] at at_k
  exact at_k

/-- Of a read that was written up to its first event that is not valid, what was written is what it
    covers. -/
lemma covers_iff {read : EventsRead Stored} {done rest : List (RunEvent Stored)} {n : Nat} (sound : read.Sound)
    (split : read.events = done ++ rest) (valid : ∀ event ∈ done, (validate event.payload).isSome)
    (stops : ∀ event, rest.head? = some event → validate event.payload = none) (new : read.sequence < n) :
    Covers validate n read ↔ n ≤ read.sequence + done.length := by
  have number {k : Nat} {event : RunEvent Stored} (at_k : read.events[k]? = some event) :
      event.sequence = read.sequence + k + 1 := sound.numbered.sequence (sound.stored at_k)
  have total : read.events.length = min 100 (read.log.eventSequence - read.sequence) := by
    rw [sound.events, List.length_take, List.length_drop, sound.numbered.length]
  have parts : read.events.length = done.length + rest.length := by rw [split, List.length_append]
  constructor
  · intro covers
    by_contra beyond
    have unwritten : n ≤ read.sequence + read.events.length := by
      have stored := covers.stored
      rcases covers.uncut with short | ⟨event, mem, reaches⟩
      · omega
      · obtain ⟨k, at_k⟩ := List.mem_iff_getElem?.mp mem
        have lt := (List.getElem?_eq_some_iff.mp at_k).1
        have is := number at_k
        omega
    cases rest with
    | nil =>
      rw [List.length_nil] at parts
      omega
    | cons event rest =>
      have at_done : read.events[done.length]? = some event := by
        rw [split, List.getElem?_append_right (Nat.le_refl _), Nat.sub_self]
        rfl
      have is := number at_done
      have some := covers.valid event (List.mem_of_getElem? at_done) (by omega)
      rw [stops event rfl] at some
      cases some
  · intro written
    have lt : n - read.sequence - 1 < read.events.length := by omega
    have at_n := List.getElem?_eq_getElem lt
    have is := number at_n
    refine ⟨by omega, .inr ⟨_, List.mem_of_getElem? at_n, by omega⟩, fun event mem le => ?_⟩
    obtain ⟨k, at_k⟩ := List.mem_iff_getElem?.mp mem
    have is := number at_k
    have within : k < done.length := by omega
    rw [split, List.getElem?_append_left within] at at_k
    exact valid event (List.mem_of_getElem? at_k)

end Reads

section Programs
variable {validate : Stored → Option Payload} {after : Nat} {userId : Uuid}

/-- What the calls add to the reads of a browser: the reads of its connections, while its user is a
    member. -/
def noteRead : (o : StreamCall Stored Payload) → StreamEnvironment → StreamedRun Stored →
    List (EventsRead Stored) → List (EventsRead Stored)
  | .listRunEventsAfter userId sequence limit, env, s, reads =>
    if env.fails = false ∧ s.member userId = true then
      reads ++ [⟨sequence, listRunEventsAfter userId sequence limit s, s.log⟩]
    else reads
  | _, _, _, reads => reads

lemma noteRead_noted {q limit : Nat} {env : StreamEnvironment} {s : StreamedRun Stored}
    {reads : List (EventsRead Stored)} (noted : env.fails = false ∧ s.member userId = true) :
    noteRead (.listRunEventsAfter userId q limit : StreamCall Stored Payload) env s reads =
      reads ++ [⟨q, listRunEventsAfter userId q limit s, s.log⟩] :=
  if_pos noted

lemma noteRead_unnoted {q limit : Nat} {env : StreamEnvironment} {s : StreamedRun Stored}
    {reads : List (EventsRead Stored)} (unnoted : ¬(env.fails = false ∧ s.member userId = true)) :
    noteRead (.listRunEventsAfter userId q limit : StreamCall Stored Payload) env s reads = reads :=
  if_neg unnoted

/-- Reads are of at most a hundred events. -/
def Limited : List (EventsRead Stored) → StreamCall Stored Payload → Prop
  | _, .listRunEventsAfter _ _ limit => limit = 100
  | _, _ => True

/-- The log goes on from what was read. -/
structure ReadFrom (reads : List (EventsRead Stored)) (s : StreamedRun Stored) : Prop where
  numbered : Numbered s.log
  sound : ∀ read ∈ reads, read.Sound
  earlier : ∀ read ∈ reads, read.log.events <+: s.log.events

/-- The judgement by the reads. -/
abbrev reading (validate : Stored → Option Payload) :
    Judgement (StreamCall Stored Payload) (fun o => Except StreamError o.Result) (List (EventsRead Stored)) :=
  (streamSystem validate).accounted noteRead Limited ReadFrom

/-- What the browser was given follows the log that was read, as far as the reads cover it. -/
structure Streams (validate : Stored → Option Payload) (after : Nat) (v : StreamState Payload)
    (reads : List (EventsRead Stored)) : Prop where
  follows : ∃ log, (log = {} ∨ ∃ read ∈ reads, read.log = log) ∧ Follows validate after v log
  reached : ∀ n, after < n → (n ≤ v.cursor ↔ ∃ read ∈ reads, Covers validate n read)

/-- A connection is where the browser is. -/
def Serving (validate : Stored → Option Payload) (after : Nat) (v : StreamState Payload)
    (reads : List (EventsRead Stored)) : Prop :=
  Streams validate after v reads ∧ v.served = v.cursor

/-- While a read is written: `rest` is what is left of it. -/
structure Writing (validate : Stored → Option Payload) (after : Nat) (rest : List (RunEvent Stored))
    (v : StreamState Payload) (reads : List (EventsRead Stored)) : Prop where
  begun : ∃ earlier read done, reads = earlier ++ [read] ∧ read.Sound ∧ Follows validate after v read.log ∧
    (∀ n, after < n → (n ≤ read.sequence ↔ ∃ read ∈ earlier, Covers validate n read)) ∧
    read.events = done ++ rest ∧ v.cursor = read.sequence + done.length ∧
    ∀ event ∈ done, (validate event.payload).isSome
  served : v.served = v.cursor

/-- A read is written until its end, or until an event that is not valid. -/
lemma Writing.streams {rest : List (RunEvent Stored)} {v : StreamState Payload}
    {reads : List (EventsRead Stored)} (writing : Writing validate after rest v reads)
    (stops : ∀ event, rest.head? = some event → validate event.payload = none) :
    Streams validate after v reads := by
  obtain ⟨earlier, read, done, rfl, sound, follows, before, split, cursor, valid⟩ := writing.begun
  have last : read ∈ earlier ++ [read] := List.mem_append_right _ (List.mem_singleton.mpr rfl)
  refine ⟨⟨read.log, .inr ⟨read, last, rfl⟩, follows⟩, fun n new => ?_⟩
  rw [cursor]
  by_cases old : n ≤ read.sequence
  · obtain ⟨covering, mem, covers⟩ := (before n new).mp old
    exact ⟨fun _ => ⟨covering, List.mem_append_left _ mem, covers⟩, fun _ => by omega⟩
  · have covered := covers_iff sound split valid stops (n := n) (by omega)
    refine ⟨fun le => ⟨read, last, covered.mpr le⟩, fun ⟨covering, mem, covers⟩ => ?_⟩
    rcases List.mem_append.mp mem with mem | mem
    · exact absurd ((before n new).mpr ⟨covering, mem, covers⟩) old
    · rw [List.mem_singleton.mp mem] at covers
      exact covered.mp covers

/-- A call that is no read leaves the reads alone. -/
lemma keeps_call {P : StreamState Payload → List (EventsRead Stored) → Prop} (o : StreamCall Stored Payload)
    (limited : ∀ reads, Limited reads o) (quiet : ∀ env s reads, noteRead o env s reads = reads) :
    Mutable.Keeps (reading validate) P (call o) := by
  refine Mutable.Triple.invoke fun v reads holds => ⟨limited reads, fun env s _ => ?_⟩
  have same : noteRead o env s reads = reads := quiet env s reads
  rw [same]
  cases ((streamSystem validate).perform o env s).1 with
  | ok a => exact holds
  | error error => exact holds

/-- What is asked of errors: the control API only ends its stream. -/
def Ends (P : StreamState Payload → List (EventsRead Stored) → Prop) (error : StreamError)
    (v : StreamState Payload) (reads : List (EventsRead Stored)) : Prop :=
  error = .server → P v reads

/-- The same for a call that may fail. -/
lemma triple_call {P E : StreamState Payload → List (EventsRead Stored) → Prop}
    (o : StreamCall Stored Payload) (limited : ∀ reads, Limited reads o)
    (quiet : ∀ env s reads, noteRead o env s reads = reads) (imp : ∀ v reads, P v reads → E v reads) :
    Mutable.Triple (reading validate) P (call o) (fun _ => P) (Ends E) :=
  (keeps_call o limited quiet).mono (fun _ _ holds => holds) (fun _ _ _ holds => holds)
    fun _ _ _ holds _ => imp _ _ holds

lemma Serving.streams {v : StreamState Payload} {reads : List (EventsRead Stored)}
    (serving : Serving validate after v reads) : Streams validate after v reads :=
  serving.1

/-- The next event was given to the browser, and the connection has yet to take its number. -/
def Given (validate : Stored → Option Payload) (after : Nat) (event : RunEvent Stored) (payload : Payload)
    (rest : List (RunEvent Stored)) (v : StreamState Payload) (reads : List (EventsRead Stored)) : Prop :=
  ∃ v₀, Writing validate after (event :: rest) v₀ reads ∧
    v = { v₀ with cursor := event.sequence, delivered := v₀.delivered ++ [⟨event.sequence, payload⟩] }

/-- The next event of a read is the one after the cursor. -/
lemma Writing.next {event : RunEvent Stored} {rest : List (RunEvent Stored)} {v : StreamState Payload}
    {reads : List (EventsRead Stored)} (writing : Writing validate after (event :: rest) v reads) :
    event.sequence = v.cursor + 1 := by
  obtain ⟨earlier, read, done, rfl, sound, follows, before, split, cursor, valid⟩ := writing.begun
  have at_done : read.events[done.length]? = some event := by
    rw [split, List.getElem?_append_right (Nat.le_refl _), Nat.sub_self]
    rfl
  have number := sound.numbered.sequence (sound.stored at_done)
  omega

/-- The next event of a read is given to the browser. -/
lemma triple_receive {event : RunEvent Stored} {rest : List (RunEvent Stored)} {payload : Payload}
    {E : StreamState Payload → List (EventsRead Stored) → Prop} :
    Mutable.Triple (reading validate) (Writing validate after (event :: rest))
      (receive ⟨event.sequence, payload⟩) (fun _ => Given validate after event payload rest) (Ends E) := by
  refine .bind (R := fun _ => Writing validate after (event :: rest)) ?_ fun _ => ?_
  · refine Mutable.Triple.invoke fun v reads writing => ⟨trivial, fun env s _ => ?_⟩
    show Outcome _ _ (env.answer StreamError.browser ())
    unfold StreamEnvironment.answer
    split
    · exact nofun
    · exact writing
  · refine .modify fun v reads writing => ⟨v, writing, ?_⟩
    have next := writing.next
    have new : ¬event.sequence ≤ v.cursor := by omega
    exact if_neg new

/-- The connection takes the number of an event that was given. -/
lemma Given.taken {event : RunEvent Stored} {payload : Payload} {rest : List (RunEvent Stored)}
    {v : StreamState Payload} {reads : List (EventsRead Stored)}
    (valid : validate event.payload = some payload) (given : Given validate after event payload rest v reads) :
    Writing validate after rest { v with served := event.sequence } reads := by
  obtain ⟨v, writing, rfl⟩ := given
  have next := writing.next
  obtain ⟨earlier, read, done, rfl, sound, follows, before, split, cursor, done_valid⟩ := writing.begun
  have at_done : read.events[done.length]? = some event := by
    rw [split, List.getElem?_append_right (Nat.le_refl _), Nat.sub_self]
    rfl
  have stored := sound.stored at_done
  rw [← cursor] at stored
  refine ⟨⟨earlier, read, done ++ [event], rfl, sound, follows.receive stored valid, before, ?_, ?_, ?_⟩, rfl⟩
  · rw [split, List.append_assoc, List.singleton_append]
  · show event.sequence = _
    rw [List.length_append, List.length_singleton]
    omega
  · intro other mem
    rcases List.mem_append.mp mem with mem | mem
    · exact done_valid other mem
    · rw [List.mem_singleton.mp mem, valid]
      rfl

/-- The loop over the events of a read. -/
lemma triple_writeEvents {events : List (RunEvent Stored)} :
    Mutable.Triple (reading validate) (Writing validate after events) (writeEvents validate events)
      (fun _ => Serving validate after) (Ends (Streams validate after)) := by
  induction events with
  | nil => exact .pure fun v reads writing => ⟨writing.streams nofun, writing.served⟩
  | cons event events ih =>
    unfold writeEvents
    cases valid : validate event.payload with
    | none =>
      refine .throw fun v reads writing _ => writing.streams fun other first => ?_
      cases first
      exact valid
    | some payload =>
      refine .bind triple_receive fun _ => .bind (R := fun _ => Writing validate after events) ?_ fun _ => ih
      exact .modify fun v reads given => given.taken valid

/-- What a read gave is to be written; without membership it gave nothing. -/
def Listed (validate : Stored → Option Payload) (after : Nat) (events : List (RunEvent Stored))
    (v : StreamState Payload) (reads : List (EventsRead Stored)) : Prop :=
  Writing validate after events v reads ∨ events = [] ∧ Serving validate after v reads

/-- A read that is answered, of a log that goes on from what was read. -/
lemma Serving.listed {v : StreamState Payload} {reads : List (EventsRead Stored)} {s : StreamedRun Stored}
    {env : StreamEnvironment} (serving : Serving validate after v reads) (from_log : ReadFrom reads s)
    (answered : env.fails = false) :
    Listed validate after (listRunEventsAfter userId v.served 100 s) v
      (noteRead (.listRunEventsAfter userId v.served 100 : StreamCall Stored Payload) env s reads) := by
  obtain ⟨⟨⟨log, known, follows⟩, reached⟩, same⟩ := serving
  cases member : s.member userId with
  | false =>
    have left : ¬(env.fails = false ∧ s.member userId = true) := by
      rw [member]
      exact fun both => nomatch both.2
    refine .inr ⟨?_, ?_⟩
    · rw [listRunEventsAfter, member]
      rfl
    · rw [noteRead_unnoted left]
      exact ⟨⟨⟨log, known, follows⟩, reached⟩, same⟩
  | true =>
    rw [noteRead_noted ⟨answered, member⟩]
    have longer : log.events <+: s.log.events := by
      rcases known with rfl | ⟨read, mem, rfl⟩
      · exact List.nil_prefix
      · exact from_log.earlier read mem
    refine .inl ⟨⟨reads, _, [], rfl, ⟨from_log.numbered, ?_⟩, follows.extend from_log.numbered longer, ?_,
      rfl, same.symm, nofun⟩, same⟩
    · exact listRunEventsAfter_eq from_log.numbered member
    · intro n new
      show n ≤ v.served ↔ _
      rw [same]
      exact reached n new

/-- A read by a connection. -/
lemma triple_list {served : Nat} :
    Mutable.Triple (reading validate)
      (fun v reads => Serving validate after v reads ∧ v.served = served)
      (call (.listRunEventsAfter userId served 100)) (fun events => Listed validate after events)
      (Ends (Streams validate after)) := by
  refine Mutable.Triple.invoke fun v reads both => ⟨rfl, fun env s from_log => ?_⟩
  obtain ⟨serving, rfl⟩ := both
  show Outcome _ _ (env.answer StreamError.server _)
  unfold StreamEnvironment.answer
  cases fails : env.fails with
  | true =>
    have failed : ¬(env.fails = false ∧ s.member userId = true) := by
      rw [fails]
      exact fun both => nomatch both.1
    intro _
    show Streams validate after v (noteRead _ env s reads)
    rw [noteRead_unnoted failed]
    exact serving.streams
  | false => exact serving.listed from_log fails

lemma triple_write {events : List (RunEvent Stored)} :
    Mutable.Triple (reading validate) (Listed validate after events) (writeEvents validate events)
      (fun _ => Serving validate after) (Ends (Streams validate after)) := by
  intro v reads listed
  rcases listed with writing | ⟨rfl, serving⟩
  · exact triple_writeEvents v reads writing
  · exact serving

/-- The loop of the route. -/
lemma triple_serveEvents {rounds : Nat} :
    Mutable.Triple (reading validate) (Serving validate after) (serveEvents validate userId rounds)
      (fun _ => Streams validate after) (Ends (Streams validate after)) := by
  induction rounds with
  | zero => exact .throw fun _ _ _ => nofun
  | succ rounds ih =>
    unfold serveEvents
    refine .bind (triple_call .connected (fun _ => trivial) (fun _ _ _ => rfl) fun _ _ => Serving.streams)
      fun connected => ?_
    split
    · refine .bind (R := fun v₀ v reads => Serving validate after v reads ∧ v.served = v₀.served)
        (.get fun v reads serving => ⟨serving, rfl⟩) fun v₀ => ?_
      refine .bind triple_list fun events => .bind triple_write fun _ => ?_
      split
      · exact ih
      · refine .bind (triple_call (.findRun userId) (fun _ => trivial) (fun _ _ _ => rfl) fun _ _ => Serving.streams)
          fun latestRun => ?_
        split
        · exact .pure fun _ _ => Serving.streams
        · exact ih
    · exact .pure fun _ _ => Serving.streams

/-- A connection starts where the browser is. -/
lemma triple_connection {rounds cursor : Nat} :
    Mutable.Triple (reading validate) (fun v reads => Streams validate after v reads ∧ v.cursor = cursor)
      (connection validate userId rounds cursor) (fun _ => Streams validate after) fun _ _ _ => True := by
  refine .bind (R := fun _ => Serving validate after) ?_ fun _ => ?_
  · refine .modify fun v reads both => ?_
    obtain ⟨streams, rfl⟩ := both
    obtain ⟨⟨log, known, follows⟩, reached⟩ := streams
    exact ⟨⟨⟨log, known, ⟨follows.numbered, follows.start, follows.within, follows.delivered⟩⟩, reached⟩, rfl⟩
  · refine .tryCatch triple_serveEvents fun error => ?_
    split
    · rename_i is
      exact .pure fun v reads ends => ends is
    · exact .throw fun _ _ _ => trivial

lemma triple_streamRoute {rounds cursor : Nat} :
    Mutable.Triple (reading validate) (fun v reads => Streams validate after v reads ∧ v.cursor = cursor)
      (streamRoute validate userId rounds cursor) (fun _ => Streams validate after) fun _ _ _ => True := by
  refine .bind (keeps_call (.findRun userId) (fun _ => trivial) fun _ _ _ => rfl).unguarded fun run => ?_
  split
  · rename_i status same_cursor parsed
    have same : same_cursor = cursor := by
      unfold parseLastEventId at parsed
      split at parsed
      · cases parsed
      · exact (Option.some.inj parsed).symm
    rw [same]
    exact triple_connection
  · exact .throw fun _ _ _ => trivial

/-- However a browser ends, what it was given follows the log. -/
lemma triple_streamRunEvents {rounds connections : Nat} :
    Mutable.Triple (reading validate) (Streams validate after) (streamRunEvents validate userId rounds connections)
      (fun _ => Streams validate after) fun _ _ _ => True := by
  induction connections with
  | zero => exact .throw fun _ _ _ => trivial
  | succ connections ih =>
    unfold streamRunEvents
    refine .bind (keeps_call .aborted (fun _ => trivial) fun _ _ _ => rfl).unguarded fun aborted => ?_
    split
    · exact .pure fun _ _ streams => streams
    refine .bind (R := fun v₀ v reads => Streams validate after v reads ∧ v.cursor = v₀.cursor)
      (.get fun v reads streams => ⟨streams, rfl⟩) fun v₀ => ?_
    refine .bind triple_streamRoute fun _ => ?_
    refine .bind (keeps_call .aborted (fun _ => trivial) fun _ _ _ => rfl).unguarded fun aborted => ?_
    split
    · exact .pure fun _ _ streams => streams
    refine .bind (keeps_call (.getRun userId) (fun _ => trivial) fun _ _ _ => rfl).unguarded fun status => ?_
    split
    · exact .pure fun _ _ streams => streams
    exact .bind (keeps_call .delay (fun _ => trivial) fun _ _ _ => rfl).unguarded fun _ => ih

end Programs

end AtomsPlatform.Workspace.Delivery
