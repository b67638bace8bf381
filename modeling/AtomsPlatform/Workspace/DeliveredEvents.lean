import AtomsPlatform.Workspace.Deliveries

/-!
# The end of a stream

A browser stops when it reads that the run has ended, which says nothing about what was read before. What it
was given is complete up to the commit that ended the run exactly if one of the reads covers all of it
(`delivered_iff_covered`); a commit between the last read of the events and that of the status is missed
(`final_event_missed`).
-/

namespace AtomsPlatform.Workspace.Delivery
open Interleaving
variable {Stored Payload : Type}

section Histories
variable (validate : Stored → Option Payload)

/-- A configuration of browsers and transactions. -/
abbrev StreamConfig (Stored Payload : Type) : Type :=
  Config (StreamCall Stored Payload) (fun o => Except StreamError o.Result) (StreamedRun Stored)
    (StreamTag Stored) (Except StreamError StreamEnd × StreamState Payload)

/-- A history of browsers and transactions. -/
abbrev StreamHistory : Type :=
  List (StreamConfig Stored Payload × (streamSystem validate).Label)

variable {validate} {member : Uuid → Bool} {h h₁ h₂ : StreamHistory validate} {c c₁ : StreamConfig Stored Payload}

/-- What a new run with these members leads to. -/
abbrev Streamed (member : Uuid → Bool) (h : StreamHistory validate) (c : StreamConfig Stored Payload) : Prop :=
  (streamSystem validate).Traced (streamSystem validate).Unguarded ⟨{ member }, []⟩ h c

/-- The reads that the connections of a browser have made. -/
def readsOf (i : Nat) (h : StreamHistory validate) : List (EventsRead Stored) :=
  System.account (S := streamSystem validate) noteRead [] i h

/-- `eventSequence` at a commit that makes the run terminal. -/
def madeTerminal : StreamConfig Stored Payload × (streamSystem validate).Label → Option Nat
  | (c, .act _ (.commit payloads status) env) =>
    if StreamEnvironment.fails env = false ∧ isTerminal c.store.status = false ∧ isTerminal status = true then
      some (c.store.log.eventSequence + payloads.length)
    else none
  | _ => none

/-- `eventSequence` at the last commit that made the run terminal. -/
def terminalSequence (h : StreamHistory validate) : Option Nat :=
  (h.filterMap madeTerminal).getLast?

/-- Whatever is done, the log goes on from what was read. -/
lemma ReadFrom.perform {o : StreamCall Stored Payload} (env : StreamEnvironment) {s : StreamedRun Stored}
    {reads : List (EventsRead Stored)} (from_log : ReadFrom reads s) :
    ReadFrom reads (Delivery.perform o env s).2 := by
  cases o with
  | commit payloads status =>
    show ReadFrom reads (if env.fails then s else s.commit payloads status)
    split
    · exact from_log
    · obtain ⟨numbered, longer, -⟩ := from_log.numbered.foldl payloads
      exact ⟨numbered, from_log.sound, fun read mem => (from_log.earlier read mem).trans longer⟩
  | getRun userId =>
    have same : (Delivery.perform (.getRun userId : StreamCall Stored Payload) env s).2 = s := by
      rw [Delivery.perform]
      split
      · rfl
      · rfl
    rw [same]
    exact from_log
  | setMember userId member => exact ⟨from_log.numbered, from_log.sound, from_log.earlier⟩
  | listRunEventsAfter | findRun | connected | receive | aborted | delay => exact from_log

/-- The reads of every browser are of the log that is there. -/
lemma relied : (streamSystem validate).Relied noteRead Limited ReadFrom [] { member } where
  empty := ⟨rfl, nofun, nofun⟩
  others _ env _ _ from_log := from_log.perform env
  own o env s reads limited from_log := by
    cases o with
    | listRunEventsAfter userId q limit =>
      have limited : limit = 100 := limited
      subst limited
      show ReadFrom (noteRead (.listRunEventsAfter userId q 100 : StreamCall Stored Payload) env s reads) s
      by_cases noted : env.fails = false ∧ s.member userId = true
      · rw [noteRead_noted noted]
        refine ⟨from_log.numbered, fun read mem => ?_, fun read mem => ?_⟩
        · rcases List.mem_append.mp mem with mem | mem
          · exact from_log.sound read mem
          · rw [List.mem_singleton.mp mem]
            exact ⟨from_log.numbered, listRunEventsAfter_eq from_log.numbered noted.2⟩
        · rcases List.mem_append.mp mem with mem | mem
          · exact from_log.earlier read mem
          · rw [List.mem_singleton.mp mem]
      · rw [noteRead_unnoted noted]
        exact from_log
    | commit | getRun | setMember | findRun | connected | receive | aborted | delay =>
      exact from_log.perform env

/-- At the start nothing was given or read. -/
lemma Streams.start {after : Nat} : Streams validate after { cursor := after } [] where
  follows := by
    refine ⟨{}, .inl rfl, rfl, le_refl _, Nat.le_max_left _ _, ?_⟩
    rw [window, List.take_nil, List.drop_nil]
    rfl
  reached n new := by
    refine ⟨fun le => ?_, fun covered => ?_⟩
    · have le : n ≤ after := le
      omega
    · obtain ⟨read, mem, -⟩ := covered
      cases mem

/-- What a browser was given when it ended. -/
def EndsWith (validate : Stored → Option Payload) :
    StreamTag Stored → Except StreamError StreamEnd × StreamState Payload → List (EventsRead Stored) → Prop
  | .browser _ after _ _, (result, v), reads => result = .ok .terminal → Streams validate after v reads
  | _, _, _ => True

lemma program_streams (tag : StreamTag Stored) :
    ((streamSystem validate).body tag).Satisfies (reading validate) (EndsWith validate tag) [] := by
  cases tag with
  | browser userId after rounds connections =>
    have triple : Mutable.Triple (reading validate) (Streams validate after)
        (streamRunEvents validate userId rounds connections) (fun _ => Streams validate after)
        fun _ _ _ => True := triple_streamRunEvents
    refine (triple _ [] .start).mono fun r reads ends => ?_
    obtain ⟨result, v⟩ := r
    intro terminal
    have terminal : result = .ok .terminal := terminal
    subst terminal
    exact ends
  | commit payloads status => exact ⟨trivial, fun _ _ _ => trivial⟩
  | setMember userId member => exact ⟨trivial, fun _ _ _ => trivial⟩

/-- What a browser that stops because the run has ended did last: it read the status. -/
def ReadTerminal (userId : Uuid) (calls : List (Event (StreamCall Stored Payload)
    fun o => Except StreamError o.Result)) : Prop :=
  ∃ earlier status, calls = earlier ++ [⟨.getRun userId, .ok status⟩] ∧ isTerminal status = true

/-- The judgement by the calls. -/
abbrev called : Judgement (StreamCall Stored Payload) (fun o => Except StreamError o.Result)
    (List (Event (StreamCall Stored Payload) fun o => Except StreamError o.Result)) :=
  accounting fun _ _ => True

/-- Nothing is said of a program. -/
lemma triple_any {α : Type} (p : StreamProgram Stored Payload α) :
    Mutable.Triple called (fun _ _ => True) p (fun _ _ _ => True) fun _ _ _ => True := by
  intro v x _
  have main (q : Prog (StreamCall Stored Payload) (fun o => Except StreamError o.Result)
      (Except StreamError α × StreamState Payload)) (x) :
      q.Satisfies called (fun r _ => Outcome (fun _ => True) (fun _ => True) r.1) x := by
    induction q generalizing x with
    | ret r =>
      obtain ⟨r, v⟩ := r
      cases r with
      | ok a => trivial
      | error error => trivial
    | call o k ih => exact ⟨trivial, fun r => ih r _⟩
  exact main _ x

lemma triple_stops {userId : Uuid} {rounds connections : Nat} :
    Mutable.Triple called (fun _ _ => True)
      (streamRunEvents validate userId rounds connections)
      (fun result _ calls => result = .terminal → ReadTerminal userId calls) fun _ _ _ => True := by
  induction connections with
  | zero => exact .throw fun _ _ _ => trivial
  | succ connections ih =>
    unfold streamRunEvents
    refine .bind (triple_any _) fun aborted => ?_
    split
    · refine .pure fun _ _ _ done => ?_
      cases done
    refine .bind (triple_any _) fun v => .bind (triple_any _) fun _ => .bind (triple_any _) fun aborted => ?_
    split
    · refine .pure fun _ _ _ done => ?_
      cases done
    refine .bind (R := fun status _ calls => isTerminal status = true → ReadTerminal userId calls) ?_
      fun status => ?_
    · refine Mutable.Triple.invoke fun v calls _ => ⟨trivial, fun r => ?_⟩
      cases r with
      | ok status => exact fun terminal => ⟨calls, status, rfl, terminal⟩
      | error error => trivial
    · split
      · rename_i terminal
        exact .pure fun _ _ stops _ => stops terminal
      · exact .bind ((triple_any _).mono (fun _ _ _ => trivial) (fun _ _ _ _ => trivial) fun _ _ _ _ => trivial)
          fun _ => ih

/-- The status and the log are changed by commits only. -/
lemma act_run (i : Nat) (o : StreamCall Stored Payload) (env : StreamEnvironment) :
    (madeTerminal ((c, .act i o env) : StreamConfig Stored Payload × (streamSystem validate).Label) = none ∧
      (perform o env c.store).2.status = c.store.status ∧ (perform o env c.store).2.log = c.store.log) ∨
      ∃ payloads status, o = .commit payloads status ∧ env.fails = false ∧
        (perform o env c.store).2 = c.store.commit payloads status := by
  cases o with
  | commit payloads status =>
    cases fails : env.fails with
    | true =>
      have same : (perform (.commit payloads status : StreamCall Stored Payload) env c.store).2 = c.store :=
        if_pos fails
      rw [same]
      refine .inl ⟨if_neg ?_, rfl, rfl⟩
      rw [fails]
      exact fun committed => nomatch committed.1
    | false => exact .inr ⟨payloads, status, rfl, rfl, if_neg (by rw [fails]; exact nofun)⟩
  | getRun userId =>
    have same : (perform (.getRun userId : StreamCall Stored Payload) env c.store).2 = c.store := by
      rw [perform]
      split
      · rfl
      · rfl
    rw [same]
    exact .inl ⟨rfl, rfl, rfl⟩
  | listRunEventsAfter | findRun | connected | receive | aborted | delay | setMember =>
    exact .inl ⟨rfl, rfl, rfl⟩

/-- The log of a run is numbered at all times. -/
lemma numbered_log (streamed : Streamed member h c) : Numbered c.store.log :=
  ((streamed.accounts rfl relied program_streams).1 0).numbered

/-- A run that is terminal was made so by a commit, and the log is at least as long as it was then. -/
lemma madeTerminal_spec (streamed : Streamed member h c) :
    (isTerminal c.store.status = true → h.filterMap madeTerminal ≠ []) ∧
      ∀ n ∈ h.filterMap madeTerminal, n ≤ c.store.log.eventSequence := by
  induction streamed with
  | nil => exact ⟨nofun, nofun⟩
  | @snoc h c l c' streamed _ step ih =>
    obtain ⟨made, bounded⟩ := ih
    rw [List.filterMap_append]
    cases step with
    | @spawn tag admitted =>
      have nothing : [((c, .spawn tag) : StreamConfig Stored Payload × (streamSystem validate).Label)].filterMap
          madeTerminal = [] := rfl
      rw [nothing, List.append_nil]
      exact ⟨made, bounded⟩
    | @act i tag o k env at_i =>
      have run : (madeTerminal ((c, .act i o env) : StreamConfig Stored Payload × (streamSystem validate).Label) =
          none ∧ _ ∧ _) ∨ _ := act_run i o env
      rcases run with ⟨nothing, status, log⟩ | ⟨payloads, status, rfl, succeeds, committed⟩
      · have nothing := List.filterMap_cons_none (l := []) nothing
        rw [nothing, List.filterMap_nil, List.append_nil]
        show (isTerminal (perform o env c.store).2.status = true → _) ∧
          ∀ n ∈ _, n ≤ (perform o env c.store).2.log.eventSequence
        rw [status, log]
        exact ⟨made, bounded⟩
      · obtain ⟨-, -, counter⟩ := (numbered_log streamed).foldl payloads
        let commits : StreamCall Stored Payload := .commit payloads status
        show (isTerminal (perform commits env c.store).2.status = true → _) ∧
          ∀ n ∈ _, n ≤ (perform commits env c.store).2.log.eventSequence
        rw [committed]
        refine ⟨fun ended empty => ?_, fun n mem => ?_⟩
        · obtain ⟨before, now⟩ := List.append_eq_nil_iff.mp empty
          have open_run : isTerminal c.store.status = false := by
            cases terminal : isTerminal c.store.status with
            | false => rfl
            | true => exact absurd before (made terminal)
          have made_now : madeTerminal
              ((c, .act i commits env) : StreamConfig Stored Payload × (streamSystem validate).Label) =
                some _ := if_pos ⟨succeeds, open_run, ended⟩
          rw [List.filterMap_cons_some made_now] at now
          cases now
        · show n ≤ (payloads.foldl RunLog.append c.store.log).eventSequence
          rw [counter]
          rcases List.mem_append.mp mem with mem | mem
          · exact (bounded n mem).trans (Nat.le_add_right _ _)
          · obtain ⟨entry, single, made_n⟩ := List.mem_filterMap.mp mem
            rw [List.mem_singleton.mp single] at made_n
            by_cases made_now : env.fails = false ∧ isTerminal c.store.status = false ∧ isTerminal status = true
            · have is : some _ = some n := (if_pos made_now).symm.trans made_n
              exact (Option.some.inj is).ge
            · cases (if_neg made_now).symm.trans made_n

/-- The status that a browser reads is that of the run. -/
lemma getRun_ok {userId : Uuid} {env : StreamEnvironment} {s : StreamedRun Stored} {status : AgentRunStatus}
    (answer : (perform (.getRun userId : StreamCall Stored Payload) env s).1 = .ok status) :
    s.status = status := by
  rw [perform] at answer
  split at answer
  · rename_i found here
    have same : s.status = found := by
      unfold getRun at here
      split at here
      · exact Option.some.inj here
      · cases here
    unfold StreamEnvironment.answer at answer
    split at answer
    · cases answer
    · exact same.trans (Except.ok.inj answer)
  · cases answer

/-- Where a browser stopped because the run had ended: it read the status, `n` being `eventSequence` at the
    last commit before that made the run terminal. -/
def StopsAt (i : Nat) (userId : Uuid) (n : Nat) (h : StreamHistory validate) : Prop :=
  ∃ h₁ c₁ env h₂, h = h₁ ++ (c₁, .act i (.getRun userId) env) :: h₂ ∧ System.calls i h₂ = [] ∧
    isTerminal c₁.store.status = true ∧ terminalSequence h₁ = some n

/-- How a browser is left that stopped because the run had ended. -/
abbrev Stopped (c : StreamConfig Stored Payload) (i : Nat) (userId : Uuid) (after : Nat)
    (v : StreamState Payload) : Prop :=
  ∃ rounds connections,
    c.threads[i]? = some ⟨.browser userId after rounds connections, .ret (.ok .terminal, v)⟩

/-- A browser that stopped has read a status that was terminal. -/
lemma stopsAt (streamed : Streamed member h c) {i : Nat} {userId : Uuid} {after : Nat} {v : StreamState Payload}
    (stopped : Stopped c i userId after v) : ∃ n, StopsAt i userId n h := by
  obtain ⟨rounds, connections, at_i⟩ := stopped
  have body : ((streamSystem validate).body (.browser userId after rounds connections)).Satisfies called
      (fun r calls => r.1 = .ok .terminal → ReadTerminal userId calls) [] := by
    refine (triple_stops _ [] trivial).mono fun r calls stops => ?_
    obtain ⟨result, v⟩ := r
    intro terminal
    have terminal : result = .ok .terminal := terminal
    subst terminal
    exact stops rfl
  obtain ⟨earlier, status, last, terminal⟩ := streamed.concluded rfl at_i body rfl
  obtain ⟨h₁, c₁, env, h₂, split, answer, rest⟩ := System.calls_snoc last
  have streamed₁ := (streamed.split split).1
  have is : c₁.store.status = status := getRun_ok answer
  rw [← is] at terminal
  have made := (madeTerminal_spec streamed₁).1 terminal
  exact ⟨_, h₁, c₁, env, h₂, split, rest, terminal, List.getLast?_eq_some_getLast made⟩

/-- The commit that a browser has seen belongs to the history. -/
lemma StopsAt.made {i n : Nat} {userId : Uuid} (stops : StopsAt i userId n h) :
    n ∈ h.filterMap madeTerminal := by
  obtain ⟨h₁, c₁, env, h₂, rfl, -, -, last⟩ := stops
  rw [List.filterMap_append]
  exact List.mem_append_left _ (List.mem_of_getLast? last)

/-- `onEvent` was called exactly once for every event of a log after one number up to another one, in their
    order, if only the events up to the second number are looked at. -/
def Delivers (validate : Stored → Option Payload) (after n : Nat) (log : RunLog Stored)
    (delivered : List (RunEvent Payload)) : Prop :=
  (delivered.filter fun event => event.sequence ≤ n).map calledWith =
    (log.events.filter fun event => after < event.sequence ∧ event.sequence ≤ n).map (validated validate)

instance [DecidableEq Payload] {after n : Nat} {log : RunLog Stored} {delivered : List (RunEvent Payload)} :
    Decidable (Delivers validate after n log delivered) :=
  inferInstanceAs (Decidable (_ = (_ : List (Nat × Option Payload))))

/-- The events of a window, by their numbers. -/
lemma Numbered.filter {log : RunLog Stored} (numbered : Numbered log) {after n : Nat} :
    (log.events.filter fun event => after < event.sequence ∧ event.sequence ≤ n) =
      window after n log.events := by
  have upTo : (log.events.filter fun event => event.sequence ≤ n) = log.events.take n :=
    filter_upTo numbered.numbers
  have both : (log.events.filter fun event => after < event.sequence ∧ event.sequence ≤ n) =
      (log.events.filter fun event => event.sequence ≤ n).filter fun event => after < event.sequence := by
    rw [List.filter_filter]
    congr 1
    funext event
    exact Bool.decide_and _ _
  rw [both, upTo, filter_above (numbers_take numbered.numbers)]
  rfl

/-- Of what was delivered, the events up to a number. -/
lemma Follows.upTo {after n : Nat} {v : StreamState Payload} {log : RunLog Stored}
    (follows : Follows validate after v log) :
    (v.delivered.filter fun event => event.sequence ≤ n).map calledWith =
      (window after (min v.cursor n) log.events).map (validated validate) := by
  have called : (v.delivered.filter fun event => event.sequence ≤ n).map calledWith =
      (v.delivered.map calledWith).filter fun entry => entry.1 ≤ n := by
    rw [List.filter_map]
    rfl
  have both : ((window after v.cursor log.events).filter fun event => event.sequence ≤ n) =
      window after (min v.cursor n) log.events := by
    rw [← follows.numbered.filter, ← follows.numbered.filter, List.filter_filter]
    congr 1
    funext event
    rw [← Bool.decide_and]
    refine decide_eq_decide.mpr ?_
    omega
  rw [called, follows.delivered, List.filter_map, ← both]
  rfl

lemma length_window {after n : Nat} {events : List (RunEvent Stored)} :
    (window after n events).length = min n events.length - after := by
  rw [window, List.length_drop, List.length_take]

/-- Everything up to a number was delivered, if the cursor has come that far. -/
lemma Follows.delivers_iff {after n : Nat} {v : StreamState Payload} {log : RunLog Stored}
    (follows : Follows validate after v log) (stored : n ≤ log.eventSequence) :
    Delivers validate after n log v.delivered ↔ n ≤ after ∨ n ≤ v.cursor := by
  have length := follows.numbered.length
  rw [Delivers, follows.upTo, follows.numbered.filter]
  constructor
  · intro same
    have lengths := congrArg List.length same
    rw [List.length_map, List.length_map, length_window, length_window] at lengths
    omega
  · intro reached
    rcases reached with none | reached
    · have empty {m : Nat} (le : m ≤ after) : window after m log.events = [] := by
        apply List.eq_nil_of_length_eq_zero
        rw [length_window]
        omega
      rw [empty none, empty ((Nat.min_le_right _ _).trans none)]
    · rw [Nat.min_eq_right reached]

/-- What was delivered is in the order of the log. -/
lemma Follows.ascending {after : Nat} {v : StreamState Payload} {log : RunLog Stored}
    (follows : Follows validate after v log) : (v.delivered.map RunEvent.sequence).Pairwise (· < ·) := by
  have numbers : (log.events.map RunEvent.sequence).Pairwise (· < ·) := by
    rw [follows.numbered]
    exact List.pairwise_lt_range'
  have part : (window after v.cursor log.events).Sublist log.events :=
    (List.drop_sublist _ _).trans (List.take_sublist _ _)
  have called : v.delivered.map RunEvent.sequence =
      ((window after v.cursor log.events).map (validated validate)).map Prod.fst := by
    rw [← follows.delivered, List.map_map]
    rfl
  rw [called, List.map_map]
  exact numbers.sublist (part.map RunEvent.sequence)

/-- When a browser stops because the run has ended, `onEvent` was called with ascending numbers; and it was
    called for all events up to the commit that made the run terminal exactly if a read of one of its
    connections covers them. -/
theorem delivered_iff_covered (streamed : Streamed member h c) {i : Nat} {userId : Uuid} {after : Nat}
    {v : StreamState Payload} (stopped : Stopped c i userId after v) :
    (v.delivered.map RunEvent.sequence).Pairwise (· < ·) ∧ (∃ n, StopsAt i userId n h) ∧
      ∀ n, StopsAt i userId n h →
        (Delivers validate after n c.store.log v.delivered ↔
          n ≤ after ∨ ∃ read ∈ readsOf i h, Covers validate n read) := by
  have seen := stopsAt streamed stopped
  obtain ⟨rounds, connections, at_i⟩ := stopped
  obtain ⟨relies, -, judged⟩ := streamed.accounts rfl relied program_streams
  have streams : Streams validate after v (readsOf i h) := judged i _ at_i rfl
  obtain ⟨⟨log, known, follows⟩, reached⟩ := streams
  have longer : log.events <+: c.store.log.events := by
    rcases known with rfl | ⟨read, mem, rfl⟩
    · exact List.nil_prefix
    · exact (relies i).earlier read mem
  have follows := follows.extend (relies i).numbered longer
  refine ⟨follows.ascending, seen, fun n stops => ?_⟩
  have stored := (madeTerminal_spec streamed).2 n stops.made
  rw [follows.delivers_iff stored]
  by_cases none : n ≤ after
  · exact ⟨fun _ => .inl none, fun _ => .inl none⟩
  · rw [reached n (Nat.lt_of_not_le none)]

section Scenario

/-- The user, the first number and the variables of a browser that stopped because the run had ended. -/
def stoppedState (c : StreamConfig Stored Payload) (i : Nat) : Option (Uuid × Nat × StreamState Payload) :=
  match c.threads[i]? with
  | some ⟨.browser userId after _ _, .ret (.ok .terminal, v)⟩ => some (userId, after, v)
  | _ => none

lemma stoppedState_eq {i : Nat} {userId : Uuid} {after : Nat} {v : StreamState Payload}
    (e : stoppedState c i = some (userId, after, v)) : Stopped c i userId after v := by
  unfold stoppedState at e
  split at e
  · rename_i at_i
    cases e
    exact ⟨_, _, at_i⟩
  · cases e

instance (s : StreamedRun Stored) (tag : StreamTag Stored) : Decidable ((streamSystem validate).admits s tag) :=
  inferInstanceAs (Decidable True)

/-- A browser streams a run, which a transaction completes. -/
def spawned : List (streamSystem (some : String → Option String)).Move :=
  [.spawn (.browser 1 0 2 2), .spawn (.commit ["run.completed"] .completed)]

/-- What a call meets that says no. -/
def no : StreamEnvironment :=
  { holds := false }

/-- A test of a history at its end: how the browser stopped, and what the commits were numbered. -/
def endsAs (delivered : List (RunEvent String)) (cursor : Nat)
    (r : StreamHistory (some : String → Option String) × StreamConfig String String) : Bool :=
  stoppedState r.2 0 = some (1, 0, { cursor, delivered, served := cursor }) &&
    r.1.filterMap madeTerminal = [1] && r.2.store.log = ⟨1, [⟨1, "run.completed"⟩]⟩

lemma endsAs_spec {delivered : List (RunEvent String)} {cursor : Nat}
    {h : StreamHistory (some : String → Option String)} {c : StreamConfig String String}
    (ends : endsAs delivered cursor (h, c) = true) :
    Stopped c 0 1 0 { cursor, delivered, served := cursor } ∧ h.filterMap madeTerminal = [1] ∧
      c.store.log = ⟨1, [⟨1, "run.completed"⟩]⟩ := by
  obtain ⟨both, log⟩ := Bool.and_eq_true_iff.mp ends
  obtain ⟨state, made⟩ := Bool.and_eq_true_iff.mp both
  exact ⟨stoppedState_eq (of_decide_eq_true state), of_decide_eq_true made, of_decide_eq_true log⟩

/-- The run is completed between the read of the events and that of the status. -/
theorem final_event_missed :
    ∃ (h : StreamHistory (some : String → Option String)) (c : StreamConfig String String)
      (v : StreamState String), Streamed (fun _ => true) h c ∧ Stopped c 0 1 0 v ∧ StopsAt 0 1 1 h ∧
      ¬Delivers some 0 1 c.store.log v.delivered := by
  have run : ((streamSystem (some : String → Option String)).record ⟨{}, []⟩
      (spawned ++ [.act 0 no, .act 0 {}, .act 0 {}, .act 0 {}, .act 1 {}, .act 0 {}, .act 0 no,
        .act 0 {}])).any (endsAs [] 0) = true := by
    decide
  obtain ⟨h, c, traced, ends⟩ := System.exists_traced run
  obtain ⟨stopped, made, log⟩ := endsAs_spec ends
  refine ⟨h, c, _, traced, stopped, ?_, ?_⟩
  · obtain ⟨n, stops⟩ := stopsAt traced stopped
    have is := stops.made
    rw [made] at is
    rwa [List.mem_singleton.mp is] at stops
  · rw [log]
    decide

/-- `delivered_iff_covered` where the run is completed before the events are read. -/
theorem delivered_iff_covered_completed :
    ∃ (h : StreamHistory (some : String → Option String)) (c : StreamConfig String String)
      (v : StreamState String), Stopped c 0 1 0 v ∧ v.delivered = [⟨1, "run.completed"⟩] ∧ StopsAt 0 1 1 h ∧
      (Delivers some 0 1 c.store.log v.delivered ↔ 1 ≤ 0 ∨ ∃ read ∈ readsOf 0 h, Covers some 1 read) := by
  have run : ((streamSystem (some : String → Option String)).record ⟨{}, []⟩
      (spawned ++ [.act 0 no, .act 0 {}, .act 0 {}, .act 1 {}, .act 0 {}, .act 0 {}, .act 0 {}, .act 0 no,
        .act 0 {}])).any (endsAs [⟨1, "run.completed"⟩] 1) = true := by
    decide
  obtain ⟨h, c, traced, ends⟩ := System.exists_traced run
  obtain ⟨stopped, made, -⟩ := endsAs_spec ends
  obtain ⟨-, ⟨n, stops⟩, covered⟩ := delivered_iff_covered traced stopped
  have is := stops.made
  rw [made] at is
  rw [List.mem_singleton.mp is] at stops
  exact ⟨h, c, _, stopped, rfl, stops, covered 1 stops⟩

end Scenario
end Histories

end AtomsPlatform.Workspace.Delivery
