import AtomsPlatform.Readiness.Model

/-!
# An answer that says ready

Reports are in Redis and answers in a service for a while, and clocks are not exact. Where no clock is more
than `ε` away from the time, an answer that execution is ready means that a worker with all preconditions has
read its clock not long before (`ready_recent`): at most the time that an answer is kept, the time that a
report is trusted, and four times `ε`, before the request has read the clock of its service.
-/

namespace AtomsPlatform.Readiness
open Interleaving
variable {d : Deployment} {ε : Nat}

section Evaluation
variable {facts : WorkerReadinessFacts} {clock now : Date} {enabled : Bool}
  {worker : Option WorkerReadinessReport}

/-- All preconditions of a worker, at a time of its clock. -/
structure WorkerReadinessFacts.Ready (parseDate : String → Option Int) (facts : WorkerReadinessFacts)
    (clock : Date) : Prop where
  runBudget : 0 < facts.runBudgetUsdMicros
  workspaceBudget : 0 < facts.workspaceDailyBudgetUsdMicros
  credentials : facts.providerCredentialsPresent = true
  attachments : facts.attachmentContractVerified = true
  browser : facts.browserViabilityRequired = true
  egress : ∃ recorded verifiedAt, facts.egressVerifiedAt = some recorded ∧
    parseDate recorded = some verifiedAt ∧ verifiedAt ≤ (clock : Int)

/-- An evaluation that says ready is one of a report that passes, and that is not too old, nor too new. -/
lemma evaluate_ready (ready : (evaluateExecutionReadiness enabled worker now).executionReady = true) :
    enabled = true ∧ ∃ report, worker = some report ∧
      ((now : Int) - report.publishedAt).natAbs ≤ workerReadinessMaxAgeMs ∧
      ∀ id ∈ executionGateIds, passes (some report) id = true := by
  obtain ⟨on, met⟩ := Bool.and_eq_true_iff.mp ready
  refine ⟨on, ?_⟩
  have empty := List.filter_eq_nil_iff.mp (List.eq_nil_of_length_eq_zero (of_decide_eq_true met))
  have all (id : ExecutionGateId) (mem : id ∈ executionGateIds) :
      passes (if workerStateOf worker now = .reporting then worker else none) id = true := by
    have passed := empty id mem
    rwa [Bool.not_eq_true', Bool.not_eq_false] at passed
  by_cases fresh : workerStateOf worker now = .reporting
  · rw [if_pos fresh] at all
    cases worker with
    | none => cases fresh
    | some report =>
      refine ⟨report, rfl, ?_, all⟩
      by_contra old
      have stale : workerStateOf (some report) now = .stale := if_pos (Nat.lt_of_not_le old)
      rw [stale] at fresh
      cases fresh
  · rw [if_neg fresh] at all
    cases all .g4 (by decide)

/-- A report that passes is one of a worker with all preconditions. -/
lemma ready_of_passes (passed : ∀ id ∈ executionGateIds,
    passes (some (buildWorkerReadinessReport d.parseDate facts clock)) id = true) :
    facts.Ready d.parseDate clock := by
  obtain ⟨run, workspace⟩ := Bool.and_eq_true_iff.mp (passed .g1 (by decide))
  have egress : egressVerified d.parseDate facts clock = true := passed .g5 (by decide)
  obtain ⟨verifiedAt, parsed, past⟩ := (Option.any_eq_true _ _).mp egress
  obtain ⟨recorded, is, parsed⟩ := Option.bind_eq_some_iff.mp parsed
  exact {
    runBudget := of_decide_eq_true run
    workspaceBudget := of_decide_eq_true workspace
    credentials := passed .lock3 (by decide)
    attachments := passed .g4 (by decide)
    browser := passed .g7 (by decide)
    egress := ⟨recorded, verifiedAt, is, parsed, of_decide_eq_true past⟩ }

end Evaluation

section Accounts

/-- A process has read its clock: what the clock showed, and the time. -/
structure Reading where
  process : Process
  time : Nat
  clock : Nat

/-- The account of a thread: the first and the last time that it read a clock, the report it has read, and
    the answer that the service had kept. -/
structure Account where
  first : Option Reading := none
  last : Option Reading := none
  loaded : Option WorkerReadinessReport := none
  cached : Option (Nat × Date × ExecutionReadiness) := none

/-- What the calls change. -/
def book (d : Deployment) : (readinessSystem d).Booking Account
  | .now process, env, s, x =>
    let reading : Reading := ⟨process, s.time, Environment.clock env⟩
    { x with first := x.first.or (some reading), last := some reading }
  | .get, env, s, x => { x with loaded := (perform .get env s).1.toOption.bind id }
  | .cached service, _, s, x => { x with cached := (s.cached service).map fun kept => (service, kept) }
  | _, _, _, x => x

/-- The calls that a thread may make, by its account. -/
def Allowed (d : Deployment) (x : Account) : Operation → Prop
  | .set report => ∃ reading facts, x.first = some reading ∧ reading.process = .worker facts ∧
    report = buildWorkerReadinessReport d.parseDate facts reading.clock
  | .cache service since value => ∃ first last, x.first = some first ∧ x.last = some last ∧
    first.clock = since ∧ value = evaluateExecutionReadiness (d.controlPlaneEnabled service) x.loaded last.clock
  | _ => True

/-- Readings are in the past, the first one before the last. -/
structure Past (x : Account) (s : Store) : Prop where
  first : ∀ first ∈ x.first, first.time ≤ s.time
  order : ∀ first ∈ x.first, ∀ last ∈ x.last, first.time ≤ last.time

/-- Histories of workers and requests. -/
abbrev ReadinessHistory (d : Deployment) : Type :=
  List (ReadinessConfig × (readinessSystem d).Label)

/-- The clocks that are read are at most `ε` away from the time. -/
def Accurate (ε : Nat) : ReadinessConfig → (readinessSystem d).Label → Prop
  | c, .act _ (.now _) env =>
    Environment.clock env ≤ c.store.time + ε ∧ c.store.time ≤ Environment.clock env + ε
  | _, _ => True

/-- A thread has read a clock, which was accurate. -/
def ReadBy (ε i : Nat) (h : ReadinessHistory d) (reading : Reading) : Prop :=
  (reading.clock ≤ reading.time + ε ∧ reading.time ≤ reading.clock + ε) ∧
    ∃ c env, (c, .act i (.now reading.process) env) ∈ h ∧ c.store.time = reading.time ∧
      Environment.clock env = reading.clock

/-- A report that a worker has made when it read its clock. -/
def Reported (ε : Nat) (h : ReadinessHistory d) (report : WorkerReadinessReport) : Prop :=
  ∃ i reading facts, ReadBy ε i h reading ∧ reading.process = .worker facts ∧
    report = buildWorkerReadinessReport d.parseDate facts reading.clock

/-- An answer that a service has computed from what was reported. -/
def Computed (ε : Nat) (h : ReadinessHistory d) (service : Nat) (since : Date) (value : ExecutionReadiness) :
    Prop :=
  ∃ i first last worker, ReadBy ε i h first ∧ ReadBy ε i h last ∧ first.time ≤ last.time ∧
    first.clock = since ∧ (∀ report ∈ worker, Reported ε h report) ∧
    value = evaluateExecutionReadiness (d.controlPlaneEnabled service) worker last.clock

/-- What the store records: what is in Redis was reported, and what is kept was computed. -/
structure StoreRecords (ε : Nat) (h : ReadinessHistory d) (s : Store) : Prop where
  report : ∀ report ∈ s.report, Reported ε h report
  cached : ∀ service since value, s.cached service = some (since, value) → Computed ε h service since value

/-- What the account of a thread records. -/
structure AccountRecords (ε i : Nat) (h : ReadinessHistory d) (x : Account) : Prop where
  first : ∀ reading ∈ x.first, ReadBy ε i h reading
  last : ∀ reading ∈ x.last, ReadBy ε i h reading
  loaded : ∀ report ∈ x.loaded, Reported ε h report
  cached : ∀ service since value, x.cached = some (service, since, value) → Computed ε h service since value

end Accounts

section Records
variable {h : ReadinessHistory d} {entry : ReadinessConfig × (readinessSystem d).Label} {i : Nat}

lemma ReadBy.later {reading : Reading} (readBy : ReadBy ε i h reading) : ReadBy ε i (h ++ [entry]) reading := by
  obtain ⟨accurate, c, env, mem, time, clock⟩ := readBy
  exact ⟨accurate, c, env, List.mem_append_left _ mem, time, clock⟩

lemma Reported.later {report : WorkerReadinessReport} (reported : Reported ε h report) :
    Reported ε (h ++ [entry]) report := by
  obtain ⟨i, reading, facts, readBy, process, is⟩ := reported
  exact ⟨i, reading, facts, readBy.later, process, is⟩

lemma Computed.later {service : Nat} {since : Date} {value : ExecutionReadiness}
    (computed : Computed ε h service since value) : Computed ε (h ++ [entry]) service since value := by
  obtain ⟨i, first, last, worker, readFirst, readLast, order, is, reported, result⟩ := computed
  exact ⟨i, first, last, worker, readFirst.later, readLast.later, order, is,
    fun report mem => (reported report mem).later, result⟩

lemma StoreRecords.later {s : Store} (records : StoreRecords ε h s) : StoreRecords ε (h ++ [entry]) s where
  report report mem := (records.report report mem).later
  cached service since value is := (records.cached service since value is).later

lemma AccountRecords.later {x : Account} (records : AccountRecords ε i h x) :
    AccountRecords ε i (h ++ [entry]) x where
  first reading mem := (records.first reading mem).later
  last reading mem := (records.last reading mem).later
  loaded report mem := (records.loaded report mem).later
  cached service since value is := (records.cached service since value is).later

/-- Time does not go back. -/
lemma time_le (o : Operation) (env : Environment) (s : Store) : s.time ≤ (perform o env s).2.time := by
  cases o with
  | set report =>
    show s.time ≤ (if env.silent then s else { s with report := some report }).time
    split
    · exact Nat.le_refl _
    · exact Nat.le_refl _
  | elapse ms => exact Nat.le_add_right _ _
  | now | get | cached | cache | drop => exact Nat.le_refl _

/-- What an account keeps when its thread does not read a clock. -/
lemma Past.later {x : Account} {s s' : Store} (past : Past x s) (le : s.time ≤ s'.time) : Past x s' :=
  ⟨fun first is => (past.first first is).trans le, past.order⟩

lemma relied {s₀ : Store} : (readinessSystem d).Relied (book d) (Allowed d) Past {} s₀ where
  empty := ⟨nofun, nofun⟩
  others o env s x past := past.later (time_le o env s)
  own o env s x allowed past := by
    cases o with
    | now process =>
      have before (first : Reading) (is : first ∈ x.first.or (some ⟨process, s.time, Environment.clock env⟩)) :
          first.time ≤ s.time := by
        rcases Option.or_eq_some_iff.mp is with old | ⟨-, new⟩
        · exact past.first first old
        · cases new
          exact Nat.le_refl _
      refine ⟨before, fun first is last is' => ?_⟩
      cases is'
      exact before first is
    | set report => exact past.later (time_le (.set report) env s)
    | elapse ms => exact past.later (time_le (.elapse ms) env s)
    | get | cached | cache | drop => exact ⟨past.first, past.order⟩

/-- The reading of a call of the clock. -/
lemma readBy_now {c : ReadinessConfig} {process : Process} {env : Environment}
    (accurate : Accurate (d := d) ε c (.act i (.now process) env)) :
    ReadBy ε i (h ++ [(c, .act i (.now process) env)]) ⟨process, c.store.time, env.clock⟩ :=
  ⟨accurate, c, env, List.mem_append_right _ (List.mem_singleton.mpr rfl), rfl, rfl⟩

lemma recording : (readinessSystem d).Recording (Accurate ε) (book d) (Allowed d) Past {} {}
    (StoreRecords ε) (AccountRecords ε) where
  store := ⟨nofun, nofun⟩
  account _ := ⟨nofun, nofun, nofun, nofun⟩
  laterStore _ _ _ records := records.later
  laterAccount _ _ _ _ records := records.later
  act h c i o env x accurate allowed past store account := by
    have store' : StoreRecords ε (h ++ [(c, .act i o env)]) c.store := store.later
    have account' : AccountRecords ε i (h ++ [(c, .act i o env)]) x := account.later
    cases o with
    | now process =>
      refine ⟨store', { account' with first := fun reading is => ?_, last := fun reading is => ?_ }⟩
      · rcases Option.or_eq_some_iff.mp is with old | ⟨-, new⟩
        · exact account'.first reading old
        · cases new
          exact readBy_now accurate
      · cases is
        exact readBy_now accurate
    | set report =>
      obtain ⟨reading, facts, is, process, made⟩ := allowed
      have reported : Reported ε (h ++ [(c, .act i (.set report) env)]) report :=
        ⟨i, reading, facts, account'.first reading is, process, made⟩
      refine ⟨?_, account'⟩
      show StoreRecords ε _ (if Environment.silent env then c.store else { c.store with report := some report })
      split
      · exact store'
      · refine ⟨fun report' is => ?_, store'.cached⟩
        cases is
        exact reported
    | get =>
      refine ⟨store', { account' with loaded := fun report is => ?_ }⟩
      have answered : (if Environment.fails env then .error () else
          .ok (if Environment.silent env then none else c.store.report) :
            Except Unit (Option WorkerReadinessReport)).toOption.bind id = some report := is
      split at answered
      · cases answered
      · split at answered
        · cases answered
        · exact store'.report report answered
    | cached service =>
      refine ⟨store', { account' with cached := fun service' since value is => ?_ }⟩
      obtain ⟨kept, was, same⟩ := Option.map_eq_some_iff.mp is
      cases same
      exact store'.cached service since value was
    | cache service since value =>
      obtain ⟨first, last, isFirst, isLast, clock, result⟩ := allowed
      refine ⟨⟨store'.report, fun service' since' value' is => ?_⟩, account'⟩
      by_cases same : service' = service
      · subst same
        have is : Function.update c.store.cached service' (some (since, value)) service' =
          some (since', value') := is
        rw [Function.update_self] at is
        cases is
        exact ⟨i, first, last, x.loaded, account'.first first isFirst, account'.last last isLast,
          past.order first isFirst last isLast, clock, account'.loaded, result⟩
      · have is : Function.update c.store.cached service (some (since, value)) service' =
          some (since', value') := is
        rw [Function.update_of_ne same] at is
        exact store'.cached service' since' value' is
    | elapse ms => exact ⟨⟨store'.report, store'.cached⟩, account'⟩
    | drop => exact ⟨⟨nofun, store'.cached⟩, account'⟩

end Records

section Programs
variable {service : Nat} {facts : WorkerReadinessFacts}

/-- The judgement by the accounts. -/
abbrev accounts (d : Deployment) : Judgement Operation (fun o => Except Unit o.Answer) Account :=
  (readinessSystem d).accounted (book d) (Allowed d) Past

/-- A call by what it answers. -/
lemma triple_call {P : Account → Prop} (o : Operation) {Q : o.Answer → Account → Prop}
    {E : Unit → Account → Prop} (allowed : ∀ x, P x → Allowed d x o)
    (answered : ∀ env s x, P x →
      Outcome (fun a => Q a (book d o env s x)) (fun e => E e (book d o env s x)) (perform o env s).1) :
    Triple (accounts d) P (call o) Q E := by
  apply Triple.invoke
  intro x holds
  exact ⟨allowed x holds, fun env s _ => answered env s x holds⟩

/-- The request has read the clock of its service, and this is what it showed. -/
def Asked (service : Nat) (nowMs : Date) (x : Account) : Prop :=
  ∃ first, x.first = some first ∧ first.process = .service service ∧ first.clock = nowMs

/-- An answer is one that the service had kept for a short time, or it was computed just now. -/
def Answered (d : Deployment) (service : Nat) (value : ExecutionReadiness) (x : Account) : Prop :=
  ∃ first, x.first = some first ∧ first.process = .service service ∧
    ((∃ since, x.cached = some (service, since, value) ∧ (first.clock : Int) - since < d.cacheMs service) ∨
      ∃ last, x.last = some last ∧
        value = evaluateExecutionReadiness (d.controlPlaneEnabled service) x.loaded last.clock)

lemma triple_readSource {nowMs : Date} :
    Triple (accounts d) (fun x => Asked service nowMs x ∧ x.loaded = none) (readSource d service)
      (fun worker x => Asked service nowMs x ∧ x.loaded = worker) fun _ _ => False := by
  unfold readSource
  split
  · unfold read
    apply Triple.tryCatch (R := fun _ x => Asked service nowMs x ∧ x.loaded = none)
    · apply triple_call .get fun _ _ => trivial
      intro env s x holds
      have known : Asked service nowMs (book d .get env s x) := holds.1
      have loaded : (book d .get env s x).loaded = (perform .get env s).1.toOption.bind id := rfl
      cases answer : (perform .get env s).1 with
      | ok worker =>
        rw [answer] at loaded
        exact ⟨known, loaded⟩
      | error error =>
        rw [answer] at loaded
        exact ⟨known, loaded⟩
    · exact fun _ => .pure fun _ holds => holds
  · exact .pure fun _ holds => holds

lemma triple_evaluate {nowMs : Date} :
    Triple (accounts d) (fun x => Asked service nowMs x ∧ x.loaded = none) (current.evaluate d service nowMs)
      (fun value => Answered d service value) fun _ _ => False := by
  unfold current.evaluate
  apply Triple.bind triple_readSource
  intro worker
  apply Triple.bind (R := fun now x => (Asked service nowMs x ∧ x.loaded = worker) ∧
    ∃ last, x.last = some last ∧ last.clock = now)
  · apply triple_call (.now (.service service)) fun _ _ => trivial
    intro env s x holds
    obtain ⟨⟨first, is, process, clock⟩, loaded⟩ := holds
    refine ⟨⟨⟨first, ?_, process, clock⟩, loaded⟩, _, rfl, rfl⟩
    show x.first.or _ = _
    rw [is]
    rfl
  intro now
  have computed (x : Account) (holds : (Asked service nowMs x ∧ x.loaded = worker) ∧
      ∃ last, x.last = some last ∧ last.clock = now) : Answered d service
        (evaluateExecutionReadiness (d.controlPlaneEnabled service) worker now) x := by
    obtain ⟨⟨⟨first, is, process, -⟩, rfl⟩, last, isLast, rfl⟩ := holds
    exact ⟨first, is, process, .inr ⟨last, isLast, rfl⟩⟩
  apply Triple.bind (R := fun _ => Answered d service
    (evaluateExecutionReadiness (d.controlPlaneEnabled service) worker now))
  · apply triple_call (.cache service nowMs _)
    · intro x holds
      obtain ⟨⟨⟨first, is, -, clock⟩, rfl⟩, last, isLast, rfl⟩ := holds
      exact ⟨first, last, is, isLast, clock, rfl⟩
    · exact fun _ _ x holds => computed x holds
  · exact fun _ => .pure fun _ holds => holds

lemma triple_current :
    Triple (accounts d) (fun x => x = {}) (current d service) (fun value => Answered d service value)
      fun _ _ => False := by
  unfold current
  apply Triple.bind (R := fun nowMs x => Asked service nowMs x ∧ x.loaded = none)
  · apply triple_call (.now (.service service)) fun _ _ => trivial
    intro env s x holds
    subst holds
    exact ⟨⟨_, rfl, rfl, rfl⟩, rfl⟩
  intro nowMs
  apply Triple.bind (R := fun cached x => (Asked service nowMs x ∧ x.loaded = none) ∧
    ∀ since value, cached = some (since, value) → x.cached = some (service, since, value))
  · apply triple_call (.cached service) fun _ _ => trivial
    intro env s x holds
    refine ⟨holds, fun since value is => ?_⟩
    show (s.cached service).map _ = _
    have is : s.cached service = some (since, value) := is
    rw [is]
    rfl
  intro cached
  cases cached with
  | none => exact triple_evaluate.mono (fun _ holds => holds.1) (fun _ _ holds => holds) fun _ _ holds => holds
  | some kept =>
    obtain ⟨since, value⟩ := kept
    dsimp only
    split
    · rename_i young
      apply Triple.pure
      intro x holds
      obtain ⟨⟨⟨first, is, process, rfl⟩, -⟩, known⟩ := holds
      exact ⟨first, is, process, .inl ⟨since, known since value rfl, young⟩⟩
    · exact triple_evaluate.mono (fun _ holds => holds.1) (fun _ _ holds => holds) fun _ _ holds => holds

lemma triple_publishOnce :
    Triple (accounts d) (fun x => x = {}) (publishOnce d facts) (fun _ _ => True) fun _ _ => True := by
  unfold publishOnce
  apply Triple.bind (R := fun now x => ∃ reading, x.first = some reading ∧ reading.process = .worker facts ∧
    reading.clock = now)
  · apply triple_call (.now (.worker facts)) fun _ _ => trivial
    intro env s x holds
    subst holds
    exact ⟨_, rfl, rfl, rfl⟩
  intro now
  apply Triple.tryCatch (R := fun _ _ => True)
  · apply triple_call
    · intro x holds
      obtain ⟨reading, is, process, rfl⟩ := holds
      exact ⟨reading, facts, is, process, rfl⟩
    · intro env s x holds
      cases (perform (.set (buildWorkerReadinessReport d.parseDate facts now)) env s).1 with
      | ok done => trivial
      | error error => trivial
  · exact fun _ => .pure fun _ _ => trivial

/-- How an activity is left. -/
def LeftWith (d : Deployment) : Activity → Except Unit (Option ExecutionReadiness) → Account → Prop
  | .request service, .ok value, x => ∀ v ∈ value, Answered d service v x
  | _, _, _ => True

lemma program_accounts (activity : Activity) :
    ((readinessSystem d).body activity).Satisfies (accounts d) (LeftWith d activity) {} := by
  have left {Q : Option ExecutionReadiness → Account → Prop}
      (triple : Triple (accounts d) (fun x => x = {}) (activity.program d) Q fun _ _ => True)
      (imp : ∀ value x, Q value x → LeftWith d activity (.ok value) x) :
      ((readinessSystem d).body activity).Satisfies (accounts d) (LeftWith d activity) {} := by
    apply (triple {} rfl).mono
    intro r x holds
    cases r with
    | ok value => exact imp value x holds
    | error error =>
      cases activity with
      | beat | request | elapse | drop => trivial
  cases activity with
  | beat facts =>
    exact left (.bind triple_publishOnce fun _ => .pure fun _ _ => trivial) fun _ _ (_ : True) => trivial
  | request service =>
    have answered : Triple (accounts d) (fun x => x = {}) (current d service)
        (fun value => Answered d service value) fun _ _ => True :=
      triple_current.mono (fun _ holds => holds) (fun _ _ holds => holds) fun _ _ _ => trivial
    refine left (.bind answered fun value => .pure fun x holds => ?_) fun _ _ holds => holds
    intro v is
    cases is
    exact holds
  | elapse ms =>
    refine left (.bind (R := fun _ _ => True) ?_ fun _ => .pure fun _ _ => trivial)
      fun _ _ (_ : True) => trivial
    exact triple_call (.elapse ms) (fun _ _ => trivial) fun _ _ _ _ => trivial
  | drop =>
    refine left (.bind (R := fun _ _ => True) ?_ fun _ => .pure fun _ _ => trivial)
      fun _ _ (_ : True) => trivial
    exact triple_call .drop (fun _ _ => trivial) fun _ _ _ _ => trivial

end Programs

section Runs
variable {h : ReadinessHistory d} {c : ReadinessConfig} {i service : Nat} {value : ExecutionReadiness}

/-- What workers and requests lead to, with clocks that are at most `ε` away from the time. -/
abbrev Operated (d : Deployment) (ε : Nat) (h : ReadinessHistory d) (c : ReadinessConfig) : Prop :=
  (readinessSystem d).Traced (Accurate ε) ⟨{}, []⟩ h c

/-- A request to a service has been answered. -/
abbrev Answers (c : ReadinessConfig) (i service : Nat) (value : ExecutionReadiness) : Prop :=
  c.threads[i]? = some ⟨.request service, .ret (.ok (some value))⟩

/-- A computed answer that says ready: a worker with all preconditions has read its clock. -/
lemma ready_of_evaluate {worker : Option WorkerReadinessReport} {last : Reading} {j : Nat}
    (ready : (evaluateExecutionReadiness (d.controlPlaneEnabled service) worker last.clock).executionReady =
      true)
    (readLast : ReadBy ε j h last) (reported : ∀ report ∈ worker, Reported ε h report) :
    d.controlPlaneEnabled service = true ∧ ∃ k reading facts, ReadBy ε k h reading ∧
      reading.process = .worker facts ∧ facts.Ready d.parseDate reading.clock ∧
      last.time ≤ reading.time + (workerReadinessMaxAgeMs + 2 * ε) := by
  obtain ⟨enabled, report, rfl, age, passed⟩ := evaluate_ready ready
  obtain ⟨k, reading, facts, readBy, process, rfl⟩ := reported report rfl
  refine ⟨enabled, k, reading, facts, readBy, process, ready_of_passes passed, ?_⟩
  have published : (buildWorkerReadinessReport d.parseDate facts reading.clock).publishedAt = reading.clock :=
    rfl
  rw [published] at age
  obtain ⟨⟨-, behind⟩, -⟩ := readLast
  obtain ⟨⟨ahead, -⟩, -⟩ := readBy
  omega

/-- However workers, requests and losses of data in Redis are interleaved, where no clock is more than `ε`
    away from the time: if a request is answered that execution is ready, then it is enabled, and a worker
    with all preconditions has read its clock at most the time that answers are kept, the time that reports
    are trusted, and four times `ε`, before the request read the clock of the service. -/
theorem ready_recent (operated : Operated d ε h c) (answers : Answers c i service value)
    (ready : value.executionReady = true) :
    d.controlPlaneEnabled service = true ∧ ∃ c₁ env₁ c₂ j facts env₂,
      (c₁, .act i (.now (.service service)) env₁) ∈ h ∧ (c₂, .act j (.now (.worker facts)) env₂) ∈ h ∧
      facts.Ready d.parseDate (Environment.clock env₂) ∧
      c₁.store.time ≤ c₂.store.time + (d.cacheMs service + workerReadinessMaxAgeMs + 4 * ε) := by
  obtain ⟨relies, -, judged⟩ := operated.accounts rfl relied program_accounts
  obtain ⟨-, known⟩ := operated.records rfl relied program_accounts recording
  obtain ⟨first, isFirst, process, origin⟩ : Answered d service value _ := judged i _ answers value rfl
  obtain ⟨⟨ahead, behind⟩, c₁, env₁, mem₁, time₁, clock₁⟩ := (known i).first first isFirst
  rw [process] at mem₁
  -- What was computed just now, or what had been computed when the kept answer was.
  obtain ⟨j, last, worker, readLast, reported, recent, rfl⟩ : ∃ j last worker, ReadBy ε j h last ∧
      (∀ report ∈ worker, Reported ε h report) ∧ first.time ≤ last.time + (d.cacheMs service + 2 * ε) ∧
      value = evaluateExecutionReadiness (d.controlPlaneEnabled service) worker last.clock := by
    rcases origin with ⟨since, kept, young⟩ | ⟨last, isLast, result⟩
    · obtain ⟨j, first', last, worker, readFirst, readLast, order, rfl, reported, result⟩ :=
        (known i).cached service since value kept
      refine ⟨j, last, worker, readLast, reported, ?_, result⟩
      obtain ⟨⟨ahead', -⟩, -⟩ := readFirst
      omega
    · have order := (relies i).order first isFirst last isLast
      exact ⟨i, last, _, (known i).last last isLast, (known i).loaded, by omega, result⟩
  obtain ⟨enabled, k, reading, facts, readBy, isWorker, preconditions, age⟩ :=
    ready_of_evaluate ready readLast reported
  obtain ⟨-, c₂, env₂, mem₂, time₂, clock₂⟩ := readBy
  rw [isWorker] at mem₂
  rw [← clock₂] at preconditions
  have bound : first.time ≤ reading.time + (d.cacheMs service + workerReadinessMaxAgeMs + 4 * ε) := by omega
  rw [← time₁, ← time₂] at bound
  exact ⟨enabled, c₁, env₁, c₂, k, facts, env₂, mem₁, mem₂, preconditions, bound⟩

section Scenario

instance {c : ReadinessConfig} {l : (readinessSystem d).Label} : Decidable (Accurate ε c l) := by
  unfold Accurate
  split
  · exact inferInstance
  · exact inferInstance

/-- A service that is enabled. -/
def enabledDeployment : Deployment where
  parseDate _ := some 0
  controlPlaneEnabled _ := true

/-- A worker with all preconditions. -/
def readyFacts : WorkerReadinessFacts where
  runBudgetUsdMicros := 1
  workspaceDailyBudgetUsdMicros := 1
  providerCredentialsPresent := true
  egressVerifiedAt := some "2026-07-01T00:00:00Z"
  attachmentContractVerified := true
  browserViabilityRequired := true

/-- A worker reports, and a second later a request is answered. -/
def reports : List (readinessSystem enabledDeployment).Move :=
  [.spawn (.beat readyFacts), .act 0 { clock := 3 }, .act 0 {}, .spawn (.elapse 1000), .act 1 {},
    .spawn (.request 0), .act 2 { clock := 996 }, .act 2 {}, .act 2 {}, .act 2 { clock := 997 }, .act 2 {}]

/-- The answer that all gates are passed. -/
def allPass : ExecutionReadiness where
  controlPlaneEnabled := true
  preconditionsMet := true
  executionReady := true
  inconsistent := false
  failingGates := []
  workerState := .reporting

theorem ready_recent_reported : ∃ (h : ReadinessHistory enabledDeployment) (c : ReadinessConfig),
    Operated enabledDeployment 5 h c ∧ Answers c 2 0 allPass ∧
      ∃ c₁ env₁ c₂ j facts env₂, (c₁, .act 2 (.now (.service 0)) env₁) ∈ h ∧
        (c₂, .act j (.now (.worker facts)) env₂) ∈ h ∧
        facts.Ready enabledDeployment.parseDate (Environment.clock env₂) ∧
        c₁.store.time ≤ c₂.store.time + (5000 + 90000 + 4 * 5) := by
  have run : ((readinessSystem enabledDeployment).record ⟨{}, []⟩ reports).any (fun r =>
      System.answered r.2 2 = some (.request 0, some allPass) && r.1.all fun entry => Accurate 5 entry.1 entry.2) = true := by
    decide
  obtain ⟨h, c, traced, ends⟩ := System.exists_traced run
  obtain ⟨answered, accurate⟩ := Bool.and_eq_true_iff.mp ends
  have operated : Operated enabledDeployment 5 h c := by
    apply traced.guarded
    exact fun entry mem => of_decide_eq_true (List.all_eq_true.mp accurate entry mem)
  have answers : Answers c 2 0 allPass := System.thread_of_answered (of_decide_eq_true answered)
  exact ⟨h, c, operated, answers, (ready_recent operated answers rfl).2⟩

end Scenario
end Runs

end AtomsPlatform.Readiness
