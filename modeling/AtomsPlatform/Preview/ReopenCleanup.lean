import AtomsPlatform.Preview.Reopen

/-!
# A reopening leaves no half state

A reopening ends in one of two ways: the preview is opened, in the provider, the store and the tables, and
was announced once; or what was created is cleaned up and nothing was announced. While it goes on, the
variables of the processor know of everything that was created (`Unsettled`), so that its `catch` can clean
up, wherever the failure was.
-/

namespace AtomsPlatform.Preview.Reopen
open Interleaving Mutable Run Release
variable {Output : Type}

section Announcements
variable {s : RunStore Output} {runId : Uuid}

/-- Whether an event says that a preview is ready. -/
def isReady : RunEventPayload → Bool
  | .previewUpdated .. => true
  | _ => false

/-- The previews that were announced to a run. -/
def announcements (s : RunStore Output) (runId : Uuid) : List RunEventPayload :=
  ((s.logs runId).events.map RunEvent.payload).filter isReady

lemma announcements_appendEvent {k : Uuid} {event : RunEventPayload} :
    announcements (s.appendEvent k event) runId =
      announcements s runId ++ if runId = k then [event].filter isReady else [] := by
  by_cases same : runId = k
  · subst same
    have log : (s.appendEvent runId event).logs runId = (s.logs runId).append event := Function.update_self _ _ _
    rw [if_pos rfl, announcements, log, RunLog.append, List.map_append, List.filter_append]
    rfl
  · have log : (s.appendEvent k event).logs runId = s.logs runId := Function.update_of_ne same _ _
    rw [if_neg same, List.append_nil, announcements, log]
    rfl

end Announcements

section Ends

/-- The preview is open: the sandbox that was created runs, the store holds the entry of the session, both
    rows say that it is ready, and it was announced once. -/
structure Opened (job : PreviewReopenJob) (tables : RunStore Output) (x : ReopenWorld Output)
    (sandbox : SandboxHandle) (sessionId : Uuid) : Prop where
  created : x.created = [sandbox]
  running : x.terminated = []
  entry : ∃ target, x.targets sessionId = some target ∧ target.sessionId = sessionId ∧
    target.runId = job.runId
  session : ∃ row, Table.lookup SandboxSession.id sessionId x.tables.sandboxSessions = some row ∧
    row.status = .ready ∧ row.externalId = sandbox.id ∧ row.runId = job.runId
  preview : ∃ row, Table.lookup PreviewSession.id sessionId x.tables.previewSessions = some row ∧
    row.ready = true ∧ row.sandboxSessionId = sessionId ∧ row.runId = job.runId
  announced : ∃ url expiresAt, ∀ runId, announcements x.tables runId =
    announcements tables runId ++
      if runId = job.runId then [.previewUpdated sessionId url expiresAt] else []

/-- Whether a session was not there at the start. -/
def IsNew (tables : RunStore Output) (row : SandboxSession) : Prop :=
  ∀ old ∈ tables.sandboxSessions, old.id ≠ row.id

/-- What was created is cleaned up, as far as it can be: the termination of every sandbox and the deletion
    of the entry of every new session were attempted, nothing was announced, and the job did not fail if it
    had requested a sandbox. -/
structure CleanedUp (tables : RunStore Output) (r : Except Thrown Unit) (x : ReopenWorld Output) :
    Prop where
  terminated : ∀ sandbox ∈ x.created, sandbox.id ∈ x.terminated
  deleted : ∀ row ∈ x.tables.sandboxSessions, IsNew tables row → row.id ∈ x.deleted
  silent : ∀ runId, announcements x.tables runId = announcements tables runId
  job : x.requested = true → r = .ok ()

/-- What was announced was not cleaned up. -/
lemma Opened.not_cleanedUp {job : PreviewReopenJob} {tables : RunStore Output} {x : ReopenWorld Output}
    {sandbox : SandboxHandle} {sessionId : Uuid} {r : Except Thrown Unit}
    (opened : Opened job tables x sandbox sessionId) : ¬ CleanedUp tables r x := by
  intro cleanedUp
  obtain ⟨url, expiresAt, announced⟩ := opened.announced
  have here := announced job.runId
  rw [cleanedUp.silent, if_pos rfl] at here
  have lengths := congrArg List.length here
  rw [List.length_append, List.length_singleton] at lengths
  exact Nat.ne_of_lt (Nat.lt_succ_self _) lengths

end Ends

section Repository
variable {s s' : RunStore Output}

lemma createPreviewReopenSession_cases {input : CreatePreviewReopenSessionInput} {id : Uuid}
    {r : Option Uuid} (e : createPreviewReopenSession input id s = .ok (r, s')) :
    (r = none ∧ s' = s) ∨ ∃ row, r = some row.id ∧ row.runId = input.runId ∧
      row.externalId = input.externalId ∧ IsNew s row ∧
      s' = { s with sandboxSessions := s.sandboxSessions ++ [row] } := by
  unfold createPreviewReopenSession at e
  extract_lets found at e
  split at e
  · cases e
    exact .inl ⟨rfl, rfl⟩
  rename_i run named
  split at e
  · cases e
  rename_i unused
  have own : run.id = input.runId := by
    have is : found run = true := List.find?_some named
    exact (of_decide_eq_true is).1
  cases e
  refine .inr ⟨_, rfl, own, rfl, ?_, rfl⟩
  intro old mem same
  exact unused (List.any_eq_true.mpr ⟨old, mem, decide_eq_true (.inl same)⟩)

lemma recordPreviewReopened_ok {input : RecordPreviewReopenedInput} {u : Unit}
    (e : recordPreviewReopened input s = .ok (u, s')) :
    (∀ row, Table.lookup SandboxSession.id input.sandboxSessionId s.sandboxSessions = some row →
      Table.lookup SandboxSession.id input.sandboxSessionId s'.sandboxSessions =
        some { row with status := .ready, error := none }) ∧
    Table.lookup PreviewSession.id input.sandboxSessionId s'.previewSessions =
      some (reopenedPreview input) ∧
    ∀ runId, announcements s' runId = announcements s runId ++
      if runId = input.runId then
        [.previewUpdated input.sandboxSessionId input.gatewayUrl input.expiresAt] else [] := by
  unfold recordPreviewReopened at e
  split at e
  · cases e
  split at e
  · cases e
  rename_i unused
  cases e
  refine ⟨fun row found => ?_, ?_, fun runId => announcements_appendEvent⟩
  · have keeps (row : SandboxSession) (same : row.id = input.sandboxSessionId) :
        ({ row with status := .ready, error := none } : SandboxSession).id = input.sandboxSessionId := same
    refine (Table.lookup_update keeps).trans ?_
    rw [found]
    rfl
  have absent : Table.lookup PreviewSession.id input.sandboxSessionId s.previewSessions = none := by
    refine List.find?_eq_none.mpr fun preview mem same => ?_
    exact unused (List.any_eq_true.mpr ⟨preview, mem, decide_eq_true (.inl (of_decide_eq_true same))⟩)
  exact Table.lookup_append_new absent rfl

/-- A failure that is recorded is no announcement, and adds no session. -/
lemma recordPreviewReopenFailed_ok {input : RecordPreviewReopenFailedInput} {u : Unit}
    (e : recordPreviewReopenFailed input s = .ok (u, s')) :
    s'.sandboxSessions.map SandboxSession.id = s.sandboxSessions.map SandboxSession.id ∧
    ∀ runId, announcements s' runId = announcements s runId := by
  obtain ⟨runId, failure, now⟩ := input
  have quiet (s₀ : RunStore Output) (id : Uuid) :
      announcements (s₀.appendEvent runId (.ofOther (.previewFailed id now))) =
        announcements s₀ := by
    funext k
    rw [announcements_appendEvent]
    split
    · exact List.append_nil _
    · exact List.append_nil _
  cases failure with
  | noFiles message =>
    cases e
    exact ⟨rfl, fun k => congrFun (quiet _ _) k⟩
  | failed sandboxSessionId error =>
    cases sandboxSessionId with
    | none =>
      cases e
      exact ⟨rfl, fun k => congrFun (quiet _ _) k⟩
    | some sandboxSessionId =>
      cases e
      exact ⟨Table.keys_update fun _ _ => rfl, fun k => congrFun (quiet _ _) k⟩

end Repository

section Calls
variable {schema : PreviewTargetSchema} {P : Variables → ReopenWorld Output → Prop}

/-- The judgement by the world. -/
abbrev reopening (Output : Type) (schema : PreviewTargetSchema) :
    Judgement ReopenCall (fun o => Except Thrown o.Result) (ReopenWorld Output) :=
  performing (ReopenCall.perform schema)

/-- The rule of transactions: one that fails has committed nothing. -/
lemma triple_transact {o : ReopenCall} {Q : o.Result → Variables → ReopenWorld Output → Prop}
    {E : Thrown → Variables → ReopenWorld Output → Prop}
    (transaction : ReopenEnvironment → Transaction Output o.Result)
    (is : ∀ env x, o.perform schema env x = x.transact env (transaction env))
    (made : ∀ v x env a tables, P v x → transaction env x.tables = .ok (a, tables) →
      Q a v { x with tables })
    (refused : ∀ error v x, P v x → E error v x) :
    Triple (reopening Output schema) P (request o) Q E := by
  refine .performed fun v x env holds => ?_
  rw [is]
  unfold ReopenWorld.transact
  split
  · exact refused _ v x holds
  · exact refused _ v x holds
  · rename_i performed
    exact made v x env _ _ holds performed

/-- The rule of creations: a sandbox is created or not, but was requested. -/
lemma triple_created {spec : SandboxSpec} {Q : SandboxHandle → Variables → ReopenWorld Output → Prop}
    {E : Thrown → Variables → ReopenWorld Output → Prop}
    (made : ∀ v x sandbox, P v x →
      Q sandbox v { x with requested := true, created := x.created ++ [sandbox] })
    (refused : ∀ error v x, P v x → E error v { x with requested := true }) :
    Triple (reopening Output schema) P (provider.create spec) Q E := by
  refine .performed fun v x env holds => ?_
  have performed : (ReopenCall.provider (.create spec)).perform schema env x =
      ProviderCall.perform env x (.create spec) := rfl
  rw [performed]
  unfold ProviderCall.perform
  cases env.failure with
  | none => exact made v x _ holds
  | some error => exact refused error v x holds

/-- The rule of terminations: they are attempted. -/
lemma triple_terminated {sandboxId : String} {Q : Variables → ReopenWorld Output → Prop}
    (attempted : ∀ v x, P v x → Q v { x with terminated := x.terminated ++ [sandboxId] }) :
    Triple (reopening Output schema) P (provider.terminate sandboxId) (fun _ => Q) fun _ => Q := by
  refine .performed fun v x env holds => ?_
  show Outcome _ _ (env.answer ())
  unfold ReopenEnvironment.answer
  cases env.failure with
  | none => exact attempted v x holds
  | some error => exact attempted v x holds

lemma parse_ok {target parsed : PreviewTarget} (e : schema.parse target = .ok parsed) :
    parsed.sessionId = target.sessionId ∧ parsed.runId = target.runId := by
  unfold PreviewTargetSchema.parse at e
  split at e
  · cases e
  split at e
  · cases e
    exact ⟨rfl, rfl⟩
  · cases e

lemma put_ok {target : PreviewTarget} {now : Date} {u : Unit} {targets targets' : PreviewSessionStore}
    (e : targets.put schema target now = .ok (u, targets')) :
    ∃ parsed, targets' target.sessionId = some parsed ∧ parsed.sessionId = target.sessionId ∧
      parsed.runId = target.runId := by
  unfold PreviewSessionStore.put at e
  split at e
  · cases e
  rename_i parsed accepted
  split at e
  · cases e
  obtain ⟨session, run⟩ := parse_ok accepted
  cases e
  refine ⟨parsed, ?_, session, run⟩
  rw [← session]
  exact Function.update_self _ _ _

lemma outcome_store {x : ReopenWorld Output} {env : ReopenEnvironment}
    {written : Except Thrown (Unit × PreviewSessionStore)} {Q : Unit → ReopenWorld Output → Prop}
    {E : Thrown → ReopenWorld Output → Prop}
    (made : ∀ targets, written = .ok ((), targets) → Q () { x with targets })
    (refused : ∀ error targets, E error { x with targets }) :
    Outcome (fun a => Q a (x.store env written).2) (fun e => E e (x.store env written).2)
      (x.store env written).1 := by
  unfold ReopenWorld.store
  split
  · exact made _ rfl
  · exact refused _ x.targets
  · show E _ (if env.effective = true then _ else x)
    split
    · exact refused _ _
    · exact refused _ x.targets
  · exact refused _ x.targets

/-- The rule of `put`: one that fails may have taken effect. -/
lemma triple_put {P : Variables → ReopenWorld Output → Prop} {target : PreviewTarget}
    {Q E : Variables → ReopenWorld Output → Prop}
    (made : ∀ v x targets parsed, P v x → targets target.sessionId = some parsed →
      parsed.sessionId = target.sessionId → parsed.runId = target.runId → Q v { x with targets })
    (refused : ∀ v x targets, P v x → E v { x with targets }) :
    Triple (reopening Output schema) P (request (.put target)) (fun _ => Q) fun _ => E := by
  refine .performed fun v x env holds => ?_
  refine outcome_store (x := x) (Q := fun _ => Q v) (E := fun _ => E v) (fun targets e => ?_)
    fun error targets => refused v x targets holds
  obtain ⟨parsed, entry, session, run⟩ := put_ok e
  exact made v x targets parsed holds entry session run

/-- The rule of `delete`: it is attempted. -/
lemma triple_delete {P Q : Variables → ReopenWorld Output → Prop} {sessionId : Uuid}
    (attempted : ∀ v x targets, P v x → Q v { x with targets, deleted := x.deleted ++ [sessionId] }) :
    Triple (reopening Output schema) P (request (.delete sessionId)) (fun _ => Q) fun _ => Q :=
  .performed fun v x _ holds =>
    outcome_store (x := { x with deleted := x.deleted ++ [sessionId] }) (Q := fun _ => Q v)
      (E := fun _ => Q v) (fun targets _ => attempted v x targets holds)
      fun _ targets => attempted v x targets holds

lemma keeps_computed {α : Type} {r : Except Thrown α} : Keeps (reopening Output schema) P (computed r) := by
  cases r with
  | ok a => exact .pure
  | error error => exact .throw

lemma keeps_requireSessionId : Keeps (reopening Output schema) P requireSessionId := by
  refine .bind .get fun v => ?_
  split
  · exact .pure
  · exact .throw

lemma keeps_now : Keeps (reopening Output schema) P (request .now) :=
  .performed fun _ _ => rfl

/-- The calls on a sandbox leave the world alone. -/
lemma executes : Executes (reopening Output schema) P provider where
  now := keeps_now
  writeFiles _ _ := .performed fun _ _ => rfl
  exec _ _ := .performed fun _ _ => rfl
  startProcess _ _ := .performed fun _ _ => rfl
  exposePort _ _ := .performed fun _ _ => rfl

variable {options : PreviewReopenProcessorOptions} {job : PreviewReopenJob}

lemma keeps_issue {sessionId : Uuid} {expiresAt : Date} :
    Keeps (reopening Output schema) P (issue options sessionId expiresAt) :=
  .bind keeps_now fun _ => keeps_computed

/-- The hooks during the steps leave the world alone. -/
lemma reports : Reports (reopening Output schema) P (hooks options job) where
  onStep _ _ := .pure
  previewEnvironment _ _ := by
    refine .bind keeps_requireSessionId fun sessionId => ?_
    refine .bind keeps_issue fun publicUrl => ?_
    refine .bind (.performed fun _ _ => rfl) fun secret => ?_
    exact .pure

end Calls

section Progress
variable {tables : RunStore Output} {job : PreviewReopenJob} {sandbox : SandboxHandle} {row : SandboxSession}
  {v : Variables} {x : ReopenWorld Output}

/-- Nothing has been created. -/
structure Idle (tables : RunStore Output) (v : Variables) (x : ReopenWorld Output) : Prop where
  session : v.sandboxSessionId = none
  result : v.result = none
  unchanged : x.tables = tables
  created : x.created = []
  terminated : x.terminated = []

/-- A sandbox has been created. -/
structure Provided (tables : RunStore Output) (sandbox : SandboxHandle) (v : Variables)
    (x : ReopenWorld Output) : Prop where
  session : v.sandboxSessionId = none
  result : v.result = none
  unchanged : x.tables = tables
  created : x.created = [sandbox]
  terminated : x.terminated = []

/-- The sandbox has been recorded, in a new row. -/
structure Recorded (job : PreviewReopenJob) (tables : RunStore Output) (sandbox : SandboxHandle)
    (row : SandboxSession) (v : Variables) (x : ReopenWorld Output) : Prop where
  session : v.sandboxSessionId = some row.id
  remaining : v.remaining = some sandbox
  added : x.tables = { tables with sandboxSessions := tables.sandboxSessions ++ [row] }
  created : x.created = [sandbox]
  terminated : x.terminated = []
  own : row.runId = job.runId
  named : row.externalId = sandbox.id
  isNew : IsNew tables row

/-- The variables know of everything that was created, and nothing was announced. -/
structure Unsettled (tables : RunStore Output) (v : Variables) (x : ReopenWorld Output) : Prop where
  sandbox : ∀ sandbox ∈ x.created, v.remaining = some sandbox
  session : ∀ row ∈ x.tables.sandboxSessions, IsNew tables row → v.sandboxSessionId = some row.id
  silent : ∀ runId, announcements x.tables runId = announcements tables runId

/-- A session that is there is not new. -/
lemma not_isNew (mem : row ∈ tables.sandboxSessions) : ¬ IsNew tables row :=
  fun isNew => isNew row mem rfl

lemma Idle.unsettled (idle : Idle tables v x) : Unsettled tables v x where
  sandbox sandbox mem := by
    rw [idle.created] at mem
    cases mem
  session row mem isNew := by
    rw [idle.unchanged] at mem
    exact absurd isNew (not_isNew mem)
  silent runId := by rw [idle.unchanged]

lemma Provided.unsettled (provided : Provided tables sandbox v x) (known : v.sandbox = some sandbox) :
    Unsettled tables v x where
  sandbox created mem := by
    rw [provided.created] at mem
    rw [Variables.remaining, provided.result, List.mem_singleton.mp mem]
    exact known
  session row mem isNew := by
    rw [provided.unchanged] at mem
    exact absurd isNew (not_isNew mem)
  silent runId := by rw [provided.unchanged]

lemma Recorded.unsettled (recorded : Recorded job tables sandbox row v x) : Unsettled tables v x where
  sandbox created mem := by
    rw [recorded.created] at mem
    rw [List.mem_singleton.mp mem]
    exact recorded.remaining
  session other mem isNew := by
    rw [recorded.added] at mem
    rcases List.mem_append.mp mem with mem | mem
    · exact absurd isNew (not_isNew mem)
    · rw [List.mem_singleton.mp mem]
      exact recorded.session
  silent runId := by
    rw [recorded.added]
    rfl

/-- The row of a session that was recorded. -/
lemma Recorded.lookup (recorded : Recorded job tables sandbox row v x) :
    Table.lookup SandboxSession.id row.id x.tables.sandboxSessions = some row := by
  have absent : Table.lookup SandboxSession.id row.id tables.sandboxSessions = none :=
    List.find?_eq_none.mpr fun old mem same => recorded.isNew old mem (of_decide_eq_true same)
  rw [recorded.added]
  exact Table.lookup_append_new absent rfl

end Progress

section Processing
variable {schema : PreviewTargetSchema} {options : PreviewReopenProcessorOptions} {job : PreviewReopenJob}
  {tables : RunStore Output} {sandbox : SandboxHandle}

lemma triple_create {spec : SandboxSpec} :
    Triple (reopening Output schema) (Idle tables) (provider.create spec)
      (fun sandbox => Provided tables sandbox) fun _ => Unsettled tables := by
  refine triple_created (fun v x sandbox idle => ?_) fun error v x idle => ?_
  · refine ⟨idle.session, idle.result, idle.unchanged, ?_, idle.terminated⟩
    show x.created ++ [sandbox] = [sandbox]
    rw [idle.created]
    rfl
  · have idle : Idle tables v { x with requested := true } :=
      ⟨idle.session, idle.result, idle.unchanged, idle.created, idle.terminated⟩
    exact idle.unsettled

/-- The hook knows the sandbox before it records it. -/
lemma triple_onSandboxCreated {expiresAt : Date} :
    Triple (reopening Output schema) (Provided tables sandbox)
      ((hooks options job).onSandboxCreated sandbox expiresAt)
      (fun _ v x => ∃ row, Recorded job tables sandbox row v x) fun _ => Unsettled tables := by
  refine .bind (R := fun _ v x => Provided tables sandbox v x ∧ v.sandbox = some sandbox) ?_ fun _ => ?_
  · refine .modify fun v x provided => ⟨?_, rfl⟩
    exact ⟨provided.session, provided.result, provided.unchanged, provided.created, provided.terminated⟩
  refine .bind (R := fun id v x => (id = none → Unsettled tables v x) ∧
    ∀ sessionId, id = some sessionId → ∃ row, sessionId = row.id ∧
      Recorded job tables sandbox row { v with sandboxSessionId := some sessionId } x) ?_ fun id => ?_
  · refine triple_transact (fun env => createPreviewReopenSession _ env.id) (fun _ _ => rfl) ?_
      fun error v x holds => holds.1.unsettled holds.2
    intro v x env id after holds e
    obtain ⟨provided, known⟩ := holds
    rcases createPreviewReopenSession_cases e with ⟨rfl, same⟩ | ⟨row, rfl, own, named, isNew, changed⟩
    · refine ⟨fun _ => ?_, nofun⟩
      subst same
      exact provided.unsettled known
    · refine ⟨nofun, fun sessionId same => ⟨row, ?_, ?_⟩⟩
      · exact (Option.some.inj same).symm
      · rw [provided.unchanged] at changed isNew
        refine ⟨same.symm, ?_, changed, provided.created, provided.terminated, own, named, isNew⟩
        rw [Variables.remaining, provided.result]
        exact known
  · cases id with
    | none => exact .throw fun v x holds => holds.1 rfl
    | some sessionId =>
      refine .modify fun v x holds => ?_
      obtain ⟨row, -, recorded⟩ := holds.2 sessionId rfl
      exact ⟨row, recorded⟩

/-- The runner's own attempt to terminate a sandbox leaves the variables' knowledge alone. -/
lemma triple_terminate {sandboxId : String} :
    Triple (reopening Output schema) (Unsettled tables) (provider.terminate sandboxId)
      (fun _ => Unsettled tables) fun _ => Unsettled tables := by
  exact triple_terminated fun v x unsettled => ⟨unsettled.sandbox, unsettled.session, unsettled.silent⟩

lemma triple_runner {input : ProjectValidationInput} :
    Triple (reopening Output schema) (Idle tables)
      (ProjectValidationRunner.validate options.runner provider (hooks options job) input)
      (fun result v x => ∃ row, Recorded job tables result.sandbox row v x) fun _ => Unsettled tables := by
  have kept (sandbox : SandboxHandle) (v : Variables) (x : ReopenWorld Output) :
      (∃ row, Recorded job tables sandbox row v x) → Unsettled tables v x :=
    fun ⟨row, recorded⟩ => recorded.unsettled
  refine triple_validation (B := Provided tables)
    (C := fun sandbox v x => ∃ row, Recorded job tables sandbox row v x)
    (D := fun sandbox v x => ∃ row, Recorded job tables sandbox row v x) (F := Unsettled tables)
    ?_ (fun _ _ idle => idle.unsettled) (fun spec => triple_create)
    (fun sandbox expiresAt => triple_onSandboxCreated) ?_ ?_ (fun sandbox => executes)
    (fun sandbox => reports) kept fun sandbox => triple_terminate
  · exact keeps_now.mono (fun _ _ holds => holds) (fun _ _ _ holds => holds) fun _ _ _ idle => idle.unsettled
  · intro sandbox files
    exact (executes.writeFiles _ _).mono (fun _ _ holds => holds) (fun _ _ _ holds => holds)
      fun _ v x holds => kept sandbox v x holds
  · exact fun sandbox => .pure fun _ _ holds => holds

/-- The store holds an entry for the session. -/
def Entered (job : PreviewReopenJob) (sessionId : Uuid) (x : ReopenWorld Output) : Prop :=
  ∃ target, x.targets sessionId = some target ∧ target.sessionId = sessionId ∧ target.runId = job.runId


variable {row : SandboxSession} {result : ProjectValidationResult}

lemma Recorded.with_targets {v : Variables} {x : ReopenWorld Output} {targets : PreviewSessionStore}
    (recorded : Recorded job tables sandbox row v x) :
    Recorded job tables sandbox row v { x with targets } :=
  ⟨recorded.session, recorded.remaining, recorded.added, recorded.created, recorded.terminated, recorded.own,
    recorded.named, recorded.isNew⟩

/-- The ready rows and the announcement are what makes a recorded sandbox with an entry an open preview. -/
lemma Recorded.opened {v : Variables} {x : ReopenWorld Output} {input : RecordPreviewReopenedInput}
    {u : Unit} {after : RunStore Output} (recorded : Recorded job tables sandbox row v x)
    (entered : Entered job row.id x) (session : input.sandboxSessionId = row.id)
    (run : input.runId = job.runId) (e : recordPreviewReopened input x.tables = .ok (u, after)) :
    Opened job tables { x with tables := after } sandbox row.id := by
  obtain ⟨sessions, preview, announced⟩ := recordPreviewReopened_ok e
  rw [session] at sessions preview announced
  rw [run] at announced
  refine ⟨recorded.created, recorded.terminated, entered, ?_, ?_, input.gatewayUrl, input.expiresAt, ?_⟩
  · refine ⟨{ row with status := .ready, error := none }, ?_, rfl, recorded.named, recorded.own⟩
    exact sessions row recorded.lookup
  · exact ⟨reopenedPreview input, preview, rfl, session, run⟩
  · intro runId
    have silent := recorded.unsettled.silent runId
    rw [← silent]
    exact announced runId

lemma triple_publish :
    Triple (reopening Output schema) (Recorded job tables result.sandbox row) (publish options job result)
      (fun _ _ x => Opened job tables x result.sandbox row.id) fun _ => Unsettled tables := by
  refine .bind (R := fun _ => Recorded job tables result.sandbox row) ?_ fun _ => ?_
  · exact .modify fun v x recorded => ⟨recorded.session, rfl, recorded.added, recorded.created,
      recorded.terminated, recorded.own, recorded.named, recorded.isNew⟩
  refine .bind (R := fun sessionId v x => Recorded job tables result.sandbox row v x ∧ sessionId = row.id) ?_
    fun sessionId => ?_
  · refine .bind (R := fun v' v x => Recorded job tables result.sandbox row v x ∧ v' = v)
      (.get fun v x recorded => ⟨recorded, rfl⟩) fun v' => ?_
    split
    · rename_i known
      refine .pure fun v x holds => ⟨holds.1, ?_⟩
      rw [holds.2, holds.1.session] at known
      exact (Option.some.inj known).symm
    · exact .throw fun v x holds => holds.1.unsettled
  refine .extract (φ := sessionId = row.id) (fun v x holds => holds.2) fun same => ?_
  subst same
  refine .bind (R := fun _ => Recorded job tables result.sandbox row) ?_ fun gatewayUrl => ?_
  · exact keeps_issue.mono (fun v x holds => holds.1) (fun _ _ _ recorded => recorded)
      fun _ v x recorded => recorded.unsettled
  let entered (v : Variables) (x : ReopenWorld Output) : Prop :=
    Recorded job tables result.sandbox row v x ∧ Entered job row.id x
  refine .bind (R := fun _ => entered) ?_ fun _ => ?_
  · refine triple_put (fun v x targets parsed recorded entry session run => ?_)
      fun v x targets recorded => recorded.with_targets.unsettled
    exact ⟨recorded.with_targets, parsed, entry, session, run⟩
  refine .bind (R := fun _ => entered) ?_ fun now => ?_
  · exact keeps_now.mono (fun _ _ holds => holds) (fun _ _ _ holds => holds)
      fun _ v x holds => holds.1.unsettled
  refine triple_transact (fun _ => recordPreviewReopened _) (fun _ _ => rfl) ?_
    fun error v x holds => holds.1.unsettled
  intro v x env u after holds e
  exact holds.1.opened holds.2 rfl rfl e

/-- A failure that is recorded spoils nothing that was cleaned up. -/
lemma CleanedUp.recordFailed {x : ReopenWorld Output} {r : Except Thrown Unit}
    {input : RecordPreviewReopenFailedInput} {u : Unit} {after : RunStore Output}
    (cleanedUp : CleanedUp tables r x) (e : recordPreviewReopenFailed input x.tables = .ok (u, after)) :
    CleanedUp tables r { x with tables := after } := by
  obtain ⟨ids, silent⟩ := recordPreviewReopenFailed_ok e
  refine ⟨cleanedUp.terminated, ?_, fun runId => (silent runId).trans (cleanedUp.silent runId), cleanedUp.job⟩
  intro row mem isNew
  have named : row.id ∈ after.sandboxSessions.map SandboxSession.id := List.mem_map_of_mem mem
  rw [ids] at named
  obtain ⟨before, mem, same⟩ := List.mem_map.mp named
  rw [← same]
  refine cleanedUp.deleted before mem fun old mem => ?_
  rw [same]
  exact isNew old mem

lemma keeps_recordPreviewReopenFailed {input : RecordPreviewReopenFailedInput} {r : Except Thrown Unit} :
    Keeps (reopening Output schema) (fun _ x => CleanedUp tables r x)
      (request (.recordPreviewReopenFailed input)) :=
  triple_transact (fun _ => recordPreviewReopenFailed input) (fun _ _ => rfl)
    (fun _ _ _ _ _ cleanedUp e => cleanedUp.recordFailed e) fun _ _ _ cleanedUp => cleanedUp

/-- What fails when it is ignored does not fail. -/
lemma triple_ignoring {p : ReopenProgram Unit} {P Q : Variables → ReopenWorld Output → Prop}
    {E : Thrown → Variables → ReopenWorld Output → Prop}
    (triple : Triple (reopening Output schema) P p (fun _ => Q) fun _ => Q) :
    Triple (reopening Output schema) P (ignoring p) (fun _ => Q) E :=
  .tryCatch triple fun _ => .pure fun _ _ holds => holds

/-- The `catch` cleans up and does not fail. -/
lemma triple_cleanUp {error : Thrown} {E : Thrown → Variables → ReopenWorld Output → Prop} :
    Triple (reopening Output schema) (Unsettled tables) (cleanUp job error)
      (fun _ _ x => CleanedUp tables (.ok ()) x) E := by
  refine .bind (R := fun v' _ x => Unsettled tables v' x) (.get fun v x unsettled => unsettled) fun v' => ?_
  let deleted (_ : Variables) (x : ReopenWorld Output) : Prop :=
    Unsettled tables v' x ∧ ∀ row ∈ x.tables.sandboxSessions, IsNew tables row → row.id ∈ x.deleted
  refine .bind (R := fun _ => deleted) ?_ fun _ => ?_
  · unfold deleteEntry
    split
    · rename_i unknown
      refine .pure fun v x unsettled => ⟨unsettled, fun row mem isNew => ?_⟩
      have known := unsettled.session row mem isNew
      rw [unknown] at known
      cases known
    · rename_i sessionId known
      refine triple_ignoring (triple_delete fun v x targets unsettled => ⟨?_, fun row mem isNew => ?_⟩)
      · exact ⟨unsettled.sandbox, unsettled.session, unsettled.silent⟩
      · have same := unsettled.session row mem isNew
        rw [known] at same
        rw [← Option.some.inj same]
        exact List.mem_append_right _ (List.mem_singleton.mpr rfl)
  refine .bind (R := fun _ _ x => CleanedUp tables (.ok ()) x) ?_ fun _ => ?_
  · unfold terminateSandbox
    split
    · rename_i unknown
      refine .pure fun v x holds => ⟨fun sandbox mem => ?_, holds.2, holds.1.silent, fun _ => rfl⟩
      have known := holds.1.sandbox sandbox mem
      rw [unknown] at known
      cases known
    · rename_i remaining known
      refine triple_ignoring (triple_terminated fun v x holds => ⟨fun sandbox mem => ?_, holds.2,
        holds.1.silent, fun _ => rfl⟩)
      have same := holds.1.sandbox sandbox mem
      rw [known] at same
      rw [← Option.some.inj same]
      exact List.mem_append_right _ (List.mem_singleton.mpr rfl)
  split
  · exact .pure fun v x cleanedUp => cleanedUp
  · refine .bind (R := fun _ _ x => CleanedUp tables (.ok ()) x) ?_ fun now => ?_
    · exact .performed fun v x env cleanedUp => cleanedUp
    · exact triple_ignoring keeps_recordPreviewReopenFailed

/-- The two ends of a reopening. -/
def Settled (job : PreviewReopenJob) (tables : RunStore Output) (r : Except Thrown Unit)
    (x : ReopenWorld Output) : Prop :=
  (r = .ok () ∧ ∃ sandbox sessionId, Opened job tables x sandbox sessionId) ∨ CleanedUp tables r x

/-- While no sandbox was requested there is nothing to clean up. -/
lemma Idle.cleanedUp {v : Variables} {x : ReopenWorld Output} {r : Except Thrown Unit}
    (idle : Idle tables v x) (unrequested : x.requested = false) : CleanedUp tables r x where
  terminated sandbox mem := by
    rw [idle.created] at mem
    cases mem
  deleted row mem isNew := by
    rw [idle.unchanged] at mem
    exact absurd isNew (not_isNew mem)
  silent := idle.unsettled.silent
  job requested := by
    rw [unrequested] at requested
    cases requested

lemma triple_process :
    Triple (reopening Output schema) (fun v x => Idle tables v x ∧ x.requested = false)
      (PreviewReopenProcessor.process options job) (fun u _ x => Settled job tables (.ok u) x)
      fun error _ x => Settled job tables (.error error) x := by
  refine .bind (R := fun _ v x => Idle tables v x ∧ x.requested = false) ?_ fun files => ?_
  · refine triple_transact (fun _ => Run.listProjectFiles _) (fun _ _ => rfl) ?_
      fun error v x holds => .inr (holds.1.cleanedUp holds.2)
    intro v x env found after holds e
    cases e
    exact holds
  split
  · refine .bind (R := fun _ v x => Idle tables v x ∧ x.requested = false) ?_ fun now => ?_
    · exact .performed fun v x env holds => holds
    refine triple_transact (fun _ => recordPreviewReopenFailed _) (fun _ _ => rfl) ?_
      fun error v x holds => .inr (holds.1.cleanedUp holds.2)
    intro v x env u after holds e
    exact .inr ((holds.1.cleanedUp holds.2).recordFailed e)
  · refine .tryCatch (R := fun _ => Unsettled tables) ?_ fun error => ?_
    · refine .bind (R := fun result v x => ∃ row, Recorded job tables result.sandbox row v x) ?_
        fun result => ?_
      · exact triple_runner.mono (fun v x holds => holds.1) (fun _ _ _ holds => holds) fun _ _ _ holds => holds
      · rintro v x ⟨row, recorded⟩
        refine (triple_publish v x recorded).mono fun r x ended => ?_
        obtain ⟨r, v⟩ := r
        cases r with
        | ok u => exact .inl ⟨rfl, result.sandbox, row.id, ended⟩
        | error error => exact ended
    · exact triple_cleanUp.mono (fun _ _ holds => holds) (fun _ _ _ cleanedUp => .inr cleanedUp)
        fun _ _ _ holds => holds

/-- However the runner, the store of the previews and the tables behave, a reopening either opens the
    preview, or cleans up whatever it created; and never both. -/
theorem reopen_opened_xor_cleanedUp (targets : PreviewSessionStore) (choose : Nat → ReopenEnvironment) :
    let ended := reopen options schema job tables targets choose
    Xor (ended.1 = .ok () ∧ ∃ sandbox sessionId, Opened job tables ended.2 sandbox sessionId)
      (CleanedUp tables ended.1 ended.2) := by
  intro ended
  have idle : Idle tables ({} : Variables) ({ tables, targets } : ReopenWorld Output) :=
    ⟨rfl, rfl, rfl, rfl, rfl⟩
  have settled : Settled job tables ended.1 ended.2 := by
    have triple : Triple (reopening Output schema) (fun v x => Idle tables v x ∧ x.requested = false)
        (PreviewReopenProcessor.process options job) (fun u _ x => Settled job tables (.ok u) x)
        fun error _ x => Settled job tables (.error error) x := triple_process
    have ends := (triple {} { tables, targets } ⟨idle, rfl⟩).carryOut choose 0
    show Settled job tables (((PreviewReopenProcessor.process options job).start {}).carryOut
      (ReopenCall.perform schema) choose 0 { tables, targets }).1.1 _
    revert ends
    cases (((PreviewReopenProcessor.process options job).start {}).carryOut
      (ReopenCall.perform schema) choose 0 { tables, targets }).1.1 with
    | ok u => exact fun ends => ends
    | error error => exact fun ends => ends
  rcases settled with ⟨returned, sandbox, sessionId, opened⟩ | cleanedUp
  · exact .inl ⟨⟨returned, sandbox, sessionId, opened⟩, opened.not_cleanedUp⟩
  · exact .inr ⟨cleanedUp, fun ⟨_, _, _, opened⟩ => opened.not_cleanedUp cleanedUp⟩

end Processing

end AtomsPlatform.Preview.Reopen
