import AtomsPlatform.Run.Activities

/-!
# Approvals

A gate is opened by an approve job that names its scope, and such a job is enqueued by one approve
action of that scope, which the control API applies to any paused run. Whether the user was asked for
what the action approves depends on the pause it ends. In every history in which approve actions
only end pauses that asked for their scope, every gate that is opened was shown to the user.
-/

namespace AtomsPlatform.Run
open Interleaving
variable {Output : Type} {schemas : AgentOutputSchemas Output} {d : Deployment}

/-- The thread, the run and the scope of a gate that a step lets the run pass because of an approve
    job. -/
def opensGate :
    ControlConfig schemas × (controlPlane schemas d).Label → Option (Nat × Uuid × ApprovalScope)
  | (_, .act i (.worker (.endNode node state update)) _) =>
    if update.approvalBypassConsumed = some true then
      node.scope?.map fun scope => (i, state.runId, scope)
    else none
  | _ => none

/-- The job that a step is to enqueue, if it is an approve action that is applied. -/
def approvedJob : ControlConfig schemas × (controlPlane schemas d).Label → Option RunJob
  | (c, .act j (.worker (.store (.transitionRun runId .approve status version now))) env) =>
    match c.threads[j]?,
        (ControlCall.perform d (.worker (.store (.transitionRun runId .approve status version now))) env
          c.store).1 with
    | some ⟨.control _ input, _⟩, .ok (some updated) => some (jobOf updated input .approve)
    | _, _ => none
  | _ => none

/-- The last change of a run's status was a pause that asked the user to approve a scope. -/
def Asked (runId : Uuid) (scope : ApprovalScope) (h : ControlHistory schemas d) : Prop :=
  ∃ reason, askedApproval runId h = some ⟨scope, reason⟩

/-- Approve actions are only applied to runs that were paused to ask for their scope. -/
def ApprovesAsked (h : ControlHistory schemas d) : Prop :=
  ∀ g₁ approval g₂ job scope, h = g₁ ++ approval :: g₂ → approvedJob approval = some job →
    job.approvalScope = some scope → Asked job.runId scope g₁

/-- A gate that an approve job opens was asked for when the action was applied that led to the job. -/
def GatesAsked (h : ControlHistory schemas d) : Prop :=
  ∀ h₁ entry h₂ i runId scope, h = h₁ ++ entry :: h₂ → opensGate entry = some (i, runId, scope) →
    ∃ job attempt p g₁ approval g₂, entry.1.threads[i]? = some ⟨.delivery job attempt, p⟩ ∧
      job.runId = runId ∧ job.approvalScope = some scope ∧
      h₁ = g₁ ++ approval :: g₂ ∧ approvedJob approval = some job ∧ Asked runId scope g₁

section Actions
variable {input : RunActionInput} {job : RunJob}

/-- Among the calls is an action that was applied and leads to a job. -/
def Applied (input : RunActionInput) (job : RunJob) (calls : ControlCalls schemas) : Prop :=
  ∃ runId status version now updated command,
    ⟨.worker (.store (.transitionRun runId input.action status version now)), .ok (some updated)⟩ ∈
      calls ∧
    input.action.command? = some command ∧ job = jobOf updated input command

/-- Before a job is enqueued, an action was applied that leads to it. -/
def enqueueAccount (input : RunActionInput) (calls : ControlCalls schemas) :
    ControlCall schemas → Prop
  | .enqueue job => Applied input job calls
  | _ => True

/-- A transaction enqueues nothing. -/
lemma store_account {o : Operation Output} {P : ControlCalls schemas → Prop} :
    Accounts (enqueueAccount input) P (store o)
      (fun answer calls => ∃ before, calls = before ++ [⟨.worker (.store o), .ok answer⟩])
      fun _ _ => True :=
  .call (fun _ _ => trivial) (fun before _ _ => ⟨before, rfl⟩) fun _ _ _ => trivial

lemma clock_account {P : ControlCalls schemas → Prop} :
    Accounts (enqueueAccount input) P clock (fun _ _ => True) fun _ _ => True :=
  .call (fun _ _ => trivial) (fun _ _ _ => trivial) fun _ _ _ => trivial

/-- A job that an applied action leads to may be enqueued. -/
lemma enqueueOrFail_account {message : String} :
    Accounts (enqueueAccount input : ControlCalls schemas → _) (Applied input job)
      (enqueueOrFail job message) (fun _ _ => True) fun _ _ => True := by
  refine .tryCatch (R := fun _ _ => True) ?_ fun error => ?_
  · exact Accounts.call (fun _ applied => applied) (fun _ _ _ => trivial) fun _ _ _ => trivial
  refine .bind clock_account fun now => ?_
  exact .bind store_account fun _ => .throw fun _ _ => trivial

/-- What `controlRun` enqueues is accounted for by the action it applied. -/
lemma controlRun_account {enabled : Bool} {runId : Uuid} :
    Accounts (enqueueAccount input : ControlCalls schemas → _) (fun _ => True)
      (controlRun enabled runId input) (fun _ _ => True) fun _ _ => True := by
  refine .bind store_account fun found => ?_
  cases found with
  | none => exact .throw fun _ _ => trivial
  | some current =>
    dsimp only
    split
    · exact .throw fun _ _ => trivial
    refine .bind clock_account fun occurredAt => ?_
    split
    · exact .throw fun _ _ => trivial
    split
    · exact .throw fun _ _ => trivial
    refine .bind store_account fun updated => ?_
    cases updated with
    | none => exact .bind store_account fun _ => .throw fun _ _ => trivial
    | some updated =>
      show Triple _ _ (enqueueAction updated input) _ _
      unfold enqueueAction
      split
      · exact .pure fun _ _ => trivial
      · rename_i command leads
        refine enqueueOrFail_account.mono ?_ (fun _ _ _ => trivial) fun _ _ _ => trivial
        rintro _ ⟨before, rfl⟩
        refine ⟨current.id, current.status, current.controlVersion, occurredAt, updated, command, ?_,
          leads, rfl⟩
        exact List.mem_append_right before (List.mem_singleton_self _)

end Actions

section Queue
variable {c₀ c c' : ControlConfig schemas} {h : ControlHistory schemas d} {job : RunJob}

/-- What a call does to the queue. -/
lemma perform_queue (call : ControlCall schemas) (env : WorkerEnvironment schemas)
    (s : ControlStore schemas) :
    (call.perform d env s).2.queue = s.queue ∨
      ∃ job, call = .enqueue job ∧ (call.perform d env s).2.queue = s.queue ++ [job] := by
  cases call with
  | worker | findReminders | findExpired => exact .inl rfl
  | appendEvent =>
    simp only [ControlCall.perform]
    split <;> exact .inl rfl
  | enqueue job =>
    simp only [ControlCall.perform]
    split
    · exact .inr ⟨job, rfl, rfl⟩
    · exact .inl rfl

/-- A job in the queue was enqueued. -/
lemma enqueued_of_mem (begins : Begins c₀)
    (traced : (controlPlane schemas d).Traced (controlPlane schemas d).Unguarded c₀ h c)
    (mem : job ∈ c.store.queue) :
    ∃ h₁ c₁ j env h₂, h = h₁ ++ (c₁, .act j (.enqueue job) env) :: h₂ := by
  induction traced with
  | nil =>
    rw [begins.queue] at mem
    cases mem
  | @snoc h c l c' traced guard step ih =>
    have earlier (mem : job ∈ c.store.queue) :
        ∃ h₁ c₁ j env h₂, h ++ [(c, l)] = h₁ ++ (c₁, .act j (.enqueue job) env) :: h₂ := by
      obtain ⟨h₁, c₁, j, env, h₂, rfl⟩ := ih mem
      exact ⟨h₁, c₁, j, env, h₂ ++ [(c, l)], by rw [List.append_assoc, List.cons_append]⟩
    cases step with
    | spawn _ => exact earlier mem
    | @act i tag call k env at_i =>
      obtain same | ⟨added, rfl, longer⟩ := perform_queue (d := d) call env c.store
      · exact earlier (same ▸ mem)
      · obtain old | new := List.mem_append.mp (longer ▸ mem)
        · exact earlier old
        · rw [List.mem_singleton.mp new]
          exact ⟨h, c, i, env, [], rfl⟩

/-- Jobs that are delivered are in the queue, and stay there. -/
lemma delivered_queued (begins : Begins c₀)
    (run : (controlPlane schemas d).Reaches (controlPlane schemas d).Unguarded c₀ c) {i : Nat}
    {attempt : RunAttempt} {p} (at_i : c.threads[i]? = some ⟨.delivery job attempt, p⟩) :
    job ∈ c.store.queue := by
  have queued : ∀ t ∈ c.threads, t.tag.admitted c.store = true := by
    refine run.tags (P := fun s t => t.admitted s = true) (fun admits => admits) ?_ begins.threads
    intro s call env t admitted
    cases t with
    | delivery job attempt =>
      have mem : job ∈ s.queue := of_decide_eq_true admitted
      obtain same | ⟨added, -, longer⟩ := perform_queue (d := d) call env s
      · exact decide_eq_true (same ▸ mem)
      · exact decide_eq_true (longer ▸ List.mem_append_left _ mem)
    | _ => exact admitted
  exact of_decide_eq_true (queued _ (List.mem_of_getElem? at_i))

end Queue

section Runs
variable {c₀ c c₁ : ControlConfig schemas} {h h₁ h₂ : ControlHistory schemas d} {job : RunJob}
  {i : Nat} {runId : Uuid} {scope : ApprovalScope}

/-- An approve job is enqueued by an approve action that was applied. -/
lemma approved_of_enqueued {env : WorkerEnvironment schemas} (begins : Begins c₀)
    (traced : (controlPlane schemas d).Traced (controlPlane schemas d).Unguarded c₀ h c)
    (split : h = h₁ ++ (c₁, .act i (.enqueue job) env) :: h₂) (command : job.command = .approve) :
    ∃ g₁ approval g₂, h₁ = g₁ ++ approval :: g₂ ∧ approvedJob approval = some job := by
  have before := (traced.split split).1
  obtain ⟨activity, k, at_i⟩ := traced.pending split
  have may : activity.mayCall (.enqueue job : ControlCall schemas) := Traced.mayCall begins before at_i
  cases activity with
  | start runId =>
    have starts : job.command = .start := may
    rw [starts] at command
    cases command
  | control runId input =>
    have applied : enqueueAccount input (System.calls i h₁) (.enqueue job : ControlCall schemas) :=
      before.accounted begins.threads at_i (controlRun_account [] trivial)
    obtain ⟨target, status, version, now, updated, command', mem, leads, rfl⟩ := applied
    have approves : input.action = .approve := by
      have same : command' = .approve := command
      cases action : input.action with
      | approve => rfl
      | pause | cancel | resume | retry =>
        rw [action, same] at leads
        cases leads
    obtain ⟨g₁, c₂, env₂, g₂, earlier, answer⟩ := System.mem_calls mem
    obtain ⟨rest, at_i₂⟩ := before.pending_tag at_i earlier
    have same : command' = .approve := command
    rw [approves] at earlier answer at_i₂
    refine ⟨g₁, _, g₂, earlier, ?_⟩
    simp only [approvedJob, at_i₂, same]
    rw [show (ControlCall.perform d _ env₂ c₂.store).1 = _ from answer]
  | _ => exact may.elim

/-- A gate that is opened is opened by a job that approves its scope. -/
lemma opensGate_delivery (begins : Begins c₀)
    (traced : (controlPlane schemas d).Traced (controlPlane schemas d).Unguarded c₀ h c)
    {entry : ControlConfig schemas × (controlPlane schemas d).Label} (split : h = h₁ ++ entry :: h₂)
    (opens : opensGate entry = some (i, runId, scope)) :
    ∃ job attempt p, entry.1.threads[i]? = some ⟨.delivery job attempt, p⟩ ∧
      job.command = .approve ∧ job.runId = runId ∧ job.approvalScope = some scope := by
  obtain ⟨c₁, l⟩ := entry
  unfold opensGate at opens
  split at opens
  · rename_i c₂ j node state update env same
    cases same
    split at opens
    · rename_i bypass
      obtain ⟨named, gate, same⟩ := Option.map_eq_some_iff.mp opens
      cases same
      obtain ⟨activity, k, at_i⟩ := traced.pending split
      have may := Traced.mayCall begins (traced.split split).1 at_i
      cases activity with
      | delivery job attempt =>
        obtain ⟨command, here, scope', names, is⟩ := may bypass
        cases gate.symm.trans is
        exact ⟨job, attempt, _, at_i, command, here.symm, names⟩
      | _ => exact may.elim
    · cases opens
  · cases opens

end Runs

section Scenario

/-- A delivery of the job that approves the plan. -/
def approvedDelivery : (plainPlane true 0 {}).Move :=
  .spawn (.delivery ⟨1, .approve, 3, none, some .plan⟩ ⟨1, 1⟩)

/-- The plan is shown to the user, who approves it. -/
def approvesPlan : List (plainPlane true 0 {}).Move :=
  asksForPlan ++ acts 2 4 ⟨.approve, some .plan, none, none, none⟩ ++
    approvedDelivery :: proceeds 3 20 16

/-- A user pauses the run before there is a plan, and approves the plan. -/
def approvesUnseen : List (plainPlane true 0 {}).Move :=
  .spawn (.start 1) :: proceeds 0 1 0 ++
    .spawn (.delivery ⟨1, .start, 0, none, none⟩ ⟨1, 1⟩) :: proceeds 1 2 11 ++
    acts 2 3 ⟨.pause, none, none, none, none⟩ ++
    acts 3 4 ⟨.approve, some .plan, none, none, none⟩ ++
    approvedDelivery :: proceeds 4 12 11 ++ proceeds 4 9 12 ++ proceeds 4 9 13 ++ proceeds 4 10 14

end Scenario

end AtomsPlatform.Run
