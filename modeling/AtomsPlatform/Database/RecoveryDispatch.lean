import AtomsPlatform.Database.Activities

/-!
# What a sweep has dispatched

The account of a sweep's recoveries: the jobs it planned, those the queue accepted and the one the
queue refused. The first refusal ends the loop over the plan.
-/

namespace AtomsPlatform.Database
open Interleaving

/-- The jobs a sweep has planned in a call. -/
def plannedIn : Event Operation (fun o => Except Failure o.Answer) → List DatabaseOperationJob
  | ⟨.recoverStaleOperations _, .ok plan⟩ => plan.dispatches
  | _ => []

/-- The job the queue accepts in a call. -/
def acceptedIn : Event Operation (fun o => Except Failure o.Answer) → Option DatabaseOperationJob
  | ⟨.enqueue job, .ok _⟩ => some job
  | _ => none

/-- The job the queue refuses in a call. -/
def refusedIn : Event Operation (fun o => Except Failure o.Answer) → Option DatabaseOperationJob
  | ⟨.enqueue job, .error _⟩ => some job
  | _ => none

/-- The jobs a sweep has planned. -/
def plannedJobs (h : DatabaseCalls) : List DatabaseOperationJob :=
  h.flatMap plannedIn

/-- The jobs the queue has accepted. -/
def acceptedJobs (h : DatabaseCalls) : List DatabaseOperationJob :=
  h.filterMap acceptedIn

/-- The jobs the queue has refused. -/
def refusedJobs (h : DatabaseCalls) : List DatabaseOperationJob :=
  h.filterMap refusedIn

/-- What a sweep has planned, and what became of it. -/
structure Ledger (plan done failed : List DatabaseOperationJob) (h : DatabaseCalls) : Prop where
  planned : plannedJobs h = plan
  accepted : acceptedJobs h = done
  refused : refusedJobs h = failed

/-- A sweep is not in its loop over the plan: everything is accepted, or the first refusal has ended
    the loop. -/
def Dispatched (h : DatabaseCalls) : Prop :=
  (∃ plan, Ledger plan plan [] h) ∨ ∃ done job rest, Ledger (done ++ job :: rest) done [job] h

/-- Calls that are not about recoveries. -/
def Operation.unrelated : Operation → Bool
  | .recoverStaleOperations _ | .enqueue _ | .recordRecoveryDispatchFailure .. => false
  | _ => true

/-- Nothing about recoveries has been called. -/
def Idle (h : DatabaseCalls) : Prop :=
  ∀ x ∈ h, x.1.unrelated = true

/-- What a sweep has done before it recovers, enqueues or records a failure to enqueue. -/
def recoveryAccount (h : DatabaseCalls) : Operation → Prop
  | .recoverStaleOperations _ => Idle h
  | .enqueue job => ∃ done rest, Ledger (done ++ job :: rest) done [] h
  | .recordRecoveryDispatchFailure current _ _ =>
    ∃ job ∈ refusedJobs h, ⟨.findRecoveryDispatch job, .ok (some current)⟩ ∈ h
  | _ => True

section Account
variable {h : DatabaseCalls} {o : Operation} {r : Except Failure o.Answer}
  {plan done failed jobs : List DatabaseOperationJob} {job : DatabaseOperationJob}

lemma unrelated_account (unrelated : o.unrelated = true) : recoveryAccount h o := by
  cases o with
  | recoverStaleOperations | enqueue | recordRecoveryDispatchFailure => cases unrelated
  | _ => trivial

lemma plannedJobs_append {x : Event Operation fun o => Except Failure o.Answer} :
    plannedJobs (h ++ [x]) = plannedJobs h ++ plannedIn x := by
  rw [plannedJobs, List.flatMap_append, List.flatMap_singleton, plannedJobs]

lemma acceptedJobs_append {x : Event Operation fun o => Except Failure o.Answer} :
    acceptedJobs (h ++ [x]) = acceptedJobs h ++ (acceptedIn x).toList := by
  rw [acceptedJobs, List.filterMap_append, acceptedJobs]
  cases e : acceptedIn x <;> simp [e]

lemma refusedJobs_append {x : Event Operation fun o => Except Failure o.Answer} :
    refusedJobs (h ++ [x]) = refusedJobs h ++ (refusedIn x).toList := by
  rw [refusedJobs, List.filterMap_append, refusedJobs]
  cases e : refusedIn x <;> simp [e]

/-- A call with which nothing is planned, accepted or refused. -/
lemma Ledger.append (ledger : Ledger plan done failed h)
    (silent : plannedIn ⟨o, r⟩ = [] ∧ acceptedIn ⟨o, r⟩ = none ∧ refusedIn ⟨o, r⟩ = none) :
    Ledger plan done failed (h ++ [⟨o, r⟩]) := by
  obtain ⟨noPlan, noDone, noFailed⟩ := silent
  constructor
  · rw [plannedJobs_append, ledger.planned, noPlan, List.append_nil]
  · rw [acceptedJobs_append, ledger.accepted, noDone, Option.toList_none, List.append_nil]
  · rw [refusedJobs_append, ledger.refused, noFailed, Option.toList_none, List.append_nil]

lemma unrelated_silent (unrelated : o.unrelated = true) :
    plannedIn ⟨o, r⟩ = [] ∧ acceptedIn ⟨o, r⟩ = none ∧ refusedIn ⟨o, r⟩ = none := by
  cases o with
  | recoverStaleOperations | enqueue => cases unrelated
  | _ => exact ⟨rfl, rfl, rfl⟩

lemma Dispatched.append (dispatched : Dispatched h)
    (silent : plannedIn ⟨o, r⟩ = [] ∧ acceptedIn ⟨o, r⟩ = none ∧ refusedIn ⟨o, r⟩ = none) :
    Dispatched (h ++ [⟨o, r⟩]) := by
  obtain ⟨plan, ledger⟩ | ⟨done, job, rest, ledger⟩ := dispatched
  · exact .inl ⟨plan, ledger.append silent⟩
  · exact .inr ⟨done, job, rest, ledger.append silent⟩

/-- A sweep plans once. -/
lemma Ledger.recover {input : RecoverInput} {recovery : DatabaseRecoveryPlan}
    (ledger : Ledger [] done failed h) :
    Ledger recovery.dispatches done failed
      (h ++ [⟨.recoverStaleOperations input, .ok recovery⟩]) := by
  constructor
  · rw [plannedJobs_append, ledger.planned]
    rfl
  · rw [acceptedJobs_append, ledger.accepted]
    exact List.append_nil _
  · rw [refusedJobs_append, ledger.refused]
    exact List.append_nil _

lemma Ledger.accept {answer : Unit} (ledger : Ledger plan done failed h) :
    Ledger plan (done ++ [job]) failed (h ++ [⟨.enqueue job, .ok answer⟩]) := by
  constructor
  · rw [plannedJobs_append, ledger.planned]
    exact List.append_nil _
  · rw [acceptedJobs_append, ledger.accepted]
    rfl
  · rw [refusedJobs_append, ledger.refused]
    exact List.append_nil _

lemma Ledger.refuse (job : DatabaseOperationJob) (error : Failure)
    (ledger : Ledger plan done failed h) :
    Ledger plan done (failed ++ [job]) (h ++ [⟨.enqueue job, .error error⟩]) := by
  constructor
  · rw [plannedJobs_append, ledger.planned]
    exact List.append_nil _
  · rw [acceptedJobs_append, ledger.accepted]
    exact List.append_nil _
  · rw [refusedJobs_append, ledger.refused]
    rfl

/-- A program that makes unrelated calls only. -/
lemma unrelated_program {calls : Operation → Bool} {α : Type} {p : Program α}
    (yields : Yields (making calls) p fun _ => True)
    (unrelated : ∀ o, calls o = true → o.unrelated = true) :
    Accounts recoveryAccount Dispatched p (fun _ => Dispatched) fun _ => Dispatched :=
  accounts_of_making yields (fun _ o made _ => unrelated_account (unrelated o made))
    fun _ o _ made dispatched => dispatched.append (unrelated_silent (unrelated o made))

/-- An unrelated call keeps what such calls keep. -/
lemma unrelated_call {P : DatabaseCalls → Prop} (unrelated : o.unrelated = true)
    (keeps : ∀ h r, P h → P (h ++ [⟨o, r⟩])) :
    Accounts recoveryAccount P (call o) (fun _ => P) fun _ => P :=
  Accounts.call (fun _ _ => unrelated_account unrelated) (fun h a => keeps h (.ok a))
    fun h e => keeps h (.error e)

lemma dispatched_call (unrelated : o.unrelated = true) :
    Accounts recoveryAccount Dispatched (call o) (fun _ => Dispatched) fun _ => Dispatched :=
  unrelated_call unrelated fun _ _ dispatched => dispatched.append (unrelated_silent unrelated)

/-- Recording a refusal is about the job that was refused. -/
lemma noteDispatchFailure_account {error : OperationError} {now : Date} :
    Accounts recoveryAccount (fun h => Dispatched h ∧ job ∈ refusedJobs h)
      (noteDispatchFailure job error now) (fun _ => Dispatched) fun _ => Dispatched := by
  refine .bind (R := fun found h => Dispatched h ∧ job ∈ refusedJobs h ∧
    ⟨.findRecoveryDispatch job, .ok found⟩ ∈ h) ?_ fun found => ?_
  · refine Accounts.call (fun _ _ => trivial) ?_ fun h e holds => ?_
    · intro h a holds
      refine ⟨holds.1.append ⟨rfl, rfl, rfl⟩, ?_, List.mem_append_right _ (List.mem_singleton_self _)⟩
      rw [refusedJobs_append]
      exact List.mem_append_left _ holds.2
    · exact holds.1.append ⟨rfl, rfl, rfl⟩
  cases found with
  | none => exact .pure fun _ holds => holds.1
  | some current =>
    refine Accounts.call ?_ ?_ ?_
    · exact fun h holds => ⟨job, holds.2.1, holds.2.2⟩
    · exact fun h a holds => holds.1.append ⟨rfl, rfl, rfl⟩
    · exact fun h e holds => holds.1.append ⟨rfl, rfl, rfl⟩

/-- The loop over a plan. -/
lemma dispatchRecovery_account :
    Accounts recoveryAccount (Ledger (done ++ jobs) done []) (dispatchRecovery jobs)
      (fun _ => Dispatched) fun _ => Dispatched := by
  induction jobs generalizing done with
  | nil => exact .pure fun h ledger => .inl ⟨done, by simpa using ledger⟩
  | cons job jobs ih =>
    refine .bind (R := fun _ => Ledger ((done ++ [job]) ++ jobs) (done ++ [job]) []) ?_ fun _ => ?_
    · refine .tryCatch (R := fun _ h => Dispatched h ∧ job ∈ refusedJobs h) ?_ fun error => ?_
      · refine Accounts.call (fun h ledger => ⟨done, jobs, ledger⟩) ?_ ?_
        · intro h a ledger
          rw [List.append_assoc]
          exact ledger.accept
        · intro h e ledger
          have ledger' := ledger.refuse job e
          refine ⟨.inr ⟨done, job, jobs, ledger'⟩, ?_⟩
          rw [ledger'.refused]
          exact List.mem_singleton_self _
      · refine .bind (R := fun _ h => Dispatched h ∧ job ∈ refusedJobs h) ?_ fun now => ?_
        · refine Accounts.call (fun _ _ => trivial) ?_ ?_
          · intro h a holds
            refine ⟨holds.1.append ⟨rfl, rfl, rfl⟩, ?_⟩
            rw [refusedJobs_append]
            exact List.mem_append_left _ holds.2
          · exact fun h e holds => holds.1.append ⟨rfl, rfl, rfl⟩
        · exact noteDispatchFailure_account.bind fun _ => .throw fun _ dispatched => dispatched
    · exact ih.bind fun recovered => .pure fun _ dispatched => dispatched

/-- Before the recovery nothing is planned. -/
lemma Idle.ledger (idle : Idle h) : Ledger [] [] [] h := by
  have silent (x : Event Operation fun o => Except Failure o.Answer) (mem : x ∈ h) :=
    unrelated_silent (r := x.2) (idle x mem)
  constructor
  · exact List.flatMap_eq_nil_iff.mpr fun x mem => (silent x mem).1
  · exact List.filterMap_eq_nil_iff.mpr fun x mem => (silent x mem).2.1
  · exact List.filterMap_eq_nil_iff.mpr fun x mem => (silent x mem).2.2

lemma Idle.append (idle : Idle h) (unrelated : o.unrelated = true) : Idle (h ++ [⟨o, r⟩]) := by
  intro x mem
  obtain mem | mem := List.mem_append.mp mem
  · exact idle x mem
  · rw [List.mem_singleton.mp mem]
    exact unrelated

lemma Idle.dispatched (idle : Idle h) : Dispatched h :=
  .inl ⟨[], idle.ledger⟩

/-- A call before the recovery. -/
lemma idle_call (unrelated : o.unrelated = true) :
    Accounts recoveryAccount Idle (call o) (fun _ => Idle) fun _ => Idle :=
  unrelated_call unrelated fun _ _ idle => idle.append unrelated

/-- A call before the recovery, whose failure ends the sweep. -/
lemma idly (unrelated : o.unrelated = true) :
    Accounts recoveryAccount Idle (call o) (fun _ => Idle) fun _ => Dispatched :=
  (idle_call unrelated).mono (fun _ idle => idle) (fun _ _ idle => idle) fun _ _ idle =>
    idle.dispatched

/-- The account of a sweep after it has begun. -/
lemma sweep_recoveries {options : ReconcilerOptions} {sweepId : Uuid} {staleBefore : Date} :
    Accounts recoveryAccount Idle (sweep options sweepId staleBefore)
      (fun _ => Dispatched) fun _ => Dispatched := by
  refine .bind (idly rfl) fun providerResources => ?_
  refine .bind (idly rfl) fun trackedResources => ?_
  refine .bind (idly rfl) fun now => ?_
  refine .bind (R := fun recovery => Ledger ([] ++ recovery.dispatches) [] []) ?_ fun recovery => ?_
  · refine Accounts.call (fun _ idle => idle) (fun h a idle => idle.ledger.recover) ?_
    exact fun h e idle => .inl ⟨[], idle.ledger.append ⟨rfl, rfl, rfl⟩⟩
  refine .bind dispatchRecovery_account fun recovered => ?_
  refine .bind (unrelated_program checkTracked_makes ?_) fun missing => ?_
  · exact fun o made => by cases o <;> first | rfl | cases made
  refine .bind (unrelated_program checkOrphans_makes ?_) fun counts => ?_
  · exact fun o made => by cases o <;> first | rfl | cases made
  refine .bind (dispatched_call rfl) fun now => ?_
  refine .bind (dispatched_call rfl) fun _ => ?_
  refine .bind (dispatched_call rfl) fun now => ?_
  exact .bind (dispatched_call rfl) fun _ => .pure fun _ dispatched => dispatched

/-- The account of a sweep's recoveries. -/
lemma reconcile_recoveries {options : ReconcilerOptions} :
    Accounts recoveryAccount (· = []) (reconcile options) (fun _ => Dispatched)
      fun _ => Dispatched := by
  refine .mono (P := Idle) ?_ ?_ (fun _ _ post => post) fun _ _ post => post
  · refine .bind (idly rfl) fun startedAt => ?_
    refine .bind (R := fun _ => Idle) ?_ fun begun => ?_
    · refine .tryCatch (R := fun _ => Idle) ?_ fun error => ?_
      · exact .bind (idle_call rfl) fun sweepId => .pure fun _ idle => idle
      · split
        · exact .pure fun _ idle => idle
        · exact .throw fun _ idle => idle.dispatched
    cases begun with
    | none => exact .pure fun _ idle => idle.dispatched
    | some sweepId =>
      refine .bind (.tryCatch sweep_recoveries fun error => ?_)
        fun summary => .pure fun _ dispatched => dispatched
      refine .bind (dispatched_call rfl) fun now => ?_
      refine .bind (R := fun _ => Dispatched) ?_ fun _ => .throw fun _ dispatched => dispatched
      exact .tryCatch (dispatched_call rfl) fun _ => .pure fun _ dispatched => dispatched
  · rintro h rfl x mem
    cases mem

end Account

end AtomsPlatform.Database
