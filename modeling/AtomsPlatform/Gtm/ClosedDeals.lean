import AtomsPlatform.Gtm.Deals

/-!
# Closed deals

A deal that is closed should stay as it is, and only won deals should be handed off. When a deal was
closed is always recorded (`Dated`), and there is never a second hand-off of a deal, because the tables
refuse it. But the check that a deal is open and the write of its stage are two statements: the stages
of closed deals stay exactly if no update is carried out on a deal that was closed, with another stage,
after the update read it (`KeepsStage`).
-/

namespace AtomsPlatform.Gtm
open Interleaving

/-- The history of a run of the system. -/
abbrev DealHistory : Type :=
  List (DealConfig × dealSystem.Label)

section Specification

/-- The deals that are closed in the first state are closed in the same way in the second one. -/
def ClosedStay (s s' : DealStore) : Prop :=
  ∀ id d, s.deal? id = some d → d.stage.closed = true →
    ∃ d', s'.deal? id = some d' ∧ d'.stage = d.stage

/-- A time of closing is recorded for the closed deals and for no other. -/
def Dated (s : DealStore) : Prop :=
  ∀ d ∈ s.deals, d.closedAt.isSome = d.stage.closed

/-- Each deal is handed off at most once, and only won deals are. -/
def HandedOff (s : DealStore) : Prop :=
  (s.handoffs.map CustomerSuccessHandoff.dealId).Nodup ∧
    ∀ handoff ∈ s.handoffs, ∃ d, s.deal? handoff.dealId = some d ∧ d.stage = .closedWon

/-- What is asked of a run up to a configuration: deals that were closed at any time are as they were,
    closing is dated, and the hand-offs are of won deals. -/
def DealsKept (h : DealHistory) (c : DealConfig) : Prop :=
  (∀ entry ∈ h, ClosedStay entry.1.store c.store) ∧ Dated c.store ∧ HandedOff c.store

/-- Whether a call has no effect by its fate. -/
def Fate.aborted : Fate → Bool
  | .aborts _ => true
  | _ => false

/-- A step that gives no other stage to a deal that is closed by then. -/
def KeepsStage : DealConfig × dealSystem.Label → Prop
  | (c, .act _ (.updateDeal dealId stage _) env) =>
    ∀ d, c.store.deal? dealId = some d → d.stage.closed = true →
      env.fate.aborted = true ∨ stage = d.stage
  | _ => True

instance : DecidablePred KeepsStage
  | (c, .act _ (.updateDeal dealId stage _) env) =>
    decidable_of_iff (((c.store.deal? dealId).all fun d =>
        decide (d.stage.closed = true → env.fate.aborted = true ∨ stage = d.stage)) = true) <| by
      simp only [KeepsStage, Option.all_eq_true, decide_eq_true_eq]
  | (_, .spawn _) | (_, .act _ .now _) | (_, .act _ (.getGtmScopeAccess ..) _)
  | (_, .act _ (.findProspect ..) _) | (_, .act _ (.createDeal ..) _) | (_, .act _ (.findDeal ..) _)
  | (_, .act _ .listDealsReadyForHandoff _) | (_, .act _ (.createHandoff ..) _) => isTrue trivial

end Specification

section Store
variable {s s' : DealStore} {o : Operation} {env : Environment} {id : Uuid} {d : Deal}

lemma ClosedStay.refl (s : DealStore) : ClosedStay s s :=
  fun _ d found _ => ⟨d, found, rfl⟩

lemma ClosedStay.trans {s₁ s₂ s₃ : DealStore} (first : ClosedStay s₁ s₂)
    (second : ClosedStay s₂ s₃) : ClosedStay s₁ s₃ := by
  intro id d found closed
  obtain ⟨d₂, found₂, stage₂⟩ := first id d found closed
  obtain ⟨d₃, found₃, stage₃⟩ := second id d₂ found₂ (by rw [stage₂, closed])
  exact ⟨d₃, found₃, stage₃.trans stage₂⟩

/-- The deals of a store in which deals are found by their ids. -/
def DealStore.Keyed (s : DealStore) : Prop :=
  (s.deals.map Deal.id).Nodup

/-- What a statement may do to the tables. -/
inductive DealChange (o : Operation) (s : DealStore) : DealStore → Prop where
  | kept : DealChange o s s
  | created {gtmScopeId input stage closedAt} {d : Deal} :
    o = .createDeal gtmScopeId input stage closedAt → (∀ d' ∈ s.deals, d'.id ≠ d.id) →
    d.stage = stage → d.closedAt = closedAt → DealChange o s { s with deals := s.deals ++ [d] }
  | updated {dealId stage closedAt} {d : Deal} :
    o = .updateDeal dealId stage closedAt → s.deal? dealId = some d →
    DealChange o s { s with
      deals := Table.update Deal.id dealId (fun _ => true)
        (fun d => { d with stage, closedAt }) s.deals }
  | handedOff {dealId gtmScopeId prospectId detectedAt} {handoff : CustomerSuccessHandoff} :
    o = .createHandoff dealId gtmScopeId prospectId detectedAt →
    (∀ handoff' ∈ s.handoffs, handoff'.dealId ≠ dealId) → handoff.dealId = dealId →
    DealChange o s { s with handoffs := s.handoffs ++ [handoff] }

lemma transact_change {r : o.Answer} (e : transact env o s = .ok (r, s')) : DealChange o s s' := by
  cases o with
  | now | getGtmScopeAccess | findProspect | findDeal | listDealsReadyForHandoff =>
    cases e
    exact .kept
  | createDeal gtmScopeId input stage closedAt =>
    simp only [transact] at e
    split at e
    · cases e
    · rename_i free
      cases e
      refine .created rfl ?_ rfl rfl
      intro d' mem same
      exact free (List.any_eq_true.mpr ⟨d', mem, decide_eq_true same⟩)
  | updateDeal dealId stage closedAt =>
    simp only [transact] at e
    split at e
    · cases e
    · rename_i d found
      cases e
      exact .updated rfl found
  | createHandoff dealId gtmScopeId prospectId detectedAt =>
    simp only [transact] at e
    split at e
    · cases e
    · rename_i free
      split at e
      · cases e
      · cases e
        refine .handedOff rfl ?_ rfl
        intro handoff mem same
        exact free (List.any_eq_true.mpr ⟨handoff, mem, decide_eq_true (.inl same)⟩)

/-- A call has no effect and fails, or it has the effect of its statement, whose answer may be lost. -/
lemma perform_cases (o : Operation) (env : Environment) (s : DealStore) :
    (∃ error, perform o env s = (.error error, s) ∧
        (env.fate.aborted = true ∨ transact env o s = .error error)) ∨
      env.fate.aborted = false ∧ ∃ r s', transact env o s = .ok (r, s') ∧
        (perform o env s).2 = s' ∧ ∀ a, (perform o env s).1 = .ok a → a = r := by
  unfold perform
  cases done : transact env o s with
  | error error =>
    cases env.fate with
    | commits => exact .inl ⟨error, rfl, .inr rfl⟩
    | aborts error' => exact .inl ⟨error', rfl, .inl rfl⟩
    | unacknowledged error' => exact .inl ⟨error, rfl, .inr rfl⟩
  | ok result =>
    obtain ⟨r, s'⟩ := result
    cases fate : env.fate with
    | aborts error => exact .inl ⟨error, rfl, .inl rfl⟩
    | commits =>
      refine .inr ⟨rfl, r, s', rfl, rfl, ?_⟩
      intro a e
      cases e
      rfl
    | unacknowledged error =>
      refine .inr ⟨rfl, r, s', rfl, rfl, ?_⟩
      intro a e
      cases e

lemma perform_change (o : Operation) (env : Environment) (s : DealStore) :
    DealChange o s (perform o env s).2 := by
  rcases perform_cases o env s with ⟨error, e, -⟩ | ⟨-, r, s', done, e, -⟩
  · rw [e]
    exact .kept
  · rw [e]
    exact transact_change done

/-- What a table of deals says after an update. -/
lemma deal?_updated {dealId : Uuid} {stage : DealStage} {closedAt : Option Date}
    (found : s.deal? id = some d) :
    Table.lookup Deal.id id (Table.update Deal.id dealId (fun _ => true)
      (fun d => { d with stage, closedAt }) s.deals) =
        some (if id = dealId then { d with stage, closedAt } else d) := by
  by_cases same : id = dealId
  · subst same
    have found : Table.lookup Deal.id id s.deals = some d := found
    rw [Table.lookup_update ?keeps, found, if_pos rfl]
    case keeps => exact fun _ key => key
    rfl
  · rw [Table.lookup_update_ne ?keeps same, if_neg same]
    case keeps => exact fun _ key => key
    exact found

/-- A change keeps all deals, and those of another stage after it were updated. -/
lemma DealChange.deal (change : DealChange o s s') (found : s.deal? id = some d) :
    ∃ d', s'.deal? id = some d' ∧
      (d'.stage = d.stage ∨ ∃ stage closedAt, o = .updateDeal id stage closedAt ∧ d'.stage = stage) := by
  cases change with
  | kept => exact ⟨d, found, .inl rfl⟩
  | created call fresh => exact ⟨d, Table.lookup_append_of_some found, .inl rfl⟩
  | handedOff => exact ⟨d, found, .inl rfl⟩
  | @updated dealId stage closedAt d₀ call old =>
    refine ⟨_, deal?_updated found, ?_⟩
    split
    · rename_i same
      subst same
      exact .inr ⟨stage, closedAt, call, rfl⟩
    · exact .inl rfl

end Store

section Dates

/-- A statement writes a time of closing exactly with a closed stage, and reads find them so. -/
def datedly : Contract Operation fun o => Except Failure o.Answer where
  requires
    | .createDeal _ _ stage closedAt => closedAt.isSome = stage.closed
    | .updateDeal _ stage closedAt => closedAt.isSome = stage.closed
    | _ => True
  ensures
    | .findDeal .., .ok (some d) => d.closedAt.isSome = d.stage.closed
    | _, _ => True

lemma closedAt_of_stage (stage : DealStage) (now : Date) {closedAt : Option Date}
    (still : stage.closed = false → closedAt = none) :
    (if stage.closed then some now else closedAt).isSome = stage.closed := by
  cases closed : stage.closed with
  | true => rfl
  | false =>
    rw [still closed]
    rfl

lemma createDeal_datedly {gtmScopeId : Uuid} {input : CreateDealInput} {now : Date} :
    Yields datedly (createDeal gtmScopeId input now) fun _ => True := by
  unfold createDeal
  apply Yields.step trivial
  intro prospect _
  cases prospect with
  | none => exact .pure trivial
  | some prospect =>
    refine .step ?_ fun _ _ => .pure trivial
    apply closedAt_of_stage
    intro _
    rfl

lemma updateDealStage_datedly {gtmScopeId dealId : Uuid} {stage : DealStage} {now : Date} :
    Yields datedly (updateDealStage gtmScopeId dealId stage now) fun _ => True := by
  unfold updateDealStage
  apply Yields.step trivial
  intro existing dated
  cases existing with
  | none => exact .pure trivial
  | some existing =>
    have dated : existing.closedAt.isSome = existing.stage.closed := dated
    dsimp only
    split
    · exact .pure trivial
    · rename_i opened
      refine .step ?_ fun _ _ => .pure trivial
      apply closedAt_of_stage
      intro _
      rw [Bool.eq_false_iff.mpr opened] at dated
      exact Option.isNone_iff_eq_none.mp (Option.isSome_eq_false_iff.mp dated)

lemma requireAccess_datedly {userId gtmScopeId : Uuid} :
    Yields datedly (requireAccess userId gtmScopeId) fun _ => True := by
  unfold requireAccess
  apply Yields.step trivial
  intro access _
  cases access with
  | true => exact .pure trivial
  | false => exact .throw

lemma createDealRoute_datedly {userId gtmScopeId : Uuid} {input : CreateDealInput} :
    Yields datedly (createDealRoute userId gtmScopeId input) fun _ => True := by
  unfold createDealRoute
  refine .bind requireAccess_datedly fun _ _ => .step trivial fun now _ => ?_
  apply Yields.bind createDeal_datedly
  intro result _
  cases result with
  | none => exact .throw
  | some deal => exact .pure trivial

lemma updateDealStageRoute_datedly {userId gtmScopeId dealId : Uuid} {stage : DealStage} :
    Yields datedly (updateDealStageRoute userId gtmScopeId dealId stage) fun _ => True := by
  unfold updateDealStageRoute
  refine .bind requireAccess_datedly fun _ _ => .step trivial fun now _ => ?_
  apply Yields.bind updateDealStage_datedly
  intro result _
  cases result with
  | notFound | terminalStage => exact .throw
  | ok deal => exact .pure trivial

lemma recordHandoff_datedly {dealId gtmScopeId prospectId : Uuid} {now : Date} :
    Yields datedly (recordHandoff dealId gtmScopeId prospectId now) fun _ => True := by
  unfold recordHandoff
  refine .tryCatch (.step trivial fun _ _ => .pure trivial) fun error => ?_
  split
  · exact .pure trivial
  · exact .throw

lemma recordHandoffs_datedly (deals : List DealReadyForHandoff) :
    Yields datedly (recordHandoffs deals) fun _ => True := by
  induction deals with
  | nil => exact .pure trivial
  | cons deal deals ih =>
    apply Yields.step trivial
    intro now _
    exact .bind recordHandoff_datedly fun _ _ => .bind ih fun _ _ => .pure trivial

lemma reconcile_datedly : Yields datedly reconcile fun _ => True := by
  unfold reconcile
  apply Yields.step trivial
  intro deals _
  exact .bind (recordHandoffs_datedly deals) fun _ _ => .pure trivial

lemma program_datedly (activity : Activity) :
    Yields datedly activity.program fun _ => True := by
  cases activity with
  | dealCreation => exact .bind createDealRoute_datedly fun _ _ => .pure trivial
  | stageUpdate => exact .bind updateDealStageRoute_datedly fun _ _ => .pure trivial
  | handoffSweep =>
    exact .bind reconcile_datedly fun _ _ => .pure trivial

/-- What holds of the tables all the time: ids are unique, closing is dated, and no deal is handed off
    twice. -/
structure Orderly (s : DealStore) : Prop where
  keyed : s.Keyed
  dated : Dated s
  once : (s.handoffs.map CustomerSuccessHandoff.dealId).Nodup

variable {s s' : DealStore} {o : Operation}

/-- A change that is dated keeps the tables in order. -/
lemma Orderly.change (orderly : Orderly s) (change : DealChange o s s')
    (requires : datedly.requires o) : Orderly s' := by
  obtain ⟨keyed, dated, once⟩ := orderly
  cases change with
  | kept => exact ⟨keyed, dated, once⟩
  | created call fresh stage closedAt =>
    rw [call] at requires
    refine ⟨Table.nodup_append keyed fresh, ?_, once⟩
    intro d mem
    rcases List.mem_append.mp mem with old | new
    · exact dated d old
    · rw [List.mem_singleton.mp new, stage, closedAt]
      exact requires
  | @updated dealId stage closedAt _ call _ =>
    rw [call] at requires
    refine ⟨?_, ?_, once⟩
    · show (List.map Deal.id (Table.update Deal.id _ _ _ s.deals)).Nodup
      rw [Table.keys_update ?keeps]
      case keeps => exact fun _ _ => rfl
      exact keyed
    · intro d mem
      obtain ⟨d₀, mem₀, rfl⟩ := List.mem_map.mp mem
      split
      · exact requires
      · exact dated d₀ mem₀
  | handedOff call fresh same =>
    refine ⟨keyed, dated, ?_⟩
    refine Table.nodup_append once ?_
    intro handoff mem
    rw [same]
    exact fresh handoff mem

/-- The tables stay in order, and the answers are dated. -/
lemma datedly_upholds :
    dealSystem.Upholds (fun (_ : Unit) (_ : Activity) => datedly) Orderly (fun _ _ => True)
      fun _ _ _ _ => True where
  step := by
    intro _ _ o env s orderly requires _
    refine ⟨orderly.change (perform_change o env s) (requires () trivial), fun _ _ => ⟨trivial, ?_⟩⟩
    cases o with
    | findDeal dealId gtmScopeId =>
      show datedly.ensures (.findDeal dealId gtmScopeId) (perform _ env s).1
      cases answer : (perform (.findDeal dealId gtmScopeId) env s).1 with
      | error error => trivial
      | ok found =>
        cases found with
        | none => trivial
        | some d =>
          rcases perform_cases (.findDeal dealId gtmScopeId) env s with
            ⟨error, e, -⟩ | ⟨-, r, s', done, -, same⟩
          · rw [e] at answer
            cases answer
          · cases done
            have found := same _ answer
            exact orderly.dated d (List.mem_of_find?_eq_some found.symm)
    | _ => trivial
  body := fun _ _ _ _ => (program_datedly _).meets

lemma orderly_reaches {c₀ c : DealConfig} (starts : Starts c₀)
    (run : dealSystem.Reaches dealSystem.Unguarded c₀ c) : Orderly c.store := by
  obtain ⟨s, threads⟩ := c₀
  obtain ⟨deals, handoffs, rfl⟩ := starts
  have deals : s.deals = [] := deals
  have handoffs : s.handoffs = [] := handoffs
  have orderly : Orderly s := by
    refine ⟨?_, ?_, ?_⟩
    · rw [DealStore.Keyed, deals]
      exact List.nodup_nil
    · intro d mem
      rw [deals] at mem
      cases mem
    · rw [handoffs]
      exact List.nodup_nil
  exact (datedly_upholds.sound_reaches (fun _ => trivial) (.start orderly) run).store

end Dates

section Sweeps

/-- What a thread did so far. -/
abbrev DealCalls : Type :=
  List (Event Operation fun o => Except Failure o.Answer)

/-- One of the calls found the deals that are ready for a hand-off, and these are among them. -/
def HasFound (deals : List DealReadyForHandoff) (calls : DealCalls) : Prop :=
  ∃ all : List DealReadyForHandoff, ⟨.listDealsReadyForHandoff, .ok all⟩ ∈ calls ∧ ∀ deal ∈ deals, deal ∈ all

/-- Before a hand-off is created, its deal was found ready. -/
def handoffAccount (calls : DealCalls) : Operation → Prop
  | .createHandoff dealId _ _ _ => ∃ deal, HasFound [deal] calls ∧ deal.dealId = dealId
  | _ => True

/-- Nothing that was found is lost. -/
lemma HasFound.snoc {deals : List DealReadyForHandoff} {calls : DealCalls} (found : HasFound deals calls)
    (event : Event Operation fun o => Except Failure o.Answer) : HasFound deals (calls ++ [event]) := by
  obtain ⟨all, mem, among⟩ := found
  exact ⟨all, List.mem_append_left _ mem, among⟩

lemma HasFound.tail {deal : DealReadyForHandoff} {deals : List DealReadyForHandoff}
    {calls : DealCalls} (found : HasFound (deal :: deals) calls) : HasFound deals calls := by
  obtain ⟨all, mem, among⟩ := found
  exact ⟨all, mem, fun d later => among d (List.mem_cons_of_mem _ later)⟩

lemma HasFound.head {deal : DealReadyForHandoff} {deals : List DealReadyForHandoff}
    {calls : DealCalls} (found : HasFound (deal :: deals) calls) : HasFound [deal] calls := by
  obtain ⟨all, mem, among⟩ := found
  refine ⟨all, mem, fun d here => ?_⟩
  rw [List.mem_singleton.mp here]
  exact among deal List.mem_cons_self

/-- Calls that are no hand-offs are accounted for at any time. -/
lemma free_account {o : Operation} {P : DealCalls → Prop} (other : ∀ calls, handoffAccount calls o)
    (keeps : ∀ calls event, P calls → P (calls ++ [event])) :
    Accounts handoffAccount P (call o) (fun _ => P) fun _ => P :=
  Accounts.call (fun calls _ => other calls) (fun calls _ holds => keeps calls _ holds)
    fun calls _ holds => keeps calls _ holds

/-- A call that is no hand-off may come first. -/
lemma free_first {α : Type} {o : Operation} {f : o.Answer → Program α} {P : DealCalls → Prop}
    (other : ∀ calls, handoffAccount calls o)
    (keeps : ∀ calls event, P calls → P (calls ++ [event]))
    (rest : ∀ a, Accounts handoffAccount P (f a) (fun _ _ => True) fun _ _ => True) :
    Accounts handoffAccount P (call o >>= f) (fun _ _ => True) fun _ _ => True :=
  .bind ((free_account other keeps).mono (fun _ holds => holds) (fun _ _ holds => holds)
    fun _ _ _ => trivial) rest

lemma requireAccess_account {userId gtmScopeId : Uuid} :
    Accounts handoffAccount (fun _ => True) (requireAccess userId gtmScopeId) (fun _ _ => True)
      fun _ _ => True := by
  unfold requireAccess
  refine free_first (fun _ => trivial) (fun _ _ _ => trivial) ?_
  intro access
  cases access with
  | true => exact .pure fun _ _ => trivial
  | false => exact .throw fun _ _ => trivial

lemma createDealRoute_account {userId gtmScopeId : Uuid} {input : CreateDealInput} :
    Accounts handoffAccount (fun _ => True) (createDealRoute userId gtmScopeId input)
      (fun _ _ => True) fun _ _ => True := by
  unfold createDealRoute
  apply Triple.bind requireAccess_account
  intro _
  refine free_first (fun _ => trivial) (fun _ _ _ => trivial) ?_
  intro now
  apply Triple.bind (R := fun _ _ => True)
  · unfold createDeal
    refine free_first (fun _ => trivial) (fun _ _ _ => trivial) ?_
    intro prospect
    cases prospect with
    | none => exact .pure fun _ _ => trivial
    | some prospect =>
      refine free_first (fun _ => trivial) (fun _ _ _ => trivial) ?_
      exact fun _ => .pure fun _ _ => trivial
  · intro result
    cases result with
    | none => exact .throw fun _ _ => trivial
    | some deal => exact .pure fun _ _ => trivial

lemma updateDealStageRoute_account {userId gtmScopeId dealId : Uuid} {stage : DealStage} :
    Accounts handoffAccount (fun _ => True) (updateDealStageRoute userId gtmScopeId dealId stage)
      (fun _ _ => True) fun _ _ => True := by
  unfold updateDealStageRoute
  apply Triple.bind requireAccess_account
  intro _
  refine free_first (fun _ => trivial) (fun _ _ _ => trivial) ?_
  intro now
  apply Triple.bind (R := fun _ _ => True)
  · unfold updateDealStage
    refine free_first (fun _ => trivial) (fun _ _ _ => trivial) ?_
    intro existing
    cases existing with
    | none => exact .pure fun _ _ => trivial
    | some existing =>
      dsimp only
      split
      · exact .pure fun _ _ => trivial
      · refine free_first (fun _ => trivial) (fun _ _ _ => trivial) ?_
        exact fun _ => .pure fun _ _ => trivial
  · intro result
    cases result with
    | notFound => exact .throw fun _ _ => trivial
    | terminalStage deal => exact .throw fun _ _ => trivial
    | ok deal => exact .pure fun _ _ => trivial

/-- The hand-off of a deal that was found ready. -/
lemma recordHandoff_account {deal : DealReadyForHandoff} {deals : List DealReadyForHandoff}
    {now : Date} :
    Accounts handoffAccount (HasFound (deal :: deals))
      (recordHandoff deal.dealId deal.gtmScopeId deal.prospectId now)
      (fun _ => HasFound deals) fun _ _ => True := by
  unfold recordHandoff
  apply Triple.tryCatch (R := fun _ => HasFound deals)
  · apply Triple.bind (R := fun _ => HasFound deals)
    · apply Accounts.call
      · exact fun calls found => ⟨deal, found.head, rfl⟩
      · exact fun calls _ found => found.tail.snoc _
      · exact fun calls _ found => found.tail.snoc _
    · exact fun _ => .pure fun _ found => found
  · intro error
    split
    · exact .pure fun _ found => found
    · exact .throw fun _ _ => trivial

/-- The loop hands off deals of the list only; by induction on what is left of it. -/
lemma recordHandoffs_account (deals : List DealReadyForHandoff) :
    Accounts handoffAccount (HasFound deals) (recordHandoffs deals) (fun _ _ => True)
      fun _ _ => True := by
  induction deals with
  | nil => exact .pure fun _ _ => trivial
  | cons deal deals ih =>
    unfold recordHandoffs
    refine free_first (fun _ => trivial) (fun calls event found => found.snoc event) ?_
    intro now
    apply Triple.bind recordHandoff_account
    intro created
    exact .bind ih fun _ => .pure fun _ _ => trivial

lemma reconcile_account :
    Accounts handoffAccount (fun _ => True) reconcile (fun _ _ => True) fun _ _ => True := by
  unfold reconcile
  apply Triple.bind (R := HasFound)
  · apply Accounts.call
    · exact fun _ _ => trivial
    · exact fun calls all _ =>
        ⟨all, List.mem_append_right _ (List.mem_singleton_self _), fun _ mem => mem⟩
    · exact fun _ _ _ => trivial
  · intro deals
    exact .bind (recordHandoffs_account deals) fun _ => .pure fun _ _ => trivial

lemma program_account (activity : Activity) :
    Accounts handoffAccount (fun _ => True) activity.program (fun _ _ => True) fun _ _ => True := by
  cases activity with
  | dealCreation => exact .bind createDealRoute_account fun _ => .pure fun _ _ => trivial
  | stageUpdate => exact .bind updateDealStageRoute_account fun _ => .pure fun _ _ => trivial
  | handoffSweep => exact .bind reconcile_account fun _ => .pure fun _ _ => trivial

end Sweeps

section Runs
variable {c₀ c c' : DealConfig} {h : DealHistory} {l : dealSystem.Label}

/-- A deal that is handed off was won when the sweep listed it. -/
lemma handoff_listed {i : Nat} {dealId gtmScopeId prospectId : Uuid} {detectedAt : Date}
    {activity : Activity} {k} (starts : Starts c₀)
    (traced : dealSystem.Traced dealSystem.Unguarded c₀ h c)
    (at_i : c.threads[i]? =
      some ⟨activity, .call (.createHandoff dealId gtmScopeId prospectId detectedAt) k⟩) :
    ∃ entry ∈ h, ∃ d, entry.1.store.deal? dealId = some d ∧ d.stage = .closedWon := by
  have account : handoffAccount (System.calls i h) _ :=
    traced.accounted starts.2.2 at_i (program_account activity [] trivial)
  obtain ⟨deal, ⟨all, called, among⟩, same⟩ := account
  obtain ⟨h₁, c₁, env, h₂, split, answer⟩ := System.mem_calls called
  rcases perform_cases .listDealsReadyForHandoff env c₁.store with
    ⟨error, e, -⟩ | ⟨-, r, s', done, -, is⟩
  · have answer : (perform .listDealsReadyForHandoff env c₁.store).1 = .ok all := answer
    rw [e] at answer
    cases answer
  · cases done
    have listed := is all answer
    have mem := among deal (List.mem_singleton_self _)
    rw [listed] at mem
    obtain ⟨d, due, rfl⟩ := List.mem_map.mp mem
    obtain ⟨row, test⟩ := List.mem_filter.mp due
    obtain ⟨won, -⟩ := of_decide_eq_true test
    have keyed := (orderly_reaches starts (traced.split split).1.reaches).keyed
    refine ⟨(c₁, .act i .listDealsReadyForHandoff env), ?_, d, ?_, won⟩
    · rw [split]
      exact List.mem_append_right _ List.mem_cons_self
    · rw [← same]
      exact Table.lookup_of_mem keyed row

/-- A step leaves the closed deals alone exactly if it keeps the stage of the deal it updates. -/
lemma closedStay_step_iff (step : dealSystem.Step c l c') :
    ClosedStay c.store c'.store ↔ KeepsStage (c, l) := by
  cases step with
  | spawn => exact iff_of_true (.refl _) trivial
  | @act i activity o k env at_i =>
    show ClosedStay c.store (perform o env c.store).2 ↔ _
    rcases perform_cases o env c.store with ⟨error, e, why⟩ | ⟨takes, r, s', done, e, -⟩
    · rw [e]
      refine iff_of_true (.refl _) ?_
      cases o with
      | updateDeal dealId stage closedAt =>
        intro d found _
        rcases why with aborts | refused
        · exact .inl aborts
        · simp only [transact, found] at refused
          cases refused
      | _ => trivial
    · rw [e]
      have change := transact_change done
      constructor
      · intro stay
        cases o with
        | updateDeal dealId stage closedAt =>
          intro d found closed
          right
          simp only [transact, found] at done
          cases done
          obtain ⟨d', found', same⟩ := stay dealId d found closed
          have now := found'.symm.trans (deal?_updated found)
          rw [if_pos rfl] at now
          cases now
          exact same
        | _ => trivial
      · intro keeps id d found closed
        obtain ⟨d', found', same | ⟨stage, closedAt, call, same⟩⟩ := change.deal found
        · exact ⟨d', found', same⟩
        · subst call
          rcases keeps d found closed with aborts | kept
          · rw [takes] at aborts
            cases aborts
          · exact ⟨d', found', same.trans kept⟩

/-- The hand-offs after a step, where closed deals stayed so far and stay in the step. -/
lemma handedOff_step (starts : Starts c₀)
    (traced : dealSystem.Traced dealSystem.Unguarded c₀ h c) (step : dealSystem.Step c l c')
    (kept : DealsKept h c) (stay : ClosedStay c.store c'.store)
    (once : (c'.store.handoffs.map CustomerSuccessHandoff.dealId).Nodup) : HandedOff c'.store := by
  obtain ⟨stayed, -, -, won⟩ := kept
  -- a deal that was won before the step is won after it
  have still : ∀ id, (∃ d, c.store.deal? id = some d ∧ d.stage = .closedWon) →
      ∃ d, c'.store.deal? id = some d ∧ d.stage = .closedWon := by
    intro id before
    obtain ⟨d, found, is_won⟩ := before
    obtain ⟨d', found', same⟩ := stay id d found (by rw [is_won]; rfl)
    exact ⟨d', found', same.trans is_won⟩
  refine ⟨once, fun handoff mem => still handoff.dealId ?_⟩
  cases step with
  | spawn => exact won handoff mem
  | @act i activity o k env at_i =>
    have change := perform_change o env c.store
    have mem : handoff ∈ (perform o env c.store).2.handoffs := mem
    generalize (perform o env c.store).2 = s' at change mem
    cases change with
    | kept => exact won handoff mem
    | created => exact won handoff mem
    | updated => exact won handoff mem
    | @handedOff dealId _ _ _ new call fresh same =>
      rcases List.mem_append.mp mem with old | last
      · exact won handoff old
      · subst call
        rw [List.mem_singleton.mp last, same]
        obtain ⟨entry, earlier, d, found, is_won⟩ := handoff_listed starts traced at_i
        obtain ⟨d', found', same'⟩ := stayed entry earlier dealId d found (by rw [is_won]; rfl)
        exact ⟨d', found', same'.trans is_won⟩

/-- The step lemma: what is asked of a run survives a step exactly if the step keeps stages. -/
lemma dealsKept_step (starts : Starts c₀)
    (traced : dealSystem.Traced dealSystem.Unguarded c₀ h c) (step : dealSystem.Step c l c')
    (kept : DealsKept h c) : DealsKept (h ++ [(c, l)]) c' ↔ KeepsStage (c, l) := by
  rw [← closedStay_step_iff step]
  constructor
  · intro kept'
    exact kept'.1 (c, l) (List.mem_append_right _ (List.mem_singleton_self _))
  · intro stay
    have orderly := orderly_reaches starts (traced.snoc trivial step).reaches
    refine ⟨?_, orderly.dated, handedOff_step starts traced step kept stay orderly.once⟩
    intro entry mem
    rcases List.mem_append.mp mem with earlier | last
    · exact (kept.1 entry earlier).trans stay
    · rw [List.mem_singleton.mp last]
      exact stay

/-- Before the first step there is nothing that could have changed. -/
lemma Starts.dealsKept (starts : Starts c₀) : DealsKept [] c₀ := by
  have orderly := orderly_reaches starts .refl
  refine ⟨?_, orderly.dated, orderly.once, ?_⟩
  · intro entry mem
    cases mem
  · intro handoff mem
    rw [starts.2.1] at mem
    cases mem

end Runs

section Scenario

/-- A scope with one prospect. -/
def freshScope : DealConfig :=
  ⟨{ prospects := [⟨2, 1⟩] }, []⟩

lemma freshScope_starts : Starts freshScope :=
  ⟨rfl, rfl, rfl⟩

/-- A deal is created. -/
def creates : List dealSystem.Move :=
  [.spawn (.dealCreation 9 1 ⟨2, "pilot", none, none, none⟩),
    .act 0 {}, .act 0 {}, .act 0 {}, .act 0 { id := 5 }]

/-- It is won, and the sweep hands it off. -/
def winsAndHandsOff : List dealSystem.Move :=
  creates ++ [.spawn (.stageUpdate 9 1 5 .closedWon), .spawn .handoffSweep,
    .act 1 {}, .act 1 { now := 7 }, .act 1 {}, .act 1 {},
    .act 2 {}, .act 2 { now := 8 }, .act 2 { id := 6 }]

/-- Two updates read the open deal; one wins it and a sweep lists it, then the other one reopens it, and
    the sweep hands it off. -/
def reopens : List dealSystem.Move :=
  creates ++ [.spawn (.stageUpdate 9 1 5 .closedWon), .spawn (.stageUpdate 9 1 5 .negotiation),
    .spawn .handoffSweep, .act 1 {}, .act 1 { now := 7 }, .act 1 {}, .act 2 {}, .act 2 { now := 7 },
    .act 2 {}, .act 1 {}, .act 3 {}, .act 2 {}, .act 3 { now := 8 }, .act 3 { id := 6 }]

end Scenario

end AtomsPlatform.Gtm
