import AtomsPlatform.Run.ModelBudget

/-!
# The ledgers of the model budget balance

What is reserved for a run, and in a window, is the sum over the budgeted calls that were accepted of their
reservations less what was given back for them, however the calls are interleaved and wherever they fail
(`ledger_balances`). The account of a call is its reservation, with what was released for it.
-/

namespace AtomsPlatform.Run.ModelBudget
open Interleaving
variable {Request : Type} {workspaces : Workspaces}

section Ledger
variable {s s' : BudgetLedger} {runId : Uuid} {window : Uuid × Day} {today : Day}

/-- The window of a run and a day. -/
def windowOf (workspaces : Workspaces) (runId : Uuid) (windowDate : Option Day) : Option (Uuid × Day) :=
  windowDate.bind fun date => (workspaces runId).map fun workspaceId => (workspaceId, date)

/-- The ceiling that is stored for a run. -/
def BudgetLedger.ceiling (s : BudgetLedger) (runId : Uuid) : Option Nat :=
  (s.budgets runId).map ProviderBudgetRow.totalUsdMicros

/-- Nothing that is reserved is changed. -/
def SameReserved (s s' : BudgetLedger) : Prop :=
  (∀ runId, s'.reservedOf runId = s.reservedOf runId) ∧ ∀ window, s'.reservedIn window = s.reservedIn window

lemma budgets_updateBudget {k : Uuid} {data : ProviderBudgetRow → ProviderBudgetRow} :
    (s.updateBudget k data).budgets runId =
      if runId = k then (s.budgets runId).map data else s.budgets runId := by
  by_cases same : runId = k
  · subst same
    rw [if_pos rfl]
    exact Function.update_self _ _ _
  · rw [if_neg same]
    exact Function.update_of_ne same _ _

lemma budgets_insertBudget {k : Uuid} {total : Nat} :
    (s.insertBudget k total).budgets runId =
      if runId = k then some ((s.budgets runId).getD { totalUsdMicros := total }) else s.budgets runId := by
  by_cases same : runId = k
  · subst same
    rw [if_pos rfl]
    exact Function.update_self _ _ _
  · rw [if_neg same]
    exact Function.update_of_ne same _ _

lemma reservedIn_updateWindow {k : Uuid × Day} {data : Nat → Nat} (zero : s.windows k = none → data 0 = 0) :
    (s.updateWindow k data).reservedIn window =
      if window = k then data (s.reservedIn window) else s.reservedIn window := by
  by_cases same : window = k
  · subst same
    have changed : (s.updateWindow window data).windows window = (s.windows window).map data :=
      Function.update_self _ _ _
    rw [if_pos rfl, BudgetLedger.reservedIn, changed, BudgetLedger.reservedIn]
    cases found : s.windows window with
    | none => exact (zero found).symm
    | some reserved => rfl
  · have kept : (s.updateWindow k data).windows window = s.windows window := Function.update_of_ne same _ _
    rw [if_neg same, BudgetLedger.reservedIn, kept]
    rfl

lemma reservedIn_insertWindow {k : Uuid × Day} : (s.insertWindow k).reservedIn window = s.reservedIn window := by
  by_cases same : window = k
  · subst same
    have changed : (s.insertWindow window).windows window = some (s.reservedIn window) :=
      Function.update_self _ _ _
    rw [BudgetLedger.reservedIn, changed]
    rfl
  · have kept : (s.insertWindow k).windows window = s.windows window := Function.update_of_ne same _ _
    rw [BudgetLedger.reservedIn, kept]
    rfl

lemma reservedOf_insertBudget {k : Uuid} {total : Nat} :
    (s.insertBudget k total).reservedOf runId = s.reservedOf runId := by
  rw [BudgetLedger.reservedOf, budgets_insertBudget]
  split
  · rw [BudgetLedger.reservedOf]
    cases s.budgets runId with
    | none => rfl
    | some row => rfl
  · rfl

lemma reservedOf_updateBudget {k : Uuid} {data : ProviderBudgetRow → ProviderBudgetRow} {f : Nat → Nat}
    (is : ∀ row, (data row).reservedUsdMicros = f row.reservedUsdMicros) (zero : s.budgets k = none → f 0 = 0) :
    (s.updateBudget k data).reservedOf runId =
      if runId = k then f (s.reservedOf runId) else s.reservedOf runId := by
  rw [BudgetLedger.reservedOf, budgets_updateBudget]
  split
  · rename_i same
    subst same
    rw [BudgetLedger.reservedOf]
    cases found : s.budgets runId with
    | none => exact (zero found).symm
    | some row => exact is row
  · rfl

lemma ceiling_updateBudget {k : Uuid} {data : ProviderBudgetRow → ProviderBudgetRow}
    (keeps : ∀ row, (data row).totalUsdMicros = row.totalUsdMicros) :
    (s.updateBudget k data).ceiling runId = s.ceiling runId := by
  rw [BudgetLedger.ceiling, budgets_updateBudget, BudgetLedger.ceiling]
  split
  · cases s.budgets runId with
    | none => rfl
    | some row => exact congrArg some (keeps row)
  · rfl

lemma ceiling_insertBudget {k : Uuid} {total : Nat} :
    (s.insertBudget k total).ceiling runId =
      if runId = k then some ((s.ceiling runId).getD total) else s.ceiling runId := by
  rw [BudgetLedger.ceiling, budgets_insertBudget, BudgetLedger.ceiling]
  split
  · cases s.budgets runId with
    | none => rfl
    | some row => rfl
  · rfl

/-- What an accepted reservation changes: it is charged to the run and to the window, within the ceilings. -/
structure Charged (workspaces : Workspaces) (input : ReserveInput) (r : BudgetReservationResult)
    (s s' : BudgetLedger) : Prop where
  positive : 0 < input.reservationUsdMicros
  run : ∀ runId, s'.reservedOf runId =
    s.reservedOf runId + if runId = input.runId then input.reservationUsdMicros else 0
  window : ∀ window, s'.reservedIn window =
    s.reservedIn window +
      if windowOf workspaces input.runId r.windowDate = some window then input.reservationUsdMicros else 0
  withinRun : ∃ total, s'.ceiling input.runId = some total ∧
    s'.reservedOf input.runId ≤ min total input.totalBudgetUsdMicros
  withinWindow : ∀ cap, input.workspaceDailyBudgetUsdMicros = some cap →
    ∃ window, windowOf workspaces input.runId r.windowDate = some window ∧ s'.reservedIn window ≤ cap

/-- The spec of `chargeWindow`. -/
lemma chargeWindow_cases {input : ReserveInput} {workspaceId : Uuid} {remaining total : Nat}
    {r : BudgetReservationResult} (here : workspaces input.runId = some workspaceId)
    (positive : 0 < input.reservationUsdMicros) (stored : s.ceiling input.runId = some total)
    (enough : s.reservedOf input.runId + input.reservationUsdMicros ≤ min total input.totalBudgetUsdMicros)
    (e : chargeWindow input workspaceId today remaining s = .ok (r, s')) :
    (∀ runId, s'.ceiling runId = s.ceiling runId) ∧
      ((r.accepted = false ∧ SameReserved s s') ∨ (r.accepted = true ∧ Charged workspaces input r s s')) := by
  have row : ∃ row, s.budgets input.runId = some row := by
    cases found : s.budgets input.runId with
    | none =>
      rw [BudgetLedger.ceiling, found] at stored
      cases stored
    | some row => exact ⟨row, rfl⟩
  -- What charging the run changes, whatever was done to the windows before.
  have charged (s₁ : BudgetLedger) (same : s₁.budgets = s.budgets) (runId : Uuid) :
      (s₁.updateBudget input.runId (.reserve input.reservationUsdMicros)).reservedOf runId =
        s.reservedOf runId + if runId = input.runId then input.reservationUsdMicros else 0 := by
    rw [reservedOf_updateBudget (f := fun n => n + input.reservationUsdMicros) fun _ => rfl]
    · have kept : s₁.reservedOf runId = s.reservedOf runId := by rw [BudgetLedger.reservedOf, same]; rfl
      rw [kept]
      split
      · rfl
      · rfl
    · intro none
      obtain ⟨row, found⟩ := row
      rw [same, found] at none
      cases none
  have ceilings (s₁ : BudgetLedger) (same : s₁.budgets = s.budgets) (runId : Uuid) :
      (s₁.updateBudget input.runId (.reserve input.reservationUsdMicros)).ceiling runId = s.ceiling runId := by
    have keeps (row : ProviderBudgetRow) :
        (row.reserve input.reservationUsdMicros).totalUsdMicros = row.totalUsdMicros := rfl
    refine (ceiling_updateBudget keeps).trans ?_
    rw [BudgetLedger.ceiling, same]
    rfl
  unfold chargeWindow at e
  split at e
  · rename_i uncapped
    cases e
    refine ⟨ceilings s rfl, .inr ⟨rfl, positive, charged s rfl, fun window => ?_, ⟨total, ?_, ?_⟩, ?_⟩⟩
    · rfl
    · rw [ceilings s rfl]
      exact stored
    · rw [charged s rfl, if_pos rfl]
      exact enough
    · intro cap capped
      rw [uncapped] at capped
      cases capped
  rename_i workspaceCap capped
  extract_lets window s₁ windowRemaining at e
  split at e
  · obtain ⟨rfl, rfl⟩ := Prod.mk.inj (Except.ok.inj e)
    exact ⟨fun runId => rfl, .inl ⟨rfl, fun runId => rfl, fun window => reservedIn_insertWindow⟩⟩
  rename_i pays
  obtain ⟨rfl, rfl⟩ := Prod.mk.inj (Except.ok.inj e)
  have today_window : windowOf workspaces input.runId (some today) = some (workspaceId, today) := by
    rw [windowOf, here]
    rfl
  have present : s₁.windows window = some (s.reservedIn window) := Function.update_self _ _ _
  have windows (w : Uuid × Day) :
      (s₁.updateWindow window fun reserved => reserved + input.reservationUsdMicros).reservedIn w =
        s.reservedIn w + if some (workspaceId, today) = some w then input.reservationUsdMicros else 0 := by
    have zero : s₁.windows window = none → 0 + input.reservationUsdMicros = 0 := by
      intro absent
      rw [present] at absent
      cases absent
    refine (reservedIn_updateWindow zero).trans ?_
    rw [reservedIn_insertWindow]
    by_cases same : w = window
    · rw [if_pos same, if_pos (congrArg some same.symm)]
    · rw [if_neg same, if_neg fun e => same (Option.some.inj e).symm]
      rfl
  refine ⟨ceilings _ rfl, .inr ⟨rfl, positive, charged _ rfl, fun w => ?_, ⟨total, ?_, ?_⟩, ?_⟩⟩
  · rw [today_window]
    exact windows w
  · exact (ceilings _ rfl _).trans stored
  · refine le_of_eq_of_le (charged _ rfl _) ?_
    rw [if_pos rfl]
    exact enough
  · intro cap same
    cases capped.symm.trans same
    refine ⟨_, today_window, ?_⟩
    have here := windows (workspaceId, today)
    rw [if_pos rfl] at here
    have before : s₁.reservedIn window = s.reservedIn (workspaceId, today) := reservedIn_insertWindow
    have remaining : windowRemaining = workspaceCap - s₁.reservedIn window := rfl
    refine le_of_eq_of_le here ?_
    omega

/-- The spec of `reserve`. -/
lemma reserve_cases {input : ReserveInput} {r : BudgetReservationResult}
    (e : reserve workspaces today input s = .ok (r, s')) :
    (∀ runId, s'.ceiling runId =
      if runId = input.runId then some ((s.ceiling runId).getD input.totalBudgetUsdMicros)
      else s.ceiling runId) ∧
      ((r.accepted = false ∧ SameReserved s s') ∨ (r.accepted = true ∧ Charged workspaces input r s s')) := by
  unfold reserve at e
  split at e
  · cases e
  rename_i positive
  split at e
  · cases e
  split at e
  · cases e
  split at e
  · cases e
  rename_i workspaceId here
  extract_lets current effective remaining s₁ at e
  have same : SameReserved s s₁ := ⟨fun runId => reservedOf_insertBudget, fun window => rfl⟩
  have ceilings (runId : Uuid) : s₁.ceiling runId =
      if runId = input.runId then some ((s.ceiling runId).getD input.totalBudgetUsdMicros)
      else s.ceiling runId := ceiling_insertBudget
  split at e
  · obtain ⟨rfl, rfl⟩ := Prod.mk.inj (Except.ok.inj e)
    exact ⟨ceilings, .inl ⟨rfl, same⟩⟩
  rename_i enough
  have total : current.totalUsdMicros = (s.ceiling input.runId).getD input.totalBudgetUsdMicros := by
    rw [BudgetLedger.ceiling]
    show ((s.budgets input.runId).getD _).totalUsdMicros = _
    cases s.budgets input.runId with
    | none => rfl
    | some row => rfl
  have reserved : current.reservedUsdMicros = s.reservedOf input.runId := by
    rw [BudgetLedger.reservedOf]
    show ((s.budgets input.runId).getD _).reservedUsdMicros = _
    cases s.budgets input.runId with
    | none => rfl
    | some row => rfl
  have stored : s₁.ceiling input.runId = some current.totalUsdMicros := by
    rw [ceilings, if_pos rfl, total]
  have pays : s₁.reservedOf input.runId + input.reservationUsdMicros ≤
      min current.totalUsdMicros input.totalBudgetUsdMicros := by
    have remaining : remaining = min current.totalUsdMicros input.totalBudgetUsdMicros -
        current.reservedUsdMicros := rfl
    rw [same.1, ← reserved]
    omega
  obtain ⟨kept, done⟩ := chargeWindow_cases here (Nat.pos_of_ne_zero positive) stored pays e
  refine ⟨fun runId => (kept runId).trans (ceilings runId), ?_⟩
  rcases done with ⟨refused, unchanged⟩ | ⟨accepted, charged⟩
  · exact .inl ⟨refused, fun runId => (unchanged.1 runId).trans (same.1 runId),
      fun window => (unchanged.2 window).trans (same.2 window)⟩
  · refine .inr ⟨accepted, charged.positive, fun runId => ?_, charged.window, charged.withinRun,
      charged.withinWindow⟩
    rw [charged.run, same.1]

/-- The spec of `release`. -/
lemma release_ok {input : ReleaseInput} {u : Unit} (e : release workspaces input s = .ok (u, s')) :
    (∀ runId, s'.ceiling runId = s.ceiling runId) ∧
    (∀ runId, s'.reservedOf runId =
      s.reservedOf runId - if runId = input.runId then input.releaseUsdMicros else 0) ∧
    ∀ window, s'.reservedIn window = s.reservedIn window -
      if windowOf workspaces input.runId input.windowDate = some window then input.releaseUsdMicros else 0 := by
  unfold release at e
  split at e
  · cases e
  extract_lets s₁ at e
  have runs (runId : Uuid) : s₁.reservedOf runId =
      s.reservedOf runId - if runId = input.runId then input.releaseUsdMicros else 0 := by
    refine (reservedOf_updateBudget (f := fun n => n - input.releaseUsdMicros) (fun _ => rfl)
      fun _ => Nat.zero_sub _).trans ?_
    split
    · rfl
    · rfl
  have keeps (row : ProviderBudgetRow) :
      (row.release input.releaseUsdMicros).totalUsdMicros = row.totalUsdMicros := rfl
  have ceilings (runId : Uuid) : s₁.ceiling runId = s.ceiling runId := ceiling_updateBudget keeps
  split at e
  · rename_i windowDate workspaceId dated here
    obtain ⟨-, rfl⟩ := Prod.mk.inj (Except.ok.inj e)
    refine ⟨ceilings, runs, fun window => ?_⟩
    have is : windowOf workspaces input.runId input.windowDate = some (workspaceId, windowDate) := by
      rw [windowOf, dated, here]
      rfl
    rw [is]
    have changed : (s₁.updateWindow (workspaceId, windowDate) fun reserved =>
          reserved - input.releaseUsdMicros).reservedIn window =
        if window = (workspaceId, windowDate) then s₁.reservedIn window - input.releaseUsdMicros
        else s₁.reservedIn window := reservedIn_updateWindow fun _ => Nat.zero_sub _
    rw [changed]
    by_cases same : window = (workspaceId, windowDate)
    · rw [if_pos same, if_pos (congrArg some same.symm)]
      rfl
    · rw [if_neg same, if_neg fun e => same (Option.some.inj e).symm]
      rfl
  · rename_i undated
    obtain ⟨-, rfl⟩ := Prod.mk.inj (Except.ok.inj e)
    refine ⟨ceilings, runs, fun window => ?_⟩
    have unnamed : windowOf workspaces input.runId input.windowDate = none := by
      rw [windowOf]
      cases dated : input.windowDate with
      | none => rfl
      | some windowDate =>
        cases here : workspaces input.runId with
        | none => rfl
        | some workspaceId => exact absurd here (undated _ _ dated)
    rw [unnamed]
    rfl

/-- What a call cost is recorded, and changes nothing that is reserved. -/
lemma recordActual_ok {actual : Nat} {u : Unit} {k : Uuid} (e : recordActual k actual s = .ok (u, s')) :
    (∀ runId, s'.ceiling runId = s.ceiling runId) ∧ SameReserved s s' := by
  cases e
  have keeps (row : ProviderBudgetRow) : (row.spend actual).totalUsdMicros = row.totalUsdMicros := rfl
  have spends (row : ProviderBudgetRow) : (row.spend actual).reservedUsdMicros = id row.reservedUsdMicros := rfl
  refine ⟨fun runId => ceiling_updateBudget keeps, fun runId => ?_, fun window => rfl⟩
  refine (reservedOf_updateBudget spends fun _ => rfl).trans ?_
  split
  · rfl
  · rfl

end Ledger

section Accounts

/-- What a budgeted call was charged for, what was given back for it, and what it cost. -/
structure Charge where
  runId : Uuid
  reservation : Nat
  window : Option (Uuid × Day)
  released : Nat := 0
  actual : Nat := 0
deriving DecidableEq, Repr

/-- What is still reserved for a budgeted call. -/
def Charge.kept (charge : Charge) : Nat :=
  charge.reservation - charge.released

/-- The cost of a response, if it is known and not negative. -/
def costOf (response : ModelResponse) : Nat :=
  match response.estimatedCostUsdMicros with
  | some (.ofNat actualUsdMicros) => actualUsdMicros
  | _ => 0

/-- The cost of a stream: that of its completed response. -/
def costOfStream (events : List (Option ModelResponse)) : Nat :=
  ((events.filterMap id).head?.map costOf).getD 0

/-- The account of a call after a reservation, of which this was committed. -/
def Charge.reserve (workspaces : Workspaces) (input : ReserveInput) (x : Option Charge) :
    Option (BudgetReservationResult × BudgetLedger) → Option Charge
  | some (r, _) =>
    if r.accepted then
      some { runId := input.runId
             reservation := input.reservationUsdMicros
             window := windowOf workspaces input.runId r.windowDate }
    else x
  | none => x

/-- The account of a call after a release, of which this was committed. -/
def Charge.release (input : ReleaseInput) (x : Option Charge) : Option (Unit × BudgetLedger) → Option Charge
  | some _ => x.map fun charge => { charge with released := charge.released + input.releaseUsdMicros }
  | none => x

/-- What calls do to the account of a budgeted call. -/
def book (workspaces : Workspaces) :
    (o : BudgetCall Request) → BudgetEnvironment → BudgetLedger → Option Charge → Option Charge
  | .reserve input, env, s, x =>
    Charge.reserve workspaces input x (env.committed (ModelBudget.reserve workspaces env.today input s))
  | .generate _, env, _, x => x.map fun charge => { charge with actual := costOf env.response }
  | .stream _, env, _, x => x.map fun charge => { charge with actual := costOfStream env.stream.events }
  | .recordActual .., _, _, x => x
  | .release input, env, s, x =>
    Charge.release input x (env.committed (ModelBudget.release workspaces input s))

/-- The call on the store belongs to the reservation of the caller. -/
def Belongs (workspaces : Workspaces) : Option Charge → BudgetCall Request → Prop
  | x, .reserve _ => x = none
  | x, .generate _ | x, .stream _ => ∀ charge, x = some charge → charge.released = 0
  | x, .release input => ∃ charge, x = some charge ∧ charge.released = 0 ∧ input.runId = charge.runId ∧
      input.releaseUsdMicros = reservationToRelease charge.reservation charge.actual ∧
      windowOf workspaces input.runId input.windowDate = charge.window
  | _, .recordActual .. => True

/-- The judgement by what calls were charged for. -/
abbrev charging (Request : Type) (workspaces : Workspaces) :
    Judgement (BudgetCall Request) (fun o => Except Thrown o.Result) (Option Charge) :=
  (budgetSystem Request workspaces).accounted (book workspaces) (Belongs workspaces) fun _ _ => True

/-- A charge for a reserved call, of which nothing was given back. -/
def Holds (workspaces : Workspaces) (reserved : ReservedCall) (x : Option Charge) : Prop :=
  ∃ charge, x = some charge ∧ charge.released = 0 ∧ charge.runId = reserved.runId ∧
    charge.reservation = reserved.reservationUsdMicros ∧
    charge.window = windowOf workspaces reserved.runId reserved.windowDate

/-- A charge for a call that cost an amount. -/
def Costs (workspaces : Workspaces) (reserved : ReservedCall) (actual : Nat) (x : Option Charge) : Prop :=
  Holds workspaces reserved x ∧ ∀ charge, x = some charge → charge.actual = actual

end Accounts

section Programs
variable {options : BudgetedModelGatewayOptions Request} {request : Request} {reserved : ReservedCall}

/-- A transaction that answers has committed. -/
lemma transact_ok {α : Type} {env : BudgetEnvironment} {transaction : LedgerTransaction α} {s : BudgetLedger}
    {a : α} (answer : (env.transact transaction s).1 = .ok a) :
    ∃ s', env.committed (transaction s) = some (a, s') := by
  unfold BudgetEnvironment.transact BudgetEnvironment.answer at answer
  unfold BudgetEnvironment.committed
  cases made : transaction s with
  | error failure =>
    rw [made] at answer
    cases answer
  | ok result =>
    rw [made] at answer
    cases fails : env.failure with
    | none =>
      rw [fails] at answer
      cases answer
      exact ⟨result.2, rfl⟩
    | some error =>
      rw [fails] at answer
      cases answer

lemma triple_reserve :
    Triple (charging Request workspaces) (fun x => x = none)
      (BudgetedModelGateway.reserve options request) (fun reserved => Holds workspaces reserved)
      fun _ _ => True := by
  unfold BudgetedModelGateway.reserve
  split
  · exact .throw fun _ _ => trivial
  split
  · exact .throw fun _ _ => trivial
  rename_i runId named
  refine .bind (R := fun _ x => x = none) ?_ fun reservationUsdMicros => ?_
  · cases options.reservationUsdMicros request with
    | ok amount => exact .pure fun _ empty => empty
    | error error => exact .throw fun _ _ => trivial
  refine .bind (R := fun reservation x => reservation.accepted = true →
    Holds workspaces ⟨runId, reservationUsdMicros, reservation.windowDate⟩ x) ?_ fun reservation => ?_
  · refine .invoke fun x empty => ⟨empty, fun env s _ => ?_⟩
    show Outcome _ _ (env.transact (reserve workspaces env.today _) s).1
    cases answer : (env.transact (reserve workspaces env.today _) s).1 with
    | error error => trivial
    | ok reservation =>
      intro accepted
      obtain ⟨s', committed⟩ := transact_ok answer
      refine ⟨{ runId
                reservation := reservationUsdMicros
                window := windowOf workspaces runId reservation.windowDate }, ?_, rfl, rfl, rfl, rfl⟩
      show Charge.reserve workspaces _ x (env.committed (reserve workspaces env.today _ s)) = _
      rw [committed]
      exact if_pos accepted
  · split
    · rename_i accepted
      exact .pure fun x holds => holds accepted
    · exact .throw fun _ _ => trivial

lemma triple_giveBack {actual : Nat} :
    Triple (charging Request workspaces) (Costs workspaces reserved actual) (giveBack reserved actual)
      (fun _ _ => True) fun _ _ => True := by
  unfold giveBack
  extract_lets releaseUsdMicros
  split
  · refine .invoke fun x costs => ⟨?_, fun env s _ => ?_⟩
    · obtain ⟨⟨charge, rfl, unreleased, run, reservation, window⟩, cost⟩ := costs
      refine ⟨charge, rfl, unreleased, run.symm, ?_, window.symm⟩
      rw [reservation, cost charge rfl]
    · cases ((budgetSystem Request workspaces).perform (.release _) env s).1 with
      | ok u => trivial
      | error error => trivial
  · exact .pure fun _ _ => trivial

lemma triple_recordActual {response : ModelResponse} :
    Triple (charging Request workspaces) (Costs workspaces reserved (costOf response))
      (BudgetedModelGateway.recordActual reserved response) (fun _ _ => True) fun _ _ => True := by
  unfold BudgetedModelGateway.recordActual
  cases known : response.estimatedCostUsdMicros with
  | none => exact .pure fun _ _ => trivial
  | some cost =>
    cases cost with
    | negSucc n => exact .pure fun _ _ => trivial
    | ofNat actual =>
      have is : costOf response = actual := by rw [costOf, known]
      rw [is]
      refine .tryCatch (R := fun _ _ => True) ?_ fun _ => .pure fun _ _ => trivial
      refine .bind (R := fun _ => Costs workspaces reserved actual) ?_ fun _ => triple_giveBack
      refine .invoke fun x costs => ⟨trivial, fun env s _ => ?_⟩
      cases ((budgetSystem Request workspaces).perform (.recordActual _ _) env s).1 with
      | ok u => exact costs
      | error error => trivial

/-- A stream without a completed response gives nothing back. -/
lemma triple_recordCompleted_nil {events : List (Option ModelResponse)} (empty : events.filterMap id = []) :
    Triple (charging Request workspaces) (fun _ => True) (recordCompleted reserved events)
      (fun _ _ => True) fun _ _ => True := by
  induction events with
  | nil => exact .pure fun _ _ => trivial
  | cons event events ih =>
    cases event with
    | none => exact ih empty
    | some response => cases empty

lemma triple_recordCompleted {events : List (Option ModelResponse)}
    (once : (events.filterMap id).length ≤ 1) :
    Triple (charging Request workspaces) (Costs workspaces reserved (costOfStream events))
      (recordCompleted reserved events) (fun _ _ => True) fun _ _ => True := by
  induction events with
  | nil => exact .pure fun _ _ => trivial
  | cons event events ih =>
    cases event with
    | none => exact ih once
    | some response =>
      have rest : events.filterMap id = [] :=
        List.eq_nil_of_length_eq_zero (Nat.le_zero.mp (Nat.le_of_succ_le_succ once))
      exact .bind triple_recordActual fun _ => triple_recordCompleted_nil rest

/-- What a call cost is known from its answer. -/
lemma Holds.costs {x : Option Charge} {actual : Nat} (holds : Holds workspaces reserved x) :
    Costs workspaces reserved actual (x.map fun charge => { charge with actual }) := by
  obtain ⟨charge, rfl, unreleased, run, reservation, window⟩ := holds
  refine ⟨⟨_, rfl, unreleased, run, reservation, window⟩, fun charge is => ?_⟩
  cases is
  rfl

lemma Holds.unreleased {x : Option Charge} (holds : Holds workspaces reserved x) :
    ∀ charge, x = some charge → charge.released = 0 := by
  obtain ⟨charge, rfl, unreleased, -⟩ := holds
  intro charge is
  cases is
  exact unreleased

lemma triple_generate :
    Triple (charging Request workspaces) (fun x => x = none)
      (BudgetedModelGateway.generate options request) (fun _ _ => True) fun _ _ => True := by
  refine .bind triple_reserve fun reserved => ?_
  refine .bind (R := fun response => Costs workspaces reserved (costOf response)) ?_ fun response =>
    triple_recordActual
  refine .invoke fun x holds => ⟨holds.unreleased, fun env s _ => ?_⟩
  show Outcome _ _ (env.answer env.response)
  unfold BudgetEnvironment.answer
  cases env.failure with
  | none => exact holds.costs
  | some error => trivial

lemma triple_stream :
    Triple (charging Request workspaces) (fun x => x = none)
      (BudgetedModelGateway.stream options request) (fun _ _ => True) fun _ _ => True := by
  refine .bind triple_reserve fun reserved => ?_
  refine .bind (R := fun stream => Costs workspaces reserved (costOfStream stream.events)) ?_ fun stream => ?_
  · refine .invoke fun x holds => ⟨holds.unreleased, fun env s _ => ?_⟩
    show Outcome _ _ (env.answer env.stream)
    unfold BudgetEnvironment.answer
    cases env.failure with
    | none => exact holds.costs
    | some error => trivial
  refine .bind (triple_recordCompleted stream.once) fun _ => ?_
  split
  · exact .pure fun _ _ => trivial
  · exact .throw fun _ _ => trivial

/-- Budgeted calls give back what belongs to their reservation. -/
lemma program_charges (call : BudgetedCall Request) :
    ((budgetSystem Request workspaces).body call).Satisfies (charging Request workspaces)
      (fun _ _ => True) none := by
  have triple : Triple (charging Request workspaces) (fun x => x = none) call.program (fun _ _ => True)
      fun _ _ => True := by
    unfold BudgetedCall.program
    split
    · exact triple_stream
    · exact triple_generate
  exact (triple none rfl).mono fun _ _ _ => trivial

end Programs

section Balance

/-- What a charge has reserved for a run. -/
def keptFor (runId : Uuid) : Option Charge → Nat
  | some charge => if charge.runId = runId then charge.kept else 0
  | none => 0

/-- What a charge has reserved in a window. -/
def keptIn (window : Uuid × Day) : Option Charge → Nat
  | some charge => if charge.window = some window then charge.kept else 0
  | none => 0

variable {s : BudgetLedger} {o : BudgetCall Request} {env : BudgetEnvironment} {x : Option Charge}

/-- What a transaction leaves behind: what it commits, or the ledger as it was. -/
lemma transact_cases {α : Type} (transaction : LedgerTransaction α) :
    (env.committed (transaction s) = none ∧ (env.transact transaction s).2 = s) ∨
      ∃ a s', env.committed (transaction s) = some (a, s') ∧ transaction s = .ok (a, s') ∧
        (env.transact transaction s).2 = s' := by
  unfold BudgetEnvironment.transact
  cases made : env.committed (transaction s) with
  | none => exact .inl ⟨rfl, rfl⟩
  | some result =>
    obtain ⟨a, s'⟩ := result
    refine .inr ⟨a, s', rfl, ?_, rfl⟩
    unfold BudgetEnvironment.committed at made
    split at made
    · rename_i is
      split at made
      · cases made
        exact is
      · cases made
    · cases made

/-- A number of the ledger that reservations raise and releases lower by the same amount as the share of
    the caller. -/
structure Shared (workspaces : Workspaces) (q : BudgetLedger → Nat) (f : Option Charge → Nat) : Prop where
  unused : f none = 0
  same : ∀ {s s'}, SameReserved s s' → q s' = q s
  charged : ∀ {input r s s'}, Charged workspaces input r s s' →
    q s' = q s + f (some { runId := input.runId
                           reservation := input.reservationUsdMicros
                           window := windowOf workspaces input.runId r.windowDate })
  released : ∀ {input : ReleaseInput} {charge : Charge} {s s' : BudgetLedger},
    release workspaces input s = .ok ((), s') → input.runId = charge.runId →
    windowOf workspaces input.runId input.windowDate = charge.window → charge.released = 0 →
    input.releaseUsdMicros ≤ charge.reservation → f (some charge) ≤ q s →
    q s' + f (some charge) = q s + f (some { charge with released := charge.released + input.releaseUsdMicros })
  costs : ∀ charge : Charge, ∀ actual, f (some { charge with actual }) = f (some charge)

/-- Each call changes such a number as much as its caller's share. -/
lemma Shared.conserved {q : BudgetLedger → Nat} {f : Option Charge → Nat} (shared : Shared workspaces q f)
    (belongs : Belongs workspaces x o) (share : f x ≤ q s) :
    q ((budgetSystem Request workspaces).perform o env s).2 + f x = q s + f (book workspaces o env s x) := by
  have costs (actual : Nat) : f (x.map fun charge => { charge with actual }) = f x := by
    cases x with
    | none => rfl
    | some charge => exact shared.costs charge actual
  cases o with
  | reserve input =>
    have empty : x = none := belongs
    subst empty
    show q (env.transact (reserve workspaces env.today input) s).2 + _ =
      q s + f (Charge.reserve workspaces input none (env.committed (reserve workspaces env.today input s)))
    rcases transact_cases (reserve workspaces env.today input) with
      ⟨failed, same⟩ | ⟨r, s', committed, made, after⟩
    · rw [failed, same]
      rfl
    · rw [committed, after]
      obtain ⟨-, ⟨refused, same⟩ | ⟨accepted, charged⟩⟩ := reserve_cases made
      · have kept : Charge.reserve workspaces input none (some (r, s')) = none :=
          if_neg (Bool.not_eq_true _ ▸ refused)
        rw [shared.same same, kept]
      · have booked := shared.charged charged
        have account : Charge.reserve workspaces input none (some (r, s')) = some _ := if_pos accepted
        rw [booked, shared.unused, account]
        rfl
  | generate request => exact congrArg (q s + ·) (costs _).symm
  | stream request => exact congrArg (q s + ·) (costs _).symm
  | recordActual runId actual =>
    show q (env.transact (recordActual runId actual) s).2 + f x = q s + f x
    rcases transact_cases (recordActual runId actual) with
      ⟨failed, same⟩ | ⟨u, s', committed, made, after⟩
    · rw [same]
    · rw [after, shared.same (recordActual_ok made).2]
  | release input =>
    obtain ⟨charge, rfl, unreleased, run, amount, window⟩ := belongs
    show q (env.transact (release workspaces input) s).2 + _ =
      q s + f (Charge.release input (some charge) (env.committed (release workspaces input s)))
    rcases transact_cases (release workspaces input) with
      ⟨failed, same⟩ | ⟨u, s', committed, made, after⟩
    · rw [failed, same]
      rfl
    · rw [committed, after]
      have within : input.releaseUsdMicros ≤ charge.reservation := by
        rw [amount]
        exact Nat.sub_le _ _
      exact shared.released made run window unreleased within share

lemma shared_run (runId : Uuid) :
    Shared workspaces (fun s => s.reservedOf runId) (keptFor runId) where
  unused := rfl
  same same := same.1 runId
  charged {input r s s'} charged := by
    show s'.reservedOf runId = s.reservedOf runId + if input.runId = runId then input.reservationUsdMicros - 0 else 0
    rw [charged.run, Nat.sub_zero]
    simp only [eq_comm]
  released {input charge s s'} made run window unreleased within share := by
    have after := (release_ok made).2.1 runId
    show s'.reservedOf runId + (if charge.runId = runId then charge.kept else 0) = s.reservedOf runId +
      if charge.runId = runId then charge.reservation - (charge.released + input.releaseUsdMicros) else 0
    have share : (if charge.runId = runId then charge.kept else 0) ≤ s.reservedOf runId := share
    rw [run] at after
    by_cases same : charge.runId = runId
    · rw [if_pos same, Charge.kept] at share
      rw [if_pos same.symm] at after
      rw [if_pos same, if_pos same, Charge.kept]
      omega
    · rw [if_neg (Ne.symm same)] at after
      rw [if_neg same, if_neg same, after]
      rfl
  costs charge actual := rfl

lemma shared_window (window : Uuid × Day) :
    Shared workspaces (fun s => s.reservedIn window) (keptIn window) where
  unused := rfl
  same same := same.2 window
  charged {input r s s'} charged := charged.window window
  released {input charge s s'} made run named unreleased within share := by
    have after := (release_ok made).2.2 window
    show s'.reservedIn window + (if charge.window = some window then charge.kept else 0) =
      s.reservedIn window +
        if charge.window = some window then charge.reservation - (charge.released + input.releaseUsdMicros)
        else 0
    have share : (if charge.window = some window then charge.kept else 0) ≤ s.reservedIn window := share
    rw [named] at after
    by_cases same : charge.window = some window
    · rw [if_pos same, Charge.kept] at share
      rw [if_pos same] at after
      rw [if_pos same, if_pos same, Charge.kept]
      omega
    · rw [if_neg same] at after
      rw [if_neg same, if_neg same, after]
      rfl
  costs charge actual := rfl

end Balance

section Histories

/-- A configuration of budgeted calls. -/
abbrev BudgetConfig (Request : Type) : Type :=
  Config (BudgetCall Request) (fun o => Except Thrown o.Result) BudgetLedger (BudgetedCall Request)
    (Except Thrown Unit)

/-- A history of budgeted calls. -/
abbrev BudgetHistory (Request : Type) (workspaces : Workspaces) : Type :=
  List (BudgetConfig Request × (budgetSystem Request workspaces).Label)

/-- The ceiling that a reservation brings along, if it commits. -/
def ceilingOf (workspaces : Workspaces) (runId : Uuid) (input : ReserveInput) (env : BudgetEnvironment)
    (s : BudgetLedger) : Option Nat :=
  if runId = input.runId ∧ (env.committed (reserve workspaces env.today input s)).isSome then
    some input.totalBudgetUsdMicros
  else none

/-- The ceiling that a step brings along for a run. -/
def bringsCeiling (runId : Uuid) :
    BudgetConfig Request × (budgetSystem Request workspaces).Label → Option Nat
  | (c, .act _ (.reserve input) env) => ceilingOf workspaces runId input env c.store
  | _ => none

/-- The ceiling that was brought along first for a run. -/
def firstCeiling (runId : Uuid) (h : BudgetHistory Request workspaces) : Option Nat :=
  (h.filterMap (bringsCeiling runId)).head?

/-- The cost of a call, for its run. -/
def spentFor (runId : Uuid) : Option Charge → Nat
  | some charge => if charge.runId = runId then charge.actual else 0
  | none => 0

variable {h h₁ h₂ : BudgetHistory Request workspaces} {c c₁ : BudgetConfig Request}

lemma firstCeiling_snoc {runId : Uuid} {entry : BudgetConfig Request × (budgetSystem Request workspaces).Label} :
    firstCeiling runId (h ++ [entry]) = (firstCeiling runId h).or (bringsCeiling runId entry) := by
  unfold firstCeiling
  rw [List.filterMap_append, List.head?_append]
  cases brought : bringsCeiling runId entry with
  | none => rw [List.filterMap_cons_none brought]; rfl
  | some ceiling => rw [List.filterMap_cons_some brought]; rfl

/-- What budgeted calls lead to from empty ledgers. -/
abbrev Budgeted (h : BudgetHistory Request workspaces) (c : BudgetConfig Request) : Prop :=
  (budgetSystem Request workspaces).Traced (budgetSystem Request workspaces).Unguarded ⟨{}, []⟩ h c

/-- What a call does to the ceiling of a run: a reservation that commits brings one along, which counts if
    there is none yet. -/
lemma perform_ceiling {o : BudgetCall Request} {env : BudgetEnvironment} {s : BudgetLedger} {i : Nat}
    {runId : Uuid} {threads : List (Thread (BudgetCall Request) (fun o => Except Thrown o.Result)
      (BudgetedCall Request) (Except Thrown Unit))} :
    ((budgetSystem Request workspaces).perform o env s).2.ceiling runId =
      (s.ceiling runId).or (bringsCeiling runId
        ((⟨s, threads⟩, .act i o env) : BudgetConfig Request × (budgetSystem Request workspaces).Label)) := by
  cases o with
  | reserve input =>
    show (env.transact (reserve workspaces env.today input) s).2.ceiling runId =
      (s.ceiling runId).or (ceilingOf workspaces runId input env s)
    rcases transact_cases (reserve workspaces env.today input) with
      ⟨failed, same⟩ | ⟨r, s', committed, made, after⟩
    · rw [same, ceilingOf, failed, if_neg (fun both => nomatch both.2), Option.or_none]
    · rw [after, ceilingOf, committed, (reserve_cases made).1]
      by_cases own : runId = input.runId
      · rw [if_pos own, if_pos ⟨own, rfl⟩]
        cases s.ceiling runId with
        | none => rfl
        | some total => rfl
      · rw [if_neg own, if_neg fun both => own both.1, Option.or_none]
  | generate request => exact (Option.or_none).symm
  | stream request => exact (Option.or_none).symm
  | recordActual k actual =>
    show (env.transact (recordActual k actual) s).2.ceiling runId = (s.ceiling runId).or none
    rw [Option.or_none]
    rcases transact_cases (recordActual k actual) with
      ⟨failed, same⟩ | ⟨u, s', committed, made, after⟩
    · rw [same]
    · rw [after, (recordActual_ok made).1]
  | release input =>
    show (env.transact (release workspaces input) s).2.ceiling runId = (s.ceiling runId).or none
    rw [Option.or_none]
    rcases transact_cases (release workspaces input) with
      ⟨failed, same⟩ | ⟨u, s', committed, made, after⟩
    · rw [same]
    · rw [after, (release_ok made).1]

/-- The ceiling of a run is fixed by its first reservation. -/
lemma ceiling_eq (budgeted : Budgeted h c) (runId : Uuid) : c.store.ceiling runId = firstCeiling runId h := by
  induction budgeted with
  | nil => rfl
  | @snoc h c l c' traced _ step ih =>
    rw [firstCeiling_snoc, ← ih]
    cases step with
    | act env at_i => exact perform_ceiling
    | spawn admitted => exact (Option.or_none).symm

/-- What was released of a charge is nothing, or what its cost did not use. -/
def Sound : Option Charge → Prop
  | some charge => charge.released = 0 ∨ charge.released = reservationToRelease charge.reservation charge.actual
  | none => True

lemma sound_book (o : BudgetCall Request) (env : BudgetEnvironment) (s : BudgetLedger) (x : Option Charge)
    (belongs : Belongs workspaces x o) (sound : Sound x) : Sound (book workspaces o env s x) := by
  have priced (unreleased : ∀ charge, x = some charge → charge.released = 0) (actual : Nat) :
      Sound (x.map fun charge => { charge with actual }) := by
    cases x with
    | none => trivial
    | some charge => exact .inl (unreleased charge rfl)
  cases o with
  | reserve input =>
    show Sound (Charge.reserve workspaces input x (env.committed (reserve workspaces env.today input s)))
    unfold Charge.reserve
    split
    · split
      · exact .inl rfl
      · exact sound
    · exact sound
  | generate request => exact priced belongs _
  | stream request => exact priced belongs _
  | recordActual runId actual => exact sound
  | release input =>
    obtain ⟨charge, rfl, unreleased, -, amount, -⟩ := belongs
    show Sound (Charge.release input (some charge) (env.committed (release workspaces input s)))
    unfold Charge.release
    split
    · refine .inr ?_
      show charge.released + input.releaseUsdMicros = _
      rw [unreleased, Nat.zero_add, amount]
    · exact sound

/-- What is kept of a charge covers a cost that is within the reservation. -/
lemma actual_le_kept {charge : Charge} (sound : Sound (some charge))
    (within : charge.actual ≤ charge.reservation) : charge.actual ≤ charge.kept := by
  rw [Charge.kept]
  rcases sound with unreleased | released
  · rw [unreleased]
    exact within
  · rw [released, reservationToRelease, settledCost]
    omega

/-- The ledgers after a history balance, and did so all along. -/
structure Balances (h : BudgetHistory Request workspaces) (c : BudgetConfig Request) : Prop where
  /-- What is reserved for a run is the sum over the charges of the run. -/
  runs : ∀ runId, c.store.reservedOf runId = System.total (book workspaces) none (keptFor runId) h c
  /-- What is reserved in a window is the sum over the charges to the window. -/
  windows : ∀ window, c.store.reservedIn window = System.total (book workspaces) none (keptIn window) h c
  /-- An accepted reservation is within the first ceiling of its run, the ceiling of the call, and the
      cap of the window. -/
  accepted : ∀ h₁ c₁ i input env h₂ r s', h = h₁ ++ (c₁, .act i (.reserve input) env) :: h₂ →
    BudgetEnvironment.committed env (reserve workspaces (BudgetEnvironment.today env) input c₁.store) =
      some (r, s') → r.accepted = true →
    (∃ total, firstCeiling input.runId (h₁ ++ [(c₁, .act i (.reserve input) env)]) = some total ∧
      s'.reservedOf input.runId ≤ min total input.totalBudgetUsdMicros) ∧
    ∀ cap, input.workspaceDailyBudgetUsdMicros = some cap →
      ∃ window, windowOf workspaces input.runId r.windowDate = some window ∧ s'.reservedIn window ≤ cap
  /-- A reservation that is rejected or fails changes nothing that is reserved. -/
  rejected : ∀ h₁ c₁ i input env h₂, h = h₁ ++ (c₁, .act i (.reserve input) env) :: h₂ →
    (∀ r s', BudgetEnvironment.committed env
      (reserve workspaces (BudgetEnvironment.today env) input c₁.store) = some (r, s') → r.accepted = false) →
    SameReserved c₁.store ((budgetSystem Request workspaces).perform (.reserve input) env c₁.store).2
  /-- A release is within the reservation of its call, goes to its window, and is reserved there. -/
  released : ∀ h₁ c₁ i input env h₂, h = h₁ ++ (c₁, .act i (.release input) env) :: h₂ →
    ∃ charge, System.account (book workspaces) none i h₁ = some charge ∧ charge.released = 0 ∧
      input.runId = charge.runId ∧ windowOf workspaces input.runId input.windowDate = charge.window ∧
      input.releaseUsdMicros ≤ charge.reservation ∧
      input.releaseUsdMicros ≤ c₁.store.reservedOf input.runId ∧
      ∀ window, charge.window = some window → input.releaseUsdMicros ≤ c₁.store.reservedIn window
  /-- What is reserved covers the costs, if each is within its reservation. -/
  covered : (∀ i charge, System.account (book workspaces) none i h = some charge →
      charge.actual ≤ charge.reservation) →
    ∀ runId, System.total (book workspaces) none (spentFor runId) h c ≤ c.store.reservedOf runId

/-- The accounts rely on nothing in the ledgers. -/
lemma relied : (budgetSystem Request workspaces).Relied (book workspaces) (Belongs workspaces)
    (fun _ _ => True) none {} where
  empty := trivial
  others _ _ _ _ _ := trivial
  own _ _ _ _ _ _ := trivial

lemma reservedOf_eq (budgeted : Budgeted h c) (runId : Uuid) :
    c.store.reservedOf runId = System.total (book workspaces) none (keptFor runId) h c :=
  budgeted.conserved (q := fun s => s.reservedOf runId) rfl relied program_charges rfl rfl
    fun _ _ _ _ belongs share => (shared_run runId).conserved belongs share

lemma reservedIn_eq (budgeted : Budgeted h c) (window : Uuid × Day) :
    c.store.reservedIn window = System.total (book workspaces) none (keptIn window) h c :=
  budgeted.conserved (q := fun s => s.reservedIn window) rfl relied program_charges rfl rfl
    fun _ _ _ _ belongs share => (shared_window window).conserved belongs share

/-- However budgeted calls are interleaved, and wherever they fail, the ledgers balance. -/
theorem ledger_balances (budgeted : Budgeted h c) : Balances h c where
  runs := reservedOf_eq budgeted
  windows := reservedIn_eq budgeted
  accepted := by
    intro h₁ c₁ i input env h₂ r s' split committed accepted
    have traced := (budgeted.split split).1
    rcases transact_cases (reserve workspaces (BudgetEnvironment.today env) input) with
      ⟨failed, -⟩ | ⟨r', s₁, committed', made, after⟩
    · rw [failed] at committed
      cases committed
    cases committed.symm.trans committed'
    obtain ⟨-, ⟨refused, -⟩ | ⟨-, charged⟩⟩ := reserve_cases made
    · rw [accepted] at refused
      cases refused
    refine ⟨?_, charged.withinWindow⟩
    obtain ⟨total, stored, within⟩ := charged.withinRun
    refine ⟨total, ?_, within⟩
    rw [firstCeiling_snoc, ← ceiling_eq traced, ← stored, ← after]
    exact perform_ceiling.symm
  rejected := by
    intro h₁ c₁ i input env h₂ split refused
    rcases transact_cases (reserve workspaces (BudgetEnvironment.today env) input) with
      ⟨failed, same⟩ | ⟨r, s', committed, made, after⟩
    · have same : ((budgetSystem Request workspaces).perform (.reserve input) env c₁.store).2 = c₁.store := same
      rw [same]
      exact ⟨fun _ => rfl, fun _ => rfl⟩
    · have after : ((budgetSystem Request workspaces).perform (.reserve input) env c₁.store).2 = s' := after
      rw [after]
      have unaccepted := refused r s' committed
      obtain ⟨-, ⟨-, same⟩ | ⟨accepted, -⟩⟩ := reserve_cases made
      · exact same
      · rw [unaccepted] at accepted
        cases accepted
  released := by
    intro h₁ c₁ i input env h₂ split
    have traced := (budgeted.split split).1
    obtain ⟨tag, k, at_i⟩ := budgeted.pending split
    have lt : i < c₁.threads.length := (List.getElem?_eq_some_iff.mp at_i).1
    obtain ⟨charge, account, unreleased, run, amount, window⟩ :=
      budgeted.account_allowed rfl relied program_charges split
    have within : input.releaseUsdMicros ≤ charge.reservation := by
      rw [amount]
      exact Nat.sub_le _ _
    have kept : charge.kept = charge.reservation := by rw [Charge.kept, unreleased, Nat.sub_zero]
    refine ⟨charge, account, unreleased, run, window, within, ?_, fun w own => ?_⟩
    · rw [reservedOf_eq traced]
      have share : keptFor input.runId (System.account (book workspaces) none i h₁) ≤
          System.total (book workspaces) none (keptFor input.runId) h₁ c₁ := System.le_total lt
      rw [account, keptFor, if_pos run.symm, kept] at share
      exact within.trans share
    · rw [reservedIn_eq traced]
      have share : keptIn w (System.account (book workspaces) none i h₁) ≤
          System.total (book workspaces) none (keptIn w) h₁ c₁ := System.le_total lt
      rw [account, keptIn, if_pos own, kept] at share
      exact within.trans share
  covered := by
    intro within runId
    rw [reservedOf_eq budgeted]
    refine Finset.sum_le_sum fun i _ => ?_
    have sound : Sound (System.account (book workspaces) none i h) :=
      budgeted.account_invariant rfl relied program_charges trivial sound_book i
    cases account : System.account (book workspaces) none i h with
    | none => exact le_refl 0
    | some charge =>
      rw [account] at sound
      show (if charge.runId = runId then charge.actual else 0) ≤
        if charge.runId = runId then charge.kept else 0
      split
      · exact actual_le_kept sound (within i charge account)
      · exact le_refl 0

instance (s : BudgetLedger) (call : BudgetedCall Request) :
    Decidable ((budgetSystem Request workspaces).admits s call) :=
  inferInstanceAs (Decidable True)

/-- `ledger_balances` for one call that costs less than its reservation. -/
theorem ledger_balances_settled :
    ∃ (h : BudgetHistory Unit fun _ => some 7) (c : BudgetConfig Unit),
      c.store.reservedOf 1 = 13 ∧ c.store.reservedIn (7, 3) = 13 ∧ Balances h c := by
  let options : BudgetedModelGatewayOptions Unit :=
    { totalBudgetUsdMicros := 1000
      workspaceDailyBudgetUsdMicros := some 500
      runId := fun _ => some 1
      reservationUsdMicros := fun _ => .ok 100 }
  let env : BudgetEnvironment := { today := 3, response := { estimatedCostUsdMicros := some 10 } }
  have run : ((budgetSystem Unit fun _ => some 7).record ⟨{}, []⟩
      [.spawn ⟨options, (), false⟩, .act 0 env, .act 0 env, .act 0 env, .act 0 env]).any (fun (_, c) =>
        c.store.reservedOf 1 = 13 && c.store.reservedIn (7, 3) = 13) = true := by
    decide
  obtain ⟨h, c, traced, holds⟩ := System.exists_traced run
  obtain ⟨reserved, charged⟩ := Bool.and_eq_true_iff.mp holds
  exact ⟨h, c, of_decide_eq_true reserved, of_decide_eq_true charged, ledger_balances traced⟩

end Histories

end AtomsPlatform.Run.ModelBudget
