import AtomsPlatform.Database.Sweeps

/-!
# Cleanup of orphans

A sweep destroys a resource only after its own claim, and the claim checks the finding about the
resource. What the finding says is read back into the history: it was opened by an observation, other
observations were counted since, and an operator approved it since.
-/

namespace AtomsPlatform.Database
open Interleaving

/-- The finding about a resource after a step. -/
def findingAfter (externalId : String) : DatabaseConfig × databaseSystem.Label → Option Finding
  | (c, .act _ o env) => (perform o env c.store).2.store.orphan? externalId
  | (c, .spawn _) => c.store.store.orphan? externalId

/-- A step in which a sweep observes a resource. -/
inductive Observes (sweepId : Uuid) (externalId : String) :
    DatabaseConfig × databaseSystem.Label → Prop where
  | intro {c i resource now graceMs env} :
    resource.externalId = externalId →
    env.TakesEffect →
    Observes sweepId externalId (c, .act i (.observeOrphanResource sweepId resource now graceMs) env)

/-- A step in which an episode of the finding about a resource begins. -/
inductive Opens (externalId : String) (cleanupAfter : Date) :
    DatabaseConfig × databaseSystem.Label → Prop where
  | intro {c i sweepId resource now graceMs env} :
    resource.externalId = externalId →
    env.TakesEffect →
    Absent (c.store.store.orphan? externalId) →
    now + graceMs = cleanupAfter →
    Opens externalId cleanupAfter
      (c, .act i (.observeOrphanResource sweepId resource now graceMs) env)

/-- A step in which an operator approves the cleanup of a resource. -/
inductive Approves (externalId : String) : DatabaseConfig × databaseSystem.Label → Prop where
  | intro {c i findingId approvedBy now env f f'} :
    c.store.store.orphan? externalId = some f →
    f.status = .opened →
    findingAfter externalId (c, .act i (.approveOrphanCleanup findingId externalId approvedBy now) env)
      = some f' →
    f'.status = .approved →
    Approves externalId (c, .act i (.approveOrphanCleanup findingId externalId approvedBy now) env)

/-- What a finding says about the steps since its episode began. -/
structure Episode (externalId : String) (f : Finding)
    (opening : DatabaseConfig × databaseSystem.Label) (since : DatabaseHistory) : Prop where
  opens : ∃ cleanupAfter, f.cleanupAfter = some cleanupAfter ∧ Opens externalId cleanupAfter opening
  current : ∀ x ∈ since, ∀ cleanupAfter, ¬ Opens externalId cleanupAfter x
  counted : ∃ seen, List.Sublist seen (opening :: since) ∧ seen.length = f.observationCount ∧
    ∀ x ∈ seen, ∃ sweepId, Observes sweepId externalId x
  approved : f.status = .approved ∨ f.status = .cleaning → ∃ x ∈ since, Approves externalId x

section Episodes
variable {externalId : String} {f f' : Finding} {opening x : DatabaseConfig × databaseSystem.Label}
  {since : DatabaseHistory}

/-- Within an episode none begins. -/
lemma not_opens {cleanupAfter : Date} (row : x.1.store.store.orphan? externalId = some f)
    (unresolved : f.status ≠ .resolved) : ¬ Opens externalId cleanupAfter x := by
  intro opens
  cases opens with
  | intro _ _ absent _ => exact unresolved (absent f row)

/-- A step that neither observes nor approves. -/
lemma Episode.step (episode : Episode externalId f opening since)
    (row : x.1.store.store.orphan? externalId = some f) (unresolved : f.status ≠ .resolved)
    (same : SameEpisode f f')
    (approved : f'.status = .approved ∨ f'.status = .cleaning →
      (f.status = .approved ∨ f.status = .cleaning) ∨ Approves externalId x) :
    Episode externalId f' opening (since ++ [x]) := by
  obtain ⟨cleanupAfter, date, opens⟩ := episode.opens
  obtain ⟨seen, sublist, length, observes⟩ := episode.counted
  refine ⟨⟨cleanupAfter, same.2.trans date, opens⟩, ?_, ⟨seen, ?_, ?_, observes⟩, ?_⟩
  · intro y mem cleanupAfter
    obtain before | here := List.mem_append.mp mem
    · exact episode.current y before cleanupAfter
    · rw [List.mem_singleton.mp here]
      exact not_opens row unresolved
  · exact sublist.trans (List.sublist_append_left (opening :: since) [x])
  · exact length.trans same.1.symm
  · intro status
    obtain before | here := approved status
    · obtain ⟨y, mem, approves⟩ := episode.approved before
      exact ⟨y, List.mem_append_left _ mem, approves⟩
    · exact ⟨x, List.mem_append_right _ (List.mem_singleton_self x), here⟩

/-- A step that observes once more. -/
lemma Episode.observe {sweepId : Uuid} (episode : Episode externalId f opening since)
    (row : x.1.store.store.orphan? externalId = some f) (unresolved : f.status ≠ .resolved)
    (observes : Observes sweepId externalId x) (status : f'.status = f.status)
    (count : f'.observationCount = f.observationCount + 1)
    (date : f'.cleanupAfter = f.cleanupAfter) :
    Episode externalId f' opening (since ++ [x]) := by
  have rest : Episode externalId { f' with observationCount := f.observationCount } opening
      (since ++ [x]) :=
    episode.step row unresolved ⟨rfl, date⟩ fun approved =>
      .inl (by rwa [show _ = f.status from status] at approved)
  obtain ⟨seen, sublist, length, observed⟩ := episode.counted
  refine ⟨rest.opens, rest.current, ⟨seen ++ [x], ?_, ?_, ?_⟩, rest.approved⟩
  · exact sublist.append (List.Sublist.refl [x])
  · rw [List.length_append, length, count]
    rfl
  · intro y mem
    obtain before | here := List.mem_append.mp mem
    · exact observed y before
    · rw [List.mem_singleton.mp here]
      exact ⟨sweepId, observes⟩

/-- A step with which an episode begins. -/
lemma Episode.start {c : DatabaseConfig} {i : Nat} {sweepId : Uuid}
    {resource : ManagedDatabaseResource} {now : Date} {graceMs : Nat} {env : Environment}
    (here : resource.externalId = externalId) (effect : env.TakesEffect)
    (absent : Absent (c.store.store.orphan? externalId)) (opened : Opened now graceMs f) :
    Episode externalId f (c, .act i (.observeOrphanResource sweepId resource now graceMs) env) [] := by
  refine ⟨⟨_, opened.cleanupAfter, .intro here effect absent rfl⟩, ?_,
    ⟨[(c, .act i (.observeOrphanResource sweepId resource now graceMs) env)], ?_, ?_, ?_⟩, ?_⟩
  · exact fun y mem => absurd mem List.not_mem_nil
  · exact List.Sublist.refl _
  · exact opened.observationCount.symm
  · intro y mem
    rw [List.mem_singleton.mp mem]
    exact ⟨sweepId, .intro here effect⟩
  · rw [opened.status]
    simp

end Episodes

/-- Every finding that is not resolved is in an episode. -/
structure EpisodesKnown (h : DatabaseHistory) (c : DatabaseConfig) : Prop where
  keyed : FindingsKeyed c.store.store
  episode : ∀ externalId f, c.store.store.orphan? externalId = some f → f.status ≠ .resolved →
    ∃ earlier opening since, h = earlier ++ opening :: since ∧ Episode externalId f opening since

section Runs
variable {G : DatabaseConfig → databaseSystem.Label → Prop} {c₀ c : DatabaseConfig}
  {h : DatabaseHistory}

/-- The step lemma of the episodes. -/
lemma EpisodesKnown.act (known : EpisodesKnown h c) (i : Nat) (o : Operation) (env : Environment)
    {threads} : EpisodesKnown (h ++ [(c, .act i o env)]) ⟨(perform o env c.store).2, threads⟩ := by
  have step := perform_findings known.keyed o env
  refine ⟨step.keyed, fun externalId f' row' unresolved' => ?_⟩
  -- an episode goes on, if the finding was in one
  have continued {f : Finding} (row : c.store.store.orphan? externalId = some f)
      (unresolved : f.status ≠ .resolved)
      (next : ∀ {opening since}, Episode externalId f opening since →
        Episode externalId f' opening (since ++ [(c, .act i o env)])) :
      ∃ earlier opening since, h ++ [(c, .act i o env)] = earlier ++ opening :: since ∧
        Episode externalId f' opening since := by
    obtain ⟨earlier, opening, since, split, episode⟩ := known.episode externalId f row unresolved
    refine ⟨earlier, opening, since ++ [(c, .act i o env)], ?_, next episode⟩
    rw [split, List.append_assoc]
    rfl
  obtain ⟨error, e⟩ | ⟨r, store, e, effect, -⟩ := perform_cases o env c.store
  · have row : c.store.store.orphan? externalId = some f' := by rwa [e] at row'
    exact continued row unresolved' fun episode =>
      episode.step row unresolved' ⟨rfl, rfl⟩ .inl
  cases step.change externalId with
  | kept same =>
    have row := same.symm.trans row'
    exact continued row unresolved' fun episode =>
      episode.step row unresolved' ⟨rfl, rfl⟩ .inl
  | opened call here absent after opened =>
    subst call
    cases after.symm.trans row'
    exact ⟨h, _, [], rfl, .start here effect absent opened⟩
  | observed call here row unresolved after status count date =>
    subst call
    cases after.symm.trans row'
    exact continued row unresolved fun episode =>
      episode.observe row unresolved (.intro here effect) status count date
  | approved call row opened after approved same =>
    subst call
    cases after.symm.trans row'
    have unresolved := ne_of_eq_of_ne opened (by decide : FindingStatus.opened ≠ .resolved)
    exact continued row unresolved fun episode =>
      episode.step row unresolved same fun _ => .inr (.intro row opened after approved)
  | claimed call row approved after cleaning same =>
    cases after.symm.trans row'
    have unresolved := ne_of_eq_of_ne approved (by decide : FindingStatus.approved ≠ .resolved)
    exact continued row unresolved fun episode =>
      episode.step row unresolved same fun _ => .inl (.inl approved)
  | released row cleaning after approved same =>
    cases after.symm.trans row'
    have unresolved := ne_of_eq_of_ne cleaning (by decide : FindingStatus.cleaning ≠ .resolved)
    exact continued row unresolved fun episode =>
      episode.step row unresolved same fun _ => .inl (.inr cleaning)
  | resolved row after resolved =>
    cases after.symm.trans row'
    exact absurd resolved unresolved'

/-- The run lemma of the episodes. -/
lemma episodesKnown_of_traced (traced : databaseSystem.Traced G c₀ h c)
    (empty : c₀.store.store.findings = []) : EpisodesKnown h c := by
  induction traced with
  | nil =>
    refine ⟨⟨?_, ?_⟩, fun externalId f row => ?_⟩
    · rw [empty]
      exact List.nodup_nil
    · rw [empty]
      exact fun f mem => absurd mem List.not_mem_nil
    · rw [DatabaseStore.orphan?, empty] at row
      cases row
  | @snoc h c l c' traced guard step ih =>
    cases step with
    | act env at_i => exact ih.act _ _ env
    | @spawn tag adm =>
      refine ⟨ih.keyed, fun externalId f row unresolved => ?_⟩
      obtain ⟨earlier, opening, since, split, episode⟩ := ih.episode externalId f row unresolved
      refine ⟨earlier, opening, since ++ [(c, .spawn tag)], ?_,
        episode.step (x := (c, .spawn tag)) row unresolved ⟨rfl, rfl⟩ .inl⟩
      rw [split, List.append_assoc]
      rfl

end Runs

/-- The inventories of the provider list every resource once. -/
def DistinctInventories (_ : DatabaseConfig) : databaseSystem.Label → Prop
  | .act _ .listManagedResources env =>
    (env.resources.map ManagedDatabaseResource.externalId).Nodup
  | _ => True

section Accounts
variable {G : DatabaseConfig → databaseSystem.Label → Prop} {c₀ c c₁ : DatabaseConfig}
  {h earlier later : DatabaseHistory} {i : Nat} {o : Operation}

/-- What a sweep is about to do is accounted for by what it has done. -/
lemma sweep_accounted (traced : databaseSystem.Traced G c₀ h c) (start : c₀.threads = [])
    {options : ReconcilerOptions} {k}
    (at_i : c.threads[i]? = some ⟨.reconciliation options, .call o k⟩) :
    cleanupAccount (System.calls i h) o := by
  have account : Accounts cleanupAccount (· = []) (Activity.reconciliation options).program
      (fun _ _ => True) fun _ _ => True :=
    .bind reconcile_account fun summary => .pure fun _ _ => trivial
  exact traced.accounted start at_i (account [] rfl)

/-- Only sweeps make such a call. -/
def OnlySweeps (o : Operation) : Prop :=
  ∀ t : Activity, t.makes o = true → ∃ options, t = .reconciliation options

lemma onlySweeps_observe {sweepId : Uuid} {resource : ManagedDatabaseResource} {now : Date}
    {graceMs : Nat} : OnlySweeps (.observeOrphanResource sweepId resource now graceMs) := by
  intro t made
  cases t with
  | reconciliation options => exact ⟨options, rfl⟩
  | _ => cases made

lemma onlySweeps_claim {sweepId findingId : Uuid} {externalId : String} {now : Date} :
    OnlySweeps (.claimOrphanCleanup sweepId findingId externalId now) := by
  intro t made
  cases t with
  | reconciliation options => exact ⟨options, rfl⟩
  | _ => cases made

/-- What a sweep did is accounted for by what it had done before. -/
lemma step_accounted_by {Φ : DatabaseCalls → Operation → Prop} {env : Environment}
    (account : ∀ options,
      Accounts Φ (· = []) (reconcile options) (fun _ _ => True) fun _ _ => True)
    (traced : databaseSystem.Traced G c₀ h c) (start : c₀.threads = []) (only : OnlySweeps o)
    (split : h = earlier ++ (c₁, .act i o env) :: later) : Φ (System.calls i earlier) o := by
  obtain ⟨traced₁, -⟩ := traced.split split
  obtain ⟨t, k, at_i⟩ := traced.pending split
  obtain ⟨options, rfl⟩ := only t (makes_of_traced traced₁ start at_i)
  have whole : Accounts Φ (· = []) (Activity.reconciliation options).program (fun _ _ => True)
      fun _ _ => True :=
    .bind (account options) fun summary => .pure fun _ _ => trivial
  exact traced₁.accounted start at_i (whole [] rfl)

/-- The same for the account of cleanups. -/
lemma step_accounted {env : Environment} (traced : databaseSystem.Traced G c₀ h c)
    (start : c₀.threads = []) (only : OnlySweeps o)
    (split : h = earlier ++ (c₁, .act i o env) :: later) :
    cleanupAccount (System.calls i earlier) o :=
  step_accounted_by (fun _ => reconcile_account) traced start only split

/-- The inventory a sweep works with lists every resource once. -/
lemma distinct_inventory (traced : databaseSystem.Traced DistinctInventories c₀ h c)
    {resources : List ManagedDatabaseResource}
    (listed : ⟨.listManagedResources, .ok resources⟩ ∈ System.calls i h) :
    (resources.map ManagedDatabaseResource.externalId).Nodup := by
  obtain ⟨h₁, c₁, env, h₂, split, answer⟩ := System.mem_calls listed
  obtain ⟨-, distinct, -⟩ := traced.split split
  have same : env.resources = resources := by
    obtain ⟨error, e⟩ | ⟨r, store, e, -, -, answered | ⟨error, answered⟩⟩ :=
      perform_cases .listManagedResources env c₁.store
    · cases (congrArg Prod.fst e).symm.trans answer
    · cases e
      exact Except.ok.inj (answered.symm.trans answer)
    · cases answered.symm.trans answer
  rw [← same]
  exact distinct

/-- Two observations of one resource are of different sweeps. -/
lemma observations_distinct {externalId : String} {sweepId sweepId' : Uuid}
    {x y : DatabaseConfig × databaseSystem.Label} {middle : DatabaseHistory}
    (traced : databaseSystem.Traced DistinctInventories c₀ h c) (start : c₀.threads = [])
    (observes : Observes sweepId externalId x) (observes' : Observes sweepId' externalId y)
    (split : h = (earlier ++ x :: middle) ++ y :: later) : sweepId ≠ sweepId' := by
  cases observes with
  | @intro c₁ i resource now graceMs env here effect =>
  cases observes' with
  | @intro c₂ j resource' now' graceMs' env' here' effect' =>
  obtain ⟨traced', -⟩ := traced.split split
  obtain ⟨begun', resources, listed, once⟩ := step_accounted traced start onlySweeps_observe split
  have begun := (step_accounted traced' start onlySweeps_observe rfl).1
  -- a sweep does not observe a resource again
  have other : i ≠ j := by
    rintro rfl
    have mem : (c₁, .act i (.observeOrphanResource sweepId resource now graceMs) env) ∈
        earlier ++ (c₁, .act i (.observeOrphanResource sweepId resource now graceMs) env) :: middle :=
      List.mem_append_right _ List.mem_cons_self
    refine once (distinct_inventory traced' listed) (List.mem_filterMap.mpr
      ⟨_, System.mem_calls_of_mem mem, ?_⟩)
    exact congrArg some (here.trans here'.symm)
  rintro rfl
  refine other ((sweepsOwned_of_traced traced').unique i j sweepId ?_ begun')
  rw [System.calls_append]
  exact begun.imp fun _ mem => List.mem_append_left _ mem

end Accounts

/-- The claim of a cleanup by a thread, after a history that authorises it. -/
structure Authorised (thread : Nat) (externalId : String) (before : DatabaseHistory)
    (c : DatabaseConfig) (sweepId : Uuid) (now : Date) : Prop where
  begun : Begun (System.calls thread before) sweepId
  running : ∃ w ∈ c.store.store.sweeps, w.id = sweepId ∧ w.status = .running
  approved : ∃ f, c.store.store.orphan? externalId = some f ∧ f.status = .approved
  episode : ∃ earlier opening since cleanupAfter, before = earlier ++ opening :: since ∧
    Opens externalId cleanupAfter opening ∧
    (∀ x ∈ since, ∀ cleanupAfter, ¬ Opens externalId cleanupAfter x) ∧
    (∃ x ∈ since, Approves externalId x) ∧
    (∃ x ∈ opening :: since, ∃ y ∈ opening :: since, ∃ a b, a ≠ b ∧
      Observes a externalId x ∧ Observes b externalId y) ∧
    cleanupAfter ≤ now
  untracked : ∀ d ∈ c.store.store.instances, d.externalId = some externalId → d.status = .deleted

section Claims
variable {externalId : String} {s s' : DatabaseStore} {sweepId findingId : Uuid} {now : Date}

/-- A cleanup is claimed only of resources that no instance but deleted ones is about. -/
lemma claimOrphanCleanup_untracked
    (e : claimOrphanCleanup sweepId findingId externalId now s = .ok (true, s')) :
    ∀ d ∈ s.instances, d.externalId = some externalId → d.status = .deleted := by
  simp only [claimOrphanCleanup] at e
  split at e
  · cases e
  split at e
  · cases e
  split at e
  · cases e
  rename_i untracked
  intro d there tracked
  by_contra live
  exact untracked (List.any_eq_true.mpr ⟨d, there, decide_eq_true ⟨tracked, live⟩⟩)

/-- What else the claim of a cleanup checks. -/
lemma claimOrphanCleanup_granted (keyed : FindingsKeyed s)
    (e : claimOrphanCleanup sweepId findingId externalId now s = .ok (true, s')) :
    (∃ w ∈ s.sweeps, w.id = sweepId ∧ w.status = .running) ∧
    ∃ f, s.orphan? externalId = some f ∧ f.status = .approved ∧ 2 ≤ f.observationCount ∧
      (∀ t, f.cleanupAfter = some t → t ≤ now) ∧
      ∃ f', s'.orphan? externalId = some f' ∧ f'.status = .cleaning := by
  simp only [claimOrphanCleanup] at e
  split at e
  · cases e
  rename_i running
  split at e
  · cases e
  rename_i claimable
  split at e
  · cases e
  cases e
  obtain ⟨w, mem, both⟩ := List.any_eq_true.mp (eq_true_of_ne_false running)
  obtain ⟨f, found, matched⟩ := List.any_eq_true.mp (eq_true_of_ne_false claimable)
  obtain ⟨-, -, kind, approved, about, count, after⟩ := of_decide_eq_true matched
  have row := keyed.orphan? found kind about
  refine ⟨⟨w, mem, of_decide_eq_true both⟩, f, row, approved, count, ?_, ?_⟩
  · intro t date
    rw [date] at after
    exact of_decide_eq_true after
  · refine ⟨{ f with status := .cleaning, lastSeenAt := now }, ?_, rfl⟩
    rw [orphan?_updateFindings, row, Option.map_some, if_pos matched]
    exact fun _ => rfl

/-- Two of the observations that a finding counts. -/
lemma Episode.two {f : Finding} {opening : DatabaseConfig × databaseSystem.Label}
    {since : DatabaseHistory} (episode : Episode externalId f opening since)
    (count : 2 ≤ f.observationCount) :
    ∃ x y p q r a b, opening :: since = p ++ x :: q ++ y :: r ∧ Observes a externalId x ∧
      Observes b externalId y := by
  obtain ⟨seen, sublist, length, observes⟩ := episode.counted
  match seen, length with
  | [], length | [_], length => simp only [List.length_cons, List.length_nil] at length; omega
  | x :: y :: rest, _ =>
    obtain ⟨p, q, split, mem, sublist'⟩ := List.cons_sublist_iff.mp sublist
    obtain ⟨p₁, p₂, rfl⟩ := List.append_of_mem mem
    have mem' : y ∈ q := sublist'.subset List.mem_cons_self
    obtain ⟨q₁, q₂, rfl⟩ := List.append_of_mem mem'
    obtain ⟨a, observesX⟩ := observes x List.mem_cons_self
    obtain ⟨b, observesY⟩ := observes y (List.mem_cons_of_mem _ List.mem_cons_self)
    refine ⟨x, y, p₁, p₂ ++ q₁, q₂, a, b, ?_, observesX, observesY⟩
    rw [split]
    simp

variable {c₀ c c₁ : DatabaseConfig} {h : DatabaseHistory} {thread : Nat} {env : Environment}
  {before after : DatabaseHistory}

/-- Every granted claim is authorised. -/
lemma claim_authorised (start : c₀.threads = []) (empty : c₀.store.store.findings = [])
    (traced : databaseSystem.Traced DistinctInventories c₀ h c)
    (split : h = before ++
      (c₁, .act thread (.claimOrphanCleanup sweepId findingId externalId now) env) :: after)
    (answer : (perform (.claimOrphanCleanup sweepId findingId externalId now) env c₁.store).1 =
      .ok true) :
    Authorised thread externalId before c₁ sweepId now ∧
      ∃ f, findingAfter externalId
        (c₁, .act thread (.claimOrphanCleanup sweepId findingId externalId now) env) = some f ∧
        f.status = .cleaning := by
  obtain ⟨traced₁, -⟩ := traced.split split
  have known := episodesKnown_of_traced traced₁ empty
  obtain ⟨error, e⟩ | ⟨r, store, e, -, result, answered | ⟨error, answered⟩⟩ :=
    perform_cases (.claimOrphanCleanup sweepId findingId externalId now) env c₁.store
  · cases (congrArg Prod.fst e).symm.trans answer
  rotate_left
  · cases answered.symm.trans answer
  cases answered.symm.trans answer
  obtain ⟨running, f, row, approved, count, passed, cleaning⟩ :=
    claimOrphanCleanup_granted known.keyed e
  have unresolved := ne_of_eq_of_ne approved (by decide : FindingStatus.approved ≠ .resolved)
  obtain ⟨earlier, opening, since, split', episode⟩ := known.episode externalId f row unresolved
  obtain ⟨cleanupAfter, date, opens⟩ := episode.opens
  refine ⟨⟨step_accounted traced start onlySweeps_claim split, running, ⟨f, row, approved⟩,
    ⟨earlier, opening, since, cleanupAfter, split', opens, episode.current,
      episode.approved (.inl approved), ?_, passed cleanupAfter date⟩,
    claimOrphanCleanup_untracked e⟩, ?_⟩
  · obtain ⟨x, y, p, q, r, a, b, order, observes, observes'⟩ := episode.two count
    have split'' : before = (earlier ++ p ++ x :: q) ++ y :: r := by
      rw [split', order]
      simp
    refine ⟨x, ?_, y, ?_, a, b, ?_, observes, observes'⟩
    · rw [order]
      simp
    · rw [order]
      simp
    · exact observations_distinct traced₁ start observes observes' split''
  · obtain ⟨f', row', status⟩ := cleaning
    refine ⟨f', ?_, status⟩
    show (perform _ env c₁.store).2.store.orphan? externalId = some f'
    rw [result]
    exact row'

/-- A finding that reappears after it was resolved starts anew. -/
lemma reopened_anew {x : DatabaseConfig × databaseSystem.Label} {f f' : Finding}
    (empty : c₀.store.store.findings = [])
    {G : DatabaseConfig → databaseSystem.Label → Prop} (traced : databaseSystem.Traced G c₀ h c)
    (mem : x ∈ h) (row : x.1.store.store.orphan? externalId = some f) (ended : f.status = .resolved)
    (row' : findingAfter externalId x = some f') (again : f'.status ≠ .resolved) :
    ∃ i sweepId resource now graceMs env,
      x.2 = .act i (.observeOrphanResource sweepId resource now graceMs) env ∧
        Opened now graceMs f' := by
  obtain ⟨before, after, split⟩ := List.append_of_mem mem
  obtain ⟨c₁, l⟩ := x
  obtain ⟨traced₁, -⟩ := traced.split split
  have keyed := (episodesKnown_of_traced traced₁ empty).keyed
  cases l with
  | spawn tag =>
    cases row.symm.trans row'
    exact absurd ended again
  | act i o env =>
    cases (perform_findings keyed o env).change externalId with
    | kept same =>
      cases (row.symm.trans same.symm).trans row'
      exact absurd ended again
    | opened call here absent after opened =>
      subst call
      cases after.symm.trans row'
      exact ⟨i, _, _, _, _, env, rfl, opened⟩
    | observed _ _ before unresolved =>
      cases before.symm.trans row
      exact absurd ended unresolved
    | approved _ before status | claimed _ before status | released before status =>
      cases before.symm.trans row
      cases status.symm.trans ended
    | resolved _ after resolved =>
      cases after.symm.trans row'
      exact absurd resolved again

end Claims

/-- The resource that a sweep is about to destroy. -/
def destroying (c : DatabaseConfig) (thread : Nat) : Option String :=
  match c.threads[thread]? with
  | some ⟨.reconciliation _, .call (.destroy externalId _) _⟩ => some externalId
  | _ => none

lemma destroying_at {c : DatabaseConfig} {thread : Nat} {externalId : String}
    (destroys : destroying c thread = some externalId) :
    ∃ options reference k,
      c.threads[thread]? = some ⟨.reconciliation options, .call (.destroy externalId reference) k⟩ := by
  unfold destroying at destroys
  split at destroys
  · rename_i at_i
    cases destroys
    exact ⟨_, _, _, at_i⟩
  · cases destroys

/-- Whenever a sweep destroys a resource, it has claimed the cleanup itself, and that claim was
    authorised by the current episode of the finding; an episode starts anew. -/
theorem orphan_cleanup_authorised {c₀ c : DatabaseConfig} {h : DatabaseHistory}
    (starts : Starts c₀) (empty : c₀.store.store.findings = [])
    (traced : databaseSystem.Traced DistinctInventories c₀ h c) (externalId : String) :
    (∀ thread, destroying c thread = some externalId →
      ∃ before c₁ sweepId findingId now env after, h = before ++
          (c₁, .act thread (.claimOrphanCleanup sweepId findingId externalId now) env) :: after ∧
        Authorised thread externalId before c₁ sweepId now ∧
        ∃ f, findingAfter externalId
          (c₁, .act thread (.claimOrphanCleanup sweepId findingId externalId now) env) = some f ∧
          f.status = .cleaning) ∧
    ∀ x ∈ h, ∀ f f', x.1.store.store.orphan? externalId = some f → f.status = .resolved →
      findingAfter externalId x = some f' → f'.status ≠ .resolved →
      ∃ i sweepId resource now graceMs env,
        x.2 = .act i (.observeOrphanResource sweepId resource now graceMs) env ∧
          Opened now graceMs f' := by
  have start : c₀.threads = [] := starts.2.2
  constructor
  · intro thread destroys
    obtain ⟨options, reference, k, at_i⟩ := destroying_at destroys
    obtain ⟨sweepId, findingId, now, calls, last⟩ := sweep_accounted traced start at_i
    obtain ⟨before, c₁, env, after, split, answer, -⟩ := System.calls_snoc last
    refine ⟨before, c₁, sweepId, findingId, now, env, after, split, ?_⟩
    exact claim_authorised start empty traced split answer
  · intro x mem f f' row ended row' again
    exact reopened_anew empty traced mem row ended row' again

section Scenario

instance (c : DatabaseConfig) (l : databaseSystem.Label) : Decidable (DistinctInventories c l) := by
  unfold DistinctInventories
  split <;> infer_instance

/-- A sweep makes `n` calls, while the provider lists one resource. -/
def sweepsOver (thread n : Nat) (now : Date) (id : Uuid) : List databaseSystem.Move :=
  List.replicate n (.act thread { now, id, resources := [{ externalId := "ref", name := "atoms-x" }] })

/-- Sweeps without a grace period that clean up. -/
def cleaningOptions : ReconcilerOptions :=
  { orphanGraceMs := 0, cleanupApprovedOrphans := true }

/-- Two sweeps see a resource, an operator approves its cleanup, and the third sweep claims it. -/
def orphanApproved : List databaseSystem.Move :=
  [.spawn (.reconciliation cleaningOptions)] ++ sweepsOver 0 13 0 1 ++
    [.spawn (.reconciliation cleaningOptions)] ++ sweepsOver 1 13 1 2 ++
    [.spawn (.cleanupApproval 1 "ref" 1)] ++ proceeds 2 2 2 0 ++
    [.spawn (.reconciliation cleaningOptions)] ++ sweepsOver 3 11 3 3

/-- `orphan_cleanup_authorised` when the third sweep destroys. -/
theorem orphan_cleanup_authorised_third : ∃ c h,
    databaseSystem.Traced DistinctInventories freshPlatform h c ∧ destroying c 3 = some "ref" ∧
    ∃ before c₁ sweepId now, Authorised 3 "ref" before c₁ sweepId now := by
  have run : ((System.executeUnder DistinctInventories freshPlatform orphanApproved).any fun c =>
      decide (destroying c 3 = some "ref")) = true := by
    decide
  obtain ⟨c, e, destroys⟩ := (Option.any_eq_true _ _).mp run
  have destroys := of_decide_eq_true destroys
  obtain ⟨h, traced⟩ := (System.executeUnder_reaches e).traced
  obtain ⟨before, c₁, sweepId, findingId, now, env, after, -, authorised, -⟩ :=
    (orphan_cleanup_authorised freshPlatform_starts rfl traced "ref").1 3 destroys
  exact ⟨c, h, traced, destroys, before, c₁, sweepId, now, authorised⟩

end Scenario

end AtomsPlatform.Database
