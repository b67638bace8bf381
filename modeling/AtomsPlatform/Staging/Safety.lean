import AtomsPlatform.Staging.Verifier

/-!
# Safety of the staging verifier

A run of the scenario is judged by a record of its calls: the inventories, the resource that was
provisioned, and the resources that were destroyed or cleaned up. Nothing that was there before is
disposed of, what the scenario provisioned is, and evidence without a failed gate means that the
inventory afterwards has as many resources as the one before and lacks the resource of the scenario.
It need not have the same resources: that is so if the inventory is not exchanged underneath.
-/

namespace AtomsPlatform.Staging
open Interleaving

section Record

/-- What the calls of a run say about resources. -/
structure Record where
  before : Option (List String) := none
  provisioning : Bool := false
  provisioned : Option String := none
  after : Option (List String) := none
  disposals : List String := []
deriving DecidableEq, Repr

/-- The identifiers of an inventory. -/
def idsOf (resources : List ManagedDatabaseResource) : List String :=
  resources.map ManagedDatabaseResource.externalId

/-- What a call adds: the first inventory is the one before, if nothing is provisioned yet. -/
def Record.note (r : Record) : Event Operation (fun o => Except Failure o.Answer) → Record
  | ⟨.listManagedResources, .ok resources⟩ =>
    if r.provisioning = false ∧ r.before = none then { r with before := some (idsOf resources) }
    else { r with after := some (idsOf resources) }
  | ⟨.provision _, .ok provisioned⟩ =>
    { r with provisioning := true, provisioned := some provisioned.externalId }
  | ⟨.provision _, .error _⟩ => { r with provisioning := true, provisioned := none }
  | ⟨.destroy externalId _, _⟩ | ⟨.cleanupOwnedResource externalId _, _⟩ =>
    { r with disposals := r.disposals ++ [externalId] }
  | _ => r

/-- The record of a run. -/
def recordOf (calls : List (Event Operation fun o => Except Failure o.Answer)) : Record :=
  calls.foldl Record.note {}

/-- The resource that a call destroys or cleans up. -/
def Operation.disposes : Operation → Option String
  | .destroy externalId _ | .cleanupOwnedResource externalId _ => some externalId
  | _ => none

/-- A resource that was provisioned, and was not in the inventory before. -/
structure Record.Owns (r : Record) (externalId : String) : Prop where
  provisioned : r.provisioned = some externalId
  provisioning : r.provisioning = true
  foreign : ∀ before, r.before = some before → externalId ∉ before

/-- What is asked of a call: it disposes of nothing but the resource of the scenario. -/
def asked (r : Record) (o : Operation) : Prop :=
  ∀ externalId, o.disposes = some externalId → r.Owns externalId

/-- Nothing that was in the inventory before was destroyed or cleaned up. -/
def Record.Harmless (r : Record) : Prop :=
  ∀ externalId ∈ r.disposals, ∀ before, r.before = some before → externalId ∉ before

/-- A resource that was provisioned, and was not in the inventory before, was destroyed or cleaned
    up, or this was tried. -/
def Record.Disposed (r : Record) : Prop :=
  ∀ externalId before, r.provisioned = some externalId → r.before = some before →
    externalId ∉ before → externalId ∈ r.disposals

/-- The inventories before and after have the same resources. -/
def Record.SameResources (r : Record) : Prop :=
  ∃ before after, r.before = some before ∧ r.after = some after ∧
    ∀ externalId, externalId ∈ after ↔ externalId ∈ before

/-- The inventory after has as many resources as the one before, and lacks the resource of the
    scenario. -/
def Record.Restored (r : Record) : Prop :=
  ∃ before after, r.before = some before ∧ r.after = some after ∧ after.length = before.length ∧
    ∀ externalId, r.provisioned = some externalId → externalId ∉ after

/-- The inventory is not exchanged underneath: if it has its size back without the resource of the
    scenario, it has its resources back. -/
def Record.Unexchanged (r : Record) : Prop :=
  r.Restored → r.SameResources

/-- What the evidence of a run says is so. -/
def Record.Honest (r : Record) (evidence : Evidence) : Prop :=
  evidence.result = .awaitingCost →
    (∀ gate ∈ evidence.gates, gate.name ≠ .variableCost → gate.status = .passed) ∧ r.SameResources

/-- A record of calls that are as they are asked for. -/
structure Record.Orderly (r : Record) : Prop where
  harmless : r.Harmless
  begun : r.disposals ≠ [] → r.provisioning = true

/-- A call that is asked for keeps the record orderly: an inventory counts as the one before only as
    long as nothing was disposed of. -/
lemma Record.Orderly.note {r : Record} {o : Operation} (orderly : r.Orderly) (call : asked r o)
    (answer : Except Failure o.Answer) : (r.note ⟨o, answer⟩).Orderly := by
  have disposed : ∀ externalId, o.disposes = some externalId →
      ({ r with disposals := r.disposals ++ [externalId] } : Record).Orderly := by
    intro externalId disposes
    have owns := call externalId disposes
    constructor
    · intro other mem before listed
      rcases List.mem_append.mp mem with earlier | last
      · exact orderly.harmless other earlier before listed
      · rw [List.mem_singleton.mp last]
        exact owns.foreign before listed
    · exact fun _ => owns.provisioning
  cases o with
  | destroy externalId ref => exact disposed externalId rfl
  | cleanupOwnedResource externalId ref => exact disposed externalId rfl
  | provision input =>
    cases answer with
    | error error => exact ⟨orderly.harmless, fun _ => rfl⟩
    | ok provisioned => exact ⟨orderly.harmless, fun _ => rfl⟩
  | listManagedResources =>
    cases answer with
    | error error => exact orderly
    | ok resources =>
      show (if _ then _ else _ : Record).Orderly
      split
      · rename_i first
        have untouched : r.disposals = [] := by
          by_contra some
          rw [orderly.begun some] at first
          cases first.1
        constructor
        · intro externalId mem
          rw [show ({ r with before := _ } : Record).disposals = [] from untouched] at mem
          cases mem
        · exact fun some => absurd untouched some
      · exact ⟨orderly.harmless, orderly.begun⟩
  | _ => exact orderly

end Record

section Assertions
variable {s : Scenario} {r : Record}

/-- What the variables know about the record. -/
structure Known (s : Scenario) (r : Record) : Prop where
  completed : s.inventoryBeforeCompleted = r.before.isSome
  listed : ∀ before, r.before = some before →
    s.resourcesBefore = before ∧ s.managedResourcesBefore = before.length
  external : s.externalId = r.provisioned
  owned : s.ownedByScenario = true ↔
    ∃ externalId, s.externalId = some externalId ∧ externalId ∉ s.resourcesBefore
  secret : s.externalId.isSome = s.connectionSecretRef.isSome
  begun : r.provisioned.isSome = true → r.provisioning = true
  baseline : r.provisioning = true → r.before.isSome = true
  named : ∀ name, (s.gates name).name = name
  unrestored : (s.gates .providerInventoryAfter).status ≠ .passed

/-- The variables and the record at the start. -/
lemma known_initial : Known .initial {} where
  completed := rfl
  listed := nofun
  external := rfl
  owned := ⟨nofun, nofun⟩
  secret := rfl
  begun := nofun
  baseline := nofun
  named _ := rfl
  unrestored := nofun

/-- A gate is set, but not that the inventory is restored. -/
lemma Known.gate {name : GateName} {status : GateStatus} {durationMs : Int}
    {details : Workspace.JsonValue} (known : Known s r)
    (other : name ≠ .providerInventoryAfter ∨ status ≠ .passed) :
    Known { s with gates := Function.update s.gates name ⟨name, status, durationMs, details⟩ } r where
  completed := known.completed
  listed := known.listed
  external := known.external
  owned := known.owned
  secret := known.secret
  begun := known.begun
  baseline := known.baseline
  named other := by
    show (Function.update s.gates name _ other).name = other
    by_cases same : other = name
    · rw [same, Function.update_self]
    · rw [Function.update_of_ne same]
      exact known.named other
  unrestored := by
    show (Function.update s.gates name _ .providerInventoryAfter).status ≠ .passed
    by_cases same : name = .providerInventoryAfter
    · subst same
      rw [Function.update_self]
      exact other.resolve_left fun ne => ne rfl
    · rw [Function.update_of_ne (Ne.symm same)]
      exact known.unrestored

/-- The steps of a migration set gates. -/
lemma Known.steps (known : Known s r) (steps : List StepReport) :
    Known (steps.foldl Scenario.onStep s) r := by
  induction steps generalizing s with
  | nil => exact known
  | cons step steps ih =>
    have other : step.gate.name ≠ .providerInventoryAfter := by
      show step.name.gate ≠ .providerInventoryAfter
      cases step.name <;> exact GateName.noConfusion
    have set : Known { s with gates := Function.update s.gates step.gate.name step.gate } r :=
      known.gate (.inl other)
    exact ih ⟨set.completed, set.listed, set.external, set.owned, set.secret, set.begun,
      set.baseline, set.named, set.unrestored⟩

/-- The resource of the scenario is known to be its own. -/
lemma Known.owns {externalId : String} (known : Known s r) (owned : s.ownedByScenario = true)
    (external : s.externalId = some externalId) : r.Owns externalId := by
  have provisioned : r.provisioned = some externalId := known.external.symm.trans external
  obtain ⟨own, same, foreign⟩ := known.owned.mp owned
  cases external.symm.trans same
  constructor
  · exact provisioned
  · exact known.begun (by rw [provisioned]; rfl)
  · intro before listed
    rw [← (known.listed before listed).1]
    exact foreign

/-- If the variables know of no resource to dispose of, there is none. -/
lemma Known.disposed (known : Known s r)
    (none : ∀ externalId connectionSecretRef, s.ownedByScenario = true →
      s.externalId = some externalId → s.connectionSecretRef = some connectionSecretRef → False) :
    r.Disposed := by
  intro externalId before provisioned listed foreign
  have external : s.externalId = some externalId := known.external.trans provisioned
  have owned : s.ownedByScenario = true := by
    refine known.owned.mpr ⟨externalId, external, ?_⟩
    rw [(known.listed before listed).1]
    exact foreign
  have secret : s.connectionSecretRef.isSome = true := by
    rw [← known.secret, external]
    rfl
  obtain ⟨connectionSecretRef, kept⟩ := Option.isSome_iff_exists.mp secret
  exact absurd (none externalId connectionSecretRef owned external kept) id

end Assertions

section Parts
variable {α β : Type} {R : Record → Prop}

/-- The judgement of runs by their record. -/
abbrev resources : Judgement Operation (fun o => Except Failure o.Answer) Record :=
  recording Record.note asked

/-- What the variables know, and a fact about the record. -/
def Knowing (R : Record → Prop) (s : Scenario) (r : Record) : Prop :=
  Known s r ∧ R r

/-- A part of the scenario that keeps what the variables know, and a fact about the record. -/
abbrev Keeps (R : Record → Prop) (p : Program α) : Prop :=
  Mutable.Triple resources (Knowing R) p (fun _ => Knowing R) fun _ => Knowing R

/-- A call that the record does not take notice of. -/
structure Quiet (o : Operation) : Prop where
  note : ∀ (r : Record) (answer : Except Failure o.Answer), r.note ⟨o, answer⟩ = r
  disposes : o.disposes = none

/-- The rule of quiet calls. -/
lemma keeps_call {o : Operation} (quiet : Quiet o) : Keeps R (call o) := by
  apply Mutable.Triple.invoke
  intro s r knowing
  constructor
  · intro externalId disposes
    rw [quiet.disposes] at disposes
    cases disposes
  · intro answer
    rw [quiet.note]
    cases answer with
    | error error => exact knowing
    | ok a => exact knowing

/-- The rule of assignments. -/
lemma keeps_modify {f : Scenario → Scenario} (keeps : ∀ s r, Known s r → Known (f s) r) :
    Keeps R (modify f) :=
  .modify fun s r knowing => ⟨keeps s r knowing.1, knowing.2⟩

lemma Keeps.bind {p : Program α} {f : α → Program β} (first : Keeps R p) (next : ∀ a, Keeps R (f a)) :
    Keeps R (p >>= f) :=
  Mutable.Triple.bind first next

/-- Stepping over an assignment. -/
lemma keeps_assign {f : Scenario → Scenario} {p : PUnit → Program β} (next : Keeps R (p ⟨⟩))
    (keeps : ∀ s r, Known s r → Known (f s) r) : Keeps R (modify f >>= p) :=
  (keeps_modify keeps).bind fun _ => next

lemma keeps_pure {a : α} : Keeps R (pure a : Program α) :=
  .pure fun _ _ knowing => knowing

lemma keeps_throw {e : Failure} : Keeps R (throw e : Program α) :=
  .throw fun _ _ knowing => knowing

lemma keeps_get : Keeps R (get : Program Scenario) :=
  .get fun _ _ knowing => knowing

lemma quiet_now : Quiet .now :=
  ⟨fun _ _ => rfl, rfl⟩

lemma keeps_setGate {name : GateName} {status : GateStatus} {gateStartedAt : Date}
    {details : List (String × Workspace.JsonValue)}
    (other : name ≠ .providerInventoryAfter ∨ status ≠ .passed) :
    Keeps R (setGate name status gateStartedAt details) := by
  apply (keeps_call quiet_now).bind
  intro now
  apply keeps_modify
  intro s r known
  exact known.gate other

lemma keeps_markFailed : Keeps R markFailed :=
  keeps_modify fun _ _ known => { known with }

lemma keeps_pushError {error : StagingError} : Keeps R (pushError error) :=
  keeps_modify fun _ _ known => { known with }

lemma keeps_countDeleted : Keeps R countDeleted :=
  keeps_modify fun _ _ known => { known with }

lemma keeps_setCostGate {input : ScenarioInput} : Keeps R (setCostGate input) := by
  apply (keeps_call quiet_now).bind
  intro costStartedAt
  exact keeps_setGate (.inl (by nofun))

lemma keeps_givesUp {state : HealthState} {healthDeadline : Int} :
    Keeps R (givesUp state healthDeadline) := by
  unfold givesUp
  split
  · exact keeps_pure
  · exact (keeps_call quiet_now).bind fun now => keeps_pure

lemma keeps_pollHealth {externalId : String} {healthStartedAt : Date} {healthDeadline : Int}
    {healthAttempts : Nat} :
    Keeps R (pollHealth externalId healthStartedAt healthDeadline healthAttempts) := by
  apply (keeps_call ⟨fun _ _ => rfl, rfl⟩).bind
  intro state
  split
  · exact (keeps_setGate (.inl (by nofun))).bind fun _ => keeps_pure
  · apply keeps_givesUp.bind
    intro late
    split
    · exact (keeps_setGate (.inl (by nofun))).bind fun _ => keeps_throw
    · exact keeps_pure

/-- The health loop, however long it takes. -/
lemma keeps_awaitHealthy {options : ScenarioOptions} {externalId : String} {healthStartedAt : Date}
    {healthDeadline : Int} {rounds healthAttempts : Nat} :
    Keeps R (awaitHealthy options externalId healthStartedAt healthDeadline rounds healthAttempts) := by
  induction rounds generalizing healthAttempts with
  | zero =>
    apply keeps_pollHealth.bind
    intro healthy
    split
    · exact keeps_pure
    · exact (keeps_call ⟨fun _ _ => rfl, rfl⟩).bind nofun
  | succ rounds ih =>
    apply keeps_pollHealth.bind
    intro healthy
    split
    · exact keeps_pure
    · exact (keeps_call ⟨fun _ _ => rfl, rfl⟩).bind fun _ => ih

lemma keeps_applyMigrations {input : ScenarioInput} {externalId connectionSecretRef : String} :
    Keeps R (applyMigrations input externalId connectionSecretRef) := by
  apply (keeps_call ⟨fun _ _ => rfl, rfl⟩).bind
  intro reference
  refine keeps_assign ?_ fun _ _ known => { known with }
  apply (keeps_call ⟨fun _ _ => rfl, rfl⟩).bind
  intro connectionUrl
  apply (keeps_call ⟨fun _ _ => rfl, rfl⟩).bind
  intro run
  refine keeps_assign ?_ fun _ _ known => known.steps run.steps
  split
  · exact keeps_throw
  · apply keeps_get.bind
    intro s
    split
    · exact keeps_throw
    · exact keeps_pure

end Parts

section Lifecycle
variable {α β : Type} {R R' : Record → Prop} {Q : β → Scenario → Record → Prop}

/-- Stepping over a part that keeps what is known. -/
lemma Keeps.then {p : Program α} {f : α → Program β} (first : Keeps R p) (weaken : ∀ r, R r → R' r)
    (next : ∀ a, Mutable.Triple resources (Knowing R) (f a) Q fun _ => Knowing R') :
    Mutable.Triple resources (Knowing R) (p >>= f) Q fun _ => Knowing R' := by
  apply Mutable.Triple.bind
  · exact first.mono (fun _ _ holds => holds) (fun _ _ _ holds => holds)
      fun _ _ r holds => ⟨holds.1, weaken r holds.2⟩
  · exact next

/-- Nothing was listed yet. -/
def Fresh (r : Record) : Prop :=
  r.before = none ∧ r.disposals = []

/-- The inventory before was listed, and nothing was provisioned yet. -/
def Ready (r : Record) : Prop :=
  r.before.isSome = true ∧ r.provisioning = false ∧ r.disposals = []

/-- Nothing was destroyed or cleaned up yet. -/
def Untouched (r : Record) : Prop :=
  r.disposals = []

/-- As long as nothing is being provisioned, nothing has been. -/
lemma Known.unprovisioned {s : Scenario} {r : Record} (known : Known s r)
    (idle : r.provisioning = false) : r.provisioned = none := by
  cases e : r.provisioned with
  | none => rfl
  | some externalId =>
    have begun := known.begun (by rw [e]; rfl)
    rw [idle] at begun
    cases begun

/-- Without an inventory nothing is being provisioned. -/
lemma Known.idle {s : Scenario} {r : Record} (known : Known s r) (unlisted : r.before = none) :
    r.provisioning = false := by
  cases e : r.provisioning with
  | false => rfl
  | true =>
    have listed := known.baseline e
    rw [unlisted] at listed
    cases listed

/-- The inventory before is remembered. -/
lemma Known.list {s : Scenario} {r : Record} (known : Known s r) (fresh : Fresh r)
    (resources : List ManagedDatabaseResource) :
    Known { s with
        managedResourcesBefore := resources.length
        resourcesBefore := idsOf resources
        inventoryBeforeCompleted := true }
      { r with before := some (idsOf resources) } := by
  have external : s.externalId = none :=
    known.external.trans (known.unprovisioned (known.idle fresh.1))
  constructor
  · rfl
  · intro before listed
    cases listed
    exact ⟨rfl, (List.length_map _).symm⟩
  · exact known.external
  · constructor
    · intro owned
      obtain ⟨externalId, some, -⟩ := known.owned.mp owned
      rw [external] at some
      cases some
    · rintro ⟨externalId, some, -⟩
      rw [show _ = none from external] at some
      cases some
  · exact known.secret
  · exact known.begun
  · exact fun _ => rfl
  · exact known.named
  · exact known.unrestored

lemma inventoryBefore_ready {options : ScenarioOptions} :
    Mutable.Triple resources (Knowing Fresh) (inventoryBefore options) (fun _ => Knowing Ready)
      fun _ => Knowing Untouched := by
  apply (keeps_call quiet_now).then fun _ fresh => fresh.2
  intro inventoryStartedAt
  apply Mutable.Triple.bind
  case R =>
    exact fun listed s r => ∃ r₀, Known s r₀ ∧ Fresh r₀ ∧
      r = { r₀ with before := some (idsOf listed) }
  case first =>
    apply Mutable.Triple.invoke
    rintro s r ⟨known, fresh⟩
    constructor
    · nofun
    · intro answer
      cases answer with
      | error error => exact ⟨known, fresh.2⟩
      | ok listed =>
        exact ⟨r, known, fresh, if_pos ⟨known.idle fresh.1, fresh.1⟩⟩
  case next =>
    intro listed
    apply Mutable.Triple.bind
    case R => exact fun _ => Knowing Ready
    case first =>
      apply Mutable.Triple.modify
      rintro s r ⟨r₀, known, fresh, rfl⟩
      exact ⟨known.list fresh listed, rfl, known.idle fresh.1, fresh.2⟩
    case next =>
      intro _
      exact (keeps_setGate (.inl (by nofun))).mono (fun _ _ holds => holds) (fun _ _ _ holds => holds)
        fun _ _ _ holds => ⟨holds.1, holds.2.2.2⟩

/-- What was provisioned is remembered. -/
lemma Known.provision {s : Scenario} {r : Record} (known : Known s r) (ready : Ready r)
    (externalId connectionSecretRef fingerprint : String) :
    Known { s with
        externalId := some externalId
        connectionSecretRef := some connectionSecretRef
        externalResourceFingerprint := some fingerprint
        ownedByScenario := decide (externalId ∉ s.resourcesBefore) }
      { r with provisioning := true, provisioned := some externalId } where
  completed := known.completed
  listed := known.listed
  external := rfl
  owned := by
    show decide (externalId ∉ s.resourcesBefore) = true ↔ _
    rw [decide_eq_true_iff]
    constructor
    · exact fun foreign => ⟨externalId, rfl, foreign⟩
    · rintro ⟨_, ⟨⟩, foreign⟩
      exact foreign
  secret := rfl
  begun _ := rfl
  baseline _ := ready.1
  named := known.named
  unrestored := known.unrestored

/-- So is that nothing was. -/
lemma Known.refuse {s : Scenario} {r : Record} (known : Known s r) (ready : Ready r) :
    Known s { r with provisioning := true, provisioned := none } where
  completed := known.completed
  listed := known.listed
  external := known.external.trans (known.unprovisioned ready.2.1)
  owned := known.owned
  secret := known.secret
  begun := nofun
  baseline _ := ready.1
  named := known.named
  unrestored := known.unrestored

lemma provisionOwned_untouched {input : ScenarioInput} :
    Mutable.Triple resources (Knowing Ready) (provisionOwned input) (fun _ => Knowing Untouched)
      fun _ => Knowing Untouched := by
  apply (keeps_call quiet_now).then fun _ ready => ready.2.2
  intro provisionStartedAt
  apply Mutable.Triple.bind
  case R =>
    exact fun provisioned s r => ∃ r₀, Known s r₀ ∧ Ready r₀ ∧
      r = { r₀ with provisioning := true, provisioned := some provisioned.externalId }
  case first =>
    apply Mutable.Triple.invoke
    rintro s r ⟨known, ready⟩
    constructor
    · nofun
    · intro answer
      cases answer with
      | error error => exact ⟨known.refuse ready, ready.2.2⟩
      | ok provisioned => exact ⟨r, known, ready, rfl⟩
  case next =>
    intro provisioned
    apply Mutable.Triple.bind
    case R => exact fun _ => Knowing Untouched
    case first =>
      apply Mutable.Triple.modify
      rintro s r ⟨r₀, known, ready, rfl⟩
      exact ⟨known.provision ready _ _ _, ready.2.2⟩
    case next =>
      intro _
      apply keeps_get.bind
      intro s
      split
      · refine keeps_assign ?_ fun _ _ known => { known with }
        exact (keeps_setGate (.inl (by nofun))).bind fun _ => keeps_pure
      · exact (keeps_setGate (.inl (by nofun))).bind fun _ => keeps_throw

/-- However the `try` block ends, nothing was destroyed or cleaned up. -/
lemma lifecycle_untouched {options : ScenarioOptions} {input : ScenarioInput} {rounds : Nat} :
    Mutable.Triple resources (Knowing Fresh) (lifecycle options input rounds)
      (fun _ => Knowing Untouched) fun _ => Knowing Untouched := by
  unfold lifecycle
  split
  · apply inventoryBefore_ready.bind
    intro _
    apply provisionOwned_untouched.bind
    rintro ⟨externalId, connectionSecretRef⟩
    apply (keeps_call quiet_now).bind
    intro healthStartedAt
    apply (keeps_call quiet_now).bind
    intro now
    exact keeps_awaitHealthy.bind fun _ => keeps_applyMigrations
  · exact .throw fun _ _ holds => ⟨holds.1, holds.2.2⟩

end Lifecycle

section Finally
variable {α β : Type} {R : Record → Prop} {rules : TextRules} {options : ScenarioOptions}
  {externalId connectionSecretRef : String}

lemma Keeps.tryCatch {p : Program α} {h : Failure → Program α} (body : Keeps R p)
    (handler : ∀ e, Keeps R (h e)) : Keeps R (tryCatch p h) :=
  Mutable.Triple.tryCatch body handler

lemma keeps_revokeLease : Keeps R (revokeLease rules) := by
  apply keeps_get.bind
  intro s
  split
  · exact keeps_pure
  · apply (keeps_call ⟨fun _ _ => rfl, rfl⟩).tryCatch
    intro error
    exact keeps_markFailed.bind fun _ => keeps_pushError

/-- The resource of the scenario, which was destroyed or cleaned up, or this was tried. -/
def DisposedOf (externalId : String) (r : Record) : Prop :=
  r.Owns externalId ∧ externalId ∈ r.disposals

/-- The rule of calls that dispose of the resource of the scenario: it does not matter how they end. -/
lemma call_disposes {o : Operation} (disposes : o.disposes = some externalId)
    (note : ∀ (r : Record) (answer : Except Failure o.Answer),
      r.note ⟨o, answer⟩ = { r with disposals := r.disposals ++ [externalId] }) :
    Mutable.Triple resources (Knowing (Record.Owns · externalId)) (call o)
      (fun _ => Knowing (DisposedOf externalId)) fun _ => Knowing (DisposedOf externalId) := by
  apply Mutable.Triple.invoke
  rintro s r ⟨known, owns⟩
  constructor
  · intro other same
    cases disposes.symm.trans same
    exact owns
  · intro answer
    rw [note]
    have disposed : Knowing (DisposedOf externalId) s
        { r with disposals := r.disposals ++ [externalId] } :=
      ⟨{ known with }, { owns with }, List.mem_append_right _ (List.mem_singleton_self _)⟩
    cases answer with
    | error error => exact disposed
    | ok a => exact disposed

lemma disposeOwned_disposes {cleanupStartedAt : Date} :
    Mutable.Triple resources (Knowing (Record.Owns · externalId))
      (disposeOwned options externalId connectionSecretRef cleanupStartedAt)
      (fun _ => Knowing (DisposedOf externalId)) fun _ => Knowing (DisposedOf externalId) := by
  have reported : ∀ details : List (String × Workspace.JsonValue),
      Keeps (DisposedOf externalId) (do
        countDeleted
        setGate .providerCleanup .passed cleanupStartedAt details) := by
    intro details
    exact keeps_countDeleted.bind fun _ => keeps_setGate (.inl (by nofun))
  unfold disposeOwned
  split
  · apply (call_disposes rfl fun _ _ => rfl).bind
    intro details
    exact reported _
  · apply (call_disposes rfl fun _ _ => rfl).bind
    intro _
    apply keeps_pure.bind
    intro details
    exact reported _

lemma keeps_fallbackDestroy :
    Keeps (DisposedOf externalId) (fallbackDestroy externalId connectionSecretRef) := by
  apply Keeps.tryCatch
  · apply Mutable.Triple.bind
    case body.R => exact fun _ => Knowing (DisposedOf externalId)
    case body.first =>
      refine (call_disposes rfl fun _ _ => rfl).mono ?_ (fun _ _ _ holds => holds)
        fun _ _ _ holds => holds
      exact fun _ _ holds => ⟨holds.1, holds.2.1⟩
    case body.next =>
      intro _
      exact keeps_countDeleted.bind fun _ => keeps_pure
  · exact fun _ => keeps_pure

/-- After the cleanup, the resource of the scenario was disposed of, if it has one. -/
lemma cleanupOwned_disposes :
    Mutable.Triple resources (Knowing Untouched) (cleanupOwned rules options)
      (fun _ => Knowing Record.Disposed) fun _ _ _ => True := by
  apply (keeps_call quiet_now).unguarded.bind
  intro cleanupStartedAt
  apply Mutable.Triple.bind
  case R => exact fun s' s r => s' = s ∧ Knowing Untouched s r
  case first => exact .get fun _ _ holds => ⟨rfl, holds⟩
  case next =>
    intro s'
    split
    · rename_i externalId connectionSecretRef owned external secret
      apply Mutable.Triple.mono (P := Knowing (Record.Owns · externalId))
        (Q := fun _ => Knowing (DisposedOf externalId))
      case triple =>
        apply Mutable.Triple.tryCatch disposeOwned_disposes
        intro error
        apply keeps_markFailed.unguarded.bind
        intro _
        apply keeps_fallbackDestroy.unguarded.bind
        intro fallbackDestroyed
        apply (keeps_setGate (.inl (by nofun))).unguarded.bind
        exact fun _ => keeps_pushError.unguarded
      case pre =>
        rintro s r ⟨rfl, known, -⟩
        exact ⟨known, known.owns owned external⟩
      case onOk =>
        rintro _ s r ⟨known, owns, mem⟩
        refine ⟨known, fun other before provisioned _ _ => ?_⟩
        cases owns.provisioned.symm.trans provisioned
        exact mem
      case onError => exact fun _ _ _ holds => holds
    · rename_i unowned
      refine (keeps_setGate (R := Record.Disposed) (.inl (by nofun))).mono ?_
        (fun _ _ _ holds => holds) fun _ _ _ _ => trivial
      rintro s r ⟨rfl, known, -⟩
      exact ⟨known, known.disposed fun _ _ owned external secret => unowned _ _ owned external secret⟩

/-- What holds when the inventory after is done with. -/
structure Final (s : Scenario) (r : Record) : Prop where
  disposed : r.Disposed
  named : ∀ name, (s.gates name).name = name
  restored : (s.gates .providerInventoryAfter).status = .passed → r.Restored

/-- The gate of the inventory after is set. -/
lemma setGate_final {status : GateStatus} {gateStartedAt : Date}
    {details : List (String × Workspace.JsonValue)} :
    Mutable.Triple resources (Knowing fun r => r.Disposed ∧ (status = .passed → r.Restored))
      (setGate .providerInventoryAfter status gateStartedAt details) (fun _ => Final)
      fun _ => Knowing Record.Disposed := by
  apply (keeps_call quiet_now).then fun _ holds => holds.1
  intro now
  apply Mutable.Triple.modify
  rintro s r ⟨known, disposed, restored⟩
  constructor
  · exact disposed
  · intro name
    show (Function.update s.gates .providerInventoryAfter _ name).name = name
    by_cases same : name = .providerInventoryAfter
    · rw [same, Function.update_self]
    · rw [Function.update_of_ne same]
      exact known.named name
  · intro passed
    have here : ∀ gate : GateEvidence, (Function.update s.gates .providerInventoryAfter gate
        .providerInventoryAfter).status = gate.status := by
      intro gate
      rw [Function.update_self]
    exact restored ((here _).symm.trans passed)

/-- An inventory that passes the comparison is restored, as far as it goes. -/
lemma Known.restored {s : Scenario} {r : Record} {after : List ManagedDatabaseResource}
    (known : Known s r) (baseline : r.before.isSome = true) (listed : r.after = some (idsOf after))
    (counted : s.managedResourcesAfter = after.length)
    (passed : s.inventoryRestored after = true) : r.Restored := by
  obtain ⟨before, same⟩ := Option.isSome_iff_exists.mp baseline
  obtain ⟨absent, sized⟩ := Bool.and_eq_true_iff.mp passed
  refine ⟨before, _, same, listed, ?_, ?_⟩
  · rw [idsOf, List.length_map, ← counted, of_decide_eq_true sized, (known.listed before same).2]
  · intro externalId provisioned mem
    rw [known.external, provisioned] at absent
    obtain ⟨resource, found, own⟩ := List.mem_map.mp mem
    have present : (after.any fun resource => resource.externalId = externalId) = true :=
      List.any_eq_true.mpr ⟨resource, found, decide_eq_true (p := _ = externalId) own⟩
    rw [Option.any_some, present] at absent
    cases absent

lemma compareInventory_final {inventoryAfterStartedAt : Date} :
    Mutable.Triple resources (Knowing fun r => r.Disposed ∧ r.before.isSome = true)
      (compareInventory inventoryAfterStartedAt) (fun _ => Final)
      fun _ => Knowing Record.Disposed := by
  apply Mutable.Triple.bind
  case R =>
    exact fun after => Knowing fun r =>
      r.Disposed ∧ r.before.isSome = true ∧ r.after = some (idsOf after)
  case first =>
    apply Mutable.Triple.invoke
    rintro s r ⟨known, disposed, baseline⟩
    constructor
    · nofun
    · intro answer
      cases answer with
      | error error => exact ⟨known, disposed⟩
      | ok after =>
        have later : ¬(r.provisioning = false ∧ r.before = none) := by
          rintro ⟨-, unlisted⟩
          rw [unlisted] at baseline
          cases baseline
        have noted : r.note ⟨.listManagedResources, .ok after⟩ =
            { r with after := some (idsOf after) } := if_neg later
        rw [noted]
        exact ⟨{ known with }, disposed, baseline, rfl⟩
  case next =>
    intro after
    apply Mutable.Triple.bind
    case R =>
      exact fun _ s r => s.managedResourcesAfter = after.length ∧ Knowing (fun r =>
        r.Disposed ∧ r.before.isSome = true ∧ r.after = some (idsOf after)) s r
    case first => exact .modify fun s r holds => ⟨rfl, { holds.1 with }, holds.2⟩
    case next =>
      intro _
      apply Mutable.Triple.bind
      case R =>
        exact fun s' => Knowing fun r =>
          r.Disposed ∧ (s'.inventoryRestored after = true → r.Restored)
      case first =>
        apply Mutable.Triple.get
        rintro s r ⟨counted, known, disposed, baseline, listed⟩
        exact ⟨known, disposed, known.restored baseline listed counted⟩
      case next =>
        intro s'
        apply Keeps.then
        case first =>
          apply keeps_modify
          exact fun _ _ known => { known with }
        case weaken => exact fun _ holds => holds.1
        case next =>
          intro _
          apply Mutable.Triple.bind
          case R => exact fun _ => Final
          case first =>
            refine setGate_final.mono ?_ (fun _ _ _ holds => holds) fun _ _ _ holds => holds
            rintro s r ⟨known, disposed, restored⟩
            refine ⟨known, disposed, fun passed => restored ?_⟩
            by_contra unrestored
            rw [if_neg unrestored] at passed
            cases passed
          case next =>
            intro _
            split
            · exact .pure fun _ _ final => final
            · exact .modify fun _ _ final => { final with }

/-- A gate that did not pass says nothing. -/
lemma setGate_unrestored {status : GateStatus} {gateStartedAt : Date}
    {details : List (String × Workspace.JsonValue)} (unrestored : status ≠ .passed) :
    Mutable.Triple resources (Knowing Record.Disposed)
      (setGate .providerInventoryAfter status gateStartedAt details) (fun _ => Final)
      fun _ _ _ => True := by
  apply setGate_final.unguarded.mono
  · exact fun _ _ holds => ⟨holds.1, holds.2, fun passed => absurd passed unrestored⟩
  · exact fun _ _ _ holds => holds
  · exact fun _ _ _ holds => holds

lemma inventoryAfter_final :
    Mutable.Triple resources (Knowing Record.Disposed) (inventoryAfter rules) (fun _ => Final)
      fun _ _ _ => True := by
  apply (keeps_call quiet_now).unguarded.bind
  intro inventoryAfterStartedAt
  apply Mutable.Triple.bind
  case R => exact fun s' s r => s' = s ∧ Knowing Record.Disposed s r
  case first => exact .get fun _ _ holds => ⟨rfl, holds⟩
  case next =>
    intro s'
    split
    · rename_i completed
      apply Mutable.Triple.tryCatch
      case body =>
        refine compareInventory_final.mono ?_ (fun _ _ _ holds => holds) fun _ _ _ holds => holds
        rintro s r ⟨rfl, known, disposed⟩
        exact ⟨known, disposed, known.completed.symm.trans completed⟩
      case handler =>
        intro error
        apply keeps_markFailed.unguarded.bind
        intro _
        apply (setGate_unrestored (by nofun)).bind
        exact fun _ => .modify fun _ _ final => { final with }
    · refine (setGate_unrestored (by nofun)).mono ?_ (fun _ _ _ holds => holds) fun _ _ _ holds => holds
      exact fun _ _ holds => holds.2

end Finally

section Verdict
variable {rules : TextRules} {options : ScenarioOptions} {input : ScenarioInput} {rounds : Nat}

/-- What the record says when evidence is returned. -/
structure Verdict (evidence : Evidence) (r : Record) : Prop where
  disposed : r.Disposed
  gates : evidence.result = .awaitingCost →
    ∀ gate ∈ evidence.gates, gate.name ≠ .variableCost → gate.status = .passed
  restored : evidence.result = .awaitingCost → r.Restored

/-- The evidence is as the gates are. -/
lemma Final.verdict {s : Scenario} {r : Record} {startedAt completedAt : Date} {evidence : Evidence}
    (final : Final s r)
    (parsed : (s.evidence input startedAt completedAt).parse rules = some evidence) :
    Verdict evidence r := by
  obtain ⟨-, same⟩ := Option.ite_none_right_eq_some.mp parsed
  cases same
  have passed : s.result = .awaitingCost → ∀ gate ∈ s.orderedGates,
      gate.name ≠ .variableCost → gate.status = .passed := by
    intro awaiting gate mem other
    by_contra failed
    have all : s.orderedGates.all (fun gate =>
        gate.name = .variableCost || gate.status = .passed) = true := by
      cases e : s.orderedGates.all fun gate => gate.name = .variableCost || gate.status = .passed with
      | true => rfl
      | false =>
        rw [Scenario.result, e, Bool.and_false] at awaiting
        cases awaiting
    have here := List.all_eq_true.mp all gate mem
    rw [decide_eq_false other, decide_eq_false failed] at here
    cases here
  constructor
  · exact final.disposed
  · exact passed
  · intro awaiting
    apply final.restored
    apply passed awaiting
    · exact List.mem_map_of_mem (by decide)
    · rw [final.named]
      nofun

/-- Nothing but the evidence is asked of the result. -/
def Judged (result : Option Evidence) (r : Record) : Prop :=
  ∀ evidence, result = some evidence → Verdict evidence r

lemma runScenario_judged :
    Mutable.Triple resources (Knowing Fresh) (runScenario rules options rounds input)
      (fun result _ r => Judged result r) fun _ _ _ => True := by
  apply (keeps_call quiet_now).unguarded.bind
  intro startedAt
  apply keeps_setCostGate.unguarded.bind
  intro _
  apply Mutable.Triple.bind
  case R => exact fun _ => Knowing Untouched
  case first =>
    apply lifecycle_untouched.tryCatch
    intro error
    exact keeps_markFailed.unguarded.bind fun _ => keeps_pushError.unguarded
  case next =>
    intro _
    apply keeps_revokeLease.unguarded.bind
    intro _
    apply cleanupOwned_disposes.bind
    intro _
    apply inventoryAfter_final.bind
    intro _
    apply Mutable.Triple.bind
    case R => exact fun s' => fun _ r => Final s' r
    case first => exact .get fun _ _ final => final
    case next =>
      intro s
      apply Mutable.Triple.bind
      case R => exact fun _ _ r => Final s r
      case first =>
        apply Mutable.Triple.invoke
        intro s' r final
        constructor
        · nofun
        · intro answer
          cases answer with
          | error error => trivial
          | ok now => exact final
      case next =>
        intro completedAt
        exact .pure fun _ _ final evidence parsed => final.verdict parsed

lemma keeps_identifierOr {R : Record → Prop} {given : Option Uuid} : Keeps R (identifierOr given) := by
  cases given with
  | none => exact keeps_call ⟨fun _ _ => rfl, rfl⟩
  | some given => exact keeps_pure

lemma scenario_judged :
    Mutable.Triple resources (Knowing Fresh) (runPhase3ProviderStagingScenario rules options rounds)
      (fun result _ r => Judged result r) fun _ _ _ => True := by
  unfold runPhase3ProviderStagingScenario
  split
  · apply keeps_identifierOr.unguarded.bind
    intro scenarioId
    apply keeps_identifierOr.unguarded.bind
    intro projectId
    show Mutable.Triple resources _ (if _ then _ else _) _ _
    split
    · exact runScenario_judged
    · exact .pure fun _ _ _ => nofun
  · exact .pure fun _ _ _ => nofun

end Verdict

section Runs

/-- In every run of the staging scenario, whatever the provider, the secret store, the migration runner
    and the cleanup answer, nothing that was in the inventory before is destroyed or cleaned up. When
    evidence is returned, a resource that the scenario provisioned was disposed of, or this was tried.
    What awaiting evidence says is so exactly if the inventory was not exchanged underneath. -/
theorem staging_verified_iff {rules : TextRules} {options : ScenarioOptions} {rounds : Nat}
    {calls : List (Event Operation fun o => Except Failure o.Answer)} {q}
    (leads : ((runPhase3ProviderStagingScenario rules options rounds).start .initial).Leads calls q) :
    (recordOf calls).Harmless ∧ ∀ evidence s, q = .ret (.ok (some evidence), s) →
      (recordOf calls).Disposed ∧
        ((recordOf calls).Unexchanged → (recordOf calls).Honest evidence) ∧
        (evidence.result = .awaitingCost → (recordOf calls).Honest evidence →
          (recordOf calls).Unexchanged) := by
  have sat := @scenario_judged rules options rounds .initial {} ⟨known_initial, rfl, rfl⟩
  have orderly : (recordOf calls).Orderly := by
    apply leads.record_invariant sat
    · exact ⟨nofun, fun some => absurd rfl some⟩
    · exact fun _ _ answer orderly call => orderly.note call answer
  refine ⟨orderly.harmless, ?_⟩
  rintro evidence s rfl
  have verdict : Verdict evidence (recordOf calls) := leads.recorded sat evidence rfl
  refine ⟨verdict.disposed, ?_, ?_⟩
  · exact fun unexchanged awaiting =>
      ⟨verdict.gates awaiting, unexchanged (verdict.restored awaiting)⟩
  · exact fun awaiting honest _ => (honest awaiting).2

/-- A provider that works. While the database of the scenario is destroyed, others do something to the
    inventory. -/
def workingProvider (others : List String → List String) :
    (o : Operation) → List String → Except Failure o.Answer × List String
  | .randomUuid, s => (.ok (1 : Nat), s)
  | .now, s => (.ok (0 : Nat), s)
  | .sleep _, s => (.ok (), s)
  | .sleepForever _, s => (.error {}, s)
  | .listManagedResources, s => (.ok (s.map ManagedDatabaseResource.mk), s)
  | .provision _, s => (.ok ⟨"db_staging", "americas", "vault:staging", []⟩, s ++ ["db_staging"])
  | .getHealth _, s => (.ok .healthy, s)
  | .getEphemeralConnection .., s => (.ok "vault:lease", s)
  | .getSecret _, s => (.ok "connection", s)
  | .revoke _, s => (.ok (), s)
  | .migrate .., s =>
    (.ok ⟨[⟨.install, 0, 1⟩, ⟨.migrate, 0, 1⟩, ⟨.seed, 0, 1⟩, ⟨.connectivity, 0, 1⟩], none⟩, s)
  | .destroy externalId _, s => (.ok (), others (s.filter fun other => other ≠ externalId))
  | .cleanupOwnedResource .., s => (.ok none, s)

/-- Texts that need no redaction. -/
def plainTexts : TextRules where
  redactEvidenceText text := text
  credentialShaped _ := false

/-- The options of a small scenario. -/
def sampleOptions : ScenarioOptions where
  fixtureFiles := [⟨"package.json", "\x7b\x7d"⟩]
  changeTicket := "CHG-1"
  approvedBudgetCadMicros := 1000000

/-- A run of this scenario, with an inventory of two databases. -/
def sampleRun (others : List String → List String) :
    List (Event Operation fun o => Except Failure o.Answer) ×
      (Except Failure (Option Evidence) × Scenario) :=
  ((runPhase3ProviderStagingScenario plainTexts sampleOptions 0).start .initial).play
    (workingProvider others) ["db_a", "db_b"]

/-- Whether a run has this inventory afterwards, and its evidence awaits the cost. -/
def awaitsCost (after : List String)
    (run : List (Event Operation fun o => Except Failure o.Answer) ×
      (Except Failure (Option Evidence) × Scenario)) : Bool :=
  match run.2.1 with
  | .ok (some evidence) => evidence.result = .awaitingCost &&
    recordOf run.1 = ⟨some ["db_a", "db_b"], true, some "db_staging", some after, ["db_staging"]⟩
  | _ => false

lemma sampleRun_awaits {others : List String → List String} {after : List String}
    (awaits : awaitsCost after (sampleRun others) = true) :
    ∃ calls evidence s, evidence.result = .awaitingCost ∧
      recordOf calls = ⟨some ["db_a", "db_b"], true, some "db_staging", some after, ["db_staging"]⟩ ∧
      ((runPhase3ProviderStagingScenario plainTexts sampleOptions 0).start .initial).Leads calls
        (.ret (.ok (some evidence), s)) := by
  have leads : Prog.Leads _ (sampleRun others).1 (.ret (sampleRun others).2) := Prog.leads_play
  rcases run : sampleRun others with ⟨calls, result, s⟩
  rw [run] at leads awaits
  rcases result with error | _ | evidence
  · cases awaits
  · cases awaits
  · obtain ⟨awaiting, recorded⟩ := Bool.and_eq_true_iff.mp awaits
    exact ⟨calls, evidence, s, of_decide_eq_true awaiting, of_decide_eq_true recorded, leads⟩

theorem staging_verified_restored : ∃ calls evidence, evidence.result = .awaitingCost ∧
    (recordOf calls).Harmless ∧ (recordOf calls).Disposed ∧ (recordOf calls).Honest evidence := by
  have awaits : awaitsCost ["db_a", "db_b"] (sampleRun fun others => others) = true := by
    decide
  obtain ⟨calls, evidence, s, awaiting, recorded, leads⟩ := sampleRun_awaits awaits
  obtain ⟨harmless, verified⟩ := staging_verified_iff leads
  obtain ⟨disposed, honest, -⟩ := verified evidence s rfl
  refine ⟨calls, evidence, awaiting, harmless, disposed, honest ?_⟩
  intro _
  rw [recorded]
  exact ⟨_, _, rfl, rfl, fun _ => Iff.rfl⟩

/-- While the database of the scenario is destroyed, one of the two others is deleted and a new one
    created: the evidence awaits the cost although the inventory is not the one from before. -/
theorem inventory_exchanged_awaiting : ¬ ∀ (rules : TextRules) (options : ScenarioOptions)
    (rounds : Nat) (calls : List (Event Operation fun o => Except Failure o.Answer))
    (evidence : Evidence) (s : Scenario),
    ((runPhase3ProviderStagingScenario rules options rounds).start .initial).Leads calls
      (.ret (.ok (some evidence), s)) →
    (recordOf calls).Harmless ∧ (recordOf calls).Disposed ∧ (recordOf calls).Honest evidence := by
  intro verified
  have awaits : awaitsCost ["db_a", "db_c"] (sampleRun fun others =>
      others.map fun other => if other = "db_b" then "db_c" else other) = true := by
    decide
  obtain ⟨calls, evidence, s, awaiting, recorded, leads⟩ := sampleRun_awaits awaits
  obtain ⟨-, -, honest⟩ := verified _ _ _ calls evidence s leads
  obtain ⟨-, before, after, listed, listed', same⟩ := honest awaiting
  rw [recorded] at listed listed'
  cases listed
  cases listed'
  have lost : "db_b" ∈ ["db_a", "db_c"] := (same "db_b").mpr (by simp)
  simp at lost

end Runs

end AtomsPlatform.Staging
