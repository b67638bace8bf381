import AtomsPlatform.Memory.Accounting

/-!
# Balanced books

The run lemma of the accounting: what every step of an ingestion does to the tokens recorded for a day
is summed up (`changes`), and as long as all steps balance it is what the ingestion reserved for that
day, or received once it corrected its reservation.
-/

namespace AtomsPlatform.Memory
open Interleaving System

section Effects
variable {s s' : MemoryStore} {o : Operation} {env : Environment} {workspaceId : Uuid} {day : Day}

/-- Whether the answer of a call that takes effect arrives. -/
def Fate.acknowledged : Fate → Bool
  | .unacknowledged _ => false
  | _ => true

/-- A call has no effect and fails, or it has the effect of its statement, whose answer may be lost. -/
lemma perform_cases (o : Operation) (env : Environment) (s : MemoryStore) :
    (∃ error, perform o env s = (.error error, s) ∧
        ((fateOf env o).effective = false ∨ transact env o s = .error error)) ∨
      ∃ r s', transact env o s = .ok (r, s') ∧
        ((fateOf env o = .commits ∧ perform o env s = (.ok r, s')) ∨
          ∃ error, fateOf env o = .unacknowledged error ∧ perform o env s = (.error error, s')) := by
  unfold perform
  cases done : transact env o s with
  | error error =>
    cases fateOf env o with
    | commits => exact .inl ⟨error, rfl, .inr rfl⟩
    | aborts error' => exact .inl ⟨error', rfl, .inl rfl⟩
    | unacknowledged error' => exact .inl ⟨error, rfl, .inr rfl⟩
  | ok result =>
    obtain ⟨r, s'⟩ := result
    cases fateOf env o with
    | aborts error => exact .inl ⟨error, rfl, .inl rfl⟩
    | commits => exact .inr ⟨r, s', rfl, .inl ⟨rfl, rfl⟩⟩
    | unacknowledged error => exact .inr ⟨r, s', rfl, .inr ⟨error, rfl, rfl⟩⟩

/-- Only reservations and corrections write to the table of usage. -/
def Operation.writesUsage : Operation → Bool
  | .reserve .. | .adjust .. => true
  | _ => false

lemma usage_kept (reads : o.writesUsage = false) (env : Environment) (s : MemoryStore) :
    (perform o env s).2.usage = s.usage := by
  rcases perform_cases o env s with ⟨error, e, -⟩ | ⟨r, s', done, ⟨-, e⟩ | ⟨error, -, e⟩⟩
  · rw [e]
  all_goals
    rw [e]
    cases o with
    | now | findSourceIdByHash | embed =>
      cases done
      rfl
    | reserve | adjust => cases reads
    | ingest input =>
      simp only [transact] at done
      repeat' split at done
      all_goals first | cases done; rfl | cases done

lemma recorded_kept (reads : o.writesUsage = false) :
    (perform o env s).2.recorded workspaceId day = s.recorded workspaceId day := by
  rw [MemoryStore.recorded, usage_kept reads, MemoryStore.recorded]

/-- The tokens recorded after the row of a key was changed. -/
lemma recorded_update {w : Uuid} {d : Day} {f : Nat → Nat} {row : UsageRow}
    (written : s'.usage = Table.update UsageRow.key (w, d) (fun _ => true)
      (fun r => { r with tokens := f r.tokens }) s.usage)
    (present : Table.lookup UsageRow.key (w, d) s.usage = some row) :
    s'.recorded workspaceId day =
      if w = workspaceId ∧ d = day then f (s.recorded w d) else s.recorded workspaceId day := by
  rw [MemoryStore.recorded, written]
  by_cases same : w = workspaceId ∧ d = day
  · obtain ⟨rfl, rfl⟩ := same
    rw [Table.lookup_update ?keeps, if_pos ⟨rfl, rfl⟩, MemoryStore.recorded, present]
    case keeps => exact fun _ key => key
    rfl
  · rw [Table.lookup_update_ne ?keeps ?differs, if_neg same]
    · rfl
    case keeps => exact fun _ key => key
    case differs =>
      intro e
      exact same ⟨(congrArg Prod.fst e).symm, (congrArg Prod.snd e).symm⟩

/-- A reservation that is accepted adds its tokens to the day, and stays within the cap. -/
lemma reserve_recorded {w : Uuid} {d : Day} {tokens : Nat} {dailyCap : Int}
    (done : transact env (.reserve w tokens d dailyCap) s = .ok (true, s')) :
    (∀ workspaceId day, s'.recorded workspaceId day =
        s.recorded workspaceId day + if w = workspaceId ∧ d = day then tokens else 0) ∧
      ((tokens : Int) ≤ dailyCap → (s'.recorded w d : Int) ≤ dailyCap) := by
  simp only [transact] at done
  split at done
  · rename_i absent
    cases done
    have zero : s.recorded w d = 0 := by
      rw [MemoryStore.recorded, absent]
      rfl
    have added : ∀ w' d', ({ s with usage := s.usage ++ [⟨w, d, tokens⟩] } : MemoryStore).recorded w' d' =
        s.recorded w' d' + if w = w' ∧ d = d' then tokens else 0 := by
      intro w' d'
      by_cases same : w = w' ∧ d = d'
      · obtain ⟨rfl, rfl⟩ := same
        rw [if_pos ⟨rfl, rfl⟩, zero, MemoryStore.recorded, Table.lookup_append_new absent rfl]
        exact (Nat.zero_add _).symm
      · rw [if_neg same, MemoryStore.recorded, Table.lookup_append_ne ?differs]
        · rfl
        case differs =>
          intro e
          exact same ⟨congrArg Prod.fst e, congrArg Prod.snd e⟩
    refine ⟨added, fun within => ?_⟩
    rw [added, zero, if_pos ⟨rfl, rfl⟩, Nat.zero_add]
    exact within
  · rename_i row present
    split at done
    · rename_i within
      cases done
      have added : ∀ w' d', ({ s with
          usage := Table.update UsageRow.key (w, d) (fun _ => true)
            (fun r => { r with tokens := r.tokens + tokens }) s.usage } : MemoryStore).recorded w' d' =
            if w = w' ∧ d = d' then s.recorded w d + tokens else s.recorded w' d' :=
        fun w' d' => recorded_update (f := fun n => n + tokens) rfl present
      have total : s.recorded w d = row.tokens := by
        rw [MemoryStore.recorded, present]
        rfl
      constructor
      · intro workspaceId day
        rw [added]
        by_cases same : w = workspaceId ∧ d = day
        · obtain ⟨rfl, rfl⟩ := same
          rw [if_pos ⟨rfl, rfl⟩, if_pos ⟨rfl, rfl⟩]
        · rw [if_neg same, if_neg same]
          rfl
      · intro _
        rw [added, if_pos ⟨rfl, rfl⟩, total]
        exact within
    · cases done

/-- A reservation that is refused changes nothing. -/
lemma reserve_refused {w : Uuid} {d : Day} {tokens : Nat} {dailyCap : Int}
    (done : transact env (.reserve w tokens d dailyCap) s = .ok (false, s')) : s' = s := by
  simp only [transact] at done
  split at done
  · cases done
  split at done
  · cases done
  · cases done
    rfl

/-- What a correction leaves recorded, where there was something to correct. -/
lemma adjust_recorded {w : Uuid} {d : Day} {delta : Int} {r : Unit}
    (done : transact env (.adjust w delta d) s = .ok (r, s')) (present : 0 < s.recorded w d) :
    s'.recorded workspaceId day = if w = workspaceId ∧ d = day then
      ((s.recorded w d : Int) + delta).toNat else s.recorded workspaceId day := by
  cases done
  cases found : Table.lookup UsageRow.key (w, d) s.usage with
  | none =>
    rw [MemoryStore.recorded, found] at present
    exact absurd present (Nat.lt_irrefl 0)
  | some row => exact recorded_update (f := fun n => ((n : Int) + delta).toNat) rfl found

end Effects

section History
variable {nfc : Utf16 → Utf16}

/-- The history of a run of the system. -/
abbrev IngestHistory (nfc : Utf16 → Utf16) : Type :=
  List (IngestConfig × (ingestionSystem nfc).Label)

/-- A call of an ingestion, as a step. -/
abbrev acted (nfc : Utf16 → Utf16) (c : IngestConfig) (i : Nat) (o : Operation) (env : Environment) :
    IngestConfig × (ingestionSystem nfc).Label :=
  (c, .act i o env)

/-- How a step of an ingestion changes what is recorded for a workspace and a day. -/
def changeOf (i : Nat) (workspaceId : Uuid) (day : Day) :
    IngestConfig × (ingestionSystem nfc).Label → Int
  | (c, .act j o env) =>
    if j = i then ((perform o env c.store).2.recorded workspaceId day : Int) -
      c.store.recorded workspaceId day
    else 0
  | (_, .spawn _) => 0

/-- How an ingestion has changed what is recorded for a workspace and a day. -/
def changes (i : Nat) (workspaceId : Uuid) (day : Day) (h : IngestHistory nfc) : Int :=
  (h.map (changeOf i workspaceId day)).sum

/-- Whether a step is a correction of a reservation that takes effect. -/
def corrects (i : Nat) : IngestConfig × (ingestionSystem nfc).Label → Bool
  | (_, .act j (.adjust ..) env) => decide (j = i) && env.fate.effective
  | _ => false

/-- Whether an ingestion has corrected its reservation. -/
def corrected (i : Nat) (h : IngestHistory nfc) : Bool :=
  h.any (corrects i)

/-- Whether a thread is still to make calls. -/
def unfinished (c : IngestConfig) (i : Nat) : Bool :=
  match c.threads[i]? with
  | some ⟨_, .call _ _⟩ => true
  | _ => false

/-- What the books owe to an ingestion on a day: its reservation as long as it is in flight and has not
    corrected it, and then the tokens of the responses that it received. -/
def accounted (c : IngestConfig) (h : IngestHistory nfc) (i : Nat) (workspaceId : Uuid) (day : Day) :
    Nat :=
  match reservation (calls i h) with
  | none => 0
  | some r =>
    if r.workspaceId = workspaceId ∧ r.day = day then
      if unfinished c i = true ∧ corrected i h = false then r.tokens else received (calls i h)
    else 0

/-- Whether a reservation would take a day past its cap. -/
def MemoryStore.refuses (s : MemoryStore) (workspaceId : Uuid) (tokens : Nat) (day : Day)
    (dailyCap : Int) : Bool :=
  (Table.lookup UsageRow.key (workspaceId, day) s.usage).any fun row =>
    dailyCap < ((row.tokens + tokens : Nat) : Int)

/-- Whether a call received no response of another model. -/
def fromModel (model : String) : Event Operation (fun o => Except Failure o.Answer) → Bool
  | ⟨.embed _, .ok response⟩ => EmbedResponse.model response = model
  | _ => true

/-- A step after which the books still balance. A reservation that is made is acknowledged. A response
    has a vector for each text, and is from the model of the ones before. A correction that takes effect
    is made on the day of the reservation; the first one is acknowledged if it takes effect, and the
    second one takes effect. -/
def Balances (h : IngestHistory nfc) : IngestConfig × (ingestionSystem nfc).Label → Prop
  | (c, .act _ (.reserve workspaceId tokens day dailyCap) env) =>
    env.fate.acknowledged = true ∨ c.store.refuses workspaceId tokens day dailyCap = true
  | (_, .act i (.embed inputs) env) =>
    env.fate = .commits → env.response.vectors.length = inputs.length ∧
      ∀ event ∈ calls i h, fromModel env.response.model event = true
  | (_, .act i (.adjust _ _ day) env) =>
    (if firstTry (calls i h) then env.fate.acknowledged = true else env.fate.effective = true) ∧
      (env.fate.effective = true → ∀ r ∈ reservation (calls i h), r.day = day)
  | _ => True

instance (h : IngestHistory nfc) : DecidablePred (Balances h)
  | (c, .act _ (.reserve workspaceId tokens day dailyCap) env) =>
    inferInstanceAs (Decidable
      (env.fate.acknowledged = true ∨ c.store.refuses workspaceId tokens day dailyCap = true))
  | (_, .act i (.embed inputs) env) =>
    inferInstanceAs (Decidable
      (env.fate = .commits → env.response.vectors.length = inputs.length ∧
        ∀ event ∈ calls i h, fromModel env.response.model event = true))
  | (_, .act i (.adjust _ _ day) env) =>
    inferInstanceAs (Decidable
      ((if firstTry (calls i h) then env.fate.acknowledged = true else env.fate.effective = true) ∧
        (env.fate.effective = true → ∀ r ∈ reservation (calls i h), r.day = day)))
  | (_, .spawn _) | (_, .act _ .now _) | (_, .act _ (.findSourceIdByHash ..) _)
  | (_, .act _ (.ingest _) _) => isTrue trivial

end History

section Steps
variable {nfc : Utf16 → Utf16} {c₀ c c' : IngestConfig} {h : IngestHistory nfc} {i j : Nat}
  {workspaceId : Uuid} {day : Day} {o : Operation} {env : Environment}
  {entry : IngestConfig × (ingestionSystem nfc).Label}

/-- What an ingestion should have added to a day: its reservation, until it is corrected. -/
def held (i : Nat) (h : IngestHistory nfc) (workspaceId : Uuid) (day : Day) : Nat :=
  match reservation (calls i h) with
  | none => 0
  | some r =>
    if r.workspaceId = workspaceId ∧ r.day = day then
      if corrected i h then received (calls i h) else r.tokens
    else 0

/-- Every step so far balances. -/
def AllBalance (h : IngestHistory nfc) : Prop :=
  ∀ h₁ entry h₂, h = h₁ ++ entry :: h₂ → Balances h₁ entry

/-- The books balance: what is recorded is what the ingestions changed, and each changed what it
    should. -/
structure InBalance (c : IngestConfig) (h : IngestHistory nfc) : Prop where
  total : ∀ workspaceId day, (c.store.recorded workspaceId day : Int) =
    ∑ i ∈ Finset.range c.threads.length, changes i workspaceId day h
  each : ∀ i workspaceId day, changes i workspaceId day h = held i h workspaceId day
  coherent : ∀ i, Coherent (calls i h)

lemma changes_snoc : changes i workspaceId day (h ++ [entry]) =
    changes i workspaceId day h + changeOf i workspaceId day entry := by
  rw [changes, List.map_append, List.sum_append, List.map_singleton, List.sum_singleton]
  rfl

lemma corrected_snoc : corrected i (h ++ [entry]) = (corrected i h || corrects i entry) := by
  rw [corrected, List.any_append]
  simp only [List.any_cons, List.any_nil, Bool.or_false]
  rfl

lemma AllBalance.front {h₁ h₂ : IngestHistory nfc} (all : AllBalance (h₁ ++ h₂)) : AllBalance h₁ := by
  intro g₁ e g₂ split
  exact all g₁ e (g₂ ++ h₂) (by rw [split, List.append_assoc, List.cons_append])

lemma AllBalance.last (all : AllBalance (h ++ [entry])) : Balances h entry :=
  all h entry [] rfl

/-- Corrections that failed had no effect, as long as the steps balance. -/
lemma uncorrected (all : AllBalance h) (tries : FailedTries (calls i h)) : corrected i h = false := by
  cases found : corrected i h with
  | false => rfl
  | true =>
    obtain ⟨⟨c₁, l⟩, mem, is_correction⟩ := List.any_eq_true.mp found
    obtain ⟨h₁, h₂, split⟩ := List.append_of_mem mem
    have balances := all h₁ (c₁, l) h₂ split
    cases l with
    | spawn => cases is_correction
    | act j o env =>
      cases o with
      | adjust workspaceId delta day =>
        obtain ⟨same, effective⟩ := Bool.and_eq_true_iff.mp is_correction
        obtain rfl : j = i := of_decide_eq_true same
        have did : calls j h = calls j h₁ ++
            ⟨.adjust workspaceId delta day, (perform (.adjust workspaceId delta day) env c₁.store).1⟩ ::
              calls j h₂ := by
          rw [split, calls_append]
          exact congrArg (calls j h₁ ++ ·) (List.filterMap_cons_some (if_pos rfl))
        obtain ⟨first, error, failed⟩ := tries _ _ _ _ _ _ did
        -- the first correction would have been acknowledged
        have acknowledged := balances.1
        rw [if_pos first] at acknowledged
        cases fate : env.fate with
        | aborts =>
          rw [fate] at effective
          cases effective
        | unacknowledged =>
          rw [fate] at acknowledged
          cases acknowledged
        | commits =>
          have answered : (perform (.adjust workspaceId delta day) env c₁.store).1 = .ok () := by
            simp only [perform, transact, fateOf, fate]
          cases answered.symm.trans failed
      | _ => cases is_correction

/-- A step that is no correction and no reservation keeps what an ingestion should have added. -/
lemma held_kept {l : (ingestionSystem nfc).Label} (all : AllBalance h)
    (own : calls i (h ++ [(c, l)]) = calls i h ++ [⟨o, (perform o env c.store).1⟩])
    (unreserved : reservationOf ⟨o, (perform o env c.store).1⟩ = none)
    (quiet : corrects i (c, l) = false)
    (unreceived : receivedOf ⟨o, (perform o env c.store).1⟩ = 0 ∨ FailedTries (calls i h)) :
    held i (h ++ [(c, l)]) workspaceId day = held i h workspaceId day := by
  have reserved : reservation (calls i (h ++ [(c, l)])) = reservation (calls i h) := by
    rw [own, reservation_snoc, unreserved, Option.or_none]
  have same : corrected i (h ++ [(c, l)]) = corrected i h := by
    rw [corrected_snoc, quiet, Bool.or_false]
  unfold held
  rw [reserved, same]
  rcases unreceived with none | tries
  · rw [own, received_snoc, none, Nat.add_zero]
  · rw [uncorrected all tries]
    rfl

/-- What a reservation changes. -/
lemma reserve_step {tokens : Nat} {d : Day} {w : Uuid} {dailyCap : Int} (all : AllBalance h)
    (balances : Balances h (acted nfc c i (.reserve w tokens d dailyCap) env))
    (account : ingestAccount (calls i h) (.reserve w tokens d dailyCap)) :
    (held i h workspaceId day : Int) +
        changeOf i workspaceId day (acted nfc c i (.reserve w tokens d dailyCap) env) =
      held i (h ++ [acted nfc c i (.reserve w tokens d dailyCap) env]) workspaceId day := by
  obtain ⟨first, none, positive, within⟩ := account
  have own : calls i (h ++ [acted nfc c i (.reserve w tokens d dailyCap) env]) =
      calls i h ++ [⟨.reserve w tokens d dailyCap, (perform (.reserve w tokens d dailyCap) env c.store).1⟩] :=
    calls_act
  have before : held i h workspaceId day = 0 := by
    rw [held, none]
  have change : changeOf i workspaceId day (acted nfc c i (.reserve w tokens d dailyCap) env) =
      ((perform (.reserve w tokens d dailyCap) env c.store).2.recorded workspaceId day : Int) -
        c.store.recorded workspaceId day := if_pos rfl
  have unchanged : (perform (.reserve w tokens d dailyCap) env c.store).2 = c.store →
      reservationOf ⟨.reserve w tokens d dailyCap,
        (perform (.reserve w tokens d dailyCap) env c.store).1⟩ = Option.none →
      (held i h workspaceId day : Int) +
          changeOf i workspaceId day (acted nfc c i (.reserve w tokens d dailyCap) env) =
        held i (h ++ [acted nfc c i (.reserve w tokens d dailyCap) env]) workspaceId day := by
    intro same unreserved
    rw [held_kept all own unreserved rfl (.inl rfl), change, same]
    omega
  rcases perform_cases (.reserve w tokens d dailyCap) env c.store with
    ⟨error, e, -⟩ | ⟨r, s', done, effect⟩
  · apply unchanged
    · rw [e]
    · rw [e]
      rfl
  cases r with
  | false =>
    have same := reserve_refused done
    rcases effect with ⟨-, e⟩ | ⟨error, -, e⟩
    · apply unchanged
      · rw [e, same]
      · rw [e]
        rfl
    · apply unchanged
      · rw [e, same]
      · rw [e]
        rfl
  | true =>
    have refuses_not : c.store.refuses w tokens d dailyCap = false := by
      simp only [transact] at done
      split at done
      · rename_i absent
        rw [MemoryStore.refuses, absent]
        rfl
      · rename_i row present
        split at done
        · rename_i fits
          rw [MemoryStore.refuses, present]
          exact decide_eq_false (Int.not_lt.mpr fits)
        · cases done
    rcases effect with ⟨-, e⟩ | ⟨error, lost, e⟩
    · have reserved : reservation (calls i (h ++ [acted nfc c i (.reserve w tokens d dailyCap) env])) =
          some ⟨w, d, tokens⟩ := by
        rw [own, reservation_snoc, none, e]
        rfl
      have open_still : corrected i (h ++ [acted nfc c i (.reserve w tokens d dailyCap) env]) = false := by
        rw [corrected_snoc, uncorrected all (failedTries_of_firstTry first)]
        rfl
      rw [before, change, e, (reserve_recorded done).1 workspaceId day, held, reserved, open_still]
      show _ = ((if w = workspaceId ∧ d = day then tokens else 0 : Nat) : Int)
      omega
    · -- the answer is lost, so the reservation is one that is refused
      have lost : env.fate = .unacknowledged error := lost
      rcases balances with acknowledged | refused
      · rw [lost] at acknowledged
        cases acknowledged
      · rw [refuses_not] at refused
        cases refused

/-- What an ingestion should have added is part of what is recorded. -/
lemma InBalance.held_le (balance : InBalance c h) (lt : i < c.threads.length) :
    held i h workspaceId day ≤ c.store.recorded workspaceId day := by
  have total := balance.total workspaceId day
  have parts : ∀ j ∈ Finset.range c.threads.length, (0 : Int) ≤ changes j workspaceId day h := by
    intro j _
    rw [balance.each]
    exact Int.natCast_nonneg _
  have part := Finset.single_le_sum parts (Finset.mem_range.mpr lt)
  rw [← total, balance.each] at part
  exact Int.ofNat_le.mp part

/-- What a correction changes. -/
lemma adjust_step {delta : Int} {d : Day} {w : Uuid} (balance : InBalance c h) (all : AllBalance h)
    (lt : i < c.threads.length) (balances : Balances h (acted nfc c i (.adjust w delta d) env))
    (account : ingestAccount (calls i h) (.adjust w delta d)) :
    (held i h workspaceId day : Int) + changeOf i workspaceId day (acted nfc c i (.adjust w delta d) env) =
      held i (h ++ [acted nfc c i (.adjust w delta d) env]) workspaceId day := by
  obtain ⟨tries, r, reserved, rfl, positive, counted⟩ := account
  have counted := counted (balance.coherent i)
  have own : calls i (h ++ [acted nfc c i (.adjust r.workspaceId delta d) env]) =
      calls i h ++ [⟨.adjust r.workspaceId delta d,
        (perform (.adjust r.workspaceId delta d) env c.store).1⟩] :=
    calls_act
  have change : changeOf i workspaceId day (acted nfc c i (.adjust r.workspaceId delta d) env) =
      ((perform (.adjust r.workspaceId delta d) env c.store).2.recorded workspaceId day : Int) -
        c.store.recorded workspaceId day := if_pos rfl
  have before : ∀ w' d', held i h w' d' =
      if r.workspaceId = w' ∧ r.day = d' then r.tokens else 0 := by
    intro w' d'
    rw [held, reserved, uncorrected all tries]
    rfl
  rcases perform_cases (.adjust r.workspaceId delta d) env c.store with
    ⟨error, e, fails | refused⟩ | ⟨done', s', done, effect⟩
  · have quiet : corrects i (acted nfc c i (.adjust r.workspaceId delta d) env) = false := by
      have fails : env.fate.effective = false := fails
      show (decide (i = i) && env.fate.effective) = false
      rw [fails, Bool.and_false]
    have same : (perform (.adjust r.workspaceId delta d) env c.store).2 = c.store := by rw [e]
    rw [held_kept all own rfl quiet (.inl rfl), change, same]
    omega
  · cases refused
  · have effective : env.fate.effective = true := by
      rcases effect with ⟨commits, -⟩ | ⟨error, lost, -⟩
      · have commits : env.fate = .commits := commits
        rw [commits]
        rfl
      · have lost : env.fate = .unacknowledged error := lost
        rw [lost]
        rfl
    have after : (perform (.adjust r.workspaceId delta d) env c.store).2 = s' := by
      rcases effect with ⟨-, e⟩ | ⟨error, -, e⟩
      · rw [e]
      · rw [e]
    have same_day : r.day = d := balances.2 effective r reserved
    have present : held i h r.workspaceId d ≤ c.store.recorded r.workspaceId d := balance.held_le lt
    rw [before, if_pos ⟨rfl, same_day⟩] at present
    have reserved' : reservation (calls i (h ++ [acted nfc c i (.adjust r.workspaceId delta d) env])) =
        some r := by
      rw [own, reservation_snoc, reserved]
      rfl
    have received' : received (calls i (h ++ [acted nfc c i (.adjust r.workspaceId delta d) env])) =
        received (calls i h) := by
      rw [own, received_snoc]
      rfl
    have corrected' : corrected i (h ++ [acted nfc c i (.adjust r.workspaceId delta d) env]) = true := by
      rw [corrected_snoc]
      show (_ || (decide (i = i) && env.fate.effective)) = true
      rw [effective, decide_eq_true rfl, Bool.and_true, Bool.or_true]
    rw [before, change, after, adjust_recorded done (by omega), held, reserved', corrected', received']
    subst same_day
    by_cases key : r.workspaceId = workspaceId ∧ r.day = day
    · obtain ⟨rfl, rfl⟩ := key
      simp only [and_self, if_true]
      omega
    · simp only [if_neg key]
      omega

/-- An ingestion's own step changes what it should. -/
lemma own_step {t : IngestDocumentInput} {k : Except Failure o.Answer → Prog Operation
      (fun o => Except Failure o.Answer) (Except Failure IngestDocumentResult)}
    (starts : Starts c₀) (traced : (ingestionSystem nfc).Traced (ingestionSystem nfc).Unguarded c₀ h c)
    (balance : InBalance c h) (all : AllBalance h) (at_i : c.threads[i]? = some ⟨t, .call o k⟩)
    (balances : Balances h (acted nfc c i o env)) :
    (held i h workspaceId day : Int) + changeOf i workspaceId day (acted nfc c i o env) =
      held i (h ++ [acted nfc c i o env]) workspaceId day := by
  have account : ingestAccount (calls i h) o :=
    traced.accounted starts.2 at_i (ingestDocument_account [] rfl)
  have lt : i < c.threads.length := (List.getElem?_eq_some_iff.mp at_i).1
  have own : calls i (h ++ [acted nfc c i o env]) = calls i h ++ [⟨o, (perform o env c.store).1⟩] :=
    calls_act
  have silent : o.writesUsage = false → changeOf i workspaceId day (acted nfc c i o env) = 0 := by
    intro reads
    show (if i = i then _ else _) = (0 : Int)
    rw [if_pos rfl, recorded_kept reads, sub_self]
  cases o with
  | reserve w tokens d dailyCap => exact reserve_step all balances account
  | adjust w delta d => exact adjust_step balance all lt balances account
  | now | findSourceIdByHash | ingest =>
    rw [silent rfl, held_kept all own rfl rfl (.inl rfl), add_zero]
  | embed inputs =>
    rw [silent rfl, held_kept all own rfl rfl (.inr (failedTries_of_firstTry account)), add_zero]

/-- A response that balances is coherent with the ones before. -/
lemma coherent_step (coherent : Coherent (calls i h)) (balances : Balances h (acted nfc c i o env)) :
    Coherent (calls i (h ++ [acted nfc c i o env])) := by
  have own : calls i (h ++ [acted nfc c i o env]) = calls i h ++ [⟨o, (perform o env c.store).1⟩] :=
    calls_act
  rw [own]
  -- what was answered now is what the environment says, and the condition speaks about it
  have now : ∀ inputs response, Answered [⟨o, (perform o env c.store).1⟩] inputs response →
      response.vectors.length = inputs.length ∧ ∀ inputs' response',
        Answered (calls i h) inputs' response' → response'.model = response.model := by
    intro inputs response answered
    have same := List.mem_singleton.mp answered
    obtain ⟨rfl, same⟩ := Sigma.mk.inj same
    have answer : (perform (.embed inputs) env c.store).1 = .ok response := (eq_of_heq same).symm
    rcases perform_cases (.embed inputs) env c.store with
      ⟨error, e, -⟩ | ⟨r, s', done, ⟨commits, e⟩ | ⟨error, -, e⟩⟩
    · rw [e] at answer
      cases answer
    · rw [e] at answer
      cases done
      cases answer
      obtain ⟨vectors, models⟩ := balances commits
      refine ⟨vectors, fun inputs' response' earlier => ?_⟩
      have same_model : fromModel _ ⟨.embed inputs', .ok response'⟩ = true := models _ earlier
      exact of_decide_eq_true same_model
    · rw [e] at answer
      cases answer
  constructor
  · intro inputs response answered
    rcases List.mem_append.mp answered with earlier | last
    · exact coherent.vectors inputs response earlier
    · exact (now inputs response last).1
  · intro inputs response inputs' response' answered answered'
    rcases List.mem_append.mp answered with earlier | last
    · rcases List.mem_append.mp answered' with earlier' | last'
      · exact coherent.models inputs response inputs' response' earlier earlier'
      · exact (now inputs' response' last').2 inputs response earlier
    · rcases List.mem_append.mp answered' with earlier' | last'
      · exact ((now inputs response last).2 inputs' response' earlier').symm
      · obtain ⟨rfl, same⟩ := Sigma.mk.inj (List.mem_singleton.mp last)
        obtain ⟨same_inputs, same'⟩ := Sigma.mk.inj (List.mem_singleton.mp last')
        cases same_inputs
        have equal : Except.ok response = Except.ok response' :=
          (eq_of_heq same).trans (eq_of_heq same').symm
        cases equal
        rfl

/-- A step of another ingestion changes nothing about one. -/
lemma held_other (ne : i ≠ j) : held j (h ++ [acted nfc c i o env]) workspaceId day =
    held j h workspaceId day := by
  have same : corrects j (acted nfc c i o env) = false := by
    cases o with
    | adjust =>
      show (decide (i = j) && env.fate.effective) = false
      rw [decide_eq_false ne, Bool.false_and]
    | _ => rfl
  have others : calls j (h ++ [acted nfc c i o env]) = calls j h := calls_act_ne ne
  unfold held
  rw [others, corrected_snoc, same, Bool.or_false]

/-- The step lemma: a step that balances keeps the books in balance. -/
lemma InBalance.step {l : (ingestionSystem nfc).Label} (starts : Starts c₀)
    (traced : (ingestionSystem nfc).Traced (ingestionSystem nfc).Unguarded c₀ h c)
    (step : (ingestionSystem nfc).Step c l c') (balance : InBalance c h)
    (all : AllBalance (h ++ [(c, l)])) : InBalance c' (h ++ [(c, l)]) := by
  cases step with
  | @spawn input _ =>
    have nothing : calls c.threads.length h = [] := (traced.leads starts.2).1 _ (Nat.le_refl _)
    have zero : ∀ workspaceId day, changes c.threads.length workspaceId day h = 0 := by
      intro workspaceId day
      rw [balance.each, held, nothing]
      rfl
    have unchanged : ∀ i workspaceId day,
        changes i workspaceId day (h ++ [(c, .spawn input)]) = changes i workspaceId day h := by
      intro i workspaceId day
      rw [changes_snoc]
      exact Int.add_zero _
    refine ⟨?_, ?_, ?_⟩
    · intro workspaceId day
      show (c.store.recorded workspaceId day : Int) =
        ∑ i ∈ Finset.range (c.threads ++ [_]).length, changes i workspaceId day (h ++ [(c, .spawn input)])
      rw [List.length_append, List.length_singleton, Finset.sum_range_succ, unchanged, zero, add_zero,
        balance.total]
      exact Finset.sum_congr rfl fun i _ => (unchanged i workspaceId day).symm
    · intro i workspaceId day
      rw [unchanged, balance.each, held, held, calls_spawn, corrected_snoc]
      simp only [corrects, Bool.or_false]
    · intro i
      rw [calls_spawn]
      exact balance.coherent i
  | @act i input o k env at_i =>
    have lt : i < c.threads.length := (List.getElem?_eq_some_iff.mp at_i).1
    have balances : Balances h (acted nfc c i o env) := all.last
    refine ⟨?_, ?_, ?_⟩
    · intro workspaceId day
      show ((perform o env c.store).2.recorded workspaceId day : Int) =
        ∑ j ∈ Finset.range (c.threads.set i _).length,
          changes j workspaceId day (h ++ [acted nfc c i o env])
      have split : ∀ j, changes j workspaceId day (h ++ [acted nfc c i o env]) =
          changes j workspaceId day h + if i = j then
            ((perform o env c.store).2.recorded workspaceId day : Int) -
              c.store.recorded workspaceId day
          else 0 := fun j => changes_snoc
      rw [List.length_set, Finset.sum_congr rfl fun j _ => split j, Finset.sum_add_distrib,
        ← balance.total, Finset.sum_ite_eq, if_pos (Finset.mem_range.mpr lt)]
      omega
    · intro j workspaceId day
      show changes j workspaceId day (h ++ [acted nfc c i o env]) =
        held j (h ++ [acted nfc c i o env]) workspaceId day
      rw [changes_snoc, balance.each]
      by_cases same : i = j
      · subst same
        exact own_step starts traced balance all.front at_i balances
      · have none : changeOf j workspaceId day (acted nfc c i o env) = 0 := if_neg same
        have kept : held j (h ++ [acted nfc c i o env]) workspaceId day = held j h workspaceId day :=
          held_other same
        rw [none, kept, add_zero]
    · intro j
      show Coherent (calls j (h ++ [acted nfc c i o env]))
      by_cases same : i = j
      · subst same
        exact coherent_step (balance.coherent i) balances
      · rw [calls_act_ne same]
        exact balance.coherent j

/-- The run lemma: as long as all steps balance, the books do. -/
lemma inBalance (starts : Starts c₀)
    (traced : (ingestionSystem nfc).Traced (ingestionSystem nfc).Unguarded c₀ h c)
    (all : AllBalance h) : InBalance c h := by
  induction traced with
  | nil =>
    refine ⟨?_, fun _ _ _ => rfl, fun i => ⟨?_, ?_⟩⟩
    · intro workspaceId day
      rw [MemoryStore.recorded, starts.1, starts.2]
      rfl
    · intro _ _ mem
      cases mem
    · intro _ _ _ _ mem
      cases mem
  | snoc traced _ step ih => exact (ih all.front).step starts traced step all

end Steps

section Ends
variable {nfc : Utf16 → Utf16} {c₀ c : IngestConfig} {h : IngestHistory nfc} {i : Nat}
  {workspaceId : Uuid} {day : Day}

/-- The clock can always be read. -/
lemma clock_reads (i : Nat) (h : IngestHistory nfc) : ¬ ClockFailed (calls i h) := by
  intro failed
  obtain ⟨error, mem⟩ := failed
  obtain ⟨h₁, c₁, env, h₂, -, answer⟩ := mem_calls mem
  have answer : (perform .now env c₁.store).1 = .error error := answer
  cases answer

/-- An ingestion that made its last correction has corrected its reservation. -/
lemma corrected_of_adjust {before after : IngestCalls} {w : Uuid} {delta : Int} {d : Day}
    {r : Except Failure Unit} (starts : Starts c₀)
    (traced : (ingestionSystem nfc).Traced (ingestionSystem nfc).Unguarded c₀ h c) (all : AllBalance h)
    (split : calls i h = before ++ ⟨.adjust w delta d, r⟩ :: after)
    (last : r = .ok () ∨ (Coherent before → firstTry before = false)) : corrected i h = true := by
  obtain ⟨h₁, c₁, env, h₂, parts, answer, rfl, -⟩ := calls_split split
  have answer : (perform (.adjust w delta d) env c₁.store).1 = r := answer
  have balances : Balances h₁ (acted nfc c₁ i (.adjust w delta d) env) := all h₁ _ h₂ parts
  have effective : env.fate.effective = true := by
    rcases last with ok | second
    · rw [ok] at answer
      cases fate : env.fate with
      | aborts error =>
        simp only [perform, transact, fateOf, fate] at answer
        cases answer
      | commits => rfl
      | unacknowledged error => rfl
    · have earlier : AllBalance h₁ := (parts ▸ all).front
      have coherent := (inBalance starts (traced.split parts).1 earlier).coherent i
      have takes := balances.1
      rw [second coherent] at takes
      exact takes
  refine List.any_eq_true.mpr ⟨acted nfc c₁ i (.adjust w delta d) env, ?_, ?_⟩
  · rw [parts]
    exact List.mem_append_right _ List.mem_cons_self
  · show (decide (i = i) && env.fate.effective) = true
    rw [effective, decide_eq_true rfl]
    rfl

/-- An ingestion that has ended has added what it received. -/
lemma held_of_ended {t : IngestDocumentInput} {result : Except Failure IngestDocumentResult}
    (starts : Starts c₀) (traced : (ingestionSystem nfc).Traced (ingestionSystem nfc).Unguarded c₀ h c)
    (all : AllBalance h) (at_i : c.threads[i]? = some ⟨t, .ret result⟩) {r : Reservation}
    (reserved : reservation (calls i h) = some r) :
    (if corrected i h then received (calls i h) else r.tokens) = received (calls i h) := by
  have balance := inBalance starts traced all
  have concluded : Concluded (calls i h) := by
    have ended := traced.concluded starts.2 at_i (ingestDocument_account [] rfl)
    cases result with
    | ok result => exact ended
    | error error => exact ended
  cases concluded with
  | unreserved none => cases none.symm.trans reserved
  | clockFailed failed => exact absurd failed (clock_reads i h)
  | exact reserved' tries counted =>
    cases reserved'.symm.trans reserved
    rw [uncorrected all tries, counted (balance.coherent i)]
    rfl
  | corrected split last =>
    rw [corrected_of_adjust starts traced all split last]
    rfl

/-- What the books owe to an ingestion is what it has added. -/
lemma accounted_eq_held (starts : Starts c₀)
    (traced : (ingestionSystem nfc).Traced (ingestionSystem nfc).Unguarded c₀ h c) (all : AllBalance h) :
    accounted c h i workspaceId day = held i h workspaceId day := by
  unfold accounted held
  cases reserved : reservation (calls i h) with
  | none => rfl
  | some r =>
    show (if _ then _ else 0) = if _ then _ else 0
    refine congrArg (fun n => if r.workspaceId = workspaceId ∧ r.day = day then n else 0) ?_
    cases at_i : c.threads[i]? with
    | none =>
      have nothing : calls i h = [] :=
        (traced.leads starts.2).1 i (List.getElem?_eq_none_iff.mp at_i)
      rw [nothing] at reserved
      cases reserved
    | some thread =>
      obtain ⟨t, prog⟩ := thread
      cases prog with
      | call o k =>
        have going : unfinished c i = true := by rw [unfinished, at_i]
        rw [going]
        cases corrected i h <;> rfl
      | ret result =>
        have ended : unfinished c i = false := by rw [unfinished, at_i]
        rw [ended, held_of_ended starts traced all at_i reserved]
        rfl

end Ends

/-- In every run of ingestions, however they are interleaved, whatever fails and whatever the clock
    says: a reservation that is made leaves its day within its cap. And as long as all steps balance,
    what is recorded for a day is the reservations made on it by the ingestions in flight, until these
    are corrected, and the tokens of all responses that the other ingestions that reserved on it
    received; and an ingestion that failed has added the tokens of its responses to the day of its
    reservation, and nothing to other days. -/
theorem embedding_tokens_balance {nfc : Utf16 → Utf16} {c₀ c : IngestConfig} {h : IngestHistory nfc}
    (starts : Starts c₀)
    (traced : (ingestionSystem nfc).Traced (ingestionSystem nfc).Unguarded c₀ h c) :
    (∀ h₁ c₁ i workspaceId tokens day dailyCap env h₂,
      h = h₁ ++ acted nfc c₁ i (.reserve workspaceId tokens day dailyCap) env :: h₂ →
      (perform (.reserve workspaceId tokens day dailyCap) env c₁.store).2.usage ≠ c₁.store.usage →
      ((perform (.reserve workspaceId tokens day dailyCap) env c₁.store).2.recorded workspaceId day :
        Int) ≤ dailyCap) ∧
    ((∀ h₁ entry h₂, h = h₁ ++ entry :: h₂ → Balances h₁ entry) →
      (∀ workspaceId day, c.store.recorded workspaceId day =
        ∑ i ∈ Finset.range c.threads.length, accounted c h i workspaceId day) ∧
      ∀ i t error, c.threads[i]? = some ⟨t, .ret (.error error)⟩ → ∀ workspaceId day,
        changes i workspaceId day h =
          match reservation (calls i h) with
          | none => 0
          | some r =>
            if r.workspaceId = workspaceId ∧ r.day = day then (received (calls i h) : Int) else 0) := by
  constructor
  · intro h₁ c₁ i workspaceId tokens day dailyCap env h₂ split made
    obtain ⟨t, k, at_i⟩ := traced.pending split
    have account : ingestAccount (calls i h₁) (.reserve workspaceId tokens day dailyCap) :=
      (traced.split split).1.accounted starts.2 at_i (ingestDocument_account [] rfl)
    obtain ⟨-, -, -, within⟩ := account
    rcases perform_cases (.reserve workspaceId tokens day dailyCap) env c₁.store with
      ⟨error, e, -⟩ | ⟨r, s', done, effect⟩
    · rw [e] at made
      exact absurd rfl made
    have after : (perform (.reserve workspaceId tokens day dailyCap) env c₁.store).2 = s' := by
      rcases effect with ⟨-, e⟩ | ⟨error, -, e⟩
      · rw [e]
      · rw [e]
    rw [after] at made ⊢
    cases r with
    | true => exact (reserve_recorded done).2 within
    | false => exact absurd (congrArg MemoryStore.usage (reserve_refused done)) made
  · intro all
    have balance := inBalance starts traced all
    constructor
    · intro workspaceId day
      have total := balance.total workspaceId day
      rw [Finset.sum_congr rfl fun i _ => balance.each i workspaceId day, ← Nat.cast_sum] at total
      rw [Int.ofNat_inj.mp total]
      exact Finset.sum_congr rfl fun i _ => (accounted_eq_held starts traced all).symm
    · intro i t error at_i workspaceId day
      rw [balance.each, held]
      cases reserved : reservation (calls i h) with
      | none => rfl
      | some r =>
        show ((if _ then _ else 0 : Nat) : Int) = if _ then _ else 0
        rw [held_of_ended starts traced all at_i reserved]
        split <;> rfl

section Scenario

/-- Nothing was ingested yet. -/
def freshMemory : IngestConfig :=
  ⟨{}, []⟩

lemma freshMemory_starts : Starts freshMemory :=
  ⟨rfl, rfl⟩

/-- A short document, estimated at two tokens. -/
def note : IngestDocumentInput :=
  ⟨1, "note", Utf16.ofString "abcd", none, none, none, none⟩

/-- Its ingestion up to the request for vectors. -/
def reservesForNote : List (ingestionSystem id).Move :=
  [.spawn note, .act 0 {}, .act 0 {}, .act 0 {}]

/-- The embedder reports seven tokens, but its vector is too short to be stored. -/
def paysForNote : List (ingestionSystem id).Move :=
  reservesForNote ++ [.act 0 { response := ⟨"m", [[]], 7⟩ }, .act 0 {}, .act 0 {}, .act 0 {}]

/-- The embedder fails, and meanwhile it is the next day. -/
def failsAtMidnight : List (ingestionSystem id).Move :=
  reservesForNote ++ [.act 0 { fate := .aborts (.provider "down") }, .act 0 { now := 86400000 },
    .act 0 {}]

/-- `embedding_tokens_balance` for an ingestion that fails after it has paid. -/
theorem embedding_tokens_paid :
    ∃ (h : IngestHistory id) (c : IngestConfig),
      (ingestionSystem id).Traced (ingestionSystem id).Unguarded freshMemory h c ∧
        c.store.recorded 1 0 = 7 ∧
        ∀ workspaceId day, c.store.recorded workspaceId day =
          ∑ i ∈ Finset.range c.threads.length, accounted c h i workspaceId day := by
  have tested : ((System.record freshMemory paysForNote).any fun run =>
      decide (run.2.store.recorded 1 0 = 7) &&
        System.testsAll (fun h entry => decide (Balances h entry)) run.1) = true := by
    decide
  obtain ⟨h, c, traced, test⟩ := System.exists_traced tested
  obtain ⟨paid, balances⟩ := Bool.and_eq_true_iff.mp test
  have all : ∀ h₁ entry h₂, h = h₁ ++ entry :: h₂ → Balances h₁ entry :=
    fun h₁ entry h₂ split => of_decide_eq_true (System.testsAll_split balances split)
  exact ⟨h, c, traced, of_decide_eq_true paid,
    ((embedding_tokens_balance freshMemory_starts traced).2 all).1⟩

/-- A failed ingestion whose correction is made on the next day leaves its reservation behind. -/
theorem embedding_tokens_lost :
    ¬ ∀ (nfc : Utf16 → Utf16) (c₀ c : IngestConfig) (h : IngestHistory nfc), Starts c₀ →
      (ingestionSystem nfc).Traced (ingestionSystem nfc).Unguarded c₀ h c →
      ∀ workspaceId day, c.store.recorded workspaceId day =
        ∑ i ∈ Finset.range c.threads.length, accounted c h i workspaceId day := by
  intro always
  have tested : ((System.record freshMemory failsAtMidnight).any fun run =>
      decide (run.2.store.recorded 1 0 ≠
        ∑ i ∈ Finset.range run.2.threads.length, accounted run.2 run.1 i 1 0)) = true := by
    decide
  obtain ⟨h, c, traced, test⟩ := System.exists_traced tested
  exact of_decide_eq_true test (always id freshMemory c h freshMemory_starts traced 1 0)

end Scenario

end AtomsPlatform.Memory
