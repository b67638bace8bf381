import AtomsPlatform.Memory.Ingest
import Mathlib.Algebra.BigOperators.Ring.Finset
import Mathlib.Algebra.Order.BigOperators.Group.Finset

/-!
# Accounting of embedding tokens

What is recorded for a day should be what is reserved, or was spent, by the ingestions that reserved on
that day. A reservation is accepted within the cap only. The books balance as long as nothing happens
that the code does not count: a reservation whose answer is lost, a response that it refuses, a
correction on another day than the reservation, a correction that is lost or made twice (`Balances`).
-/

namespace AtomsPlatform.Memory
open Interleaving

/-- What a thread did so far. -/
abbrev IngestCalls : Type :=
  List (Event Operation fun o => Except Failure o.Answer)

section Calls

/-- A reservation that was accepted. -/
structure Reservation where
  workspaceId : Uuid
  day : Day
  tokens : Nat
deriving DecidableEq, Repr

/-- The reservation that a call made. -/
def reservationOf : Event Operation (fun o => Except Failure o.Answer) → Option Reservation
  | ⟨.reserve workspaceId tokens day _, .ok true⟩ => some ⟨workspaceId, day, tokens⟩
  | _ => none

/-- The reservation that an ingestion made. -/
def reservation (calls : IngestCalls) : Option Reservation :=
  calls.findSome? reservationOf

/-- The tokens of the embed response that a call received. -/
def receivedOf : Event Operation (fun o => Except Failure o.Answer) → Nat
  | ⟨.embed inputs, .ok response⟩ => EmbedResponse.tokens response (inputs.map estimateTokens).sum
  | _ => 0

/-- The tokens of all embed responses that an ingestion received. -/
def received (calls : IngestCalls) : Nat :=
  (calls.map receivedOf).sum

/-- An embed request was answered. -/
def Answered (calls : IngestCalls) (inputs : List Utf16) (response : EmbedResponse) : Prop :=
  ⟨.embed inputs, .ok response⟩ ∈ calls

/-- The embed responses have a vector for each text, and all are from one model. -/
structure Coherent (calls : IngestCalls) : Prop where
  vectors : ∀ inputs response, Answered calls inputs response → response.vectors.length = inputs.length
  models : ∀ inputs response inputs' response', Answered calls inputs response →
    Answered calls inputs' response' → response.model = response'.model

/-- Whether a call is no correction of a reservation and no failed embedding. -/
def smooth : Event Operation (fun o => Except Failure o.Answer) → Bool
  | ⟨.adjust .., _⟩ => false
  | ⟨.embed _, .error _⟩ => false
  | _ => true

/-- Whether an ingestion that is about to correct its reservation will try once more if that fails. -/
def firstTry (calls : IngestCalls) : Bool :=
  calls.all smooth

/-- The corrections so far failed, and each was one that is tried once more. -/
def FailedTries (calls : IngestCalls) : Prop :=
  ∀ before workspaceId delta day r after, calls = before ++ ⟨.adjust workspaceId delta day, r⟩ :: after →
    firstTry before = true ∧ ∃ error, r = .error error

/-- What the calls of an ingestion account for at its next call. -/
def ingestAccount (calls : IngestCalls) : Operation → Prop
  | .reserve _ tokens _ dailyCap => firstTry calls = true ∧ reservation calls = none ∧ 0 < tokens ∧
    (tokens : Int) ≤ dailyCap
  | .embed _ => firstTry calls = true
  | .adjust workspaceId delta _ => FailedTries calls ∧ ∃ r, reservation calls = some r ∧
    r.workspaceId = workspaceId ∧ 0 < r.tokens ∧
    (Coherent calls → delta = (received calls : Int) - r.tokens)
  | _ => True

variable {calls : IngestCalls} {event : Event Operation fun o => Except Failure o.Answer}

lemma reservation_snoc : reservation (calls ++ [event]) =
    (reservation calls).or (reservationOf event) := by
  rw [reservation, List.findSome?_append, List.findSome?_singleton]
  rfl

lemma received_snoc : received (calls ++ [event]) = received calls + receivedOf event := by
  rw [received, List.map_append, List.sum_append]
  simp only [List.map_cons, List.map_nil, List.sum_singleton]
  rfl

lemma firstTry_snoc : firstTry (calls ++ [event]) = (firstTry calls && smooth event) := by
  rw [firstTry, List.all_append]
  simp only [List.all_cons, List.all_nil, Bool.and_true]
  rfl

/-- Fewer responses are coherent, too. -/
lemma Coherent.init (coherent : Coherent (calls ++ [event])) : Coherent calls := by
  obtain ⟨vectors, models⟩ := coherent
  constructor
  · intro inputs response answered
    exact vectors inputs response (List.mem_append_left _ answered)
  · intro inputs response inputs' response' answered answered'
    exact models inputs response inputs' response' (List.mem_append_left _ answered)
      (List.mem_append_left _ answered')

/-- Where there was no correction, none has failed. -/
lemma failedTries_of_firstTry (first : firstTry calls = true) : FailedTries calls := by
  intro before workspaceId delta day r after split
  rw [split, firstTry, List.all_append, List.all_cons] at first
  simp only [smooth, Bool.false_and, Bool.and_false] at first
  cases first

/-- A call that is no correction changes nothing about them. -/
lemma FailedTries.snoc (tries : FailedTries calls)
    (other : ∀ workspaceId delta day r, event ≠ ⟨.adjust workspaceId delta day, r⟩) :
    FailedTries (calls ++ [event]) := by
  intro before workspaceId delta day r after split
  rcases snoc_eq_append_cons.mp split with ⟨-, -, last⟩ | ⟨after', -, earlier⟩
  · exact absurd last (other workspaceId delta day r)
  · exact tries before workspaceId delta day r after' earlier

/-- A first correction that fails is tried once more. -/
lemma FailedTries.failed {workspaceId : Uuid} {delta : Int} {day : Day} {error : Failure}
    (first : firstTry calls = true) :
    FailedTries (calls ++ [⟨.adjust workspaceId delta day, .error error⟩]) := by
  intro before workspaceId' delta' day' r after split
  rcases snoc_eq_append_cons.mp split with ⟨-, same, last⟩ | ⟨after', -, earlier⟩
  · cases last
    exact ⟨same ▸ first, error, rfl⟩
  · exact failedTries_of_firstTry first before workspaceId' delta' day' r after' earlier

end Calls

section Phases
variable {workspaceId : Uuid} {estimated spent : Nat} {calls : IngestCalls}
  {event : Event Operation fun o => Except Failure o.Answer}

/-- A call that makes no reservation, receives no response and corrects nothing. -/
structure Neutral (event : Event Operation fun o => Except Failure o.Answer) : Prop where
  reservation : reservationOf event = none
  received : receivedOf event = 0
  smooth : smooth event = true
  other : ∀ workspaceId delta day r, event ≠ ⟨.adjust workspaceId delta day, r⟩

lemma neutral_now (r : Except Failure Date) : Neutral ⟨.now, r⟩ :=
  ⟨rfl, rfl, rfl, fun _ _ _ _ e => by cases e⟩

lemma neutral_find {contentHash : String} (r : Except Failure (Option Uuid)) :
    Neutral ⟨.findSourceIdByHash workspaceId contentHash, r⟩ :=
  ⟨rfl, rfl, rfl, fun _ _ _ _ e => by cases e⟩

lemma neutral_ingest {input : IngestInput} (r : Except Failure IngestResult) :
    Neutral ⟨.ingest input, r⟩ :=
  ⟨rfl, rfl, rfl, fun _ _ _ _ e => by cases e⟩

/-- Nothing was reserved or embedded yet. -/
structure Fresh (calls : IngestCalls) : Prop where
  first : firstTry calls = true
  unreserved : reservation calls = none
  nothing : received calls = 0
  unanswered : ∀ inputs response, ¬ Answered calls inputs response

lemma fresh_nil : Fresh [] :=
  ⟨rfl, rfl, rfl, fun _ _ mem => by cases mem⟩

lemma Fresh.snoc (fresh : Fresh calls) (neutral : Neutral event)
    (other : ∀ inputs r, event ≠ ⟨.embed inputs, r⟩) : Fresh (calls ++ [event]) := by
  obtain ⟨first, unreserved, nothing, unanswered⟩ := fresh
  refine ⟨?_, ?_, ?_, ?_⟩
  · rw [firstTry_snoc, first, neutral.smooth]
    rfl
  · rw [reservation_snoc, unreserved, neutral.reservation]
    rfl
  · rw [received_snoc, nothing, neutral.received]
  · intro inputs response answered
    rcases List.mem_append.mp answered with earlier | last
    · exact unanswered inputs response earlier
    · exact other inputs _ (List.mem_singleton.mp last).symm

/-- The reservation is held, and `spent` counts the responses as long as they are coherent. -/
structure Due (workspaceId : Uuid) (estimated spent : Nat) (calls : IngestCalls) : Prop where
  reserved : ∃ day, reservation calls = some ⟨workspaceId, day, estimated⟩
  positive : 0 < estimated
  tries : FailedTries calls
  counted : Coherent calls → received calls = spent

lemma Due.snoc (due : Due workspaceId estimated spent calls) (neutral : Neutral event) :
    Due workspaceId estimated spent (calls ++ [event]) := by
  obtain ⟨⟨day, reserved⟩, positive, tries, counted⟩ := due
  refine ⟨⟨day, ?_⟩, positive, tries.snoc neutral.other, fun coherent => ?_⟩
  · rw [reservation_snoc, reserved]
    rfl
  · rw [received_snoc, neutral.received, counted coherent.init]
    rfl

/-- A correction may be made. -/
lemma Due.accounts (due : Due workspaceId estimated spent calls) (day : Day) :
    ingestAccount calls (.adjust workspaceId ((spent : Int) - estimated) day) := by
  obtain ⟨⟨reservedDay, reserved⟩, positive, tries, counted⟩ := due
  refine ⟨tries, _, reserved, rfl, positive, fun coherent => ?_⟩
  rw [counted coherent]

/-- A first correction that failed leaves the reservation to be corrected. -/
lemma Due.failed {delta : Int} {day : Day} {error : Failure}
    (due : Due workspaceId estimated spent calls) (first : firstTry calls = true) :
    Due workspaceId estimated spent (calls ++ [⟨.adjust workspaceId delta day, .error error⟩]) := by
  obtain ⟨⟨reservedDay, reserved⟩, positive, tries, counted⟩ := due
  refine ⟨⟨reservedDay, ?_⟩, positive, .failed first, fun coherent => ?_⟩
  · rw [reservation_snoc, reserved]
    rfl
  · rw [received_snoc, counted coherent.init]
    rfl

/-- The clock could not be read. -/
def ClockFailed (calls : IngestCalls) : Prop :=
  ∃ error, ⟨.now, .error error⟩ ∈ calls

/-- The correction is the last one, if the responses were coherent. -/
def LastTry (calls : IngestCalls) : Prop :=
  ClockFailed calls ∨ (Coherent calls → firstTry calls = false)

/-- What the calls of an ingestion say when it ends. -/
inductive Concluded (calls : IngestCalls) : Prop where
  | unreserved : reservation calls = none → Concluded calls
  | clockFailed : ClockFailed calls → Concluded calls
  | exact {r : Reservation} : reservation calls = some r → FailedTries calls →
    (Coherent calls → received calls = r.tokens) → Concluded calls
  | corrected {before workspaceId delta day r after} :
    calls = before ++ ⟨.adjust workspaceId delta day, r⟩ :: after →
    (r = .ok () ∨ (Coherent before → firstTry before = false)) → Concluded calls

lemma ClockFailed.snoc (failed : ClockFailed calls) : ClockFailed (calls ++ [event]) := by
  obtain ⟨error, mem⟩ := failed
  exact ⟨error, List.mem_append_left _ mem⟩

lemma LastTry.snoc (last : LastTry calls) : LastTry (calls ++ [event]) := by
  rcases last with failed | incoherent
  · exact .inl failed.snoc
  · refine .inr fun coherent => ?_
    rw [firstTry_snoc, incoherent coherent.init]
    rfl

lemma Concluded.snoc (concluded : Concluded calls) (neutral : Neutral event) :
    Concluded (calls ++ [event]) := by
  cases concluded with
  | unreserved none =>
    apply Concluded.unreserved
    rw [reservation_snoc, none, neutral.reservation]
    rfl
  | clockFailed failed => exact .clockFailed failed.snoc
  | @exact r reserved tries counted =>
    have reserved' : reservation (calls ++ [event]) = some r := by
      rw [reservation_snoc, reserved]
      rfl
    refine .exact reserved' (tries.snoc neutral.other) fun coherent => ?_
    rw [received_snoc, neutral.received, counted coherent.init]
    rfl
  | @corrected before w delta day r after split last =>
    have split' : calls ++ [event] = before ++ ⟨.adjust w delta day, r⟩ :: (after ++ [event]) := by
      rw [split, List.append_assoc, List.cons_append]
    exact .corrected split' last

/-- A correction that succeeds, or that is the last one, concludes. -/
lemma concluded_adjust {delta : Int} {day : Day} {r : Except Failure Unit}
    (last : r = .ok () ∨ (Coherent calls → firstTry calls = false)) :
    Concluded (calls ++ [⟨.adjust workspaceId delta day, r⟩]) := by
  have split : calls ++ [⟨.adjust workspaceId delta day, r⟩] =
      calls ++ ⟨.adjust workspaceId delta day, r⟩ :: [] := rfl
  exact .corrected split last

end Phases

section Programs
variable {workspaceId : Uuid} {estimated spent : Nat}

/-- The rule of `attempt`. -/
lemma attempt_account {α : Type} {p : Program α} {Φ : IngestCalls → Operation → Prop}
    {P : IngestCalls → Prop} {Q : α → IngestCalls → Prop} {E : Failure → IngestCalls → Prop}
    (triple : Accounts Φ P p Q E) :
    Accounts Φ P (attempt p)
      (fun r calls => Outcome (fun a => Q a calls) (fun e => E e calls) r) fun _ _ => False := by
  unfold attempt
  apply Triple.tryCatch (R := E)
  · exact .bind triple fun a => .pure fun _ holds => holds
  · exact fun error => .pure fun _ holds => holds

/-- A correction of a reservation: it succeeds, or the clock fails, or it is the correction that
    fails. -/
lemma adjust_account {X : IngestCalls → Prop}
    (stable : ∀ calls r, X calls → X (calls ++ [⟨.now, r⟩])) :
    Accounts ingestAccount (fun calls => Due workspaceId estimated spent calls ∧ X calls)
      (adjust workspaceId ((spent : Int) - estimated)) (fun _ => Concluded)
      fun _ calls => (Due workspaceId estimated spent calls ∧ ClockFailed calls) ∨
        ∃ before day error, calls = before ++
            [⟨.adjust workspaceId ((spent : Int) - estimated) day, .error error⟩] ∧
          Due workspaceId estimated spent before ∧ X before := by
  unfold adjust
  split
  · rename_i balanced
    refine .pure fun calls holds => ?_
    obtain ⟨⟨⟨day, reserved⟩, positive, tries, counted⟩, -⟩ := holds
    refine .exact reserved tries fun coherent => ?_
    rw [counted coherent]
    show spent = estimated
    omega
  · refine .bind (R := fun _ calls => Due workspaceId estimated spent calls ∧ X calls) ?_ ?_
    · apply Accounts.call
      · exact fun _ _ => trivial
      · exact fun calls now holds => ⟨holds.1.snoc (neutral_now _), stable calls _ holds.2⟩
      · intro calls error holds
        refine .inl ⟨holds.1.snoc (neutral_now _), error, ?_⟩
        exact List.mem_append_right _ (List.mem_singleton_self _)
    · intro now
      apply Accounts.call
      · exact fun calls holds => holds.1.accounts _
      · exact fun calls _ _ => concluded_adjust (.inl rfl)
      · exact fun calls error holds => .inr ⟨calls, _, error, rfl, holds⟩

/-- The loop over the batches: what it has spent and seen so far. -/
structure Spending (workspaceId : Uuid) (estimated spent : Nat) (done : Embedded)
    (calls : IngestCalls) : Prop where
  due : Due workspaceId estimated spent calls
  first : firstTry calls = true
  seen : ∀ inputs response, Answered calls inputs response → done.model = some response.model
  from_answer : ∀ model, done.model = some model → ∃ inputs response,
    Answered calls inputs response ∧ response.model = model

/-- What is spent is counted from the reservation on. -/
lemma Fresh.reserved {calls : IngestCalls} {day : Day} {dailyCap : Int} (fresh : Fresh calls)
    (positive : 0 < estimated) :
    Spending workspaceId estimated 0 {}
      (calls ++ [⟨.reserve workspaceId estimated day dailyCap, .ok true⟩]) := by
  obtain ⟨first, unreserved, nothing, unanswered⟩ := fresh
  have tries : FailedTries (calls ++ [⟨.reserve workspaceId estimated day dailyCap, .ok true⟩]) :=
    (failedTries_of_firstTry first).snoc fun _ _ _ _ e => by cases e
  refine ⟨⟨⟨day, ?_⟩, positive, tries, fun _ => ?_⟩, ?_, ?_, ?_⟩
  · rw [reservation_snoc, unreserved]
    rfl
  · rw [received_snoc, nothing]
    rfl
  · rw [firstTry_snoc, first]
    rfl
  · intro inputs response answered
    rcases List.mem_append.mp answered with earlier | last
    · exact absurd earlier (unanswered inputs response)
    · cases List.mem_singleton.mp last
  · intro model is_model
    cases is_model

/-- How the loop ends. -/
structure Spent (workspaceId : Uuid) (estimated : Nat) (r : Nat × Except Failure Embedded)
    (calls : IngestCalls) : Prop where
  due : Due workspaceId estimated r.1 calls
  onOk : ∀ embedded, r.2 = .ok embedded → firstTry calls = true ∧ embedded.model ≠ none
  onError : ∀ error, r.2 = .error error → Coherent calls → firstTry calls = false

section Response
variable {calls : IngestCalls} {done : Embedded} {inputs : List Utf16} {response : EmbedResponse}

/-- The calls with a response more. -/
lemma answered_snoc {inputs' : List Utf16} {response' : EmbedResponse}
    (answered : Answered (calls ++ [⟨.embed inputs, .ok response⟩]) inputs' response') :
    Answered calls inputs' response' ∨ (inputs' = inputs ∧ response' = response) := by
  rcases List.mem_append.mp answered with earlier | last
  · exact .inl earlier
  · have same := List.mem_singleton.mp last
    simp only [Sigma.mk.injEq, Operation.embed.injEq] at same
    obtain ⟨rfl, same⟩ := same
    cases same
    exact .inr ⟨rfl, rfl⟩

lemma answered_last : Answered (calls ++ [⟨.embed inputs, .ok response⟩]) inputs response :=
  List.mem_append_right _ (List.mem_singleton_self _)

/-- A response that does not fit the texts is not coherent with anything. -/
lemma incoherent_of_vectors (misfit : response.vectors.length ≠ inputs.length) :
    ¬ Coherent (calls ++ [⟨.embed inputs, .ok response⟩]) :=
  fun coherent => misfit (coherent.vectors inputs response answered_last)

/-- A response from another model is not coherent with the ones before. -/
lemma Spending.incoherent (spending : Spending workspaceId estimated spent done calls)
    (seen : done.model ≠ none) (other : done.model ≠ some response.model) :
    ¬ Coherent (calls ++ [⟨.embed inputs, .ok response⟩]) := by
  intro coherent
  obtain ⟨model, some_model⟩ := Option.ne_none_iff_exists'.mp seen
  obtain ⟨inputs', response', answered, rfl⟩ := spending.from_answer model some_model
  apply other
  rw [some_model, coherent.models inputs' response' inputs response
    (List.mem_append_left _ answered) answered_last]

/-- A response leaves the reservation alone. -/
lemma Due.received {tokens : Nat} (due : Due workspaceId estimated spent calls)
    (counted : Coherent (calls ++ [⟨.embed inputs, .ok response⟩]) →
      tokens = spent + response.tokens (inputs.map estimateTokens).sum) :
    Due workspaceId estimated tokens (calls ++ [⟨.embed inputs, .ok response⟩]) := by
  obtain ⟨⟨day, reserved⟩, positive, tries, before⟩ := due
  refine ⟨⟨day, ?_⟩, positive, tries.snoc (fun _ _ _ _ e => by cases e),
    fun coherent => ?_⟩
  · rw [reservation_snoc, reserved]
    rfl
  · rw [received_snoc, before coherent.init, counted coherent]
    rfl

/-- A response that counts. -/
lemma Spending.counted (spending : Spending workspaceId estimated spent done calls)
    (same : ¬ (done.model ≠ none ∧ done.model ≠ some response.model)) :
    Spending workspaceId estimated (spent + response.tokens (inputs.map estimateTokens).sum)
      ⟨some response.model, done.vectors ++ response.vectors⟩
      (calls ++ [⟨.embed inputs, .ok response⟩]) := by
  obtain ⟨due, first, seen, from_answer⟩ := spending
  refine ⟨due.received fun _ => rfl, ?_, ?_, ?_⟩
  · rw [firstTry_snoc, first]
    rfl
  · intro inputs' response' answered
    rcases answered_snoc answered with earlier | ⟨-, rfl⟩
    · have model := seen inputs' response' earlier
      have known : done.model ≠ none := by
        rw [model]
        exact Option.some_ne_none _
      exact (not_not.mp fun differs => same ⟨known, differs⟩).symm.trans model
    · rfl
  · intro model is_model
    exact ⟨inputs, response, answered_last, Option.some.inj is_model⟩

/-- A response that is refused: the loop ends, and the responses are not coherent. -/
lemma Spending.refused {error : Failure} (spending : Spending workspaceId estimated spent done calls)
    (incoherent : ¬ Coherent (calls ++ [⟨.embed inputs, .ok response⟩])) :
    Spent workspaceId estimated (spent, .error error) (calls ++ [⟨.embed inputs, .ok response⟩]) := by
  refine ⟨spending.due.received fun coherent => absurd coherent incoherent, ?_, ?_⟩
  · intro embedded e
    cases e
  · intro _ _ coherent
    exact absurd coherent incoherent

/-- A request that fails: the loop ends. -/
lemma Spending.failed {error : Failure} (spending : Spending workspaceId estimated spent done calls) :
    Spent workspaceId estimated (spent, .error error) (calls ++ [⟨.embed inputs, .error error⟩]) := by
  obtain ⟨⟨day, reserved⟩, positive, tries, counted⟩ := spending.due
  refine ⟨⟨⟨day, ?_⟩, positive, tries.snoc (fun _ _ _ _ e => by cases e), fun coherent => ?_⟩, ?_, ?_⟩
  · rw [reservation_snoc, reserved]
    rfl
  · rw [received_snoc, counted coherent.init]
    rfl
  · intro embedded e
    cases e
  · intro _ _ _
    rw [firstTry_snoc]
    exact Bool.and_false _

end Response

lemma embedBatches_account {batches : List (List TextChunk)} {done : Embedded}
    (estimates : ∀ batch ∈ batches, ∀ chunk ∈ batch, chunk.tokenCount = estimateTokens chunk.text)
    (some_batch : batches = [] → done.model ≠ none) :
    Accounts ingestAccount (Spending workspaceId estimated spent done)
      (embedBatches spent done batches) (Spent workspaceId estimated) fun _ _ => False := by
  induction batches generalizing spent done with
  | nil =>
    refine .pure fun calls spending => ⟨spending.due, ?_, ?_⟩
    · intro embedded e
      cases e
      exact ⟨spending.first, some_batch rfl⟩
    · intro error e
      cases e
  | cons batch batches ih =>
    unfold embedBatches
    have asked : Accounts ingestAccount (Spending workspaceId estimated spent done)
        (call (.embed (batch.map TextChunk.text)))
        (fun response calls => ∃ before, Spending workspaceId estimated spent done before ∧
          calls = before ++ [⟨.embed (batch.map TextChunk.text), .ok response⟩])
        fun error calls => ∃ before, Spending workspaceId estimated spent done before ∧
          calls = before ++ [⟨.embed (batch.map TextChunk.text), .error error⟩] := by
      apply Accounts.call
      · exact fun calls spending => spending.first
      · exact fun calls response spending => ⟨calls, spending, rfl⟩
      · exact fun calls error spending => ⟨calls, spending, rfl⟩
    apply Triple.bind (attempt_account asked)
    intro answer
    cases answer with
    | error error =>
      refine .pure fun calls holds => ?_
      obtain ⟨before, spending, rfl⟩ := holds
      exact spending.failed
    | ok response =>
      have estimate : (batch.map TextChunk.tokenCount).sum =
          ((batch.map TextChunk.text).map estimateTokens).sum := by
        rw [List.map_map]
        exact congrArg List.sum (List.map_congr_left (estimates batch List.mem_cons_self))
      dsimp only
      split
      · rename_i misfit
        refine .pure fun calls holds => ?_
        obtain ⟨before, spending, rfl⟩ := holds
        apply spending.refused
        apply incoherent_of_vectors
        rw [List.length_map]
        exact misfit
      split
      · rename_i changed
        refine .pure fun calls holds => ?_
        obtain ⟨before, spending, rfl⟩ := holds
        exact spending.refused (spending.incoherent changed.1 changed.2)
      · rename_i fits same
        refine (ih (fun b mem => estimates b (List.mem_cons_of_mem _ mem)) fun _ => Option.some_ne_none _).mono
          ?_ (fun _ _ holds => holds) fun _ _ holds => holds
        intro calls holds
        obtain ⟨before, spending, rfl⟩ := holds
        rw [estimate]
        exact spending.counted same

/-- The correction in the `try` block: if it was not made, the one in the `catch` block is the last. -/
lemma settle_account {embedded : Except Failure Embedded} :
    Accounts ingestAccount (Spent workspaceId estimated (spent, embedded))
      (settle workspaceId estimated spent embedded)
      (fun r calls => Outcome (fun _ => Concluded calls)
        (fun _ => Due workspaceId estimated spent calls ∧ LastTry calls) r) fun _ _ => False := by
  cases embedded with
  | error error => exact .pure fun calls ended => ⟨ended.due, .inr (ended.onError error rfl)⟩
  | ok embedded =>
    cases model : embedded.model with
    | none =>
      simp only [settle, model]
      refine .pure fun calls ended => ?_
      exact absurd model (ended.onOk embedded rfl).2
    | some model =>
      simp only [settle, model]
      have stable : ∀ (calls : IngestCalls) r, firstTry calls = true →
          firstTry (calls ++ [⟨.now, r⟩]) = true := by
        intro calls r first
        rw [firstTry_snoc, first]
        rfl
      have tried := attempt_account
        (@adjust_account workspaceId estimated spent (fun calls => firstTry calls = true) stable)
      refine .bind (tried.mono ?_ (fun _ _ holds => holds) fun _ _ holds => holds) fun r => ?_
      · exact fun calls ended => ⟨ended.due, (ended.onOk embedded rfl).1⟩
      cases r with
      | ok _ => exact .pure fun _ concluded => concluded
      | error error =>
        refine .pure fun calls holds => ?_
        rcases holds with ⟨due, failed⟩ | ⟨before, day, error, rfl, due, first⟩
        · exact ⟨due, .inl failed⟩
        · refine ⟨due.failed first, .inr fun _ => ?_⟩
          rw [firstTry_snoc]
          exact Bool.and_false _

/-- The correction in the `catch` block. -/
lemma giveBack_account :
    Accounts ingestAccount
      (fun calls => Due workspaceId estimated spent calls ∧ LastTry calls)
      (adjust workspaceId ((spent : Int) - estimated)) (fun _ => Concluded) fun _ => Concluded := by
  refine (adjust_account fun _ _ last => LastTry.snoc last).mono (fun _ holds => holds)
    (fun _ _ holds => holds) ?_
  intro _ calls holds
  rcases holds with ⟨-, failed⟩ | ⟨before, day, error, rfl, -, failed | last⟩
  · exact .clockFailed failed
  · exact .clockFailed failed.snoc
  · exact concluded_adjust (.inr last)

lemma embedAndStore_account {input : IngestDocumentInput} {contentHash : String}
    {chunks : List TextChunk} (nonempty : chunks ≠ [])
    (estimates : ∀ chunk ∈ chunks, chunk.tokenCount = estimateTokens chunk.text) :
    Accounts ingestAccount (Spending input.workspaceId estimated 0 {})
      (embedAndStore input contentHash chunks estimated) (fun _ => Concluded) fun _ => Concluded := by
  unfold embedAndStore
  have embedded : Accounts ingestAccount (Spending input.workspaceId estimated 0 {})
      (embedBatches 0 {} (batchesOf chunks)) (Spent input.workspaceId estimated)
      fun _ _ => False := by
    apply embedBatches_account
    · intro batch mem chunk within
      obtain ⟨n, -, rfl⟩ := List.mem_map.mp mem
      exact estimates chunk (List.mem_of_mem_drop (List.mem_of_mem_take within))
    · intro none
      have some_chunk := List.length_pos_iff.mpr nonempty
      simp only [batchesOf, embedBatchSize, List.map_eq_nil_iff, List.range_eq_nil] at none
      omega
  refine .bind (embedded.mono (fun _ holds => holds) (fun _ _ holds => holds)
    fun _ _ impossible => impossible.elim) fun r => ?_
  obtain ⟨spent, embedded⟩ := r
  refine .bind (settle_account.mono (fun _ holds => holds) (fun _ _ holds => holds)
    fun _ _ impossible => impossible.elim) fun settled => ?_
  cases settled with
  | error error => exact .bind giveBack_account fun _ => .throw fun _ concluded => concluded
  | ok result =>
    refine .bind (R := fun _ => Concluded) ?_ fun result => .pure fun _ concluded => concluded
    apply Accounts.call
    · exact fun _ _ => trivial
    · exact fun calls _ concluded => Concluded.snoc concluded (neutral_ingest _)
    · exact fun calls _ concluded => Concluded.snoc concluded (neutral_ingest _)

/-- What a reservation leaves behind. -/
lemma reserve_account {dailyCap : Int} :
    Accounts ingestAccount Fresh (reserve workspaceId estimated dailyCap)
      (fun reserved calls => if reserved then Spending workspaceId estimated 0 {} calls ∧ 0 < estimated
        else reservation calls = none) fun _ => Concluded := by
  unfold reserve
  split
  · exact .throw fun calls fresh => .unreserved fresh.unreserved
  rename_i some_tokens
  split
  · exact .pure fun calls fresh => fresh.unreserved
  rename_i within
  refine .bind (R := fun _ => Fresh) ?_ fun now => ?_
  · apply Accounts.call
    · exact fun _ _ => trivial
    · exact fun calls now fresh => fresh.snoc (neutral_now _) fun _ _ e => by cases e
    · intro calls error fresh
      exact .clockFailed ⟨error, List.mem_append_right _ (List.mem_singleton_self _)⟩
  · have positive : 0 < estimated := by omega
    apply Accounts.call
    · exact fun calls fresh => ⟨fresh.first, fresh.unreserved, positive, by omega⟩
    · intro calls reserved fresh
      cases reserved with
      | false =>
        show reservation _ = none
        rw [reservation_snoc, fresh.unreserved]
        rfl
      | true =>
        exact ⟨fresh.reserved positive, positive⟩
    · intro calls error fresh
      apply Concluded.unreserved
      rw [reservation_snoc, fresh.unreserved]
      rfl

lemma ingestDocument_account {nfc : Utf16 → Utf16} {input : IngestDocumentInput} :
    Accounts ingestAccount (fun calls => calls = []) (ingestDocument nfc input) (fun _ => Concluded)
      fun _ => Concluded := by
  unfold ingestDocument
  split
  · refine .throw fun calls start => ?_
    rw [start]
    exact .unreserved rfl
  refine .bind (R := fun _ => Fresh) ?_ fun existing => ?_
  · apply Accounts.call
    · exact fun _ _ => trivial
    · intro calls existing start
      rw [start]
      exact fresh_nil.snoc (neutral_find _) fun _ _ e => by cases e
    · intro calls error start
      rw [start]
      exact .unreserved rfl
  cases existing with
  | some sourceId => exact .pure fun _ fresh => .unreserved fresh.unreserved
  | none =>
    dsimp only
    cases chunked : chunkText nfc input.text {} with
    | error message => exact .throw fun _ fresh => .unreserved fresh.unreserved
    | ok chunks =>
      apply Triple.bind reserve_account
      intro reserved
      cases reserved with
      | false => exact .pure fun _ unreserved => .unreserved unreserved
      | true =>
        refine .extract (fun calls holds => holds.2) fun positive => ?_
        refine (embedAndStore_account ?_ (chunkText_tokenCount chunked)).mono
          (fun calls holds => holds.1) (fun _ _ holds => holds) fun _ _ holds => holds
        rintro rfl
        exact Nat.lt_irrefl 0 positive

end Programs

end AtomsPlatform.Memory
