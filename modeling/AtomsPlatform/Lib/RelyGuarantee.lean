import AtomsPlatform.Lib.Judgement

/-!
# Rely and guarantee for interleaved programs

The contracts of `Interleaved programs` never mention the store. The rules here do: an assertion
speaks about the store a program sees, and has to survive what others do to it in between. A `Regime`
fixes, for each thread and each call it is about to make, the interference it relies on, what has to
hold when the call is made and the ways in which it may be performed, and an invariant of the store.

A regime gives a judgement for each thread, and with it Hoare triples (`Assures`). `Governs` collects
what is asked of the system and of the guard on its runs: the actor keeps the invariant, and every
other thread finds the interference it relies on. `Governs.secured_reaches` is the run lemma.

Threads may retire: a thread that another one supersedes is not judged any more, and a guard that
lets retired threads act does not govern.
-/

namespace Interleaving
variable {Op : Type} {Ans : Op → Type} {σ τ ω α β : Type} {S : System Op Ans σ τ ω}

/-- The conditions under which the threads of a system are judged. -/
structure Regime (S : System Op Ans σ τ ω) where
  /-- What holds of the store at all times. -/
  inv : σ → Prop
  /-- What others may do to the store while a thread is about to make a call. -/
  rely : τ → Op → σ → σ → Prop
  /-- What has to hold when a thread makes a call. -/
  safe : τ → Op → σ → Prop
  /-- The ways in which a call of a thread may be performed. -/
  allows : τ → Op → S.Choice → σ → Prop

/-- The judgement of a thread: under any interference the call is safe, and whatever way it is
    performed in, its answer and the store after it are as asked. -/
def Regime.judgement (W : Regime S) (t : τ) : Judgement Op Ans σ where
  call o K s := ∀ s₁, W.rely t o s s₁ → W.inv s₁ →
    W.safe t o s₁ ∧ ∀ ch, W.allows t o ch s₁ → K (S.perform o ch s₁).1 (S.perform o ch s₁).2
  mono imp call s₁ rely inv :=
    ⟨(call s₁ rely inv).1, fun ch allowed => imp _ _ ((call s₁ rely inv).2 ch allowed)⟩

section Triples
variable {Res : Op → Type} {ε : Type} {S : System Op (fun o => Except ε (Res o)) σ τ ω}
  {W : Regime S} {t : τ} {P : σ → Prop} {E : ε → σ → Prop}

/-- Hoare triples for the programs of a thread. -/
abbrev Assures (W : Regime S) (t : τ) (P : σ → Prop) (p : Fallible Op Res ε α) (Q : α → σ → Prop)
    (E : ε → σ → Prop) : Prop :=
  Triple (W.judgement t) P p Q E

/-- The rule of calls: the precondition becomes one that interference keeps, and that one has to
    make the call safe and its answer right. -/
lemma Assures.call {o : Op} {M : σ → Prop} {Q : Res o → σ → Prop}
    (stable : ∀ s s₁, W.rely t o s s₁ → W.inv s₁ → P s → M s₁)
    (safe : ∀ s, W.inv s → M s → W.safe t o s)
    (answer : ∀ s ch, W.inv s → M s → W.allows t o ch s →
      Outcome (fun a => Q a (S.perform o ch s).2) (fun e => E e (S.perform o ch s).2)
        (S.perform o ch s).1) :
    Assures W t P (invoke o) Q E := by
  refine .invoke fun s holds s₁ rely inv => ?_
  have holds₁ := stable s s₁ rely inv holds
  exact ⟨safe s₁ inv holds₁, fun ch allowed => answer s₁ ch inv holds₁ allowed⟩

/-- A program whose calls all keep an assertion and are answered as a contract says keeps it. -/
lemma Fulfils.assures {κ : Contract Op fun o => Except ε (Res o)} {p : Fallible Op Res ε α}
    {Q : α → Prop} {E : ε → Prop} (fulfils : Fulfils κ p Q E)
    (stable : ∀ {o s s₁}, κ.requires o → W.rely t o s s₁ → W.inv s₁ → P s → P s₁)
    (safe : ∀ {o s}, κ.requires o → W.inv s → P s → W.safe t o s)
    (step : ∀ {o s ch}, κ.requires o → W.inv s → P s → W.allows t o ch s →
      P (S.perform o ch s).2 ∧ κ.ensures o (S.perform o ch s).1) :
    Assures W t P p (fun a s => Q a ∧ P s) fun e s => E e ∧ P s := by
  refine Triple.of_fulfils fulfils ?_
  intro o s K req holds rest s₁ rely inv
  have holds₁ := stable req rely inv holds
  refine ⟨safe req inv holds₁, fun ch allowed => ?_⟩
  obtain ⟨holds₂, ens⟩ := step req inv holds₁ allowed
  exact rest _ _ ens holds₂

end Triples

section Runs
variable {c c' : Config Op Ans σ τ ω} {i j : Nat} {t : Thread Op Ans τ ω}

/-- A later thread of the configuration supersedes this one. -/
def Retired (retires : τ → τ → Prop) (c : Config Op Ans σ τ ω) (i : Nat) : Prop :=
  ∃ j t t', i < j ∧ c.threads[i]? = some t ∧ c.threads[j]? = some t' ∧ retires t'.tag t.tag

instance {retires : τ → τ → Prop} [∀ t t', Decidable (retires t t')] :
    Decidable (Retired retires c i) := by
  refine decidable_of_iff ((c.threads[i]?.any fun t => (c.threads.drop (i + 1)).any fun t' =>
    decide (retires t'.tag t.tag)) = true) ?_
  simp only [Option.any_eq_true, List.any_eq_true, List.mem_iff_getElem?, List.getElem?_drop,
    decide_eq_true_eq]
  constructor
  · rintro ⟨t, at_i, t', ⟨n, at_j⟩, superseded⟩
    exact ⟨i + 1 + n, t, t', by omega, at_i, at_j, superseded⟩
  · rintro ⟨j, t, t', lt, at_i, at_j, superseded⟩
    refine ⟨t, at_i, t', ⟨j - (i + 1), ?_⟩, superseded⟩
    rw [← at_j]
    congr 1
    omega

/-- Where nobody supersedes anybody, nobody is retired. -/
lemma not_retired : ¬ Retired (fun _ _ => False) c i := by
  rintro ⟨_, _, _, _, _, _, superseded⟩
  exact superseded

/-- Retirement is forever. -/
lemma Retired.step {retires : τ → τ → Prop} {l : S.Label} (retired : Retired retires c i)
    (st : S.Step c l c') : Retired retires c' i := by
  obtain ⟨j, t, t', lt, at_i, at_j, superseded⟩ := retired
  obtain ⟨p, at_i'⟩ := st.tag_kept at_i
  obtain ⟨p', at_j'⟩ := st.tag_kept at_j
  exact ⟨j, _, _, lt, at_i', at_j', superseded⟩

/-- What a regime asks of the system and of the guard on its runs. -/
structure Governs (W : Regime S) (retires : τ → τ → Prop)
    (G : Config Op Ans σ τ ω → S.Label → Prop) : Prop where
  refl : ∀ t o s, W.rely t o s s
  trans : ∀ {t o s₁ s₂ s₃}, W.rely t o s₁ s₂ → W.rely t o s₂ s₃ → W.rely t o s₁ s₃
  /-- The invariant survives a call that is safe and performed in an allowed way. -/
  keeps : ∀ {t o ch s}, W.inv s → W.safe t o s → W.allows t o ch s → W.inv (S.perform o ch s).2
  /-- Only threads that are not retired act, and in allowed ways. -/
  allowed : ∀ {c i o ch t} {k : Ans o → Prog Op Ans ω}, G c (.act i o ch) →
    c.threads[i]? = some ⟨t, .call o k⟩ → ¬ Retired retires c i ∧ W.allows t o ch c.store
  /-- An act is what every other thread relies on. -/
  frame : ∀ {c} {i j : Nat} {t t' o o' ch} {k : Ans o → Prog Op Ans ω}
    {k' : Ans o' → Prog Op Ans ω}, G c (.act i o ch) →
    W.inv c.store → c.threads[i]? = some ⟨t, .call o k⟩ → W.safe t o c.store → i ≠ j →
    c.threads[j]? = some ⟨t', .call o' k'⟩ → ¬ Retired retires c j →
    W.rely t' o' c.store (S.perform o ch c.store).2
  /-- What is started is secure. -/
  start : ∀ {c t}, G c (.spawn t) → W.inv c.store → S.admits c.store t →
    (S.body t).Satisfies (W.judgement t) (fun _ _ => True) c.store

/-- The store satisfies the invariant, and every thread that is not retired is secure. -/
structure Secured (W : Regime S) (retires : τ → τ → Prop) (c : Config Op Ans σ τ ω) : Prop where
  store : W.inv c.store
  threads : ∀ i t, c.threads[i]? = some t → ¬ Retired retires c i →
    t.prog.Satisfies (W.judgement t.tag) (fun _ _ => True) c.store

variable {W : Regime S} {retires : τ → τ → Prop} {G : Config Op Ans σ τ ω → S.Label → Prop}

/-- Before anything is started there is nothing to secure. -/
lemma Secured.start {s : σ} (inv : W.inv s) :
    Secured W retires (⟨s, []⟩ : Config Op Ans σ τ ω) := by
  refine ⟨inv, fun i t at_i => ?_⟩
  cases at_i

/-- The call a thread is about to make is safe. -/
lemma Secured.safe {t : τ} {o : Op} {k : Ans o → Prog Op Ans ω} (governs : Governs W retires G)
    (secured : Secured W retires c) (at_i : c.threads[i]? = some ⟨t, .call o k⟩)
    (not : ¬ Retired retires c i) : W.safe t o c.store :=
  (secured.threads i _ at_i not c.store (governs.refl t o c.store) secured.store).1

/-- The step lemma of the rely–guarantee rule. -/
lemma Governs.secured_step {l : S.Label} (governs : Governs W retires G)
    (secured : Secured W retires c) (guard : G c l) (st : S.Step c l c') :
    Secured W retires c' := by
  have retired_of : ∀ i, ¬ Retired retires c' i → ¬ Retired retires c i :=
    fun i not retired => not (retired.step st)
  cases st with
  | @act i tag o k ch at_i =>
    obtain ⟨active, allowed⟩ := governs.allowed guard at_i
    have safe := secured.safe governs at_i active
    refine ⟨governs.keeps secured.store safe allowed, ?_⟩
    intro j t at_j not
    rcases getElem?_of_set at_j with ⟨rfl, rfl⟩ | ⟨e, at_j⟩
    · -- the actor goes on from the answer it got
      exact (secured.threads i _ at_i active c.store (governs.refl tag o c.store)
        secured.store).2 ch allowed
    · -- the others are where they were, and rely on what happened
      have before := secured.threads j t at_j (retired_of j not)
      obtain ⟨tag', prog'⟩ := t
      cases prog' with
      | ret a => trivial
      | call o' k' =>
        intro s₁ rely inv
        have interference := governs.frame guard secured.store at_i safe e at_j (retired_of j not)
        exact before s₁ (governs.trans interference rely) inv
  | @spawn tag adm =>
    refine ⟨secured.store, ?_⟩
    intro j t at_j not
    rcases getElem?_of_snoc at_j with ⟨-, at_j⟩ | ⟨rfl, rfl⟩
    · exact secured.threads j t at_j (retired_of j not)
    · exact governs.start (c := c) guard secured.store adm

/-- The run lemma of the rely–guarantee rule. -/
lemma Governs.secured_reaches (governs : Governs W retires G) (secured : Secured W retires c)
    (run : S.Reaches G c c') : Secured W retires c' := by
  refine run.invariant (P := Secured W retires) ?_ secured
  intro c l c' secured guard st
  exact governs.secured_step secured guard st

end Runs
end Interleaving
