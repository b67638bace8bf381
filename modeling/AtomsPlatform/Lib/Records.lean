import AtomsPlatform.Lib.Accounts

/-!
# What is recorded of a history

What the store and the accounts of threads say of the history so far: a row that somebody wrote, a time that
a thread has read. It stays true when the history goes on, so a step has to be looked at only for what it
writes, and for the account of its own thread (`Traced.records`).
-/

namespace Interleaving
namespace System
variable {Op : Type} {Ans : Op → Type} {σ τ ω X : Type} {S : System Op Ans σ τ ω}
  {G : Config Op Ans σ τ ω → S.Label → Prop} {c₀ c : Config Op Ans σ τ ω}
  {h : List (Config Op Ans σ τ ω × S.Label)} {book : S.Booking X} {x₀ : X} {Φ : X → Op → Prop}
  {R : X → σ → Prop} {Q : τ → ω → X → Prop}

/-- What the store and the account of a thread record of a history. -/
structure Recording (S : System Op Ans σ τ ω) (G : Config Op Ans σ τ ω → S.Label → Prop) (book : S.Booking X)
    (Φ : X → Op → Prop) (R : X → σ → Prop) (x₀ : X) (s₀ : σ)
    (P : List (Config Op Ans σ τ ω × S.Label) → σ → Prop)
    (K : Nat → List (Config Op Ans σ τ ω × S.Label) → X → Prop) : Prop where
  store : P [] s₀
  account : ∀ i, K i [] x₀
  laterStore : ∀ h entry s, P h s → P (h ++ [entry]) s
  laterAccount : ∀ i h entry x, K i h x → K i (h ++ [entry]) x
  act : ∀ h c i o ch x, G c (.act i o ch) → Φ x o → R x c.store → P h c.store → K i h x →
    P (h ++ [(c, .act i o ch)]) (S.perform o ch c.store).2 ∧
      K i (h ++ [(c, .act i o ch)]) (book o ch c.store x)

/-- What is recorded is true of the history of every run. -/
theorem Traced.records {P : List (Config Op Ans σ τ ω × S.Label) → σ → Prop}
    {K : Nat → List (Config Op Ans σ τ ω × S.Label) → X → Prop} (traced : S.Traced G c₀ h c)
    (start : c₀.threads = []) (relied : S.Relied book Φ R x₀ c₀.store)
    (bodies : ∀ tag, (S.body tag).Satisfies (S.accounted book Φ R) (Q tag) x₀)
    (recording : S.Recording G book Φ R x₀ c₀.store P K) :
    P h c.store ∧ ∀ i, K i h (account book x₀ i h) := by
  induction traced with
  | nil => exact ⟨recording.store, recording.account⟩
  | @snoc h c l c' traced guard step ih =>
    obtain ⟨store, known⟩ := ih
    cases step with
    | @act j tag o k ch at_j =>
      obtain ⟨relies, -, judged⟩ := traced.accounts start relied bodies
      obtain ⟨store', own⟩ :=
        recording.act h c j o ch _ guard (judged j _ at_j).1 (relies j) store (known j)
      refine ⟨store', fun i => ?_⟩
      by_cases same : j = i
      · subst same
        rw [account_act]
        exact own
      · rw [account_act_ne same]
        exact recording.laterAccount i h _ _ (known i)
    | @spawn tag adm =>
      refine ⟨recording.laterStore h _ _ store, fun i => ?_⟩
      rw [account_spawn]
      exact recording.laterAccount i h _ _ (known i)

end System
end Interleaving
