import AtomsPlatform.Lib.Trace

/-!
# Observers

A system that goes on by itself, and threads beside it that look at its store (`System.beside`). An observer
may have been verified in a smaller system, where everything else is one kind of call: where every call of
the system that goes on looks like one of these (`Observes`), all that observers ever see is a run of the
smaller system (`Traced.observed`).
-/

namespace Interleaving
variable {Op₁ Op₂ : Type} {Ans₁ : Op₁ → Type} {Ans₂ : Op₂ → Type} {ω₁ ω₂ σ τ μ T₁ T₂ : Type}

/-- The answers of the calls of two systems. -/
@[reducible]
def BothAnswers (Ans₁ : Op₁ → Type) (Ans₂ : Op₂ → Type) : Op₁ ⊕ Op₂ → Type
  | .inl o => Ans₁ o
  | .inr o => Ans₂ o

namespace Prog

/-- A program of the first system. -/
def left : Prog Op₁ Ans₁ ω₁ → Prog (Op₁ ⊕ Op₂) (BothAnswers Ans₁ Ans₂) (ω₁ ⊕ ω₂)
  | .ret r => .ret (.inl r)
  | .call o k => .call (.inl o) fun a => left (k a)

/-- A program of the second system. -/
def right : Prog Op₂ Ans₂ ω₂ → Prog (Op₁ ⊕ Op₂) (BothAnswers Ans₁ Ans₂) (ω₁ ⊕ ω₂)
  | .ret r => .ret (.inr r)
  | .call o k => .call (.inr o) fun a => right (k a)

lemma eq_ret_of_right {q : Prog Op₂ Ans₂ ω₂} {r : ω₂}
    (is : (q.right : Prog (Op₁ ⊕ Op₂) (BothAnswers Ans₁ Ans₂) (ω₁ ⊕ ω₂)) = .ret (.inr r)) : q = .ret r := by
  cases q with
  | ret r' =>
    cases is
    rfl
  | call o k => cases is

end Prog

namespace System

/-- A system and observers of its store. They also have a store of their own, which the system does not
    change. -/
def beside (E : System Op₁ Ans₁ σ T₁ ω₁) (B : System Op₂ Ans₂ τ T₂ ω₂) (view : σ → μ → τ)
    (observe : (o : Op₂) → B.Choice → σ → μ → Ans₂ o × μ) :
    System (Op₁ ⊕ Op₂) (BothAnswers Ans₁ Ans₂) (σ × μ) (T₁ ⊕ T₂) (ω₁ ⊕ ω₂) where
  Choice := E.Choice × B.Choice
  perform
    | .inl o, ch, s => ((E.perform o ch.1 s.1).1, ((E.perform o ch.1 s.1).2, s.2))
    | .inr o, ch, s => ((observe o ch.2 s.1 s.2).1, (s.1, (observe o ch.2 s.1 s.2).2))
  body
    | .inl tag => (E.body tag).left
    | .inr tag => (B.body tag).right
  admits s
    | .inl tag => E.admits s.1 tag
    | .inr tag => B.admits (view s.1 s.2) tag

variable {E : System Op₁ Ans₁ σ T₁ ω₁} {B : System Op₂ Ans₂ τ T₂ ω₂} {view : σ → μ → τ}
  {observe : (o : Op₂) → B.Choice → σ → μ → Ans₂ o × μ} {I : σ → Prop}

/-- Observers see a run of their own system: what they ask is answered as there, and a call of the system
    that goes on looks like the only call of a thread that may be started there. -/
structure Observes (E : System Op₁ Ans₁ σ T₁ ω₁) (B : System Op₂ Ans₂ τ T₂ ω₂) (view : σ → μ → τ)
    (observe : (o : Op₂) → B.Choice → σ → μ → Ans₂ o × μ) (I : σ → Prop) : Prop where
  answers : ∀ o ch s m, I s → ∃ ch', B.perform o ch' (view s m) =
    ((observe o ch s m).1, view s (observe o ch s m).2)
  invariant : ∀ o ch s, I s → I (E.perform o ch s).2
  moves : ∀ o ch s m, I s → ∃ tag o' k ch', B.admits (view s m) tag ∧ B.body tag = .call o' k ∧
    (B.perform o' ch' (view s m)).2 = view (E.perform o ch s).2 m

/-- Configurations of a system and its observers. -/
abbrev BesideConfig (Ans₁ : Op₁ → Type) (Ans₂ : Op₂ → Type) (σ μ T₁ T₂ ω₁ ω₂ : Type) : Type :=
  Config (Op₁ ⊕ Op₂) (BothAnswers Ans₁ Ans₂) (σ × μ) (T₁ ⊕ T₂) (ω₁ ⊕ ω₂)

variable {c c' : BesideConfig Ans₁ Ans₂ σ μ T₁ T₂ ω₁ ω₂} {d : Config Op₂ Ans₂ τ T₂ ω₂} {place : Nat → Nat}

/-- A thread is an observer. -/
def IsObserver (c : BesideConfig Ans₁ Ans₂ σ μ T₁ T₂ ω₁ ω₂) (i : Nat) : Prop :=
  ∃ tag p, c.threads[i]? = some ⟨.inr tag, p⟩

/-- Where the observers are in their own system, in which they are the same threads. -/
structure Placed (place : Nat → Nat) (c : BesideConfig Ans₁ Ans₂ σ μ T₁ T₂ ω₁ ω₂)
    (d : Config Op₂ Ans₂ τ T₂ ω₂) : Prop where
  apart : ∀ i j, IsObserver c i → IsObserver c j → place i = place j → i = j
  systems : ∀ (i : Nat) tag p, c.threads[i]? = some ⟨.inl tag, p⟩ → ∃ q : Prog Op₁ Ans₁ ω₁, p = q.left
  observers : ∀ (i : Nat) tag p, c.threads[i]? = some ⟨.inr tag, p⟩ →
    ∃ q : Prog Op₂ Ans₂ ω₂, p = q.right ∧ d.threads[place i]? = some ⟨tag, q⟩

lemma Placed.lt {i : Nat} (placed : Placed place c d) (observer : IsObserver c i) :
    place i < d.threads.length := by
  obtain ⟨tag, p, at_i⟩ := observer
  obtain ⟨q, -, here⟩ := placed.observers i tag p at_i
  exact (List.getElem?_eq_some_iff.mp here).1

/-- A thread of the system may go on, and a thread be added on the other side. -/
lemma Placed.system {j : Nat} {tag : T₁} {q : Prog Op₁ Ans₁ ω₁} {s : σ × μ} {t : τ}
    {added : Thread Op₂ Ans₂ T₂ ω₂} (placed : Placed place c d) :
    Placed place (⟨s, c.threads.set j ⟨.inl tag, q.left⟩⟩ : BesideConfig Ans₁ Ans₂ σ μ T₁ T₂ ω₁ ω₂)
      ⟨t, d.threads ++ [added]⟩ := by
  have other {i : Nat} {tag' : T₂} {p : Prog (Op₁ ⊕ Op₂) (BothAnswers Ans₁ Ans₂) (ω₁ ⊕ ω₂)}
      (at_i : (c.threads.set j ⟨.inl tag, q.left⟩)[i]? = some ⟨.inr tag', p⟩) :
      c.threads[i]? = some ⟨.inr tag', p⟩ := by
    rcases getElem?_of_set at_i with ⟨-, is⟩ | ⟨-, at_i⟩
    · cases is
    · exact at_i
  have observer {i : Nat} (is : IsObserver (⟨s, c.threads.set j ⟨.inl tag, q.left⟩⟩ :
      BesideConfig Ans₁ Ans₂ σ μ T₁ T₂ ω₁ ω₂) i) : IsObserver c i := by
    obtain ⟨tag', p, at_i⟩ := is
    exact ⟨tag', p, other at_i⟩
  refine ⟨fun i i' is is' => placed.apart i i' (observer is) (observer is'), fun i tag' p at_i => ?_,
    fun i tag' p at_i => ?_⟩
  · rcases getElem?_of_set at_i with ⟨-, is⟩ | ⟨-, at_i⟩
    · cases is
      exact ⟨q, rfl⟩
    · exact placed.systems i tag' p at_i
  · obtain ⟨q', is, here⟩ := placed.observers i tag' p (other at_i)
    exact ⟨q', is, by rw [List.getElem?_append_left (List.getElem?_eq_some_iff.mp here).1]; exact here⟩

/-- An observer goes on. -/
lemma Placed.observer {j : Nat} {tag : T₂} {q : Prog Op₂ Ans₂ ω₂} {s : σ × μ} {t : τ}
    {p₀ : Prog (Op₁ ⊕ Op₂) (BothAnswers Ans₁ Ans₂) (ω₁ ⊕ ω₂)} (placed : Placed place c d)
    (at_j : c.threads[j]? = some ⟨.inr tag, p₀⟩) :
    Placed place (⟨s, c.threads.set j ⟨.inr tag, q.right⟩⟩ : BesideConfig Ans₁ Ans₂ σ μ T₁ T₂ ω₁ ω₂)
      ⟨t, d.threads.set (place j) ⟨tag, q⟩⟩ := by
  have observes : IsObserver c j := ⟨tag, p₀, at_j⟩
  have observer {i : Nat} (is : IsObserver (⟨s, c.threads.set j ⟨.inr tag, q.right⟩⟩ :
      BesideConfig Ans₁ Ans₂ σ μ T₁ T₂ ω₁ ω₂) i) : IsObserver c i := by
    obtain ⟨tag', p, at_i⟩ := is
    rcases getElem?_of_set at_i with ⟨rfl, -⟩ | ⟨-, at_i⟩
    · exact observes
    · exact ⟨tag', p, at_i⟩
  refine ⟨fun i i' is is' => placed.apart i i' (observer is) (observer is'), fun i tag' p at_i => ?_,
    fun i tag' p at_i => ?_⟩
  · rcases getElem?_of_set at_i with ⟨-, is⟩ | ⟨-, at_i⟩
    · cases is
    · exact placed.systems i tag' p at_i
  · rcases getElem?_of_set at_i with ⟨rfl, is⟩ | ⟨same, at_i⟩
    · cases is
      exact ⟨q, rfl, List.getElem?_set_self (placed.lt observes)⟩
    · obtain ⟨q', is, here⟩ := placed.observers i tag' p at_i
      have ne : place j ≠ place i := fun is => same (placed.apart j i observes ⟨tag', p, at_i⟩ is)
      exact ⟨q', is, by rw [List.getElem?_set_ne ne]; exact here⟩

/-- A thread of the system is started. -/
lemma Placed.startSystem {tag : T₁} {q : Prog Op₁ Ans₁ ω₁} (placed : Placed place c d) :
    Placed place (⟨c.store, c.threads ++ [⟨.inl tag, q.left⟩]⟩ : BesideConfig Ans₁ Ans₂ σ μ T₁ T₂ ω₁ ω₂) d := by
  have other {i : Nat} {tag' : T₂} {p : Prog (Op₁ ⊕ Op₂) (BothAnswers Ans₁ Ans₂) (ω₁ ⊕ ω₂)}
      (at_i : (c.threads ++ [⟨.inl tag, q.left⟩])[i]? = some ⟨.inr tag', p⟩) :
      c.threads[i]? = some ⟨.inr tag', p⟩ := by
    rcases getElem?_of_snoc at_i with ⟨-, old⟩ | ⟨-, new⟩
    · exact old
    · cases new
  refine ⟨fun i i' is is' => ?_, fun i tag' p at_i => ?_, fun i tag' p at_i => placed.observers i tag' p (other at_i)⟩
  · obtain ⟨tag', p, at_i⟩ := is
    obtain ⟨tag'', p', at_i'⟩ := is'
    exact placed.apart i i' ⟨tag', p, other at_i⟩ ⟨tag'', p', other at_i'⟩
  · rcases getElem?_of_snoc at_i with ⟨-, old⟩ | ⟨-, new⟩
    · exact placed.systems i tag' p old
    · cases new
      exact ⟨q, rfl⟩

/-- An observer is started, on both sides. -/
lemma Placed.startObserver {tag : T₂} {q : Prog Op₂ Ans₂ ω₂} (placed : Placed place c d) :
    Placed (Function.update place c.threads.length d.threads.length)
      (⟨c.store, c.threads ++ [⟨.inr tag, q.right⟩]⟩ : BesideConfig Ans₁ Ans₂ σ μ T₁ T₂ ω₁ ω₂)
      ⟨d.store, d.threads ++ [⟨tag, q⟩]⟩ := by
  have old_place {i : Nat} (lt : i < c.threads.length) :
      Function.update place c.threads.length d.threads.length i = place i :=
    Function.update_of_ne (Nat.ne_of_lt lt) _ _
  have new_place : Function.update place c.threads.length d.threads.length c.threads.length = d.threads.length :=
    Function.update_self ..
  refine ⟨fun i i' is is' => ?_, fun i tag' p at_i => ?_, fun i tag' p at_i => ?_⟩
  · obtain ⟨tag', p, at_i⟩ := is
    obtain ⟨tag'', p', at_i'⟩ := is'
    rcases getElem?_of_snoc at_i with ⟨lt, old⟩ | ⟨rfl, -⟩
    · rcases getElem?_of_snoc at_i' with ⟨lt', old'⟩ | ⟨rfl, -⟩
      · rw [old_place lt, old_place lt']
        exact placed.apart i i' ⟨tag', p, old⟩ ⟨tag'', p', old'⟩
      · rw [old_place lt, new_place]
        have within := placed.lt ⟨tag', p, old⟩
        exact fun same => absurd same (Nat.ne_of_lt within)
    · rcases getElem?_of_snoc at_i' with ⟨lt', old'⟩ | ⟨rfl, -⟩
      · rw [old_place lt', new_place]
        have within := placed.lt ⟨tag'', p', old'⟩
        exact fun same => absurd same.symm (Nat.ne_of_lt within)
      · exact fun _ => rfl
  · rcases getElem?_of_snoc at_i with ⟨-, old⟩ | ⟨-, new⟩
    · exact placed.systems i tag' p old
    · cases new
  · rcases getElem?_of_snoc at_i with ⟨lt, old⟩ | ⟨rfl, new⟩
    · obtain ⟨q', is, here⟩ := placed.observers i tag' p old
      rw [old_place lt]
      exact ⟨q', is, by rw [List.getElem?_append_left (List.getElem?_eq_some_iff.mp here).1]; exact here⟩
    · cases new
      rw [new_place]
      exact ⟨q, rfl, List.getElem?_concat_length⟩

/-- What observers see of a run, in their own system. -/
structure Seen (view : σ → μ → τ) (c : BesideConfig Ans₁ Ans₂ σ μ T₁ T₂ ω₁ ω₂)
    (d : Config Op₂ Ans₂ τ T₂ ω₂) : Prop where
  store : d.store = view c.store.1 c.store.2
  placed : ∃ place, Placed place c d

/-- One step is seen as two steps at most. -/
lemma Seen.step (observes : Observes E B view observe I) (seen : Seen view c d) (inv : I c.store.1)
    {l : (E.beside B view observe).Label} (step : (E.beside B view observe).Step c l c')
    {d₀ : Config Op₂ Ans₂ τ T₂ ω₂} {h : List (Config Op₂ Ans₂ τ T₂ ω₂ × B.Label)}
    (traced : B.Traced B.Unguarded d₀ h d) :
    I c'.store.1 ∧ ∃ h' d', B.Traced B.Unguarded d₀ h' d' ∧ Seen view c' d' := by
  obtain ⟨place, placed⟩ := seen.placed
  cases step with
  | @act i tag o k ch at_i =>
    cases tag with
    | inl tag =>
      obtain ⟨q, is⟩ := placed.systems i tag _ at_i
      cases q with
      | ret r => cases is
      | call o₁ k₁ =>
        cases is
        refine ⟨observes.invariant o₁ ch.1 _ inv, ?_⟩
        obtain ⟨tag', o', k', ch', admits, body, result⟩ := observes.moves o₁ ch.1 c.store.1 c.store.2 inv
        rw [← seen.store] at admits result
        have started := traced.snoc trivial (Step.spawn admits)
        have at_last : (d.threads ++ [⟨tag', B.body tag'⟩])[d.threads.length]? = some ⟨tag', .call o' k'⟩ := by
          rw [List.getElem?_concat_length, body]
        refine ⟨_, _, started.snoc trivial (Step.act ch' at_last), result, place, ?_⟩
        rw [List.set_append_right _ _ (Nat.le_refl _), Nat.sub_self]
        exact placed.system
    | inr tag =>
      obtain ⟨q, is, here⟩ := placed.observers i tag _ at_i
      cases q with
      | ret r => cases is
      | call o₂ k₂ =>
        cases is
        refine ⟨inv, ?_⟩
        obtain ⟨ch', answered⟩ := observes.answers o₂ ch.2 c.store.1 c.store.2 inv
        rw [← seen.store] at answered
        refine ⟨_, _, traced.snoc trivial (Step.act ch' here), ?_, place, ?_⟩
        · show (B.perform o₂ ch' d.store).2 = _
          rw [answered]
          rfl
        · rw [answered]
          exact placed.observer at_i
  | @spawn tag admits =>
    refine ⟨inv, ?_⟩
    cases tag with
    | inl tag => exact ⟨h, d, traced, seen.store, place, placed.startSystem⟩
    | inr tag =>
      have admits : B.admits (view c.store.1 c.store.2) tag := admits
      rw [← seen.store] at admits
      exact ⟨_, _, traced.snoc trivial (Step.spawn admits), seen.store, _, placed.startObserver⟩

/-- What observers see of a run of the system is a run of their own. -/
theorem Traced.observed (observes : Observes E B view observe I) {s : σ} {m : μ} (inv : I s)
    {h : List (BesideConfig Ans₁ Ans₂ σ μ T₁ T₂ ω₁ ω₂ × (E.beside B view observe).Label)}
    (traced : (E.beside B view observe).Traced (E.beside B view observe).Unguarded ⟨(s, m), []⟩ h c) :
    I c.store.1 ∧ ∃ h' d, B.Traced B.Unguarded ⟨view s m, []⟩ h' d ∧ Seen view c d := by
  induction traced with
  | nil => exact ⟨inv, [], _, .nil, rfl, id, nofun, nofun, nofun⟩
  | snoc traced guard step ih =>
    obtain ⟨inv', h', d, traced', seen⟩ := ih
    exact seen.step observes inv' step traced'

end System
end Interleaving
