import AtomsPlatform.Lib.Program

/-!
# Judgements on programs

A judgement says what one call asks for and what it leads to: a predicate transformer for single
calls over some state, which may be the store, the calls made so far, or anything else that a program
is judged by. `Prog.Satisfies` extends it to whole programs, and fallible programs have Hoare triples
(`Triple`) with one rule for each construct.
-/

namespace Interleaving
variable {Op : Type} {Ans : Op → Type} {X : Type} {α β : Type}

/-- What a call asks of a state, given what is asked of its answer and of the state after it. -/
structure Judgement (Op : Type) (Ans : Op → Type) (X : Type) where
  call : (o : Op) → (Ans o → X → Prop) → X → Prop
  mono : ∀ {o} {K K' : Ans o → X → Prop} {x}, (∀ r x, K r x → K' r x) → call o K x → call o K' x

namespace Prog
variable {J : Judgement Op Ans X}

/-- All calls of the program are as the judgement asks, and the result and the state in the end
    satisfy `Q`. -/
def Satisfies (J : Judgement Op Ans X) : Prog Op Ans α → (α → X → Prop) → X → Prop
  | .ret a, Q => Q a
  | .call o k, Q => J.call o fun r => (k r).Satisfies J Q

lemma Satisfies.mono {p : Prog Op Ans α} {Q Q' : α → X → Prop} {x : X} (sat : p.Satisfies J Q x)
    (imp : ∀ a x, Q a x → Q' a x) : p.Satisfies J Q' x := by
  induction p generalizing x with
  | ret a => exact imp a x sat
  | call o k ih => exact J.mono (fun r x rest => ih r rest) sat

lemma Satisfies.bind {p : Prog Op Ans α} {f : α → Prog Op Ans β} {Q : β → X → Prop} {x : X}
    (sat : p.Satisfies J (fun a => (f a).Satisfies J Q) x) : (p.bind f).Satisfies J Q x := by
  induction p generalizing x with
  | ret a => exact sat
  | call o k ih => exact J.mono (fun r x rest => ih r rest) sat

end Prog

section Triples
variable {Res : Op → Type} {ε : Type} {J : Judgement Op (fun o => Except ε (Res o)) X}
  {P : X → Prop} {Q : α → X → Prop} {E : ε → X → Prop}

/-- A Hoare triple for a fallible program, with one postcondition for results and one for errors. -/
def Triple (J : Judgement Op (fun o => Except ε (Res o)) X) (P : X → Prop)
    (p : Fallible Op Res ε α) (Q : α → X → Prop) (E : ε → X → Prop) : Prop :=
  ∀ x, P x → Prog.Satisfies J p.run (fun r x => Outcome (fun a => Q a x) (fun e => E e x) r) x

namespace Triple

lemma pure {a : α} (holds : ∀ x, P x → Q a x) : Triple J P (pure a) Q E :=
  holds

lemma throw {e : ε} (holds : ∀ x, P x → E e x) :
    Triple J P (throw e : Fallible Op Res ε α) Q E :=
  holds

/-- The rule of consequence. -/
lemma mono {p : Fallible Op Res ε α} {P' : X → Prop} {Q' : α → X → Prop} {E' : ε → X → Prop}
    (triple : Triple J P p Q E) (pre : ∀ x, P' x → P x) (onOk : ∀ a x, Q a x → Q' a x)
    (onError : ∀ e x, E e x → E' e x) : Triple J P' p Q' E' := by
  intro x holds
  refine (triple x (pre x holds)).mono ?_
  intro r x holds
  cases r with
  | ok a => exact onOk a x holds
  | error e => exact onError e x holds

/-- What the precondition says beyond the state may be taken out of it. -/
lemma extract {p : Fallible Op Res ε α} {φ : Prop} (known : ∀ x, P x → φ)
    (triple : φ → Triple J P p Q E) : Triple J P p Q E :=
  fun x holds => triple (known x holds) x holds

/-- The rule of sequencing: an error of the first part is an error of the whole. -/
lemma bind {p : Fallible Op Res ε α} {f : α → Fallible Op Res ε β} {R : α → X → Prop}
    {Q : β → X → Prop} (first : Triple J P p R E) (next : ∀ a, Triple J (R a) (f a) Q E) :
    Triple J P (p >>= f) Q E := by
  intro x holds
  refine Prog.Satisfies.bind ((first x holds).mono ?_)
  intro r x holds
  cases r with
  | ok a => exact next a x holds
  | error e => exact holds

/-- The rule of `try … catch`. -/
lemma tryCatch {p : Fallible Op Res ε α} {h : ε → Fallible Op Res ε α} {R : ε → X → Prop}
    (body : Triple J P p Q R) (handler : ∀ e, Triple J (R e) (h e) Q E) :
    Triple J P (tryCatch p h) Q E := by
  intro x holds
  refine Prog.Satisfies.bind ((body x holds).mono ?_)
  intro r x holds
  cases r with
  | ok a => exact holds
  | error e => exact handler e x holds

/-- The rule of calls. -/
lemma invoke {o : Op} {Q : Res o → X → Prop}
    (call : ∀ x, P x → J.call o (fun r x => Outcome (fun a => Q a x) (fun e => E e x) r) x) :
    Triple J P (invoke o) Q E :=
  call

/-- A property of programs that the judgement's rule of calls turns into `Satisfies` on the states of
    an assertion, for programs that keep a contract. -/
lemma of_fulfils {κ : Contract Op fun o => Except ε (Res o)} {p : Fallible Op Res ε α}
    {Q : α → Prop} {E : ε → Prop} (fulfils : Fulfils κ p Q E)
    (call : ∀ {o x} {K : Except ε (Res o) → X → Prop}, κ.requires o → P x →
      (∀ r x, κ.ensures o r → P x → K r x) → J.call o K x) :
    Triple J P p (fun a x => Q a ∧ P x) fun e x => E e ∧ P x := by
  have main : ∀ (q : Prog Op (fun o => Except ε (Res o)) (Except ε α)) (x : X),
      q.Meets κ (Outcome Q E) → P x →
      q.Satisfies J (fun r x => Outcome (fun a => Q a ∧ P x) (fun e => E e ∧ P x) r) x := by
    intro q
    induction q with
    | ret r =>
      intro x meets holds
      cases r with
      | ok a => exact ⟨meets, holds⟩
      | error e => exact ⟨meets, holds⟩
    | call o k ih =>
      intro x meets holds
      exact call meets.1 holds fun r x ens holds => ih r x (meets.2 r ens) holds
  exact fun x holds => main p.run x fulfils holds

end Triple
end Triples
end Interleaving
