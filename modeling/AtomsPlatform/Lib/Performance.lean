import AtomsPlatform.Lib.Mutable

/-!
# Programs carried out alone

A program whose calls are answered from one state, while nothing else acts on it. The environment makes
one choice for each call; what a program ends with, whatever is chosen, follows from a triple in the
judgement `performing`.
-/

namespace Interleaving
variable {Op : Type} {Ans : Op → Type} {χ σ α : Type}

/-- The judgement by the state, whatever the environment chooses. -/
def performing (perform : (o : Op) → χ → σ → Ans o × σ) : Judgement Op Ans σ where
  call o K s := ∀ c, K (perform o c s).1 (perform o c s).2
  mono imp call := fun c => imp _ _ (call c)

/-- Carries a program out: its result, and the state after it. The environment chooses `choose n` for the
    call number `n`. -/
def Prog.carryOut (perform : (o : Op) → χ → σ → Ans o × σ) (choose : Nat → χ) :
    Prog Op Ans α → Nat → σ → α × σ
  | .ret a, _, s => (a, s)
  | .call o k, n, s =>
    (k (perform o (choose n) s).1).carryOut perform choose (n + 1) (perform o (choose n) s).2

/-- What holds of all ends of a program holds of the end that it comes to. -/
lemma Prog.Satisfies.carryOut {perform : (o : Op) → χ → σ → Ans o × σ} {p : Prog Op Ans α}
    {Q : α → σ → Prop} {s : σ} (sat : p.Satisfies (performing perform) Q s) (choose : Nat → χ) (n : Nat) :
    Q (p.carryOut perform choose n s).1 (p.carryOut perform choose n s).2 := by
  induction p generalizing n s with
  | ret a => exact sat
  | call o k ih => exact ih _ (sat (choose n)) (n + 1)

namespace Mutable
variable {Res : Op → Type} {ε ν : Type} {perform : (o : Op) → χ → σ → Except ε (Res o) × σ}
  {P : ν → σ → Prop}

/-- The rule of calls: one case for each choice. -/
lemma Triple.performed {o : Op} {Q : Res o → ν → σ → Prop} {E : ε → ν → σ → Prop}
    (call : ∀ v s c, P v s → Outcome (fun a => Q a v (perform o c s).2) (fun e => E e v (perform o c s).2)
      (perform o c s).1) :
    Triple (performing perform) P (Mutable.invoke o) Q E :=
  .invoke fun v s holds c => call v s c holds

/-- A call that changes nothing. -/
lemma Keeps.performed {o : Op} (quiet : ∀ c s, (perform o c s).2 = s) :
    Keeps (performing perform) P (Mutable.invoke o) := by
  refine Triple.performed fun v s c holds => ?_
  rw [quiet c s]
  cases (perform o c s).1 with
  | ok a => exact holds
  | error e => exact holds

end Mutable
end Interleaving
