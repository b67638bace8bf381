import Mathlib.Data.List.Forall2

/-!
# Machines that answer alike

Two machines with the same operations, in states that a relation holds between. Where the answers are
alike exactly under a guard on the state before the operation, the answers to a whole sequence of
operations are alike exactly if the guard holds all along.
-/

namespace Simulation
variable {Op Ans Ans' σ τ : Type}

/-- How an operation is answered, and the state after it. -/
abbrev Machine (Op Ans σ : Type) : Type :=
  Op → σ → Ans × σ

/-- The answers to operations one after the other. -/
def answers (M : Machine Op Ans σ) : List Op → σ → List Ans
  | [], _ => []
  | o :: os, s => (M o s).1 :: answers M os (M o s).2

/-- Every operation is made in a state that `P` allows it in. -/
def Along (M : Machine Op Ans σ) (P : Op → σ → Prop) : List Op → σ → Prop
  | [], _ => True
  | o :: os, s => P o s ∧ Along M P os (M o s).2

/-- Related states are answered alike exactly where the guard allows the operation, and lead to
    related states there. -/
structure Simulates (M : Machine Op Ans σ) (N : Machine Op Ans' τ) (V : Op → Prop)
    (R : σ → τ → Prop) (A : Ans → Ans' → Prop) (P : Op → σ → Prop) : Prop where
  alike : ∀ {o s t}, V o → R s t → (A (M o s).1 (N o t).1 ↔ P o s)
  keeps : ∀ {o s t}, V o → R s t → P o s → R (M o s).2 (N o t).2

variable {M : Machine Op Ans σ} {N : Machine Op Ans' τ} {V : Op → Prop} {R : σ → τ → Prop}
  {A : Ans → Ans' → Prop} {P : Op → σ → Prop}

/-- The answers to a sequence are alike exactly if the guard holds all along. -/
theorem Simulates.forall₂_iff (sim : Simulates M N V R A P) {os : List Op}
    (valid : ∀ o ∈ os, V o) {s : σ} {t : τ} (related : R s t) :
    List.Forall₂ A (answers M os s) (answers N os t) ↔ Along M P os s := by
  induction os generalizing s t with
  | nil => exact ⟨fun _ => trivial, fun _ => .nil⟩
  | cons o os ih =>
    have here := valid o List.mem_cons_self
    have later : ∀ o ∈ os, V o := fun o mem => valid o (List.mem_cons_of_mem _ mem)
    rw [answers, answers, List.forall₂_cons, Along, sim.alike here related]
    constructor
    · rintro ⟨allowed, rest⟩
      exact ⟨allowed, (ih later (sim.keeps here related allowed)).mp rest⟩
    · rintro ⟨allowed, rest⟩
      exact ⟨allowed, (ih later (sim.keeps here related allowed)).mpr rest⟩

end Simulation
