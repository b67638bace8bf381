import Mathlib.Data.List.Basic

/-!
# Version counters

A machine whose states carry a counter that never goes down. When entering a set of states always
raises the counter, the set is entered at most once for each value of the counter: what makes the
counter a fencing token.
-/

namespace Versions
variable {σ ι : Type} (step : σ → ι → σ) (version : σ → Nat) (p : σ → Bool)

/-- The versions at which a run enters `p`, in the order in which it does. -/
def entries : σ → List ι → List Nat
  | _, [] => []
  | s, i :: is =>
    if p s = false ∧ p (step s i) = true then version (step s i) :: entries (step s i) is
    else entries (step s i) is

/-- Every step from a state of the invariant keeps the invariant, never lowers the version, and
    raises it when it enters `p`. -/
structure Fences (I : σ → Prop) : Prop where
  keeps : ∀ s i, I s → I (step s i)
  monotone : ∀ s i, I s → version s ≤ version (step s i)
  enters : ∀ s i, I s → p s = false → p (step s i) = true → version s < version (step s i)

variable {step version p} {I : σ → Prop} {s : σ} {is : List ι}

/-- The invariant holds after a run. -/
lemma Fences.keeps_run (fences : Fences step version p I) (inv : I s) (is : List ι) :
    I (is.foldl step s) := by
  induction is generalizing s with
  | nil => exact inv
  | cons i is ih => exact ih (fences.keeps s i inv)

/-- Every version at which a run enters `p` is greater than the one it starts at. -/
lemma Fences.lt_of_mem_entries (fences : Fences step version p I) (inv : I s) {v : Nat}
    (mem : v ∈ entries step version p s is) : version s < v := by
  induction is generalizing s with
  | nil => cases mem
  | cons i is ih =>
    have later (mem : v ∈ entries step version p (step s i) is) : version s < v :=
      Nat.lt_of_le_of_lt (fences.monotone s i inv) (ih (fences.keeps s i inv) mem)
    simp only [entries] at mem
    split at mem
    · rename_i enters
      obtain rfl | mem := List.mem_cons.mp mem
      · exact fences.enters s i inv enters.1 enters.2
      · exact later mem
    · exact later mem

/-- The versions at which a run enters `p` increase. -/
lemma Fences.entries_sorted (fences : Fences step version p I) (inv : I s) :
    (entries step version p s is).Pairwise (· < ·) := by
  induction is generalizing s with
  | nil => exact .nil
  | cons i is ih =>
    have inv' := fences.keeps s i inv
    simp only [entries]
    split
    · refine .cons ?_ (ih inv')
      exact fun v mem => fences.lt_of_mem_entries inv' mem
    · exact ih inv'

/-- A run enters `p` at most once for each version. -/
lemma Fences.entries_nodup (fences : Fences step version p I) (inv : I s) :
    (entries step version p s is).Nodup :=
  (fences.entries_sorted inv).imp fun lt => Nat.ne_of_lt lt

end Versions
