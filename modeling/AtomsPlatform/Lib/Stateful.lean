import Mathlib.Logic.Basic

/-!
# Programs with a state and errors

Programs that read and write a state and may fail; what was written before a failure stays written.
`exec` runs a program, and there is one lemma about it for each construct.
-/

/-- Programs over a state `σ` that may fail with an error of type `ε`. -/
abbrev Stateful (ε σ α : Type) : Type :=
  ExceptT ε (StateM σ) α

namespace Stateful
variable {ε σ α β : Type} {s : σ}

/-- The outcome of a program, and the state after it. -/
def exec (p : Stateful ε σ α) (s : σ) : Except ε α × σ :=
  p.run.run s

/-- A computation without a state. -/
def stateless (r : Except ε α) : Stateful ε σ α :=
  ExceptT.mk (pure r)

/-- A transition of the state. -/
def transition (f : σ → α × σ) : Stateful ε σ α :=
  ExceptT.mk fun s => (.ok (f s).1, (f s).2)

@[simp]
lemma exec_pure {a : α} : exec (pure a : Stateful ε σ α) s = (.ok a, s) :=
  rfl

@[simp]
lemma exec_throw {e : ε} : exec (throw e : Stateful ε σ α) s = (.error e, s) :=
  rfl

@[simp]
lemma exec_stateless {r : Except ε α} : exec (stateless r : Stateful ε σ α) s = (r, s) :=
  rfl

@[simp]
lemma exec_transition {f : σ → α × σ} : exec (transition f : Stateful ε σ α) s = (.ok (f s).1, (f s).2) :=
  rfl

/-- A failure ends a sequence, in the state it happened in. -/
lemma exec_bind {p : Stateful ε σ α} {f : α → Stateful ε σ β} :
    exec (p >>= f) s =
      match exec p s with
      | (.ok a, s') => exec (f a) s'
      | (.error e, s') => (.error e, s') := by
  have unfolded : exec (p >>= f) s = (ExceptT.bindCont f (exec p s).1).run (exec p s).2 := rfl
  rw [unfolded]
  obtain ⟨r, s'⟩ := exec p s
  cases r with
  | ok a => rfl
  | error e => rfl

lemma exec_bind_ok {p : Stateful ε σ α} {f : α → Stateful ε σ β} {a : α} {s' : σ}
    (first : exec p s = (.ok a, s')) : exec (p >>= f) s = exec (f a) s' := by
  rw [exec_bind, first]

lemma exec_bind_error {p : Stateful ε σ α} {f : α → Stateful ε σ β} {e : ε} {s' : σ}
    (first : exec p s = (.error e, s')) : exec (p >>= f) s = (.error e, s') := by
  rw [exec_bind, first]

lemma exec_stateless_ok {r : Except ε α} {f : α → Stateful ε σ β} {a : α} (ok : r = .ok a) :
    exec (stateless r >>= f) s = exec (f a) s := by
  rw [ok, exec_bind_ok exec_stateless]

lemma exec_stateless_error {r : Except ε α} {f : α → Stateful ε σ β} {e : ε} (error : r = .error e) :
    exec (stateless r >>= f) s = (.error e, s) := by
  rw [error, exec_bind_error exec_stateless]

/-- What follows the body of a program with a handler. -/
def handled {m : Type → Type} [Monad m] (h : ε → ExceptT ε m α) : Except ε α → m (Except ε α)
  | .ok a => pure (.ok a)
  | .error e => (h e).run

/-- A handler starts in the state of the failure. -/
lemma exec_tryCatch {p : Stateful ε σ α} {h : ε → Stateful ε σ α} :
    exec (tryCatch p h) s =
      match exec p s with
      | (.ok a, s') => (.ok a, s')
      | (.error e, s') => exec (h e) s' := by
  have unfolded : exec (tryCatch p h) s = (handled h (exec p s).1).run (exec p s).2 := rfl
  rw [unfolded]
  obtain ⟨r, s'⟩ := exec p s
  cases r with
  | ok a => rfl
  | error e => rfl

lemma exec_tryCatch_ok {p : Stateful ε σ α} {h : ε → Stateful ε σ α} {a : α} {s' : σ}
    (body : exec p s = (.ok a, s')) : exec (tryCatch p h) s = (.ok a, s') := by
  rw [exec_tryCatch, body]

lemma exec_tryCatch_error {p : Stateful ε σ α} {h : ε → Stateful ε σ α} {e : ε} {s' : σ}
    (body : exec p s = (.error e, s')) : exec (tryCatch p h) s = exec (h e) s' := by
  rw [exec_tryCatch, body]

end Stateful
