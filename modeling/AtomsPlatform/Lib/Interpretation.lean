import AtomsPlatform.Lib.Program
import AtomsPlatform.Lib.Stateful

/-!
# Programs carried out on a state

The calls of a fallible program are implemented by programs on a state, and the whole program becomes
one: `interpret` commutes with each construct.
-/

namespace Interleaving
open Stateful
variable {Op : Type} {Res : Op → Type} {ε σ α β : Type}

/-- A program whose calls are carried out. -/
def Prog.interpret (implement : (o : Op) → Stateful ε σ (Res o)) :
    Prog Op (fun o => Except ε (Res o)) α → StateM σ α
  | .ret a => pure a
  | .call o k => fun s => (k (exec (implement o) s).1).interpret implement (exec (implement o) s).2

/-- A fallible program whose calls are carried out. -/
def interpret (implement : (o : Op) → Stateful ε σ (Res o)) (p : Fallible Op Res ε α) :
    Stateful ε σ α :=
  ExceptT.mk (p.run.interpret implement)

variable {implement : (o : Op) → Stateful ε σ (Res o)}

lemma Prog.interpret_bind {p : Prog Op (fun o => Except ε (Res o)) α}
    {f : α → Prog Op (fun o => Except ε (Res o)) β} :
    (p.bind f).interpret implement = p.interpret implement >>= fun a => (f a).interpret implement := by
  induction p with
  | ret a => rfl
  | call o k ih =>
    funext s
    exact congrFun (ih (exec (implement o) s).1) (exec (implement o) s).2

@[simp]
lemma interpret_pure {a : α} : interpret implement (pure a : Fallible Op Res ε α) = pure a :=
  rfl

@[simp]
lemma interpret_throw {e : ε} : interpret implement (throw e : Fallible Op Res ε α) = throw e :=
  rfl

@[simp]
lemma interpret_invoke {o : Op} : interpret implement (invoke o) = implement o := by
  rfl

@[simp]
lemma interpret_ofExcept {r : Except ε α} :
    interpret implement (ofExcept r : Fallible Op Res ε α) = stateless r := by
  cases r with
  | ok a => rfl
  | error e => rfl

@[simp]
lemma interpret_bind {p : Fallible Op Res ε α} {f : α → Fallible Op Res ε β} :
    interpret implement (p >>= f) = interpret implement p >>= fun a => interpret implement (f a) := by
  have next : (fun r => (ExceptT.bindCont f r).interpret implement) =
      ExceptT.bindCont fun a => interpret implement (f a) := by
    funext r
    cases r with
    | ok a => rfl
    | error e => rfl
  have whole : (p.run.bind (ExceptT.bindCont f)).interpret implement = _ :=
    Prog.interpret_bind
  rw [next] at whole
  exact whole

@[simp]
lemma interpret_tryCatch {p : Fallible Op Res ε α} {h : ε → Fallible Op Res ε α} :
    interpret implement (tryCatch p h) =
      tryCatch (interpret implement p) fun e => interpret implement (h e) := by
  have next : (fun r => (handled h r).interpret implement) =
      handled fun e => interpret implement (h e) := by
    funext r
    cases r with
    | ok a => rfl
    | error e => rfl
  have whole : (p.run.bind (handled h)).interpret implement = _ :=
    Prog.interpret_bind
  rw [next] at whole
  exact whole

end Interleaving
