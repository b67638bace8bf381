import Mathlib.Logic.Relation
import Mathlib.Data.List.Basic

/-!
# Interleaved programs

Programs that share one store and are interleaved at their calls. A program `Prog Op Ans α` is the
tree of calls it makes on an interface `Op`; a `System` says how the store answers a call (`perform`,
driven by a choice of the environment) and which programs may be started (`admits`, `body`). A
configuration holds the store and the residual programs of everything started so far, so two
executions of the same code, delayed answers and abandoned executions are all just threads.

The proof rule is contract based. A `Contract` states what a program promises about the arguments of
its calls (`requires`) and what it may assume about their answers (`ensures`). `Prog.Meets` checks a
program against a contract without looking at the store, so it is proved once, on the program text.
`Upholds` is the obligation on the store: calls that keep the promises keep the invariant and give
answers as assumed. A thread's contract may depend on what was started (its tag), and contracts come
in a family over `ι` with a set of live indices that only shrinks, which is how a fact that becomes
true during a run ("version 7 is fenced from now on") is expressed.
-/

namespace Interleaving

/-- A program: a result, or a call and what is done with its answer. -/
inductive Prog (Op : Type) (Ans : Op → Type) (α : Type) : Type where
  | ret :
    α → Prog Op Ans α
  | call :
    (o : Op) → (Ans o → Prog Op Ans α) → Prog Op Ans α

/-- What a program promises about its calls and assumes about their answers. -/
structure Contract (Op : Type) (Ans : Op → Type) where
  requires : Op → Prop
  ensures : (o : Op) → Ans o → Prop

namespace Prog
variable {Op : Type} {Ans : Op → Type} {α β : Type}

/-- Sequencing of programs. -/
def bind : Prog Op Ans α → (α → Prog Op Ans β) → Prog Op Ans β
  | .ret a, f => f a
  | .call o k, f => .call o fun r => (k r).bind f

instance : Monad (Prog Op Ans) where
  pure := .ret
  bind := .bind

/-- Every call of the program keeps the contract, and every result satisfies `Q`. -/
def Meets (κ : Contract Op Ans) : Prog Op Ans α → (α → Prop) → Prop
  | .ret a, Q => Q a
  | .call o k, Q => κ.requires o ∧ ∀ r, κ.ensures o r → (k r).Meets κ Q

@[simp]
lemma meets_ret {κ : Contract Op Ans} {a : α} {Q} : (ret a : Prog Op Ans α).Meets κ Q ↔ Q a :=
  Iff.rfl

@[simp]
lemma meets_call {κ : Contract Op Ans} {o : Op} {k : Ans o → Prog Op Ans α} {Q} :
    (call o k).Meets κ Q ↔ κ.requires o ∧ ∀ r, κ.ensures o r → (k r).Meets κ Q :=
  Iff.rfl

/-- A sequence meets a contract if its first part leads to a second part that does. -/
lemma meets_bind {κ : Contract Op Ans} {p : Prog Op Ans α} {f : α → Prog Op Ans β} {Q} :
    (p.bind f).Meets κ Q ↔ p.Meets κ fun a => (f a).Meets κ Q := by
  induction p with
  | ret a => exact Iff.rfl
  | call o k ih =>
    constructor
    · rintro ⟨req, rest⟩
      exact ⟨req, fun r ens => (ih r).mp (rest r ens)⟩
    · rintro ⟨req, rest⟩
      exact ⟨req, fun r ens => (ih r).mpr (rest r ens)⟩

/-- The condition on results may be weakened. -/
lemma Meets.mono {κ : Contract Op Ans} {p : Prog Op Ans α} {Q Q' : α → Prop}
    (meets : p.Meets κ Q) (imp : ∀ a, Q a → Q' a) : p.Meets κ Q' := by
  induction p with
  | ret a => exact imp a meets
  | call o k ih => exact ⟨meets.1, fun r ens => ih r (meets.2 r ens)⟩

/-- A program meets every contract that promises less and assumes more. -/
lemma Meets.weaken {κ κ' : Contract Op Ans} {p : Prog Op Ans α} {Q : α → Prop}
    (meets : p.Meets κ Q) (promise : ∀ o, κ.requires o → κ'.requires o)
    (assume : ∀ o r, κ.requires o → κ'.ensures o r → κ.ensures o r) : p.Meets κ' Q := by
  induction p with
  | ret a => exact meets
  | call o k ih =>
    exact ⟨promise o meets.1, fun r ens => ih r (meets.2 r (assume o r meets.1 ens))⟩

/-- The contract that says nothing, and which every program keeps. -/
lemma meets_unconstrained (p : Prog Op Ans α) :
    p.Meets ⟨fun _ => True, fun _ _ => True⟩ fun _ => True := by
  induction p with
  | ret a => trivial
  | call o k ih => exact ⟨trivial, fun r _ => ih r⟩

end Prog

section Fallible
variable {Op : Type} {Res : Op → Type} {ε α β : Type}

/-- Programs whose calls may fail with an error of type `ε`. -/
abbrev Fallible (Op : Type) (Res : Op → Type) (ε α : Type) : Type :=
  ExceptT ε (Prog Op fun o => Except ε (Res o)) α

/-- The program that makes one call and passes its result or its error on. -/
def invoke (o : Op) : Fallible Op Res ε (Res o) :=
  ExceptT.mk (.call o .ret)

/-- The condition on the outcome of a fallible program, from one on results and one on errors. -/
def Outcome (Q : α → Prop) (E : ε → Prop) : Except ε α → Prop
  | .ok a => Q a
  | .error e => E e

@[simp]
lemma outcome_ok {Q : α → Prop} {E : ε → Prop} {a : α} : Outcome Q E (.ok a) ↔ Q a :=
  Iff.rfl

@[simp]
lemma outcome_error {Q : α → Prop} {E : ε → Prop} {e : ε} : Outcome Q E (.error e) ↔ E e :=
  Iff.rfl

/-- `Prog.Meets` for fallible programs, with separate conditions on results and on errors. -/
def Fulfils (κ : Contract Op fun o => Except ε (Res o)) (p : Fallible Op Res ε α)
    (Q : α → Prop) (E : ε → Prop) : Prop :=
  Prog.Meets κ p.run (Outcome Q E)

variable {κ : Contract Op fun o => Except ε (Res o)} {Q : α → Prop} {E : ε → Prop}

@[simp]
lemma fulfils_pure {a : α} : Fulfils κ (pure a) Q E ↔ Q a :=
  Iff.rfl

@[simp]
lemma fulfils_throw {e : ε} : Fulfils κ (throw e) Q E ↔ E e :=
  Iff.rfl

/-- The rule of calls. -/
@[simp]
lemma fulfils_invoke {o : Op} {Q : Res o → Prop} :
    Fulfils κ (invoke o) Q E ↔
      κ.requires o ∧ (∀ a, κ.ensures o (.ok a) → Q a) ∧ ∀ e, κ.ensures o (.error e) → E e := by
  constructor
  · rintro ⟨req, rest⟩
    exact ⟨req, fun a => rest (.ok a), fun e => rest (.error e)⟩
  · rintro ⟨req, onOk, onError⟩
    refine ⟨req, ?_⟩
    rintro (e | a)
    · exact onError e
    · exact onOk a

/-- The rule of sequencing: an error of the first part is an error of the whole. -/
@[simp]
lemma fulfils_bind {p : Fallible Op Res ε α} {f : α → Fallible Op Res ε β} {Q : β → Prop} :
    Fulfils κ (p >>= f) Q E ↔ Fulfils κ p (fun a => Fulfils κ (f a) Q E) E := by
  refine Prog.meets_bind.trans (iff_of_eq (congrArg _ ?_))
  funext r
  cases r with
  | ok a => rfl
  | error e => rfl

/-- The rule of `try … catch`. -/
@[simp]
lemma fulfils_tryCatch {p : Fallible Op Res ε α} {h : ε → Fallible Op Res ε α} :
    Fulfils κ (tryCatch p h) Q E ↔ Fulfils κ p Q fun e => Fulfils κ (h e) Q E := by
  refine Prog.meets_bind.trans (iff_of_eq (congrArg _ ?_))
  funext r
  cases r with
  | ok a => rfl
  | error e => rfl

/-- The conditions on results and on errors may be weakened. -/
lemma Fulfils.mono {p : Fallible Op Res ε α} {Q' : α → Prop} {E' : ε → Prop}
    (ful : Fulfils κ p Q E) (onOk : ∀ a, Q a → Q' a) (onError : ∀ e, E e → E' e) :
    Fulfils κ p Q' E' := by
  refine Prog.Meets.mono ful ?_
  intro r hr
  cases r with
  | ok a => exact onOk a hr
  | error e => exact onError e hr

/-- `try … finally` whose last part cannot fail: its own errors are swallowed. -/
def finallyIgnoring (p : Fallible Op Res ε α) (last : Fallible Op Res ε Unit) :
    Fallible Op Res ε α := do
  let result ← tryCatch p fun error => do
    tryCatch last fun _ => pure ()
    throw error
  tryCatch last fun _ => pure ()
  pure result

/-- `Fulfils` where nothing is asked of errors. -/
abbrev Yields (κ : Contract Op fun o => Except ε (Res o)) (p : Fallible Op Res ε α)
    (Q : α → Prop) : Prop :=
  Fulfils κ p Q fun _ => True

lemma Yields.meets {p : Fallible Op Res ε α} (yields : Yields κ p Q) :
    Prog.Meets κ p.run fun _ => True :=
  Prog.Meets.mono yields fun _ _ => trivial

lemma Yields.pure {a : α} (holds : Q a) : Yields κ (pure a) Q :=
  holds

lemma Yields.throw {e : ε} : Yields κ (throw e) Q :=
  trivial

lemma Yields.call {o : Op} {Q : Res o → Prop} (req : κ.requires o)
    (answer : ∀ a, κ.ensures o (.ok a) → Q a) : Yields κ (invoke o) Q :=
  fulfils_invoke.mpr ⟨req, answer, fun _ _ => trivial⟩

lemma Yields.bind {p : Fallible Op Res ε α} {f : α → Fallible Op Res ε β} {Q : β → Prop}
    {P : α → Prop} (first : Yields κ p P) (next : ∀ a, P a → Yields κ (f a) Q) :
    Yields κ (p >>= f) Q :=
  fulfils_bind.mpr (first.mono next fun _ _ => trivial)

/-- Stepping over a call. -/
lemma Yields.step {o : Op} {f : Res o → Fallible Op Res ε β} {Q : β → Prop} (req : κ.requires o)
    (next : ∀ a, κ.ensures o (.ok a) → Yields κ (f a) Q) : Yields κ (invoke o >>= f) Q :=
  .bind (.call req fun _ ens => ens) next

lemma Yields.tryCatch {p : Fallible Op Res ε α} {h : ε → Fallible Op Res ε α}
    (body : Yields κ p Q) (handler : ∀ e, Yields κ (h e) Q) : Yields κ (tryCatch p h) Q :=
  fulfils_tryCatch.mpr (body.mono (fun _ holds => holds) fun e _ => handler e)

lemma Yields.finallyIgnoring {p : Fallible Op Res ε α} {last : Fallible Op Res ε Unit}
    (body : Yields κ p Q) (release : Yields κ last fun _ => True) :
    Yields κ (finallyIgnoring p last) Q := by
  have released : Yields κ (MonadExcept.tryCatch last fun _ => Pure.pure ()) fun _ => True :=
    .tryCatch release fun _ => trivial
  refine .bind (.tryCatch body ?_) ?_
  · exact fun e => .bind released fun _ _ => .throw
  · exact fun a holds => .bind released fun _ _ => .pure holds

end Fallible

/-- A thread: what was started, and what is left of it. -/
structure Thread (Op : Type) (Ans : Op → Type) (τ ω : Type) where
  tag : τ
  prog : Prog Op Ans ω

/-- The store and every thread started so far, in the order they were started. -/
structure Config (Op : Type) (Ans : Op → Type) (σ τ ω : Type) where
  store : σ
  threads : List (Thread Op Ans τ ω)

section Lists
variable {α : Type} {l : List α} {a b : α} {i j : Nat}

/-- What is in a list of which one element was set. -/
lemma getElem?_of_set (at_i : (l.set j a)[i]? = some b) : (j = i ∧ b = a) ∨ (j ≠ i ∧ l[i]? = some b) := by
  by_cases same : j = i
  · subst same
    have within : j < (l.set j a).length := (List.getElem?_eq_some_iff.mp at_i).1
    rw [List.length_set] at within
    rw [List.getElem?_set_self within] at at_i
    exact .inl ⟨rfl, (Option.some.inj at_i).symm⟩
  · rw [List.getElem?_set_ne same] at at_i
    exact .inr ⟨same, at_i⟩

/-- What is in a list to which one element was added. -/
lemma getElem?_of_snoc (at_i : (l ++ [a])[i]? = some b) :
    (i < l.length ∧ l[i]? = some b) ∨ i = l.length ∧ b = a := by
  rcases Nat.lt_or_ge i l.length with lt | le
  · rw [List.getElem?_append_left lt] at at_i
    exact .inl ⟨lt, at_i⟩
  · have within : i < (l ++ [a]).length := (List.getElem?_eq_some_iff.mp at_i).1
    rw [List.length_append, List.length_singleton] at within
    obtain rfl : i = l.length := by omega
    rw [List.getElem?_append_right le, Nat.sub_self] at at_i
    exact .inr ⟨rfl, (Option.some.inj at_i).symm⟩

end Lists

/-- How calls are answered and which programs may be started. -/
structure System (Op : Type) (Ans : Op → Type) (σ τ ω : Type) where
  /-- What the environment decides about one call. -/
  Choice : Type
  perform : (o : Op) → Choice → σ → Ans o × σ
  body : τ → Prog Op Ans ω
  admits : σ → τ → Prop

namespace System
variable {Op : Type} {Ans : Op → Type} {σ τ ω ι : Type}

/-- What happens in one step. -/
inductive Label (S : System Op Ans σ τ ω) where
  | act :
    (thread : Nat) → Op → S.Choice → Label S
  | spawn :
    τ → Label S

/-- One step: a thread makes its next call, or a program is started. -/
inductive Step (S : System Op Ans σ τ ω) :
    Config Op Ans σ τ ω → S.Label → Config Op Ans σ τ ω → Prop where
  | act {c i tag o k} (ch : S.Choice) :
    c.threads[i]? = some ⟨tag, .call o k⟩ →
    Step S c (.act i o ch)
      ⟨(S.perform o ch c.store).2, c.threads.set i ⟨tag, k (S.perform o ch c.store).1⟩⟩
  | spawn {c tag} :
    S.admits c.store tag →
    Step S c (.spawn tag) ⟨c.store, c.threads ++ [⟨tag, S.body tag⟩]⟩

/-- Runs all of whose steps satisfy `G`. -/
def Reaches (S : System Op Ans σ τ ω) (G : Config Op Ans σ τ ω → S.Label → Prop) :
    Config Op Ans σ τ ω → Config Op Ans σ τ ω → Prop :=
  Relation.ReflTransGen fun c c' => ∃ l, G c l ∧ S.Step c l c'

/-- The guard that lets every step pass. -/
def Unguarded (S : System Op Ans σ τ ω) : Config Op Ans σ τ ω → S.Label → Prop :=
  fun _ _ => True

variable {S : System Op Ans σ τ ω} {G : Config Op Ans σ τ ω → S.Label → Prop}
  {c c' : Config Op Ans σ τ ω}

/-- A property kept by every step that satisfies `G` is kept by every run whose steps do. -/
lemma Reaches.invariant {P : Config Op Ans σ τ ω → Prop}
    (step : ∀ {c l c'}, P c → G c l → S.Step c l c' → P c')
    (start : P c) (run : S.Reaches G c c') : P c' := by
  induction run with
  | refl => exact start
  | tail _ st ih =>
    obtain ⟨l, guard, st⟩ := st
    exact step ih guard st

/-- A run under a guard is a run. -/
lemma Reaches.unguarded (run : S.Reaches G c c') : S.Reaches S.Unguarded c c' := by
  induction run with
  | refl => exact .refl
  | tail _ st ih =>
    obtain ⟨l, _, st⟩ := st
    exact ih.tail ⟨l, trivial, st⟩

/-- Threads are never lost, and keep their place and tag. -/
lemma Step.tag_kept {l : S.Label} {i : Nat} {t : Thread Op Ans τ ω} (st : S.Step c l c')
    (mem : c.threads[i]? = some t) : ∃ p, c'.threads[i]? = some ⟨t.tag, p⟩ := by
  cases st with
  | @act j tag o k ch at_j =>
    by_cases e : j = i
    · subst e
      rw [mem] at at_j
      cases at_j
      have lt : j < c.threads.length := (List.getElem?_eq_some_iff.mp mem).1
      exact ⟨_, by simp [lt]; rfl⟩
    · exact ⟨t.prog, by simp [List.getElem?_set_ne e, mem]⟩
  | @spawn tag adm =>
    have lt : i < c.threads.length := (List.getElem?_eq_some_iff.mp mem).1
    exact ⟨t.prog, by simp [List.getElem?_append_left lt, mem]⟩

/-- Neither does a run lose threads, and they keep their place and tag. -/
lemma Reaches.tag_kept {i : Nat} {t : Thread Op Ans τ ω} (run : S.Reaches G c c')
    (mem : c.threads[i]? = some t) : ∃ p, c'.threads[i]? = some ⟨t.tag, p⟩ := by
  induction run with
  | refl => exact ⟨t.prog, mem⟩
  | tail _ st ih =>
    obtain ⟨l, _, st⟩ := st
    obtain ⟨p, mem'⟩ := ih
    obtain ⟨p', mem''⟩ := st.tag_kept mem'
    exact ⟨p', mem''⟩

/-- What every program satisfies that may be started, and every call keeps, is satisfied by all
    threads. -/
lemma Reaches.tags {P : σ → τ → Prop} (admitted : ∀ {s t}, S.admits s t → P s t)
    (kept : ∀ {s o ch t}, P s t → P (S.perform o ch s).2 t) (start : c.threads = [])
    (run : S.Reaches G c c') : ∀ t ∈ c'.threads, P c'.store t.tag := by
  refine run.invariant (P := fun c => ∀ t ∈ c.threads, P c.store t.tag) ?_ ?_
  · intro c l c' all _ st t mem
    cases st with
    | @act i tag o k ch at_i =>
      obtain old | new := List.mem_or_eq_of_mem_set mem
      · exact kept (all t old)
      · have held : P c.store tag := all _ (List.mem_of_getElem? at_i)
        rw [new]
        exact kept held
    | spawn adm =>
      obtain old | new := List.mem_append.mp mem
      · exact all t old
      · rw [List.mem_singleton.mp new]
        exact admitted adm
  · rw [start]
    exact fun t mem => absurd mem List.not_mem_nil

section Contracts
variable {κ : ι → τ → Contract Op Ans} {I : σ → Prop} {live : σ → ι → Prop}
  {A : Nat → Op → S.Choice → σ → Prop}

/-- The store upholds a family of contracts: a call that keeps the contracts of all live indices,
    made in a way that `A` allows, keeps the invariant, makes no index live again, and is answered as
    the contracts of the still live indices say; what is started meets the live contracts. -/
structure Upholds (S : System Op Ans σ τ ω) (κ : ι → τ → Contract Op Ans) (I : σ → Prop)
    (live : σ → ι → Prop) (A : Nat → Op → S.Choice → σ → Prop) : Prop where
  step : ∀ {i tag o ch s}, I s → (∀ x, live s x → (κ x tag).requires o) → A i o ch s →
    I (S.perform o ch s).2 ∧ ∀ x, live (S.perform o ch s).2 x →
      live s x ∧ (κ x tag).ensures o (S.perform o ch s).1
  body : ∀ {s tag}, I s → S.admits s tag → ∀ x, live s x → (S.body tag).Meets (κ x tag) fun _ => True

/-- The store satisfies the invariant and every thread meets the contracts of all live indices. -/
structure Sound (κ : ι → τ → Contract Op Ans) (I : σ → Prop) (live : σ → ι → Prop)
    (c : Config Op Ans σ τ ω) : Prop where
  store : I c.store
  threads : ∀ t ∈ c.threads, ∀ x, live c.store x → t.prog.Meets (κ x t.tag) fun _ => True

/-- Before anything is started there is nothing to meet. -/
lemma Sound.start {s : σ} (inv : I s) :
    Sound κ I live (⟨s, []⟩ : Config Op Ans σ τ ω) :=
  ⟨inv, fun _ mem => absurd mem List.not_mem_nil⟩

/-- A thread about to make a call requires what its contracts promise. -/
lemma Sound.requires {i : Nat} {tag : τ} {o : Op} {k} (sound : Sound κ I live c)
    (at_i : c.threads[i]? = some ⟨tag, .call o k⟩) {x : ι} (lv : live c.store x) :
    (κ x tag).requires o :=
  (sound.threads _ (List.mem_of_getElem? at_i) x lv).1

/-- The step lemma of the contract rule. -/
lemma Upholds.sound_step {l : S.Label} (up : Upholds S κ I live A)
    (sound : Sound κ I live c) (allowed : ∀ i o ch, l = .act i o ch → A i o ch c.store)
    (st : S.Step c l c') : Sound κ I live c' := by
  cases st with
  | @act i tag o k ch at_i =>
    obtain ⟨inv', answers⟩ :=
      up.step sound.store (fun x lv => sound.requires at_i lv) (allowed i o ch rfl)
    refine ⟨inv', ?_⟩
    intro t mem x lv'
    obtain ⟨lv, ens⟩ := answers x lv'
    obtain mem | rfl := List.mem_or_eq_of_mem_set mem
    · exact sound.threads t mem x lv
    · exact (sound.threads _ (List.mem_of_getElem? at_i) x lv).2 _ ens
  | @spawn tag adm =>
    refine ⟨sound.store, ?_⟩
    intro t mem x lv
    obtain mem | mem := List.mem_append.mp mem
    · exact sound.threads t mem x lv
    · rw [List.mem_singleton.mp mem]
      exact up.body sound.store adm x lv

/-- The run lemma of the contract rule: runs whose steps are allowed stay sound. -/
lemma Upholds.sound_reaches (up : Upholds S κ I live A)
    (allowed : ∀ {c i o ch}, G c (.act i o ch) → A i o ch c.store)
    (sound : Sound κ I live c) (run : S.Reaches G c c') : Sound κ I live c' := by
  refine run.invariant (P := Sound κ I live) ?_ sound
  intro c l c' sound guard st
  refine up.sound_step sound ?_ st
  rintro i o ch rfl
  exact allowed guard

end Contracts

section Execution
variable (S)

/-- A scheduler's decision. -/
inductive Move where
  | act :
    (thread : Nat) → S.Choice → Move
  | spawn :
    τ → Move

variable [∀ s tag, Decidable (S.admits s tag)]

/-- Carries one decision out, if it is possible. -/
def next (c : Config Op Ans σ τ ω) : S.Move → Option (Config Op Ans σ τ ω)
  | .act i ch =>
    match c.threads[i]? with
    | some ⟨tag, .call o k⟩ =>
      some ⟨(S.perform o ch c.store).2, c.threads.set i ⟨tag, k (S.perform o ch c.store).1⟩⟩
    | _ => none
  | .spawn tag =>
    if S.admits c.store tag then some ⟨c.store, c.threads ++ [⟨tag, S.body tag⟩]⟩ else none

/-- Carries a schedule out. -/
def execute (c : Config Op Ans σ τ ω) : List S.Move → Option (Config Op Ans σ τ ω)
  | [] => some c
  | m :: ms => (S.next c m).bind fun c' => execute c' ms

variable {S}

/-- The call a thread is about to make. -/
def pending (c : Config Op Ans σ τ ω) (i : Nat) : Option Op :=
  match c.threads[i]? with
  | some ⟨_, .call o _⟩ => some o
  | _ => none

/-- Letting a thread proceed makes its pending call. -/
lemma next_act {i : Nat} {ch : S.Choice} (e : S.next c (.act i ch) = some c') :
    ∃ o, pending c i = some o ∧ S.Step c (.act i o ch) c' := by
  simp only [next] at e
  split at e
  · rename_i tag o k at_i
    cases e
    exact ⟨o, by simp [pending, at_i], .act ch at_i⟩
  · cases e

/-- What a decision leads to is a step. -/
lemma next_step {m : S.Move} (e : S.next c m = some c') : ∃ l, S.Step c l c' := by
  cases m with
  | act i ch =>
    obtain ⟨o, -, step⟩ := next_act e
    exact ⟨_, step⟩
  | spawn tag =>
    simp only [next] at e
    split at e
    · rename_i adm
      cases e
      exact ⟨_, .spawn adm⟩
    · cases e

/-- What a schedule leads to is reached by a run. -/
lemma execute_reaches {ms : List S.Move} (e : S.execute c ms = some c') :
    S.Reaches S.Unguarded c c' := by
  induction ms generalizing c with
  | nil =>
    cases e
    exact .refl
  | cons m ms ih =>
    obtain ⟨c₁, e₁, e₂⟩ := Option.bind_eq_some_iff.mp e
    obtain ⟨l, st⟩ := next_step e₁
    exact .head ⟨l, trivial, st⟩ (ih e₂)

/-- What happens when a decision is carried out. -/
def labelOf (c : Config Op Ans σ τ ω) : S.Move → Option S.Label
  | .act i ch => (pending c i).map fun o => .act i o ch
  | .spawn tag => some (.spawn tag)

variable (G) in
/-- Carries a schedule out as long as its steps satisfy `G`. -/
def executeUnder [∀ c l, Decidable (G c l)] (c : Config Op Ans σ τ ω) :
    List S.Move → Option (Config Op Ans σ τ ω)
  | [] => some c
  | m :: ms =>
    if (labelOf c m).all fun l => decide (G c l) then
      (S.next c m).bind fun c' => executeUnder c' ms
    else none

/-- A step with its label. -/
lemma next_labelled {m : S.Move} (e : S.next c m = some c') :
    ∃ l, labelOf c m = some l ∧ S.Step c l c' := by
  cases m with
  | act i ch =>
    obtain ⟨o, at_i, step⟩ := next_act e
    exact ⟨_, by rw [labelOf, at_i]; rfl, step⟩
  | spawn tag =>
    simp only [next] at e
    split at e
    · rename_i adm
      cases e
      exact ⟨_, rfl, .spawn adm⟩
    · cases e

/-- The first move of a schedule under a guard is a step that satisfies it. -/
lemma executeUnder_cons [∀ c l, Decidable (G c l)] {m : S.Move} {ms : List S.Move}
    (e : executeUnder G c (m :: ms) = some c') :
    ∃ l c₁, G c l ∧ S.Step c l c₁ ∧ executeUnder G c₁ ms = some c' := by
  simp only [executeUnder] at e
  split at e
  · rename_i allowed
    obtain ⟨c₁, e₁, e₂⟩ := Option.bind_eq_some_iff.mp e
    obtain ⟨l, labelled, step⟩ := next_labelled e₁
    rw [labelled] at allowed
    exact ⟨l, c₁, of_decide_eq_true allowed, step, e₂⟩
  · cases e

/-- What a schedule leads to under a guard is reached by a run under that guard. -/
lemma executeUnder_reaches [∀ c l, Decidable (G c l)] {ms : List S.Move}
    (e : executeUnder G c ms = some c') : S.Reaches G c c' := by
  induction ms generalizing c with
  | nil =>
    cases e
    exact .refl
  | cons m ms ih =>
    obtain ⟨l, c₁, guard, step, rest⟩ := executeUnder_cons e
    exact .head ⟨l, guard, step⟩ (ih rest)

end Execution
end System
end Interleaving
