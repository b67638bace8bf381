import AtomsPlatform.Lib.Trace
import Mathlib.Algebra.BigOperators.Group.Finset.Basic
import Mathlib.Algebra.Order.BigOperators.Group.Finset

/-!
# Accounts of threads

Every thread has an account, which no program reads: a step of the thread changes it, and the change may
depend on what the environment chose and on the store. Programs are judged by their accounts
(`accounted`), and may rely on a relation between their account and the store that no step breaks
(`Relied`). An account may also say what a thread owns, such as a transaction that it opened, which no other
thread reads or writes, since their accounts are kept apart (`Owned`). Where each call changes a number of the store by as much as it changes the account of its
caller, that number is the sum over all threads (`Traced.conserved`), whatever is interleaved.
-/

namespace Interleaving
namespace System
variable {Op : Type} {Ans : Op → Type} {σ τ ω X : Type} {S : System Op Ans σ τ ω}
  {G : Config Op Ans σ τ ω → S.Label → Prop} {c₀ c c₁ : Config Op Ans σ τ ω}
  {h h₁ h₂ : List (Config Op Ans σ τ ω × S.Label)}

/-- How a call changes the account of its caller. -/
abbrev Booking (S : System Op Ans σ τ ω) (X : Type) : Type :=
  (o : Op) → S.Choice → σ → X → X

/-- The judgement by accounts: before each call, `Φ` holds of the account and of the call, and `R` of the
    account and of the store. -/
def accounted (S : System Op Ans σ τ ω) (book : S.Booking X) (Φ : X → Op → Prop) (R : X → σ → Prop) :
    Judgement Op Ans X where
  call o K x := Φ x o ∧ ∀ ch s, R x s → K (S.perform o ch s).1 (book o ch s x)
  mono imp call := ⟨call.1, fun ch s rely => imp _ _ (call.2 ch s rely)⟩

/-- A relation that accounts may rely on: it holds of an empty account at the start, no step breaks it, and
    steps of the thread itself keep it. -/
structure Relied (S : System Op Ans σ τ ω) (book : S.Booking X) (Φ : X → Op → Prop) (R : X → σ → Prop)
    (x₀ : X) (s₀ : σ) : Prop where
  empty : R x₀ s₀
  others : ∀ o ch s x, R x s → R x (S.perform o ch s).2
  own : ∀ o ch s x, Φ x o → R x s → R (book o ch s x) (S.perform o ch s).2

/-- A relation of accounts with the store, and accounts that are apart: an empty account is apart from all,
    calls keep the relation for their own account, and for the accounts that are apart from it, which they
    stay. -/
structure Owned (S : System Op Ans σ τ ω) (book : S.Booking X) (Φ : X → Op → Prop)
    (R : X → σ → Prop) (apart : X → X → Prop) (x₀ : X) (s₀ : σ) : Prop where
  empty : R x₀ s₀
  symm : ∀ x y, apart x y → apart y x
  fresh : ∀ x, apart x x₀
  own : ∀ o ch s x, Φ x o → R x s → R (book o ch s x) (S.perform o ch s).2
  others : ∀ o ch s x y, Φ x o → R x s → R y s → apart x y →
    R y (S.perform o ch s).2 ∧ apart (book o ch s x) y

/-- Where all accounts are apart from each other, calls of others keep what an account may rely on. -/
lemma Relied.owned {book : S.Booking X} {Φ : X → Op → Prop} {R : X → σ → Prop} {x₀ : X} {s₀ : σ}
    (relied : S.Relied book Φ R x₀ s₀) : S.Owned book Φ R (fun _ _ => True) x₀ s₀ where
  empty := relied.empty
  symm _ _ _ := trivial
  fresh _ := trivial
  own := relied.own
  others o ch s _ y _ _ related _ := ⟨relied.others o ch s y related, trivial⟩

/-- What a step makes of the account of a thread. -/
def bookStep (book : S.Booking X) (i : Nat) (x : X) : Config Op Ans σ τ ω × S.Label → X
  | (c, .act j o ch) => if j = i then book o ch c.store x else x
  | (_, .spawn _) => x

/-- The account of a thread after a history. -/
def account (book : S.Booking X) (x₀ : X) (i : Nat) (h : List (Config Op Ans σ τ ω × S.Label)) : X :=
  h.foldl (bookStep book i) x₀

variable {book : S.Booking X} {x₀ : X} {Φ : X → Op → Prop} {R : X → σ → Prop}
  {apart : X → X → Prop} {Q : τ → ω → X → Prop}

lemma account_spawn {i : Nat} {tag : τ} :
    account book x₀ i (h ++ [(c, .spawn tag)]) = account book x₀ i h := by
  rw [account, List.foldl_append]
  rfl

lemma account_act {i : Nat} {o : Op} {ch : S.Choice} :
    account book x₀ i (h ++ [(c, .act i o ch)]) = book o ch c.store (account book x₀ i h) := by
  rw [account, List.foldl_append]
  exact if_pos rfl

lemma account_act_ne {i j : Nat} {o : Op} {ch : S.Choice} (ne : j ≠ i) :
    account book x₀ i (h ++ [(c, .act j o ch)]) = account book x₀ i h := by
  rw [account, List.foldl_append]
  exact if_neg ne

/-- What is known of the accounts of a run: they are related to the store and apart from each other, those of
    threads that do not exist yet are empty, and threads are judged by theirs. -/
structure Shared (book : S.Booking X) (Φ : X → Op → Prop) (R : X → σ → Prop)
    (apart : X → X → Prop) (x₀ : X) (Q : τ → ω → X → Prop)
    (h : List (Config Op Ans σ τ ω × S.Label)) (c : Config Op Ans σ τ ω) : Prop where
  related : ∀ i, R (account book x₀ i h) c.store
  apart : ∀ i j, i ≠ j → apart (account book x₀ i h) (account book x₀ j h)
  unused : ∀ i, c.threads.length ≤ i → account book x₀ i h = x₀
  judged : ∀ (i : Nat) t, c.threads[i]? = some t →
    t.prog.Satisfies (S.accounted book Φ R) (Q t.tag) (account book x₀ i h)

/-- What a call does to the accounts: its own is changed, all others are left alone and stay apart from it. -/
lemma Shared.act {j : Nat} {o : Op} (shared : Shared book Φ R apart x₀ Q h c)
    (owned : S.Owned book Φ R apart x₀ c₀.store) (asked : Φ (account book x₀ j h) o) (ch : S.Choice) :
    (∀ i, R (account book x₀ i (h ++ [(c, .act j o ch)])) (S.perform o ch c.store).2) ∧
      ∀ i k, i ≠ k → apart (account book x₀ i (h ++ [(c, .act j o ch)]))
        (account book x₀ k (h ++ [(c, .act j o ch)])) := by
  have other {i : Nat} (ne : j ≠ i) :=
    owned.others o ch c.store _ _ asked (shared.related j) (shared.related i) (shared.apart j i ne)
  refine ⟨fun i => ?_, fun i k ne => ?_⟩
  · by_cases same : j = i
    · subst same
      rw [account_act]
      exact owned.own o ch c.store _ asked (shared.related j)
    · rw [account_act_ne same]
      exact (other same).1
  · by_cases first : j = i
    · subst first
      rw [account_act, account_act_ne ne]
      exact (other ne).2
    · rw [account_act_ne first]
      by_cases second : j = k
      · subst second
        rw [account_act]
        exact owned.symm _ _ (other first).2
      · rw [account_act_ne second]
        exact shared.apart i k ne

/-- Accounts that are kept apart at all steps are apart in all runs. -/
theorem Traced.shared (traced : S.Traced G c₀ h c) (start : c₀.threads = [])
    (owned : S.Owned book Φ R apart x₀ c₀.store)
    (bodies : ∀ tag, (S.body tag).Satisfies (S.accounted book Φ R) (Q tag) x₀) :
    Shared book Φ R apart x₀ Q h c := by
  induction traced with
  | nil =>
    refine ⟨fun i => owned.empty, fun i j _ => owned.fresh x₀, fun i _ => rfl, fun i t at_i => ?_⟩
    rw [start] at at_i
    cases at_i
  | @snoc h c l c' traced guard step ih =>
    cases step with
    | @act j tag o k ch at_j =>
      have lt : j < c.threads.length := (List.getElem?_eq_some_iff.mp at_j).1
      have judged := ih.judged j _ at_j
      obtain ⟨related, apart⟩ := ih.act owned judged.1 ch
      refine ⟨related, apart, fun i le => ?_, fun i t at_i => ?_⟩
      · rw [List.length_set] at le
        have ne : j ≠ i := by omega
        rw [account_act_ne ne]
        exact ih.unused i le
      · rcases getElem?_of_set at_i with ⟨rfl, rfl⟩ | ⟨ne, at_i⟩
        · rw [account_act]
          exact judged.2 ch c.store (ih.related j)
        · rw [account_act_ne ne]
          exact ih.judged i t at_i
    | @spawn tag adm =>
      refine ⟨fun i => ?_, fun i j ne => ?_, fun i le => ?_, fun i t at_i => ?_⟩
      · rw [account_spawn]
        exact ih.related i
      · rw [account_spawn, account_spawn]
        exact ih.apart i j ne
      · rw [List.length_append] at le
        rw [account_spawn]
        exact ih.unused i (by omega)
      · rw [account_spawn]
        rcases getElem?_of_snoc at_i with ⟨-, at_i⟩ | ⟨rfl, rfl⟩
        · exact ih.judged i t at_i
        · rw [ih.unused _ (Nat.le_refl _)]
          exact bodies tag

/-- Threads that do not exist yet have an empty account, and the others are judged by theirs, which rely on
    the store as it is. -/
lemma Traced.accounts (traced : S.Traced G c₀ h c) (start : c₀.threads = [])
    (relied : S.Relied book Φ R x₀ c₀.store)
    (bodies : ∀ tag, (S.body tag).Satisfies (S.accounted book Φ R) (Q tag) x₀) :
    (∀ i, R (account book x₀ i h) c.store) ∧
      (∀ i, c.threads.length ≤ i → account book x₀ i h = x₀) ∧
      ∀ (i : Nat) t, c.threads[i]? = some t →
        t.prog.Satisfies (S.accounted book Φ R) (Q t.tag) (account book x₀ i h) := by
  have shared := traced.shared start relied.owned bodies
  exact ⟨shared.related, shared.unused, shared.judged⟩

/-- Every call that was made was allowed by the account of its caller. -/
lemma Traced.account_allowed (traced : S.Traced G c₀ h c) (start : c₀.threads = [])
    (relied : S.Relied book Φ R x₀ c₀.store)
    (bodies : ∀ tag, (S.body tag).Satisfies (S.accounted book Φ R) (Q tag) x₀) {i : Nat} {o : Op}
    {ch : S.Choice} (e : h = h₁ ++ (c₁, .act i o ch) :: h₂) : Φ (account book x₀ i h₁) o := by
  obtain ⟨tag, k, at_i⟩ := traced.pending e
  exact (((traced.split e).1.accounts start relied bodies).2.2 i _ at_i).1

/-- What allowed calls keep holds of every account. -/
lemma Traced.account_invariant {I : X → Prop} (traced : S.Traced G c₀ h c) (start : c₀.threads = [])
    (relied : S.Relied book Φ R x₀ c₀.store)
    (bodies : ∀ tag, (S.body tag).Satisfies (S.accounted book Φ R) (Q tag) x₀) (empty : I x₀)
    (step : ∀ o ch s x, Φ x o → I x → I (book o ch s x)) (i : Nat) : I (account book x₀ i h) := by
  induction traced with
  | nil => exact empty
  | @snoc h c l c' traced guard st ih =>
    cases st with
    | @act j tag o k ch at_j =>
      by_cases same : j = i
      · subst same
        rw [account_act]
        exact step o ch _ _ (((traced.accounts start relied bodies).2.2 j _ at_j).1) ih
      · rw [account_act_ne same]
        exact ih
    | @spawn tag adm =>
      rw [account_spawn]
      exact ih

/-- What every allowed call keeps, it keeps from any moment of a run to its end. -/
theorem Traced.kept {K : σ → σ → Prop} (refl : ∀ s, K s s) (trans : ∀ s₁ s₂ s₃, K s₁ s₂ → K s₂ s₃ → K s₁ s₃)
    (step : ∀ o ch s x, Φ x o → R x s → K s (S.perform o ch s).2) (traced : S.Traced G c₀ h c)
    (start : c₀.threads = []) (owned : S.Owned book Φ R apart x₀ c₀.store)
    (bodies : ∀ tag, (S.body tag).Satisfies (S.accounted book Φ R) (Q tag) x₀) :
    ∀ entry ∈ h, K entry.1.store c.store := by
  induction traced with
  | nil => exact nofun
  | @snoc h c l c' traced guard st ih =>
    have next : K c.store c'.store := by
      cases st with
      | @act j tag o k ch at_j =>
        have shared := traced.shared start owned bodies
        exact step o ch _ _ (shared.judged j _ at_j).1 (shared.related j)
      | @spawn tag adm => exact refl _
    intro entry mem
    rcases List.mem_append.mp mem with old | new
    · exact trans _ _ _ (ih entry old) next
    · rw [List.mem_singleton.mp new]
      exact next

/-- The sum over the accounts of all threads. -/
def total (book : S.Booking X) (x₀ : X) (f : X → Nat) (h : List (Config Op Ans σ τ ω × S.Label))
    (c : Config Op Ans σ τ ω) : Nat :=
  ∑ i ∈ Finset.range c.threads.length, f (account book x₀ i h)

/-- The account of one thread is within the sum. -/
lemma le_total {f : X → Nat} {i : Nat} (lt : i < c.threads.length) :
    f (account book x₀ i h) ≤ total book x₀ f h c :=
  Finset.single_le_sum_of_canonicallyOrdered (f := fun i => f (account book x₀ i h))
    (Finset.mem_range.mpr lt)

/-- A sum in which one term changes. -/
lemma sum_change {f g : Nat → Nat} {n i : Nat} (lt : i < n) (same : ∀ j, j ≠ i → g j = f j) :
    ∑ j ∈ Finset.range n, g j + f i = ∑ j ∈ Finset.range n, f j + g i := by
  have mem : i ∈ Finset.range n := Finset.mem_range.mpr lt
  have rest : ∑ j ∈ (Finset.range n).erase i, g j = ∑ j ∈ (Finset.range n).erase i, f j :=
    Finset.sum_congr rfl fun j mem => same j (Finset.ne_of_mem_erase mem)
  have before := Finset.add_sum_erase (Finset.range n) f mem
  have after := Finset.add_sum_erase (Finset.range n) g mem
  omega

/-- A number of the store that each call changes by as much as the account of its caller is the sum over
    all threads. The caller's own share is within that number. -/
theorem Traced.conserved {q : σ → Nat} {f : X → Nat} (traced : S.Traced G c₀ h c)
    (start : c₀.threads = []) (relied : S.Relied book Φ R x₀ c₀.store)
    (bodies : ∀ tag, (S.body tag).Satisfies (S.accounted book Φ R) (Q tag) x₀)
    (empty : q c₀.store = 0) (unused : f x₀ = 0)
    (step : ∀ o ch s x, Φ x o → f x ≤ q s → q (S.perform o ch s).2 + f x = q s + f (book o ch s x)) :
    q c.store = total book x₀ f h c := by
  induction traced with
  | nil =>
    rw [empty, total, start]
    rfl
  | @snoc h c l c' traced guard st ih =>
    cases st with
    | @act j tag o k ch at_j =>
      have lt : j < c.threads.length := (List.getElem?_eq_some_iff.mp at_j).1
      have asked := (((traced.accounts start relied bodies).2.2 j _ at_j).1)
      have share : f (account book x₀ j h) ≤ q c.store := by
        rw [ih]
        exact le_total lt
      have changed := step o ch c.store _ asked share
      have own : f (account book x₀ j (h ++ [(c, .act j o ch)])) =
          f (book o ch c.store (account book x₀ j h)) := by rw [account_act]
      have sums : ∑ i ∈ Finset.range c.threads.length, f (account book x₀ i (h ++ [(c, .act j o ch)])) +
            f (account book x₀ j h) =
          ∑ i ∈ Finset.range c.threads.length, f (account book x₀ i h) +
            f (account book x₀ j (h ++ [(c, .act j o ch)])) :=
        sum_change (f := fun i => f (account book x₀ i h))
          (g := fun i => f (account book x₀ i (h ++ [(c, .act j o ch)]))) lt
          fun i ne => congrArg f (account_act_ne (Ne.symm ne))
      have before : q c.store = ∑ i ∈ Finset.range c.threads.length, f (account book x₀ i h) := ih
      show q (S.perform o ch c.store).2 = ∑ i ∈ Finset.range (c.threads.set j _).length,
        f (account book x₀ i (h ++ [(c, .act j o ch)]))
      rw [List.length_set]
      omega
    | @spawn tag adm =>
      have new : account book x₀ c.threads.length h = x₀ :=
        (traced.accounts start relied bodies).2.1 _ (le_refl _)
      show q c.store = ∑ i ∈ Finset.range (c.threads ++ [_]).length, _
      rw [List.length_append, List.length_singleton, Finset.sum_range_succ, account_spawn, new, unused,
        Nat.add_zero, ih]
      exact Finset.sum_congr rfl fun i _ => by rw [account_spawn]

end System
end Interleaving
