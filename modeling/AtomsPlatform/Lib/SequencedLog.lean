import AtomsPlatform.Lib.Program
import Mathlib.Logic.Function.Basic
import Mathlib.Data.List.Range

/-!
# Logs numbered by a counter row

A table of records, each with a key and a number, and one counter row for each key. A transaction
takes a number by incrementing the counter, which locks the row until the transaction ends, and
inserts a record under it; both become visible when it commits. A transaction is a program over these
two statements and others that touch neither the counters nor the records. It is disciplined
(`Pays`) if each number it takes is used by an insertion before it takes the next or commits.

`Sound.run`: however disciplined transactions are interleaved, and wherever they fail, the visible
records of a key are numbered 1 to the value of its counter, in the order in which they became
visible. No unique constraint is assumed.
-/

namespace SequencedLog
open Interleaving

/-- The statements of a transaction. -/
inductive Statement (κ π : Type) where
  /-- Increments the counter of a key and answers its new value. -/
  | increment :
    (key : κ) → Statement κ π
  /-- Inserts a record. -/
  | insert :
    (key : κ) → (number : Nat) → (payload : π) → Statement κ π
  /-- A statement on other rows. -/
  | other

/-- What a statement answers; `α` is what the other statements may answer. -/
@[reducible]
def Statement.Answer {κ π : Type} (α : Type) : Statement κ π → Type
  | .increment _ => Nat
  | .insert .. => Unit
  | .other => α

/-- A stored record. -/
structure Record (κ π : Type) where
  key : κ
  number : Nat
  payload : π
deriving DecidableEq, Repr

variable {κ π α ε β : Type}

/-- What is left of a transaction: it commits with a result, or throws. -/
abbrev Body (κ π α ε β : Type) : Type :=
  Prog (Statement κ π) (fun o => Except ε (o.Answer α)) (Except ε β)

/-- Every number taken is used before the next one is taken and before the commit; the debt is the
    number taken last, while it is unused. -/
def Pays : Option (κ × Nat) → Body κ π α ε β → Prop
  | debt, .ret (.ok _) => debt = none
  | _, .ret (.error _) => True
  | debt, .call (.increment key) k => debt = none ∧ ∀ n, Pays (some (key, n)) (k (.ok n))
  | debt, .call (.insert key n _) k => debt = some (key, n) ∧ Pays none (k (.ok ()))
  | debt, .call .other k => ∀ a, Pays debt (k a)

/-- A sequence is disciplined if its parts are. -/
lemma Pays.bind {γ : Type} {p : Fallible (Statement κ π) (Statement.Answer α) ε γ}
    {f : γ → Fallible (Statement κ π) (Statement.Answer α) ε β} {debt : Option (κ × Nat)}
    (first : Pays debt p.run) (next : ∀ a, Pays none (f a).run) : Pays debt (p >>= f).run := by
  show Pays debt (Prog.bind p _)
  change Pays debt p at first
  induction p generalizing debt with
  | ret r =>
    cases r with
    | error e => trivial
    | ok a =>
      cases first
      exact next a
  | call o k ih =>
    cases o with
    | increment key => exact ⟨first.1, fun n => ih _ (first.2 n)⟩
    | insert key n payload => exact ⟨first.1, ih _ first.2⟩
    | other => exact fun a => ih _ (first a)

/-- A transaction that has not ended: the counters it has written, whose rows it has locked, the
    records it has inserted, and what is left of it. -/
structure Transaction (κ π α ε β : Type) where
  written : κ → Option Nat
  inserted : List (Record κ π)
  rest : Body κ π α ε β

/-- The committed rows and the transactions that have not ended. -/
structure Config (κ π α ε β : Type) where
  counter : κ → Nat
  table : List (Record κ π)
  active : Nat → Option (Transaction κ π α ε β)

/-- A database without records and transactions. -/
def Config.empty : Config κ π α ε β :=
  ⟨fun _ => 0, [], fun _ => none⟩

variable [DecidableEq κ]

/-- What a transaction sees in a counter row. -/
def Transaction.value (t : Transaction κ π α ε β) (counter : κ → Nat) (key : κ) : Nat :=
  (t.written key).getD (counter key)

/-- The records of a key, in their order. -/
def recordsOf (key : κ) (records : List (Record κ π)) : List (Record κ π) :=
  records.filter fun r => r.key = key

/-- The numbers of the records of a key, in their order. -/
def numbersOf (key : κ) (records : List (Record κ π)) : List Nat :=
  (recordsOf key records).map Record.number

/-- What happens in one step, and in which transaction. -/
inductive Label where
  | begins (id : Nat)
  | statement (id : Nat)
  | commits (id : Nat)
  | fails (id : Nat)
deriving DecidableEq, Repr

/-- One step. Transactions are begun as admitted; the increment of a counter waits until no other
    transaction has written its row, and then sees the committed value or its own; a transaction can
    fail at any point, and does when it throws. -/
inductive Step (admits : Body κ π α ε β → Prop) :
    Config κ π α ε β → Label → Config κ π α ε β → Prop where
  | begins {c id body} :
    c.active id = none →
    admits body →
    Step admits c (.begins id)
      { c with active := Function.update c.active id (some ⟨fun _ => none, [], body⟩) }
  | increment {c id t key k} :
    c.active id = some t →
    t.rest = .call (.increment key) k →
    (∀ j u, j ≠ id → c.active j = some u → u.written key = none) →
    Step admits c (.statement id)
      { c with
        active := Function.update c.active id (some
          { t with
            written := Function.update t.written key (some (t.value c.counter key + 1))
            rest := k (.ok (t.value c.counter key + 1)) }) }
  | insert {c id t key number payload k} :
    c.active id = some t →
    t.rest = .call (.insert key number payload) k →
    Step admits c (.statement id)
      { c with
        active := Function.update c.active id (some
          { t with inserted := t.inserted ++ [⟨key, number, payload⟩], rest := k (.ok ()) }) }
  | other {c id t k} (a : Except ε α) :
    c.active id = some t →
    t.rest = .call .other k →
    Step admits c (.statement id)
      { c with active := Function.update c.active id (some { t with rest := k a }) }
  | commits {c id t b} :
    c.active id = some t →
    t.rest = .ret (.ok b) →
    Step admits c (.commits id)
      { counter := t.value c.counter
        table := c.table ++ t.inserted
        active := Function.update c.active id none }
  | fails {c id t} :
    c.active id = some t →
    Step admits c (.fails id) { c with active := Function.update c.active id none }

/-- The configurations that can be reached from a database without records. -/
def Reachable (admits : Body κ π α ε β → Prop) : Config κ π α ε β → Prop :=
  Relation.ReflTransGen (fun c c' => ∃ l, Step admits c l c') .empty

variable {admits : Body κ π α ε β → Prop} {c c' : Config κ π α ε β} {l : Label}

/-- Only a commit changes what is visible. -/
lemma Step.visible (step : Step admits c l c') (uncommitted : ∀ id, l ≠ .commits id) :
    c'.counter = c.counter ∧ c'.table = c.table := by
  cases step with
  | commits => exact absurd rfl (uncommitted _)
  | _ => exact ⟨rfl, rfl⟩

/-- The number a transaction has taken for a key and not used. -/
def owed : Option (κ × Nat) → κ → List Nat
  | none, _ => []
  | some (k, n), key => if k = key then [n] else []

/-- The records a transaction has inserted, and the number it owes, are those it has taken from the
    counter. -/
def Balanced (counter : κ → Nat) (t : Transaction κ π α ε β) (debt : Option (κ × Nat)) : Prop :=
  ∀ key, counter key ≤ t.value counter key ∧
    numbersOf key t.inserted ++ owed debt key =
      List.range' (counter key + 1) (t.value counter key - counter key)

/-- The invariant of the database. -/
structure Sound (c : Config κ π α ε β) : Prop where
  gapless : ∀ key, numbersOf key c.table = List.range' 1 (c.counter key)
  exclusive : ∀ {i j t u}, c.active i = some t → c.active j = some u → i ≠ j → ∀ key,
    t.written key = none ∨ u.written key = none
  transactions : ∀ {i t}, c.active i = some t →
    ∃ debt, Pays debt t.rest ∧ Balanced c.counter t debt

lemma Sound.empty : Sound (Config.empty : Config κ π α ε β) where
  gapless := fun _ => rfl
  exclusive := fun active => nomatch active
  transactions := fun active => nomatch active

@[simp]
lemma numbersOf_append {key : κ} {r r' : List (Record κ π)} :
    numbersOf key (r ++ r') = numbersOf key r ++ numbersOf key r' := by
  simp [numbersOf, recordsOf]

/-- A step of one transaction keeps the invariant if it keeps that transaction's part of it. -/
lemma Sound.update (sound : Sound c) {id : Nat} {t : Transaction κ π α ε β}
    (balanced : ∃ debt, Pays debt t.rest ∧ Balanced c.counter t debt)
    (locks : ∀ j u key, j ≠ id → c.active j = some u → t.written key = none ∨ u.written key = none) :
    Sound { c with active := Function.update c.active id (some t) } where
  gapless := sound.gapless
  exclusive := by
    intro i j t' u at_i at_j ne key
    by_cases e_i : i = id
    · subst e_i
      simp only [Function.update_self, Option.some.injEq] at at_i
      simp only [Function.update_of_ne ne.symm] at at_j
      cases at_i
      exact locks j u key ne.symm at_j
    · simp only [Function.update_of_ne e_i] at at_i
      by_cases e_j : j = id
      · subst e_j
        simp only [Function.update_self, Option.some.injEq] at at_j
        cases at_j
        exact (locks i t' key e_i at_i).symm
      · simp only [Function.update_of_ne e_j] at at_j
        exact sound.exclusive at_i at_j ne key
  transactions := by
    intro i t' at_i
    by_cases e_i : i = id
    · subst e_i
      simp only [Function.update_self, Option.some.injEq] at at_i
      cases at_i
      exact balanced
    · simp only [Function.update_of_ne e_i] at at_i
      exact sound.transactions at_i

/-- Taking a number is a debt. -/
lemma Balanced.increment {counter : κ → Nat} {t : Transaction κ π α ε β} {key : κ}
    {rest : Body κ π α ε β} (balanced : Balanced counter t none) :
    Balanced counter
      { t with
        written := Function.update t.written key (some (t.value counter key + 1)), rest }
      (some (key, t.value counter key + 1)) := by
  intro key'
  obtain ⟨le, numbers⟩ := balanced key'
  by_cases e : key' = key
  · subst e
    have taken : t.value counter key' + 1 - counter key' = t.value counter key' - counter key' + 1 := by
      omega
    have last : counter key' + 1 + (t.value counter key' - counter key') =
        t.value counter key' + 1 := by
      omega
    simp only [owed, List.append_nil] at numbers
    simp only [Transaction.value, Function.update_self, Option.getD_some, owed, if_true] at *
    refine ⟨by omega, ?_⟩
    rw [taken, List.range'_1_concat, last, numbers]
  · simp only [Transaction.value, Function.update_of_ne e, owed, Ne.symm e, if_false] at *
    exact ⟨le, numbers⟩

/-- Inserting a record under the number taken last pays the debt. -/
lemma Balanced.insert {counter : κ → Nat} {t : Transaction κ π α ε β} {key : κ} {number : Nat}
    {payload : π} {rest : Body κ π α ε β} (balanced : Balanced counter t (some (key, number))) :
    Balanced counter { t with inserted := t.inserted ++ [⟨key, number, payload⟩], rest } none := by
  intro key'
  obtain ⟨le, numbers⟩ := balanced key'
  refine ⟨le, ?_⟩
  rw [numbersOf_append]
  by_cases e : key = key'
  · simpa [numbersOf, recordsOf, owed, e, Transaction.value] using numbers
  · simpa [numbersOf, recordsOf, owed, e, Transaction.value] using numbers

/-- A transaction that is about to commit has inserted exactly the numbers it has taken. -/
lemma Balanced.settled {counter : κ → Nat} {t : Transaction κ π α ε β}
    (balanced : Balanced counter t none) (key : κ) :
    t.value counter key = counter key + (recordsOf key t.inserted).length ∧
      numbersOf key t.inserted =
        List.range' (counter key + 1) (recordsOf key t.inserted).length := by
  obtain ⟨le, numbers⟩ := balanced key
  simp only [owed, List.append_nil] at numbers
  have length := congrArg List.length numbers
  simp only [numbersOf, List.length_map, List.length_range'] at length
  refine ⟨by omega, ?_⟩
  rw [numbers, length]

/-- A transaction that has not written a counter has no record of its key, and does not notice when
    the counter changes. -/
lemma Balanced.commit {counter counter' : κ → Nat} {t : Transaction κ π α ε β}
    {debt : Option (κ × Nat)} (balanced : Balanced counter t debt)
    (unwritten : ∀ key, counter' key = counter key ∨ t.written key = none) :
    Balanced counter' t debt := by
  intro key
  obtain ⟨le, numbers⟩ := balanced key
  obtain same | none := unwritten key
  · simp only [Transaction.value, same] at *
    exact ⟨le, numbers⟩
  · simp only [Transaction.value, none, Option.getD_none, Nat.sub_self, List.range'_zero] at *
    exact ⟨Nat.le_refl _, numbers⟩

/-- The end of a transaction keeps the invariant if the others do not notice. -/
lemma Sound.remove (sound : Sound c) {id : Nat} {counter : κ → Nat} {table : List (Record κ π)}
    (gapless : ∀ key, numbersOf key table = List.range' 1 (counter key))
    (unnoticed : ∀ j u key, j ≠ id → c.active j = some u →
      counter key = c.counter key ∨ u.written key = none) :
    Sound ⟨counter, table, Function.update c.active id none⟩ where
  gapless := gapless
  exclusive := by
    intro i j t u at_i at_j ne key
    by_cases e_i : i = id
    · subst e_i
      simp at at_i
    by_cases e_j : j = id
    · subst e_j
      simp at at_j
    simp only [Function.update_of_ne e_i] at at_i
    simp only [Function.update_of_ne e_j] at at_j
    exact sound.exclusive at_i at_j ne key
  transactions := by
    intro i t at_i
    by_cases e_i : i = id
    · subst e_i
      simp at at_i
    simp only [Function.update_of_ne e_i] at at_i
    obtain ⟨debt, pays, balanced⟩ := sound.transactions at_i
    exact ⟨debt, pays, balanced.commit fun key => unnoticed i t key e_i at_i⟩

/-- What a commit does to the counter of a key and to its records. -/
lemma Sound.commits (sound : Sound c) {id : Nat} {t : Transaction κ π α ε β} {b : β}
    (active : c.active id = some t) (rest : t.rest = .ret (.ok b)) (key : κ) :
    t.value c.counter key = c.counter key + (recordsOf key t.inserted).length ∧
      numbersOf key t.inserted =
        List.range' (c.counter key + 1) (recordsOf key t.inserted).length := by
  obtain ⟨debt, pays, balanced⟩ := sound.transactions active
  rw [rest] at pays
  cases pays
  exact balanced.settled key

/-- The step lemma of sequenced logs. -/
lemma Sound.step (disciplined : ∀ body, admits body → Pays none body) (sound : Sound c)
    (step : Step admits c l c') : Sound c' := by
  cases step with
  | begins free admitted =>
    refine sound.update ?_ ?_
    · refine ⟨none, disciplined _ admitted, fun key => ⟨Nat.le_refl _, ?_⟩⟩
      simp [numbersOf, recordsOf, owed, Transaction.value]
    · exact fun _ _ _ _ _ => .inl rfl
  | @increment id t key k active rest unlocked =>
    obtain ⟨debt, pays, balanced⟩ := sound.transactions active
    rw [rest] at pays
    obtain ⟨rfl, pays⟩ := pays
    refine sound.update ⟨_, pays _, balanced.increment⟩ ?_
    intro j u key' ne at_j
    by_cases e : key' = key
    · subst e
      exact .inr (unlocked j u ne at_j)
    · simp only [Function.update_of_ne e]
      exact sound.exclusive active at_j ne.symm key'
  | @insert id t key number payload k active rest =>
    obtain ⟨debt, pays, balanced⟩ := sound.transactions active
    rw [rest] at pays
    obtain ⟨rfl, pays⟩ := pays
    refine sound.update ⟨none, pays, balanced.insert⟩ ?_
    intro j u key' ne at_j
    show t.written key' = none ∨ _
    exact sound.exclusive active at_j ne.symm key'
  | @other id t k a active rest =>
    obtain ⟨debt, pays, balanced⟩ := sound.transactions active
    rw [rest] at pays
    refine sound.update ⟨debt, pays a, balanced⟩ ?_
    intro j u key' ne at_j
    show t.written key' = none ∨ _
    exact sound.exclusive active at_j ne.symm key'
  | @commits id t b active rest =>
    refine sound.remove ?_ ?_
    · intro key
      obtain ⟨value, numbers⟩ := sound.commits active rest key
      rw [numbersOf_append, sound.gapless key, numbers, value, Nat.add_comm (c.counter key) 1]
      exact List.range'_append_1
    · intro j u key ne at_j
      obtain none | none := sound.exclusive active at_j ne.symm key
      · exact .inl (by simp [Transaction.value, none])
      · exact .inr none
  | fails active =>
    refine sound.remove sound.gapless ?_
    exact fun _ _ _ _ _ => .inl rfl

/-- The run lemma of sequenced logs. -/
lemma Sound.run (disciplined : ∀ body, admits body → Pays none body)
    (run : Reachable admits c) : Sound c := by
  induction run with
  | refl => exact .empty
  | tail _ step ih =>
    obtain ⟨l, step⟩ := step
    exact ih.step disciplined step

end SequencedLog
