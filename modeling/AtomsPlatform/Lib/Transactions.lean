import AtomsPlatform.Lib.Judgement
import AtomsPlatform.Lib.Table

/-!
# Transactions with locks

A database whose transactions read what is committed and what they have written themselves, as at the
isolation level READ COMMITTED. What a transaction writes is seen by others from its commit on. A lock is
held by one transaction until this transaction ends; a statement that waits for a lock is one that has not
been carried out yet.
-/

namespace Transactions
variable {D K : Type}

/-- A transaction that is open: what it has written so far, and the locks it holds. -/
structure Transaction (D K : Type) where
  number : Nat
  written : D → D := id
  locks : List K := []

/-- A database: what is committed, the open transactions, and the number of the next transaction. -/
structure Database (D K : Type) where
  committed : D
  opened : List (Transaction D K) := []
  next : Nat := 0

namespace Database
variable (db : Database D K)

/-- The open transaction of a number. -/
def find (n : Nat) : Option (Transaction D K) :=
  Table.lookup Transaction.number n db.opened

/-- A transaction is opened. -/
def start : Database D K :=
  { db with opened := db.opened ++ [{ number := db.next }], next := db.next + 1 }

/-- What a transaction does to itself. -/
def edit (n : Nat) (f : Transaction D K → Transaction D K) : Database D K :=
  { db with opened := Table.update Transaction.number n (fun _ => true) f db.opened }

/-- A transaction takes locks and writes. -/
def update (n : Nat) (ks : List K) (f : D → D) : Database D K :=
  db.edit n fun t => { t with written := fun d => f (t.written d), locks := ks ++ t.locks }

/-- A transaction takes a lock. -/
def lock (n : Nat) (k : K) : Database D K :=
  db.update n [k] id

/-- A transaction ends without an effect. -/
def close (n : Nat) : Database D K :=
  { db with opened := db.opened.filter fun t => t.number ≠ n }

/-- A transaction ends with its effect. -/
def commit (n : Nat) : Database D K :=
  match db.find n with
  | some t => { db.close n with committed := t.written db.committed }
  | none => db

/-- Whether no other transaction holds a lock. -/
def isFree [DecidableEq K] (n : Nat) (k : K) : Bool :=
  db.opened.all fun t => t.number = n ∨ k ∉ t.locks

end Database

section Sound
variable {db db' : Database D K} {n m : Nat} {t t' : Transaction D K} {k : K}

/-- The open transactions of a database: their numbers are unique and were given out, and no two of them
    hold the same lock. -/
structure Sound (db : Database D K) : Prop where
  unique : (db.opened.map Transaction.number).Nodup
  given : ∀ t ∈ db.opened, t.number < db.next
  exclusive : ∀ t ∈ db.opened, ∀ t' ∈ db.opened, t.number ≠ t'.number → ∀ k ∈ t.locks, k ∉ t'.locks

lemma number_of_find (found : db.find n = some t) : t.number = n :=
  Table.lookup_key found

lemma mem_of_find (found : db.find n = some t) : t ∈ db.opened :=
  Table.lookup_mem found

/-- Two open transactions do not hold the same lock. -/
lemma Sound.apart (sound : Sound db) (found : db.find n = some t) (found' : db.find m = some t')
    (ne : n ≠ m) (held : k ∈ t.locks) : k ∉ t'.locks := by
  apply sound.exclusive t (mem_of_find found) t' (mem_of_find found') _ k held
  rw [number_of_find found, number_of_find found']
  exact ne

lemma Sound.lt_next (sound : Sound db) (found : db.find n = some t) : n < db.next := by
  have given := sound.given t (mem_of_find found)
  rwa [number_of_find found] at given

/-- A new number is that of no transaction. -/
lemma Sound.find_next (sound : Sound db) : db.find db.next = none := by
  cases found : db.find db.next with
  | none => rfl
  | some t => exact absurd (sound.lt_next found) (Nat.lt_irrefl _)

section Edit
variable {f : Transaction D K → Transaction D K}

lemma find_edit (keeps : ∀ t, (f t).number = t.number) : (db.edit n f).find n = (db.find n).map f := by
  show Table.lookup _ _ (Table.update _ _ _ _ _) = _
  rw [Table.lookup_update fun t is => (keeps t).trans is]
  rfl

lemma find_edit_ne (keeps : ∀ t, (f t).number = t.number) (ne : m ≠ n) : (db.edit n f).find m = db.find m :=
  Table.lookup_update_ne (fun t is => (keeps t).trans is) ne

lemma find_update_ne {ks : List K} {g : D → D} (ne : m ≠ n) : (db.update n ks g).find m = db.find m :=
  find_edit_ne (f := fun t => { t with written := fun d => g (t.written d), locks := ks ++ t.locks })
    (fun _ => rfl) ne

/-- A transaction that was edited is what it was, or is the edited one. -/
lemma mem_edit (mem : t ∈ (db.edit n f).opened) :
    t ∈ db.opened ∨ ∃ t₀ ∈ db.opened, t₀.number = n ∧ t = f t₀ := by
  obtain ⟨t₀, mem₀, is⟩ := List.mem_map.mp mem
  by_cases own : t₀.number = n ∧ true = true
  · rw [if_pos own] at is
    exact .inr ⟨t₀, mem₀, own.1, is.symm⟩
  · rw [if_neg own] at is
    exact .inl (is ▸ mem₀)

/-- An edit that takes no lock keeps a database sound. -/
lemma Sound.edit (sound : Sound db) (keeps : ∀ t, (f t).number = t.number)
    (locks : ∀ t ∈ db.opened, t.number = n → ∀ k ∈ (f t).locks, k ∈ t.locks ∨
      ∀ t' ∈ db.opened, t'.number ≠ n → k ∉ t'.locks) : Sound (db.edit n f) where
  unique := by
    show (List.map Transaction.number (Table.update _ _ _ _ _)).Nodup
    rw [Table.keys_update fun t _ => keeps t]
    exact sound.unique
  given := by
    intro t mem
    rcases mem_edit mem with old | ⟨t₀, old, -, rfl⟩
    · exact sound.given t old
    · rw [keeps]
      exact sound.given t₀ old
  exclusive := by
    have held {t t' : Transaction D K} (mem : t ∈ db.opened) (own : t.number = n) (mem' : t' ∈ db.opened)
        (ne : t'.number ≠ n) : ∀ k ∈ (f t).locks, k ∉ t'.locks := by
      intro k mem_k
      rcases locks t mem own k mem_k with old | free
      · exact sound.exclusive t mem t' mem' (own ▸ ne.symm) k old
      · exact free t' mem' ne
    have other {t₀ : Transaction D K} {t : Transaction D K} (own : t₀.number = n)
        (ne : t.number ≠ (f t₀).number) : t.number ≠ n := by
      rw [keeps, own] at ne
      exact ne
    intro t mem t' mem' ne k mem_k
    rcases mem_edit mem with old | ⟨t₀, old, own, rfl⟩
    · rcases mem_edit mem' with old' | ⟨t₀', old', own', rfl⟩
      · exact sound.exclusive t old t' old' ne k mem_k
      · exact fun mem_k' => held old' own' old (other own' ne) k mem_k' mem_k
    · rcases mem_edit mem' with old' | ⟨t₀', old', own', rfl⟩
      · exact held old own old' (other own ne.symm) k mem_k
      · rw [keeps, keeps, own, own'] at ne
        exact absurd rfl ne

end Edit

lemma isFree_iff [DecidableEq K] :
    db.isFree n k = true ↔ ∀ t ∈ db.opened, t.number ≠ n → k ∉ t.locks := by
  rw [Database.isFree, List.all_eq_true]
  refine forall₂_congr fun t _ => ?_
  rw [decide_eq_true_eq, or_iff_not_imp_left]

/-- Locks that are free may be taken. -/
lemma Sound.update [DecidableEq K] (sound : Sound db) {ks : List K} {f : D → D}
    (free : ∀ k ∈ ks, db.isFree n k = true) : Sound (db.update n ks f) := by
  refine sound.edit (f := fun t => { t with written := fun d => f (t.written d), locks := ks ++ t.locks })
    (fun _ => rfl) ?_
  intro t mem own k mem_k
  rcases List.mem_append.mp mem_k with new | old
  · exact .inr (isFree_iff.mp (free k new))
  · exact .inl old

lemma mem_close (mem : t ∈ (db.close n).opened) : t ∈ db.opened ∧ t.number ≠ n := by
  obtain ⟨mem, ne⟩ := List.mem_filter.mp mem
  exact ⟨mem, of_decide_eq_true ne⟩

lemma Sound.close (sound : Sound db) : Sound (db.close n) where
  unique := sound.unique.sublist ((List.filter_sublist).map _)
  given t mem := sound.given t (mem_close mem).1
  exclusive t mem t' mem' := sound.exclusive t (mem_close mem).1 t' (mem_close mem').1

lemma find_close : (db.close n).find n = none := by
  cases found : (db.close n).find n with
  | none => rfl
  | some t => exact absurd (number_of_find found) (mem_close (mem_of_find found)).2

lemma find_close_ne (ne : m ≠ n) : (db.close n).find m = db.find m := by
  show List.find? _ (List.filter _ _) = List.find? _ _
  rw [List.find?_filter]
  congr 1
  funext t
  by_cases is : t.number = m
  · simp [is, ne]
  · simp [is]

lemma commit_some (found : db.find n = some t) :
    db.commit n = { db.close n with committed := t.written db.committed } := by
  rw [Database.commit, found]

lemma commit_none (missing : db.find n = none) : db.commit n = db := by
  rw [Database.commit, missing]

lemma Sound.commit (sound : Sound db) : Sound (db.commit n) := by
  cases found : db.find n with
  | none =>
    rw [commit_none found]
    exact sound
  | some t =>
    rw [commit_some found]
    exact ⟨sound.close.unique, sound.close.given, sound.close.exclusive⟩

lemma next_commit : (db.commit n).next = db.next := by
  unfold Database.commit
  split
  · rfl
  · rfl

lemma find_commit_ne (ne : m ≠ n) : (db.commit n).find m = db.find m := by
  cases found : db.find n with
  | none => rw [commit_none found]
  | some t =>
    rw [commit_some found]
    exact find_close_ne ne

lemma Sound.start (sound : Sound db) : Sound db.start where
  unique := by
    apply Table.nodup_append sound.unique
    intro t mem same
    exact absurd same (Nat.ne_of_lt (sound.given t mem))
  given := by
    intro t mem
    rcases List.mem_append.mp mem with old | new
    · exact Nat.lt_succ_of_lt (sound.given t old)
    · rw [List.mem_singleton.mp new]
      exact Nat.lt_succ_self _
  exclusive := by
    intro t mem t' mem' ne k mem_k
    rcases List.mem_append.mp mem with old | new
    · rcases List.mem_append.mp mem' with old' | new'
      · exact sound.exclusive t old t' old' ne k mem_k
      · rw [List.mem_singleton.mp new']
        exact List.not_mem_nil
    · rw [List.mem_singleton.mp new] at mem_k
      exact absurd mem_k List.not_mem_nil

/-- The transaction that was opened. -/
lemma Sound.find_start (sound : Sound db) : db.start.find db.next = some { number := db.next } :=
  Table.lookup_append_new sound.find_next rfl

lemma find_start_ne (ne : n ≠ db.next) : db.start.find n = db.find n :=
  Table.lookup_append_ne ne.symm

end Sound

section Frames
variable [DecidableEq K] {db db' : Database D K} {n m : Nat} {P : Transaction D K → Prop}

/-- What a thread does that owns the transactions of some numbers, and may commit some of them. Any
    transaction may come to its end; a statement may also be a transaction of its own, which leads to tables
    that satisfy `direct`. -/
inductive Moves (own commits : Nat → Prop) (direct : D → Prop) (db : Database D K) : Database D K → Prop where
  | kept : Moves own commits direct db db
  | started : Moves own commits direct db db.start
  | ended {n : Nat} : Moves own commits direct db (db.close n)
  | updated {n : Nat} {ks : List K} {f : D → D} : own n → (∀ k ∈ ks, db.isFree n k = true) →
    Moves own commits direct db (db.update n ks f)
  | committed {n : Nat} : own n → commits n → Moves own commits direct db (db.commit n)
  | wrote {d : D} : direct d → Moves own commits direct db { db with committed := d }

section Moves
variable {own commits : Nat → Prop} {direct : D → Prop}

lemma Moves.sound (moves : Moves own commits direct db db') (sound : Sound db) : Sound db' := by
  cases moves with
  | kept => exact sound
  | started => exact sound.start
  | ended => exact sound.close
  | updated _ free => exact sound.update free
  | committed => exact sound.commit
  | wrote => exact ⟨sound.unique, sound.given, sound.exclusive⟩

/-- What is committed changes by a commit, or by a statement that is a transaction of its own. -/
lemma Moves.committed_cases (moves : Moves own commits direct db db') :
    db'.committed = db.committed ∨ direct db'.committed ∨
      ∃ n t, own n ∧ commits n ∧ db.find n = some t ∧ db'.committed = t.written db.committed := by
  cases moves with
  | kept | started | ended | updated => exact .inl rfl
  | wrote holds => exact .inr (.inl holds)
  | @committed n is may =>
    cases found : db.find n with
    | none =>
      rw [commit_none found]
      exact .inl rfl
    | some t =>
      refine .inr (.inr ⟨n, t, is, may, found, ?_⟩)
      rw [commit_some found]

lemma Moves.next_le (moves : Moves own commits direct db db') : db.next ≤ db'.next := by
  cases moves with
  | kept | ended | updated | wrote => exact Nat.le_refl _
  | started => exact Nat.le_succ _
  | committed => exact Nat.le_of_eq next_commit.symm

/-- Transactions of other threads are left alone. -/
lemma Moves.find_other (moves : Moves own commits direct db db') (other : ¬own n) (given : n < db.next)
    {t : Transaction D K} (found : db'.find n = some t) : db.find n = some t := by
  have ne {m : Nat} (is : own m) : n ≠ m := by
    rintro rfl
    exact other is
  cases moves with
  | kept | wrote => exact found
  | started => rwa [find_start_ne (Nat.ne_of_lt given)] at found
  | @ended m =>
    by_cases same : n = m
    · rw [same, find_close] at found
      cases found
    · rwa [find_close_ne same] at found
  | updated is => rwa [find_update_ne (ne is)] at found
  | committed is => rwa [find_commit_ne (ne is)] at found

end Moves

/-- What is known of a transaction as long as it is open. -/
def While (n : Nat) (P : Transaction D K → Prop) (db : Database D K) : Prop :=
  n < db.next ∧ ∀ t, db.find n = some t → P t

omit [DecidableEq K] in
lemma While.mono {Q : Transaction D K → Prop} (known : While n P db) (imp : ∀ t, P t → Q t) : While n Q db :=
  ⟨known.1, fun t found => imp t (known.2 t found)⟩

/-- It stays known whatever other threads do, if it does so for the tables. -/
lemma While.other {own commits : Nat → Prop} {direct : D → Prop} {Q : Transaction D K → Prop}
    (known : While n P db) (moves : Moves own commits direct db db') (other : ¬own n)
    (imp : ∀ t, db.find n = some t → P t → Q t) : While n Q db' := by
  refine ⟨Nat.lt_of_lt_of_le known.1 moves.next_le, fun t found => ?_⟩
  have before := moves.find_other other known.1 found
  exact imp t before (known.2 t before)

omit [DecidableEq K] in
lemma While.start (known : While n P db) : While n P db.start := by
  refine ⟨Nat.lt_succ_of_lt known.1, fun t found => ?_⟩
  rw [find_start_ne (Nat.ne_of_lt known.1)] at found
  exact known.2 t found

omit [DecidableEq K] in
lemma Sound.started (sound : Sound db) : While db.next (fun t => t = { number := db.next }) db.start := by
  refine ⟨Nat.lt_succ_self _, fun t found => ?_⟩
  rw [sound.find_start] at found
  exact (Option.some.inj found).symm

omit [DecidableEq K] in
lemma While.close (known : While n P db) : While n P (db.close m) := by
  refine ⟨known.1, fun t found => ?_⟩
  by_cases same : n = m
  · subst same
    rw [find_close] at found
    cases found
  · rw [find_close_ne same] at found
    exact known.2 t found

omit [DecidableEq K] in
/-- What is known of a transaction that takes locks and writes. -/
lemma While.update {Q : Transaction D K → Prop} {ks : List K} {f : D → D} (known : While n P db)
    (imp : ∀ t, P t → Q { t with written := fun d => f (t.written d), locks := ks ++ t.locks }) :
    While n Q (db.update n ks f) := by
  refine ⟨known.1, fun t found => ?_⟩
  have edited : (db.update n ks f).find n = (db.find n).map fun t =>
      { t with written := fun d => f (t.written d), locks := ks ++ t.locks } := find_edit fun _ => rfl
  rw [edited] at found
  obtain ⟨t₀, found₀, rfl⟩ := Option.map_eq_some_iff.mp found
  exact imp t₀ (known.2 t₀ found₀)

omit [DecidableEq K] in
lemma Sound.empty {d : D} : Sound ({ committed := d } : Database D K) :=
  ⟨List.nodup_nil, nofun, nofun⟩

end Frames

/-- How a call ends: it has its effect, it has none, or it has its effect and the answer is lost. -/
inductive Fate (ε : Type) where
  | succeeds
  | fails (error : ε)
  | unacknowledged (error : ε)
deriving DecidableEq, Repr

section Statements
variable {ε α : Type}

/-- An answer, unless it is lost. -/
def Fate.answer (fate : Fate ε) (a : α) : Except ε α :=
  match fate with
  | .succeeds => .ok a
  | .fails error | .unacknowledged error => .error error

namespace Database
variable (db : Database D K) (fate : Fate ε) (closed : ε) (n : Nat)

/-- A transaction is asked for. -/
def begin : Except ε Nat × Database D K :=
  match fate with
  | .succeeds => (.ok db.next, db.start)
  | .fails error => (.error error, db)
  | .unacknowledged error => (.error error, db.start)

/-- A statement of a transaction, which has the error `closed` when the transaction has ended. -/
def within (statement : Transaction D K → Except ε α × Database D K) : Except ε α × Database D K :=
  match db.find n, fate with
  | none, _ => (.error closed, db)
  | some _, .fails error | some _, .unacknowledged error => (.error error, db)
  | some t, .succeeds => statement t

/-- A transaction is told to commit. -/
def finish : Except ε Unit × Database D K :=
  match db.find n, fate with
  | none, _ => (.error closed, db)
  | some _, .succeeds => (.ok (), db.commit n)
  | some _, .fails error => (.error error, db.close n)
  | some _, .unacknowledged error => (.error error, db.commit n)

end Database

variable {db : Database D K} {fate : Fate ε} {closed : ε} {n : Nat}

/-- An answer that is not lost. -/
lemma Fate.answer_ok {a b : α} (is : fate.answer a = .ok b) : b = a := by
  cases fate with
  | succeeds => exact (Except.ok.inj is).symm
  | fails | unacknowledged => cases is

lemma begin_cases : (∃ error, db.begin fate = (.error error, db) ∨ db.begin fate = (.error error, db.start)) ∨
    db.begin fate = (.ok db.next, db.start) := by
  cases fate with
  | succeeds => exact .inr rfl
  | fails error => exact .inl ⟨error, .inl rfl⟩
  | unacknowledged error => exact .inl ⟨error, .inr rfl⟩

/-- A statement is refused, or it is carried out. -/
lemma within_cases {statement : Transaction D K → Except ε α × Database D K} :
    (∃ error, db.within fate closed n statement = (.error error, db)) ∨
      ∃ t, db.find n = some t ∧ db.within fate closed n statement = statement t := by
  unfold Database.within
  cases found : db.find n with
  | none => exact .inl ⟨_, rfl⟩
  | some t =>
    cases fate with
    | succeeds => exact .inr ⟨t, rfl, rfl⟩
    | fails error | unacknowledged error => exact .inl ⟨error, rfl⟩

lemma finish_cases : (∃ error, (db.finish fate closed n).1 = .error error) ∨
    ∃ t, db.find n = some t ∧ db.finish fate closed n = (.ok (), db.commit n) := by
  unfold Database.finish
  cases found : db.find n with
  | none => exact .inl ⟨_, rfl⟩
  | some t =>
    cases fate with
    | succeeds => exact .inr ⟨t, rfl, rfl⟩
    | fails error | unacknowledged error => exact .inl ⟨error, rfl⟩

section Moves
variable [DecidableEq K] {own commits : Nat → Prop} {direct : D → Prop}

lemma Moves.begin : Moves own commits direct db (db.begin fate).2 := by
  cases fate with
  | succeeds | unacknowledged => exact .started
  | fails => exact .kept

lemma Moves.within {statement : Transaction D K → Except ε α × Database D K}
    (moves : ∀ t, db.find n = some t → Moves own commits direct db (statement t).2) :
    Moves own commits direct db (db.within fate closed n statement).2 := by
  rcases @within_cases _ _ _ _ db fate closed n statement with ⟨error, is⟩ | ⟨t, found, is⟩
  · rw [is]
    exact .kept
  · rw [is]
    exact moves t found

lemma Moves.finish (is : own n) (may : commits n) :
    Moves own commits direct db (db.finish fate closed n).2 := by
  unfold Database.finish
  cases db.find n with
  | none => exact .kept
  | some t =>
    cases fate with
    | succeeds | unacknowledged => exact .committed is may
    | fails => exact .ended

/-- A lock that is free is taken. -/
lemma Moves.took {k : K} {f : D → D} (is : own n) (free : db.isFree n k = true) :
    Moves own commits direct db (db.update n [k] f) := by
  refine .updated is fun k' mem => ?_
  rw [List.mem_singleton.mp mem]
  exact free

end Moves

end Statements
end Transactions

namespace Interleaving
variable {Op : Type} {Res : Op → Type} {ε α X : Type}

/-- A program in a transaction, which is rolled back when it fails. -/
def inTransaction (start : Fallible Op Res ε Nat) (commit rollback : Nat → Fallible Op Res ε Unit)
    (body : Nat → Fallible Op Res ε α) : Fallible Op Res ε α := do
  let n ← start
  let a ← tryCatch (body n) fun error => do
    tryCatch (rollback n) fun _ => pure ()
    throw error
  commit n
  pure a

/-- The rule of transactions. -/
lemma Triple.inTransaction {J : Judgement Op (fun o => Except ε (Res o)) X} {P : X → Prop} {Q : α → X → Prop}
    {E : ε → X → Prop} (Begun Failed : Nat → X → Prop) (Done : Nat → α → X → Prop)
    {start : Fallible Op Res ε Nat} {commit rollback : Nat → Fallible Op Res ε Unit}
    {body : Nat → Fallible Op Res ε α} (begins : Triple J P start Begun E)
    (runs : ∀ n, Triple J (Begun n) (body n) (Done n) fun _ => Failed n)
    (undoes : ∀ n error, Triple J (Failed n) (rollback n) (fun _ => E error) fun _ => E error)
    (commits : ∀ n a, Triple J (Done n a) (commit n) (fun _ => Q a) E) :
    Triple J P (inTransaction start commit rollback body) Q E := by
  apply Triple.bind begins
  intro n
  apply Triple.bind (R := Done n)
  · apply Triple.tryCatch (runs n)
    intro error
    apply Triple.bind (R := fun _ => E error)
    · apply Triple.tryCatch (undoes n error)
      exact fun _ => .pure fun _ holds => holds
    · exact fun _ => .throw fun _ holds => holds
  · intro a
    exact .bind (commits n a) fun _ => .pure fun _ holds => holds

end Interleaving
