import AtomsPlatform.Lib.Judgement

/-!
# Runs with their history

`Traced` is `Reaches` with the history kept: each step with the configuration it was taken in. What a
thread has done is `calls`, read off the history, and it is what the thread's program did (`Leads`).
`Accounts` judges a program by its own calls alone: "before this call the program has made that call,
and was answered so". By `Traced.accounted` this holds of every thread in every history.
-/

namespace Interleaving
variable {Op : Type} {Ans : Op → Type} {σ τ ω α β : Type}

/-- A call with its answer. -/
abbrev Event (Op : Type) (Ans : Op → Type) : Type :=
  (o : Op) × Ans o

section Accounts

/-- The judgement by the calls made so far: before each call, `Φ` holds of them and of the call. -/
def accounting (Φ : List (Event Op Ans) → Op → Prop) : Judgement Op Ans (List (Event Op Ans)) where
  call o K h := Φ h o ∧ ∀ r, K r (h ++ [⟨o, r⟩])
  mono imp call := ⟨call.1, fun r => imp _ _ (call.2 r)⟩

variable {Res : Op → Type} {ε : Type}
  {Φ : List (Event Op fun o => Except ε (Res o)) → Op → Prop}

/-- Hoare triples on the calls made so far. -/
abbrev Accounts (Φ : List (Event Op fun o => Except ε (Res o)) → Op → Prop)
    (P : List (Event Op fun o => Except ε (Res o)) → Prop) (p : Fallible Op Res ε α)
    (Q : α → List (Event Op fun o => Except ε (Res o)) → Prop)
    (E : ε → List (Event Op fun o => Except ε (Res o)) → Prop) : Prop :=
  Triple (accounting Φ) P p Q E

/-- The rule of calls. -/
lemma Accounts.call {o : Op} {P : List (Event Op fun o => Except ε (Res o)) → Prop}
    {Q : Res o → List (Event Op fun o => Except ε (Res o)) → Prop}
    {E : ε → List (Event Op fun o => Except ε (Res o)) → Prop}
    (before : ∀ h, P h → Φ h o) (onOk : ∀ h a, P h → Q a (h ++ [⟨o, .ok a⟩]))
    (onError : ∀ h e, P h → E e (h ++ [⟨o, .error e⟩])) : Accounts Φ P (invoke o) Q E := by
  refine .invoke fun h holds => ⟨before h holds, ?_⟩
  rintro (e | a)
  · exact onError h e holds
  · exact onOk h a holds

/-- The calls that lead from one program to another. -/
inductive Prog.Leads : Prog Op Ans α → List (Event Op Ans) → Prog Op Ans α → Prop where
  | nil {p} : Leads p [] p
  | snoc {p h o k} (r : Ans o) : Leads p h (.call o k) → Leads p (h ++ [⟨o, r⟩]) (k r)

/-- What a program leads to is accounted for by the calls in between. -/
lemma Prog.Leads.satisfies {Φ : List (Event Op Ans) → Op → Prop} {p q : Prog Op Ans α}
    {h : List (Event Op Ans)} {Q : α → List (Event Op Ans) → Prop} (leads : p.Leads h q)
    (sat : p.Satisfies (accounting Φ) Q []) : q.Satisfies (accounting Φ) Q h := by
  induction leads with
  | nil => exact sat
  | snoc r _ ih => exact ih.2 r

end Accounts

/-- Where a list with a last element is split. -/
lemma snoc_eq_append_cons {α : Type} {x y : α} {xs ys zs : List α} :
    xs ++ [x] = ys ++ y :: zs ↔
      (zs = [] ∧ xs = ys ∧ x = y) ∨ ∃ zs', zs = zs' ++ [x] ∧ xs = ys ++ y :: zs' := by
  constructor
  · intro e
    obtain rfl | ⟨zs', z, rfl⟩ := List.eq_nil_or_concat zs
    · obtain ⟨rfl, last⟩ := List.append_inj' e rfl
      cases last
      exact .inl ⟨rfl, rfl, rfl⟩
    · rw [List.concat_eq_append, ← List.cons_append, ← List.append_assoc] at e
      obtain ⟨init, last⟩ := List.append_inj' e rfl
      cases last
      exact .inr ⟨zs', List.concat_eq_append, init⟩
  · rintro (⟨rfl, rfl, rfl⟩ | ⟨zs', rfl, rfl⟩)
    · rfl
    · rw [List.append_assoc, List.cons_append]

section Since
variable {α : Type} {p : α → Bool} {x : α} {xs ys : List α}

/-- What comes after the last element that satisfies a test, the newest first. -/
def since (p : α → Bool) (xs : List α) : List α :=
  xs.reverse.takeWhile fun x => !p x

lemma since_snoc : since p (xs ++ [x]) = if p x = true then [] else x :: since p xs := by
  rw [since, List.reverse_append, List.reverse_singleton, List.singleton_append,
    List.takeWhile_cons]
  cases p x <;> rfl

lemma since_split (last : p x = true) (rest : ∀ y ∈ ys, p y = false) :
    since p (xs ++ x :: ys) = ys.reverse := by
  have passed : ∀ y ∈ ys.reverse, (!p y) = true := by
    intro y mem
    rw [rest y (List.mem_reverse.mp mem)]
    rfl
  rw [since, List.reverse_append, List.reverse_cons, List.append_assoc, List.singleton_append,
    List.takeWhile_append_of_pos passed, List.takeWhile_cons, last]
  exact List.append_nil _

end Since

namespace System
variable {S : System Op Ans σ τ ω} {G : Config Op Ans σ τ ω → S.Label → Prop}
  {c₀ c c₁ : Config Op Ans σ τ ω} {h h₁ h₂ : List (Config Op Ans σ τ ω × S.Label)} {l : S.Label}

/-- Runs with their history. -/
inductive Traced (S : System Op Ans σ τ ω) (G : Config Op Ans σ τ ω → S.Label → Prop)
    (c₀ : Config Op Ans σ τ ω) : List (Config Op Ans σ τ ω × S.Label) → Config Op Ans σ τ ω → Prop
    where
  | nil : Traced S G c₀ [] c₀
  | snoc {h c l c'} : Traced S G c₀ h c → G c l → S.Step c l c' → Traced S G c₀ (h ++ [(c, l)]) c'

lemma Traced.reaches (traced : S.Traced G c₀ h c) : S.Reaches G c₀ c := by
  induction traced with
  | nil => exact .refl
  | snoc _ guard step ih => exact ih.tail ⟨_, guard, step⟩

lemma Reaches.traced (run : S.Reaches G c₀ c) : ∃ h, S.Traced G c₀ h c := by
  induction run with
  | refl => exact ⟨[], .nil⟩
  | tail _ st ih =>
    obtain ⟨h, traced⟩ := ih
    obtain ⟨l, guard, step⟩ := st
    exact ⟨_, traced.snoc guard step⟩

/-- Every step of a history was taken at the end of the history before it. -/
lemma Traced.split (traced : S.Traced G c₀ h c) (e : h = h₁ ++ (c₁, l) :: h₂) :
    S.Traced G c₀ h₁ c₁ ∧ G c₁ l ∧ ∃ c₂, S.Step c₁ l c₂ ∧ S.Reaches G c₂ c := by
  induction traced generalizing h₂ with
  | nil => cases h₁ <;> cases e
  | @snoc h c l' c' traced guard step ih =>
    obtain rfl | ⟨h₂, last, rfl⟩ := List.eq_nil_or_concat h₂
    · obtain ⟨rfl, same⟩ := List.append_inj' e rfl
      cases same
      exact ⟨traced, guard, c', step, .refl⟩
    · rw [List.concat_eq_append, ← List.cons_append, ← List.append_assoc] at e
      obtain ⟨e, -⟩ := List.append_inj' e rfl
      obtain ⟨traced₁, guard₁, c₂, step₁, run⟩ := ih e
      exact ⟨traced₁, guard₁, c₂, step₁, run.tail ⟨l', guard, step⟩⟩

/-- The rest of a history is a history of its own. -/
lemma Traced.rest (traced : S.Traced G c₀ h c) (e : h = h₁ ++ (c₁, l) :: h₂) :
    S.Traced G c₁ ((c₁, l) :: h₂) c := by
  induction traced generalizing h₂ with
  | nil => cases h₁ <;> cases e
  | @snoc h c l' c' traced guard step ih =>
    obtain ⟨rfl, rfl, same⟩ | ⟨h₂, rfl, earlier⟩ := snoc_eq_append_cons.mp e
    · cases same
      exact Traced.snoc .nil guard step
    · exact (ih earlier).snoc guard step

/-- The configuration that a history which ends in `c` is in after its part `h₁`. -/
def Passes (h : List (Config Op Ans σ τ ω × S.Label)) (c : Config Op Ans σ τ ω)
    (h₁ : List (Config Op Ans σ τ ω × S.Label)) (c₁ : Config Op Ans σ τ ω) : Prop :=
  (h₁ = h ∧ c₁ = c) ∨ ∃ l h₂, h = h₁ ++ (c₁, l) :: h₂

/-- A property of histories that holds at the start, and that a step keeps exactly if it satisfies
    `D`, holds all along exactly if all steps satisfy `D`. -/
lemma Traced.throughout_guarded_iff
    {P : List (Config Op Ans σ τ ω × S.Label) → Config Op Ans σ τ ω → Prop}
    {D : List (Config Op Ans σ τ ω × S.Label) → Config Op Ans σ τ ω × S.Label → Prop}
    (start : P [] c₀)
    (step : ∀ {h c l c'}, S.Traced G c₀ h c → G c l → S.Step c l c' → P h c →
      (P (h ++ [(c, l)]) c' ↔ D h (c, l)))
    (traced : S.Traced G c₀ h c) :
    (∀ h₁ c₁, Passes h c h₁ c₁ → P h₁ c₁) ↔ ∀ h₁ e h₂, h = h₁ ++ e :: h₂ → D h₁ e := by
  induction traced with
  | nil =>
    constructor
    · intro _ h₁ e h₂ split
      cases h₁ <;> cases split
    · rintro _ h₁ c₁ (⟨rfl, rfl⟩ | ⟨l, h₂, split⟩)
      · exact start
      · cases h₁ <;> cases split
  | @snoc h c l c' traced guard st ih =>
    constructor
    · intro holds h₁ e h₂ split
      have before : ∀ h₁ c₁, Passes h c h₁ c₁ → P h₁ c₁ := by
        rintro h₁ c₁ (⟨rfl, rfl⟩ | ⟨l₁, h₂, rfl⟩)
        · exact holds _ _ (.inr ⟨l, [], rfl⟩)
        · exact holds _ _ (.inr ⟨l₁, h₂ ++ [(c, l)], by rw [List.append_assoc, List.cons_append]⟩)
      obtain ⟨rfl, rfl, rfl⟩ | ⟨h₂, rfl, earlier⟩ := snoc_eq_append_cons.mp split
      · exact (step traced guard st (before _ _ (.inl ⟨rfl, rfl⟩))).mp (holds _ _ (.inl ⟨rfl, rfl⟩))
      · exact ih.mp before _ _ _ earlier
    · intro allowed
      have earlier : ∀ h₁ e h₂, h = h₁ ++ e :: h₂ → D h₁ e := by
        intro h₁ e h₂ split
        exact allowed h₁ e (h₂ ++ [(c, l)]) (by rw [split, List.append_assoc, List.cons_append])
      have before := ih.mpr earlier
      rintro h₁ c₁ (⟨rfl, rfl⟩ | ⟨l₁, h₂, split⟩)
      · exact (step traced guard st (before _ _ (.inl ⟨rfl, rfl⟩))).mpr (allowed h (c, l) [] rfl)
      · obtain ⟨-, rfl, same⟩ | ⟨h₂, -, within⟩ := snoc_eq_append_cons.mp split
        · cases same
          exact before _ _ (.inl ⟨rfl, rfl⟩)
        · exact before _ _ (.inr ⟨l₁, h₂, within⟩)

/-- The same for steps of any kind. -/
lemma Traced.throughout_iff {P : List (Config Op Ans σ τ ω × S.Label) → Config Op Ans σ τ ω → Prop}
    {D : List (Config Op Ans σ τ ω × S.Label) → Config Op Ans σ τ ω × S.Label → Prop}
    (start : P [] c₀)
    (step : ∀ {h c l c'}, S.Traced G c₀ h c → S.Step c l c' → P h c →
      (P (h ++ [(c, l)]) c' ↔ D h (c, l)))
    (traced : S.Traced G c₀ h c) :
    (∀ h₁ c₁, Passes h c h₁ c₁ → P h₁ c₁) ↔ ∀ h₁ e h₂, h = h₁ ++ e :: h₂ → D h₁ e :=
  traced.throughout_guarded_iff start fun traced _ => step traced

/-- A history whose steps all satisfy a guard is one under this guard. -/
lemma Traced.guarded (traced : S.Traced S.Unguarded c₀ h c)
    (all : ∀ entry ∈ h, G entry.1 entry.2) : S.Traced G c₀ h c := by
  induction traced with
  | nil => exact .nil
  | snoc _ _ step ih =>
    have before := ih fun entry mem => all entry (List.mem_append_left _ mem)
    exact before.snoc (all _ (List.mem_append_right _ List.mem_cons_self)) step

/-- What a thread did in a step. -/
def callOf (i : Nat) : Config Op Ans σ τ ω × S.Label → Option (Event Op Ans)
  | (c, .act j o ch) => if j = i then some ⟨o, (S.perform o ch c.store).1⟩ else none
  | (_, .spawn _) => none

/-- What a thread did in a history. -/
def calls (i : Nat) (h : List (Config Op Ans σ τ ω × S.Label)) : List (Event Op Ans) :=
  h.filterMap (callOf i)

lemma calls_spawn {i : Nat} {tag : τ} : calls i (h ++ [(c, .spawn tag)]) = calls i h := by
  rw [calls, List.filterMap_append]
  exact List.append_nil _

lemma calls_act {i : Nat} {o : Op} {ch : S.Choice} :
    calls i (h ++ [(c, .act i o ch)]) = calls i h ++ [⟨o, (S.perform o ch c.store).1⟩] := by
  rw [calls, List.filterMap_append, List.filterMap_cons, callOf, if_pos rfl]
  rfl

lemma calls_act_ne {i j : Nat} {o : Op} {ch : S.Choice} (ne : j ≠ i) :
    calls i (h ++ [(c, .act j o ch)]) = calls i h := by
  rw [calls, List.filterMap_append, List.filterMap_cons, callOf, if_neg ne]
  exact List.append_nil _

lemma callOf_eq {i : Nat} {o : Op} {r : Ans o} {l : S.Label} (did : callOf i (c, l) = some ⟨o, r⟩) :
    ∃ ch, l = .act i o ch ∧ (S.perform o ch c.store).1 = r := by
  cases l with
  | spawn => cases did
  | act j o' ch =>
    simp only [callOf] at did
    split at did
    · rename_i same
      subst same
      cases did
      exact ⟨ch, rfl, rfl⟩
    · cases did

/-- What a thread did is found in the history. -/
lemma mem_calls {i : Nat} {o : Op} {r : Ans o} (mem : ⟨o, r⟩ ∈ calls i h) :
    ∃ h₁ c₁ ch h₂, h = h₁ ++ (c₁, .act i o ch) :: h₂ ∧ (S.perform o ch c₁.store).1 = r := by
  obtain ⟨⟨c₁, l⟩, mem, did⟩ := List.mem_filterMap.mp mem
  obtain ⟨ch, rfl, answer⟩ := callOf_eq did
  obtain ⟨h₁, h₂, split⟩ := List.append_of_mem mem
  exact ⟨h₁, c₁, ch, h₂, split, answer⟩

/-- What a thread did is split where the history is split. -/
lemma calls_split {i : Nat} {o : Op} {r : Ans o} {e e' : List (Event Op Ans)}
    (did : calls i h = e ++ ⟨o, r⟩ :: e') :
    ∃ h₁ c₁ ch h₂, h = h₁ ++ (c₁, .act i o ch) :: h₂ ∧ (S.perform o ch c₁.store).1 = r ∧
      calls i h₁ = e ∧ calls i h₂ = e' := by
  obtain ⟨l₁, l₂, rfl, before, called⟩ := List.filterMap_eq_append_iff.mp did
  obtain ⟨l₃, ⟨c₁, l⟩, l₄, rfl, quiet, did, rest⟩ := List.filterMap_eq_cons_iff.mp called
  obtain ⟨ch, rfl, answer⟩ := callOf_eq did
  refine ⟨l₁ ++ l₃, c₁, ch, l₄, (List.append_assoc ..).symm, answer, ?_, rest⟩
  rw [calls, List.filterMap_append, before, List.filterMap_eq_nil_iff.mpr quiet, List.append_nil]

/-- The last call of a thread, found in the history: the thread has not been scheduled since. -/
lemma calls_snoc {i : Nat} {o : Op} {r : Ans o} {e : List (Event Op Ans)}
    (last : calls i h = e ++ [⟨o, r⟩]) :
    ∃ h₁ c₁ ch h₂, h = h₁ ++ (c₁, .act i o ch) :: h₂ ∧ (S.perform o ch c₁.store).1 = r ∧
      calls i h₂ = [] := by
  obtain ⟨h₁, c₁, ch, h₂, split, answer, -, rest⟩ := calls_split last
  exact ⟨h₁, c₁, ch, h₂, split, answer, rest⟩

lemma calls_append {i : Nat} : calls i (h₁ ++ h₂) = calls i h₁ ++ calls i h₂ :=
  List.filterMap_append

lemma mem_calls_of_mem {i : Nat} {o : Op} {ch : S.Choice} (mem : (c, .act i o ch) ∈ h) :
    ⟨o, (S.perform o ch c.store).1⟩ ∈ calls i h :=
  List.mem_filterMap.mpr ⟨_, mem, if_pos rfl⟩

/-- Where a thread made a call, it was about to make it. -/
lemma Traced.pending {i : Nat} {o : Op} {ch : S.Choice} (traced : S.Traced G c₀ h c)
    (e : h = h₁ ++ (c₁, .act i o ch) :: h₂) : ∃ t k, c₁.threads[i]? = some ⟨t, .call o k⟩ := by
  obtain ⟨-, -, c₂, step, -⟩ := traced.split e
  cases step with
  | act _ at_i => exact ⟨_, _, at_i⟩

/-- Threads that do not exist yet have done nothing, and the others are where their calls lead. -/
lemma Traced.leads (traced : S.Traced G c₀ h c) (start : c₀.threads = []) :
    (∀ i, c.threads.length ≤ i → calls i h = []) ∧
      ∀ (i : Nat) t, c.threads[i]? = some t → (S.body t.tag).Leads (calls i h) t.prog := by
  induction traced with
  | nil =>
    refine ⟨fun i _ => rfl, fun i t at_i => ?_⟩
    rw [start] at at_i
    cases at_i
  | @snoc h c l c' traced guard step ih =>
    obtain ⟨none, leads⟩ := ih
    cases step with
    | @act j tag o k ch at_j =>
      have lt : j < c.threads.length := (List.getElem?_eq_some_iff.mp at_j).1
      constructor
      · intro i le
        rw [List.length_set] at le
        have ne : j ≠ i := by omega
        rw [calls_act_ne ne]
        exact none i le
      · intro i t at_i
        rcases getElem?_of_set at_i with ⟨rfl, rfl⟩ | ⟨ne, at_i⟩
        · rw [calls_act]
          exact (leads j _ at_j).snoc _
        · rw [calls_act_ne ne]
          exact leads i t at_i
    | @spawn tag adm =>
      constructor
      · intro i le
        rw [List.length_append] at le
        rw [calls_spawn]
        exact none i (by omega)
      · intro i t at_i
        rw [calls_spawn]
        rcases getElem?_of_snoc at_i with ⟨-, at_i⟩ | ⟨rfl, rfl⟩
        · exact leads i t at_i
        · rw [none _ (Nat.le_refl _)]
          exact .nil

/-- Every call a thread is about to make is accounted for by what it did. -/
lemma Traced.accounted {Φ : List (Event Op Ans) → Op → Prop} (traced : S.Traced G c₀ h c)
    (start : c₀.threads = []) {i : Nat} {t : τ} {o : Op} {k : Ans o → Prog Op Ans ω}
    (at_i : c.threads[i]? = some ⟨t, .call o k⟩) {Q : ω → List (Event Op Ans) → Prop}
    (sat : (S.body t).Satisfies (accounting Φ) Q []) : Φ (calls i h) o :=
  (((traced.leads start).2 i _ at_i).satisfies sat).1

/-- Where a thread made a call, it had the tag that it has now. -/
lemma Traced.pending_tag {i : Nat} {t : τ} {p : Prog Op Ans ω} {o : Op} {ch : S.Choice}
    (traced : S.Traced G c₀ h c) (at_i : c.threads[i]? = some ⟨t, p⟩)
    (e : h = h₁ ++ (c₁, .act i o ch) :: h₂) : ∃ k, c₁.threads[i]? = some ⟨t, .call o k⟩ := by
  obtain ⟨-, -, c₂, step, run⟩ := traced.split e
  obtain ⟨t', k, at_i₁⟩ := traced.pending e
  obtain ⟨p₂, at_i₂⟩ := step.tag_kept at_i₁
  obtain ⟨p₃, at_i₃⟩ := run.tag_kept at_i₂
  cases at_i.symm.trans at_i₃
  exact ⟨k, at_i₁⟩

/-- Every call a thread has made is accounted for by what it had done before. -/
lemma Traced.accounted_step {Φ : List (Event Op Ans) → Op → Prop} (traced : S.Traced G c₀ h c)
    (start : c₀.threads = []) {i : Nat} {t : τ} {p : Prog Op Ans ω} {o : Op} {ch : S.Choice}
    (at_i : c.threads[i]? = some ⟨t, p⟩) (e : h = h₁ ++ (c₁, .act i o ch) :: h₂)
    {Q : ω → List (Event Op Ans) → Prop} (sat : (S.body t).Satisfies (accounting Φ) Q []) :
    Φ (calls i h₁) o := by
  obtain ⟨k, at_i₁⟩ := traced.pending_tag at_i e
  exact (traced.split e).1.accounted start at_i₁ sat

/-- How a thread ended is accounted for by what it did. -/
lemma Traced.concluded {Φ : List (Event Op Ans) → Op → Prop} (traced : S.Traced G c₀ h c)
    (start : c₀.threads = []) {i : Nat} {t : τ} {r : ω}
    (at_i : c.threads[i]? = some ⟨t, .ret r⟩) {Q : ω → List (Event Op Ans) → Prop}
    (sat : (S.body t).Satisfies (accounting Φ) Q []) : Q r (calls i h) :=
  ((traced.leads start).2 i _ at_i).satisfies sat

section Execution
variable [∀ s t, Decidable (S.admits s t)]

/-- Carries a schedule out, and keeps the history. -/
def record (c : Config Op Ans σ τ ω) :
    List S.Move → Option (List (Config Op Ans σ τ ω × S.Label) × Config Op Ans σ τ ω)
  | [] => some ([], c)
  | m :: ms =>
    (labelOf c m).bind fun l => (S.next c m).bind fun c' =>
      (record c' ms).map fun recorded => ((c, l) :: recorded.1, recorded.2)

/-- What is recorded is a history of the run. -/
lemma record_traced {ms : List S.Move} (traced : S.Traced S.Unguarded c₀ h c)
    (e : record c ms = some (h₁, c₁)) : S.Traced S.Unguarded c₀ (h ++ h₁) c₁ := by
  induction ms generalizing h c h₁ with
  | nil =>
    cases e
    rwa [List.append_nil]
  | cons m ms ih =>
    obtain ⟨l, labelled, e⟩ := Option.bind_eq_some_iff.mp e
    obtain ⟨c', moved, e⟩ := Option.bind_eq_some_iff.mp e
    obtain ⟨⟨h', c''⟩, rest, e⟩ := Option.map_eq_some_iff.mp e
    cases e
    obtain ⟨l', labelled', step⟩ := next_labelled moved
    cases labelled.symm.trans labelled'
    have whole := ih (traced.snoc trivial step) rest
    rwa [List.append_assoc] at whole

/-- A schedule that can be carried out gives a history, which can be tested. -/
lemma exists_traced {ms : List S.Move}
    {p : List (Config Op Ans σ τ ω × S.Label) × Config Op Ans σ τ ω → Bool}
    (e : (record c₀ ms).any p = true) :
    ∃ h c, S.Traced S.Unguarded c₀ h c ∧ p (h, c) = true := by
  obtain ⟨⟨h, c⟩, recorded, holds⟩ := (Option.any_eq_true _ _).mp e
  have traced := record_traced .nil recorded
  exact ⟨h, c, traced, holds⟩

/-- What a thread runs that has ended without an error, and what it has answered. -/
def answered {α : Type} (c : Config Op Ans σ τ (Except ε α)) (i : Nat) : Option (τ × α) :=
  match c.threads[i]? with
  | some ⟨tag, .ret (.ok a)⟩ => some (tag, a)
  | _ => none

lemma thread_of_answered {α : Type} {c : Config Op Ans σ τ (Except ε α)} {i : Nat} {tag : τ} {a : α}
    (e : answered c i = some (tag, a)) : c.threads[i]? = some ⟨tag, .ret (.ok a)⟩ := by
  unfold answered at e
  split at e
  · rename_i at_i
    cases e
    exact at_i
  · cases e

/-- A test of every element of a list and what is before it. -/
def testsAll {α : Type} (p : List α → α → Bool) (xs : List α) : Bool :=
  (List.range xs.length).all fun n => xs[n]?.all (p (xs.take n))

lemma testsAll_split {α : Type} {p : List α → α → Bool} {xs ys zs : List α} {x : α}
    (all : testsAll p xs = true) (split : xs = ys ++ x :: zs) : p ys x = true := by
  have at_n : xs[ys.length]? = some x := by
    rw [split, List.getElem?_append_right (Nat.le_refl _), Nat.sub_self]
    rfl
  have lt : ys.length < xs.length := (List.getElem?_eq_some_iff.mp at_n).1
  have holds := List.all_eq_true.mp all ys.length (List.mem_range.mpr lt)
  rw [at_n] at holds
  rwa [split, List.take_left] at holds

end Execution

end System
end Interleaving
