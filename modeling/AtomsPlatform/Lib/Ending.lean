import AtomsPlatform.Lib.Mutable

/-!
# How programs end

`Ends p h a` says that a program can make the calls `h`, with their answers, and then returns `a`. There
is one equivalence for each construct of fallible programs, so that the calls of a program are read off
its text, and the calls determine what it returns (`Ends.unique`).
-/

namespace Interleaving
variable {Op : Type} {Ans : Op → Type} {α β : Type}

/-- The calls of a program up to its result. -/
def Prog.Ends (p : Prog Op Ans α) (h : List (Event Op Ans)) (a : α) : Prop :=
  p.Leads h (.ret a)

namespace Prog

lemma leads_ret_inv {a : α} {h : List (Event Op Ans)} {q : Prog Op Ans α}
    (leads : (ret a : Prog Op Ans α).Leads h q) : h = [] ∧ q = .ret a := by
  induction leads with
  | nil => exact ⟨rfl, rfl⟩
  | snoc r _ ih => cases ih.2

lemma leads_call_inv {o : Op} {k : Ans o → Prog Op Ans α} {h : List (Event Op Ans)}
    {q : Prog Op Ans α} (leads : (call o k).Leads h q) :
    (h = [] ∧ q = .call o k) ∨ ∃ r h', h = ⟨o, r⟩ :: h' ∧ (k r).Leads h' q := by
  induction leads with
  | nil => exact .inl ⟨rfl, rfl⟩
  | @snoc h o' k' r leads ih =>
    rcases ih with ⟨rfl, same⟩ | ⟨r', h', rfl, rest⟩
    · cases same
      exact .inr ⟨r, [], rfl, .nil⟩
    · exact .inr ⟨r', h' ++ [⟨o', r⟩], rfl, rest.snoc r⟩

lemma ends_ret {a b : α} {h : List (Event Op Ans)} :
    (ret a : Prog Op Ans α).Ends h b ↔ h = [] ∧ b = a := by
  constructor
  · intro ends
    obtain ⟨none, same⟩ := leads_ret_inv ends
    cases same
    exact ⟨none, rfl⟩
  · rintro ⟨rfl, rfl⟩
    exact .nil

lemma ends_call {o : Op} {k : Ans o → Prog Op Ans α} {h : List (Event Op Ans)} {b : α} :
    (call o k).Ends h b ↔ ∃ r h', h = ⟨o, r⟩ :: h' ∧ (k r).Ends h' b := by
  constructor
  · intro ends
    rcases leads_call_inv ends with ⟨-, none⟩ | rest
    · cases none
    · exact rest
  · rintro ⟨r, h', rfl, rest⟩
    exact .cons rest

/-- A sequence makes the calls of its parts. -/
lemma ends_bind {p : Prog Op Ans α} {f : α → Prog Op Ans β} {h : List (Event Op Ans)} {b : β} :
    (p.bind f).Ends h b ↔ ∃ h₁ a h₂, h = h₁ ++ h₂ ∧ p.Ends h₁ a ∧ (f a).Ends h₂ b := by
  induction p generalizing h with
  | ret a =>
    constructor
    · intro ends
      exact ⟨[], a, h, rfl, .nil, ends⟩
    · rintro ⟨h₁, a', h₂, rfl, first, ends⟩
      obtain ⟨rfl, rfl⟩ := ends_ret.mp first
      exact ends
  | call o k ih =>
    constructor
    · intro ends
      obtain ⟨r, h', rfl, rest⟩ := ends_call.mp ends
      obtain ⟨h₁, a, h₂, rfl, first, second⟩ := (ih r).mp rest
      exact ⟨⟨o, r⟩ :: h₁, a, h₂, rfl, ends_call.mpr ⟨r, h₁, rfl, first⟩, second⟩
    · rintro ⟨h₁, a, h₂, rfl, first, second⟩
      obtain ⟨r, h', rfl, rest⟩ := ends_call.mp first
      exact ends_call.mpr ⟨r, h' ++ h₂, rfl, (ih r).mpr ⟨h', a, h₂, rfl, rest, second⟩⟩

/-- The calls of a program say where it ends and what it returns. -/
lemma Ends.unique {p : Prog Op Ans α} {h₁ h₂ h₁' h₂' : List (Event Op Ans)} {a a' : α}
    (ends : p.Ends h₁ a) (ends' : p.Ends h₁' a') (same : h₁ ++ h₂ = h₁' ++ h₂') :
    h₁ = h₁' ∧ h₂ = h₂' ∧ a = a' := by
  induction p generalizing h₁ h₁' with
  | ret b =>
    obtain ⟨rfl, rfl⟩ := ends_ret.mp ends
    obtain ⟨rfl, rfl⟩ := ends_ret.mp ends'
    exact ⟨rfl, same, rfl⟩
  | call o k ih =>
    obtain ⟨r, h, rfl, rest⟩ := ends_call.mp ends
    obtain ⟨r', h', rfl, rest'⟩ := ends_call.mp ends'
    obtain ⟨first, later⟩ := List.cons_eq_cons.mp same
    cases first
    obtain ⟨rfl, after, result⟩ := ih r rest rest' later
    exact ⟨rfl, after, result⟩

end Prog

section Fallible
variable {Res : Op → Type} {ε : Type}

/-- The calls of a fallible program up to its outcome. -/
def Ends (p : Fallible Op Res ε α) (h : List (Event Op fun o => Except ε (Res o))) (r : Except ε α) :
    Prop :=
  Prog.Ends p.run h r

variable {h : List (Event Op fun o => Except ε (Res o))} {r : Except ε α}

/-- A program that is accounted for ends as its postconditions say of its calls. -/
lemma Ends.accounted {Φ : List (Event Op fun o => Except ε (Res o)) → Op → Prop}
    {P : List (Event Op fun o => Except ε (Res o)) → Prop} {p : Fallible Op Res ε α}
    {Q : α → List (Event Op fun o => Except ε (Res o)) → Prop}
    {E : ε → List (Event Op fun o => Except ε (Res o)) → Prop} (ends : Ends p h r)
    (accounts : Accounts Φ P p Q E) (start : P []) : Outcome (fun a => Q a h) (fun e => E e h) r :=
  Prog.Leads.satisfies ends (accounts [] start)

lemma ends_pure {a : α} : Ends (pure a : Fallible Op Res ε α) h r ↔ h = [] ∧ r = .ok a :=
  Prog.ends_ret

lemma ends_throw {e : ε} : Ends (throw e : Fallible Op Res ε α) h r ↔ h = [] ∧ r = .error e :=
  Prog.ends_ret

lemma ends_invoke {o : Op} {r : Except ε (Res o)} :
    Ends (invoke o : Fallible Op Res ε (Res o)) h r ↔ h = [⟨o, r⟩] := by
  refine Prog.ends_call.trans ?_
  constructor
  · rintro ⟨r', h', rfl, ends⟩
    obtain ⟨rfl, rfl⟩ := Prog.ends_ret.mp ends
    rfl
  · rintro rfl
    exact ⟨r, [], rfl, .nil⟩

/-- A sequence fails in its first part, or goes on with the second. -/
lemma ends_bind {p : Fallible Op Res ε α} {f : α → Fallible Op Res ε β} {r : Except ε β} :
    Ends (p >>= f) h r ↔ (∃ e, r = .error e ∧ Ends p h (.error e)) ∨
      ∃ h₁ a h₂, h = h₁ ++ h₂ ∧ Ends p h₁ (.ok a) ∧ Ends (f a) h₂ r := by
  refine Prog.ends_bind.trans ?_
  constructor
  · rintro ⟨h₁, r', h₂, rfl, first, second⟩
    cases r' with
    | error e =>
      obtain ⟨rfl, rfl⟩ := Prog.ends_ret.mp second
      rw [List.append_nil]
      exact .inl ⟨e, rfl, first⟩
    | ok a => exact .inr ⟨h₁, a, h₂, rfl, first, second⟩
  · rintro (⟨e, rfl, ends⟩ | ⟨h₁, a, h₂, rfl, first, second⟩)
    · exact ⟨h, .error e, [], (List.append_nil h).symm, ends, .nil⟩
    · exact ⟨h₁, .ok a, h₂, rfl, first, second⟩

/-- `try … catch` returns what its body returns, or goes on with the handler. -/
lemma ends_tryCatch {p : Fallible Op Res ε α} {handler : ε → Fallible Op Res ε α} :
    Ends (tryCatch p handler) h r ↔ (∃ a, r = .ok a ∧ Ends p h (.ok a)) ∨
      ∃ h₁ e h₂, h = h₁ ++ h₂ ∧ Ends p h₁ (.error e) ∧ Ends (handler e) h₂ r := by
  refine Prog.ends_bind.trans ?_
  constructor
  · rintro ⟨h₁, r', h₂, rfl, first, second⟩
    cases r' with
    | ok a =>
      obtain ⟨rfl, rfl⟩ := Prog.ends_ret.mp second
      rw [List.append_nil]
      exact .inl ⟨a, rfl, first⟩
    | error e => exact .inr ⟨h₁, e, h₂, rfl, first, second⟩
  · rintro (⟨a, rfl, ends⟩ | ⟨h₁, e, h₂, rfl, first, second⟩)
    · exact ⟨h, .ok a, [], (List.append_nil h).symm, ends, .nil⟩
    · exact ⟨h₁, .error e, h₂, rfl, first, second⟩

/-- A call, and what follows it. -/
lemma ends_invoke_bind {o : Op} {f : Res o → Fallible Op Res ε β} {r : Except ε β} :
    Ends (invoke o >>= f) h r ↔ (∃ e, r = .error e ∧ h = [⟨o, .error e⟩]) ∨
      ∃ a h', h = ⟨o, .ok a⟩ :: h' ∧ Ends (f a) h' r := by
  rw [ends_bind]
  constructor
  · rintro (⟨e, rfl, ends⟩ | ⟨h₁, a, h₂, rfl, first, second⟩)
    · exact .inl ⟨e, rfl, ends_invoke.mp ends⟩
    · rw [ends_invoke.mp first]
      exact .inr ⟨a, h₂, rfl, second⟩
  · rintro (⟨e, rfl, rfl⟩ | ⟨a, h', rfl, rest⟩)
    · exact .inl ⟨e, rfl, ends_invoke.mpr rfl⟩
    · exact .inr ⟨[⟨o, .ok a⟩], a, h', rfl, ends_invoke.mpr rfl, rest⟩

end Fallible
end Interleaving
