import AtomsPlatform.Lib.Trace

/-!
# Programs with variables

Fallible programs that also have variables: what was written before a failure stays written, so that a
`catch` or `finally` sees it. A judgement on the calls gives Hoare triples whose assertions speak about
the variables and about the state of the judgement, with one rule for each construct. A judgement may
keep a record of the calls (`recording`), which then holds of every trace.
-/

namespace Interleaving
variable {Op : Type} {Res : Op → Type} {ε ν X α β : Type}

/-- Fallible programs with variables of type `ν`. -/
abbrev Mutable (Op : Type) (Res : Op → Type) (ε ν α : Type) : Type :=
  ExceptT ε (StateT ν (Prog Op fun o => Except ε (Res o))) α

namespace Mutable

/-- The program that makes one call. -/
def invoke (o : Op) : Mutable Op Res ε ν (Res o) :=
  ExceptT.mk fun v => .call o fun r => .ret (r, v)

/-- The program with its variables at the start. -/
def start (p : Mutable Op Res ε ν α) (v : ν) : Prog Op (fun o => Except ε (Res o)) (Except ε α × ν) :=
  p.run.run v

/-- A Hoare triple, with one postcondition for results and one for errors. -/
def Triple (J : Judgement Op (fun o => Except ε (Res o)) X) (P : ν → X → Prop)
    (p : Mutable Op Res ε ν α) (Q : α → ν → X → Prop) (E : ε → ν → X → Prop) : Prop :=
  ∀ v x, P v x →
    (p.start v).Satisfies J (fun r x => Outcome (fun a => Q a r.2 x) (fun e => E e r.2 x) r.1) x

namespace Triple
variable {J : Judgement Op (fun o => Except ε (Res o)) X} {P : ν → X → Prop} {Q : α → ν → X → Prop}
  {E : ε → ν → X → Prop}

lemma pure {a : α} (holds : ∀ v x, P v x → Q a v x) :
    Triple J P (pure a : Mutable Op Res ε ν α) Q E :=
  holds

lemma throw {e : ε} (holds : ∀ v x, P v x → E e v x) :
    Triple J P (throw e : Mutable Op Res ε ν α) Q E :=
  holds

/-- The rule of reading the variables. -/
lemma get {Q : ν → ν → X → Prop} (holds : ∀ v x, P v x → Q v v x) :
    Triple J P (get : Mutable Op Res ε ν ν) Q E :=
  holds

/-- The rule of assignments. -/
lemma modify {f : ν → ν} {Q : PUnit → ν → X → Prop} (holds : ∀ v x, P v x → Q ⟨⟩ (f v) x) :
    Triple J P (modify f : Mutable Op Res ε ν PUnit) Q E :=
  holds

/-- The rule of consequence. -/
lemma mono {p : Mutable Op Res ε ν α} {P' : ν → X → Prop} {Q' : α → ν → X → Prop}
    {E' : ε → ν → X → Prop} (triple : Triple J P p Q E) (pre : ∀ v x, P' v x → P v x)
    (onOk : ∀ a v x, Q a v x → Q' a v x) (onError : ∀ e v x, E e v x → E' e v x) :
    Triple J P' p Q' E' := by
  intro v x holds
  refine (triple v x (pre v x holds)).mono ?_
  intro r x holds
  obtain ⟨r, v'⟩ := r
  cases r with
  | ok a => exact onOk a v' x holds
  | error e => exact onError e v' x holds

/-- Less is said of errors. -/
lemma onError {p : Mutable Op Res ε ν α} {E' : ε → ν → X → Prop} (triple : Triple J P p Q E)
    (imp : ∀ e v x, E e v x → E' e v x) : Triple J P p Q E' :=
  triple.mono (fun _ _ holds => holds) (fun _ _ _ holds => holds) imp

/-- Nothing need be said of errors. -/
lemma unguarded {p : Mutable Op Res ε ν α} (triple : Triple J P p Q E) :
    Triple J P p Q fun _ _ _ => True :=
  triple.onError fun _ _ _ _ => trivial

/-- What the precondition says beyond the state may be taken out of it. -/
lemma extract {p : Mutable Op Res ε ν α} {φ : Prop} (known : ∀ v x, P v x → φ)
    (triple : φ → Triple J P p Q E) : Triple J P p Q E :=
  fun v x holds => triple (known v x holds) v x holds

/-- The rule of sequencing: an error of the first part is an error of the whole. -/
lemma bind {p : Mutable Op Res ε ν α} {f : α → Mutable Op Res ε ν β} {R : α → ν → X → Prop}
    {Q : β → ν → X → Prop} (first : Triple J P p R E) (next : ∀ a, Triple J (R a) (f a) Q E) :
    Triple J P (p >>= f) Q E := by
  intro v x holds
  refine Prog.Satisfies.bind ((first v x holds).mono ?_)
  intro r x holds
  obtain ⟨r, v'⟩ := r
  cases r with
  | ok a => exact next a v' x holds
  | error e => exact holds

/-- The rule of `try … catch`. -/
lemma tryCatch {p : Mutable Op Res ε ν α} {h : ε → Mutable Op Res ε ν α} {R : ε → ν → X → Prop}
    (body : Triple J P p Q R) (handler : ∀ e, Triple J (R e) (h e) Q E) :
    Triple J P (tryCatch p h) Q E := by
  intro v x holds
  refine Prog.Satisfies.bind ((body v x holds).mono ?_)
  intro r x holds
  obtain ⟨r, v'⟩ := r
  cases r with
  | ok a => exact holds
  | error e => exact handler e v' x holds

/-- The rule of calls. -/
lemma invoke {o : Op} {Q : Res o → ν → X → Prop}
    (call : ∀ v x, P v x → J.call o (fun r x => Outcome (fun a => Q a v x) (fun e => E e v x) r) x) :
    Triple J P (invoke o) Q E :=
  call

end Triple
end Mutable

section Recording
variable {Ans : Op → Type} {note : X → Event Op Ans → X} {Φ : X → Op → Prop} {x₀ : X}
  {p q : Prog Op Ans α} {h : List (Event Op Ans)} {Q : α → X → Prop}

/-- The judgement by a record of the calls made so far: before each call, `Φ` holds of the record and
    of the call. -/
def recording (note : X → Event Op Ans → X) (Φ : X → Op → Prop) : Judgement Op Ans X where
  call o K x := Φ x o ∧ ∀ r, K r (note x ⟨o, r⟩)
  mono imp call := ⟨call.1, fun r => imp _ _ (call.2 r)⟩

/-- What a program leads to is judged by the record of the calls in between. -/
lemma Prog.Leads.recorded (leads : p.Leads h q) (sat : p.Satisfies (recording note Φ) Q x₀) :
    q.Satisfies (recording note Φ) Q (h.foldl note x₀) := by
  induction leads with
  | nil => exact sat
  | snoc r _ ih =>
    rw [List.foldl_append]
    exact ih.2 r

/-- What holds of the record at the start, and is kept by the calls as they are asked for, holds of
    the record at any time. -/
lemma Prog.Leads.record_invariant {I : X → Prop} (leads : p.Leads h q)
    (sat : p.Satisfies (recording note Φ) Q x₀) (start : I x₀)
    (step : ∀ x o r, I x → Φ x o → I (note x ⟨o, r⟩)) : I (h.foldl note x₀) := by
  induction leads with
  | nil => exact start
  | snoc r leads ih =>
    have asked := (leads.recorded sat).1
    rw [List.foldl_append]
    exact step _ _ r ih asked

/-- The judgement by such a record, of the answers that are possible. -/
def answering (A : (o : Op) → Ans o → Prop) (note : X → Event Op Ans → X) (Φ : X → Op → Prop) :
    Judgement Op Ans X where
  call o K x := Φ x o ∧ ∀ r, A o r → K r (note x ⟨o, r⟩)
  mono imp call := ⟨call.1, fun r may => imp _ _ (call.2 r may)⟩

/-- A program that was given possible answers is judged by its record, and what the calls keep as they are
    asked for holds of them and of the record. -/
lemma Prog.Leads.answered {A : (o : Op) → Ans o → Prop} {I : List (Event Op Ans) → X → Prop}
    (leads : p.Leads h q) (sat : p.Satisfies (answering A note Φ) Q x₀) (start : I [] x₀)
    (step : ∀ calls x o r, I calls x → Φ x o → I (calls ++ [⟨o, r⟩]) (note x ⟨o, r⟩))
    (possible : ∀ e ∈ h, A e.1 e.2) :
    q.Satisfies (answering A note Φ) Q (h.foldl note x₀) ∧ I h (h.foldl note x₀) := by
  induction leads with
  | nil => exact ⟨sat, start⟩
  | snoc r _ ih =>
    obtain ⟨judged, holds⟩ := ih fun e mem => possible e (List.mem_append_left _ mem)
    have last := possible _ (List.mem_append_right _ List.mem_cons_self)
    rw [List.foldl_append]
    exact ⟨judged.2 r last, step _ _ _ r holds judged.1⟩

end Recording

namespace Mutable
variable {J : Judgement Op (fun o => Except ε (Res o)) X} {P : ν → X → Prop}

/-- A program keeps a property, however it ends. -/
abbrev Keeps (J : Judgement Op (fun o => Except ε (Res o)) X) (P : ν → X → Prop)
    (p : Mutable Op Res ε ν α) : Prop :=
  Triple J P p (fun _ => P) fun _ => P

lemma Keeps.pure {a : α} : Keeps J P (pure a : Mutable Op Res ε ν α) :=
  Triple.pure fun _ _ holds => holds

lemma Keeps.throw {e : ε} : Keeps J P (throw e : Mutable Op Res ε ν α) :=
  Triple.throw fun _ _ holds => holds

lemma Keeps.bind {p : Mutable Op Res ε ν α} {f : α → Mutable Op Res ε ν β} (first : Keeps J P p)
    (next : ∀ a, Keeps J P (f a)) : Keeps J P (p >>= f) :=
  Triple.bind first next

lemma Keeps.tryCatch {p : Mutable Op Res ε ν α} {h : ε → Mutable Op Res ε ν α} (body : Keeps J P p)
    (handler : ∀ e, Keeps J P (h e)) : Keeps J P (tryCatch p h) :=
  Triple.tryCatch body handler

/-- Reading the variables. -/
lemma Keeps.get : Keeps J P (get : Mutable Op Res ε ν ν) :=
  Triple.get fun _ _ holds => holds

/-- A call that leaves what is judged alone. -/
lemma Keeps.invoke {note : X → Event Op (fun o => Except ε (Res o)) → X} {Φ : X → Op → Prop}
    {A : (o : Op) → Except ε (Res o) → Prop} {o : Op}
    (asked : ∀ v x, P v x → Φ x o) (quiet : ∀ v x r, P v x → note x ⟨o, r⟩ = x) :
    Keeps (answering A note Φ) P (invoke o : Mutable Op Res ε ν (Res o)) := by
  refine Triple.invoke fun v x holds => ⟨asked v x holds, ?_⟩
  intro r _
  rw [quiet v x r holds]
  cases r with
  | ok a => exact holds
  | error e => exact holds

end Mutable

section Playing
variable {Ans : Op → Type} {σ : Type} {perform : (o : Op) → σ → Ans o × σ}

/-- A program is carried out: the calls it makes, and its result. -/
def Prog.play (perform : (o : Op) → σ → Ans o × σ) : Prog Op Ans α → σ → List (Event Op Ans) × α
  | .ret a, _ => ([], a)
  | .call o k, s =>
    let played := (k (perform o s).1).play perform (perform o s).2
    (⟨o, (perform o s).1⟩ :: played.1, played.2)

lemma Prog.Leads.cons {o : Op} {k : Ans o → Prog Op Ans α} {r : Ans o} {h : List (Event Op Ans)}
    {q : Prog Op Ans α} (leads : (k r).Leads h q) : (Prog.call o k).Leads (⟨o, r⟩ :: h) q := by
  induction leads with
  | nil => exact .snoc r .nil
  | snoc r' _ ih => exact .snoc r' ih

/-- A program that is carried out leads to its result. -/
lemma Prog.leads_play {p : Prog Op Ans α} {s : σ} :
    p.Leads (p.play perform s).1 (.ret (p.play perform s).2) := by
  induction p generalizing s with
  | ret a => exact .nil
  | call o k ih => exact .cons (ih _)

end Playing
end Interleaving
