import AtomsPlatform.Lib.Trace

/-!
# Driving a thread

What a thread can be driven to when it is the only one that is scheduled and the environment plays along.
The judgement `System.driving` asks of every call that some choice of the environment leads on, so that
triples for it show what histories there are, where other judgements show what all histories have in
common.
-/

namespace Interleaving
namespace System
variable {Op : Type} {Ans : Op → Type} {σ τ ω α : Type} {S : System Op Ans σ τ ω}
  {G : Config Op Ans σ τ ω → S.Label → Prop} {c₀ c : Config Op Ans σ τ ω}
  {h : List (Config Op Ans σ τ ω × S.Label)} {P : Op → Prop}

/-- The judgement by what calls can lead to; all of them satisfy `P`. -/
def driving (S : System Op Ans σ τ ω) (P : Op → Prop) : Judgement Op Ans σ where
  call o K s := P o ∧ ∃ ch, K (S.perform o ch s).1 (S.perform o ch s).2
  mono imp call := ⟨call.1, call.2.imp fun _ holds => imp _ _ holds⟩

/-- A history is continued by driving one of its threads to its end. -/
lemma Traced.drive {Q : ω → σ → Prop} {i : Nat} {t : τ} {p : Prog Op Ans ω}
    (traced : S.Traced S.Unguarded c₀ h c) (at_i : c.threads[i]? = some ⟨t, p⟩)
    (driven : p.Satisfies (S.driving P) Q c.store) :
    ∃ h' c' r, S.Traced S.Unguarded c₀ (h ++ h') c' ∧ c'.threads[i]? = some ⟨t, .ret r⟩ ∧
      Q r c'.store ∧ ∀ e ∈ h', ∃ o ch, e.2 = .act i o ch ∧ P o := by
  induction p generalizing h c with
  | ret r =>
    refine ⟨[], c, r, ?_, at_i, driven, fun _ mem => absurd mem List.not_mem_nil⟩
    rwa [List.append_nil]
  | call o k ih =>
    obtain ⟨allowed, ch, rest⟩ := driven
    have lt : i < c.threads.length := (List.getElem?_eq_some_iff.mp at_i).1
    have next := traced.snoc trivial (Step.act ch at_i)
    obtain ⟨h', c', r, traced', at_i', holds, calls⟩ :=
      ih _ next (List.getElem?_set_self lt) rest
    refine ⟨(c, .act i o ch) :: h', c', r, ?_, at_i', holds, ?_⟩
    · rwa [← List.singleton_append, ← List.append_assoc]
    · intro e mem
      rcases List.mem_cons.mp mem with rfl | mem
      · exact ⟨o, ch, rfl, allowed⟩
      · exact calls e mem

section Triples
variable {Res : Op → Type} {ε : Type} {S : System Op (fun o => Except ε (Res o)) σ τ ω}

/-- The rule of calls: the environment answers as wished. -/
lemma drives_call {o : Op} {s s' : σ} {a : Res o} (allowed : P o)
    (answer : ∃ ch, S.perform o ch s = (.ok a, s')) {E : ε → σ → Prop} :
    Triple (S.driving P) (fun x => x = s) (invoke o) (fun r x => r = a ∧ x = s') E := by
  obtain ⟨ch, done⟩ := answer
  apply Triple.invoke
  rintro x rfl
  refine ⟨allowed, ch, ?_⟩
  rw [done]
  exact ⟨rfl, rfl⟩

end Triples
end System
end Interleaving
