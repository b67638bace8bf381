import AtomsPlatform.Lib.Trace

/-!
# Crashes

Programs that are carried out one after the other, where each may stop at any call and never proceed:
nothing but the newest thread is scheduled. A program is then judged by what holds of the store whenever
it stops. `Traced.crash_safe` is the rule: if every program keeps the invariant at each of its calls,
however it is started and answered, the invariant holds throughout, and what the results of earlier
programs say about the store goes on to hold.
-/

namespace Interleaving
namespace System
variable {Op : Type} {Ans : Op → Type} {σ τ ω : Type} {S : System Op Ans σ τ ω}
  {c₀ c c' : Config Op Ans σ τ ω} {h : List (Config Op Ans σ τ ω × S.Label)}

/-- Only what was started last proceeds: whatever was started before has returned or crashed. -/
def Sequential (S : System Op Ans σ τ ω) (c : Config Op Ans σ τ ω) : S.Label → Prop
  | .act i _ _ => i + 1 = c.threads.length
  | .spawn _ => True

instance Sequential.decidable (c : Config Op Ans σ τ ω) : ∀ l, Decidable (S.Sequential c l)
  | .act _ _ _ => inferInstanceAs (Decidable (_ = _))
  | .spawn _ => .isTrue trivial

/-- The judgement by the states that calls leave behind: before each call `Φ` holds of the call and the
    store, and however the call is answered, `R` relates the stores before and after it. -/
def crashing (S : System Op Ans σ τ ω) (Φ : Op → σ → Prop) (R : σ → σ → Prop) :
    Judgement Op Ans σ where
  call o K s := Φ o s ∧ ∀ ch, R s (S.perform o ch s).2 ∧ K (S.perform o ch s).1 (S.perform o ch s).2
  mono imp call := ⟨call.1, fun ch => ⟨(call.2 ch).1, imp _ _ (call.2 ch).2⟩⟩

section Rule
variable {Φ : Op → σ → Prop} {I : σ → Prop} {R : σ → σ → Prop} {Q : τ → ω → σ → Prop}

/-- The invariant holds, results are as said, and the newest thread goes on as judged. -/
structure Recovers (S : System Op Ans σ τ ω) (Φ : Op → σ → Prop) (I : σ → Prop) (R : σ → σ → Prop)
    (Q : τ → ω → σ → Prop) (c : Config Op Ans σ τ ω) : Prop where
  inv : I c.store
  results : ∀ t r, ⟨t, .ret r⟩ ∈ c.threads → Q t r c.store
  newest : ∀ t, c.threads.getLast? = some t →
    t.prog.Satisfies (S.crashing Φ fun s s' => I s' ∧ R s s') (Q t.tag) c.store

/-- The step lemma of the rule. -/
lemma Recovers.step {l : S.Label} (recovers : Recovers S Φ I R Q c)
    (body : ∀ t s, S.admits s t → I s →
      (S.body t).Satisfies (S.crashing Φ fun s s' => I s' ∧ R s s') (Q t) s)
    (stable : ∀ t r s s', R s s' → Q t r s → Q t r s')
    (guard : S.Sequential c l) (step : S.Step c l c') :
    (∀ i o ch, l = .act i o ch → Φ o c.store) ∧ Recovers S Φ I R Q c' := by
  cases step with
  | @act i tag o k ch at_i =>
    have last : c.threads.getLast? = some ⟨tag, .call o k⟩ := by
      have place : c.threads.length - 1 = i := by rw [← guard]; rfl
      rw [List.getLast?_eq_getElem?, place, at_i]
    obtain ⟨asked, answers⟩ := recovers.newest _ last
    obtain ⟨⟨inv, kept⟩, rest⟩ := answers ch
    have newest : (c.threads.set i ⟨tag, k (S.perform o ch c.store).1⟩).getLast? =
        some ⟨tag, k (S.perform o ch c.store).1⟩ := by
      have lt : i < c.threads.length := by rw [← guard]; exact Nat.lt_succ_self i
      have place : (c.threads.set i ⟨tag, k (S.perform o ch c.store).1⟩).length - 1 = i := by
        rw [List.length_set, ← guard]
        rfl
      rw [List.getLast?_eq_getElem?, place]
      exact List.getElem?_set_self lt
    refine ⟨?_, inv, ?_, ?_⟩
    · intro i' o' ch' same
      cases same
      exact asked
    · intro t r mem
      rcases List.mem_or_eq_of_mem_set mem with old | new
      · exact stable t r _ _ kept (recovers.results t r old)
      · -- the thread that has just returned
        injection new with tags progs
        subst tags
        rw [← progs] at rest
        exact rest
    · intro t at_last
      cases newest.symm.trans at_last
      exact rest
  | @spawn tag admitted =>
    refine ⟨?_, recovers.inv, ?_, ?_⟩
    · intro i o ch same
      cases same
    · intro t r mem
      rcases List.mem_append.mp mem with old | new
      · exact recovers.results t r old
      · have started := body tag c.store admitted recovers.inv
        injection List.mem_singleton.mp new with tags progs
        subst tags
        rw [← progs] at started
        exact started
    · intro t at_last
      rw [List.getLast?_append, List.getLast?_singleton, Option.some_or] at at_last
      cases at_last
      exact body tag c.store admitted recovers.inv

/-- The run lemma of the rule. -/
theorem Traced.crash_safe (traced : S.Traced S.Sequential c₀ h c) (start : c₀.threads = [])
    (inv : I c₀.store)
    (body : ∀ t s, S.admits s t → I s →
      (S.body t).Satisfies (S.crashing Φ fun s s' => I s' ∧ R s s') (Q t) s)
    (stable : ∀ t r s s', R s s' → Q t r s → Q t r s') :
    I c.store ∧ (∀ t r, ⟨t, .ret r⟩ ∈ c.threads → Q t r c.store) ∧
    ∀ h₁ c₁ i o ch h₂, h = h₁ ++ (c₁, .act i o ch) :: h₂ → Φ o c₁.store := by
  suffices both : Recovers S Φ I R Q c ∧
      ∀ h₁ c₁ i o ch h₂, h = h₁ ++ (c₁, .act i o ch) :: h₂ → Φ o c₁.store from
    ⟨both.1.inv, both.1.results, both.2⟩
  induction traced with
  | nil =>
    refine ⟨⟨inv, ?_, ?_⟩, ?_⟩
    · intro t r mem
      rw [start] at mem
      cases mem
    · intro t at_last
      rw [start] at at_last
      cases at_last
    · intro h₁ c₁ i o ch h₂ split
      cases h₁ <;> cases split
  | @snoc h c l c' traced guard step ih =>
    obtain ⟨recovers, asked⟩ := ih
    obtain ⟨now, recovers'⟩ := recovers.step body stable guard step
    refine ⟨recovers', ?_⟩
    intro h₁ c₁ i o ch h₂ split
    rcases snoc_eq_append_cons.mp split with ⟨rfl, rfl, same⟩ | ⟨h₂', rfl, earlier⟩
    · cases same
      exact now i o ch rfl
    · exact asked h₁ c₁ i o ch h₂' earlier

end Rule
end System
end Interleaving
