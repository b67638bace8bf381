import AtomsPlatform.Lib.Judgement

/-!
# Programs on larger interfaces

A program on an interface is a program on every interface that its calls are found in: `embed` renames
the calls and leaves the answers alone. What a contract or a judgement of the larger interface asks of
the embedded program is what its restriction asks of the program itself.
-/

namespace Interleaving
variable {Op Op' : Type} {Ans : Op' → Type} {α β : Type}

/-- The program that makes the same calls on a larger interface. -/
def Prog.embed (f : Op → Op') : Prog Op (fun o => Ans (f o)) α → Prog Op' Ans α
  | .ret a => .ret a
  | .call o k => .call (f o) fun r => (k r).embed f

/-- What a contract says of the calls of a smaller interface. -/
def Contract.restrict (f : Op → Op') (κ : Contract Op' Ans) : Contract Op fun o => Ans (f o) where
  requires o := κ.requires (f o)
  ensures o := κ.ensures (f o)

lemma Prog.meets_embed {f : Op → Op'} {κ : Contract Op' Ans} {Q : α → Prop}
    {p : Prog Op (fun o => Ans (f o)) α} :
    (p.embed f).Meets κ Q ↔ p.Meets (κ.restrict f) Q := by
  induction p with
  | ret a => exact Iff.rfl
  | call o k ih =>
    show _ ∧ _ ↔ _ ∧ _
    exact and_congr Iff.rfl (forall_congr' fun r => imp_congr Iff.rfl (ih r))

/-- What a judgement says of the calls of a smaller interface. -/
def Judgement.restrict {X : Type} (f : Op → Op') (J : Judgement Op' Ans X) :
    Judgement Op (fun o => Ans (f o)) X where
  call o := J.call (f o)
  mono := J.mono

section Fallible
variable {Res : Op' → Type} {ε : Type}

/-- `Prog.embed` for fallible programs. -/
def embed (f : Op → Op') (p : Fallible Op (fun o => Res (f o)) ε α) : Fallible Op' Res ε α :=
  ExceptT.mk (Prog.embed f p.run : Prog Op' (fun o => Except ε (Res o)) (Except ε α))

/-- The embedded program keeps a contract if the program keeps its restriction. -/
lemma Fulfils.embed {f : Op → Op'} {κ : Contract Op' fun o => Except ε (Res o)} {Q : α → Prop}
    {E : ε → Prop} {p : Fallible Op (fun o => Res (f o)) ε α} (fulfils : Fulfils (κ.restrict f) p Q E) :
    Fulfils κ (embed f p) Q E :=
  Prog.meets_embed.mpr fulfils

end Fallible
end Interleaving
