import AtomsPlatform.Lib.Utf16

/-!
# Well-formed strings

A string is well formed if its surrogates are paired. Where it is cut, both parts are well formed
exactly if the cut is not inside a pair (`wellFormed_cut`).
-/

namespace Utf16

/-- The first code unit of a pair. -/
def isLead (u : UInt16) : Bool :=
  0xD800 ≤ u.toNat && u.toNat < 0xDC00

/-- The second code unit of a pair. -/
def isTrail (u : UInt16) : Bool :=
  0xDC00 ≤ u.toNat && u.toNat < 0xE000

/-- Whether all surrogates are paired. -/
def wellFormed : Utf16 → Bool
  | [] => true
  | u :: s =>
    if isLead u then
      match s with
      | [] => false
      | v :: rest => isTrail v && wellFormed rest
    else !isTrail u && wellFormed s

/-- Whether a string ends with the first half of a pair. -/
def endsInside (s : Utf16) : Bool :=
  s.getLast?.any isLead

variable {s t : Utf16} {u : UInt16}

lemma not_trail_of_lead (lead : isLead u = true) : isTrail u = false := by
  simp only [isLead, isTrail, Bool.and_eq_true, decide_eq_true_eq] at lead ⊢
  refine Bool.eq_false_iff.mpr fun trail => ?_
  simp only [Bool.and_eq_true, decide_eq_true_eq] at trail
  omega

/-- White space is no surrogate. -/
lemma not_surrogate_of_space (blank : isSpace u.toNat = true) : isLead u = false ∧ isTrail u = false := by
  have range : u.toNat < 0xD800 ∨ u.toNat = 0xFEFF := by
    simp only [isSpace, Bool.or_eq_true, decide_eq_true_eq, Bool.and_eq_true, List.mem_cons,
      List.not_mem_nil, or_false] at blank
    omega
  simp only [isLead, isTrail]
  constructor
  · refine Bool.eq_false_iff.mpr fun lead => ?_
    simp only [Bool.and_eq_true, decide_eq_true_eq] at lead
    omega
  · refine Bool.eq_false_iff.mpr fun trail => ?_
    simp only [Bool.and_eq_true, decide_eq_true_eq] at trail
    omega

lemma wellFormed_lead (lead : isLead u = true) : wellFormed [u] = false := by
  rw [wellFormed.eq_def]
  exact if_pos lead

lemma wellFormed_pair {v : UInt16} (lead : isLead u = true) :
    wellFormed (u :: v :: s) = (isTrail v && wellFormed s) := by
  rw [wellFormed.eq_def]
  exact if_pos lead

lemma wellFormed_single (lead : ¬ isLead u = true) :
    wellFormed (u :: s) = (!isTrail u && wellFormed s) := by
  rw [wellFormed.eq_def]
  exact if_neg lead

/-- A well-formed string does not matter to what follows it. -/
lemma wellFormed_append (formed : wellFormed s = true) : wellFormed (s ++ t) = wellFormed t := by
  induction s using wellFormed.induct with
  | case1 => rfl
  | case2 u lead =>
    rw [wellFormed_lead lead] at formed
    cases formed
  | case3 u lead v rest ih =>
    rw [wellFormed_pair lead, Bool.and_eq_true] at formed
    rw [List.cons_append, List.cons_append, wellFormed_pair lead, formed.1, ih formed.2, Bool.true_and]
  | case4 u s not ih =>
    rw [wellFormed_single not, Bool.and_eq_true] at formed
    rw [List.cons_append, wellFormed_single not, formed.1, ih formed.2, Bool.true_and]

/-- A cut of a well-formed string leaves well-formed parts if it is not inside a pair. -/
lemma wellFormed_cut (formed : wellFormed (s ++ t) = true) :
    wellFormed s = !endsInside s ∧ (endsInside s = false → wellFormed t = true) := by
  induction s using wellFormed.induct with
  | case1 => exact ⟨rfl, fun _ => formed⟩
  | case2 u lead =>
    have inside : endsInside [u] = true := lead
    rw [inside, wellFormed_lead lead]
    exact ⟨rfl, nofun⟩
  | case3 u lead v rest ih =>
    rw [List.cons_append, List.cons_append, wellFormed_pair lead] at formed
    obtain ⟨trail, formed⟩ := (Bool.and_eq_true _ _).mp formed
    have last : endsInside (u :: v :: rest) = endsInside rest := by
      cases rest with
      | nil =>
        refine Bool.eq_false_iff.mpr fun (lead' : isLead v = true) => ?_
        rw [not_trail_of_lead lead'] at trail
        cases trail
      | cons w rest => rfl
    rw [last, wellFormed_pair lead, trail, Bool.true_and]
    exact ih formed
  | case4 u s not ih =>
    rw [List.cons_append, wellFormed_single not] at formed
    obtain ⟨trail, formed⟩ := (Bool.and_eq_true _ _).mp formed
    have last : endsInside (u :: s) = endsInside s := by
      cases s with
      | nil => exact Bool.eq_false_iff.mpr not
      | cons w rest => rfl
    rw [last, wellFormed_single not, trail, Bool.true_and]
    exact ih formed

lemma endsInside_of_wellFormed (formed : wellFormed s = true) : endsInside s = false := by
  have whole : wellFormed (s ++ []) = true := by rw [List.append_nil, formed]
  have same := (wellFormed_cut whole).1
  rw [formed] at same
  exact (Bool.not_eq_true' _).mp same.symm

/-- Between the parts stands a code unit that is no surrogate. -/
lemma wellFormed_around (lead : isLead u = false) (trail : isTrail u = false) :
    wellFormed (s ++ u :: t) = (wellFormed s && wellFormed t) := by
  have single : wellFormed (u :: t) = wellFormed t := by
    rw [wellFormed_single (Bool.eq_false_iff.mp lead), trail]
    rfl
  induction s using wellFormed.induct with
  | case1 => exact single
  | case2 w lead' =>
    rw [List.singleton_append, wellFormed_pair lead', wellFormed_lead lead', trail, Bool.false_and]
  | case3 w lead' v rest ih =>
    rw [List.cons_append, List.cons_append, wellFormed_pair lead', wellFormed_pair lead', ih,
      Bool.and_assoc]
  | case4 w s not ih =>
    rw [List.cons_append, wellFormed_single not, wellFormed_single not, ih, Bool.and_assoc]

/-- White space in front does not matter. -/
lemma wellFormed_blanks (blanks : ∀ u ∈ s, isSpace u.toNat = true) :
    wellFormed (s ++ t) = wellFormed t := by
  induction s with
  | nil => rfl
  | cons u s ih =>
    obtain ⟨lead, trail⟩ := not_surrogate_of_space (blanks u List.mem_cons_self)
    rw [List.cons_append, wellFormed_single (Bool.eq_false_iff.mp lead), trail,
      ih fun w mem => blanks w (List.mem_cons_of_mem _ mem)]
    rfl

lemma wellFormed_cons_blank (blank : isSpace u.toNat = true) : wellFormed (u :: s) = wellFormed s := by
  rw [← List.singleton_append]
  refine wellFormed_blanks fun v mem => ?_
  rw [List.mem_singleton.mp mem]
  exact blank

/-- Neither does it behind a string. -/
lemma wellFormed_append_blanks (blanks : ∀ u ∈ t, isSpace u.toNat = true) :
    wellFormed (s ++ t) = wellFormed s := by
  cases t with
  | nil => rw [List.append_nil]
  | cons u t =>
    obtain ⟨lead, trail⟩ := not_surrogate_of_space (blanks u List.mem_cons_self)
    have rest : wellFormed (t ++ []) = true :=
      wellFormed_blanks fun w mem => blanks w (List.mem_cons_of_mem _ mem)
    rw [List.append_nil] at rest
    rw [wellFormed_around lead trail, rest, Bool.and_true]

/-- A string is what is trimmed of it, and the rest. -/
lemma exists_trim (s : Utf16) : ∃ front back : Utf16, s = front ++ (trim s ++ back) ∧
    (∀ u ∈ front, isSpace u.toNat = true) ∧ ∀ u ∈ back, isSpace u.toNat = true := by
  let blank (u : UInt16) : Bool := isSpace u.toNat
  have split : s = s.takeWhile blank ++ s.dropWhile blank := List.takeWhile_append_dropWhile.symm
  have ends : s.dropWhile blank = trim s ++ (s.dropWhile blank).rtakeWhile blank :=
    (List.rdropWhile_append_rtakeWhile ..).symm
  refine ⟨s.takeWhile blank, (s.dropWhile blank).rtakeWhile blank, ?_, ?_, ?_⟩
  · rw [← ends]
    exact split
  · exact fun u mem => List.mem_takeWhile_imp (p := blank) mem
  · exact fun u mem => List.mem_rtakeWhile_imp (p := blank) mem

lemma wellFormed_trim : wellFormed (trim s) = wellFormed s := by
  obtain ⟨front, back, split, blank, blank'⟩ := exists_trim s
  calc wellFormed (trim s) = wellFormed (trim s ++ back) := (wellFormed_append_blanks blank').symm
    _ = wellFormed (front ++ (trim s ++ back)) := (wellFormed_blanks blank).symm
    _ = wellFormed s := by rw [← split]

end Utf16
