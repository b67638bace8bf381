import Mathlib.Data.List.Infix

/-!
# Replacing every match

Every match in a text is replaced by a marker, from the left, as `replace` with a global pattern and
`replaceAll` do. The parts between the markers are parts of the text, so what does not touch the ends of the
marker does not come about at its seams.
-/

namespace Replace
variable {α : Type}

/-- A text in which every match is replaced. What is skipped belongs to the match before. -/
def replaceMatches (matchLength : List α → Option Nat) (marker : List α) : (skip : Nat) → List α → List α
  | _, [] => []
  | skip + 1, _ :: l => replaceMatches matchLength marker skip l
  | 0, a :: l =>
    match matchLength (a :: l) with
    | some n => marker ++ replaceMatches matchLength marker (n - 1) l
    | none => a :: replaceMatches matchLength marker 0 l

/-- A text in which every occurrence of another one is replaced. -/
def replaceAll [DecidableEq α] (searched marker text : List α) : List α :=
  replaceMatches (fun l => if searched <+: l then some searched.length else none) marker 0 text

section Matches
variable {matchLength : List α → Option Nat} {marker l : List α}

lemma replaceMatches_skip {n : Nat} :
    replaceMatches matchLength marker n l = replaceMatches matchLength marker 0 (l.drop n) := by
  induction l generalizing n with
  | nil => rw [List.drop_nil, replaceMatches, replaceMatches]
  | cons a l ih =>
    cases n with
    | zero => rfl
    | succ n => exact ih

/-- A text without matches stays as it is. -/
lemma replaceMatches_eq_self (none : ∀ t, t <:+ l → matchLength t = none) :
    replaceMatches matchLength marker 0 l = l := by
  induction l with
  | nil => rfl
  | cons a l ih =>
    rw [replaceMatches, none _ List.suffix_rfl]
    exact congrArg _ (ih fun t part => none t (part.trans (List.suffix_cons a l)))

end Matches

section Seams
variable {x u v mid : List α} {a b : α}

/-- What does not hold a separator is on one side of it. -/
lemma infix_of_separated (free : a ∉ x) (inside : x <:+: u ++ a :: v) : x <:+: u ∨ x <:+: v := by
  have first {y : List α} (part : y <+: a :: v) (free : a ∉ y) : y = [] := by
    cases y with
    | nil => rfl
    | cons b y =>
      obtain rfl : b = a := (List.cons_prefix_cons.mp part).1
      exact absurd List.mem_cons_self free
  obtain left | right | ⟨y, z, rfl, ends, begins⟩ := List.infix_append_iff.mp inside
  · exact .inl left
  · obtain begins | later := List.infix_cons_iff.mp right
    · rw [first begins free]
      exact .inl List.nil_infix
    · exact .inr later
  · obtain rfl : z = [] := first begins fun mem => free (List.mem_append_right _ mem)
    rw [List.append_nil]
    exact .inl ends.isInfix

/-- What does not hold the ends of a marker is on one side of it, or inside. -/
lemma infix_of_marked (opening : a ∉ x) (closing : b ∉ x)
    (inside : x <:+: u ++ (a :: (mid ++ [b]) ++ v)) : x <:+: u ∨ x <:+: mid ∨ x <:+: v := by
  have parts : u ++ (a :: (mid ++ [b]) ++ v) = u ++ a :: (mid ++ b :: v) := by
    rw [List.cons_append, List.append_assoc]
    rfl
  rw [parts] at inside
  exact (infix_of_separated opening inside).imp_right (infix_of_separated closing)

end Seams

section All
variable [DecidableEq α] {searched marker x l mid : List α} {a b : α}

/-- The first occurrence is replaced, and then those after it. -/
lemma replaceAll_cases (some : searched ≠ []) :
    (¬ searched <:+: l ∧ replaceAll searched marker l = l) ∨
    ∃ gap rest, l = gap ++ (searched ++ rest) ∧ ¬ searched <:+: gap ∧
      replaceAll searched marker l = gap ++ (marker ++ replaceAll searched marker rest) := by
  induction l with
  | nil => exact .inl ⟨fun inside => some (List.infix_nil.mp inside), rfl⟩
  | cons a l ih =>
    by_cases here : searched <+: a :: l
    · obtain ⟨rest, whole⟩ := here
      refine .inr ⟨[], rest, whole.symm, fun inside => some (List.infix_nil.mp inside), ?_⟩
      have after : l.drop (searched.length - 1) = rest := by
        cases searched with
        | nil => exact absurd rfl some
        | cons b searched =>
          cases whole
          exact List.drop_left
      rw [replaceAll, replaceMatches, if_pos ⟨rest, whole⟩]
      dsimp only
      rw [replaceMatches_skip, after]
      rfl
    · have step : replaceAll searched marker (a :: l) = a :: replaceAll searched marker l := by
        rw [replaceAll, replaceMatches, if_neg here]
        rfl
      obtain ⟨absent, same⟩ | ⟨gap, rest, whole, free, replaced⟩ := ih
      · refine .inl ⟨fun inside => ?_, by rw [step, same]⟩
        exact (List.infix_cons_iff.mp inside).elim here absent
      · refine .inr ⟨a :: gap, rest, by rw [whole]; rfl, fun inside => ?_, by rw [step, replaced]; rfl⟩
        refine (List.infix_cons_iff.mp inside).elim (fun first => here ?_) free
        rw [whole]
        exact first.trans (List.prefix_append (a :: gap) (searched ++ rest))

lemma replaceAll_eq_self (absent : ¬ searched <:+: l) : replaceAll searched marker l = l := by
  have some : searched ≠ [] := by
    rintro rfl
    exact absent List.nil_infix
  obtain ⟨-, same⟩ | ⟨gap, rest, whole, -, -⟩ := @replaceAll_cases _ _ _ marker l some
  · exact same
  · refine absurd ?_ absent
    rw [whole]
    exact List.infix_append' gap searched rest

/-- What is in the text after the replacement was in a part of it before, and the text replaced is in none of
these. The induction is on the length of the text. -/
lemma infix_replaceAll (some : searched ≠ []) (opening : a ∉ x) (closing : b ∉ x)
    (outside : ¬ x <:+: mid) (inside : x <:+: replaceAll searched (a :: (mid ++ [b])) l) :
    ∃ gap, x <:+: gap ∧ gap <:+: l ∧ ¬ searched <:+: gap := by
  induction length : l.length using Nat.strongRecOn generalizing l with
  | ind n ih =>
    obtain ⟨absent, same⟩ | ⟨gap, rest, whole, free, replaced⟩ :=
      @replaceAll_cases _ _ _ (a :: (mid ++ [b])) l some
    · rw [same] at inside
      exact ⟨l, inside, List.infix_rfl, absent⟩
    · rw [replaced] at inside
      obtain first | marked | later := infix_of_marked opening closing inside
      · refine ⟨gap, first, ?_, free⟩
        rw [whole]
        exact List.infix_append_left
      · exact absurd marked outside
      · have shorter : rest.length < n := by
          have pos := List.length_pos_iff.mpr some
          rw [← length, whole, List.length_append, List.length_append]
          omega
        obtain ⟨gap', found, part, free'⟩ := ih _ shorter later rfl
        refine ⟨gap', found, part.trans ?_, free'⟩
        rw [whole, ← List.append_assoc]
        exact List.infix_append_right

/-- What is replaced is gone. -/
lemma not_infix_replaceAll (opening : a ∉ searched) (closing : b ∉ searched)
    (outside : ¬ searched <:+: mid) : ¬ searched <:+: replaceAll searched (a :: (mid ++ [b])) l := by
  intro inside
  have some : searched ≠ [] := by
    rintro rfl
    exact outside List.nil_infix
  obtain ⟨gap, found, -, free⟩ := infix_replaceAll some opening closing outside inside
  exact free found

/-- What was gone does not come back. -/
lemma not_infix_replaceAll_of_not (some : searched ≠ []) (opening : a ∉ x) (closing : b ∉ x)
    (outside : ¬ x <:+: mid) (absent : ¬ x <:+: l) :
    ¬ x <:+: replaceAll searched (a :: (mid ++ [b])) l := by
  intro inside
  obtain ⟨gap, found, part, -⟩ := infix_replaceAll some opening closing outside inside
  exact absent (found.trans part)

end All

end Replace
