import Mathlib.Computability.RegularExpressions

/-!
# Regular expressions

The forms that patterns of programs are written in, as regular expressions: literals, character
classes and counted repetitions of classes.
-/

namespace Regex
open RegularExpression
variable {α : Type}

/-- The pattern `abc`. -/
def literal (w : List α) : RegularExpression α :=
  (w.map char).prod

/-- The pattern `[abc]`. -/
def oneOf (as : List α) : RegularExpression α :=
  (as.map char).sum

/-- The pattern `P?`. -/
def optional (P : RegularExpression α) : RegularExpression α :=
  1 + P

/-- The pattern `P{0,n}`. -/
def atMost (n : Nat) (P : RegularExpression α) : RegularExpression α :=
  optional P ^ n

variable {as w v : List α} {a : α} {n : Nat} {P Q : RegularExpression α}

lemma mem_literal : w ∈ (literal v).matches' ↔ w = v := by
  induction v generalizing w with
  | nil => exact Iff.rfl
  | cons b v ih =>
    rw [literal, List.map_cons, List.prod_cons, matches'_mul, Language.mem_mul]
    constructor
    · rintro ⟨x, here, y, rest, rfl⟩
      rw [Set.mem_singleton_iff.mp here, ih.mp rest]
      rfl
    · rintro rfl
      exact ⟨[b], rfl, v, ih.mpr rfl, rfl⟩

lemma mem_oneOf : w ∈ (oneOf as).matches' ↔ ∃ a ∈ as, w = [a] := by
  induction as with
  | nil =>
    constructor
    · intro mem
      exact absurd mem (Language.notMem_zero w)
    · rintro ⟨a, mem, -⟩
      cases mem
  | cons b as ih =>
    rw [oneOf, List.map_cons, List.sum_cons, matches'_add, Language.mem_add]
    constructor
    · rintro (here | there)
      · exact ⟨b, List.mem_cons_self, here⟩
      · obtain ⟨a, mem, e⟩ := ih.mp there
        exact ⟨a, List.mem_cons_of_mem _ mem, e⟩
    · rintro ⟨a, mem, rfl⟩
      obtain rfl | mem := List.mem_cons.mp mem
      · exact .inl rfl
      · exact .inr (ih.mpr ⟨a, mem, rfl⟩)

lemma mem_mul : w ∈ (P * Q).matches' ↔ ∃ x ∈ P.matches', ∃ y ∈ Q.matches', x ++ y = w := by
  rw [matches'_mul, Language.mem_mul]

lemma mem_optional : w ∈ (optional P).matches' ↔ w = [] ∨ w ∈ P.matches' :=
  Iff.rfl

/-- Counted repetitions of a class. -/
lemma mem_oneOf_pow : w ∈ (oneOf as ^ n).matches' ↔ w.length = n ∧ ∀ a ∈ w, a ∈ as := by
  induction n generalizing w with
  | zero =>
    rw [matches'_pow, pow_zero, Language.mem_one, List.length_eq_zero_iff]
    constructor
    · rintro rfl
      exact ⟨rfl, fun _ mem => nomatch mem⟩
    · exact And.left
  | succ n ih =>
    rw [matches'_pow, pow_succ', ← matches'_pow, Language.mem_mul]
    constructor
    · rintro ⟨x, here, y, rest, rfl⟩
      obtain ⟨a, mem, rfl⟩ := mem_oneOf.mp here
      obtain ⟨length, all⟩ := ih.mp rest
      refine ⟨by simp [length], fun b inside => ?_⟩
      obtain rfl | inside := List.mem_cons.mp inside
      · exact mem
      · exact all b inside
    · rintro ⟨length, all⟩
      cases w with
      | nil => cases length
      | cons b w =>
        refine ⟨[b], mem_oneOf.mpr ⟨b, all b List.mem_cons_self, rfl⟩, w, ih.mpr ⟨?_, ?_⟩, rfl⟩
        · exact Nat.succ.inj length
        · exact fun a inside => all a (List.mem_cons_of_mem _ inside)

lemma mem_atMost_oneOf :
    w ∈ (atMost n (oneOf as)).matches' ↔ w.length ≤ n ∧ ∀ a ∈ w, a ∈ as := by
  induction n generalizing w with
  | zero =>
    rw [atMost, matches'_pow, pow_zero, Language.mem_one, Nat.le_zero, List.length_eq_zero_iff]
    constructor
    · rintro rfl
      exact ⟨rfl, fun _ mem => nomatch mem⟩
    · exact And.left
  | succ n ih =>
    rw [atMost, matches'_pow, pow_succ', ← matches'_pow, Language.mem_mul]
    constructor
    · rintro ⟨x, here, y, rest, rfl⟩
      obtain ⟨length, all⟩ := ih.mp rest
      obtain rfl | here := mem_optional.mp here
      · exact ⟨length.trans (Nat.le_succ n), all⟩
      · obtain ⟨a, mem, rfl⟩ := mem_oneOf.mp here
        refine ⟨Nat.succ_le_succ length, fun b inside => ?_⟩
        obtain rfl | inside := List.mem_cons.mp inside
        · exact mem
        · exact all b inside
    · rintro ⟨length, all⟩
      cases w with
      | nil => exact ⟨[], .inl rfl, [], ih.mpr ⟨Nat.zero_le _, fun _ mem => nomatch mem⟩, rfl⟩
      | cons b w =>
        refine ⟨[b], .inr (mem_oneOf.mpr ⟨b, all b List.mem_cons_self, rfl⟩), w,
          ih.mpr ⟨?_, ?_⟩, rfl⟩
        · exact Nat.le_of_succ_le_succ length
        · exact fun a inside => all a (List.mem_cons_of_mem _ inside)

/-- The elements that a pattern mentions. -/
def letters : RegularExpression α → List α
  | .zero | .epsilon => []
  | .char a => [a]
  | .plus P Q | .comp P Q => letters P ++ letters Q
  | .star P => letters P

/-- The length of the longest match, if there is one. -/
def longest : RegularExpression α → Option Nat
  | .zero | .epsilon => some 0
  | .char _ => some 1
  | .plus P Q => (longest P).bind fun m => (longest Q).map fun n => max m n
  | .comp P Q => (longest P).bind fun m => (longest Q).map fun n => m + n
  | .star _ => none

lemma letters_mul : letters (P * Q) = letters P ++ letters Q :=
  rfl

lemma letters_literal : letters (literal w) = w := by
  induction w with
  | nil => rfl
  | cons b w ih =>
    rw [literal, List.map_cons, List.prod_cons, letters_mul]
    exact congrArg (b :: ·) ih

lemma letters_oneOf : letters (oneOf as) = as := by
  induction as with
  | nil => rfl
  | cons b as ih =>
    rw [oneOf, List.map_cons, List.sum_cons]
    exact congrArg (b :: ·) ih

lemma mem_letters_pow (mem : a ∈ letters (P ^ n)) : a ∈ letters P := by
  induction n with
  | zero => cases mem
  | succ n ih =>
    have mem : a ∈ letters (P ^ n) ++ letters P := mem
    exact (List.mem_append.mp mem).elim ih id

/-- A match has no other elements than those of the pattern. -/
lemma mem_letters (mem : w ∈ P.matches') (inside : a ∈ w) : a ∈ letters P := by
  induction P generalizing w with
  | zero => exact absurd mem (Language.notMem_zero w)
  | epsilon =>
    rw [(Language.mem_one w).mp mem] at inside
    cases inside
  | char b =>
    rw [Set.mem_singleton_iff.mp mem] at inside
    exact inside
  | plus P Q ihP ihQ =>
    obtain mem | mem := mem
    · exact List.mem_append_left _ (ihP mem inside)
    · exact List.mem_append_right _ (ihQ mem inside)
  | comp P Q ihP ihQ =>
    obtain ⟨x, first, y, second, rfl⟩ := Language.mem_mul.mp mem
    obtain inside | inside := List.mem_append.mp inside
    · exact List.mem_append_left _ (ihP first inside)
    · exact List.mem_append_right _ (ihQ second inside)
  | star P ih =>
    obtain ⟨parts, rfl, all⟩ := Language.mem_kstar.mp mem
    obtain ⟨part, there, inside⟩ := List.mem_flatten.mp inside
    exact ih (all part there) inside

/-- No match is longer than the longest. -/
lemma length_le_longest (mem : w ∈ P.matches') (e : longest P = some n) : w.length ≤ n := by
  induction P generalizing w n with
  | zero => exact absurd mem (Language.notMem_zero w)
  | epsilon =>
    rw [(Language.mem_one w).mp mem]
    exact Nat.zero_le n
  | char b =>
    cases e
    rw [Set.mem_singleton_iff.mp mem]
    exact Nat.le_refl 1
  | plus P Q ihP ihQ =>
    obtain ⟨m, first, e⟩ := Option.bind_eq_some_iff.mp e
    obtain ⟨k, second, rfl⟩ := Option.map_eq_some_iff.mp e
    obtain mem | mem := mem
    · exact (ihP mem first).trans (Nat.le_max_left m k)
    · exact (ihQ mem second).trans (Nat.le_max_right m k)
  | comp P Q ihP ihQ =>
    obtain ⟨m, first, e⟩ := Option.bind_eq_some_iff.mp e
    obtain ⟨k, second, rfl⟩ := Option.map_eq_some_iff.mp e
    obtain ⟨x, left, y, right, rfl⟩ := Language.mem_mul.mp mem
    rw [List.length_append]
    exact Nat.add_le_add (ihP left first) (ihQ right second)
  | star => cases e

section Closed
variable {f : α → α}

/-- A pattern whose matches are mapped to matches. -/
def ClosedUnder (f : α → α) (P : RegularExpression α) : Prop :=
  ∀ w ∈ P.matches', w.map f ∈ P.matches'

lemma closed_literal (fixed : v.map f = v) : ClosedUnder f (literal v) := by
  intro w mem
  rw [mem_literal.mp mem, fixed]
  exact mem_literal.mpr rfl

lemma closed_oneOf (keeps : ∀ a ∈ as, f a ∈ as) : ClosedUnder f (oneOf as) := by
  intro w mem
  obtain ⟨a, inside, rfl⟩ := mem_oneOf.mp mem
  exact mem_oneOf.mpr ⟨f a, keeps a inside, rfl⟩

lemma closed_oneOf_pow (keeps : ∀ a ∈ as, f a ∈ as) : ClosedUnder f (oneOf as ^ n) := by
  intro w mem
  obtain ⟨length, all⟩ := mem_oneOf_pow.mp mem
  refine mem_oneOf_pow.mpr ⟨by rw [List.length_map, length], fun b inside => ?_⟩
  obtain ⟨a, there, rfl⟩ := List.mem_map.mp inside
  exact keeps a (all a there)

lemma ClosedUnder.mul (first : ClosedUnder f P) (second : ClosedUnder f Q) :
    ClosedUnder f (P * Q) := by
  intro w mem
  obtain ⟨x, left, y, right, rfl⟩ := mem_mul.mp mem
  exact mem_mul.mpr ⟨x.map f, first x left, y.map f, second y right, List.map_append.symm⟩

lemma ClosedUnder.add (first : ClosedUnder f P) (second : ClosedUnder f Q) :
    ClosedUnder f (P + Q) := by
  intro w mem
  rw [matches'_add, Language.mem_add] at mem ⊢
  exact mem.imp (first w) (second w)

end Closed

end Regex
