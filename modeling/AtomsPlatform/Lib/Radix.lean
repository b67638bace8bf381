import Mathlib.Data.Nat.Digits.Lemmas
import Mathlib.Data.List.GetD
import Mathlib.Data.List.Nodup
import Mathlib.Tactic.Ring

/-!
# Numbers as text

The digits of a number in the symbols of an alphabet, most significant first, as `toString` writes
them, and padded to a width with the symbol for zero. Texts of one width are the numbers below a power
of the base: writing and reading are inverse to each other.
-/

namespace Radix
variable {α : Type}

/-- The symbols of the digits, from zero on. -/
structure Alphabet (α : Type) where
  symbols : List α
  distinct : symbols.Nodup
  two : 2 ≤ symbols.length

namespace Alphabet
variable (A : Alphabet α) {l l' : List α} {n w : Nat}

/-- The base. -/
def base : Nat :=
  A.symbols.length

/-- The symbol for zero. -/
def zero : α :=
  A.symbols.head (List.ne_nil_of_length_pos (Nat.lt_of_lt_of_le Nat.two_pos A.two))

/-- The symbol of a digit. -/
def symbol (d : Nat) : α :=
  A.symbols.getD d A.zero

/-- The digit of a symbol. -/
def digit [DecidableEq α] (a : α) : Nat :=
  A.symbols.idxOf a

/-- A number as text. -/
def toText (n : Nat) : List α :=
  if n = 0 then [A.zero] else (Nat.digits A.base n).reverse.map A.symbol

/-- The number that a text stands for. -/
def value [DecidableEq α] (l : List α) : Nat :=
  l.foldl (fun result a => result * A.base + A.digit a) 0

/-- A text with zeros in front of it, up to a width. -/
def padStart (w : Nat) (l : List α) : List α :=
  List.replicate (w - l.length) A.zero ++ l

variable {A}

lemma one_lt_base : 1 < A.base :=
  A.two

lemma base_pos : 0 < A.base :=
  Nat.lt_trans Nat.one_pos one_lt_base

lemma symbol_mem {d : Nat} (small : d < A.base) : A.symbol d ∈ A.symbols := by
  rw [symbol, List.getD_eq_getElem _ _ small]
  exact List.getElem_mem small

lemma zero_mem : A.zero ∈ A.symbols :=
  List.head_mem _

lemma toText_mem {a : α} (mem : a ∈ A.toText n) : a ∈ A.symbols := by
  rw [toText] at mem
  split at mem
  · rw [List.mem_singleton.mp mem]
    exact zero_mem
  · obtain ⟨d, inside, rfl⟩ := List.mem_map.mp mem
    exact symbol_mem (Nat.digits_lt_base one_lt_base (List.mem_reverse.mp inside))

lemma padStart_mem {a : α} (digits : ∀ a ∈ l, a ∈ A.symbols) (mem : a ∈ A.padStart w l) :
    a ∈ A.symbols := by
  obtain padding | inside := List.mem_append.mp mem
  · rw [List.eq_of_mem_replicate padding]
    exact zero_mem
  · exact digits a inside

lemma length_padStart : (A.padStart w l).length = max w l.length := by
  rw [padStart, List.length_append, List.length_replicate]
  omega

variable [DecidableEq α]

lemma digit_symbol {d : Nat} (small : d < A.base) : A.digit (A.symbol d) = d := by
  rw [digit, symbol, List.getD_eq_getElem _ _ small]
  exact A.distinct.idxOf_getElem d small

@[simp]
lemma digit_zero : A.digit A.zero = 0 := by
  have e : A.zero = A.symbol 0 := by
    rw [symbol, List.getD_eq_getElem _ _ base_pos, zero, List.head_eq_getElem]
    rfl
  rw [e]
  exact digit_symbol base_pos

lemma digit_lt {a : α} (mem : a ∈ A.symbols) : A.digit a < A.base :=
  List.idxOf_lt_length_of_mem mem

lemma digits_injective (digits : ∀ a ∈ l, a ∈ A.symbols) (e : l.map A.digit = l'.map A.digit) :
    l = l' := by
  induction l generalizing l' with
  | nil => exact (List.map_eq_nil_iff.mp e.symm).symm
  | cons a l ih =>
    cases l' with
    | nil => cases e
    | cons a' l' =>
      rw [List.map_cons, List.map_cons, List.cons.injEq] at e
      rw [(List.idxOf_inj (digits a List.mem_cons_self)).mp e.1,
        ih (fun b mem => digits b (List.mem_cons_of_mem a mem)) e.2]

/-- The number of a text is that of its digits. -/
lemma value_eq : A.value l = Nat.ofDigits A.base (l.map A.digit).reverse := by
  have general : ∀ (l : List α) (r : Nat),
      l.foldl (fun result a => result * A.base + A.digit a) r =
        Nat.ofDigits A.base (l.map A.digit).reverse + r * A.base ^ l.length := by
    intro l
    induction l with
    | nil => intro r; simp
    | cons a l ih =>
      intro r
      rw [List.foldl_cons, ih, List.map_cons, List.reverse_cons, Nat.ofDigits_append,
        Nat.ofDigits_singleton, List.length_reverse, List.length_map, List.length_cons, Nat.pow_succ]
      ring
  rw [value, general, Nat.zero_mul, Nat.add_zero]

lemma value_lt (digits : ∀ a ∈ l, a ∈ A.symbols) : A.value l < A.base ^ l.length := by
  have small : ∀ d ∈ (l.map A.digit).reverse, d < A.base := by
    intro d mem
    obtain ⟨a, inside, rfl⟩ := List.mem_map.mp (List.mem_reverse.mp mem)
    exact digit_lt (digits a inside)
  have bound := Nat.ofDigits_lt_base_pow_length one_lt_base small
  rwa [List.length_reverse, List.length_map, ← value_eq] at bound

/-- Texts of the same length that stand for the same number are the same. -/
lemma value_injective (digits : ∀ a ∈ l, a ∈ A.symbols) (digits' : ∀ a ∈ l', a ∈ A.symbols)
    (length : l.length = l'.length) (e : A.value l = A.value l') : l = l' := by
  have small {l : List α} (digits : ∀ a ∈ l, a ∈ A.symbols) :
      ∀ d ∈ (l.map A.digit).reverse, d < A.base := by
    intro d mem
    obtain ⟨a, inside, rfl⟩ := List.mem_map.mp (List.mem_reverse.mp mem)
    exact digit_lt (digits a inside)
  rw [value_eq, value_eq] at e
  have same := Nat.ofDigits_inj_of_len_eq one_lt_base (by simp [length]) (small digits)
    (small digits') e
  exact digits_injective digits (List.reverse_inj.mp same)

/-- What is written is read back, with zeros in front of it or without. -/
lemma value_padStart_toText : A.value (A.padStart w (A.toText n)) = n := by
  have text : Nat.ofDigits A.base ((A.toText n).map A.digit).reverse = n := by
    rw [toText]
    split
    · rename_i zero
      simp [zero]
    · have digits : ((Nat.digits A.base n).map A.symbol).map A.digit = Nat.digits A.base n := by
        have same : ∀ d ∈ Nat.digits A.base n, (A.digit ∘ A.symbol) d = id d := fun d mem =>
          digit_symbol (Nat.digits_lt_base one_lt_base mem)
        rw [List.map_map, List.map_congr_left same, List.map_id]
      rw [List.map_reverse, List.map_reverse, List.reverse_reverse, digits, Nat.ofDigits_digits]
  rw [value_eq, padStart, List.map_append, List.reverse_append, List.map_replicate, digit_zero,
    List.reverse_replicate, Nat.ofDigits_append_replicate_zero, text]

/-- A text has the width it is padded to exactly if the number is below the power of the base. -/
lemma length_padStart_toText (pos : 0 < w) :
    (A.padStart w (A.toText n)).length = w ↔ n < A.base ^ w := by
  constructor
  · intro length
    have bound := value_lt (A := A) (l := A.padStart w (A.toText n)) fun a mem =>
      padStart_mem (fun _ => toText_mem) mem
    rwa [value_padStart_toText, length] at bound
  · intro small
    rw [length_padStart]
    apply Nat.max_eq_left
    rw [toText]
    split
    · exact pos
    · rw [List.length_map, List.length_reverse]
      exact (Nat.digits_length_le_iff one_lt_base n).mpr small

/-- The number of a text is written as this text. -/
lemma padStart_toText_value (digits : ∀ a ∈ l, a ∈ A.symbols) (length : l.length = w) (pos : 0 < w) :
    A.padStart w (A.toText (A.value l)) = l := by
  have small : A.value l < A.base ^ w := length ▸ value_lt digits
  apply value_injective (fun a mem => padStart_mem (fun _ => toText_mem) mem) digits
  · rw [(length_padStart_toText pos).mpr small, length]
  · exact value_padStart_toText

end Alphabet
end Radix
