import Mathlib.Data.List.Sort
import Mathlib.Data.List.Induction
import Mathlib.Data.List.Pairwise

/-!
# Bounded windows

A log whose entries carry increasing numbers, of which a reader remembers the last ones only. An entry
that is taken is sorted into the window, and the lowest entries are dropped. Taken in the order of the
log, the window is the end of the log (`foldl_remember`); an entry below a full window is forgotten at
once (`remember_below`).
-/

namespace Window
variable {α : Type} (number : α → Nat) (size : Nat)

/-- The last entries of a list: `slice(-size)` -/
def last (entries : List α) : List α :=
  entries.drop (entries.length - size)

/-- Sorts an entry into the window and drops the lowest entries. -/
def remember (window : List α) (entry : α) : List α :=
  last size ((window ++ [entry]).insertionSort fun a b => number a ≤ number b)

/-- The entries carry increasing numbers. -/
def Ordered (entries : List α) : Prop :=
  entries.Pairwise fun a b => number a < number b

variable {number size} {entries window : List α} {entry : α}

lemma last_sublist : (last size entries).Sublist entries :=
  List.drop_sublist _ _

lemma length_last : (last size entries).length = min size entries.length := by
  rw [last, List.length_drop]
  omega

lemma last_append_last (entries rest : List α) :
    last size (last size entries ++ rest) = last size (entries ++ rest) := by
  simp only [last, List.length_append, List.length_drop, List.drop_append]
  rw [List.drop_drop]
  congr 2 <;> omega

/-- An entry that is not among the last ones comes before all of them, and the window is full. -/
lemma forgotten (ordered : Ordered number entries) (mem : entry ∈ entries)
    (out : entry ∉ last size entries) :
    (∀ a ∈ last size entries, number entry < number a) ∧ (last size entries).length = size := by
  have split : entries = entries.take (entries.length - size) ++ last size entries :=
    (List.take_append_drop _ entries).symm
  have before : entry ∈ entries.take (entries.length - size) := by
    rw [split] at mem
    exact (List.mem_append.mp mem).resolve_right out
  constructor
  · rw [Ordered, split, List.pairwise_append] at ordered
    exact fun a inside => ordered.2.2 entry before a inside
  · have some := List.length_pos_of_mem before
    rw [List.length_take] at some
    rw [length_last]
    omega

/-- Different entries of a log carry different numbers. -/
lemma Ordered.eq_of_number (ordered : Ordered number entries) {a b : α} (mem : a ∈ entries)
    (mem' : b ∈ entries) (same : number a = number b) : a = b := by
  have apart : entries.Pairwise fun a b => number a ≠ number b :=
    ordered.imp fun lt => Nat.ne_of_lt lt
  have symm : Std.Symm fun a b => number a ≠ number b :=
    ⟨fun _ _ ne => Ne.symm ne⟩
  by_contra ne
  exact apart.forall mem mem' ne same

lemma Ordered.sorted (ordered : Ordered number entries) :
    entries.insertionSort (fun a b => number a ≤ number b) = entries := by
  apply List.Pairwise.insertionSort_eq
  exact ordered.imp fun lt => Nat.le_of_lt lt

/-- What is above the whole window is appended to it. -/
lemma remember_above (ordered : Ordered number (window ++ [entry])) :
    remember number size window entry = last size (window ++ [entry]) := by
  rw [remember, ordered.sorted]

/-- What is below a full window is dropped at once. -/
lemma remember_below (ordered : Ordered number window) (full : window.length = size)
    (below : ∀ a ∈ window, number entry < number a) :
    remember number size window entry = window := by
  have ordered' : Ordered number (entry :: window) := .cons below ordered
  have sorted : (window ++ [entry]).insertionSort (fun a b => number a ≤ number b) =
      entry :: window := by
    have perm : ((window ++ [entry]).insertionSort fun a b => number a ≤ number b).Perm
        (entry :: window) :=
      (List.perm_insertionSort _ _).trans (List.perm_append_singleton _ _)
    have total : Std.Total fun a b : α => number a ≤ number b :=
      ⟨fun a b => Nat.le_total _ _⟩
    have trans : IsTrans α fun a b => number a ≤ number b :=
      ⟨fun _ _ _ => Nat.le_trans⟩
    apply perm.eq_of_pairwise _ (List.pairwise_insertionSort _ _)
      (ordered'.imp fun lt => Nat.le_of_lt lt)
    intro a b mem mem' le le'
    exact ordered'.eq_of_number (perm.mem_iff.mp mem) mem' (Nat.le_antisymm le le')
  rw [remember, sorted, last, List.length_cons, full, Nat.add_sub_cancel_left, List.drop_one,
    List.tail_cons]

/-- The window after a log is the end of the log. -/
lemma foldl_remember (ordered : Ordered number entries) :
    entries.foldl (remember number size) [] = last size entries := by
  induction entries using List.reverseRecOn with
  | nil => exact List.drop_nil.symm
  | append_singleton entries entry ih =>
    have before : Ordered number entries := (List.pairwise_append.mp ordered).1
    have above : Ordered number (last size entries ++ [entry]) :=
      ordered.sublist (last_sublist.append_right _)
    rw [List.foldl_append, ih before]
    show remember number size (last size entries) entry = _
    rw [remember_above above, last_append_last]

end Window
