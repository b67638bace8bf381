import Mathlib.Data.List.DropRight

/-!
# Words and separators

Slugs: a text with every run of other characters replaced by one separator, and without separators
at its ends. Such a text is its words with single separators in between, so a separator stands where
some of the words end and others follow.
-/

namespace Words
variable {α : Type} {keep : α → Bool} {sep : α}

/-- Every run of elements that are not kept is replaced by one separator; `running` tells that the
    run has been replaced already. -/
def squeeze (keep : α → Bool) (sep : α) : (running : Bool) → List α → List α
  | _, [] => []
  | running, a :: l =>
    if keep a then a :: squeeze keep sep false l
    else if running then squeeze keep sep true l
    else sep :: squeeze keep sep true l

/-- A list without separators at its ends. -/
def trim [DecidableEq α] (sep : α) (l : List α) : List α :=
  (l.dropWhile fun a => a = sep).rdropWhile fun a => a = sep

/-- The words of a list: its runs of kept elements. -/
def words (keep : α → Bool) (l : List α) : List (List α) :=
  (l.splitOnP fun a => !keep a).filter fun w => !w.isEmpty

section Words
variable {a b : α} {l w : List α}

@[simp]
lemma words_nil : words keep ([] : List α) = [] :=
  rfl

lemma words_skip (skip : keep a = false) : words keep (a :: l) = words keep l := by
  simp [words, List.splitOnP_cons_eq_if_modifyHead, skip]

/-- A word that ends with the list, or before an element that is not kept. -/
lemma words_last (kept : keep a = true) : words keep [a] = [[a]] := by
  simp [words, List.splitOnP_cons_eq_if_modifyHead, kept]

lemma words_end (kept : keep a = true) (skip : keep b = false) :
    words keep (a :: b :: l) = [a] :: words keep l := by
  simp [words, List.splitOnP_cons_eq_if_modifyHead, kept, skip]

/-- A word that goes on. -/
lemma words_cons (kept : keep a = true) (next : keep b = true) :
    ∃ w ws, words keep (b :: l) = w :: ws ∧ words keep (a :: b :: l) = (a :: w) :: ws := by
  obtain ⟨w, ws, e⟩ := List.exists_cons_of_ne_nil (List.splitOnP_ne_nil (fun a => !keep a) l)
  refine ⟨b :: w, ws.filter fun w => !w.isEmpty, ?_, ?_⟩
  · simp [words, List.splitOnP_cons_eq_if_modifyHead, next, e]
  · simp [words, List.splitOnP_cons_eq_if_modifyHead, kept, next, e]

/-- Words have no other elements than kept ones. -/
lemma kept_of_mem_words {l : List α} (mem : w ∈ words keep l) (inside : a ∈ w) : keep a = true := by
  induction l generalizing w with
  | nil => cases mem
  | cons b l ih =>
    cases kept : keep b with
    | false =>
      rw [words_skip kept] at mem
      exact ih mem inside
    | true =>
      cases l with
      | nil =>
        rw [words_last kept, List.mem_singleton] at mem
        subst mem
        rwa [List.mem_singleton.mp inside]
      | cons c l =>
        cases next : keep c with
        | false =>
          rw [words_end kept next] at mem
          rw [words_skip next] at ih
          obtain rfl | mem := List.mem_cons.mp mem
          · rwa [List.mem_singleton.mp inside]
          · exact ih mem inside
        | true =>
          obtain ⟨v, ws, e, e'⟩ := words_cons (l := l) kept next
          rw [e'] at mem
          rw [e] at ih
          obtain rfl | mem := List.mem_cons.mp mem
          · obtain rfl | inside := List.mem_cons.mp inside
            · exact kept
            · exact ih List.mem_cons_self inside
          · exact ih (List.mem_cons_of_mem _ mem) inside

end Words

section Slugs
variable {a b : α} {l : List α} {ws : List (List α)} {n : Nat}

lemma rdropWhile_cons {p : α → Bool} (a : α) (l : List α) :
    (a :: l).rdropWhile p =
      if l.rdropWhile p = [] then (if p a = true then [] else [a]) else a :: l.rdropWhile p := by
  simp only [List.rdropWhile, List.reverse_cons, List.dropWhile_append, List.reverse_eq_nil_iff]
  cases e : l.reverse.dropWhile p with
  | nil =>
    simp only [List.isEmpty_nil, if_true, List.dropWhile_cons, List.dropWhile_nil]
    split <;> rfl
  | cons b l' => simp

variable [DecidableEq α]

omit [DecidableEq α] in
lemma nonempty_of_mem_words {w : List α} (mem : w ∈ words keep l) : w ≠ [] := by
  have nonempty := (List.mem_filter.mp mem).2
  rintro rfl
  cases nonempty

omit [DecidableEq α] in
lemma intercalate_words_eq_nil : [sep].intercalate (words keep l) = [] ↔ words keep l = [] := by
  constructor
  · intro empty
    cases e : words keep l with
    | nil => rfl
    | cons w ws =>
      have nonempty : w ≠ [] := nonempty_of_mem_words (e ▸ List.mem_cons_self)
      rw [e] at empty
      obtain ⟨a, w, rfl⟩ := List.exists_cons_of_ne_nil nonempty
      rw [List.intercalate_cons_cons_left] at empty
      cases empty
  · intro none
    rw [none]
    rfl

omit [DecidableEq α] in
lemma ne_of_kept (apart : keep sep = false) (kept : keep a = true) : a ≠ sep := by
  rintro rfl
  cases kept.symm.trans apart

/-- What is squeezed begins like the list, but for a separator. -/
lemma dropWhile_squeeze (apart : keep sep = false) (running : Bool) :
    (squeeze keep sep running l).dropWhile (fun a => a = sep) = squeeze keep sep true l := by
  induction l generalizing running with
  | nil => rfl
  | cons a l ih =>
    cases kept : keep a with
    | true =>
      have ne := ne_of_kept apart kept
      simp [squeeze, kept, ne]
    | false =>
      cases running with
      | true => simpa [squeeze, kept] using ih true
      | false => simpa [squeeze, kept] using ih true

/-- What is squeezed is made of the words, but for separators at the end. -/
lemma rdropWhile_squeeze (apart : keep sep = false) : ∀ l : List α,
    (squeeze keep sep true l).rdropWhile (fun a => a = sep) = [sep].intercalate (words keep l)
  | [] => rfl
  | [a] => by
    cases kept : keep a with
    | false => simp [squeeze, kept, words_skip]
    | true =>
      have ne := ne_of_kept apart kept
      simp [squeeze, kept, words_last, rdropWhile_cons, ne]
  | a :: b :: l => by
    have ih := rdropWhile_squeeze apart (b :: l)
    have ih' := rdropWhile_squeeze apart l
    cases kept : keep a with
    | false =>
      rw [words_skip kept, ← ih]
      simp [squeeze, kept]
    | true =>
      have ne := ne_of_kept apart kept
      cases next : keep b with
      | false =>
        have squeezed : squeeze keep sep true (a :: b :: l) = a :: sep :: squeeze keep sep true l := by
          simp [squeeze, kept, next]
        rw [squeezed, words_end kept next, rdropWhile_cons, rdropWhile_cons, ih']
        by_cases none : words keep l = []
        · simp [none, ne]
        · have some : [sep].intercalate (words keep l) ≠ [] :=
            fun empty => none (intercalate_words_eq_nil.mp empty)
          rw [if_neg some, if_neg (List.cons_ne_nil _ _), List.intercalate_cons_of_ne_nil none]
          rfl
      | true =>
        obtain ⟨w, ws, e, e'⟩ := words_cons (l := l) kept next
        rw [e] at ih
        have squeezed : squeeze keep sep true (a :: b :: l) = a :: squeeze keep sep true (b :: l) := by
          simp [squeeze, kept, next]
        have some : (squeeze keep sep true (b :: l)).rdropWhile (fun a => a = sep) ≠ [] := by
          intro empty
          have all := List.rdropWhile_eq_nil_iff.mp empty b (by simp [squeeze, next])
          exact ne_of_kept apart next (of_decide_eq_true all)
        rw [e', List.intercalate_cons_cons_left, ← ih, squeezed, rdropWhile_cons, if_neg some]

/-- A slug is its words, with separators in between. -/
theorem trim_squeeze (apart : keep sep = false) :
    trim sep (squeeze keep sep false l) = [sep].intercalate (words keep l) := by
  rw [trim, dropWhile_squeeze apart, rdropWhile_squeeze apart]

omit [DecidableEq α] in
lemma mem_intercalate (mem : a ∈ [sep].intercalate ws) : a = sep ∨ ∃ w ∈ ws, a ∈ w := by
  induction ws with
  | nil => cases mem
  | cons w ws ih =>
    by_cases single : ws = []
    · subst single
      rw [List.intercalate_singleton] at mem
      exact .inr ⟨w, List.mem_cons_self, mem⟩
    · rw [List.intercalate_cons_of_ne_nil single, List.mem_append, List.mem_append,
        List.mem_singleton] at mem
      obtain (mem | same) | mem := mem
      · exact .inr ⟨w, List.mem_cons_self, mem⟩
      · exact .inl same
      · obtain same | ⟨v, mem, inside⟩ := ih mem
        · exact .inl same
        · exact .inr ⟨v, List.mem_cons_of_mem _ mem, inside⟩

lemma trim_sublist (sep : α) (l : List α) : (trim sep l).Sublist l :=
  (List.rdropWhile_prefix _ _).sublist.trans (List.dropWhile_sublist _)

/-- A list without separators at its ends stays as it is. -/
lemma trim_eq_self (start : l.head? ≠ some sep) (stop : l.getLast? ≠ some sep) : trim sep l = l := by
  have first : l.dropWhile (fun a => a = sep) = l := by
    cases l with
    | nil => rfl
    | cons a l =>
      have ne : a ≠ sep := fun same => start (congrArg some same)
      simp [ne]
  rw [trim, first, List.rdropWhile_eq_self_iff]
  intro nonempty last
  rw [List.getLast?_eq_some_getLast nonempty] at stop
  exact stop (congrArg some (of_decide_eq_true last))

/-- What is trimmed does not end with a separator. -/
lemma getLast?_trim (last : (trim sep l).getLast? = some a) : a ≠ sep := by
  rintro rfl
  have nonempty : trim a l ≠ [] := by
    intro empty
    rw [empty] at last
    cases last
  rw [List.getLast?_eq_some_getLast nonempty, Option.some.injEq] at last
  exact List.rdropWhile_last_not _ _ nonempty (decide_eq_true last)

/-- A separator stands where some words end and others follow. -/
theorem getElem?_intercalate (free : ∀ w ∈ ws, sep ∉ w) :
    ([sep].intercalate ws)[n]? = some sep ↔
      ∃ first last, ws = first ++ last ∧ first ≠ [] ∧ last ≠ [] ∧
        ([sep].intercalate first).length = n := by
  induction ws generalizing n with
  | nil =>
    constructor
    · intro e
      cases e
    · rintro ⟨first, last, e, some, -⟩
      exact absurd (List.append_eq_nil_iff.mp e.symm).1 some
  | cons w ws ih =>
    have plain (m : Nat) : w[m]? ≠ some sep := fun e =>
      free w List.mem_cons_self (List.mem_of_getElem? e)
    cases ws with
    | nil =>
      rw [List.intercalate_singleton]
      refine ⟨fun e => absurd e (plain n), ?_⟩
      rintro ⟨first, last, e, some, some', -⟩
      have lengths := congrArg List.length e
      rw [List.length_append, List.length_singleton] at lengths
      have := List.length_pos_of_ne_nil some
      have := List.length_pos_of_ne_nil some'
      omega
    | cons w' ws =>
      have ih := ih (n := n - (w.length + 1)) fun v mem => free v (List.mem_cons_of_mem _ mem)
      rw [List.intercalate_cons_cons]
      constructor
      · intro e
        obtain lt | le := Nat.lt_or_ge n w.length
        · rw [List.append_assoc, List.getElem?_append_left lt] at e
          exact absurd e (plain n)
        obtain same | lt := Nat.eq_or_lt_of_le le
        · exact ⟨[w], w' :: ws, rfl, List.cons_ne_nil _ _, List.cons_ne_nil _ _, by simpa using same⟩
        · rw [List.getElem?_append_right (by simp; omega)] at e
          rw [List.length_append, List.length_singleton] at e
          obtain ⟨first, last, e, some, some', lengths⟩ := ih.mp e
          refine ⟨w :: first, last, congrArg (List.cons w) e, List.cons_ne_nil _ _, some', ?_⟩
          rw [List.intercalate_cons_of_ne_nil some, List.length_append, List.length_append,
            List.length_singleton, lengths]
          omega
      · rintro ⟨first, last, e, some, some', lengths⟩
        cases first with
        | nil => exact absurd rfl some
        | cons v first =>
          obtain ⟨rfl, rest⟩ := List.cons.inj e
          by_cases single : first = []
          · subst single
            rw [List.intercalate_singleton] at lengths
            rw [List.append_assoc, List.getElem?_append_right (by omega), ← lengths, Nat.sub_self]
            rfl
          · rw [List.intercalate_cons_of_ne_nil single, List.length_append, List.length_append,
              List.length_singleton] at lengths
            rw [List.getElem?_append_right (by simp; omega), List.length_append,
              List.length_singleton]
            exact ih.mpr ⟨first, last, rest, single, some', by omega⟩

end Slugs

end Words
