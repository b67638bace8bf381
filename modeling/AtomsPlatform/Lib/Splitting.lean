import Mathlib.Data.List.Chain
import Mathlib.Data.List.DropRight

/-!
# Texts and their parts

A list split at the elements that satisfy a test, or at a separator, and a list without its ends. What
holds of neighbours in a joined text holds in the parts and where they meet, and the other way round.
-/

namespace Splitting
variable {α : Type} {p : α → Bool} {a : α} {part text l : List α} {parts : List (List α)}

/-- Texts are equal if their characters are. -/
lemma lawfulBEq_text : LawfulBEq (List Char) :=
  inferInstance

/-- What a part has is no separator, and it is in the text. -/
lemma mem_splitOnP (mem : part ∈ text.splitOnP p) (inside : a ∈ part) : p a = false ∧ a ∈ text := by
  induction text generalizing part with
  | nil =>
    rw [List.splitOnP_nil] at mem
    rw [List.mem_singleton.mp mem] at inside
    cases inside
  | cons b text ih =>
    have later (known : p a = false ∧ a ∈ text) : p a = false ∧ a ∈ b :: text :=
      known.imp_right (List.mem_cons_of_mem _)
    rw [List.splitOnP_cons_eq_if_modifyHead] at mem
    split at mem
    · rcases List.mem_cons.mp mem with rfl | mem
      · cases inside
      · exact later (ih mem inside)
    · rename_i other
      obtain ⟨first, others, is⟩ := List.exists_cons_of_ne_nil (List.splitOnP_ne_nil p text)
      rw [is, List.modifyHead_cons] at mem
      rw [is] at ih
      rcases List.mem_cons.mp mem with rfl | mem
      · rcases List.mem_cons.mp inside with rfl | inside
        · exact ⟨Bool.eq_false_iff.mpr other, List.mem_cons_self⟩
        · exact later (ih List.mem_cons_self inside)
      · exact later (ih (List.mem_cons_of_mem _ mem) inside)

/-- A list without its ends has no ends to lose. -/
lemma dropEnds_dropEnds (p : α → Bool) (l : List α) :
    (((l.dropWhile p).rdropWhile p).dropWhile p).rdropWhile p = (l.dropWhile p).rdropWhile p := by
  have front : ((l.dropWhile p).rdropWhile p).dropWhile p = (l.dropWhile p).rdropWhile p := by
    cases kept : (l.dropWhile p).rdropWhile p with
    | nil => rfl
    | cons a rest =>
      have begins : a :: rest <+: l.dropWhile p := kept ▸ List.rdropWhile_prefix p _
      obtain ⟨tail, whole⟩ := begins
      have first : p a = false := by
        have head := List.head_dropWhile_not p (l := l) (by rw [← whole]; exact List.cons_ne_nil _ _)
        simpa [← whole] using head
      rw [List.dropWhile_cons_of_neg (by simp [first])]
  rw [front, List.rdropWhile_idempotent]

section Separator
variable {sep : α} {R : α → α → Prop}

lemma not_mem_splitOn [DecidableEq α] (mem : part ∈ text.splitOn sep) : sep ∉ part := by
  intro inside
  rw [List.splitOn_eq_splitOnP] at mem
  have other := (mem_splitOnP mem inside).1
  rw [beq_self_eq_true] at other
  cases other

/-- A part of a text is inside it. -/
lemma infix_intercalate (mem : part ∈ parts) : part <:+: [sep].intercalate parts := by
  induction parts with
  | nil => cases mem
  | cons first parts ih =>
    cases parts with
    | nil =>
      have here : part = first := List.mem_singleton.mp mem
      subst here
      have whole : [sep].intercalate [part] = part := List.intercalate_singleton
      exact whole.symm ▸ List.infix_rfl
    | cons second parts =>
      rw [List.intercalate_cons_cons]
      rcases List.mem_cons.mp mem with rfl | mem
      · rw [List.append_assoc]
        exact (List.prefix_append _ _).isInfix
      · exact (ih mem).trans (List.suffix_append _ _).isInfix

lemma infix_of_mem_splitOn [DecidableEq α] (mem : part ∈ text.splitOn sep) : part <:+: text := by
  have inside : part <:+: [sep].intercalate (text.splitOn sep) := infix_intercalate mem
  rw [List.intercalate_splitOn sep] at inside
  exact inside

/-- What holds of the separator and of every element of a part holds of every element of the text. -/
lemma forall_intercalate {P : α → Prop} (separator : P sep) (each : ∀ part ∈ parts, ∀ a ∈ part, P a) :
    ∀ a ∈ [sep].intercalate parts, P a := by
  induction parts with
  | nil =>
    intro a mem
    cases mem
  | cons first parts ih =>
    have here := each first List.mem_cons_self
    have later := ih fun part mem => each part (List.mem_cons_of_mem _ mem)
    cases parts with
    | nil =>
      rw [List.intercalate_singleton]
      exact here
    | cons second parts =>
      rw [List.intercalate_cons_cons, List.append_assoc, List.singleton_append]
      intro a mem
      rcases List.mem_append.mp mem with mem | mem
      · exact here a mem
      · rcases List.mem_cons.mp mem with rfl | mem
        · exact separator
        · exact later a mem

/-- The first element of a text: that of the first part, or the separator behind it. -/
lemma head?_intercalate {first : List α} {P : α → Prop} (separator : P sep) (starts : ∀ a ∈ first.head?, P a) :
    ∀ a ∈ ([sep].intercalate (first :: parts)).head?, P a := by
  cases parts with
  | nil =>
    rw [List.intercalate_singleton]
    exact starts
  | cons second parts =>
    rw [List.intercalate_cons_cons, List.append_assoc]
    cases first with
    | nil =>
      intro a is
      cases is
      exact separator
    | cons b first => exact starts

/-- Two texts with a separator between them. -/
lemma isChain_append_cons {rest : List α} : (l ++ sep :: rest).IsChain R ↔
    l.IsChain R ∧ (∀ a ∈ l.getLast?, R a sep) ∧ (∀ a ∈ rest.head?, R sep a) ∧ rest.IsChain R := by
  rw [List.isChain_append, List.isChain_cons, List.head?_cons]
  constructor
  · intro ⟨front, ⟨next, back⟩, last⟩
    exact ⟨front, fun a is => last a is sep rfl, next, back⟩
  · intro ⟨front, last, next, back⟩
    refine ⟨front, ⟨next, back⟩, fun a is b same => ?_⟩
    cases same
    exact last a is

/-- Where the parts of a text meet the separators around them. -/
def Meets (R : α → α → Prop) (sep : α) (parts : List (List α)) : Prop :=
  ∀ n part, parts[n]? = some part → (0 < n → ∀ a ∈ part.head?, R sep a) ∧
    (n + 1 < parts.length → ∀ a ∈ part.getLast?, R a sep)

lemma meets_cons_cons {first second : List α} : Meets R sep (first :: second :: parts) ↔
    (∀ a ∈ first.getLast?, R a sep) ∧ (∀ a ∈ second.head?, R sep a) ∧ Meets R sep (second :: parts) := by
  constructor
  · intro meets
    refine ⟨(meets 0 first rfl).2 (by simp), (meets 1 second rfl).1 Nat.one_pos, fun n part is => ?_⟩
    obtain ⟨starts, ends⟩ := meets (n + 1) part is
    exact ⟨fun _ => starts n.succ_pos, fun lt => ends (Nat.succ_lt_succ lt)⟩
  · intro ⟨last, next, meets⟩ n part is
    cases n with
    | zero =>
      cases is
      exact ⟨fun lt => absurd lt (lt_irrefl 0), fun _ => last⟩
    | succ n =>
      obtain ⟨starts, ends⟩ := meets n part is
      refine ⟨fun _ => ?_, fun lt => ends (Nat.lt_of_succ_lt_succ lt)⟩
      cases n with
      | zero =>
        cases is
        exact next
      | succ n => exact starts n.succ_pos

/-- Neighbours in a text are neighbours in a part, or the separator is one of them. -/
lemma isChain_intercalate (self : R sep sep) : ([sep].intercalate parts).IsChain R ↔
    (∀ part ∈ parts, part.IsChain R) ∧ Meets R sep parts := by
  induction parts with
  | nil =>
    refine ⟨fun _ => ⟨fun part mem => absurd mem List.not_mem_nil, fun n part is => ?_⟩, fun _ => .nil⟩
    cases is
  | cons first parts ih =>
    cases parts with
    | nil =>
      rw [List.intercalate_singleton]
      refine ⟨fun chain => ⟨fun part mem => ?_, fun n part is => ?_⟩, fun both => ?_⟩
      · rw [List.mem_singleton.mp mem]
        exact chain
      · cases n with
        | zero => exact ⟨fun lt => absurd lt (lt_irrefl 0), fun lt => absurd lt (lt_irrefl 1)⟩
        | succ n => cases is
      · exact both.1 first List.mem_cons_self
    | cons second parts =>
      have begins : (∀ a ∈ ([sep].intercalate (second :: parts)).head?, R sep a) ↔
          ∀ a ∈ second.head?, R sep a := by
        refine ⟨fun starts a is => ?_, head?_intercalate self⟩
        cases second with
        | nil => cases is
        | cons b second =>
          refine starts a ?_
          cases parts with
          | nil => exact is
          | cons third parts => exact is
      rw [List.forall_mem_cons, List.intercalate_cons_cons, List.append_assoc, List.singleton_append,
        isChain_append_cons, begins, ih, meets_cons_cons]
      constructor
      · intro ⟨here, last, next, later, meets⟩
        exact ⟨⟨here, later⟩, last, next, meets⟩
      · intro ⟨⟨here, later⟩, last, next, meets⟩
        exact ⟨here, last, next, later, meets⟩

end Separator

end Splitting
