import Mathlib.Data.List.Induction

/-!
# Versioned registers

A register that takes an entry unless it holds one of a higher version. After a log it holds the last
of the entries with the highest version: the one that prevails over what comes before and after it.
-/

namespace Register
variable {α : Type} (version : α → Nat)

/-- Takes an entry, unless what is held has a higher version. -/
def take : Option α → α → Option α
  | none, entry => some entry
  | some held, entry => if version held ≤ version entry then some entry else some held

/-- Nothing before an entry has a higher version, and everything after it has a lower one. -/
structure Prevails (before : List α) (entry : α) (after : List α) : Prop where
  before : ∀ a ∈ before, version a ≤ version entry
  after : ∀ a ∈ after, version a < version entry

variable {before after entries : List α} {entry : α}

/-- In every log that is not empty an entry prevails. -/
lemma exists_prevails (some : entries ≠ []) :
    ∃ before entry after, entries = before ++ entry :: after ∧
      Prevails version before entry after := by
  induction entries using List.reverseRecOn with
  | nil => exact absurd rfl some
  | append_singleton entries last ih =>
    rcases List.eq_nil_or_concat entries with rfl | ⟨_, _, nonempty⟩
    · have alone : Prevails version [] last [] :=
        ⟨fun a mem => absurd mem List.not_mem_nil, fun a mem => absurd mem List.not_mem_nil⟩
      exact ⟨[], last, [], rfl, alone⟩
    · obtain ⟨before, entry, after, rfl, prevails⟩ := ih (by simp [nonempty])
      by_cases le : version entry ≤ version last
      · have latest : Prevails version (before ++ entry :: after) last [] := by
          constructor
          · intro a mem
            rcases List.mem_append.mp mem with mem | mem
            · exact Nat.le_trans (prevails.before a mem) le
            · rcases List.mem_cons.mp mem with rfl | mem
              · exact le
              · exact Nat.le_trans (Nat.le_of_lt (prevails.after a mem)) le
          · exact fun a mem => absurd mem List.not_mem_nil
        exact ⟨_, last, [], rfl, latest⟩
      · have kept : Prevails version before entry (after ++ [last]) := by
          constructor
          · exact prevails.before
          · intro a mem
            rcases List.mem_append.mp mem with mem | mem
            · exact prevails.after a mem
            · rw [List.mem_singleton.mp mem]
              exact Nat.lt_of_not_le le
        exact ⟨before, entry, after ++ [last], by simp, kept⟩

variable {version}

/-- What is held was an entry of the log. -/
lemma mem_of_foldl_take (held : entries.foldl (take version) none = some entry) :
    entry ∈ entries := by
  induction entries using List.reverseRecOn generalizing entry with
  | nil => cases held
  | append_singleton entries last ih =>
    rw [List.foldl_append, List.foldl_cons, List.foldl_nil] at held
    cases before : entries.foldl (take version) none with
    | none =>
      rw [before] at held
      cases held
      exact List.mem_append_right _ (List.mem_singleton_self last)
    | some old =>
      rw [before, take] at held
      split at held
      · cases held
        exact List.mem_append_right _ (List.mem_singleton_self last)
      · cases held
        exact List.mem_append_left _ (ih before)

/-- An entry of the highest version is kept while lower ones come. -/
lemma foldl_take_lower (lower : ∀ a ∈ after, version a < version entry) :
    after.foldl (take version) (some entry) = some entry := by
  induction after with
  | nil => rfl
  | cons a after ih =>
    have keeps : take version (some entry) a = some entry :=
      if_neg (Nat.not_le.mpr (lower a List.mem_cons_self))
    rw [List.foldl_cons, keeps]
    exact ih fun b mem => lower b (List.mem_cons_of_mem a mem)

/-- The register holds the entry that prevails. -/
lemma Prevails.held (prevails : Prevails version before entry after) :
    (before ++ entry :: after).foldl (take version) none = some entry := by
  have taken : take version (before.foldl (take version) none) entry = some entry := by
    cases held : before.foldl (take version) none with
    | none => rfl
    | some old => exact if_pos (prevails.before old (mem_of_foldl_take held))
  rw [List.foldl_append, List.foldl_cons, taken]
  exact foldl_take_lower prevails.after

end Register
