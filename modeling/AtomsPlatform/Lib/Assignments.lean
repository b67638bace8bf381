import Mathlib.Data.List.Basic

/-!
# Objects made by assignments

The properties of an object in the order of their first assignment, and what is read from them where
several spellings of a name count as one and the later property wins.
-/

namespace Assignments
variable {κ ι ν : Type}

/-- The object with another value under a name that it has. -/
def replace [DecidableEq κ] (object : List (κ × ν)) (name : κ) (value : ν) : List (κ × ν) :=
  object.map fun property => if property.1 = name then (name, value) else property

/-- `object[name] = value`. A property that is there keeps its place. -/
def assign [DecidableEq κ] (object : List (κ × ν)) (name : κ) (value : ν) : List (κ × ν) :=
  if name ∈ object.map Prod.fst then replace object name value else object ++ [(name, value)]

/-- The value of the last property whose name has a spelling. -/
def latest [DecidableEq ι] (canonical : κ → ι) (spelling : ι) : List (κ × ν) → Option ν
  | [] => none
  | property :: object =>
    (latest canonical spelling object).or
      (if canonical property.1 = spelling then some property.2 else none)

section Latest
variable [DecidableEq ι] {canonical : κ → ι} {spelling : ι} {object others : List (κ × ν)} {value : ν}

lemma latest_append :
    latest canonical spelling (object ++ others) =
      (latest canonical spelling others).or (latest canonical spelling object) := by
  induction object with
  | nil => exact (Option.or_none).symm
  | cons property object ih =>
    rw [List.cons_append, latest, latest, ih, Option.or_assoc]

lemma latest_mem (found : latest canonical spelling object = some value) :
    ∃ name, (name, value) ∈ object ∧ canonical name = spelling := by
  induction object with
  | nil => cases found
  | cons property object ih =>
    rcases Option.or_eq_some_iff.mp found with later | ⟨-, here⟩
    · obtain ⟨name, mem, is⟩ := ih later
      exact ⟨name, List.mem_cons_of_mem _ mem, is⟩
    · split at here
      · rename_i is
        cases here
        exact ⟨property.1, List.mem_cons_self, is⟩
      · cases here

lemma latest_ne_none {property : κ × ν} (mem : property ∈ object) :
    latest canonical (canonical property.1) object ≠ none := by
  induction object with
  | nil => cases mem
  | cons first object ih =>
    intro none
    obtain ⟨later, here⟩ := Option.or_eq_none_iff.mp none
    rcases List.mem_cons.mp mem with rfl | mem
    · rw [if_pos rfl] at here
      cases here
    · exact ih mem later

end Latest

section Assign
variable [DecidableEq κ] {object : List (κ × ν)} {property : κ × ν} {name : κ} {value : ν}

lemma mem_assign (mem : property ∈ assign object name value) :
    property = (name, value) ∨ property ∈ object := by
  rw [assign] at mem
  split at mem
  · obtain ⟨old, inside, is⟩ := List.mem_map.mp mem
    split at is
    · exact .inl is.symm
    · exact .inr (is ▸ inside)
  · rcases List.mem_append.mp mem with inside | last
    · exact .inr inside
    · exact .inl (List.mem_singleton.mp last)

variable [DecidableEq ι] {canonical : κ → ι} {spelling : ι}

/-- Other spellings are not touched. -/
lemma latest_assign_ne (other : canonical name ≠ spelling) :
    latest canonical spelling (assign object name value) = latest canonical spelling object := by
  have replaced : latest canonical spelling (replace object name value) =
      latest canonical spelling object := by
    induction object with
    | nil => rfl
    | cons property object ih =>
      rw [replace, List.map_cons, latest, latest, ← replace, ih]
      by_cases is : property.1 = name
      · rw [if_pos is, if_neg other, if_neg (is ▸ other)]
      · rw [if_neg is]
  rw [assign]
  split
  · exact replaced
  · rw [latest_append, latest, if_neg other]
    rfl

/-- What is read after an assignment is the value that was assigned, or what was read before. -/
lemma latest_assign_cases :
    latest canonical spelling (assign object name value) = some value ∨
      latest canonical spelling (assign object name value) = latest canonical spelling object := by
  have replaced : latest canonical spelling (replace object name value) = some value ∨
      latest canonical spelling (replace object name value) = latest canonical spelling object := by
    induction object with
    | nil => exact .inr rfl
    | cons property object ih =>
      rw [replace, List.map_cons, latest, latest, ← replace]
      rcases ih with ih | ih
      · rw [ih]
        exact .inl rfl
      · rw [ih]
        by_cases is : property.1 = name
        · rw [if_pos is, is]
          cases latest canonical spelling object with
          | some found => exact .inr rfl
          | none => by_cases here : canonical name = spelling <;> simp [here]
        · rw [if_neg is]
          exact .inr rfl
  rw [assign]
  split
  · exact replaced
  · rw [latest_append, latest]
    by_cases here : canonical name = spelling
    · rw [if_pos here]
      exact .inl rfl
    · rw [if_neg here]
      exact .inr rfl

/-- The assigned value is read, unless a property that keeps its place has the name in another
    spelling. -/
lemma latest_assign_self (alone : name ∈ object.map Prod.fst →
      ∀ property ∈ object, canonical property.1 = canonical name → property.1 = name) :
    latest canonical (canonical name) (assign object name value) = some value := by
  rw [assign]
  split
  · rename_i here
    cases found : latest canonical (canonical name) (replace object name value) with
    | none =>
      obtain ⟨property, mem, is⟩ := List.mem_map.mp here
      have inside : (name, value) ∈ replace object name value :=
        List.mem_map.mpr ⟨property, mem, if_pos is⟩
      exact absurd found (latest_ne_none inside)
    | some read =>
      obtain ⟨name', mem, same⟩ := latest_mem found
      obtain ⟨old, inside, is⟩ := List.mem_map.mp mem
      split at is
      · cases is
        rfl
      · rename_i other
        cases is
        exact absurd (alone here _ inside same) other
  · rw [latest_append, latest, if_pos rfl]
    rfl

end Assign

end Assignments
