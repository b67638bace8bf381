import Mathlib.Data.List.Nodup

/-!
# Tables

Tables of rows as lists, addressed by a key. `lookup` reads the row of a key, `update` changes the
row of a key when it satisfies a condition, and `holds` is the test "exactly this row was changed"
that conditional updates report. Both are total, so a guard that fails is an update that changes
nothing.
-/

namespace Table
variable {α κ : Type} [DecidableEq κ] (key : α → κ)

/-- The row of a key. -/
def lookup (k : κ) (t : List α) : Option α :=
  t.find? fun r => decide (key r = k)

/-- Changes the row of a key, if it satisfies the condition. -/
def update (k : κ) (p : α → Bool) (f : α → α) (t : List α) : List α :=
  t.map fun r => if key r = k ∧ p r = true then f r else r

/-- Whether the row of a key exists and satisfies the condition. -/
def holds (k : κ) (p : α → Bool) (t : List α) : Bool :=
  (lookup key k t).any p

variable {key} {k k' : κ} {p : α → Bool} {f : α → α} {t : List α} {r : α}

@[simp]
lemma lookup_nil : lookup key k ([] : List α) = none :=
  rfl

lemma lookup_cons :
    lookup key k (r :: t) = if key r = k then some r else lookup key k t := by
  by_cases e : key r = k <;> simp [lookup, e]

lemma lookup_key (e : lookup key k t = some r) : key r = k := by
  simpa using List.find?_some e

lemma lookup_mem (e : lookup key k t = some r) : r ∈ t :=
  List.mem_of_find?_eq_some e

/-- An update changes the row it addresses exactly when the condition holds. -/
lemma lookup_update (keeps : ∀ r, key r = k → key (f r) = k) :
    lookup key k (update key k p f t) =
      (lookup key k t).map fun r => if p r = true then f r else r := by
  induction t with
  | nil => rfl
  | cons r t ih =>
    simp only [update, List.map_cons] at ih ⊢
    rw [lookup_cons, lookup_cons]
    by_cases e : key r = k
    · by_cases hp : p r = true <;> simp [e, hp, keeps r e]
    · simp [e, ih]

/-- An update leaves every other row alone. -/
lemma lookup_update_ne (keeps : ∀ r, key r = k → key (f r) = k) (ne : k' ≠ k) :
    lookup key k' (update key k p f t) = lookup key k' t := by
  induction t with
  | nil => rfl
  | cons r t ih =>
    simp only [update, List.map_cons] at ih ⊢
    rw [lookup_cons, lookup_cons, ih]
    by_cases e : key r = k
    · have ne' : key r ≠ k' := fun h => ne (h.symm.trans e)
      by_cases hp : p r = true <;> simp [e, hp, keeps r e, ne.symm]
    · simp [e]

lemma holds_iff : holds key k p t = true ↔ ∃ r, lookup key k t = some r ∧ p r = true := by
  cases e : lookup key k t <;> simp [holds, e]

lemma lookup_append_of_some {t' : List α} (e : lookup key k t = some r) :
    lookup key k (t ++ t') = some r := by
  simp [lookup, List.find?_append] at e ⊢
  simp [e]

lemma lookup_append_new {r' : α} (absent : lookup key k t = none) (e : key r' = k) :
    lookup key k (t ++ [r']) = some r' := by
  simp only [lookup] at absent
  simp [lookup, List.find?_append, absent, e]

lemma lookup_append_ne {r' : α} (ne : key r' ≠ k) :
    lookup key k (t ++ [r']) = lookup key k t := by
  simp [lookup, List.find?_append, ne]

/-- A change that keeps the keys changes the row of a key as it changes rows. -/
lemma lookup_map {g : α → α} (keeps : ∀ r, key (g r) = key r) :
    lookup key k (t.map g) = (lookup key k t).map g := by
  induction t with
  | nil => rfl
  | cons r t ih =>
    rw [List.map_cons, lookup_cons, lookup_cons, keeps, ih]
    by_cases e : key r = k <;> simp [e]

/-- With distinct keys a row is found under its key. -/
lemma lookup_of_mem (distinct : (t.map key).Nodup) (mem : r ∈ t) : lookup key (key r) t = some r := by
  induction t with
  | nil => exact absurd mem List.not_mem_nil
  | cons r' t ih =>
    rw [List.map_cons, List.nodup_cons] at distinct
    rw [lookup_cons]
    obtain rfl | mem := List.mem_cons.mp mem
    · exact if_pos rfl
    · have ne : key r' ≠ key r := fun e => distinct.1 (e ▸ List.mem_map_of_mem mem)
      rw [if_neg ne]
      exact ih distinct.2 mem

/-- A row is the only one with its key. -/
lemma filter_key (distinct : (t.map key).Nodup) (mem : r ∈ t) :
    (t.filter fun r' => key r' = key r) = [r] := by
  induction t with
  | nil => cases mem
  | cons r' t ih =>
    obtain ⟨new, distinct⟩ := List.nodup_cons.mp distinct
    rw [List.filter_cons]
    by_cases here : key r' = key r
    · rw [if_pos (decide_eq_true here)]
      have first : r = r' := by
        refine (List.mem_cons.mp mem).resolve_right fun later => new ?_
        rw [here]
        exact List.mem_map_of_mem later
      rw [first]
      refine congrArg (r' :: ·) (List.filter_eq_nil_iff.mpr ?_)
      intro r'' later same
      apply new
      rw [← of_decide_eq_true same]
      exact List.mem_map_of_mem later
    · rw [if_neg (by simpa using here)]
      refine ih distinct ((List.mem_cons.mp mem).resolve_left ?_)
      rintro rfl
      exact here rfl

/-- An update that keeps the keys leaves the keys of the table alone. -/
lemma keys_update (keeps : ∀ r, key r = k → key (f r) = key r) :
    (update key k p f t).map key = t.map key := by
  rw [update, List.map_map]
  refine List.map_congr_left fun r _ => ?_
  show key (if key r = k ∧ p r = true then f r else r) = key r
  split
  · rename_i both
    exact keeps r both.1
  · rfl

omit [DecidableEq κ] in
/-- Distinct keys stay distinct when a row with a new key is added. -/
lemma nodup_append (distinct : (t.map key).Nodup) (fresh : ∀ r' ∈ t, key r' ≠ key r) :
    ((t ++ [r]).map key).Nodup := by
  rw [List.map_append, List.nodup_append]
  refine ⟨distinct, List.nodup_singleton _, ?_⟩
  intro x mem y new
  rw [List.mem_singleton.mp new]
  obtain ⟨r', mem', rfl⟩ := List.mem_map.mp mem
  exact fresh r' mem'

lemma mem_update_self (mem : r ∈ t) (e : key r = k) (holds : p r = true) :
    f r ∈ update key k p f t :=
  List.mem_map.mpr ⟨r, mem, if_pos ⟨e, holds⟩⟩

lemma mem_update_ne (mem : r ∈ t) (ne : key r ≠ k) : r ∈ update key k p f t :=
  List.mem_map.mpr ⟨r, mem, if_neg fun both => ne both.1⟩

end Table
