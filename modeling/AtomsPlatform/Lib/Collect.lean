import Mathlib.Data.List.Perm.Basic

/-!
# Collecting

A loop that asks each element of a list for at most one item, and stops at the first element that
refuses. Whether it stops and which items it collects do not depend on the order of the elements.
-/

namespace Collect
variable {α β ε : Type}

/-- The items of a list of elements. -/
def collect (f : α → Except ε (Option β)) : List α → Except ε (List β)
  | [] => .ok []
  | a :: l => do
    let item ← f a
    let items ← collect f l
    pure (item.toList ++ items)

/-- An element the loop stops at. -/
def Refuses (f : α → Except ε (Option β)) (a : α) : Prop :=
  ∃ error, f a = .error error

/-- An element without an item. -/
def Silent (f : α → Except ε (Option β)) (a : α) : Prop :=
  f a = .ok none

/-- The item of an element, if it has one. -/
def item? (f : α → Except ε (Option β)) (a : α) : Option β :=
  match f a with
  | .ok item => item
  | .error _ => none

variable {f : α → Except ε (Option β)} {l l' : List α} {items : List β}

lemma collect_cons {a : α} :
    collect f (a :: l) = (f a).bind fun item => (collect f l).map fun items => item.toList ++ items := by
  rw [collect]
  cases f a with
  | error e => rfl
  | ok item => cases collect f l <;> rfl

/-- A loop that no element stops collects the items of all elements. -/
lemma collect_ok (accepted : ∀ a ∈ l, ¬ Refuses f a) : collect f l = .ok (l.filterMap (item? f)) := by
  induction l with
  | nil => rfl
  | cons a l ih =>
    rw [collect_cons, ih fun b mem => accepted b (List.mem_cons_of_mem a mem)]
    cases e : f a with
    | error error => exact absurd ⟨error, e⟩ (accepted a List.mem_cons_self)
    | ok item =>
      have here : item? f a = item := by rw [item?, e]
      cases item with
      | none => exact congrArg Except.ok (List.filterMap_cons_none here).symm
      | some b => exact congrArg Except.ok (List.filterMap_cons_some here).symm

/-- A loop with an element that refuses fails. -/
lemma collect_error {a : α} (mem : a ∈ l) (refuses : Refuses f a) : ∃ e, collect f l = .error e := by
  induction l with
  | nil => exact absurd mem List.not_mem_nil
  | cons b l ih =>
    rw [collect_cons]
    cases e : f b with
    | error error => exact ⟨error, rfl⟩
    | ok item =>
      obtain rfl | mem := List.mem_cons.mp mem
      · obtain ⟨error, e'⟩ := refuses
        rw [e] at e'
        cases e'
      · obtain ⟨error, stopped⟩ := ih mem
        exact ⟨error, by rw [stopped]; rfl⟩

/-- A collected item is that of an element. -/
lemma mem_of_collect {b : β} (ok : collect f l = .ok items) (mem : b ∈ items) :
    ∃ a ∈ l, f a = .ok (some b) := by
  induction l generalizing items with
  | nil =>
    cases ok
    exact absurd mem List.not_mem_nil
  | cons a l ih =>
    rw [collect_cons] at ok
    cases first : f a with
    | error e =>
      rw [first] at ok
      cases ok
    | ok item =>
      rw [first] at ok
      cases rest : collect f l with
      | error e =>
        rw [rest] at ok
        cases ok
      | ok items' =>
        rw [rest] at ok
        cases ok
        rcases List.mem_append.mp mem with here | later
        · rw [Option.mem_toList] at here
          cases here
          exact ⟨a, List.mem_cons_self, first⟩
        · obtain ⟨a', mem', e⟩ := ih rest later
          exact ⟨a', List.mem_cons_of_mem a mem', e⟩

lemma Silent.item? {a : α} (silent : Silent f a) : Collect.item? f a = none := by
  rw [Collect.item?, silent]

end Collect
