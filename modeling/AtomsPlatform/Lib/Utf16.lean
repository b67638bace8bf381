import AtomsPlatform.Lib.Splitting
import Mathlib.Data.List.Basic
import Mathlib.Data.List.DropRight
import Mathlib.Data.List.Sort

/-!
# UTF-16 strings

Strings as JavaScript has them: sequences of UTF-16 code units, where surrogates need not be paired.
They are ordered by their code units, and sorting by a key that tells the elements apart forgets the
order in which they came (`insertionSort_perm`).
-/

/-- A string as a sequence of UTF-16 code units. -/
abbrev Utf16 : Type :=
  List UInt16

namespace Utf16

/-- The code units of a character. -/
def ofChar (c : Char) : Utf16 :=
  if c.val < 0x10000 then [c.val.toUInt16]
  else
    let v := c.val - 0x10000
    [(0xD800 + v / 0x400).toUInt16, (0xDC00 + v % 0x400).toUInt16]

/-- The code units of a string without unpaired surrogates. -/
def ofString (s : String) : Utf16 :=
  s.toList.flatMap ofChar

/-- The length of a string in code units. -/
def lengthOf (s : String) : Nat :=
  (ofString s).length

/-- The order of strings, by code units. -/
def le (s t : String) : Bool :=
  !decide (ofString t < ofString s)

/-- The code points that `trim` removes; none of them is a surrogate. -/
def isSpace (code : Nat) : Bool :=
  code ∈ [0x09, 0x0A, 0x0B, 0x0C, 0x0D, 0x20, 0xA0, 0x1680, 0x2028, 0x2029, 0x202F, 0x205F, 0x3000,
    0xFEFF] || (0x2000 ≤ code && code ≤ 0x200A)

/-- `trim` -/
def trim (s : Utf16) : Utf16 :=
  (s.dropWhile fun u => isSpace u.toNat).rdropWhile fun u => isSpace u.toNat

/-- `trim`, on a string without unpaired surrogates. -/
def trimString (s : String) : String :=
  String.ofList ((s.toList.dropWhile fun c => isSpace c.toNat).rdropWhile fun c => isSpace c.toNat)

/-- What is trimmed has nothing left to trim. -/
lemma trim_trim (s : Utf16) : trim (trim s) = trim s :=
  Splitting.dropEnds_dropEnds _ s

lemma trimString_trimString (s : String) : trimString (trimString s) = trimString s := by
  rw [trimString, trimString, String.toList_ofList, Splitting.dropEnds_dropEnds]

/-- The characters of a string; an unpaired surrogate becomes U+FFFD, as in UTF-8. -/
def decode : Utf16 → List Char
  | [] => []
  | u :: s =>
    if 0xD800 ≤ u.toNat ∧ u.toNat < 0xDC00 then
      match s with
      | [] => ['\uFFFD']
      | v :: rest =>
        if 0xDC00 ≤ v.toNat ∧ v.toNat < 0xE000 then
          Char.ofNat (0x10000 + (u.toNat - 0xD800) * 0x400 + (v.toNat - 0xDC00)) :: decode rest
        else '\uFFFD' :: decode (v :: rest)
    else if 0xDC00 ≤ u.toNat ∧ u.toNat < 0xE000 then '\uFFFD' :: decode s
    else Char.ofNat u.toNat :: decode s

/-- The text of a string, with U+FFFD for unpaired surrogates. -/
def toString (s : Utf16) : String :=
  String.ofList (decode s)

/-- A character of one code unit is that unit, which is no surrogate. -/
lemma ofChar_unit {c : Char} (small : c.toNat < 0x10000) :
    ∃ u : UInt16, ofChar c = [u] ∧ u.toNat = c.toNat ∧ (c.toNat < 0xD800 ∨ 0xE000 ≤ c.toNat) := by
  have small' : c.val < 0x10000 := by
    rw [UInt32.lt_iff_toNat_lt]
    exact small
  refine ⟨c.val.toUInt16, if_pos small', ?_, ?_⟩
  · rw [UInt32.toNat_toUInt16]
    exact Nat.mod_eq_of_lt small
  · rcases c.valid with low | high
    · exact .inl low
    · exact .inr high.1

/-- A character of two code units, of which the first is a surrogate. -/
lemma ofChar_pair {c : Char} (large : 0x10000 ≤ c.toNat) :
    ∃ u v : UInt16, ofChar c = [u, v] ∧ u.toNat = 0xD800 + (c.toNat - 0x10000) / 0x400 ∧
      v.toNat = 0xDC00 + (c.toNat - 0x10000) % 0x400 ∧ u.toNat < 0xDC00 := by
  have bound : c.toNat < 0x110000 := by
    rcases c.valid with low | high
    · exact Nat.lt_trans low (by decide)
    · exact high.2
  have offset : (c.val - 0x10000).toNat = c.toNat - 0x10000 :=
    UInt32.toNat_sub_of_le _ _ (UInt32.le_iff_toNat_le.mpr large)
  have not_small : ¬ c.val < 0x10000 := fun small =>
    Nat.not_lt.mpr large (UInt32.lt_iff_toNat_lt.mp small)
  have first : (0xD800 + (c.val - 0x10000) / 0x400).toUInt16.toNat =
      0xD800 + (c.toNat - 0x10000) / 0x400 := by
    rw [UInt32.toNat_toUInt16, UInt32.toNat_add, UInt32.toNat_div, offset]
    simp only [UInt32.reduceToNat]
    omega
  have second : (0xDC00 + (c.val - 0x10000) % 0x400).toUInt16.toNat =
      0xDC00 + (c.toNat - 0x10000) % 0x400 := by
    rw [UInt32.toNat_toUInt16, UInt32.toNat_add, UInt32.toNat_mod, offset]
    simp only [UInt32.reduceToNat]
    omega
  refine ⟨_, _, if_neg not_small, first, second, ?_⟩
  omega

/-- The code units of a character are not the beginning of others. -/
lemma ofChar_append {c d : Char} {s t : Utf16} (e : ofChar c ++ s = ofChar d ++ t) :
    c = d ∧ s = t := by
  have same (eq : c.toNat = d.toNat) : c = d := Char.ext (UInt32.toNat_inj.mp eq)
  obtain small | large := Nat.lt_or_ge c.toNat 0x10000
  · obtain ⟨u, units, value, range⟩ := ofChar_unit small
    obtain small' | large' := Nat.lt_or_ge d.toNat 0x10000
    · obtain ⟨u', units', value', -⟩ := ofChar_unit small'
      rw [units, units'] at e
      cases e
      exact ⟨same (value.symm.trans value'), rfl⟩
    · obtain ⟨u', v', units', value', -, surrogate⟩ := ofChar_pair large'
      rw [units, units'] at e
      cases e
      omega
  · obtain ⟨u, v, units, value, value₂, surrogate⟩ := ofChar_pair large
    obtain small' | large' := Nat.lt_or_ge d.toNat 0x10000
    · obtain ⟨u', units', value', range⟩ := ofChar_unit small'
      rw [units, units'] at e
      cases e
      omega
    · obtain ⟨u', v', units', value', value₂', -⟩ := ofChar_pair large'
      rw [units, units'] at e
      cases e
      refine ⟨same ?_, rfl⟩
      omega

lemma ofChar_ne_nil (c : Char) : ofChar c ≠ [] := by
  rw [ofChar]
  split <;> exact List.cons_ne_nil _ _

/-- Strings with the same code units are the same. -/
lemma ofString_injective {s t : String} (e : ofString s = ofString t) : s = t := by
  have chars : ∀ l l' : List Char, l.flatMap ofChar = l'.flatMap ofChar → l = l' := by
    intro l
    induction l with
    | nil =>
      rintro (_ | ⟨d, l'⟩) e
      · rfl
      · exact absurd (List.append_eq_nil_iff.mp e.symm).1 (ofChar_ne_nil d)
    | cons c l ih =>
      rintro (_ | ⟨d, l'⟩) e
      · exact absurd (List.append_eq_nil_iff.mp e).1 (ofChar_ne_nil c)
      · obtain ⟨rfl, rest⟩ := ofChar_append e
        rw [ih l' rest]
  exact String.toList_injective (chars _ _ e)

lemma le_iff {s t : String} : le s t = true ↔ ofString s ≤ ofString t := by
  simp [le]

section Case

/-- The small letter of a capital letter from A to Z; any other code unit stands for itself. -/
def asciiLower (u : UInt16) : UInt16 :=
  if 65 ≤ u.toNat ∧ u.toNat ≤ 90 then u + 32 else u

/-- `toLowerCase`, of which only the effect on ASCII is said here. -/
structure CaseMapping where
  toLowerCase : Utf16 → Utf16
  ascii : ∀ s : Utf16, (∀ u ∈ s, u.toNat < 128) → toLowerCase s = s.map asciiLower

lemma CaseMapping.unchanged (mapping : CaseMapping) {s : Utf16}
    (small : ∀ u ∈ s, u.toNat < 128 ∧ asciiLower u = u) : mapping.toLowerCase s = s := by
  rw [mapping.ascii s fun u mem => (small u mem).1]
  have same : ∀ u ∈ s, asciiLower u = id u := fun u mem => (small u mem).2
  rw [List.map_congr_left same, List.map_id]

/-- Nothing is trimmed of a string without spaces. -/
lemma trim_of_forall {s : Utf16} (none : ∀ u ∈ s, isSpace u.toNat = false) : trim s = s := by
  have front : (s.dropWhile fun u => isSpace u.toNat) = s := by
    cases s with
    | nil => rfl
    | cons u s => exact List.dropWhile_cons_of_neg (by simp [none u List.mem_cons_self])
  rw [trim, front, List.rdropWhile, List.dropWhile_eq_self_iff.mpr, List.reverse_reverse]
  intro pos
  have last := none _ (List.mem_reverse.mp (List.getElem_mem pos))
  simpa using last

end Case

section Sorting
variable {α : Type} (key : α → String) {l l' : List α}

/-- Lists that are permutations of each other are the same when they are sorted by a key, if it tells
    their elements apart. -/
lemma insertionSort_perm (perm : l.Perm l') (apart : ∀ a ∈ l, ∀ b ∈ l, key a = key b → a = b) :
    (l.insertionSort fun a b => le (key a) (key b)) =
      l'.insertionSort fun a b => le (key a) (key b) := by
  have total : Std.Total fun a b => le (key a) (key b) = true := by
    constructor
    intro a b
    rw [le_iff, le_iff]
    exact List.le_total ..
  have trans : IsTrans α fun a b => le (key a) (key b) = true := by
    constructor
    intro a b c first second
    rw [le_iff] at first second ⊢
    exact List.le_trans first second
  have sorted := List.perm_insertionSort (fun a b => le (key a) (key b) = true) l
  have sorted' := List.perm_insertionSort (fun a b => le (key a) (key b) = true) l'
  refine List.Perm.eq_of_pairwise ?_ (List.pairwise_insertionSort _ l)
    (List.pairwise_insertionSort _ l') (sorted.trans (perm.trans sorted'.symm))
  intro a b inside inside' first second
  apply apart a (sorted.mem_iff.mp inside) b (perm.mem_iff.mpr (sorted'.mem_iff.mp inside'))
  exact ofString_injective (List.le_antisymm (le_iff.mp first) (le_iff.mp second))

end Sorting

end Utf16
