import AtomsPlatform.Lib.Splitting
import AtomsPlatform.Memory.Chunker

/-!
# Normal forms of texts

`normalizeText` is a canonical form: it gives a text on which each of its passes does nothing, so that no
pass makes work for an earlier one. What a text loses on the way is the style of its line ends and the width
of its blanks, and nothing else is needed for two texts to have one hash.
-/

namespace AtomsPlatform.Memory

section Ends
variable {u : UInt16} {rest : Utf16}

lemma unifyLineEnds_cons (other : u ≠ carriageReturn) :
    unifyLineEnds (u :: rest) = u :: unifyLineEnds rest := by
  cases rest with
  | nil => exact if_neg other
  | cons v rest => exact if_neg other

lemma unifyLineEnds_crlf :
    unifyLineEnds (carriageReturn :: lineFeed :: rest) = lineFeed :: unifyLineEnds rest :=
  rfl

lemma unifyLineEnds_cr (single : rest.head? ≠ some lineFeed) :
    unifyLineEnds (carriageReturn :: rest) = lineFeed :: unifyLineEnds rest := by
  cases rest with
  | nil => rfl
  | cons v rest =>
    have other : v ≠ lineFeed := fun is => single (congrArg some is)
    rw [unifyLineEnds, if_pos rfl, if_neg other]

end Ends

section Composition
variable {nfc : Utf16 → Utf16} {u u' : UInt16} {text text' front rest : Utf16}

/-- Whether a code unit is one that the passes change or remove. -/
def isInert (u : UInt16) : Bool :=
  u = lineFeed || u = carriageReturn || isBlank u

/-- What Unicode says of the normal form NFC. It is a normal form of every part of a normal text too. Line
ends and blanks neither compose with what stands next to them nor come out of a composition, and nothing
composes to an empty text. -/
structure Nfc (nfc : Utf16 → Utf16) : Prop where
  idempotent : ∀ text, nfc (nfc text) = nfc text
  closed : ∀ text part, nfc text = text → part <:+: text → nfc part = part
  inert : ∀ front u rest, isInert u = true → nfc (front ++ u :: rest) = nfc front ++ u :: nfc rest
  fresh : ∀ text u, isInert u = true → u ∈ nfc text → u ∈ text
  kept : ∀ text, nfc text = [] → text = []

namespace Nfc

lemma nil (laws : Nfc nfc) : nfc [] = [] :=
  laws.closed (nfc []) [] (laws.idempotent []) List.nil_infix

/-- A text is in normal form if what stands around a line end or a blank is. -/
lemma around (laws : Nfc nfc) (inert : isInert u = true) :
    nfc (front ++ u :: rest) = front ++ u :: rest ↔ nfc front = front ∧ nfc rest = rest := by
  constructor
  · intro composed
    constructor
    · exact laws.closed _ _ composed (List.prefix_append _ _).isInfix
    · exact laws.closed _ _ composed ⟨front ++ [u], [], by simp⟩
  · intro ⟨before, behind⟩
    rw [laws.inert front u rest inert, before, behind]

end Nfc

/-- A text may stand for another one, whatever is before it: the whole stays in normal form. -/
def Keeps (nfc : Utf16 → Utf16) (text text' : Utf16) : Prop :=
  ∀ front, nfc (front ++ text) = front ++ text → nfc (front ++ text') = front ++ text'

lemma Keeps.rfl : Keeps nfc text text :=
  fun _ composed => composed

lemma Keeps.trans {text'' : Utf16} (first : Keeps nfc text text') (second : Keeps nfc text' text'') :
    Keeps nfc text text'' :=
  fun front composed => second front (first front composed)

lemma Keeps.cons (keeps : Keeps nfc text text') : Keeps nfc (u :: text) (u :: text') := by
  intro front composed
  rw [List.append_cons] at composed ⊢
  exact keeps _ composed

/-- A line end or a blank may stand for another one. -/
lemma Keeps.change (laws : Nfc nfc) (inert : isInert u = true) (inert' : isInert u' = true) :
    Keeps nfc (u :: text) (u' :: text) := by
  intro front composed
  rw [laws.around inert] at composed
  rw [laws.around inert']
  exact composed

/-- Of two of them, one next to the other, the first may be dropped. -/
lemma Keeps.drop (laws : Nfc nfc) (inert : isInert u = true) (inert' : isInert u' = true) :
    Keeps nfc (u :: u' :: text) (u' :: text) := by
  intro front composed
  rw [laws.around inert] at composed
  rw [laws.around inert']
  refine ⟨composed.1, laws.closed _ _ composed.2 ?_⟩
  exact (List.suffix_cons u' text).isInfix

lemma keeps_unifyLineEnds (laws : Nfc nfc) : Keeps nfc text (unifyLineEnds text) := by
  induction text using unifyLineEnds.induct with
  | case1 => exact Keeps.rfl
  | case2 => exact Keeps.change laws rfl rfl
  | case3 u other =>
    rw [unifyLineEnds_cons other]
    exact Keeps.rfl
  | case4 rest ih => exact (Keeps.drop laws rfl rfl).trans ih.cons
  | case5 v rest other ih =>
    have single : (v :: rest).head? ≠ some lineFeed := fun is => other (Option.some.inj is)
    rw [unifyLineEnds_cr single]
    exact (Keeps.change laws rfl rfl).trans ih.cons
  | case6 u v rest other ih =>
    rw [unifyLineEnds_cons other]
    exact ih.cons

lemma keeps_joinBlanks (laws : Nfc nfc) : Keeps nfc text (joinBlanks text) := by
  have inert {u : UInt16} (blank : isBlank u = true) : isInert u = true := by
    rw [isInert, blank, Bool.or_true]
  induction text with
  | nil => exact Keeps.rfl
  | cons u rest ih =>
    rw [joinBlanks]
    by_cases blank : isBlank u = true
    · rw [if_pos blank]
      by_cases more : rest.head?.any isBlank = true
      · rw [if_pos more]
        cases rest with
        | nil => cases more
        | cons v rest => exact (Keeps.drop laws (inert blank) (inert more)).trans ih
      · rw [if_neg more]
        exact (Keeps.change laws (inert blank) rfl).trans ih.cons
    · rw [if_neg blank]
      exact ih.cons

lemma keeps_limitLineFeeds (laws : Nfc nfc) : Keeps nfc text (limitLineFeeds text) := by
  induction text with
  | nil => exact Keeps.rfl
  | cons u rest ih =>
    rw [limitLineFeeds]
    by_cases third : u = lineFeed ∧ rest.take 2 = [lineFeed, lineFeed]
    · rw [if_pos third]
      obtain ⟨rfl, two⟩ := third
      cases rest with
      | nil => cases two
      | cons v rest =>
        have next : v = lineFeed := (List.cons.inj two).1
        subst next
        exact (Keeps.drop laws rfl rfl).trans ih
    · rw [if_neg third]
      exact ih.cons

/-- A text of lines is in normal form if its lines are. -/
lemma composed_intercalate (laws : Nfc nfc) {lines : List Utf16} (composed : ∀ line ∈ lines, nfc line = line) :
    nfc ([lineFeed].intercalate lines) = [lineFeed].intercalate lines := by
  induction lines with
  | nil => exact laws.nil
  | cons line lines ih =>
    have first := composed line List.mem_cons_self
    have later := ih fun l mem => composed l (List.mem_cons_of_mem _ mem)
    cases lines with
    | nil =>
      rw [List.intercalate_singleton]
      exact first
    | cons next lines =>
      rw [List.intercalate_cons_cons, List.append_assoc, List.singleton_append]
      exact (laws.around rfl).mpr ⟨first, later⟩

end Composition

section Shape
variable {u v : UInt16} {text rest line : Utf16} {last n : Nat}

/-- A code unit of a text without carriage returns, where every blank is a space. -/
def Plain (u : UInt16) : Prop :=
  u ≠ carriageReturn ∧ (isBlank u = true → u = space)

/-- Neighbours that are not two spaces. -/
def Single (u v : UInt16) : Prop :=
  ¬ (u = space ∧ v = space)

/-- Neighbours that are neither two spaces nor a space at the end of a line. -/
def Settled (u v : UInt16) : Prop :=
  Single u v ∧ ¬ (u = space ∧ v = lineFeed) ∧ ¬ (u = lineFeed ∧ v = space)

lemma mem_unifyLineEnds : ∀ u ∈ unifyLineEnds text, u ≠ carriageReturn := by
  have lf : lineFeed ≠ carriageReturn := by decide
  induction text using unifyLineEnds.induct with
  | case1 =>
    intro u mem
    cases mem
  | case2 => exact List.forall_mem_singleton.mpr lf
  | case3 u other =>
    rw [unifyLineEnds_cons other]
    exact List.forall_mem_singleton.mpr other
  | case4 rest ih => exact List.forall_mem_cons.mpr ⟨lf, ih⟩
  | case5 v rest other ih =>
    have single : (v :: rest).head? ≠ some lineFeed := fun is => other (Option.some.inj is)
    rw [unifyLineEnds_cr single]
    exact List.forall_mem_cons.mpr ⟨lf, ih⟩
  | case6 u v rest other ih =>
    rw [unifyLineEnds_cons other]
    exact List.forall_mem_cons.mpr ⟨other, ih⟩

lemma unifyLineEnds_eq_self (plain : ∀ u ∈ text, u ≠ carriageReturn) : unifyLineEnds text = text := by
  induction text with
  | nil => rfl
  | cons u rest ih =>
    obtain ⟨other, plain⟩ := List.forall_mem_cons.mp plain
    rw [unifyLineEnds_cons other, ih plain]

/-- A text begins with a blank before its blanks are joined if it does afterwards. -/
lemma head_joinBlanks : (joinBlanks text).head?.any isBlank = text.head?.any isBlank := by
  induction text with
  | nil => rfl
  | cons u rest ih =>
    rw [joinBlanks]
    by_cases blank : isBlank u = true
    · rw [if_pos blank]
      by_cases more : rest.head?.any isBlank = true
      · rw [if_pos more, ih, more]
        exact blank.symm
      · rw [if_neg more]
        exact blank.symm
    · rw [if_neg blank]
      rfl

lemma plain_joinBlanks (ends : ∀ u ∈ text, u ≠ carriageReturn) : ∀ u ∈ joinBlanks text, Plain u := by
  have plain : Plain space := ⟨by decide, fun _ => rfl⟩
  induction text with
  | nil =>
    intro u mem
    cases mem
  | cons u rest ih =>
    obtain ⟨other, ends⟩ := List.forall_mem_cons.mp ends
    rw [joinBlanks]
    split
    · split
      · exact ih ends
      · exact List.forall_mem_cons.mpr ⟨plain, ih ends⟩
    · rename_i ink
      exact List.forall_mem_cons.mpr ⟨⟨other, fun blank => absurd blank ink⟩, ih ends⟩

lemma single_joinBlanks : (joinBlanks text).IsChain Single := by
  induction text with
  | nil => exact List.IsChain.nil
  | cons u rest ih =>
    rw [joinBlanks]
    by_cases blank : isBlank u = true
    · rw [if_pos blank]
      by_cases more : rest.head?.any isBlank = true
      · rw [if_pos more]
        exact ih
      · rw [if_neg more]
        refine ih.cons fun v head both => more ?_
        rw [← head_joinBlanks, Option.mem_def.mp head, both.2]
        rfl
    · rw [if_neg blank]
      refine ih.cons fun v _ both => blank ?_
      rw [both.1]
      rfl

lemma joinBlanks_eq_self (plain : ∀ u ∈ text, isBlank u = true → u = space) (single : text.IsChain Single) :
    joinBlanks text = text := by
  induction text with
  | nil => rfl
  | cons u rest ih =>
    obtain ⟨here, plain⟩ := List.forall_mem_cons.mp plain
    obtain ⟨next, single⟩ := List.isChain_cons.mp single
    rw [joinBlanks, ih plain single]
    by_cases blank : isBlank u = true
    · rw [if_pos blank, here blank, if_neg]
      intro more
      cases rest with
      | nil => cases more
      | cons v rest => exact next v rfl ⟨here blank, plain v List.mem_cons_self more⟩
    · rw [if_neg blank]

/-- What the pass over the lines makes of a line: it loses the spaces where it meets another line. -/
def stripLine (last n : Nat) (line : Utf16) : Utf16 :=
  let line := if n = 0 then line else line.dropWhile fun u => u = space
  if n = last then line else line.rdropWhile fun u => u = space

lemma stripLines_eq : stripLines text = [lineFeed].intercalate
    ((text.splitOn lineFeed).mapIdx (stripLine ((text.splitOn lineFeed).length - 1))) :=
  rfl

lemma stripLine_inside : stripLine last n line <:+: line := by
  have front : (if n = 0 then line else line.dropWhile fun u => u = space) <:+: line := by
    split
    · exact List.infix_rfl
    · exact (List.dropWhile_suffix _).isInfix
  rw [stripLine]
  split
  · exact front
  · exact (List.rdropWhile_prefix _ _).isInfix.trans front

lemma head_stripLine (later : 0 < n) : ∀ u ∈ (stripLine last n line).head?, u ≠ space := by
  intro u head is
  have begins : stripLine last n line <+: line.dropWhile fun u => u = space := by
    rw [stripLine, if_neg later.ne']
    split
    · exact List.prefix_rfl
    · exact List.rdropWhile_prefix _ _
  obtain ⟨back, whole⟩ := begins
  have first : (line.dropWhile fun u => u = space).head? = some space := by
    rw [← whole, List.head?_append, Option.mem_def.mp head, is]
    rfl
  have not := List.head?_dropWhile_not (fun u => decide (u = space)) line
  rw [first] at not
  simp at not

lemma getLast_stripLine (inner : n ≠ last) : ∀ u ∈ (stripLine last n line).getLast?, u ≠ space := by
  intro u ends is
  rw [stripLine, if_neg inner] at ends
  have nonempty := List.getLast?_isSome.mp (Option.isSome_of_mem ends)
  have not := List.rdropWhile_last_not _ _ nonempty
  rw [List.getLast?_eq_some_getLast nonempty] at ends
  rw [Option.some.inj (Option.mem_def.mp ends), is] at not
  exact not rfl

lemma stripLine_eq_self (starts : 0 < n → ∀ u ∈ line.head?, u ≠ space)
    (ends : n ≠ last → ∀ u ∈ line.getLast?, u ≠ space) : stripLine last n line = line := by
  have front : (if n = 0 then line else line.dropWhile fun u => u = space) = line := by
    split
    · rfl
    · rename_i later
      cases line with
      | nil => rfl
      | cons u line => exact List.dropWhile_cons_of_neg (by simpa using starts (Nat.pos_of_ne_zero later) u rfl)
  rw [stripLine, front]
  split
  · rfl
  · rename_i inner
    rw [List.rdropWhile_eq_self_iff]
    intro nonempty is
    exact ends inner _ (List.getLast?_eq_some_getLast nonempty) (of_decide_eq_true is)

/-- A line of the text that the pass leaves is part of a line of the text it is given. -/
lemma mem_stripLines (mem : line ∈ (text.splitOn lineFeed).mapIdx (stripLine last)) :
    line <:+: text ∧ lineFeed ∉ line := by
  obtain ⟨n, lt, rfl⟩ := List.mem_mapIdx.mp mem
  have whole := List.getElem_mem lt
  have inside : stripLine last n (text.splitOn lineFeed)[n] <:+: (text.splitOn lineFeed)[n] := stripLine_inside
  exact ⟨inside.trans (Splitting.infix_of_mem_splitOn whole),
    fun lf => Splitting.not_mem_splitOn whole (inside.subset lf)⟩

lemma forall_stripLines {P : UInt16 → Prop} (lf : P lineFeed) (each : ∀ u ∈ text, P u) :
    ∀ u ∈ stripLines text, P u := by
  rw [stripLines_eq]
  exact Splitting.forall_intercalate lf fun line mem u inside => each u ((mem_stripLines mem).1.subset inside)

lemma composed_stripLines {nfc : Utf16 → Utf16} (laws : Nfc nfc) (composed : nfc text = text) :
    nfc (stripLines text) = stripLines text := by
  rw [stripLines_eq]
  exact composed_intercalate laws fun line mem => laws.closed text line composed (mem_stripLines mem).1

lemma settled_lineFeeds : Settled lineFeed lineFeed := by
  unfold Settled Single
  decide

lemma settled_stripLines (single : text.IsChain Single) : (stripLines text).IsChain Settled := by
  rw [stripLines_eq, Splitting.isChain_intercalate settled_lineFeeds]
  constructor
  · intro line mem
    obtain ⟨inside, without⟩ := mem_stripLines mem
    -- No line feed is inside a line, so that it is enough that it has no two spaces side by side.
    have apart : line.IsChain Single := List.IsChain.infix single inside
    refine apart.imp_of_mem_imp fun u v left right apart => ⟨apart, ?_, ?_⟩
    · intro both
      rw [both.2] at right
      exact without right
    · intro both
      rw [both.1] at left
      exact without left
  · intro n line is
    rw [List.getElem?_mapIdx] at is
    obtain ⟨whole, -, rfl⟩ := Option.map_eq_some_iff.mp is
    constructor
    · intro later u head
      have other := head_stripLine later u head
      exact ⟨fun both => other both.2, fun both => absurd both.1 (by decide), fun both => other both.2⟩
    · intro inner u ends
      rw [List.length_mapIdx] at inner
      have other := getLast_stripLine (by omega) u ends
      exact ⟨fun both => other both.1, fun both => other both.1, fun both => absurd both.2 (by decide)⟩

lemma stripLines_eq_self (settled : text.IsChain Settled) : stripLines text = text := by
  have lines : [lineFeed].intercalate (text.splitOn lineFeed) = text := List.intercalate_splitOn lineFeed
  rw [← lines, Splitting.isChain_intercalate settled_lineFeeds] at settled
  have same : (text.splitOn lineFeed).mapIdx (stripLine ((text.splitOn lineFeed).length - 1)) =
      text.splitOn lineFeed := by
    refine List.ext_getElem? fun n => ?_
    rw [List.getElem?_mapIdx]
    cases is : (text.splitOn lineFeed)[n]? with
    | none => rfl
    | some line =>
      obtain ⟨starts, ends⟩ := settled.2 n line is
      refine congrArg some (stripLine_eq_self ?_ ?_)
      · intro later u head space
        exact (starts later u head).2.2 ⟨rfl, space⟩
      · intro inner u last space
        have lt := (List.getElem?_eq_some_iff.mp is).1
        exact (ends (by omega) u last).2.1 ⟨space, rfl⟩
  rw [stripLines_eq, same, lines]

lemma head_limitLineFeeds : (limitLineFeeds text).head? = text.head? := by
  induction text with
  | nil => rfl
  | cons u rest ih =>
    rw [limitLineFeeds]
    split
    · rename_i third
      rw [ih, third.1]
      cases rest with
      | nil => cases third.2
      | cons v rest => exact congrArg some (List.cons.inj third.2).1
    · rfl

lemma mem_limitLineFeeds : ∀ u ∈ limitLineFeeds text, u ∈ text := by
  induction text with
  | nil => exact fun u mem => mem
  | cons u rest ih =>
    rw [limitLineFeeds]
    split
    · exact fun u mem => List.mem_cons_of_mem _ (ih u mem)
    · exact List.forall_mem_cons.mpr ⟨List.mem_cons_self, fun u mem => List.mem_cons_of_mem _ (ih u mem)⟩

/-- The pass keeps what holds of neighbours: what is dropped is a line feed in front of another one. -/
lemma isChain_limitLineFeeds {R : UInt16 → UInt16 → Prop} (chain : text.IsChain R) :
    (limitLineFeeds text).IsChain R := by
  induction text with
  | nil => exact List.IsChain.nil
  | cons u rest ih =>
    obtain ⟨next, chain⟩ := List.isChain_cons.mp chain
    rw [limitLineFeeds]
    split
    · exact ih chain
    · refine (ih chain).cons ?_
      rw [head_limitLineFeeds]
      exact next

lemma two_limitLineFeeds (two : [lineFeed, lineFeed] <+: limitLineFeeds text) :
    [lineFeed, lineFeed] <+: text := by
  cases text with
  | nil => exact two
  | cons u rest =>
    rw [limitLineFeeds] at two
    split at two
    · rename_i third
      rw [third.1, List.cons_prefix_cons]
      have first : [lineFeed] <+: rest.take 2 := third.2 ▸ List.prefix_append [lineFeed] [lineFeed]
      exact ⟨rfl, first.trans (List.take_prefix 2 rest)⟩
    · rw [List.cons_prefix_cons] at two ⊢
      obtain ⟨is, behind, whole⟩ := two
      have head : rest.head? = some lineFeed := by
        rw [← head_limitLineFeeds, ← whole]
        rfl
      obtain ⟨tail, rfl⟩ := List.head?_eq_some_iff.mp head
      exact ⟨is, List.prefix_append [lineFeed] tail⟩

lemma limited_limitLineFeeds : ¬ [lineFeed, lineFeed, lineFeed] <:+: limitLineFeeds text := by
  induction text with
  | nil =>
    intro inside
    cases List.infix_nil.mp inside
  | cons u rest ih =>
    rw [limitLineFeeds]
    split
    · exact ih
    · rename_i third
      rw [List.infix_cons_iff, List.cons_prefix_cons]
      rintro (⟨is, two⟩ | later)
      · refine third ⟨is.symm, ?_⟩
        exact (List.prefix_iff_eq_take.mp (two_limitLineFeeds two)).symm
      · exact ih later

lemma limitLineFeeds_eq_self (limited : ¬ [lineFeed, lineFeed, lineFeed] <:+: text) :
    limitLineFeeds text = text := by
  induction text with
  | nil => rfl
  | cons u rest ih =>
    rw [List.infix_cons_iff, not_or] at limited
    rw [limitLineFeeds, if_neg, ih limited.2]
    rintro ⟨rfl, two⟩
    refine limited.1 (List.cons_prefix_cons.mpr ⟨rfl, ?_⟩)
    rw [← two]
    exact List.take_prefix 2 rest

end Shape

section Canonical
variable {nfc : Utf16 → Utf16} {text raw : Utf16}

/-- A text on which no pass has anything to do. -/
structure Canonical (nfc : Utf16 → Utf16) (text : Utf16) : Prop where
  composed : nfc text = text
  plain : ∀ u ∈ text, Plain u
  settled : text.IsChain Settled
  limited : ¬ [lineFeed, lineFeed, lineFeed] <:+: text
  trimmed : Utf16.trim text = text

lemma trim_inside : Utf16.trim text <:+: text :=
  (List.rdropWhile_prefix _ _).isInfix.trans (List.dropWhile_suffix _).isInfix

/-- What the passes leave is canonical: a later pass leaves no work for an earlier one. -/
lemma canonical_normalizeText (laws : Nfc nfc) : Canonical nfc (normalizeText nfc raw) := by
  have plain : ∀ u ∈ stripLines (joinBlanks (unifyLineEnds (nfc raw))), Plain u := by
    have lf : Plain lineFeed := ⟨by decide, fun blank => absurd blank (by decide)⟩
    exact forall_stripLines lf (plain_joinBlanks mem_unifyLineEnds)
  have settled : (stripLines (joinBlanks (unifyLineEnds (nfc raw)))).IsChain Settled :=
    settled_stripLines single_joinBlanks
  have composed : nfc (limitLineFeeds (stripLines (joinBlanks (unifyLineEnds (nfc raw))))) =
      limitLineFeeds (stripLines (joinBlanks (unifyLineEnds (nfc raw)))) := by
    have unified := keeps_unifyLineEnds laws [] (laws.idempotent raw)
    have joined := keeps_joinBlanks laws [] unified
    exact keeps_limitLineFeeds laws [] (composed_stripLines laws joined)
  constructor
  · exact laws.closed _ _ composed trim_inside
  · exact fun u mem => plain u (mem_limitLineFeeds u (trim_inside.subset mem))
  · exact List.IsChain.infix (isChain_limitLineFeeds settled) trim_inside
  · exact fun inside => limited_limitLineFeeds (inside.trans trim_inside)
  · exact Utf16.trim_trim _

lemma Canonical.normalizeText_eq_self (canonical : Canonical nfc text) : normalizeText nfc text = text := by
  have single : text.IsChain Single := canonical.settled.imp fun _ _ both => both.1
  rw [normalizeText, canonical.composed, unifyLineEnds_eq_self fun u mem => (canonical.plain u mem).1,
    joinBlanks_eq_self (fun u mem => (canonical.plain u mem).2) single, stripLines_eq_self canonical.settled,
    limitLineFeeds_eq_self canonical.limited, canonical.trimmed]

end Canonical

section Style

/-- A line end, and what is behind it: a carriage return in front of a line feed is no line end of its own. -/
inductive LineEnd : Utf16 → Utf16 → Prop where
  | lf {rest} :
    LineEnd [lineFeed] rest
  | crlf {rest} :
    LineEnd [carriageReturn, lineFeed] rest
  | cr {rest} :
    rest.head? ≠ some lineFeed →
    LineEnd [carriageReturn] rest

/-- A tab. -/
def tab : UInt16 := 0x09

/-- A run of spaces and tabs. -/
def BlankRun (run : Utf16) : Prop :=
  run ≠ [] ∧ ∀ u ∈ run, u = space ∨ u = tab

/-- Two texts that differ in the style of their line ends and in the number of spaces and tabs of their runs,
and in nothing else. -/
inductive Restyled : Utf16 → Utf16 → Prop where
  | nil :
    Restyled [] []
  | unit {u text text'} :
    u ≠ lineFeed →
    u ≠ carriageReturn →
    Restyled text text' →
    Restyled (u :: text) (u :: text')
  | lineEnd {stop stop' text text'} :
    LineEnd stop text →
    LineEnd stop' text' →
    Restyled text text' →
    Restyled (stop ++ text) (stop' ++ text')
  | run {run run' text text'} :
    BlankRun run →
    BlankRun run' →
    Restyled text text' →
    Restyled (run ++ text) (run' ++ text')

variable {nfc : Utf16 → Utf16} {text text' front run stop : Utf16} {u : UInt16}

lemma Restyled.behind (others : ∀ u ∈ front, u ≠ lineFeed ∧ u ≠ carriageReturn)
    (restyled : Restyled text text') : Restyled (front ++ text) (front ++ text') := by
  induction front with
  | nil => exact restyled
  | cons u front ih =>
    obtain ⟨other, others⟩ := List.forall_mem_cons.mp others
    exact .unit other.1 other.2 (ih others)

lemma LineEnd.inert (ends : LineEnd stop text) : stop ≠ [] ∧ ∀ u ∈ stop, isInert u = true := by
  cases ends with
  | lf => exact ⟨List.cons_ne_nil _ _, by simp [isInert]⟩
  | crlf => exact ⟨List.cons_ne_nil _ _, by simp [isInert]⟩
  | cr => exact ⟨List.cons_ne_nil _ _, by simp [isInert]⟩

lemma BlankRun.blank (is : BlankRun run) : ∀ u ∈ run, isBlank u = true := by
  intro u mem
  rcases is.2 u mem with rfl | rfl
  · rfl
  · rfl

lemma BlankRun.inert (is : BlankRun run) : run ≠ [] ∧ ∀ u ∈ run, isInert u = true := by
  refine ⟨is.1, fun u mem => ?_⟩
  rw [isInert, is.blank u mem, Bool.or_true]

namespace Nfc

/-- A run of line ends and blanks stays as it is. -/
lemma inert_run (laws : Nfc nfc) (inert : run ≠ [] ∧ ∀ u ∈ run, isInert u = true) :
    nfc (front ++ (run ++ text)) = nfc front ++ (run ++ nfc text) := by
  obtain ⟨some, inert⟩ := inert
  induction run generalizing front with
  | nil => exact absurd rfl some
  | cons u run ih =>
    obtain ⟨here, inert⟩ := List.forall_mem_cons.mp inert
    have behind : nfc (run ++ text) = run ++ nfc text := by
      cases run with
      | nil => rfl
      | cons v run =>
        have later : nfc ([] ++ (v :: run ++ text)) = nfc [] ++ (v :: run ++ nfc text) :=
          ih (List.cons_ne_nil v run) inert
        rw [laws.nil] at later
        exact later
    rw [List.cons_append, laws.inert front u _ here, behind]
    rfl

/-- A text in normal form begins with a line feed only if the text did. -/
lemma head (laws : Nfc nfc) (begins : (nfc text).head? = some lineFeed) : text.head? = some lineFeed := by
  have mem : lineFeed ∈ text := laws.fresh text lineFeed rfl (List.mem_of_mem_head? begins)
  obtain ⟨front, rest, rfl, first⟩ := List.eq_append_cons_of_mem mem
  rw [laws.inert front lineFeed rest rfl] at begins
  cases before : nfc front with
  | nil =>
    rw [laws.kept front before]
    rfl
  | cons u others =>
    rw [before] at begins
    have is : u = lineFeed := Option.some.inj begins
    refine absurd (laws.fresh front lineFeed rfl ?_) first
    rw [before, is]
    exact List.mem_cons_self

lemma lineEnd (laws : Nfc nfc) (ends : LineEnd stop text) : LineEnd stop (nfc text) := by
  cases ends with
  | lf => exact .lf
  | crlf => exact .crlf
  | cr single => exact .cr fun begins => single (laws.head begins)

/-- The normal forms of texts that differ in their style differ in their style. -/
lemma restyled (laws : Nfc nfc) (others : ∀ u ∈ front, u ≠ lineFeed ∧ u ≠ carriageReturn)
    (restyled : Restyled text text') : Restyled (nfc (front ++ text)) (nfc (front ++ text')) := by
  have kept {front : Utf16} (others : ∀ u ∈ front, u ≠ lineFeed ∧ u ≠ carriageReturn) :
      ∀ u ∈ nfc front, u ≠ lineFeed ∧ u ≠ carriageReturn := by
    intro u mem
    constructor
    · intro is
      exact (others u (laws.fresh front u (is ▸ rfl) mem)).1 is
    · intro is
      exact (others u (laws.fresh front u (is ▸ rfl) mem)).2 is
  have alone : ∀ u ∈ ([] : Utf16), u ≠ lineFeed ∧ u ≠ carriageReturn := fun u mem => absurd mem List.not_mem_nil
  induction restyled generalizing front with
  | nil =>
    have same : Restyled (nfc front ++ []) (nfc front ++ []) := Restyled.nil.behind (kept others)
    rw [List.append_nil] at same ⊢
    exact same
  | @unit u text text' lf cr _ ih =>
    by_cases inert : isInert u = true
    · rw [laws.inert front u text inert, laws.inert front u text' inert]
      exact (Restyled.unit lf cr (ih alone)).behind (kept others)
    · rw [List.append_cons front u text, List.append_cons front u text']
      refine ih fun v mem => ?_
      rcases List.mem_append.mp mem with before | now
      · exact others v before
      · rw [List.mem_singleton.mp now]
        exact ⟨lf, cr⟩
  | lineEnd ends ends' _ ih =>
    rw [laws.inert_run ends.inert, laws.inert_run ends'.inert]
    exact (Restyled.lineEnd (laws.lineEnd ends) (laws.lineEnd ends') (ih alone)).behind (kept others)
  | run is is' _ ih =>
    rw [laws.inert_run is.inert, laws.inert_run is'.inert]
    exact (Restyled.run is is' (ih alone)).behind (kept others)

end Nfc

lemma unifyLineEnds_lineEnd (ends : LineEnd stop text) :
    unifyLineEnds (stop ++ text) = lineFeed :: unifyLineEnds text := by
  cases ends with
  | lf => exact unifyLineEnds_cons (by decide)
  | crlf => exact unifyLineEnds_crlf
  | cr single => exact unifyLineEnds_cr single

lemma unifyLineEnds_run (is : ∀ u ∈ run, isBlank u = true) :
    unifyLineEnds (run ++ text) = run ++ unifyLineEnds text := by
  induction run with
  | nil => rfl
  | cons u run ih =>
    obtain ⟨here, is⟩ := List.forall_mem_cons.mp is
    have other : u ≠ carriageReturn := by
      intro same
      rw [same] at here
      exact absurd here (by decide)
    rw [List.cons_append, unifyLineEnds_cons other, ih is]
    rfl

/-- The pass does with a code unit what depends on the rest only as the pass leaves it. -/
lemma joinBlanks_cons (same : joinBlanks text = joinBlanks text') :
    joinBlanks (u :: text) = joinBlanks (u :: text') := by
  have heads : text.head?.any isBlank = text'.head?.any isBlank := by
    calc text.head?.any isBlank = (joinBlanks text).head?.any isBlank := head_joinBlanks.symm
      _ = (joinBlanks text').head?.any isBlank := by rw [same]
      _ = text'.head?.any isBlank := head_joinBlanks
  rw [joinBlanks, joinBlanks, heads, same]

/-- A run of blanks is as good as one space. -/
lemma joinBlanks_run (some : run ≠ []) (blank : ∀ u ∈ run, isBlank u = true) :
    joinBlanks (run ++ text) = joinBlanks (space :: text) := by
  induction run with
  | nil => exact absurd rfl some
  | cons u run ih =>
    obtain ⟨here, blank⟩ := List.forall_mem_cons.mp blank
    have one : joinBlanks (u :: text) = joinBlanks (space :: text) := by
      rw [joinBlanks, joinBlanks, if_pos here, if_pos (show isBlank space = true from rfl)]
    cases run with
    | nil => exact one
    | cons v run =>
      have next : (v :: (run ++ text)).head?.any isBlank = true := blank v List.mem_cons_self
      have later := ih (List.cons_ne_nil v run) blank
      rw [List.cons_append, List.cons_append, joinBlanks, if_pos here, if_pos next]
      exact later

/-- The first two passes forget the style of a text. -/
lemma joinBlanks_restyled (restyled : Restyled text text') :
    joinBlanks (unifyLineEnds text) = joinBlanks (unifyLineEnds text') := by
  induction restyled with
  | nil => rfl
  | unit _ cr _ ih =>
    rw [unifyLineEnds_cons cr, unifyLineEnds_cons cr]
    exact joinBlanks_cons ih
  | lineEnd ends ends' _ ih =>
    rw [unifyLineEnds_lineEnd ends, unifyLineEnds_lineEnd ends']
    exact joinBlanks_cons ih
  | run is is' _ ih =>
    rw [unifyLineEnds_run is.blank, unifyLineEnds_run is'.blank, joinBlanks_run is.1 is.blank,
      joinBlanks_run is'.1 is'.blank]
    exact joinBlanks_cons ih

lemma normalizeText_restyled (laws : Nfc nfc) (restyled : Restyled text text') :
    normalizeText nfc text = normalizeText nfc text' := by
  have forms : Restyled (nfc ([] ++ text)) (nfc ([] ++ text')) :=
    laws.restyled (fun u mem => absurd mem List.not_mem_nil) restyled
  rw [List.nil_append, List.nil_append] at forms
  rw [normalizeText, normalizeText, joinBlanks_restyled forms]

/-- Normalizing is a canonical form: doing it again changes nothing, so that a text has the hash and the
chunks of its normal form, and texts that differ in their style only have one normal form and one hash. -/
theorem normalizeText_canonical_form (nfc : Utf16 → Utf16) (laws : Nfc nfc) :
    (∀ text, normalizeText nfc (normalizeText nfc text) = normalizeText nfc text ∧
      contentHash nfc (normalizeText nfc text) = contentHash nfc text ∧
      ∀ options, chunkText nfc (normalizeText nfc text) options = chunkText nfc text options) ∧
    ∀ text text', Restyled text text' →
      normalizeText nfc text = normalizeText nfc text' ∧ contentHash nfc text = contentHash nfc text' := by
  constructor
  · intro text
    have again : normalizeText nfc (normalizeText nfc text) = normalizeText nfc text :=
      (canonical_normalizeText laws).normalizeText_eq_self
    refine ⟨again, ?_, fun options => ?_⟩
    · rw [contentHash, again, contentHash]
    · simp only [chunkText, again]
  · intro text text' restyled
    have same := normalizeText_restyled laws restyled
    refine ⟨same, ?_⟩
    rw [contentHash, same, contentHash]

/-- Nothing composes in a text of ASCII. -/
lemma nfc_id : Nfc id :=
  ⟨fun _ => rfl, fun _ _ _ _ => rfl, fun _ _ _ _ => rfl, fun _ _ _ mem => mem, fun _ is => is⟩

theorem normalizeText_canonical_form_ascii :
    contentHash id [0x61, tab, space, 0x62, carriageReturn, lineFeed] =
      contentHash id [0x61, space, 0x62, carriageReturn] := by
  refine ((normalizeText_canonical_form id nfc_id).2 _ _ ?_).2
  have stops : Restyled ([carriageReturn, lineFeed] ++ []) ([carriageReturn] ++ []) :=
    .lineEnd .crlf (.cr nofun) .nil
  have word : Restyled (0x62 :: [carriageReturn, lineFeed]) (0x62 :: [carriageReturn]) :=
    .unit (by decide) (by decide) stops
  have wide : BlankRun [tab, space] := ⟨List.cons_ne_nil _ _, by simp⟩
  have narrow : BlankRun [space] := ⟨List.cons_ne_nil _ _, by simp⟩
  exact .unit (by decide) (by decide) (.run wide narrow word)

end Style

end AtomsPlatform.Memory
