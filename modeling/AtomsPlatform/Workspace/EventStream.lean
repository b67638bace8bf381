import AtomsPlatform.Lib.Utf8
import AtomsPlatform.Lib.Utf16
import Mathlib.Data.List.Forall2

/-!
# Event streams in pieces

How the workspace reads a stream of events that arrives in pieces. Line ends are unified piece by piece,
so a line end of two characters that is cut between two pieces stays as it is. Where that line end ends a
blank line, the blank line is not seen.
-/

namespace AtomsPlatform.Workspace

section Json

/-- The tokens of a text of JSON: what stands in quotes as it is written, and what stands between them. -/
inductive Token where
  | punctuator (c : Char)
  | word (text : List Char)
  | quoted (text : List Char)
deriving DecidableEq, Repr

/-- Where a text of JSON is read. -/
inductive LexMode where
  | ground
  | word (text : List Char)
  | quoted (text : List Char)
  | escape (text : List Char)
deriving DecidableEq, Repr

/-- The tokens so far, and where the text is read. -/
structure LexState where
  tokens : List Token := []
  mode : LexMode := .ground
deriving DecidableEq, Repr

/-- White space of JSON. -/
def isJsonSpace (c : Char) : Bool :=
  c = ' ' || c = '\t' || c = '\n' || c = '\r'

/-- A character outside of quotes, after the tokens so far. -/
def lexGround (tokens : List Token) (c : Char) : LexState :=
  if isJsonSpace c then ⟨tokens, .ground⟩
  else if c = '"' then ⟨tokens, .quoted []⟩
  else if c ∈ ['{', '}', '[', ']', ':', ','] then ⟨tokens ++ [.punctuator c], .ground⟩
  else ⟨tokens, .word [c]⟩

/-- One character. Control characters may not stand in quotes. -/
def lexStep (state : LexState) (c : Char) : Option LexState :=
  match state.mode with
  | .ground => some (lexGround state.tokens c)
  | .word text =>
    if isJsonSpace c ∨ c = '"' ∨ c ∈ ['{', '}', '[', ']', ':', ','] then
      some (lexGround (state.tokens ++ [.word text]) c)
    else some { state with mode := .word (text ++ [c]) }
  | .quoted text =>
    if c = '"' then some ⟨state.tokens ++ [.quoted text], .ground⟩
    else if c.toNat < 0x20 then none
    else if c = '\\' then some { state with mode := .escape (text ++ [c]) }
    else some { state with mode := .quoted (text ++ [c]) }
  | .escape text =>
    if c.toNat < 0x20 then none else some { state with mode := .quoted (text ++ [c]) }

/-- The end of the text. -/
def lexEnd (state : LexState) : Option (List Token) :=
  match state.mode with
  | .ground => some state.tokens
  | .word text => some (state.tokens ++ [.word text])
  | .quoted _ | .escape _ => none

/-- The tokens of a text. -/
def tokensOf (text : List Char) : Option (List Token) :=
  (text.foldlM lexStep {}).bind lexEnd

end Json

section Source
variable {ε : Type}

/-- `.replace(/\r\n/gu, "\n")` -/
def unifyLineEnds : List Char → List Char
  | '\r' :: '\n' :: cs => '\n' :: unifyLineEnds cs
  | c :: cs => c :: unifyLineEnds cs
  | [] => []

/-- `.split("\n")` -/
def splitLines : List Char → List (List Char)
  | [] => [[]]
  | c :: cs =>
    if c = '\n' then [] :: splitLines cs
    else (c :: (splitLines cs).headD []) :: (splitLines cs).tail

/-- `.trimStart()` -/
def trimStart (text : List Char) : List Char :=
  text.dropWhile fun c => Utf16.isSpace c.toNat

/-- `line.startsWith("data:")` -/
def isData (line : List Char) : Bool :=
  ['d', 'a', 't', 'a', ':'].isPrefixOf line

/-- The data of a line, if it has some. -/
def dataOf (line : List Char) : List (List Char) :=
  if isData line then [trimStart (line.drop 5)] else []

/-- `.join("\n")` -/
def joinLines : List (List Char) → List Char
  | [] => []
  | [line] => line
  | line :: lines => line ++ '\n' :: joinLines lines

/-- The part of a buffer before the first blank line, and what is after it. -/
def splitBlock : List Char → Option (List Char × List Char)
  | '\n' :: '\n' :: rest => some ([], rest)
  | c :: cs => (splitBlock cs).map fun parts => (c :: parts.1, parts.2)
  | [] => none

lemma splitBlock_length {buffer block rest : List Char} (found : splitBlock buffer = some (block, rest)) :
    rest.length < buffer.length := by
  induction buffer using splitBlock.induct generalizing block with
  | case1 cs =>
    cases found
    exact Nat.lt_add_of_pos_right (by decide : 0 < 2)
  | case2 c cs other ih =>
    rw [splitBlock] at found
    · obtain ⟨parts, inner, is⟩ := Option.map_eq_some_iff.mp found
      cases is
      exact (ih inner).trans (Nat.lt_succ_self _)
    · exact other
  | case3 => cases found

/-- The blocks that the loop takes off a buffer, and what stays in it. -/
def cutBlocks (buffer : List Char) : List (List Char) × List Char :=
  match _found : splitBlock buffer with
  | none => ([], buffer)
  | some (block, rest) =>
    let more := cutBlocks rest
    (block :: more.1, more.2)
termination_by buffer.length
decreasing_by exact splitBlock_length _found

/-- What a stream gives: its events, and whether it ends with an error. -/
structure Output (ε : Type) where
  events : List ε := []
  failed : Bool := false

/-- `RunEventEnvelopeSchema.parse(JSON.parse(data))`: a text of JSON has some token, and its meaning is
that of its tokens. -/
def parseData (envelope : Token → List Token → Option ε) (data : List Char) : Option ε :=
  match tokensOf data with
  | some (token :: tokens) => envelope token tokens
  | _ => none

/-- The data of a block. -/
def blockData (block : List Char) : List (List Char) :=
  (splitLines block).flatMap dataOf

variable (envelope : Token → List Token → Option ε)

/-- What the blocks give, followed by what comes after them if they give no error. -/
def yieldBlocks (after : Output ε) : List (List Char) → Output ε
  | [] => after
  | block :: blocks =>
    let data := joinLines (blockData block)
    if data.length > 0 then
      match parseData envelope data with
      | none => { failed := true }
      | some event =>
        let more := yieldBlocks after blocks
        { more with events := event :: more.events }
    else yieldBlocks after blocks

/-- The loop of source `parseEventStream` over the pieces of the text. -/
def readPieces (buffer : List Char) : List (List Char) → Output ε
  | [] => {}
  | piece :: pieces =>
    let parts := cutBlocks (buffer ++ unifyLineEnds piece)
    yieldBlocks envelope (readPieces parts.2 pieces) parts.1

/-- Source `parseEventStream`, for a signal that is not aborted. -/
def parseEventStream (chunks : List (List UInt8)) : Output ε :=
  readPieces envelope [] (({} : Utf8.Decoder).pieces chunks)

end Source

section Buffer
variable {ε : Type} {envelope : Token → List Token → Option ε} {x y block rest : List Char}

/-- A block that was found is found whatever arrives later. -/
lemma splitBlock_append (found : splitBlock x = some (block, rest)) :
    splitBlock (x ++ y) = some (block, rest ++ y) := by
  induction x using splitBlock.induct generalizing block with
  | case1 cs =>
    cases found
    rfl
  | case2 c cs other ih =>
    rw [splitBlock] at found
    · obtain ⟨parts, inner, is⟩ := Option.map_eq_some_iff.mp found
      cases is
      have later : ∀ rest', c = '\n' → cs ++ y = '\n' :: rest' → False := by
        rintro rest' rfl begins
        cases cs with
        | nil => cases inner
        | cons d cs =>
          cases begins
          exact other cs rfl rfl
      rw [List.cons_append, splitBlock, ih inner]
      · rfl
      · exact later
    · exact other
  | case3 => cases found

lemma cutBlocks_none (none : splitBlock x = none) : cutBlocks x = ([], x) := by
  rw [cutBlocks]
  split
  · rfl
  · rename_i found
    cases none.symm.trans found

lemma cutBlocks_some (found : splitBlock x = some (block, rest)) :
    cutBlocks x = (block :: (cutBlocks rest).1, (cutBlocks rest).2) := by
  rw [cutBlocks]
  split
  · rename_i none
    cases none.symm.trans found
  · rename_i found'
    cases found.symm.trans found'
    rfl

/-- The blocks do not depend on when the text arrives. The induction is on the length of what is there
first. -/
lemma cutBlocks_append :
    cutBlocks (x ++ y) =
      ((cutBlocks x).1 ++ (cutBlocks ((cutBlocks x).2 ++ y)).1, (cutBlocks ((cutBlocks x).2 ++ y)).2) := by
  induction length : x.length using Nat.strongRecOn generalizing x with
  | ind n ih =>
    cases found : splitBlock x with
    | none =>
      rw [cutBlocks_none found]
      rfl
    | some parts =>
      obtain ⟨block, rest⟩ := parts
      have shorter : rest.length < n := length ▸ splitBlock_length found
      rw [cutBlocks_some found, cutBlocks_some (splitBlock_append found), ih _ shorter rfl]
      rfl

/-- There is no block in what stays. -/
lemma splitBlock_cutBlocks : splitBlock (cutBlocks x).2 = none := by
  induction length : x.length using Nat.strongRecOn generalizing x with
  | ind n ih =>
    cases found : splitBlock x with
    | none =>
      rw [cutBlocks_none found]
      exact found
    | some parts =>
      obtain ⟨block, rest⟩ := parts
      have shorter : rest.length < n := length ▸ splitBlock_length found
      rw [cutBlocks_some found]
      exact ih _ shorter rfl

lemma yieldBlocks_append {after : Output ε} {blocks blocks' : List (List Char)} :
    yieldBlocks envelope after (blocks ++ blocks') =
      yieldBlocks envelope (yieldBlocks envelope after blocks') blocks := by
  induction blocks with
  | nil => rfl
  | cons block blocks ih => rw [List.cons_append, yieldBlocks, yieldBlocks, ih]

/-- Only the text that the pieces give is read. -/
lemma readPieces_eq {buffer : List Char} {pieces : List (List Char)} (quiet : splitBlock buffer = none) :
    readPieces envelope buffer pieces =
      yieldBlocks envelope {} (cutBlocks (buffer ++ pieces.flatMap unifyLineEnds)).1 := by
  induction pieces generalizing buffer with
  | nil =>
    rw [List.flatMap_nil, List.append_nil, cutBlocks_none quiet]
    rfl
  | cons piece pieces ih =>
    have whole : cutBlocks (buffer ++ unifyLineEnds piece ++ pieces.flatMap unifyLineEnds) = _ :=
      cutBlocks_append
    rw [readPieces, ih splitBlock_cutBlocks, List.flatMap_cons, ← List.append_assoc, whole,
      yieldBlocks_append]

/-- The text that arrives in pieces, with the line ends that are cut. -/
def received (chunks : List (List UInt8)) : List Char :=
  (({} : Utf8.Decoder).pieces chunks).flatMap unifyLineEnds

lemma parseEventStream_eq {chunks : List (List UInt8)} :
    parseEventStream envelope chunks = yieldBlocks envelope {} (cutBlocks (received chunks)).1 :=
  readPieces_eq rfl

end Buffer

section Lines
variable {x y block rest : List Char} {l : List Char} {ls : List (List Char)} {cur : List (List Char)}

/-- The data of the events of a stream, line by line: a blank line ends an event. -/
def groups (cur : List (List Char)) : List (List Char) → List (List (List Char))
  | [] => []
  | l :: ls => if l = [] then cur :: groups [] ls else groups (cur ++ dataOf l) ls

/-- The lines of a text that have an end. -/
def endedLines (text : List Char) : List (List Char) :=
  (splitLines text).dropLast

lemma splitLines_eq : ∃ l ls, splitLines x = l :: ls := by
  cases x with
  | nil => exact ⟨_, _, rfl⟩
  | cons c cs =>
    rw [splitLines]
    split
    · exact ⟨_, _, rfl⟩
    · exact ⟨_, _, rfl⟩

lemma splitLines_newline : splitLines ('\n' :: x) = [] :: splitLines x :=
  if_pos rfl

lemma splitLines_cons {c : Char} (other : c ≠ '\n') (is : splitLines x = l :: ls) :
    splitLines (c :: x) = (c :: l) :: ls := by
  rw [splitLines, if_neg other, is]
  rfl

lemma splitLines_append : splitLines (x ++ '\n' :: y) = splitLines x ++ splitLines y := by
  induction x with
  | nil => exact splitLines_newline
  | cons c x ih =>
    by_cases newline : c = '\n'
    · subst newline
      rw [List.cons_append, splitLines_newline, splitLines_newline, ih, List.cons_append]
    · obtain ⟨l, ls, is⟩ := splitLines_eq (x := x)
      have is' : splitLines (x ++ '\n' :: y) = l :: (ls ++ splitLines y) := by
        rw [ih, is, List.cons_append]
      rw [List.cons_append, splitLines_cons newline is, splitLines_cons newline is', List.cons_append]

/-- A line that begins with a character of its own is not blank. -/
lemma line_of_other {c : Char} (other : c ≠ '\n') (is : splitLines (c :: x) = l :: ls) : l ≠ [] := by
  rw [splitLines, if_neg other] at is
  cases is
  exact List.cons_ne_nil _ _

lemma endedLines_newline : endedLines ('\n' :: x) = [] :: endedLines x := by
  obtain ⟨l, ls, is⟩ := splitLines_eq (x := x)
  rw [endedLines, endedLines, splitLines_newline, is]
  rfl

lemma endedLines_cons {c : Char} (other : c ≠ '\n') :
    (endedLines (c :: x)).tail = (endedLines x).tail := by
  obtain ⟨l, ls, is⟩ := splitLines_eq (x := x)
  rw [endedLines, endedLines, splitLines_cons other is, is]
  cases ls with
  | nil => rfl
  | cons _ _ => rfl

lemma endedLines_append : endedLines (x ++ '\n' :: y) = splitLines x ++ endedLines y := by
  obtain ⟨l, ls, is⟩ := splitLines_eq (x := y)
  rw [endedLines, endedLines, splitLines_append, is, List.dropLast_append_of_ne_nil (List.cons_ne_nil _ _)]

/-- Where there is no block, only the first line can be blank. -/
lemma quiet_lines (quiet : splitBlock x = none) : ∀ l ∈ (endedLines x).tail, l ≠ [] := by
  induction x using splitBlock.induct with
  | case1 cs => cases quiet
  | case2 c cs other ih =>
    rw [splitBlock] at quiet
    · have inner : splitBlock cs = none := Option.map_eq_none_iff.mp quiet
      by_cases newline : c = '\n'
      · subst newline
        rw [endedLines_newline, List.tail_cons]
        intro l mem
        cases cs with
        | nil => cases mem
        | cons d cs =>
          have different : d ≠ '\n' := fun same => other cs rfl (by rw [same])
          obtain ⟨first, lines, is⟩ := splitLines_eq (x := d :: cs)
          have first_line := line_of_other different is
          have later := ih inner
          rw [endedLines, is] at mem later
          cases lines with
          | nil => cases mem
          | cons second lines =>
            rcases List.mem_cons.mp mem with rfl | mem
            · exact first_line
            · exact later l mem
      · rw [endedLines_cons newline]
        exact ih inner
    · exact other
  | case3 =>
    intro l mem
    cases mem

/-- Nor can another line of a block. -/
lemma block_lines (found : splitBlock x = some (block, rest)) :
    x = block ++ '\n' :: '\n' :: rest ∧ ∀ l ∈ (splitLines block).tail, l ≠ [] := by
  induction x using splitBlock.induct generalizing block with
  | case1 cs =>
    cases found
    exact ⟨rfl, fun l mem => absurd mem List.not_mem_nil⟩
  | case2 c cs other ih =>
    rw [splitBlock] at found
    · obtain ⟨⟨block, rest⟩, inner, is⟩ := Option.map_eq_some_iff.mp found
      cases is
      obtain ⟨rfl, lines⟩ := ih inner
      refine ⟨rfl, ?_⟩
      by_cases newline : c = '\n'
      · subst newline
        rw [splitLines_newline, List.tail_cons]
        intro l mem
        cases block with
        | nil => exact absurd rfl (other _ rfl)
        | cons d block =>
          have different : d ≠ '\n' := fun same => other _ rfl (by rw [same]; rfl)
          obtain ⟨first, later, is⟩ := splitLines_eq (x := d :: block)
          have first_line := line_of_other different is
          rw [is] at mem lines
          rcases List.mem_cons.mp mem with rfl | mem
          · exact first_line
          · exact lines l mem
      · obtain ⟨first, later, is⟩ := splitLines_eq (x := block)
        rw [splitLines_cons newline is]
        rw [is] at lines
        exact lines
    · exact other
  | case3 => cases found

lemma groups_quiet (marked : ∀ l ∈ ls, l ≠ []) : groups cur ls = [] := by
  induction ls generalizing cur with
  | nil => rfl
  | cons l ls ih =>
    rw [groups, if_neg (marked l List.mem_cons_self)]
    exact ih fun l' mem => marked l' (List.mem_cons_of_mem _ mem)

lemma groups_block {later : List (List Char)} (marked : ∀ l ∈ ls, l ≠ []) :
    groups cur (ls ++ [] :: later) = (cur ++ ls.flatMap dataOf) :: groups [] later := by
  induction ls generalizing cur with
  | nil =>
    rw [List.nil_append, groups, if_pos rfl, List.flatMap_nil, List.append_nil]
  | cons l ls ih =>
    rw [List.cons_append, groups, if_neg (marked l List.mem_cons_self),
      ih fun l' mem => marked l' (List.mem_cons_of_mem _ mem), List.flatMap_cons, List.append_assoc]

/-- Groups without data give no event. -/
def withData (gs : List (List (List Char))) : List (List (List Char)) :=
  gs.filter fun g => g ≠ []

lemma withData_nil {gs : List (List (List Char))} : withData ([] :: gs) = withData gs :=
  rfl

/-- The blocks of a text are its groups of lines, up to those without data. The induction is on the length
of the text. -/
lemma withData_blocks :
    withData ((cutBlocks x).1.map blockData) = withData (groups [] (endedLines x)) := by
  induction length : x.length using Nat.strongRecOn generalizing x with
  | ind n ih =>
    cases found : splitBlock x with
    | none =>
      have lines := quiet_lines found
      rw [cutBlocks_none found]
      cases is : endedLines x with
      | nil => rfl
      | cons l ls =>
        rw [is, List.tail_cons] at lines
        rw [groups]
        split
        · rw [groups_quiet lines]
          rfl
        · rw [groups_quiet lines]
          rfl
    | some parts =>
      obtain ⟨block, rest⟩ := parts
      have shorter : rest.length < n := length ▸ splitBlock_length found
      obtain ⟨whole, lines⟩ := block_lines found
      have more := ih _ shorter rfl
      have ended : endedLines x = splitLines block ++ [] :: endedLines rest := by
        rw [whole, endedLines_append, endedLines_newline]
      rw [cutBlocks_some found, ended, List.map_cons, blockData]
      obtain ⟨l, ls, is⟩ := splitLines_eq (x := block)
      rw [is, List.tail_cons] at lines
      rw [is, List.cons_append, groups]
      have both {g : List (List Char)} : withData (g :: (cutBlocks rest).1.map blockData) =
          withData (g :: groups [] (endedLines rest)) := by
        rw [withData, withData, List.filter_cons, List.filter_cons]
        split
        · exact congrArg _ more
        · exact more
      split
      · rename_i blank
        subst blank
        rw [groups_block lines, withData_nil]
        exact both
      · rw [groups_block lines]
        exact both

end Lines

section Groups
variable {ε : Type} {envelope : Token → List Token → Option ε}

/-- What groups of data give. -/
def yieldGroups (envelope : Token → List Token → Option ε) : List (List (List Char)) → Output ε
  | [] => {}
  | g :: gs =>
    let data := joinLines g
    if data.length > 0 then
      match parseData envelope data with
      | none => { failed := true }
      | some event =>
        let more := yieldGroups envelope gs
        { more with events := event :: more.events }
    else yieldGroups envelope gs

lemma yieldBlocks_eq {blocks : List (List Char)} :
    yieldBlocks envelope {} blocks = yieldGroups envelope (blocks.map blockData) := by
  induction blocks with
  | nil => rfl
  | cons block blocks ih => rw [yieldBlocks, List.map_cons, yieldGroups, ih]

lemma yieldGroups_withData {gs : List (List (List Char))} :
    yieldGroups envelope (withData gs) = yieldGroups envelope gs := by
  induction gs with
  | nil => rfl
  | cons g gs ih =>
    rw [withData, List.filter_cons]
    cases g with
    | nil => exact ih
    | cons l ls =>
      rw [if_pos (decide_eq_true (List.cons_ne_nil _ _)), yieldGroups, yieldGroups]
      rw [withData] at ih
      rw [ih]

/-- A stream gives what its lines give. -/
lemma parseEventStream_groups {chunks : List (List UInt8)} :
    parseEventStream envelope chunks =
      yieldGroups envelope (withData (groups [] (endedLines (received chunks)))) := by
  rw [parseEventStream_eq, yieldBlocks_eq, ← yieldGroups_withData, withData_blocks]

end Groups

section Cuts
variable {t u v : List Char}

/-- Every carriage return is the first character of a line end. -/
def Paired : List Char → Prop
  | [] => True
  | c :: cs => (c = '\r' → cs.head? = some '\n') ∧ Paired cs

/-- A text in which some of the line ends of two characters are unified. -/
inductive Unified : List Char → List Char → Prop where
  | nil : Unified [] []
  | keep {c : Char} {u t : List Char} :
    c ≠ '\r' → Unified u t → Unified (c :: u) (c :: t)
  | cut {u t : List Char} :
    Unified u t → Unified ('\r' :: '\n' :: u) ('\r' :: '\n' :: t)
  | joined {u t : List Char} :
    Unified u t → Unified ('\n' :: u) ('\r' :: '\n' :: t)

lemma unifyLineEnds_cons {c : Char} (other : c ≠ '\r') :
    unifyLineEnds (c :: t) = c :: unifyLineEnds t := by
  rw [unifyLineEnds]
  exact fun _ same _ => other same

/-- A piece in front. Its last character can be a carriage return whose line feed arrives later. -/
lemma Unified.piece {p : List Char} (unified : Unified u t) (paired : Paired (p ++ t)) :
    Unified (unifyLineEnds p ++ u) (p ++ t) := by
  induction p using unifyLineEnds.induct with
  | case1 cs ih => exact .joined (ih paired.2.2)
  | case2 c cs other ih =>
    have step : unifyLineEnds (c :: cs) = c :: unifyLineEnds cs := by
      rw [unifyLineEnds]
      exact other
    rw [step]
    by_cases carriage : c = '\r'
    · subst carriage
      have next := paired.1 rfl
      cases cs with
      | nil =>
        cases unified with
        | nil => cases next
        | keep _ unified =>
          cases next
          exact .cut unified
        | cut _ => cases next
        | joined _ => cases next
      | cons d cs =>
        cases next
        exact absurd rfl (other cs rfl)
    · exact .keep carriage (ih paired.2)
  | case3 => exact unified

lemma Paired.rest {p : List Char} (paired : Paired (p ++ t)) : Paired t := by
  induction p with
  | nil => exact paired
  | cons c p ih => exact ih paired.2

/-- What is received of a text in pieces. -/
lemma unified_flatMap {pieces : List (List Char)} (paired : Paired pieces.flatten) :
    Unified (pieces.flatMap unifyLineEnds) pieces.flatten := by
  induction pieces with
  | nil => exact .nil
  | cons p pieces ih =>
    rw [List.flatten_cons] at paired
    rw [List.flatMap_cons, List.flatten_cons]
    exact (ih paired.rest).piece paired

/-- A line as it arrives, and as it is: its line end can be cut. -/
def LineOf (l v : List Char) : Prop :=
  '\r' ∉ v ∧ (l = v ∨ l = v ++ ['\r'])

lemma LineOf.cons {c : Char} {l : List Char} (other : c ≠ '\r') (line : LineOf l v) :
    LineOf (c :: l) (c :: v) := by
  obtain ⟨free, rfl | rfl⟩ := line
  · exact ⟨fun mem => (List.mem_cons.mp mem).elim (fun same => other same.symm) free, .inl rfl⟩
  · exact ⟨fun mem => (List.mem_cons.mp mem).elim (fun same => other same.symm) free, .inr rfl⟩

/-- The lines that arrive. -/
lemma Unified.lines (unified : Unified u t) :
    List.Forall₂ LineOf (splitLines u) (splitLines (unifyLineEnds t)) := by
  have blank : LineOf [] [] := ⟨List.not_mem_nil, .inl rfl⟩
  induction unified with
  | nil => exact .cons blank .nil
  | @keep c u t other _ ih =>
    rw [unifyLineEnds_cons other]
    by_cases newline : c = '\n'
    · subst newline
      rw [splitLines_newline, splitLines_newline]
      exact .cons blank ih
    · obtain ⟨l, ls, is⟩ := splitLines_eq (x := u)
      obtain ⟨l', ls', is'⟩ := splitLines_eq (x := unifyLineEnds t)
      rw [is, is'] at ih
      rw [splitLines_cons newline is, splitLines_cons newline is']
      cases ih with
      | cons first rest => exact .cons (first.cons other) rest
  | @cut u t _ ih =>
    rw [unifyLineEnds, splitLines_newline, splitLines_cons (by decide) splitLines_newline]
    exact .cons ⟨List.not_mem_nil, .inr rfl⟩ ih
  | @joined u t _ ih =>
    rw [unifyLineEnds, splitLines_newline, splitLines_newline]
    exact .cons blank ih

lemma forall₂_dropLast {α β : Type} {R : α → β → Prop} {xs : List α} {ys : List β}
    (all : List.Forall₂ R xs ys) : List.Forall₂ R xs.dropLast ys.dropLast := by
  rw [List.dropLast_eq_take, List.dropLast_eq_take, all.length_eq]
  exact List.forall₂_take _ all

end Cuts

section Tokens
variable {d v : List Char} {state : LexState}

/-- A text as it arrives, and as it is. -/
def DataOf (d v : List Char) : Prop :=
  d = v ∨ d = v ++ ['\r']

/-- A carriage return before a line feed changes nothing. -/
lemma lexStep_return : (lexStep state '\r').bind (lexStep · '\n') = lexStep state '\n' := by
  obtain ⟨tokens, mode⟩ := state
  cases mode <;> rfl

/-- Neither does one at the end. -/
lemma lexEnd_return : (lexStep state '\r').bind lexEnd = lexEnd state := by
  obtain ⟨tokens, mode⟩ := state
  cases mode <;> rfl

/-- The reading of a line as it arrives, up to what follows: a line feed or the end. -/
lemma foldlM_dataOf {α : Type} {f : LexState → Option α} (data : DataOf d v)
    (returns : ∀ state, (lexStep state '\r').bind f = f state) :
    (d.foldlM lexStep state).bind f = (v.foldlM lexStep state).bind f := by
  rcases data with rfl | rfl
  · rfl
  · rw [List.foldlM_append, Option.bind_eq_bind, Option.bind_assoc]
    refine congrArg _ (funext fun state' => ?_)
    rw [List.foldlM_cons, Option.bind_eq_bind, Option.bind_assoc]
    exact returns state'

/-- The tokens of data do not depend on how its lines arrive. -/
lemma foldlM_joinLines {ds vs : List (List Char)} (data : List.Forall₂ DataOf ds vs) :
    ((joinLines ds).foldlM lexStep state).bind lexEnd =
      ((joinLines vs).foldlM lexStep state).bind lexEnd := by
  induction data generalizing state with
  | nil => rfl
  | @cons d v ds vs first rest ih =>
    cases rest with
    | nil => exact foldlM_dataOf first fun _ => lexEnd_return
    | @cons d' v' ds vs second rest =>
      have more {x : List Char} {xs : List (List Char)} {x' : List Char} :
          ((joinLines (x :: x' :: xs)).foldlM lexStep state).bind lexEnd =
            (x.foldlM lexStep state).bind fun state =>
              (lexStep state '\n').bind fun state =>
                ((joinLines (x' :: xs)).foldlM lexStep state).bind lexEnd := by
        rw [joinLines, List.foldlM_append, Option.bind_eq_bind, Option.bind_assoc]
        · refine congrArg _ (funext fun state => ?_)
          rw [List.foldlM_cons, Option.bind_eq_bind, Option.bind_assoc]
        · exact List.cons_ne_nil _ _
      rw [more, more]
      refine (foldlM_dataOf first fun state => ?_).trans ?_
      · rw [← Option.bind_assoc, lexStep_return]
      · refine congrArg _ (funext fun state => congrArg _ (funext fun state => ?_))
        exact ih

lemma tokensOf_joinLines {ds vs : List (List Char)} (data : List.Forall₂ DataOf ds vs) :
    tokensOf (joinLines ds) = tokensOf (joinLines vs) :=
  foldlM_joinLines data

lemma trimStart_return : DataOf (trimStart (v ++ ['\r'])) (trimStart v) := by
  rw [trimStart, trimStart, List.dropWhile_append]
  split
  · rename_i empty
    rw [List.isEmpty_iff] at empty
    rw [empty]
    exact .inl (by decide)
  · exact .inr rfl

lemma isData_return {line : List Char} : isData (line ++ ['\r']) = isData line := by
  rw [isData, isData, Bool.eq_iff_iff, List.isPrefixOf_iff_prefix, List.isPrefixOf_iff_prefix,
    List.prefix_concat_iff]
  refine or_iff_right fun whole => ?_
  have last := congrArg List.getLast? whole
  rw [List.getLast?_concat] at last
  exact absurd last (by decide)

lemma LineOf.isData {l : List Char} (line : LineOf l v) : isData l = isData v := by
  obtain ⟨_, rfl | rfl⟩ := line
  · rfl
  · exact isData_return

/-- The data of a line as it arrives. -/
lemma LineOf.data {l : List Char} (line : LineOf l v) : List.Forall₂ DataOf (dataOf l) (dataOf v) := by
  rw [dataOf, dataOf, line.isData]
  split
  · rename_i begins
    refine .cons ?_ .nil
    obtain ⟨_, rfl | rfl⟩ := line
    · exact .inl rfl
    · have long : 5 ≤ v.length := (List.isPrefixOf_iff_prefix.mp begins).length_le
      rw [List.drop_append_of_le_length long]
      exact trimStart_return
  · exact .nil

lemma LineOf.blank {l : List Char} (line : LineOf l v) : v = [] ↔ l = [] ∨ l = ['\r'] := by
  obtain ⟨free, rfl | rfl⟩ := line
  · refine ⟨.inl, fun is => is.resolve_right ?_⟩
    rintro rfl
    exact free List.mem_cons_self
  · constructor
    · rintro rfl
      exact .inr rfl
    · rintro (none | only)
      · exact absurd none (List.append_ne_nil_of_right_ne_nil _ (List.cons_ne_nil _ _))
      · exact List.append_cancel_right (only : v ++ ['\r'] = [] ++ ['\r'])

end Tokens

section Ends
variable {l v : List Char} {ls vs cur cur' : List (List Char)}

/-- The lines up to the next one with data. -/
def afterData (ls : List (List Char)) : List (List Char) :=
  ls.takeWhile fun l => !isData l

/-- After every line with data: if a blank line up to the next line with data is cut in its line end, then
another one of them is not. -/
def EventsEnd : List (List Char) → Prop
  | [] => True
  | l :: ls => (isData l = true → ['\r'] ∈ afterData ls → [] ∈ afterData ls) ∧ EventsEnd ls

lemma afterData_other (other : isData l = false) : afterData (l :: ls) = l :: afterData ls := by
  rw [afterData, List.takeWhile_cons, other]
  rfl

lemma afterData_data (data : isData l = true) : afterData (l :: ls) = [] := by
  rw [afterData, List.takeWhile_cons, data]
  rfl

lemma dataOf_other (other : isData l = false) : dataOf l = [] := by
  rw [dataOf, other]
  rfl

lemma dataOf_data (data : isData l = true) : dataOf l ≠ [] := by
  rw [dataOf, data]
  exact List.cons_ne_nil _ _

lemma withData_cons {g : List (List Char)} {gs : List (List (List Char))} (some_data : g ≠ []) :
    withData (g :: gs) = g :: withData gs :=
  List.filter_cons_of_pos (decide_eq_true some_data)

/-- The groups of lines as they arrive, after data `cur` of which the event has not ended (`inStep`), or has
ended at a line that is cut (`behind`). -/
lemma groups_of_ends (lines : List.Forall₂ LineOf ls vs) (ends : EventsEnd ls)
    (data : List.Forall₂ DataOf cur cur') :
    ((cur ≠ [] → ['\r'] ∈ afterData ls → [] ∈ afterData ls) →
      List.Forall₂ (List.Forall₂ DataOf) (withData (groups cur ls)) (withData (groups cur' vs))) ∧
    (cur' ≠ [] → [] ∈ afterData ls →
      List.Forall₂ (List.Forall₂ DataOf) (withData (groups cur ls))
        (cur' :: withData (groups [] vs))) := by
  induction lines generalizing cur cur' with
  | nil => exact ⟨fun _ => .nil, fun _ mem => absurd mem List.not_mem_nil⟩
  | @cons l v ls vs line _ ih =>
    have blank := line.blank
    by_cases uncut : l = []
    · -- Both end.
      subst uncut
      obtain rfl := blank.mpr (.inl rfl)
      have rest := (ih ends.2 List.Forall₂.nil).1 fun none => absurd rfl none
      rw [groups, if_pos rfl, groups, if_pos rfl, groups, if_pos rfl, withData_nil]
      constructor
      · intro _
        cases data with
        | nil => exact rest
        | cons first others =>
          rw [withData_cons (List.cons_ne_nil _ _), withData_cons (List.cons_ne_nil _ _)]
          exact .cons (.cons first others) rest
      · intro some_data _
        cases data with
        | nil => exact absurd rfl some_data
        | cons first others =>
          rw [withData_cons (List.cons_ne_nil _ _)]
          exact .cons (.cons first others) rest
    · by_cases cut : l = ['\r']
      · -- Only the event ends.
        subst cut
        obtain rfl := blank.mpr (.inr rfl)
        have quiet : dataOf ['\r'] = [] := dataOf_other rfl
        rw [afterData_other rfl, groups, if_neg uncut, quiet, List.append_nil, groups, if_pos rfl, groups,
          if_pos rfl, withData_nil]
        have later : [] ∈ ['\r'] :: afterData ls → [] ∈ afterData ls := fun mem =>
          (List.mem_cons.mp mem).resolve_left (List.cons_ne_nil _ _).symm
        constructor
        · intro known
          cases data with
          | nil => exact (ih ends.2 List.Forall₂.nil).1 fun none => absurd rfl none
          | cons first others =>
            rw [withData_cons (List.cons_ne_nil _ _)]
            have mem := later (known (List.cons_ne_nil _ _) List.mem_cons_self)
            exact (ih ends.2 (.cons first others)).2 (List.cons_ne_nil _ _) mem
        · exact fun some_data mem => (ih ends.2 data).2 some_data (later mem)
      · have marked : v ≠ [] := fun none => (blank.mp none).elim uncut cut
        rw [groups, if_neg uncut, groups, if_neg marked, groups, if_neg marked]
        cases kind : isData l with
        | true =>
          have more : cur ++ dataOf l ≠ [] := List.append_ne_nil_of_right_ne_nil _ (dataOf_data kind)
          constructor
          · exact fun _ => (ih ends.2 (List.rel_append data line.data)).1 fun _ => ends.1 kind
          · intro _ mem
            rw [afterData_data kind] at mem
            cases mem
        | false =>
          have quiet : dataOf v = [] := dataOf_other (line.isData ▸ kind)
          rw [dataOf_other kind, quiet, List.append_nil, List.append_nil, List.append_nil,
            afterData_other kind]
          constructor
          · intro known
            refine (ih ends.2 data).1 fun some_data mem => ?_
            exact (List.mem_cons.mp (known some_data (List.mem_cons_of_mem _ mem))).resolve_left
              fun same => uncut same.symm
          · intro some_data mem
            exact (ih ends.2 data).2 some_data
              ((List.mem_cons.mp mem).resolve_left fun same => uncut same.symm)

/-- As they arrive, lines have no more groups, and as many only if events end as they should. -/
lemma ends_of_groups (lines : List.Forall₂ LineOf ls vs) :
    ((cur = [] ↔ cur' = []) →
      (withData (groups cur ls)).length ≤ (withData (groups cur' vs)).length ∧
      ((withData (groups cur ls)).length = (withData (groups cur' vs)).length →
        EventsEnd ls ∧ (cur ≠ [] → ['\r'] ∈ afterData ls → [] ∈ afterData ls))) ∧
    (cur ≠ [] →
      (withData (groups cur ls)).length ≤ (withData (groups [] vs)).length + 1 ∧
      ((withData (groups cur ls)).length = (withData (groups [] vs)).length + 1 →
        EventsEnd ls ∧ [] ∈ afterData ls)) := by
  induction lines generalizing cur cur' with
  | nil =>
    refine ⟨fun _ => ⟨le_refl _, fun _ => ⟨trivial, fun _ mem => absurd mem List.not_mem_nil⟩⟩,
      fun _ => ⟨Nat.zero_le _, fun same => ?_⟩⟩
    cases same
  | @cons l v ls vs line _ ih =>
    have blank := line.blank
    by_cases uncut : l = []
    · subst uncut
      obtain rfl := blank.mpr (.inl rfl)
      obtain ⟨fewer, ends⟩ := (@ih [] []).1 Iff.rfl
      have here : [] ∈ afterData ([] :: ls) := by
        rw [afterData_other rfl]
        exact List.mem_cons_self
      have noData : isData [] = true → ['\r'] ∈ afterData ls → [] ∈ afterData ls := nofun
      rw [groups, if_pos rfl, groups, if_pos rfl, groups, if_pos rfl, withData_nil]
      constructor
      · intro same
        by_cases none : cur = []
        · rw [none, same.mp none, withData_nil, withData_nil]
          exact ⟨fewer, fun equal => ⟨⟨noData, (ends equal).1⟩, fun some_data => absurd rfl some_data⟩⟩
        · rw [withData_cons none, withData_cons fun none' => none (same.mpr none')]
          exact ⟨Nat.succ_le_succ fewer, fun equal =>
            ⟨⟨noData, (ends (Nat.succ.inj equal)).1⟩, fun _ _ => here⟩⟩
      · intro some_data
        rw [withData_cons some_data]
        exact ⟨Nat.succ_le_succ fewer, fun equal => ⟨⟨noData, (ends (Nat.succ.inj equal)).1⟩, here⟩⟩
    · by_cases cut : l = ['\r']
      · subst cut
        obtain rfl := blank.mpr (.inr rfl)
        have quiet : dataOf ['\r'] = [] := dataOf_other rfl
        have noData : isData ['\r'] = true → ['\r'] ∈ afterData ls → [] ∈ afterData ls := nofun
        rw [afterData_other rfl, groups, if_neg uncut, quiet, List.append_nil, groups, if_pos rfl, groups,
          if_pos rfl, withData_nil]
        constructor
        · intro same
          by_cases none : cur = []
          · rw [none, same.mp none, withData_nil]
            obtain ⟨fewer, ends⟩ := (@ih [] []).1 Iff.rfl
            exact ⟨fewer, fun equal => ⟨⟨noData, (ends equal).1⟩, fun some_data => absurd rfl some_data⟩⟩
          · rw [withData_cons fun none' => none (same.mpr none')]
            obtain ⟨fewer, ends⟩ := (@ih cur []).2 none
            exact ⟨fewer, fun equal => ⟨⟨noData, (ends equal).1⟩,
              fun _ _ => List.mem_cons_of_mem _ (ends equal).2⟩⟩
        · intro some_data
          obtain ⟨fewer, ends⟩ := (@ih cur []).2 some_data
          exact ⟨fewer, fun equal => ⟨⟨noData, (ends equal).1⟩, List.mem_cons_of_mem _ (ends equal).2⟩⟩
      · have marked : v ≠ [] := fun none => (blank.mp none).elim uncut cut
        rw [groups, if_neg uncut, groups, if_neg marked, groups, if_neg marked]
        cases kind : isData l with
        | true =>
          have more : cur ++ dataOf l ≠ [] := List.append_ne_nil_of_right_ne_nil _ (dataOf_data kind)
          have kind' : isData v = true := line.isData ▸ kind
          have more' {ds : List (List Char)} : ds ++ dataOf v ≠ [] :=
            List.append_ne_nil_of_right_ne_nil _ (dataOf_data kind')
          have both (ds : List (List Char)) : cur ++ dataOf l = [] ↔ ds ++ dataOf v = [] :=
            iff_of_false more more'
          constructor
          · intro _
            obtain ⟨fewer, ends⟩ := ih.1 (both cur')
            refine ⟨fewer, fun equal => ⟨⟨fun _ => (ends equal).2 more, (ends equal).1⟩, fun _ mem => ?_⟩⟩
            rw [afterData_data kind] at mem
            cases mem
          · intro _
            obtain ⟨fewer, _⟩ := ih.1 (both [])
            exact ⟨fewer.trans (Nat.le_succ _), fun equal => by omega⟩
        | false =>
          have quiet : dataOf v = [] := dataOf_other (line.isData ▸ kind)
          rw [dataOf_other kind, quiet, List.append_nil, List.append_nil, List.append_nil,
            afterData_other kind]
          have noData : isData l = true → ['\r'] ∈ afterData ls → [] ∈ afterData ls :=
            fun data => absurd (kind.symm.trans data) Bool.false_ne_true
          constructor
          · intro same
            obtain ⟨fewer, ends⟩ := ih.1 same
            refine ⟨fewer, fun equal => ⟨⟨noData, (ends equal).1⟩, fun some_data mem => ?_⟩⟩
            have mem := (List.mem_cons.mp mem).resolve_left fun same => cut same.symm
            exact List.mem_cons_of_mem _ ((ends equal).2 some_data mem)
          · intro some_data
            obtain ⟨fewer, ends⟩ := (@ih cur []).2 some_data
            exact ⟨fewer, fun equal => ⟨⟨noData, (ends equal).1⟩, List.mem_cons_of_mem _ (ends equal).2⟩⟩

end Ends

section Output
variable {ε : Type} {envelope : Token → List Token → Option ε} {gs ws : List (List (List Char))}

lemma parseData_ne_nil {data : List Char} {event : ε} (parsed : parseData envelope data = some event) :
    data.length > 0 := by
  cases data with
  | nil => cases parsed
  | cons _ _ => exact Nat.succ_pos _

lemma yieldGroups_congr (groups : List.Forall₂ (List.Forall₂ DataOf) gs ws)
    (parsed : ∀ w ∈ ws, ∃ event, parseData envelope (joinLines w) = some event) :
    yieldGroups envelope gs = yieldGroups envelope ws := by
  induction groups with
  | nil => rfl
  | @cons g w gs ws first _ ih =>
    obtain ⟨event, is⟩ := parsed w List.mem_cons_self
    have is' : parseData envelope (joinLines g) = some event := by
      rw [parseData, tokensOf_joinLines first]
      exact is
    rw [yieldGroups, yieldGroups, if_pos (parseData_ne_nil is), if_pos (parseData_ne_nil is'), is, is',
      ih fun w mem => parsed w (List.mem_cons_of_mem _ mem)]

lemma length_yieldGroups_le : (yieldGroups envelope gs).events.length ≤ gs.length := by
  induction gs with
  | nil => exact le_refl _
  | cons g gs ih =>
    rw [yieldGroups]
    split
    · split
      · exact Nat.zero_le _
      · exact Nat.succ_le_succ ih
    · exact ih.trans (Nat.le_succ _)

lemma length_yieldGroups (parsed : ∀ w ∈ ws, ∃ event, parseData envelope (joinLines w) = some event) :
    (yieldGroups envelope ws).events.length = ws.length := by
  induction ws with
  | nil => rfl
  | cons w ws ih =>
    obtain ⟨event, is⟩ := parsed w List.mem_cons_self
    rw [yieldGroups, if_pos (parseData_ne_nil is), is]
    exact congrArg (· + 1) (ih fun w mem => parsed w (List.mem_cons_of_mem _ mem))

/-- A stream whose line ends are LF or CRLF, and the data of each of whose events is an event. -/
structure ValidStream (envelope : Token → List Token → Option ε) (bytes : List UInt8) : Prop where
  lineEnds : Paired (Utf8.decode bytes)
  events : ∀ g ∈ groups [] (endedLines (unifyLineEnds (Utf8.decode bytes))), g ≠ [] →
    ∃ event, parseData envelope (joinLines g) = some event

variable {bytes : List UInt8} {chunks : List (List UInt8)}

lemma received_whole : received [bytes] = unifyLineEnds (Utf8.decode bytes) :=
  List.append_nil _

/-- The lines of a stream in pieces, and of the whole stream. -/
lemma received_lines (valid : Paired (Utf8.decode bytes)) (split : chunks.flatten = bytes) :
    List.Forall₂ LineOf (endedLines (received chunks)) (endedLines (received [bytes])) := by
  have text : (({} : Utf8.Decoder).pieces chunks).flatten = Utf8.decode bytes := by
    rw [Utf8.flatten_pieces, split]
    rfl
  have unified : Unified (received chunks) (Utf8.decode bytes) := by
    rw [← text] at valid ⊢
    exact unified_flatMap valid
  rw [received_whole]
  exact forall₂_dropLast unified.lines

lemma parsed_groups (valid : ValidStream envelope bytes) :
    ∀ w ∈ withData (groups [] (endedLines (received [bytes]))),
      ∃ event, parseData envelope (joinLines w) = some event := by
  intro w mem
  obtain ⟨mem, some_data⟩ := List.mem_filter.mp mem
  rw [received_whole] at mem
  exact valid.events w mem (of_decide_eq_true some_data)

/-- If the pieces give what the whole stream gives, then events end in the pieces. -/
lemma ends_of_same (valid : ValidStream envelope bytes) (split : chunks.flatten = bytes)
    (same : parseEventStream envelope chunks = parseEventStream envelope [bytes]) :
    EventsEnd (endedLines (received chunks)) := by
  rw [parseEventStream_groups, parseEventStream_groups] at same
  have none : ([] : List (List Char)) = [] ↔ ([] : List (List Char)) = [] := Iff.rfl
  obtain ⟨fewer, ends⟩ := (ends_of_groups (received_lines valid.lineEnds split)).1 none
  refine (ends (le_antisymm fewer ?_)).1
  rw [← length_yieldGroups (parsed_groups valid), ← same]
  exact length_yieldGroups_le

/-- A valid stream gives the same events in pieces exactly if after every line with data, up to the next one,
not all blank lines are cut in their line ends. -/
theorem parseEventStream_chunks_iff (envelope : Token → List Token → Option ε) {bytes : List UInt8}
    {chunks : List (List UInt8)} (valid : ValidStream envelope bytes) (split : chunks.flatten = bytes) :
    parseEventStream envelope chunks = parseEventStream envelope [bytes] ↔
      EventsEnd (endedLines (received chunks)) := by
  refine ⟨ends_of_same valid split, fun ends => ?_⟩
  rw [parseEventStream_groups, parseEventStream_groups]
  have related := (groups_of_ends (received_lines valid.lineEnds split) ends List.Forall₂.nil).1
    fun none => absurd rfl none
  exact yieldGroups_congr related (parsed_groups valid)

/-- Two events, with line ends of two characters. -/
def twoEvents : List UInt8 :=
  "data: 1\r\n\r\ndata: 2\r\n\r\n".toList.map fun c => UInt8.ofNat c.toNat

/-- An event is a single token. -/
def singleToken (token : Token) (tokens : List Token) : Option Token :=
  if tokens = [] then some token else none

lemma twoEvents_valid : ValidStream singleToken twoEvents where
  lineEnds := by
    have text : Utf8.decode twoEvents = "data: 1\r\n\r\ndata: 2\r\n\r\n".toList := by decide
    rw [text]
    simp [Paired]
  events := by
    have data : groups [] (endedLines (unifyLineEnds (Utf8.decode twoEvents))) = [[['1']], [['2']]] := by
      decide
    rw [data]
    intro g mem _
    simp only [List.mem_cons, List.not_mem_nil, or_false] at mem
    rcases mem with rfl | rfl
    · exact ⟨.word ['1'], by decide⟩
    · exact ⟨.word ['2'], by decide⟩

/-- The line end of a line of data may be cut. -/
theorem parseEventStream_cut_inside :
    parseEventStream singleToken [twoEvents.take 8, twoEvents.drop 8] =
        parseEventStream singleToken [twoEvents] ↔
      EventsEnd (endedLines (received [twoEvents.take 8, twoEvents.drop 8])) :=
  parseEventStream_chunks_iff singleToken twoEvents_valid (by decide)

/-- Where the line end of the blank line is cut, two events become one text. -/
theorem blankLine_cut_merges :
    ¬ ∀ (ε : Type) (envelope : Token → List Token → Option ε) (bytes : List UInt8)
      (chunks : List (List UInt8)), ValidStream envelope bytes → chunks.flatten = bytes →
        parseEventStream envelope chunks = parseEventStream envelope [bytes] := by
  intro independent
  have split : [twoEvents.take 10, twoEvents.drop 10].flatten = twoEvents := by decide
  have ends := ends_of_same twoEvents_valid split (independent _ _ _ _ twoEvents_valid split)
  have lines : endedLines (received [twoEvents.take 10, twoEvents.drop 10]) =
      ["data: 1".toList, ['\r'], "data: 2".toList, []] := by
    decide
  rw [lines] at ends
  have blank := ends.1 (by decide) (by decide)
  exact absurd blank (by decide)

end Output

end AtomsPlatform.Workspace
