import AtomsPlatform.Lib.Utf8RoundTrip
import AtomsPlatform.Workspace.EventStream

/-!
# Frames of the event stream

The control API writes each event as three lines and a blank line, and now and then a comment. However the
bytes are cut into chunks, and wherever they stop, the browser reads the events of the frames that have
arrived as a whole, and nothing of the frame that has not (`parseEventStream_frames`).
-/

namespace AtomsPlatform.Workspace
variable {ε : Type} {envelope : Token → List Token → Option ε}

section Source

/-- A text on one line. -/
structure LineText where
  text : List Char
  unbroken : ∀ c ∈ text, c ≠ '\n' ∧ c ≠ '\r'

lemma unbroken_of_all {text : List Char} (all : (text.all fun c => c ≠ '\n' ∧ c ≠ '\r') = true) :
    ∀ c ∈ text, c ≠ '\n' ∧ c ≠ '\r' :=
  fun c mem => of_decide_eq_true (List.all_eq_true.mp all c mem)

/-- What `JSON.stringify` makes of an envelope: an object, on one line. -/
structure JsonText extends LineText where
  object : text.head? = some '{'

/-- What the control API writes at a time: an event, or a heartbeat with its time. -/
inductive Frame where
  | event (sequence : Nat) (eventType : LineText) (data : JsonText)
  | heartbeat (time : Nat)

/-- The lines of a frame. -/
def Frame.lines : Frame → List (List Char)
  | .event sequence eventType data =>
    [['i', 'd', ':', ' '] ++ Nat.toDigits 10 sequence,
      ['e', 'v', 'e', 'n', 't', ':', ' '] ++ eventType.text,
      ['d', 'a', 't', 'a', ':', ' '] ++ data.text]
  | .heartbeat time => [[':', ' ', 'h', 'e', 'a', 'r', 't', 'b', 'e', 'a', 't', ' '] ++ Nat.toDigits 10 time]

/-- The text of a frame before its blank line. -/
def Frame.body (frame : Frame) : List Char :=
  joinLines frame.lines

/-- Source `reply.raw.write`: the text of a frame. -/
def Frame.text (frame : Frame) : List Char :=
  frame.body ++ ['\n', '\n']

/-- The bytes of a stream. -/
def streamBytes (frames : List Frame) : List UInt8 :=
  Utf8.encode (frames.flatMap Frame.text)

/-- Two events of a run. -/
def interrupted : List Frame :=
  let data : JsonText := { text := ['{', '}'], unbroken := unbroken_of_all (by decide), object := rfl }
  [.event 1 { text := "run.queued".toList, unbroken := unbroken_of_all (by decide) } data,
    .event 2 { text := "run.completed".toList, unbroken := unbroken_of_all (by decide) } data]

/-- The events of frames, up to the first one that is none. -/
def yieldFrames (envelope : Token → List Token → Option ε) : List Frame → Output ε
  | [] => {}
  | .heartbeat _ :: frames => yieldFrames envelope frames
  | .event _ _ data :: frames =>
    match parseData envelope data.text with
    | none => { failed := true }
    | some event =>
      let more := yieldFrames envelope frames
      { more with events := event :: more.events }

end Source

section Blocks
variable {l x body rest : List Char} {c : Char}

/-- There is no blank line in a line. -/
lemma splitBlock_line (unbroken : ∀ c ∈ l, c ≠ '\n') :
    splitBlock (l ++ x) = (splitBlock x).map fun parts => (l ++ parts.1, parts.2) := by
  induction l with
  | nil =>
    rw [List.nil_append]
    cases splitBlock x with
    | none => rfl
    | some parts => rfl
  | cons c l ih =>
    have other : ∀ rest, c = '\n' → l ++ x = '\n' :: rest → False := fun _ is _ =>
      unbroken c List.mem_cons_self is
    rw [List.cons_append, splitBlock, ih fun c mem => unbroken c (List.mem_cons_of_mem _ mem), Option.map_map]
    · rfl
    · exact other

/-- A line end before another character. -/
lemma splitBlock_newline (other : c ≠ '\n') :
    splitBlock ('\n' :: c :: x) = (splitBlock (c :: x)).map fun parts => ('\n' :: parts.1, parts.2) := by
  rw [splitBlock]
  intro rest _ is
  exact other (List.cons.inj is).1

/-- A text that has no blank line yet, followed by one. -/
lemma splitBlock_end (quiet : splitBlock (body ++ ['\n']) = none) :
    splitBlock (body ++ '\n' :: '\n' :: rest) = some (body, rest) := by
  induction body with
  | nil => rfl
  | cons c body ih =>
    have other : ∀ rest', c = '\n' → body ++ '\n' :: '\n' :: rest = '\n' :: rest' → False := by
      intro rest' is begins
      subst is
      cases body with
      | nil => cases quiet
      | cons d body =>
        have is : d = '\n' := (List.cons.inj begins).1
        subst is
        cases quiet
    have quiet' : ∀ rest', c = '\n' → body ++ ['\n'] = '\n' :: rest' → False := by
      intro rest' is begins
      subst is
      rw [List.cons_append, begins] at quiet
      cases quiet
    have inner : splitBlock (body ++ ['\n']) = none := by
      rw [List.cons_append, splitBlock] at quiet
      · exact Option.map_eq_none_iff.mp quiet
      · exact quiet'
    rw [List.cons_append, splitBlock, ih inner]
    · rfl
    · exact other

/-- There is no blank line in the first part of a text without one. -/
lemma splitBlock_first {y : List Char} (quiet : splitBlock (x ++ y) = none) : splitBlock x = none := by
  cases found : splitBlock x with
  | none => rfl
  | some parts =>
    have still := splitBlock_append (y := y) found
    cases quiet.symm.trans still

lemma splitLines_line (unbroken : ∀ c ∈ l, c ≠ '\n') : splitLines l = [l] := by
  induction l with
  | nil => rfl
  | cons c l ih =>
    exact splitLines_cons (unbroken c List.mem_cons_self)
      (ih fun c mem => unbroken c (List.mem_cons_of_mem _ mem))

/-- Without a CR there is nothing to unify. -/
lemma unifyLineEnds_self (none : '\r' ∉ x) : unifyLineEnds x = x := by
  induction x with
  | nil => rfl
  | cons c x ih =>
    rw [unifyLineEnds_cons fun is => none (is ▸ List.mem_cons_self),
      ih fun mem => none (List.mem_cons_of_mem _ mem)]

end Blocks

section Lines
variable {ls : List (List Char)}

/-- Lines that are not empty. -/
def AreLines (ls : List (List Char)) : Prop :=
  ∀ l ∈ ls, (∀ c ∈ l, c ≠ '\n' ∧ c ≠ '\r') ∧ l ≠ []

lemma splitLines_joinLines (lines : AreLines ls) (some_line : ls ≠ []) : splitLines (joinLines ls) = ls := by
  induction ls with
  | nil => exact absurd rfl some_line
  | cons l ls ih =>
    have line := splitLines_line fun c mem => ((lines l List.mem_cons_self).1 c mem).1
    cases ls with
    | nil => exact line
    | cons l' ls =>
      have rest := ih (fun l mem => lines l (List.mem_cons_of_mem _ mem)) (List.cons_ne_nil _ _)
      rw [joinLines, splitLines_append, line, rest]
      · rfl
      · exact List.cons_ne_nil _ _

/-- Lines that are not empty make no blank line, and do not start with one. -/
lemma splitBlock_joinLines (lines : AreLines ls) (some_line : ls ≠ []) :
    splitBlock (joinLines ls ++ ['\n']) = none ∧ ∃ c rest, joinLines ls = c :: rest ∧ c ≠ '\n' := by
  induction ls with
  | nil => exact absurd rfl some_line
  | cons l ls ih =>
    obtain ⟨unbroken, some_char⟩ := lines l List.mem_cons_self
    have unbroken : ∀ c ∈ l, c ≠ '\n' := fun c mem => (unbroken c mem).1
    obtain ⟨c, l, rfl⟩ := List.exists_cons_of_ne_nil some_char
    have first := unbroken c List.mem_cons_self
    cases ls with
    | nil =>
      refine ⟨?_, c, l, rfl, first⟩
      have alone := splitBlock_line (x := ['\n']) unbroken
      exact alone
    | cons l' ls =>
      obtain ⟨quiet, d, rest, is, other⟩ :=
        ih (fun l mem => lines l (List.mem_cons_of_mem _ mem)) (List.cons_ne_nil _ _)
      rw [is, List.cons_append] at quiet
      have joined : joinLines ((c :: l) :: l' :: ls) = c :: l ++ '\n' :: d :: rest := by
        rw [joinLines, is]
        exact List.cons_ne_nil _ _
      refine ⟨?_, c, _, joined, first⟩
      have split : splitBlock ((c :: l) ++ '\n' :: d :: (rest ++ ['\n'])) = none := by
        rw [splitBlock_line unbroken, splitBlock_newline other, quiet]
        rfl
      rw [joined, List.append_assoc]
      exact split

/-- What is in lines is no CR. -/
lemma joinLines_unbroken (lines : AreLines ls) : '\r' ∉ joinLines ls := by
  induction ls with
  | nil => exact nofun
  | cons l ls ih =>
    have own : '\r' ∉ l := fun mem => ((lines l List.mem_cons_self).1 _ mem).2 rfl
    cases ls with
    | nil => exact own
    | cons l' ls =>
      have rest := ih fun l mem => lines l (List.mem_cons_of_mem _ mem)
      rw [joinLines]
      · intro mem
        rcases List.mem_append.mp mem with mem | mem
        · exact own mem
        · rcases List.mem_cons.mp mem with is | mem
          · cases is
          · exact rest mem
      · exact List.cons_ne_nil _ _

end Lines

section Frames
variable {frame : Frame} {frames : List Frame}

lemma digits_unbroken {n : Nat} : ∀ c ∈ Nat.toDigits 10 n, c ≠ '\n' ∧ c ≠ '\r' := by
  intro c mem
  have digit := Nat.isDigit_of_mem_toDigits (by decide) (by decide) mem
  constructor
  · rintro rfl
    cases digit
  · rintro rfl
    cases digit

/-- The lines of a frame are lines. -/
lemma Frame.areLines (frame : Frame) : AreLines frame.lines := by
  intro line mem
  have joined {start l : List Char} (begins : (start.all fun c => c ≠ '\n' ∧ c ≠ '\r') = true)
      (unbroken : ∀ c ∈ l, c ≠ '\n' ∧ c ≠ '\r') : ∀ c ∈ start ++ l, c ≠ '\n' ∧ c ≠ '\r' := by
    intro c mem
    rcases List.mem_append.mp mem with mem | mem
    · exact unbroken_of_all begins c mem
    · exact unbroken c mem
  cases frame with
  | event sequence eventType data =>
    rcases List.mem_cons.mp mem with rfl | mem
    · exact ⟨joined (by decide) digits_unbroken, List.cons_ne_nil _ _⟩
    rcases List.mem_cons.mp mem with rfl | mem
    · exact ⟨joined (by decide) eventType.unbroken, List.cons_ne_nil _ _⟩
    rw [List.mem_singleton.mp mem]
    exact ⟨joined (by decide) data.unbroken, List.cons_ne_nil _ _⟩
  | heartbeat time =>
    rw [List.mem_singleton.mp mem]
    exact ⟨joined (by decide) digits_unbroken, List.cons_ne_nil _ _⟩

lemma Frame.lines_ne_nil (frame : Frame) : frame.lines ≠ [] := by
  cases frame with
  | event => exact nofun
  | heartbeat => exact nofun

/-- The block of a frame has the data of its event. -/
lemma Frame.blockData_body (frame : Frame) :
    blockData frame.body = match frame with
      | .event _ _ data => [data.text]
      | .heartbeat _ => [] := by
  rw [blockData, Frame.body, splitLines_joinLines frame.areLines frame.lines_ne_nil]
  cases frame with
  | event sequence eventType data =>
    have first : dataOf (['i', 'd', ':', ' '] ++ Nat.toDigits 10 sequence) = [] := rfl
    have second : dataOf (['e', 'v', 'e', 'n', 't', ':', ' '] ++ eventType.text) = [] := rfl
    have third : dataOf (['d', 'a', 't', 'a', ':', ' '] ++ data.text) = [trimStart (' ' :: data.text)] := rfl
    obtain ⟨rest, is⟩ : ∃ rest, data.text = '{' :: rest := List.head?_eq_some_iff.mp data.object
    have trimmed : trimStart (' ' :: data.text) = data.text := by
      rw [is]
      rfl
    show dataOf _ ++ (dataOf _ ++ (dataOf _ ++ [])) = [data.text]
    rw [first, second, third, trimmed]
    rfl
  | heartbeat time => rfl

/-- The blocks of frames give their events. -/
lemma yieldBlocks_frames : yieldBlocks envelope {} (frames.map Frame.body) = yieldFrames envelope frames := by
  induction frames with
  | nil => rfl
  | cons frame frames ih =>
    rw [List.map_cons, yieldBlocks, frame.blockData_body]
    cases frame with
    | event sequence eventType data =>
      obtain ⟨rest, is⟩ : ∃ rest, data.text = '{' :: rest := List.head?_eq_some_iff.mp data.object
      have some_data : (joinLines [data.text]).length > 0 := by
        show data.text.length > 0
        rw [is]
        exact Nat.succ_pos _
      rw [if_pos some_data, ih]
      rfl
    | heartbeat time => exact ih

/-- The first frame of a text is its first block. -/
lemma Frame.splitBlock_text (frame : Frame) (rest : List Char) :
    splitBlock (frame.text ++ rest) = some (frame.body, rest) := by
  rw [Frame.text, List.append_assoc]
  exact splitBlock_end (splitBlock_joinLines frame.areLines frame.lines_ne_nil).1

/-- A frame that has not arrived as a whole is no block. -/
lemma Frame.splitBlock_take (frame : Frame) {n : Nat} (part : n < frame.text.length) :
    splitBlock (frame.text.take n) = none := by
  have quiet := (splitBlock_joinLines frame.areLines frame.lines_ne_nil).1
  have is : frame.text = (frame.body ++ ['\n']) ++ ['\n'] := by
    rw [Frame.text, List.append_assoc]
    rfl
  rw [is, List.length_append, List.length_singleton] at part
  rw [is, List.take_append_of_le_length (Nat.le_of_lt_succ part)]
  apply splitBlock_first (y := (frame.body ++ ['\n']).drop n)
  rw [List.take_append_drop]
  exact quiet

/-- The blocks of the first characters of a stream are the frames that are there as a whole. -/
lemma cutBlocks_take {n : Nat} :
    ∃ k ≤ frames.length, (cutBlocks ((frames.flatMap Frame.text).take n)).1 = (frames.take k).map Frame.body ∧
      ((frames.take k).flatMap Frame.text).length ≤ n ∧
      (k < frames.length → n < ((frames.take (k + 1)).flatMap Frame.text).length) := by
  induction frames generalizing n with
  | nil =>
    refine ⟨0, le_refl _, ?_, Nat.zero_le _, nofun⟩
    rw [List.flatMap_nil, List.take_nil, cutBlocks_none rfl]
    rfl
  | cons frame frames ih =>
    rw [List.flatMap_cons]
    by_cases whole : frame.text.length ≤ n
    · obtain ⟨k, le, blocks, within, next⟩ := ih (n := n - frame.text.length)
      refine ⟨k + 1, Nat.succ_le_succ le, ?_, ?_, fun lt => ?_⟩
      · rw [List.take_append, List.take_of_length_le whole, cutBlocks_some (frame.splitBlock_text _), blocks]
        rfl
      · rw [List.take_succ_cons, List.flatMap_cons, List.length_append]
        omega
      · have next := next (Nat.lt_of_succ_lt_succ lt)
        rw [List.take_succ_cons, List.flatMap_cons, List.length_append]
        omega
    · have part : n < frame.text.length := Nat.lt_of_not_le whole
      refine ⟨0, Nat.zero_le _, ?_, Nat.zero_le _, fun _ => ?_⟩
      · rw [List.take_append_of_le_length part.le, cutBlocks_none (frame.splitBlock_take part)]
        rfl
      · rw [List.take_succ_cons, List.take_zero, List.flatMap_cons, List.flatMap_nil, List.append_nil]
        exact part

/-- What arrives has no CR, so that nothing in it is unified. -/
lemma received_eq {chunks : List (List UInt8)} (none : '\r' ∉ (({} : Utf8.Decoder).pieces chunks).flatten) :
    received chunks = (({} : Utf8.Decoder).pieces chunks).flatten := by
  have each : ∀ piece ∈ ({} : Utf8.Decoder).pieces chunks, unifyLineEnds piece = piece := fun piece mem =>
    unifyLineEnds_self fun within => none (List.mem_flatten.mpr ⟨piece, mem, within⟩)
  rw [received, List.flatMap_congr each]
  exact List.flatMap_id

lemma streamText_unbroken : '\r' ∉ frames.flatMap Frame.text := by
  intro mem
  obtain ⟨frame, -, mem⟩ := List.mem_flatMap.mp mem
  rcases List.mem_append.mp mem with mem | mem
  · exact joinLines_unbroken frame.areLines mem
  · revert mem
    decide

/-- The bytes of some frames of a stream are its first bytes. -/
lemma length_streamBytes_mono {x y : List Char} (first : x <+: y) :
    (Utf8.encode x).length ≤ (Utf8.encode y).length := by
  obtain ⟨rest, rfl⟩ := first
  rw [Utf8.encode, Utf8.encode, List.flatMap_append, List.length_append]
  exact Nat.le_add_right _ _

lemma first_frames (k : Nat) : (frames.take k).flatMap Frame.text <+: frames.flatMap Frame.text := by
  refine ⟨(frames.drop k).flatMap Frame.text, ?_⟩
  rw [← List.flatMap_append, List.take_append_drop]

/-- However a stream is cut into chunks, and after whatever byte it stops, the browser reads the events of
    the frames that have arrived as a whole: `k` is the number of frames whose bytes are all there. -/
theorem parseEventStream_frames (envelope : Token → List Token → Option ε) (frames : List Frame) (n : Nat)
    {chunks : List (List UInt8)} (arrived : chunks.flatten = (streamBytes frames).take n) :
    ∃ k ≤ frames.length, parseEventStream envelope chunks = yieldFrames envelope (frames.take k) ∧
      (streamBytes (frames.take k)).length ≤ n ∧
      (k < frames.length → n < (streamBytes (frames.take (k + 1))).length) := by
  have mark : (frames.flatMap Frame.text).head? ≠ some (Char.ofNat 0xFEFF) := by
    cases frames with
    | nil => exact nofun
    | cons frame frames =>
      cases frame with
      | event => exact fun is => absurd (Option.some.inj is) (by decide)
      | heartbeat => exact fun is => absurd (Option.some.inj is) (by decide)
  obtain ⟨m, le, read, within, next⟩ := @Utf8.feed_encode_take {} _ n rfl fun _ => mark
  have text : (({} : Utf8.Decoder).pieces chunks).flatten = (frames.flatMap Frame.text).take m := by
    rw [Utf8.flatten_pieces, arrived]
    exact read
  have none : '\r' ∉ (({} : Utf8.Decoder).pieces chunks).flatten := by
    rw [text]
    exact fun mem => streamText_unbroken (List.mem_of_mem_take mem)
  obtain ⟨k, small, blocks, fits, stops⟩ := @cutBlocks_take frames m
  refine ⟨k, small, ?_, ?_, fun lt => ?_⟩
  · rw [parseEventStream_eq, received_eq none, text, blocks, yieldBlocks_frames]
  · -- the frames that are there are within the characters that are there
    have first : (frames.take k).flatMap Frame.text <+: (frames.flatMap Frame.text).take m := by
      rw [List.prefix_take_iff]
      exact ⟨first_frames k, fits⟩
    exact (length_streamBytes_mono first).trans within
  · -- the next frame is not there, so that the next character is not either
    have beyond := stops lt
    have short : m < (frames.flatMap Frame.text).length := beyond.trans_le (first_frames (k + 1)).length_le
    have last : (frames.flatMap Frame.text).take (m + 1) <+: (frames.take (k + 1)).flatMap Frame.text := by
      apply List.prefix_of_prefix_length_le (List.take_prefix _ _) (first_frames (k + 1))
      rw [List.length_take]
      omega
    exact (next short).trans_le (length_streamBytes_mono last)

/-- The stream stops within its second event, and is cut within the first one. -/
theorem parseEventStream_frames_cut :
    ∃ k ≤ 2,
      parseEventStream (fun _ tokens => some tokens.length)
          [(streamBytes interrupted).take 9, ((streamBytes interrupted).take 45).drop 9] =
        yieldFrames (fun _ tokens => some tokens.length) (interrupted.take k) ∧
      (streamBytes (interrupted.take k)).length ≤ 45 ∧
      (k < 2 → 45 < (streamBytes (interrupted.take (k + 1))).length) :=
  parseEventStream_frames (fun _ tokens => some tokens.length) interrupted 45 (by decide)

end Frames

end AtomsPlatform.Workspace
