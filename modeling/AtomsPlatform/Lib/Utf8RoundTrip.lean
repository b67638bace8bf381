import AtomsPlatform.Lib.Utf8

/-!
# Texts that are encoded and decoded

The decoder reads back what `String.utf8EncodeChar` writes. Where the bytes stop within a character, the
characters before it are read.
-/

namespace Utf8
variable {d : Decoder} {c : Char} {cs : List Char}

/-- The bytes of a text. -/
def encode (cs : List Char) : List UInt8 :=
  cs.flatMap String.utf8EncodeChar

lemma step_first {byte : UInt8} (first : d.bytesNeeded = 0) : d.step byte = d.lead byte.toNat :=
  if_pos first

/-- A byte that continues a character, and is not its last one. -/
lemma step_next {byte : UInt8} {n : Nat} (is : byte.toNat = n) (within : d.bytesNeeded ≠ 0) (low : d.lower ≤ n)
    (high : n ≤ d.upper) (more : d.bytesSeen + 1 ≠ d.bytesNeeded) :
    d.step byte = ({ d.reset with
      codePoint := d.codePoint * 0x40 + n % 0x40
      bytesSeen := d.bytesSeen + 1
      bytesNeeded := d.bytesNeeded }, []) := by
  subst is
  have continues : ¬(byte.toNat < d.lower ∨ d.upper < byte.toNat) := by omega
  unfold Decoder.step
  rw [if_neg within, if_neg continues, if_neg more]

/-- The last byte of a character. -/
lemma step_last {byte : UInt8} {n : Nat} (is : byte.toNat = n) (within : d.bytesNeeded ≠ 0) (low : d.lower ≤ n)
    (high : n ≤ d.upper) (last : d.bytesSeen + 1 = d.bytesNeeded) :
    d.step byte = d.emit (Char.ofNat (d.codePoint * 0x40 + n % 0x40)) := by
  subst is
  have continues : ¬(byte.toNat < d.lower ∨ d.upper < byte.toNat) := by omega
  unfold Decoder.step
  rw [if_neg within, if_neg continues, if_pos last]

lemma toNat_ofNat {n : Nat} (small : n < 256) : (UInt8.ofNat n).toNat = n := by
  rw [UInt8.toNat_ofNat']
  exact Nat.mod_eq_of_lt small

lemma step_ascii {byte : UInt8} {n : Nat} (is : byte.toNat = n) (first : d.bytesNeeded = 0) (small : n ≤ 0x7F) :
    d.step byte = d.emit (Char.ofNat n) := by
  subst is
  rw [step_first first]
  exact if_pos small

lemma step_two {byte : UInt8} {n : Nat} (is : byte.toNat = n) (first : d.bytesNeeded = 0) (low : 0xC2 ≤ n)
    (high : n ≤ 0xDF) :
    d.step byte = ({ d.reset with bytesNeeded := 1, codePoint := n % 0x20 }, []) := by
  subst is
  rw [step_first first]
  unfold Decoder.lead
  rw [if_neg (by omega), if_pos ⟨low, high⟩]

lemma step_three {byte : UInt8} {n : Nat} (is : byte.toNat = n) (first : d.bytesNeeded = 0) (low : 0xE0 ≤ n)
    (high : n ≤ 0xEF) :
    d.step byte = ({ d.reset with
      bytesNeeded := 2
      codePoint := n % 0x10
      lower := if n = 0xE0 then 0xA0 else 0x80
      upper := if n = 0xED then 0x9F else 0xBF }, []) := by
  subst is
  rw [step_first first]
  unfold Decoder.lead
  rw [if_neg (by omega), if_neg (by omega), if_pos ⟨low, high⟩]

lemma step_four {byte : UInt8} {n : Nat} (is : byte.toNat = n) (first : d.bytesNeeded = 0) (low : 0xF0 ≤ n)
    (high : n ≤ 0xF4) :
    d.step byte = ({ d.reset with
      bytesNeeded := 3
      codePoint := n % 0x08
      lower := if n = 0xF0 then 0x90 else 0x80
      upper := if n = 0xF4 then 0x8F else 0xBF }, []) := by
  subst is
  rw [step_first first]
  unfold Decoder.lead
  rw [if_neg (by omega), if_neg (by omega), if_neg (by omega), if_pos ⟨low, high⟩]

/-- A scalar value is not a surrogate. -/
lemma scalar (c : Char) : c.toNat < 0xD800 ∨ 0xDFFF < c.toNat ∧ c.toNat < 0x110000 :=
  c.valid

/-- The parts of a character: the decoder is silent on all its bytes but the last one, which puts the
    character out. -/
structure Reads (d : Decoder) (c : Char) (bytes : List UInt8) : Prop where
  whole : d.feed bytes = ({ started := true }, [c])
  part : ∀ n < bytes.length, (d.feed (bytes.take n)).2 = []

/-- A byte on which the decoder is silent. -/
lemma Reads.cons {byte : UInt8} {bytes : List UInt8} {d' : Decoder} (silent : d.step byte = (d', []))
    (reads : Reads d' c bytes) : Reads d c (byte :: bytes) where
  whole := by
    rw [feed_cons, silent, reads.whole]
    rfl
  part := by
    intro n lt
    cases n with
    | zero => rfl
    | succ n =>
      rw [List.take_succ_cons, feed_cons, silent]
      exact reads.part n (Nat.lt_of_succ_lt_succ lt)

/-- The byte that completes a character. -/
lemma Reads.single {byte : UInt8} (completes : d.step byte = ({ started := true }, [c])) :
    Reads d c [byte] where
  whole := by
    rw [feed_cons, completes]
    rfl
  part := by
    intro n lt
    have zero : n = 0 := Nat.lt_one_iff.mp lt
    subst zero
    rfl

/-- A character is put out, unless it is taken for a byte order mark. -/
lemma emit_eq {n : Nat} (is : n = c.toNat) (mark : d.started = false → c ≠ Char.ofNat 0xFEFF) :
    d.emit (Char.ofNat n) = ({ started := true }, [c]) := by
  have kept : ¬(d.started = false ∧ c = Char.ofNat 0xFEFF) := fun both => mark both.1 both.2
  rw [is, Char.ofNat_toNat, Decoder.emit, if_neg kept]

/-- The last byte of a character. -/
lemma Reads.last {byte : UInt8} {n : Nat} (is : byte.toNat = n) (needed : d.bytesNeeded = d.bytesSeen + 1)
    (low : d.lower ≤ n) (high : n ≤ d.upper) (point : d.codePoint * 0x40 + n % 0x40 = c.toNat)
    (mark : d.started = false → c ≠ Char.ofNat 0xFEFF) : Reads d c [byte] := by
  apply Reads.single
  rw [step_last is (by rw [needed]; exact Nat.succ_ne_zero _) low high needed.symm]
  exact emit_eq point mark

/-- The decoder reads the bytes of a character. -/
lemma reads_char (first : d.bytesNeeded = 0) (mark : d.started = false → c ≠ Char.ofNat 0xFEFF) :
    Reads d c (String.utf8EncodeChar c) := by
  have bounds := scalar c
  unfold String.utf8EncodeChar
  have value : c.val.toNat = c.toNat := rfl
  simp only [value]
  split
  · rename_i small
    apply Reads.single
    rw [step_ascii (toNat_ofNat (by omega)) first small]
    exact emit_eq rfl mark
  split
  · rename_i large small
    refine .cons (step_two (toNat_ofNat (by omega)) first (by omega) (by omega))
      (.last (toNat_ofNat (by omega)) rfl ?_ ?_ ?_ mark)
    · show 0x80 ≤ _
      omega
    · show _ ≤ 0xBF
      omega
    · show (c.toNat / 64 % 32 + 192) % 0x20 * 0x40 + (c.toNat % 64 + 128) % 0x40 = c.toNat
      omega
  split
  · rename_i larger large small
    refine .cons (step_three (toNat_ofNat (by omega)) first (by omega) (by omega))
      (.cons (step_next (toNat_ofNat (by omega)) (Nat.succ_ne_zero _) ?_ ?_ (show 0 + 1 ≠ 2 by decide))
        (.last (toNat_ofNat (by omega)) rfl ?_ ?_ ?_ mark))
    · show (if _ then 0xA0 else 0x80) ≤ _
      split <;> omega
    · show _ ≤ if _ then 0x9F else 0xBF
      split <;> omega
    · show 0x80 ≤ _
      omega
    · show _ ≤ 0xBF
      omega
    · show ((c.toNat / 4096 % 16 + 224) % 0x10 * 0x40 + (c.toNat / 64 % 64 + 128) % 0x40) * 0x40 +
        (c.toNat % 64 + 128) % 0x40 = c.toNat
      omega
  · rename_i largest larger large
    refine .cons (step_four (toNat_ofNat (by omega)) first (by omega) (by omega))
      (.cons (step_next (toNat_ofNat (by omega)) (Nat.succ_ne_zero _) ?_ ?_ (show 0 + 1 ≠ 3 by decide))
        (.cons (step_next (toNat_ofNat (by omega)) (Nat.succ_ne_zero _) ?_ ?_ (show 1 + 1 ≠ 3 by decide))
          (.last (toNat_ofNat (by omega)) rfl ?_ ?_ ?_ mark)))
    · show (if _ then 0x90 else 0x80) ≤ _
      split <;> omega
    · show _ ≤ if _ then 0x8F else 0xBF
      split <;> omega
    · show 0x80 ≤ _
      omega
    · show _ ≤ 0xBF
      omega
    · show 0x80 ≤ _
      omega
    · show _ ≤ 0xBF
      omega
    · show (((c.toNat / 262144 % 8 + 240) % 0x08 * 0x40 + (c.toNat / 4096 % 64 + 128) % 0x40) * 0x40 +
        (c.toNat / 64 % 64 + 128) % 0x40) * 0x40 + (c.toNat % 64 + 128) % 0x40 = c.toNat
      omega

/-- What is read of the first bytes of a text: the characters whose bytes are all there. -/
theorem feed_encode_take {n : Nat} (ready : d.bytesNeeded = 0)
    (mark : d.started = false → cs.head? ≠ some (Char.ofNat 0xFEFF)) :
    ∃ k ≤ cs.length, (d.feed ((encode cs).take n)).2 = cs.take k ∧ (encode (cs.take k)).length ≤ n ∧
      (k < cs.length → n < (encode (cs.take (k + 1))).length) := by
  induction cs generalizing d n with
  | nil => exact ⟨0, Nat.le_refl _, by rw [encode, List.flatMap_nil, List.take_nil]; rfl, Nat.zero_le _, nofun⟩
  | cons c cs ih =>
    have reads : Reads d c (String.utf8EncodeChar c) :=
      reads_char ready fun start is => mark start (congrArg some is)
    have bytes : encode (c :: cs) = String.utf8EncodeChar c ++ encode cs := List.flatMap_cons
    by_cases whole : (String.utf8EncodeChar c).length ≤ n
    · obtain ⟨k, le, read, within, next⟩ :=
        @ih { started := true } (n - (String.utf8EncodeChar c).length) rfl nofun
      refine ⟨k + 1, Nat.succ_le_succ le, ?_, ?_, fun lt => ?_⟩
      · rw [bytes, List.take_append, List.take_of_length_le whole, feed_append, reads.whole, read]
        rfl
      · rw [List.take_succ_cons, encode, List.flatMap_cons, List.length_append]
        rw [encode] at within
        omega
      · have next := next (Nat.lt_of_succ_lt_succ lt)
        rw [List.take_succ_cons, encode, List.flatMap_cons, List.length_append]
        rw [encode] at next
        omega
    · have lt : n < (String.utf8EncodeChar c).length := Nat.lt_of_not_le whole
      refine ⟨0, Nat.zero_le _, ?_, Nat.zero_le _, fun _ => ?_⟩
      · rw [bytes, List.take_append_of_le_length (Nat.le_of_lt lt), reads.part n lt]
        rfl
      · rw [List.take_succ_cons, List.take_zero, encode, List.flatMap_cons, List.flatMap_nil, List.append_nil]
        exact lt

end Utf8
