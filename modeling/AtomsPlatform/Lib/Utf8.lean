import Mathlib.Data.List.Basic

/-!
# Decoding UTF-8 in pieces

The decoder of the WHATWG encoding standard, as a machine on single bytes: what it has read so far of a
character is its state, so bytes may arrive in pieces of any size. Bytes that are no character become the
replacement character, and a byte order mark at the start is dropped.
-/

namespace Utf8

/-- What was read of a character, and whether the start of the text has passed. -/
structure Decoder where
  codePoint : Nat := 0
  bytesSeen : Nat := 0
  bytesNeeded : Nat := 0
  lower : Nat := 0x80
  upper : Nat := 0xBF
  started : Bool := false
deriving DecidableEq, Repr

/-- The replacement character. -/
def replacement : Char := Char.ofNat 0xFFFD

/-- The decoder between two characters. -/
def Decoder.reset (d : Decoder) : Decoder :=
  { started := d.started }

/-- A character is put out, unless it is a byte order mark at the start. -/
def Decoder.emit (d : Decoder) (c : Char) : Decoder × List Char :=
  ({ started := true }, if d.started = false ∧ c = Char.ofNat 0xFEFF then [] else [c])

/-- The first byte of a character. -/
def Decoder.lead (d : Decoder) (byte : Nat) : Decoder × List Char :=
  if byte ≤ 0x7F then d.emit (Char.ofNat byte)
  else if 0xC2 ≤ byte ∧ byte ≤ 0xDF then
    ({ d.reset with bytesNeeded := 1, codePoint := byte % 0x20 }, [])
  else if 0xE0 ≤ byte ∧ byte ≤ 0xEF then
    ({ d.reset with
        bytesNeeded := 2
        codePoint := byte % 0x10
        lower := if byte = 0xE0 then 0xA0 else 0x80
        upper := if byte = 0xED then 0x9F else 0xBF }, [])
  else if 0xF0 ≤ byte ∧ byte ≤ 0xF4 then
    ({ d.reset with
        bytesNeeded := 3
        codePoint := byte % 0x08
        lower := if byte = 0xF0 then 0x90 else 0x80
        upper := if byte = 0xF4 then 0x8F else 0xBF }, [])
  else d.emit replacement

/-- One byte. A byte that does not continue a character ends it, and is read as a first byte. -/
def Decoder.step (d : Decoder) (byte : UInt8) : Decoder × List Char :=
  let byte := byte.toNat
  if d.bytesNeeded = 0 then d.lead byte
  else if byte < d.lower ∨ d.upper < byte then
    let (d, cs) := d.emit replacement
    let (d, cs') := d.lead byte
    (d, cs ++ cs')
  else
    let codePoint := d.codePoint * 0x40 + byte % 0x40
    if d.bytesSeen + 1 = d.bytesNeeded then d.emit (Char.ofNat codePoint)
    else
      ({ d.reset with
          codePoint
          bytesSeen := d.bytesSeen + 1
          bytesNeeded := d.bytesNeeded }, [])

/-- The bytes of a piece. -/
def Decoder.feed (d : Decoder) : List UInt8 → Decoder × List Char
  | [] => (d, [])
  | byte :: bytes =>
    let (d, cs) := d.step byte
    let (d, cs') := d.feed bytes
    (d, cs ++ cs')

/-- What each of several pieces gives. -/
def Decoder.pieces (d : Decoder) : List (List UInt8) → List (List Char)
  | [] => []
  | chunk :: chunks => (d.feed chunk).2 :: (d.feed chunk).1.pieces chunks

/-- The text of some bytes. -/
def decode (bytes : List UInt8) : List Char :=
  (({} : Decoder).feed bytes).2

variable {d : Decoder}

lemma feed_cons {byte : UInt8} {bytes : List UInt8} :
    d.feed (byte :: bytes) =
      (((d.step byte).1.feed bytes).1, (d.step byte).2 ++ ((d.step byte).1.feed bytes).2) :=
  rfl

lemma feed_append {bytes bytes' : List UInt8} :
    d.feed (bytes ++ bytes') =
      (((d.feed bytes).1.feed bytes').1, (d.feed bytes).2 ++ ((d.feed bytes).1.feed bytes').2) := by
  induction bytes generalizing d with
  | nil => rfl
  | cons byte bytes ih => rw [List.cons_append, feed_cons, ih, feed_cons, List.append_assoc]

/-- The text does not depend on the pieces. -/
lemma flatten_pieces {chunks : List (List UInt8)} :
    (d.pieces chunks).flatten = (d.feed chunks.flatten).2 := by
  induction chunks generalizing d with
  | nil => rfl
  | cons chunk chunks ih =>
    rw [Decoder.pieces, List.flatten_cons, ih, List.flatten_cons, feed_append]

end Utf8
