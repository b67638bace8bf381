import Mathlib.Data.List.Basic
import Mathlib.Algebra.Group.Nat.Defs

/-!
# SHA-256

The hash function of FIPS 180-4 on lists of bytes, and its digest in hexadecimal. The message is
padded to whole blocks of 64 bytes, and each block is compressed into the chaining state.
-/

namespace Sha256

/-- A word of 32 bits. -/
abbrev Word : Type :=
  BitVec 32

/-- The round constants. -/
def roundConstants : List Word :=
  [0x428a2f98, 0x71374491, 0xb5c0fbcf, 0xe9b5dba5, 0x3956c25b, 0x59f111f1, 0x923f82a4, 0xab1c5ed5,
    0xd807aa98, 0x12835b01, 0x243185be, 0x550c7dc3, 0x72be5d74, 0x80deb1fe, 0x9bdc06a7, 0xc19bf174,
    0xe49b69c1, 0xefbe4786, 0x0fc19dc6, 0x240ca1cc, 0x2de92c6f, 0x4a7484aa, 0x5cb0a9dc, 0x76f988da,
    0x983e5152, 0xa831c66d, 0xb00327c8, 0xbf597fc7, 0xc6e00bf3, 0xd5a79147, 0x06ca6351, 0x14292967,
    0x27b70a85, 0x2e1b2138, 0x4d2c6dfc, 0x53380d13, 0x650a7354, 0x766a0abb, 0x81c2c92e, 0x92722c85,
    0xa2bfe8a1, 0xa81a664b, 0xc24b8b70, 0xc76c51a3, 0xd192e819, 0xd6990624, 0xf40e3585, 0x106aa070,
    0x19a4c116, 0x1e376c08, 0x2748774c, 0x34b0bcb5, 0x391c0cb3, 0x4ed8aa4a, 0x5b9cca4f, 0x682e6ff3,
    0x748f82ee, 0x78a5636f, 0x84c87814, 0x8cc70208, 0x90befffa, 0xa4506ceb, 0xbef9a3f7, 0xc67178f2]

/-- The chaining state. -/
structure State where
  a : Word
  b : Word
  c : Word
  d : Word
  e : Word
  f : Word
  g : Word
  h : Word
deriving DecidableEq, Repr

/-- The state before the first block. -/
def State.initial : State :=
  ⟨0x6a09e667, 0xbb67ae85, 0x3c6ef372, 0xa54ff53a, 0x510e527f, 0x9b05688c, 0x1f83d9ab, 0x5be0cd19⟩

/-- The word by word sum of two states. -/
def State.add (s t : State) : State :=
  ⟨s.a + t.a, s.b + t.b, s.c + t.c, s.d + t.d, s.e + t.e, s.f + t.f, s.g + t.g, s.h + t.h⟩

/-- The words of a state. -/
def State.words (s : State) : List Word :=
  [s.a, s.b, s.c, s.d, s.e, s.f, s.g, s.h]

/-- One round, with its constant and its word of the schedule. -/
def round (s : State) (constant word : Word) : State :=
  let sum₁ := s.e.rotateRight 6 ^^^ s.e.rotateRight 11 ^^^ s.e.rotateRight 25
  let choice := (s.e &&& s.f) ^^^ (~~~ s.e &&& s.g)
  let temp₁ := s.h + sum₁ + choice + constant + word
  let sum₀ := s.a.rotateRight 2 ^^^ s.a.rotateRight 13 ^^^ s.a.rotateRight 22
  let majority := (s.a &&& s.b) ^^^ (s.a &&& s.c) ^^^ (s.b &&& s.c)
  ⟨temp₁ + (sum₀ + majority), s.a, s.b, s.c, s.d + temp₁, s.e, s.f, s.g⟩

/-- The next word of a schedule, from its last sixteen. -/
def scheduled (window : List Word) : Word :=
  let w (i : Nat) : Word := window.getD i 0
  let s₀ := (w 1).rotateRight 7 ^^^ (w 1).rotateRight 18 ^^^ (w 1 >>> 3)
  let s₁ := (w 14).rotateRight 17 ^^^ (w 14).rotateRight 19 ^^^ (w 14 >>> 10)
  w 0 + s₀ + w 9 + s₁

/-- The rounds of a block: `window` holds the words of the schedule from the current one on. -/
def rounds : List Word → List Word → State → State
  | [], _, s => s
  | constant :: constants, window, s =>
    rounds constants (window.tail ++ [scheduled window]) (round s constant (window.headD 0))

/-- The big-endian words of a block. -/
def blockWords : List UInt8 → List Word
  | a :: b :: c :: d :: bytes =>
    BitVec.ofNat 32 (((a.toNat * 256 + b.toNat) * 256 + c.toNat) * 256 + d.toNat) :: blockWords bytes
  | _ => []

/-- The compression of one block into the state. -/
def compress (s : State) (block : List UInt8) : State :=
  s.add (rounds roundConstants (blockWords block) s)

/-- The big-endian bytes of a number. -/
def bigEndian : (count : Nat) → Nat → List UInt8
  | 0, _ => []
  | count + 1, n => UInt8.ofNat (n / 256 ^ count) :: bigEndian count n

/-- The message with its padding. -/
def pad (message : List UInt8) : List UInt8 :=
  message ++ [0x80] ++ List.replicate ((119 - message.length % 64) % 64) 0 ++
    bigEndian 8 (8 * message.length)

/-- The compression of the first blocks. -/
def compressBlocks : (count : Nat) → List UInt8 → State → State
  | 0, _, s => s
  | count + 1, bytes, s => compressBlocks count (bytes.drop 64) (compress s (bytes.take 64))

/-- A digit in hexadecimal. -/
def hexDigit (n : Nat) : Char :=
  "0123456789abcdef".toList.getD (n % 16) '0'

/-- A word in hexadecimal. -/
def hexWord (w : Word) : List Char :=
  (List.range 8).map fun i => hexDigit (w.toNat / 16 ^ (7 - i))

/-- The digest of a message, in hexadecimal. -/
def hexDigest (message : List UInt8) : String :=
  let padded := pad message
  let s := compressBlocks (padded.length / 64) padded State.initial
  String.ofList (s.words.flatMap hexWord)

/-- The digest of a message. -/
def digest (message : List UInt8) : List UInt8 :=
  let padded := pad message
  let s := compressBlocks (padded.length / 64) padded State.initial
  s.words.flatMap fun w => bigEndian 4 w.toNat

/-- HMAC with this hash. -/
def hmac (key message : List UInt8) : List UInt8 :=
  let key := if 64 < key.length then digest key else key
  let block (pad : UInt8) : List UInt8 :=
    (key ++ List.replicate (64 - key.length) 0).map fun byte => byte ^^^ pad
  digest (block 0x5C ++ digest (block 0x36 ++ message))

example : hexDigest [0x61, 0x62, 0x63] =
    "ba7816bf8f01cfea414140de5dae2223b00361a396177a9cb410ff61f20015ad" := by
  decide +kernel

example : (hmac "Jefe".toUTF8.toList "what do ya want for nothing?".toUTF8.toList).take 4 =
    [0x5B, 0xDC, 0xC1, 0x46] := by
  decide +kernel

end Sha256
