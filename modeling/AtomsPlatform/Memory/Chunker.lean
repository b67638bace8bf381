import AtomsPlatform.Lib.Utf16
import AtomsPlatform.Lib.Sha256

/-!
# Chunks of documents

How the memory package normalises a text, hashes it and splits it into passages. Texts are sequences of
UTF-16 code units, as in the source; the normal form NFC is a function of the platform, and a parameter
here. Every replacement of the source is a pass over the text from left to right.
-/

namespace AtomsPlatform.Memory

/-- Code units that the rules of the text mention. -/
def lineFeed : UInt16 := 0x0A
def carriageReturn : UInt16 := 0x0D
def space : UInt16 := 0x20

section Normalize

/-- `/\r\n?/` replaced by a line feed. -/
def unifyLineEnds : Utf16 → Utf16
  | [] => []
  | [u] => if u = carriageReturn then [lineFeed] else [u]
  | u :: v :: rest =>
    if u = carriageReturn then
      if v = lineFeed then lineFeed :: unifyLineEnds rest else lineFeed :: unifyLineEnds (v :: rest)
    else u :: unifyLineEnds (v :: rest)

/-- Whether a code unit is a tab, a form feed, a vertical tab, a no-break space or a space. -/
def isBlank (u : UInt16) : Bool :=
  u.toNat ∈ [0x09, 0x0C, 0x0B, 0xA0, 0x20]

/-- A run of blanks replaced by a space: the last blank of a run stands for it. -/
def joinBlanks : Utf16 → Utf16
  | [] => []
  | u :: rest =>
    if isBlank u then
      if rest.head?.any isBlank then joinBlanks rest else space :: joinBlanks rest
    else u :: joinBlanks rest

/-- `/ *\n */` replaced by a line feed: the lines lose their spaces at the line ends. -/
def stripLines (text : Utf16) : Utf16 :=
  let lines := text.splitOn lineFeed
  let last := lines.length - 1
  let stripped := lines.mapIdx fun n line =>
    let line := if n = 0 then line else line.dropWhile fun u => u = space
    if n = last then line else line.rdropWhile fun u => u = space
  List.intercalate [lineFeed] stripped

/-- `/\n{3,}/` replaced by two line feeds: one with two more behind it is dropped. -/
def limitLineFeeds : Utf16 → Utf16
  | [] => []
  | u :: rest =>
    if u = lineFeed ∧ rest.take 2 = [lineFeed, lineFeed] then limitLineFeeds rest
    else u :: limitLineFeeds rest

/-- Source `normalizeText`. -/
def normalizeText (nfc : Utf16 → Utf16) (raw : Utf16) : Utf16 :=
  Utf16.trim (limitLineFeeds (stripLines (joinBlanks (unifyLineEnds (nfc raw)))))

/-- Source `contentHash`. -/
def contentHash (nfc : Utf16 → Utf16) (raw : Utf16) : String :=
  Sha256.hexDigest ((Utf16.decode (normalizeText nfc raw)).flatMap String.utf8EncodeChar)

end Normalize

section Split

/-- Splits at `/\n{2,}/`; the flag says that the last code units were such line feeds. -/
def splitParagraphs (current : Utf16) : Bool → Utf16 → List Utf16
  | _, [] => [current]
  | between, u :: rest =>
    if between ∧ u = lineFeed then splitParagraphs current true rest
    else if u = lineFeed ∧ rest.head? = some lineFeed then current :: splitParagraphs [] true rest
    else splitParagraphs (current ++ [u]) false rest

/-- Whether a sentence may end with a code unit: `[.!?؟۔…]`. -/
def endsSentence (u : UInt16) : Bool :=
  u.toNat ∈ [0x2E, 0x21, 0x3F, 0x61F, 0x6D4, 0x2026]

/-- Splits at the white space behind the end of a sentence; the flag says that the last code units were
    such white space. -/
def splitSentences (current : Utf16) : Bool → Utf16 → List Utf16
  | _, [] => [current]
  | between, u :: rest =>
    if between ∧ Utf16.isSpace u.toNat then splitSentences current true rest
    else if Utf16.isSpace u.toNat ∧ current.getLast?.any endsSentence then
      current :: splitSentences [] true rest
    else splitSentences (current ++ [u]) false rest

/-- `lastIndexOf(" ", limit)`, with -1 where there is none. -/
def lastSpace (text : Utf16) (limit : Nat) : Int :=
  match (text.take (limit + 1)).reverse.findIdx? fun u => u = space with
  | some n => ((text.take (limit + 1)).length : Int) - 1 - n
  | none => -1

/-- Where a sentence without a usable boundary is cut. -/
def cutAt (maxChars : Nat) (rest : Utf16) : Nat :=
  let cut := lastSpace rest maxChars
  if 2 * cut > maxChars then cut.toNat else maxChars

lemma cutAt_pos {maxChars : Nat} (pos : 0 < maxChars) (rest : Utf16) : 0 < cutAt maxChars rest := by
  unfold cutAt
  dsimp only
  split
  · omega
  · exact pos

lemma length_trim_le (text : Utf16) : (Utf16.trim text).length ≤ text.length := by
  have ends : (Utf16.trim text).length ≤ (text.dropWhile fun u => Utf16.isSpace u.toNat).length :=
    (List.rdropWhile_prefix _ _).length_le
  exact ends.trans (List.dropWhile_suffix _).length_le

/-- The loop of source `splitLongParagraph`: what is too long is cut at the last space before the
    limit. -/
def cutSentence (maxChars : Nat) (pos : 0 < maxChars) (rest : Utf16) : List Utf16 :=
  if maxChars < rest.length then
    let cut := cutAt maxChars rest
    Utf16.trim (rest.take cut) :: cutSentence maxChars pos (Utf16.trim (rest.drop cut))
  else if rest.length > 0 then [rest] else []
termination_by rest.length
decreasing_by
  have shorter := length_trim_le (rest.drop (cutAt maxChars rest))
  have cut := cutAt_pos pos rest
  rw [List.length_drop] at shorter
  omega

/-- Source `splitLongParagraph`. -/
def splitLongParagraph (paragraph : Utf16) (maxChars : Nat) (pos : 0 < maxChars) : List Utf16 :=
  (splitSentences [] false paragraph).flatMap fun sentence =>
    if sentence.length ≤ maxChars then [sentence] else cutSentence maxChars pos sentence

/-- Source `tailForOverlap`. -/
def tailForOverlap (text : Utf16) (overlapChars : Nat) : Utf16 :=
  if overlapChars = 0 ∨ text.length ≤ overlapChars then []
  else
    let tail := text.drop (text.length - overlapChars)
    -- the overlap starts behind the first space, so that no word is cut in half
    match tail.findIdx? fun u => u = space with
    | none => []
    | some n => tail.drop (n + 1)

end Split

section Chunks

/-- Source `ChunkOptions`. -/
structure ChunkOptions where
  maxChars : Option Int := none
  overlapChars : Option Int := none

/-- Source `TextChunk`. -/
structure TextChunk where
  position : Nat
  text : Utf16
  tokenCount : Nat
deriving DecidableEq, Repr

/-- Source `DEFAULT_MAX_CHARS`. -/
def defaultMaxChars : Int := 1200

/-- Source `DEFAULT_OVERLAP_CHARS`. -/
def defaultOverlapChars : Int := 150

/-- Source `estimateTokens`: a third of the length, rounded up. -/
def estimateTokens (text : Utf16) : Nat :=
  (text.length + 2) / 3

/-- The pieces joined to passages, as long as these stay within the limit. -/
def joinPieces (maxChars : Nat) (current : Utf16) : List Utf16 → List Utf16
  | [] => if current = [] then [] else [current]
  | piece :: pieces =>
    let joined := if current = [] then piece else current ++ [lineFeed, lineFeed] ++ piece
    if joined.length ≤ maxChars then joinPieces maxChars joined pieces
    else if current = [] then joinPieces maxChars piece pieces
    else current :: joinPieces maxChars piece pieces

/-- The passage at a position, with the end of the one before it. -/
def chunkOf (overlapChars : Nat) (bodies : List Utf16) (position : Nat) (body : Utf16) : TextChunk :=
  let previous := if position > 0 then bodies[position - 1]? else none
  let overlap :=
    match previous with
    | none => []
    | some previous => tailForOverlap previous overlapChars
  let text := if overlap = [] then body else overlap ++ [lineFeed] ++ body
  { position, text, tokenCount := estimateTokens text }

/-- Source `chunkText`; the error is the text of a `RangeError`. -/
def chunkText (nfc : Utf16 → Utf16) (raw : Utf16) (options : ChunkOptions) :
    Except String (List TextChunk) :=
  let maxChars := options.maxChars.getD defaultMaxChars
  let overlapChars := options.overlapChars.getD defaultOverlapChars
  if small : maxChars < 50 then .error "maxChars must be an integer of at least 50"
  else if overlapChars < 0 ∨ 2 * overlapChars ≥ maxChars then
    .error "overlapChars must be an integer from 0 to less than half of maxChars"
  else
    let text := normalizeText nfc raw
    if text.length = 0 then .ok []
    else
      let paragraphs := ((splitParagraphs [] false text).map Utf16.trim).filter fun p => p.length > 0
      let pieces := paragraphs.flatMap fun p =>
        if p.length ≤ maxChars.toNat then [p]
        else splitLongParagraph p maxChars.toNat (by omega)
      let bodies := joinPieces maxChars.toNat [] pieces
      .ok (bodies.mapIdx (chunkOf overlapChars.toNat bodies))

/-- The tokens of a chunk are estimated from its text. -/
lemma chunkText_tokenCount {nfc : Utf16 → Utf16} {raw : Utf16} {options : ChunkOptions}
    {chunks : List TextChunk} (e : chunkText nfc raw options = .ok chunks) :
    ∀ chunk ∈ chunks, chunk.tokenCount = estimateTokens chunk.text := by
  simp only [chunkText] at e
  split at e
  · cases e
  split at e
  · cases e
  split at e
  · cases e
    intro chunk mem
    cases mem
  · cases e
    intro chunk mem
    obtain ⟨n, lt, rfl⟩ := List.mem_mapIdx.mp mem
    rfl

end Chunks

end AtomsPlatform.Memory
