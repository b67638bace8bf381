import AtomsPlatform.Lib.Surrogates
import AtomsPlatform.Memory.Chunker

/-!
# Passages of documents

`chunkText` loses nothing of the normalised text but white space, and keeps within its limits
(`chunkText_splits`). A passage may end inside a surrogate pair: what is too long and has no space to be
cut at is cut at the limit. The passages are well formed exactly if no such cut is inside a pair
(`chunkText_wellFormed_iff`).
-/

namespace AtomsPlatform.Memory

section Specification

/-- The length that passages may have. -/
def ChunkOptions.limit (options : ChunkOptions) : Int :=
  options.maxChars.getD defaultMaxChars

/-- The length of what is repeated of the passage before. -/
def ChunkOptions.overlap (options : ChunkOptions) : Int :=
  options.overlapChars.getD defaultOverlapChars

/-- The options that are accepted. -/
def ChunkOptions.Accepted (options : ChunkOptions) : Prop :=
  50 ≤ options.limit ∧ 0 ≤ options.overlap ∧ 2 * options.overlap < options.limit

instance (options : ChunkOptions) : Decidable options.Accepted :=
  inferInstanceAs (Decidable (_ ∧ _))

/-- A text without its white space. -/
def ink (text : Utf16) : Utf16 :=
  text.filter fun u => !Utf16.isSpace u.toNat

/-- What a passage is made of: the end of the passage before it, and its body. -/
structure Part where
  overlap : Utf16
  body : Utf16

/-- The text of a passage. -/
def Part.text (part : Part) : Utf16 :=
  if part.overlap = [] then part.body else part.overlap ++ [lineFeed] ++ part.body

/-- The passages that parts are written as. -/
def passagesOf (parts : List Part) : List TextChunk :=
  parts.mapIdx fun position part =>
    { position, text := part.text, tokenCount := estimateTokens part.text }

/-- What is asked of the parts of a text: the bodies are the text, but for white space, they are not
    empty and not too long, and an overlap is the end of the body before, from the beginning of a word. -/
structure Splits (maxChars overlapChars : Nat) (text : Utf16) (parts : List Part) : Prop where
  content : ink (parts.flatMap Part.body) = ink text
  nonempty : ∀ part ∈ parts, part.body ≠ []
  bodies : ∀ part ∈ parts, part.body.length ≤ maxChars
  texts : ∀ part ∈ parts, part.text.length ≤ maxChars + overlapChars
  first : ∀ part, parts[0]? = some part → part.overlap = []
  overlaps : ∀ (n : Nat) part next, parts[n]? = some part → parts[n + 1]? = some next →
    next.overlap = [] ∨ ∃ before : Utf16, part.body = before ++ space :: next.overlap

end Specification

section Pieces

/-- The paragraphs of a normalised text. -/
def paragraphsOf (text : Utf16) : List Utf16 :=
  ((splitParagraphs [] false text).map Utf16.trim).filter fun p => p.length > 0

/-- The pieces that passages are made of. -/
def piecesOf (maxChars : Nat) (pos : 0 < maxChars) (text : Utf16) : List Utf16 :=
  (paragraphsOf text).flatMap fun p =>
    if p.length ≤ maxChars then [p] else splitLongParagraph p maxChars pos

/-- A body with one more piece. -/
def joined (current piece : Utf16) : Utf16 :=
  if current = [] then piece else current ++ [lineFeed, lineFeed] ++ piece

lemma joinPieces_cons {maxChars : Nat} {current piece : Utf16} {pieces : List Utf16} :
    joinPieces maxChars current (piece :: pieces) =
      if (joined current piece).length ≤ maxChars then joinPieces maxChars (joined current piece) pieces
      else if current = [] then joinPieces maxChars piece pieces
      else current :: joinPieces maxChars piece pieces :=
  rfl

/-- The bodies of the passages. -/
def bodiesOf (maxChars : Nat) (pos : 0 < maxChars) (text : Utf16) : List Utf16 :=
  joinPieces maxChars [] (piecesOf maxChars pos text)

lemma limit_pos {options : ChunkOptions} (accepted : options.Accepted) : 0 < options.limit.toNat := by
  have large := accepted.1
  omega

/-- With accepted options there is nothing to complain about. -/
lemma chunkText_accepted {options : ChunkOptions} (accepted : options.Accepted) (nfc : Utf16 → Utf16)
    (raw : Utf16) :
    let bodies := bodiesOf options.limit.toNat (limit_pos accepted) (normalizeText nfc raw)
    chunkText nfc raw options = .ok (bodies.mapIdx (chunkOf options.overlap.toNat bodies)) := by
  intro bodies
  have large : ¬ options.maxChars.getD defaultMaxChars < 50 := Int.not_lt.mpr accepted.1
  have small : ¬ (options.overlapChars.getD defaultOverlapChars < 0 ∨
      2 * options.overlapChars.getD defaultOverlapChars ≥ options.maxChars.getD defaultMaxChars) := by
    rintro (negative | half)
    · exact Int.not_lt.mpr accepted.2.1 negative
    · exact Int.not_lt.mpr half accepted.2.2
  unfold chunkText
  dsimp only
  rw [dif_neg large, if_neg small]
  split
  · rename_i empty
    have none : bodies = [] := by
      simp only [bodies, List.length_eq_zero_iff.mp empty]
      rfl
    rw [none]
    rfl
  · rfl

end Pieces

section Content
variable {s t : Utf16}

lemma ink_append : ink (s ++ t) = ink s ++ ink t :=
  List.filter_append ..

lemma ink_blanks (blanks : ∀ u ∈ s, Utf16.isSpace u.toNat = true) : ink s = [] := by
  refine List.filter_eq_nil_iff.mpr fun u mem => ?_
  rw [blanks u mem]
  exact nofun

lemma ink_space {u : UInt16} (blank : Utf16.isSpace u.toNat = true) : ink (u :: t) = ink t := by
  rw [ink, List.filter_cons, blank]
  rfl

lemma ink_trim : ink (Utf16.trim s) = ink s := by
  obtain ⟨front, back, split, blank, blank'⟩ := Utf16.exists_trim s
  rw [congrArg ink split, ink_append, ink_append, ink_blanks blank, ink_blanks blank', List.append_nil]
  rfl

/-- The induction is on the text that is left. -/
lemma ink_splitParagraphs {current : Utf16} {between : Bool} {text : Utf16} :
    ink (splitParagraphs current between text).flatten = ink (current ++ text) := by
  induction text generalizing current between with
  | nil => rw [splitParagraphs, List.flatten_singleton, List.append_nil]
  | cons u rest ih =>
    have blank (e : u = lineFeed) : Utf16.isSpace u.toNat = true := by
      rw [e]
      rfl
    rw [splitParagraphs]
    split
    · rename_i ends
      rw [ih, ink_append, ink_append, ink_space (blank ends.2)]
    · split
      · rename_i ends
        rw [List.flatten_cons, ink_append, ih, List.nil_append, ink_append, ink_space (blank ends.1)]
      · rw [ih, List.append_assoc, List.singleton_append]

lemma ink_splitSentences {current : Utf16} {between : Bool} {text : Utf16} :
    ink (splitSentences current between text).flatten = ink (current ++ text) := by
  induction text generalizing current between with
  | nil => rw [splitSentences, List.flatten_singleton, List.append_nil]
  | cons u rest ih =>
    rw [splitSentences]
    split
    · rename_i ends
      rw [ih, ink_append, ink_append, ink_space ends.2]
    · split
      · rename_i ends
        rw [List.flatten_cons, ink_append, ih, List.nil_append, ink_append, ink_space ends.1]
      · rw [ih, List.append_assoc, List.singleton_append]

lemma ink_cutSentence {maxChars : Nat} {pos : 0 < maxChars} (rest : Utf16) :
    ink (cutSentence maxChars pos rest).flatten = ink rest := by
  induction rest using cutSentence.induct maxChars pos with
  | case1 rest long cut ih =>
    rw [cutSentence, if_pos long, List.flatten_cons, ink_append, ink_trim, ih, ink_trim, ← ink_append,
      List.take_append_drop]
  | case2 rest short some =>
    rw [cutSentence, if_neg short, if_pos some, List.flatten_singleton]
  | case3 rest short none =>
    rw [cutSentence, if_neg short, if_neg none]
    rw [List.length_eq_zero_iff.mp (Nat.eq_zero_of_not_pos none)]
    rfl

/-- Pieces of the parts of a text are pieces of the text. -/
lemma ink_flatMap (parts : List Utf16) {f : Utf16 → List Utf16}
    (kept : ∀ p ∈ parts, ink (f p).flatten = ink p) : ink (parts.flatMap f).flatten = ink parts.flatten := by
  induction parts with
  | nil => rfl
  | cons p parts ih =>
    rw [List.flatMap_cons, List.flatten_append, List.flatten_cons, ink_append, ink_append,
      kept p List.mem_cons_self, ih fun q mem => kept q (List.mem_cons_of_mem _ mem)]

lemma ink_splitLongParagraph {maxChars : Nat} {pos : 0 < maxChars} {paragraph : Utf16} :
    ink (splitLongParagraph paragraph maxChars pos).flatten = ink paragraph := by
  have pieces := ink_flatMap (splitSentences [] false paragraph)
    (f := fun sentence => if sentence.length ≤ maxChars then [sentence]
      else cutSentence maxChars pos sentence) fun sentence _ => by
    split
    · rw [List.flatten_singleton]
    · exact ink_cutSentence sentence
  exact pieces.trans ink_splitSentences

lemma ink_paragraphsOf {text : Utf16} : ink (paragraphsOf text).flatten = ink text := by
  have trimmed (parts : List Utf16) :
      ink ((parts.map Utf16.trim).filter fun p => p.length > 0).flatten = ink parts.flatten := by
    induction parts with
    | nil => rfl
    | cons p parts ih =>
      rw [List.map_cons, List.filter_cons, List.flatten_cons, ink_append, ← ink_trim (s := p), ← ih]
      split
      · rw [List.flatten_cons, ink_append]
      · rename_i empty
        have none : Utf16.trim p = [] := by
          simpa using empty
        rw [none]
        rfl
  exact (trimmed _).trans ink_splitParagraphs

lemma ink_piecesOf {maxChars : Nat} {pos : 0 < maxChars} {text : Utf16} :
    ink (piecesOf maxChars pos text).flatten = ink text := by
  have pieces := ink_flatMap (paragraphsOf text)
    (f := fun p => if p.length ≤ maxChars then [p] else splitLongParagraph p maxChars pos) fun p _ => by
    split
    · rw [List.flatten_singleton]
    · exact ink_splitLongParagraph
  exact pieces.trans ink_paragraphsOf

lemma ink_joined : ink (joined s t) = ink s ++ ink t := by
  rw [joined]
  split
  · rename_i empty
    rw [empty]
    rfl
  · rw [ink_append, ink_append, show ink [lineFeed, lineFeed] = [] from rfl, List.append_nil]

/-- The white space between the pieces of a body does not count. -/
lemma ink_joinPieces {maxChars : Nat} {current : Utf16} {pieces : List Utf16} :
    ink (joinPieces maxChars current pieces).flatten = ink (current ++ pieces.flatten) := by
  induction pieces generalizing current with
  | nil =>
    rw [joinPieces]
    split
    · rename_i empty
      rw [empty]
      rfl
    · rw [List.flatten_singleton, List.flatten_nil, List.append_nil]
  | cons piece pieces ih =>
    rw [joinPieces_cons, List.flatten_cons]
    split
    · rw [ih, ink_append, ink_joined, ink_append, ink_append, List.append_assoc]
    · split
      · rename_i empty
        rw [ih, empty, List.nil_append]
      · rw [List.flatten_cons, ink_append, ih, ← ink_append]

end Content

section Lengths
variable {maxChars : Nat} {pos : 0 < maxChars}

lemma lastSpace_le (text : Utf16) (limit : Nat) : lastSpace text limit ≤ limit := by
  rw [lastSpace]
  split
  · have taken : (text.take (limit + 1)).length ≤ limit + 1 := List.length_take_le ..
    omega
  · omega

lemma cutAt_le (rest : Utf16) : cutAt maxChars rest ≤ maxChars := by
  have within := lastSpace_le rest maxChars
  unfold cutAt
  dsimp only
  split
  · omega
  · exact Nat.le_refl _

lemma length_cutSentence (rest : Utf16) : ∀ piece ∈ cutSentence maxChars pos rest, piece.length ≤ maxChars := by
  induction rest using cutSentence.induct maxChars pos with
  | case1 rest long cut ih =>
    rw [cutSentence, if_pos long]
    intro piece mem
    rcases List.mem_cons.mp mem with rfl | mem
    · have taken : (rest.take cut).length ≤ cut := List.length_take_le ..
      exact (length_trim_le _).trans (taken.trans (cutAt_le rest))
    · exact ih piece mem
  | case2 rest short some =>
    rw [cutSentence, if_neg short, if_pos some]
    intro piece mem
    rw [List.mem_singleton.mp mem]
    exact Nat.le_of_not_lt short
  | case3 rest short none =>
    rw [cutSentence, if_neg short, if_neg none]
    exact nofun

lemma length_piecesOf {text : Utf16} : ∀ piece ∈ piecesOf maxChars pos text, piece.length ≤ maxChars := by
  intro piece mem
  obtain ⟨p, -, mem⟩ := List.mem_flatMap.mp mem
  split at mem
  · rename_i short
    rw [List.mem_singleton.mp mem]
    exact short
  · obtain ⟨sentence, -, mem⟩ := List.mem_flatMap.mp mem
    split at mem
    · rename_i short
      rw [List.mem_singleton.mp mem]
      exact short
    · exact length_cutSentence sentence piece mem

/-- Bodies are not empty, and not too long unless a piece is. -/
lemma joinPieces_bounds {current : Utf16} {pieces : List Utf16} (small : current.length ≤ maxChars)
    (smalls : ∀ piece ∈ pieces, piece.length ≤ maxChars) :
    ∀ body ∈ joinPieces maxChars current pieces, body ≠ [] ∧ body.length ≤ maxChars := by
  induction pieces generalizing current with
  | nil =>
    rw [joinPieces]
    split
    · exact nofun
    · rename_i some
      intro body mem
      rw [List.mem_singleton.mp mem]
      exact ⟨some, small⟩
  | cons piece pieces ih =>
    have first := smalls piece List.mem_cons_self
    have rest : ∀ piece ∈ pieces, piece.length ≤ maxChars := fun p mem => smalls p (List.mem_cons_of_mem _ mem)
    rw [joinPieces_cons]
    split
    · rename_i fits
      exact ih fits rest
    · split
      · exact ih first rest
      · rename_i some
        intro body mem
        rcases List.mem_cons.mp mem with rfl | mem
        · exact ⟨some, small⟩
        · exact ih first rest body mem

/-- An overlap is the end of a text, from the beginning of a word. -/
lemma tailForOverlap_cases (text : Utf16) (overlapChars : Nat) :
    tailForOverlap text overlapChars = [] ∨
      (∃ before : Utf16, text = before ++ space :: tailForOverlap text overlapChars) ∧
        (tailForOverlap text overlapChars).length < overlapChars := by
  unfold tailForOverlap
  split
  · exact .inl rfl
  · rename_i long
    obtain ⟨some, long⟩ := not_or.mp long
    dsimp only
    split
    · exact .inl rfl
    · rename_i n found
      obtain ⟨lt, is, -⟩ := List.findIdx?_eq_some_iff_getElem.mp found
      have length : (text.drop (text.length - overlapChars)).length = overlapChars := by
        rw [List.length_drop]
        omega
      refine .inr ⟨⟨text.take (text.length - overlapChars) ++
        (text.drop (text.length - overlapChars)).take n, ?_⟩, ?_⟩
      · have at_n : (text.drop (text.length - overlapChars))[n] = space := of_decide_eq_true is
        rw [List.append_assoc, ← at_n, List.getElem_cons_drop, List.take_append_drop,
          List.take_append_drop]
      · rw [List.length_drop]
        omega

end Lengths

section Splitting
variable {options : ChunkOptions}

/-- The part at a position. -/
def partOf (overlapChars : Nat) (bodies : List Utf16) (position : Nat) (body : Utf16) : Part where
  overlap := ((if position > 0 then bodies[position - 1]? else none).map fun previous =>
    tailForOverlap previous overlapChars).getD []
  body

lemma chunkOf_eq (overlapChars : Nat) (bodies : List Utf16) (position : Nat) (body : Utf16) :
    chunkOf overlapChars bodies position body =
      { position
        text := (partOf overlapChars bodies position body).text
        tokenCount := estimateTokens (partOf overlapChars bodies position body).text } := by
  unfold chunkOf partOf Part.text
  dsimp only
  cases (if position > 0 then bodies[position - 1]? else none) with
  | none => rfl
  | some previous => rfl

/-- The parts that a document is split into. -/
def partsOf (options : ChunkOptions) (accepted : options.Accepted) (text : Utf16) : List Part :=
  let bodies := bodiesOf options.limit.toNat (limit_pos accepted) text
  bodies.mapIdx (partOf options.overlap.toNat bodies)

lemma chunkText_parts (accepted : options.Accepted) (nfc : Utf16 → Utf16) (raw : Utf16) :
    chunkText nfc raw options = .ok (passagesOf (partsOf options accepted (normalizeText nfc raw))) := by
  rw [chunkText_accepted accepted, partsOf, passagesOf, List.mapIdx_mapIdx]
  refine congrArg Except.ok (congrArg (List.mapIdx · _) ?_)
  funext position body
  exact chunkOf_eq ..

lemma partsOf_splits (accepted : options.Accepted) (text : Utf16) :
    Splits options.limit.toNat options.overlap.toNat text (partsOf options accepted text) := by
  set bodies := bodiesOf options.limit.toNat (limit_pos accepted) text with bodies_eq
  have parts : partsOf options accepted text = bodies.mapIdx (partOf options.overlap.toNat bodies) := rfl
  have bounds : ∀ body ∈ bodies, body ≠ [] ∧ body.length ≤ options.limit.toNat :=
    joinPieces_bounds (Nat.zero_le _) length_piecesOf
  have inside : ∀ part ∈ bodies.mapIdx (partOf options.overlap.toNat bodies), ∃ position body,
      body ∈ bodies ∧ part = partOf options.overlap.toNat bodies position body := by
    intro part mem
    obtain ⟨n, lt, rfl⟩ := List.mem_mapIdx.mp mem
    exact ⟨n, bodies[n], List.getElem_mem lt, rfl⟩
  have short (position : Nat) (body : Utf16) :
      (partOf options.overlap.toNat bodies position body).overlap = [] ∨
        (partOf options.overlap.toNat bodies position body).overlap.length < options.overlap.toNat := by
    cases previous : (if position > 0 then bodies[position - 1]? else none) with
    | none =>
      refine .inl ?_
      rw [partOf, previous]
      rfl
    | some previous' =>
      rw [partOf, previous]
      exact (tailForOverlap_cases previous' _).imp_right And.right
  rw [parts]
  constructor
  case content =>
    have flat : (bodies.mapIdx (partOf options.overlap.toNat bodies)).flatMap Part.body = bodies.flatten := by
      have same : (bodies.mapIdx (partOf options.overlap.toNat bodies)).map Part.body = bodies := by
        refine List.ext_getElem? fun n => ?_
        rw [List.getElem?_map, List.getElem?_mapIdx]
        cases bodies[n]? with
        | none => rfl
        | some body => rfl
      rw [List.flatMap, same]
    rw [flat, bodies_eq, bodiesOf, ink_joinPieces, List.nil_append, ink_piecesOf]
  case nonempty =>
    intro part mem
    obtain ⟨position, body, held, rfl⟩ := inside part mem
    exact (bounds body held).1
  case bodies =>
    intro part mem
    obtain ⟨position, body, held, rfl⟩ := inside part mem
    exact (bounds body held).2
  case texts =>
    intro part mem
    obtain ⟨position, body, held, rfl⟩ := inside part mem
    have own : body.length ≤ options.limit.toNat := (bounds body held).2
    rw [Part.text]
    split
    · exact own.trans (Nat.le_add_right _ _)
    · rename_i some
      have fewer := (short position body).resolve_left some
      rw [List.length_append, List.length_append, List.length_singleton]
      show _ + body.length ≤ _
      omega
  case first =>
    intro part first
    rw [List.getElem?_mapIdx] at first
    obtain ⟨body, -, rfl⟩ := Option.map_eq_some_iff.mp first
    rfl
  case overlaps =>
    intro n part next here there
    rw [List.getElem?_mapIdx] at here there
    obtain ⟨body, at_n, rfl⟩ := Option.map_eq_some_iff.mp here
    obtain ⟨body', -, rfl⟩ := Option.map_eq_some_iff.mp there
    have before : (partOf options.overlap.toNat bodies (n + 1) body').overlap =
        tailForOverlap body options.overlap.toNat := by
      rw [partOf, if_pos (Nat.succ_pos n), Nat.add_sub_cancel, at_n]
      rfl
    rw [before]
    exact (tailForOverlap_cases body _).imp_right And.left

/-- With accepted options every text is split, and nothing of it is lost. -/
theorem chunkText_splits (nfc : Utf16 → Utf16) (raw : Utf16) (options : ChunkOptions)
    (accepted : options.Accepted) :
    ∃ parts, chunkText nfc raw options = .ok (passagesOf parts) ∧
      Splits options.limit.toNat options.overlap.toNat (normalizeText nfc raw) parts :=
  ⟨_, chunkText_parts accepted nfc raw, partsOf_splits accepted _⟩

/-- A text of two paragraphs under the default limits. -/
theorem chunkText_splits_default :
    ∃ parts, chunkText id (Utf16.ofString "One line.\n\nAnother  line.") {} = .ok (passagesOf parts) ∧
      Splits 1200 150 (normalizeText id (Utf16.ofString "One line.\n\nAnother  line.")) parts :=
  chunkText_splits id _ {} (by decide)

end Splitting

section Normalized
variable {text : Utf16}

lemma wellFormed_lineFeed {s t : Utf16} :
    Utf16.wellFormed (s ++ lineFeed :: t) = (s.wellFormed && t.wellFormed) :=
  Utf16.wellFormed_around rfl rfl

lemma surrogate_ne {u v : UInt16} (surrogate : Utf16.isLead u = true ∨ Utf16.isTrail u = true)
    (other : Utf16.isLead v = false ∧ Utf16.isTrail v = false) : u ≠ v := by
  rintro rfl
  rw [other.1, other.2] at surrogate
  cases surrogate <;> contradiction

/-- A pass over a text keeps it well formed, if it leaves pairs alone and otherwise drops code units or
    puts white space in their place. -/
lemma wellFormed_pass {f : Utf16 → Utf16} (formed : text.wellFormed = true) (nil : f [] = [])
    (pair : ∀ u v rest, Utf16.isLead u = true → Utf16.isTrail v = true →
      f (u :: v :: rest) = u :: v :: f rest)
    (single : ∀ u rest, Utf16.isLead u = false → Utf16.isTrail u = false →
      (f rest).wellFormed = true → (f (u :: rest)).wellFormed = true) : (f text).wellFormed = true := by
  induction text using Utf16.wellFormed.induct with
  | case1 =>
    rw [nil]
    rfl
  | case2 u lead =>
    rw [Utf16.wellFormed_lead lead] at formed
    cases formed
  | case3 u lead v rest ih =>
    rw [Utf16.wellFormed_pair lead, Bool.and_eq_true] at formed
    rw [pair u v rest lead formed.1, Utf16.wellFormed_pair lead, formed.1, ih formed.2]
    rfl
  | case4 u rest not ih =>
    rw [Utf16.wellFormed_single not, Bool.and_eq_true, Bool.not_eq_true'] at formed
    exact single u rest (Bool.eq_false_iff.mpr not) formed.1 (ih formed.2)

lemma wellFormed_unifyLineEnds (formed : text.wellFormed = true) :
    (unifyLineEnds text).wellFormed = true := by
  refine wellFormed_pass formed rfl ?pair ?single
  case pair =>
    intro u v rest lead trail
    have first : u ≠ carriageReturn := surrogate_ne (.inl lead) ⟨rfl, rfl⟩
    have second : v ≠ carriageReturn := surrogate_ne (.inr trail) ⟨rfl, rfl⟩
    have after : unifyLineEnds (v :: rest) = v :: unifyLineEnds rest := by
      cases rest with
      | nil => exact if_neg second
      | cons w rest => exact if_neg second
    rw [unifyLineEnds, if_neg first, after]
  case single =>
    intro u rest lead trail ih
    have kept : Utf16.wellFormed (u :: unifyLineEnds rest) = true := by
      rw [Utf16.wellFormed_single (Bool.eq_false_iff.mp lead), trail, ih]
      rfl
    have changed : Utf16.wellFormed (lineFeed :: unifyLineEnds rest) = true := by
      rw [Utf16.wellFormed_cons_blank rfl, ih]
    cases rest with
    | nil =>
      rw [unifyLineEnds]
      split
      · exact changed
      · exact kept
    | cons v rest =>
      rw [unifyLineEnds]
      split
      · split
        · rename_i second
          have same : unifyLineEnds (v :: rest) = lineFeed :: unifyLineEnds rest := by
            rw [second]
            cases rest <;> rfl
          rw [← same]
          exact ih
        · exact changed
      · exact kept

lemma wellFormed_joinBlanks (formed : text.wellFormed = true) : (joinBlanks text).wellFormed = true := by
  have surrogates {u : UInt16} (blank : isBlank u = true) :
      Utf16.isLead u = false ∧ Utf16.isTrail u = false := by
    refine Utf16.not_surrogate_of_space ?_
    simp only [isBlank, decide_eq_true_eq, List.mem_cons, List.not_mem_nil, or_false] at blank
    rcases blank with e | e | e | e | e <;> rw [e] <;> rfl
  refine wellFormed_pass formed rfl ?pair ?single
  case pair =>
    intro u v rest lead trail
    have first : ¬ isBlank u = true := fun blank => by
      rw [(surrogates blank).1] at lead
      cases lead
    have second : ¬ isBlank v = true := fun blank => by
      rw [(surrogates blank).2] at trail
      cases trail
    rw [joinBlanks, if_neg first, joinBlanks, if_neg second]
  case single =>
    intro u rest lead trail ih
    rw [joinBlanks]
    split
    · split
      · exact ih
      · rw [Utf16.wellFormed_cons_blank rfl, ih]
    · rw [Utf16.wellFormed_single (Bool.eq_false_iff.mp lead), trail, ih]
      rfl

lemma wellFormed_limitLineFeeds (formed : text.wellFormed = true) :
    (limitLineFeeds text).wellFormed = true := by
  refine wellFormed_pass formed rfl ?pair ?single
  case pair =>
    intro u v rest lead trail
    have first : u ≠ lineFeed := surrogate_ne (.inl lead) ⟨rfl, rfl⟩
    have second : v ≠ lineFeed := surrogate_ne (.inr trail) ⟨rfl, rfl⟩
    rw [limitLineFeeds, if_neg fun both => first both.1, limitLineFeeds, if_neg fun both => second both.1]
  case single =>
    intro u rest lead trail ih
    rw [limitLineFeeds]
    split
    · exact ih
    · rw [Utf16.wellFormed_single (Bool.eq_false_iff.mp lead), trail, ih]
      rfl

/-- Lines make a well-formed text if they are well formed. -/
lemma wellFormed_lines (lines : List Utf16) :
    Utf16.wellFormed (List.intercalate [lineFeed] lines) = lines.all Utf16.wellFormed := by
  induction lines with
  | nil => rfl
  | cons line lines ih =>
    cases lines with
    | nil => simp
    | cons next lines =>
      rw [List.intercalate_cons_cons, List.append_assoc, List.singleton_append, wellFormed_lineFeed, ih]
      rfl

lemma wellFormed_stripLines (formed : text.wellFormed = true) : (stripLines text).wellFormed = true := by
  have lines : (text.splitOn lineFeed).all Utf16.wellFormed = true := by
    rw [← wellFormed_lines, List.intercalate_splitOn lineFeed]
    exact formed
  have blanks (line : Utf16) : (∀ u ∈ line.takeWhile fun u => decide (u = space), Utf16.isSpace u.toNat = true) ∧
      ∀ u ∈ line.rtakeWhile fun u => decide (u = space), Utf16.isSpace u.toNat = true := by
    constructor
    · intro u mem
      rw [of_decide_eq_true (List.mem_takeWhile_imp (p := fun u => decide (u = space)) mem)]
      rfl
    · intro u mem
      rw [of_decide_eq_true (List.mem_rtakeWhile_imp (p := fun u => decide (u = space)) mem)]
      rfl
  have front {line : Utf16} (formed : line.wellFormed = true) :
      Utf16.wellFormed (line.dropWhile fun u => decide (u = space)) = true := by
    rw [← Utf16.wellFormed_blanks (blanks line).1, List.takeWhile_append_dropWhile]
    exact formed
  have back {line : Utf16} (formed : line.wellFormed = true) :
      Utf16.wellFormed (line.rdropWhile fun u => decide (u = space)) = true := by
    rw [← Utf16.wellFormed_append_blanks (blanks line).2, List.rdropWhile_append_rtakeWhile]
    exact formed
  unfold stripLines
  dsimp only
  rw [wellFormed_lines]
  refine List.all_eq_true.mpr fun stripped mem => ?_
  obtain ⟨n, lt, rfl⟩ := List.mem_mapIdx.mp mem
  have line := List.all_eq_true.mp lines _ (List.getElem_mem lt)
  split
  · split
    · exact line
    · exact front line
  · split
    · exact back line
    · exact back (front line)

/-- The normal form of a well-formed text is well formed. -/
lemma wellFormed_normalizeText {nfc : Utf16 → Utf16} {raw : Utf16}
    (formed : (nfc raw).wellFormed = true) : (normalizeText nfc raw).wellFormed = true := by
  rw [normalizeText, Utf16.wellFormed_trim]
  exact wellFormed_limitLineFeeds (wellFormed_stripLines (wellFormed_joinBlanks
    (wellFormed_unifyLineEnds formed)))

end Normalized

section Pairs
variable {maxChars : Nat} {pos : 0 < maxChars}

/-- What is left of a sentence when the loop of source `splitLongParagraph` comes to its beginning. -/
inductive Remains (maxChars : Nat) : Utf16 → Utf16 → Prop where
  | start {sentence} : Remains maxChars sentence sentence
  | cut {sentence rest} :
    maxChars < sentence.length →
    Remains maxChars (Utf16.trim (sentence.drop (cutAt maxChars sentence))) rest →
    Remains maxChars sentence rest

/-- The next cut is inside a pair: what is left is too long, has no space to be cut at, and the limit is
    behind the first half of a pair. -/
def CutsPair (maxChars : Nat) (rest : Utf16) : Prop :=
  maxChars < rest.length ∧ 2 * lastSpace rest maxChars ≤ maxChars ∧
    (rest[maxChars - 1]?.any Utf16.isLead) = true

instance (maxChars : Nat) (rest : Utf16) : Decidable (CutsPair maxChars rest) :=
  inferInstanceAs (Decidable (_ ∧ _))

/-- No cut that the length of a sentence forces is inside a pair. -/
def KeepsPairs (maxChars : Nat) (text : Utf16) : Prop :=
  ∀ p ∈ paragraphsOf text, maxChars < p.length →
    ∀ sentence ∈ splitSentences [] false p, maxChars < sentence.length →
      ∀ rest, Remains maxChars sentence rest → ¬ CutsPair maxChars rest

lemma lastSpace_spec {text : Utf16} {limit : Nat} (found : 0 ≤ lastSpace text limit) :
    text[(lastSpace text limit).toNat]? = some space := by
  rw [lastSpace] at found ⊢
  split at found
  · rename_i n at_n
    obtain ⟨lt, is, -⟩ := List.findIdx?_eq_some_iff_getElem.mp at_n
    rw [List.length_reverse] at lt
    rw [List.getElem_reverse] at is
    have index : (((text.take (limit + 1)).length : Int) - 1 - n).toNat =
        (text.take (limit + 1)).length - 1 - n := by omega
    have within : (text.take (limit + 1)).length - 1 - n < (text.take (limit + 1)).length := by omega
    rw [index]
    have at_index : (text.take (limit + 1))[(text.take (limit + 1)).length - 1 - n]? = some space := by
      rw [List.getElem?_eq_getElem within]
      exact congrArg some (of_decide_eq_true is)
    rw [List.getElem?_take] at at_index
    split at at_index
    · exact at_index
    · cases at_index
  · cases found

/-- A remainder is cut inside a pair exactly if it `CutsPair`. -/
lemma endsInside_cut {rest : Utf16} (formed : rest.wellFormed = true) (long : maxChars < rest.length)
    (pos : 0 < maxChars) :
    Utf16.endsInside (rest.take (cutAt maxChars rest)) = true ↔ CutsPair maxChars rest := by
  have last {n : Nat} (some : 0 < n) (within : n ≤ rest.length) :
      Utf16.endsInside (rest.take n) = rest[n - 1]?.any Utf16.isLead := by
    rw [Utf16.endsInside, List.getLast?_take, if_neg (Nat.ne_of_gt some)]
    rw [List.getElem?_eq_getElem (show n - 1 < rest.length by omega)]
    rfl
  by_cases usable : 2 * lastSpace rest maxChars > maxChars
  · -- a cut at a space is not inside a pair
    have cut : cutAt maxChars rest = (lastSpace rest maxChars).toNat := if_pos usable
    have here : rest[(lastSpace rest maxChars).toNat]? = some space := lastSpace_spec (by omega)
    rw [← cut] at here
    constructor
    · intro inside
      have whole : (rest.take (cutAt maxChars rest) ++ space :: rest.drop (cutAt maxChars rest + 1)) = rest := by
        obtain ⟨lt, is⟩ := List.getElem?_eq_some_iff.mp here
        rw [← is, List.getElem_cons_drop, List.take_append_drop]
      rw [← whole, Utf16.wellFormed_around rfl rfl, Bool.and_eq_true] at formed
      rw [Utf16.endsInside_of_wellFormed formed.1] at inside
      cases inside
    · rintro ⟨-, unusable, -⟩
      omega
  · have cut : cutAt maxChars rest = maxChars := if_neg usable
    rw [cut, last pos (Nat.le_of_lt long)]
    exact ⟨fun lead => ⟨long, Int.not_lt.mp usable, lead⟩, fun cuts => cuts.2.2⟩

/-- The induction is on what is left of the sentence. -/
lemma wellFormed_cutSentence (rest : Utf16) (formed : rest.wellFormed = true) :
    (∀ piece ∈ cutSentence maxChars pos rest, piece.wellFormed = true) ↔
      ∀ r, Remains maxChars rest r → ¬ CutsPair maxChars r := by
  have short_iff {rest : Utf16} (short : ¬ maxChars < rest.length) (r : Utf16)
      (remains : Remains maxChars rest r) : ¬ CutsPair maxChars r := by
    cases remains with
    | start => exact fun cuts => short cuts.1
    | cut long _ => exact absurd long short
  induction rest using cutSentence.induct maxChars pos with
  | case1 rest long cut ih =>
    rw [cutSentence, if_pos long]
    have whole : Utf16.wellFormed (rest.take cut ++ rest.drop cut) = true := by
      rw [List.take_append_drop]
      exact formed
    have parts := Utf16.wellFormed_cut whole
    cases inside : Utf16.endsInside (rest.take cut) with
    | true =>
      constructor
      · intro pieces
        have first := pieces _ List.mem_cons_self
        rw [Utf16.wellFormed_trim, parts.1, inside] at first
        cases first
      · intro keeps
        exact absurd ((endsInside_cut formed long pos).mp inside) (keeps rest .start)
    | false =>
      have ih' := ih (by rw [Utf16.wellFormed_trim, parts.2 inside])
      constructor
      · intro pieces r remains
        cases remains with
        | start =>
          intro cuts
          rw [(endsInside_cut formed long pos).mpr cuts] at inside
          cases inside
        | cut _ remains => exact ih'.mp (fun piece mem => pieces piece (List.mem_cons_of_mem _ mem)) r remains
      · intro keeps piece mem
        rcases List.mem_cons.mp mem with rfl | mem
        · rw [Utf16.wellFormed_trim, parts.1, inside]
          rfl
        · exact ih'.mpr (fun r remains => keeps r (.cut long remains)) piece mem
  | case2 rest short some =>
    rw [cutSentence, if_neg short, if_pos some]
    refine ⟨fun _ => short_iff short, fun _ piece mem => ?_⟩
    rw [List.mem_singleton.mp mem]
    exact formed
  | case3 rest short none =>
    rw [cutSentence, if_neg short, if_neg none]
    exact ⟨fun _ => short_iff short, nofun⟩

lemma wellFormed_splitParagraphs {current text : Utf16} {between : Bool}
    (formed : (current ++ text).wellFormed = true) :
    ∀ p ∈ splitParagraphs current between text, p.wellFormed = true := by
  induction text generalizing current between with
  | nil =>
    rw [splitParagraphs]
    intro p mem
    rw [List.append_nil] at formed
    rw [List.mem_singleton.mp mem]
    exact formed
  | cons u rest ih =>
    have cut (blank : u = lineFeed) : current.wellFormed = true ∧ Utf16.wellFormed rest = true := by
      rw [blank, wellFormed_lineFeed, Bool.and_eq_true] at formed
      exact formed
    rw [splitParagraphs]
    split
    · rename_i ends
      obtain ⟨first, second⟩ := cut ends.2
      exact ih (by rw [Utf16.wellFormed_append first, second])
    · split
      · rename_i ends
        obtain ⟨first, second⟩ := cut ends.1
        intro p mem
        rcases List.mem_cons.mp mem with rfl | mem
        · exact first
        · exact @ih [] _ second p mem
      · exact ih (by rw [List.append_assoc, List.singleton_append, formed])

lemma wellFormed_splitSentences {current text : Utf16} {between : Bool}
    (formed : (current ++ text).wellFormed = true) :
    ∀ p ∈ splitSentences current between text, p.wellFormed = true := by
  induction text generalizing current between with
  | nil =>
    rw [splitSentences]
    intro p mem
    rw [List.append_nil] at formed
    rw [List.mem_singleton.mp mem]
    exact formed
  | cons u rest ih =>
    have cut (blank : Utf16.isSpace u.toNat = true) : current.wellFormed = true ∧ Utf16.wellFormed rest = true := by
      obtain ⟨lead, trail⟩ := Utf16.not_surrogate_of_space blank
      rw [Utf16.wellFormed_around lead trail, Bool.and_eq_true] at formed
      exact formed
    rw [splitSentences]
    split
    · rename_i ends
      obtain ⟨first, second⟩ := cut ends.2
      exact ih (by rw [Utf16.wellFormed_append first, second])
    · split
      · rename_i ends
        obtain ⟨first, second⟩ := cut ends.1
        intro p mem
        rcases List.mem_cons.mp mem with rfl | mem
        · exact first
        · exact @ih [] _ second p mem
      · exact ih (by rw [List.append_assoc, List.singleton_append, formed])

/-- The pieces of a text are well formed exactly if no pair is cut. -/
lemma wellFormed_piecesOf {text : Utf16} (formed : text.wellFormed = true) :
    (∀ piece ∈ piecesOf maxChars pos text, piece.wellFormed = true) ↔ KeepsPairs maxChars text := by
  have paragraphs : ∀ p ∈ paragraphsOf text, p.wellFormed = true := by
    intro p mem
    obtain ⟨p₀, mem₀, rfl⟩ := List.mem_map.mp (List.mem_of_mem_filter mem)
    rw [Utf16.wellFormed_trim]
    exact wellFormed_splitParagraphs (show Utf16.wellFormed ([] ++ text) = true from formed) p₀ mem₀
  have sentences {p : Utf16} (mem : p ∈ paragraphsOf text) :
      ∀ sentence ∈ splitSentences [] false p, sentence.wellFormed = true :=
    wellFormed_splitSentences (show Utf16.wellFormed ([] ++ p) = true from paragraphs p mem)
  constructor
  · intro pieces p mem long sentence held long'
    have kept := (@wellFormed_cutSentence maxChars pos sentence (sentences mem sentence held)).mp
    refine kept fun piece cut => ?_
    refine pieces piece (List.mem_flatMap.mpr ⟨p, mem, ?_⟩)
    rw [if_neg (Nat.not_le_of_lt long)]
    refine List.mem_flatMap.mpr ⟨sentence, held, ?_⟩
    rw [if_neg (Nat.not_le_of_lt long')]
    exact cut
  · intro keeps piece mem
    obtain ⟨p, held, mem⟩ := List.mem_flatMap.mp mem
    split at mem
    · rw [List.mem_singleton.mp mem]
      exact paragraphs p held
    rename_i long
    obtain ⟨sentence, held', mem⟩ := List.mem_flatMap.mp mem
    split at mem
    · rw [List.mem_singleton.mp mem]
      exact sentences held sentence held'
    · rename_i long'
      refine (wellFormed_cutSentence sentence (sentences held sentence held')).mpr ?_ piece mem
      exact keeps p held (Nat.lt_of_not_le long) sentence held' (Nat.lt_of_not_le long')

lemma wellFormed_joined {current piece : Utf16} :
    (joined current piece).wellFormed = (current.wellFormed && piece.wellFormed) := by
  rw [joined]
  split
  · rename_i empty
    rw [empty]
    rfl
  · rw [List.append_assoc, List.cons_append, wellFormed_lineFeed, List.singleton_append,
      Utf16.wellFormed_cons_blank rfl]

/-- Bodies are well formed exactly if their pieces are. -/
lemma wellFormed_joinPieces {current : Utf16} {pieces : List Utf16} :
    (∀ body ∈ joinPieces maxChars current pieces, body.wellFormed = true) ↔
      current.wellFormed = true ∧ ∀ piece ∈ pieces, piece.wellFormed = true := by
  induction pieces generalizing current with
  | nil =>
    rw [joinPieces]
    split
    · rename_i empty
      rw [empty]
      exact ⟨fun _ => ⟨rfl, nofun⟩, fun _ => nofun⟩
    · rw [List.forall_mem_singleton]
      exact ⟨fun formed => ⟨formed, nofun⟩, And.left⟩
  | cons piece pieces ih =>
    rw [joinPieces_cons, List.forall_mem_cons]
    split
    · rw [ih, wellFormed_joined, Bool.and_eq_true, and_assoc]
    · split
      · rename_i empty
        rw [ih, empty]
        exact ⟨fun rest => ⟨rfl, rest⟩, And.right⟩
      · rw [List.forall_mem_cons, ih]

/-- The passages are well formed exactly if no pair is cut: an overlap begins behind a space. -/
lemma partsOf_wellFormed {options : ChunkOptions} (accepted : options.Accepted) {text : Utf16}
    (formed : text.wellFormed = true) :
    (∀ chunk ∈ passagesOf (partsOf options accepted text), chunk.text.wellFormed = true) ↔
      KeepsPairs options.limit.toNat text := by
  set bodies := bodiesOf options.limit.toNat (limit_pos accepted) text with bodies_eq
  have pieces : (∀ body ∈ bodies, body.wellFormed = true) ↔ KeepsPairs options.limit.toNat text := by
    rw [bodies_eq, bodiesOf, wellFormed_joinPieces, wellFormed_piecesOf formed]
    exact ⟨And.right, fun keeps => ⟨rfl, keeps⟩⟩
  have body_of_text (part : Part) (whole : part.text.wellFormed = true) : part.body.wellFormed = true := by
    rw [Part.text] at whole
    split at whole
    · exact whole
    · rw [List.append_assoc, List.singleton_append, wellFormed_lineFeed, Bool.and_eq_true] at whole
      exact whole.2
  have text_of_body {part : Part} (body : part.body.wellFormed = true)
      (overlap : part.overlap.wellFormed = true) : part.text.wellFormed = true := by
    rw [Part.text]
    split
    · exact body
    · rw [List.append_assoc, List.singleton_append, wellFormed_lineFeed, body, overlap]
      rfl
  rw [← pieces]
  constructor
  · intro texts body mem
    obtain ⟨n, lt, rfl⟩ := List.mem_iff_getElem.mp mem
    refine body_of_text (partOf options.overlap.toNat bodies n bodies[n]) (texts
      ⟨n, _, estimateTokens (partOf options.overlap.toNat bodies n bodies[n]).text⟩ ?_)
    refine List.mem_mapIdx.mpr ⟨n, ?_, ?_⟩
    · rw [partsOf, List.length_mapIdx]
      exact lt
    · simp only [partsOf, List.getElem_mapIdx]
      rfl
  · intro formed chunk mem
    obtain ⟨n, lt, rfl⟩ := List.mem_mapIdx.mp mem
    have lt' : n < bodies.length := by
      rw [partsOf, List.length_mapIdx] at lt
      exact lt
    have part : (partsOf options accepted text)[n] = partOf options.overlap.toNat bodies n bodies[n] := by
      simp only [partsOf, List.getElem_mapIdx]
      rfl
    dsimp only
    rw [part]
    refine text_of_body (formed _ (List.getElem_mem lt')) ?_
    cases previous : (if n > 0 then bodies[n - 1]? else none) with
    | none =>
      rw [partOf, previous]
      rfl
    | some body =>
      rw [partOf, previous]
      show (tailForOverlap body options.overlap.toNat).wellFormed = true
      have before : body.wellFormed = true := by
        split at previous
        · exact formed body (List.mem_of_getElem? previous)
        · cases previous
      rcases tailForOverlap_cases body options.overlap.toNat with none | ⟨⟨front, split⟩, -⟩
      · rw [none]
        rfl
      · rw [split, Utf16.wellFormed_around rfl rfl, Bool.and_eq_true] at before
        exact before.2

end Pairs

/-- The passages of a well-formed text are well formed exactly if no cut that the length of a sentence
    forces is inside a pair. -/
theorem chunkText_wellFormed_iff (nfc : Utf16 → Utf16)
    (nfc_wellFormed : ∀ s : Utf16, s.wellFormed = true → (nfc s).wellFormed = true) (raw : Utf16)
    (formed : raw.wellFormed = true) (options : ChunkOptions) (accepted : options.Accepted) :
    ∃ chunks, chunkText nfc raw options = .ok chunks ∧
      ((∀ chunk ∈ chunks, chunk.text.wellFormed = true) ↔
        KeepsPairs options.limit.toNat (normalizeText nfc raw)) :=
  ⟨_, chunkText_parts accepted nfc raw,
    partsOf_wellFormed accepted (wellFormed_normalizeText (nfc_wellFormed raw formed))⟩

/-- A short text with a pair. -/
theorem chunkText_wellFormed_short :
    ∃ chunks, chunkText id (Utf16.ofString "A face: 😀.") {} = .ok chunks ∧
      ((∀ chunk ∈ chunks, chunk.text.wellFormed = true) ↔
        KeepsPairs 1200 (normalizeText id (Utf16.ofString "A face: 😀."))) :=
  chunkText_wellFormed_iff id (fun _ formed => formed) _ (by decide +kernel) {} (by decide)

/-- Twenty-six faces, without a space. -/
def faces : Utf16 :=
  (List.replicate 26 [0xD83D, 0xDE00]).flatten

/-- An odd limit is inside a pair of this text. -/
theorem faces_cut : faces.wellFormed = true ∧ ChunkOptions.Accepted ⟨some 51, some 0⟩ ∧
    ∃ chunks, chunkText id faces ⟨some 51, some 0⟩ = .ok chunks ∧
      ∃ chunk ∈ chunks, chunk.text.wellFormed = false := by
  have formed : faces.wellFormed = true := by decide
  have accepted : ChunkOptions.Accepted ⟨some 51, some 0⟩ := by decide
  have normal : normalizeText id faces = faces := by decide +kernel
  refine ⟨formed, accepted, _, chunkText_parts accepted id faces, ?_⟩
  rw [normal]
  by_contra none
  have texts : ∀ chunk ∈ passagesOf (partsOf ⟨some 51, some 0⟩ accepted faces),
      chunk.text.wellFormed = true := by
    intro chunk mem
    by_contra broken
    exact none ⟨chunk, mem, Bool.eq_false_iff.mpr broken⟩
  have keeps := (partsOf_wellFormed accepted formed).mp texts
  have paragraph : faces ∈ paragraphsOf faces := by decide +kernel
  have sentence : faces ∈ splitSentences [] false faces := by decide +kernel
  have long : 51 < faces.length := by decide
  have cuts : CutsPair 51 faces := by decide +kernel
  exact keeps faces paragraph long faces sentence long faces .start cuts

end AtomsPlatform.Memory
