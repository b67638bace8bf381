import AtomsPlatform.Lib.Doubles
import AtomsPlatform.Lib.Utf16
import AtomsPlatform.Memory.Fusion
import AtomsPlatform.Memory.Ingest

/-!
# Quick search

The hybrid search of the memory package. The two lists are the rows the database answers; the arithmetic
of the scores is that of doubles. What the first hit of the vector list has at least, and what any other
hit has at most, decides which keyword weights leave the first hit of the vector list on top.
-/

namespace AtomsPlatform.Memory
open Doubles

variable {ι : Type} [LinearOrder ι]

/-- Source `QuickSearchInput`. -/
structure QuickSearchInput where
  workspaceId : String
  queryText : String
  queryEmbedding : List Double
  limit : Option ℚ := none
  candidatesPerSearch : Option ℚ := none
  keywordWeight : Option Double := none

/-- Source `CandidateRow`. -/
structure CandidateRow (ι : Type) where
  id : ι
  source_id : String
  title : String
  position : Nat
  text : String

/-- Source `MemoryHit`. -/
structure MemoryHit (ι : Type) where
  chunkId : ι
  sourceId : String
  sourceTitle : String
  position : Nat
  text : String
  score : ℚ
  vectorRank : Option Nat
  keywordRank : Option Nat

/-- What the host knows of letters and digits. -/
structure Unicode where
  /-- The matches of `/[\p{L}\p{N}]+/gu` in the text, composed and in lower case. -/
  words : String → List String
  /-- `/\p{N}/u.test` -/
  number : String → Bool

/-- The answers of the database to the two queries of a search: to the vector query for a workspace, a
vector and a number of candidates, and to the keyword query. -/
structure Passages (ι : Type) where
  vectorRows : String → List Double → Nat → List (CandidateRow ι)
  keywordRows : String → String → Nat → List (CandidateRow ι)

section Source

/-- Source `toVectorLiteral`, up to the text of the vector. A `Double` is finite, so the check of the
elements has nothing to find. -/
def toVectorLiteral (values : List Double) : Except String (List Double) :=
  if values.length ≠ embeddingDimensions then
    .error s!"embedding has {values.length} dimensions, expected {embeddingDimensions}"
  else .ok values

/-- Source `MAX_KEYWORD_TERMS`. -/
def maxKeywordTerms : Nat := 32

/-- Source `STOP_WORDS`. -/
def stopWords : List String :=
  ["a", "an", "the", "is", "are", "was", "were", "be", "been", "am", "do", "does", "did", "you",
    "your", "yours", "i", "my", "me", "we", "our", "us", "it", "its", "of", "to", "in", "on", "at",
    "for", "and", "or", "but", "if", "any", "there", "with", "by", "from", "that", "this", "these",
    "those", "have", "has", "had", "will", "would", "should", "can", "could", "may", "how", "what",
    "when", "where", "who", "which", "whom", "why", "so", "as", "not", "no", "و", "در", "به", "از",
    "که", "را", "این", "آن", "با", "برای", "است", "هست", "هستند", "هستید", "هستم", "بود", "باشد",
    "باشند", "می", "شود", "شد", "شده", "کرد", "کند", "کنم", "کنید", "کنند", "دارد", "دارند", "دارید",
    "دارم", "یا", "هم", "من", "شما", "ما", "او", "آنها", "ایشان", "تا", "بر", "یک", "آیا", "چه", "چی",
    "چند", "چقدر", "کجا", "کی", "چرا", "چطور", "چگونه", "اگر", "باید", "بشود", "نه", "ولی", "اما",
    "پس", "همه", "هر"]

/-- The loop over the matches of source `toKeywordQuery`. -/
def keywordTerms (unicode : Unicode) : List String → List String → List String
  | terms, [] => terms
  | terms, term :: rest =>
    if term ∈ stopWords ∨ (Utf16.ofString term).length = 1 ∧ ¬ unicode.number term then
      keywordTerms unicode terms rest
    else
      let terms := if term ∈ terms then terms else terms ++ [term]
      if terms.length ≥ maxKeywordTerms then terms else keywordTerms unicode terms rest

/-- Source `toKeywordQuery`. -/
def toKeywordQuery (unicode : Unicode) (text : String) : Option String :=
  let terms := keywordTerms unicode [] (unicode.words text)
  if terms.length = 0 then none else some (" | ".intercalate terms)

/-- Source `FUSION_K`. -/
def fusionK : ℚ := 3

/-- Source `KEYWORD_WEIGHT`: the number written `0.05`. -/
def keywordWeight : ℚ := nearest (5 / 100)

/-- Source `DEFAULT_LIMIT`. -/
def defaultLimit : ℚ := 8

/-- Source `DEFAULT_CANDIDATES`. -/
def defaultCandidates : ℚ := 30

/-- Source `MAX_CANDIDATES`. -/
def maxCandidates : ℚ := 200

/-- `rows.get(id)`, where a later row has taken the place of an earlier one. -/
def rowOf (rows : List (CandidateRow ι)) (id : ι) : Option (CandidateRow ι) :=
  rows.reverse.find? fun row => row.id = id

/-- A hit with its row. -/
def toHit (rows : List (CandidateRow ι)) (fused : FusedHit ι) : Except String (MemoryHit ι) :=
  match rowOf rows fused.id with
  | none => .error "fused hit without a row"
  | some row => .ok
    { chunkId := row.id
      sourceId := row.source_id
      sourceTitle := row.title
      position := row.position
      text := row.text
      score := fused.score
      vectorRank := (fused.ranks[0]?).getD none
      keywordRank := (fused.ranks[1]?).getD none }

/-- The number of candidates of each search. -/
def QuickSearchInput.candidates (input : QuickSearchInput) : ℚ :=
  min (input.candidatesPerSearch.getD defaultCandidates) maxCandidates

/-- The rows of the keyword search. -/
def QuickSearchInput.byKeyword (input : QuickSearchInput) (unicode : Unicode) (db : Passages ι) :
    List (CandidateRow ι) :=
  match toKeywordQuery unicode input.queryText with
  | none => []
  | some query => db.keywordRows input.workspaceId query input.candidates.num.toNat

/-- The ids a list of rows is fused by. -/
def rankedHits (rows : List (CandidateRow ι)) : List (RankedHit ι) :=
  rows.map fun row => ⟨row.id⟩

/-- Source `searchQuick`. -/
def searchQuick (unicode : Unicode) (db : Passages ι) (input : QuickSearchInput) :
    Except String (List (MemoryHit ι)) := do
  let limit := input.limit.getD defaultLimit
  if ¬ limit.isInt ∨ limit < 1 ∨ ¬ input.candidates.isInt ∨ input.candidates < 1 then
    throw "limit and candidatesPerSearch must be positive integers"
  let vector ← toVectorLiteral input.queryEmbedding
  let byVector := db.vectorRows input.workspaceId vector input.candidates.num.toNat
  let byKeyword := input.byKeyword unicode db
  let fused ← reciprocalRankFusion nearest [rankedHits byVector, rankedHits byKeyword]
    { k := some fusionK
      limit := some limit.num
      weights := some [1, input.keywordWeight.elim keywordWeight Double.val] }
  fused.mapM (toHit (byVector ++ byKeyword))

end Source

section Specification
variable (unicode : Unicode) (db : Passages ι) (input : QuickSearchInput)

/-- The rows of the vector search. -/
def QuickSearchInput.byVector : List (CandidateRow ι) :=
  db.vectorRows input.workspaceId input.queryEmbedding input.candidates.num.toNat

/-- The weight of the keyword list. -/
def QuickSearchInput.weight : ℚ :=
  input.keywordWeight.elim Memory.keywordWeight Double.val

/-- The inputs that are not refused. -/
structure QuickSearchInput.Accepted : Prop where
  limit : (input.limit.getD defaultLimit).isInt ∧ 1 ≤ input.limit.getD defaultLimit
  candidates : input.candidates.isInt ∧ 1 ≤ input.candidates
  vector : input.queryEmbedding.length = embeddingDimensions
  weight : 0 ≤ input.weight

/-- A hit with the row of its id, and with the ranks of its id in the two lists. -/
structure Carries (hit : MemoryHit ι) : Prop where
  row : ∃ row ∈ input.byVector db ++ input.byKeyword unicode db, row.id = hit.chunkId ∧
    row.source_id = hit.sourceId ∧ row.title = hit.sourceTitle ∧ row.position = hit.position ∧
    row.text = hit.text
  vector : hit.vectorRank = rankIn hit.chunkId (rankedHits (input.byVector db))
  keyword : hit.keywordRank = rankIn hit.chunkId (rankedHits (input.byKeyword unicode db))

/-- The keyword weight from which rounding lets a keyword hit draw level: `0.1999999999999999`. -/
def levelWeight : ℚ := nearest (1999999999999999 / 10000000000000000)

end Specification

section Rounding
variable {w : ℚ} {rank : Nat}

lemma nearest_fifth : nearest (1 / 5) = 7205759403792794 / 2 ^ 55 := by
  have digits : roundEven (1 / 5 / 2 ^ ((-3 : Int) - 52)) = 7205759403792794 := by
    apply roundEven_eq <;> norm_num
  rw [nearest_eq (e := -3) (by norm_num) (by norm_num) (by norm_num), digits]
  norm_num

lemma levelWeight_eq : levelWeight = 7205759403792790 / 2 ^ 55 := by
  have digits : roundEven (1999999999999999 / 10000000000000000 / 2 ^ ((-3 : Int) - 52)) =
      7205759403792790 := by
    apply roundEven_eq <;> norm_num
  rw [levelWeight, nearest_eq (e := -3) (by norm_num) (by norm_num) (by norm_num), digits]
  norm_num

lemma keywordWeight_eq : keywordWeight = 7205759403792794 / 2 ^ 57 := by
  have digits : roundEven (5 / 100 / 2 ^ ((-5 : Int) - 52)) = 7205759403792794 := by
    apply roundEven_eq <;> norm_num
  rw [keywordWeight, nearest_eq (e := -5) (by norm_num) (by norm_num) (by norm_num), digits]
  norm_num

/-- A number that is written with its last digit is a double. -/
lemma nearest_self {x : ℚ} {e n : Int} (normal : -1022 ≤ e) (is : x = n * 2 ^ (e - 52))
    (low : (2 : ℚ) ^ e ≤ n * 2 ^ (e - 52)) (high : n * 2 ^ (e - 52) < (2 : ℚ) ^ (e + 1)) :
    nearest x = x := by
  rw [is]
  exact nearest_mul normal low high

lemma nearest_quarter : nearest (1 / 4) = 1 / 4 := by
  apply nearest_self (e := -2) (n := 4503599627370496) <;> norm_num

lemma nearest_four : nearest 4 = 4 := by
  apply nearest_self (e := 2) (n := 4503599627370496) <;> norm_num

lemma nearest_five : nearest 5 = 5 := by
  apply nearest_self (e := 2) (n := 5629499534213120) <;> norm_num

lemma nearest_nearest_fifth : nearest (nearest (1 / 5)) = nearest (1 / 5) := by
  rw [nearest_fifth]
  apply nearest_self (e := -3) (n := 7205759403792794) <;> norm_num

/-- What the first place of the vector list counts. -/
lemma first_share : nearest (0 + nearest (1 / nearest (fusionK + (1 : Nat)))) = 1 / 4 := by
  have sum : fusionK + (1 : Nat) = 4 := by
    rw [fusionK]
    norm_num
  rw [sum, nearest_four, zero_add, nearest_quarter, nearest_quarter]

/-- What any other place of the vector list counts. -/
lemma later_share (later : 2 ≤ rank) :
    nearest (0 + nearest (1 / nearest (fusionK + rank))) ≤ nearest (1 / 5) := by
  have rank' : (2 : ℚ) ≤ rank := by exact_mod_cast later
  have divisor : 5 ≤ nearest (fusionK + rank) := by
    rw [← nearest_five]
    refine nearest_mono (by norm_num) ?_
    rw [fusionK]
    linarith
  have share : nearest (1 / nearest (fusionK + rank)) ≤ nearest (1 / 5) := by
    refine nearest_mono (by positivity) ?_
    exact one_div_le_one_div_of_le (by norm_num) divisor
  rw [zero_add, ← nearest_nearest_fifth]
  exact nearest_mono (nearest_nonneg (by positivity)) share

/-- What a place of the keyword list counts. -/
lemma keyword_share (nonneg : 0 ≤ w) (ranked : 1 ≤ rank) :
    0 ≤ nearest (w / nearest (fusionK + rank)) ∧
      nearest (w / nearest (fusionK + rank)) ≤ nearest (w / 4) := by
  have rank' : (1 : ℚ) ≤ rank := by exact_mod_cast ranked
  have divisor : 4 ≤ nearest (fusionK + rank) := by
    rw [← nearest_four]
    refine nearest_mono (by norm_num) ?_
    rw [fusionK]
    linarith
  have share : 0 ≤ w / nearest (fusionK + rank) := by positivity
  refine ⟨nearest_nonneg share, nearest_mono share ?_⟩
  exact div_le_div_of_nonneg_left nonneg (by norm_num) divisor

/-- The weights below the level weight are some last digits below it. -/
lemma le_of_lt_levelWeight (exact : nearest w = w) (below : w < levelWeight) :
    w ≤ 7205759403792789 / 2 ^ 55 := by
  rw [levelWeight_eq] at below
  rcases lt_or_ge w (1 / 8) with small | large
  · refine small.le.trans ?_
    norm_num
  · have digits := nearest_eq (x := w) (e := -3) (by norm_num) (by norm_num; exact large)
      (below.trans (by norm_num))
    rw [exact] at digits
    have unit : (2 : ℚ) ^ ((-3 : Int) - 52) = 1 / 2 ^ 55 := by norm_num
    rw [unit] at digits
    have count : roundEven (w / (1 / 2 ^ 55)) < 7205759403792790 := by
      have count : (roundEven (w / (1 / 2 ^ 55)) : ℚ) < 7205759403792790 := by
        rw [digits, mul_one_div] at below
        exact (div_lt_div_iff_of_pos_right (by positivity)).mp below
      exact_mod_cast count
    have most : (roundEven (w / (1 / 2 ^ 55)) : ℚ) ≤ 7205759403792789 := by
      exact_mod_cast Int.lt_add_one_iff.mp count
    rw [digits, mul_one_div]
    exact div_le_div_of_nonneg_right most (by positivity)

/-- With such a weight the second of the vector list and first of the keyword list stays below the
first of the vector list. -/
lemma total_lt (nonneg : 0 ≤ w) (exact : nearest w = w) (below : w < levelWeight) :
    nearest (nearest (1 / 5) + nearest (w / 4)) < 1 / 4 := by
  have least : nearest (w / 4) ≤ 7205759403792789 / 2 ^ 57 := by
    have self : nearest (7205759403792789 / 2 ^ 57) = 7205759403792789 / 2 ^ 57 := by
      apply nearest_self (e := -5) (n := 7205759403792789) <;> norm_num
    rw [← self]
    refine nearest_mono (by positivity) ?_
    linarith [le_of_lt_levelWeight exact below]
  have sum : nearest (nearest (1 / 5) + nearest (w / 4)) ≤
      nearest (7205759403792794 / 2 ^ 55 + 7205759403792789 / 2 ^ 57) := by
    refine nearest_mono (add_nonneg (nearest_nonneg (by norm_num)) (nearest_nonneg (by positivity))) ?_
    rw [nearest_fifth]
    exact add_le_add_right least _
  refine sum.trans_lt ?_
  have digits : roundEven ((7205759403792794 / 2 ^ 55 + 7205759403792789 / 2 ^ 57) /
      2 ^ ((-3 : Int) - 52)) = 9007199254740991 := by
    apply roundEven_eq <;> norm_num
  rw [nearest_eq (e := -3) (by norm_num) (by norm_num) (by norm_num), digits]
  norm_num

/-- With the level weight they draw level. -/
lemma total_levelWeight : nearest (nearest (1 / 5) + nearest (levelWeight / 4)) = 1 / 4 := by
  have share : nearest (levelWeight / 4) = 7205759403792790 / 2 ^ 57 := by
    have self : nearest (7205759403792790 / 2 ^ 57) = 7205759403792790 / 2 ^ 57 := by
      apply nearest_self (e := -5) (n := 7205759403792790) <;> norm_num
    rw [← self, levelWeight_eq]
    norm_num
  have digits : roundEven ((7205759403792794 / 2 ^ 55 + 7205759403792790 / 2 ^ 57) /
      2 ^ ((-3 : Int) - 52)) = 9007199254740992 := by
    apply roundEven_half <;> norm_num
  rw [share, nearest_fifth, nearest_eq (e := -3) (by norm_num) (by norm_num) (by norm_num), digits]
  norm_num

end Rounding

section Top
variable {w : ℚ} {byVector byKeyword : List (RankedHit ι)} {a b : ι}

lemma one_le_rankIn {list : List (RankedHit ι)} {rank : Nat} (ranked : rankIn a list = some rank) :
    1 ≤ rank := by
  obtain ⟨_, rfl⟩ := mem_of_rankIn ranked
  exact Nat.le_add_left 1 _

lemma rankIn_head : rankIn a (⟨a⟩ :: byVector) = some 1 := by
  rw [rankIn, List.map_cons, if_pos List.mem_cons_self, List.idxOf_cons_self]

/-- Only the first hit of a list has the first rank. -/
lemma two_le_rankIn {rank : Nat} (ranked : rankIn b (⟨a⟩ :: byVector) = some rank) (ne : b ≠ a) :
    2 ≤ rank := by
  obtain ⟨_, rfl⟩ := mem_of_rankIn ranked
  rw [List.map_cons, List.idxOf_cons_ne _ ne.symm]
  omega

/-- The score of the first hit of the vector list. -/
lemma quarter_le (nonneg : 0 ≤ w) :
    1 / 4 ≤ (hitOf nearest fusionK [1, w] [⟨a⟩ :: byVector, byKeyword] a).score := by
  show 1 / 4 ≤ scoreOf nearest fusionK a 0 [(⟨a⟩ :: byVector, 1), (byKeyword, w)]
  rw [scoreOf, rankIn_head]
  dsimp only
  rw [first_share, scoreOf]
  cases ranked : rankIn a byKeyword with
  | none => exact le_refl _
  | some rank =>
    have share := (keyword_share nonneg (one_le_rankIn ranked)).1
    have most : nearest (1 / 4) ≤ nearest (1 / 4 + nearest (w / nearest (fusionK + rank))) :=
      nearest_mono (by norm_num) (le_add_of_nonneg_right share)
    rw [nearest_quarter] at most
    exact most

/-- The score of any other hit. -/
lemma score_le (nonneg : 0 ≤ w) (ne : b ≠ a) :
    (hitOf nearest fusionK [1, w] [⟨a⟩ :: byVector, byKeyword] b).score ≤
      nearest (nearest (1 / 5) + nearest (w / 4)) := by
  show scoreOf nearest fusionK b 0 [(⟨a⟩ :: byVector, 1), (byKeyword, w)] ≤ _
  have fifth : 0 ≤ nearest (1 / 5) := nearest_nonneg (by norm_num)
  have quarter : 0 ≤ nearest (w / 4) := nearest_nonneg (by positivity)
  -- What the keyword list adds to a score that the vector list leaves.
  have add {score : ℚ} (low : 0 ≤ score) (high : score ≤ nearest (1 / 5)) :
      scoreOf nearest fusionK b score [(byKeyword, w)] ≤ nearest (nearest (1 / 5) + nearest (w / 4)) := by
    rw [scoreOf]
    cases ranked : rankIn b byKeyword with
    | none =>
      have least : nearest (nearest (1 / 5)) ≤ nearest (nearest (1 / 5) + nearest (w / 4)) :=
        nearest_mono fifth (le_add_of_nonneg_right quarter)
      rw [nearest_nearest_fifth] at least
      exact high.trans least
    | some rank =>
      obtain ⟨share, most⟩ := keyword_share nonneg (one_le_rankIn ranked)
      exact nearest_mono (add_nonneg low share) (add_le_add high most)
  rw [scoreOf]
  cases ranked : rankIn b (⟨a⟩ :: byVector) with
  | none => exact add (le_refl 0) fifth
  | some rank =>
    have later := two_le_rankIn ranked ne
    refine add (nearest_nonneg ?_) (later_share later)
    rw [zero_add]
    refine nearest_nonneg (div_nonneg (by norm_num) (nearest_nonneg ?_))
    rw [fusionK]
    positivity

/-- A hit that no other one is before is the first one. -/
lemma head_fuse {round : ℚ → ℚ} {k : ℚ} {weights : List ℚ} {lists : List (List (RankedHit ι))}
    (lengths : weights.length = lists.length) (listed : ∃ list ∈ lists, a ∈ list.map RankedHit.id)
    (least : ∀ b, (∃ list ∈ lists, b ∈ list.map RankedHit.id) → b ≠ a →
      (hitOf round k weights lists a).key < (hitOf round k weights lists b).key) :
    (fuse round k weights lists).head? = some (hitOf round k weights lists a) := by
  obtain ⟨ids, distinct, members, is⟩ := fuse_eq round k lengths
  have sorted : (fuse round k weights lists).Pairwise FusedHit.before :=
    is ▸ List.pairwise_insertionSort _ _
  have moved : (fuse round k weights lists).Perm (ids.map (hitOf round k weights lists)) :=
    is ▸ List.perm_insertionSort _ _
  have mem : hitOf round k weights lists a ∈ fuse round k weights lists :=
    moved.symm.subset (List.mem_map_of_mem ((members a).mpr listed))
  cases found : fuse round k weights lists with
  | nil =>
    rw [found] at mem
    cases mem
  | cons first rest =>
    rw [found] at mem sorted moved
    rcases List.mem_cons.mp mem with rfl | later
    · rfl
    · obtain ⟨b, known, rfl⟩ := List.mem_map.mp (moved.subset List.mem_cons_self)
      have before := before_iff.mp ((List.pairwise_cons.mp sorted).1 _ later)
      by_cases same : b = a
      · subst same
        rfl
      · exact absurd before (least b ((members b).mp known) same).not_ge

/-- Below the level weight the first hit of the vector list is the first one. -/
lemma head_fuse_of_lt (nonneg : 0 ≤ w) (exact : nearest w = w) (below : w < levelWeight) :
    (fuse nearest fusionK [1, w] [⟨a⟩ :: byVector, byKeyword]).head?.map FusedHit.id = some a := by
  have listed : ∃ list ∈ [⟨a⟩ :: byVector, byKeyword], a ∈ list.map RankedHit.id :=
    ⟨_, List.mem_cons_self, List.mem_cons_self⟩
  rw [head_fuse rfl listed]
  · rfl
  · intro b _ ne
    refine Prod.Lex.toLex_lt_toLex.mpr (.inl (OrderDual.toDual_lt_toDual.mpr ?_))
    calc (hitOf nearest fusionK [1, w] [⟨a⟩ :: byVector, byKeyword] b).score
      _ ≤ nearest (nearest (1 / 5) + nearest (w / 4)) := score_le nonneg ne
      _ < 1 / 4 := total_lt nonneg exact below
      _ ≤ _ := quarter_le nonneg

end Top

section Search
variable {unicode : Unicode} {db : Passages ι} {input : QuickSearchInput}

/-- The hits of the fusion. -/
def fusedHits (unicode : Unicode) (db : Passages ι) (input : QuickSearchInput) : List (FusedHit ι) :=
  fuse nearest fusionK [1, input.weight]
    [rankedHits (input.byVector db), rankedHits (input.byKeyword unicode db)]

omit [LinearOrder ι] in
lemma mem_rankedHits {rows : List (CandidateRow ι)} {id : ι} :
    id ∈ (rankedHits rows).map RankedHit.id ↔ ∃ row ∈ rows, row.id = id := by
  rw [rankedHits, List.map_map, List.mem_map]
  rfl

lemma rowOf_spec {rows : List (CandidateRow ι)} {id : ι} (listed : ∃ row ∈ rows, row.id = id) :
    ∃ row ∈ rows, row.id = id ∧ rowOf rows id = some row := by
  obtain ⟨row, mem, is⟩ := listed
  cases found : rowOf rows id with
  | none =>
    have none := List.find?_eq_none.mp found row (List.mem_reverse.mpr mem)
    exact absurd (decide_eq_true is) none
  | some row =>
    have same := List.find?_some found
    exact ⟨row, List.mem_reverse.mp (List.mem_of_find?_eq_some found), of_decide_eq_true same, rfl⟩

/-- A fused hit has the ranks of its id, and some row has its id. -/
lemma fusedHits_spec {fused : FusedHit ι} (mem : fused ∈ fusedHits unicode db input) :
    fused.ranks = [rankIn fused.id (rankedHits (input.byVector db)),
      rankIn fused.id (rankedHits (input.byKeyword unicode db))] ∧
    ∃ row ∈ input.byVector db ++ input.byKeyword unicode db, row.id = fused.id := by
  have lengths : [1, input.weight].length =
    [rankedHits (input.byVector db), rankedHits (input.byKeyword unicode db)].length := rfl
  obtain ⟨ids, _, members, is⟩ := fuse_eq nearest fusionK lengths
  rw [fusedHits, is, List.mem_insertionSort] at mem
  obtain ⟨id, known, rfl⟩ := List.mem_map.mp mem
  refine ⟨rfl, ?_⟩
  obtain ⟨list, held, mem⟩ := (members id).mp known
  rcases List.mem_pair.mp held with rfl | rfl
  · obtain ⟨row, mem, is⟩ := mem_rankedHits.mp mem
    exact ⟨row, List.mem_append_left _ mem, is⟩
  · obtain ⟨row, mem, is⟩ := mem_rankedHits.mp mem
    exact ⟨row, List.mem_append_right _ mem, is⟩

/-- A fused hit becomes a hit with its row. -/
lemma toHit_carries {fused : FusedHit ι} (mem : fused ∈ fusedHits unicode db input) :
    ∃ hit, toHit (input.byVector db ++ input.byKeyword unicode db) fused = .ok hit ∧
      hit.chunkId = fused.id ∧ Carries unicode db input hit := by
  obtain ⟨ranks, listed⟩ := fusedHits_spec mem
  obtain ⟨row, known, is, found⟩ := rowOf_spec listed
  rw [toHit, found]
  refine ⟨_, rfl, is, ⟨row, known, rfl, rfl, rfl, rfl, rfl⟩, ?_, ?_⟩
  · dsimp only
    rw [ranks, is]
    rfl
  · dsimp only
    rw [ranks, is]
    rfl

lemma mapM_toHit {fused : List (FusedHit ι)} (known : ∀ f ∈ fused, f ∈ fusedHits unicode db input) :
    ∃ hits, fused.mapM (toHit (input.byVector db ++ input.byKeyword unicode db)) = .ok hits ∧
      hits.map MemoryHit.chunkId = fused.map FusedHit.id ∧ ∀ hit ∈ hits, Carries unicode db input hit := by
  induction fused with
  | nil => exact ⟨[], rfl, rfl, fun _ mem => absurd mem List.not_mem_nil⟩
  | cons f fused ih =>
    obtain ⟨hits, done, ids, carries⟩ := ih fun f' mem => known f' (List.mem_cons_of_mem _ mem)
    obtain ⟨hit, became, id, carried⟩ := toHit_carries (known f List.mem_cons_self)
    refine ⟨hit :: hits, ?_, ?_, ?_⟩
    · rw [List.mapM_cons, became, done]
      rfl
    · rw [List.map_cons, List.map_cons, ids, id]
    · intro other mem
      rcases List.mem_cons.mp mem with rfl | mem
      · exact carried
      · exact carries other mem

lemma sliceTo_num {α : Type} {limit : ℚ} {xs : List α} (positive : 1 ≤ limit) :
    sliceTo limit.num xs = xs.take limit.num.toNat := by
  have num : 0 ≤ limit.num := Rat.num_nonneg.mpr (zero_le_one.trans positive)
  rw [sliceTo, if_neg num.not_gt]

/-- The search of an input that is accepted. -/
lemma searchQuick_ok (accepted : input.Accepted) :
    searchQuick unicode db input =
      ((fusedHits unicode db input).take (input.limit.getD defaultLimit).num.toNat).mapM
        (toHit (input.byVector db ++ input.byKeyword unicode db)) := by
  obtain ⟨⟨whole, positive⟩, ⟨whole', positive'⟩, vector, nonneg⟩ := accepted
  have checked : ¬ (¬ (input.limit.getD defaultLimit).isInt ∨ input.limit.getD defaultLimit < 1 ∨
      ¬ input.candidates.isInt ∨ input.candidates < 1) := by
    rintro (part | less | part | less)
    · exact part whole
    · exact less.not_ge positive
    · exact part whole'
    · exact less.not_ge positive'
  have literal : toVectorLiteral input.queryEmbedding = .ok input.queryEmbedding := by
    rw [toVectorLiteral, if_neg (not_not.mpr vector)]
  have weights : ∀ w ∈ [1, input.weight], 0 ≤ w := by
    intro w mem
    rcases List.mem_pair.mp mem with rfl | rfl
    · exact zero_le_one
    · exact nonneg
  have positive'' : 0 < fusionK := by
    rw [fusionK]
    norm_num
  have fused : reciprocalRankFusion nearest
      [rankedHits (input.byVector db), rankedHits (input.byKeyword unicode db)]
      { k := some fusionK
        limit := some (input.limit.getD defaultLimit).num
        weights := some [1, input.weight] } =
      .ok (sliceTo (input.limit.getD defaultLimit).num (fusedHits unicode db input)) :=
    reciprocalRankFusion_ok positive'' rfl weights
  rw [searchQuick]
  dsimp only
  rw [if_neg checked, literal]
  show (reciprocalRankFusion nearest
    [rankedHits (input.byVector db), rankedHits (input.byKeyword unicode db)]
    { k := some fusionK
      limit := some (input.limit.getD defaultLimit).num
      weights := some [1, input.weight] } >>= fun fused => fused.mapM _) = _
  rw [fused, sliceTo_num positive]
  rfl

lemma searchQuick_hits (unicode : Unicode) (db : Passages ι) (accepted : input.Accepted) :
    ∃ hits, searchQuick unicode db input = .ok hits ∧ (∀ hit ∈ hits, Carries unicode db input hit) ∧
      hits.head?.map MemoryHit.chunkId = (fusedHits unicode db input).head?.map FusedHit.id := by
  obtain ⟨hits, done, ids, carries⟩ : ∃ hits, _ ∧ _ ∧ _ :=
    mapM_toHit fun f (mem : f ∈ (fusedHits unicode db input).take (input.limit.getD defaultLimit).num.toNat) =>
      List.mem_of_mem_take mem
  refine ⟨hits, (searchQuick_ok accepted).trans done, carries, ?_⟩
  have some_hit : (input.limit.getD defaultLimit).num.toNat ≠ 0 := by
    have positive := accepted.limit.2
    have num : 0 < (input.limit.getD defaultLimit).num := Rat.num_pos.mpr (zero_lt_one.trans_le positive)
    omega
  rw [← List.head?_map, ← List.head?_map, ids, List.map_take, List.head?_take, if_neg some_hit]

/-- An input that is not accepted has no hits. -/
lemma searchQuick_error (unicode : Unicode) (db : Passages ι) (refused : ¬ input.Accepted) :
    ∃ error, searchQuick unicode db input = .error error := by
  rw [searchQuick]
  dsimp only
  split
  · exact ⟨_, rfl⟩
  · rename_i checked
    rw [toVectorLiteral]
    split
    · exact ⟨_, rfl⟩
    · rename_i vector
      refine ⟨"weights must be one finite, non-negative number per list", ?_⟩
      have weight : input.weight < 0 := by
        refine lt_of_not_ge fun nonneg => refused ?_
        refine ⟨⟨?_, ?_⟩, ⟨?_, ?_⟩, not_not.mp vector, nonneg⟩
        · exact by_contra fun part => checked (.inl part)
        · exact le_of_not_gt fun less => checked (.inr (.inl less))
        · exact by_contra fun part => checked (.inr (.inr (.inl part)))
        · exact le_of_not_gt fun less => checked (.inr (.inr (.inr less)))
      have refuses : reciprocalRankFusion nearest
          [rankedHits (input.byVector db), rankedHits (input.byKeyword unicode db)]
          { k := some fusionK
            limit := some (input.limit.getD defaultLimit).num
            weights := some [1, input.weight] } =
          .error "weights must be one finite, non-negative number per list" := by
        have negative : [1, input.weight].any (fun w => ¬ w ≥ 0) = true :=
          List.any_eq_true.mpr ⟨input.weight, List.mem_cons_of_mem _ List.mem_cons_self,
            decide_eq_true weight.not_ge⟩
        have positive : ¬ ¬ fusionK > 0 := by
          rw [fusionK]
          norm_num
        rw [reciprocalRankFusion]
        dsimp only [Option.getD]
        rw [if_neg positive, if_pos (.inr negative)]
      show (reciprocalRankFusion nearest
        [rankedHits (input.byVector db), rankedHits (input.byKeyword unicode db)]
        { k := some fusionK
          limit := some (input.limit.getD defaultLimit).num
          weights := some [1, input.weight] } >>= fun fused => fused.mapM _) = _
      rw [refuses]
      rfl

/-- The default weight is a double below the level weight. -/
lemma weight_exact : nearest input.weight = input.weight := by
  rw [QuickSearchInput.weight]
  cases input.keywordWeight with
  | none =>
    show nearest keywordWeight = keywordWeight
    rw [keywordWeight_eq]
    apply nearest_self (e := -5) (n := 7205759403792794) <;> norm_num
  | some w => exact w.exact

lemma weight_lt (below : ∀ w ∈ input.keywordWeight, w.val < levelWeight) : input.weight < levelWeight := by
  rw [QuickSearchInput.weight]
  cases given : input.keywordWeight with
  | none =>
    show keywordWeight < levelWeight
    rw [keywordWeight_eq, levelWeight_eq]
    norm_num
  | some w => exact below w given

lemma accepted_of_ok {hits : List (MemoryHit ι)} (found : searchQuick unicode db input = .ok hits) :
    input.Accepted := by
  by_contra refused
  obtain ⟨error, failed⟩ := searchQuick_error unicode db refused
  cases found.symm.trans failed

/-- A search that is accepted has hits, each with its row and its ranks, and below the level weight the
first one is the first of the vector list. -/
theorem searchQuick_first (unicode : Unicode) (db : Passages ι) (input : QuickSearchInput) :
    ((∃ hits, searchQuick unicode db input = .ok hits) ↔ input.Accepted) ∧
    ∀ hits, searchQuick unicode db input = .ok hits →
      (∀ hit ∈ hits, Carries unicode db input hit) ∧
      ((∀ w ∈ input.keywordWeight, w.val < levelWeight) → ∀ row rest, input.byVector db = row :: rest →
        hits.head?.map MemoryHit.chunkId = some row.id) := by
  refine ⟨⟨fun ⟨hits, found⟩ => ?_, fun accepted => ?_⟩, fun hits found => ?_⟩
  · exact accepted_of_ok found
  · obtain ⟨hits, found, _⟩ := searchQuick_hits unicode db accepted
    exact ⟨hits, found⟩
  · have accepted := accepted_of_ok found
    obtain ⟨hits', found', carries, head⟩ := searchQuick_hits unicode db accepted
    obtain rfl : hits = hits' := Except.ok.inj (found.symm.trans found')
    refine ⟨carries, fun below row rest is => ?_⟩
    rw [head, fusedHits, is]
    exact head_fuse_of_lt accepted.weight weight_exact (weight_lt below)

section Level

/-- The answers of a database to a search for a word of the second row. -/
def levelPassages : Passages Nat where
  vectorRows _ _ _ := [⟨2, "a", "A", 0, "first"⟩, ⟨1, "b", "B", 0, "second"⟩]
  keywordRows _ _ _ := [⟨1, "b", "B", 0, "second"⟩]

/-- A search with a keyword weight. -/
def levelInput (w : Double) : QuickSearchInput where
  workspaceId := "w"
  queryText := "second"
  queryEmbedding := List.replicate embeddingDimensions ⟨0, nearest_zero⟩
  keywordWeight := some w

lemma levelInput_accepted {w : Double} (nonneg : 0 ≤ w.val) : (levelInput w).Accepted where
  limit := ⟨rfl, by show (1 : ℚ) ≤ 8; norm_num⟩
  candidates := by
    have least : (levelInput w).candidates = 30 := by
      show min (30 : ℚ) 200 = 30
      norm_num
    rw [least]
    exact ⟨rfl, by norm_num⟩
  vector := List.length_replicate
  weight := nonneg

/-- The largest weight below the level weight. -/
def belowLevel : Double where
  val := 7205759403792789 / 2 ^ 55
  exact := by apply nearest_self (e := -3) (n := 7205759403792789) <;> norm_num

/-- The level weight. -/
def atLevel : Double where
  val := levelWeight
  exact := by
    rw [levelWeight_eq]
    apply nearest_self (e := -3) (n := 7205759403792790) <;> norm_num

/-- One word is found in every text. -/
def levelUnicode : Unicode where
  words _ := ["second"]
  number _ := false

lemma levelInput_query : toKeywordQuery levelUnicode "second" = some "second" := by
  decide

lemma levelInput_byKeyword {w : Double} :
    (levelInput w).byKeyword levelUnicode levelPassages = [⟨1, "b", "B", 0, "second"⟩] := by
  rw [QuickSearchInput.byKeyword]
  show (match toKeywordQuery levelUnicode "second" with
    | none => []
    | some query => levelPassages.keywordRows "w" query _) = _
  rw [levelInput_query]
  rfl

theorem searchQuick_first_belowLevel :
    ∃ hits, searchQuick levelUnicode levelPassages (levelInput belowLevel) = .ok hits ∧
      hits.head?.map MemoryHit.chunkId = some 2 := by
  have nonneg : 0 ≤ belowLevel.val := by
    show (0 : ℚ) ≤ 7205759403792789 / 2 ^ 55
    norm_num
  have below : ∀ w ∈ (levelInput belowLevel).keywordWeight, w.val < levelWeight := by
    intro w is
    obtain rfl := Option.some.inj is
    show (7205759403792789 / 2 ^ 55 : ℚ) < levelWeight
    rw [levelWeight_eq]
    norm_num
  have first := searchQuick_first levelUnicode levelPassages (levelInput belowLevel)
  obtain ⟨hits, found⟩ := first.1.mpr (levelInput_accepted nonneg)
  exact ⟨hits, found, (first.2 hits found).2 below _ _ rfl⟩

/-- The lists of the search. -/
def levelLists : List (List (RankedHit Nat)) :=
  [[⟨2⟩, ⟨1⟩], [⟨1⟩]]

lemma score_second : (hitOf nearest fusionK [1, levelWeight] levelLists 1).score = 1 / 4 := by
  show nearest (nearest (0 + nearest (1 / nearest (fusionK + (2 : Nat)))) +
    nearest (levelWeight / nearest (fusionK + (1 : Nat)))) = 1 / 4
  have five : fusionK + (2 : Nat) = 5 := by
    rw [fusionK]
    norm_num
  have four : fusionK + (1 : Nat) = 4 := by
    rw [fusionK]
    norm_num
  rw [five, four, nearest_five, nearest_four, zero_add, nearest_nearest_fifth, total_levelWeight]

lemma score_first : (hitOf nearest fusionK [1, levelWeight] levelLists 2).score = 1 / 4 :=
  first_share

lemma best_level : best (hitOf nearest fusionK [1, levelWeight] levelLists 1).ranks =
    best (hitOf nearest fusionK [1, levelWeight] levelLists 2).ranks := by
  show best [some 2, some 1] = best [some 1, none]
  decide

/-- At the level weight, which is below a fifth, the id decides. -/
theorem second_searchQuick_atLevel :
    ¬ ∀ (unicode : Unicode) (db : Passages Nat) (input : QuickSearchInput) (hits : List (MemoryHit Nat)),
      searchQuick unicode db input = .ok hits → (∀ w ∈ input.keywordWeight, w.val < 1 / 5) →
        ∀ row rest, input.byVector db = row :: rest →
          hits.head?.map MemoryHit.chunkId = some row.id := by
  intro all
  have nonneg : 0 ≤ atLevel.val := by
    show 0 ≤ levelWeight
    rw [levelWeight_eq]
    norm_num
  have below : ∀ w ∈ (levelInput atLevel).keywordWeight, w.val < 1 / 5 := by
    intro w is
    obtain rfl := Option.some.inj is
    show levelWeight < 1 / 5
    rw [levelWeight_eq]
    norm_num
  obtain ⟨hits, found, _, head⟩ :=
    searchQuick_hits levelUnicode levelPassages (levelInput_accepted nonneg)
  have claimed := all _ _ _ hits found below _ _ rfl
  rw [head, fusedHits, levelInput_byKeyword] at claimed
  have listed : ∃ list ∈ levelLists, 1 ∈ list.map RankedHit.id := by decide
  have second : (fuse nearest fusionK [1, levelWeight] levelLists).head? =
      some (hitOf nearest fusionK [1, levelWeight] levelLists 1) := by
    refine head_fuse rfl listed fun b known ne => ?_
    obtain rfl : b = 2 := by
      obtain ⟨list, held, mem⟩ := known
      rcases List.mem_pair.mp held with rfl | rfl
      · exact (List.mem_pair.mp mem).resolve_right ne
      · exact absurd (List.mem_singleton.mp mem) ne
    refine Prod.Lex.toLex_lt_toLex.mpr (.inr ⟨?_, Prod.Lex.toLex_lt_toLex.mpr (.inr ⟨best_level, ?_⟩)⟩)
    · exact congrArg OrderDual.toDual (score_second.trans score_first.symm)
    · exact Nat.one_lt_two
  have head' : Option.map FusedHit.id (fuse nearest fusionK [1, levelWeight] levelLists).head? = some 2 :=
    claimed
  rw [second] at head'
  cases head'

end Level

end Search

end AtomsPlatform.Memory
