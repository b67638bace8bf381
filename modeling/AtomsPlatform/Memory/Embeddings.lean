import AtomsPlatform.Memory.Accounting
import Mathlib.Data.List.Sort
import Mathlib.Algebra.Order.Ring.Rat

/-!
# Embeddings

The embedding call of the model gateway, and which vector of its answer an ingestion stores with which
chunk. The answer is sorted by the labels of its items and only counted, so a vector stands in the place
of its label exactly if every place below the number of texts is the label of some item.
-/

namespace AtomsPlatform.Memory
open Interleaving

section Source

/-- Source `ModelGatewayErrorCode`. -/
inductive ModelGatewayErrorCode where
  | authentication
  | invalidRequest
  | providerError
  | rateLimited
  | responseFailed
  | timeout
deriving DecidableEq, Repr

/-- Source `ModelGatewayError`. -/
structure ModelGatewayError where
  message : String
  code : ModelGatewayErrorCode
  retryable : Bool
  status : Option Nat := none
  providerRequestId : Option String := none
deriving DecidableEq, Repr

/-- What the call of the provider throws: an `APIError`, or something else with its message. -/
inductive ProviderError where
  | api (status : Option Nat) (message : String) (requestID : Option String)
  | other (message : Option String)
deriving DecidableEq, Repr

/-- Source `normalizeOpenAIError`, for what is not yet a `ModelGatewayError`. -/
def normalizeOpenAIError : ProviderError → ModelGatewayError
  | .api status message requestID =>
    { message
      code :=
        if status = some 401 ∨ status = some 403 then .authentication
        else if status = some 400 ∨ status = some 404 ∨ status = some 422 then .invalidRequest
        else if status = some 408 then .timeout
        else if status = some 429 then .rateLimited
        else .providerError
      retryable := status.all fun status => status = 408 ∨ status = 429 ∨ status ≥ 500
      status
      providerRequestId := requestID }
  | .other message =>
    { message := message.getD "OpenAI request failed", code := .providerError, retryable := false }

/-- An item of the provider's answer. A provider may leave the index out. -/
structure EmbeddingItem where
  index : Option ℚ
  embedding : List ℚ
deriving DecidableEq

/-- The provider's answer. -/
structure ProviderResponse where
  data : List EmbeddingItem
  model : String
  promptTokens : Option Int := none
  totalTokens : Option Int := none
deriving DecidableEq

/-- Source `EmbeddingRequest`. -/
structure EmbeddingRequest where
  inputs : List Utf16
  dimensions : Option Nat := none

/-- Source `EmbeddingResponse`, without the time it took and what it is estimated to cost. -/
structure EmbeddingResponse where
  model : String
  dimensions : Nat
  vectors : List (List ℚ)
  inputTokens : Int
  totalTokens : Int
deriving DecidableEq

/-- The fields of source `GeminiModelGateway` that `embed` reads; a client may be without embeddings. -/
structure GeminiModelGateway where
  embeddings : Bool := true
  embeddingModel : String := "gemini-embedding-001"
  embeddingDimensions : Nat := 768
  rateLimitRetryDelaysMs : List Nat := [10000, 25000, 45000]

/-- Source `MAX_EMBEDDING_INPUTS_PER_REQUEST`. -/
def maxEmbeddingInputsPerRequest : Nat := 100

/-- The comparison `a.index - b.index` of items that have one. -/
def EmbeddingItem.notAfter (a b : EmbeddingItem) : Prop :=
  a.index.getD 0 ≤ b.index.getD 0

instance (a b : EmbeddingItem) : Decidable (a.notAfter b) :=
  inferInstanceAs (Decidable (_ ≤ _))

/-- The host's `sort` with this comparison: it moves items, and it is a stable sort where the comparison
is one, that is, where every item has an index. -/
structure HostSort where
  sort : List EmbeddingItem → List EmbeddingItem
  perm : ∀ data, (sort data).Perm data
  sorted : ∀ data, (∀ item ∈ data, item.index ≠ none) →
    sort data = data.insertionSort EmbeddingItem.notAfter

variable (host : HostSort) (gateway : GeminiModelGateway)

/-- `request.dimensions ?? this.#embeddingDimensions` -/
def GeminiModelGateway.dimensionsOf (request : EmbeddingRequest) : Nat :=
  request.dimensions.getD gateway.embeddingDimensions

/-- The part of the loop of source `embed` that reads the provider's answer. -/
def readResponse (request : EmbeddingRequest) (response : ProviderResponse) :
    Except ModelGatewayError EmbeddingResponse :=
  let dimensions := gateway.dimensionsOf request
  let ordered := host.sort response.data
  if ordered.length ≠ request.inputs.length then
    .error
      { message := s!"the provider returned {ordered.length} vectors for {request.inputs.length} texts"
        code := .responseFailed
        retryable := true }
  else
    match ordered.find? fun item => item.embedding.length ≠ dimensions with
    | some item => .error
      { message := s!"the provider returned a vector of {item.embedding.length} numbers, expected {dimensions}"
        code := .responseFailed
        retryable := false }
    | none => .ok
      { model := if response.model = "" then gateway.embeddingModel else response.model
        dimensions
        vectors := ordered.map EmbeddingItem.embedding
        inputTokens := response.promptTokens.getD 0
        totalTokens := response.totalTokens.getD (response.promptTokens.getD 0) }

/-- One pass of the loop of source `embed`: the attempt, and what its `catch` block makes of an error. -/
def tryOnce (request : EmbeddingRequest) (answer : Except ProviderError ProviderResponse) :
    Except ModelGatewayError EmbeddingResponse :=
  match answer with
  | .error error => .error (normalizeOpenAIError error)
  | .ok response => readResponse host gateway request response

/-- The loop of source `embed`, with the delays that are left and the provider's answers. -/
def attempts (request : EmbeddingRequest) (answers : Nat → Except ProviderError ProviderResponse)
    (attempt : Nat) : List Nat → Except ModelGatewayError EmbeddingResponse
  | [] => tryOnce host gateway request (answers attempt)
  | _delay :: delays =>
    match tryOnce host gateway request (answers attempt) with
    | .ok reply => .ok reply
    | .error error =>
      if error.code ≠ .rateLimited then .error error
      else attempts request answers (attempt + 1) delays

/-- Source `embed`. -/
def embed (answers : Nat → Except ProviderError ProviderResponse) (request : EmbeddingRequest) :
    Except ModelGatewayError EmbeddingResponse :=
  if ¬ gateway.embeddings then
    .error
      { message := "this Gemini client cannot create embeddings"
        code := .invalidRequest
        retryable := false }
  else if request.inputs.length = 0 ∨ request.inputs.length > maxEmbeddingInputsPerRequest then
    .error
      { message :=
          s!"embed takes 1 to {maxEmbeddingInputsPerRequest} texts, got {request.inputs.length}"
        code := .invalidRequest
        retryable := false }
  else if request.inputs.any fun text => (Utf16.trim text).length = 0 then
    .error
      { message := "embed does not accept an empty text"
        code := .invalidRequest
        retryable := false }
  else attempts host gateway request answers 0 gateway.rateLimitRetryDelaysMs

end Source

section Labels
variable {n : Nat} {data : List EmbeddingItem} {vectors : List (List ℚ)}

/-- In the place of every text stands the vector of an item with the label of the place. -/
def Labelled (n : Nat) (data : List EmbeddingItem) (vectors : List (List ℚ)) : Prop :=
  ∀ i < n, ∃ item ∈ data, item.index = some (i : ℚ) ∧ vectors[i]? = some item.embedding

/-- The place of every text is a label. -/
def Complete (n : Nat) (data : List EmbeddingItem) : Prop :=
  ∀ i < n, ∃ item ∈ data, item.index = some (i : ℚ)

/-- The labels of the places. -/
def placeLabels (n : Nat) : List (Option ℚ) :=
  (List.range n).map fun i : Nat => some (i : ℚ)

instance : Std.Total EmbeddingItem.notAfter where
  total a b := le_total (a.index.getD 0) (b.index.getD 0)

instance : IsTrans EmbeddingItem EmbeddingItem.notAfter where
  trans _ _ _ first second := le_trans first second

/-- As many items as places: every place is the label of exactly one of them. -/
lemma Complete.labels (complete : Complete n data) (count : data.length = n) :
    (data.map EmbeddingItem.index).Perm (placeLabels n) := by
  have distinct : (placeLabels n).Nodup := by
    refine List.nodup_range.map fun i j same => ?_
    have same := Option.some.inj same
    exact_mod_cast same
  have within : (placeLabels n) ⊆ data.map EmbeddingItem.index := by
    intro label mem
    obtain ⟨i, below, rfl⟩ := List.mem_map.mp mem
    obtain ⟨item, held, is⟩ := complete i (List.mem_range.mp below)
    exact List.mem_map.mpr ⟨item, held, is⟩
  refine ((List.subperm_of_subset distinct within).perm_of_length_le ?_).symm
  rw [List.length_map, placeLabels, List.length_map, List.length_range, count]

/-- Sorting puts a complete answer in the order of its labels. -/
lemma Complete.sorted (host : HostSort) (complete : Complete n data) (count : data.length = n) :
    (host.sort data).map EmbeddingItem.index = placeLabels n := by
  have labels := complete.labels count
  have labelled : ∀ item ∈ data, item.index ≠ none := by
    intro item mem
    obtain ⟨i, _, is⟩ := List.mem_map.mp (labels.subset (List.mem_map_of_mem mem))
    rw [← is]
    exact Option.some_ne_none _
  have moved : ((host.sort data).map EmbeddingItem.index).Perm
      (placeLabels n) :=
    ((host.perm data).map _).trans labels
  have ordered : ((host.sort data).map EmbeddingItem.index).Pairwise
      fun a b => a.getD 0 ≤ b.getD 0 := by
    rw [host.sorted data labelled, List.pairwise_map]
    exact List.pairwise_insertionSort _ _
  have ordered' : (placeLabels n).Pairwise
      fun a b => a.getD 0 ≤ b.getD 0 := by
    refine List.pairwise_map.mpr (List.pairwise_lt_range.imp fun less => ?_)
    exact Rat.natCast_le_natCast.mpr less.le
  refine List.Perm.eq_of_pairwise ?_ ordered ordered' moved
  intro a b mem mem' first second
  obtain ⟨i, _, rfl⟩ := List.mem_map.mp (moved.subset mem)
  obtain ⟨j, _, rfl⟩ := List.mem_map.mp mem'
  exact congrArg some (le_antisymm first second)

/-- The vectors of a sorted answer stand in the places of their labels exactly if it is complete. -/
lemma labelled_iff (host : HostSort) (count : data.length = n) :
    Labelled n data ((host.sort data).map EmbeddingItem.embedding) ↔ Complete n data := by
  constructor
  · intro labelled i below
    obtain ⟨item, mem, is, _⟩ := labelled i below
    exact ⟨item, mem, is⟩
  · intro complete i below
    have sorted := complete.sorted host count
    have length : i < (host.sort data).length := by
      rwa [(host.perm data).length_eq, count]
    have label : (host.sort data)[i].index = some (i : ℚ) := by
      have here : ((host.sort data).map EmbeddingItem.index)[i]? = (placeLabels n)[i]? := by rw [sorted]
      rw [placeLabels, List.getElem?_map, List.getElem?_map, List.getElem?_eq_getElem length,
        List.getElem?_range below] at here
      exact Option.some.inj here
    refine ⟨(host.sort data)[i], (host.perm data).subset (List.getElem_mem length), label, ?_⟩
    rw [List.getElem?_map, List.getElem?_eq_getElem length]
    rfl

end Labels

section Embed
variable {host : HostSort} {gateway : GeminiModelGateway} {request : EmbeddingRequest}
  {answers : Nat → Except ProviderError ProviderResponse} {response : ProviderResponse}

/-- The answer that the attempts end with: the first one that is no rate limit, or that of the last
attempt. -/
def settledAnswer (answers : Nat → Except ProviderError ProviderResponse) (attempt : Nat) :
    List Nat → Except ProviderError ProviderResponse
  | [] => answers attempt
  | _delay :: delays =>
    match answers attempt with
    | .ok response => .ok response
    | .error error =>
      if (normalizeOpenAIError error).code = .rateLimited then
        settledAnswer answers (attempt + 1) delays
      else .error error

/-- The provider's answer for a gateway. -/
def GeminiModelGateway.answer (gateway : GeminiModelGateway)
    (answers : Nat → Except ProviderError ProviderResponse) : Except ProviderError ProviderResponse :=
  settledAnswer answers 0 gateway.rateLimitRetryDelaysMs

/-- The requests that are not refused. -/
structure GeminiModelGateway.Accepts (gateway : GeminiModelGateway) (request : EmbeddingRequest) : Prop where
  embeddings : gateway.embeddings = true
  some_input : request.inputs.length ≠ 0
  at_most : request.inputs.length ≤ maxEmbeddingInputsPerRequest
  texts : ∀ text ∈ request.inputs, (Utf16.trim text).length ≠ 0

/-- An answer with one vector of the right length for every text. -/
def WellSized (gateway : GeminiModelGateway) (request : EmbeddingRequest) (response : ProviderResponse) :
    Prop :=
  response.data.length = request.inputs.length ∧
    ∀ item ∈ response.data, item.embedding.length = gateway.dimensionsOf request

lemma readResponse_ok (host : HostSort) (sized : WellSized gateway request response) :
    ∃ reply, readResponse host gateway request response = .ok reply ∧
      reply.vectors = (host.sort response.data).map EmbeddingItem.embedding := by
  have count : ¬ (host.sort response.data).length ≠ request.inputs.length := by
    rw [(host.perm response.data).length_eq, not_not]
    exact sized.1
  have fits : (host.sort response.data).find?
      (fun item => item.embedding.length ≠ gateway.dimensionsOf request) = none := by
    refine List.find?_eq_none.mpr fun item mem misfit => ?_
    exact of_decide_eq_true misfit (sized.2 item ((host.perm response.data).subset mem))
  rw [readResponse, if_neg count, fits]
  exact ⟨_, rfl, rfl⟩

lemma readResponse_error (host : HostSort) (misfit : ¬ WellSized gateway request response) :
    ∃ error, readResponse host gateway request response = .error error ∧ error.code = .responseFailed := by
  rw [readResponse]
  split
  · exact ⟨_, rfl, rfl⟩
  · rename_i count
    split
    · exact ⟨_, rfl, rfl⟩
    · rename_i fits
      refine absurd ⟨?_, fun item mem => ?_⟩ misfit
      · rw [← (host.perm response.data).length_eq]
        exact not_not.mp count
      · have fit := List.find?_eq_none.mp fits item ((host.perm response.data).symm.subset mem)
        by_contra other
        exact fit (decide_eq_true other)

/-- The attempts read one answer. -/
lemma attempts_eq {attempt : Nat} {delays : List Nat} :
    attempts host gateway request answers attempt delays =
      tryOnce host gateway request (settledAnswer answers attempt delays) := by
  induction delays generalizing attempt with
  | nil => rfl
  | cons delay delays ih =>
    rw [attempts, settledAnswer]
    cases answers attempt with
    | error error =>
      by_cases limited : (normalizeOpenAIError error).code = .rateLimited
      · dsimp only [tryOnce]
        rw [if_pos limited, if_neg (not_not.mpr limited)]
        exact ih
      · dsimp only [tryOnce]
        rw [if_neg limited, if_pos limited]
    | ok response =>
      dsimp only [tryOnce]
      by_cases sized : WellSized gateway request response
      · obtain ⟨reply, is, _⟩ := readResponse_ok host sized
        rw [is]
      · obtain ⟨error, is, code⟩ := readResponse_error host sized
        have other : error.code ≠ .rateLimited := by
          rw [code]
          decide
        rw [is]
        dsimp only
        rw [if_pos other]

lemma embed_accepted (accepts : gateway.Accepts request) :
    embed host gateway answers request = tryOnce host gateway request (gateway.answer answers) := by
  obtain ⟨embeddings, some_input, at_most, texts⟩ := accepts
  have sized : ¬ (request.inputs.length = 0 ∨ request.inputs.length > maxEmbeddingInputsPerRequest) := by
    omega
  have written : ¬ request.inputs.any (fun text => (Utf16.trim text).length = 0) = true := by
    rw [List.any_eq_true]
    rintro ⟨text, mem, blank⟩
    exact texts text mem (of_decide_eq_true blank)
  rw [embed, if_neg (not_not.mpr embeddings), if_neg sized, if_neg written]
  exact attempts_eq

lemma embed_refused (refuses : ¬ gateway.Accepts request) :
    ∃ error, embed host gateway answers request = .error error := by
  rw [embed]
  split
  · exact ⟨_, rfl⟩
  split
  · exact ⟨_, rfl⟩
  split
  · exact ⟨_, rfl⟩
  · rename_i embeddings sized written
    refine absurd ⟨not_not.mp embeddings, ?_, ?_, fun text mem blank => ?_⟩ refuses
    · omega
    · omega
    · exact written (List.any_eq_true.mpr ⟨text, mem, decide_eq_true blank⟩)

/-- An embedding that succeeds has read an answer with one vector for every text. -/
lemma vectors_of_embed {reply : EmbeddingResponse}
    (ok : embed host gateway answers request = .ok reply) :
    gateway.Accepts request ∧ ∃ response, gateway.answer answers = .ok response ∧
      WellSized gateway request response ∧
      reply.vectors = (host.sort response.data).map EmbeddingItem.embedding := by
  by_cases accepts : gateway.Accepts request
  · rw [embed_accepted accepts] at ok
    cases answered : gateway.answer answers with
    | error error =>
      rw [answered] at ok
      cases ok
    | ok response =>
      rw [answered] at ok
      by_cases sized : WellSized gateway request response
      · obtain ⟨reply', is, vectors⟩ := readResponse_ok host sized
        cases is.symm.trans ok
        exact ⟨accepts, response, rfl, sized, vectors⟩
      · obtain ⟨error, is, _⟩ := readResponse_error host sized
        cases is.symm.trans ok
  · obtain ⟨error, failed⟩ : ∃ error, embed host gateway answers request = .error error :=
      embed_refused accepts
    cases failed.symm.trans ok

/-- The answer that an accepted request gets has the place of every text as a label, if it has one vector
of the right length for every text. -/
def CompleteAnswer (gateway : GeminiModelGateway) (answers : Nat → Except ProviderError ProviderResponse)
    (request : EmbeddingRequest) : Prop :=
  gateway.Accepts request → ∀ response, gateway.answer answers = .ok response →
    WellSized gateway request response → Complete request.inputs.length response.data

/-- Either the call throws, or the vector in the place of every text is that of an item with this label. -/
def EmbedsByLabel (host : HostSort) (gateway : GeminiModelGateway)
    (answers : Nat → Except ProviderError ProviderResponse) (request : EmbeddingRequest) : Prop :=
  ∀ reply, embed host gateway answers request = .ok reply →
    ∃ response, gateway.answer answers = .ok response ∧
      Labelled request.inputs.length response.data reply.vectors

lemma embedsByLabel_iff :
    EmbedsByLabel host gateway answers request ↔ CompleteAnswer gateway answers request := by
  constructor
  · intro labelled accepts response answered sized
    obtain ⟨reply, is, vectors⟩ := readResponse_ok host sized
    have ok : embed host gateway answers request = .ok reply := by
      rw [embed_accepted accepts, answered]
      exact is
    obtain ⟨response', answered', places⟩ := labelled reply ok
    cases answered.symm.trans answered'
    rw [vectors] at places
    exact (labelled_iff host sized.1).mp places
  · intro complete reply ok
    obtain ⟨accepts, response, answered, sized, vectors⟩ := vectors_of_embed ok
    refine ⟨response, answered, ?_⟩
    rw [vectors]
    exact (labelled_iff host sized.1).mpr (complete accepts response answered sized)

end Embed

section Batches
variable {α : Type} {n i b : Nat} {xss : List (List α)}

/-- Lists that are all full but the last one: an element of their concatenation is found by division. -/
lemma getElem?_flatten (positive : 0 < n)
    (full : ∀ b xs, xss[b]? = some xs → xs.length ≤ n ∧ (b + 1 < xss.length → xs.length = n)) :
    xss.flatten[i]? = xss[i / n]?.bind fun xs => xs[i % n]? := by
  induction xss generalizing i with
  | nil => rfl
  | cons xs xss ih =>
    have rest : ∀ b ys, xss[b]? = some ys → ys.length ≤ n ∧ (b + 1 < xss.length → ys.length = n) := by
      intro b ys here
      have shifted := full (b + 1) ys here
      rw [List.length_cons] at shifted
      exact ⟨shifted.1, fun more => shifted.2 (by omega)⟩
    obtain ⟨most, all⟩ := full 0 xs rfl
    rw [List.length_cons] at all
    rw [List.flatten_cons]
    rcases Nat.lt_or_ge i xs.length with inside | outside
    · have first : i / n = 0 := Nat.div_eq_of_lt (by omega)
      have place : i % n = i := Nat.mod_eq_of_lt (by omega)
      rw [List.getElem?_append_left inside, first, place]
      rfl
    · rw [List.getElem?_append_right outside]
      cases xss with
      | nil =>
        rcases Nat.lt_or_ge i n with small | large
        · rw [Nat.div_eq_of_lt small, Nat.mod_eq_of_lt small]
          exact (List.getElem?_eq_none outside).symm
        · obtain ⟨b, later⟩ : ∃ b, i / n = b + 1 :=
            Nat.exists_eq_succ_of_ne_zero (Nat.div_pos large positive).ne'
          rw [later]
          rfl
      | cons ys xss =>
        have exactly : xs.length = n := all (by rw [List.length_cons]; omega)
        rw [exactly] at outside ⊢
        have later : i / n = (i - n) / n + 1 := by
          rw [Nat.div_eq_sub_div positive outside]
        have place : i % n = (i - n) % n := Nat.mod_eq_sub_mod outside
        rw [later, place]
        exact ih rest

variable {chunks : List TextChunk}

lemma getElem?_batchesOf :
    (batchesOf chunks)[b]? = if b * embedBatchSize < chunks.length then
      some ((chunks.drop (b * embedBatchSize)).take embedBatchSize) else none := by
  rw [batchesOf, List.getElem?_map]
  split
  · rename_i inside
    rw [List.getElem?_range]
    · rfl
    · rw [embedBatchSize] at inside ⊢
      omega
  · rename_i outside
    rw [List.getElem?_eq_none]
    · rfl
    · rw [List.length_range]
      rw [embedBatchSize] at outside ⊢
      omega

lemma batch_length {batch : List TextChunk} (here : (batchesOf chunks)[b]? = some batch) :
    batch.length = min embedBatchSize (chunks.length - b * embedBatchSize) := by
  rw [getElem?_batchesOf] at here
  split at here
  · cases here
    rw [List.length_take, List.length_drop]
  · cases here

lemma getElem?_of_batch {batch : List TextChunk} {j : Nat} (here : (batchesOf chunks)[b]? = some batch)
    (below : j < embedBatchSize) : chunks[b * embedBatchSize + j]? = batch[j]? := by
  rw [getElem?_batchesOf] at here
  split at here
  · cases here
    rw [List.getElem?_take_of_lt below, List.getElem?_drop]
  · cases here

/-- A chunk is found in its batch. -/
lemma getElem?_batch {chunk : TextChunk} (here : chunks[i]? = some chunk) :
    ∃ batch, (batchesOf chunks)[i / embedBatchSize]? = some batch ∧
      batch[i % embedBatchSize]? = some chunk := by
  have below : i < chunks.length := (List.getElem?_eq_some_iff.mp here).1
  have start : i / embedBatchSize * embedBatchSize ≤ i := Nat.div_mul_le_self _ _
  refine ⟨_, by rw [getElem?_batchesOf, if_pos (start.trans_lt below)], ?_⟩
  rw [List.getElem?_take_of_lt (Nat.mod_lt _ (by decide)), List.getElem?_drop,
    Nat.div_add_mod' i embedBatchSize]
  exact here

end Batches

section Ingestion

/-- The texts and the answer of an embed call that was answered. -/
def embeddedOf : Event Operation (fun o => Except Failure o.Answer) →
    Option (List Utf16 × EmbedResponse)
  | ⟨.embed inputs, .ok response⟩ => some (inputs, response)
  | _ => none

/-- The embed calls of an ingestion that were answered. -/
def embedded (calls : IngestCalls) : List (List Utf16 × EmbedResponse) :=
  calls.filterMap embeddedOf

/-- Texts were embedded, and gave these vectors. -/
structure Gathered (texts : List (List Utf16)) (vectors : List (List ℚ)) (calls : IngestCalls) :
    Prop where
  inputs : (embedded calls).map Prod.fst = texts
  vectors : ((embedded calls).map fun e => e.2.vectors).flatten = vectors
  fit : ∀ e ∈ embedded calls, e.2.vectors.length = e.1.length

/-- What was embedded before a call that stores. -/
def storeAccount (nfc : Utf16 → Utf16) (input : IngestDocumentInput) (calls : IngestCalls) :
    Operation → Prop
  | .ingest stored => ∃ chunks model vectors, chunkText nfc input.text {} = .ok chunks ∧
      stored = ingestInput input (contentHash nfc input.text) chunks model vectors ∧
      Gathered ((batchesOf chunks).map fun batch => batch.map TextChunk.text) vectors calls
  | _ => True

/-- The calls that neither embed nor store. -/
def sparing : Contract Operation fun o => Except Failure o.Answer where
  requires
    | .embed _ | .ingest _ => False
    | _ => True
  ensures _ _ := True

variable {nfc : Utf16 → Utf16} {input : IngestDocumentInput}

lemma embedded_snoc {calls : IngestCalls} {o : Operation} {r : Except Failure o.Answer}
    (spares : sparing.requires o) : embedded (calls ++ [⟨o, r⟩]) = embedded calls := by
  have none : embeddedOf ⟨o, r⟩ = none := by
    cases o with
    | embed inputs => exact spares.elim
    | _ => rfl
  rw [embedded, List.filterMap_append, List.filterMap_cons_none none]
  exact List.append_nil _

lemma Gathered.kept {texts : List (List Utf16)} {vectors : List (List ℚ)} {calls : IngestCalls}
    {o : Operation} {r : Except Failure o.Answer} (spares : sparing.requires o)
    (gathered : Gathered texts vectors calls) : Gathered texts vectors (calls ++ [⟨o, r⟩]) := by
  have same : embedded (calls ++ [⟨o, r⟩]) = embedded calls := embedded_snoc spares
  obtain ⟨inputs, flat, fit⟩ := gathered
  constructor
  · rw [same, inputs]
  · rw [same, flat]
  · rw [same]
    exact fit

/-- The frame rule. -/
lemma sparing_account {α : Type} {p : Program α} {P : IngestCalls → Prop}
    (kept : ∀ {calls o} {r : Except Failure o.Answer}, sparing.requires o → P calls →
      P (calls ++ [⟨o, r⟩]))
    (spares : Yields sparing p fun _ => True) :
    Accounts (storeAccount nfc input) P p (fun _ => P) fun _ => P := by
  refine (Triple.of_fulfils spares ?_).mono (fun _ holds => holds) (fun _ _ holds => holds.2)
    fun _ _ holds => holds.2
  intro o calls K required holds rest
  refine ⟨?_, fun r => rest r _ trivial (kept required holds)⟩
  cases o with
  | ingest _ => exact required.elim
  | _ => trivial

lemma adjust_spares {workspaceId : Uuid} {delta : Int} :
    Yields sparing (adjust workspaceId delta) fun _ => True := by
  rw [adjust]
  split
  · exact .pure trivial
  · exact .step trivial fun _ _ => .call trivial fun _ _ => trivial

lemma reserve_spares {workspaceId : Uuid} {tokens : Nat} {dailyCap : Int} :
    Yields sparing (reserve workspaceId tokens dailyCap) fun _ => True := by
  rw [reserve]
  split
  · exact .throw
  split
  · exact .pure trivial
  · exact .step trivial fun _ _ => .call trivial fun _ _ => trivial

/-- The batches that are embedded add their texts and their vectors. -/
lemma embedBatches_gathers {spent : Nat} {done : Embedded} {batches : List (List TextChunk)}
    (texts : List (List Utf16)) :
    Accounts (storeAccount nfc input) (Gathered texts done.vectors) (embedBatches spent done batches)
      (fun r calls => ∀ found, r.2 = .ok found →
        Gathered (texts ++ batches.map fun batch => batch.map TextChunk.text) found.vectors calls)
      fun _ _ => False := by
  induction batches generalizing spent done texts with
  | nil =>
    refine .pure fun calls gathered found is => ?_
    cases is
    rw [List.map_nil, List.append_nil]
    exact gathered
  | cons batch batches ih =>
    have asked : Accounts (storeAccount nfc input) (Gathered texts done.vectors)
        (call (.embed (batch.map TextChunk.text)))
        (fun response calls => ∃ before, Gathered texts done.vectors before ∧
          calls = before ++ [⟨.embed (batch.map TextChunk.text), .ok response⟩])
        fun _ _ => True := by
      apply Accounts.call
      · exact fun _ _ => trivial
      · exact fun calls response gathered => ⟨calls, gathered, rfl⟩
      · exact fun _ _ _ => trivial
    apply Triple.bind (attempt_account asked)
    intro answer
    cases answer with
    | error error =>
      refine .pure fun calls _ found is => ?_
      cases is
    | ok response =>
      dsimp only
      split
      · refine .pure fun calls _ found is => ?_
        cases is
      rename_i count
      split
      · refine .pure fun calls _ found is => ?_
        cases is
      refine (ih (texts ++ [batch.map TextChunk.text])).mono ?_ ?_ fun _ _ impossible => impossible
      · rintro calls ⟨before, ⟨inputs, flat, fit⟩, rfl⟩
        have added : embedded (before ++ [⟨.embed (batch.map TextChunk.text), .ok response⟩]) =
            (embedded before).append [(batch.map TextChunk.text, response)] :=
          List.filterMap_append
        rw [List.append_eq] at added
        constructor
        · rw [added, List.map_append, inputs]
          rfl
        · rw [added, List.map_append, List.flatten_append, flat]
          exact congrArg _ (List.append_nil _)
        · intro e mem
          rw [added] at mem
          rcases List.mem_append.mp mem with mem | mem
          · exact fit e mem
          · rw [List.mem_singleton.mp mem]
            exact (not_not.mp count).trans (List.length_map _).symm
      · intro r calls gathered found is
        rw [List.map_cons, List.append_cons]
        exact gathered found is

lemma settle_gathers {workspaceId : Uuid} {estimated spent : Nat} {r : Except Failure Embedded}
    {texts : List (List Utf16)} :
    Accounts (storeAccount nfc input)
      (fun calls => ∀ found, r = .ok found → Gathered texts found.vectors calls)
      (settle workspaceId estimated spent r)
      (fun r calls => ∀ found, r = .ok found → Gathered texts found.2 calls) fun _ _ => False := by
  cases r with
  | error error =>
    refine .pure fun calls _ found is => ?_
    cases is
  | ok done =>
    rw [settle]
    cases done.model with
    | none =>
      refine .pure fun calls _ found is => ?_
      cases is
    | some model =>
      dsimp only
      have corrected : Accounts (storeAccount nfc input) (Gathered texts done.vectors)
          (attempt (adjust workspaceId ((spent : Int) - estimated)))
          (fun r calls => Outcome (fun _ => Gathered texts done.vectors calls)
            (fun _ => Gathered texts done.vectors calls) r) fun _ _ => False :=
        attempt_account (sparing_account Gathered.kept adjust_spares)
      refine .bind (corrected.mono (fun calls known => known done rfl) (fun _ _ holds => holds)
        fun _ _ impossible => impossible) fun settled => ?_
      cases settled with
      | error error =>
        refine .pure fun calls _ found is => ?_
        cases is
      | ok _ =>
        refine .pure fun calls gathered found is => ?_
        cases is
        exact gathered

lemma embedAndStore_gathers {chunks : List TextChunk} {estimated : Nat}
    (chunked : chunkText nfc input.text {} = .ok chunks) :
    Accounts (storeAccount nfc input) (Gathered [] [])
      (embedAndStore input (contentHash nfc input.text) chunks estimated) (fun _ _ => True)
      fun _ _ => True := by
  rw [embedAndStore]
  refine .bind (R := fun r calls => ∀ found, r.2 = .ok found →
    Gathered ((batchesOf chunks).map fun batch => batch.map TextChunk.text) found.vectors calls) ?_
      fun r => ?_
  · exact (embedBatches_gathers []).mono (fun _ holds => holds) (fun _ _ holds => holds)
      fun _ _ impossible => impossible.elim
  obtain ⟨spent, result⟩ := r
  refine .bind (settle_gathers.mono (fun _ holds => holds) (fun _ _ holds => holds)
    fun _ _ impossible => impossible.elim) fun settled => ?_
  cases settled with
  | error error =>
    refine .bind (R := fun _ _ => True) ?_ fun _ => .throw fun _ _ => trivial
    exact (sparing_account (P := fun _ => True) (fun _ _ => trivial) adjust_spares).mono
      (fun _ _ => trivial) (fun _ _ _ => trivial) fun _ _ _ => trivial
  | ok found =>
    refine .bind (R := fun _ _ => True) ?_ fun result => .pure fun _ _ => trivial
    apply Accounts.call
    · exact fun calls gathered => ⟨chunks, found.1, found.2, chunked, rfl, gathered found rfl⟩
    · exact fun _ _ _ => trivial
    · exact fun _ _ _ => trivial

lemma ingestDocument_gathers :
    Accounts (storeAccount nfc input) (fun calls => calls = []) (ingestDocument nfc input)
      (fun _ _ => True) fun _ _ => True := by
  have fresh : ∀ calls : IngestCalls, calls = [] → Gathered [] [] calls := by
    rintro calls rfl
    exact ⟨rfl, rfl, fun _ mem => absurd mem List.not_mem_nil⟩
  rw [ingestDocument]
  split
  · exact .throw fun _ _ => trivial
  have spares : Yields sparing (call (.findSourceIdByHash input.workspaceId (contentHash nfc input.text)))
      fun _ => True := .call trivial fun _ _ => trivial
  have found : Accounts (storeAccount nfc input) (fun calls => calls = [])
      (call (.findSourceIdByHash input.workspaceId (contentHash nfc input.text)))
      (fun _ => Gathered [] []) fun _ _ => True :=
    (sparing_account Gathered.kept spares).mono fresh
      (fun _ _ holds => holds) fun _ _ _ => trivial
  refine .bind found fun existing => ?_
  cases existing with
  | some sourceId => exact .pure fun _ _ => trivial
  | none =>
    dsimp only
    cases chunked : chunkText nfc input.text {} with
    | error message => exact .throw fun _ _ => trivial
    | ok chunks =>
      dsimp only
      have reserved : Accounts (storeAccount nfc input) (Gathered [] [])
          (reserve input.workspaceId (chunks.map TextChunk.tokenCount).sum
            (input.dailyTokenCap.getD defaultDailyEmbeddingTokenCap))
          (fun _ => Gathered [] []) fun _ _ => True :=
        (sparing_account Gathered.kept reserve_spares).mono (fun _ holds => holds)
          (fun _ _ holds => holds) fun _ _ _ => trivial
      refine .bind reserved fun reserved => ?_
      split
      · exact embedAndStore_gathers chunked
      · exact .pure fun _ _ => trivial

/-- What the ingestion takes from the gateway's answer. -/
def EmbeddingResponse.received (reply : EmbeddingResponse) : EmbedResponse where
  model := reply.model
  vectors := reply.vectors
  totalTokens := reply.totalTokens

/-- The embed calls are answered by the gateway, which has an answer of the provider for every attempt
of every call. -/
def Served (host : HostSort) (gateway : GeminiModelGateway)
    (provider : Nat → Nat → Except ProviderError ProviderResponse) (calls : IngestCalls) : Prop :=
  ∀ b texts response, (embedded calls)[b]? = some (texts, response) →
    ∃ reply, embed host gateway (provider b) { inputs := texts } = .ok reply ∧ response = reply.received

/-- The chunk in each place is stored with the vector of an item that the provider labelled with the
place of its text in the request. -/
def StoresByLabel (gateway : GeminiModelGateway)
    (provider : Nat → Nat → Except ProviderError ProviderResponse) (calls : IngestCalls)
    (stored : IngestInput) : Prop :=
  ∀ i chunk, stored.chunks[i]? = some chunk → ∃ b j texts answer response,
    (embedded calls)[b]? = some (texts, answer) ∧ texts[j]? = some chunk.text ∧
    i = b * embedBatchSize + j ∧ j < embedBatchSize ∧ gateway.answer (provider b) = .ok response ∧
    ∃ item ∈ response.data, item.index = some (j : ℚ) ∧ item.embedding = chunk.embedding

/-- The vectors that an ingestion stores are those of the labels exactly if all answers are complete. -/
lemma storesByLabel_iff {host : HostSort} {gateway : GeminiModelGateway}
    {provider : Nat → Nat → Except ProviderError ProviderResponse} {calls : IngestCalls}
    {stored : IngestInput} (account : storeAccount nfc input calls (.ingest stored))
    (served : Served host gateway provider calls) :
    StoresByLabel gateway provider calls stored ↔
      ∀ b texts answer, (embedded calls)[b]? = some (texts, answer) →
        CompleteAnswer gateway (provider b) { inputs := texts } := by
  obtain ⟨chunks, model, vectors, chunked, rfl, inputs, flat, fit⟩ := account
  have batch_of {b : Nat} {texts : List Utf16} {answer : EmbedResponse}
      (here : (embedded calls)[b]? = some (texts, answer)) :
      ∃ batch, (batchesOf chunks)[b]? = some batch ∧ batch.map TextChunk.text = texts := by
    have known : ((embedded calls).map Prod.fst)[b]? = some texts := by
      rw [List.getElem?_map, here]
      rfl
    rw [inputs, List.getElem?_map] at known
    exact Option.map_eq_some_iff.mp known
  constructor
  · intro stores b texts answer here accepts response answered sized j below
    obtain ⟨batch, held, rfl⟩ := batch_of here
    have length := batch_length held
    have below' : j < batch.length := by
      rwa [List.length_map] at below
    have found : chunks[b * embedBatchSize + j]? = some batch[j] := by
      rw [getElem?_of_batch held (by omega), List.getElem?_eq_getElem below']
    have stored := stores (b * embedBatchSize + j) _ (by
      rw [ingestInput, List.getElem?_mapIdx, found]
      rfl)
    obtain ⟨b', j', _, _, response', _, _, place, small, answered', item, mem, label, _⟩ := stored
    have small' : j < embedBatchSize := by omega
    rw [embedBatchSize] at place small small'
    obtain ⟨rfl, rfl⟩ : b = b' ∧ j = j' := by omega
    cases answered.symm.trans answered'
    exact ⟨item, mem, label⟩
  · intro complete i chunk here
    rw [ingestInput, List.getElem?_mapIdx] at here
    obtain ⟨c, found, rfl⟩ := Option.map_eq_some_iff.mp here
    obtain ⟨batch, held, within⟩ := getElem?_batch found
    obtain ⟨⟨texts, answer⟩, here, is⟩ : ∃ e, (embedded calls)[i / embedBatchSize]? = some e ∧
        e.1 = batch.map TextChunk.text := by
      have known : ((embedded calls).map Prod.fst)[i / embedBatchSize]? =
          some (batch.map TextChunk.text) := by
        rw [inputs, List.getElem?_map, held]
        rfl
      rw [List.getElem?_map] at known
      exact Option.map_eq_some_iff.mp known
    dsimp only at is
    subst is
    obtain ⟨reply, ok, rfl⟩ := served _ _ _ here
    obtain ⟨response, answered, labelled⟩ := embedsByLabel_iff.mpr (complete _ _ _ here) reply ok
    have below : i % embedBatchSize < (batch.map TextChunk.text).length := by
      rw [List.length_map]
      exact (List.getElem?_eq_some_iff.mp within).1
    obtain ⟨item, mem, label, vector⟩ := labelled _ below
    have text : (batch.map TextChunk.text)[i % embedBatchSize]? = some c.text := by
      rw [List.getElem?_map, within]
      rfl
    have embedding : vectors[i]? = some item.embedding := by
      have full : ∀ b xs, ((embedded calls).map fun e => e.2.vectors)[b]? = some xs →
          xs.length ≤ embedBatchSize ∧
          (b + 1 < ((embedded calls).map fun e => e.2.vectors).length → xs.length = embedBatchSize) := by
        intro b xs held
        rw [List.getElem?_map] at held
        obtain ⟨⟨texts, answer⟩, here, rfl⟩ := Option.map_eq_some_iff.mp held
        obtain ⟨batch, within, rfl⟩ := batch_of here
        have count := fit _ (List.mem_of_getElem? here)
        have length := batch_length within
        rw [List.length_map] at count
        dsimp only at count ⊢
        refine ⟨by omega, fun more => ?_⟩
        obtain ⟨e, next⟩ : ∃ e, (embedded calls)[b + 1]? = some e := by
          rw [List.length_map] at more
          exact ⟨_, List.getElem?_eq_getElem more⟩
        obtain ⟨batch', held', _⟩ := batch_of next
        rw [getElem?_batchesOf] at held'
        split at held'
        · rename_i inside
          rw [count, length]
          rw [embedBatchSize] at inside ⊢
          omega
        · cases held'
      rw [← flat, getElem?_flatten (by decide) full, List.getElem?_map, here]
      exact vector
    refine ⟨i / embedBatchSize, i % embedBatchSize, _, _, response, here, text,
      (Nat.div_add_mod' i embedBatchSize).symm, Nat.mod_lt _ (by decide), answered, item, mem, label, ?_⟩
    dsimp only
    rw [embedding]
    rfl

/-- A request is embedded by the labels of the answer, and an ingestion stores by the labels of its
answers, exactly if the answers are complete. -/
theorem embeddings_byLabel_iff (host : HostSort) (gateway : GeminiModelGateway) :
    (∀ answers request,
      EmbedsByLabel host gateway answers request ↔ CompleteAnswer gateway answers request) ∧
    ∀ nfc input provider calls stored k,
      Prog.Leads (ingestDocument nfc input).run calls (.call (.ingest stored) k) →
      Served host gateway provider calls →
      (StoresByLabel gateway provider calls stored ↔
        ∀ b texts answer, (embedded calls)[b]? = some (texts, answer) →
          CompleteAnswer gateway (provider b) { inputs := texts }) := by
  refine ⟨fun answers request => embedsByLabel_iff, fun nfc input provider calls stored k leads served => ?_⟩
  have account : storeAccount nfc input calls (.ingest stored) :=
    (leads.satisfies (ingestDocument_gathers [] rfl)).1
  exact storesByLabel_iff account served

end Ingestion

section Shifted

/-- The host's sort, as far as it is known. -/
def insertionHost : HostSort where
  sort data := data.insertionSort EmbeddingItem.notAfter
  perm data := List.perm_insertionSort _ data
  sorted _ _ := rfl

/-- A gateway for vectors of one number. -/
def shortGateway : GeminiModelGateway where
  embeddingDimensions := 1

/-- Two texts. -/
def twoTexts : EmbeddingRequest where
  inputs := [[0x61], [0x62]]

/-- An answer whose labels count from one. -/
def shiftedAnswer : ProviderResponse where
  data := [⟨some 1, [1]⟩, ⟨some 2, [2]⟩]
  model := "embedding"

/-- Labels that count from one are taken for labels that count from zero. -/
theorem shifted_labels_embedded :
    ¬ ∀ host gateway answers request, EmbedsByLabel host gateway answers request := by
  intro all
  have complete := embedsByLabel_iff.mp
    (all insertionHost shortGateway (fun _ => .ok shiftedAnswer) twoTexts)
  have accepts : shortGateway.Accepts twoTexts := by
    refine ⟨rfl, by decide, by decide, ?_⟩
    decide
  have sized : WellSized shortGateway twoTexts shiftedAnswer := by
    refine ⟨rfl, fun item mem => ?_⟩
    rcases List.mem_pair.mp mem with rfl | rfl <;> rfl
  obtain ⟨item, mem, label⟩ := complete accepts shiftedAnswer rfl sized 0 (by decide)
  rcases List.mem_pair.mp mem with rfl | rfl
  · cases label
  · cases label

end Shifted

end AtomsPlatform.Memory
