import AtomsPlatform.Contracts
import AtomsPlatform.Lib.Trace
import AtomsPlatform.Lib.Table
import AtomsPlatform.Memory.Chunker
import Mathlib.Data.Rat.Defs
import Mathlib.Algebra.GroupWithZero.Nat

/-!
# Ingestion of documents

The memory package's `createDocumentIngester` with its `EmbeddingBudget`: a document is split, the
tokens it is estimated at are reserved for the day, its passages are embedded in batches, the
reservation is corrected to what was spent, and the passages are stored. A failure before the
correction makes the correction instead. Reservation and correction read the clock each on its own.
-/

namespace AtomsPlatform.Memory
open Interleaving

/-- A UTC day, counted from the epoch. -/
abbrev Day : Type :=
  Nat

/-- Source `utcDay`. -/
def utcDay (now : Date) : Day :=
  now / 86400000

/-- Model `MemoryEmbeddingUsage` of the schema. -/
structure UsageRow where
  workspaceId : Uuid
  usageDate : Day
  tokens : Nat
deriving DecidableEq, Repr

/-- What a usage row is addressed by. -/
def UsageRow.key (r : UsageRow) : Uuid × Day :=
  (r.workspaceId, r.usageDate)

/-- Source `MemorySourceKind`. -/
inductive MemorySourceKind where
  | document
  | conversation
deriving DecidableEq, Repr

/-- Source `IngestChunk`. -/
structure IngestChunk where
  position : Nat
  text : Utf16
  tokenCount : Nat
  embedding : List ℚ
deriving DecidableEq

/-- Source `IngestInput`. -/
structure IngestInput where
  workspaceId : Uuid
  title : String
  kind : Option MemorySourceKind
  language : Option String
  containsPersonalData : Option Bool
  contentHash : String
  embeddingModel : String
  chunks : List IngestChunk
deriving DecidableEq

/-- Model `MemorySource` of the schema, with its chunks. -/
structure MemorySource where
  id : Uuid
  workspaceId : Uuid
  kind : MemorySourceKind
  title : String
  language : Option String
  contentHash : String
  containsPersonalData : Bool
  embeddingModel : String
  chunks : List IngestChunk

/-- Source `IngestResult`. -/
inductive IngestResult where
  | created (sourceId : Uuid) (chunkCount : Nat)
  | duplicate (sourceId : Uuid)
deriving DecidableEq, Repr

/-- Source `IngestDocumentInput`. -/
structure IngestDocumentInput where
  workspaceId : Uuid
  title : String
  text : Utf16
  kind : Option MemorySourceKind
  language : Option String
  containsPersonalData : Option Bool
  dailyTokenCap : Option Int
deriving DecidableEq

/-- Source `IngestDocumentResult`. -/
inductive IngestDocumentResult where
  | stored :
    IngestResult → IngestDocumentResult
  | dailyCapExceeded (requiredTokens : Nat) (dailyCap : Int)
deriving DecidableEq, Repr

/-- What an embedder answers. -/
structure EmbedResponse where
  model : String
  vectors : List (List ℚ)
  totalTokens : Int
deriving DecidableEq

/-- Errors: of the code itself, and of what it calls. -/
inductive Failure where
  | range (message : String)
  | error (message : String)
  | provider (message : String)
  | database (message : String)
deriving DecidableEq, Repr

/-- The tables. -/
structure MemoryStore where
  usage : List UsageRow := []
  sources : List MemorySource := []

/-- The tokens recorded for a workspace and a day. -/
def MemoryStore.recorded (s : MemoryStore) (workspaceId : Uuid) (day : Day) : Nat :=
  ((Table.lookup UsageRow.key (workspaceId, day) s.usage).map UsageRow.tokens).getD 0

/-- The statements, and the calls of the clock and of the embedder. -/
inductive Operation where
  | now
  | findSourceIdByHash (workspaceId : Uuid) (contentHash : String)
  | reserve (workspaceId : Uuid) (tokens : Nat) (day : Day) (dailyCap : Int)
  | embed (inputs : List Utf16)
  | adjust (workspaceId : Uuid) (deltaTokens : Int) (day : Day)
  | ingest (input : IngestInput)
deriving DecidableEq

/-- What an operation answers. -/
def Operation.Answer : Operation → Type
  | .now => Date
  | .findSourceIdByHash .. => Option Uuid
  | .reserve .. => Bool
  | .embed _ => EmbedResponse
  | .adjust .. => Unit
  | .ingest _ => IngestResult

/-- Programs on these operations. -/
abbrev Program (α : Type) : Type :=
  Fallible Operation Operation.Answer Failure α

/-- One call. -/
abbrev call (o : Operation) : Program o.Answer :=
  invoke o

section Budget

/-- Source `DEFAULT_DAILY_EMBEDDING_TOKEN_CAP`. -/
def defaultDailyEmbeddingTokenCap : Int := 500000

/-- Source `reserve`. -/
def reserve (workspaceId : Uuid) (tokens : Nat) (dailyCap : Int) : Program Bool :=
  if tokens < 1 then throw (.range "tokens must be a positive integer")
  else if tokens > dailyCap then pure false
  else do
    let now ← call .now
    call (.reserve workspaceId tokens (utcDay now) dailyCap)

/-- Source `adjust`. -/
def adjust (workspaceId : Uuid) (deltaTokens : Int) : Program Unit :=
  if deltaTokens = 0 then pure ()
  else do
    let now ← call .now
    call (.adjust workspaceId deltaTokens (utcDay now))

end Budget

section Programs

/-- Source `EMBED_BATCH_SIZE`. -/
def embedBatchSize : Nat := 100

/-- The batches that the loop of source `ingestDocument` embeds. -/
def batchesOf (chunks : List TextChunk) : List (List TextChunk) :=
  (List.range ((chunks.length + embedBatchSize - 1) / embedBatchSize)).map fun n =>
    (chunks.drop (n * embedBatchSize)).take embedBatchSize

/-- The tokens of a response: what it reports, or what its texts are estimated at. -/
def EmbedResponse.tokens (response : EmbedResponse) (estimate : Nat) : Nat :=
  if response.totalTokens > 0 then response.totalTokens.toNat else estimate

/-- What the batches that were embedded so far have given. -/
structure Embedded where
  model : Option String := none
  vectors : List (List ℚ) := []

/-- The outcome of a call, as a value. -/
def attempt {α : Type} (p : Program α) : Program (Except Failure α) :=
  tryCatch (do let a ← p; pure (.ok a)) fun error => pure (.error error)

/-- The loop of source `ingestDocument`: what was spent, and how the loop ended. -/
def embedBatches (spent : Nat) (done : Embedded) :
    List (List TextChunk) → Program (Nat × Except Failure Embedded)
  | [] => pure (spent, .ok done)
  | batch :: batches => do
    let answer ← attempt (call (.embed (batch.map TextChunk.text)))
    match answer with
    | .error error => pure (spent, .error error)
    | .ok response =>
      if response.vectors.length ≠ batch.length then
        pure (spent, .error (.error ("embedder returned " ++ toString response.vectors.length ++
          " vectors for " ++ toString batch.length ++ " texts")))
      else if done.model ≠ none ∧ done.model ≠ some response.model then
        pure (spent, .error (.error "embedder changed model during one document"))
      else
        embedBatches (spent + response.tokens (batch.map TextChunk.tokenCount).sum)
          ⟨some response.model, done.vectors ++ response.vectors⟩ batches

/-- The part of the `try` block of source `ingestDocument` up to the correction: the model and the
    vectors, if the reservation was corrected. -/
def settle (workspaceId : Uuid) (estimated spent : Nat) :
    Except Failure Embedded → Program (Except Failure (String × List (List ℚ)))
  | .error error => pure (.error error)
  | .ok embedded =>
    match embedded.model with
    | none => pure (.error (.error "embedder returned no model id"))
    | some model => do
      let settled ← attempt (adjust workspaceId ((spent : Int) - estimated))
      match settled with
      | .error error => pure (.error error)
      | .ok _ => pure (.ok (model, embedded.vectors))

/-- What source `ingestDocument` stores. -/
def ingestInput (input : IngestDocumentInput) (contentHash : String) (chunks : List TextChunk)
    (model : String) (vectors : List (List ℚ)) : IngestInput where
  workspaceId := input.workspaceId
  title := input.title
  kind := input.kind
  language := input.language
  containsPersonalData := input.containsPersonalData
  contentHash
  embeddingModel := model
  chunks := chunks.mapIdx fun index chunk =>
    { position := chunk.position
      text := chunk.text
      tokenCount := chunk.tokenCount
      embedding := vectors[index]?.getD [] }

/-- Source `ingestDocument` from the reservation on: its `try` block and its `catch` block, which
    corrects the reservation if the `try` block did not. -/
def embedAndStore (input : IngestDocumentInput) (contentHash : String) (chunks : List TextChunk)
    (estimated : Nat) : Program IngestDocumentResult := do
  let (spent, embedded) ← embedBatches 0 {} (batchesOf chunks)
  let settled ← settle input.workspaceId estimated spent embedded
  match settled with
  | .error error => do
    adjust input.workspaceId ((spent : Int) - estimated)
    throw error
  | .ok (model, vectors) => do
    let result ← call (.ingest (ingestInput input contentHash chunks model vectors))
    pure (.stored result)

/-- Source `ingestDocument`. -/
def ingestDocument (nfc : Utf16 → Utf16) (input : IngestDocumentInput) :
    Program IngestDocumentResult :=
  if (normalizeText nfc input.text).length = 0 then throw (.range "document has no text")
  else do
    let hash := contentHash nfc input.text
    let existing ← call (.findSourceIdByHash input.workspaceId hash)
    match existing with
    | some sourceId => pure (.stored (.duplicate sourceId))
    | none =>
      match chunkText nfc input.text {} with
      | .error message => throw (.range message)
      | .ok chunks => do
        let estimated := (chunks.map TextChunk.tokenCount).sum
        let dailyCap := input.dailyTokenCap.getD defaultDailyEmbeddingTokenCap
        let reserved ← reserve input.workspaceId estimated dailyCap
        if reserved then embedAndStore input hash chunks estimated
        else pure (.dailyCapExceeded estimated dailyCap)

end Programs

section System

/-- How a call ends: it takes effect, nothing happens, or it takes effect and the answer is lost. -/
inductive Fate where
  | commits
  | aborts :
    Failure → Fate
  | unacknowledged :
    Failure → Fate
deriving DecidableEq, Repr

/-- Whether a call takes effect. -/
def Fate.effective : Fate → Bool
  | .aborts _ => false
  | _ => true

/-- What the environment decides about one call: any reading of the clock and any answer of the
    embedder. -/
structure Environment where
  fate : Fate := .commits
  now : Date := 0
  id : Uuid := 0
  response : EmbedResponse := ⟨"", [], 0⟩

/-- Source `EMBEDDING_DIMENSIONS`. -/
def embeddingDimensions : Nat := 768

/-- What a statement does to the tables. -/
def transact (env : Environment) :
    (o : Operation) → MemoryStore → Except Failure (o.Answer × MemoryStore)
  | .now, s => .ok (env.now, s)
  | .findSourceIdByHash workspaceId contentHash, s =>
    .ok ((s.sources.find? fun r => r.workspaceId = workspaceId ∧ r.contentHash = contentHash).map
      MemorySource.id, s)
  | .reserve workspaceId tokens day dailyCap, s =>
    match Table.lookup UsageRow.key (workspaceId, day) s.usage with
    | none => .ok (true, { s with usage := s.usage ++ [⟨workspaceId, day, tokens⟩] })
    | some row =>
      if ((row.tokens + tokens : Nat) : Int) ≤ dailyCap then
        .ok (true, { s with
          usage := Table.update UsageRow.key (workspaceId, day) (fun _ => true)
            (fun r => { r with tokens := r.tokens + tokens }) s.usage })
      else .ok (false, s)
  | .embed _, s => .ok (env.response, s)
  | .adjust workspaceId deltaTokens day, s =>
    .ok ((), { s with
      usage := Table.update UsageRow.key (workspaceId, day) (fun _ => true)
        (fun r => { r with tokens := ((r.tokens : Int) + deltaTokens).toNat }) s.usage })
  | .ingest input, s =>
    if input.chunks.length = 0 then .error (.range "a source needs at least one chunk")
    else
      match input.chunks.find? fun chunk => chunk.embedding.length ≠ embeddingDimensions with
      | some chunk =>
        .error (.range ("embedding has " ++ toString chunk.embedding.length ++
          " dimensions, expected " ++ toString embeddingDimensions))
      | none =>
        match s.sources.find? fun r =>
            r.workspaceId = input.workspaceId ∧ r.contentHash = input.contentHash with
        | some found => .ok (.duplicate found.id, s)
        | none =>
          .ok (.created env.id input.chunks.length, { s with
            sources := s.sources ++ [
              { id := env.id
                workspaceId := input.workspaceId
                kind := input.kind.getD .document
                title := input.title
                language := input.language
                contentHash := input.contentHash
                containsPersonalData := input.containsPersonalData.getD false
                embeddingModel := input.embeddingModel
                chunks := input.chunks }] })

/-- The fate of a call: the clock can always be read. -/
def fateOf (env : Environment) : Operation → Fate
  | .now => .commits
  | _ => env.fate

/-- Answers a call: the statement may be refused, and the environment decides its fate. -/
def perform (o : Operation) (env : Environment) (s : MemoryStore) :
    Except Failure o.Answer × MemoryStore :=
  match transact env o s, fateOf env o with
  | .ok (r, s'), .commits => (.ok r, s')
  | .ok (_, s'), .unacknowledged error => (.error error, s')
  | .error error, .commits | .error error, .unacknowledged _ => (.error error, s)
  | _, .aborts error => (.error error, s)

/-- Any number of ingestions, interleaved at their calls. -/
def ingestionSystem (nfc : Utf16 → Utf16) : System Operation (fun o => Except Failure o.Answer)
    MemoryStore IngestDocumentInput (Except Failure IngestDocumentResult) where
  Choice := Environment
  perform := perform
  body input := (ingestDocument nfc input).run
  admits _ _ := True

instance (nfc : Utf16 → Utf16) (s : MemoryStore) (input : IngestDocumentInput) :
    Decidable ((ingestionSystem nfc).admits s input) :=
  inferInstanceAs (Decidable True)

/-- Configurations. -/
abbrev IngestConfig : Type :=
  Config Operation (fun o => Except Failure o.Answer) MemoryStore IngestDocumentInput
    (Except Failure IngestDocumentResult)

/-- The start of a run: nothing was recorded and nothing is going on; the sources are arbitrary. -/
def Starts (c : IngestConfig) : Prop :=
  c.store.usage = [] ∧ c.threads = []

end System

end AtomsPlatform.Memory
