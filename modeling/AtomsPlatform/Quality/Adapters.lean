import AtomsPlatform.Quality.Schema
import AtomsPlatform.Lib.Collect
import AtomsPlatform.Lib.PlainObject
import AtomsPlatform.Lib.Sha256
import Mathlib.Data.List.Sort

/-!
# Quality: adapters

How stored records become the inputs of an evaluation: the fingerprint of a project's files, the
acceptance snapshot of Emma's output, and evidence from the commands of a validation and from the
report of an acceptance run.
-/

namespace AtomsPlatform.Quality

section Acceptance

/-- A user story of Emma's output, as far as `EmmaCriteriaSchema` projects it: the key and the text of
    each acceptance criterion. -/
structure UserStory where
  id : String
  acceptanceCriteria : List (String × String)
deriving DecidableEq, Repr

/-- What `EmmaCriteriaSchema` asks of the user stories, with the texts it trims. -/
def UserStory.valid (story : UserStory) : Bool :=
  isStoryId story.id && 1 ≤ story.acceptanceCriteria.length &&
    story.acceptanceCriteria.length ≤ 20 &&
    story.acceptanceCriteria.all fun criterion =>
      isCriterionKey criterion.1 && isCriterionText (Utf16.trimString criterion.2)

/-- The criteria of a story, numbered from one. -/
def UserStory.criteria (story : UserStory) : List AcceptanceCriterion :=
  story.acceptanceCriteria.mapIdx fun index criterion =>
    ⟨s!"{story.id}:{index + 1}", criterion.1, Utf16.trimString criterion.2⟩

/-- Source `createAcceptanceSnapshot`, on the user stories of the output, if it has any. -/
def createAcceptanceSnapshot (scope : QualityScope) (taskId : Uuid) (taskAttempt : Nat)
    (userStories : Option (List UserStory)) : Except QualityInputError AcceptanceSnapshot := do
  let stories ← parseQualityInput
    (fun stories : List UserStory => 1 ≤ stories.length && stories.length ≤ 50 &&
      stories.all UserStory.valid)
    (userStories.getD [])
  if (stories.map UserStory.id).Nodup then
    parseQualityInput AcceptanceSnapshot.valid
      { scope, taskId, taskAttempt, criteria := stories.flatMap UserStory.criteria }
  else throw {}

/-- Source `CriterionIdResolution`. -/
structure CriterionIdResolution where
  criterionIdsByScenario : PlainObject String
  unresolvedScenarios : List (Utf16 × List Utf16)
deriving DecidableEq, Repr

/-- The ids of the criteria with a key. -/
def idsOfKey (snapshot : AcceptanceSnapshot) (key : Utf16) : List String :=
  (snapshot.criteria.filter fun criterion => Utf16.ofString criterion.key = key).map
    AcceptanceCriterion.id

/-- The ids that the keys of a scenario resolve to. -/
def resolvedIds (snapshot : AcceptanceSnapshot) (keys : List Utf16) : List String :=
  keys.flatMap (idsOfKey snapshot)

/-- The keys of a scenario that no criterion has. -/
def missingKeys (snapshot : AcceptanceSnapshot) (keys : List Utf16) : List Utf16 :=
  keys.filter fun key => (idsOfKey snapshot key).isEmpty

/-- The entries that a resolution assigns: the scenarios with a resolved id. -/
def resolvedEntries (snapshot : AcceptanceSnapshot)
    (criterionKeysByScenario : List (Utf16 × List Utf16)) : List (Utf16 × List String) :=
  (criterionKeysByScenario.map fun (scenario, keys) => (scenario, resolvedIds snapshot keys)).filter
    fun entry => !entry.2.isEmpty

/-- Source `resolveCriterionIdsByScenario`, on the own entries of the map. -/
def resolveCriterionIdsByScenario (snapshot : AcceptanceSnapshot)
    (criterionKeysByScenario : List (Utf16 × List Utf16)) : CriterionIdResolution where
  criterionIdsByScenario :=
    ({} : PlainObject String).assignAll (resolvedEntries snapshot criterionKeysByScenario)
  unresolvedScenarios :=
    (criterionKeysByScenario.map fun (scenario, keys) => (scenario, missingKeys snapshot keys)).filter
      fun unresolved => !unresolved.2.isEmpty

/-- A scenario of an acceptance report. -/
structure AcceptanceScenarioResult where
  scenario : Utf16
  status : EvidenceStatus
deriving DecidableEq, Repr

/-- The last line of an output that is not blank, trimmed. -/
def lastLine (stdout : Utf16) : Option Utf16 :=
  (((stdout.splitOn 0x0A).map Utf16.trim).filter fun line => !line.isEmpty).getLast?

/-- `[...criterionIds]`, unless `criterionIds` is `undefined` or has the length zero. A string is
    spread into its characters; a function and what has no length cannot be spread. -/
def spreadCriterionIds : Option (PlainObject.Property String) →
    Except QualityInputError (Option (List String))
  | none => .ok none
  | some (.array criterionIds) => .ok (if criterionIds.isEmpty then none else some criterionIds)
  | some (.element text) =>
    .ok (if text.isEmpty then none else some (text.toList.map fun c => String.ofList [c]))
  | some (.function length) => if length = 0 then .ok none else .error {}
  | some .other => .error {}

/-- The evidence of a reported scenario, if the map has criteria for it: one round of the loop of
    `evidenceFromAcceptanceRun`. An evidence that cannot be built is an exception. -/
def evidenceOfScenario (uuid : Nat → Uuid) (scope : QualityScope)
    (sourceArtifactId acceptanceTaskId : Uuid) (acceptanceTaskAttempt : Nat) (completedAt : Date)
    (criterionIdsByScenario : PlainObject String) (reported : AcceptanceScenarioResult × Nat) :
    Except QualityInputError (Option QualityEvidence) := do
  let criterionIds ← spreadCriterionIds (criterionIdsByScenario.get reported.1.scenario)
  match criterionIds with
  | none => pure none
  | some criterionIds =>
    let evidence ← parseQualityInput QualityEvidence.valid
      { id := uuid reported.2, sourceArtifactId, scope, kind := .acceptance,
        status := reported.1.status, completedAt, acceptanceTaskId := some acceptanceTaskId,
        acceptanceTaskAttempt := some acceptanceTaskAttempt, criterionIds }
    pure (some evidence)

/-- Source `evidenceFromAcceptanceRun`; `report` is what `JSON.parse` and `AcceptanceRunOutputSchema`
    make of a line, and `uuid` generates the ids. -/
def evidenceFromAcceptanceRun (report : Utf16 → Option (List AcceptanceScenarioResult))
    (uuid : Nat → Uuid) (scope : QualityScope) (sourceArtifactId acceptanceTaskId : Uuid)
    (acceptanceTaskAttempt : Nat) (completedAt : Date)
    (criterionIdsByScenario : PlainObject String) (stdout : Utf16) :
    Except QualityInputError (List QualityEvidence) :=
  Collect.collect
    (evidenceOfScenario uuid scope sourceArtifactId acceptanceTaskId acceptanceTaskAttempt completedAt
      criterionIdsByScenario)
    (((lastLine stdout).bind report).getD []).zipIdx

end Acceptance

section Commands

/-- Source `ValidationStepSchema` and `stepKinds`. -/
inductive StepName where
  | install
  | prismaValidate
  | lint
  | typecheck
  | test
  | build
  | previewStart
  | previewHealth
deriving DecidableEq, Repr

/-- `stepKinds[step.name]` -/
def StepName.kind? : StepName → Option CheckKind
  | .lint => some .lint
  | .typecheck => some .typecheck
  | .test => some .test
  | .build => some .build
  | _ => none

/-- Source `evidenceFromValidationStep`. -/
def evidenceFromValidationStep (scope : QualityScope) (commandId : Uuid) (name : StepName)
    (startedAt completedAt : Date) (exitCode : Int) :
    Except QualityInputError (Option QualityEvidence) :=
  if completedAt < startedAt then throw {}
  else
    match name.kind? with
    | none => pure none
    | some kind => do
      let evidence ← parseQualityInput QualityEvidence.valid
        { id := commandId, sourceArtifactId := commandId, scope, kind := .check kind,
          status := if exitCode = 0 then .passed else .failed, completedAt,
          acceptanceTaskId := none, acceptanceTaskAttempt := none, criterionIds := [] }
      pure (some evidence)

end Commands

section Snapshots

/-- A file of a snapshot. -/
structure SnapshotFile where
  path : String
  version : Nat
  content : String
deriving DecidableEq, Repr

/-- What `FilesSchema` asks of a file. -/
def SnapshotFile.valid (file : SnapshotFile) : Bool :=
  1 ≤ Utf16.lengthOf file.path && Utf16.lengthOf file.path ≤ 1024 &&
    file.path.toList.head? != some '/' && decide ('\\' ∉ file.path.toList) &&
    ((file.path.toList.splitOn '/').all fun segment =>
      segment != [] && segment != ['.'] && segment != ['.', '.']) &&
    1 ≤ file.version && file.version ≤ maxSafeInteger && Utf16.lengthOf file.content ≤ 5000000

/-- A number in hexadecimal, with four digits. -/
def hex4 (n : Nat) : List Char :=
  (List.range 4).map fun i => Sha256.hexDigit (n / 16 ^ (3 - i))

/-- A character in a JSON string. -/
def jsonCharacter (c : Char) : List Char :=
  if c = '"' ∨ c = '\\' then ['\\', c]
  else if c = '\n' then ['\\', 'n']
  else if c = '\r' then ['\\', 'r']
  else if c = '\t' then ['\\', 't']
  else if c.toNat = 8 then ['\\', 'b']
  else if c.toNat = 12 then ['\\', 'f']
  else if c.toNat < 32 then '\\' :: 'u' :: hex4 c.toNat
  else [c]

/-- `JSON.stringify` of a string. -/
def jsonString (text : String) : List Char :=
  '"' :: text.toList.flatMap jsonCharacter ++ ['"']

/-- `JSON.stringify` of an array, from its elements. -/
def jsonArray (elements : List (List Char)) : List Char :=
  '[' :: [','].intercalate elements ++ [']']

/-- `[file.path, file.version, file.content]` -/
def SnapshotFile.json (file : SnapshotFile) : List Char :=
  jsonArray [jsonString file.path, (Nat.repr file.version).toList, jsonString file.content]

/-- The JSON text that is hashed: the files in the order of their paths. -/
def canonicalJson (files : List SnapshotFile) : List Char :=
  jsonArray ((files.insertionSort fun left right => Utf16.le left.path right.path).map
    SnapshotFile.json)

/-- Source `fingerprintProjectSnapshot`. -/
def fingerprintProjectSnapshot (files : List SnapshotFile) : Except QualityInputError String := do
  let files ← parseQualityInput
    (fun files : List SnapshotFile => 1 ≤ files.length && files.length ≤ 1000 &&
      files.all SnapshotFile.valid)
    files
  if (files.map SnapshotFile.path).Nodup then
    pure (Sha256.hexDigest ((canonicalJson files).flatMap String.utf8EncodeChar))
  else throw {}

end Snapshots

end AtomsPlatform.Quality
