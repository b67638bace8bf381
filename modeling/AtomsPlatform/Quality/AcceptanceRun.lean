import AtomsPlatform.Quality.Acceptance
import Mathlib.Algebra.Order.Ring.Rat

/-!
# Quality: the evidence of an acceptance run

The report that the last line of an acceptance run is read as, and when it becomes the evidence it
should: one item for each reported scenario that the map has criteria for (`accepted_run_iff`). What
goes wrong otherwise is that a reported name is looked up on a plain object, which inherits names of
its own, and that a scenario lists a key twice.
-/

namespace AtomsPlatform.Quality

section Report

/-- A value as `JSON.parse` returns it; `none` is a number too large to be finite. The members of an
    object have different names. -/
inductive Json where
  | null
  | bool :
    Bool → Json
  | number :
    Option ℚ → Json
  | string :
    Utf16 → Json
  | array :
    List Json → Json
  | object :
    List (Utf16 × Json) → Json

/-- The member of an object under a name. -/
def memberOf (members : List (Utf16 × Json)) (name : String) : Option Json :=
  members.lookup (Utf16.ofString name)

/-- `.strict()`: no member has another name. -/
def strict (names : List String) (members : List (Utf16 × Json)) : Bool :=
  members.all fun m => m.1 ∈ names.map Utf16.ofString

/-- `z.string().trim().min(1).max(120)` -/
def scenarioNameSchema : Option Json → Option Utf16
  | some (.string text) =>
    let name := Utf16.trim text
    if 1 ≤ name.length ∧ name.length ≤ 120 then some name else none
  | _ => none

/-- Source `EvidenceStatusSchema`. -/
def evidenceStatusSchema : Option Json → Option EvidenceStatus
  | some (.string text) =>
    if text = Utf16.ofString "PASSED" then some .passed
    else if text = Utf16.ofString "FAILED" then some .failed
    else if text = Utf16.ofString "SKIPPED" then some .skipped
    else if text = Utf16.ofString "ERROR" then some .error
    else none
  | _ => none

/-- `z.number().int().min(0).max(3_600_000)` -/
def isDurationMs : Option Json → Bool
  | some (.number (some value)) => value.den = 1 && 0 ≤ value && value ≤ 3600000
  | _ => false

/-- `z.string().max(2_000).optional()` -/
def isNote : Option Json → Bool
  | none => true
  | some (.string text) => text.length ≤ 2000
  | _ => false

/-- Source `AcceptanceScenarioResultSchema`, as far as it is read. -/
def acceptanceScenarioResultSchema : Json → Option AcceptanceScenarioResult
  | .object members => do
    let scenario ← scenarioNameSchema (memberOf members "scenario")
    let status ← evidenceStatusSchema (memberOf members "status")
    if isDurationMs (memberOf members "durationMs") && isNote (memberOf members "note") &&
        strict ["scenario", "status", "durationMs", "note"] members then
      pure { scenario, status }
    else none
  | _ => none

/-- `z.array(AcceptanceScenarioResultSchema).min(1).max(50)` -/
def acceptanceResultsSchema : Option Json → Option (List AcceptanceScenarioResult)
  | some (.array elements) =>
    if 1 ≤ elements.length ∧ elements.length ≤ 50 then
      elements.mapM acceptanceScenarioResultSchema
    else none
  | _ => none

/-- `z.boolean()` -/
def isBoolean : Option Json → Bool
  | some (.bool _) => true
  | _ => false

/-- Source `AcceptanceRunOutputSchema`: the results of a report. -/
def acceptanceRunOutputSchema : Json → Option (List AcceptanceScenarioResult)
  | .object members =>
    if isBoolean (memberOf members "ok") && strict ["ok", "results"] members then
      acceptanceResultsSchema (memberOf members "results")
    else none
  | _ => none

variable (jsonParse : Utf16 → Option Json)

/-- What `JSON.parse` and `AcceptanceRunOutputSchema` make of a line. -/
def acceptanceReport (line : Utf16) : Option (List AcceptanceScenarioResult) :=
  (jsonParse line).bind acceptanceRunOutputSchema

/-- The scenarios that an output reports. -/
def reportedResults (stdout : Utf16) : List AcceptanceScenarioResult :=
  ((lastLine stdout).bind (acceptanceReport jsonParse)).getD []

end Report

section Map

/-- A map from scenarios to criterion keys: the own entries of an object, under different names. -/
structure ScenarioKeys where
  entries : List (Utf16 × List Utf16)
  distinct : (entries.map Prod.fst).Nodup

namespace ScenarioKeys
variable (map : ScenarioKeys) (snapshot : AcceptanceSnapshot)

/-- The ids that an own entry of the map resolves to, if it has one and resolves to any. -/
def coveredIds (scenario : Utf16) : Option (List String) :=
  match map.entries.lookup scenario with
  | none => none
  | some keys => if (resolvedIds snapshot keys).isEmpty then none else some (resolvedIds snapshot keys)

/-- The entry lists no key twice that a criterion has. -/
def NoKeyTwice (scenario : Utf16) : Prop :=
  match map.entries.lookup scenario with
  | none => True
  | some keys => (keys.filter fun key => !(idsOfKey snapshot key).isEmpty).Nodup

instance (scenario : Utf16) : Decidable (map.NoKeyTwice snapshot scenario) :=
  match h : map.entries.lookup scenario with
  | none => .isTrue (by rw [NoKeyTwice, h]; trivial)
  | some keys =>
    decidable_of_iff (keys.filter fun key => !(idsOfKey snapshot key).isEmpty).Nodup
      (by rw [NoKeyTwice, h])

/-- Nothing is inherited under the name, or a function without parameters. The object inherits from
    an array if the own entry `__proto__` is covered. -/
def InheritsNothing (scenario : Utf16) : Prop :=
  PlainObject.inherited (map.coveredIds snapshot PlainObject.protoName) scenario = none ∨
    PlainObject.inherited (map.coveredIds snapshot PlainObject.protoName) scenario =
      some (.function 0)

instance (scenario : Utf16) : Decidable (map.InheritsNothing snapshot scenario) :=
  instDecidableOr

/-- A reported scenario does no harm: it is covered and lists no key twice, or its name is not
    inherited. -/
def Harmless (scenario : Utf16) : Prop :=
  if (map.coveredIds snapshot scenario).isSome then map.NoKeyTwice snapshot scenario
  else map.InheritsNothing snapshot scenario

instance (scenario : Utf16) : Decidable (map.Harmless snapshot scenario) :=
  inferInstanceAs (Decidable (if (map.coveredIds snapshot scenario).isSome then
    map.NoKeyTwice snapshot scenario else map.InheritsNothing snapshot scenario))

end ScenarioKeys

end Map

section Resolution

variable {map : ScenarioKeys} {snapshot : AcceptanceSnapshot} {name : Utf16}

lemma mem_idsOfKey {key : Utf16} {id : String} : id ∈ idsOfKey snapshot key ↔
    ∃ criterion ∈ snapshot.criteria, Utf16.ofString criterion.key = key ∧ criterion.id = id := by
  unfold idsOfKey
  rw [List.mem_map]
  constructor
  · intro ⟨criterion, mem, same⟩
    obtain ⟨mem, key_eq⟩ := List.mem_filter.mp mem
    exact ⟨criterion, mem, of_decide_eq_true key_eq, same⟩
  · intro ⟨criterion, mem, key_eq, same⟩
    exact ⟨criterion, List.mem_filter.mpr ⟨mem, decide_eq_true key_eq⟩, same⟩

/-- A resolution assigns what the entries cover. -/
lemma lookup_resolvedEntries {entries : List (Utf16 × List Utf16)}
    (distinct : (entries.map Prod.fst).Nodup) :
    (resolvedEntries snapshot entries).lookup name =
      (entries.lookup name).bind fun keys =>
        if (resolvedIds snapshot keys).isEmpty then none else some (resolvedIds snapshot keys) := by
  induction entries with
  | nil => rfl
  | cons entry entries ih =>
    obtain ⟨scenario, keys⟩ := entry
    rw [List.map_cons, List.nodup_cons] at distinct
    have rest := ih distinct.2
    unfold resolvedEntries at rest ⊢
    rw [List.map_cons, List.lookup_cons]
    by_cases same : name = scenario
    · subst same
      rw [beq_self_eq_true]
      have later : entries.lookup name = none := PlainObject.lookup_eq_none distinct.1
      cases empty : (resolvedIds snapshot keys).isEmpty with
      | true =>
        rw [List.filter_cons_of_neg (by simp [List.isEmpty_iff.mp empty]), rest, later,
          Option.bind_none, Option.bind_some, if_pos empty]
      | false =>
        rw [List.filter_cons_of_pos (by simp [List.isEmpty_eq_false_iff.mp empty]), List.lookup_cons,
          beq_self_eq_true, Option.bind_some, if_neg (by rw [empty]; exact Bool.false_ne_true)]
    · rw [beq_false_of_ne same]
      cases empty : (resolvedIds snapshot keys).isEmpty with
      | true =>
        rw [List.filter_cons_of_neg (by simp [List.isEmpty_iff.mp empty]), rest]
      | false =>
        rw [List.filter_cons_of_pos (by simp [List.isEmpty_eq_false_iff.mp empty]), List.lookup_cons,
          beq_false_of_ne same, rest]

lemma distinct_resolvedEntries {entries : List (Utf16 × List Utf16)}
    (distinct : (entries.map Prod.fst).Nodup) :
    ((resolvedEntries snapshot entries).map Prod.fst).Nodup := by
  apply List.Nodup.sublist (List.Sublist.map Prod.fst List.filter_sublist)
  rw [List.map_map]
  exact distinct

lemma coveredIds_eq : map.coveredIds snapshot name =
    (resolvedEntries snapshot map.entries).lookup name := by
  rw [lookup_resolvedEntries map.distinct, ScenarioKeys.coveredIds]
  cases map.entries.lookup name <;> rfl

/-- What the resolved object has under a name: what the map covers, or what is inherited. -/
lemma get_resolved :
    (resolveCriterionIdsByScenario snapshot map.entries).criterionIdsByScenario.get name =
      match map.coveredIds snapshot name with
      | some ids => some (.array ids)
      | none =>
        PlainObject.inherited (map.coveredIds snapshot PlainObject.protoName) name := by
  have found := @PlainObject.get_assignAll String _ name
    (@distinct_resolvedEntries snapshot _ map.distinct)
  rw [← coveredIds_eq, ← coveredIds_eq] at found
  refine Eq.trans found ?_
  cases map.coveredIds snapshot name <;> rfl

end Resolution

section Ids

variable {map : ScenarioKeys} {snapshot : AcceptanceSnapshot} {name : Utf16}

/-- The criteria of a valid snapshot have different ids. -/
lemma nodup_of_valid (valid : snapshot.valid = true) :
    (snapshot.criteria.map AcceptanceCriterion.id).Nodup := by
  simp only [AcceptanceSnapshot.valid, Bool.and_eq_true, decide_eq_true_eq] at valid
  exact valid.2

/-- An id belongs to one key. -/
lemma key_of_id (valid : snapshot.valid = true) {id : String} {key key' : Utf16}
    (mem : id ∈ idsOfKey snapshot key) (mem' : id ∈ idsOfKey snapshot key') : key = key' := by
  obtain ⟨criterion, criterion_mem, key_eq, id_eq⟩ := mem_idsOfKey.mp mem
  obtain ⟨criterion', criterion_mem', key_eq', id_eq'⟩ := mem_idsOfKey.mp mem'
  have same : criterion = criterion' :=
    List.inj_on_of_nodup_map (nodup_of_valid valid) criterion_mem criterion_mem'
      (id_eq.trans id_eq'.symm)
  rw [← key_eq, ← key_eq', same]

lemma nodup_idsOfKey (valid : snapshot.valid = true) (key : Utf16) :
    (idsOfKey snapshot key).Nodup :=
  List.Nodup.sublist (List.Sublist.map _ List.filter_sublist) (nodup_of_valid valid)

/-- Keys that no criterion has resolve to nothing. -/
lemma resolvedIds_filter (keys : List Utf16) :
    resolvedIds snapshot (keys.filter fun key => !(idsOfKey snapshot key).isEmpty) =
      resolvedIds snapshot keys := by
  induction keys with
  | nil => rfl
  | cons key keys ih =>
    unfold resolvedIds at ih ⊢
    cases ids : idsOfKey snapshot key with
    | nil => rw [List.filter_cons_of_neg (by simp [ids]), ih, List.flatMap_cons, ids, List.nil_append]
    | cons id rest =>
      rw [List.filter_cons_of_pos (by simp [ids]), List.flatMap_cons, List.flatMap_cons, ih]

/-- Resolved ids repeat only where a key does. -/
lemma nodup_resolvedIds_iff (valid : snapshot.valid = true) (keys : List Utf16) :
    (resolvedIds snapshot keys).Nodup ↔
      (keys.filter fun key => !(idsOfKey snapshot key).isEmpty).Nodup := by
  rw [← resolvedIds_filter, resolvedIds, List.nodup_flatMap]
  constructor
  · intro ⟨_, apart⟩
    apply List.Pairwise.imp_of_mem _ apart
    intro key key' mem _ disjoint same
    subst same
    obtain ⟨id, id_mem⟩ := List.exists_mem_of_ne_nil (idsOfKey snapshot key)
      (by simpa using (List.mem_filter.mp mem).2)
    exact disjoint id_mem id_mem
  · intro distinct
    refine ⟨fun key _ => nodup_idsOfKey valid key, ?_⟩
    apply List.Pairwise.imp _ distinct
    intro key key' different id mem mem'
    exact different (key_of_id valid mem mem')

/-- The ids that a map covers a scenario with are ids of the snapshot, and at least one. -/
lemma coveredIds_eq_some {ids : List String} (covered : map.coveredIds snapshot name = some ids) :
    ids ≠ [] ∧ (∀ id ∈ ids, id ∈ snapshot.criteria.map AcceptanceCriterion.id) ∧
      ∃ keys, map.entries.lookup name = some keys ∧ ids = resolvedIds snapshot keys := by
  unfold ScenarioKeys.coveredIds at covered
  split at covered
  · cases covered
  · rename_i keys found
    split at covered
    · cases covered
    · rename_i some_id
      cases covered
      refine ⟨fun empty => some_id (List.isEmpty_iff.mpr empty), ?_, keys, found, rfl⟩
      intro id mem
      obtain ⟨key, -, mem⟩ := List.mem_flatMap.mp mem
      obtain ⟨criterion, criterion_mem, -, rfl⟩ := mem_idsOfKey.mp mem
      exact List.mem_map_of_mem criterion_mem

/-- Covered ids repeat only where the entry lists a key twice. -/
lemma nodup_coveredIds_iff (valid : snapshot.valid = true) {ids : List String}
    (covered : map.coveredIds snapshot name = some ids) :
    ids.Nodup ↔ map.NoKeyTwice snapshot name := by
  obtain ⟨-, -, keys, found, rfl⟩ := coveredIds_eq_some covered
  rw [nodup_resolvedIds_iff valid, ScenarioKeys.NoKeyTwice, found]

end Ids

section Evidence

variable (jsonParse : Utf16 → Option Json) (uuid : Nat → Uuid) (scope : QualityScope)
  (sourceArtifactId : Uuid) (snapshot : AcceptanceSnapshot) (map : ScenarioKeys) (completedAt : Date)
  (stdout : Utf16)

/-- The assessor's use of an output: the evidence for the criteria that the map resolves to. -/
def evidenceOfOutput : Except QualityInputError (List QualityEvidence) :=
  evidenceFromAcceptanceRun (acceptanceReport jsonParse) uuid scope sourceArtifactId snapshot.taskId
    snapshot.taskAttempt completedAt
    (resolveCriterionIdsByScenario snapshot map.entries).criterionIdsByScenario stdout

/-- A reported scenario with the ids that it should be evidence for, if it is covered. -/
def covered? (result : AcceptanceScenarioResult) :
    Option (AcceptanceScenarioResult × List String) :=
  (map.coveredIds snapshot result.scenario).map fun ids => (result, ids)

/-- What the evidence of a covered scenario should be: it carries exactly the resolved ids, none of
    them twice. -/
structure EvidenceFor (evidence : QualityEvidence) (covered : AcceptanceScenarioResult × List String) :
    Prop where
  kind : evidence.kind = .acceptance
  status : evidence.status = covered.1.status
  scope : evidence.scope = scope
  sourceArtifactId : evidence.sourceArtifactId = sourceArtifactId
  completedAt : evidence.completedAt = completedAt
  task : evidence.acceptanceTaskId = some snapshot.taskId
  taskAttempt : evidence.acceptanceTaskAttempt = some snapshot.taskAttempt
  ids : ∀ id, id ∈ evidence.criterionIds ↔ id ∈ covered.2
  nodup : evidence.criterionIds.Nodup

/-- The output is used as it should be: nothing is thrown, and each reported scenario that is covered
    gives one item, in the order of the report. -/
def UsedAsReported : Prop :=
  ∃ evidence, evidenceOfOutput jsonParse uuid scope sourceArtifactId snapshot map completedAt stdout =
      .ok evidence ∧
    List.Forall₂ (EvidenceFor scope sourceArtifactId snapshot completedAt) evidence
      ((reportedResults jsonParse stdout).filterMap (covered? snapshot map))

variable {jsonParse uuid scope sourceArtifactId snapshot map completedAt stdout}
variable {reported : AcceptanceScenarioResult × Nat}

/-- The evidence that is built for a scenario with given ids. -/
def evidenceWith (uuid : Nat → Uuid) (scope : QualityScope) (sourceArtifactId : Uuid)
    (snapshot : AcceptanceSnapshot) (completedAt : Date) (reported : AcceptanceScenarioResult × Nat)
    (ids : List String) : QualityEvidence where
  id := uuid reported.2
  sourceArtifactId
  scope
  kind := .acceptance
  status := reported.1.status
  completedAt
  acceptanceTaskId := some snapshot.taskId
  acceptanceTaskAttempt := some snapshot.taskAttempt
  criterionIds := ids

/-- One round of the loop, for the object that the map resolves to. -/
def roundOf (uuid : Nat → Uuid) (scope : QualityScope) (sourceArtifactId : Uuid)
    (snapshot : AcceptanceSnapshot) (map : ScenarioKeys) (completedAt : Date) :
    AcceptanceScenarioResult × Nat → Except QualityInputError (Option QualityEvidence) :=
  evidenceOfScenario uuid scope sourceArtifactId snapshot.taskId snapshot.taskAttempt completedAt
    (resolveCriterionIdsByScenario snapshot map.entries).criterionIdsByScenario

/-- The evidence with covered ids is valid if none of them is twice there. -/
lemma evidenceWith_valid (snapshot_valid : snapshot.valid = true) (scope_valid : scope.valid = true)
    {ids : List String} (covered : map.coveredIds snapshot reported.1.scenario = some ids) :
    (evidenceWith uuid scope sourceArtifactId snapshot completedAt reported ids).valid =
      decide ids.Nodup := by
  obtain ⟨some_id, own, -⟩ := coveredIds_eq_some covered
  by_cases nodup : ids.Nodup
  · simp only [AcceptanceSnapshot.valid, Bool.and_eq_true, decide_eq_true_eq,
      List.all_eq_true] at snapshot_valid
    obtain ⟨⟨⟨⟨⟨attempt, -⟩, -⟩, high⟩, criteria⟩, -⟩ := snapshot_valid
    have length : ids.length ≤ 1000 := by
      have within := (List.subperm_of_subset nodup own).length_le
      rw [List.length_map] at within
      exact Nat.le_trans within high
    have ids_valid : ids.all isCriterionId = true := by
      rw [List.all_eq_true]
      intro id mem
      obtain ⟨criterion, criterion_mem, rfl⟩ := List.mem_map.mp (own id mem)
      exact (criteria criterion criterion_mem).1.1
    simp [QualityEvidence.valid, evidenceWith, scope_valid, attempt, length, ids_valid, nodup, some_id]
  · simp [QualityEvidence.valid, evidenceWith, nodup]

/-- The round of a covered scenario. -/
lemma roundOf_covered (snapshot_valid : snapshot.valid = true) (scope_valid : scope.valid = true)
    {ids : List String} (covered : map.coveredIds snapshot reported.1.scenario = some ids) :
    roundOf uuid scope sourceArtifactId snapshot map completedAt reported =
      if ids.Nodup then
        .ok (some (evidenceWith uuid scope sourceArtifactId snapshot completedAt reported ids))
      else .error {} := by
  have valid := @evidenceWith_valid uuid scope sourceArtifactId snapshot map completedAt reported
    snapshot_valid scope_valid ids covered
  have some_id : ids.isEmpty = false :=
    List.isEmpty_eq_false_iff.mpr (coveredIds_eq_some covered).1
  have spread : spreadCriterionIds
      ((resolveCriterionIdsByScenario snapshot map.entries).criterionIdsByScenario.get
        reported.1.scenario) = .ok (some ids) := by
    rw [get_resolved, covered]
    show Except.ok (if ids.isEmpty then none else some ids) = _
    rw [some_id]
    rfl
  unfold roundOf evidenceOfScenario
  rw [spread]
  show (parseQualityInput QualityEvidence.valid (evidenceWith uuid scope sourceArtifactId snapshot
    completedAt reported ids) >>= fun evidence => pure (some evidence)) = _
  unfold parseQualityInput
  rw [valid]
  by_cases nodup : ids.Nodup
  · rw [if_pos nodup, if_pos (decide_eq_true nodup)]
    rfl
  · rw [if_neg nodup, if_neg (by simp [nodup])]
    rfl

/-- A single character is no criterion id. -/
lemma isCriterionId_character (c : Char) : isCriterionId (String.ofList [c]) = false := by
  unfold isCriterionId
  rw [String.toList_ofList]
  split
  · rename_i chars
    cases chars
  · rename_i chars
    cases chars
  · rfl

/-- The round of a scenario that is not covered: there is no evidence, or it throws. -/
lemma roundOf_uncovered (snapshot_valid : snapshot.valid = true)
    (uncovered : map.coveredIds snapshot reported.1.scenario = none) :
    (map.InheritsNothing snapshot reported.1.scenario ∧
      Collect.Silent (roundOf uuid scope sourceArtifactId snapshot map completedAt) reported) ∨
    (¬ map.InheritsNothing snapshot reported.1.scenario ∧
      Collect.Refuses (roundOf uuid scope sourceArtifactId snapshot map completedAt) reported) := by
  unfold Collect.Silent Collect.Refuses roundOf evidenceOfScenario ScenarioKeys.InheritsNothing
  rw [get_resolved, uncovered]
  dsimp only
  cases found : PlainObject.inherited (map.coveredIds snapshot PlainObject.protoName)
    reported.1.scenario with
  | none => exact .inl ⟨.inl rfl, rfl⟩
  | some property =>
    cases property with
    | array elements =>
      -- only the prototype itself, which is covered
      obtain ⟨proto, own⟩ := PlainObject.inherited_array found
      rw [← proto, uncovered] at own
      cases own
    | element text =>
      -- an id of the snapshot, whose characters are no ids
      obtain ⟨ids, own, mem⟩ := PlainObject.inherited_element found
      obtain ⟨criterion, criterion_mem, rfl⟩ :=
        List.mem_map.mp ((coveredIds_eq_some own).2.1 text mem)
      simp only [AcceptanceSnapshot.valid, Bool.and_eq_true, List.all_eq_true] at snapshot_valid
      have id_valid := (snapshot_valid.1.2 criterion criterion_mem).1.1
      refine .inr ⟨by simp, {}, ?_⟩
      cases chars : criterion.id.toList with
      | nil =>
        unfold isCriterionId at id_valid
        rw [chars] at id_valid
        cases id_valid
      | cons c rest =>
        have nonempty : criterion.id.isEmpty = false := by
          rw [← Bool.not_eq_true, String.isEmpty_iff]
          intro empty
          rw [empty] at chars
          cases chars
        have refused (ids : List String) : (evidenceWith uuid scope sourceArtifactId snapshot
            completedAt reported (String.ofList [c] :: ids)).valid = false := by
          simp only [QualityEvidence.valid, evidenceWith, List.all_cons, isCriterionId_character,
            Bool.false_and, Bool.and_false]
        have spread : spreadCriterionIds (some (.element criterion.id)) =
            .ok (some (String.ofList [c] :: rest.map fun d => String.ofList [d])) := by
          show Except.ok (if criterion.id.isEmpty then none else some _) = _
          rw [nonempty, chars]
          rfl
        rw [spread]
        show (parseQualityInput QualityEvidence.valid (evidenceWith uuid scope sourceArtifactId
          snapshot completedAt reported _) >>= fun evidence => pure (some evidence)) = _
        unfold parseQualityInput
        rw [refused]
        rfl
    | function length =>
      cases length with
      | zero => exact .inl ⟨.inr rfl, rfl⟩
      | succ length => exact .inr ⟨by simp, {}, rfl⟩
    | other => exact .inr ⟨by simp, {}, rfl⟩

/-- A round throws exactly for a scenario that is not harmless. -/
lemma refuses_iff (snapshot_valid : snapshot.valid = true) (scope_valid : scope.valid = true) :
    Collect.Refuses (roundOf uuid scope sourceArtifactId snapshot map completedAt) reported ↔
      ¬ map.Harmless snapshot reported.1.scenario := by
  unfold ScenarioKeys.Harmless
  cases covered : map.coveredIds snapshot reported.1.scenario with
  | none =>
    rw [if_neg (by simp)]
    rcases @roundOf_uncovered uuid scope sourceArtifactId snapshot map completedAt reported
      snapshot_valid covered with ⟨harmless, silent⟩ | ⟨harmful, refuses⟩
    · constructor
      · intro ⟨error, refused⟩
        rw [silent] at refused
        cases refused
      · exact fun harmful => absurd harmless harmful
    · exact ⟨fun _ => harmful, fun _ => refuses⟩
  | some ids =>
    rw [if_pos (show (some ids).isSome = true from rfl), ← nodup_coveredIds_iff snapshot_valid covered]
    unfold Collect.Refuses
    rw [roundOf_covered snapshot_valid scope_valid covered]
    by_cases nodup : ids.Nodup
    · rw [if_pos nodup]
      constructor
      · intro ⟨error, refused⟩
        cases refused
      · exact fun repeated => absurd nodup repeated
    · rw [if_neg nodup]
      exact ⟨fun _ => nodup, fun _ => ⟨{}, rfl⟩⟩

/-- The item of a harmless scenario. -/
lemma item_of_harmless (snapshot_valid : snapshot.valid = true) (scope_valid : scope.valid = true)
    (harmless : map.Harmless snapshot reported.1.scenario) :
    Collect.item? (roundOf uuid scope sourceArtifactId snapshot map completedAt) reported =
      (map.coveredIds snapshot reported.1.scenario).map
        (evidenceWith uuid scope sourceArtifactId snapshot completedAt reported) := by
  have accepted : ¬ Collect.Refuses
      (roundOf uuid scope sourceArtifactId snapshot map completedAt) reported :=
    fun refuses => (refuses_iff snapshot_valid scope_valid).mp refuses harmless
  cases covered : map.coveredIds snapshot reported.1.scenario with
  | none =>
    rcases @roundOf_uncovered uuid scope sourceArtifactId snapshot map completedAt reported
      snapshot_valid covered with ⟨-, silent⟩ | ⟨-, refuses⟩
    · exact silent.item?
    · exact absurd refuses accepted
  | some ids =>
    have round := @roundOf_covered uuid scope sourceArtifactId snapshot map completedAt reported
      snapshot_valid scope_valid ids covered
    by_cases nodup : ids.Nodup
    · rw [if_pos nodup] at round
      rw [Collect.item?, round]
      rfl
    · rw [if_neg nodup] at round
      exact absurd ⟨_, round⟩ accepted

/-- The items of harmless scenarios are the evidence for the covered ones. -/
lemma items_of_harmless (snapshot_valid : snapshot.valid = true) (scope_valid : scope.valid = true) :
    ∀ {results : List AcceptanceScenarioResult} (n : Nat),
      (∀ result ∈ results, map.Harmless snapshot result.scenario) →
      List.Forall₂ (EvidenceFor scope sourceArtifactId snapshot completedAt)
        ((results.zipIdx n).filterMap
          (Collect.item? (roundOf uuid scope sourceArtifactId snapshot map completedAt)))
        (results.filterMap (covered? snapshot map))
  | [], _, _ => .nil
  | result :: results, n, harmless => by
    have here := harmless result List.mem_cons_self
    have rest := items_of_harmless snapshot_valid scope_valid (n + 1) fun later mem =>
      harmless later (List.mem_cons_of_mem result mem)
    have item := @item_of_harmless uuid scope sourceArtifactId snapshot map completedAt (result, n)
      snapshot_valid scope_valid here
    rw [List.zipIdx_cons]
    cases covered : map.coveredIds snapshot result.scenario with
    | none =>
      rw [covered] at item
      rw [List.filterMap_cons_none item,
        List.filterMap_cons_none (show covered? snapshot map result = none by rw [covered?, covered]; rfl)]
      exact rest
    | some ids =>
      have nodup : ids.Nodup := by
        rw [nodup_coveredIds_iff snapshot_valid covered]
        rw [ScenarioKeys.Harmless, covered] at here
        exact here
      rw [covered] at item
      rw [List.filterMap_cons_some item,
        List.filterMap_cons_some (show covered? snapshot map result = some (result, ids) by
          rw [covered?, covered]; rfl)]
      refine .cons ?_ rest
      exact
        { kind := rfl
          status := rfl
          scope := rfl
          sourceArtifactId := rfl
          completedAt := rfl
          task := rfl
          taskAttempt := rfl
          ids := fun _ => Iff.rfl
          nodup }

/-- The output of an acceptance run becomes the evidence it should, and nothing is thrown, exactly if
    every scenario that it reports is harmless: a scenario with resolved criteria lists no key of the
    snapshot twice, and another is not named like an inherited property. -/
theorem accepted_run_iff (jsonParse : Utf16 → Option Json) (uuid : Nat → Uuid) {scope : QualityScope}
    (scope_valid : scope.valid = true) (sourceArtifactId : Uuid) {snapshot : AcceptanceSnapshot}
    (snapshot_valid : snapshot.valid = true) (map : ScenarioKeys) (completedAt : Date)
    (stdout : Utf16) :
    UsedAsReported jsonParse uuid scope sourceArtifactId snapshot map completedAt stdout ↔
      ∀ result ∈ reportedResults jsonParse stdout, map.Harmless snapshot result.scenario := by
  have loop : evidenceOfOutput jsonParse uuid scope sourceArtifactId snapshot map completedAt stdout =
      Collect.collect (roundOf uuid scope sourceArtifactId snapshot map completedAt)
        (reportedResults jsonParse stdout).zipIdx := rfl
  constructor
  · intro ⟨evidence, used, _⟩ result mem
    -- a harmful scenario would stop the loop
    by_contra harmful
    obtain ⟨index, bound, rfl⟩ := List.getElem_of_mem mem
    have reported_mem : ((reportedResults jsonParse stdout)[index], index) ∈
        (reportedResults jsonParse stdout).zipIdx := by
      rw [List.mem_zipIdx_iff_getElem?]
      exact List.getElem?_eq_getElem bound
    obtain ⟨error, stopped⟩ := Collect.collect_error reported_mem
      ((refuses_iff snapshot_valid scope_valid).mpr harmful)
    rw [loop, stopped] at used
    cases used
  · intro harmless
    have items := @items_of_harmless uuid scope sourceArtifactId snapshot map completedAt
      snapshot_valid scope_valid _ 0 harmless
    refine ⟨_, ?_, items⟩
    rw [loop]
    apply Collect.collect_ok
    intro reported mem refuses
    exact (refuses_iff snapshot_valid scope_valid).mp refuses
      (harmless reported.1 (List.fst_mem_of_mem_zipIdx mem))

end Evidence

section Reports

/-- A snapshot with one criterion. -/
def signInSnapshot : AcceptanceSnapshot where
  taskId := 4
  taskAttempt := 0
  scope := firstScope
  criteria := [⟨"US-001:1", "auth.sign_in", "A client can sign in."⟩]

/-- A map with one scenario. -/
def signInMap : ScenarioKeys where
  entries := [(Utf16.ofString "client-sign-in", [Utf16.ofString "auth.sign_in"])]
  distinct := List.nodup_singleton _

/-- The line of a report that one scenario has passed. -/
def passedLine (scenario : String) : Utf16 :=
  Utf16.ofString ("\x7b\"ok\":true,\"results\":[\x7b\"scenario\":\"" ++ scenario ++
    "\",\"status\":\"PASSED\",\"durationMs\":1\x7d]\x7d")

/-- The report that one scenario has passed. -/
def passedReport (scenario : String) : Json :=
  .object
    [(Utf16.ofString "ok", .bool true),
      (Utf16.ofString "results", .array
        [.object
          [(Utf16.ofString "scenario", .string (Utf16.ofString scenario)),
            (Utf16.ofString "status", .string (Utf16.ofString "PASSED")),
            (Utf16.ofString "durationMs", .number (some 1))]])]

/-- `JSON.parse` on the line of a report. -/
def parsePassed (scenario : String) (line : Utf16) : Option Json :=
  if line = passedLine scenario then some (passedReport scenario) else none

theorem accepted_run_used :
    UsedAsReported (parsePassed "client-sign-in") id firstScope 20 signInSnapshot signInMap 0
      (passedLine "client-sign-in") := by
  have scope_valid : firstScope.valid = true := by
    decide
  have snapshot_valid : signInSnapshot.valid = true := by
    decide
  apply (accepted_run_iff _ _ scope_valid 20 snapshot_valid signInMap 0 _).mpr
  decide

/-- A report about a scenario called `constructor`: the name is inherited, and the assessor's
    evaluation throws. -/
theorem constructor_report_throws :
    ¬ UsedAsReported (parsePassed "constructor") id firstScope 20 signInSnapshot signInMap 0
      (passedLine "constructor") := by
  have thrown : evidenceOfOutput (parsePassed "constructor") id firstScope 20 signInSnapshot signInMap
      0 (passedLine "constructor") = .error {} := by
    decide
  intro ⟨evidence, used, _⟩
  rw [thrown] at used
  cases used

end Reports

end AtomsPlatform.Quality
