import AtomsPlatform.Quality.Evaluate

/-!
# Quality: when a release is ready

An evaluation of an accepted input never fails: the assembled report satisfies the schema of reports.
It says READY exactly when there is nothing wrong with any piece of evidence and every required check
and every criterion is covered. Both rest on one fact: a report without issues is one in which every
piece of evidence is accepted.
-/

namespace AtomsPlatform.Quality
variable {input : QualityEvaluationInput}

/-- What is asked of a piece of evidence: it belongs to the scope, is neither from the future nor too
    old, has passed, and acceptance evidence names the snapshot's task, attempt and criteria. -/
structure Attests (input : QualityEvaluationInput) (snapshot : AcceptanceSnapshot)
    (evidence : QualityEvidence) : Prop where
  scope : evidence.scope = input.scope
  past : evidence.completedAt ≤ input.evaluatedAt
  fresh : input.evaluatedAt - evidence.completedAt ≤ input.policy.maxEvidenceAgeSeconds * 1000
  passed : evidence.status = .passed
  task : evidence.kind = .acceptance → evidence.acceptanceTaskId = some snapshot.taskId ∧
    evidence.acceptanceTaskAttempt = some snapshot.taskAttempt
  criteria : evidence.kind = .acceptance → ∀ id ∈ evidence.criterionIds,
    id ∈ snapshot.criteria.map AcceptanceCriterion.id

/-- What makes a release ready, for the acceptance snapshot it is evaluated with. -/
structure ReadyFor (input : QualityEvaluationInput) (snapshot : AcceptanceSnapshot) : Prop where
  scope : snapshot.scope = input.scope
  unique : (input.evidence.map QualityEvidence.id).Nodup
  attests : ∀ evidence ∈ input.evidence, Attests input snapshot evidence
  checks : ∀ kind ∈ input.policy.requiredChecks,
    ∃ evidence ∈ input.evidence, evidence.kind = .check kind
  criteria : ∀ criterion ∈ snapshot.criteria, ∃ evidence ∈ input.evidence,
    evidence.kind = .acceptance ∧ criterion.id ∈ evidence.criterionIds

section Issues

/-- There is nothing wrong with the acceptance snapshot if there is one of the same scope. -/
lemma acceptanceIssues_nil :
    acceptanceIssues input = [] ↔
      ∃ snapshot, input.acceptance = some snapshot ∧ snapshot.scope = input.scope := by
  cases e : input.acceptance with
  | none => simp [acceptanceIssues, e]
  | some snapshot =>
    simp only [acceptanceIssues, acceptanceMatches, sameScope, e, Option.isNone_some,
      Bool.false_eq_true, if_false, Option.any_some, Option.some.injEq, exists_eq_left']
    by_cases same : input.scope = snapshot.scope
    · simp [same]
    · simp [same, Ne.symm same]

lemma acceptanceMatches_of {snapshot : AcceptanceSnapshot} (present : input.acceptance = some snapshot)
    (scope : snapshot.scope = input.scope) : acceptanceMatches input = true := by
  simp [acceptanceMatches, sameScope, present, scope]

/-- Of ids of which none occurs twice none is counted more than once. -/
lemma unique_ids {evidence : List QualityEvidence} :
    (∀ e ∈ evidence, ¬ 1 < (evidence.map QualityEvidence.id).count e.id) ↔
      (evidence.map QualityEvidence.id).Nodup := by
  rw [List.nodup_iff_count_le_one]
  constructor
  · intro once id
    by_cases mem : id ∈ evidence.map QualityEvidence.id
    · obtain ⟨e, inside, rfl⟩ := List.mem_map.mp mem
      exact Nat.not_lt.mp (once e inside)
    · rw [List.count_eq_zero_of_not_mem mem]
      exact Nat.zero_le 1
  · intro once e _
    exact Nat.not_lt.mpr (once e.id)

/-- A piece of evidence has no issue if its id is unique and it attests what it is evaluated for. -/
lemma evidenceIssues_nil {snapshot : AcceptanceSnapshot} {evidence : QualityEvidence}
    (present : input.acceptance = some snapshot) (scope : snapshot.scope = input.scope) :
    evidenceIssues input evidence = [] ↔
      ¬ 1 < (input.evidence.map QualityEvidence.id).count evidence.id ∧
        Attests input snapshot evidence := by
  have agrees := acceptanceMatches_of present scope
  have known : unknownCriteria input evidence = [] ↔
      (evidence.kind = .acceptance → ∀ id ∈ evidence.criterionIds,
        id ∈ snapshot.criteria.map AcceptanceCriterion.id) := by
    by_cases kind : evidence.kind = .acceptance <;>
      simp [unknownCriteria, criteriaOf, present, kind]
  have aged : (if input.evaluatedAt < evidence.completedAt then
        [QualityIssueCode.evidenceFromFuture]
      else if input.policy.maxEvidenceAgeSeconds * 1000 < input.evaluatedAt - evidence.completedAt then
        [.evidenceTooOld]
      else []) = [] ↔ evidence.completedAt ≤ input.evaluatedAt ∧
        input.evaluatedAt - evidence.completedAt ≤ input.policy.maxEvidenceAgeSeconds * 1000 := by
    split
    · rename_i future
      exact iff_of_false (List.cons_ne_nil _ _) fun timely => Nat.not_le.mpr future timely.1
    · rename_i past
      split
      · rename_i old
        exact iff_of_false (List.cons_ne_nil _ _) fun timely => Nat.not_le.mpr old timely.2
      · rename_i fresh
        exact iff_of_true rfl ⟨Nat.not_lt.mp past, Nat.not_lt.mp fresh⟩
  have bound : (evidence.kind = .acceptance ∧ (!acceptanceMatches input ∨
        evidence.acceptanceTaskId ≠ input.acceptance.map AcceptanceSnapshot.taskId ∨
        evidence.acceptanceTaskAttempt ≠ input.acceptance.map AcceptanceSnapshot.taskAttempt)) ↔
      ¬ (evidence.kind = .acceptance → evidence.acceptanceTaskId = some snapshot.taskId ∧
        evidence.acceptanceTaskAttempt = some snapshot.taskAttempt) := by
    simp [agrees, present, imp_iff_not_or]
  simp only [evidenceIssues, rejections, List.append_eq_nil_iff, List.map_eq_nil_iff, known, aged,
    bound, sameScope, ite_eq_right_iff, ite_eq_left_iff, decide_eq_true_eq, List.cons_ne_nil, imp_false,
    not_not]
  constructor
  · rintro ⟨⟨⟨⟨⟨once, scope⟩, past, fresh⟩, task⟩, criteria⟩, passed⟩
    exact ⟨once, scope.symm, past, fresh, passed, task, criteria⟩
  · rintro ⟨once, scope, past, fresh, passed, task, criteria⟩
    exact ⟨⟨⟨⟨⟨once, scope.symm⟩, past, fresh⟩, task⟩, criteria⟩, passed⟩

/-- Evidence without issues is accepted. -/
lemma usable_of_evidenceIssues_nil {evidence : QualityEvidence}
    (clean : evidenceIssues input evidence = []) : usable input evidence = true := by
  simp only [evidenceIssues, List.append_eq_nil_iff, List.map_eq_nil_iff] at clean
  simp [usable, clean.1.1, clean.1.2]

/-- If no piece of evidence has an issue, all of it is accepted. -/
lemma accepted_of_clean (clean : ∀ e ∈ input.evidence, evidenceIssues input e = []) :
    accepted input = input.evidence := by
  apply List.filter_eq_self.mpr
  intro e mem
  exact usable_of_evidenceIssues_nil (clean e mem)

lemma mem_sortedChecks {kind : CheckKind} :
    kind ∈ sortedChecks input ↔ kind ∈ input.policy.requiredChecks :=
  List.mem_insertionSort _

/-- A filter for the kinds or the criteria nothing is found for is empty if something is. -/
lemma filter_isEmpty_nil {α β : Type} {l : List α} {found : α → List β} :
    (l.filter fun a => (found a).isEmpty) = [] ↔ ∀ a ∈ l, ∃ b, b ∈ found a := by
  simp [List.isEmpty_iff, List.eq_nil_iff_forall_not_mem]

/-- There are no issues exactly if there is a snapshot for which the release is ready. -/
lemma allIssues_nil :
    allIssues input = [] ↔ ∃ snapshot, input.acceptance = some snapshot ∧ ReadyFor input snapshot := by
  simp only [allIssues, List.append_eq_nil_iff, List.map_eq_nil_iff, filter_isEmpty_nil,
    List.flatMap_eq_nil_iff, acceptanceIssues_nil]
  constructor
  · rintro ⟨⟨⟨⟨snapshot, present, scope⟩, clean⟩, checks⟩, criteria⟩
    have all := accepted_of_clean clean
    have agrees := acceptanceMatches_of present scope
    have attests e mem := (evidenceIssues_nil present scope).mp (clean e mem)
    refine ⟨snapshot, present, scope, unique_ids.mp fun e mem => (attests e mem).1,
      fun e mem => (attests e mem).2, ?_, ?_⟩
    · intro kind mem
      obtain ⟨e, covers⟩ := checks kind (mem_sortedChecks.mpr mem)
      simp only [evidenceForCheck, all, List.mem_filter, decide_eq_true_eq] at covers
      exact ⟨e, covers⟩
    · intro criterion mem
      obtain ⟨e, covers⟩ := criteria criterion (by simpa [criteriaOf, present] using mem)
      simp only [evidenceForCriterion, agrees, if_true, all, List.mem_filter, Bool.and_eq_true,
        decide_eq_true_eq, List.contains_iff_mem] at covers
      exact ⟨e, covers⟩
  · rintro ⟨snapshot, present, ready⟩
    have once := unique_ids.mpr ready.unique
    have agrees := acceptanceMatches_of present ready.scope
    have clean : ∀ e ∈ input.evidence, evidenceIssues input e = [] := fun e mem =>
      (evidenceIssues_nil present ready.scope).mpr ⟨once e mem, ready.attests e mem⟩
    have all := accepted_of_clean clean
    refine ⟨⟨⟨⟨snapshot, present, ready.scope⟩, clean⟩, ?_⟩, ?_⟩
    · intro kind mem
      obtain ⟨e, covers⟩ := ready.checks kind (mem_sortedChecks.mp mem)
      exact ⟨e, by simpa [evidenceForCheck, all] using covers⟩
    · intro criterion mem
      obtain ⟨e, covers⟩ := ready.criteria criterion (by simpa [criteriaOf, present] using mem)
      exact ⟨e, by simpa [evidenceForCriterion, agrees, all] using covers⟩

lemma uniqueIssues_perm : (uniqueIssues input).Perm (allIssues input).dedup :=
  List.perm_insertionSort _ _

lemma mem_uniqueIssues {issue : QualityIssue} :
    issue ∈ uniqueIssues input ↔ issue ∈ allIssues input := by
  rw [uniqueIssues_perm.mem_iff, List.mem_dedup]

lemma uniqueIssues_nil : uniqueIssues input = [] ↔ allIssues input = [] := by
  simp only [List.eq_nil_iff_forall_not_mem, mem_uniqueIssues]

end Issues

section Report

/-- What an accepted input satisfies. -/
lemma accepted_input (valid : input.valid = true) :
    input.scope.valid = true ∧ input.policy.valid = true ∧
      (∀ snapshot, input.acceptance = some snapshot → snapshot.valid = true) ∧
      input.evidence.length ≤ 2000 ∧ ∀ e ∈ input.evidence, e.valid = true := by
  simp only [QualityEvaluationInput.valid, Bool.and_eq_true, decide_eq_true_eq, List.all_eq_true] at valid
  obtain ⟨⟨⟨⟨scope, policy⟩, acceptance⟩, few⟩, evidence⟩ := valid
  refine ⟨scope, policy, ?_, few, evidence⟩
  intro snapshot present
  rwa [present] at acceptance

/-- The criteria of an accepted input have ids of the right form. -/
lemma criteria_valid (valid : input.valid = true) :
    (criteriaOf input).length ≤ 1000 ∧
      (∀ criterion ∈ criteriaOf input, isCriterionId criterion.id = true) ∧
      ((criteriaOf input).map AcceptanceCriterion.id).Nodup ∧
      (input.acceptance.isSome = true → criteriaOf input ≠ []) := by
  obtain ⟨-, -, acceptance, -, -⟩ := accepted_input valid
  cases present : input.acceptance with
  | none => simp [criteriaOf, present]
  | some snapshot =>
    have snapshotValid := acceptance snapshot present
    simp only [AcceptanceSnapshot.valid, Bool.and_eq_true, decide_eq_true_eq,
      List.all_eq_true] at snapshotValid
    obtain ⟨⟨⟨⟨-, some⟩, few⟩, each⟩, distinct⟩ := snapshotValid
    simp only [criteriaOf, present, Option.map_some, Option.getD_some]
    refine ⟨few, fun criterion mem => (each criterion mem).1.1, distinct, ?_⟩
    rintro - none
    rw [none] at some
    exact absurd some (by decide)

/-- The policy of the report is accepted. -/
lemma report_policy (valid : input.policy.valid = true) : (report input).policy.valid = true := by
  have perm : (sortedChecks input).Perm input.policy.requiredChecks := List.perm_insertionSort _ _
  simp only [QualityPolicy.valid, Bool.and_eq_true, decide_eq_true_eq, List.all_eq_true] at valid
  show QualityPolicy.valid { input.policy with requiredChecks := sortedChecks input } = true
  simp only [QualityPolicy.valid, Bool.and_eq_true, decide_eq_true_eq, List.all_eq_true,
    perm.length_eq, perm.mem_iff, perm.nodup_iff]
  exact valid

/-- A report names no more evidence for a subject than there is. -/
lemma length_evidenceIds {Subject : Type} {subject : Subject} {evidence : List QualityEvidence}
    (few : evidence.length ≤ input.evidence.length) (bound : input.evidence.length ≤ 2000) :
    (coverage subject evidence).evidenceIds.length ≤ 2000 := by
  simp only [coverage, List.length_insertionSort, List.length_map]
  exact few.trans bound

lemma length_evidenceForCheck {kind : CheckKind} :
    (evidenceForCheck input kind).length ≤ input.evidence.length :=
  (List.length_filter_le ..).trans (List.length_filter_le ..)

lemma length_evidenceForCriterion {criterion : AcceptanceCriterion} :
    (evidenceForCriterion input criterion).length ≤ input.evidence.length := by
  rw [evidenceForCriterion]
  split
  · exact (List.length_filter_le ..).trans (List.length_filter_le ..)
  · exact Nat.zero_le _

variable (input) in
lemma traceToAcceptance_perm :
    (report input).traceToAcceptance.Perm ((criteriaOf input).map fun criterion =>
      coverage criterion.id (evidenceForCriterion input criterion)) :=
  List.perm_insertionSort _ _

/-- Every issue of an accepted input names a criterion by an id of the right form, if any. -/
lemma issues_valid (valid : input.valid = true) {issue : QualityIssue}
    (mem : issue ∈ allIssues input) : issue.criterionId.all isCriterionId = true := by
  obtain ⟨-, -, -, -, evidenceValid⟩ := accepted_input valid
  simp only [allIssues, List.mem_append, List.mem_flatMap, List.mem_map, List.mem_filter] at mem
  obtain ((mem | ⟨e, mem, issued⟩) | ⟨kind, -, rfl⟩) | ⟨criterion, ⟨mem, -⟩, rfl⟩ := mem
  · simp only [acceptanceIssues] at mem
    split at mem
    · rw [List.mem_singleton.mp mem]
      rfl
    · split at mem
      · rw [List.mem_singleton.mp mem]
        rfl
      · cases mem
  · simp only [evidenceIssues, List.mem_append, List.mem_map] at issued
    obtain (⟨code, -, rfl⟩ | ⟨id, unknown, rfl⟩) | issued := issued
    · rfl
    · have known := evidenceValid e mem
      simp only [QualityEvidence.valid, Bool.and_eq_true, List.all_eq_true] at known
      simp only [unknownCriteria] at unknown
      split at unknown
      · exact known.1.1.2 id (List.mem_filter.mp unknown).1
      · cases unknown
    · split at issued
      · cases issued
      · rw [List.mem_singleton.mp issued]
        rfl
  · rfl
  · exact (criteria_valid valid).2.1 criterion mem

/-- Evidence that has passed makes up complete coverage. -/
lemma coverage_complete {Subject : Type} {subject : Subject} {evidence : List QualityEvidence}
    (some : ∃ e, e ∈ evidence) (passed : ∀ e ∈ evidence, e.status = .passed) :
    (coverage subject evidence).complete = true := by
  obtain ⟨e, mem⟩ := some
  have nonempty : evidence ≠ [] := List.ne_nil_of_mem mem
  have sorted : ((evidence.map QualityEvidence.id).insertionSort fun left right =>
      Utf16.le (uuidText left) (uuidText right)) ≠ [] := by
    intro empty
    have same := congrArg List.length empty
    rw [List.length_insertionSort, List.length_map] at same
    exact nonempty (List.eq_nil_of_length_eq_zero same)
  have all : (evidence.all fun item => item.status = .passed) = true := by
    simpa using passed
  simp [Coverage.complete, coverage, nonempty, all, sorted]

/-- A report without issues has complete coverage. -/
lemma report_complete (valid : input.valid = true) (clean : allIssues input = []) :
    (report input).complete = true := by
  obtain ⟨snapshot, present, ready⟩ := allIssues_nil.mp clean
  obtain ⟨-, policyValid, -, -, -⟩ := accepted_input valid
  obtain ⟨-, -, distinct, nonempty⟩ := criteria_valid valid
  have sorted : (sortedChecks input).Perm input.policy.requiredChecks := List.perm_insertionSort _ _
  have checkSubjects : (report input).checks.map Coverage.subject = sortedChecks input := by
    simp [report, coverage, Function.comp_def]
  have traceSubjects : ((report input).traceToAcceptance.map Coverage.subject).Perm
      ((criteriaOf input).map AcceptanceCriterion.id) := by
    have subjects := (traceToAcceptance_perm input).map Coverage.subject
    rwa [List.map_map] at subjects
  have passed : ∀ e ∈ accepted input, e.status = .passed := fun e mem =>
    (ready.attests e (List.mem_filter.mp mem).1).passed
  have parts : allIssues input = [] := clean
  simp only [allIssues, List.append_eq_nil_iff, List.map_eq_nil_iff, filter_isEmpty_nil] at parts
  obtain ⟨⟨-, checks⟩, criteria⟩ := parts
  have required : input.policy.requiredChecks.Nodup := by
    simp only [QualityPolicy.valid, Bool.and_eq_true, decide_eq_true_eq] at policyValid
    exact policyValid.2
  simp only [ReleaseAssessment.complete, Bool.and_eq_true, decide_eq_true_eq, List.all_eq_true,
    List.any_eq_true, checkSubjects]
  refine ⟨⟨⟨⟨⟨⟨⟨?_, ?_⟩, ?_⟩, ?_⟩, ?_⟩, ?_⟩, ?_⟩, ?_⟩
  · simp [report, present]
  · have some : criteriaOf input ≠ [] := nonempty (by simp [present])
    have length := (traceToAcceptance_perm input).length_eq
    rw [List.length_map] at length
    cases trace : (report input).traceToAcceptance with
    | nil =>
      rw [trace] at length
      exact absurd (List.eq_nil_of_length_eq_zero length.symm) some
    | cons head tail => rfl
  · simp [report]
  · exact sorted.nodup_iff.mpr required
  · intro kind mem
    refine ⟨coverage kind (evidenceForCheck input kind), ?_, rfl⟩
    exact List.mem_map.mpr ⟨kind, mem, rfl⟩
  · exact traceSubjects.nodup_iff.mpr distinct
  · intro check mem
    obtain ⟨kind, required, rfl⟩ := List.mem_map.mp mem
    refine coverage_complete (checks kind required) ?_
    intro e covers
    exact passed e (List.mem_filter.mp covers).1
  · intro trace mem
    obtain ⟨criterion, asked, rfl⟩ := List.mem_map.mp ((traceToAcceptance_perm input).mem_iff.mp mem)
    refine coverage_complete (criteria criterion asked) ?_
    intro e covers
    simp only [evidenceForCriterion] at covers
    split at covers
    · exact passed e (List.mem_filter.mp covers).1
    · cases covers

/-- The assembled report satisfies the schema of reports. -/
lemma report_valid (valid : input.valid = true) : (report input).valid = true := by
  obtain ⟨scopeValid, policyValid, -, few, -⟩ := accepted_input valid
  obtain ⟨fewCriteria, criterionIds, -, -⟩ := criteria_valid valid
  have requiredFew : input.policy.requiredChecks.length ≤ 9 := by
    simp only [QualityPolicy.valid, Bool.and_eq_true, decide_eq_true_eq] at policyValid
    exact policyValid.1.1.1.1.2
  have ready : (report input).status = .ready ↔ (report input).issues = [] := by
    show (if (uniqueIssues input).isEmpty then ReleaseStatus.ready else .blocked) = .ready ↔
      uniqueIssues input = []
    cases uniqueIssues input <;> simp
  simp only [ReleaseAssessment.valid, Bool.and_eq_true, Bool.or_eq_true, decide_eq_true_eq,
    List.all_eq_true]
  refine ⟨⟨⟨⟨⟨⟨⟨⟨scopeValid, report_policy policyValid⟩, ?_⟩, ?_⟩, ?_⟩, ?_⟩, ?_⟩, ready⟩, ?_⟩
  · simpa [report, sortedChecks] using requiredFew
  · rw [(traceToAcceptance_perm input).length_eq, List.length_map]
    exact fewCriteria
  · intro check mem
    obtain ⟨kind, -, rfl⟩ := List.mem_map.mp mem
    exact length_evidenceIds length_evidenceForCheck few
  · intro trace mem
    obtain ⟨criterion, asked, rfl⟩ := List.mem_map.mp ((traceToAcceptance_perm input).mem_iff.mp mem)
    exact ⟨criterionIds criterion asked, length_evidenceIds length_evidenceForCriterion few⟩
  · intro issue mem
    exact issues_valid valid (mem_uniqueIssues.mp mem)
  · cases clean : (report input).status with
    | blocked => exact .inl rfl
    | ready => exact .inr (report_complete valid (uniqueIssues_nil.mp (ready.mp clean)))

end Report

/-- An evaluation of an accepted input returns the report on it. -/
lemma evaluateRelease_eq (valid : input.valid = true) :
    evaluateRelease input = .ok (report input) := by
  have parsed : parseQualityInput QualityEvaluationInput.valid input = .ok input := by
    rw [parseQualityInput, if_pos valid]
  have final : parseQualityInput ReleaseAssessment.valid (report input) = .ok (report input) := by
    rw [parseQualityInput, if_pos (report_valid valid)]
  rw [evaluateRelease, parsed]
  exact final

/-- Every accepted input is evaluated, and the result is READY exactly if there is an acceptance
    snapshot for which the release is ready. -/
theorem evaluateRelease_ready_iff (accepts : input.valid = true) :
    ∃ assessment, evaluateRelease input = .ok assessment ∧
      (assessment.status = .ready ↔
        ∃ snapshot, input.acceptance = some snapshot ∧ ReadyFor input snapshot) := by
  refine ⟨report input, evaluateRelease_eq accepts, ?_⟩
  rw [← allIssues_nil, ← uniqueIssues_nil]
  show (if (uniqueIssues input).isEmpty then ReleaseStatus.ready else .blocked) = .ready ↔ _
  cases uniqueIssues input <;> simp

section Scenario

/-- A scope. -/
def exampleScope : QualityScope where
  workspaceId := 1
  projectId := 2
  runId := 3
  controlVersion := 1
  attempt := 1
  snapshotSha256 := String.ofList (List.replicate 64 '0')

/-- A release with one criterion and passed evidence for everything the policy asks for. -/
def exampleInput : QualityEvaluationInput where
  scope := exampleScope
  evaluatedAt := 2000
  policy := { requiredChecks := baselineChecks, maxEvidenceAgeSeconds := 1 }
  acceptance := some
    { taskId := 4
      taskAttempt := 1
      scope := exampleScope
      criteria := [⟨"US-001:1", "auth.sign_in", "Members sign in."⟩] }
  evidence :=
    { id := 9, sourceArtifactId := 9, scope := exampleScope, kind := .acceptance, status := .passed,
      completedAt := 1500, acceptanceTaskId := some 4, acceptanceTaskAttempt := some 1,
      criterionIds := ["US-001:1"] } ::
    baselineChecks.mapIdx fun index kind =>
      { id := index, sourceArtifactId := index, scope := exampleScope, kind := .check kind,
        status := .passed, completedAt := 1000, acceptanceTaskId := none,
        acceptanceTaskAttempt := none, criterionIds := [] }

/-- The example is accepted, so it is evaluated. -/
theorem evaluateRelease_ready_example :
    ∃ assessment, evaluateRelease exampleInput = .ok assessment ∧
      (assessment.status = .ready ↔
        ∃ snapshot, exampleInput.acceptance = some snapshot ∧ ReadyFor exampleInput snapshot) :=
  evaluateRelease_ready_iff (by decide)

end Scenario

end AtomsPlatform.Quality
