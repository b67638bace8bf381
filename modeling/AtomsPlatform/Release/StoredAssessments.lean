import AtomsPlatform.Release.Assessors
import AtomsPlatform.Run.SandboxRows

/-!
# Stored assessments

What the transactions on the tables of assessments do as long as the constraints of the schema hold. An
assessment replaces the one under its key and leaves all others with their evidence alone. The evidence
of a command has the identifier of the command, so an assessment cannot be stored if one of its commands
is the evidence of another assessment.
-/

namespace AtomsPlatform.Release
open Run Quality
variable {Output : Type} {s s' : ReleaseTables Output} {row : ReleaseAssessmentRow}
  {key : AssessmentKey}

/-- The constraints on the tables of assessments, and on the commands that are their evidence. -/
structure Constrained (s : ReleaseTables Output) : Prop where
  keys : (s.assessments.map ReleaseAssessmentRow.key).Nodup
  ids : (s.assessments.map ReleaseAssessmentRow.id).Nodup
  evidence : (s.evidence.map ReleaseEvidenceRow.id).Nodup
  owned : ∀ e ∈ s.evidence, ∃ row ∈ s.assessments, row.id = e.assessmentId
  commands : (s.platform.sandboxCommands.map SandboxCommand.id).Nodup

/-- Whether evidence belongs to the assessment under a key. -/
def ReleaseTables.belongs (s : ReleaseTables Output) (key : AssessmentKey) (e : ReleaseEvidenceRow) :
    Bool :=
  s.assessments.any fun row => row.key = key ∧ row.id = e.assessmentId

lemma belongs_iff {e : ReleaseEvidenceRow} :
    s.belongs key e = true ↔ ∃ row ∈ s.assessments, row.key = key ∧ row.id = e.assessmentId := by
  rw [ReleaseTables.belongs, List.any_eq_true]
  simp only [decide_eq_true_eq]

/-- The evidence of an assessment. -/
def ReleaseTables.evidenceOf (s : ReleaseTables Output) (assessmentId : Uuid) :
    List ReleaseEvidenceRow :=
  s.evidence.filter fun e => e.assessmentId = assessmentId

section Upsert

/-- What writing a row under its key does. -/
structure Upserted (row : ReleaseAssessmentRow) (s s' : ReleaseTables Output) : Prop where
  platform : s'.platform = s.platform
  stored : ∃ stored, s'.assessment? row.key = some stored ∧ stored.id = row.id ∧
    stored.data = row.data
  others : ∀ key, key ≠ row.key → s'.assessment? key = s.assessment? key
  keys : (s'.assessments.map ReleaseAssessmentRow.key).Nodup
  members : ∀ r ∈ s'.assessments,
    (r.key = row.key ∧ r.id = row.id) ∨ (r.key ≠ row.key ∧ r ∈ s.assessments)
  kept : ∀ r ∈ s.assessments, r.key ≠ row.key → r ∈ s'.assessments
  evidence : s'.evidence = s.evidence.map fun e =>
    if s.belongs row.key e then { e with assessmentId := row.id } else e

/-- A row with a new identifier, of a run that exists, is written. -/
lemma upsertAssessment_ok (constrained : Constrained s)
    (fresh : ∀ other ∈ s.assessments, other.id ≠ row.id)
    (run : (s.platform.run? row.scope.runId).isSome = true) :
    ∃ s', upsertAssessment row s = .ok s' ∧ Upserted row s s' := by
  have unrefused : (s.assessments.any fun other => other.id = row.id ∧ other.key ≠ row.key) =
      false := by
    rw [List.any_eq_false]
    intro other mem refused
    exact fresh other mem (of_decide_eq_true refused).1
  have found : (s.platform.run? row.scope.runId).isNone = false := by
    rw [← Option.not_isSome, run]
    rfl
  rw [upsertAssessment, found, unrefused]
  cases there : Table.lookup ReleaseAssessmentRow.key row.key s.assessments with
  | none =>
    have absent : ∀ r ∈ s.assessments, r.key ≠ row.key := by
      intro r mem same
      have lookup := Table.lookup_of_mem constrained.keys mem
      rw [same, there] at lookup
      cases lookup
    have unowned : ∀ e, s.belongs row.key e = false := by
      intro e
      rw [← Bool.not_eq_true, belongs_iff]
      rintro ⟨r, mem, same, -⟩
      exact absent r mem same
    refine ⟨_, rfl, rfl, ⟨row, Table.lookup_append_new there rfl, rfl, rfl⟩, ?_, ?_, ?_, ?_, ?_⟩
    · exact fun key ne => Table.lookup_append_ne ne.symm
    · exact Table.nodup_append constrained.keys absent
    · intro r mem
      rcases List.mem_append.mp mem with old | new
      · exact .inr ⟨absent r old, old⟩
      · rw [List.mem_singleton.mp new]
        exact .inl ⟨rfl, rfl⟩
    · exact fun r mem _ => List.mem_append_left _ mem
    · simp [unowned]
  | some previous =>
    have mem := Table.lookup_mem there
    have same := Table.lookup_key there
    have only : ∀ r ∈ s.assessments, r.key = row.key → r = previous := by
      intro r mem' same'
      exact List.inj_on_of_nodup_map constrained.keys mem' mem (same'.trans same.symm)
    have owns : ∀ e, s.belongs row.key e = decide (e.assessmentId = previous.id) := by
      intro e
      rw [Bool.eq_iff_iff, belongs_iff, decide_eq_true_eq]
      constructor
      · rintro ⟨r, mem', same', id⟩
        rw [only r mem' same'] at id
        exact id.symm
      · exact fun id => ⟨previous, mem, same, id.symm⟩
    have keeps : ∀ r : ReleaseAssessmentRow, r.key = row.key →
        ({ row with createdAt := r.createdAt } : ReleaseAssessmentRow).key = row.key :=
      fun _ _ => rfl
    refine ⟨_, rfl, rfl, ⟨{ row with createdAt := previous.createdAt }, ?_, rfl, rfl⟩, ?_, ?_, ?_, ?_,
      ?_⟩
    · have updated := Table.lookup_update (p := fun _ => true) (t := s.assessments) keeps
      rw [there] at updated
      exact updated
    · exact fun key ne => Table.lookup_update_ne keeps ne
    · have unchanged : (Table.update ReleaseAssessmentRow.key row.key (fun _ => true)
          (fun r => { row with createdAt := r.createdAt }) s.assessments).map
            ReleaseAssessmentRow.key = s.assessments.map ReleaseAssessmentRow.key :=
        Table.keys_update fun r same => same.symm
      show (List.map _ (Table.update _ _ _ _ _)).Nodup
      rw [unchanged]
      exact constrained.keys
    · intro r mem'
      obtain ⟨r₀, mem₀, e⟩ := List.mem_map.mp mem'
      split at e
      · rw [← e]
        exact .inl ⟨rfl, rfl⟩
      · rename_i other
        rw [← e]
        exact .inr ⟨fun same => other ⟨same, rfl⟩, mem₀⟩
    · exact fun r mem' ne => Table.mem_update_ne mem' ne
    · refine List.map_congr_left fun e _ => ?_
      rw [owns]
      by_cases mine : e.assessmentId = previous.id
      · rw [if_pos mine, if_pos (decide_eq_true mine)]
      · rw [if_neg mine, if_neg (by simpa using mine)]

/-- A row with a new identifier is written unless it is refused. -/
lemma upserted_of_ok (constrained : Constrained s) (fresh : ∀ other ∈ s.assessments, other.id ≠ row.id)
    (ok : upsertAssessment row s = .ok s') : Upserted row s s' := by
  have run : (s.platform.run? row.scope.runId).isSome = true := by
    by_contra none
    rw [upsertAssessment, if_pos (by simpa using none)] at ok
    cases ok
  obtain ⟨written, done, upserted⟩ := upsertAssessment_ok constrained fresh run
  cases ok.symm.trans done
  exact upserted

variable (upserted : Upserted row s s')
include upserted

/-- The constraints go on to hold. -/
lemma Upserted.constrained (constrained : Constrained s)
    (fresh : ∀ other ∈ s.assessments, other.id ≠ row.id) : Constrained s' where
  keys := upserted.keys
  ids := by
    refine List.Nodup.map_on ?_ upserted.keys.of_map
    intro r mem r' mem' same
    rcases upserted.members r mem with ⟨here, id⟩ | ⟨-, old⟩
    · rcases upserted.members r' mem' with ⟨here', -⟩ | ⟨-, old'⟩
      · exact List.inj_on_of_nodup_map upserted.keys mem mem' (here.trans here'.symm)
      · exact absurd (same.symm.trans id) (fresh r' old')
    · rcases upserted.members r' mem' with ⟨-, id'⟩ | ⟨-, old'⟩
      · exact absurd (same.trans id') (fresh r old)
      · exact List.inj_on_of_nodup_map constrained.ids old old' same
  evidence := by
    rw [upserted.evidence, List.map_map]
    have ids : s.evidence.map (ReleaseEvidenceRow.id ∘ fun e =>
        if s.belongs row.key e then { e with assessmentId := row.id } else e) =
          s.evidence.map ReleaseEvidenceRow.id := by
      refine List.map_congr_left fun e _ => ?_
      show (if s.belongs row.key e then _ else e).id = e.id
      split
      · rfl
      · rfl
    rw [ids]
    exact constrained.evidence
  owned e mem := by
    rw [upserted.evidence] at mem
    obtain ⟨e₀, mem₀, rfl⟩ := List.mem_map.mp mem
    split
    · obtain ⟨stored, there, id, -⟩ := upserted.stored
      exact ⟨stored, Table.lookup_mem there, id⟩
    · rename_i other
      obtain ⟨r, mem', id⟩ := constrained.owned e₀ mem₀
      refine ⟨r, upserted.kept r mem' fun same => other ?_, id⟩
      exact belongs_iff.mpr ⟨r, mem', same, id⟩
  commands := by
    rw [upserted.platform]
    exact constrained.commands

/-- After its own evidence is deleted, an assessment leaves the evidence of all others. -/
lemma Upserted.deleted (constrained : Constrained s)
    (fresh : ∀ other ∈ s.assessments, other.id ≠ row.id) :
    (deleteEvidence row.id s').evidence = s.evidence.filter fun e => !s.belongs row.key e := by
  show s'.evidence.filter _ = _
  rw [upserted.evidence, List.filter_map]
  have others : s.evidence.filter ((fun e => decide (e.assessmentId ≠ row.id)) ∘ fun e =>
      if s.belongs row.key e then { e with assessmentId := row.id } else e) =
        s.evidence.filter fun e => !s.belongs row.key e := by
    refine List.filter_congr fun e mem => ?_
    show decide ((if s.belongs row.key e then _ else e).assessmentId ≠ row.id) = _
    split
    · rename_i mine
      rw [mine]
      simp
    · rename_i other
      obtain ⟨r, mem', id⟩ := constrained.owned e mem
      have ne : e.assessmentId ≠ row.id := by
        rw [← id]
        exact fresh r mem'
      rw [Bool.eq_false_iff.mpr other]
      simp [ne]
  rw [others]
  refine (List.map_congr_left fun e mem => ?_).trans (List.map_id _)
  have other := (List.mem_filter.mp mem).2
  rw [if_neg (by simpa using other)]
  rfl

end Upsert

section Evidence

lemma bind_eq_ok {ε α β : Type} {x : Except ε α} {f : α → Except ε β} {b : β}
    (e : (x >>= f) = .ok b) : ∃ a, x = .ok a ∧ f a = .ok b := by
  cases x with
  | error error => cases e
  | ok a => exact ⟨a, rfl, e⟩

lemma parseQualityInput_ok {α : Type} {valid : α → Bool} {value parsed : α}
    (ok : parseQualityInput valid value = .ok parsed) : parsed = value := by
  rw [parseQualityInput] at ok
  split at ok
  · cases ok
    rfl
  · cases ok

/-- The evidence of a command has its identifier; a command that is no check has none. -/
lemma evidenceOfRecord_ok {scope : QualityScope} {command : BaselineCommandRecord}
    {item? : Option QualityEvidence} (ok : evidenceOfRecord scope command = .ok item?) :
    (command.name.kind? = none ∧ item? = none) ∨
      ∃ kind item, command.name.kind? = some kind ∧ item? = some item ∧ item.id = command.id ∧
        item.kind = .check kind := by
  rw [evidenceOfRecord, evidenceFromValidationStep] at ok
  split at ok
  · cases ok
  · split at ok
    · rename_i none
      cases ok
      exact .inl ⟨none, rfl⟩
    · rename_i kind some
      refine .inr ⟨kind, ?_⟩
      cases parsed : parseQualityInput QualityEvidence.valid
          { id := command.id, sourceArtifactId := command.id, scope, kind := .check kind,
            status := if command.exitCode = 0 then .passed else .failed,
            completedAt := command.completedAt, acceptanceTaskId := none,
            acceptanceTaskAttempt := none, criterionIds := [] } with
      | error e =>
        rw [parsed] at ok
        cases ok
      | ok item =>
        rw [parsed] at ok
        cases ok
        rw [parseQualityInput_ok parsed]
        exact ⟨_, some, rfl, rfl, rfl⟩

/-- The commands that are checks. -/
def checkCommands (commands : List BaselineCommandRecord) : List BaselineCommandRecord :=
  commands.filter fun command => command.name.kind?.isSome

/-- The evidence of commands has the identifiers of those that are checks. -/
lemma collect_checks {scope : QualityScope} {commands : List BaselineCommandRecord}
    {items : List QualityEvidence} (ok : Collect.collect (evidenceOfRecord scope) commands = .ok items) :
    items.map QualityEvidence.id = (checkCommands commands).map BaselineCommandRecord.id ∧
      ∀ item ∈ items, item.kind ≠ .acceptance := by
  induction commands generalizing items with
  | nil =>
    cases ok
    exact ⟨rfl, fun item mem => absurd mem List.not_mem_nil⟩
  | cons command commands ih =>
    rw [Collect.collect_cons] at ok
    cases first : evidenceOfRecord scope command with
    | error e =>
      rw [first] at ok
      cases ok
    | ok item? =>
      rw [first] at ok
      cases rest : Collect.collect (evidenceOfRecord scope) commands with
      | error e =>
        rw [rest] at ok
        cases ok
      | ok items' =>
        rw [rest] at ok
        cases ok
        obtain ⟨ids, kinds⟩ := ih rest
        rw [checkCommands, List.filter_cons]
        rcases evidenceOfRecord_ok first with ⟨none, rfl⟩ | ⟨kind, item, some, rfl, id, check⟩
        · rw [none]
          exact ⟨ids, kinds⟩
        · rw [some]
          refine ⟨congrArg₂ List.cons id ids, ?_⟩
          intro item' mem
          rcases List.mem_cons.mp mem with rfl | mem
          · rw [check]
            exact EvidenceKind.noConfusion
          · exact kinds item' mem

lemma evidenceOfScenario_kind {uuid : Nat → Uuid} {scope : QualityScope}
    {sourceArtifactId acceptanceTaskId : Uuid} {attempt : Nat} {completedAt : Date}
    {map : PlainObject String} {reported : AcceptanceScenarioResult × Nat} {item : QualityEvidence}
    (ok : evidenceOfScenario uuid scope sourceArtifactId acceptanceTaskId attempt completedAt map
      reported = .ok (some item)) : item.kind = .acceptance := by
  rw [evidenceOfScenario] at ok
  cases spread : spreadCriterionIds (map.get reported.1.scenario) with
  | error e =>
    rw [spread] at ok
    cases ok
  | ok criterionIds =>
    rw [spread] at ok
    cases criterionIds with
    | none => cases ok
    | some criterionIds =>
      cases parsed : parseQualityInput QualityEvidence.valid
          { id := uuid reported.2, sourceArtifactId, scope, kind := .acceptance,
            status := reported.1.status, completedAt, acceptanceTaskId := some acceptanceTaskId,
            acceptanceTaskAttempt := some attempt, criterionIds } with
      | error e =>
        have failed : (Except.error e : Except QualityInputError _) = .ok (some item) := by
          rw [← ok]
          exact (congrArg (fun r => r >>= fun evidence => pure (some evidence)) parsed).symm
        cases failed
      | ok evidence =>
        have done : (Except.ok (some evidence) : Except QualityInputError _) = .ok (some item) := by
          rw [← ok]
          exact (congrArg (fun r => r >>= fun evidence => pure (some evidence)) parsed).symm
        cases done
        rw [parseQualityInput_ok parsed]

/-- Accepted evidence is of this kind, and the unresolved scenarios are configured ones, with some of
    their keys. -/
lemma acceptanceEvidence_ok {options : AssessorOptions Output} {generated : Generated}
    {scope : QualityScope} {acceptance : Option AcceptanceSnapshot}
    {acceptanceRun : Option AcceptanceRunRecord} {accepted : List QualityEvidence}
    {unresolved : List (Utf16 × List Utf16)}
    (ok : acceptanceEvidence options generated scope acceptance acceptanceRun =
      .ok (accepted, unresolved)) :
    (∀ item ∈ accepted, item.kind = .acceptance) ∧
      ∀ scenario ∈ unresolved, scenario.2 ≠ [] ∧
        ∃ keys, (scenario.1, keys) ∈ options.criterionKeysByScenario ∧ scenario.2.Sublist keys := by
  cases acceptance with
  | none =>
    cases ok
    exact ⟨fun item mem => absurd mem List.not_mem_nil, fun item mem => absurd mem List.not_mem_nil⟩
  | some acceptance =>
    cases acceptanceRun with
    | none =>
      cases ok
      exact ⟨fun item mem => absurd mem List.not_mem_nil,
        fun item mem => absurd mem List.not_mem_nil⟩
    | some acceptanceRun =>
      obtain ⟨evidence, collected, same⟩ := map_eq_ok ok
      cases same
      constructor
      · intro item mem
        obtain ⟨reported, -, built⟩ := Collect.mem_of_collect collected mem
        exact evidenceOfScenario_kind built
      · intro scenario mem
        obtain ⟨configured, missing⟩ := List.mem_filter.mp mem
        obtain ⟨⟨name, keys⟩, there, rfl⟩ := List.mem_map.mp configured
        refine ⟨fun empty => ?_, keys, there, List.filter_sublist⟩
        rw [empty] at missing
        cases missing

/-- What a worker's evaluation is of. -/
structure Gathered (options : AssessorOptions Output) (inputs : ReleaseEvidenceInputs Output)
    (evidence : List QualityEvidence) (unresolved : List (Utf16 × List Utf16)) : Prop where
  checks : (evidence.filter fun item => item.kind ≠ .acceptance).map QualityEvidence.id =
    (checkCommands inputs.baselineCommands).map BaselineCommandRecord.id
  unresolved : ∀ scenario ∈ unresolved, scenario.2 ≠ [] ∧
    ∃ keys, (scenario.1, keys) ∈ options.criterionKeysByScenario ∧ scenario.2.Sublist keys

lemma workerEvaluation_ok {options : AssessorOptions Output} {generated : Generated} {now : Date}
    {scope : ReleaseAssessmentScope} {inputs : ReleaseEvidenceInputs Output}
    {input : QualityEvaluationInput} {unresolved : List (Utf16 × List Utf16)}
    (ok : workerEvaluation options generated now scope inputs = .ok (input, unresolved)) :
    Gathered options inputs input.evidence unresolved := by
  rw [workerEvaluation] at ok
  obtain ⟨snapshotSha256, -, ok⟩ := bind_eq_ok ok
  obtain ⟨acceptance, -, ok⟩ := bind_eq_ok ok
  obtain ⟨checks, collected, ok⟩ := bind_eq_ok ok
  obtain ⟨⟨accepted, missing⟩, acceptedOk, ok⟩ := bind_eq_ok ok
  cases ok
  obtain ⟨ids, kinds⟩ := collect_checks collected
  obtain ⟨acceptedKinds, unresolved⟩ := acceptanceEvidence_ok acceptedOk
  refine ⟨?_, unresolved⟩
  have own : checks.filter (fun item => item.kind ≠ .acceptance) = checks :=
    List.filter_eq_self.mpr fun item mem => decide_eq_true (kinds item mem)
  have none : accepted.filter (fun item => item.kind ≠ .acceptance) = [] :=
    List.filter_eq_nil_iff.mpr fun item mem => by simp [acceptedKinds item mem]
  rw [List.filter_append, own, none, List.append_nil]
  exact ids

end Evidence

section Writes
variable {s₁ : ReleaseTables Output} {rows : List ReleaseEvidenceRow} {runId : Uuid}
  {events : List OtherEvent}

/-- The assessment under a key is as it was, with its evidence. -/
def Untouched (key : AssessmentKey) (s s' : ReleaseTables Output) : Prop :=
  s'.assessment? key = s.assessment? key ∧
    ∀ row, s.assessment? key = some row → s'.evidenceOf row.id = s.evidenceOf row.id

lemma Untouched.refl : Untouched key s s :=
  ⟨rfl, fun _ _ => rfl⟩

lemma Untouched.trans (first : Untouched key s s₁) (second : Untouched key s₁ s') :
    Untouched key s s' := by
  refine ⟨second.1.trans first.1, fun row there => ?_⟩
  have there₁ : s₁.assessment? key = some row := first.1.trans there
  exact (second.2 row there₁).trans (first.2 row there)

/-- Writing a row touches no other assessment. -/
lemma Upserted.untouched (upserted : Upserted row s s') (constrained : Constrained s)
    (fresh : ∀ other ∈ s.assessments, other.id ≠ row.id) (ne : key ≠ row.key) :
    Untouched key s s' := by
  refine ⟨upserted.others key ne, fun r there => ?_⟩
  have mem : r ∈ s.assessments := Table.lookup_mem there
  have other : r.key ≠ row.key := by
    rw [Table.lookup_key there]
    exact ne
  have unowned : ∀ e : ReleaseEvidenceRow, s.belongs row.key e = true → e.assessmentId ≠ r.id := by
    intro e owns same
    obtain ⟨r', mem', key', id'⟩ := belongs_iff.mp owns
    have equal : r' = r := List.inj_on_of_nodup_map constrained.ids mem' mem (id'.trans same)
    exact other (equal ▸ key')
  rw [ReleaseTables.evidenceOf, upserted.evidence, List.filter_map]
  have same : s.evidence.filter ((fun e => decide (e.assessmentId = r.id)) ∘ fun e =>
      if s.belongs row.key e then { e with assessmentId := row.id } else e) =
        s.evidenceOf r.id := by
    refine List.filter_congr fun e _ => ?_
    show decide ((if s.belongs row.key e then _ else e).assessmentId = r.id) = _
    split
    · rename_i owns
      rw [decide_eq_false (unowned e owns), decide_eq_false (fresh r mem).symm]
    · rfl
  rw [same]
  refine (List.map_congr_left fun e mem => ?_).trans (List.map_id _)
  have here : e.assessmentId = r.id := of_decide_eq_true (List.mem_filter.mp mem).2
  rw [if_neg fun owns => unowned e owns here]
  rfl

/-- What replacing an assessment and its evidence does. -/
structure Replaced (row : ReleaseAssessmentRow) (rows : List ReleaseEvidenceRow)
    (s s' : ReleaseTables Output) : Prop where
  stored : ∃ stored, s'.assessment? row.key = some stored ∧ stored.id = row.id ∧
    stored.data = row.data
  evidence : s'.evidenceOf row.id = rows
  untouched : ∀ key, key ≠ row.key → Untouched key s s'
  constrained : Constrained s'
  runs : s'.platform.runs = s.platform.runs
  commands : s'.platform.sandboxCommands = s.platform.sandboxCommands

lemma Upserted.replaced (upserted : Upserted row s s₁) (constrained : Constrained s)
    (fresh : ∀ other ∈ s.assessments, other.id ≠ row.id)
    (own : ∀ e ∈ rows, e.assessmentId = row.id)
    (distinct : (((s.evidence.filter fun e => !s.belongs row.key e) ++ rows).map
      ReleaseEvidenceRow.id).Nodup)
    (appended : appendReleaseEvents runId events
      { s₁ with evidence := (deleteEvidence row.id s₁).evidence ++ rows } = .ok s') :
    Replaced row rows s s' := by
  obtain ⟨logs, done⟩ : ∃ logs, s' = { s₁ with
      platform := { s₁.platform with logs }
      evidence := (deleteEvidence row.id s₁).evidence ++ rows } := by
    rw [appendReleaseEvents] at appended
    split at appended
    · cases appended
      obtain ⟨logs, e⟩ := appendEvents_eq s₁.platform runId (events.map .ofOther)
      exact ⟨logs, congrArg (fun platform => { s₁ with
        platform, evidence := (deleteEvidence row.id s₁).evidence ++ rows }) e⟩
    · cases appended
  have constrained₁ := upserted.constrained constrained fresh
  have kept := upserted.deleted constrained fresh
  rw [kept] at done
  subst done
  refine ⟨upserted.stored, ?_, ?_, ⟨upserted.keys, constrained₁.ids, distinct, ?_, ?_⟩, ?_, ?_⟩
  · -- the evidence that is left belongs to others
    show List.filter _ (_ ++ rows) = rows
    rw [← kept, List.filter_append, List.filter_eq_self.mpr fun e mem => decide_eq_true (own e mem),
      List.filter_eq_nil_iff.mpr, List.nil_append]
    intro e mem
    exact (by simpa using (List.mem_filter.mp mem).2)
  · intro key ne
    refine (upserted.untouched constrained fresh ne).trans ⟨rfl, fun r there => ?_⟩
    have other : r.id ≠ row.id := by
      rw [upserted.others key ne] at there
      exact fresh r (Table.lookup_mem there)
    show List.filter _ (_ ++ rows) = _
    rw [← kept, List.filter_append, List.filter_eq_nil_iff (l := rows).mpr, List.append_nil]
    · show List.filter _ (List.filter _ s₁.evidence) = _
      rw [List.filter_filter]
      refine List.filter_congr fun e _ => ?_
      by_cases here : e.assessmentId = r.id
      · simp [here, other]
      · simp [here]
    · intro e mem here
      exact other ((of_decide_eq_true here).symm.trans (own e mem))
  · intro e mem
    rcases List.mem_append.mp mem with old | new
    · rw [← kept] at old
      exact constrained₁.owned e (List.mem_filter.mp old).1
    · obtain ⟨stored, there, id, -⟩ := upserted.stored
      exact ⟨stored, Table.lookup_mem there, id.trans (own e new).symm⟩
  · exact constrained₁.commands
  · show s₁.platform.runs = _
    rw [upserted.platform]
  · show s₁.platform.sandboxCommands = _
    rw [upserted.platform]

end Writes

section Persist
variable {generated : Generated} {scope : ReleaseAssessmentScope}

/-- The row that the worker stores an assessment in. -/
def workerRow (generated : Generated) (scope : ReleaseAssessmentScope) (data : AssessmentData) :
    ReleaseAssessmentRow where
  id := generated.assessmentId
  scope
  source := .worker
  data
  createdAt := generated.createdAt

/-- What is generated for an assessment is not in the tables yet, and is generated once. -/
structure FreshFor (generated : Generated) (evidence : List QualityEvidence)
    (s : ReleaseTables Output) : Prop where
  assessment : ∀ other ∈ s.assessments, other.id ≠ generated.assessmentId
  distinct : ((evidence.filter fun item => item.kind = .acceptance).map QualityEvidence.id).Nodup
  stored : ∀ item ∈ evidence, item.kind = .acceptance → ∀ e ∈ s.evidence, e.id ≠ item.id
  checks : ∀ item ∈ evidence, item.kind = .acceptance →
    ∀ check ∈ evidence, check.kind ≠ .acceptance → check.id ≠ item.id

/-- No check is stored as the evidence of an assessment under another key. -/
def ChecksUnshared (key : AssessmentKey) (evidence : List QualityEvidence)
    (s : ReleaseTables Output) : Prop :=
  ∀ item ∈ evidence, item.kind ≠ .acceptance → ∀ e ∈ s.evidence, e.id = item.id → s.belongs key e

variable {evidence : List QualityEvidence}

/-- The identifiers of the evidence stay distinct exactly if the checks are unshared. -/
lemma distinct_iff (constrained : Constrained s) (fresh : FreshFor generated evidence s)
    (checks : ((evidence.filter fun item => item.kind ≠ .acceptance).map QualityEvidence.id).Nodup) :
    (((s.evidence.filter fun e => !s.belongs key e) ++
      evidence.map (evidenceRowOf generated.assessmentId)).map ReleaseEvidenceRow.id).Nodup ↔
      ChecksUnshared key evidence s := by
  have ids : (evidence.map (evidenceRowOf generated.assessmentId)).map ReleaseEvidenceRow.id =
      evidence.map QualityEvidence.id := List.map_map
  rw [List.map_append, ids, List.nodup_append]
  constructor
  · intro distinct item mem check e stored same
    by_contra other
    refine distinct.2.2 e.id ?_ item.id (List.mem_map_of_mem mem) same
    exact List.mem_map_of_mem (List.mem_filter.mpr ⟨stored, by simpa using other⟩)
  · intro unshared
    refine ⟨constrained.evidence.sublist (List.filter_sublist.map _), ?_, ?_⟩
    · refine List.Nodup.map_on ?_ ?_
      · intro item mem item' mem' same
        by_cases check : item.kind = .acceptance
        · by_cases check' : item'.kind = .acceptance
          · exact List.inj_on_of_nodup_map fresh.distinct
              (List.mem_filter.mpr ⟨mem, decide_eq_true check⟩)
              (List.mem_filter.mpr ⟨mem', decide_eq_true check'⟩) same
          · exact absurd same.symm (fresh.checks item mem check item' mem' check')
        · by_cases check' : item'.kind = .acceptance
          · exact absurd same (fresh.checks item' mem' check' item mem check)
          · exact List.inj_on_of_nodup_map checks
              (List.mem_filter.mpr ⟨mem, decide_eq_true check⟩)
              (List.mem_filter.mpr ⟨mem', decide_eq_true check'⟩) same
      · -- a piece of evidence that occurred twice would occur twice among those of its kind
        refine List.nodup_iff_count_le_one.mpr fun item => ?_
        by_cases check : item.kind = .acceptance
        · rw [← List.count_filter (p := fun item => decide (item.kind = .acceptance))
            (decide_eq_true check)]
          exact List.nodup_iff_count_le_one.mp fresh.distinct.of_map item
        · rw [← List.count_filter (p := fun item => decide (item.kind ≠ .acceptance))
            (decide_eq_true check)]
          exact List.nodup_iff_count_le_one.mp checks.of_map item
    · intro id mem id' mem' same
      obtain ⟨e, kept, rfl⟩ := List.mem_map.mp mem
      obtain ⟨item, new, rfl⟩ := List.mem_map.mp mem'
      obtain ⟨stored, other⟩ := List.mem_filter.mp kept
      by_cases check : item.kind = .acceptance
      · exact fresh.stored item new check e stored same
      · rw [unshared item new check e stored same] at other
        cases other

/-- The scenarios and keys pass the checks on the event that reports them as unresolved. -/
def Reportable (criterionKeysByScenario : List (Utf16 × List Utf16)) : Prop :=
  ∀ entry ∈ criterionKeysByScenario,
    1 ≤ Utf16.lengthOf (Utf16.toString entry.1) ∧ Utf16.lengthOf (Utf16.toString entry.1) ≤ 120 ∧
    entry.2.length ≤ 50 ∧ ∀ key ∈ entry.2,
      1 ≤ Utf16.lengthOf (Utf16.toString key) ∧ Utf16.lengthOf (Utf16.toString key) ≤ 200

/-- The events of an assessment. -/
def assessmentEvents (assessmentId : Uuid) (scope : ReleaseAssessmentScope)
    (assessment : Quality.ReleaseAssessment) (unresolvedScenarios : List (Utf16 × List Utf16)) :
    List OtherEvent :=
  .releaseAssessmentStarted assessmentId scope.attempt :: statusEvent assessmentId assessment ::
    unresolvedScenarios.map fun unresolved =>
      .releaseCriterionKeyUnresolved assessmentId (Utf16.toString unresolved.1)
        (unresolved.2.map Utf16.toString)

variable {assessment : Quality.ReleaseAssessment} {unresolved : List (Utf16 × List Utf16)}

lemma acceptsEvents {assessmentId : Uuid} {configured : List (Utf16 × List Utf16)}
    (reportable : Reportable configured) (positive : 1 ≤ scope.attempt)
    (some : ∀ scenario ∈ unresolved, scenario.2 ≠ [] ∧
      ∃ keys, (scenario.1, keys) ∈ configured ∧ scenario.2.Sublist keys) :
    (assessmentEvents assessmentId scope assessment unresolved).all acceptsEvent = true := by
  rw [assessmentEvents, List.all_cons, List.all_cons, Bool.and_eq_true, Bool.and_eq_true]
  refine ⟨decide_eq_true positive, ?_, ?_⟩
  · rw [statusEvent]
    split
    · rfl
    · exact decide_eq_true (Nat.le_max_right _ _)
  · refine List.all_eq_true.mpr fun event mem => ?_
    obtain ⟨scenario, there, rfl⟩ := List.mem_map.mp mem
    obtain ⟨nonempty, keys, entry, part⟩ := some scenario there
    obtain ⟨least, most, few, bounded⟩ := reportable _ entry
    have length : (scenario.2.map Utf16.toString).length ≤ 50 := by
      rw [List.length_map]
      exact le_trans part.length_le few
    have first : 1 ≤ (scenario.2.map Utf16.toString).length := by
      rw [List.length_map]
      exact List.length_pos_iff.mpr nonempty
    have each : (scenario.2.map Utf16.toString).all (fun key =>
        1 ≤ Utf16.lengthOf key && Utf16.lengthOf key ≤ 200) = true := by
      refine List.all_eq_true.mpr fun key mem => ?_
      obtain ⟨key, there, rfl⟩ := List.mem_map.mp mem
      obtain ⟨least, most⟩ := bounded key (part.subset there)
      simp [least, most]
    show (decide _ && decide _ && decide _ && decide _ && _) = true
    rw [decide_eq_true least, decide_eq_true most, decide_eq_true first, decide_eq_true length, each]
    rfl

/-- An assessment that is stored takes the place of the one under its key. -/
lemma persistAssessment_ok (constrained : Constrained s)
    (fresh : ∀ other ∈ s.assessments, other.id ≠ generated.assessmentId)
    (ok : persistAssessment generated scope assessment evidence unresolved s = .ok s') :
    Replaced (workerRow generated scope
      (.of assessment assessment.scope.snapshotSha256 assessment.evaluatedAt))
      (evidence.map (evidenceRowOf generated.assessmentId)) s s' := by
  obtain ⟨s₁, written, rest⟩ := bind_eq_ok ok
  obtain ⟨s₂, created, appended⟩ := bind_eq_ok rest
  have upserted : Upserted (workerRow generated scope
      (.of assessment assessment.scope.snapshotSha256 assessment.evaluatedAt)) s s₁ :=
    upserted_of_ok constrained fresh written
  rw [createEvidence] at created
  split at created
  · rename_i distinct
    cases created
    refine upserted.replaced constrained fresh ?_ ?_ appended
    · intro e mem
      obtain ⟨item, -, rfl⟩ := List.mem_map.mp mem
      rfl
    · have kept := upserted.deleted constrained fresh
      rw [← kept]
      exact distinct
  · cases created

/-- An assessment of a run that exists is stored exactly if its checks are unshared. -/
lemma persistAssessment_ok_iff (constrained : Constrained s)
    (fresh : FreshFor generated evidence s)
    (checks : ((evidence.filter fun item => item.kind ≠ .acceptance).map QualityEvidence.id).Nodup)
    (run : (s.platform.run? scope.runId).isSome = true)
    (accepted : (assessmentEvents generated.assessmentId scope assessment unresolved).all
      acceptsEvent = true) :
    (∃ s', persistAssessment generated scope assessment evidence unresolved s = .ok s') ↔
      ChecksUnshared (scope.key .worker) evidence s := by
  obtain ⟨s₁, written, upserted⟩ : ∃ s₁,
      upsertAssessment (workerRow generated scope
        (.of assessment assessment.scope.snapshotSha256 assessment.evaluatedAt)) s = .ok s₁ ∧
      Upserted (workerRow generated scope
        (.of assessment assessment.scope.snapshotSha256 assessment.evaluatedAt)) s s₁ :=
    upsertAssessment_ok constrained fresh.assessment run
  have start : persistAssessment generated scope assessment evidence unresolved s =
      (createEvidence (evidence.map (evidenceRowOf generated.assessmentId))
        (deleteEvidence generated.assessmentId s₁)) >>=
          appendReleaseEvents scope.runId
            (assessmentEvents generated.assessmentId scope assessment unresolved) := by
    rw [persistAssessment]
    exact congrArg (· >>= _) written
  have kept : (deleteEvidence generated.assessmentId s₁).evidence =
      s.evidence.filter fun e => !s.belongs (scope.key .worker) e :=
    upserted.deleted constrained fresh.assessment
  rw [start, createEvidence, kept, ← distinct_iff constrained fresh checks]
  constructor
  · rintro ⟨s', ok⟩
    obtain ⟨s₂, created, -⟩ := bind_eq_ok ok
    split at created
    · assumption
    · cases created
  · intro distinct
    rw [if_pos distinct]
    exact ⟨_, if_pos accepted⟩

/-- The failure of an evaluation is stored without evidence. -/
lemma persistEvaluatorFailure_ok {now : Date} (constrained : Constrained s)
    (fresh : ∀ other ∈ s.assessments, other.id ≠ generated.assessmentId)
    (ok : persistEvaluatorFailure generated scope now s = .ok s') :
    Replaced (workerRow generated scope (.evaluatorFailure now)) [] s s' := by
  obtain ⟨s₁, written, appended⟩ := bind_eq_ok ok
  have upserted : Upserted (workerRow generated scope (.evaluatorFailure now)) s s₁ :=
    upserted_of_ok constrained fresh written
  have appended' : appendReleaseEvents scope.runId
      [.releaseAssessmentStarted generated.assessmentId scope.attempt,
        .releaseBlocked generated.assessmentId 1]
      { s₁ with evidence := (deleteEvidence generated.assessmentId s₁).evidence ++ [] } = .ok s' := by
    rw [List.append_nil]
    exact appended
  refine upserted.replaced constrained fresh (fun e mem => absurd mem List.not_mem_nil) ?_ appended'
  rw [List.append_nil]
  exact constrained.evidence.sublist (List.filter_sublist.map _)

/-- The row that an assessment on demand is stored in. -/
def manualRow (generated : Generated) (scope : ReleaseAssessmentScope) (data : AssessmentData) :
    ReleaseAssessmentRow :=
  { workerRow generated scope data with source := .manual }

lemma persistManual_ok {data : AssessmentData} (constrained : Constrained s)
    (fresh : ∀ other ∈ s.assessments, other.id ≠ generated.assessmentId)
    (ok : persistManual generated scope data s = .ok (row, s')) :
    Upserted (manualRow generated scope data) s s' := by
  obtain ⟨s₁, written, returned⟩ := bind_eq_ok ok
  cases returned
  exact upserted_of_ok constrained fresh written

end Persist

end AtomsPlatform.Release
