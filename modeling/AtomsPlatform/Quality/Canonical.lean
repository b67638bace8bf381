import AtomsPlatform.Quality.Readiness
import Mathlib.Tactic.Ring

/-!
# Quality: the canonical order of a report

A report does not depend on the order in which the evidence, the criteria and the required checks are
listed. Whatever is listed in a report is sorted by a text, so the texts have to tell apart what they
are sorted for: ids by their digits, issues by their JSON.
-/

namespace AtomsPlatform.Quality

section Texts
variable {a b : Uuid}

/-- Lists that are joined by a separator none of them contains can be told apart. -/
lemma intercalate_inj {α : Type} [DecidableEq α] {x : α} {ls ls' : List (List α)}
    (free : ∀ l ∈ ls, x ∉ l) (free' : ∀ l ∈ ls', x ∉ l) (some : ls ≠ []) (some' : ls' ≠ [])
    (e : [x].intercalate ls = [x].intercalate ls') : ls = ls' := by
  rw [← List.splitOn_intercalate x free some, e, List.splitOn_intercalate x free' some']

/-- The number that a digit stands for. -/
def hexValue (c : Char) : Nat :=
  "0123456789abcdef".toList.idxOf c

lemma hexValue_hexDigit (n : Nat) : hexValue (Sha256.hexDigit n) = n % 16 := by
  have digits : ∀ m < 16, hexValue ("0123456789abcdef".toList.getD m '0') = m := by decide
  exact digits (n % 16) (Nat.mod_lt n (by decide))

/-- The digits of an id from a position down to another. -/
def hexDigits (id : Uuid) (first last : Nat) : List Char :=
  (List.range' last (first - last)).reverse.map fun i => Sha256.hexDigit (id / 16 ^ i)

/-- How many digits of an id are written. -/
def digitCount (id : Uuid) : Nat :=
  max 32 (Nat.log 16 id + 1)

/-- The groups of the text of an id. -/
def uuidGroups (id : Uuid) : List (List Char) :=
  [hexDigits id (digitCount id) 24, hexDigits id 24 20, hexDigits id 20 16, hexDigits id 16 12,
    hexDigits id 12 0]

lemma uuidText_toList (id : Uuid) : (uuidText id).toList = ['-'].intercalate (uuidGroups id) :=
  String.toList_ofList

lemma hexDigits_append {id : Uuid} {first middle last : Nat} (le : last ≤ middle)
    (le' : middle ≤ first) :
    hexDigits id first middle ++ hexDigits id middle last = hexDigits id first last := by
  rw [hexDigits, hexDigits, hexDigits, ← List.map_append, ← List.reverse_append]
  have whole : List.range' last (middle - last) ++ List.range' middle (first - middle) =
      List.range' last (first - last) := by
    have parts := @List.range'_append_1 last (middle - last) (first - middle)
    rwa [show last + (middle - last) = middle by omega,
      show middle - last + (first - middle) = first - last by omega] at parts
  rw [whole]

/-- The groups together are all the digits. -/
lemma flatten_uuidGroups (id : Uuid) : (uuidGroups id).flatten = hexDigits id (digitCount id) 0 := by
  have many : 24 ≤ digitCount id := Nat.le_trans (by decide) (Nat.le_max_left 32 _)
  simp only [uuidGroups, List.flatten_cons, List.flatten_nil, List.append_nil]
  rw [hexDigits_append (by decide) (by decide), hexDigits_append (by decide) (by decide),
    hexDigits_append (by decide) (by decide), hexDigits_append (by decide) many]

/-- Reading digits. -/
lemma read_hexDigits (id count start : Nat) :
    (hexDigits id count 0).foldl (fun n c => 16 * n + hexValue c) start =
      start * 16 ^ count + id % 16 ^ count := by
  induction count generalizing start with
  | zero => simp [hexDigits, Nat.mod_one]
  | succ count ih =>
    have first : hexDigits id (count + 1) 0 =
        Sha256.hexDigit (id / 16 ^ count) :: hexDigits id count 0 := by
      simp [hexDigits, List.range'_1_concat]
    rw [first, List.foldl_cons, ih, hexValue_hexDigit, Nat.mod_pow_succ, Nat.pow_succ]
    ring

/-- Different ids have different texts. -/
lemma uuidText_injective (e : uuidText a = uuidText b) : a = b := by
  have free (id : Uuid) : ∀ group ∈ uuidGroups id, '-' ∉ group := by
    have digit : ∀ n, Sha256.hexDigit n ≠ '-' := by
      intro n same
      have value := hexValue_hexDigit n
      rw [same] at value
      have bound : n % 16 < 16 := Nat.mod_lt n (by decide)
      rw [← value] at bound
      exact absurd bound (by decide)
    have none (first last : Nat) : '-' ∉ hexDigits id first last := by
      intro mem
      obtain ⟨i, -, same⟩ := List.mem_map.mp mem
      exact digit _ same
    intro group mem
    simp only [uuidGroups, List.mem_cons, List.not_mem_nil, or_false] at mem
    rcases mem with rfl | rfl | rfl | rfl | rfl <;> exact none _ _
  have texts := congrArg String.toList e
  rw [uuidText_toList, uuidText_toList] at texts
  have groups := intercalate_inj (free a) (free b) (List.cons_ne_nil _ _) (List.cons_ne_nil _ _) texts
  have digits := congrArg List.flatten groups
  rw [flatten_uuidGroups, flatten_uuidGroups] at digits
  have read (id : Uuid) : (hexDigits id (digitCount id) 0).foldl (fun n c => 16 * n + hexValue c) 0 =
      id := by
    have bound : id < 16 ^ digitCount id :=
      Nat.lt_of_lt_of_le (Nat.lt_pow_succ_log_self (by decide) id)
        (Nat.pow_le_pow_right (by decide) (Nat.le_max_right 32 _))
    rw [read_hexDigits, Nat.zero_mul, Nat.zero_add, Nat.mod_eq_of_lt bound]
  rw [← read a, digits, read b]

/-- Whether a character stands for itself in JSON. -/
def isPlain (c : Char) : Bool :=
  32 ≤ c.toNat && c != '"' && c != '\\'

lemma jsonCharacter_plain {c : Char} (plain : isPlain c = true) : jsonCharacter c = [c] := by
  simp only [isPlain, Bool.and_eq_true, decide_eq_true_eq, bne_iff_ne] at plain
  obtain ⟨⟨printable, quote⟩, backslash⟩ := plain
  have ne {d : Char} (control : d.toNat < 32) : c ≠ d := by
    rintro rfl
    omega
  rw [jsonCharacter, if_neg (not_or.mpr ⟨quote, backslash⟩), if_neg (ne (by decide)),
    if_neg (ne (by decide)), if_neg (ne (by decide)), if_neg (by omega), if_neg (by omega),
    if_neg (by omega)]

/-- A text of plain characters is itself in JSON, between quotation marks. -/
lemma jsonString_plain {text : String} (plain : text.toList.all isPlain = true) :
    jsonString text = '"' :: text.toList ++ ['"'] := by
  have same : ∀ l : List Char, l.all isPlain = true → l.flatMap jsonCharacter = l := by
    intro l plain
    induction l with
    | nil => rfl
    | cons c l ih =>
      rw [List.all_cons, Bool.and_eq_true] at plain
      rw [List.flatMap_cons, jsonCharacter_plain plain.1, ih plain.2]
      rfl
  rw [jsonString, same _ plain]

lemma quote_not_mem {text : String} (plain : text.toList.all isPlain = true) : '"' ∉ text.toList := by
  intro mem
  have quote := List.all_eq_true.mp plain '"' mem
  cases quote

lemma uuidText_plain (id : Uuid) : (uuidText id).toList.all isPlain = true := by
  have digit : ∀ n, isPlain (Sha256.hexDigit n) = true := by
    intro n
    have digits : ∀ m < 16, isPlain ("0123456789abcdef".toList.getD m '0') = true := by decide
    exact digits (n % 16) (Nat.mod_lt n (by decide))
  have group (first last : Nat) : (hexDigits id first last).all isPlain = true := by
    rw [List.all_eq_true]
    intro c mem
    obtain ⟨i, -, rfl⟩ := List.mem_map.mp mem
    exact digit _
  have dash : isPlain '-' = true := rfl
  rw [uuidText_toList]
  simp [uuidGroups, List.intercalate, group, dash]

lemma checkName_plain (kind : CheckKind) : kind.name.toList.all isPlain = true := by
  cases kind <;> rfl

lemma codeName_plain (code : QualityIssueCode) : code.name.toList.all isPlain = true := by
  cases code <;> rfl

lemma isDigit_plain {c : Char} (digit : c.isDigit = true) : isPlain c = true := by
  have range : 48 ≤ c.toNat ∧ c.toNat ≤ 57 := by
    simp only [Char.isDigit, Bool.and_eq_true, decide_eq_true_eq] at digit
    exact digit
  have ne {d : Char} (other : d.toNat < 48 ∨ 57 < d.toNat) : c ≠ d := by
    rintro rfl
    omega
  simp only [isPlain, Bool.and_eq_true, decide_eq_true_eq, bne_iff_ne]
  exact ⟨⟨by omega, ne (by decide)⟩, ne (by decide)⟩

lemma criterionId_plain {id : String} (valid : isCriterionId id = true) :
    id.toList.all isPlain = true := by
  simp only [isCriterionId] at valid
  have fixed : isPlain 'U' = true ∧ isPlain 'S' = true ∧ isPlain '-' = true ∧ isPlain ':' = true :=
    ⟨rfl, rfl, rfl, rfl⟩
  obtain ⟨u, s, dash, colon⟩ := fixed
  split at valid
  · rename_i chars
    simp only [Bool.and_eq_true] at valid
    obtain ⟨⟨⟨⟨a, b⟩, c⟩, d⟩, -⟩ := valid
    simp [chars, u, s, dash, colon, isDigit_plain a, isDigit_plain b, isDigit_plain c,
      isDigit_plain d]
  · rename_i chars
    simp only [Bool.and_eq_true] at valid
    obtain ⟨⟨⟨⟨⟨a, b⟩, c⟩, d⟩, -⟩, e⟩ := valid
    simp [chars, u, s, dash, colon, isDigit_plain a, isDigit_plain b, isDigit_plain c,
      isDigit_plain d, isDigit_plain e]
  · cases valid

end Texts

section Issues
variable {issue issue' : QualityIssue}

/-- A member of the JSON of an issue, as far as it is there. -/
def memberParts (name : String) (value : Option String) : List (List Char) :=
  match value with
  | none => []
  | some value => [[','], name.toList, [':'], value.toList]

/-- What stands between the quotation marks of the JSON of an issue. -/
def QualityIssue.parts (issue : QualityIssue) : List (List Char) :=
  [['\x7b'], "code".toList, [':'], issue.code.name.toList] ++
    memberParts "evidenceId" (issue.evidenceId.map uuidText) ++
    memberParts "check" (issue.check.map CheckKind.name) ++
    memberParts "criterionId" issue.criterionId ++ [['\x7d']]

/-- The JSON of an issue, from what stands between its quotation marks. -/
lemma json_toList (valid : issue.criterionId.all isCriterionId = true) :
    issue.json.toList = ['"'].intercalate issue.parts := by
  obtain ⟨code, evidenceId, check, criterionId⟩ := issue
  have names : jsonString "code" = '"' :: "code".toList ++ ['"'] ∧
      jsonString "evidenceId" = '"' :: "evidenceId".toList ++ ['"'] ∧
      jsonString "check" = '"' :: "check".toList ++ ['"'] ∧
      jsonString "criterionId" = '"' :: "criterionId".toList ++ ['"'] :=
    ⟨jsonString_plain rfl, jsonString_plain rfl, jsonString_plain rfl, jsonString_plain rfl⟩
  have codeText := jsonString_plain (codeName_plain code)
  have idText (id : Uuid) := jsonString_plain (uuidText_plain id)
  have checkText (kind : CheckKind) := jsonString_plain (checkName_plain kind)
  cases criterionId with
  | none =>
    cases evidenceId <;> cases check <;>
      simp [QualityIssue.json, QualityIssue.parts, memberParts, names, codeText, idText, checkText,
        List.intercalate]
  | some criterionId =>
    have criterionText := jsonString_plain (criterionId_plain valid)
    cases evidenceId <;> cases check <;>
      simp [QualityIssue.json, QualityIssue.parts, memberParts, names, codeText, idText, checkText,
        criterionText, List.intercalate]

lemma quote_free_parts (valid : issue.criterionId.all isCriterionId = true) :
    ∀ part ∈ issue.parts, '"' ∉ part := by
  have member {name : String} {value : Option String} (plainName : name.toList.all isPlain = true)
      (plain : ∀ text, value = some text → text.toList.all isPlain = true) :
      ∀ part ∈ memberParts name value, '"' ∉ part := by
    intro part mem
    cases value with
    | none => cases mem
    | some text =>
      simp only [memberParts, List.mem_cons, List.not_mem_nil, or_false] at mem
      rcases mem with rfl | rfl | rfl | rfl
      · decide
      · exact quote_not_mem plainName
      · decide
      · exact quote_not_mem (plain text rfl)
  intro part mem
  simp only [QualityIssue.parts, List.mem_append, List.mem_cons, List.not_mem_nil, or_false] at mem
  rcases mem with (((fixed | mem) | mem) | mem) | rfl
  · rcases fixed with rfl | rfl | rfl | rfl
    · decide
    · exact quote_not_mem rfl
    · decide
    · exact quote_not_mem (codeName_plain issue.code)
  · refine member rfl ?_ part mem
    intro text e
    obtain ⟨id, -, rfl⟩ := Option.map_eq_some_iff.mp e
    exact uuidText_plain id
  · refine member rfl ?_ part mem
    intro text e
    obtain ⟨kind, -, rfl⟩ := Option.map_eq_some_iff.mp e
    exact checkName_plain kind
  · refine member rfl ?_ part mem
    intro text e
    rw [e] at valid
    exact criterionId_plain valid
  · decide

lemma codeName_injective {code code' : QualityIssueCode} (e : code.name.toList = code'.name.toList) :
    code = code' := by
  cases code <;> cases code' <;> first | rfl | exact absurd e (by decide)

lemma checkName_injective {kind kind' : CheckKind} (e : kind.name = kind'.name) : kind = kind' := by
  cases kind <;> cases kind' <;> first | rfl | exact absurd e (by decide)

/-- A member is told apart from what comes after it by its name. -/
lemma memberParts_inj {name : String} {value value' : Option String} {rest rest' : List (List Char)}
    (other : rest.tail.head? ≠ some name.toList) (other' : rest'.tail.head? ≠ some name.toList)
    (e : memberParts name value ++ rest = memberParts name value' ++ rest') :
    value = value' ∧ rest = rest' := by
  cases value with
  | none =>
    cases value' with
    | none => exact ⟨rfl, e⟩
    | some text =>
      apply absurd _ other
      rw [show rest = memberParts name (some text) ++ rest' from e]
      rfl
  | some text =>
    cases value' with
    | none =>
      apply absurd _ other'
      rw [show rest' = memberParts name (some text) ++ rest from e.symm]
      rfl
    | some text' =>
      simp only [memberParts, List.cons_append, List.nil_append, List.cons.injEq, true_and] at e
      exact ⟨congrArg some (String.toList_injective e.1), e.2⟩

/-- Different issues have different JSON. -/
lemma json_injective (valid : issue.criterionId.all isCriterionId = true)
    (valid' : issue'.criterionId.all isCriterionId = true) (e : issue.json = issue'.json) :
    issue = issue' := by
  have texts := congrArg String.toList e
  rw [json_toList valid, json_toList valid'] at texts
  have parts := intercalate_inj (quote_free_parts valid) (quote_free_parts valid')
    (List.cons_ne_nil _ _) (List.cons_ne_nil _ _) texts
  obtain ⟨code, evidenceId, check, criterionId⟩ := issue
  obtain ⟨code', evidenceId', check', criterionId'⟩ := issue'
  simp only [QualityIssue.parts, List.append_assoc, List.cons_append, List.nil_append,
    List.cons.injEq, true_and] at parts
  obtain ⟨codes, parts⟩ := parts
  have last (value : Option String) : (memberParts "criterionId" value ++ [['\x7d']]).tail.head? ≠
      some "check".toList := by
    cases value <;> exact fun same => absurd same (by simp [memberParts])
  have middle (value value' : Option String) : (memberParts "check" value ++
      (memberParts "criterionId" value' ++ [['\x7d']])).tail.head? ≠ some "evidenceId".toList := by
    cases value <;> cases value' <;> exact fun same => absurd same (by simp [memberParts])
  obtain ⟨ids, parts⟩ := memberParts_inj (middle _ _) (middle _ _) parts
  obtain ⟨checks, parts⟩ := memberParts_inj (last _) (last _) parts
  have end_ : ([['\x7d']] : List (List Char)).tail.head? ≠ some "criterionId".toList := by simp
  obtain ⟨criteria, -⟩ := memberParts_inj end_ end_ parts
  have sameIds := Option.map_injective (fun _ _ => uuidText_injective) ids
  have sameChecks := Option.map_injective (fun _ _ => checkName_injective) checks
  rw [codeName_injective codes, sameIds, sameChecks, criteria]

end Issues

section Reordering
variable {input input' : QualityEvaluationInput}

/-- The same snapshot, with its criteria in any order. -/
structure SameSnapshot (snapshot snapshot' : AcceptanceSnapshot) : Prop where
  taskId : snapshot'.taskId = snapshot.taskId
  taskAttempt : snapshot'.taskAttempt = snapshot.taskAttempt
  scope : snapshot'.scope = snapshot.scope
  criteria : snapshot'.criteria.Perm snapshot.criteria

/-- The same input, with the evidence, the criteria and the required checks in any order. -/
structure Reordered (input input' : QualityEvaluationInput) : Prop where
  scope : input'.scope = input.scope
  evaluatedAt : input'.evaluatedAt = input.evaluatedAt
  requiredChecks : input'.policy.requiredChecks.Perm input.policy.requiredChecks
  maxEvidenceAgeSeconds :
    input'.policy.maxEvidenceAgeSeconds = input.policy.maxEvidenceAgeSeconds
  acceptance : Option.Rel SameSnapshot input.acceptance input'.acceptance
  evidence : input'.evidence.Perm input.evidence

namespace Reordered

/-- What the snapshots have in common. -/
lemma snapshots (same : Reordered input input') :
    (criteriaOf input').Perm (criteriaOf input) ∧
      acceptanceMatches input' = acceptanceMatches input ∧
      input'.acceptance.isNone = input.acceptance.isNone ∧
      input'.acceptance.map AcceptanceSnapshot.taskId =
        input.acceptance.map AcceptanceSnapshot.taskId ∧
      input'.acceptance.map AcceptanceSnapshot.taskAttempt =
        input.acceptance.map AcceptanceSnapshot.taskAttempt := by
  have related := same.acceptance
  rw [criteriaOf, criteriaOf, acceptanceMatches, acceptanceMatches, same.scope]
  generalize input.acceptance = acceptance, input'.acceptance = acceptance' at related ⊢
  cases related with
  | none => exact ⟨.refl _, rfl, rfl, rfl, rfl⟩
  | some alike =>
    simp only [Option.map_some, Option.getD_some, Option.any_some, Option.isNone_some, alike.scope,
      alike.taskId, alike.taskAttempt, and_true]
    exact alike.criteria

lemma criteria (same : Reordered input input') : (criteriaOf input').Perm (criteriaOf input) :=
  same.snapshots.1

/-- Each piece of evidence has the same issues. -/
lemma evidenceIssues (same : Reordered input input') (evidence : QualityEvidence) :
    Quality.evidenceIssues input' evidence = Quality.evidenceIssues input evidence ∧
      usable input' evidence = usable input evidence := by
  obtain ⟨criteria, agree, -, taskIds, attempts⟩ := same.snapshots
  have counted := (same.evidence.map QualityEvidence.id).count_eq evidence.id
  have rejected : rejections input' evidence = rejections input evidence := by
    simp only [rejections, counted, same.scope, same.evaluatedAt, same.maxEvidenceAgeSeconds, agree,
      taskIds, attempts]
  have unknown : unknownCriteria input' evidence = unknownCriteria input evidence := by
    simp only [unknownCriteria, criteria.any_eq]
  exact ⟨by simp only [Quality.evidenceIssues, rejected, unknown],
    by simp only [usable, rejected, unknown]⟩

lemma accepted (same : Reordered input input') :
    (Quality.accepted input').Perm (Quality.accepted input) := by
  have usables : usable input' = usable input := funext fun e => (same.evidenceIssues e).2
  rw [Quality.accepted, Quality.accepted, usables]
  exact same.evidence.filter _

lemma evidenceForCheck (same : Reordered input input') (kind : CheckKind) :
    (Quality.evidenceForCheck input' kind).Perm (Quality.evidenceForCheck input kind) :=
  same.accepted.filter _

lemma evidenceForCriterion (same : Reordered input input') (criterion : AcceptanceCriterion) :
    (Quality.evidenceForCriterion input' criterion).Perm
      (Quality.evidenceForCriterion input criterion) := by
  rw [Quality.evidenceForCriterion, Quality.evidenceForCriterion, same.snapshots.2.1]
  split
  · exact same.accepted.filter _
  · exact .refl _

lemma sortedChecks (same : Reordered input input') :
    Quality.sortedChecks input' = Quality.sortedChecks input :=
  Utf16.insertionSort_perm CheckKind.name same.requiredChecks fun _ _ _ _ => checkName_injective

/-- What evidence amounts to does not depend on its order. -/
lemma coverage_perm {Subject : Type} {subject : Subject} {evidence evidence' : List QualityEvidence}
    (perm : evidence'.Perm evidence) : coverage subject evidence' = coverage subject evidence := by
  have ids := Utf16.insertionSort_perm uuidText (perm.map QualityEvidence.id)
    fun _ _ _ _ => uuidText_injective
  rw [coverage, coverage, ids, perm.all_eq, perm.isEmpty_eq]

/-- The issues are the same, in some order. -/
lemma allIssues (same : Reordered input input') :
    (Quality.allIssues input').Perm (Quality.allIssues input) := by
  obtain ⟨criteria, agree, absent, -, -⟩ := same.snapshots
  have snapshot : acceptanceIssues input' = acceptanceIssues input := by
    rw [acceptanceIssues, acceptanceIssues, absent, agree]
  have each : Quality.evidenceIssues input' = Quality.evidenceIssues input :=
    funext fun e => (same.evidenceIssues e).1
  have checks : (fun kind => (Quality.evidenceForCheck input' kind).isEmpty) =
      fun kind => (Quality.evidenceForCheck input kind).isEmpty :=
    funext fun kind => (same.evidenceForCheck kind).isEmpty_eq
  have traces : (fun criterion => (Quality.evidenceForCriterion input' criterion).isEmpty) =
      fun criterion => (Quality.evidenceForCriterion input criterion).isEmpty :=
    funext fun criterion => (same.evidenceForCriterion criterion).isEmpty_eq
  rw [Quality.allIssues, Quality.allIssues, snapshot, each, checks, traces, same.sortedChecks]
  refine .append (.append (.append (.refl _) ?_) (.refl _)) ?_
  · exact same.evidence.flatMap_right _
  · exact (criteria.filter _).map _

lemma uniqueIssues (same : Reordered input input') (valid : input'.valid = true) :
    Quality.uniqueIssues input' = Quality.uniqueIssues input := by
  refine Utf16.insertionSort_perm QualityIssue.json same.allIssues.dedup ?_
  intro issue inside issue' inside' e
  have known {issue : QualityIssue} (mem : issue ∈ (Quality.allIssues input').dedup) :=
    issues_valid valid (List.mem_dedup.mp mem)
  exact json_injective (known inside) (known inside') e

/-- The criteria are traced in the same order. -/
lemma traceToAcceptance (same : Reordered input input') :
    (Quality.report input').traceToAcceptance = (Quality.report input).traceToAcceptance := by
  have each : (fun criterion : AcceptanceCriterion =>
        coverage criterion.id (Quality.evidenceForCriterion input' criterion)) =
      fun criterion => coverage criterion.id (Quality.evidenceForCriterion input criterion) :=
    funext fun criterion => coverage_perm (same.evidenceForCriterion criterion)
  have perm := same.criteria.map fun criterion : AcceptanceCriterion =>
    coverage criterion.id (Quality.evidenceForCriterion input criterion)
  rw [report, report]
  dsimp only
  rw [each]
  refine Utf16.insertionSort_perm Coverage.subject perm ?_
  -- what a criterion's evidence is depends on its id only
  intro trace inside trace' inside' e
  obtain ⟨criterion, -, rfl⟩ := List.mem_map.mp inside
  obtain ⟨criterion', -, rfl⟩ := List.mem_map.mp inside'
  have ids : criterion.id = criterion'.id := e
  simp only [Quality.evidenceForCriterion, ids]

/-- The reports are the same. -/
lemma report (same : Reordered input input') (valid : input'.valid = true) :
    Quality.report input' = Quality.report input := by
  have traces := same.traceToAcceptance
  have checks : (Quality.report input').checks = (Quality.report input).checks := by
    simp only [Quality.report, same.sortedChecks]
    apply List.map_congr_left
    intro kind _
    exact coverage_perm (same.evidenceForCheck kind)
  simp only [Quality.report, ReleaseAssessment.mk.injEq] at traces checks ⊢
  refine ⟨same.scope, same.evaluatedAt, ?_, ?_, same.snapshots.2.2.2.1, checks, traces,
    same.uniqueIssues valid⟩
  · rw [QualityPolicy.mk.injEq]
    exact ⟨same.sortedChecks, same.maxEvidenceAgeSeconds⟩
  · rw [same.uniqueIssues valid]

/-- What is accepted in one order is accepted in every order. -/
lemma valid (same : Reordered input input') (accepts : input.valid = true) :
    input'.valid = true := by
  have policy : input'.policy.valid = input.policy.valid := by
    have perm := same.requiredChecks
    simp only [QualityPolicy.valid, same.maxEvidenceAgeSeconds, perm.length_eq, perm.nodup_iff,
      perm.mem_iff]
  have acceptance : input'.acceptance.all AcceptanceSnapshot.valid =
      input.acceptance.all AcceptanceSnapshot.valid := by
    have related := same.acceptance
    generalize input.acceptance = acceptance, input'.acceptance = acceptance' at related ⊢
    cases related with
    | none => rfl
    | some alike =>
      have perm := alike.criteria
      simp only [Option.all_some, AcceptanceSnapshot.valid, alike.scope, alike.taskAttempt,
        perm.length_eq, perm.all_eq, (perm.map AcceptanceCriterion.id).nodup_iff]
  have evidence := same.evidence
  rw [QualityEvaluationInput.valid] at accepts ⊢
  rwa [same.scope, policy, acceptance, evidence.length_eq, evidence.all_eq]

end Reordered

/-- The order in which the evidence, the criteria and the required checks are listed has no influence
    on the result of an evaluation. -/
theorem evaluateRelease_reordered (accepts : input.valid = true) (same : Reordered input input') :
    evaluateRelease input' = evaluateRelease input := by
  have accepts' := same.valid accepts
  rw [evaluateRelease_eq accepts, evaluateRelease_eq accepts', same.report accepts']

/-- The example, with the evidence and the checks the other way round. -/
theorem evaluateRelease_reordered_example :
    evaluateRelease { exampleInput with
      evidence := exampleInput.evidence.reverse
      policy := { exampleInput.policy with requiredChecks := baselineChecks.reverse } } =
    evaluateRelease exampleInput :=
  evaluateRelease_reordered (by decide)
    ⟨rfl, rfl, List.reverse_perm _, rfl, .some ⟨rfl, rfl, rfl, .refl _⟩, List.reverse_perm _⟩

end Reordering

end AtomsPlatform.Quality
