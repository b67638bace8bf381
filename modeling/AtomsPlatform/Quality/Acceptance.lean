import AtomsPlatform.Quality.Adapters

/-!
# Quality: from Emma's output to an acceptance snapshot

What `EmmaOutputSchema` of `@atoms/agents` makes of an output, and that `createAcceptanceSnapshot`
accepts all of it but for one thing: the schema lets two user stories have the same id, and the
snapshot does not (`acceptance_snapshot_of_output`).
-/

namespace AtomsPlatform.Quality

section Schemas

/-- `z.string().trim().min(1).max(max)` -/
def trimmedText (max : Nat) (raw : String) : Option String :=
  let text := Utf16.trimString raw
  if 1 ≤ Utf16.lengthOf text ∧ Utf16.lengthOf text ≤ max then some text else none

/-- Source `BoundedTextSchema`. -/
def boundedTextSchema : String → Option String :=
  trimmedText 20000

/-- Source `ShortTextSchema`. -/
def shortTextSchema : String → Option String :=
  trimmedText 2000

/-- Source `CriterionKeySchema` of `@atoms/agents`, which trims. -/
def criterionKeySchema (raw : String) : Option String :=
  let key := Utf16.trimString raw
  if isCriterionKey key then some key else none

/-- `z.string().regex(/^US-[0-9]{3}$/)` -/
def storyIdSchema (id : String) : Option String :=
  if isStoryId id then some id else none

/-- The elements of an array, if a schema accepts all of them. -/
def arrayOf {α β : Type} (element : α → Option β) : List α → Option (List β)
  | [] => some []
  | raw :: rest => do
    let first ← element raw
    let others ← arrayOf element rest
    pure (first :: others)

/-- `z.array(element).min(low).max(high)` -/
def boundedArray {α β : Type} (low high : Nat) (element : α → Option β) (raw : List α) :
    Option (List β) :=
  if low ≤ raw.length ∧ raw.length ≤ high then arrayOf element raw else none

end Schemas

section Output

/-- An acceptance criterion of a user story. -/
structure EmmaCriterion where
  key : String
  text : String
deriving DecidableEq, Repr

/-- A user story of Emma's output. -/
structure EmmaStory where
  id : String
  role : String
  goal : String
  benefit : String
  acceptanceCriteria : List EmmaCriterion
deriving DecidableEq, Repr

/-- Source `EmmaOutput`. -/
structure EmmaOutput where
  productName : String
  problemStatement : String
  targetUsers : List String
  userStories : List EmmaStory
  nonGoals : List String
  assumptions : List String
deriving DecidableEq, Repr

/-- What `EmmaOutputSchema` makes of a criterion. -/
def EmmaCriterion.parse (raw : EmmaCriterion) : Option EmmaCriterion := do
  let key ← criterionKeySchema raw.key
  let text ← shortTextSchema raw.text
  pure { key, text }

/-- What `EmmaOutputSchema` makes of a user story. -/
def EmmaStory.parse (raw : EmmaStory) : Option EmmaStory := do
  let id ← storyIdSchema raw.id
  let role ← shortTextSchema raw.role
  let goal ← shortTextSchema raw.goal
  let benefit ← shortTextSchema raw.benefit
  let acceptanceCriteria ← boundedArray 1 20 EmmaCriterion.parse raw.acceptanceCriteria
  pure { id, role, goal, benefit, acceptanceCriteria }

/-- Source `EmmaOutputSchema`, on a value with the fields of an output: the output with its texts
    trimmed, which is what the agent runtime hands on. -/
def emmaOutputSchema (raw : EmmaOutput) : Option EmmaOutput := do
  let productName ← trimmedText 160 raw.productName
  let problemStatement ← boundedTextSchema raw.problemStatement
  let targetUsers ← boundedArray 1 20 shortTextSchema raw.targetUsers
  let userStories ← boundedArray 1 50 EmmaStory.parse raw.userStories
  let nonGoals ← boundedArray 0 30 shortTextSchema raw.nonGoals
  let assumptions ← boundedArray 0 30 shortTextSchema raw.assumptions
  pure { productName, problemStatement, targetUsers, userStories, nonGoals, assumptions }

/-- The key and the text of a criterion. -/
def EmmaCriterion.pair (criterion : EmmaCriterion) : String × String :=
  (criterion.key, criterion.text)

/-- What `EmmaCriteriaSchema` projects a user story to. -/
def EmmaStory.projected (story : EmmaStory) : UserStory where
  id := story.id
  acceptanceCriteria := story.acceptanceCriteria.map EmmaCriterion.pair

/-- What `EmmaCriteriaSchema` projects an output to. -/
def EmmaOutput.projected (output : EmmaOutput) : List UserStory :=
  output.userStories.map EmmaStory.projected

end Output

section Accepted

variable {α β : Type} {element : α → Option β}

lemma length_arrayOf : ∀ {raw : List α} {parsed : List β}, arrayOf element raw = some parsed →
    parsed.length = raw.length
  | [], _, e => by cases e; rfl
  | raw :: rest, parsed, e => by
    obtain ⟨first, -, e⟩ := Option.bind_eq_some_iff.mp e
    obtain ⟨others, rest_eq, e⟩ := Option.bind_eq_some_iff.mp e
    cases e
    rw [List.length_cons, List.length_cons, length_arrayOf rest_eq]

/-- What an array is parsed to consists of what its elements are parsed to. -/
lemma mem_arrayOf : ∀ {raw : List α} {parsed : List β}, arrayOf element raw = some parsed →
    ∀ b ∈ parsed, ∃ a ∈ raw, element a = some b
  | [], _, e, b, mem => by cases e; cases mem
  | raw :: rest, parsed, e, b, mem => by
    obtain ⟨first, first_eq, e⟩ := Option.bind_eq_some_iff.mp e
    obtain ⟨others, rest_eq, e⟩ := Option.bind_eq_some_iff.mp e
    cases e
    rcases List.mem_cons.mp mem with rfl | mem
    · exact ⟨raw, List.mem_cons_self, first_eq⟩
    · obtain ⟨a, mem, eq⟩ := mem_arrayOf rest_eq b mem
      exact ⟨a, List.mem_cons_of_mem raw mem, eq⟩

lemma boundedArray_eq_some {low high : Nat} {raw : List α} {parsed : List β}
    (accepted : boundedArray low high element raw = some parsed) :
    (low ≤ parsed.length ∧ parsed.length ≤ high) ∧ ∀ b ∈ parsed, ∃ a ∈ raw, element a = some b := by
  unfold boundedArray at accepted
  split at accepted
  · rename_i bounds
    rw [length_arrayOf accepted]
    exact ⟨bounds, mem_arrayOf accepted⟩
  · cases accepted

lemma trimmedText_eq_some {max : Nat} {raw text : String} (accepted : trimmedText max raw = some text) :
    Utf16.trimString text = text ∧ 1 ≤ Utf16.lengthOf text ∧ Utf16.lengthOf text ≤ max := by
  unfold trimmedText at accepted
  dsimp only at accepted
  split at accepted
  · rename_i bounds
    cases accepted
    exact ⟨Utf16.trimString_trimString raw, bounds⟩
  · cases accepted

lemma criterionKeySchema_eq_some {raw key : String} (accepted : criterionKeySchema raw = some key) :
    isCriterionKey key = true := by
  unfold criterionKeySchema at accepted
  dsimp only at accepted
  split at accepted
  · cases accepted
    assumption
  · cases accepted

lemma storyIdSchema_eq_some {raw id : String} (accepted : storyIdSchema raw = some id) :
    isStoryId id = true := by
  unfold storyIdSchema at accepted
  split at accepted
  · cases accepted
    assumption
  · cases accepted

/-- A criterion of an output is one for the snapshot too. -/
lemma EmmaCriterion.parse_eq_some {raw criterion : EmmaCriterion}
    (accepted : raw.parse = some criterion) :
    isCriterionKey criterion.key = true ∧ Utf16.trimString criterion.text = criterion.text ∧
      isCriterionText criterion.text = true := by
  simp only [EmmaCriterion.parse, Option.bind_eq_bind, Option.bind_eq_some_iff] at accepted
  obtain ⟨key, key_eq, text, text_eq, e⟩ := accepted
  cases e
  obtain ⟨trimmed, low, high⟩ := trimmedText_eq_some text_eq
  have short : Utf16.lengthOf text ≤ 4000 := by omega
  refine ⟨criterionKeySchema_eq_some key_eq, trimmed, ?_⟩
  simp [isCriterionText, low, short]

/-- What the schema asks of a user story, as the snapshot reads it. -/
structure EmmaStory.Accepted (story : EmmaStory) : Prop where
  id : isStoryId story.id = true
  bounds : 1 ≤ story.acceptanceCriteria.length ∧ story.acceptanceCriteria.length ≤ 20
  keys : ∀ criterion ∈ story.acceptanceCriteria, isCriterionKey criterion.key = true
  trimmed : ∀ criterion ∈ story.acceptanceCriteria,
    Utf16.trimString criterion.text = criterion.text
  texts : ∀ criterion ∈ story.acceptanceCriteria, isCriterionText criterion.text = true

lemma EmmaStory.parse_eq_some {raw story : EmmaStory} (accepted : raw.parse = some story) :
    story.Accepted := by
  simp only [EmmaStory.parse, Option.bind_eq_bind, Option.bind_eq_some_iff] at accepted
  obtain ⟨id, id_eq, _, -, _, -, _, -, criteria, criteria_eq, e⟩ := accepted
  cases e
  obtain ⟨bounds, elements⟩ := boundedArray_eq_some criteria_eq
  have parsed : ∀ criterion : EmmaCriterion, criterion ∈ criteria →
      isCriterionKey criterion.key = true ∧ Utf16.trimString criterion.text = criterion.text ∧
        isCriterionText criterion.text = true := by
    intro criterion mem
    obtain ⟨raw, -, eq⟩ := elements criterion mem
    exact EmmaCriterion.parse_eq_some eq
  exact
    { id := storyIdSchema_eq_some id_eq
      bounds
      keys := fun criterion mem => (parsed criterion mem).1
      trimmed := fun criterion mem => (parsed criterion mem).2.1
      texts := fun criterion mem => (parsed criterion mem).2.2 }

/-- An accepted output has between one and fifty accepted stories. -/
lemma emmaOutputSchema_eq_some {raw output : EmmaOutput}
    (accepted : emmaOutputSchema raw = some output) :
    (1 ≤ output.userStories.length ∧ output.userStories.length ≤ 50) ∧
      ∀ story ∈ output.userStories, story.Accepted := by
  simp only [emmaOutputSchema, Option.bind_eq_bind, Option.bind_eq_some_iff] at accepted
  obtain ⟨_, -, _, -, _, -, stories, stories_eq, _, -, _, -, e⟩ := accepted
  cases e
  obtain ⟨bounds, elements⟩ := boundedArray_eq_some stories_eq
  refine ⟨bounds, fun story mem => ?_⟩
  obtain ⟨raw, -, eq⟩ := elements story mem
  exact EmmaStory.parse_eq_some eq

end Accepted

section Ids

/-- The characters of a criterion's id. -/
lemma toList_criterionId (id : String) (n : Nat) :
    (s!"{id}:{n}").toList = id.toList ++ ':' :: (Nat.repr n).toList := by
  simp [toString]

lemma toList_storyId {id : String} (valid : isStoryId id = true) :
    ∃ a b c, id.toList = ['U', 'S', '-', a, b, c] ∧ a.isDigit = true ∧ b.isDigit = true ∧
      c.isDigit = true := by
  unfold isStoryId at valid
  split at valid
  · rename_i a b c chars
    simp only [Bool.and_eq_true] at valid
    exact ⟨a, b, c, chars, valid.1.1, valid.1.2, valid.2⟩
  · cases valid

/-- The numbers of the criteria of a story, as an id has them. -/
lemma ordinal_digits : ∀ index < 20, (match (Nat.repr (index + 1)).toList with
    | [d] => d.isDigit && d != '0'
    | [d, e] => d.isDigit && d != '0' && e.isDigit
    | _ => false) = true := by
  decide

lemma ordinal_injective : ∀ i < 20, ∀ j < 20,
    (Nat.repr (i + 1)).toList = (Nat.repr (j + 1)).toList → i = j := by
  decide

/-- A story has ids for up to twenty criteria. -/
lemma isCriterionId_of_story {id : String} (valid : isStoryId id = true) {index : Nat}
    (small : index < 20) : isCriterionId s!"{id}:{index + 1}" = true := by
  obtain ⟨a, b, c, chars, a_digit, b_digit, c_digit⟩ := toList_storyId valid
  have digits := ordinal_digits index small
  unfold isCriterionId
  rw [toList_criterionId, chars]
  split at digits
  · rename_i d one
    rw [one]
    simp only [Bool.and_eq_true] at digits
    simp [a_digit, b_digit, c_digit, digits]
  · rename_i d e two
    rw [two]
    simp only [Bool.and_eq_true] at digits
    simp [a_digit, b_digit, c_digit, digits]
  · cases digits

/-- An id tells the story and the number of its criterion. -/
lemma criterionId_injective {id other : String} (valid : isStoryId id = true)
    (valid' : isStoryId other = true) {i j : Nat} (small : i < 20) (small' : j < 20)
    (e : s!"{id}:{i + 1}" = s!"{other}:{j + 1}") : id = other ∧ i = j := by
  obtain ⟨a, b, c, chars, -⟩ := toList_storyId valid
  obtain ⟨a', b', c', chars', -⟩ := toList_storyId valid'
  have lists := congrArg String.toList e
  rw [toList_criterionId, toList_criterionId] at lists
  obtain ⟨stories, numbers⟩ := List.append_inj lists (by rw [chars, chars']; rfl)
  refine ⟨String.toList_inj.mp stories, ordinal_injective i small j small' ?_⟩
  exact (List.cons.inj numbers).2

end Ids

section Snapshot

variable {story : EmmaStory}

/-- The criteria of a story in the snapshot, by their position. -/
lemma EmmaStory.projected_criteria (accepted : story.Accepted) :
    story.projected.criteria = story.acceptanceCriteria.mapIdx fun index criterion =>
      ⟨s!"{story.id}:{index + 1}", criterion.key, criterion.text⟩ := by
  apply List.ext_getElem
  · simp [UserStory.criteria, EmmaStory.projected]
  · intro index low high
    rw [List.length_mapIdx] at high
    have trimmed := accepted.trimmed _ (List.getElem_mem high)
    simp only [UserStory.criteria, EmmaStory.projected, List.getElem_mapIdx, List.getElem_map,
      EmmaCriterion.pair, trimmed]

/-- An accepted story is one of `EmmaCriteriaSchema`. -/
lemma EmmaStory.projected_valid (accepted : story.Accepted) : story.projected.valid = true := by
  have texts : (story.projected.acceptanceCriteria.all fun criterion =>
      isCriterionKey criterion.1 && isCriterionText (Utf16.trimString criterion.2)) = true := by
    rw [List.all_eq_true]
    intro pair pair_mem
    obtain ⟨criterion, mem, rfl⟩ := List.mem_map.mp pair_mem
    show (isCriterionKey criterion.key && isCriterionText (Utf16.trimString criterion.text)) = true
    rw [accepted.trimmed criterion mem, accepted.keys criterion mem, accepted.texts criterion mem]
    rfl
  have low : 1 ≤ story.projected.acceptanceCriteria.length := by
    rw [EmmaStory.projected, List.length_map]
    exact accepted.bounds.1
  have high : story.projected.acceptanceCriteria.length ≤ 20 := by
    rw [EmmaStory.projected, List.length_map]
    exact accepted.bounds.2
  have id : isStoryId story.projected.id = true := accepted.id
  simp only [UserStory.valid, id, low, high, texts, decide_true, Bool.and_self]

/-- A criterion of a story is valid, and its id is one of the story's. -/
lemma EmmaStory.mem_criteria (accepted : story.Accepted) {criterion : AcceptanceCriterion}
    (mem : criterion ∈ story.projected.criteria) :
    (∃ index < 20, criterion.id = s!"{story.id}:{index + 1}") ∧
      isCriterionKey criterion.key = true ∧ isCriterionText criterion.text = true := by
  rw [EmmaStory.projected_criteria accepted] at mem
  obtain ⟨index, bound, rfl⟩ := List.mem_mapIdx.mp mem
  have small : index < 20 := Nat.lt_of_lt_of_le bound accepted.bounds.2
  have mem := List.getElem_mem bound
  exact ⟨⟨index, small, rfl⟩, accepted.keys _ mem, accepted.texts _ mem⟩

/-- The criteria of a story have different ids. -/
lemma EmmaStory.nodup_criteria (accepted : story.Accepted) :
    (story.projected.criteria.map AcceptanceCriterion.id).Nodup := by
  rw [EmmaStory.projected_criteria accepted, List.nodup_iff_injective_getElem]
  intro i j same
  have low : i.1 < 20 := by
    apply Nat.lt_of_lt_of_le i.2
    rw [List.length_map, List.length_mapIdx]
    exact accepted.bounds.2
  have low' : j.1 < 20 := by
    apply Nat.lt_of_lt_of_le j.2
    rw [List.length_map, List.length_mapIdx]
    exact accepted.bounds.2
  simp only [List.getElem_map, List.getElem_mapIdx] at same
  exact Fin.ext (criterionId_injective accepted.id accepted.id low low' same).2

/-- The keys and texts of a story's criteria, in order. -/
lemma EmmaStory.pairs_criteria (accepted : story.Accepted) :
    (story.projected.criteria.map fun criterion => (criterion.key, criterion.text)) =
      story.acceptanceCriteria.map EmmaCriterion.pair := by
  rw [EmmaStory.projected_criteria accepted]
  apply List.ext_getElem
  · rw [List.length_map, List.length_mapIdx, List.length_map]
  · intro index low high
    rw [List.getElem_map, List.getElem_mapIdx, List.getElem_map]
    rfl

variable {stories : List EmmaStory}

/-- Up to fifty stories have up to a thousand criteria. -/
lemma length_criteria_le (accepted : ∀ story ∈ stories, story.Accepted) :
    ((stories.map EmmaStory.projected).flatMap UserStory.criteria).length ≤ 20 * stories.length := by
  induction stories with
  | nil => exact Nat.le_refl 0
  | cons story stories ih =>
    have rest := ih fun other mem => accepted other (List.mem_cons_of_mem story mem)
    have first := (accepted story List.mem_cons_self).bounds.2
    rw [List.map_cons, List.flatMap_cons, List.length_append, List.length_cons,
      EmmaStory.projected_criteria (accepted story List.mem_cons_self), List.length_mapIdx]
    omega

/-- Stories with different ids have criteria with different ids. -/
lemma nodup_criteria (accepted : ∀ story ∈ stories, story.Accepted)
    (distinct : (stories.map EmmaStory.id).Nodup) :
    (((stories.map EmmaStory.projected).flatMap UserStory.criteria).map
      AcceptanceCriterion.id).Nodup := by
  induction stories with
  | nil => exact List.nodup_nil
  | cons story stories ih =>
    rw [List.map_cons, List.nodup_cons] at distinct
    have others := fun other mem => accepted other (List.mem_cons_of_mem story mem)
    have own := accepted story List.mem_cons_self
    rw [List.map_cons, List.flatMap_cons, List.map_append]
    apply List.Nodup.append (EmmaStory.nodup_criteria own) (ih others distinct.2)
    -- an id of both would tell that another story has the same id
    intro id id_mem id_mem'
    obtain ⟨criterion, mem, rfl⟩ := List.mem_map.mp id_mem
    obtain ⟨criterion', criterion_mem', same⟩ := List.mem_map.mp id_mem'
    obtain ⟨_, projected_mem, mem'⟩ := List.mem_flatMap.mp criterion_mem'
    obtain ⟨other, other_mem, rfl⟩ := List.mem_map.mp projected_mem
    obtain ⟨⟨i, small, id_eq⟩, -⟩ := EmmaStory.mem_criteria own mem
    obtain ⟨⟨j, small', id_eq'⟩, -⟩ := EmmaStory.mem_criteria (others other other_mem) mem'
    have equal : s!"{story.id}:{i + 1}" = s!"{other.id}:{j + 1}" := by
      rw [← id_eq, ← id_eq', same]
    have same_id := (criterionId_injective own.id (others other other_mem).id small small' equal).1
    exact distinct.1 (List.mem_map.mpr ⟨other, other_mem, same_id.symm⟩)

/-- The keys and texts of all criteria, in order. -/
lemma pairs_criteria (accepted : ∀ story ∈ stories, story.Accepted) :
    (((stories.map EmmaStory.projected).flatMap UserStory.criteria).map
        fun criterion => (criterion.key, criterion.text)) =
      stories.flatMap fun story => story.acceptanceCriteria.map EmmaCriterion.pair := by
  induction stories with
  | nil => rfl
  | cons story stories ih =>
    rw [List.map_cons, List.flatMap_cons, List.map_append, List.flatMap_cons,
      EmmaStory.pairs_criteria (accepted story List.mem_cons_self),
      ih fun other mem => accepted other (List.mem_cons_of_mem story mem)]

/-- The projection of an accepted output is what `EmmaCriteriaSchema` accepts. -/
lemma projected_valid {output : EmmaOutput} (bounds : 1 ≤ output.userStories.length ∧
    output.userStories.length ≤ 50) (accepted : ∀ story ∈ output.userStories, story.Accepted) :
    (1 ≤ output.projected.length && output.projected.length ≤ 50 &&
      output.projected.all UserStory.valid) = true := by
  have all : output.projected.all UserStory.valid = true := by
    rw [List.all_eq_true]
    intro projected projected_mem
    obtain ⟨story, mem, rfl⟩ := List.mem_map.mp projected_mem
    exact EmmaStory.projected_valid (accepted story mem)
  have length : output.projected.length = output.userStories.length := List.length_map _
  simp only [all, length, bounds, decide_true, Bool.and_self]

/-- The snapshot of an accepted output is valid if its stories have different ids. -/
lemma snapshot_valid {output : EmmaOutput} {scope : QualityScope} {taskId : Uuid} {taskAttempt : Nat}
    (bounds : 1 ≤ output.userStories.length ∧ output.userStories.length ≤ 50)
    (accepted : ∀ story ∈ output.userStories, story.Accepted)
    (distinct : (output.userStories.map EmmaStory.id).Nodup) (scope_valid : scope.valid = true)
    (attempt_valid : taskAttempt ≤ maxSafeInteger) :
    AcceptanceSnapshot.valid
      { scope, taskId, taskAttempt, criteria := output.projected.flatMap UserStory.criteria } =
        true := by
  have nodup := nodup_criteria accepted distinct
  have high : (output.projected.flatMap UserStory.criteria).length ≤ 1000 :=
    Nat.le_trans (length_criteria_le accepted) (by omega)
  have low : 1 ≤ (output.projected.flatMap UserStory.criteria).length := by
    obtain ⟨story, mem⟩ := List.exists_mem_of_length_pos bounds.1
    have own := accepted story mem
    have first : story.projected.criteria ≠ [] := by
      rw [EmmaStory.projected_criteria own]
      intro empty
      have none := congrArg List.length empty
      rw [List.length_mapIdx] at none
      exact absurd own.bounds.1 (by rw [none]; exact Nat.not_succ_le_zero 0)
    obtain ⟨criterion, criterion_mem⟩ := List.exists_mem_of_ne_nil _ first
    have flat_mem : criterion ∈ output.projected.flatMap UserStory.criteria :=
      List.mem_flatMap.mpr ⟨_, List.mem_map_of_mem mem, criterion_mem⟩
    exact List.length_pos_of_mem flat_mem
  have all : ((output.projected.flatMap UserStory.criteria).all fun criterion =>
      isCriterionId criterion.id && isCriterionKey criterion.key &&
        isCriterionText criterion.text) = true := by
    rw [List.all_eq_true]
    intro criterion criterion_mem
    obtain ⟨_, projected_mem, mem⟩ := List.mem_flatMap.mp criterion_mem
    obtain ⟨story, story_mem, rfl⟩ := List.mem_map.mp projected_mem
    obtain ⟨⟨index, small, id⟩, key, text⟩ := EmmaStory.mem_criteria (accepted story story_mem) mem
    rw [id, isCriterionId_of_story (accepted story story_mem).id small, key, text]
    rfl
  have unique : ((output.projected.flatMap UserStory.criteria).map
      AcceptanceCriterion.id).Nodup := nodup
  simp only [AcceptanceSnapshot.valid, attempt_valid, scope_valid, low, high, all, unique,
    decide_true, Bool.and_self]

/-- An accepted output gives an acceptance snapshot with its criteria, in order and under different
    ids, if its user stories have different ids; if two stories share an id, which the schema of the
    output allows, the snapshot is refused as ambiguous. -/
theorem acceptance_snapshot_of_output {raw output : EmmaOutput}
    (accepted : emmaOutputSchema raw = some output) {scope : QualityScope}
    (scope_valid : scope.valid = true) (taskId : Uuid) {taskAttempt : Nat}
    (attempt_valid : taskAttempt ≤ maxSafeInteger) :
    ((output.userStories.map EmmaStory.id).Nodup → ∃ snapshot,
      createAcceptanceSnapshot scope taskId taskAttempt (some output.projected) = .ok snapshot ∧
        (snapshot.criteria.map AcceptanceCriterion.id).Nodup ∧
        (snapshot.criteria.map fun criterion => (criterion.key, criterion.text)) =
          output.userStories.flatMap fun story => story.acceptanceCriteria.map EmmaCriterion.pair) ∧
      (¬ (output.userStories.map EmmaStory.id).Nodup →
        createAcceptanceSnapshot scope taskId taskAttempt (some output.projected) = .error {}) := by
  obtain ⟨bounds, stories⟩ := emmaOutputSchema_eq_some accepted
  have ids : output.projected.map UserStory.id = output.userStories.map EmmaStory.id := by
    rw [EmmaOutput.projected, List.map_map]
    rfl
  have read : parseQualityInput (fun stories : List UserStory => 1 ≤ stories.length &&
      stories.length ≤ 50 && stories.all UserStory.valid) output.projected =
        .ok output.projected :=
    if_pos (projected_valid bounds stories)
  constructor
  · intro distinct
    have valid := @snapshot_valid _ _ taskId _ bounds stories distinct scope_valid attempt_valid
    refine ⟨⟨taskId, taskAttempt, scope, output.projected.flatMap UserStory.criteria⟩, ?_,
      nodup_criteria stories distinct, pairs_criteria stories⟩
    show (parseQualityInput _ output.projected >>= _) = _
    rw [read]
    show (if (output.projected.map UserStory.id).Nodup then _ else _) = _
    rw [ids, if_pos distinct]
    exact if_pos valid
  · intro shared
    show (parseQualityInput _ output.projected >>= _) = _
    rw [read]
    show (if (output.projected.map UserStory.id).Nodup then _ else _) = _
    rw [ids, if_neg shared]
    rfl

/-- A user story of a portal, with one criterion. -/
def signInStory (id : String) : EmmaStory where
  id
  role := "client"
  goal := "sign in"
  benefit := "see my projects"
  acceptanceCriteria := [⟨"auth.sign_in", "A client can sign in."⟩]

/-- An output with two user stories under given ids. -/
def portalOutput (first second : String) : EmmaOutput where
  productName := "Portal"
  problemStatement := "Clients need their own projects."
  targetUsers := ["Clients"]
  userStories := [signInStory first, signInStory second]
  nonGoals := []
  assumptions := []

/-- A scope of the first attempt of a run. -/
def firstScope : QualityScope where
  workspaceId := 1
  projectId := 2
  runId := 3
  controlVersion := 0
  attempt := 1
  snapshotSha256 := String.ofList (List.replicate 64 'a')

theorem acceptance_snapshot_of_portal :
    ∃ snapshot, createAcceptanceSnapshot firstScope 4 0
        (some (portalOutput "US-001" "US-002").projected) = .ok snapshot ∧
      (snapshot.criteria.map AcceptanceCriterion.id).Nodup := by
  have accepted : emmaOutputSchema (portalOutput "US-001" "US-002") =
      some (portalOutput "US-001" "US-002") := by
    decide
  have scope_valid : firstScope.valid = true := by
    decide
  obtain ⟨snapshot, created, nodup, -⟩ :=
    (acceptance_snapshot_of_output accepted scope_valid 4 (Nat.zero_le maxSafeInteger)).1
      (by decide)
  exact ⟨snapshot, created, nodup⟩

/-- Two user stories with one id: an output that the schema accepts and the snapshot refuses. -/
theorem shared_story_id_refused :
    ¬ ∀ raw output : EmmaOutput, emmaOutputSchema raw = some output →
      ∀ (scope : QualityScope) (taskId : Uuid) (taskAttempt : Nat), scope.valid = true →
        taskAttempt ≤ maxSafeInteger → ∃ snapshot,
          createAcceptanceSnapshot scope taskId taskAttempt (some output.projected) =
            .ok snapshot := by
  intro claim
  have accepted : emmaOutputSchema (portalOutput "US-001" "US-001") =
      some (portalOutput "US-001" "US-001") := by
    decide
  have scope_valid : firstScope.valid = true := by
    decide
  obtain ⟨snapshot, created⟩ :=
    claim _ _ accepted firstScope 4 0 scope_valid (Nat.zero_le maxSafeInteger)
  have refused : createAcceptanceSnapshot firstScope 4 0
      (some (portalOutput "US-001" "US-001").projected) = .error {} := by
    decide
  rw [refused] at created
  cases created

end Snapshot

end AtomsPlatform.Quality
