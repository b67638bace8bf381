import AtomsPlatform.Meetings.Model

/-!
# The rows of meetings

What the two rows of a meeting have in common: either there is no brief yet, or both of them have the same
one, which is valid (`Tables.Consistent`). A new meeting, and the completion of an action that is not
completed, keep this, and neither changes a meeting that has its brief (`Tables.Keeps`).
-/

namespace AtomsPlatform.Meetings
open Table

section Validation
variable {response normalized : String}

/-- A brief that is valid, in its normal form. -/
def ValidBrief (response : String) : Prop :=
  validateMeetingBriefResponse response =
    { valid := true, normalizedResponse := some response, missingSections := [], violations := [] }

instance : Decidable (ValidBrief response) :=
  inferInstanceAs (Decidable (_ = _))

/-- A response is judged by its normal form. -/
lemma validate_trimString : validateMeetingBriefResponse (Utf16.trimString response) =
    validateMeetingBriefResponse response := by
  unfold validateMeetingBriefResponse
  rw [Utf16.trimString_trimString]

/-- The result by the violations. -/
lemma validate_cases (response : String) : ∃ missing violations : List String,
    validateMeetingBriefResponse response =
      if violations.length > 0 then
        { valid := false, normalizedResponse := none, missingSections := missing, violations }
      else
        { valid := true, normalizedResponse := some (Utf16.trimString response), missingSections := [],
          violations := [] } := by
  unfold validateMeetingBriefResponse
  exact ⟨_, _, rfl⟩

/-- What the validation lets pass is the normal form of the response, which is valid itself. -/
lemma validate_valid (valid : (validateMeetingBriefResponse response).valid = true)
    (is : (validateMeetingBriefResponse response).normalizedResponse = some normalized) :
    normalized = Utf16.trimString response ∧ ValidBrief normalized := by
  have passes : validateMeetingBriefResponse response =
      { valid := true, normalizedResponse := some (Utf16.trimString response), missingSections := [],
        violations := [] } := by
    obtain ⟨missing, violations, result⟩ := validate_cases response
    rw [result] at valid ⊢
    split
    · rename_i violated
      rw [if_pos violated] at valid
      cases valid
    · rfl
  rw [passes] at is
  obtain rfl := Option.some.inj is
  refine ⟨rfl, ?_⟩
  show validateMeetingBriefResponse _ = _
  rw [validate_trimString]
  exact passes

end Validation

section Consistency
variable {d : Tables} {m : Meeting} {action : OliviaAssistedAction} {id : Uuid} {response : String}
  {now : Date}

/-- There is no brief yet. -/
structure Fresh (m : Meeting) (action : OliviaAssistedAction) : Prop where
  brief : m.meetingBrief = none
  state : m.preparationState = .oliviaActionRequired
  status : action.status = .pending
  response : action.response = none
  completedAt : action.completedAt = none

/-- There is a brief, which is valid, and both rows say so. -/
structure Settled (m : Meeting) (action : OliviaAssistedAction) : Prop where
  brief : ∃ response, ValidBrief response ∧ m.meetingBrief = some response ∧ action.response = some response
  state : m.preparationState = .readyForAgentPreparation
  status : action.status = .completed
  completedAt : action.completedAt.isSome

namespace Tables

/-- A meeting has its action, and both say the same of the brief. -/
def Prepared (d : Tables) (m : Meeting) : Prop :=
  ∃ action, d.action? m.id = some action ∧ (Fresh m action ∨ Settled m action)

/-- Ids are unique, titles are unique in a workspace, and each meeting has its action. -/
structure Consistent (d : Tables) : Prop where
  ids : (d.meetings.map Meeting.id).Nodup
  slots : (d.meetings.map Meeting.slot).Nodup
  paired : d.actions.map OliviaAssistedAction.meetingId = d.meetings.map Meeting.id
  prepared : ∀ m ∈ d.meetings, d.Prepared m

/-- A meeting that has no brief. -/
def IsFresh (d : Tables) (id : Uuid) : Prop :=
  ∃ m action, d.meeting? id = some m ∧ d.action? id = some action ∧ Fresh m action

/-- Meetings stay, and those that have a brief do not change, nor do their actions. -/
def Keeps (d d' : Tables) : Prop :=
  ∀ m ∈ d.meetings, ∃ m' ∈ d'.meetings, m'.id = m.id ∧ m'.slot = m.slot ∧
    ∀ response, m.meetingBrief = some response → m' = m ∧ d'.action? m.id = d.action? m.id

lemma Keeps.refl : d.Keeps d :=
  fun m mem => ⟨m, mem, rfl, rfl, fun _ _ => ⟨rfl, rfl⟩⟩

lemma Keeps.trans {d₁ d₂ d₃ : Tables} (first : d₁.Keeps d₂) (second : d₂.Keeps d₃) : d₁.Keeps d₃ := by
  intro m mem
  obtain ⟨m₂, mem₂, id₂, slot₂, fixed₂⟩ := first m mem
  obtain ⟨m₃, mem₃, id₃, slot₃, fixed₃⟩ := second m₂ mem₂
  refine ⟨m₃, mem₃, id₃.trans id₂, slot₃.trans slot₂, fun response is => ?_⟩
  obtain ⟨rfl, same⟩ := fixed₂ response is
  obtain ⟨rfl, same'⟩ := fixed₃ response is
  exact ⟨rfl, same'.trans same⟩

lemma meeting?_of_mem (consistent : d.Consistent) (mem : m ∈ d.meetings) : d.meeting? m.id = some m :=
  lookup_of_mem consistent.ids mem

/-- An action that is not completed is one of a meeting without a brief. -/
lemma isFresh_of_action (consistent : d.Consistent) (mem : action ∈ d.actions)
    (incomplete : action.status ≠ .completed) : d.IsFresh action.meetingId := by
  have ids : (d.actions.map OliviaAssistedAction.meetingId).Nodup := by
    rw [consistent.paired]
    exact consistent.ids
  have found : d.action? action.meetingId = some action := lookup_of_mem ids mem
  have paired : action.meetingId ∈ d.meetings.map Meeting.id := by
    rw [← consistent.paired]
    exact List.mem_map_of_mem mem
  obtain ⟨m, mem, is⟩ := List.mem_map.mp paired
  obtain ⟨action', found', fresh | settled⟩ := consistent.prepared m mem
  · rw [is, found] at found'
    cases found'
    exact ⟨m, action, is ▸ meeting?_of_mem consistent mem, found, fresh⟩
  · rw [is, found] at found'
    cases found'
    exact absurd settled.status incomplete

/-- A meeting that has a brief is not one that has none. -/
lemma IsFresh.ne (fresh : d.IsFresh id) (consistent : d.Consistent) (mem : m ∈ d.meetings)
    (is : m.meetingBrief = some response) : m.id ≠ id := by
  rintro rfl
  obtain ⟨m', action, found, -, none⟩ := fresh
  rw [meeting?_of_mem consistent mem] at found
  cases found
  rw [none.brief] at is
  cases is

section Insert

/-- A meeting that may be made: its id and its title are new. -/
structure Insertable (d : Tables) (m : Meeting) (action : OliviaAssistedAction) : Prop where
  own : action.meetingId = m.id
  fresh : Fresh m action
  id : ∀ m' ∈ d.meetings, m'.id ≠ m.id
  slot : ∀ m' ∈ d.meetings, m'.slot ≠ m.slot

variable (insertable : d.Insertable m action)
include insertable

omit insertable in
/-- The action of a meeting that was there is found as before. -/
lemma action?_insert (consistent : d.Consistent) {m' : Meeting} (mem : m' ∈ d.meetings) :
    (d.insert m action).action? m'.id = d.action? m'.id := by
  obtain ⟨action', found, -⟩ := consistent.prepared m' mem
  rw [found]
  exact lookup_append_of_some found

omit insertable in
lemma Keeps.insert (consistent : d.Consistent) : d.Keeps (d.insert m action) := by
  intro m' mem
  exact ⟨m', List.mem_append_left _ mem, rfl, rfl, fun _ _ => ⟨rfl, action?_insert consistent mem⟩⟩

lemma Consistent.insert (consistent : d.Consistent) : (d.insert m action).Consistent where
  ids := nodup_append consistent.ids insertable.id
  slots := nodup_append consistent.slots insertable.slot
  paired := by
    show List.map _ (d.actions ++ [action]) = List.map _ (d.meetings ++ [m])
    rw [List.map_append, List.map_append, consistent.paired, List.map_singleton, List.map_singleton,
      insertable.own]
  prepared := by
    intro m' mem
    rcases List.mem_append.mp mem with old | new
    · obtain ⟨action', found, state⟩ := consistent.prepared m' old
      exact ⟨action', (action?_insert consistent old).trans found, state⟩
    · rw [List.mem_singleton.mp new]
      refine ⟨action, lookup_append_new (List.find?_eq_none.mpr ?_) insertable.own, .inl insertable.fresh⟩
      intro action' mem' is
      have paired : action'.meetingId ∈ d.meetings.map Meeting.id := by
        rw [← consistent.paired]
        exact List.mem_map_of_mem mem'
      obtain ⟨m'', mem'', same⟩ := List.mem_map.mp paired
      exact insertable.id m'' mem'' (same.trans (of_decide_eq_true is))

omit insertable in
lemma IsFresh.insert (fresh : d.IsFresh id) : (d.insert m action).IsFresh id := by
  obtain ⟨m', action', found, found', none⟩ := fresh
  exact ⟨m', action', lookup_append_of_some found, lookup_append_of_some found', none⟩

end Insert

section Complete

/-- Both updates of a completion. -/
def complete (d : Tables) (id : Uuid) (response : String) (now : Date) : Tables :=
  (d.completeAction id response now).setBrief id response

lemma action?_complete_ne {id' : Uuid} (ne : id' ≠ id) :
    (d.complete id response now).action? id' = d.action? id' :=
  lookup_update_ne (fun _ is => is) ne

lemma meeting?_complete_ne {id' : Uuid} (ne : id' ≠ id) :
    (d.complete id response now).meeting? id' = d.meeting? id' :=
  lookup_update_ne (fun _ is => is) ne

lemma IsFresh.complete_ne {id' : Uuid} (fresh : d.IsFresh id) (ne : id ≠ id') :
    (d.complete id' response now).IsFresh id := by
  obtain ⟨m, action, found, found', none⟩ := fresh
  exact ⟨m, action, (meeting?_complete_ne ne).trans found, (action?_complete_ne ne).trans found', none⟩

/-- A meeting with its brief. -/
def withBrief (m : Meeting) (response : String) : Meeting :=
  { m with meetingBrief := some response, preparationState := .readyForAgentPreparation }

/-- An action with its response. -/
def withResponse (action : OliviaAssistedAction) (response : String) (now : Date) : OliviaAssistedAction :=
  { action with response := some response, status := .completed, completedAt := some now }

/-- The meetings of a completion. -/
lemma mem_complete {m' : Meeting} (mem : m' ∈ (d.complete id response now).meetings) :
    ∃ m ∈ d.meetings, (m.id = id ∧ m' = withBrief m response) ∨ m.id ≠ id ∧ m' = m := by
  obtain ⟨m, mem, is⟩ := List.mem_map.mp mem
  refine ⟨m, mem, ?_⟩
  by_cases own : m.id = id
  · rw [if_pos ⟨own, rfl⟩] at is
    exact .inl ⟨own, is.symm⟩
  · rw [if_neg fun both => own both.1] at is
    exact .inr ⟨own, is.symm⟩

/-- A completed meeting has the brief. -/
lemma mem_complete_self (mem : m ∈ d.meetings) (own : m.id = id) :
    withBrief m response ∈ (d.complete id response now).meetings :=
  mem_update_self (f := fun m => withBrief m response) mem own rfl

lemma Keeps.complete (consistent : d.Consistent) (fresh : d.IsFresh id) :
    d.Keeps (d.complete id response now) := by
  intro m mem
  by_cases own : m.id = id
  · refine ⟨withBrief m response, mem_complete_self mem own, rfl, rfl, fun _ is => ?_⟩
    exact absurd own (fresh.ne consistent mem is)
  · exact ⟨m, mem_update_ne mem own, rfl, rfl, fun _ _ => ⟨rfl, action?_complete_ne own⟩⟩

lemma ids_complete : (d.complete id response now).meetings.map Meeting.id = d.meetings.map Meeting.id :=
  keys_update fun _ _ => rfl

/-- The action of a completion. -/
lemma action?_complete (found : d.action? id = some action) (incomplete : action.status ≠ .completed) :
    (d.complete id response now).action? id =
      some (withResponse action response now) := by
  have updated : (d.complete id response now).action? id =
      (d.action? id).map fun a =>
        if decide (a.status ≠ .completed) = true then withResponse a response now else a :=
    lookup_update fun _ is => is
  rw [updated, found, Option.map_some, if_pos (decide_eq_true incomplete)]

/-- A valid brief completes a meeting that has none. -/
lemma Consistent.complete (consistent : d.Consistent) (fresh : d.IsFresh id) (valid : ValidBrief response) :
    (d.complete id response now).Consistent where
  ids := by
    rw [ids_complete]
    exact consistent.ids
  slots := by
    show (List.map Meeting.slot (List.map _ d.meetings)).Nodup
    rw [List.map_map, List.map_congr_left (g := Meeting.slot)]
    · exact consistent.slots
    · intro m mem
      show Meeting.slot (if _ then _ else _) = _
      split
      · rfl
      · rfl
  paired := by
    have paired : (d.complete id response now).actions.map OliviaAssistedAction.meetingId =
        d.actions.map OliviaAssistedAction.meetingId := keys_update fun _ _ => rfl
    rw [paired, ids_complete]
    exact consistent.paired
  prepared := by
    intro m' mem'
    obtain ⟨m, mem, ⟨own, rfl⟩ | ⟨other, rfl⟩⟩ := mem_complete mem'
    · obtain ⟨_, action, _, found, unfilled⟩ := fresh
      have incomplete : action.status ≠ .completed := by
        rw [unfilled.status]
        nofun
      refine ⟨withResponse action response now, ?_, .inr ⟨⟨response, valid, rfl, rfl⟩, rfl, rfl, rfl⟩⟩
      show (d.complete id response now).action? m.id = _
      rw [own]
      exact action?_complete found incomplete
    · obtain ⟨action, found, state⟩ := consistent.prepared m' mem
      exact ⟨action, (action?_complete_ne other).trans found, state⟩

end Complete
end Tables
end Consistency

end AtomsPlatform.Meetings
