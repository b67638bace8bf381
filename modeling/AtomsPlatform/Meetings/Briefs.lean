import AtomsPlatform.Meetings.Rows

/-!
# One brief for each meeting

However requests about meetings and the ends of transactions are interleaved, a meeting gets at most one
brief, which is valid and never changes (`one_brief`): the transaction that completes an action has locked it
before anyone else does, and it was not completed then. A request that answers without an error has found its
own response in the meeting, or has put it there.
-/

namespace AtomsPlatform.Meetings
open Interleaving Transactions

section Accounts

/-- Where a request is in its transaction. -/
inductive Stage where
  | idle
  | opened (tx : Nat)
  | completing (tx : Nat) (meetingId : Uuid) (response : String) (now : Date)
  | updated (tx : Nat) (meetingId : Uuid) (response : String) (now : Date)

/-- The transaction of a request. -/
def Stage.tx? : Stage → Option Nat
  | .idle => none
  | .opened tx | .completing tx .. | .updated tx .. => some tx

/-- The other row of a completion is updated. -/
def Stage.update : Stage → Stage
  | .completing tx meetingId response now => .updated tx meetingId response now
  | stage => stage

/-- The brief that is there when the transaction commits. -/
def Stage.brief? : Stage → Option (Uuid × String)
  | .updated _ meetingId response _ => some (meetingId, response)
  | _ => none

/-- What a transaction that commits may have done: nothing, or all of a completion. -/
def Stage.Final : Stage → Prop
  | .opened _ | .updated .. => True
  | _ => False

/-- The account of a request: where it is in its transaction, the last brief that it read or stored, and the
    meeting that it made or found. -/
structure Account where
  stage : Stage := .idle
  seen : Option (Uuid × String) := none
  made : Option ((Uuid × String) × Uuid) := none

/-- The brief of a meeting that was read. -/
def briefOf (m : Meeting) : Option (Uuid × String) :=
  m.meetingBrief.map fun response => (m.id, response)

/-- What the calls change. -/
def note : (o : Operation) → Except Failure o.Answer → Account → Account
  | .createMeeting .., .ok meeting, x => { x with made := some (meeting.1.slot, meeting.1.id) }
  | .findMeetingByTitle .., .ok (some meeting), x => { x with made := some (meeting.1.slot, meeting.1.id) }
  | .findMeeting _, .ok (some meeting), x => { x with seen := briefOf meeting.1 }
  | .begin, .ok tx, x => { x with stage := .opened tx }
  | .findMeetingIn .., .ok (some meeting), x => { x with seen := briefOf meeting.1 }
  | .completeAction tx meetingId response now, .ok count, x =>
    if count = 0 then x else { x with stage := .completing tx meetingId response now }
  | .updateMeeting .., .ok _, x => { x with stage := x.stage.update }
  | .commit _, .ok _, x => { x with stage := .idle, seen := x.stage.brief?.or x.seen }
  | .commit _, .error _, x | .rollback _, _, x => { x with stage := .idle }
  | _, _, x => x

/-- The calls that a request may make, by its account. -/
def Allowed (x : Account) : Operation → Prop
  | .findMeetingIn tx _ => x.stage = .opened tx
  | .completeAction tx _ response _ => x.stage = .opened tx ∧ ValidBrief response
  | .updateMeeting tx meetingId response => ∃ now, x.stage = .completing tx meetingId response now
  | .commit tx => x.stage.tx? = some tx ∧ x.stage.Final
  | .rollback tx => x.stage.tx? = some tx
  | _ => True

/-- The booking of what calls answer. -/
def book : meetingSystem.Booking Account :=
  fun o env s x => note o (perform o env s).1 x

/-- The transaction has not written. -/
def Unwritten (t : Transaction Tables LockKey) : Prop :=
  ∀ d, t.written d = d

/-- A transaction that completes an action holds its lock, and the meeting has no brief. -/
structure Completes (d : Tables) (meetingId : Uuid) (response : String) (t : Transaction Tables LockKey) :
    Prop where
  locked : .action meetingId ∈ t.locks
  fresh : d.IsFresh meetingId
  valid : ValidBrief response

/-- What holds of a transaction at a stage, as long as it is open. -/
def Holds (d : Tables) : Stage → Transaction Tables LockKey → Prop
  | .idle, _ => True
  | .opened _, t => Unwritten t
  | .completing _ meetingId response now, t =>
    Completes d meetingId response t ∧ ∀ d, t.written d = d.completeAction meetingId response now
  | .updated _ meetingId response now, t =>
    Completes d meetingId response t ∧ ∀ d, t.written d = d.complete meetingId response now

/-- There is a meeting with this brief. -/
def HasBrief (d : Tables) (meetingId : Uuid) (response : String) : Prop :=
  ∃ m ∈ d.meetings, m.id = meetingId ∧ m.meetingBrief = some response

/-- There is a meeting of this title with this id. -/
def HasSlot (d : Tables) (slot : Uuid × String) (meetingId : Uuid) : Prop :=
  ∃ m ∈ d.meetings, m.slot = slot ∧ m.id = meetingId

/-- What relates a request to the store. -/
structure Related (initial : Tables) (x : Account) (s : Store) : Prop where
  sound : Sound s
  consistent : s.committed.Consistent
  keeps : initial.Keeps s.committed
  opened : ∀ tx, x.stage.tx? = some tx → While tx (Holds s.committed x.stage) s
  seen : ∀ meetingId response, x.seen = some (meetingId, response) → HasBrief s.committed meetingId response
  made : ∀ slot meetingId, x.made = some (slot, meetingId) → HasSlot s.committed slot meetingId

/-- Two requests do not share a transaction. -/
def Apart (x y : Account) : Prop :=
  ∀ tx, x.stage.tx? = some tx → y.stage.tx? ≠ some tx

/-- What a call of a request does to the store. -/
abbrev Does (x : Account) (s : Store) : Store → Prop :=
  Moves (fun tx => x.stage.tx? = some tx) (fun _ => x.stage.Final)
    (fun d => ∃ m action, s.committed.Insertable m action ∧ d = s.committed.insert m action) s

/-- What becomes of the tables: they stay, a meeting is made, or a meeting gets its brief from the
    transaction that has locked its action. -/
inductive Change (x : Account) (s : Store) : Tables → Prop where
  | kept : Change x s s.committed
  | inserted {m : Meeting} {action : OliviaAssistedAction} : s.committed.Insertable m action →
    Change x s (s.committed.insert m action)
  | completed {tx : Nat} {t : Transaction Tables LockKey} {meetingId : Uuid} {response : String} {now : Date} :
    x.stage.tx? = some tx → s.find tx = some t → Completes s.committed meetingId response t →
    Change x s (s.committed.complete meetingId response now)

end Accounts

section Steps
variable {x y : Account} {s s' : Store} {d initial : Tables} {meetingId : Uuid} {response : String}

lemma Does.change (does : Does x s s')
    (opened : ∀ tx, x.stage.tx? = some tx → While tx (Holds s.committed x.stage) s) :
    Change x s s'.committed := by
  rcases does.committed_cases with same | ⟨m, action, insertable, result⟩ | ⟨tx, t, own, final, found, result⟩
  · rw [same]
    exact .kept
  · rw [result]
    exact .inserted insertable
  · have holds := (opened tx own).2 t found
    rw [result]
    cases at_stage : x.stage with
    | idle | completing =>
      rw [at_stage] at final
      exact final.elim
    | opened =>
      rw [at_stage] at holds
      rw [holds]
      exact .kept
    | updated tx' meetingId response now =>
      rw [at_stage] at holds
      rw [holds.2]
      exact .completed own found holds.1

lemma Change.keeps (change : Change x s d) (consistent : s.committed.Consistent) : s.committed.Keeps d := by
  cases change with
  | kept => exact .refl
  | inserted insertable => exact .insert consistent
  | completed own found completes => exact .complete consistent completes.fresh

lemma Change.consistent (change : Change x s d) (consistent : s.committed.Consistent) : d.Consistent := by
  cases change with
  | kept => exact consistent
  | inserted insertable => exact consistent.insert insertable
  | completed own found completes => exact consistent.complete completes.fresh completes.valid

/-- What another transaction is about to complete has no brief still: its action is locked. -/
lemma Change.completes (change : Change x s d) (sound : Sound s) (apart : Apart x y) {tx : Nat}
    (own : y.stage.tx? = some tx) {t : Transaction Tables LockKey} (found : s.find tx = some t)
    (completes : Completes s.committed meetingId response t) : Completes d meetingId response t := by
  refine ⟨completes.locked, ?_, completes.valid⟩
  cases change with
  | kept => exact completes.fresh
  | inserted insertable => exact completes.fresh.insert
  | @completed tx' t' meetingId' response' now own' found' completes' =>
    apply completes.fresh.complete_ne
    rintro rfl
    have ne : tx' ≠ tx := by
      rintro rfl
      exact apart tx' own' own
    exact sound.apart found' found ne completes'.locked completes.locked

lemma Change.holds (change : Change x s d) (sound : Sound s) (apart : Apart x y) {tx : Nat}
    (own : y.stage.tx? = some tx) {t : Transaction Tables LockKey} (found : s.find tx = some t)
    (holds : Holds s.committed y.stage t) : Holds d y.stage t := by
  cases at_stage : y.stage with
  | idle | opened =>
    rw [at_stage] at holds
    exact holds
  | completing | updated =>
    rw [at_stage] at holds
    exact ⟨change.completes sound apart own found holds.1, holds.2⟩

/-- A new meeting is not one that a transaction completes. -/
lemma holds_insert {m : Meeting} {action : OliviaAssistedAction} {stage : Stage}
    {t : Transaction Tables LockKey} (holds : Holds d stage t) : Holds (d.insert m action) stage t := by
  cases stage with
  | idle | opened => exact holds
  | completing | updated => exact ⟨⟨holds.1.locked, holds.1.fresh.insert, holds.1.valid⟩, holds.2⟩

lemma HasBrief.keeps (has : HasBrief d meetingId response) {d' : Tables} (keeps : d.Keeps d') :
    HasBrief d' meetingId response := by
  obtain ⟨m, mem, rfl, is⟩ := has
  obtain ⟨m', mem', -, -, fixed⟩ := keeps m mem
  obtain ⟨rfl, -⟩ := fixed response is
  exact ⟨m', mem', rfl, is⟩

lemma HasSlot.keeps {slot : Uuid × String} (has : HasSlot d slot meetingId) {d' : Tables}
    (keeps : d.Keeps d') : HasSlot d' slot meetingId := by
  obtain ⟨m, mem, rfl, rfl⟩ := has
  obtain ⟨m', mem', id, slot, -⟩ := keeps m mem
  exact ⟨m', mem', slot, id⟩

lemma Does.keeps (does : Does x s s') (related : Related initial x s) : s.committed.Keeps s'.committed :=
  (does.change related.opened).keeps related.consistent

/-- What a request knows after a call of its own, of which it has read a brief or made a meeting. -/
lemma Does.advances (does : Does x s s') (related : Related initial x s) {z : Account}
    (opened : ∀ tx, z.stage.tx? = some tx → While tx (Holds s'.committed z.stage) s')
    (seen : ∀ meetingId response, z.seen = some (meetingId, response) → x.seen = z.seen ∨
      HasBrief s'.committed meetingId response)
    (made : ∀ slot meetingId, z.made = some (slot, meetingId) → x.made = z.made ∨
      HasSlot s'.committed slot meetingId) : Related initial z s' where
  sound := does.sound related.sound
  consistent := (does.change related.opened).consistent related.consistent
  keeps := related.keeps.trans (does.keeps related)
  opened := opened
  seen := by
    intro meetingId response is
    rcases seen meetingId response is with same | has
    · rw [is] at same
      exact (related.seen _ _ same).keeps (does.keeps related)
    · exact has
  made := by
    intro slot meetingId is
    rcases made slot meetingId is with same | has
    · rw [is] at same
      exact (related.made _ _ same).keeps (does.keeps related)
    · exact has

/-- What a request knows when only its stage changes. -/
lemma Does.stays (does : Does x s s') (related : Related initial x s) (stage : Stage)
    (opened : ∀ tx, stage.tx? = some tx → While tx (Holds s'.committed stage) s') :
    Related initial { x with stage } s' :=
  does.advances related opened (fun _ _ _ => .inl rfl) fun _ _ _ => .inl rfl

/-- What a request knows after a call of another. -/
lemma Does.related_other (does : Does x s s') (related : Related initial x s)
    (related' : Related initial y s) (apart : Apart x y) : Related initial y s' where
  sound := does.sound related.sound
  consistent := (does.change related.opened).consistent related.consistent
  keeps := related.keeps.trans (does.keeps related)
  opened := by
    intro tx own
    have known := related'.opened tx own
    apply known.other does fun is => apart tx is own
    exact fun t found holds => (does.change related.opened).holds related.sound apart own found holds
  seen meetingId response is := (related'.seen meetingId response is).keeps (does.keeps related)
  made slot meetingId is := (related'.made slot meetingId is).keeps (does.keeps related)

end Steps

section Calls
variable {x y : Account} {s s' : Store} {initial : Tables} {meetingId : Uuid} {response : String} {tx : Nat}
  {env : Environment}

/-- A meeting is refused, or it is made. -/
lemma insertMeeting_cases {workspaceId : Uuid} {input : CreateMeetingInput} {prompt : String} :
    (∃ error, insertMeeting workspaceId input prompt env s = (.error error, s)) ∨
      ∃ m action, s.committed.Insertable m action ∧ insertMeeting workspaceId input prompt env s =
        (env.fate.answer (m, some action), { s with committed := s.committed.insert m action }) := by
  let meeting := newMeeting workspaceId input env
  have free (unused : ¬(s.committed.meetings.any fun m => m.id = meeting.id ∨ m.slot = meeting.slot) = true) :
      s.committed.Insertable meeting { meetingId := env.id, prompt } := by
    have new (m : Meeting) (mem : m ∈ s.committed.meetings) : ¬(m.id = meeting.id ∨ m.slot = meeting.slot) :=
      fun used => unused (List.any_eq_true.mpr ⟨m, mem, decide_eq_true used⟩)
    exact ⟨rfl, ⟨rfl, rfl, rfl, rfl, rfl⟩, fun m mem same => new m mem (.inl same),
      fun m mem same => new m mem (.inr same)⟩
  unfold insertMeeting
  cases env.fate with
  | fails error => exact .inl ⟨error, rfl⟩
  | succeeds | unacknowledged error =>
    dsimp only
    split
    · exact .inl ⟨_, rfl⟩
    · rename_i unused
      exact .inr ⟨meeting, _, free unused, rfl⟩

/-- The update of actions is refused, or finds none that is not completed, or it locks the one it finds. -/
lemma completeAction_cases (tx : Nat) (meetingId : Uuid) (response : String) (now : Date) (env : Environment)
    (s : Store) :
    (∃ error, perform (.completeAction tx meetingId response now) env s = (.error error, s)) ∨
      ∃ t, s.find tx = some t ∧ (perform (.completeAction tx meetingId response now) env s = (.ok 0, s) ∨
        ∃ count, count ≠ 0 ∧ s.isFree tx (.action meetingId) = true ∧
          (∃ action ∈ (t.written s.committed).actions,
            action.meetingId = meetingId ∧ action.status ≠ .completed) ∧
          perform (.completeAction tx meetingId response now) env s =
            (.ok count, s.update tx [.action meetingId] fun d => d.completeAction meetingId response now)) := by
  rw [perform]
  rcases within_cases with ⟨error, is⟩ | ⟨t, found, is⟩
  · exact .inl ⟨error, is⟩
  · rw [is]
    dsimp only
    split
    · exact .inr ⟨t, found, .inl rfl⟩
    · rename_i some
      split
      · exact .inl ⟨_, rfl⟩
      · rename_i free
        refine .inr ⟨t, found, .inr ⟨_, some, Bool.eq_true_of_not_eq_false free, ?_, rfl⟩⟩
        obtain ⟨action, mem⟩ := List.exists_mem_of_length_pos (Nat.pos_of_ne_zero some)
        obtain ⟨mem, own⟩ := List.mem_filter.mp mem
        exact ⟨action, mem, of_decide_eq_true own⟩

/-- The update of a meeting is refused, or it locks the meeting that it finds. -/
lemma updateMeeting_cases (tx : Nat) (meetingId : Uuid) (response : String) (env : Environment) (s : Store) :
    (∃ error, perform (.updateMeeting tx meetingId response) env s = (.error error, s)) ∨
      ∃ t m, s.find tx = some t ∧
        ((t.written s.committed).setBrief meetingId response).meeting? meetingId = some m ∧
        s.isFree tx (.meeting meetingId) = true ∧
        perform (.updateMeeting tx meetingId response) env s =
          (.ok ((t.written s.committed).withAction m),
            s.update tx [.meeting meetingId] fun d => d.setBrief meetingId response) := by
  rw [perform]
  rcases within_cases with ⟨error, is⟩ | ⟨t, found, is⟩
  · exact .inl ⟨error, is⟩
  · rw [is]
    dsimp only
    split
    · exact .inl ⟨_, rfl⟩
    · rename_i m here
      split
      · exact .inl ⟨_, rfl⟩
      · rename_i free
        exact .inr ⟨t, m, found, here, Bool.eq_true_of_not_eq_false free, rfl⟩

lemma does_perform {o : Operation} (allowed : Allowed x o) : Does x s (perform o env s).2 := by
  cases o with
  | now | getWorkspaceMembership | findProject | findMeetingByTitle | findMeeting | listMeetings => exact .kept
  | createMeeting workspaceId input prompt =>
    rcases insertMeeting_cases with ⟨error, is⟩ | ⟨m, action, insertable, is⟩
    · show Does x s (insertMeeting _ _ _ _ _).2
      rw [is]
      exact .kept
    · show Does x s (insertMeeting _ _ _ _ _).2
      rw [is]
      exact .wrote ⟨m, action, insertable, rfl⟩
  | begin => exact .begin
  | findMeetingIn tx meetingId => exact .within fun t found => .kept
  | completeAction tx meetingId response now =>
    have own : x.stage = .opened tx := allowed.1
    have inside : x.stage.tx? = some tx := by
      rw [own]
      rfl
    rcases completeAction_cases tx meetingId response now env s with
      ⟨error, is⟩ | ⟨t, found, is | ⟨count, some, free, -, is⟩⟩
    · rw [is]
      exact .kept
    · rw [is]
      exact .kept
    · rw [is]
      dsimp only
      exact .took inside free
  | updateMeeting tx meetingId response =>
    obtain ⟨now, own⟩ : ∃ now, x.stage = .completing tx meetingId response now := allowed
    have inside : x.stage.tx? = some tx := by
      rw [own]
      rfl
    rcases updateMeeting_cases tx meetingId response env s with ⟨error, is⟩ | ⟨t, m, found, -, free, is⟩
    · rw [is]
      exact .kept
    · rw [is]
      dsimp only
      exact .took inside free
  | commit tx =>
    obtain ⟨own, final⟩ : x.stage.tx? = some tx ∧ x.stage.Final := allowed
    exact .finish own final
  | rollback tx => exact .ended
  | expire tx => exact .ended

/-- The action of a meeting that has no brief is completed in a transaction. -/
lemma own_completeAction {now : Date} (related : Related initial x s) (own : x.stage = .opened tx)
    (valid : ValidBrief response) :
    Related initial (note (.completeAction tx meetingId response now)
        (perform (.completeAction tx meetingId response now) env s).1 x)
      (perform (.completeAction tx meetingId response now) env s).2 := by
  have does : Does x s (perform (.completeAction tx meetingId response now) env s).2 :=
    does_perform ⟨own, valid⟩
  have known := related.opened tx (by rw [own]; rfl)
  rw [own] at known
  rcases completeAction_cases tx meetingId response now env s with
    ⟨error, is⟩ | ⟨t, found, is | ⟨count, ne, free, ⟨action, mem, rfl, incomplete⟩, is⟩⟩
  · rw [is]
    exact related
  · rw [is]
    exact related
  · have unwritten : t.written s.committed = s.committed := known.2 t found _
    rw [unwritten] at mem
    have fresh := Tables.isFresh_of_action related.consistent mem incomplete
    rw [is] at does ⊢
    show Related initial (if count = 0 then x else _) _
    rw [if_neg ne]
    apply does.stays related (.completing tx action.meetingId response now)
    intro tx' same
    cases same
    refine known.update fun t unwritten => ⟨⟨List.mem_cons_self, fresh, valid⟩, fun d => ?_⟩
    show Tables.completeAction (t.written d) _ _ _ = _
    rw [unwritten]

/-- The meeting is completed with its action. -/
lemma own_updateMeeting {now : Date} (related : Related initial x s)
    (own : x.stage = .completing tx meetingId response now) :
    Related initial (note (.updateMeeting tx meetingId response)
        (perform (.updateMeeting tx meetingId response) env s).1 x)
      (perform (.updateMeeting tx meetingId response) env s).2 := by
  have does : Does x s (perform (.updateMeeting tx meetingId response) env s).2 := does_perform ⟨now, own⟩
  have known := related.opened tx (by rw [own]; rfl)
  rw [own] at known
  rcases updateMeeting_cases tx meetingId response env s with ⟨error, is⟩ | ⟨t, m, found, -, free, is⟩
  · rw [is]
    exact related
  · rw [is] at does ⊢
    have stage : x.stage.update = .updated tx meetingId response now := by
      rw [own]
      rfl
    show Related initial { x with stage := x.stage.update } _
    rw [stage]
    apply does.stays related
    intro tx' same
    cases same
    refine known.update fun t holds => ?_
    obtain ⟨completes, written⟩ := holds
    refine ⟨⟨List.mem_append_right _ completes.locked, completes.fresh, completes.valid⟩, fun d => ?_⟩
    show Tables.setBrief (t.written d) _ _ = _
    rw [written]
    rfl

/-- What the transaction has stored is there from its commit on. -/
lemma own_commit (related : Related initial x s) (own : x.stage.tx? = some tx) (final : x.stage.Final) :
    Related initial (note (.commit tx) (perform (.commit tx) env s).1 x) (perform (.commit tx) env s).2 := by
  have does : Does x s (perform (.commit tx) env s).2 := does_perform ⟨own, final⟩
  rw [perform] at does ⊢
  rcases finish_cases with ⟨error, is⟩ | ⟨t, found, is⟩
  · rw [is]
    exact does.stays related .idle nofun
  · rw [is] at does ⊢
    refine does.advances related nofun ?_ fun _ _ _ => .inl rfl
    intro meetingId response is
    have holds := (related.opened tx own).2 t found
    cases at_stage : x.stage with
    | idle | completing =>
      rw [at_stage] at final
      exact final.elim
    | opened =>
      left
      show x.seen = x.stage.brief?.or x.seen
      rw [at_stage]
      rfl
    | updated tx' meetingId' response' now =>
      right
      have is : x.stage.brief?.or x.seen = some (meetingId, response) := is
      rw [at_stage] at is holds
      cases is
      obtain ⟨⟨-, ⟨m, action, here, -⟩, -⟩, written⟩ := holds
      rw [commit_some found]
      show HasBrief (t.written s.committed) _ _
      rw [written]
      have own' : m.id = meetingId := Table.lookup_key here
      exact ⟨_, Tables.mem_complete_self (Table.lookup_mem here) own', own', rfl⟩

/-- A meeting has been read. -/
lemma Related.read {m : Meeting} (related : Related initial x s) (mem : m ∈ s.committed.meetings) :
    Related initial { x with seen := briefOf m } s := by
  refine { related with seen := fun meetingId response is => ?_ }
  obtain ⟨response', brief, same⟩ := Option.map_eq_some_iff.mp is
  cases same
  exact ⟨m, mem, rfl, brief⟩

/-- A meeting of a title has been found. -/
lemma Related.finds {m : Meeting} (related : Related initial x s) (mem : m ∈ s.committed.meetings) :
    Related initial { x with made := some (m.slot, m.id) } s := by
  refine { related with made := fun slot meetingId is => ?_ }
  cases is
  exact ⟨m, mem, rfl, rfl⟩

lemma own_step {o : Operation} (allowed : Allowed x o) (related : Related initial x s) :
    Related initial (book o env s x) (perform o env s).2 := by
  cases o with
  | now | getWorkspaceMembership | findProject | listMeetings => exact related
  | createMeeting workspaceId input prompt =>
    unfold book
    show Related initial
      (note (.createMeeting workspaceId input prompt) (insertMeeting workspaceId input prompt env s).1 x)
      (insertMeeting workspaceId input prompt env s).2
    rcases insertMeeting_cases with ⟨error, is⟩ | ⟨m, action, insertable, is⟩
    · rw [is]
      exact related
    · rw [is]
      have does : Does x s { s with committed := s.committed.insert m action } :=
        .wrote ⟨m, action, insertable, rfl⟩
      have stays := does.stays related x.stage fun tx own => by
        obtain ⟨given, known⟩ := related.opened tx own
        exact ⟨given, fun t found => holds_insert (known t found)⟩
      cases answer : env.fate.answer (m, some action) with
      | error error => exact stays
      | ok made =>
        cases Fate.answer_ok answer
        exact stays.finds (List.mem_append_right _ (List.mem_singleton.mpr rfl))
  | findMeetingByTitle workspaceId title =>
    unfold book
    rw [perform]
    cases answer : env.fate.answer ((s.committed.meetings.find? fun m => m.slot = (workspaceId, title)).map
      s.committed.withAction) with
    | error error => exact related
    | ok found =>
      cases found with
      | none => exact related
      | some meeting =>
        obtain ⟨m, here, rfl⟩ := Option.map_eq_some_iff.mp (Fate.answer_ok answer).symm
        exact related.finds (List.mem_of_find?_eq_some here)
  | findMeeting meetingId =>
    unfold book
    rw [perform]
    cases answer : env.fate.answer ((s.committed.meeting? meetingId).map s.committed.withAction) with
    | error error => exact related
    | ok found =>
      cases found with
      | none => exact related
      | some meeting =>
        obtain ⟨m, here, rfl⟩ := Option.map_eq_some_iff.mp (Fate.answer_ok answer).symm
        exact related.read (Table.lookup_mem here)
  | begin =>
    unfold book
    rw [perform]
    rcases begin_cases with ⟨error, is | is⟩ | is
    · rw [is]
      exact related
    · rw [is]
      exact Does.stays .started related x.stage fun tx own => (related.opened tx own).start
    · rw [is]
      apply Does.stays .started related (.opened s.next)
      intro tx own
      cases own
      refine related.sound.started.mono fun t is => ?_
      rw [is]
      exact fun _ => rfl
  | findMeetingIn tx meetingId =>
    have own : x.stage = .opened tx := allowed
    have known := related.opened tx (by rw [own]; rfl)
    rw [own] at known
    unfold book
    rw [perform]
    rcases within_cases with ⟨error, is⟩ | ⟨t, found, is⟩
    · rw [is]
      exact related
    · rw [is]
      have unwritten : t.written s.committed = s.committed := known.2 t found _
      dsimp only
      rw [unwritten]
      cases here : s.committed.meeting? meetingId with
      | none => exact related
      | some m =>
        exact related.read (Table.lookup_mem here)
  | completeAction tx meetingId response now => exact own_completeAction related allowed.1 allowed.2
  | updateMeeting tx meetingId response =>
    obtain ⟨now, own⟩ : ∃ now, x.stage = .completing tx meetingId response now := allowed
    exact own_updateMeeting related own
  | commit tx => exact own_commit related allowed.1 allowed.2
  | rollback tx => exact Does.stays .ended related .idle nofun
  | expire tx =>
    apply Does.stays .ended related x.stage
    intro tx' own
    exact (related.opened tx' own).close

/-- A request keeps the transaction that it has or gives it up, unless it begins one. -/
lemma note_tx? {o : Operation} {answer : Except Failure o.Answer} (allowed : Allowed x o) (other : o ≠ .begin)
    (own : (note o answer x).stage.tx? = some tx) : x.stage.tx? = some tx := by
  cases answer with
  | error error =>
    cases o with
    | commit | rollback => cases own
    | _ => exact own
  | ok a =>
    cases o with
    | now | getWorkspaceMembership | findProject | createMeeting | listMeetings | expire => exact own
    | findMeetingByTitle | findMeeting | findMeetingIn =>
      cases a with
      | none => exact own
      | some meeting => exact own
    | begin => exact absurd rfl other
    | completeAction tx' meetingId response now =>
      have at_stage : x.stage = .opened tx' := allowed.1
      have own : (if a = 0 then x else _ : Account).stage.tx? = some tx := own
      split at own
      · exact own
      · rw [at_stage]
        exact own
    | updateMeeting tx' meetingId response =>
      obtain ⟨now, at_stage⟩ : ∃ now, x.stage = .completing tx' meetingId response now := allowed
      have own : x.stage.update.tx? = some tx := own
      rw [at_stage] at own ⊢
      exact own
    | commit | rollback => cases own

lemma book_tx? {o : Operation} (allowed : Allowed x o) (own : (book o env s x).stage.tx? = some tx) :
    x.stage.tx? = some tx ∨ tx = s.next := by
  by_cases begins : o = .begin
  · subst begins
    unfold book at own
    rw [perform] at own
    rcases begin_cases with ⟨error, is | is⟩ | is <;> rw [is] at own
    · exact .inl own
    · exact .inl own
    · cases own
      exact .inr rfl
  · exact .inl (note_tx? allowed begins own)

/-- Requests are kept apart. -/
lemma owned (s₀ : Store) (sound : Sound s₀) (consistent : s₀.committed.Consistent) :
    meetingSystem.Owned book Allowed (Related s₀.committed) Apart {} s₀ where
  empty := ⟨sound, consistent, .refl, nofun, nofun, nofun⟩
  symm x y apart tx own own' := apart tx own' own
  fresh x tx own := nofun
  own o env s x allowed related := own_step allowed related
  others o env s x y allowed related related' apart := by
    have does : Does x s (perform o env s).2 := does_perform allowed
    refine ⟨does.related_other related related' apart, fun tx own own' => ?_⟩
    rcases book_tx? allowed own with before | rfl
    · exact apart tx before own'
    · exact Nat.lt_irrefl _ (related'.opened _ own').1

end Calls

section Programs
variable {initial : Tables} {tx : Nat} {meetingId userId workspaceId : Uuid} {response : String} {now : Date}

/-- The judgement by the accounts. -/
abbrev accounts (initial : Tables) : Judgement Operation (fun o => Except Failure o.Answer) Account :=
  meetingSystem.accounted book Allowed (Related initial)

/-- A call by what it answers. -/
lemma triple_call {P : Account → Prop} (o : Operation) {Q : o.Answer → Account → Prop}
    {E : Failure → Account → Prop} (Fact : o.Answer → Prop) (allowed : ∀ x, P x → Allowed x o)
    (answers : ∀ env s a, (perform o env s).1 = .ok a → Fact a)
    (onOk : ∀ a x, Fact a → P x → Q a (note o (.ok a) x)) (onError : ∀ e x, P x → E e (note o (.error e) x)) :
    Triple (accounts initial) P (call o) Q E := by
  apply Triple.invoke
  intro x holds
  refine ⟨allowed x holds, fun env s _ => ?_⟩
  show Outcome (fun a => Q a (note o (perform o env s).1 x)) (fun e => E e (note o (perform o env s).1 x))
    (perform o env s).1
  cases answer : (perform o env s).1 with
  | ok a => exact onOk a x (answers env s a answer) holds
  | error e => exact onError e x holds

/-- A call of which nothing is to be known. -/
lemma triple_any {P : Account → Prop} (o : Operation) (allowed : ∀ x, P x → Allowed x o) :
    Triple (accounts initial) P (call o) (fun _ _ => True) fun _ _ => True :=
  triple_call o (fun _ => True) allowed (fun _ _ _ _ => trivial) (fun _ _ _ _ => trivial) fun _ _ _ => trivial

/-- A meeting that is found is the one that was asked for. -/
lemma answers_findMeeting {env : Environment} {s : Store} {found : Option MeetingWithAction}
    (is : (perform (.findMeeting meetingId) env s).1 = .ok found) : ∀ m ∈ found, m.1.id = meetingId := by
  intro m mem
  rw [perform] at is
  obtain rfl := Fate.answer_ok is
  obtain ⟨m', here, rfl⟩ := Option.map_eq_some_iff.mp mem
  exact Table.lookup_key here

lemma answers_findMeetingIn {env : Environment} {s : Store} {found : Option MeetingWithAction}
    (is : (perform (.findMeetingIn tx meetingId) env s).1 = .ok found) : ∀ m ∈ found, m.1.id = meetingId := by
  intro m mem
  rw [perform] at is
  rcases within_cases with ⟨error, refused⟩ | ⟨t, here, carried⟩
  · rw [refused] at is
    cases is
  · rw [carried] at is
    cases is
    obtain ⟨m', here, rfl⟩ := Option.map_eq_some_iff.mp mem
    exact Table.lookup_key here

/-- A meeting that is updated has the brief. -/
lemma answers_updateMeeting {env : Environment} {s : Store} {m : MeetingWithAction}
    (is : (perform (.updateMeeting tx meetingId response) env s).1 = .ok m) :
    m.1.id = meetingId ∧ m.1.meetingBrief = some response := by
  rcases updateMeeting_cases tx meetingId response env s with ⟨error, refused⟩ | ⟨t, m', -, here, -, carried⟩
  · rw [refused] at is
    cases is
  · rw [carried] at is
    cases is
    refine ⟨Table.lookup_key here, ?_⟩
    have updated : ((t.written s.committed).setBrief meetingId response).meeting? meetingId =
        ((t.written s.committed).meeting? meetingId).map fun m =>
          if true = true then Tables.withBrief m response else m := Table.lookup_update fun _ own => own
    rw [here] at updated
    obtain ⟨m, -, rfl⟩ := Option.map_eq_some_iff.mp updated.symm
    rfl

lemma answers_createMeeting {input : CreateMeetingInput} {prompt : String} {env : Environment} {s : Store}
    {m : MeetingWithAction} (is : (perform (.createMeeting workspaceId input prompt) env s).1 = .ok m) :
    m.1.slot = (workspaceId, input.title) := by
  have is : (insertMeeting workspaceId input prompt env s).1 = .ok m := is
  unfold insertMeeting at is
  split at is
  · cases is
  · dsimp only at is
    split at is
    · cases is
    · rw [Fate.answer_ok is]
      rfl
  · dsimp only at is
    split at is
    · cases is
    · rw [Fate.answer_ok is]
      rfl

lemma answers_findMeetingByTitle {title : String} {env : Environment} {s : Store}
    {found : Option MeetingWithAction}
    (is : (perform (.findMeetingByTitle workspaceId title) env s).1 = .ok found) :
    ∀ m ∈ found, m.1.slot = (workspaceId, title) := by
  intro m mem
  rw [perform] at is
  obtain rfl := Fate.answer_ok is
  obtain ⟨m', here, rfl⟩ := Option.map_eq_some_iff.mp mem
  have same := List.find?_some here
  exact of_decide_eq_true same

/-- The record of a meeting, which has its action. -/
lemma triple_toMeetingRecord {m : MeetingWithAction} {P : Account → Prop} :
    Triple (accounts initial) P (toMeetingRecord m) (fun record x => record.meeting = m.1 ∧ P x)
      fun _ => P := by
  obtain ⟨meeting, action⟩ := m
  cases action with
  | some action => exact .pure fun _ holds => ⟨rfl, holds⟩
  | none => exact .throw fun _ holds => holds

/-- The request is in its transaction. -/
def InTransaction (tx : Nat) (x : Account) : Prop :=
  x.stage.tx? = some tx

lemma inTransaction_of {stage : Stage} (own : stage.tx? = some tx) {x : Account} (is : x.stage = stage) :
    InTransaction tx x := by
  unfold InTransaction
  rw [is]
  exact own

/-- A meeting as it has been read. -/
def Read (meetingId : Uuid) (record : MeetingRecord) (x : Account) : Prop :=
  record.meeting.id = meetingId ∧ x.seen = briefOf record.meeting

/-- What the transaction is about to answer. -/
def Promises (tx : Nat) (meetingId : Uuid) (response : String) : CompleteMeetingBriefResult → Account → Prop
  | .notFound, x => x.stage = .opened tx
  | .alreadyCompleted record, x => x.stage = .opened tx ∧ Read meetingId record x
  | .ok record, x => (record.meeting.id = meetingId ∧ record.meeting.meetingBrief = some response) ∧
    ∃ now, x.stage = .updated tx meetingId response now

/-- What it has answered. -/
def Answered (meetingId : Uuid) (response : String) : CompleteMeetingBriefResult → Account → Prop
  | .notFound, _ => True
  | .alreadyCompleted record, x => Read meetingId record x
  | .ok record, x => record.meeting.meetingBrief = some response ∧ Read meetingId record x

lemma triple_findMeetingIn : Triple (accounts initial) (fun x => x.stage = .opened tx)
    (call (.findMeetingIn tx meetingId))
    (fun found x => x.stage = .opened tx ∧ ∀ m ∈ found, m.1.id = meetingId ∧ x.seen = briefOf m.1)
    fun _ => InTransaction tx := by
  apply triple_call (.findMeetingIn tx meetingId) (fun found => ∀ m ∈ found, m.1.id = meetingId)
    (fun _ own => own)
    (fun env s a is => answers_findMeetingIn is)
  · intro found x fact own
    cases found with
    | none => exact ⟨own, nofun⟩
    | some m =>
      refine ⟨own, fun m' mem => ?_⟩
      cases mem
      exact ⟨fact m rfl, rfl⟩
  · exact fun _ x own => inTransaction_of rfl own

lemma triple_completeIn (valid : ValidBrief response) :
    Triple (accounts initial) (fun x => x.stage = .opened tx) (completeIn meetingId response now tx)
      (Promises tx meetingId response) fun _ => InTransaction tx := by
  unfold completeIn
  apply Triple.bind triple_findMeetingIn
  intro current
  match current with
  | none | some (_, none) => exact .pure fun _ holds => holds.1
  | some (meeting, some oliviaAction) =>
    dsimp only
    split
    · exact .pure fun x holds => ⟨holds.1, holds.2 _ rfl⟩
    apply Triple.bind (R := fun count x =>
      if count = 0 then x.stage = .opened tx else x.stage = .completing tx meetingId response now)
    · apply triple_call (.completeAction tx meetingId response now) (fun _ => True)
        (fun x holds => ⟨holds.1, valid⟩) (fun _ _ _ _ => trivial)
      · intro count x _ holds
        show if count = 0 then (if count = 0 then x else _ : Account).stage = _ else
          (if count = 0 then x else _ : Account).stage = _
        split
        · exact holds.1
        · rfl
      · exact fun _ x holds => inTransaction_of rfl holds.1
    intro count
    split
    · apply Triple.bind (R := fun found x => x.stage = .opened tx ∧
        ∀ m ∈ found, m.1.id = meetingId ∧ x.seen = briefOf m.1)
      · exact triple_findMeetingIn
      intro raced
      cases raced with
      | none => exact .throw fun x holds => inTransaction_of rfl holds.1
      | some raced =>
        apply Triple.bind (triple_toMeetingRecord.mono (fun _ holds => holds) (fun _ _ holds => holds)
          fun _ x holds => inTransaction_of rfl holds.1)
        intro record
        apply Triple.pure
        intro x holds
        obtain ⟨same, own, read⟩ := holds
        obtain ⟨id, seen⟩ := read raced rfl
        rw [← same] at id seen
        exact ⟨own, id, seen⟩
    · apply Triple.bind (R := fun m x => (m.1.id = meetingId ∧ m.1.meetingBrief = some response) ∧
        ∃ now, x.stage = .updated tx meetingId response now)
      · apply triple_call (.updateMeeting tx meetingId response)
          (fun m => m.1.id = meetingId ∧ m.1.meetingBrief = some response) (fun x own => ⟨now, own⟩)
          (fun _ _ _ is => answers_updateMeeting is)
        · intro m x fact own
          refine ⟨fact, now, ?_⟩
          show x.stage.update = _
          rw [own]
          rfl
        · exact fun _ x own => inTransaction_of rfl own
      intro m
      apply Triple.bind (triple_toMeetingRecord.mono (fun _ holds => holds) (fun _ _ holds => holds)
        fun _ x holds => inTransaction_of rfl holds.2.choose_spec)
      intro record
      apply Triple.pure
      intro x holds
      obtain ⟨same, fact, stage⟩ := holds
      rw [← same] at fact
      exact ⟨fact, stage⟩

lemma triple_completeMeetingBriefAction (valid : ValidBrief response) :
    Triple (accounts initial) (fun _ => True) (completeMeetingBriefAction meetingId response now)
      (Answered meetingId response) fun _ _ => True := by
  apply Triple.inTransaction (fun tx x => x.stage = .opened tx) (fun tx => InTransaction tx)
    fun tx => Promises tx meetingId response
  · exact triple_call .begin (fun _ => True) (fun _ _ => trivial) (fun _ _ _ _ => trivial)
      (fun _ _ _ _ => rfl) fun _ _ _ => trivial
  · exact fun tx => triple_completeIn valid
  · exact fun tx error => triple_any (.rollback tx) fun _ own => own
  · intro tx result
    have final (x : Account) (promises : Promises tx meetingId response result x) :
        x.stage.tx? = some tx ∧ x.stage.Final := by
      cases result with
      | notFound => exact ⟨inTransaction_of rfl promises, by rw [promises]; trivial⟩
      | alreadyCompleted record => exact ⟨inTransaction_of rfl promises.1, by rw [promises.1]; trivial⟩
      | ok record =>
        obtain ⟨-, now, stage⟩ := promises
        exact ⟨inTransaction_of rfl stage, by rw [stage]; trivial⟩
    apply triple_call (.commit tx) (fun _ => True) final (fun _ _ _ _ => trivial) _ fun _ _ _ => trivial
    intro _ x _ promises
    cases result with
    | notFound => trivial
    | alreadyCompleted record =>
      obtain ⟨stage, id, seen⟩ := promises
      refine ⟨id, ?_⟩
      show x.stage.brief?.or x.seen = _
      rw [stage]
      exact seen
    | ok record =>
      obtain ⟨⟨id, brief⟩, now, stage⟩ := promises
      refine ⟨brief, id, ?_⟩
      show x.stage.brief?.or x.seen = record.meeting.meetingBrief.map _
      rw [stage, brief, id]
      rfl

lemma triple_getMeetingAccess : Triple (accounts initial) (fun _ => True) (getMeetingAccess userId meetingId)
    (fun access x => ∀ record ∈ access, Read meetingId record x) fun _ _ => True := by
  unfold getMeetingAccess
  apply Triple.bind (R := fun found x => ∀ m ∈ found, m.1.id = meetingId ∧ x.seen = briefOf m.1)
  · apply triple_call (.findMeeting meetingId) (fun found => ∀ m ∈ found, m.1.id = meetingId)
      (fun _ _ => trivial) (fun _ _ _ is => answers_findMeeting is) _ fun _ _ _ => trivial
    intro found x fact _
    cases found with
    | none => exact nofun
    | some m =>
      intro m' mem
      cases mem
      exact ⟨fact m rfl, rfl⟩
  intro found
  cases found with
  | none => exact .pure fun _ _ => nofun
  | some m =>
    apply Triple.bind (R := fun _ x => m.1.id = meetingId ∧ x.seen = briefOf m.1)
    · exact triple_call (.getWorkspaceMembership userId m.1.workspaceId) (fun _ => True) (fun _ _ => trivial)
        (fun _ _ _ _ => trivial) (fun _ _ _ holds => holds m rfl) fun _ _ _ => trivial
    intro membership
    cases membership with
    | none => exact .pure fun _ _ => nofun
    | some role =>
      apply Triple.bind (triple_toMeetingRecord.mono (fun _ holds => holds) (fun _ _ holds => holds)
        fun _ _ _ => trivial)
      intro record
      apply Triple.pure
      intro x holds record' mem
      cases mem
      unfold Read
      rw [holds.1]
      exact holds.2

/-- The brief of a meeting is the response, and it was stored when it was answered. -/
def Stored (meetingId : Uuid) (response : String) (record : MeetingRecord) (x : Account) : Prop :=
  (record.meeting.id = meetingId ∧ record.meeting.meetingBrief = some response ∧ ValidBrief response) ∧
    x.seen = some (meetingId, response)

lemma Read.stored {record : MeetingRecord} {x : Account} (read : Read meetingId record x)
    (is : record.meeting.meetingBrief = some response) (valid : ValidBrief response) :
    Stored meetingId response record x := by
  refine ⟨⟨read.1, is, valid⟩, ?_⟩
  rw [read.2, briefOf, is, read.1]
  rfl

lemma triple_completeMeetingBriefRoute : Triple (accounts initial) (fun _ => True)
    (completeMeetingBriefRoute userId meetingId response)
    (fun record => Stored meetingId (Utf16.trimString response) record) fun _ _ => True := by
  unfold completeMeetingBriefRoute
  apply Triple.bind triple_getMeetingAccess
  intro access
  cases access with
  | none => exact .throw fun _ _ => trivial
  | some access =>
    dsimp only
    split
    · rename_i normalized passes is
      obtain ⟨rfl, valid⟩ := validate_valid passes is
      split
      · split
        · rename_i same
          exact .pure fun x holds => (holds access rfl).stored same valid
        · exact .throw fun _ _ => trivial
      · apply Triple.bind (R := fun _ _ => True)
        · exact triple_any .now fun _ _ => trivial
        intro now
        apply Triple.bind (triple_completeMeetingBriefAction valid)
        intro result
        cases result with
        | notFound => exact .throw fun _ _ => trivial
        | alreadyCompleted record =>
          dsimp only
          split
          · exact .throw fun _ _ => trivial
          · rename_i same
            exact .pure fun x read => Read.stored read (not_not.mp same) valid
        | ok record => exact .pure fun x holds => holds.2.stored holds.1 valid
    · exact .throw fun _ _ => trivial

/-- The meeting of a title, which was there when it was answered. -/
def Made (slot : Uuid × String) (record : MeetingRecord) (x : Account) : Prop :=
  record.meeting.slot = slot ∧ x.made = some (slot, record.meeting.id)

lemma triple_toMeetingRecord_made {m : MeetingWithAction} {slot : Uuid × String} :
    Triple (accounts initial) (fun x => m.1.slot = slot ∧ x.made = some (m.1.slot, m.1.id))
      (do
        let record ← toMeetingRecord m
        pure (some record))
      (fun result x => ∀ record ∈ result, Made slot record x) fun _ _ => True := by
  apply Triple.bind (triple_toMeetingRecord.mono (fun _ holds => holds) (fun _ _ holds => holds)
    fun _ _ _ => trivial)
  intro record
  apply Triple.pure
  intro x holds record' mem
  cases mem
  unfold Made
  rw [holds.1]
  exact ⟨holds.2.1, holds.2.1 ▸ holds.2.2⟩

lemma triple_createOrFind {input : CreateMeetingInput} {prompt : String} :
    Triple (accounts initial) (fun _ => True) (createOrFind workspaceId input prompt)
      (fun result x => ∀ record ∈ result, Made (workspaceId, input.title) record x) fun _ _ => True := by
  apply Triple.tryCatch (R := fun _ _ => True)
  · apply Triple.bind (R := fun m x => m.1.slot = (workspaceId, input.title) ∧
      x.made = some (m.1.slot, m.1.id))
    · exact triple_call (.createMeeting workspaceId input prompt)
        (fun m => m.1.slot = (workspaceId, input.title)) (fun _ _ => trivial)
        (fun _ _ _ is => answers_createMeeting is) (fun _ _ fact _ => ⟨fact, rfl⟩) fun _ _ _ => trivial
    · exact fun m => triple_toMeetingRecord_made
  · intro error
    split
    · apply Triple.bind (R := fun found x => ∀ m ∈ found, m.1.slot = (workspaceId, input.title) ∧
        x.made = some (m.1.slot, m.1.id))
      · apply triple_call (.findMeetingByTitle workspaceId input.title)
          (fun found => ∀ m ∈ found, m.1.slot = (workspaceId, input.title)) (fun _ _ => trivial)
          (fun _ _ _ is => answers_findMeetingByTitle is) _ fun _ _ _ => trivial
        intro found x fact _
        cases found with
        | none => exact nofun
        | some m =>
          intro m' mem
          cases mem
          exact ⟨fact m rfl, rfl⟩
      intro found
      cases found with
      | none => exact .throw fun _ _ => trivial
      | some m =>
        exact triple_toMeetingRecord_made.mono (fun x holds => holds m rfl) (fun _ _ holds => holds)
          fun _ _ _ => trivial
    · exact .throw fun _ _ => trivial

lemma triple_createMeeting {input : CreateMeetingInput} {prompt : String} :
    Triple (accounts initial) (fun _ => True) (createMeeting workspaceId input prompt)
      (fun result x => ∀ record ∈ result, Made (workspaceId, input.title) record x) fun _ _ => True := by
  have known (project : Bool) : Triple (accounts initial) (fun _ => True)
      (if project = false then pure none else createOrFind workspaceId input prompt)
      (fun result x => ∀ record ∈ result, Made (workspaceId, input.title) record x) fun _ _ => True := by
    split
    · exact .pure fun _ _ => nofun
    · exact triple_createOrFind
  unfold createMeeting
  dsimp only
  split
  · exact .bind (R := fun _ _ => True) (.pure fun _ _ => trivial) known
  · rename_i projectId _
    apply Triple.bind (R := fun _ _ => True) _ known
    exact triple_any (.findProject workspaceId projectId) fun _ _ => trivial

lemma triple_createMeetingRoute {body : CreateMeetingInput} :
    Triple (accounts initial) (fun _ => True) (createMeetingRoute userId workspaceId body)
      (fun record => Made (workspaceId, body.title) record) fun _ _ => True := by
  unfold createMeetingRoute
  apply Triple.bind (R := fun _ _ => True)
  · exact triple_any (.getWorkspaceMembership userId workspaceId) fun _ _ => trivial
  intro membership
  cases membership with
  | none => exact .throw fun _ _ => trivial
  | some role =>
    apply Triple.bind triple_createMeeting
    intro result
    cases result with
    | none => exact .throw fun _ _ => trivial
    | some record => exact .pure fun _ holds => holds record rfl

/-- How an activity is left. -/
def LeftWith : Activity → Except Failure (List MeetingRecord) → Account → Prop
  | .creation _ workspaceId body, .ok ms, x => ∃ record, ms = [record] ∧ Made (workspaceId, body.title) record x
  | .completion _ meetingId response, .ok ms, x =>
    ∃ record, ms = [record] ∧ Stored meetingId (Utf16.trimString response) record x
  | _, _, _ => True

lemma triple_listing : Triple (accounts initial) (fun _ => True) (listMeetingsRoute userId workspaceId)
    (fun _ _ => True) fun _ _ => True := by
  have records (ms : List MeetingWithAction) : Triple (accounts initial) (fun _ => True)
      (ms.mapM' toMeetingRecord) (fun _ _ => True) fun _ _ => True := by
    induction ms with
    | nil => exact .pure fun _ _ => trivial
    | cons m ms ih =>
      apply Triple.bind (triple_toMeetingRecord.mono (fun _ _ => trivial) (fun _ _ _ => trivial)
        fun _ _ _ => trivial)
      exact fun _ => .bind ih fun _ => .pure fun _ _ => trivial
  unfold listMeetingsRoute
  apply Triple.bind (R := fun _ _ => True)
  · exact triple_any (.getWorkspaceMembership userId workspaceId) fun _ _ => trivial
  intro membership
  cases membership with
  | none => exact .throw fun _ _ => trivial
  | some role =>
    apply Triple.bind (R := fun _ _ => True) _ records
    exact triple_any (.listMeetings workspaceId) fun _ _ => trivial

lemma program_accounts (activity : Activity) :
    (meetingSystem.body activity).Satisfies (accounts initial) (LeftWith activity) {} := by
  have left {Q : List MeetingRecord → Account → Prop}
      (triple : Triple (accounts initial) (fun _ => True) activity.program Q fun _ _ => True)
      (imp : ∀ ms x, Q ms x → LeftWith activity (.ok ms) x) :
      (meetingSystem.body activity).Satisfies (accounts initial) (LeftWith activity) {} := by
    apply (triple {} trivial).mono
    intro r x holds
    cases r with
    | ok ms => exact imp ms x holds
    | error error =>
      cases activity with
      | creation | listing | completion | expiry => trivial
  cases activity with
  | creation userId workspaceId body =>
    refine left (.bind triple_createMeetingRoute fun record => .pure fun _ holds => ?_) fun _ _ holds => holds
    exact ⟨record, rfl, holds⟩
  | listing => exact left triple_listing fun _ _ _ => trivial
  | completion userId meetingId response =>
    refine left (.bind triple_completeMeetingBriefRoute fun record => .pure fun _ holds => ?_)
      fun _ _ holds => holds
    exact ⟨record, rfl, holds⟩
  | expiry tx =>
    apply left (Q := fun _ _ => True) _ fun _ _ _ => trivial
    apply Triple.bind (R := fun _ _ => True) _ fun _ => .pure fun _ _ => trivial
    exact triple_any (.expire tx) fun _ _ => trivial

end Programs

section Runs
variable {initial : Tables} {h : List (MeetingConfig × meetingSystem.Label)} {c : MeetingConfig}

/-- What requests lead to, from tables that are consistent, with nothing started. -/
abbrev Handled (initial : Tables) (h : List (MeetingConfig × meetingSystem.Label)) (c : MeetingConfig) : Prop :=
  meetingSystem.Traced meetingSystem.Unguarded ⟨{ committed := initial }, []⟩ h c

/-- A request has been answered, with meetings. -/
abbrev Answers (c : MeetingConfig) (i : Nat) (activity : Activity) (ms : List MeetingRecord) : Prop :=
  c.threads[i]? = some ⟨activity, .ret (.ok ms)⟩

/-- In tables that are consistent, a meeting has one brief, and a title one meeting. -/
lemma Tables.Consistent.brief_unique {d : Tables} {meetingId : Uuid} {response response' : String}
    (consistent : d.Consistent) (has : HasBrief d meetingId response) (has' : HasBrief d meetingId response') :
    response = response' := by
  obtain ⟨m, mem, rfl, is⟩ := has
  obtain ⟨m', mem', same, is'⟩ := has'
  have found := Tables.meeting?_of_mem consistent mem'
  rw [same, Tables.meeting?_of_mem consistent mem] at found
  cases found
  rw [is] at is'
  exact Option.some.inj is'

lemma Tables.Consistent.slot_unique {d : Tables} {slot : Uuid × String} {meetingId meetingId' : Uuid}
    (consistent : d.Consistent) (has : HasSlot d slot meetingId) (has' : HasSlot d slot meetingId') :
    meetingId = meetingId' := by
  obtain ⟨m, mem, rfl, rfl⟩ := has
  obtain ⟨m', mem', same, rfl⟩ := has'
  rw [List.inj_on_of_nodup_map consistent.slots mem mem' same.symm]

/-- However requests and the ends of transactions are interleaved: titles stay unique in a workspace, every
    meeting keeps its action, and both rows of a meeting have either no brief or the same valid one, which is
    never changed; a completion is answered only if the meeting has its response, so no two completions of a
    meeting with different responses are, and all creations of a title are answered the same meeting. -/
theorem one_brief (consistent : initial.Consistent) (handled : Handled initial h c) :
    c.store.committed.Consistent ∧
      (∀ entry ∈ h, entry.1.store.committed.Keeps c.store.committed) ∧
      (∀ i userId meetingId response ms, Answers c i (.completion userId meetingId response) ms →
        ∃ record, ms = [record] ∧ record.meeting.id = meetingId ∧
          record.meeting.meetingBrief = some (Utf16.trimString response) ∧
          HasBrief c.store.committed meetingId (Utf16.trimString response)) ∧
      (∀ i j userId userId' meetingId response response' ms ms',
        Answers c i (.completion userId meetingId response) ms →
        Answers c j (.completion userId' meetingId response') ms' →
          Utf16.trimString response = Utf16.trimString response') ∧
      ∀ i j userId userId' workspaceId body body' ms ms', body.title = body'.title →
        Answers c i (.creation userId workspaceId body) ms →
        Answers c j (.creation userId' workspaceId body') ms' →
          ∃ record record', ms = [record] ∧ ms' = [record'] ∧ record.meeting.id = record'.meeting.id := by
  have shared := handled.shared rfl (owned _ .empty consistent) program_accounts
  have store := (shared.related 0).consistent
  have completed (i : Nat) (userId meetingId : Uuid) (response : String) (ms : List MeetingRecord)
      (answers : Answers c i (.completion userId meetingId response) ms) : ∃ record, ms = [record] ∧
        record.meeting.id = meetingId ∧ record.meeting.meetingBrief = some (Utf16.trimString response) ∧
        HasBrief c.store.committed meetingId (Utf16.trimString response) := by
    obtain ⟨record, rfl, ⟨id, brief, -⟩, seen⟩ := shared.judged i _ answers
    exact ⟨record, rfl, id, brief, (shared.related i).seen _ _ seen⟩
  have created (i : Nat) (userId workspaceId : Uuid) (body : CreateMeetingInput) (ms : List MeetingRecord)
      (answers : Answers c i (.creation userId workspaceId body) ms) : ∃ record, ms = [record] ∧
        HasSlot c.store.committed (workspaceId, body.title) record.meeting.id := by
    obtain ⟨record, rfl, -, made⟩ := shared.judged i _ answers
    exact ⟨record, rfl, (shared.related i).made _ _ made⟩
  refine ⟨store, ?_, completed, ?_, ?_⟩
  · apply handled.kept (K := fun s s' => s.committed.Keeps s'.committed) (fun _ => .refl)
      (fun _ _ _ first second => first.trans second) _ rfl (owned _ .empty consistent) program_accounts
    exact fun o env s x allowed related => Does.keeps (does_perform allowed) related
  · intro i j userId userId' meetingId response response' ms ms' answers answers'
    obtain ⟨-, -, -, -, has⟩ := completed i userId meetingId response ms answers
    obtain ⟨-, -, -, -, has'⟩ := completed j userId' meetingId response' ms' answers'
    exact store.brief_unique has has'
  · intro i j userId userId' workspaceId body body' ms ms' same answers answers'
    obtain ⟨record, rfl, has⟩ := created i userId workspaceId body ms answers
    obtain ⟨record', rfl, has'⟩ := created j userId' workspaceId body' ms' answers'
    rw [← same] at has'
    exact ⟨record, record', rfl, rfl, store.slot_unique has has'⟩

section Scenario

/-- What is asked of the assistant. -/
def planning : CreateMeetingInput where
  title := "Planning"
  objective := "Choose the next step"
  expectedOutcome := "A decision"
  decisionQuestion := "What is next?"

/-- Two requests make a meeting of the same title: the statement of the second one finds the first one's. -/
def doubled : List meetingSystem.Move :=
  [.spawn (.creation 1 2 planning), .spawn (.creation 4 2 planning), .act 0 {}, .act 1 {}, .act 0 { id := 3 },
    .act 1 { id := 5 }, .act 1 {}]

/-- The meeting that both are answered. -/
def planned : MeetingRecord where
  meeting := { planning with id := 3, workspaceId := 2, createdAt := 0 }
  oliviaAction := { meetingId := 3, prompt := buildMeetingBriefPrompt planning }

theorem one_brief_doubled : ∃ (h : List (MeetingConfig × meetingSystem.Label)) (c : MeetingConfig),
    Handled {} h c ∧ Answers c 0 (.creation 1 2 planning) [planned] ∧
      Answers c 1 (.creation 4 2 planning) [planned] ∧ c.store.committed.Consistent := by
  have run : (meetingSystem.record ⟨{ committed := {} }, []⟩ doubled).any (fun r =>
      System.answered r.2 0 = some (.creation 1 2 planning, [planned]) &&
        System.answered r.2 1 = some (.creation 4 2 planning, [planned])) = true := by
    decide +kernel
  obtain ⟨h, c, handled, ends⟩ := System.exists_traced run
  obtain ⟨first, second⟩ := Bool.and_eq_true_iff.mp ends
  have consistent : ({} : Tables).Consistent := ⟨List.nodup_nil, List.nodup_nil, rfl, nofun⟩
  have brief := one_brief consistent handled
  exact ⟨h, c, handled, System.thread_of_answered (of_decide_eq_true first), System.thread_of_answered (of_decide_eq_true second), brief.1⟩

end Scenario
end Runs

end AtomsPlatform.Meetings
