import AtomsPlatform.Tenancy.Onboarding

/-!
# One personal workspace for each user

However requests and the ends of transactions are interleaved, a user who has no workspace gets at most one
(`personal_workspace_once`): the transaction that makes it holds the user's lock from before it looks for a
workspace until its commit. What any request answers is a workspace of the user, and the same one for all of
them.
-/

namespace AtomsPlatform.Tenancy
open Interleaving Transactions
variable {hash : Uuid → Int}

section Records
variable {d : Tables} {userId : Uuid} {workspace : Workspace} {m : Membership}
  {ms : List WorkspaceMembershipRecord}

lemma recordsOf_perm : (d.recordsOf userId).Perm ((d.membershipsOf userId).filterMap d.record?) :=
  (List.perm_insertionSort _ _).filterMap _

lemma length_recordsOf_le : (d.recordsOf userId).length ≤ (d.membershipsOf userId).length := by
  rw [recordsOf_perm.length_eq]
  exact List.length_filterMap_le _ _

lemma membershipsOf_insert :
    (d.insert workspace m).membershipsOf userId =
      d.membershipsOf userId ++ if m.userId = userId then [m] else [] := by
  show List.filter _ (d.memberships ++ [m]) = _
  rw [List.filter_append, List.filter_singleton]
  by_cases own : m.userId = userId
  · rw [if_pos own, decide_eq_true own]
    rfl
  · rw [if_neg own, decide_eq_false own]
    rfl

/-- A workspace that is there is found as before. -/
lemma record?_insert {m₀ : Membership} {r : WorkspaceMembershipRecord} (found : d.record? m₀ = some r) :
    (d.insert workspace m).record? m₀ = some r := by
  obtain ⟨w, here, rfl⟩ := Option.map_eq_some_iff.mp found
  show Option.map _ (Table.lookup Workspace.id m₀.workspaceId (d.workspaces ++ [workspace])) = _
  rw [Table.lookup_append_of_some here]
  rfl

lemma filterMap_insert {l : List Membership} :
    (l.filterMap d.record?).Sublist (l.filterMap (d.insert workspace m).record?) := by
  induction l with
  | nil => exact List.Sublist.refl _
  | cons m₀ l ih =>
    cases found : d.record? m₀ with
    | none =>
      rw [List.filterMap_cons_none found]
      cases new : (d.insert workspace m).record? m₀ with
      | none =>
        rw [List.filterMap_cons_none new]
        exact ih
      | some r =>
        rw [List.filterMap_cons_some new]
        exact ih.cons r
    | some r =>
      rw [List.filterMap_cons_some found, List.filterMap_cons_some (record?_insert found)]
      exact ih.cons_cons r

/-- Every membership is one of a workspace that is there. -/
def Tables.Linked (d : Tables) : Prop :=
  ∀ m ∈ d.memberships, (d.record? m).isSome

lemma Tables.Linked.insert (linked : d.Linked) (own : m.workspaceId = workspace.id) :
    (d.insert workspace m).Linked := by
  intro m₀ mem
  rcases List.mem_append.mp mem with old | new
  · obtain ⟨r, found⟩ := Option.isSome_iff_exists.mp (linked m₀ old)
    rw [record?_insert found]
    rfl
  · rw [List.mem_singleton.mp new]
    show (Option.map _ (Table.lookup Workspace.id m.workspaceId (d.workspaces ++ [workspace]))).isSome
    rw [Option.isSome_map, own]
    exact List.find?_isSome.mpr
      ⟨workspace, List.mem_append_right _ (List.mem_singleton.mpr rfl), decide_eq_true rfl⟩

/-- A user without records has no memberships. -/
lemma Tables.Linked.membershipsOf (linked : d.Linked) (none : (d.recordsOf userId).head? = none) :
    d.membershipsOf userId = [] := by
  have empty : (d.membershipsOf userId).filterMap d.record? = [] := by
    apply List.eq_nil_of_length_eq_zero
    rw [← recordsOf_perm.length_eq, List.head?_eq_none_iff.mp none]
    rfl
  apply List.eq_nil_iff_forall_not_mem.mpr
  intro m mem
  have some := linked m (List.mem_filter.mp mem).1
  rw [List.filterMap_eq_nil_iff.mp empty m mem] at some
  cases some

/-- Records that were answered to a user: they are there, and there are as many. -/
structure Answered (userId : Uuid) (ms : List WorkspaceMembershipRecord) (d : Tables) : Prop where
  length : ms.length ≤ (d.recordsOf userId).length
  mem : ∀ r ∈ ms, r ∈ d.recordsOf userId

/-- The records of a user stay. -/
lemma recordsOf_insert :
    ((d.membershipsOf userId).filterMap d.record?).Sublist
      (((d.insert workspace m).membershipsOf userId).filterMap (d.insert workspace m).record?) := by
  rw [membershipsOf_insert, List.filterMap_append]
  exact filterMap_insert.trans (List.sublist_append_left _ _)

lemma mem_recordsOf_insert {r : WorkspaceMembershipRecord} (mem : r ∈ d.recordsOf userId) :
    r ∈ (d.insert workspace m).recordsOf userId :=
  recordsOf_perm.mem_iff.mpr (recordsOf_insert.subset (recordsOf_perm.mem_iff.mp mem))

lemma Answered.insert (answered : Answered userId ms d) : Answered userId ms (d.insert workspace m) where
  length := by
    apply answered.length.trans
    rw [recordsOf_perm.length_eq, recordsOf_perm.length_eq]
    exact recordsOf_insert.length_le
  mem r mem := mem_recordsOf_insert (answered.mem r mem)

/-- The record of a new workspace. -/
lemma mem_recordsOf_new (new : Table.lookup Workspace.id workspace.id d.workspaces = none)
    (own : m.workspaceId = workspace.id) :
    ⟨workspace, m.role⟩ ∈ (d.insert workspace m).recordsOf m.userId := by
  apply recordsOf_perm.mem_iff.mpr
  refine List.mem_filterMap.mpr ⟨m, ?_, ?_⟩
  · rw [membershipsOf_insert, if_pos rfl]
    exact List.mem_append_right _ (List.mem_singleton.mpr rfl)
  · show Option.map _ (Table.lookup Workspace.id m.workspaceId (d.workspaces ++ [workspace])) = _
    rw [own, Table.lookup_append_new new rfl]
    rfl

end Records

section Accounts

/-- Where a request is in its transaction. -/
inductive Stage where
  | idle
  | opened (tx : Nat)
  | locked (tx : Nat) (userId : Uuid)
  | absent (tx : Nat) (userId : Uuid)
  | found (tx : Nat) (userId : Uuid) (record : WorkspaceMembershipRecord)
  | created (tx : Nat) (userId : Uuid) (record : WorkspaceMembershipRecord)

/-- The transaction of a request. -/
def Stage.tx? : Stage → Option Nat
  | .idle => none
  | .opened tx | .locked tx _ | .absent tx _ | .found tx _ _ | .created tx _ _ => some tx

/-- What a request answers when its transaction commits. -/
def Stage.answer? : Stage → Option (Uuid × List WorkspaceMembershipRecord)
  | .found _ userId record | .created _ userId record => some (userId, [record])
  | _ => none

/-- The account of a request: where it is in its transaction, and the records it has seen. -/
structure Account where
  stage : Stage := .idle
  seen : Option (Uuid × List WorkspaceMembershipRecord) := none

/-- What the calls change. -/
def note : (o : Operation) → Except Failure o.Answer → Account → Account
  | .listMemberships userId, .ok ms, x => { x with seen := some (userId, ms) }
  | .begin, .ok tx, x => { x with stage := .opened tx }
  | .lockOnboarding tx userId, .ok _, x => { x with stage := .locked tx userId }
  | .findMembership tx userId, .ok none, x => { x with stage := .absent tx userId }
  | .findMembership tx userId, .ok (some record), x => { x with stage := .found tx userId record }
  | .createWorkspace tx _ _ userId, .ok workspace, x =>
    { x with stage := .created tx userId ⟨workspace, .owner⟩ }
  | .commit _, .ok _, x => { stage := .idle, seen := x.stage.answer? }
  | .commit _, .error _, x | .rollback _, _, x => { x with stage := .idle }
  | _, _, x => x

/-- The calls that a request may make, by its account. -/
def Allowed (x : Account) : Operation → Prop
  | .lockOnboarding tx _ => x.stage = .opened tx
  | .findMembership tx userId => x.stage = .locked tx userId
  | .createWorkspace tx _ _ userId => x.stage = .absent tx userId
  | .commit tx => x.stage.tx? = some tx ∧ x.stage.answer?.isSome
  | .rollback tx => x.stage.tx? = some tx
  | .listMemberships _ | .begin | .randomUUID | .expire _ => True

variable (hash)

/-- The booking of what calls answer. -/
def book : (onboardingSystem hash).Booking Account :=
  fun o env s x => note o (perform hash o env s).1 x

/-- The transaction has not written. -/
def Unwritten (t : Transaction Tables LockKey) : Prop :=
  ∀ d, t.written d = d

/-- What holds of a transaction at a stage, as long as it is open. -/
def Holds (s : Store) : Stage → Transaction Tables LockKey → Prop
  | .idle, _ => True
  | .opened _, t | .found _ _ _, t => Unwritten t
  | .locked _ userId, t => Unwritten t ∧ .advisory (hash userId) ∈ t.locks
  | .absent _ userId, t =>
    Unwritten t ∧ .advisory (hash userId) ∈ t.locks ∧ s.committed.membershipsOf userId = []
  | .created _ userId record, t =>
    .advisory (hash userId) ∈ t.locks ∧ s.committed.membershipsOf userId = [] ∧
      LockKey.workspace record.workspace.id ∈ t.locks ∧
      Table.lookup Workspace.id record.workspace.id s.committed.workspaces = none ∧
      ∃ m : Membership, (∀ d, t.written d = d.insert record.workspace m) ∧ m.userId = userId ∧
        m.workspaceId = record.workspace.id ∧ m.role = record.role

/-- What holds of the store at a stage. -/
structure StageHolds (stage : Stage) (s : Store) : Prop where
  opened : ∀ tx, stage.tx? = some tx → While tx (Holds hash s stage) s
  found : ∀ tx userId record, stage = .found tx userId record → record ∈ s.committed.recordsOf userId

/-- What holds of the store at all times. -/
structure Tenanted (initial : Tables) (s : Store) : Prop where
  sound : Sound s
  linked : s.committed.Linked
  bounded : ∀ userId,
    (s.committed.membershipsOf userId).length ≤ max 1 (initial.membershipsOf userId).length
  workspaces : initial.workspaces <+: s.committed.workspaces
  memberships : initial.memberships <+: s.committed.memberships

/-- What relates a request to the store. -/
structure Related (initial : Tables) (x : Account) (s : Store) : Prop where
  store : Tenanted initial s
  stage : StageHolds hash x.stage s
  seen : ∀ userId ms, x.seen = some (userId, ms) → Answered userId ms s.committed

/-- Two requests do not share a transaction. -/
def Apart (x y : Account) : Prop :=
  ∀ tx, x.stage.tx? = some tx → y.stage.tx? ≠ some tx

variable {hash}

/-- What a call of a request does to the store. -/
abbrev Does (x : Account) : Store → Store → Prop :=
  Moves (fun tx => x.stage.tx? = some tx) (fun _ => x.stage.answer?.isSome) fun _ => False

lemma does_perform {o : Operation} {env : Environment} {s : Store} {x : Account} (allowed : Allowed x o) :
    Does x s (perform hash o env s).2 := by
  cases o with
  | listMemberships userId => exact .kept
  | begin => exact .begin
  | lockOnboarding tx userId =>
    have own : x.stage = .opened tx := allowed
    apply Moves.within
    intro t found
    split
    · rename_i free
      exact .took (by rw [own]; rfl) free
    · exact .kept
  | findMembership tx userId => exact .within fun t found => .kept
  | randomUUID => exact .kept
  | createWorkspace tx name slug userId =>
    have own : x.stage = .absent tx userId := allowed
    apply Moves.within
    intro t found
    dsimp only
    split
    · exact .kept
    · rename_i free
      split
      · exact .kept
      · obtain ⟨slugFree, idFree⟩ := not_or.mp free
        refine .updated (by rw [own]; rfl) fun k mem => ?_
        rcases List.mem_cons.mp mem with rfl | mem
        · exact Bool.eq_true_of_not_eq_false slugFree
        · rw [List.mem_singleton.mp mem]
          exact Bool.eq_true_of_not_eq_false idFree
  | commit tx =>
    obtain ⟨own, answers⟩ : x.stage.tx? = some tx ∧ x.stage.answer?.isSome := allowed
    exact .finish own answers
  | rollback tx => exact .ended
  | expire tx => exact .ended

end Accounts

section Steps
variable {x y : Account} {s s' : Store} {initial : Tables} {userId : Uuid}

/-- A workspace becomes visible: the transaction that made it holds the lock of its user, who has none. -/
structure Inserts (hash : Uuid → Int) (x : Account) (s : Store) (t : Transaction Tables LockKey)
    (workspace : Workspace) (m : Membership) (committed : Tables) : Prop where
  open_tx : ∃ tx, x.stage.tx? = some tx ∧ s.find tx = some t
  locked : .advisory (hash m.userId) ∈ t.locks
  reserved : .workspace workspace.id ∈ t.locks
  absent : s.committed.membershipsOf m.userId = []
  new : Table.lookup Workspace.id workspace.id s.committed.workspaces = none
  own : m.workspaceId = workspace.id
  result : committed = s.committed.insert workspace m

/-- What is committed stays, or a workspace becomes visible. -/
lemma Does.inserts (does : Does x s s') (stage : StageHolds hash x.stage s) :
    s'.committed = s.committed ∨ ∃ t workspace m, Inserts hash x s t workspace m s'.committed := by
  rcases does.committed_cases with same | never | ⟨tx, t, own, answers, found, result⟩
  · exact .inl same
  · exact never.elim
  · have holds := (stage.opened tx own).2 t found
    rw [result]
    cases at_stage : x.stage with
    | idle | opened | locked | absent =>
      rw [at_stage] at answers
      cases answers
    | found tx' userId record =>
      rw [at_stage] at holds
      exact .inl (holds _)
    | created tx' userId record =>
      rw [at_stage] at holds
      obtain ⟨locked, absent, reserved, new, m, written, rfl, own', -⟩ := holds
      exact .inr ⟨t, record.workspace, m, ⟨tx, own, found⟩, locked, reserved, absent, new, own', written _⟩

/-- What was answered, or is known to be there, stays. -/
lemma Does.answered (does : Does x s s') (stage : StageHolds hash x.stage s)
    {ms : List WorkspaceMembershipRecord} (answered : Answered userId ms s.committed) :
    Answered userId ms s'.committed := by
  rcases does.inserts stage with same | ⟨t, workspace, m, inserts⟩
  · rw [same]
    exact answered
  · rw [inserts.result]
    exact answered.insert

lemma Does.mem_recordsOf (does : Does x s s') (stage : StageHolds hash x.stage s)
    {record : WorkspaceMembershipRecord} (mem : record ∈ s.committed.recordsOf userId) :
    record ∈ s'.committed.recordsOf userId := by
  rcases does.inserts stage with same | ⟨t, workspace, m, inserts⟩
  · rw [same]
    exact mem
  · rw [inserts.result]
    exact mem_recordsOf_insert mem

/-- A user has got at most one workspace: nobody gets one who has one already. -/
lemma Does.tenanted (does : Does x s s') (stage : StageHolds hash x.stage s) (store : Tenanted initial s) :
    Tenanted initial s' := by
  rcases does.inserts stage with same | ⟨t, workspace, m, inserts⟩
  · have kept := store.linked
    have bounded := store.bounded
    have workspaces := store.workspaces
    have memberships := store.memberships
    rw [← same] at kept bounded workspaces memberships
    exact ⟨does.sound store.sound, kept, bounded, workspaces, memberships⟩
  · refine ⟨does.sound store.sound, ?_, fun userId => ?_, ?_, ?_⟩
    · rw [inserts.result]
      exact store.linked.insert inserts.own
    · rw [inserts.result, membershipsOf_insert]
      by_cases own : m.userId = userId
      · subst own
        rw [inserts.absent, if_pos rfl]
        exact Nat.le_max_left _ _
      · rw [if_neg own, List.append_nil]
        exact store.bounded userId
    · rw [inserts.result]
      exact store.workspaces.trans (List.prefix_append _ _)
    · rw [inserts.result]
      exact store.memberships.trans (List.prefix_append _ _)

/-- A workspace that becomes visible is not one of another transaction, nor one of its user. -/
lemma Inserts.apart {t t' : Transaction Tables LockKey} {workspace : Workspace} {m : Membership}
    {committed : Tables} (inserts : Inserts hash x s t workspace m committed) (sound : Sound s)
    (apart : Apart x y) {tx : Nat} (own : y.stage.tx? = some tx) (found : s.find tx = some t') {k : LockKey}
    (held : k ∈ t'.locks) : k ≠ .advisory (hash m.userId) ∧ k ≠ .workspace workspace.id := by
  obtain ⟨tx', is, found'⟩ := inserts.open_tx
  have ne : tx' ≠ tx := by
    rintro rfl
    exact apart tx' is own
  constructor
  · rintro rfl
    exact sound.apart found' found ne inserts.locked held
  · rintro rfl
    exact sound.apart found' found ne inserts.reserved held

/-- What another request knows of its transaction stays true. -/
lemma Does.holds_other (does : Does x s s') (stage : StageHolds hash x.stage s) (sound : Sound s)
    (apart : Apart x y) {tx : Nat} (own : y.stage.tx? = some tx) {t : Transaction Tables LockKey}
    (found : s.find tx = some t) (holds : Holds hash s y.stage t) : Holds hash s' y.stage t := by
  rcases does.inserts stage with same | ⟨t', workspace, m, inserts⟩
  · cases at_stage : y.stage with
    | idle | opened | locked | found =>
      rw [at_stage] at holds
      exact holds
    | absent | created =>
      rw [at_stage] at holds
      unfold Holds
      rw [same]
      exact holds
  · have other {k : LockKey} (held : k ∈ t.locks) := inserts.apart sound apart own found held
    -- The user of `y` is not the one who gets a workspace: `y` holds that user's lock.
    have still {userId : Uuid} (held : LockKey.advisory (hash userId) ∈ t.locks)
        (absent : s.committed.membershipsOf userId = []) : s'.committed.membershipsOf userId = [] := by
      have ne : m.userId ≠ userId := by
        intro is
        exact (other held).1 (by rw [is])
      rw [inserts.result, membershipsOf_insert, if_neg ne, absent]
      rfl
    cases at_stage : y.stage with
    | idle | opened | locked | found =>
      rw [at_stage] at holds
      exact holds
    | absent tx userId =>
      rw [at_stage] at holds
      obtain ⟨unwritten, held, absent⟩ := holds
      exact ⟨unwritten, held, still held absent⟩
    | created tx userId record =>
      rw [at_stage] at holds
      obtain ⟨held, absent, reserved, new, written⟩ := holds
      refine ⟨held, still held absent, reserved, ?_, written⟩
      have ne : workspace.id ≠ record.workspace.id := by
        intro is
        exact (other reserved).2 (by rw [is])
      rw [inserts.result]
      show Table.lookup _ _ (s.committed.workspaces ++ [workspace]) = none
      rw [Table.lookup_append_ne ne]
      exact new

lemma Does.stage_other (does : Does x s s') (stage : StageHolds hash x.stage s) (sound : Sound s)
    (apart : Apart x y) (holds : StageHolds hash y.stage s) : StageHolds hash y.stage s' where
  opened := by
    intro tx own
    have known := holds.opened tx own
    apply known.other does fun is => apart tx is own
    exact fun t found before => does.holds_other stage sound apart own found before
  found := by
    intro tx userId record is
    exact does.mem_recordsOf stage (holds.found tx userId record is)

/-- What a request knows when its stage does not change. -/
lemma Does.related (does : Does x s s') (related : Related hash initial x s)
    (opened : ∀ tx, x.stage.tx? = some tx → While tx (Holds hash s' x.stage) s') :
    Related hash initial x s' where
  store := does.tenanted related.stage related.store
  stage := ⟨opened, fun tx userId record is =>
    does.mem_recordsOf related.stage (related.stage.found tx userId record is)⟩
  seen userId ms is := does.answered related.stage (related.seen userId ms is)

/-- What a request knows when its stage does. -/
lemma Does.advances (does : Does x s s') (related : Related hash initial x s) (stage : Stage)
    (opened : ∀ tx, stage.tx? = some tx → While tx (Holds hash s' stage) s')
    (found : ∀ tx userId record, stage = .found tx userId record → record ∈ s'.committed.recordsOf userId) :
    Related hash initial { x with stage } s' where
  store := does.tenanted related.stage related.store
  stage := ⟨opened, found⟩
  seen userId ms is := does.answered related.stage (related.seen userId ms is)

/-- After its transaction a request knows nothing of it. -/
lemma Does.leaves (does : Does x s s') (related : Related hash initial x s) :
    Related hash initial { x with stage := .idle } s' :=
  does.advances related .idle nofun nofun

/-- The records of a user, in the order of their creation. -/
lemma answered_recordsOf {d : Tables} : Answered userId (d.recordsOf userId) d :=
  ⟨Nat.le_refl _, fun _ mem => mem⟩

lemma answered_singleton {d : Tables} {record : WorkspaceMembershipRecord} (mem : record ∈ d.recordsOf userId) :
    Answered userId [record] d := by
  refine ⟨List.length_pos_of_mem mem, fun r is => ?_⟩
  rw [List.mem_singleton.mp is]
  exact mem

lemma own_begin {env : Environment} (related : Related hash initial x s) :
    Related hash initial (note .begin (perform hash .begin env s).1 x) (perform hash .begin env s).2 := by
  rw [perform]
  rcases begin_cases with ⟨error, is | is⟩ | is
  · rw [is]
    exact related
  · rw [is]
    exact Does.related .started related fun tx own => (related.stage.opened tx own).start
  · rw [is]
    refine Does.advances .started related (.opened s.next) ?_ nofun
    intro tx own
    cases own
    refine related.store.sound.started.mono fun t is => ?_
    rw [is]
    exact fun _ => rfl

/-- The lock of a user is taken. -/
lemma own_lock {tx : Nat} {env : Environment} (related : Related hash initial x s)
    (own : x.stage = .opened tx) :
    Related hash initial (note (.lockOnboarding tx userId) (perform hash (.lockOnboarding tx userId) env s).1 x)
      (perform hash (.lockOnboarding tx userId) env s).2 := by
  have known := related.stage.opened tx (by rw [own]; rfl)
  rw [own] at known
  rw [perform]
  rcases within_cases with ⟨error, is⟩ | ⟨t, found, is⟩
  · rw [is]
    exact related
  · rw [is]
    split
    · rename_i free
      have does : Does x s (s.lock tx (.advisory (hash userId))) := .took (by rw [own]; rfl) free
      refine does.advances related (.locked tx userId) ?_ nofun
      intro tx' same
      cases same
      exact known.update fun t unwritten => ⟨fun d => unwritten d, List.mem_cons_self⟩
    · exact related

/-- With the lock, the memberships of the user are looked for. -/
lemma own_find {tx : Nat} {env : Environment} (related : Related hash initial x s)
    (own : x.stage = .locked tx userId) :
    Related hash initial (note (.findMembership tx userId) (perform hash (.findMembership tx userId) env s).1 x)
      (perform hash (.findMembership tx userId) env s).2 := by
  have known := related.stage.opened tx (by rw [own]; rfl)
  rw [own] at known
  rw [perform]
  rcases within_cases with ⟨error, is⟩ | ⟨t, found, is⟩
  · rw [is]
    exact related
  · rw [is]
    have unwritten : t.written s.committed = s.committed := (known.2 t found).1 _
    rw [unwritten]
    cases first : (s.committed.recordsOf userId).head? with
    | some record =>
      refine Does.advances .kept related (.found tx userId record) ?_ ?_
      · intro tx' same
        cases same
        exact known.mono fun t holds => holds.1
      · intro tx' userId' record' same
        cases same
        exact List.mem_of_head? first
    | none =>
      have absent := related.store.linked.membershipsOf first
      refine Does.advances .kept related (.absent tx userId) ?_ nofun
      intro tx' same
      cases same
      exact known.mono fun t holds => ⟨holds.1, holds.2, absent⟩

/-- A workspace for a user who has none. -/
lemma own_create {tx : Nat} {name slug : String} {env : Environment} (related : Related hash initial x s)
    (own : x.stage = .absent tx userId) :
    Related hash initial
      (note (.createWorkspace tx name slug userId)
        (perform hash (.createWorkspace tx name slug userId) env s).1 x)
      (perform hash (.createWorkspace tx name slug userId) env s).2 := by
  have does : Does x s (perform hash (.createWorkspace tx name slug userId) env s).2 := does_perform own
  have known := related.stage.opened tx (by rw [own]; rfl)
  rw [own] at known
  rw [perform] at does ⊢
  rcases within_cases with ⟨error, is⟩ | ⟨t, found, is⟩
  · rw [is]
    exact related
  · rw [is] at does ⊢
    have unwritten : t.written s.committed = s.committed := (known.2 t found).1 _
    dsimp only at does ⊢
    rw [unwritten] at does ⊢
    split
    · exact related
    · rename_i free
      split
      · exact related
      · rename_i unused
        rw [if_neg free, if_neg unused] at does
        have new : Table.lookup Workspace.id env.id s.committed.workspaces = none := by
          apply List.find?_eq_none.mpr
          intro w mem is
          apply unused
          exact List.any_eq_true.mpr ⟨w, mem, decide_eq_true (.inr (of_decide_eq_true is))⟩
        refine does.advances related (.created tx userId ⟨_, .owner⟩) ?_ nofun
        intro tx' same
        cases same
        refine known.update fun t holds => ?_
        obtain ⟨unwritten, held, absent⟩ := holds
        refine ⟨List.mem_append_right _ held, absent, List.mem_append_left _ (by simp), new, ?_⟩
        refine ⟨{ workspaceId := env.id, userId, role := .owner, createdAt := env.now }, ?_, rfl, rfl, rfl⟩
        intro d
        show Tables.insert _ _ (t.written d) = _
        rw [unwritten]

/-- What the stage of a transaction that commits has promised. -/
lemma own_commit {tx : Nat} {env : Environment} (related : Related hash initial x s)
    (own : x.stage.tx? = some tx) (answers : x.stage.answer?.isSome) :
    Related hash initial (note (.commit tx) (perform hash (.commit tx) env s).1 x)
      (perform hash (.commit tx) env s).2 := by
  have does : Does x s (perform hash (.commit tx) env s).2 := does_perform ⟨own, answers⟩
  rw [perform] at does ⊢
  rcases finish_cases with ⟨error, is⟩ | ⟨t, found, is⟩
  · rw [is]
    exact does.leaves related
  · rw [is] at does ⊢
    refine ⟨does.tenanted related.stage related.store, ⟨nofun, nofun⟩, ?_⟩
    intro userId ms is
    have holds := (related.stage.opened tx own).2 t found
    cases at_stage : x.stage with
    | idle | opened | locked | absent =>
      rw [at_stage] at answers
      cases answers
    | found tx' userId' record =>
      have is : x.stage.answer? = some (userId, ms) := is
      rw [at_stage] at is
      cases is
      exact answered_singleton
        (does.mem_recordsOf related.stage (related.stage.found tx' userId record at_stage))
    | created tx' userId' record =>
      have is : x.stage.answer? = some (userId, ms) := is
      rw [at_stage] at is holds
      cases is
      obtain ⟨-, -, -, new, m, written, user, linked, role⟩ := holds
      apply answered_singleton
      rw [commit_some found]
      show record ∈ (t.written s.committed).recordsOf userId
      have inserted := mem_recordsOf_new new linked
      rw [written, ← user]
      rw [role] at inserted
      exact inserted

lemma own_step {o : Operation} {env : Environment} (allowed : Allowed x o)
    (related : Related hash initial x s) :
    Related hash initial (book hash o env s x) (perform hash o env s).2 := by
  cases o with
  | listMemberships userId =>
    unfold book
    rw [perform]
    cases answer : env.fate.answer (s.committed.recordsOf userId) with
    | error error => exact related
    | ok ms =>
      refine ⟨related.store, related.stage, ?_⟩
      intro userId' ms' is
      cases is
      rw [Fate.answer_ok answer]
      exact answered_recordsOf
  | begin => exact own_begin related
  | lockOnboarding tx userId => exact own_lock related allowed
  | findMembership tx userId => exact own_find related allowed
  | randomUUID => exact related
  | createWorkspace tx name slug userId => exact own_create related allowed
  | commit tx => exact own_commit related allowed.1 allowed.2
  | rollback tx => exact Does.leaves .ended related
  | expire tx =>
    refine Does.related .ended related fun tx' own => ?_
    have known := related.stage.opened tx' own
    exact known.close

/-- A request keeps the transaction that it has or gives it up, unless it begins one. -/
lemma note_tx? {o : Operation} {answer : Except Failure o.Answer} {tx : Nat} (allowed : Allowed x o)
    (other : o ≠ .begin) (own : (note o answer x).stage.tx? = some tx) : x.stage.tx? = some tx := by
  -- The stage of a call inside a transaction is one of this transaction.
  have inside {stage : Stage} (is : x.stage = stage) (at_tx : stage.tx? = some tx) : x.stage.tx? = some tx := by
    rw [is]
    exact at_tx
  cases answer with
  | error error =>
    cases o with
    | commit | rollback => cases own
    | _ => exact own
  | ok a =>
    cases o with
    | listMemberships | randomUUID | expire => exact own
    | begin => exact absurd rfl other
    | lockOnboarding tx' userId => exact @inside (.opened tx') allowed own
    | findMembership tx' userId =>
      cases a with
      | none => exact @inside (.locked tx' userId) allowed own
      | some record => exact @inside (.locked tx' userId) allowed own
    | createWorkspace tx' name slug userId => exact @inside (.absent tx' userId) allowed own
    | commit | rollback => cases own

lemma book_tx? {o : Operation} {env : Environment} {tx : Nat} (allowed : Allowed x o)
    (own : (book hash o env s x).stage.tx? = some tx) : x.stage.tx? = some tx ∨ tx = s.next := by
  by_cases begins : o = .begin
  · subst begins
    unfold book at own
    rw [perform] at own
    rcases begin_cases with ⟨error, is | is⟩ | is <;> rw [is] at own
    · exact .inl own
    · exact .inl own
    · cases own
      exact .inr rfl
  · exact .inl (note_tx? allowed begins own)

/-- Requests are kept apart. -/
lemma owned (s₀ : Store) (sound : Sound s₀) (linked : s₀.committed.Linked) :
    (onboardingSystem hash).Owned (book hash) Allowed (Related hash s₀.committed) Apart {} s₀ where
  empty := by
    have kept : s₀.committed.memberships <+: s₀.committed.memberships := List.prefix_refl _
    exact ⟨⟨sound, linked, fun _ => Nat.le_max_right _ _, List.prefix_refl _, kept⟩, ⟨nofun, nofun⟩, nofun⟩
  symm x y apart tx own own' := apart tx own' own
  fresh x tx own := nofun
  own o env s x allowed related := own_step allowed related
  others o env s x y allowed related related' apart := by
    have does : Does x s (perform hash o env s).2 := does_perform allowed
    refine ⟨⟨does.tenanted related.stage related.store, ?_, ?_⟩, fun tx own own' => ?_⟩
    · exact does.stage_other related.stage related.store.sound apart related'.stage
    · intro userId ms is
      exact does.answered related.stage (related'.seen userId ms is)
    · rcases book_tx? allowed own with before | rfl
      · exact apart tx before own'
      · exact Nat.lt_irrefl _ (related'.stage.opened _ own').1

end Steps

section Programs
variable {userId : Uuid} {tx : Nat} {initial : Tables}

/-- The judgement by the accounts. -/
abbrev accounts (hash : Uuid → Int) (initial : Tables) :
    Judgement Operation (fun o => Except Failure o.Answer) Account :=
  (onboardingSystem hash).accounted (book hash) Allowed (Related hash initial)

/-- A call by what it answers. -/
lemma triple_call {P : Account → Prop} {o : Operation} {Q : o.Answer → Account → Prop}
    {E : Failure → Account → Prop} (allowed : ∀ x, P x → Allowed x o)
    (onOk : ∀ a x, P x → Q a (note o (.ok a) x)) (onError : ∀ e x, P x → E e (note o (.error e) x)) :
    Triple (accounts hash initial) P (call o) Q E := by
  apply Triple.invoke
  intro x holds
  refine ⟨allowed x holds, fun env s _ => ?_⟩
  show Outcome _ _ (perform hash o env s).1
  unfold book
  show Outcome (fun a => Q a (note o (perform hash o env s).1 x))
    (fun e => E e (note o (perform hash o env s).1 x)) (perform hash o env s).1
  cases (perform hash o env s).1 with
  | ok a => exact onOk a x holds
  | error e => exact onError e x holds

/-- The request is in its transaction. -/
def InTransaction (tx : Nat) (x : Account) : Prop :=
  x.stage.tx? = some tx

/-- What the transaction is about to answer. -/
def Promises (tx : Nat) (userId : Uuid) (record : WorkspaceMembershipRecord) (x : Account) : Prop :=
  InTransaction tx x ∧ x.stage.answer? = some (userId, [record])

lemma triple_slug {P : Account → Prop} {id : String} :
    Triple (accounts hash initial) P (createPersonalWorkspaceSlug id) (fun _ => P) fun _ => P := by
  unfold createPersonalWorkspaceSlug
  dsimp only
  split
  · exact .pure fun _ holds => holds
  · exact .throw fun _ holds => holds

lemma triple_onboard :
    Triple (accounts hash initial) (fun x => x.stage = .opened tx) (onboard userId tx)
      (fun record => Promises tx userId record) fun _ => InTransaction tx := by
  have inside {stage : Stage} (own : stage.tx? = some tx) (x : Account) (is : x.stage = stage) :
      InTransaction tx x := by
    unfold InTransaction
    rw [is]
    exact own
  unfold onboard
  apply Triple.bind (R := fun _ x => x.stage = .locked tx userId)
  · exact triple_call (fun _ own => own) (fun _ _ _ => rfl) fun _ x own => inside rfl x own
  intro lockRows
  split
  · exact .throw fun x own => inside rfl x own
  apply Triple.bind (R := fun existing x => match existing with
    | none => x.stage = .absent tx userId
    | some record => x.stage = .found tx userId record)
  · refine triple_call (o := .findMembership tx userId) (fun _ own => own) (fun existing x own => ?_)
      fun _ x own => inside rfl x own
    cases existing with
    | none => rfl
    | some record => rfl
  intro existing
  cases existing with
  | some record =>
    apply Triple.pure
    intro x own
    exact ⟨inside rfl x own, by rw [own]; rfl⟩
  | none =>
    apply Triple.bind (R := fun _ x => x.stage = .absent tx userId)
    · exact triple_call (fun _ _ => trivial) (fun _ _ own => own) fun _ x own => inside rfl x own
    intro id
    apply Triple.bind (triple_slug.mono (fun _ own => own) (fun _ _ own => own) fun _ x own => inside rfl x own)
    intro slug
    apply Triple.bind (R := fun workspace x => x.stage = .created tx userId ⟨workspace, .owner⟩)
    · exact triple_call (fun _ own => own) (fun _ _ _ => rfl) fun _ x own => inside rfl x own
    intro workspace
    apply Triple.pure
    intro x own
    exact ⟨inside rfl x own, by rw [own]; rfl⟩

/-- What a request has answered. -/
def Saw (userId : Uuid) (ms : List WorkspaceMembershipRecord) (x : Account) : Prop :=
  ms ≠ [] ∧ x.seen = some (userId, ms)

lemma triple_ensure :
    Triple (accounts hash initial) (fun _ => True) (ensurePersonalWorkspaceMembership userId)
      (fun record => Saw userId [record]) fun _ _ => True := by
  apply Triple.inTransaction (fun tx x => x.stage = .opened tx) (fun tx => InTransaction tx)
    fun tx record => Promises tx userId record
  · exact triple_call (fun _ _ => trivial) (fun _ _ _ => rfl) fun _ _ _ => trivial
  · exact fun tx => triple_onboard
  · exact fun tx error => triple_call (fun _ own => own) (fun _ _ _ => trivial) fun _ _ _ => trivial
  · intro tx record
    apply triple_call
    · intro x promises
      exact ⟨promises.1, by rw [promises.2]; rfl⟩
    · intro _ x promises
      exact ⟨List.cons_ne_nil _ _, promises.2⟩
    · exact fun _ _ _ => trivial

lemma triple_listWorkspaceMemberships :
    Triple (accounts hash initial) (fun _ => True) (listWorkspaceMemberships userId) (fun ms => Saw userId ms)
      fun _ _ => True := by
  unfold listWorkspaceMemberships
  apply Triple.bind (R := fun ms x => x.seen = some (userId, ms))
  · exact triple_call (fun _ _ => trivial) (fun _ _ _ => rfl) fun _ _ _ => trivial
  intro ms
  split
  · rename_i some
    apply Triple.pure
    exact fun x seen => ⟨List.ne_nil_of_length_pos some, seen⟩
  · apply Triple.bind (triple_ensure.mono (fun _ _ => trivial) (fun _ _ saw => saw) fun _ _ _ => trivial)
    intro record
    exact .pure fun _ saw => saw

/-- How an activity is left. -/
def LeftWith : Activity → Except Failure (List WorkspaceMembershipRecord) → Account → Prop
  | .request userId, .ok ms, x => Saw userId ms x
  | _, _, _ => True

lemma program_accounts (activity : Activity) :
    ((onboardingSystem hash).body activity).Satisfies (accounts hash initial) (LeftWith activity) {} := by
  cases activity with
  | request userId =>
    have triple : Triple (accounts hash initial) (fun _ => True) (listWorkspaceMemberships userId)
        (fun ms => Saw userId ms) fun _ _ => True := triple_listWorkspaceMemberships
    apply (triple {} trivial).mono
    intro r x holds
    cases r with
    | ok ms => exact holds
    | error error => trivial
  | expiry tx =>
    refine ⟨trivial, fun env s _ => ?_⟩
    show Prog.Satisfies _ _ _ _
    trivial

end Programs

section Runs
variable {s₀ : Store} {h : List (OnboardingConfig × (onboardingSystem hash).Label)} {c : OnboardingConfig}

/-- What requests lead to, from tables whose memberships are linked, with nothing started. -/
abbrev Onboarded (hash : Uuid → Int) (initial : Tables)
    (h : List (OnboardingConfig × (onboardingSystem hash).Label)) (c : OnboardingConfig) : Prop :=
  (onboardingSystem hash).Traced (onboardingSystem hash).Unguarded ⟨{ committed := initial }, []⟩ h c

/-- A request for the workspaces of a user has been answered. -/
abbrev Answers (c : OnboardingConfig) (i : Nat) (userId : Uuid) (ms : List WorkspaceMembershipRecord) : Prop :=
  c.threads[i]? = some ⟨.request userId, .ret (.ok ms)⟩

/-- However requests and the ends of transactions are interleaved: what was in the tables stays, a user has
    at most one workspace unless there were more at the start, every answer is a list of workspaces of the
    user that is not empty, and a user who had no workspace at the start is always answered the same one. -/
theorem personal_workspace_once {initial : Tables} (linked : initial.Linked)
    (onboarded : Onboarded hash initial h c) :
    initial.memberships <+: c.store.committed.memberships ∧
      (∀ userId, (c.store.committed.membershipsOf userId).length ≤
        max 1 (initial.membershipsOf userId).length) ∧
      (∀ i userId ms, Answers c i userId ms →
        ms ≠ [] ∧ ∀ record ∈ ms, record ∈ c.store.committed.recordsOf userId) ∧
      ∀ i j userId ms ms', initial.membershipsOf userId = [] → Answers c i userId ms →
        Answers c j userId ms' → ∃ record, ms = [record] ∧ ms' = [record] := by
  have shared := onboarded.shared rfl (owned _ .empty linked) program_accounts
  have store := (shared.related 0).store
  have answered (i : Nat) (userId : Uuid) (ms : List WorkspaceMembershipRecord)
      (answers : Answers c i userId ms) : ms ≠ [] ∧ Answered userId ms c.store.committed := by
    obtain ⟨some, seen⟩ : Saw userId ms _ := shared.judged i _ answers
    exact ⟨some, (shared.related i).seen userId ms seen⟩
  refine ⟨store.memberships, store.bounded, fun i userId ms answers => ?_, ?_⟩
  · obtain ⟨some, here⟩ := answered i userId ms answers
    exact ⟨some, here.mem⟩
  · intro i j userId ms ms' none answers answers'
    -- There is one record of the user, and both answers consist of it.
    have one : (c.store.committed.recordsOf userId).length ≤ 1 := by
      have bounded := store.bounded userId
      rw [none] at bounded
      exact length_recordsOf_le.trans bounded
    have single {l : List WorkspaceMembershipRecord} (some : l ≠ [])
        (here : Answered userId l c.store.committed) :
        ∃ record, c.store.committed.recordsOf userId = [record] ∧ l = [record] := by
      obtain ⟨record, l, rfl⟩ := List.exists_cons_of_ne_nil some
      have mem := here.mem record List.mem_cons_self
      have short := here.length
      obtain ⟨record', is⟩ : ∃ record', c.store.committed.recordsOf userId = [record'] :=
        List.length_eq_one_iff.mp (le_antisymm one (List.length_pos_of_mem mem))
      rw [is] at mem short
      have empty : l = [] := by
        apply List.eq_nil_of_length_eq_zero
        rw [List.length_cons, List.length_singleton] at short
        omega
      rw [empty, List.mem_singleton.mp mem]
      exact ⟨record', is, rfl⟩
    obtain ⟨record, is, rfl⟩ := single (answered i userId ms answers).1 (answered i userId ms answers).2
    obtain ⟨record', is', rfl⟩ := single (answered j userId ms' answers').1 (answered j userId ms' answers').2
    rw [is] at is'
    exact ⟨record, rfl, by rw [(List.cons.inj is').1]⟩

section Scenario

/-- Two requests find no workspace, and their transactions are open at the same time. -/
def racing : List (onboardingSystem fun userId => userId).Move :=
  let generated : Environment := { uuid := "00000000-0000-4000-8000-000000000000" }
  [.spawn (.request 1), .spawn (.request 1), .act 0 {}, .act 1 {}, .act 0 {}, .act 1 {}, .act 0 {}, .act 0 {},
    .act 0 generated, .act 0 generated, .act 0 {}, .act 1 {}, .act 1 {}, .act 1 {}]

/-- The workspace that both are answered. -/
def raced : WorkspaceMembershipRecord where
  workspace := { id := 0, name := "My Workspace", slug := "workspace-000000000000400080000000" }
  role := .owner

theorem personal_workspace_once_raced :
    ∃ (h : List (OnboardingConfig × (onboardingSystem fun userId => userId).Label)) (c : OnboardingConfig),
      Onboarded (fun userId => userId) {} h c ∧ Answers c 0 1 [raced] ∧ Answers c 1 1 [raced] ∧
        (c.store.committed.membershipsOf 1).length ≤ 1 := by
  have run : ((onboardingSystem fun userId => userId).record ⟨{ committed := {} }, []⟩ racing).any
      (fun r => System.answered r.2 0 = some (.request 1, [raced]) &&
        System.answered r.2 1 = some (.request 1, [raced])) = true := by
    decide
  obtain ⟨h, c, traced, ends⟩ := System.exists_traced run
  obtain ⟨first, second⟩ := Bool.and_eq_true_iff.mp ends
  obtain ⟨-, bounded, -, -⟩ := personal_workspace_once (nofun : Tables.Linked {}) traced
  exact ⟨h, c, traced, System.thread_of_answered (of_decide_eq_true first), System.thread_of_answered (of_decide_eq_true second), bounded 1⟩

end Scenario
end Runs

end AtomsPlatform.Tenancy
