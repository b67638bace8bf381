import AtomsPlatform.Database.Origins

/-!
# Idempotency keys

A request for a database is first answered from the row that holds its idempotency key, whoever the row
belongs to. So what a caller is told depends on the keys of other tenants (`request_answer_iff`, first
half); and a row that was requested for the same artifact answers the request, whatever region and
approval it asks for (second half).
-/

namespace AtomsPlatform.Database
open Interleaving

/-- What source `createDatabaseOperation` answers: its transaction reads the store `s`, and after a
    conflict (one with another request, if `refused`) the row that holds the key is read in the store
    `later`. -/
def requestAnswer (refused : Bool) (userId projectId : Uuid) (key : String)
    (input : ProvisionDatabaseInput) (now : Date) (id operationId : Uuid) (s later : DatabaseStore) :
    Except Failure CreateDatabaseOperationResult :=
  let attempt :=
    if refused then .error (.prisma "P2034" "Transaction failed due to a write conflict")
    else (createDatabaseOperation userId projectId key input now id operationId s).map Prod.fst
  match attempt with
  | .ok answer => .ok answer
  | .error error =>
    if isConflict error then
      match later.holder? key with
      | none => .error error
      | some existing => replay existing projectId input
    else .error error

section Program

/-- The result of a program whose calls are answered as said. -/
def answeredBy {α : Type} : Prog Operation (fun o => Except Failure o.Answer) α →
    (Nat → (o : Operation) → Except Failure o.Answer) → α
  | .ret a, _ => a
  | .call o k, answers => answeredBy (k (answers 0 o)) fun n => answers (n + 1)

/-- The answer of the program `requestDatabase`, whose transaction is refused or commits and whose
    second call reads the later store. -/
lemma requestDatabase_answered {refused : Bool} {userId projectId id operationId : Uuid} {key : String}
    {input : ProvisionDatabaseInput} {now : Date} {s later : DatabaseStore} :
    answeredBy (requestDatabase userId projectId key input now).run (fun n o =>
      if n = 0 ∧ refused then .error (.prisma "P2034" "Transaction failed due to a write conflict")
      else (transact { id, operationId } o (if n = 0 then s else later)).map Prod.fst) =
      requestAnswer refused userId projectId key input now id operationId s later := by
  rw [requestAnswer]
  generalize attempt : (if refused = true then
    Except.error (Failure.prisma "P2034" "Transaction failed due to a write conflict")
    else (createDatabaseOperation userId projectId key input now id operationId s).map Prod.fst) = tried
  have first : (if 0 = 0 ∧ refused = true then
      Except.error (.prisma "P2034" "Transaction failed due to a write conflict")
      else (transact { id, operationId } (.createDatabaseOperation userId projectId key input now)
        (if 0 = 0 then s else later)).map Prod.fst) = tried := by
    rw [← attempt]
    cases refused <;> rfl
  show answeredBy (Prog.bind (.ret (if 0 = 0 ∧ refused = true then _ else _)) _) _ = _
  rw [first]
  cases tried with
  | ok answer => rfl
  | error error =>
    dsimp only
    split
    · rename_i conflict
      show answeredBy (ExceptT.run (if isConflict error = true then _ else _)) _ = _
      rw [if_pos conflict]
      show answeredBy (Prog.bind (.ret (Except.ok (later.holder? key))) _) _ = _
      cases later.holder? key with
      | none => rfl
      | some existing =>
        show answeredBy (ExceptT.run (match replay existing projectId input with
          | .ok answer => pure answer
          | .error error => throw error)) _ = replay existing projectId input
        cases replay existing projectId input <;> rfl
    · rename_i other
      show answeredBy (ExceptT.run (if isConflict error = true then _ else _)) _ = _
      rw [if_neg other]
      rfl

end Program

/-- Two stores that differ, as far as requests for databases read them, only in rows of workspaces the
    caller is not a member of. -/
structure SameForCaller (userId : Uuid) (s₁ s₂ : DatabaseStore) : Prop where
  members : ∀ workspaceId, s₁.isMember userId workspaceId = s₂.isMember userId workspaceId
  instances : s₁.instances.filter (fun d => s₁.isMember userId d.workspaceId) =
    s₂.instances.filter fun d => s₂.isMember userId d.workspaceId
  projects : s₁.projects.filter (fun p => s₁.isMember userId p.workspaceId) =
    s₂.projects.filter fun p => s₂.isMember userId p.workspaceId
  migrationArtifacts : s₁.migrationArtifacts.filter (fun a => s₁.reaches userId a.projectId) =
    s₂.migrationArtifacts.filter fun a => s₂.reaches userId a.projectId

/-- The unique index of idempotency keys. -/
def KeysDistinct (s : DatabaseStore) : Prop :=
  (s.instances.map DatabaseInstance.idempotencyKey).Nodup

/-- Generated identifiers are new. -/
def Unused (id operationId : Uuid) (s : DatabaseStore) : Prop :=
  ∀ d ∈ s.instances, d.id ≠ id ∧ d.operationId ≠ operationId

/-- The row of a workspace foreign to the caller that holds a key. -/
def DatabaseStore.foreignHolder? (s : DatabaseStore) (userId : Uuid) (key : String) :
    Option DatabaseInstance :=
  (s.holder? key).filter fun d => !s.isMember userId d.workspaceId

/-- Whether a row is the one of a project and an artifact. -/
def RequestedFor (d : DatabaseInstance) (projectId migrationArtifactId : Uuid) : Prop :=
  d.projectId = projectId ∧ d.migrationArtifactId = some migrationArtifactId

/-- No foreign row holds the key on either side; or on both sides one does, and both are for the
    requested project and artifact and look the same, or neither is. -/
def ForeignAlike (projectId migrationArtifactId : Uuid) :
    Option DatabaseInstance → Option DatabaseInstance → Prop
  | none, none => True
  | some d₁, some d₂ =>
    (RequestedFor d₁ projectId migrationArtifactId ↔ RequestedFor d₂ projectId migrationArtifactId) ∧
      (RequestedFor d₁ projectId migrationArtifactId → toDatabaseRecord d₁ = toDatabaseRecord d₂)
  | _, _ => False

section Replays
variable {d d₁ d₂ : DatabaseInstance} {projectId : Uuid} {input : ProvisionDatabaseInput}

/-- A replay answers that the request conflicts, or with the row's record. -/
lemma replay_of_requestedFor (asked : RequestedFor d projectId input.migrationArtifactId) :
    replay d projectId input = (toDatabaseRecord d).map fun database => .ok database true :=
  if_pos asked

lemma replay_of_not (other : ¬ RequestedFor d projectId input.migrationArtifactId) :
    replay d projectId input = .ok .idempotencyConflict :=
  if_neg other

/-- A replay never looks like the answer to a new request. -/
lemma replay_ne {r : CreateDatabaseOperationResult} (fresh : ∀ database, r ≠ .ok database true)
    (granted : r ≠ .idempotencyConflict) : replay d projectId input ≠ .ok r := by
  by_cases asked : RequestedFor d projectId input.migrationArtifactId
  · rw [replay_of_requestedFor asked]
    cases toDatabaseRecord d with
    | ok database =>
      intro same
      exact fresh database (Except.ok.inj same).symm
    | error error =>
      intro same
      cases same
  · rw [replay_of_not asked]
    intro same
    exact granted (Except.ok.inj same).symm

/-- Two rows answer alike if both or neither are what is requested, with the same record. -/
lemma replay_eq_iff : replay d₁ projectId input = replay d₂ projectId input ↔
    ForeignAlike projectId input.migrationArtifactId (some d₁) (some d₂) := by
  have conflict (d : DatabaseInstance) : (toDatabaseRecord d).map (fun database =>
      CreateDatabaseOperationResult.ok database true) ≠ .ok .idempotencyConflict := by
    cases toDatabaseRecord d with
    | ok database =>
      intro same
      cases same
    | error error =>
      intro same
      cases same
  rw [ForeignAlike]
  by_cases first : RequestedFor d₁ projectId input.migrationArtifactId
  · by_cases second : RequestedFor d₂ projectId input.migrationArtifactId
    · have told : ∀ r r' : Except Failure DatabaseInstanceRecord,
          (r.map fun database => CreateDatabaseOperationResult.ok database true) =
            (r'.map fun database => .ok database true) → r = r' := by
        rintro (error | database) (error' | database') same
        · cases same
          rfl
        · cases same
        · cases same
        · cases same
          rfl
      rw [replay_of_requestedFor first, replay_of_requestedFor second]
      constructor
      · exact fun same => ⟨iff_of_true first second, fun _ => told _ _ same⟩
      · exact fun both => by rw [both.2 first]
    · rw [replay_of_requestedFor first, replay_of_not second]
      exact iff_of_false (conflict d₁) fun both => second (both.1.mp first)
  · by_cases second : RequestedFor d₂ projectId input.migrationArtifactId
    · rw [replay_of_not first, replay_of_requestedFor second]
      exact iff_of_false (Ne.symm (conflict d₂)) fun both => first (both.1.mpr second)
    · rw [replay_of_not first, replay_of_not second]
      exact iff_of_true rfl ⟨iff_of_false first second, fun asked => absurd asked first⟩

end Replays

section Tenants
variable {userId projectId id operationId : Uuid} {key : String} {input : ProvisionDatabaseInput}
  {now : Date} {s s₁ s₂ : DatabaseStore} {d : DatabaseInstance}

lemma Unused.new (unused : Unused id operationId s) :
    ¬ (s.instances.any fun d => d.id = id ∨ d.operationId = operationId) = true := by
  rw [List.any_eq_true]
  rintro ⟨d, mem, taken⟩
  rcases of_decide_eq_true taken with here | here
  · exact (unused d mem).1 here
  · exact (unused d mem).2 here

lemma SameForCaller.symm (same : SameForCaller userId s₁ s₂) : SameForCaller userId s₂ s₁ :=
  ⟨fun w => (same.members w).symm, same.instances.symm, same.projects.symm,
    same.migrationArtifacts.symm⟩

/-- A search that only finds what a filter keeps does not see the rest. -/
lemma find?_filter_of_imp {α : Type} {p q : α → Bool} {l : List α}
    (kept : ∀ a, q a = true → p a = true) : l.find? q = (l.filter p).find? q := by
  rw [List.find?_filter]
  congr 1
  funext a
  cases holds : q a with
  | true => simp [kept a holds]
  | false => simp

/-- A member finds the same project in both stores. -/
lemma SameForCaller.project (same : SameForCaller userId s₁ s₂) :
    (s₁.projects.find? fun p => p.id = projectId ∧ p.archived = false ∧ s₁.isMember userId p.workspaceId) =
      s₂.projects.find? fun p =>
        p.id = projectId ∧ p.archived = false ∧ s₂.isMember userId p.workspaceId := by
  have members : s₁.isMember userId = s₂.isMember userId := funext same.members
  have projects := same.projects
  rw [members] at projects ⊢
  rw [find?_filter_of_imp (p := fun p => s₂.isMember userId p.workspaceId), projects,
    ← find?_filter_of_imp]
  · intro p found
    simp only [decide_eq_true_eq] at found
    exact found.2.2
  · intro p found
    simp only [decide_eq_true_eq] at found
    exact found.2.2

/-- A member finds the same artifact of a project of theirs. -/
lemma SameForCaller.artifact {artifactId : Uuid} (same : SameForCaller userId s₁ s₂)
    (reached₁ : s₁.reaches userId projectId = true) (reached₂ : s₂.reaches userId projectId = true) :
    (s₁.migrationArtifacts.find? fun a => a.id = artifactId ∧ a.projectId = projectId ∧ a.validated) =
      s₂.migrationArtifacts.find? fun a =>
        a.id = artifactId ∧ a.projectId = projectId ∧ a.validated := by
  rw [find?_filter_of_imp (p := fun a => s₁.reaches userId a.projectId), same.migrationArtifacts,
    ← find?_filter_of_imp]
  · intro a found
    simp only [decide_eq_true_eq] at found
    rw [found.2.1]
    exact reached₂
  · intro a found
    simp only [decide_eq_true_eq] at found
    rw [found.2.1]
    exact reached₁

lemma reaches_of_found {project : Project}
    (found : (s.projects.find? fun p =>
      p.id = projectId ∧ p.archived = false ∧ s.isMember userId p.workspaceId) = some project) :
    s.reaches userId projectId = true := by
  have is_project := List.find?_some found
  simp only [decide_eq_true_eq] at is_project
  rw [DatabaseStore.reaches, List.any_eq_true]
  exact ⟨project, List.mem_of_find?_eq_some found, by simp [is_project]⟩

/-- A new request is answered the same in both stores. -/
lemma SameForCaller.created (same : SameForCaller userId s₁ s₂) (free₁ : s₁.holder? key = none)
    (free₂ : s₂.holder? key = none) (unused₁ : Unused id operationId s₁)
    (unused₂ : Unused id operationId s₂) :
    (createDatabaseOperation userId projectId key input now id operationId s₁).map Prod.fst =
      (createDatabaseOperation userId projectId key input now id operationId s₂).map Prod.fst := by
  rw [DatabaseStore.holder?] at free₁ free₂
  simp only [createDatabaseOperation, free₁, free₂, ← same.project, if_neg unused₁.new,
    if_neg unused₂.new]
  cases found : s₁.projects.find? fun p =>
      p.id = projectId ∧ p.archived = false ∧ s₁.isMember userId p.workspaceId with
  | none => rfl
  | some project =>
    have reached₂ := reaches_of_found (same.project.symm.trans found)
    simp only [← same.artifact (reaches_of_found found) reached₂]
    cases s₁.migrationArtifacts.find? fun a =>
        a.id = input.migrationArtifactId ∧ a.projectId = projectId ∧ a.validated with
    | none => rfl
    | some artifact =>
      dsimp only
      split <;> rfl

/-- The answer to a new request is neither a replay nor a conflict. -/
lemma create_answer (free : s.holder? key = none) (unused : Unused id operationId s) :
    ∃ r, (createDatabaseOperation userId projectId key input now id operationId s).map Prod.fst = .ok r ∧
      (∀ database, r ≠ .ok database true) ∧ r ≠ .idempotencyConflict := by
  rw [DatabaseStore.holder?] at free
  simp only [createDatabaseOperation, free, if_neg unused.new]
  split
  · exact ⟨_, rfl, fun _ same => (by cases same), fun same => by cases same⟩
  split
  · exact ⟨_, rfl, fun _ same => (by cases same), fun same => by cases same⟩
  split
  · exact ⟨_, rfl, fun _ same => (by cases same), fun same => by cases same⟩
  · exact ⟨_, rfl, fun _ same => (by cases same), fun same => by cases same⟩

/-- A row of a workspace of the caller's holds its key in both stores. -/
lemma SameForCaller.held (same : SameForCaller userId s₁ s₂) (distinct₂ : KeysDistinct s₂)
    (held : s₁.holder? key = some d) (own : s₁.isMember userId d.workspaceId = true) :
    s₂.holder? key = some d := by
  have is_key : d.idempotencyKey = key := by simpa using List.find?_some held
  have inside : d ∈ s₂.instances := by
    have kept : d ∈ s₁.instances.filter fun d => s₁.isMember userId d.workspaceId :=
      List.mem_filter.mpr ⟨List.mem_of_find?_eq_some held, own⟩
    rw [same.instances] at kept
    exact (List.mem_filter.mp kept).1
  have found := Table.lookup_of_mem distinct₂ inside
  rw [is_key] at found
  exact found

lemma foreignHolder_of_own (held : s.holder? key = some d)
    (own : s.isMember userId d.workspaceId = true) : s.foreignHolder? userId key = none := by
  simp [DatabaseStore.foreignHolder?, held, own]

lemma foreignHolder_of_free (free : s.holder? key = none) : s.foreignHolder? userId key = none := by
  simp [DatabaseStore.foreignHolder?, free]

lemma foreignHolder_of_foreign (held : s.holder? key = some d)
    (foreign : s.isMember userId d.workspaceId = false) :
    s.foreignHolder? userId key = some d := by
  simp [DatabaseStore.foreignHolder?, held, foreign]

/-- The store in which the holder of the key is looked up. -/
def consulted (refused : Bool) (s later : DatabaseStore) : DatabaseStore :=
  if refused then later else s

/-- A replay fails only on a row without an artifact or a region, which is no conflict. -/
lemma replay_error {error : Failure} (failed : replay d projectId input = .error error) :
    isConflict error = false := by
  rw [replay] at failed
  split at failed
  · rw [toDatabaseRecord] at failed
    split at failed
    · cases failed
    · cases failed
      rfl
  · cases failed

/-- A key that is held is answered by a replay. -/
lemma requestAnswer_held {refused : Bool} {later : DatabaseStore}
    (held : (consulted refused s later).holder? key = some d) :
    requestAnswer refused userId projectId key input now id operationId s later =
      replay d projectId input := by
  cases refused with
  | true =>
    have held' : later.holder? key = some d := held
    simp only [requestAnswer, if_true, held']
    exact if_pos rfl
  | false =>
    have first : (createDatabaseOperation userId projectId key input now id operationId s).map Prod.fst =
        replay d projectId input := by
      have held' : (s.instances.find? fun d => d.idempotencyKey == key) = some d := held
      simp only [createDatabaseOperation, held']
      cases replay d projectId input <;> rfl
    simp only [requestAnswer, Bool.false_eq_true, if_false, first]
    cases replayed : replay d projectId input with
    | ok answer => rfl
    | error error =>
      have other := replay_error replayed
      simp [other]

/-- A key that nobody holds is answered by neither a replay nor a conflict of keys. -/
lemma requestAnswer_free {refused : Bool} {later : DatabaseStore}
    (free : (consulted refused s later).holder? key = none)
    (unused : Unused id operationId s) :
    requestAnswer refused userId projectId key input now id operationId s later ≠
      replay d projectId input := by
  cases refused with
  | true =>
    have free' : later.holder? key = none := free
    simp only [requestAnswer, if_true, free']
    intro same
    have other := replay_error same.symm
    cases other
  | false =>
    obtain ⟨r, created, fresh, granted⟩ : ∃ r,
        (createDatabaseOperation userId projectId key input now id operationId s).map Prod.fst = .ok r ∧
          (∀ database, r ≠ .ok database true) ∧ r ≠ .idempotencyConflict := create_answer free unused
    simp only [requestAnswer, Bool.false_eq_true, if_false, created]
    exact Ne.symm (replay_ne fresh granted)

/-- Two callers that see the same are told the same exactly if the foreign holders of the key are alike. -/
lemma requestAnswer_eq_iff {refused : Bool} {later₁ later₂ : DatabaseStore}
    (same : SameForCaller userId s₁ s₂) (same' : SameForCaller userId later₁ later₂)
    (distinct₁ : KeysDistinct (consulted refused s₁ later₁))
    (distinct₂ : KeysDistinct (consulted refused s₂ later₂))
    (unused₁ : Unused id operationId s₁) (unused₂ : Unused id operationId s₂) :
    requestAnswer refused userId projectId key input now id operationId s₁ later₁ =
        requestAnswer refused userId projectId key input now id operationId s₂ later₂ ↔
      ForeignAlike projectId input.migrationArtifactId
        ((consulted refused s₁ later₁).foreignHolder? userId key)
        ((consulted refused s₂ later₂).foreignHolder? userId key) := by
  have read : SameForCaller userId (consulted refused s₁ later₁) (consulted refused s₂ later₂) := by
    cases refused with
    | true => exact same'
    | false => exact same
  cases held₁ : (consulted refused s₁ later₁).holder? key with
  | none =>
    cases held₂ : (consulted refused s₂ later₂).holder? key with
    | none =>
      rw [foreignHolder_of_free held₁, foreignHolder_of_free held₂]
      refine iff_of_true ?_ trivial
      cases refused with
      | true =>
        have free₁ : later₁.holder? key = none := held₁
        have free₂ : later₂.holder? key = none := held₂
        simp only [requestAnswer, if_true, free₁, free₂]
      | false =>
        simp only [requestAnswer, Bool.false_eq_true, if_false,
          same.created held₁ held₂ unused₁ unused₂]
        obtain ⟨r, created, -⟩ : ∃ r,
            (createDatabaseOperation userId projectId key input now id operationId s₂).map Prod.fst =
              .ok r ∧ _ := create_answer held₂ unused₂
        rw [created]
    | some d₂ =>
      cases own : (consulted refused s₂ later₂).isMember userId d₂.workspaceId with
      | true => cases held₁.symm.trans (read.symm.held distinct₁ held₂ own)
      | false =>
        rw [foreignHolder_of_free held₁, foreignHolder_of_foreign held₂ own, requestAnswer_held held₂]
        exact iff_of_false (requestAnswer_free held₁ unused₁) fun alike => alike
  | some d₁ =>
    rw [requestAnswer_held held₁]
    cases own₁ : (consulted refused s₁ later₁).isMember userId d₁.workspaceId with
    | true =>
      have held₂ := read.held distinct₂ held₁ own₁
      have own₂ := (read.members d₁.workspaceId).symm.trans own₁
      rw [requestAnswer_held held₂, foreignHolder_of_own held₁ own₁, foreignHolder_of_own held₂ own₂]
      exact iff_of_true rfl trivial
    | false =>
      rw [foreignHolder_of_foreign held₁ own₁]
      cases held₂ : (consulted refused s₂ later₂).holder? key with
      | none =>
        rw [foreignHolder_of_free held₂]
        exact iff_of_false (Ne.symm (requestAnswer_free held₂ unused₂)) fun alike => alike
      | some d₂ =>
        cases own₂ : (consulted refused s₂ later₂).isMember userId d₂.workspaceId with
        | true =>
          have held₁' := read.symm.held distinct₁ held₂ own₂
          cases held₁.symm.trans held₁'
          cases ((read.members d₁.workspaceId).symm.trans own₁).symm.trans own₂
        | false =>
          rw [requestAnswer_held held₂, foreignHolder_of_foreign held₂ own₂]
          exact replay_eq_iff

end Tenants

/-- A state left behind by the request that created the row of a key. -/
def CreatedBy (c : DatabaseConfig) (projectId : Uuid) (key : String) (input : ProvisionDatabaseInput) :
    Prop :=
  ∃ userId now id operationId s database,
    createDatabaseOperation userId projectId key input now id operationId s =
      .ok (.ok database false, c.store.store)

/-- A request whose key was used before is answered as a replay only if it equals the original one, and
    as a conflict otherwise. -/
def AnsweredAsReuse (projectId : Uuid) (input : ProvisionDatabaseInput) (projectId' : Uuid)
    (input' : ProvisionDatabaseInput) (answer : Except Failure CreateDatabaseOperationResult) : Prop :=
  (∀ database, answer = .ok (.ok database true) → projectId' = projectId ∧ input' = input) ∧
    (¬ (projectId' = projectId ∧ input' = input) → answer = .ok .idempotencyConflict)

section Reuse
variable {c c' c'' : DatabaseConfig} {projectId : Uuid} {key : String}
  {input : ProvisionDatabaseInput}

/-- After a run from its creation, a row still says what it was requested for. -/
lemma CreatedBy.holder (created : CreatedBy c projectId key input)
    (run : databaseSystem.Reaches databaseSystem.Unguarded c c') :
    ∃ d, c'.store.store.holder? key = some d ∧ d.region.isSome ∧ d.projectId = projectId ∧
      d.migrationArtifactId = some input.migrationArtifactId := by
  obtain ⟨userId, now, id, operationId, s, database, e⟩ := created
  rcases createDatabaseOperation_rows e with ⟨-, other⟩ |
    ⟨d, database', -, appended, -, region, project, artifact, is_key, free⟩
  · exact absurd rfl (other database)
  · have held : c.store.store.holder? key = some d := by
      rw [DatabaseStore.holder?, appended, List.find?_append]
      have none : s.instances.find? (fun d => d.idempotencyKey == key) = none :=
        List.find?_eq_none.mpr fun d mem => by simpa using free d mem
      rw [none, Option.none_or]
      exact List.find?_cons_of_pos (by simpa using is_key)
    obtain ⟨d', held', continues⟩ := holder_of_reaches run held
    have projects : d'.projectId = d.projectId := congrArg Origin.projectId continues.origin
    have artifacts : d'.migrationArtifactId = d.migrationArtifactId :=
      congrArg Origin.migrationArtifactId continues.origin
    have region' : d'.region.isSome := continues.region (by rw [region]; rfl)
    exact ⟨d', held', region', projects.trans project, artifacts.trans artifact⟩

/-- A key that is used again is answered as it should be exactly if a request for the same project and
    artifact is the same request. -/
lemma reuse_answer_iff {refused : Bool} {userId projectId' id operationId : Uuid}
    {input' : ProvisionDatabaseInput} {now : Date} (created : CreatedBy c projectId key input)
    (run : databaseSystem.Reaches databaseSystem.Unguarded c c')
    (run' : databaseSystem.Reaches databaseSystem.Unguarded c' c'') :
    AnsweredAsReuse projectId input projectId' input'
        (requestAnswer refused userId projectId' key input' now id operationId c'.store.store
          c''.store.store) ↔
      (projectId' = projectId → input'.migrationArtifactId = input.migrationArtifactId →
        input' = input) := by
  obtain ⟨d, held, region, project, artifact⟩ : ∃ d,
      (consulted refused c'.store.store c''.store.store).holder? key = some d ∧ d.region.isSome ∧
        d.projectId = projectId ∧ d.migrationArtifactId = some input.migrationArtifactId := by
    cases refused with
    | true => exact created.holder (run.trans run')
    | false => exact created.holder run
  have recorded : ∃ database, toDatabaseRecord d = .ok database := by
    obtain ⟨text, some_region⟩ := Option.isSome_iff_exists.mp region
    exact ⟨_, by rw [toDatabaseRecord, artifact, some_region]⟩
  obtain ⟨database, record⟩ := recorded
  rw [requestAnswer_held held]
  by_cases asked : RequestedFor d projectId' input'.migrationArtifactId
  · have same_project : projectId' = projectId := asked.1.symm.trans project
    have same_artifact : input'.migrationArtifactId = input.migrationArtifactId :=
      Option.some.inj (asked.2.symm.trans artifact)
    have replayed : replay d projectId' input' = .ok (.ok database true) := by
      rw [replay_of_requestedFor asked, record]
      rfl
    rw [replayed]
    constructor
    · exact fun sound _ _ => (sound.1 database rfl).2
    · intro same
      have equal := same same_project same_artifact
      exact ⟨fun _ _ => ⟨same_project, equal⟩, fun other => absurd ⟨same_project, equal⟩ other⟩
  · rw [replay_of_not asked]
    refine iff_of_true ⟨fun _ same => ?_, fun _ => rfl⟩ ?_
    · cases same
    · intro same_project same_artifact
      exact absurd ⟨project.trans same_project.symm, by rw [artifact, same_artifact]⟩ asked

end Reuse

/-- A caller is told the same in two stores that differ in rows of foreign workspaces only exactly if no
    foreign row holds the key, or foreign rows hold it on both sides and are alike. And once a key was
    used, it is answered as a replay for equal requests only, and as a conflict otherwise, exactly if a
    request for the same project and artifact also asks for the same region and approval. -/
theorem request_answer_iff (refused : Bool) (userId projectId : Uuid) (key : String)
    (input : ProvisionDatabaseInput) (now : Date) (id operationId : Uuid) :
    (∀ s₁ s₂ later₁ later₂ : DatabaseStore, SameForCaller userId s₁ s₂ →
      SameForCaller userId later₁ later₂ →
      KeysDistinct (consulted refused s₁ later₁) → KeysDistinct (consulted refused s₂ later₂) →
      Unused id operationId s₁ → Unused id operationId s₂ →
      (requestAnswer refused userId projectId key input now id operationId s₁ later₁ =
          requestAnswer refused userId projectId key input now id operationId s₂ later₂ ↔
        ForeignAlike projectId input.migrationArtifactId
          ((consulted refused s₁ later₁).foreignHolder? userId key)
          ((consulted refused s₂ later₂).foreignHolder? userId key))) ∧
    ∀ (c c' c'' : DatabaseConfig) (first : Uuid) (original : ProvisionDatabaseInput),
      CreatedBy c first key original →
      databaseSystem.Reaches databaseSystem.Unguarded c c' →
      databaseSystem.Reaches databaseSystem.Unguarded c' c'' →
      (AnsweredAsReuse first original projectId input
          (requestAnswer refused userId projectId key input now id operationId c'.store.store
            c''.store.store) ↔
        (projectId = first → input.migrationArtifactId = original.migrationArtifactId →
          input.region = original.region ∧
            input.approveDestructiveChanges = original.approveDestructiveChanges)) := by
  constructor
  · intro s₁ s₂ later₁ later₂ same same' distinct₁ distinct₂ unused₁ unused₂
    exact requestAnswer_eq_iff same same' distinct₁ distinct₂ unused₁ unused₂
  · intro c c' c'' first original created run run'
    refine (reuse_answer_iff created run run').trans ?_
    constructor
    · intro same same_project same_artifact
      rw [same same_project same_artifact]
      exact ⟨rfl, rfl⟩
    · intro same same_project same_artifact
      obtain ⟨region, approval⟩ := same same_project same_artifact
      obtain ⟨artifact, text, approved⟩ := input
      obtain ⟨artifact', text', approved'⟩ := original
      simp only at same_artifact region approval
      rw [same_artifact, region, approval]

section Scenario

/-- A database of another tenant. -/
def foreignDatabase : DatabaseInstance where
  id := 50
  operationId := 51
  workspaceId := 2
  projectId := 2
  migrationArtifactId := some 3
  idempotencyKey := "theirs"
  displayName := "blog"
  region := some "emea"

/-- One tenant alone. -/
def ownStore : DatabaseStore :=
  freshPlatform.store.store

/-- The same tenant beside another one. -/
def sharedStore : DatabaseStore :=
  { ownStore with instances := [foreignDatabase] }

/-- The request of the tenant. -/
def ownRequest : ProvisionDatabaseInput :=
  ⟨1, "emea", false⟩

lemma ownStore_same : SameForCaller 1 ownStore sharedStore :=
  ⟨fun _ => rfl, by decide, by decide, by decide⟩

lemma ownStore_distinct : KeysDistinct ownStore :=
  List.nodup_nil

lemma sharedStore_distinct : KeysDistinct sharedStore :=
  List.nodup_singleton _

lemma ownStore_unused : Unused 7 8 ownStore := by
  intro d mem
  cases mem

lemma sharedStore_unused : Unused 7 8 sharedStore := by
  intro d mem
  cases List.mem_singleton.mp mem
  decide

/-- The platform after the tenant's request. -/
def afterRequest : DatabaseConfig :=
  match createDatabaseOperation 1 1 "ours" ownRequest 0 7 8 ownStore with
  | .ok (_, s) => ⟨⟨s, []⟩, []⟩
  | .error _ => freshPlatform

lemma afterRequest_created : CreatedBy afterRequest 1 "ours" ownRequest := by
  refine ⟨1, 0, 7, 8, ownStore, ?_⟩
  exact ⟨_, rfl⟩

/-- `request_answer_iff` for a key that the other tenant does not use, and for the request made twice. -/
theorem request_answer_own :
    requestAnswer false 1 1 "ours" ownRequest 0 7 8 ownStore ownStore =
        requestAnswer false 1 1 "ours" ownRequest 0 7 8 sharedStore sharedStore ∧
      AnsweredAsReuse 1 ownRequest 1 ownRequest
        (requestAnswer false 1 1 "ours" ownRequest 0 7 8 afterRequest.store.store
          afterRequest.store.store) := by
  obtain ⟨tenants, reuse⟩ := request_answer_iff false 1 1 "ours" ownRequest 0 7 8
  constructor
  · exact (tenants _ _ _ _ ownStore_same ownStore_same ownStore_distinct sharedStore_distinct
      ownStore_unused sharedStore_unused).mpr trivial
  · exact (reuse _ _ _ 1 ownRequest afterRequest_created .refl .refl).mpr fun _ _ => ⟨rfl, rfl⟩

/-- With a key that the other tenant uses, the caller is told of a conflict; and a request for another
    region is answered with the database of the first one. -/
theorem request_answer_leaks :
    (¬ ∀ (userId projectId : Uuid) (key : String) (input : ProvisionDatabaseInput) (now : Date)
      (id operationId : Uuid) (s₁ s₂ : DatabaseStore), SameForCaller userId s₁ s₂ →
      KeysDistinct s₁ → KeysDistinct s₂ → Unused id operationId s₁ → Unused id operationId s₂ →
      requestAnswer false userId projectId key input now id operationId s₁ s₁ =
        requestAnswer false userId projectId key input now id operationId s₂ s₂) ∧
    ¬ ∀ (c : DatabaseConfig) (userId projectId : Uuid) (key : String)
      (original input : ProvisionDatabaseInput) (now : Date) (id operationId : Uuid),
      CreatedBy c projectId key original →
      AnsweredAsReuse projectId original projectId input
        (requestAnswer false userId projectId key input now id operationId c.store.store
          c.store.store) := by
  constructor
  · intro same
    have told := same 1 1 "theirs" ownRequest 0 7 8 ownStore sharedStore ownStore_same
      ownStore_distinct sharedStore_distinct ownStore_unused sharedStore_unused
    have different : requestAnswer false 1 1 "theirs" ownRequest 0 7 8 ownStore ownStore ≠
        requestAnswer false 1 1 "theirs" ownRequest 0 7 8 sharedStore sharedStore := by
      decide
    exact different told
  · intro sound
    have answered := sound afterRequest 1 1 "ours" ownRequest ⟨1, "apac", false⟩ 0 9 10
      afterRequest_created
    have conflict := answered.2 (by decide)
    have replayed : requestAnswer false 1 1 "ours" ⟨1, "apac", false⟩ 0 9 10 afterRequest.store.store
        afterRequest.store.store ≠ .ok .idempotencyConflict := by
      decide
    exact replayed conflict

end Scenario

end AtomsPlatform.Database
