import AtomsPlatform.Database.Provisioning
import AtomsPlatform.Database.System
import AtomsPlatform.Lib.Crashes
import AtomsPlatform.Lib.Interpretation

/-!
# Crash safety of provisioning

The provider's calls while it provisions a project, on the provider's service and on the secret store in
memory. Each may fail before or after it takes effect, and a request for a project may stop at any of
them. However many requests are made for an operation one after the other, a single project comes of
them, with a single password, and what a request returns leads to that project.
-/

namespace AtomsPlatform.Database
open Interleaving Stateful

/-- What the provider calls. -/
inductive ProviderCall where
  | listProjects
  | createDatabasePassword
  | createProject :
    (name organizationSlug : String) → (password : Text) → (region : String) → ProviderCall
  | put :
    (key value : Text) → ProviderCall
  | get :
    (reference : Text) → ProviderCall
  | revoke :
    (reference : Text) → ProviderCall

/-- The answers to calls. -/
abbrev ProviderCall.Answer : ProviderCall → Type
  | .listProjects => List SupabaseProject
  | .createProject .. => SupabaseProject
  | .createDatabasePassword | .put .. | .get _ => Text
  | .revoke _ => Unit

/-- Programs that call the service and the secret store. -/
abbrev ProviderProgram (α : Type) : Type :=
  Fallible ProviderCall ProviderCall.Answer Failure α

/-- A call. -/
def ask (o : ProviderCall) : ProviderProgram o.Answer :=
  invoke o

namespace SupabaseDatabaseProvider
variable (referenceForKey : Text → Except Failure Text)

/-- Source `#ensureOperationSecret`. -/
def ensureOperationSecret (operationId : String) : ProviderProgram Text := do
  let key := operationSecretKey operationId
  let reference ← ofExcept (referenceForKey key)
  tryCatch
    (do
      let _ ← ask (.get reference)
      pure reference)
    fun error =>
      if isMissingSecret error then do
        let password ← ask .createDatabasePassword
        ask (.put key password)
      else throw error

/-- The loop of `#recoverExisting` over the reference of the project's own secret. -/
def persistentReference (reference : Text) : ProviderProgram (Option Text) :=
  tryCatch
    (do
      let _ ← ask (.get reference)
      pure (some reference))
    fun error => if isMissingSecret error then pure none else throw error

/-- Source `#recoverExisting`. -/
def recoverExisting (input : ProvisionInput) (region : String) (project : SupabaseProject) :
    ProviderProgram DatabaseProvisionResult := do
  let externalId ← ofExcept (projectReference project)
  let persistentKey := persistentSecretKey externalId
  let candidate ← ofExcept (referenceForKey persistentKey)
  match ← persistentReference candidate with
  | some reference => ofExcept (toProvisionResult project region reference)
  | none => do
    let operationReference ← ofExcept (referenceForKey (operationSecretKey input.operationId))
    tryCatch
      (do
        let password ← ask (.get operationReference)
        let connectionSecretRef ←
          ask (.put persistentKey (createConnectionUri externalId password))
        ask (.revoke operationReference)
        ofExcept (toProvisionResult project region connectionSecretRef))
      fun error =>
        if isMissingSecret error then
          throw (.provider "ORPHANED_DATABASE_SECRET"
            "Existing Supabase project cannot be reconciled because its database secret is missing"
            false)
        else throw error

/-- The part of source `provision` for a project that does not exist yet. -/
def createProject (organizationSlug : String) (input : ProvisionInput) (region : String) :
    ProviderProgram DatabaseProvisionResult := do
  let operationReference ← ensureOperationSecret referenceForKey input.operationId
  let password ← ask (.get operationReference)
  let created ←
    ask (.createProject (deterministicProjectName input) organizationSlug password region)
  let externalId ← ofExcept (projectReference created)
  let connectionUri := createConnectionUri externalId password
  let connectionSecretRef ← ask (.put (persistentSecretKey externalId) connectionUri)
  ask (.revoke operationReference)
  ofExcept (toProvisionResult created region connectionSecretRef)

/-- Source `provision`. -/
def provision (organizationSlug : String) (input : ProvisionInput) (region : String) :
    ProviderProgram DatabaseProvisionResult := do
  let projects ← ask .listProjects
  match projects.find? fun project =>
    project.organizationSlug = some organizationSlug ∧
      project.name = deterministicProjectName input with
  | some existing => recoverExisting referenceForKey input region existing
  | none => createProject referenceForKey organizationSlug input region

end SupabaseDatabaseProvider

section Interpretation
variable {σ : Type} {store : SecretStore σ} {api : SupabaseApi} {password : Text} {now : Date}

/-- The calls carried out without failures on a given service and secret store. -/
def implementation (store : SecretStore σ) (api : SupabaseApi) (password : Text) (now : Date) :
    (o : ProviderCall) → Stateful Failure σ o.Answer
  | .listProjects => stateless api.listProjects
  | .createDatabasePassword => pure password
  | .createProject name _ password _ => stateless (api.createProject name password)
  | .put key value => store.put key value none
  | .get reference => store.get reference now
  | .revoke reference => store.revoke reference

variable (store password now) in
lemma interpret_ensureOperationSecret (operationId : String) :
    interpret (implementation store api password now)
      (SupabaseDatabaseProvider.ensureOperationSecret store.referenceForKey operationId) =
    ensureOperationSecret store operationId password now := by
  rw [SupabaseDatabaseProvider.ensureOperationSecret, ensureOperationSecret, interpret_bind,
    interpret_ofExcept]
  refine congrArg _ (funext fun reference => ?_)
  rw [interpret_tryCatch, interpret_bind, ask, interpret_invoke]
  refine congrArg _ (funext fun error => ?_)
  split
  · rw [interpret_bind, ask, interpret_invoke]
    rfl
  · rfl

variable (store password now) in
lemma interpret_recoverExisting (input : ProvisionInput) (region : String)
    (project : SupabaseProject) :
    interpret (implementation store api password now)
      (SupabaseDatabaseProvider.recoverExisting store.referenceForKey input region project) =
    recoverExisting store input region project now := by
  rw [SupabaseDatabaseProvider.recoverExisting, recoverExisting, interpret_bind, interpret_ofExcept]
  refine congrArg _ (funext fun externalId => ?_)
  rw [interpret_bind, interpret_ofExcept]
  refine congrArg _ (funext fun candidate => ?_)
  have looked : interpret (implementation store api password now)
      (SupabaseDatabaseProvider.persistentReference candidate) =
        persistentReference store candidate now := by
    rw [SupabaseDatabaseProvider.persistentReference, persistentReference, interpret_tryCatch,
      interpret_bind, ask, interpret_invoke]
    refine congrArg _ (funext fun error => ?_)
    split
    · rfl
    · rfl
  rw [interpret_bind, looked]
  refine congrArg _ (funext fun found => ?_)
  cases found with
  | some reference => exact interpret_ofExcept
  | none =>
    rw [interpret_bind, interpret_ofExcept]
    refine congrArg _ (funext fun operationReference => ?_)
    rw [interpret_tryCatch]
    simp only [interpret_bind, interpret_ofExcept, ask, interpret_invoke]
    refine congrArg _ (funext fun error => ?_)
    split
    · rfl
    · rfl

/-- Carried out on a service and a secret store, a request is `provisionProject`. -/
theorem interpret_provision (organizationSlug : String) (input : ProvisionInput) (region : String) :
    interpret (implementation store api password now)
      (SupabaseDatabaseProvider.provision store.referenceForKey organizationSlug input region) =
    provisionProject store api organizationSlug input region password now := by
  rw [SupabaseDatabaseProvider.provision, provisionProject, interpret_bind, ask, interpret_invoke]
  refine congrArg _ (funext fun projects => ?_)
  generalize (projects.find? _) = existing
  cases existing with
  | some existing => exact interpret_recoverExisting store password now input region existing
  | none =>
    dsimp only
    rw [SupabaseDatabaseProvider.createProject, createProject, interpret_bind,
      interpret_ensureOperationSecret]
    simp only [interpret_bind, interpret_ofExcept, ask, interpret_invoke]
    rfl

end Interpretation

section Service

/-- A project of the service, with the password it was created with. -/
structure CreatedProject where
  details : SupabaseProject
  password : Text
deriving DecidableEq, Repr

/-- What `projectReference` reads of a project. -/
def SupabaseProject.reference (project : SupabaseProject) : String :=
  (project.ref.or project.id).getD ""

/-- The projects of the service, all references it has handed out, and the secrets. -/
structure ProviderState where
  projects : List CreatedProject := []
  references : List String := []
  secrets : SecretMap := fun _ => none

/-- A new project. -/
def ProviderState.withProject (s : ProviderState) (project : CreatedProject) : ProviderState :=
  { s with
    projects := s.projects ++ [project]
    references := s.references ++ [project.details.reference] }

/-- A secret is stored or revoked. -/
def ProviderState.withSecret (s : ProviderState) (reference : Text) (secret : Option StoredSecret) :
    ProviderState :=
  { s with secrets := Function.update s.secrets reference secret }

/-- What the environment decides about one call. -/
structure ProviderChoice where
  fate : Fate := .commits
  now : Date := 0
  password : Text := []
  project : SupabaseProject := { name := "" }

/-- A call of the secret store. -/
def onSecrets {α : Type} (p : Stateful Failure SecretMap α) (s : ProviderState) :
    Except Failure α × ProviderState :=
  ((exec p s.secrets).1, { s with secrets := (exec p s.secrets).2 })

/-- The error of a service that has no new reference for a project. -/
def projectRefused : Failure :=
  .provider "SUPABASE_REQUEST_FAILED" "Supabase Management API returned HTTP 409" false

/-- What a call does where nothing fails. The service shows every project there is, and never hands
    out a reference twice. -/
def ProviderCall.respond :
    (o : ProviderCall) → ProviderChoice → ProviderState → Except Failure o.Answer × ProviderState
  | .listProjects, _, s => (.ok (s.projects.map CreatedProject.details), s)
  | .createDatabasePassword, ch, s => (.ok ch.password, s)
  | .createProject name organizationSlug password _, ch, s =>
    let details := { ch.project with name, organizationSlug := some organizationSlug }
    if details.reference ∈ s.references then (.error projectRefused, s)
    else (.ok details, s.withProject ⟨details, password⟩)
  | .put key value, _, s => onSecrets (inMemorySecretStore.put key value none) s
  | .get reference, ch, s => onSecrets (inMemorySecretStore.get reference ch.now) s
  | .revoke reference, _, s => onSecrets (inMemorySecretStore.revoke reference) s

/-- What a call does. -/
def ProviderCall.perform (o : ProviderCall) (ch : ProviderChoice) (s : ProviderState) :
    Except Failure o.Answer × ProviderState :=
  match ch.fate with
  | .commits => o.respond ch s
  | .aborts error => (.error error, s)
  | .unacknowledged error => (.error error, (o.respond ch s).2)

variable (organizationSlug : String) (input : ProvisionInput) (region : String)

/-- Requests for one operation, on the service and the secret store in memory. -/
def provisioning : System ProviderCall (fun o => Except Failure o.Answer) ProviderState Unit
    (Except Failure DatabaseProvisionResult) where
  Choice := ProviderChoice
  perform := ProviderCall.perform
  body _ :=
    (SupabaseDatabaseProvider.provision inMemorySecretStore.referenceForKey organizationSlug input
      region).run
  admits _ _ := True

instance (s : ProviderState) (t : Unit) :
    Decidable ((provisioning organizationSlug input region).admits s t) :=
  .isTrue trivial

/-- The projects with the name of the operation. -/
def ProviderState.named (s : ProviderState) : List CreatedProject :=
  s.projects.filter fun project =>
    project.details.organizationSlug = some organizationSlug ∧
      project.details.name = deterministicProjectName input

/-- The reference of the operation's secret. -/
def operationReference : Text :=
  memoryReference (operationSecretKey input.operationId)

/-- The reference of a project's secret. -/
def connectionReference (externalId : String) : Text :=
  memoryReference (persistentSecretKey externalId)

end Service

section Recovery
variable {organizationSlug : String} {input : ProvisionInput} {region : String}
  {s s' : ProviderState} {project : CreatedProject}

/-- Nothing has been done for the operation, and secrets belong to projects there are or have been. -/
structure Unprovisioned (organizationSlug : String) (input : ProvisionInput) (s : ProviderState) :
    Prop where
  named : s.named organizationSlug input = []
  operation : s.secrets (operationReference input) = none
  secured : ∀ externalId, s.secrets (connectionReference externalId) ≠ none →
    externalId ∈ s.references

/-- The states that requests leave behind: there is at most one project with the name of the operation,
    and the secrets that are left are those of that project. -/
structure Recoverable (organizationSlug : String) (input : ProvisionInput) (s : ProviderState) :
    Prop where
  secured : ∀ externalId, s.secrets (connectionReference externalId) ≠ none →
    externalId ∈ s.references
  single : (s.named organizationSlug input).length ≤ 1
  known : ∀ project ∈ s.named organizationSlug input, project.details.reference ∈ s.references
  lasting : ∀ secret, s.secrets (operationReference input) = some secret → secret.expiresAt = none
  password : ∀ project ∈ s.named organizationSlug input, ∀ secret,
    s.secrets (operationReference input) = some secret → secret.value = project.password
  connection : ∀ project ∈ s.named organizationSlug input, ∀ secret,
    s.secrets (connectionReference project.details.reference) = some secret →
      secret = ⟨createConnectionUri project.details.reference project.password, none⟩

/-- The operation's project and its secret stay. -/
def Keeps (organizationSlug : String) (input : ProvisionInput) (s s' : ProviderState) : Prop :=
  ∀ project ∈ s.named organizationSlug input, project ∈ s'.named organizationSlug input ∧
    ∀ secret, s.secrets (connectionReference project.details.reference) = some secret →
      s'.secrets (connectionReference project.details.reference) = some secret

/-- What is returned is the operation's project, and its secret is stored under the reference. -/
def Connected (organizationSlug : String) (input : ProvisionInput) (result : DatabaseProvisionResult)
    (s : ProviderState) : Prop :=
  ∃ project ∈ s.named organizationSlug input,
    projectReference project.details = .ok result.externalId ∧
    result.connectionSecretRef.toList = connectionReference project.details.reference ∧
    s.secrets (connectionReference project.details.reference) =
      some ⟨createConnectionUri result.externalId project.password, none⟩

lemma Unprovisioned.recoverable (start : Unprovisioned organizationSlug input s) :
    Recoverable organizationSlug input s where
  secured := start.secured
  single := by
    rw [start.named]
    exact Nat.zero_le _
  known project mem := by
    rw [start.named] at mem
    cases mem
  lasting secret there := by
    rw [start.operation] at there
    cases there
  password project mem := by
    rw [start.named] at mem
    cases mem
  connection project mem := by
    rw [start.named] at mem
    cases mem

lemma Keeps.refl : Keeps organizationSlug input s s :=
  fun _ mem => ⟨mem, fun _ there => there⟩

lemma Connected.kept {result : DatabaseProvisionResult} (keeps : Keeps organizationSlug input s s')
    (connected : Connected organizationSlug input result s) :
    Connected organizationSlug input result s' := by
  obtain ⟨project, mem, reference, stored, there⟩ := connected
  obtain ⟨mem', kept⟩ := keeps project mem
  exact ⟨project, mem', reference, stored, kept _ there⟩

lemma Recoverable.named_eq (recoverable : Recoverable organizationSlug input s)
    (mem : project ∈ s.named organizationSlug input) :
    s.named organizationSlug input = [project] := by
  obtain ⟨first, e⟩ : ∃ first, s.named organizationSlug input = [first] :=
    List.length_eq_one_iff.mp (Nat.le_antisymm recoverable.single (List.length_pos_of_mem mem))
  rw [e] at mem ⊢
  rw [List.mem_singleton.mp mem]

/-- The secrets of an operation and of a project have different references. -/
lemma operationReference_ne (externalId : String) :
    operationReference input ≠ connectionReference externalId := by
  intro same
  -- the keys begin with `database-` and `databases`
  have keys := congrArg (List.take 9) (List.append_cancel_left same)
  have left (rest : Text) : List.take 9 ("database-provisioning".toList ++ rest) =
      List.take 9 "database-provisioning".toList :=
    List.take_append_of_le_length (by decide)
  have right (rest : Text) : List.take 9 ("databases".toList ++ rest) = "databases".toList :=
    List.take_left' (by decide)
  rw [operationSecretKey, persistentSecretKey, List.intercalate_cons_cons,
    List.append_assoc, left, List.intercalate_cons_cons, List.append_assoc, right] at keys
  exact absurd keys (by decide)

lemma connectionReference_inj {externalId externalId' : String}
    (same : connectionReference externalId = connectionReference externalId') :
    externalId = externalId' := by
  have keys := List.append_cancel_left same
  simp only [persistentSecretKey, List.intercalate_cons_cons, List.intercalate_singleton,
    List.append_cancel_left_eq, List.append_cancel_right_eq] at keys
  exact String.toList_injective keys

lemma withSecret_self {secret : Option StoredSecret} {reference : Text} :
    (s.withSecret reference secret).secrets reference = secret := by
  show Function.update s.secrets reference secret reference = secret
  rw [Function.update_self]

lemma withSecret_of_ne {secret : Option StoredSecret} {reference other : Text}
    (ne : other ≠ reference) : (s.withSecret reference secret).secrets other = s.secrets other := by
  show Function.update s.secrets reference secret other = s.secrets other
  rw [Function.update_of_ne ne]

/-- Replacing the secret of the operation leaves the secrets of projects alone. -/
lemma operation_update {secret : Option StoredSecret} (externalId : String) :
    (s.withSecret (operationReference input) secret).secrets (connectionReference externalId) =
      s.secrets (connectionReference externalId) :=
  withSecret_of_ne (operationReference_ne externalId).symm

/-- Replacing the secret of a project leaves that of the operation alone. -/
lemma connection_update {secret : Option StoredSecret} (externalId : String) :
    (s.withSecret (connectionReference externalId) secret).secrets (operationReference input) =
      s.secrets (operationReference input) :=
  withSecret_of_ne (operationReference_ne externalId)

lemma named_withSecret {reference : Text} {secret : Option StoredSecret} :
    (s.withSecret reference secret).named organizationSlug input = s.named organizationSlug input :=
  rfl

/-- A password is stored before there is a project. -/
lemma Recoverable.password_stored (recoverable : Recoverable organizationSlug input s)
    (unnamed : s.named organizationSlug input = []) (password : Text) :
    Recoverable organizationSlug input
      (s.withSecret (operationReference input) (some ⟨password, none⟩)) where
  secured externalId there := by
    rw [operation_update] at there
    exact recoverable.secured externalId there
  single := recoverable.single
  known := recoverable.known
  lasting secret there := by
    cases withSecret_self.symm.trans there
    rfl
  password project mem := by
    rw [named_withSecret, unnamed] at mem
    cases mem
  connection project mem := by
    rw [named_withSecret, unnamed] at mem
    cases mem

/-- The password is revoked. -/
lemma Recoverable.password_revoked (recoverable : Recoverable organizationSlug input s) :
    Recoverable organizationSlug input (s.withSecret (operationReference input) none) where
  secured externalId there := by
    rw [operation_update] at there
    exact recoverable.secured externalId there
  single := recoverable.single
  known := recoverable.known
  lasting secret there := by
    cases withSecret_self.symm.trans there
  password project mem secret there := by
    cases withSecret_self.symm.trans there
  connection project mem secret there := by
    rw [operation_update] at there
    exact recoverable.connection project mem secret there

/-- A new project with the name of the operation is the only one. -/
lemma named_withProject (unnamed : s.named organizationSlug input = [])
    (own : project.details.organizationSlug = some organizationSlug)
    (name : project.details.name = deterministicProjectName input) :
    (s.withProject project).named organizationSlug input = [project] := by
  have others : s.projects.filter _ = [] := unnamed
  rw [ProviderState.named, ProviderState.withProject, List.filter_append, others, List.nil_append]
  exact List.filter_cons_of_pos (by simp [own, name])

/-- A project is created with the operation's password. -/
lemma Recoverable.project_created (recoverable : Recoverable organizationSlug input s)
    (named : (s.withProject project).named organizationSlug input = [project])
    (fresh : project.details.reference ∉ s.references)
    (stored : ∀ secret, s.secrets (operationReference input) = some secret →
      secret.value = project.password) :
    Recoverable organizationSlug input (s.withProject project) where
  secured externalId there := List.mem_append_left _ (recoverable.secured externalId there)
  single := by
    rw [named]
    exact Nat.le_refl _
  known project' mem := by
    rw [named] at mem
    rw [List.mem_singleton.mp mem]
    exact List.mem_append_right _ (List.mem_singleton_self _)
  lasting := recoverable.lasting
  password project' mem secret there := by
    rw [named] at mem
    rw [List.mem_singleton.mp mem]
    exact stored secret there
  connection project' mem secret there := by
    -- no secret has the new reference
    rw [named] at mem
    rw [List.mem_singleton.mp mem] at there
    have taken : s.secrets (connectionReference project.details.reference) ≠ none := by
      rw [show s.secrets (connectionReference project.details.reference) = _ from there]
      exact Option.some_ne_none _
    exact absurd (recoverable.secured _ taken) fresh

/-- The connection of the project is stored. -/
lemma Recoverable.connection_stored (recoverable : Recoverable organizationSlug input s)
    (named : s.named organizationSlug input = [project]) :
    Recoverable organizationSlug input
      (s.withSecret (connectionReference project.details.reference)
        (some ⟨createConnectionUri project.details.reference project.password, none⟩)) where
  secured externalId there := by
    by_cases same : externalId = project.details.reference
    · rw [same]
      exact recoverable.known project (by rw [named]; exact List.mem_singleton_self _)
    · apply recoverable.secured externalId
      have other : connectionReference externalId ≠ connectionReference project.details.reference :=
        fun e => same (connectionReference_inj e)
      rwa [withSecret_of_ne other] at there
  single := recoverable.single
  known := recoverable.known
  lasting secret there := by
    rw [connection_update] at there
    exact recoverable.lasting secret there
  password project' mem secret there := by
    rw [connection_update] at there
    exact recoverable.password project' mem secret there
  connection project' mem secret there := by
    rw [named_withSecret, named] at mem
    rw [List.mem_singleton.mp mem] at there ⊢
    cases withSecret_self.symm.trans there
    rfl

section Calls
variable {P : ProviderState → Prop}

/-- What is asked of the calls: passwords are generated and projects created only while there is no
    project with the name of the operation. -/
def Timely (organizationSlug : String) (input : ProvisionInput) :
    ProviderCall → ProviderState → Prop
  | .createDatabasePassword, s | .createProject .., s => s.named organizationSlug input = []
  | _, _ => True

variable (organizationSlug input region) in
/-- The judgement by what a request leaves behind wherever it stops. -/
abbrev leaving : Judgement ProviderCall (fun o => Except Failure o.Answer) ProviderState :=
  (provisioning organizationSlug input region).crashing (Timely organizationSlug input) fun s s' =>
    Recoverable organizationSlug input s' ∧ Keeps organizationSlug input s s'

/-- A call is answered, or fails before or after it takes effect. -/
lemma ProviderCall.perform_cases (o : ProviderCall) (ch : ProviderChoice) (s : ProviderState) :
    o.perform ch s = o.respond ch s ∨ (∃ error, o.perform ch s = (.error error, s)) ∨
      ∃ error, o.perform ch s = (.error error, (o.respond ch s).2) := by
  cases fate : ch.fate with
  | commits => exact .inl (by simp only [ProviderCall.perform, fate])
  | aborts error => exact .inr (.inl ⟨error, by simp only [ProviderCall.perform, fate]⟩)
  | unacknowledged error => exact .inr (.inr ⟨error, by simp only [ProviderCall.perform, fate]⟩)

/-- The rule of calls: a call fails before or after it takes effect, or is answered. -/
lemma ask_triple {o : ProviderCall} {Q : o.Answer → ProviderState → Prop}
    {E : Failure → ProviderState → Prop}
    (before : ∀ s, P s → Recoverable organizationSlug input s ∧ Timely organizationSlug input o s ∧
      ∀ error, E error s)
    (after : ∀ s ch, P s → Recoverable organizationSlug input (o.respond ch s).2 ∧
      Keeps organizationSlug input s (o.respond ch s).2 ∧
      (∀ a, (o.respond ch s).1 = .ok a → Q a (o.respond ch s).2) ∧
      ∀ error, E error (o.respond ch s).2) :
    Triple (leaving organizationSlug input region) P (ask o) Q E := by
  refine .invoke fun s holds => ?_
  obtain ⟨recoverable, timely, failed⟩ := before s holds
  refine ⟨timely, fun ch => ?_⟩
  obtain ⟨recoverable', keeps, answered, failed'⟩ := after s ch holds
  show (Recoverable organizationSlug input (o.perform ch s).2 ∧
      Keeps organizationSlug input s (o.perform ch s).2) ∧
    Outcome (fun a => Q a (o.perform ch s).2) (fun e => E e (o.perform ch s).2) (o.perform ch s).1
  rcases o.perform_cases ch s with done | ⟨error, done⟩ | ⟨error, done⟩
  · rw [done]
    refine ⟨⟨recoverable', keeps⟩, ?_⟩
    cases e : (o.respond ch s).1 with
    | ok a => exact answered a e
    | error error => exact failed' error
  · rw [done]
    exact ⟨⟨recoverable, .refl⟩, failed error⟩
  · rw [done]
    exact ⟨⟨recoverable', keeps⟩, failed' error⟩

/-- The rule of computations that are no calls. -/
lemma ofExcept_triple {α β : Type} {r : Except Failure α} {f : α → ProviderProgram β}
    {Q : β → ProviderState → Prop} {E : Failure → ProviderState → Prop}
    (onOk : ∀ a, r = .ok a → Triple (leaving organizationSlug input region) P (f a) Q E)
    (onError : ∀ error s, P s → E error s) :
    Triple (leaving organizationSlug input region) P (ofExcept r >>= f) Q E := by
  cases r with
  | ok a => exact onOk a rfl
  | error error => exact .throw (onError error)

/-- What a lasting secret's reference is read as. -/
lemma get_lasting {reference : Text} {now : Date}
    (lasting : ∀ secret, s.secrets reference = some secret → secret.expiresAt = none) :
    onSecrets (inMemorySecretStore.get reference now) s =
      match s.secrets reference with
      | none => (.error secretNotFound, s)
      | some secret => (.ok secret.value, s) := by
  have read := get_memory reference now s.secrets
  rw [onSecrets, show inMemorySecretStore.get = InMemorySecretStore.get from rfl, read]
  cases there : s.secrets reference with
  | none => rfl
  | some secret =>
    have fresh : secret.expired now = false := by
      rw [StoredSecret.expired, lasting secret there]
      rfl
    simp [fresh]

/-- A secret is stored under a key. -/
lemma put_stored {key value : Text} (canonical : Canonical key) :
    onSecrets (inMemorySecretStore.put key value none) s =
      (.ok (memoryReference key), s.withSecret (memoryReference key) (some ⟨value, none⟩)) := by
  have put : exec (InMemorySecretStore.put key value none) s.secrets = _ :=
    put_memory canonical.normalized.normalizeKey
  rw [onSecrets, show inMemorySecretStore.put = InMemorySecretStore.put from rfl, put]
  rfl

/-- Reading a lasting secret. -/
lemma get_triple {reference : Text}
    (before : ∀ s, P s → Recoverable organizationSlug input s ∧
      ∀ secret, s.secrets reference = some secret → secret.expiresAt = none) :
    Triple (leaving organizationSlug input region) P (ask (.get reference))
      (fun value s => P s ∧ ∃ secret, s.secrets reference = some secret ∧ secret.value = value)
      fun _ => P := by
  refine ask_triple (fun s holds => ⟨(before s holds).1, trivial, fun _ => holds⟩) ?_
  intro s ch holds
  obtain ⟨recoverable, lasting⟩ := before s holds
  have read : (ProviderCall.get reference).respond ch s = _ := get_lasting lasting
  cases there : s.secrets reference with
  | none =>
    rw [there] at read
    rw [read]
    exact ⟨recoverable, .refl, fun _ e => (nomatch e), fun _ => holds⟩
  | some secret =>
    rw [there] at read
    rw [read]
    refine ⟨recoverable, .refl, ?_, fun _ => holds⟩
    intro value e
    cases e
    exact ⟨holds, secret, there, rfl⟩

/-- Storing a secret. -/
lemma put_triple {key value : Text} (canonical : Canonical key) {Q : Text → ProviderState → Prop}
    {E : Failure → ProviderState → Prop}
    (before : ∀ s, P s → Recoverable organizationSlug input s ∧ ∀ error, E error s)
    (after : ∀ s, P s →
      let s' := s.withSecret (memoryReference key) (some ⟨value, none⟩)
      Recoverable organizationSlug input s' ∧ Keeps organizationSlug input s s' ∧
        Q (memoryReference key) s' ∧ ∀ error, E error s') :
    Triple (leaving organizationSlug input region) P (ask (.put key value)) Q E := by
  refine ask_triple (fun s holds => ⟨(before s holds).1, trivial, (before s holds).2⟩) ?_
  intro s ch holds
  obtain ⟨recoverable, keeps, stored, failed⟩ := after s holds
  have put : (ProviderCall.put key value).respond ch s = _ := put_stored canonical
  rw [put]
  refine ⟨recoverable, keeps, ?_, failed⟩
  intro reference e
  cases e
  exact stored

end Calls

section Requests

/-- There is no project with the name of the operation. -/
def Unnamed (organizationSlug : String) (input : ProvisionInput) (s : ProviderState) : Prop :=
  Recoverable organizationSlug input s ∧ s.named organizationSlug input = []

/-- The operation has its project. -/
def Named (organizationSlug : String) (input : ProvisionInput) (project : CreatedProject)
    (s : ProviderState) : Prop :=
  Recoverable organizationSlug input s ∧ s.named organizationSlug input = [project]

/-- The secret of the project is its connection. -/
def Stored (project : CreatedProject) (s : ProviderState) : Prop :=
  s.secrets (connectionReference project.details.reference) =
    some ⟨createConnectionUri project.details.reference project.password, none⟩

lemma projectReference_ok {details : SupabaseProject} {externalId : String}
    (reference : projectReference details = .ok externalId) : externalId = details.reference := by
  rw [projectReference, parseExternalId] at reference
  split at reference
  · cases reference
    rfl
  · cases reference

lemma operationReference_ok :
    inMemorySecretStore.referenceForKey (operationSecretKey input.operationId) =
      .ok (operationReference input) :=
  referenceForKey_memory (operationSecretKey_canonical input).normalized.normalizeKey

lemma connectionReference_ok {details : SupabaseProject} {externalId : String}
    (reference : projectReference details = .ok externalId) :
    inMemorySecretStore.referenceForKey (persistentSecretKey externalId) =
      .ok (connectionReference externalId) :=
  referenceForKey_memory (persistentSecretKey_canonical reference).normalized.normalizeKey

/-- What leads to a project is returned. -/
lemma result_triple {externalId : String}
    (reference : projectReference project.details = .ok externalId) :
    Triple (leaving organizationSlug input region)
      (fun s => Named organizationSlug input project s ∧ Stored project s)
      (ofExcept (toProvisionResult project.details region (connectionReference externalId)))
      (Connected organizationSlug input) fun _ _ => True := by
  have result : toProvisionResult project.details region (connectionReference externalId) =
      .ok ⟨externalId, "postgres", project.details.region.getD region,
        String.ofList (connectionReference externalId)⟩ := by
    rw [toProvisionResult, reference]
    rfl
  rw [result]
  refine .pure fun s holds => ⟨project, ?_, reference, ?_, ?_⟩
  · rw [holds.1.2]
    exact List.mem_singleton_self _
  · rw [String.toList_ofList, projectReference_ok reference]
  · rw [projectReference_ok reference]
    exact holds.2

/-- The password of the operation becomes the connection of its project. -/
lemma connect_triple {externalId password : _} {α : Type} {f : Text → ProviderProgram α}
    (reference : projectReference project.details = .ok externalId)
    {Q : α → ProviderState → Prop} {E : Failure → ProviderState → Prop}
    (failed : ∀ error s, Named organizationSlug input project s → E error s)
    (next : Triple (leaving organizationSlug input region)
      (fun s => Named organizationSlug input project s ∧ Stored project s)
      (f (connectionReference externalId)) Q E) :
    Triple (leaving organizationSlug input region)
      (fun s => Named organizationSlug input project s ∧ password = project.password)
      (do
        let connectionSecretRef ←
          ask (.put (persistentSecretKey externalId) (createConnectionUri externalId password))
        ask (.revoke (operationReference input))
        f connectionSecretRef) Q E := by
  have same := projectReference_ok reference
  refine .bind (R := fun connection s => (Named organizationSlug input project s ∧ Stored project s) ∧
    connection = connectionReference externalId) ?_ fun connection => ?_
  · refine put_triple (persistentSecretKey_canonical reference) ?_ ?_
    · exact fun s holds => ⟨holds.1.1, fun error => failed error s holds.1⟩
    · intro s holds
      obtain ⟨⟨recoverable, named⟩, password⟩ := holds
      rw [same, password]
      have stored := recoverable.connection_stored named
      refine ⟨stored, ?_, ⟨⟨⟨stored, named⟩, withSecret_self⟩, rfl⟩, fun error => failed _ _ ⟨stored, named⟩⟩
      intro project' mem
      refine ⟨mem, fun secret there => ?_⟩
      rw [recoverable.connection project' mem secret there]
      rw [named] at mem
      rw [List.mem_singleton.mp mem]
      exact withSecret_self
  · refine .extract (fun s holds => holds.2) fun connected => ?_
    rw [connected]
    refine .bind (R := fun _ s => Named organizationSlug input project s ∧ Stored project s) ?_
      fun _ => next
    refine ask_triple ?_ ?_
    · exact fun s holds => ⟨holds.1.1.1, trivial, fun error => failed error s holds.1.1⟩
    · intro s ch holds
      obtain ⟨⟨⟨recoverable, named⟩, stored⟩, -⟩ := holds
      have revoked := recoverable.password_revoked
      refine ⟨revoked, ?_, ?_, fun error => failed _ _ ⟨revoked, named⟩⟩
      · intro project' mem
        refine ⟨mem, fun secret there => ?_⟩
        exact (operation_update _).trans there
      · intro _ _
        exact ⟨⟨revoked, named⟩, (operation_update _).trans stored⟩

/-- The project's own secret is found, if it is there. -/
lemma persistentReference_triple :
    Triple (leaving organizationSlug input region) (Named organizationSlug input project)
      (SupabaseDatabaseProvider.persistentReference
        (connectionReference project.details.reference))
      (fun found s => Named organizationSlug input project s ∧
        ∀ reference, found = some reference →
          reference = connectionReference project.details.reference ∧ Stored project s)
      fun _ _ => True := by
  refine .tryCatch (R := fun _ => Named organizationSlug input project) ?_ fun error => ?_
  · refine .bind (get_triple fun s holds => ⟨holds.1, ?_⟩) fun value => .pure ?_
    · intro secret there
      have mem : project ∈ s.named organizationSlug input := by
        rw [holds.2]
        exact List.mem_singleton_self _
      rw [holds.1.connection project mem secret there]
    · intro s holds
      obtain ⟨named, secret, there, -⟩ := holds
      refine ⟨named, fun reference e => ?_⟩
      cases e
      have mem : project ∈ s.named organizationSlug input := by
        rw [named.2]
        exact List.mem_singleton_self _
      refine ⟨rfl, there.trans ?_⟩
      rw [named.1.connection project mem secret there]
  · split
    · exact .pure fun s named => ⟨named, fun _ e => nomatch e⟩
    · exact .throw fun _ _ => trivial

/-- The project of the operation is recovered with its password. -/
lemma recoverExisting_triple :
    Triple (leaving organizationSlug input region) (Named organizationSlug input project)
      (SupabaseDatabaseProvider.recoverExisting inMemorySecretStore.referenceForKey input region
        project.details)
      (Connected organizationSlug input) fun _ _ => True := by
  refine ofExcept_triple (fun externalId reference => ?_) fun _ _ _ => trivial
  refine ofExcept_triple (fun candidate known => ?_) fun _ _ _ => trivial
  cases (connectionReference_ok reference).symm.trans known
  have same := projectReference_ok reference
  refine .bind (by rw [same]; exact persistentReference_triple) fun found => ?_
  cases found with
  | some connection =>
    refine .extract (fun s holds => (holds.2 connection rfl).1) fun connected => ?_
    rw [connected, ← same]
    exact (result_triple reference).mono (fun s holds => ⟨holds.1, (holds.2 _ rfl).2⟩)
      (fun _ _ holds => holds) fun _ _ _ => trivial
  | none =>
    refine ofExcept_triple (fun operation known => ?_) fun _ _ _ => trivial
    cases operationReference_ok.symm.trans known
    refine .tryCatch (R := fun _ _ => True) ?_ fun error => ?_
    · refine .bind (R := fun password s => Named organizationSlug input project s ∧
        password = project.password) ?_ fun password => ?_
      · refine Triple.mono (get_triple (P := Named organizationSlug input project) ?_)
          (fun s holds => holds.1) ?_ fun _ _ _ => trivial
        · exact fun s named => ⟨named.1, named.1.lasting⟩
        · intro password s holds
          obtain ⟨named, secret, there, value⟩ := holds
          have mem : project ∈ s.named organizationSlug input := by
            rw [named.2]
            exact List.mem_singleton_self _
          exact ⟨named, value.symm.trans (named.1.password project mem secret there)⟩
      · exact connect_triple reference (fun _ _ _ => trivial) (result_triple reference)
    · split
      · exact .throw fun _ _ => trivial
      · exact .throw fun _ _ => trivial

/-- A password is there before a project is created. -/
lemma ensureOperationSecret_triple :
    Triple (leaving organizationSlug input region) (Unnamed organizationSlug input)
      (SupabaseDatabaseProvider.ensureOperationSecret inMemorySecretStore.referenceForKey
        input.operationId)
      (fun reference s => Unnamed organizationSlug input s ∧ reference = operationReference input)
      fun _ _ => True := by
  refine ofExcept_triple (fun reference known => ?_) fun _ _ _ => trivial
  cases operationReference_ok.symm.trans known
  refine .tryCatch (R := fun _ => Unnamed organizationSlug input) ?_ fun error => ?_
  · refine .bind (get_triple fun s unnamed => ⟨unnamed.1, unnamed.1.lasting⟩) fun value => ?_
    exact .pure fun s holds => ⟨holds.1, rfl⟩
  · split
    · refine .bind (R := fun _ => Unnamed organizationSlug input) ?_ fun password => ?_
      · refine ask_triple (fun s unnamed => ⟨unnamed.1, unnamed.2, fun _ => trivial⟩) ?_
        exact fun s ch unnamed => ⟨unnamed.1, .refl, fun _ _ => unnamed, fun _ => trivial⟩
      · refine put_triple (operationSecretKey_canonical input)
          (fun s unnamed => ⟨unnamed.1, fun _ => trivial⟩) ?_
        intro s unnamed
        obtain ⟨recoverable, none⟩ := unnamed
        have stored := recoverable.password_stored none password
        refine ⟨stored, ?_, ⟨⟨stored, none⟩, rfl⟩, fun _ => trivial⟩
        intro project mem
        rw [none] at mem
        cases mem
    · exact .throw fun _ _ => trivial

/-- The project that the service creates is the operation's. -/
lemma create_triple {password : Text} :
    Triple (leaving organizationSlug input region)
      (fun s => Unnamed organizationSlug input s ∧
        ∃ secret, s.secrets (operationReference input) = some secret ∧ secret.value = password)
      (ask (.createProject (deterministicProjectName input) organizationSlug password region))
      (fun created s => Named organizationSlug input ⟨created, password⟩ s) fun _ _ => True := by
  refine ask_triple (fun s holds => ⟨holds.1.1, holds.1.2, fun _ => trivial⟩) ?_
  intro s ch holds
  obtain ⟨⟨recoverable, none⟩, secret, there, value⟩ := holds
  let details : SupabaseProject :=
    { ch.project with
      name := deterministicProjectName input
      organizationSlug := some organizationSlug }
  have responded : (ProviderCall.createProject (deterministicProjectName input) organizationSlug
      password region).respond ch s =
        if details.reference ∈ s.references then (.error projectRefused, s)
        else (.ok details, s.withProject ⟨details, password⟩) := rfl
  rw [responded]
  split
  · exact ⟨recoverable, .refl, fun _ e => (nomatch e), fun _ => trivial⟩
  · rename_i fresh
    have named : (s.withProject ⟨details, password⟩).named organizationSlug input =
        [⟨details, password⟩] := named_withProject none rfl rfl
    have created := recoverable.project_created named fresh (fun secret' there' => by
      cases there.symm.trans there'
      exact value)
    refine ⟨created, ?_, ?_, fun _ => trivial⟩
    · intro project mem
      rw [none] at mem
      cases mem
    · intro answer e
      cases e
      exact ⟨created, named⟩

/-- The new project is connected. -/
lemma created_triple {created : SupabaseProject} {password : Text} :
    Triple (leaving organizationSlug input region)
      (Named organizationSlug input ⟨created, password⟩)
      (do
        let externalId ← ofExcept (projectReference created)
        let connectionSecretRef ←
          ask (.put (persistentSecretKey externalId) (createConnectionUri externalId password))
        ask (.revoke (operationReference input))
        ofExcept (toProvisionResult created region connectionSecretRef))
      (Connected organizationSlug input) fun _ _ => True := by
  refine ofExcept_triple (fun externalId reference => ?_) fun _ _ _ => trivial
  have reference : projectReference (CreatedProject.mk created password).details =
    .ok externalId := reference
  refine Triple.mono (P := fun s => Named organizationSlug input ⟨created, password⟩ s ∧
    password = (CreatedProject.mk created password).password) ?_ (fun s named => ⟨named, rfl⟩)
    (fun _ _ holds => holds) fun _ _ holds => holds
  exact connect_triple
    (f := fun connectionSecretRef => ofExcept (toProvisionResult created region connectionSecretRef))
    reference (fun _ _ _ => trivial) (result_triple reference)

/-- A project is created with the password that is stored for the operation. -/
lemma createProject_triple :
    Triple (leaving organizationSlug input region) (Unnamed organizationSlug input)
      (SupabaseDatabaseProvider.createProject inMemorySecretStore.referenceForKey organizationSlug
        input region)
      (Connected organizationSlug input) fun _ _ => True := by
  refine .bind ensureOperationSecret_triple fun reference => ?_
  refine .extract (fun s holds => holds.2) fun known => ?_
  rw [known]
  refine .bind (R := fun password s => Unnamed organizationSlug input s ∧
    ∃ secret, s.secrets (operationReference input) = some secret ∧ secret.value = password) ?_
    fun password => ?_
  · refine Triple.mono (get_triple (P := Unnamed organizationSlug input) ?_) (fun s holds => holds.1)
      (fun _ _ holds => holds) fun _ _ _ => trivial
    exact fun s unnamed => ⟨unnamed.1, unnamed.1.lasting⟩
  exact .bind create_triple fun created => created_triple

/-- A request leaves a recoverable state wherever it stops, and what it returns leads to the project of
    the operation. -/
lemma provision_triple :
    Triple (leaving organizationSlug input region) (Recoverable organizationSlug input)
      (SupabaseDatabaseProvider.provision inMemorySecretStore.referenceForKey organizationSlug input
        region)
      (Connected organizationSlug input) fun _ _ => True := by
  refine .bind (R := fun projects s => Recoverable organizationSlug input s ∧
    projects = s.projects.map CreatedProject.details) ?_ fun projects => ?_
  · refine ask_triple (fun s recoverable => ⟨recoverable, trivial, fun _ => trivial⟩) ?_
    intro s ch recoverable
    refine ⟨recoverable, .refl, ?_, fun _ => trivial⟩
    intro projects e
    cases e
    exact ⟨recoverable, rfl⟩
  intro s holds
  obtain ⟨recoverable, listed⟩ := holds
  cases found : projects.find? fun project =>
      project.organizationSlug = some organizationSlug ∧
        project.name = deterministicProjectName input with
  | some existing =>
    have own := List.find?_some found
    have mem := List.mem_of_find?_eq_some found
    rw [listed] at mem
    obtain ⟨project, mem, e⟩ := List.mem_map.mp mem
    rw [← e] at own ⊢
    have named : project ∈ s.named organizationSlug input := List.mem_filter.mpr ⟨mem, own⟩
    exact recoverExisting_triple s ⟨recoverable, recoverable.named_eq named⟩
  | none =>
    have unnamed : s.named organizationSlug input = [] := by
      refine List.filter_eq_nil_iff.mpr fun project mem own => ?_
      rw [listed] at found
      exact List.find?_eq_none.mp found _ (List.mem_map_of_mem mem) own
    exact createProject_triple s ⟨recoverable, unnamed⟩

end Requests

end Recovery

section Safety

/-- However many requests are made for an operation, one after the other, and wherever they stop or
    fail: there is at most one project with the name of the operation, no password is generated when
    there is one, and the secret of every request that has returned is the connection to that project,
    with the password it was created with. -/
theorem provisioning_crash_safe (organizationSlug : String) (input : ProvisionInput) (region : String)
    (c₀ c : Config ProviderCall (fun o => Except Failure o.Answer) ProviderState Unit
      (Except Failure DatabaseProvisionResult))
    (h : List (_ × (provisioning organizationSlug input region).Label))
    (idle : c₀.threads = []) (start : Unprovisioned organizationSlug input c₀.store)
    (traced : (provisioning organizationSlug input region).Traced
      (provisioning organizationSlug input region).Sequential c₀ h c) :
    (c.store.named organizationSlug input).length ≤ 1 ∧
    (∀ before c₁ i ch after, h = before ++ (c₁, .act i .createDatabasePassword ch) :: after →
      c₁.store.named organizationSlug input = []) ∧
    ∀ result, ⟨(), .ret (.ok result)⟩ ∈ c.threads →
      ∃ project ∈ c.store.named organizationSlug input,
        projectReference project.details = .ok result.externalId ∧
        c.store.secrets result.connectionSecretRef.toList =
          some ⟨createConnectionUri result.externalId project.password, none⟩ := by
  let Q (_ : Unit) (r : Except Failure DatabaseProvisionResult) (s : ProviderState) : Prop :=
    ∀ result, r = .ok result → Connected organizationSlug input result s
  have body : ∀ t s, (provisioning organizationSlug input region).admits s t →
      Recoverable organizationSlug input s →
      ((provisioning organizationSlug input region).body t).Satisfies
        (leaving organizationSlug input region) (Q t) s := by
    intro t s _ recoverable
    refine (provision_triple s recoverable).mono fun r s outcome result e => ?_
    rw [e] at outcome
    exact outcome
  have stable : ∀ t r s s', Keeps organizationSlug input s s' → Q t r s → Q t r s' :=
    fun _ _ _ _ keeps connected result e => (connected result e).kept keeps
  obtain ⟨recoverable, results, timely⟩ :=
    traced.crash_safe idle start.recoverable body stable
  refine ⟨recoverable.single, ?_, ?_⟩
  · intro before c₁ i ch after split
    exact timely before c₁ i .createDatabasePassword ch after split
  · intro result mem
    obtain ⟨project, named, reference, stored, there⟩ := results () (.ok result) mem result rfl
    refine ⟨project, named, reference, ?_⟩
    rw [stored]
    exact there

/-- What a thread has returned. -/
def returned (c : Config ProviderCall (fun o => Except Failure o.Answer) ProviderState Unit
    (Except Failure DatabaseProvisionResult)) (i : Nat) : Option DatabaseProvisionResult :=
  match c.threads[i]? with
  | some ⟨_, .ret (.ok result)⟩ => some result
  | _ => none

/-- Requests for the staging database. -/
abbrev stagingProvisioning : System ProviderCall (fun o => Except Failure o.Answer) ProviderState Unit
    (Except Failure DatabaseProvisionResult) :=
  provisioning "atoms" shortName "emea"

/-- Before the first request. -/
def nothingProvisioned : Config ProviderCall (fun o => Except Failure o.Answer) ProviderState Unit
    (Except Failure DatabaseProvisionResult) :=
  ⟨{}, []⟩

/-- The answer to the creation of a project is lost, and a second request recovers the project. -/
def lostResponse : List stagingProvisioning.Move :=
  [.spawn (), .act 0 {}, .act 0 {}, .act 0 { password := "secret".toList }, .act 0 {}, .act 0 {},
    .act 0 { fate := .unacknowledged projectRefused
             project := { ref := some "abc", name := "" } },
    .spawn (), .act 1 {}, .act 1 {}, .act 1 {}, .act 1 {}, .act 1 {}]

/-- `provisioning_crash_safe` when the answer to the creation of a project is lost. -/
theorem provisioning_crash_safe_lost :
    ∃ c result, stagingProvisioning.Reaches stagingProvisioning.Sequential nothingProvisioned c ∧
      returned c 1 = some result ∧
      ∃ project ∈ c.store.named "atoms" shortName,
        projectReference project.details = .ok result.externalId ∧
        c.store.secrets result.connectionSecretRef.toList =
          some ⟨createConnectionUri result.externalId project.password, none⟩ := by
  have run : ((System.executeUnder (S := stagingProvisioning) stagingProvisioning.Sequential
      nothingProvisioned lostResponse).any fun c => (returned c 1).isSome) = true := by
    decide
  obtain ⟨c, e, done⟩ := (Option.any_eq_true _ _).mp run
  obtain ⟨result, at_second⟩ := Option.isSome_iff_exists.mp done
  have reached := System.executeUnder_reaches e
  obtain ⟨h, traced⟩ := reached.traced
  have mem : ⟨(), .ret (.ok result)⟩ ∈ c.threads := by
    rw [returned] at at_second
    split at at_second
    · rename_i at_i
      cases at_second
      exact List.mem_of_getElem? at_i
    · cases at_second
  have start : Unprovisioned "atoms" shortName nothingProvisioned.store :=
    ⟨rfl, rfl, fun _ there => absurd rfl there⟩
  have safe := provisioning_crash_safe "atoms" shortName "emea" nothingProvisioned c h rfl start traced
  exact ⟨c, result, reached, at_second, safe.2.2 result mem⟩

end Safety

end AtomsPlatform.Database
