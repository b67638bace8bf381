import AtomsPlatform.Database.ManagedNames
import AtomsPlatform.Database.SecretRefinement
import AtomsPlatform.Database.Repository

/-!
# Provisioning with a secret store

The provider puts the password of a new project in its secret store before it creates the project.
With the store in memory a first request succeeds; with the Vault store it fails, since the provider
does not recognise the answer for a secret that is not there.
-/

namespace AtomsPlatform.Database
open Stateful

/-- What the provider's service answers. -/
structure SupabaseApi where
  listProjects : Except Failure (List SupabaseProject)
  createProject : (name : String) → (password : Text) → Except Failure SupabaseProject

/-- Source `operationSecretKey`: `database-provisioning/${operationId}/password`. -/
def operationSecretKey (operationId : String) : Text :=
  ['/'].intercalate ["database-provisioning".toList, operationId.toList, "password".toList]

/-- Source `persistentSecretKey`: `databases/supabase/${externalId}/connection`. -/
def persistentSecretKey (externalId : String) : Text :=
  ['/'].intercalate
    ["databases".toList, "supabase".toList, externalId.toList, "connection".toList]

/-- Source `createConnectionUri`; the generated passwords need no escapes. -/
def createConnectionUri (externalId : String) (password : Text) : Text :=
  "postgresql://postgres:".toList ++ password ++ "@db.".toList ++ externalId.toList ++
    ".supabase.co:5432/postgres?sslmode=require".toList

/-- Source `toProvisionResult`. -/
def toProvisionResult (project : SupabaseProject) (requestedRegion : String)
    (connectionSecretRef : Text) : Except Failure DatabaseProvisionResult :=
  (projectReference project).map fun externalId =>
    { externalId
      databaseName := "postgres"
      region := project.region.getD requestedRegion
      connectionSecretRef := String.ofList connectionSecretRef }

/-- The codes that the provider takes for a secret that is not there. -/
def isMissingSecret : Failure → Bool
  | .secretStore code _ _ => code = "SECRET_NOT_FOUND" || code = "INVALID_SECRET_REFERENCE"
  | _ => false

section Provider
variable {σ : Type} (store : SecretStore σ)

/-- Source `#ensureOperationSecret`; `password` is generated. -/
def ensureOperationSecret (operationId : String) (password : Text) (now : Date) :
    Stateful Failure σ Text := do
  let key := operationSecretKey operationId
  let reference ← stateless (store.referenceForKey key)
  tryCatch
    (do
      let _ ← store.get reference now
      pure reference)
    fun error => if isMissingSecret error then store.put key password none else throw error

/-- The loop of `#recoverExisting` over the reference of the project's own secret. -/
def persistentReference (reference : Text) (now : Date) : Stateful Failure σ (Option Text) :=
  tryCatch
    (do
      let _ ← store.get reference now
      pure (some reference))
    fun error => if isMissingSecret error then pure none else throw error

/-- Source `#recoverExisting`. -/
def recoverExisting (input : ProvisionInput) (region : String) (project : SupabaseProject)
    (now : Date) : Stateful Failure σ DatabaseProvisionResult := do
  let externalId ← stateless (projectReference project)
  let persistentKey := persistentSecretKey externalId
  let candidate ← stateless (store.referenceForKey persistentKey)
  match ← persistentReference store candidate now with
  | some reference => stateless (toProvisionResult project region reference)
  | none => do
    let operationReference ←
      stateless (store.referenceForKey (operationSecretKey input.operationId))
    tryCatch
      (do
        let password ← store.get operationReference now
        let connectionSecretRef ←
          store.put persistentKey (createConnectionUri externalId password) none
        store.revoke operationReference
        stateless (toProvisionResult project region connectionSecretRef))
      fun error =>
        if isMissingSecret error then
          throw (.provider "ORPHANED_DATABASE_SECRET"
            "Existing Supabase project cannot be reconciled because its database secret is missing"
            false)
        else throw error

/-- The part of source `provision` for a project that does not exist yet. -/
def createProject (api : SupabaseApi) (input : ProvisionInput) (region : String) (password : Text)
    (now : Date) : Stateful Failure σ DatabaseProvisionResult := do
  let operationReference ← ensureOperationSecret store input.operationId password now
  let password ← store.get operationReference now
  let created ← stateless (api.createProject (deterministicProjectName input) password)
  let externalId ← stateless (projectReference created)
  let connectionUri := createConnectionUri externalId password
  let connectionSecretRef ← store.put (persistentSecretKey externalId) connectionUri none
  store.revoke operationReference
  stateless (toProvisionResult created region connectionSecretRef)

/-- Source `provision`; `password` is generated. -/
def provisionProject (api : SupabaseApi) (organizationSlug : String) (input : ProvisionInput)
    (region : String) (password : Text) (now : Date) :
    Stateful Failure σ DatabaseProvisionResult := do
  let projects ← stateless api.listProjects
  match projects.find? fun project =>
    project.organizationSlug = some organizationSlug ∧
      project.name = deterministicProjectName input with
  | some existing => recoverExisting store input region existing now
  | none => createProject store api input region password now

end Provider

section Stores
variable {σ : Type}

/-- A store that keeps secrets by their keys, and refuses the keys it does not have with the error
    `absent`. -/
structure KeepsSecrets (store : SecretStore σ) (reference : Text → Text)
    (secrets : σ → Text → Option StoredSecret) (absent : Failure) : Prop where
  referenceForKey : ∀ {k}, Canonical k → store.referenceForKey k = .ok (reference k)
  put : ∀ {k value expiresAt s}, Canonical k →
    ∃ s', exec (store.put k value expiresAt) s = (.ok (reference k), s') ∧
      secrets s' k = some ⟨value, expiresAt⟩
  missing : ∀ {k now s}, Canonical k → secrets s k = none →
    exec (store.get (reference k) now) s = (.error absent, s)
  expired : ∀ {k now s secret}, Canonical k → secrets s k = some secret →
    secret.expired now = true → ∃ s', exec (store.get (reference k) now) s = (.error secretExpired, s')
  got : ∀ {k now s secret}, Canonical k → secrets s k = some secret →
    secret.expired now = false → exec (store.get (reference k) now) s = (.ok secret.value, s)
  revoke : ∀ {k s}, Canonical k → ∃ s', exec (store.revoke (reference k)) s = (.ok (), s')

lemma memory_keepsSecrets :
    KeepsSecrets inMemorySecretStore memoryReference (fun values k => values (memoryReference k))
      secretNotFound where
  referenceForKey canonical := referenceForKey_memory canonical.normalized.normalizeKey
  put canonical := ⟨_, put_memory canonical.normalized.normalizeKey, Function.update_self ..⟩
  missing _ there := (get_memory _ _ _).trans (by rw [there])
  expired _ there expired := ⟨_, (get_memory _ _ _).trans (by rw [there]; exact if_pos expired)⟩
  got _ there fresh := (get_memory _ _ _).trans (by rw [there]; simp [fresh])
  revoke _ := ⟨_, exec_transition⟩

lemma vault_keepsSecrets {mount : Text} (single : '/' ∉ mount) :
    KeepsSecrets (vaultSecretStore mount) (vaultReference mount) KvServer.secrets
      (VaultSecretStore.requestFailed 404) where
  referenceForKey canonical := referenceForKey_vault canonical.normalized.normalizeKey
  put canonical :=
    ⟨_, put_vault canonical.normalized.normalizeKey canonical, Function.update_self ..⟩
  missing canonical there := (get_vault _ _ single canonical).trans (by rw [there])
  expired canonical there expired :=
    ⟨_, (get_vault _ _ single canonical).trans (by rw [there]; exact if_pos expired)⟩
  got canonical there fresh := (get_vault _ _ single canonical).trans (by rw [there]; simp [fresh])
  revoke canonical := ⟨_, revoke_vault single canonical⟩

end Stores

section Names
variable {externalId : String}

/-- The characters of a UUID, and its length. -/
lemma operationId_part (input : ProvisionInput) :
    Part input.operationId.toList ∧ input.operationId.toList.length ≤ 36 := by
  have mem := (RegularExpression.rmatch_iff_matches' _ _).mp input.uuid
  have plain : ∀ c ∈ Regex.letters uuidPattern, (isKeyCharacter c = true ∧ c ≠ '/') ∧ c ≠ '.' :=
    List.all_iff_forall_prop.mp (by decide +kernel)
  have dotless {text : Text} (dot : '.' ∈ text) : input.operationId.toList ≠ text := by
    rintro rfl
    exact (plain _ (Regex.mem_letters mem dot)).2 rfl
  refine ⟨⟨?_, fun c inside => (plain c (Regex.mem_letters mem inside)).1, ?_, ?_⟩, ?_⟩
  · obtain ⟨first, second, rest, e, ⟨eight, -⟩, -⟩ := operationId_groups input
    rw [e]
    exact List.append_ne_nil_of_right_ne_nil _ (List.cons_ne_nil _ _)
  · exact dotless (by decide)
  · exact dotless (by decide)
  · exact Regex.length_le_longest mem (by decide)

lemma operationSecretKey_canonical (input : ProvisionInput) :
    Canonical (operationSecretKey input.operationId) := by
  obtain ⟨part, short⟩ := operationId_part input
  refine canonical_of_parts (List.cons_ne_nil _ _) (fun text mem => ?_) ?_
  · obtain rfl | mem := List.mem_cons.mp mem
    · exact ⟨by decide, List.all_iff_forall_prop.mp (by decide), by decide⟩
    obtain rfl | mem := List.mem_cons.mp mem
    · exact part
    · rw [List.mem_singleton.mp mem]
      exact ⟨by decide, List.all_iff_forall_prop.mp (by decide), by decide⟩
  · have first : "database-provisioning".toList.length = 21 := by decide
    have last : "password".toList.length = 8 := by decide
    simp only [List.intercalate_cons_cons, List.intercalate_singleton, List.length_append, first, last,
      List.length_singleton]
    omega

lemma persistentSecretKey_canonical {project : SupabaseProject}
    (reference : projectReference project = .ok externalId) :
    Canonical (persistentSecretKey externalId) := by
  rw [projectReference, parseExternalId] at reference
  split at reference
  · rename_i accepted
    cases reference
    obtain ⟨nonempty, short, characters⟩ := accepted
    generalize (project.ref.or project.id).getD "" = externalId at nonempty short characters ⊢
    have plain (c : Char) (mem : c ∈ externalId.toList) :
        (isKeyCharacter c = true ∧ c ≠ '/') ∧ c ≠ '.' := by
      have accepted := List.all_eq_true.mp characters c mem
      refine ⟨⟨?_, ?_⟩, ?_⟩
      · simp only [Bool.or_eq_true] at accepted
        simp only [isKeyCharacter, Bool.or_eq_true]
        tauto
      · rintro rfl
        revert accepted
        decide
      · rintro rfl
        revert accepted
        decide
    have part : Part externalId.toList := by
      refine ⟨?_, fun c mem => (plain c mem).1, ?_, ?_⟩
      · intro empty
        rw [← String.length_toList, empty] at nonempty
        exact absurd nonempty (by decide)
      all_goals
        intro dots
        exact (plain '.' (by rw [dots]; decide)).2 rfl
    refine canonical_of_parts (List.cons_ne_nil _ _) (fun text mem => ?_) ?_
    · obtain rfl | mem := List.mem_cons.mp mem
      · exact ⟨by decide, List.all_iff_forall_prop.mp (by decide), by decide⟩
      obtain rfl | mem := List.mem_cons.mp mem
      · exact ⟨by decide, List.all_iff_forall_prop.mp (by decide), by decide⟩
      obtain rfl | mem := List.mem_cons.mp mem
      · exact part
      · rw [List.mem_singleton.mp mem]
        exact ⟨by decide, List.all_iff_forall_prop.mp (by decide), by decide⟩
    · have first : "databases".toList.length = 9 := by decide
      have second : "supabase".toList.length = 8 := by decide
      have last : "connection".toList.length = 10 := by decide
      simp only [List.intercalate_cons_cons, List.intercalate_singleton, List.length_append, first,
        second, last, String.length_toList, List.length_singleton]
      omega
  · cases reference

end Names

section Creation
variable {σ : Type} {store : SecretStore σ} {reference : Text → Text}
  {secrets : σ → Text → Option StoredSecret} {absent : Failure} {s : σ} {api : SupabaseApi}
  {input : ProvisionInput} {region : String} {password : Text} {now : Date}

/-- A service that creates the projects it is asked for. -/
def Creates (api : SupabaseApi) (input : ProvisionInput) : Prop :=
  ∀ password, ∃ created externalId,
    api.createProject (deterministicProjectName input) password = .ok created ∧
      projectReference created = .ok externalId

/-- The secret of an operation can be used, or is created. -/
def Obtains (secret? : Option StoredSecret) (absent : Failure) (now : Date) : Prop :=
  match secret? with
  | none => isMissingSecret absent = true
  | some secret => secret.expired now = false

/-- With the secret of its operation, a project is created. -/
lemma createProject_ok (keeps : KeepsSecrets store reference secrets absent)
    (creates : Creates api input)
    (obtains : Obtains (secrets s (operationSecretKey input.operationId)) absent now) :
    ∃ result s', exec (createProject store api input region password now) s = (.ok result, s') := by
  have canonical := operationSecretKey_canonical input
  obtain ⟨s₁, secret, ensured, there, fresh⟩ : ∃ s₁ secret,
      exec (ensureOperationSecret store input.operationId password now) s =
        (.ok (reference (operationSecretKey input.operationId)), s₁) ∧
      secrets s₁ (operationSecretKey input.operationId) = some secret ∧
      secret.expired now = false := by
    cases there : secrets s (operationSecretKey input.operationId) with
    | none =>
      rw [there] at obtains
      obtain ⟨s₁, put, stored⟩ : ∃ s₁, exec (store.put (operationSecretKey input.operationId)
          password none) s = (.ok (reference (operationSecretKey input.operationId)), s₁) ∧
          secrets s₁ (operationSecretKey input.operationId) = some ⟨password, none⟩ :=
        keeps.put canonical
      refine ⟨s₁, _, ?_, stored, rfl⟩
      rw [ensureOperationSecret, exec_stateless_ok (keeps.referenceForKey canonical),
        exec_tryCatch_error (exec_bind_error (keeps.missing canonical there))]
      rw [if_pos (show isMissingSecret absent = true from obtains)]
      exact put
    | some secret =>
      rw [there] at obtains
      refine ⟨s, secret, ?_, there, obtains⟩
      rw [ensureOperationSecret, exec_stateless_ok (keeps.referenceForKey canonical)]
      exact exec_tryCatch_ok (exec_bind_ok (keeps.got canonical there obtains))
  obtain ⟨created, externalId, posted, referenced⟩ := creates secret.value
  have persistent := persistentSecretKey_canonical referenced
  obtain ⟨s₂, put, -⟩ : ∃ s₂, exec (store.put (persistentSecretKey externalId)
      (createConnectionUri externalId secret.value) none) s₁ =
        (.ok (reference (persistentSecretKey externalId)), s₂) ∧
          secrets s₂ (persistentSecretKey externalId) =
            some ⟨createConnectionUri externalId secret.value, none⟩ :=
    keeps.put persistent
  obtain ⟨s₃, revoked⟩ := keeps.revoke (s := s₂) canonical
  rw [createProject, exec_bind_ok ensured, exec_bind_ok (keeps.got canonical there fresh),
    exec_stateless_ok posted, exec_stateless_ok referenced, exec_bind_ok put, exec_bind_ok revoked,
    exec_stateless, toProvisionResult, referenced]
  exact ⟨_, s₃, rfl⟩

variable (api region password) in
/-- Without it, the request fails before a project is created. -/
lemma createProject_error (keeps : KeepsSecrets store reference secrets absent)
    (lacks : ¬ Obtains (secrets s (operationSecretKey input.operationId)) absent now) :
    ∃ error s', exec (createProject store api input region password now) s = (.error error, s') := by
  have canonical := operationSecretKey_canonical input
  cases there : secrets s (operationSecretKey input.operationId) with
  | none =>
    rw [there] at lacks
    refine ⟨absent, s, exec_bind_error ?_⟩
    rw [ensureOperationSecret, exec_stateless_ok (keeps.referenceForKey canonical),
      exec_tryCatch_error (exec_bind_error (keeps.missing canonical there)),
      if_neg (show ¬ isMissingSecret absent = true from lacks), exec_throw]
  | some secret =>
    rw [there] at lacks
    have expired : secret.expired now = true := eq_true_of_ne_false lacks
    obtain ⟨s', read⟩ := keeps.expired canonical there expired
    refine ⟨secretExpired, s', exec_bind_error ?_⟩
    rw [ensureOperationSecret, exec_stateless_ok (keeps.referenceForKey canonical),
      exec_tryCatch_error (exec_bind_error read)]
    rfl

/-- A first request succeeds exactly if it obtains the secret of its operation. -/
lemma provisionProject_iff {organizationSlug : String} {projects : List SupabaseProject}
    (keeps : KeepsSecrets store reference secrets absent) (creates : Creates api input)
    (listed : api.listProjects = .ok projects)
    (new : ∀ project ∈ projects, project.name ≠ deterministicProjectName input) :
    (∃ result s', exec (provisionProject store api organizationSlug input region password now) s =
        (.ok result, s')) ↔
      Obtains (secrets s (operationSecretKey input.operationId)) absent now := by
  have none : (projects.find? fun project => project.organizationSlug = some organizationSlug ∧
      project.name = deterministicProjectName input) = none := by
    rw [List.find?_eq_none]
    intro project mem
    simp [new project mem]
  have start : exec (provisionProject store api organizationSlug input region password now) s =
      exec (createProject store api input region password now) s := by
    rw [provisionProject, exec_stateless_ok listed, none]
  rw [start]
  constructor
  · rintro ⟨result, s', done⟩
    by_contra lacks
    obtain ⟨error, s'', failed⟩ :=
      createProject_error api region password keeps lacks
    cases done.symm.trans failed
  · exact createProject_ok keeps creates

end Creation

section Stores
open Simulation

/-- A secret is stored and read. -/
def storedAndRead : List SecretOperation :=
  [.put ['a'] "value".toList none, .get ['a'] 0]

/-- A secret is read that was never stored. -/
def readOnly : List SecretOperation :=
  [.get ['a'] 0]

lemma normalizeKey_a : normalizeKey ['a'] = .ok ['a'] := by
  rfl

lemma plain_a {o : SecretOperation} (key : o.key = ['a']) : o.Plain := by
  intro k ok
  rw [key] at ok
  cases normalizeKey_a.symm.trans ok
  decide

end Stores

end AtomsPlatform.Database
