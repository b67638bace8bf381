import AtomsPlatform.Database.SecretStores
import AtomsPlatform.Lib.Simulation
import Mathlib

/-!
# The Vault store and the store in memory

Both stores in the same run of operations. They answer alike as long as what is read is there: the
Vault store takes a key that is not there for a refused one.
-/

namespace AtomsPlatform.Database
open Stateful

section Keys
variable {key : Text}

/-- A key as it is stored. -/
structure Normalized (key : Text) : Prop where
  length : 1 ≤ key.length ∧ key.length ≤ 400
  characters : ∀ c ∈ key, isKeyCharacter c = true
  parts : ∀ segment ∈ segments key, segment ≠ [] ∧ segment ≠ ['.', '.']

lemma not_isSpace {c : Char} (character : isKeyCharacter c = true) : isSpace c = false := by
  simp only [isKeyCharacter, Char.isAlphanum, Char.isAlpha, Char.isUpper, Char.isLower,
    Char.isDigit, Bool.or_eq_true, Bool.and_eq_true, decide_eq_true_eq, ge_iff_le,
    UInt32.le_iff_toNat_le] at character
  have code : c.val.toNat = c.toNat := rfl
  obtain (((letter | rfl) | rfl) | rfl) | rfl := character
  · have bounds : ((65 ≤ c.toNat ∧ c.toNat ≤ 90) ∨ (97 ≤ c.toNat ∧ c.toNat ≤ 122)) ∨
        (48 ≤ c.toNat ∧ c.toNat ≤ 57) := letter
    simp only [isSpace, Bool.or_eq_false_iff, Bool.and_eq_false_iff, decide_eq_false_iff_not,
      List.mem_cons, List.not_mem_nil, or_false]
    omega
  all_goals rfl

/-- What is normalized is normalized. -/
lemma normalized_of_ok {value : Text} (ok : normalizeKey value = .ok key) : Normalized key := by
  simp only [normalizeKey] at ok
  split at ok
  · rename_i accepted
    split at ok
    · cases ok
    · rename_i valid
      cases ok
      obtain ⟨-, short, characters⟩ := accepted
      have part := Words.trim_sublist '/' ((value.dropWhile isSpace).rdropWhile isSpace)
      rw [Bool.not_eq_true, List.any_eq_false] at valid
      refine ⟨⟨?_, part.length_le.trans short⟩, fun c mem => ?_, fun segment mem => ?_⟩
      · by_contra empty
        rw [Nat.not_le, Nat.lt_one_iff, List.length_eq_zero_iff] at empty
        rw [empty] at valid
        exact absurd (valid [] (List.mem_singleton_self _)) (by decide)
      · exact List.all_eq_true.mp characters c (part.subset mem)
      · have checked := valid segment mem
        simpa [and_comm] using checked
  · cases ok

/-- A key neither starts nor ends with a slash. -/
lemma Normalized.bare (normalized : Normalized key) : Words.trim '/' key = key := by
  refine Words.trim_eq_self (fun start => ?_) fun stop => ?_
  · obtain ⟨rest, rfl⟩ := List.head?_eq_some_iff.mp start
    have first : [] ∈ segments ('/' :: rest) := by
      simp [segments, List.splitOn_cons_eq_if_modifyHead]
    exact (normalized.parts [] first).1 rfl
  · obtain ⟨rest, rfl⟩ := List.getLast?_eq_some_iff.mp stop
    have last : [] ∈ segments (rest ++ ['/']) := by
      rw [segments, List.splitOn_append_cons_self]
      simp
    exact (normalized.parts [] last).1 rfl

/-- A normalized key stays as it is. -/
lemma Normalized.normalizeKey (normalized : Normalized key) : normalizeKey key = .ok key := by
  obtain ⟨nonempty, short⟩ := normalized.length
  have kept {p : Char → Bool} (not : ∀ c ∈ key, p c = false) :
      (key.dropWhile p).rdropWhile p = key := by
    have start : key.dropWhile p = key :=
      List.dropWhile_eq_self_iff.mpr fun _ => by simp [not _ (List.getElem_mem _)]
    rw [start]
    exact List.rdropWhile_eq_self_iff.mpr fun _ => by simp [not _ (List.getLast_mem _)]
  have trimmed := kept fun c mem => not_isSpace (normalized.characters c mem)
  have valid : ((segments key).any fun segment => segment = ['.', '.'] || segment.isEmpty) = false := by
    rw [List.any_eq_false]
    intro segment mem
    obtain ⟨some, other⟩ := normalized.parts segment mem
    simp [some, other]
  rw [Database.normalizeKey, trimmed]
  simp [nonempty, short, List.all_eq_true.mpr normalized.characters, normalized.bare, valid]

/-- A key that a URL leaves as it is. -/
structure Canonical (key : Text) : Prop where
  normalized : Normalized key
  dotless : ['.'] ∉ segments key

lemma resolveSegments_eq {resolved rest : List Text}
    (plain : ∀ segment ∈ rest, segment ≠ ['.'] ∧ segment ≠ ['.', '.']) :
    resolveSegments resolved rest = resolved ++ rest := by
  fun_induction resolveSegments resolved rest with
  | case1 => exact (List.append_nil _).symm
  | case2 => exact absurd rfl (plain _ List.mem_cons_self).2
  | case3 => exact absurd rfl (plain _ List.mem_cons_self).1
  | case4 => rfl
  | case5 => exact absurd rfl (plain _ List.mem_cons_self).2
  | case6 => exact absurd rfl (plain _ List.mem_cons_self).1
  | case7 resolved segment rest _ _ _ ih =>
    rw [ih fun segment mem => plain segment (List.mem_cons_of_mem _ mem), List.append_assoc]
    rfl

lemma Canonical.resolvePath (canonical : Canonical key) : resolvePath key = key := by
  have plain : ∀ segment ∈ segments key, segment ≠ ['.'] ∧ segment ≠ ['.', '.'] :=
    fun segment mem => ⟨fun same => canonical.dotless (same ▸ mem),
      (canonical.normalized.parts segment mem).2⟩
  rw [Database.resolvePath, resolveSegments_eq plain]
  exact List.intercalate_splitOn '/'

/-- The reference of a key in memory. -/
def memoryReference (key : Text) : Text :=
  "memory://".toList ++ key

/-- The reference of a key in the Vault store. -/
def vaultReference (mount key : Text) : Text :=
  "vault://".toList ++ mount ++ ['/'] ++ key

/-- A reference of the Vault store leads back to its key. -/
lemma parseReference_vaultReference {mount : Text} (single : '/' ∉ mount)
    (canonical : Canonical key) :
    VaultSecretStore.parseReference mount (vaultReference mount key) = .ok key := by
  have host : (mount ++ '/' :: key).takeWhile (fun c => !decide (c = '/')) = mount := by
    rw [List.takeWhile_append_of_pos]
    · simp
    · intro c mem
      have ne : c ≠ '/' := fun same => single (same ▸ mem)
      simp [ne]
  have text : vaultReference mount key =
      ['v', 'a', 'u', 'l', 't', ':', '/', '/'] ++ mount ++ ['/'] ++ key := rfl
  have url : parseUrl (vaultReference mount key) =
      some ⟨['v', 'a', 'u', 'l', 't', ':'], mount, '/' :: key⟩ := by
    rw [text]
    simp [parseUrl, host, canonical.resolvePath]
  have protocol : "vault:".toList = ['v', 'a', 'u', 'l', 't', ':'] := rfl
  rw [VaultSecretStore.parseReference, url, protocol]
  simp [canonical.normalized.normalizeKey]

end Keys

/-- The error of a key that is not in memory. -/
def secretNotFound : Failure :=
  .secretStore "SECRET_NOT_FOUND" "Secret reference was not found" false

section Memory
variable {key k value reference : Text} {expiresAt : Option Date} {now : Date} {values : SecretMap}
  {error : Failure}

lemma referenceForKey_memory (ok : normalizeKey key = .ok k) :
    InMemorySecretStore.referenceForKey key = .ok (memoryReference k) := by
  rw [InMemorySecretStore.referenceForKey, ok]
  rfl

lemma put_memory (ok : normalizeKey key = .ok k) :
    exec (InMemorySecretStore.put key value expiresAt) values =
      (.ok (memoryReference k), Function.update values (memoryReference k) (some ⟨value, expiresAt⟩)) := by
  have again := referenceForKey_memory (normalized_of_ok ok).normalizeKey
  rw [InMemorySecretStore.put, ok, exec_bind_ok exec_stateless, again, exec_bind_ok exec_stateless,
    exec_bind_ok exec_transition, exec_pure]

lemma put_memory_error (refused : normalizeKey key = .error error) :
    exec (InMemorySecretStore.put key value expiresAt) values = (.error error, values) := by
  rw [InMemorySecretStore.put, refused, exec_bind_error exec_stateless]

/-- What is read in memory, and what is left there. -/
lemma get_memory (reference : Text) (now : Date) (values : SecretMap) :
    exec (InMemorySecretStore.get reference now) values =
    match values reference with
    | none => (.error secretNotFound, values)
    | some secret =>
      if secret.expired now then (.error secretExpired, Function.update values reference none)
      else (.ok secret.value, values) := by
  rw [InMemorySecretStore.get, exec_bind_ok exec_transition]
  cases values reference with
  | none => rfl
  | some secret =>
    dsimp only
    split
    · rfl
    · rfl

end Memory

section Vault
variable {mount key k value : Text} {expiresAt : Option Date} {now : Date} {server : KvServer}
  {error : Failure}

lemma referenceForKey_vault (ok : normalizeKey key = .ok k) :
    VaultSecretStore.referenceForKey mount key = .ok (vaultReference mount k) := by
  rw [VaultSecretStore.referenceForKey, ok]
  rfl

lemma put_vault (ok : normalizeKey key = .ok k) (canonical : Canonical k) :
    exec (VaultSecretStore.put mount key value expiresAt) server =
      (.ok (vaultReference mount k),
        ⟨Function.update server.secrets k (some ⟨value, expiresAt⟩)⟩) := by
  have stored : exec (VaultSecretStore.request .post .data k (some ⟨value, expiresAt⟩) false) server =
      (.ok none, ⟨Function.update server.secrets k (some ⟨value, expiresAt⟩)⟩) := by
    rw [VaultSecretStore.request, canonical.resolvePath, exec_bind_ok exec_transition]
    rfl
  rw [VaultSecretStore.put, ok, exec_bind_ok exec_stateless, exec_bind_ok stored,
    referenceForKey_vault canonical.normalized.normalizeKey, exec_stateless]

lemma put_vault_error (refused : normalizeKey key = .error error) :
    exec (VaultSecretStore.put mount key value expiresAt) server = (.error error, server) := by
  rw [VaultSecretStore.put, refused, exec_bind_error exec_stateless]

/-- A revoked key is gone, whether or not it was there. -/
lemma revoke_vault (single : '/' ∉ mount) (canonical : Canonical k) :
    exec (VaultSecretStore.revoke mount (vaultReference mount k)) server =
      (.ok (), ⟨Function.update server.secrets k none⟩) := by
  have removed : exec (VaultSecretStore.request .delete .metadata k none true) server =
      (.ok none, ⟨Function.update server.secrets k none⟩) := by
    rw [VaultSecretStore.request, canonical.resolvePath, exec_bind_ok exec_transition]
    cases there : server.secrets k with
    | some secret => simp [KvServer.respond, there]
    | none =>
      have same : Function.update server.secrets k none = server.secrets := by
        rw [← there, Function.update_eq_self]
      simp [KvServer.respond, there, same]
  rw [VaultSecretStore.revoke, parseReference_vaultReference single canonical,
    exec_bind_ok exec_stateless, exec_bind_ok removed, exec_pure]

/-- What is read on the server, and what is left there. -/
lemma get_vault (now : Date) (server : KvServer) (single : '/' ∉ mount) (canonical : Canonical k) :
    exec (VaultSecretStore.get mount (vaultReference mount k) now) server =
      match server.secrets k with
      | none => (.error (VaultSecretStore.requestFailed 404), server)
      | some secret =>
        if secret.expired now then
          (.error secretExpired, ⟨Function.update server.secrets k none⟩)
        else (.ok secret.value, server) := by
  rw [VaultSecretStore.get, parseReference_vaultReference single canonical,
    exec_bind_ok exec_stateless]
  cases there : server.secrets k with
  | none =>
    refine exec_bind_error ?_
    rw [VaultSecretStore.request, canonical.resolvePath, exec_bind_ok exec_transition]
    simp [KvServer.respond, there]
  | some secret =>
    have read : exec (VaultSecretStore.request .get .data k none false) server =
        (.ok (some secret), server) := by
      rw [VaultSecretStore.request, canonical.resolvePath, exec_bind_ok exec_transition]
      simp [KvServer.respond, there]
    rw [exec_bind_ok read]
    dsimp only
    split
    · rw [exec_bind_ok (revoke_vault single canonical), exec_throw]
    · rfl

end Vault

section Leases
variable {σ : Type} {store : SecretStore σ} {reference value reference' uuid : Text}
  {scope : DatabaseConnectionScope} {ttlMs : Nat} {now later : Date} {s s' s'' : σ}
  {error : Failure}

lemma createLease_granted (limit : assertLeaseTtl ttlMs = .ok ())
    (got : exec (store.get reference now) s = (.ok value, s'))
    (stored : exec (store.put (leaseKey scope uuid) value (some (later + ttlMs))) s' =
      (.ok reference', s'')) :
    exec (store.createLease reference scope ttlMs now later uuid) s =
      (.ok ⟨reference', later + ttlMs⟩, s'') := by
  rw [SecretStore.createLease, exec_stateless_ok limit, exec_bind_ok got, exec_bind_ok stored,
    exec_pure]

lemma createLease_refused (limit : assertLeaseTtl ttlMs = .ok ())
    (refused : exec (store.get reference now) s = (.error error, s')) :
    exec (store.createLease reference scope ttlMs now later uuid) s = (.error error, s') := by
  rw [SecretStore.createLease, exec_stateless_ok limit, exec_bind_error refused]

end Leases

section Parts
variable {parts : List Text}

/-- A segment that a key may be made of. -/
structure Part (text : Text) : Prop where
  nonempty : text ≠ []
  characters : ∀ c ∈ text, isKeyCharacter c = true ∧ c ≠ '/'
  dotless : text ≠ ['.'] ∧ text ≠ ['.', '.']

/-- A key made of such segments is in canonical form. -/
lemma canonical_of_parts (some : parts ≠ []) (valid : ∀ part ∈ parts, Part part)
    (length : 1 ≤ (['/'].intercalate parts).length ∧ (['/'].intercalate parts).length ≤ 400) :
    Canonical (['/'].intercalate parts) := by
  have split : segments (['/'].intercalate parts) = parts :=
    List.splitOn_intercalate '/' (fun part mem slash => ((valid part mem).characters _ slash).2 rfl)
      some
  refine ⟨⟨length, fun c mem => ?_, fun segment mem => ?_⟩, fun mem => ?_⟩
  · obtain rfl | ⟨part, mem, inside⟩ := Words.mem_intercalate mem
    · rfl
    · exact ((valid part mem).characters c inside).1
  · rw [split] at mem
    exact ⟨(valid segment mem).nonempty, (valid segment mem).dotless.2⟩
  · rw [split] at mem
    exact (valid _ mem).dotless.1 rfl

lemma part_uuid (uuid : RandomUuid) : Part uuid.text := by
  have digits : ∀ c ∈ "0123456789abcdef-".toList,
      (isKeyCharacter c = true ∧ c ≠ '/') ∧ c ≠ '.' :=
    List.all_iff_forall_prop.mp (by decide)
  have long {text : Text} (short : text.length < 36) : uuid.text ≠ text := by
    rintro rfl
    rw [uuid.length] at short
    exact absurd short (Nat.lt_irrefl _)
  refine ⟨long (by decide), fun c mem => (digits c (uuid.characters c mem)).1, long (by decide), ?_⟩
  exact long (by decide)

lemma part_scope (scope : DatabaseConnectionScope) : Part scope.name := by
  cases scope <;> exact ⟨by decide, List.all_iff_forall_prop.mp (by decide), by decide⟩

/-- The keys of leases are in canonical form. -/
lemma leaseKey_canonical {scope : DatabaseConnectionScope} {uuid : RandomUuid} :
    Canonical (leaseKey scope uuid.text) := by
  refine canonical_of_parts (List.cons_ne_nil _ _) (fun part mem => ?_) ?_
  · obtain rfl | mem := List.mem_cons.mp mem
    · exact ⟨by decide, List.all_iff_forall_prop.mp (by decide), by decide⟩
    obtain rfl | mem := List.mem_cons.mp mem
    · exact part_scope scope
    · rw [List.mem_singleton.mp mem]
      exact part_uuid uuid
  · have six : "leases".toList.length = 6 := by decide
    have seven : scope.name.length = 7 := by cases scope <;> decide
    simp only [List.intercalate_cons_cons, List.intercalate_singleton, List.length_append, six, seven,
      uuid.length, List.length_singleton]
    omega

end Parts

section Simulation
open Simulation
variable {mount : Text} {values : SecretMap} {server : KvServer}

/-- The Vault server has the secrets that are in memory. -/
def Mirrors (values : SecretMap) (server : KvServer) : Prop :=
  ∀ key, values (memoryReference key) = server.secrets key

lemma Mirrors.update (mirrors : Mirrors values server) (k : Text) (secret : Option StoredSecret) :
    Mirrors (Function.update values (memoryReference k) secret)
      ⟨Function.update server.secrets k secret⟩ := by
  intro key
  show _ = Function.update server.secrets k secret key
  by_cases here : key = k
  · subst here
    rw [Function.update_self, Function.update_self]
  · have elsewhere : memoryReference key ≠ memoryReference k := fun same =>
      here (List.append_cancel_left same)
    rw [Function.update_of_ne elsewhere, Function.update_of_ne here]
    exact mirrors key

/-- Answers of the two stores that a caller cannot tell apart, but for the form of references. -/
inductive Alike (mount : Text) : Except Failure SecretAnswer → Except Failure SecretAnswer → Prop where
  | reference {k} :
    Alike mount (.ok (.reference (memoryReference k))) (.ok (.reference (vaultReference mount k)))
  | value {v} :
    Alike mount (.ok (.value v)) (.ok (.value v))
  | lease {k expiresAt} :
    Alike mount (.ok (.lease ⟨memoryReference k, expiresAt⟩))
      (.ok (.lease ⟨vaultReference mount k, expiresAt⟩))
  | revoked :
    Alike mount (.ok .revoked) (.ok .revoked)
  /-- The same `SecretStoreError` code. -/
  | refused {code m m' r r'} :
    Alike mount (.error (.secretStore code m r)) (.error (.secretStore code m' r'))
  /-- The same other error. -/
  | failed {error} :
    Alike mount (.error error) (.error error)

/-- The code of a `SecretStoreError`. -/
def Failure.secretCode : Failure → Option String
  | .secretStore code _ _ => some code
  | _ => none

lemma Alike.code {error error' : Failure} (alike : Alike mount (.error error) (.error error')) :
    error.secretCode = error'.secretCode := by
  cases alike with
  | refused => rfl
  | failed => rfl

/-- The key of an operation. -/
def SecretOperation.key : SecretOperation → Text
  | .put key .. | .get key _ | .createLease key .. | .revoke key => key

/-- An operation on a key without segments that URLs resolve. -/
def SecretOperation.Plain (o : SecretOperation) : Prop :=
  ∀ k, normalizeKey o.key = .ok k → ['.'] ∉ segments k

/-- An operation reads nothing that is not there. -/
def SecretOperation.Finds : SecretOperation → SecretMap → Prop
  | .get key _, values => ∀ k, normalizeKey key = .ok k → values (memoryReference k) ≠ none
  | .createLease key _ ttlMs .., values =>
    assertLeaseTtl ttlMs = .ok () →
      ∀ k, normalizeKey key = .ok k → values (memoryReference k) ≠ none
  | .put .., _ | .revoke _, _ => True

/-- A store as a machine. -/
def SecretStore.machine {σ : Type} (store : SecretStore σ) :
    Machine SecretOperation (Except Failure SecretAnswer) σ :=
  fun o => exec (store.perform o)

/-- What the simulation asks of one operation. -/
structure Matches (mount : Text) (o : SecretOperation) (values : SecretMap) (server : KvServer) :
    Prop where
  alike : Alike mount (inMemorySecretStore.machine o values).1
    ((vaultSecretStore mount).machine o server).1 ↔ o.Finds values
  keeps : o.Finds values → Mirrors (inMemorySecretStore.machine o values).2
    ((vaultSecretStore mount).machine o server).2

lemma Matches.of_exec {o : SecretOperation} {r r' : Except Failure SecretAnswer} {values' : SecretMap}
    {server' : KvServer} (memory : exec (inMemorySecretStore.perform o) values = (r, values'))
    (vault : exec ((vaultSecretStore mount).perform o) server = (r', server'))
    (alike : Alike mount r r' ↔ o.Finds values) (keeps : o.Finds values → Mirrors values' server') :
    Matches mount o values server := by
  constructor
  · rwa [SecretStore.machine, SecretStore.machine, memory, vault]
  · rwa [SecretStore.machine, SecretStore.machine, memory, vault]

section Operations
variable {key k value : Text} {error : Failure}

/-- A key that is not accepted is refused alike. -/
lemma matches_refused {o : SecretOperation} (mirrors : Mirrors values server)
    (refused : normalizeKey o.key = .error error) : Matches mount o values server := by
  have finds : o.Finds values := by
    cases o with
    | put | revoke => trivial
    | get => exact fun k ok => nomatch refused.symm.trans ok
    | createLease => exact fun _ k ok => nomatch refused.symm.trans ok
  have memory : InMemorySecretStore.referenceForKey o.key = .error error := by
    rw [InMemorySecretStore.referenceForKey, refused]
    rfl
  have vault : VaultSecretStore.referenceForKey mount o.key = .error error := by
    rw [VaultSecretStore.referenceForKey, refused]
    rfl
  have inMemory : exec (inMemorySecretStore.perform o) values = (.error error, values) := by
    cases o with
    | put => exact exec_bind_error (put_memory_error refused)
    | get | createLease | revoke => exact exec_stateless_error memory
  have inVault : exec ((vaultSecretStore mount).perform o) server = (.error error, server) := by
    cases o with
    | put => exact exec_bind_error (put_vault_error refused)
    | get | createLease | revoke => exact exec_stateless_error vault
  exact .of_exec inMemory inVault (iff_of_true .failed finds) fun _ => mirrors

lemma matches_put {expiresAt : Option Date} (mirrors : Mirrors values server)
    (ok : normalizeKey key = .ok k) (canonical : Canonical k) :
    Matches mount (.put key value expiresAt) values server := by
  refine .of_exec (exec_bind_ok (put_memory ok)) (exec_bind_ok (put_vault ok canonical))
    (iff_of_true .reference trivial) fun _ => ?_
  exact mirrors.update k _

lemma matches_revoke (single : '/' ∉ mount) (mirrors : Mirrors values server)
    (ok : normalizeKey key = .ok k) (canonical : Canonical k) :
    Matches mount (.revoke key) values server := by
  have memory : exec (inMemorySecretStore.perform (.revoke key)) values =
      (.ok .revoked, Function.update values (memoryReference k) none) :=
    (exec_stateless_ok (referenceForKey_memory ok)).trans (exec_bind_ok exec_transition)
  have vault : exec ((vaultSecretStore mount).perform (.revoke key)) server =
      (.ok .revoked, ⟨Function.update server.secrets k none⟩) :=
    (exec_stateless_ok (referenceForKey_vault ok)).trans (exec_bind_ok (revoke_vault single canonical))
  exact .of_exec memory vault (iff_of_true .revoked trivial) fun _ => mirrors.update k none

/-- Reading a key that is there, or not. -/
lemma matches_get {now : Date} (single : '/' ∉ mount) (mirrors : Mirrors values server)
    (ok : normalizeKey key = .ok k) (canonical : Canonical k) :
    Matches mount (.get key now) values server := by
  have memory := get_memory (memoryReference k) now values
  have vault := get_vault now server single canonical
  rw [← mirrors k] at vault
  have toMemory : exec (inMemorySecretStore.perform (.get key now)) values = _ :=
    exec_stateless_ok (referenceForKey_memory ok)
  have toVault : exec ((vaultSecretStore mount).perform (.get key now)) server = _ :=
    exec_stateless_ok (referenceForKey_vault ok)
  cases there : values (memoryReference k) with
  | none =>
    rw [there] at memory vault
    have lost : ¬ (SecretOperation.get key now).Finds values := fun finds => finds k ok there
    refine .of_exec (toMemory.trans (exec_bind_error memory)) (toVault.trans (exec_bind_error vault))
      (iff_of_false ?_ lost) fun finds => absurd finds lost
    intro alike
    have codes := alike.code
    revert codes
    decide
  | some secret =>
    rw [there] at memory vault
    have finds : (SecretOperation.get key now).Finds values := by
      intro k' ok'
      cases ok.symm.trans ok'
      rw [there]
      exact Option.some_ne_none secret
    cases expired : secret.expired now with
    | true =>
      simp only [expired, if_true] at memory vault
      exact .of_exec (toMemory.trans (exec_bind_error memory))
        (toVault.trans (exec_bind_error vault)) (iff_of_true .failed finds)
        fun _ => mirrors.update k none
    | false =>
      simp only [expired, Bool.false_eq_true, if_false] at memory vault
      exact .of_exec (toMemory.trans (exec_bind_ok memory)) (toVault.trans (exec_bind_ok vault))
        (iff_of_true .value finds) fun _ => mirrors

/-- Leasing a key that is there, or not. -/
lemma matches_createLease {scope : DatabaseConnectionScope} {ttlMs : Nat} {now later : Date}
    {uuid : RandomUuid} (single : '/' ∉ mount) (mirrors : Mirrors values server)
    (ok : normalizeKey key = .ok k) (canonical : Canonical k) :
    Matches mount (.createLease key scope ttlMs now later uuid) values server := by
  have memory := get_memory (memoryReference k) now values
  have vault := get_vault now server single canonical
  rw [← mirrors k] at vault
  have toMemory : exec (inMemorySecretStore.perform
      (.createLease key scope ttlMs now later uuid)) values = _ :=
    exec_stateless_ok (referenceForKey_memory ok)
  have toVault : exec ((vaultSecretStore mount).perform
      (.createLease key scope ttlMs now later uuid)) server = _ :=
    exec_stateless_ok (referenceForKey_vault ok)
  cases limit : assertLeaseTtl ttlMs with
  | error error =>
    have finds : (SecretOperation.createLease key scope ttlMs now later uuid).Finds values :=
      fun within => nomatch limit.symm.trans within
    exact .of_exec (toMemory.trans (exec_bind_error (exec_stateless_error limit)))
      (toVault.trans (exec_bind_error (exec_stateless_error limit))) (iff_of_true .failed finds)
      fun _ => mirrors
  | ok =>
    cases there : values (memoryReference k) with
    | none =>
      rw [there] at memory vault
      have lost : ¬ (SecretOperation.createLease key scope ttlMs now later uuid).Finds values :=
        fun finds => finds limit k ok there
      refine .of_exec (toMemory.trans (exec_bind_error (createLease_refused limit memory)))
        (toVault.trans (exec_bind_error (createLease_refused limit vault)))
        (iff_of_false ?_ lost) fun finds => absurd finds lost
      intro alike
      have codes := alike.code
      revert codes
      decide
    | some secret =>
      rw [there] at memory vault
      have finds : (SecretOperation.createLease key scope ttlMs now later uuid).Finds values := by
        intro _ k' ok'
        cases ok.symm.trans ok'
        rw [there]
        exact Option.some_ne_none secret
      cases expired : secret.expired now with
      | true =>
        simp only [expired, if_true] at memory vault
        exact .of_exec (toMemory.trans (exec_bind_error (createLease_refused limit memory)))
          (toVault.trans (exec_bind_error (createLease_refused limit vault)))
          (iff_of_true .failed finds) fun _ => mirrors.update k none
      | false =>
        simp only [expired, Bool.false_eq_true, if_false] at memory vault
        have canonical' : Canonical (leaseKey scope uuid.text) := leaseKey_canonical
        have again := canonical'.normalized.normalizeKey
        exact .of_exec
          (toMemory.trans (exec_bind_ok (createLease_granted limit memory (put_memory again))))
          (toVault.trans (exec_bind_ok
            (createLease_granted limit vault (put_vault again canonical'))))
          (iff_of_true .lease finds) fun _ => mirrors.update _ _

end Operations

/-- The Vault store simulates the store in memory, as long as what is read is there. -/
lemma vault_simulates (single : '/' ∉ mount) :
    Simulates inMemorySecretStore.machine (vaultSecretStore mount).machine SecretOperation.Plain
      Mirrors (Alike mount) SecretOperation.Finds := by
  have both {o : SecretOperation} {values : SecretMap} {server : KvServer} (plain : o.Plain)
      (mirrors : Mirrors values server) : Matches mount o values server := by
    cases normal : normalizeKey o.key with
    | error error => exact matches_refused mirrors normal
    | ok k =>
      have canonical : Canonical k := ⟨normalized_of_ok normal, plain k normal⟩
      cases o with
      | put key value expiresAt => exact matches_put mirrors normal canonical
      | get key now => exact matches_get single mirrors normal canonical
      | createLease key scope ttlMs now later uuid =>
        exact matches_createLease single mirrors normal canonical
      | revoke key => exact matches_revoke single mirrors normal canonical
  constructor
  · exact fun plain mirrors => (both plain mirrors).alike
  · exact fun plain mirrors finds => (both plain mirrors).keeps finds

end Simulation

end AtomsPlatform.Database
