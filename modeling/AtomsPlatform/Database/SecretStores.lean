import AtomsPlatform.Database.Model
import AtomsPlatform.Lib.Stateful
import AtomsPlatform.Lib.Words

/-!
# Secret stores

The two implementations of the provider's `SecretStore`: the one in memory, which the tests use, and
the one on a Vault server with a KV engine of version 2.
-/

namespace AtomsPlatform.Database
open Stateful

/-- Texts, as lists of characters. -/
abbrev Text : Type :=
  List Char

/-- The error of a schema that refuses its input. -/
def zodError : Failure :=
  .error "Invalid input"

section Keys

/-- The characters that `trim` removes. -/
def isSpace (c : Char) : Bool :=
  c.toNat ∈ [0x09, 0x0A, 0x0B, 0x0C, 0x0D, 0x20, 0xA0, 0x1680, 0x2028, 0x2029, 0x202F, 0x205F, 0x3000,
    0xFEFF] || (0x2000 ≤ c.toNat && c.toNat ≤ 0x200A)

/-- The characters of keys: letters, digits, dots, underscores, slashes and hyphens. -/
def isKeyCharacter (c : Char) : Bool :=
  c.isAlphanum || c = '.' || c = '_' || c = '/' || c = '-'

/-- `split("/")` -/
def segments (key : Text) : List Text :=
  key.splitOn '/'

/-- Source `normalizeKey`. -/
def normalizeKey (value : Text) : Except Failure Text :=
  let trimmed := (value.dropWhile isSpace).rdropWhile isSpace
  if 1 ≤ trimmed.length ∧ trimmed.length ≤ 400 ∧ trimmed.all isKeyCharacter then
    let normalized := Words.trim '/' trimmed
    if (segments normalized).any fun segment => segment = ['.', '.'] || segment.isEmpty then
      .error (.secretStore "INVALID_SECRET_KEY" "Secret key contains an invalid segment" false)
    else .ok normalized
  else .error zodError

end Keys

/-- Source `StoredSecret`. -/
structure StoredSecret where
  value : Text
  expiresAt : Option Date := none
deriving DecidableEq, Repr

/-- Source `DatabaseConnectionScope`. -/
inductive DatabaseConnectionScope where
  | migrate
  | runtime
deriving DecidableEq, Repr

/-- The text of a scope. -/
def DatabaseConnectionScope.name : DatabaseConnectionScope → Text
  | .migrate => "migrate".toList
  | .runtime => "runtime".toList

/-- Source `SecretLease`. -/
structure SecretLease where
  reference : Text
  expiresAt : Date
deriving DecidableEq, Repr

/-- Source `SecretStore`, on a state `σ`. `get` reads the clock once. -/
structure SecretStore (σ : Type) where
  referenceForKey : Text → Except Failure Text
  put : Text → Text → Option Date → Stateful Failure σ Text
  get : Text → Date → Stateful Failure σ Text
  revoke : Text → Stateful Failure σ Unit

/-- `expiresAt !== undefined && new Date(expiresAt).getTime() <= now` -/
def StoredSecret.expired (secret : StoredSecret) (now : Date) : Bool :=
  secret.expiresAt.any fun expiresAt => expiresAt ≤ now

/-- The error of a secret that has expired. -/
def secretExpired : Failure :=
  .secretStore "SECRET_EXPIRED" "Secret reference has expired" false

/-- Source `assertLeaseTtl`. -/
def assertLeaseTtl (ttlMs : Nat) : Except Failure Unit :=
  if ttlMs < 60000 ∨ 3600000 < ttlMs then
    .error (.error "Secret lease TTL must be between one minute and one hour")
  else .ok ()

/-- The key `leases/${scope}/${uuid}` of a lease; `uuid` is generated. -/
def leaseKey (scope : DatabaseConnectionScope) (uuid : Text) : Text :=
  ['/'].intercalate ["leases".toList, scope.name, uuid]

/-- The body of source `createLease`, which is the same in both stores. The clock is read at `now`
    and, for the expiry, at `later`. -/
def SecretStore.createLease {σ : Type} (store : SecretStore σ) (sourceReference : Text)
    (scope : DatabaseConnectionScope) (ttlMs : Nat) (now later : Date) (uuid : Text) :
    Stateful Failure σ SecretLease := do
  stateless (assertLeaseTtl ttlMs)
  let value ← store.get sourceReference now
  let expiresAt := later + ttlMs
  let reference ← store.put (leaseKey scope uuid) value (some expiresAt)
  pure { reference, expiresAt }

/-- Source `randomUUID`: groups of lower-case hexadecimal digits, as far as it matters here. -/
structure RandomUuid where
  text : Text
  length : text.length = 36
  characters : ∀ c ∈ text, c ∈ "0123456789abcdef-".toList

/-- An operation on a secret store. What is read or revoked is named by its key, whose reference the
    store knows. -/
inductive SecretOperation where
  | put :
    (key value : Text) → (expiresAt : Option Date) → SecretOperation
  | get :
    (key : Text) → (now : Date) → SecretOperation
  | createLease :
    (key : Text) → DatabaseConnectionScope → (ttlMs : Nat) → (now later : Date) → RandomUuid →
      SecretOperation
  | revoke :
    (key : Text) → SecretOperation

/-- The result of an operation on a secret store. -/
inductive SecretAnswer where
  | reference :
    Text → SecretAnswer
  | value :
    Text → SecretAnswer
  | lease :
    SecretLease → SecretAnswer
  | revoked
deriving DecidableEq, Repr

/-- Carries an operation out. -/
def SecretStore.perform {σ : Type} (store : SecretStore σ) :
    SecretOperation → Stateful Failure σ SecretAnswer
  | .put key value expiresAt => do
    let reference ← store.put key value expiresAt
    pure (.reference reference)
  | .get key now => do
    let reference ← stateless (store.referenceForKey key)
    let value ← store.get reference now
    pure (.value value)
  | .createLease key scope ttlMs now later uuid => do
    let reference ← stateless (store.referenceForKey key)
    let lease ← store.createLease reference scope ttlMs now later uuid.text
    pure (.lease lease)
  | .revoke key => do
    let reference ← stateless (store.referenceForKey key)
    store.revoke reference
    pure .revoked

section InMemory

/-- The map of the store in memory, by reference. -/
abbrev SecretMap : Type :=
  Text → Option StoredSecret

namespace InMemorySecretStore

/-- Source `referenceForKey`. -/
def referenceForKey (key : Text) : Except Failure Text := do
  let normalized ← normalizeKey key
  pure ("memory://".toList ++ normalized)

/-- Source `put`. -/
def put (key value : Text) (expiresAt : Option Date) : Stateful Failure SecretMap Text := do
  let normalized ← stateless (normalizeKey key)
  let reference ← stateless (referenceForKey normalized)
  transition fun values => ((), Function.update values reference (some { value, expiresAt }))
  pure reference

/-- Source `revoke`. -/
def revoke (reference : Text) : Stateful Failure SecretMap Unit :=
  transition fun values => ((), Function.update values reference none)

/-- Source `get`. -/
def get (reference : Text) (now : Date) : Stateful Failure SecretMap Text := do
  let secret ← transition fun values => (values reference, values)
  match secret with
  | none => throw (.secretStore "SECRET_NOT_FOUND" "Secret reference was not found" false)
  | some secret =>
    if secret.expired now then do
      revoke reference
      throw secretExpired
    else pure secret.value

end InMemorySecretStore

/-- Source `InMemorySecretStore`. -/
def inMemorySecretStore : SecretStore SecretMap where
  referenceForKey := InMemorySecretStore.referenceForKey
  put := InMemorySecretStore.put
  get := InMemorySecretStore.get
  revoke := InMemorySecretStore.revoke

end InMemory

section Urls

/-- The parts of a URL that are read. -/
structure Url where
  protocol : Text
  hostname : Text
  pathname : Text
deriving DecidableEq, Repr

/-- The segments of a path without those that are `.` or `..`. -/
def resolveSegments : List Text → List Text → List Text
  | resolved, [] => resolved
  | resolved, [segment] =>
    if segment = ['.', '.'] then resolved.dropLast ++ [[]]
    else if segment = ['.'] then resolved ++ [[]]
    else resolved ++ [segment]
  | resolved, segment :: rest =>
    if segment = ['.', '.'] then resolveSegments resolved.dropLast rest
    else if segment = ['.'] then resolveSegments resolved rest
    else resolveSegments (resolved ++ [segment]) rest

/-- A path as a URL has it. -/
def resolvePath (path : Text) : Text :=
  ['/'].intercalate (resolveSegments [] (segments path))

/-- `new URL(reference)`, for the references of a secret store: a scheme of its own, a host and a
    path of key characters, which need no escapes. -/
def parseUrl (reference : Text) : Option Url :=
  let scheme := reference.takeWhile fun c => c ≠ ':'
  match reference.drop scheme.length with
  | ':' :: '/' :: '/' :: rest =>
    if scheme.isEmpty then none
    else
      let hostname := rest.takeWhile fun c => c ≠ '/'
      match rest.drop hostname.length with
      | [] => some { protocol := scheme ++ [':'], hostname, pathname := [] }
      | _ :: path =>
        some { protocol := scheme ++ [':'], hostname, pathname := '/' :: resolvePath path }
  | _ => none

end Urls

section Vault

/-- The secrets of a KV engine, by path. -/
structure KvServer where
  secrets : Text → Option StoredSecret

/-- The methods of requests. -/
inductive Method where
  | get
  | post
  | delete
deriving DecidableEq, Repr

/-- The areas of a KV engine. -/
inductive KvArea where
  | data
  | metadata
deriving DecidableEq, Repr

/-- A response: its status, and the secret in its body. -/
structure KvResponse where
  status : Nat
  secret : Option StoredSecret := none
deriving DecidableEq, Repr

/-- A KV engine stores values, and answers 404 for absent or deleted keys. -/
def KvServer.respond (method : Method) (area : KvArea) (path : Text) (body : Option StoredSecret)
    (server : KvServer) : KvResponse × KvServer :=
  match method, area, body, server.secrets path with
  | .get, .data, _, some secret => ({ status := 200, secret := some secret }, server)
  | .post, .data, some secret, _ =>
    ({ status := 200 }, ⟨Function.update server.secrets path (some secret)⟩)
  | .delete, .metadata, _, some _ =>
    ({ status := 204 }, ⟨Function.update server.secrets path none⟩)
  | .get, .data, _, none | .delete, .metadata, _, none => ({ status := 404 }, server)
  | _, _, _, _ => ({ status := 405 }, server)

namespace VaultSecretStore

/-- The error of a request that is refused. -/
def requestFailed (status : Nat) : Failure :=
  .secretStore (if 500 ≤ status then "SECRET_STORE_UNAVAILABLE" else "SECRET_STORE_REJECTED")
    s!"Secret store request failed with HTTP {status}" (status = 429 || 500 ≤ status)

/-- Source `#request`; the secret in the body of the response. -/
def request (method : Method) (area : KvArea) (key : Text) (body : Option StoredSecret)
    (ignoreNotFound : Bool) : Stateful Failure KvServer (Option StoredSecret) := do
  let response ← transition (KvServer.respond method area (resolvePath key) body)
  if ignoreNotFound ∧ response.status = 404 then pure none
  else if ¬ (200 ≤ response.status ∧ response.status ≤ 299) then
    throw (requestFailed response.status)
  else if response.status = 204 then pure none
  else pure response.secret

/-- Source `referenceForKey`. -/
def referenceForKey (mount key : Text) : Except Failure Text := do
  let normalized ← normalizeKey key
  pure ("vault://".toList ++ mount ++ ['/'] ++ normalized)

/-- Source `#parseReference`. -/
def parseReference (mount reference : Text) : Except Failure Text :=
  match parseUrl reference with
  | none => .error (.secretStore "INVALID_SECRET_REFERENCE" "Malformed secret reference" false)
  | some parsed =>
    if parsed.protocol ≠ "vault:".toList ∨ parsed.hostname ≠ mount then
      .error (.secretStore "INVALID_SECRET_REFERENCE" "Secret reference belongs to another store"
        false)
    else
      normalizeKey (match parsed.pathname with
        | '/' :: path => path
        | path => path)

/-- Source `put`. -/
def put (mount key value : Text) (expiresAt : Option Date) : Stateful Failure KvServer Text := do
  let normalized ← stateless (normalizeKey key)
  let _ ← request .post .data normalized (some { value, expiresAt }) false
  stateless (referenceForKey mount normalized)

/-- Source `revoke`. -/
def revoke (mount reference : Text) : Stateful Failure KvServer Unit := do
  let key ← stateless (parseReference mount reference)
  let _ ← request .delete .metadata key none true
  pure ()

/-- Source `get`. -/
def get (mount reference : Text) (now : Date) : Stateful Failure KvServer Text := do
  let key ← stateless (parseReference mount reference)
  let response ← request .get .data key none false
  match response with
  | none => throw zodError
  | some secret =>
    if secret.expired now then do
      revoke mount reference
      throw secretExpired
    else pure secret.value

end VaultSecretStore

/-- Source `VaultSecretStore`, for an engine mounted at `mount`. -/
def vaultSecretStore (mount : Text) : SecretStore KvServer where
  referenceForKey := VaultSecretStore.referenceForKey mount
  put := VaultSecretStore.put mount
  get := VaultSecretStore.get mount
  revoke := VaultSecretStore.revoke mount

end Vault

end AtomsPlatform.Database
