import AtomsPlatform.Contracts
import AtomsPlatform.Lib.Accounts
import AtomsPlatform.Lib.Transactions
import Mathlib.Data.List.Sort

/-!
# Personal workspaces

The control API gives a user without a workspace a personal one when the user's workspaces are asked for the
first time. The browser asks several times at once: the transactions that would make the workspace are
serialized by an advisory lock on the user, which each of them holds until it ends. Transactions may be
ended by the database at any time, and the answer of a commit may be lost.
-/

namespace AtomsPlatform.Tenancy
open Interleaving Transactions

section Rows

/-- Model `Workspace` of the schema. -/
structure Workspace where
  id : Uuid
  name : String
  slug : String
deriving DecidableEq, Repr

/-- Source `MembershipRole`. -/
inductive MembershipRole where
  | owner
  | admin
  | member
deriving DecidableEq, Repr

/-- Model `Membership` of the schema. -/
structure Membership where
  workspaceId : Uuid
  userId : Uuid
  role : MembershipRole
  createdAt : Date
deriving DecidableEq, Repr

/-- Source `WorkspaceMembershipRecord`. -/
structure WorkspaceMembershipRecord where
  workspace : Workspace
  role : MembershipRole
deriving DecidableEq, Repr

/-- The tables. -/
structure Tables where
  workspaces : List Workspace := []
  memberships : List Membership := []
deriving DecidableEq, Repr

/-- The memberships of a user. -/
def Tables.membershipsOf (d : Tables) (userId : Uuid) : List Membership :=
  d.memberships.filter fun m => m.userId = userId

/-- A membership with its workspace. -/
def Tables.record? (d : Tables) (m : Membership) : Option WorkspaceMembershipRecord :=
  (Table.lookup Workspace.id m.workspaceId d.workspaces).map fun workspace => { workspace, role := m.role }

/-- `orderBy: { createdAt: "asc" }`, with the workspaces. -/
def Tables.recordsOf (d : Tables) (userId : Uuid) : List WorkspaceMembershipRecord :=
  ((d.membershipsOf userId).insertionSort fun left right => left.createdAt ≤ right.createdAt).filterMap
    d.record?

/-- A workspace with its first membership. -/
def Tables.insert (workspace : Workspace) (m : Membership) (d : Tables) : Tables where
  workspaces := d.workspaces ++ [workspace]
  memberships := d.memberships ++ [m]

/-- What is locked: the key of an advisory lock, or a value of a unique index. -/
inductive LockKey where
  | advisory (key : Int)
  | slug (slug : String)
  | workspace (id : Uuid)
deriving DecidableEq, Repr

end Rows

section Programs

/-- Errors: of the database with its code, and any other. -/
inductive Failure where
  | prisma (code : String)
  | other (message : String)
deriving DecidableEq, Repr

/-- The statements, and the call of the generator of ids. -/
inductive Operation where
  | listMemberships (userId : Uuid)
  | begin
  /-- `pg_advisory_xact_lock`, with the column `locked` of its rows. -/
  | lockOnboarding (tx : Nat) (userId : Uuid)
  | findMembership (tx : Nat) (userId : Uuid)
  | randomUUID
  | createWorkspace (tx : Nat) (name slug : String) (userId : Uuid)
  | commit (tx : Nat)
  | rollback (tx : Nat)
  /-- The database ends a transaction, because it takes too long or its connection is lost. -/
  | expire (tx : Nat)
deriving DecidableEq, Repr

/-- What an operation answers. -/
@[reducible]
def Operation.Answer : Operation → Type
  | .listMemberships _ => List WorkspaceMembershipRecord
  | .begin => Nat
  | .lockOnboarding .. => List Int
  | .findMembership .. => Option WorkspaceMembershipRecord
  | .randomUUID => String
  | .createWorkspace .. => Workspace
  | .commit _ | .rollback _ | .expire _ => Unit

/-- Programs on these operations. -/
abbrev Program (α : Type) : Type :=
  Fallible Operation Operation.Answer Failure α

/-- One call. -/
abbrev call (o : Operation) : Program o.Answer :=
  invoke o

/-- Source `PERSONAL_WORKSPACE_NAME`. -/
def personalWorkspaceName : String := "My Workspace"

/-- Source `PERSONAL_WORKSPACE_SLUG_PREFIX`. -/
def personalWorkspaceSlugStart : List Char := "workspace-".toList

/-- The characters `[a-f0-9]`. -/
def isHexadecimal (c : Char) : Bool :=
  ('a' ≤ c && c ≤ 'f') || ('0' ≤ c && c ≤ '9')

/-- Source `createPersonalWorkspaceSlug`, of an id that was generated. -/
def createPersonalWorkspaceSlug (id : String) : Program String :=
  let suffix := (id.toList.filter fun c => c ≠ '-').map Char.toLower
  if suffix.length = 32 ∧ suffix.all isHexadecimal then
    pure (String.ofList (personalWorkspaceSlugStart ++ suffix.take 24))
  else throw (.other "Personal workspace ID generator must return a UUID")

/-- The body of the transaction of source `ensurePersonalWorkspaceMembership`. -/
def onboard (userId : Uuid) (tx : Nat) : Program WorkspaceMembershipRecord := do
  let lockRows ← call (.lockOnboarding tx userId)
  if lockRows ≠ [1] then throw (.other "Could not acquire the personal workspace onboarding lock")
  else
    let existing ← call (.findMembership tx userId)
    match existing with
    | some existing => pure existing
    | none =>
      let id ← call .randomUUID
      let slug ← createPersonalWorkspaceSlug id
      let workspace ← call (.createWorkspace tx personalWorkspaceName slug userId)
      pure { workspace, role := .owner }

/-- Source `ensurePersonalWorkspaceMembership`. -/
def ensurePersonalWorkspaceMembership (userId : Uuid) : Program WorkspaceMembershipRecord :=
  inTransaction (call .begin) (fun tx => call (.commit tx)) (fun tx => call (.rollback tx)) (onboard userId)

/-- The method `listWorkspaceMemberships` of source `withPersonalWorkspaceOnboarding`. -/
def listWorkspaceMemberships (userId : Uuid) : Program (List WorkspaceMembershipRecord) := do
  let memberships ← call (.listMemberships userId)
  if memberships.length > 0 then pure memberships
  else
    let membership ← ensurePersonalWorkspaceMembership userId
    pure [membership]

end Programs

section System

/-- What the environment decides about one call. -/
structure Environment where
  fate : Fate Failure := .succeeds
  now : Date := 0
  id : Uuid := 0
  uuid : String := ""
  lockRows : List Int := [1]
deriving DecidableEq, Repr

variable (hashtextextended : Uuid → Int)

/-- The state that the programs share. -/
abbrev Store : Type :=
  Database Tables LockKey

/-- The error of a statement in a transaction that has ended. -/
def closed : Failure :=
  .prisma "P2028"

/-- What calls answer and do. A statement waits for a lock that another transaction holds until it is
    given up. -/
def perform : (o : Operation) → Environment → Store → Except Failure o.Answer × Store
  | .listMemberships userId, env, s => (env.fate.answer (s.committed.recordsOf userId), s)
  | .begin, env, s => s.begin env.fate
  | .lockOnboarding tx userId, env, s =>
    s.within env.fate closed tx fun _ =>
      if s.isFree tx (.advisory (hashtextextended userId)) then
        (.ok env.lockRows, s.lock tx (.advisory (hashtextextended userId)))
      else (.error closed, s)
  | .findMembership tx userId, env, s =>
    s.within env.fate closed tx fun t => (.ok ((t.written s.committed).recordsOf userId).head?, s)
  | .randomUUID, env, s => (.ok env.uuid, s)
  | .createWorkspace tx name slug userId, env, s =>
    s.within env.fate closed tx fun t =>
      let d := t.written s.committed
      if s.isFree tx (.slug slug) = false ∨ s.isFree tx (.workspace env.id) = false then (.error closed, s)
      else if d.workspaces.any fun w => w.slug = slug ∨ w.id = env.id then (.error (.prisma "P2002"), s)
      else
        let workspace : Workspace := { id := env.id, name, slug }
        let membership : Membership :=
          { workspaceId := env.id, userId, role := .owner, createdAt := env.now }
        (.ok workspace,
          s.update tx [.slug slug, .workspace env.id] (Tables.insert workspace membership))
  | .commit tx, env, s => s.finish env.fate closed tx
  | .rollback tx, env, s => (env.fate.answer (), s.close tx)
  | .expire tx, _, s => (.ok (), s.close tx)

/-- What runs: a request for the workspaces of a user, or the end of a transaction. -/
inductive Activity where
  | request (userId : Uuid)
  | expiry (tx : Nat)
deriving DecidableEq, Repr

/-- The program of what runs. -/
def Activity.program : Activity → Program (List WorkspaceMembershipRecord)
  | .request userId => listWorkspaceMemberships userId
  | .expiry tx => do
    call (.expire tx)
    pure []

/-- Any number of requests, interleaved at their statements. -/
def onboardingSystem : System Operation (fun o => Except Failure o.Answer) Store Activity
    (Except Failure (List WorkspaceMembershipRecord)) where
  Choice := Environment
  perform := perform hashtextextended
  admits _ _ := True
  body activity := activity.program.run

instance (s : Store) (activity : Activity) :
    Decidable ((onboardingSystem hashtextextended).admits s activity) :=
  inferInstanceAs (Decidable True)

/-- Configurations. -/
abbrev OnboardingConfig : Type :=
  Config Operation (fun o => Except Failure o.Answer) Store Activity
    (Except Failure (List WorkspaceMembershipRecord))

end System

end AtomsPlatform.Tenancy
