import Mathlib.Data.List.Basic

/-!
# Shared contracts

The vocabulary of `packages/contracts` that the control API and the orchestrator worker share: run
and task statuses, run jobs, database jobs, and the run event log. A run's log is its
`eventSequence` counter together with the stored events; `RunLog.append` is what each of the
appenders does when its transaction commits.
-/

namespace AtomsPlatform

/-- Row identifiers (UUIDs in the schema). -/
abbrev Uuid := Nat

/-- Points in time, in milliseconds. -/
abbrev Date := Nat

/-- Source `AgentRunStatus`. -/
inductive AgentRunStatus where
  | pending
  | running
  | paused
  | completed
  | failed
  | cancelled
deriving DecidableEq, Repr

/-- Source `ApprovalScope`. -/
inductive ApprovalScope where
  | plan
  | content
deriving DecidableEq, Repr

/-- Source `RunJobCommand`. -/
inductive RunJobCommand where
  | start
  | resume
  | retry
  | approve
deriving DecidableEq, Repr

/-- Source `RunJob`. -/
structure RunJob where
  runId : Uuid
  command : RunJobCommand
  controlVersion : Nat
  reason : Option String := none
  approvalScope : Option ApprovalScope := none
deriving DecidableEq, Repr

/-- The agents of the run graph, in run order (source `RunAgentName`). -/
inductive AgentName where
  | sophia
  | mike
  | emma
  | bob
  | alex
  | david
  | sarah
  | adrian
deriving DecidableEq, Repr

/-- The name of an agent, in lower case. -/
def AgentName.lowerName : AgentName → String
  | .sophia => "sophia"
  | .mike => "mike"
  | .emma => "emma"
  | .bob => "bob"
  | .alex => "alex"
  | .david => "david"
  | .sarah => "sarah"
  | .adrian => "adrian"

/-- Source `DatabaseInstanceStatus` of the Prisma schema. -/
inductive DatabaseInstanceStatus where
  | queued
  | provisioning
  | healthCheck
  | migrating
  | ready
  | active
  | suspended
  | failed
  | deleting
  | deleted
deriving DecidableEq, Repr

/-- The name of a status in the schema. -/
def DatabaseInstanceStatus.name : DatabaseInstanceStatus → String
  | .queued => "QUEUED"
  | .provisioning => "PROVISIONING"
  | .healthCheck => "HEALTH_CHECK"
  | .migrating => "MIGRATING"
  | .ready => "READY"
  | .active => "ACTIVE"
  | .suspended => "SUSPENDED"
  | .failed => "FAILED"
  | .deleting => "DELETING"
  | .deleted => "DELETED"

/-- `record.status === "ACTIVE" ? "READY" : record.status` -/
def DatabaseInstanceStatus.exposed : DatabaseInstanceStatus → DatabaseInstanceStatus
  | .active => .ready
  | status => status

/-- Source `DatabaseOperationCommand`. -/
inductive DatabaseOperationCommand where
  | provision
  | destroy
deriving DecidableEq, Repr

/-- Source `DatabaseOperationJob`. -/
structure DatabaseOperationJob where
  operationId : Uuid
  databaseInstanceId : Uuid
  command : DatabaseOperationCommand
  operationVersion : Nat
deriving DecidableEq, Repr

/-- Source `DatabaseStatusChangedEventPayloadV1`. -/
structure DatabaseStatusChanged where
  databaseInstanceId : Uuid
  operationId : Uuid
  operationVersion : Nat
  status : DatabaseInstanceStatus
  message : String
deriving DecidableEq, Repr

/-- A stored run event; its event type is the constructor of the payload. -/
structure RunEvent (Payload : Type) where
  sequence : Nat
  payload : Payload
deriving DecidableEq, Repr

/-- The log of one run: the counter on the run row and the stored events. -/
structure RunLog (Payload : Type) where
  eventSequence : Nat := 0
  events : List (RunEvent Payload) := []
deriving DecidableEq, Repr

/-- Increments the counter and stores the event under the incremented number. -/
def RunLog.append {Payload : Type} (log : RunLog Payload) (payload : Payload) : RunLog Payload where
  eventSequence := log.eventSequence + 1
  events := log.events ++ [⟨log.eventSequence + 1, payload⟩]

end AtomsPlatform
