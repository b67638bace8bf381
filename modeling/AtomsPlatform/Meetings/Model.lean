import AtomsPlatform.Contracts
import AtomsPlatform.Database.ManagedNames
import AtomsPlatform.Lib.Accounts
import AtomsPlatform.Lib.Transactions
import Mathlib.Data.List.Sort

/-!
# Meetings

A meeting has one brief, which an assisted action fills in: Olivia copies a prompt out, and pastes the
response of an assistant in. The response is validated, and the action is completed in a transaction that
writes both rows; the statement that completes the action has its condition in itself, because several
requests may have read the action before any of them completes it.
-/

namespace AtomsPlatform.Meetings
open Interleaving Transactions
open Database (WorkspaceRole)

section Rows

/-- Source `MeetingPreparationState`. -/
inductive MeetingPreparationState where
  | oliviaActionRequired
  | readyForAgentPreparation
deriving DecidableEq, Repr

/-- Source `OliviaAssistedActionStatus`. -/
inductive OliviaAssistedActionStatus where
  | pending
  | promptCopied
  | responseReceived
  | validated
  | completed
deriving DecidableEq, Repr

/-- Source `CreateMeetingInput`. -/
structure CreateMeetingInput where
  projectId : Option Uuid := none
  title : String
  objective : String
  expectedOutcome : String
  decisionQuestion : String
  relevantProjectContext : Option String := none
  knownOpenItems : List String := []
deriving DecidableEq, Repr

/-- Model `Meeting` of the schema. -/
structure Meeting extends CreateMeetingInput where
  id : Uuid
  workspaceId : Uuid
  meetingBrief : Option String := none
  preparationState : MeetingPreparationState := .oliviaActionRequired
  createdAt : Date
deriving DecidableEq, Repr

/-- What the unique index on meetings is about. -/
def Meeting.slot (m : Meeting) : Uuid × String :=
  (m.workspaceId, m.title)

/-- Model `OliviaAssistedAction` of the schema. Its kind and its target field are always the same. -/
structure OliviaAssistedAction where
  meetingId : Uuid
  status : OliviaAssistedActionStatus := .pending
  prompt : String
  response : Option String := none
  completedAt : Option Date := none
deriving DecidableEq, Repr

/-- The tables. -/
structure Tables where
  meetings : List Meeting := []
  actions : List OliviaAssistedAction := []
deriving DecidableEq, Repr

/-- Source `MeetingRecord`. -/
structure MeetingRecord where
  meeting : Meeting
  oliviaAction : OliviaAssistedAction
deriving DecidableEq, Repr

/-- A meeting as it is read, with its action. -/
abbrev MeetingWithAction : Type :=
  Meeting × Option OliviaAssistedAction

namespace Tables
variable (d : Tables)

/-- The meeting of an id. -/
def meeting? (id : Uuid) : Option Meeting :=
  Table.lookup Meeting.id id d.meetings

/-- The action of a meeting. -/
def action? (meetingId : Uuid) : Option OliviaAssistedAction :=
  Table.lookup OliviaAssistedAction.meetingId meetingId d.actions

/-- `include: { oliviaAction: true }` -/
def withAction (m : Meeting) : MeetingWithAction :=
  (m, d.action? m.id)

/-- A new meeting with its action. -/
def insert (m : Meeting) (action : OliviaAssistedAction) : Tables where
  meetings := d.meetings ++ [m]
  actions := d.actions ++ [action]

/-- `updateMany` of the actions of a meeting that are not completed. -/
def completeAction (meetingId : Uuid) (response : String) (now : Date) : Tables :=
  { d with
    actions := Table.update OliviaAssistedAction.meetingId meetingId (fun a => a.status ≠ .completed)
      (fun a => { a with response := some response, status := .completed, completedAt := some now })
      d.actions }

/-- `update` of a meeting. -/
def setBrief (meetingId : Uuid) (response : String) : Tables :=
  { d with
    meetings := Table.update Meeting.id meetingId (fun _ => true)
      (fun m => { m with meetingBrief := some response, preparationState := .readyForAgentPreparation })
      d.meetings }

end Tables

/-- The rows that transactions lock. -/
inductive LockKey where
  | meeting (id : Uuid)
  | action (meetingId : Uuid)
deriving DecidableEq, Repr

end Rows

section Contracts
open Database (lowerCase isSlugCharacter)

/-- Source `REQUIRED_MEETING_BRIEF_SECTIONS`. -/
def requiredMeetingBriefSections : List String :=
  ["Current State", "Decision Required", "Relevant Facts", "Known Constraints", "Open Questions / Gates",
    "Meeting Goal", "Exit Criteria"]

/-- Source `MINIMUM_MEETING_BRIEF_LENGTH`. -/
def minimumMeetingBriefLength : Nat := 180

/-- Source `normalizeOptional`. -/
def normalizeOptional (value : Option String) : Option String :=
  value.bind fun value =>
    let normalized := Utf16.trimString value
    if Utf16.lengthOf normalized = 0 then none else some normalized

/-- Source `buildMeetingBriefPrompt`. -/
def buildMeetingBriefPrompt (context : CreateMeetingInput) : String :=
  let projectContext := (normalizeOptional context.relevantProjectContext).getD "Not supplied."
  let openItems :=
    if context.knownOpenItems.length = 0 then "Not supplied."
    else "\n".intercalate (context.knownOpenItems.map fun item => "- " ++ Utf16.trimString item)
  "\n".intercalate
    ["You are preparing a Meeting Brief for a structured AI-assisted decision meeting.",
      "",
      "Using only the supplied context, create a concise factual brief that prepares the participants for the meeting.",
      "Do not invent facts. Clearly distinguish known facts from unresolved assumptions.",
      "Keep the output concise and decision-oriented.",
      "",
      "Meeting: " ++ Utf16.trimString context.title,
      "",
      "Objective:",
      Utf16.trimString context.objective,
      "",
      "Expected Outcome:",
      Utf16.trimString context.expectedOutcome,
      "",
      "Decision Question:",
      Utf16.trimString context.decisionQuestion,
      "",
      "Relevant Project Context:",
      projectContext,
      "",
      "Known Open Items:",
      openItems,
      "",
      "Required output:",
      "",
      "Meeting Brief",
      "",
      "1. Current State",
      "2. Decision Required",
      "3. Relevant Facts",
      "4. Known Constraints",
      "5. Open Questions / Gates",
      "6. Meeting Goal",
      "7. Exit Criteria"]

/-- `\s`, which is also what `trim` removes. -/
def isWhite (c : Char) : Bool :=
  Utf16.isSpace c.toNat

/-- Source `normalizeForSectionSearch`. -/
def normalizeForSectionSearch (value : String) : List Char :=
  let lower := value.toList.flatMap lowerCase
  let spelled := lower.flatMap fun c => if c = '&' then ['a', 'n', 'd'] else [c]
  let plain := spelled.map fun c => if isSlugCharacter c || isWhite c || c = '/' then c else ' '
  let spaced := Words.squeeze (fun c => !isWhite c) ' ' false plain
  (spaced.dropWhile isWhite).rdropWhile isWhite

/-- `searchable.includes(text)` -/
def includes (searchable : List Char) (text : String) : Bool :=
  text.toList <:+: searchable

/-- Source `hasRequiredSection`. -/
def hasRequiredSection (searchable : List Char) (required : String) : Bool :=
  if required = "Open Questions / Gates" then
    includes searchable "open questions" && includes searchable "gate"
  else includes searchable (String.ofList (required.toList.flatMap lowerCase))

/-- Source `MeetingBriefValidationResult`. -/
structure MeetingBriefValidationResult where
  valid : Bool
  normalizedResponse : Option String
  missingSections : List String
  violations : List String
deriving DecidableEq, Repr

/-- Source `validateMeetingBriefResponse`. -/
def validateMeetingBriefResponse (response : String) : MeetingBriefValidationResult :=
  let normalizedResponse := Utf16.trimString response
  let searchable := normalizeForSectionSearch normalizedResponse
  let missingSections := requiredMeetingBriefSections.filter fun required =>
    !hasRequiredSection searchable required
  let lengthViolations :=
    if Utf16.lengthOf normalizedResponse = 0 then ["Paste the AI response before validating it."]
    else if Utf16.lengthOf normalizedResponse < minimumMeetingBriefLength then
      ["Meeting Brief is too short to be decision-ready (minimum " ++ toString minimumMeetingBriefLength ++
        " characters)."]
    else []
  let sectionViolations :=
    if missingSections.length > 0 then
      ["The response is missing one or more required Meeting Brief sections."]
    else []
  let violations := lengthViolations ++ sectionViolations
  if violations.length > 0 then { valid := false, normalizedResponse := none, missingSections, violations }
  else { valid := true, normalizedResponse := some normalizedResponse, missingSections := [], violations := [] }

end Contracts

section Programs

/-- The details of an error response. -/
inductive ErrorDetails where
  | none
  | workspace (workspaceId : Uuid)
  | brief (missingSections violations : List String)
deriving DecidableEq, Repr

/-- Errors: of the database with its code, `ApiError`, and any other. -/
inductive Failure where
  | prisma (code : String)
  | api (statusCode : Nat) (code message : String) (details : ErrorDetails := .none)
  | other (message : String)
deriving DecidableEq, Repr

/-- The statements, and the call of the clock. -/
inductive Operation where
  | now
  | getWorkspaceMembership (userId workspaceId : Uuid)
  | findProject (workspaceId projectId : Uuid)
  | createMeeting (workspaceId : Uuid) (input : CreateMeetingInput) (prompt : String)
  | findMeetingByTitle (workspaceId : Uuid) (title : String)
  | findMeeting (meetingId : Uuid)
  | listMeetings (workspaceId : Uuid)
  | begin
  | findMeetingIn (tx : Nat) (meetingId : Uuid)
  | completeAction (tx : Nat) (meetingId : Uuid) (response : String) (now : Date)
  | updateMeeting (tx : Nat) (meetingId : Uuid) (response : String)
  | commit (tx : Nat)
  | rollback (tx : Nat)
  /-- The database ends a transaction, because it takes too long or its connection is lost. -/
  | expire (tx : Nat)
deriving DecidableEq, Repr

/-- What an operation answers. -/
@[reducible]
def Operation.Answer : Operation → Type
  | .now => Date
  | .getWorkspaceMembership .. => Option WorkspaceRole
  | .findProject .. => Bool
  | .createMeeting .. => MeetingWithAction
  | .findMeetingByTitle .. | .findMeeting _ | .findMeetingIn .. => Option MeetingWithAction
  | .listMeetings _ => List MeetingWithAction
  | .begin => Nat
  | .completeAction .. => Nat
  | .updateMeeting .. => MeetingWithAction
  | .commit _ | .rollback _ | .expire _ => Unit

/-- Programs on these operations. -/
abbrev Program (α : Type) : Type :=
  Fallible Operation Operation.Answer Failure α

/-- One call. -/
abbrev call (o : Operation) : Program o.Answer :=
  invoke o

/-- Source `toMeetingRecord`. -/
def toMeetingRecord : MeetingWithAction → Program MeetingRecord
  | (meeting, some oliviaAction) => pure { meeting, oliviaAction }
  | (meeting, none) =>
    throw (.other ("Meeting " ++ toString meeting.id ++ " is missing its required Olivia action"))

/-- The `try` and the `catch` of `createMeeting`. -/
def createOrFind (workspaceId : Uuid) (input : CreateMeetingInput) (prompt : String) :
    Program (Option MeetingRecord) :=
  tryCatch
    (do
      let meeting ← call (.createMeeting workspaceId input prompt)
      let record ← toMeetingRecord meeting
      pure (some record))
    fun error =>
      match error with
      | .prisma "P2002" => do
        let existing ← call (.findMeetingByTitle workspaceId input.title)
        match existing with
        | some existing => do
          let record ← toMeetingRecord existing
          pure (some record)
        | none => throw error
      | error => throw error

/-- Source `createMeeting` of the repository; nothing stands for `project_not_found`. -/
def createMeeting (workspaceId : Uuid) (input : CreateMeetingInput) (prompt : String) :
    Program (Option MeetingRecord) := do
  let project ← match input.projectId with
    | none => pure true
    | some projectId => call (.findProject workspaceId projectId)
  if project = false then pure none else createOrFind workspaceId input prompt

/-- Source `CompleteMeetingBriefResult`. -/
inductive CompleteMeetingBriefResult where
  | ok (meeting : MeetingRecord)
  | alreadyCompleted (meeting : MeetingRecord)
  | notFound
deriving DecidableEq, Repr

/-- The body of the transaction of source `completeMeetingBriefAction`. -/
def completeIn (meetingId : Uuid) (response : String) (now : Date) (tx : Nat) :
    Program CompleteMeetingBriefResult := do
  let current ← call (.findMeetingIn tx meetingId)
  match current with
  | none | some (_, none) => pure .notFound
  | some (meeting, some oliviaAction) =>
    if oliviaAction.status = .completed then pure (.alreadyCompleted { meeting, oliviaAction })
    else
      let count ← call (.completeAction tx meetingId response now)
      if count = 0 then
        let raced ← call (.findMeetingIn tx meetingId)
        match raced with
        | none => throw (.prisma "P2025")
        | some raced => do
          let record ← toMeetingRecord raced
          pure (.alreadyCompleted record)
      else
        let meeting ← call (.updateMeeting tx meetingId response)
        let record ← toMeetingRecord meeting
        pure (.ok record)

/-- Source `completeMeetingBriefAction` of the repository. -/
def completeMeetingBriefAction (meetingId : Uuid) (response : String) (now : Date) :
    Program CompleteMeetingBriefResult :=
  inTransaction (call .begin) (fun tx => call (.commit tx)) (fun tx => call (.rollback tx))
    (completeIn meetingId response now)

/-- Source `getMeetingAccess`; of the role only that there is one is used. -/
def getMeetingAccess (userId meetingId : Uuid) : Program (Option MeetingRecord) := do
  let meeting ← call (.findMeeting meetingId)
  match meeting with
  | none => pure none
  | some meeting =>
    let membership ← call (.getWorkspaceMembership userId meeting.1.workspaceId)
    match membership with
    | none => pure none
    | some _ => do
      let record ← toMeetingRecord meeting
      pure (some record)

/-- The route `createMeeting`. -/
def createMeetingRoute (userId workspaceId : Uuid) (body : CreateMeetingInput) : Program MeetingRecord := do
  let membership ← call (.getWorkspaceMembership userId workspaceId)
  match membership with
  | none => throw (.api 404 "WORKSPACE_ACCESS_DENIED" "Workspace access denied" (.workspace workspaceId))
  | some _ =>
    let result ← createMeeting workspaceId body (buildMeetingBriefPrompt body)
    match result with
    | none => throw (.api 404 "PROJECT_NOT_FOUND" "Project not found in this workspace")
    | some meeting => pure meeting

/-- The route `listMeetings`. -/
def listMeetingsRoute (userId workspaceId : Uuid) : Program (List MeetingRecord) := do
  let membership ← call (.getWorkspaceMembership userId workspaceId)
  match membership with
  | none => throw (.api 404 "WORKSPACE_ACCESS_DENIED" "Workspace access denied" (.workspace workspaceId))
  | some _ =>
    let meetings ← call (.listMeetings workspaceId)
    meetings.mapM' toMeetingRecord

/-- The error of a second brief. -/
def alreadyCompletedError : Failure :=
  .api 409 "MEETING_BRIEF_ALREADY_COMPLETED"
    "The Meeting Brief action is already completed and cannot be overwritten"

/-- The route `completeMeetingBriefAction`. -/
def completeMeetingBriefRoute (userId meetingId : Uuid) (response : String) : Program MeetingRecord := do
  let access ← getMeetingAccess userId meetingId
  match access with
  | none => throw (.api 404 "MEETING_NOT_FOUND" "Meeting not found")
  | some access =>
    let validation := validateMeetingBriefResponse response
    match validation.valid, validation.normalizedResponse with
    | true, some normalizedResponse =>
      if access.oliviaAction.status = .completed then
        if access.meeting.meetingBrief = some normalizedResponse then pure access
        else throw alreadyCompletedError
      else
        let now ← call .now
        let result ← completeMeetingBriefAction meetingId normalizedResponse now
        match result with
        | .notFound => throw (.api 404 "MEETING_NOT_FOUND" "Meeting not found")
        | .alreadyCompleted meeting =>
          if meeting.meeting.meetingBrief ≠ some normalizedResponse then throw alreadyCompletedError
          else pure meeting
        | .ok meeting => pure meeting
    | _, _ =>
      throw (.api 400 "MEETING_BRIEF_INVALID" "Meeting Brief did not pass validation"
        (.brief validation.missingSections validation.violations))

end Programs

section System

/-- What the environment decides about one call. -/
structure Environment where
  fate : Fate Failure := .succeeds
  now : Date := 0
  id : Uuid := 0
  role : Option WorkspaceRole := some .member
  project : Bool := true
deriving DecidableEq, Repr

/-- The state that the programs share. -/
abbrev Store : Type :=
  Database Tables LockKey

/-- The error of a statement in a transaction that has ended. -/
def closed : Failure :=
  .prisma "P2028"

/-- The rows of a new meeting. -/
def newMeeting (workspaceId : Uuid) (input : CreateMeetingInput) (env : Environment) : Meeting :=
  { input with id := env.id, workspaceId, createdAt := env.now }

/-- The statement that makes a meeting, which is a transaction of its own. -/
def insertMeeting (workspaceId : Uuid) (input : CreateMeetingInput) (prompt : String) (env : Environment)
    (s : Store) : Except Failure MeetingWithAction × Store :=
  let meeting := newMeeting workspaceId input env
  let action : OliviaAssistedAction := { meetingId := env.id, prompt }
  match env.fate with
  | .fails error => (.error error, s)
  | .succeeds | .unacknowledged _ =>
    if s.committed.meetings.any fun m => m.id = meeting.id ∨ m.slot = meeting.slot then
      (.error (.prisma "P2002"), s)
    else (env.fate.answer (meeting, some action), { s with committed := s.committed.insert meeting action })

/-- What calls answer and do. A statement waits for a row that another transaction has locked until it is
    given up. -/
def perform : (o : Operation) → Environment → Store → Except Failure o.Answer × Store
  | .now, env, s => (.ok env.now, s)
  | .getWorkspaceMembership .., env, s => (env.fate.answer env.role, s)
  | .findProject .., env, s => (env.fate.answer env.project, s)
  | .createMeeting workspaceId input prompt, env, s => insertMeeting workspaceId input prompt env s
  | .findMeetingByTitle workspaceId title, env, s =>
    (env.fate.answer ((s.committed.meetings.find? fun m => m.slot = (workspaceId, title)).map
      s.committed.withAction), s)
  | .findMeeting meetingId, env, s =>
    (env.fate.answer ((s.committed.meeting? meetingId).map s.committed.withAction), s)
  | .listMeetings workspaceId, env, s =>
    (env.fate.answer (((s.committed.meetings.filter fun m => m.workspaceId = workspaceId).insertionSort
      fun left right => right.createdAt ≤ left.createdAt).map s.committed.withAction), s)
  | .begin, env, s => s.begin env.fate
  | .findMeetingIn tx meetingId, env, s =>
    s.within env.fate closed tx fun t =>
      let d := t.written s.committed
      (.ok ((d.meeting? meetingId).map d.withAction), s)
  | .completeAction tx meetingId response now, env, s =>
    s.within env.fate closed tx fun t =>
      let d := t.written s.committed
      let count := (d.actions.filter fun a => a.meetingId = meetingId ∧ a.status ≠ .completed).length
      if count = 0 then (.ok 0, s)
      else if s.isFree tx (.action meetingId) = false then (.error closed, s)
      else (.ok count, s.update tx [.action meetingId] fun d => d.completeAction meetingId response now)
  | .updateMeeting tx meetingId response, env, s =>
    s.within env.fate closed tx fun t =>
      let d := t.written s.committed
      match (d.setBrief meetingId response).meeting? meetingId with
      | none => (.error (.prisma "P2025"), s)
      | some meeting =>
        if s.isFree tx (.meeting meetingId) = false then (.error closed, s)
        else
          (.ok (d.withAction meeting), s.update tx [.meeting meetingId] fun d => d.setBrief meetingId response)
  | .commit tx, env, s => s.finish env.fate closed tx
  | .rollback tx, env, s => (env.fate.answer (), s.close tx)
  | .expire tx, _, s => (.ok (), s.close tx)

/-- What runs. -/
inductive Activity where
  | creation (userId workspaceId : Uuid) (body : CreateMeetingInput)
  | listing (userId workspaceId : Uuid)
  | completion (userId meetingId : Uuid) (response : String)
  | expiry (tx : Nat)
deriving DecidableEq, Repr

/-- The program of what runs, with the meetings that it answers. -/
def Activity.program : Activity → Program (List MeetingRecord)
  | .creation userId workspaceId body => do
    let meeting ← createMeetingRoute userId workspaceId body
    pure [meeting]
  | .listing userId workspaceId => listMeetingsRoute userId workspaceId
  | .completion userId meetingId response => do
    let meeting ← completeMeetingBriefRoute userId meetingId response
    pure [meeting]
  | .expiry tx => do
    call (.expire tx)
    pure []

/-- Any number of requests about meetings, interleaved at their statements. -/
def meetingSystem : System Operation (fun o => Except Failure o.Answer) Store Activity
    (Except Failure (List MeetingRecord)) where
  Choice := Environment
  perform := perform
  admits _ _ := True
  body activity := activity.program.run

instance (s : Store) (activity : Activity) : Decidable (meetingSystem.admits s activity) :=
  inferInstanceAs (Decidable True)

/-- Configurations. -/
abbrev MeetingConfig : Type :=
  Config Operation (fun o => Except Failure o.Answer) Store Activity (Except Failure (List MeetingRecord))

end System

end AtomsPlatform.Meetings
