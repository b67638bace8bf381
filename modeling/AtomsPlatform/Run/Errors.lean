import AtomsPlatform.Run.Files

/-!
# Worker errors

What the worker's code throws, and how it classifies it. A thrown error is the list of its frames: the
error itself, its `cause`, the cause of that, and so on.
-/

namespace AtomsPlatform.Run

/-- The classes of errors that the worker tells apart. -/
inductive ErrorKind where
  /-- `RunStoppedError` -/
  | runStopped :
    (status : String) → ErrorKind
  /-- `GeneratedFileConflictError` -/
  | generatedFileConflict :
    FileConflict → ErrorKind
  | zodError
  | other
deriving DecidableEq, Repr

/-- Source `ValidationFailure`. -/
structure ValidationFailure where
  step : String
  exitCode : Int
  output : String
deriving DecidableEq, Repr

/-- One error of a chain, with the properties that are read of it. -/
structure ErrorFrame where
  kind : ErrorKind := .other
  name : String := "Error"
  message : String
  code : Option String := none
  retryable : Option Bool := none
  /-- `step`, `exitCode` and `output`, when they have the types of a failed validation step. -/
  failedStep : Option ValidationFailure := none
deriving DecidableEq, Repr

/-- A thrown error and its causes; a thrown value without properties has no frames. -/
abbrev Thrown := List ErrorFrame

/-- How far the classifiers follow the causes. -/
def causeDepth : Nat := 10

/-- Source `RunStoppedError`. -/
def runStoppedError (message status : String) : Thrown :=
  [{ kind := .runStopped status, name := "RunStoppedError", message }]

/-- Source `GeneratedFileConflictError`. -/
def generatedFileConflictError (conflict : FileConflict) : Thrown :=
  [{ kind := .generatedFileConflict conflict
     name := "GeneratedFileConflictError"
     message := s!"Generated file {conflict.path} expected version {conflict.expectedVersion} " ++
      s!"but found {conflict.actualVersion}"
     retryable := some false }]

/-- The error of `schema.parse`. -/
def zodError : Thrown :=
  [{ kind := .zodError, name := "ZodError", message := "Invalid input" }]

/-- The error of a transaction. -/
def Failure.thrown : Failure → Thrown
  | .prisma code message =>
    [{ name := "PrismaClientKnownRequestError", message, code := some code }]
  | .error message => [{ message }]

/-- The status of a `RunStoppedError`. -/
def ErrorFrame.stoppedStatus? (frame : ErrorFrame) : Option String :=
  match frame.kind with
  | .runStopped status => some status
  | _ => none

/-- Source `findRunStoppedError`: the status of the first one among the causes. -/
def findRunStoppedError (error : Thrown) : Option String :=
  (error.take causeDepth).findSome? ErrorFrame.stoppedStatus?

/-- Source `isRetryableError`. -/
def isRetryableError (error : Thrown) : Bool :=
  match error.head?.map ErrorFrame.kind with
  | some .zodError | some (.generatedFileConflict _) => false
  | _ => ((error.take causeDepth).findSome? ErrorFrame.retryable).getD true

/-- Source `findValidationFailure`. -/
def findValidationFailure (error : Thrown) : Option ValidationFailure :=
  (error.take causeDepth).findSome? fun frame =>
    if frame.name = "SandboxValidationError" then frame.failedStep else none

/-- What one frame says about the reason of a failure. -/
def ErrorFrame.failureReason? (frame : ErrorFrame) : Option String :=
  let code := frame.code.getD ""
  if code = "PROVIDER_BUDGET_EXCEEDED" ∨ code = "WORKSPACE_BUDGET_EXCEEDED" then
    some "FAILED_BUDGET_EXHAUSTED"
  else if frame.name = "SandboxValidationError" ∨ code = "SANDBOX_VALIDATION_FAILED" then
    some "FAILED_VALIDATION"
  else none

/-- Source `classifyRunFailure`. -/
def classifyRunFailure (error : Thrown) : String :=
  let frames := error.take causeDepth
  let providerSeen := frames.any fun frame => frame.name = "ProviderBudgetError" ∨
    frame.name = "ModelGatewayError" ∨ frame.name = "SandboxProviderError"
  (frames.findSome? ErrorFrame.failureReason?).getD
    (if providerSeen then "FAILED_PROVIDER" else "FAILED_INTERNAL")

/-- Source `toWorkerError`. -/
def toWorkerError (error : Thrown) : RunError :=
  let stopped := (error.take causeDepth).find? fun frame => frame.stoppedStatus?.isSome
  match stopped.or error.head? with
  | none =>
    { code := "UnknownError"
      name := "UnknownError"
      message := "Orchestration failed"
      retryable := isRetryableError error
      reason := some (classifyRunFailure error) }
  | some effective =>
    { code := effective.code.getD effective.name
      name := effective.name
      message := effective.message
      retryable := isRetryableError error
      reason := some (classifyRunFailure error) }

/-- A run that was stopped is reported as stopped. -/
@[simp]
lemma findRunStoppedError_runStoppedError (message status : String) :
    findRunStoppedError (runStoppedError message status) = some status :=
  rfl

end AtomsPlatform.Run
