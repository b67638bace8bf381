import AtomsPlatform.Run.Rows

/-!
# Rows of sandboxes

Which operations change the sessions, commands and previews of sandboxes, and how. A row of a command
is never removed and never changes its identifier.
-/

namespace AtomsPlatform.Run
variable {Output : Type}

/-- The sessions, the commands and the previews. -/
def RunStore.sandbox (s : RunStore Output) :
    List SandboxSession × List SandboxCommand × List PreviewSession :=
  (s.sandboxSessions, s.sandboxCommands, s.previewSessions)

/-- The operations through which a validation reports its sandbox. -/
def Operation.reportsSandbox : Operation Output → Bool
  | .createSandboxSession _ | .markSandboxFilesRestored .. => true
  | .recordSandboxCommand _ | .recordPreviewReady _ => true
  | _ => false

section Parts
variable {s s' : RunStore Output} {runId : Uuid} {version : Nat} {now : Date}

lemma sandbox_appendEvents {events : List RunEventPayload} :
    (s.appendEvents runId events).sandbox = s.sandbox := by
  obtain ⟨logs, e⟩ := appendEvents_eq s runId events
  rw [e]
  rfl

lemma writePlans_sandbox {projectId : Uuid} {plans : List FilePlan} {paths : List String}
    (e : writePlans projectId plans s = .ok (paths, s')) : s'.sandbox = s.sandbox := by
  obtain ⟨files, rfl⟩ := writePlans_files e
  rfl

lemma ensureTask_sandbox {input : PrepareTaskInput} {taskId : Uuid} {status : AgentTaskStatus}
    {event : RunEventPayload} {result : TaskMutationResult Output}
    (e : ensureTask input taskId status event s = .ok (result, s')) : s'.sandbox = s.sandbox := by
  refine whileActive_keeps RunStore.sandbox (fun _ _ => rfl) ?_ e
  intro s₀ body
  split at body
  · cases body
    rfl
  · split at body
    · cases body
    · cases body
      rfl

lemma startTask_sandbox {taskId : Uuid} {result : TaskMutationResult Output}
    (e : startTask runId version taskId now s = .ok (result, s')) : s'.sandbox = s.sandbox := by
  refine whileActive_keeps RunStore.sandbox (fun _ _ => rfl) ?_ e
  intro s₀ body
  split at body
  · cases body
  · split at body
    · cases body
      rfl
    · cases body
      rfl

lemma failTask_sandbox {taskId : Uuid} {error : RunError} {b : Bool}
    (e : failTask runId version taskId error now s = .ok (b, s')) : s'.sandbox = s.sandbox := by
  refine whileActive_keeps RunStore.sandbox (fun _ _ => rfl) ?_ e
  intro s₀ body
  split at body
  · cases body
  · cases body
    rfl

lemma finishTask_sandbox {outputs : AgentOutputs Output} {input : CompleteTaskInput Output}
    {artifactId : Uuid} {run : AgentRun} {current : AgentTask Output} {paths : List String}
    {result : PatchResult (WorkerTaskRecord Output)}
    (e : finishTask outputs input artifactId run current paths s = .ok (result, s')) :
    s'.sandbox = s.sandbox := by
  simp only [finishTask] at e
  split at e
  · cases e
  · rename_i artifact _
    cases e
    rw [sandbox_appendEvents]
    cases artifact with
    | none => rfl
    | some artifact =>
      simp only [Option.map_some, Option.getD_some, storeArtifact]
      split
      · rfl
      · rfl

lemma completeTask_sandbox {outputs : AgentOutputs Output} {input : CompleteTaskInput Output}
    {artifactId : Uuid} {result : PatchResult (WorkerTaskRecord Output)}
    (e : completeTask outputs input artifactId s = .ok (result, s')) : s'.sandbox = s.sandbox := by
  rcases completeTask_cases e with ⟨-, -, rfl⟩ | ⟨s₀, current, rfl, -, done⟩
  · rfl
  rcases done with ⟨-, -, rfl⟩ | ⟨-, run, -, ⟨_, -, -, rfl⟩ | ⟨plans, paths, s₁, -, written, finished⟩⟩
  · rfl
  · rfl
  · have files := writePlans_sandbox written
    exact (finishTask_sandbox finished).trans files

lemma applyGeneratedFiles_sandbox {input : ApplyGeneratedFilesInput}
    {result : PatchResult (List String)}
    (e : applyGeneratedFiles input s = .ok (result, s')) : s'.sandbox = s.sandbox := by
  rcases applyGeneratedFiles_cases e with ⟨-, -, rfl⟩ | ⟨s₀, run, rfl, -, done⟩
  · rfl
  rcases done with ⟨_, -, -, rfl⟩ | ⟨plans, paths, s₁, -, written, -, rfl⟩
  · rfl
  · have files := writePlans_sandbox written
    exact files

lemma claimRun_sandbox {job : RunJob} {result : RunClaimResult}
    (e : claimRun job now s = .ok (result, s')) : s'.sandbox = s.sandbox := by
  simp only [claimRun] at e
  split at e
  · cases e
    rfl
  · split at e
    · cases e
      rfl
    split at e
    · cases e
      rfl
    · cases e
      rfl

lemma leaveRunning_sandbox {data : AgentRun → AgentRun} {event : RunEventPayload} {b : Bool}
    (e : leaveRunning runId version data event s = .ok (b, s')) : s'.sandbox = s.sandbox := by
  simp only [leaveRunning] at e
  split at e
  · cases e
    rfl
  · cases e
    rfl

lemma transitionRun_sandbox {action : RunAction} {status : AgentRunStatus} {found : Bool}
    {result : Option AgentRun}
    (e : transitionRun runId action status version now found s = .ok (result, s')) :
    s'.sandbox = s.sandbox := by
  simp only [transitionRun] at e
  split at e
  · cases e
  · split at e
    · cases e
      rfl
    · cases e
      rfl

lemma putProjectFile_sandbox {projectId : Uuid} {input : FileContentInput} {found : Bool}
    {result : PutProjectFileResult}
    (e : putProjectFile projectId input found s = .ok (result, s')) : s'.sandbox = s.sandbox := by
  unfold putProjectFile at e
  split at e
  · cases e
    rfl
  extract_lets latest actualVersion expectedMatches file at e
  split at e
  · obtain ⟨s₁, created, e⟩ := map_eq_ok e
    obtain ⟨rfl, -⟩ := createFile_ok created
    cases e
    rfl
  · cases e
    rfl

lemma sendReminder_sandbox {pausedAt : Option Date} {b : Bool}
    (e : sendReminder runId pausedAt now s = .ok (b, s')) : s'.sandbox = s.sandbox := by
  simp only [sendReminder] at e
  split at e
  · cases e
    rfl
  · cases e
    rfl

lemma purgeRunData_sandbox {cancelledAt : Option Date} {b : Bool}
    (e : purgeRunData runId cancelledAt now s = .ok (b, s')) : s'.sandbox = s.sandbox := by
  simp only [purgeRunData] at e
  split at e
  · cases e
    rfl
  · cases e
    rfl

end Parts

/-- Only the reports of validations change the rows of sandboxes. -/
lemma perform_sandbox {o : Operation Output} (outputs : AgentOutputs Output) (env : Environment)
    (s : RunStore Output) (silent : o.reportsSandbox = false) :
    (perform outputs o env s).2.sandbox = s.sandbox := by
  obtain ⟨error, e⟩ | ⟨r, e, -⟩ := perform_cases outputs o env s
  · rw [e]
  generalize (perform outputs o env s).2 = s' at e ⊢
  cases o with
  | createSandboxSession | markSandboxFilesRestored | recordSandboxCommand | recordPreviewReady =>
    cases silent
  | claimRun => exact claimRun_sandbox e
  | prepareTask => exact ensureTask_sandbox e
  | skipTask => exact ensureTask_sandbox e
  | startTask => exact startTask_sandbox e
  | completeTask => exact completeTask_sandbox e
  | failTask => exact failTask_sandbox e
  | applyGeneratedFiles => exact applyGeneratedFiles_sandbox e
  | requestApproval => exact leaveRunning_sandbox e
  | completeRun => exact leaveRunning_sandbox e
  | failRun => exact leaveRunning_sandbox e
  | transitionRun => exact transitionRun_sandbox e
  | putProjectFile => exact putProjectFile_sandbox e
  | sendReminder => exact sendReminder_sandbox e
  | purgeRunData => exact purgeRunData_sandbox e
  | markRunFailed | expirePausedRun | listProjectFiles | getRun | findPausedRuns =>
    cases e
    rfl

section Commands
variable {s s' : RunStore Output} {runId : Uuid} {version : Nat} {now : Date}

/-- The rows of commands: they keep their identifiers, and at most one is added, under a new one. -/
def CommandsKept (id : Uuid) (s s' : RunStore Output) : Prop :=
  s'.sandboxCommands.map SandboxCommand.id = s.sandboxCommands.map SandboxCommand.id ∨
    id ∉ s.sandboxCommands.map SandboxCommand.id ∧
      s'.sandboxCommands.map SandboxCommand.id =
        s.sandboxCommands.map SandboxCommand.id ++ [id]

lemma recordSandboxCommand_kept {input : RecordSandboxCommandInput} {id : Uuid} {b : Bool}
    (e : recordSandboxCommand input id s = .ok (b, s')) : CommandsKept id s s' := by
  rcases whileActive_ok e with ⟨-, -, rfl⟩ | ⟨-, body⟩
  · exact .inl rfl
  split at body
  · split at body
    · cases body
    · rename_i commands upserted
      cases body
      show CommandsKept id s { s with sandboxCommands := commands }
      rw [upsertCommand] at upserted
      split at upserted
      · cases upserted
        refine .inl ?_
        show (List.map _ (List.map _ s.sandboxCommands)) = _
        rw [List.map_map]
        refine List.map_congr_left fun command _ => ?_
        show (if _ then _ else command).id = command.id
        split
        · rfl
        · rfl
      · split at upserted
        · cases upserted
        · rename_i fresh
          cases upserted
          refine .inr ⟨fun taken => fresh ?_, List.map_append⟩
          obtain ⟨command, mem, same⟩ := List.mem_map.mp taken
          exact List.any_eq_true.mpr ⟨command, mem, decide_eq_true same⟩
  · cases body
    exact .inl rfl

lemma createSandboxSession_commands {input : CreateSandboxSessionInput} {sessionId : Uuid}
    {result : Option Uuid} (e : createSandboxSession input sessionId s = .ok (result, s')) :
    s'.sandboxCommands = s.sandboxCommands := by
  refine whileActive_keeps RunStore.sandboxCommands (fun _ _ => rfl) ?_ e
  intro s₀ body
  split at body
  · cases body
    rfl
  · split at body
    · cases body
    · cases body
      rfl

lemma markSandboxFilesRestored_commands {sessionId : Uuid} {b : Bool}
    (e : markSandboxFilesRestored runId version sessionId now s = .ok (b, s')) :
    s'.sandboxCommands = s.sandboxCommands := by
  refine whileActive_keeps RunStore.sandboxCommands (fun _ _ => rfl) ?_ e
  intro s₀ body
  split at body
  · cases body
    rfl
  · rename_i s₁ updated
    obtain ⟨sandboxSessions, rfl⟩ := updateSession_eq updated
    cases body
    rfl

lemma recordPreviewReady_commands {input : RecordPreviewReadyInput} {b : Bool}
    (e : recordPreviewReady input s = .ok (b, s')) : s'.sandboxCommands = s.sandboxCommands := by
  refine whileActive_keeps RunStore.sandboxCommands (fun _ _ => rfl) ?_ e
  intro s₀ body
  simp only at body
  split at body
  · cases body
    rfl
  · rename_i s₁ updated
    obtain ⟨sandboxSessions, rfl⟩ := updateSession_eq updated
    cases body
    rfl

/-- What an operation does to the rows of commands. -/
lemma perform_commands (outputs : AgentOutputs Output) (o : Operation Output) (env : Environment)
    (s : RunStore Output) : CommandsKept env.id s (perform outputs o env s).2 := by
  have kept (same : (perform outputs o env s).2.sandboxCommands = s.sandboxCommands) :
      CommandsKept env.id s (perform outputs o env s).2 := .inl (congrArg _ same)
  by_cases reports : o.reportsSandbox = true
  · obtain ⟨error, e⟩ | ⟨r, e, -⟩ := perform_cases outputs o env s
    · rw [e]
      exact .inl rfl
    cases o with
    | recordSandboxCommand => exact recordSandboxCommand_kept e
    | createSandboxSession => exact kept (createSandboxSession_commands e)
    | markSandboxFilesRestored => exact kept (markSandboxFilesRestored_commands e)
    | recordPreviewReady => exact kept (recordPreviewReady_commands e)
    | _ => cases reports
  · have same := perform_sandbox outputs env s (Bool.eq_false_iff.mpr reports)
    exact kept (congrArg (fun rows => rows.2.1) same)

end Commands
end AtomsPlatform.Run
