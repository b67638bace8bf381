import AtomsPlatform.Lib.Ending
import AtomsPlatform.Release.Runner

/-!
# The lifecycle of a validation

The validation runner over a provider and hooks that may answer anything. A validation is judged by the
calls it has made: the steps that were reported have the ordinals 1, 2, …, the mandatory commands so far
have passed, and where it stops, a call is to blame that is not one of the database or acceptance
commands (`Progress`, `Stopped`).
-/

namespace AtomsPlatform.Release
open Run Interleaving

/-- The calls of a validation on its provider, its hooks and its clock. -/
inductive Sandboxing where
  | now
  | create (spec : SandboxSpec)
  | writeFiles (sandboxId : String) (files : List SandboxFileInput)
  | exec (sandboxId : String) (command : ExecCommand)
  | startProcess (sandboxId : String) (command : ExecCommand)
  | exposePort (sandboxId : String) (port : Nat)
  | terminate (sandboxId : String)
  | onSandboxCreated (sandbox : SandboxHandle) (expiresAt : Date)
  | onFilesRestored (sandbox : SandboxHandle)
  | onStep (sandbox : SandboxHandle) (step : ValidationStepReport)
  | previewEnvironment (sandbox : SandboxHandle) (expiresAt : Date)

/-- What a call answers when it does not fail. -/
@[reducible]
def Sandboxing.Result : Sandboxing → Type
  | .now => Date
  | .create _ => SandboxHandle
  | .exec .. => ExecResult
  | .startProcess .. => Nat
  | .exposePort .. => PreviewUrl
  | .previewEnvironment .. => List (String × String)
  | .writeFiles .. | .terminate _ | .onSandboxCreated .. | .onFilesRestored _ | .onStep .. => Unit

/-- Programs over a provider and hooks. -/
abbrev SandboxProgram (α : Type) : Type :=
  Fallible Sandboxing Sandboxing.Result Thrown α

/-- A call with its answer. -/
abbrev SandboxEvent : Type :=
  Event Sandboxing fun o => Except Thrown o.Result

/-- The program that makes one call. -/
abbrev request (o : Sandboxing) : SandboxProgram o.Result :=
  invoke o

/-- A provider that may do anything. -/
def anyProvider : SandboxProvider SandboxProgram where
  now := request .now
  create spec := request (.create spec)
  writeFiles sandboxId files := request (.writeFiles sandboxId files)
  exec sandboxId command := request (.exec sandboxId command)
  startProcess sandboxId command := request (.startProcess sandboxId command)
  exposePort sandboxId port := request (.exposePort sandboxId port)
  terminate sandboxId := request (.terminate sandboxId)

/-- Hooks that may do anything. -/
def anyHooks : ProjectValidationHooks SandboxProgram where
  onSandboxCreated sandbox expiresAt := request (.onSandboxCreated sandbox expiresAt)
  onFilesRestored sandbox := request (.onFilesRestored sandbox)
  onStep sandbox step := request (.onStep sandbox step)
  previewEnvironment sandbox expiresAt := request (.previewEnvironment sandbox expiresAt)

/-- The calls of a validation, and how it ends. -/
def Validates (options : RunnerOptions) (input : ProjectValidationInput) (h : List SandboxEvent)
    (outcome : Except Thrown ProjectValidationResult) : Prop :=
  Ends (ProjectValidationRunner.validate options anyProvider anyHooks input) h outcome

section Readings

/-- The step that a call passes to `onStep`. -/
def reported : SandboxEvent → Option ValidationStepReport
  | ⟨.onStep _ step, _⟩ => some step
  | _ => none

/-- What the execution of a command answered. -/
def executed (command : String) : SandboxEvent → Option (Except Thrown ExecResult)
  | ⟨.exec _ c, r⟩ => if c.command = command then some r else none
  | _ => none

/-- A step has passed, as last reported: the last execution of its command exited with 0, and so does
    the last step of its name. -/
structure Passed (check : String × String) (h : List SandboxEvent) : Prop where
  exited : ∃ result, (h.filterMap (executed check.2)).getLast? = some (.ok result) ∧ result.exitCode = 0
  announced : ∃ step, ((h.filterMap reported).filter (·.name = check.1)).getLast? = some step ∧
    step.exitCode = 0

/-- The commands of the database and of acceptance. -/
def optionalCommands : List String :=
  [databaseStartCommand, "pnpm exec prisma migrate deploy", "pnpm exec prisma db seed",
    "node " ++ acceptanceScriptPath]

/-- The calls whose failure is no reason for a validation to fail: database and acceptance commands,
    the files of the acceptance command, and the cleanup. -/
def Sandboxing.Optional : Sandboxing → Prop
  | .exec _ command => command.command ∈ optionalCommands
  | .writeFiles _ files =>
    files.map SandboxFileInput.path = [acceptanceScriptPath, acceptanceManifestPath]
  | .terminate _ => True
  | _ => False

/-- The names of the steps that are no commands of the pipeline. -/
def otherSteps : List String :=
  ["db-start", "db-migrate", "db-seed", "preview-start", "acceptance"]

/-- A call that is a reason for a validation to fail: a failure of a call that is not optional, or the
    report of a mandatory step that did not exit with 0. -/
def SandboxEvent.Culprit : SandboxEvent → Prop
  | ⟨o, .error _⟩ => ¬ o.Optional
  | ⟨.onStep _ step, .ok _⟩ => step.exitCode ≠ 0 ∧ step.name ∉ otherSteps
  | _ => False

/-- The commands of the pipeline that are executed. -/
def pipeline (previewOnly : Bool) : List ValidationCommand :=
  if previewOnly then
    validationCommands.filter fun definition =>
      definition.name = "install" || definition.name = "build"
  else validationCommands

/-- The command of the health check. -/
def healthCommand (options : RunnerOptions) : String :=
  match options.browserViability with
  | none => previewHealthCommand options.previewPort
  | some _ => "node " ++ previewViabilityScriptPath

/-- The name and the command of a step. -/
def ValidationCommand.check (definition : ValidationCommand) : String × String :=
  (definition.name, definition.command)

/-- The steps that a validation must pass, with their commands. -/
def requiredChecks (options : RunnerOptions) (previewOnly : Bool) : List (String × String) :=
  (pipeline previewOnly).map ValidationCommand.check ++ [("preview-health", healthCommand options)]

end Readings

section Judgements
variable {steps : List ValidationStepReport} {passed : List (String × String)} {h : List SandboxEvent}

/-- Calls within a sandbox. -/
def Sandboxing.Within : Sandboxing → Prop
  | .create _ | .terminate _ => False
  | _ => True

/-- What is known while a validation goes on. -/
structure Progress (steps : List ValidationStepReport) (passed : List (String × String))
    (h : List SandboxEvent) : Prop where
  reports : h.filterMap reported = steps
  ordinals : steps.map ValidationStepReport.ordinal = List.range' 1 steps.length
  within : ∀ e ∈ h, e.1.Within
  passed : ∀ check ∈ passed, Passed check h

/-- What is known where a validation stops. -/
structure Stopped (h : List SandboxEvent) : Prop where
  ordinals : (h.filterMap reported).map ValidationStepReport.ordinal =
    List.range' 1 (h.filterMap reported).length
  within : ∀ e ∈ h, e.1.Within
  blamed : ∃ h' e, h = h' ++ [e] ∧ SandboxEvent.Culprit e

/-- Hoare triples on the calls of a validation. -/
abbrev Judged {α : Type} (P : List SandboxEvent → Prop) (p : SandboxProgram α)
    (Q : α → List SandboxEvent → Prop) : Prop :=
  Accounts (fun _ _ => True) P p Q fun _ => Stopped

lemma within_snoc {e : SandboxEvent} (within : ∀ e ∈ h, e.1.Within) (last : e.1.Within) :
    ∀ e' ∈ h ++ [e], e'.1.Within := by
  intro e' mem
  rcases List.mem_append.mp mem with mem | mem
  · exact within e' mem
  · rw [List.mem_singleton.mp mem]
    exact last

lemma filterMap_snoc_none {α β : Type} {f : α → Option β} {xs : List α} {x : α} (none : f x = none) :
    (xs ++ [x]).filterMap f = xs.filterMap f := by
  rw [List.filterMap_append, List.filterMap_cons_none none, List.filterMap_nil, List.append_nil]

lemma filterMap_snoc_some {α β : Type} {f : α → Option β} {xs : List α} {x : α} {y : β}
    (got : f x = some y) : (xs ++ [x]).filterMap f = xs.filterMap f ++ [y] := by
  rw [List.filterMap_append, List.filterMap_cons_some got, List.filterMap_nil]

/-- A step that has passed stays so as long as its command is not executed and its name not reported
    again. -/
lemma Passed.snoc {check : String × String} {e : SandboxEvent} (passes : Passed check h)
    (idle : executed check.2 e = none) (silent : ∀ step, reported e = some step → step.name ≠ check.1) :
    Passed check (h ++ [e]) := by
  constructor
  · rw [filterMap_snoc_none idle]
    exact passes.exited
  · cases said : reported e with
    | none =>
      rw [filterMap_snoc_none said]
      exact passes.announced
    | some step =>
      have other : ([step].filter (·.name = check.1)) = [] := by
        rw [List.filter_singleton, decide_eq_false (silent step said)]
        rfl
      rw [filterMap_snoc_some said, List.filter_append, other, List.append_nil]
      exact passes.announced

/-- A call that reports no step and executes no command that has passed. -/
lemma Progress.snoc {e : SandboxEvent} (progress : Progress steps passed h) (within : e.1.Within)
    (silent : reported e = none) (idle : ∀ check ∈ passed, executed check.2 e = none) :
    Progress steps passed (h ++ [e]) where
  reports := by rw [filterMap_snoc_none silent]; exact progress.reports
  ordinals := progress.ordinals
  within := within_snoc progress.within within
  passed check mem := by
    apply (progress.passed check mem).snoc (idle check mem)
    intro step said
    rw [silent] at said
    cases said

/-- A step is reported. -/
lemma Progress.report {e : SandboxEvent} {step : ValidationStepReport}
    (progress : Progress steps passed h) (within : e.1.Within) (said : reported e = some step)
    (ordinal : step.ordinal = steps.length + 1) (idle : ∀ check ∈ passed, executed check.2 e = none)
    (fresh : ∀ check ∈ passed, step.name ≠ check.1) : Progress (steps ++ [step]) passed (h ++ [e]) where
  reports := by rw [filterMap_snoc_some said, progress.reports]
  ordinals := by
    rw [List.map_append, progress.ordinals, List.length_append, List.range'_append_1.symm]
    simp [ordinal, Nat.add_comm]
  within := within_snoc progress.within within
  passed check mem := by
    apply (progress.passed check mem).snoc (idle check mem)
    intro step' said'
    rw [said] at said'
    cases said'
    exact fresh check mem

lemma Progress.stopped {e : SandboxEvent} (progress : Progress steps passed (h ++ [e]))
    (culprit : e.Culprit) : Stopped (h ++ [e]) where
  ordinals := by rw [progress.reports]; exact progress.ordinals
  within := progress.within
  blamed := ⟨h, e, rfl, culprit⟩

section Rules

/-- Calls that report nothing and execute nothing. -/
def Sandboxing.Plain : Sandboxing → Prop
  | .exec .. | .onStep .. | .create _ | .terminate _ => False
  | _ => True

lemma Sandboxing.Plain.within {o : Sandboxing} (plain : o.Plain) : o.Within := by
  cases o with
  | create => exact plain.elim
  | terminate => exact plain.elim
  | _ => trivial

lemma Sandboxing.Plain.silent {o : Sandboxing} (plain : o.Plain) {r : Except Thrown o.Result} :
    reported ⟨o, r⟩ = none := by
  cases o with
  | onStep => exact plain.elim
  | _ => rfl

lemma Sandboxing.Plain.idle {o : Sandboxing} (plain : o.Plain) {r : Except Thrown o.Result}
    {command : String} : executed command ⟨o, r⟩ = none := by
  cases o with
  | exec => exact plain.elim
  | _ => rfl

lemma Progress.plain {o : Sandboxing} {r : Except Thrown o.Result}
    (progress : Progress steps passed h) (plain : o.Plain) :
    Progress steps passed (h ++ [⟨o, r⟩]) :=
  progress.snoc plain.within plain.silent fun _ _ => plain.idle

/-- A failure of a call that is not optional is a reason to stop. -/
lemma judged_plain {o : Sandboxing} (plain : o.Plain) (mandatory : ¬ o.Optional) :
    Judged (Progress steps passed) (request o) fun _ => Progress steps passed := by
  apply Accounts.call
  · exact fun _ _ => trivial
  · exact fun h a progress => progress.plain plain
  · exact fun h e progress => (progress.plain plain).stopped mandatory

/-- A command that was executed, with what is known of its result. -/
structure Ran (steps : List ValidationStepReport) (passed : List (String × String)) (command : String)
    (exitCode : Int) (h : List SandboxEvent) : Prop extends Progress steps passed h where
  last : ∃ result, (h.filterMap (executed command)).getLast? = some (.ok result) ∧
    result.exitCode = exitCode

lemma Ran.plain {o : Sandboxing} {r : Except Thrown o.Result} {command : String} {exitCode : Int}
    (ran : Ran steps passed command exitCode h) (plain : o.Plain) :
    Ran steps passed command exitCode (h ++ [⟨o, r⟩]) where
  toProgress := ran.toProgress.plain plain
  last := by
    rw [filterMap_snoc_none plain.idle]
    exact ran.last

/-- A mandatory command is executed. -/
lemma judged_exec {sandboxId : String} {command : ExecCommand}
    (mandatory : command.command ∉ optionalCommands)
    (fresh : ∀ check ∈ passed, check.2 ≠ command.command) :
    Judged (Progress steps passed) (request (.exec sandboxId command)) fun result =>
      Ran steps passed command.command result.exitCode := by
  have idle {r : Except Thrown ExecResult} :
      ∀ check ∈ passed, executed check.2 ⟨.exec sandboxId command, r⟩ = none :=
    fun check mem => if_neg fun same => fresh check mem same.symm
  apply Accounts.call
  · exact fun _ _ => trivial
  · intro h result progress
    have got : executed command.command ⟨.exec sandboxId command, .ok result⟩ = some (.ok result) :=
      if_pos rfl
    exact
      { toProgress := progress.snoc trivial rfl idle
        last := ⟨result, by rw [filterMap_snoc_some got, List.getLast?_concat], rfl⟩ }
  · intro h e progress
    have after := progress.snoc (e := ⟨.exec sandboxId command, .error e⟩) trivial rfl idle
    exact after.stopped mandatory

/-- An optional command is executed, and may fail. -/
lemma accounts_optional {sandboxId : String} {command : ExecCommand}
    (fresh : ∀ check ∈ passed, check.2 ≠ command.command) :
    Accounts (fun _ _ => True) (Progress steps passed) (request (.exec sandboxId command))
      (fun _ => Progress steps passed) fun _ => Progress steps passed := by
  have idle {r : Except Thrown ExecResult} :
      ∀ check ∈ passed, executed check.2 ⟨.exec sandboxId command, r⟩ = none :=
    fun check mem => if_neg fun same => fresh check mem same.symm
  apply Accounts.call
  · exact fun _ _ => trivial
  · exact fun h result progress => progress.snoc trivial rfl idle
  · exact fun h e progress => progress.snoc trivial rfl idle

/-- A step is passed to the hook. -/
lemma judged_onStep {sandbox : SandboxHandle} {step : ValidationStepReport}
    (ordinal : step.ordinal = steps.length + 1) (fresh : ∀ check ∈ passed, step.name ≠ check.1) :
    Judged (Progress steps passed) (request (.onStep sandbox step)) fun _ =>
      Progress (steps ++ [step]) passed := by
  apply Accounts.call
  · exact fun _ _ => trivial
  · exact fun h a progress => progress.report trivial rfl ordinal (fun _ _ => rfl) fresh
  · intro h e progress
    have after := progress.report (e := ⟨.onStep sandbox step, .error e⟩) trivial rfl ordinal
      (fun _ _ => rfl) fresh
    exact after.stopped id

end Rules

section Steps
variable {options : RunnerOptions} {sandbox : SandboxHandle} {definition : ValidationCommand}

lemma judged_now : Judged (Progress steps passed) (request .now) fun _ => Progress steps passed :=
  judged_plain trivial id

/-- The report of a mandatory command. -/
structure Executed (steps : List ValidationStepReport) (passed : List (String × String))
    (check : String × String) (step : ValidationStepReport) (h : List SandboxEvent) : Prop
    extends Ran steps passed check.2 step.exitCode h where
  ordinal : step.ordinal = steps.length + 1
  name : step.name = check.1

lemma judged_executeStep (mandatory : definition.command ∉ optionalCommands)
    (fresh : ∀ check ∈ passed, check.2 ≠ definition.command) :
    Judged (Progress steps passed)
      (executeStep options anyProvider sandbox (steps.length + 1) definition)
      fun step => Executed steps passed definition.check step := by
  apply Triple.bind judged_now
  intro startedAt
  apply Triple.bind (judged_exec mandatory fresh)
  intro result
  apply Triple.bind (R := fun _ => Ran steps passed definition.command result.exitCode)
  · apply Accounts.call
    · exact fun _ _ => trivial
    · exact fun h a ran => ran.plain trivial
    · intro h e ran
      have after := ran.toProgress.plain (o := .now) (r := .error e) trivial
      exact after.stopped id
  · intro completedAt
    exact .pure fun h ran => { toRan := ran, ordinal := rfl, name := rfl }

/-- The install is executed again under the same ordinal; the last result counts. -/
lemma judged_retryInstall (mandatory : definition.command ∉ optionalCommands)
    (fresh : ∀ check ∈ passed, check.2 ≠ definition.command) {remaining : Nat}
    {step : ValidationStepReport} :
    Judged (Executed steps passed definition.check step)
      (retryInstall options anyProvider sandbox (steps.length + 1) definition remaining step)
      fun step => Executed steps passed definition.check step := by
  induction remaining generalizing step with
  | zero => exact .pure fun _ executed => executed
  | succ remaining ih =>
    unfold retryInstall
    split
    · refine Triple.bind ((judged_executeStep mandatory fresh).mono ?_ (fun _ _ holds => holds)
        fun _ _ stopped => stopped) fun step => ih
      exact fun _ executed => executed.toProgress
    · exact .pure fun _ executed => executed

lemma judged_executeCommand (mandatory : definition.command ∉ optionalCommands)
    (fresh : ∀ check ∈ passed, check.2 ≠ definition.command) :
    Judged (Progress steps passed)
      (executeCommand options anyProvider sandbox (steps.length + 1) definition)
      fun step => Executed steps passed definition.check step := by
  apply Triple.bind (judged_executeStep mandatory fresh)
  exact fun step => judged_retryInstall mandatory fresh

/-- The report of a mandatory command, after it was passed to the hook. -/
structure Announced (steps : List ValidationStepReport) (passed : List (String × String))
    (check : String × String) (step : ValidationStepReport) (h : List SandboxEvent) : Prop
    extends Ran (steps ++ [step]) passed check.2 step.exitCode h where
  name : step.name = check.1
  last_step : ((h.filterMap reported).filter (·.name = check.1)).getLast? = some step

lemma Executed.announce {check : String × String} {step : ValidationStepReport}
    {r : Except Thrown Unit} (executed : Executed steps passed check step h)
    (fresh : ∀ check' ∈ passed, check.1 ≠ check'.1) :
    Announced steps passed check step (h ++ [⟨.onStep sandbox step, r⟩]) where
  toProgress := by
    have named : ∀ check' ∈ passed, step.name ≠ check'.1 := by
      rw [executed.name]
      exact fresh
    exact executed.toProgress.report (e := ⟨.onStep sandbox step, r⟩) trivial rfl executed.ordinal
      (fun _ _ => rfl) named
  last := by
    rw [filterMap_snoc_none (f := Release.executed check.2) rfl]
    exact executed.last
  name := executed.name
  last_step := by
    have named : ([step].filter (·.name = check.1)) = [step] := by
      rw [List.filter_singleton, decide_eq_true executed.name]
      rfl
    have said : reported ⟨.onStep sandbox step, r⟩ = some step := rfl
    rw [filterMap_snoc_some said, List.filter_append, named, List.getLast?_concat]

/-- The last call passed a step to the hook. -/
def JustAnnounced (steps : List ValidationStepReport) (passed : List (String × String))
    (check : String × String) (sandbox : SandboxHandle) (step : ValidationStepReport)
    (h : List SandboxEvent) : Prop :=
  Announced steps passed check step h ∧ ∃ h', h = h' ++ [⟨.onStep sandbox step, .ok ()⟩]

lemma judged_announce {check : String × String} {step : ValidationStepReport}
    (fresh : ∀ check' ∈ passed, check.1 ≠ check'.1) :
    Judged (Executed steps passed check step) (request (.onStep sandbox step)) fun _ =>
      JustAnnounced steps passed check sandbox step := by
  apply Accounts.call
  · exact fun _ _ => trivial
  · exact fun h a executed => ⟨executed.announce fresh, h, rfl⟩
  · intro h e executed
    have after : Announced steps passed check step (h ++ [⟨.onStep sandbox step, .error e⟩]) :=
      executed.announce fresh
    exact after.toProgress.stopped id

/-- A mandatory step that exits with 0 has passed; with anything else the validation stops. -/
lemma judged_assertSuccessful {check : String × String} {step : ValidationStepReport}
    (mandatory : check.1 ∉ otherSteps) :
    Judged (JustAnnounced steps passed check sandbox step) (assertSuccessful step) fun _ =>
      Progress (steps ++ [step]) (passed ++ [check]) := by
  unfold assertSuccessful
  split
  · rename_i zero
    apply Triple.pure
    rintro h ⟨announced, -⟩
    obtain ⟨result, last, exitCode⟩ := announced.last
    refine { announced.toProgress with passed := fun check' mem => ?_ }
    rcases List.mem_append.mp mem with mem | mem
    · exact announced.toProgress.passed check' mem
    · rw [List.mem_singleton.mp mem]
      exact ⟨⟨result, last, exitCode.trans zero⟩, ⟨step, announced.last_step, zero⟩⟩
  · rename_i failed
    apply Triple.throw
    rintro h ⟨announced, h', rfl⟩
    apply announced.toProgress.stopped
    exact ⟨failed, by rw [announced.name]; exact mandatory⟩

/-- The loop over the commands; the induction is on the commands that are left, whose names and
    commands are new. -/
lemma judged_executeCommands {definitions : List ValidationCommand}
    (mandatory : ∀ definition ∈ definitions,
      definition.name ∉ otherSteps ∧ definition.command ∉ optionalCommands)
    (names : ((passed ++ definitions.map ValidationCommand.check).map Prod.fst).Nodup)
    (commands : ((passed ++ definitions.map ValidationCommand.check).map Prod.snd).Nodup) :
    Judged (Progress steps passed)
      (executeCommands options anyProvider anyHooks sandbox definitions steps)
      fun steps => Progress steps (passed ++ definitions.map ValidationCommand.check) := by
  induction definitions generalizing steps passed with
  | nil =>
    apply Triple.pure
    intro h progress
    rwa [List.map_nil, List.append_nil]
  | cons definition definitions ih =>
    -- the first of the commands that are left is none of those that have passed
    have apart {f : String × String → String}
        (distinct : ((passed ++ (definition :: definitions).map ValidationCommand.check).map f).Nodup) :
        ∀ check ∈ passed, f check ≠ f definition.check := by
      intro check mem same
      rw [List.map_append, List.nodup_append] at distinct
      exact distinct.2.2 _ (List.mem_map_of_mem mem) _ (.head _) same
    have shift : passed ++ (definition :: definitions).map ValidationCommand.check =
        passed ++ [definition.check] ++ definitions.map ValidationCommand.check := by
      rw [List.map_cons, List.append_assoc, List.singleton_append]
    have first := mandatory definition List.mem_cons_self
    have fresh : ∀ check ∈ passed, definition.check.1 ≠ check.1 :=
      fun check mem same => apart names check mem same.symm
    rw [shift] at names commands ⊢
    unfold executeCommands
    apply Triple.bind (judged_executeCommand first.2 (apart (f := Prod.snd) (by rwa [shift])))
    intro step
    apply Triple.bind (judged_announce fresh)
    intro _
    apply Triple.bind (judged_assertSuccessful first.1)
    intro _
    exact ih (fun definition mem => mandatory definition (List.mem_cons_of_mem _ mem)) names commands

/-- Checks that no optional step can be taken for. -/
def Mandatory (passed : List (String × String)) : Prop :=
  ∀ check ∈ passed, check.1 ∉ otherSteps ∧ check.2 ∉ optionalCommands

lemma Mandatory.fresh_name (mandatory : Mandatory passed) {step : ValidationStepReport}
    (other : step.name ∈ otherSteps) : ∀ check ∈ passed, step.name ≠ check.1 := by
  intro check mem same
  rw [same] at other
  exact (mandatory check mem).1 other

lemma Mandatory.fresh_command (mandatory : Mandatory passed) {command : String}
    (optional : command ∈ optionalCommands) : ∀ check ∈ passed, check.2 ≠ command := by
  intro check mem same
  rw [← same] at optional
  exact (mandatory check mem).2 optional

/-- An optional step has the next ordinal and its own name, whatever comes of its command. -/
lemma judged_tryStep {name command : String} {run : SandboxProgram ExecResult}
    (runs : Accounts (fun _ _ => True) (Progress steps passed) run (fun _ => Progress steps passed)
      fun _ => Progress steps passed) :
    Judged (Progress steps passed) (tryStep anyProvider (steps.length + 1) name command run)
      fun step h => Progress steps passed h ∧ step.ordinal = steps.length + 1 ∧ step.name = name := by
  have done (e : Except Thrown Date) {h : List SandboxEvent} (progress : Progress steps passed h) :
      Progress steps passed (h ++ [⟨.now, e⟩]) :=
    progress.plain trivial
  apply Triple.bind judged_now
  intro startedAt
  apply Triple.tryCatch (R := fun _ => Progress steps passed)
  · apply Triple.bind runs
    intro result
    apply Triple.bind (R := fun _ => Progress steps passed)
    · apply Accounts.call
      · exact fun _ _ => trivial
      · exact fun h a progress => done (.ok a) progress
      · exact fun h e progress => done (.error e) progress
    · exact fun completedAt => .pure fun h progress => ⟨progress, rfl, rfl⟩
  · intro error
    apply Triple.bind judged_now
    exact fun completedAt => .pure fun h progress => ⟨progress, rfl, rfl⟩

/-- An optional step is passed to the hook. -/
lemma judged_report {step : ValidationStepReport} {name : String} (mandatory : Mandatory passed)
    (other : name ∈ otherSteps) :
    Judged
      (fun h => Progress steps passed h ∧ step.ordinal = steps.length + 1 ∧ step.name = name)
      (request (.onStep sandbox step)) fun _ => Progress (steps ++ [step]) passed := by
  apply Triple.extract (φ := step.ordinal = steps.length + 1 ∧ step.name = name)
  · exact fun h known => known.2
  intro known
  have fresh : ∀ check ∈ passed, step.name ≠ check.1 := by
    apply mandatory.fresh_name
    rw [known.2]
    exact other
  exact (judged_onStep known.1 fresh).mono (fun _ known => known.1) (fun _ _ holds => holds)
    fun _ _ stopped => stopped

/-- The commands of the database may fail. -/
lemma judged_prepareDatabase (mandatory : Mandatory passed) :
    Judged (Progress steps passed)
      (prepareDatabase options anyProvider anyHooks sandbox steps)
      fun prepared => Progress prepared.2 passed := by
  have optional {command : ExecCommand} (among : command.command ∈ optionalCommands) {steps} :=
    @accounts_optional steps passed sandbox.id command (mandatory.fresh_command among)
  unfold prepareDatabase
  split
  · apply Triple.bind (judged_tryStep (optional (by simp [optionalCommands])))
    intro startStep
    apply Triple.bind (judged_report mandatory (by simp [otherSteps]))
    intro _
    split
    · exact .pure fun h progress => progress
    apply Triple.bind (judged_tryStep (optional (by simp [optionalCommands])))
    intro migrateStep
    apply Triple.bind (judged_report mandatory (by simp [otherSteps]))
    intro _
    split
    · exact .pure fun h progress => progress
    apply Triple.bind (judged_tryStep (optional (by simp [optionalCommands])))
    intro seedStep
    apply Triple.bind (judged_report mandatory (by simp [otherSteps]))
    exact fun _ => .pure fun h progress => progress
  · exact .pure fun h progress => progress

/-- The preview is started as a step that exits with 0. -/
lemma judged_startPreview {envs : Option (List (String × String))} :
    Judged (Progress steps passed)
      (startPreview options anyProvider sandbox (steps.length + 1) envs)
      fun started h => Progress steps passed h ∧ started.2.ordinal = steps.length + 1 ∧
        started.2.name = "preview-start" := by
  apply Triple.bind judged_now
  intro previewStartedAt
  apply Triple.bind (judged_plain (o := .startProcess sandbox.id _) trivial id)
  intro pid
  apply Triple.bind judged_now
  intro completedAt
  apply Triple.bind judged_now
  exact fun finishedAt => .pure fun h progress => ⟨progress, rfl, rfl⟩

/-- The health check is a mandatory step. -/
lemma judged_checkHealth (mandatory : healthCommand options ∉ optionalCommands)
    (fresh : ∀ check ∈ passed, check.2 ≠ healthCommand options) :
    Judged (Progress steps passed) (checkHealth options anyProvider sandbox (steps.length + 1))
      fun step => Executed steps passed ("preview-health", healthCommand options) step := by
  unfold checkHealth
  split
  · rename_i none
    have health : healthCommand options = previewHealthCommand options.previewPort := by
      rw [healthCommand, none]
    rw [health] at mandatory fresh ⊢
    exact judged_executeStep mandatory fresh
  · rename_i browser some
    have health : healthCommand options = "node " ++ previewViabilityScriptPath := by
      rw [healthCommand, some]
    rw [health] at mandatory fresh ⊢
    have written : ¬ (Sandboxing.writeFiles sandbox.id
        [⟨previewViabilityScriptPath, options.viabilityScript⟩]).Optional := by
      simp [Sandboxing.Optional]
    apply Triple.bind (judged_plain (o := .writeFiles sandbox.id _) trivial written)
    exact fun _ => judged_executeStep mandatory fresh

/-- The acceptance command may fail. -/
lemma judged_checkAcceptance {input : ProjectValidationInput} (mandatory : Mandatory passed) :
    Judged (Progress steps passed)
      (checkAcceptance options anyProvider anyHooks sandbox input steps)
      fun steps => Progress steps passed := by
  unfold checkAcceptance
  split
  · rename_i browser manifest _ _
    split
    · exact .pure fun h progress => progress
    · refine Triple.bind (judged_tryStep ?_) fun step => ?_
      · apply Triple.bind (R := fun _ => Progress steps passed)
        · apply Accounts.call
          · exact fun _ _ => trivial
          · exact fun h a progress => progress.plain trivial
          · exact fun h e progress => progress.plain trivial
        · exact fun _ => accounts_optional (mandatory.fresh_command (by simp [optionalCommands]))
      · apply Triple.bind (judged_report mandatory (by simp [otherSteps]))
        exact fun _ => .pure fun h progress => progress
  · exact .pure fun h progress => progress

end Steps

end Judgements

section Pipeline
variable {options : RunnerOptions}

lemma previewHealthCommand_dash (port : Nat) : (previewHealthCommand port).toList[5]? = some '-' := by
  unfold previewHealthCommand
  rw [String.toList_append, String.toList_append, String.toList_append, List.append_assoc,
    List.append_assoc, List.getElem?_append_left (by decide)]
  decide

/-- The sixth character tells the health check from the other commands. -/
lemma healthCommand_other {command : String}
    (other : command ∈ optionalCommands ++ validationCommands.map ValidationCommand.command) :
    command ≠ healthCommand options := by
  intro same
  unfold healthCommand at same
  split at same
  · have dash := previewHealthCommand_dash options.previewPort
    rw [← same] at dash
    have distinct : ∀ command ∈ optionalCommands ++ validationCommands.map ValidationCommand.command,
        command.toList[5]? ≠ some '-' := by
      decide +kernel
    exact distinct command other dash
  · rw [same] at other
    exact absurd other (by decide)

lemma pipeline_mandatory (previewOnly : Bool) :
    ∀ definition ∈ pipeline previewOnly,
      definition.name ∉ otherSteps ∧ definition.command ∉ optionalCommands := by
  cases previewOnly <;> decide

lemma pipeline_names (previewOnly : Bool) :
    (([] ++ (pipeline previewOnly).map ValidationCommand.check).map Prod.fst).Nodup := by
  cases previewOnly <;> decide

lemma pipeline_commands (previewOnly : Bool) :
    (([] ++ (pipeline previewOnly).map ValidationCommand.check).map Prod.snd).Nodup := by
  cases previewOnly <;> decide

lemma mandatory_pipeline (previewOnly : Bool) :
    Mandatory ((pipeline previewOnly).map ValidationCommand.check) := by
  intro check mem
  obtain ⟨definition, within, rfl⟩ := List.mem_map.mp mem
  exact pipeline_mandatory previewOnly definition within

lemma pipeline_among {previewOnly : Bool} {check : String × String}
    (mem : check ∈ (pipeline previewOnly).map ValidationCommand.check) :
    check.1 ≠ "preview-health" ∧
      check.2 ∈ optionalCommands ++ validationCommands.map ValidationCommand.command := by
  revert check
  cases previewOnly <;> decide

lemma mandatory_required (previewOnly : Bool) : Mandatory (requiredChecks options previewOnly) := by
  intro check mem
  rcases List.mem_append.mp mem with mem | mem
  · exact mandatory_pipeline previewOnly check mem
  · rw [List.mem_singleton.mp mem]
    refine ⟨by simp [otherSteps], fun optional => ?_⟩
    exact healthCommand_other (List.mem_append_left _ optional) rfl

end Pipeline

section Validations
variable {options : RunnerOptions} {sandbox : SandboxHandle} {input : ProjectValidationInput}
  {expiresAt : Date} {h : List SandboxEvent}

/-- What is known of a validation that has returned a result. -/
def Done (options : RunnerOptions) (previewOnly : Bool) (result : ProjectValidationResult)
    (h : List SandboxEvent) : Prop :=
  Progress result.steps (requiredChecks options previewOnly) h

lemma judged_executeSteps :
    Judged (Progress [] []) (executeSteps options anyProvider anyHooks sandbox input expiresAt)
      fun result => Done options input.previewOnly result := by
  have mandatory := mandatory_pipeline input.previewOnly
  apply Triple.bind (judged_executeCommands (pipeline_mandatory input.previewOnly)
    (pipeline_names input.previewOnly) (pipeline_commands input.previewOnly))
  intro steps
  apply Triple.bind (judged_prepareDatabase mandatory)
  intro prepared
  apply Triple.bind (judged_plain (o := .previewEnvironment sandbox expiresAt) trivial id)
  intro environment
  apply Triple.bind judged_startPreview
  intro started
  apply Triple.bind (judged_report mandatory (by simp [otherSteps]))
  intro _
  have fresh : ∀ check ∈ (pipeline input.previewOnly).map ValidationCommand.check,
      check.2 ≠ healthCommand options :=
    fun check mem => healthCommand_other (pipeline_among mem).2
  apply Triple.bind (judged_checkHealth
    (fun optional => healthCommand_other (List.mem_append_left _ optional) rfl) fresh)
  intro healthStep
  apply Triple.bind (judged_announce fun check mem => (pipeline_among mem).1.symm)
  intro _
  apply Triple.bind (judged_assertSuccessful (by simp [otherSteps]))
  intro _
  apply Triple.bind (judged_checkAcceptance (mandatory_required input.previewOnly))
  intro steps
  apply Triple.bind (judged_plain (o := .exposePort sandbox.id _) trivial id)
  exact fun preview => .pure fun h progress => progress

lemma package_of_parseFiles {input files : List SandboxFileInput} (parsed : parseFiles input = .ok files) :
    "package.json" ∈ files.map SandboxFileInput.path := by
  unfold parseFiles at parsed
  dsimp only at parsed
  split at parsed
  · rename_i accepted
    cases parsed
    exact accepted.2.2.2.2
  · cases parsed

/-- The files of a project are not those of the acceptance command: there is a package.json. -/
lemma files_mandatory {files : List SandboxFileInput} (parsed : parseFiles input.files = .ok files) :
    ¬ (Sandboxing.writeFiles sandbox.id
      (files.map fun file =>
        { file with path := options.projectDirectory ++ "/" ++ file.path })).Optional := by
  intro optional
  obtain ⟨file, mem, path⟩ := List.mem_map.mp (package_of_parseFiles parsed)
  have written : options.projectDirectory ++ "/" ++ "package.json" ∈
      [acceptanceScriptPath, acceptanceManifestPath] := by
    rw [← show _ = _ from optional, List.map_map]
    exact List.mem_map.mpr ⟨file, mem, by simp [path]⟩
  -- the paths of the acceptance command do not end in the same way
  have ending {path : String} (same : options.projectDirectory ++ "/" ++ "package.json" = path) :
      "package.json".toList <:+ path.toList := by
    rw [← same, String.toList_append]
    exact List.suffix_append _ _
  rcases List.mem_pair.mp written with same | same
  · exact absurd (ending same) (by decide)
  · exact absurd (ending same) (by decide)

lemma judged_validateIn {files : List SandboxFileInput} (parsed : parseFiles input.files = .ok files) :
    Judged (Progress [] []) (validateIn options anyProvider anyHooks sandbox input files expiresAt)
      fun result => Done options input.previewOnly result := by
  apply Triple.bind (judged_plain (o := .onSandboxCreated sandbox expiresAt) trivial id)
  intro _
  apply Triple.bind (judged_plain (o := .writeFiles sandbox.id _) trivial (files_mandatory parsed))
  intro _
  apply Triple.bind (judged_plain (o := .onFilesRestored sandbox) trivial id)
  exact fun _ => judged_executeSteps

/-- Before a sandbox is created there is nothing to report. -/
lemma Progress.start : Progress [] [] [] where
  reports := rfl
  ordinals := rfl
  within _ mem := absurd mem List.not_mem_nil
  passed _ mem := absurd mem List.not_mem_nil

/-- The calls before a sandbox is created, and of creating it. -/
def creation (createdAt : Date) (spec : SandboxSpec) (sandbox : SandboxHandle) : List SandboxEvent :=
  [⟨.now, .ok createdAt⟩, ⟨.create spec, .ok sandbox⟩]

/-- How a validation ends: nothing is called, no sandbox is created, or one is; then the validation has
    succeeded, or it has stopped and the sandbox is terminated. -/
inductive Ended (options : RunnerOptions) (previewOnly : Bool) :
    List SandboxEvent → Except Thrown ProjectValidationResult → Prop where
  | refused {e} :
    Ended options previewOnly [] (.error e)
  | clock {e} :
    Ended options previewOnly [⟨.now, .error e⟩] (.error e)
  | uncreated {createdAt spec e} :
    Ended options previewOnly [⟨.now, .ok createdAt⟩, ⟨.create spec, .error e⟩] (.error e)
  | done {createdAt spec sandbox h result} :
    Done options previewOnly result h →
    Ended options previewOnly (creation createdAt spec sandbox ++ h) (.ok result)
  | stopped {createdAt spec sandbox h r e} :
    Stopped h →
    Ended options previewOnly
      (creation createdAt spec sandbox ++ (h ++ [⟨.terminate sandbox.id, r⟩])) (.error e)

lemma Validates.ended {outcome : Except Thrown ProjectValidationResult}
    (validates : Validates options input h outcome) : Ended options input.previewOnly h outcome := by
  unfold Validates ProjectValidationRunner.validate at validates
  split at validates
  · obtain ⟨rfl, rfl⟩ := ends_throw.mp validates
    exact .refused
  rename_i files parsed
  split at validates
  · obtain ⟨rfl, rfl⟩ := ends_throw.mp validates
    exact .refused
  rcases ends_invoke_bind.mp validates with ⟨e, rfl, rfl⟩ | ⟨createdAt, h₁, rfl, rest⟩
  · exact .clock
  rcases ends_invoke_bind.mp rest with ⟨e, rfl, rfl⟩ | ⟨sandbox, h₂, rfl, tries⟩
  · exact .uncreated
  rcases ends_tryCatch.mp tries with ⟨result, rfl, succeeds⟩ | ⟨h₃, error, h₄, rfl, fails, cleanup⟩
  · exact .done (succeeds.accounted (judged_validateIn parsed) Progress.start)
  have stopped : Stopped h₃ := fails.accounted (judged_validateIn parsed) Progress.start
  rcases ends_bind.mp cleanup with ⟨e, rfl, unclean⟩ | ⟨h₅, _, h₆, rfl, terminates, throws⟩
  · rcases ends_tryCatch.mp unclean with ⟨_, none, -⟩ | ⟨h₅, e', h₆, rfl, -, ignored⟩
    · cases none
    · cases (ends_pure.mp ignored).2
  obtain ⟨rfl, rfl⟩ := ends_throw.mp throws
  rw [List.append_nil]
  rcases ends_tryCatch.mp terminates with ⟨_, -, terminated⟩ | ⟨h₆, e', h₇, rfl, failed, ignored⟩
  · rw [ends_invoke.mp terminated]
    exact .stopped stopped
  · obtain ⟨rfl, -⟩ := ends_pure.mp ignored
    rw [List.append_nil, ends_invoke.mp failed]
    exact .stopped stopped

/-- The promise of the runner, about a validation and how it ends. -/
structure Orderly (options : RunnerOptions) (input : ProjectValidationInput) (h : List SandboxEvent)
    (outcome : Except Thrown ProjectValidationResult) : Prop where
  /-- A sandbox that was created is terminated exactly if the validation rejects. -/
  terminated : ∀ {h₁ spec sandbox h₂}, h = h₁ ++ ⟨.create spec, .ok sandbox⟩ :: h₂ →
    ((∃ r, ⟨.terminate sandbox.id, r⟩ ∈ h₂) ↔ ∃ e, outcome = .error e)
  /-- The steps that are passed to `onStep` have the ordinals 1, 2, …, n in the order of the calls. -/
  ordinals : (h.filterMap reported).map ValidationStepReport.ordinal =
    List.range' 1 (h.filterMap reported).length
  /-- They are the steps of the result. -/
  steps : ∀ {result}, outcome = .ok result → result.steps = h.filterMap reported
  /-- The validation resolves only if all required steps have passed. -/
  passed : ∀ {result}, outcome = .ok result →
    ∀ check ∈ requiredChecks options input.previewOnly, Passed check h
  /-- It rejects because its input is refused, or because a call that is not optional is to blame,
      after which it only cleans up. -/
  blamed : ∀ {e}, outcome = .error e → h = [] ∨ ∃ h₁ culprit h₂, h = h₁ ++ culprit :: h₂ ∧
    SandboxEvent.Culprit culprit ∧ ∀ e ∈ h₂, ∃ sandboxId, e.1 = .terminate sandboxId

lemma filterMap_creation {α : Type} {f : SandboxEvent → Option α} {createdAt : Date}
    {spec : SandboxSpec} (now : f ⟨.now, .ok createdAt⟩ = none)
    (create : f ⟨.create spec, .ok sandbox⟩ = none) :
    (creation createdAt spec sandbox ++ h).filterMap f = h.filterMap f := by
  rw [List.filterMap_append, creation, List.filterMap_cons_none now, List.filterMap_cons_none create]
  rfl

lemma Passed.created {check : String × String} {createdAt : Date} {spec : SandboxSpec}
    (passes : Passed check h) : Passed check (creation createdAt spec sandbox ++ h) := by
  constructor
  · rw [filterMap_creation rfl rfl]
    exact passes.exited
  · rw [filterMap_creation rfl rfl]
    exact passes.announced

/-- There is one sandbox. -/
lemma created_once {createdAt : Date} {spec spec' : SandboxSpec} {sandbox' : SandboxHandle}
    {h₁ h₂ : List SandboxEvent} (once : ∀ e ∈ h, ∀ spec, e.1 ≠ .create spec)
    (split : creation createdAt spec sandbox ++ h = h₁ ++ ⟨.create spec', .ok sandbox'⟩ :: h₂) :
    sandbox' = sandbox ∧ h₂ = h := by
  cases h₁ with
  | nil => cases split
  | cons e h₁ =>
    obtain ⟨-, split⟩ := List.cons_eq_cons.mp split
    cases h₁ with
    | nil =>
      cases split
      exact ⟨rfl, rfl⟩
    | cons e' h₁ =>
      obtain ⟨-, split⟩ := List.cons_eq_cons.mp split
      have mem : (⟨.create spec', .ok sandbox'⟩ : SandboxEvent) ∈ h := by
        rw [show h = _ from split]
        exact List.mem_append_right _ (.head _)
      exact absurd rfl (once _ mem spec')

lemma not_create_of_within {e : SandboxEvent} (within : e.1.Within) (spec : SandboxSpec) :
    e.1 ≠ .create spec := by
  intro same
  rw [same] at within
  exact within

/-- Whatever the provider and the hooks do, a sandbox that was created is terminated exactly if the
    validation rejects; the steps are reported in order, and are those of the result; the validation
    resolves only if all required steps have passed; and it does not reject because of the database or
    acceptance commands alone. -/
theorem validation_lifecycle {outcome : Except Thrown ProjectValidationResult}
    (validates : Validates options input h outcome) : Orderly options input h outcome := by
  cases validates.ended with
  | refused =>
    exact
      { terminated := fun split => by simp at split
        ordinals := rfl
        steps := fun none => by cases none
        passed := fun none => by cases none
        blamed := fun _ => .inl rfl }
  | clock =>
    refine
      { terminated := fun {h₁ spec sandbox h₂} split => ?_
        ordinals := rfl
        steps := fun none => by cases none
        passed := fun none => by cases none
        blamed := fun _ => .inr ⟨[], _, [], rfl, id, fun _ none => absurd none List.not_mem_nil⟩ }
    have mem : (⟨.create spec, .ok sandbox⟩ : SandboxEvent) ∈ h₁ ++ ⟨.create spec, .ok sandbox⟩ :: h₂ :=
      List.mem_append_right _ (.head _)
    rw [← split] at mem
    cases List.mem_singleton.mp mem
  | uncreated =>
    refine
      { terminated := fun {h₁ spec sandbox h₂} split => ?_
        ordinals := rfl
        steps := fun none => by cases none
        passed := fun none => by cases none
        blamed := fun _ => .inr ⟨[_], _, [], rfl, id, fun _ none => absurd none List.not_mem_nil⟩ }
    have mem : (⟨.create spec, .ok sandbox⟩ : SandboxEvent) ∈ h₁ ++ ⟨.create spec, .ok sandbox⟩ :: h₂ :=
      List.mem_append_right _ (.head _)
    rw [← split] at mem
    rcases List.mem_pair.mp mem with none | none <;> cases none
  | @done createdAt spec sandbox h result done =>
    have progress : Progress result.steps _ h := done
    refine
      { terminated := fun split => ?_
        ordinals := ?_
        steps := fun same => ?_
        passed := fun _ check mem => (progress.passed check mem).created
        blamed := fun none => by cases none }
    · obtain ⟨rfl, rfl⟩ :=
        created_once (fun e mem spec => not_create_of_within (progress.within e mem) spec) split
      apply iff_of_false
      · rintro ⟨r, mem⟩
        exact progress.within _ mem
      · rintro ⟨e, none⟩
        cases none
    · rw [filterMap_creation rfl rfl, progress.reports]
      exact progress.ordinals
    · cases same
      rw [filterMap_creation rfl rfl, progress.reports]
  | @stopped createdAt spec sandbox h r e stopped =>
    have silent : List.filterMap reported
        (creation createdAt spec sandbox ++ (h ++ [⟨.terminate sandbox.id, r⟩])) =
        h.filterMap reported := by
      rw [filterMap_creation rfl rfl]
      exact filterMap_snoc_none rfl
    refine
      { terminated := fun split => ?_
        ordinals := ?_
        steps := fun none => by cases none
        passed := fun none => by cases none
        blamed := fun _ => .inr ?_ }
    · have once : ∀ e ∈ h ++ [(⟨.terminate sandbox.id, r⟩ : SandboxEvent)], ∀ spec,
          e.1 ≠ .create spec := by
        intro e mem spec
        rcases List.mem_append.mp mem with mem | mem
        · exact not_create_of_within (stopped.within e mem) spec
        · rw [List.mem_singleton.mp mem]
          exact fun same => by cases same
      obtain ⟨rfl, rfl⟩ := created_once once split
      exact iff_of_true ⟨r, List.mem_append_right _ (.head _)⟩ ⟨e, rfl⟩
    · rw [silent]
      exact stopped.ordinals
    · obtain ⟨h', culprit, rfl, blamed⟩ := stopped.blamed
      refine ⟨creation createdAt spec sandbox ++ h', culprit, [⟨.terminate sandbox.id, r⟩], ?_, blamed, ?_⟩
      · rw [List.append_assoc, List.append_assoc]
        rfl
      · intro e mem
        exact ⟨sandbox.id, by rw [List.mem_singleton.mp mem]⟩

end Validations

section Scenario

/-- A project with one file. -/
def smallProject : ProjectValidationInput where
  files := [⟨"package.json", "\x7b\x7d"⟩]
  metadata := []

/-- A provider and hooks that answer well, but the database cannot be started. -/
def databaseless (o : Sandboxing) (_ : Unit) : Except Thrown o.Result × Unit :=
  match o with
  | .now => (.ok 0, ())
  | .create _ => (.ok ⟨"sandbox", 0⟩, ())
  | .exec _ command => (.ok ⟨if command.command = databaseStartCommand then 1 else 0, [], [], 0⟩, ())
  | .startProcess .. => (.ok 7, ())
  | .exposePort _ port => (.ok ⟨port, "https://preview", []⟩, ())
  | .previewEnvironment .. => (.ok [], ())
  | .writeFiles .. | .terminate _ | .onSandboxCreated .. | .onFilesRestored _ | .onStep .. => (.ok (), ())

/-- The calls of the validation of the small project, and its outcome. -/
def smallValidation : List SandboxEvent × Except Thrown ProjectValidationResult :=
  (ProjectValidationRunner.validate { provisionLocalDatabase := true } anyProvider anyHooks
    smallProject).run.play databaseless ()

theorem validation_lifecycle_small :
    Orderly { provisionLocalDatabase := true } smallProject smallValidation.1 smallValidation.2 :=
  validation_lifecycle Prog.leads_play

example : (pipeline false).map ValidationCommand.name =
    ["install", "prisma-validate", "lint", "typecheck", "test", "build"] := by
  decide

example : (pipeline true).map ValidationCommand.name = ["install", "build"] := by
  decide

example : (smallValidation.1.filterMap reported).map ValidationStepReport.name =
    ["install", "prisma-validate", "lint", "typecheck", "test", "build", "db-start", "preview-start",
      "preview-health"] := by
  decide +kernel

end Scenario

end AtomsPlatform.Release
