import AtomsPlatform.Run.Errors
import AtomsPlatform.Run.RouteCoverage
import Mathlib.Logic.Function.Basic

/-!
# Agents

The agents of the run graph: which of them a project needs and a plan entitles, their tasks, the
schemas of their outputs, and the outputs that a graph execution holds. A held output is always a
value its schema accepts in the form the schema gives it.
-/

namespace AtomsPlatform.Run

/-- Source `ProjectType`. -/
inductive ProjectType where
  | general
  | clientPortal
deriving DecidableEq, Repr

/-- Source `PROJECT_TYPE_AGENTS` and `agentsRequiredFor`. -/
def agentsRequiredFor : ProjectType → List AgentName
  | .general => [.sophia, .mike, .emma, .bob, .alex, .david, .sarah, .adrian]
  | .clientPortal => [.mike, .emma, .bob, .alex, .david]

/-- Source `isRequiredForProjectType`. -/
def isRequiredForProjectType (projectType : ProjectType) (agentName : AgentName) : Bool :=
  (agentsRequiredFor projectType).any fun agent => agent = agentName

/-- Source `WorkspacePlan`. -/
inductive WorkspacePlan where
  | free
  | pro
  | max
deriving DecidableEq, Repr

/-- Source `PREMIUM_AGENTS`. -/
def premiumAgents : List AgentName :=
  [.sophia, .sarah, .adrian]

/-- Source `isEntitled`. -/
def isEntitled (plan : WorkspacePlan) (agentName : AgentName) : Bool :=
  agentName ∉ premiumAgents ∨ plan ≠ .free

/-- Source `SkipReason`. -/
inductive SkipReason where
  | notRequiredForProjectType
  | planNotEntitled
deriving DecidableEq, Repr

/-- A skip reason as it is stored. -/
def SkipReason.name : SkipReason → String
  | .notRequiredForProjectType => "NOT_REQUIRED_FOR_PROJECT_TYPE"
  | .planNotEntitled => "PLAN_NOT_ENTITLED"

/-- The ordinals of `taskDefinitions`. -/
def taskOrdinal : AgentName → Nat
  | .sophia => 1
  | .mike => 2
  | .emma => 3
  | .bob => 4
  | .alex => 5
  | .david => 6
  | .sarah => 7
  | .adrian => 8

/-- The descriptions of `taskDefinitions`. -/
def taskDescription : AgentName → String
  | .sophia => "Analyze market, ICP, competition, pricing, positioning, and evidence gaps"
  | .mike => "Plan the run and dependency graph"
  | .emma => "Produce structured product requirements"
  | .bob => "Produce architecture and Prisma schema"
  | .alex => "Generate application files and commands"
  | .david => "Review schema and generate migrations, seed data, and data policies"
  | .sarah => "Generate SEO artifacts and deterministic metadata findings"
  | .adrian => "Generate growth copy variants and evidence requirements"

lemma taskOrdinal_injective : Function.Injective taskOrdinal := by
  intro a b e
  cases a <;> cases b <;> first | rfl | cases e

/-- An entry of `seoPackage.routeMetadata`. -/
structure RouteMetadata where
  routePath : String
  canonicalUrl : Option String
deriving DecidableEq, Repr

/-- Source `AgentOutputSchemas`, with what the graph and the repairer read of valid outputs. -/
structure AgentOutputSchemas (Output : Type) extends AgentOutputs Output where
  /-- Schemas check, trim and drop unknown keys; what they return they return unchanged. -/
  parse_normal : ∀ {agent value output}, parse agent value = some output →
    parse agent output = some output
  /-- `files` of an output of Alex or David. -/
  files : Output → List AgentGeneratedFile
  /-- `routes` of an output of Bob. -/
  routes : Output → List PlannedRoute
  /-- `seoPackage.routeMetadata` of an output of Sarah. -/
  routeMetadata : Output → List RouteMetadata
  /-- The stored input of a task: `{ prompt, upstreamOutputs }`. -/
  taskInput : String → (AgentName → Option Output) → String

variable {Output : Type}

/-- An output of an agent, in the form its schema gives it. -/
def AgentOutputSchemas.Valid (schemas : AgentOutputSchemas Output) (agent : AgentName) : Type :=
  { output : Output // schemas.parse agent output = some output }

/-- `AgentOutputSchemas[agent].parse(value)` -/
def AgentOutputSchemas.accept (schemas : AgentOutputSchemas Output) (agent : AgentName)
    (value : Output) : Option (schemas.Valid agent) :=
  match parsed : schemas.parse agent value with
  | none => none
  | some output => some ⟨output, schemas.parse_normal parsed⟩

/-- The outputs a graph execution holds. -/
abbrev RunOutputs (schemas : AgentOutputSchemas Output) : Type :=
  (agent : AgentName) → Option (schemas.Valid agent)

variable {schemas : AgentOutputSchemas Output}

/-- A valid output is accepted as it is. -/
lemma accept_valid {agent : AgentName} (output : schemas.Valid agent) :
    schemas.accept agent output.val = some output := by
  unfold AgentOutputSchemas.accept
  split
  · rename_i rejected
    rw [output.property] at rejected
    cases rejected
  · rename_i normal parsed
    rw [output.property] at parsed
    cases parsed
    rfl

lemma accept_eq_some {agent : AgentName} {value : Output} {output : schemas.Valid agent}
    (e : schemas.accept agent value = some output) : schemas.parse agent value = some output.val := by
  unfold AgentOutputSchemas.accept at e
  split at e
  · cases e
  · rename_i normal parsed
    cases e
    exact parsed

/-- No outputs. -/
def RunOutputs.none : RunOutputs schemas :=
  fun _ => Option.none

/-- The reducer of `outputs`: `{ ...current, ...update }`. -/
def RunOutputs.merge (current update : RunOutputs schemas) : RunOutputs schemas :=
  fun agent => (update agent).or (current agent)

/-- `{ [agentName]: output }` -/
def RunOutputs.single (agent : AgentName) (output : schemas.Valid agent) : RunOutputs schemas :=
  Function.update RunOutputs.none agent (some output)

@[simp]
lemma RunOutputs.merge_none (current : RunOutputs schemas) :
    current.merge RunOutputs.none = current := by
  funext agent
  rfl

lemma RunOutputs.merge_single_self {current : RunOutputs schemas} {agent : AgentName}
    {output : schemas.Valid agent} : current.merge (single agent output) agent = some output := by
  simp [merge, single]

lemma RunOutputs.merge_single_ne {current : RunOutputs schemas} {agent other : AgentName}
    {output : schemas.Valid agent} (ne : other ≠ agent) :
    current.merge (single agent output) other = current other := by
  simp [merge, single, ne, RunOutputs.none]

/-- Source `parseUpstreamOutputs`. -/
def parseUpstreamOutputs (outputs : RunOutputs schemas) : Except Thrown (RunOutputs schemas) :=
  let accepted (agent : AgentName) : Option (schemas.Valid agent) :=
    (outputs agent).bind fun output => schemas.accept agent output.val
  if (agentsRequiredFor .general).all fun agent => (outputs agent).isNone || (accepted agent).isSome
  then .ok accepted
  else .error zodError

/-- Held outputs pass their schemas again, unchanged. -/
@[simp]
lemma parseUpstreamOutputs_eq (outputs : RunOutputs schemas) :
    parseUpstreamOutputs outputs = .ok outputs := by
  have same (agent : AgentName) :
      ((outputs agent).bind fun output => schemas.accept agent output.val) = outputs agent := by
    cases outputs agent with
    | none => rfl
    | some output => exact accept_valid output
  unfold parseUpstreamOutputs
  simp only [same]
  rw [if_pos]
  apply List.all_eq_true.mpr
  intro agent _
  cases outputs agent <;> rfl

/-- Source `enforceDeterministicSeoChecks`. -/
def enforceDeterministicSeoChecks (schemas : AgentOutputSchemas Output) (sarah : Output)
    (bob : Option Output) : Except Thrown Unit :=
  match bob with
  | none => .ok ()
  | some bob =>
    let requiredRoutePaths := ((schemas.routes bob).map PlannedRoute.path).eraseDups
    let coveredRoutePaths := (schemas.routeMetadata sarah).map RouteMetadata.routePath
    let missingRouteMetadata := requiredRoutePaths.filter fun path => path ∉ coveredRoutePaths
    let canonicals := (schemas.routeMetadata sarah).filterMap RouteMetadata.canonicalUrl
    let duplicateCanonicals := canonicals.eraseDups.filter fun url => 1 < canonicals.count url
    if missingRouteMetadata = [] ∧ duplicateCanonicals = [] then .ok ()
    else
      let issues :=
        (if missingRouteMetadata = [] then []
          else ["missing route metadata for: " ++ ", ".intercalate missingRouteMetadata]) ++
        (if duplicateCanonicals = [] then []
          else ["duplicate canonical URLs detected: " ++ ", ".intercalate duplicateCanonicals])
      .error [{
        name := "DeterministicSeoValidationError"
        message := "Sarah output failed deterministic SEO checks: " ++ "; ".intercalate issues
        retryable := some false }]

end AtomsPlatform.Run
