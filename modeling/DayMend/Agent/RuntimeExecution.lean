import DayMend.Agent.LocalGateway

/-!
# The reasoning runtime

The whole contracts of `agent/runtime_contracts.py` (`Wire.AgentRuntimeRequest`,
`Wire.AgentRuntimeResponse`) and what the runtime does with a request
(`executeRuntimeRequest` of `agent/runtime_execution.py`): it scopes the work, researches
a provider if one is needed, and asks the planner for one proposal. The runtime keeps
nothing between two requests; a repair brings its brief with it.
-/

namespace DayMend.Agent.Wire

open DayMend.Base DayMend.Models DayMend.Fixtures DayMend.Services

/-- `RUNTIME_SCHEMA_VERSION`. -/
def runtimeSchemaVersion : String := "1.0"

/-- The fields of a request. -/
structure RequestFields where
  schemaVersion : String := runtimeSchemaVersion
  requestId : String
  recoveryCaseId : Option String := none
  operation : RuntimeOperation
  architecture : String
  disruption : Option String := none
  scenario : DemoScenario
  replanningContext : Option ReplanningContext := none
  planningBrief : Option PlanningBrief := none
  previousPlan : Option RecoveryPlan := none
  validatorFeedback : List PlanValidationIssue := []
  researchedCandidate : Option BackupCareCandidate := none

/-- `validate_contract`, and the length of the identifier. -/
structure RequestFields.Contract (fields : RequestFields) : Prop where
  request_id_length : 16 ≤ fields.requestId.length ∧ fields.requestId.length ≤ 128
  schema_version : fields.schemaVersion = runtimeSchemaVersion
  architecture : fields.architecture = "multi" ∨ fields.architecture = "multi_research"
  initial : fields.operation = .initialPlanning → fields.disruption.isSome ∧ fields.disruption ≠ some ""
  replanning : fields.operation = .replanning → fields.replanningContext.isSome
  repair : fields.operation = .planRepair →
    fields.planningBrief.isSome ∧ fields.previousPlan.isSome ∧ fields.validatorFeedback ≠ []

instance (fields : RequestFields) : Decidable fields.Contract :=
  decidable_of_iff
    ((16 ≤ fields.requestId.length ∧ fields.requestId.length ≤ 128) ∧
      fields.schemaVersion = runtimeSchemaVersion ∧
      (fields.architecture = "multi" ∨ fields.architecture = "multi_research") ∧
      (fields.operation = .initialPlanning → fields.disruption.isSome ∧ fields.disruption ≠ some "") ∧
      (fields.operation = .replanning → fields.replanningContext.isSome) ∧
      (fields.operation = .planRepair →
        fields.planningBrief.isSome ∧ fields.previousPlan.isSome ∧ ¬ fields.validatorFeedback.isEmpty))
    ⟨fun ⟨h₁, h₂, h₃, h₄, h₅, h₆⟩ => ⟨h₁, h₂, h₃, h₄, h₅, by simpa using h₆⟩,
      fun ⟨h₁, h₂, h₃, h₄, h₅, h₆⟩ => ⟨h₁, h₂, h₃, h₄, h₅, by simpa using h₆⟩⟩

/-- `AgentRuntimeRequest`. -/
structure AgentRuntimeRequest extends RequestFields where
  validate_contract : toRequestFields.Contract

/-- A request with these fields, if it meets the contract. -/
def RequestFields.request (fields : RequestFields) : Except PlanningFailure AgentRuntimeRequest :=
  if h : fields.Contract then .ok ⟨fields, h⟩ else .error (.validationError "AgentRuntimeRequest")

/-- `AgentRuntimeResponse`, without the metrics. -/
structure AgentRuntimeResponse where
  schemaVersion : String := runtimeSchemaVersion
  requestId : String
  recoveryCaseId : Option String := none
  operation : RuntimeOperation
  success : Bool
  planningBrief : PlanningBrief
  planCandidate : RecoveryPlan
  backupCareResearch : Option BackupCareResearchResult := none
  researchedCandidate : Option BackupCareCandidate := none

/-- `PlannerOperation(request.operation.value)`. -/
def plannerOperation : RuntimeOperation → PlannerOperation
  | .initialPlanning => .initialPlanning
  | .replanning => .replanning
  | .planRepair => .planRepair

/-- The outcome of a decline, as it is put together again from what the request says. -/
def outcomeOf (context : ReplanningContext) (scenario : DemoScenario) : InvalidationOutcome :=
  { recoveryCase := context.recoveryCase
    previousStatus := context.previousStatus
    updatedScenario := scenario
    originalValidPlan := context.originalValidPlan
    invalidatedAssumptions := context.invalidatedAssumptions
    impactedSegments := context.impactedSegments
    impactReasons := context.impactReasons
    preservedSegments := context.preservedSegments
    uncoveredWindows := context.uncoveredWindows }

/-- **An outcome survives the transport.** -/
theorem outcomeOf_replanningContext (outcome : InvalidationOutcome) :
    outcomeOf (replanningContext outcome) outcome.updatedScenario = outcome := rfl

/-- `AssertionError`. -/
def assertionError : ReasoningFailure := .planning (.failed .assertionError)

/-- `PLAN_REPAIR`: the brief of the request, and the facts with the provider of the request. -/
def repairWork (brief : PlanningBrief) (scenario : DemoScenario) (researchedCandidate : Option BackupCareCandidate) :
    Except ReasoningFailure PlanningWork := do
  let scenario ← liftServices (validationScenario scenario researchedCandidate)
  return { brief, scenario, researchedCandidate }

/-- `assess_known_option_recovery_need(scenario) if request.architecture == "multi_research" else None`. -/
def recoveryNeedFor (architecture : String) (scenario : DemoScenario) :
    Except ReasoningFailure (Option RecoveryNeed) :=
  if architecture = "multi_research" then
    (liftServices (assessKnownOptionRecoveryNeed scenario none none)).map some
  else .ok none

/-- `INITIAL_PLANNING`. Without a need to hand over, a brief that asks for research cannot be followed. -/
def initialWork (architecture disruption : String) (scenario : DemoScenario)
    (researchedCandidate : Option BackupCareCandidate) : Reasoning PlanningWork := do
  let need ← Prog.ofExcept (recoveryNeedFor architecture scenario)
  let brief ← createInitialBrief disruption scenario need
  if brief.backupResearchNeeded then
    match need with
    | none => .raise (.planning (.failed .attributeError))
    | some need => researchWork scenario need brief brief.recommending
  else return { brief, scenario, researchedCandidate }

/-- `REPLANNING`. What the request names stays, unless a provider is researched. -/
def contextWork (architecture : String) (context : ReplanningContext) (scenario : DemoScenario)
    (researchedCandidate : Option BackupCareCandidate) : Reasoning PlanningWork := do
  let work ← replanningWork (architecture = "multi_research") (outcomeOf context scenario)
  return { work with researchedCandidate := work.researchedCandidate.or researchedCandidate }

/-- The work that a request is for; the contract keeps the assertions. -/
def requestedWork (request : AgentRuntimeRequest) : Reasoning PlanningWork :=
  match request.operation with
  | .planRepair =>
    match request.planningBrief, request.previousPlan with
    | some brief, some _ => Prog.ofExcept (repairWork brief request.scenario request.researchedCandidate)
    | _, _ => .raise assertionError
  | .initialPlanning =>
    match request.disruption with
    | some disruption => initialWork request.architecture disruption request.scenario request.researchedCandidate
    | none => .raise assertionError
  | .replanning =>
    match request.replanningContext with
    | some context => contextWork request.architecture context request.scenario request.researchedCandidate
    | none => .raise assertionError

/-- **The work for an initial plan** belongs to the day, and the brief names the provider who has been researched. -/
theorem of_initialWork {agents : (question : AgentQuestion) → AgentAnswer question → Prop}
    {architecture disruption : String} {scenario : DemoScenario} {work : PlanningWork}
    (h : (initialWork architecture disruption scenario none).Outcome agents (.ok work)) :
    work.On scenario (assessKnownOptionRecoveryNeed scenario none none) ∧ work.brief.planningMode = .initial ∧
      work.brief.preservedSegments = [] ∧
        work.brief.recommendedBackupCareCandidateId = work.researchedCandidate.map (·.candidateId) := by
  obtain ⟨need, hneed, h⟩ := outcome_bind_ok.mp h
  obtain ⟨brief, hbrief, h⟩ := outcome_bind_ok.mp h
  obtain ⟨output, -, hcreated⟩ := outcome_createInitialBrief.mp hbrief
  obtain ⟨hmode, hpreserved⟩ := of_createInitialPlanningBrief hcreated
  have hrecommended := (createInitialPlanningBrief_research hcreated).1
  split at h
  · cases need with
    | none => cases h
    | some need =>
      obtain ⟨hon, result, candidate, heq, hcandidate⟩ := of_researchWork h
      refine ⟨?_, by rw [heq]; exact hmode, by rw [heq]; exact hpreserved, by rw [heq, hcandidate]; rfl⟩
      have hassessed : recoveryNeedFor architecture scenario = .ok (some need) := (outcome_ofExcept.mp hneed).symm
      unfold recoveryNeedFor at hassessed
      split at hassessed
      · obtain ⟨assessed, hassess, heq⟩ := map_eq_ok.mp hassessed
        obtain rfl := Option.some.inj heq
        rw [liftServices_eq_ok.mp hassess]
        exact hon
      · cases Except.ok.inj hassessed
  · obtain rfl := Except.ok.inj h
    exact ⟨.plain, hmode, hpreserved, hrecommended⟩

variable (materializedPlanId : List String → String)

/-- The planner's one proposal for a request. -/
def proposeFor (request : AgentRuntimeRequest) (work : PlanningWork) : Reasoning RecoveryPlan :=
  (proposeConstraintPlan materializedPlanId work.brief work.scenario (plannerOperation request.operation)
    request.previousPlan request.validatorFeedback).on work.scenario

/-- What the runtime answers. -/
def respond (request : AgentRuntimeRequest) (work : PlanningWork) (proposal : RecoveryPlan) : AgentRuntimeResponse :=
  { requestId := request.requestId
    recoveryCaseId := request.recoveryCaseId
    operation := request.operation
    success := true
    planningBrief := work.brief
    planCandidate := proposal
    backupCareResearch := work.researchResult
    researchedCandidate := work.researchedCandidate }

/-- `execute_runtime_request`. -/
def executeRuntimeRequest (architecture : AgentArchitecture) (request : AgentRuntimeRequest) :
    Reasoning AgentRuntimeResponse := do
  Prog.ofExcept (liftServices (raiseIf (architecture = .single)
    (.valueError "AgentCore reasoning runtime does not host the single-agent fallback")))
  let work ← requestedWork request
  let proposal ← proposeFor materializedPlanId request work
  return respond request work proposal

end DayMend.Agent.Wire
