import DayMend.Agent.RuntimeContracts

/-!
# Planning

`AgentCoreRuntimeGateway` of `agent/runtime_gateway.py`: the runtime proposes plans,
the application validates them, and an invalid proposal goes back with the
validator's findings, up to three proposals in all. `build_replanning_result` of
`agent/replanning.py` puts a valid plan in the case.
-/

namespace DayMend.Agent

open DayMend.Base DayMend.Models DayMend.Fixtures DayMend.Services

/-- `MAX_PLAN_ATTEMPTS`. -/
def maxPlanAttempts : ℕ := 3

/-- One proposal and what the validator found. -/
structure PlanningAttempt where
  attemptNumber : ℕ
  proposedPlan : RecoveryPlan
  validation : PlanValidationResult

/-- The attempts of a planning session; there is at least one. -/
structure PlanningAttempts where
  earlier : List PlanningAttempt
  last : PlanningAttempt

/-- The result of initial planning. -/
structure InitialPlanningResult where
  success : Bool
  attempts : PlanningAttempts
  finalPlan : Option RecoveryPlan
  deterministicTotalCost : Decimal
  requiresApproval : Bool
  finalErrors : List PlanValidationIssue
  researchedCandidate : Option BackupCareCandidate

/-- The result of replanning. -/
structure ReplanningResult where
  success : Bool
  triggeringEvent : RecoveryEvent
  invalidatedAssumptions : List PlanAssumption
  impactedSegments : List RecoveryPlanSegment
  preservedSegments : List RecoveryPlanSegment
  uncoveredWindows : List CoverageWindow
  planningAttempts : PlanningAttempts
  finalPlan : Option RecoveryPlan
  finalValidation : PlanValidationResult
  deterministicTotalCost : Decimal
  requiresApproval : Bool
  finalErrors : List PlanValidationIssue
  recoveryCase : RecoveryCase
  statusHistory : List RecoveryStatus
  researchedCandidate : Option BackupCareCandidate

/-- `validate_repair` when there is work to preserve, `validate` otherwise. -/
def validateProposal (plan : RecoveryPlan) (scenario : DemoScenario) (preservedSegments : List RecoveryPlanSegment) :
    PlanValidationResult :=
  if preservedSegments = [] then validate plan scenario else validateRepair plan scenario preservedSegments

/-- A proposal needs approval when there is a reason for it, and what is valid is marked so. -/
theorem validateProposal_marks (plan : RecoveryPlan) (scenario : DemoScenario)
    (preservedSegments : List RecoveryPlanSegment) :
    ((validateProposal plan scenario preservedSegments).requiresApproval =
      !(validateProposal plan scenario preservedSegments).validatedPlan.approvalReasons.isEmpty) ∧
    ((validateProposal plan scenario preservedSegments).valid = true →
      (validateProposal plan scenario preservedSegments).validatedPlan.validationState = .valid) := by
  have hvalidate : ((validate plan scenario).requiresApproval =
        !(validate plan scenario).validatedPlan.approvalReasons.isEmpty) ∧
      ((validate plan scenario).valid = true → (validate plan scenario).validatedPlan.validationState = .valid) := by
    refine ⟨by simp [validate], fun h => ?_⟩
    have h : (validationIssues plan scenario).isEmpty = true := h
    simp [validate, h]
  unfold validateProposal
  split
  · exact hvalidate
  · simp only [validateRepair]
    split
    · exact hvalidate
    · exact ⟨hvalidate.1, fun h => by cases h⟩

/-- The loop of `_validate_with_repairs`, when `remaining` further proposals may be asked for. -/
def repairLoop (scenario validationScenario : DemoScenario) (recoveryCaseId : Option String)
    (preservedSegments : List RecoveryPlanSegment) (researchedCandidate : Option BackupCareCandidate) :
    ℕ → List PlanningAttempt → RecoveryPlan → Service PlanningAttempts
  | 0, earlier, plan =>
    pure
      { earlier
        last :=
          { attemptNumber := earlier.length + 1
            proposedPlan := plan
            validation := validateProposal plan validationScenario preservedSegments } }
  | remaining + 1, earlier, plan =>
    let attempt : PlanningAttempt :=
      { attemptNumber := earlier.length + 1
        proposedPlan := plan
        validation := validateProposal plan validationScenario preservedSegments }
    if attempt.validation.valid then pure { earlier, last := attempt }
    else do
      let response ← invoke
        { operation := .planRepair
          recoveryCaseId
          scenario
          previousPlan := some plan
          validatorFeedback := attempt.validation.issues
          researchedCandidate }
      repairLoop scenario validationScenario recoveryCaseId preservedSegments researchedCandidate remaining
        (earlier ++ [attempt]) response.planCandidate

/-- `_validate_with_repairs`. -/
def validateWithRepairs (first : AgentRuntimeResponse) (scenario validationScenario : DemoScenario)
    (recoveryCaseId : Option String) (preservedSegments : List RecoveryPlanSegment) : Service PlanningAttempts :=
  repairLoop scenario validationScenario recoveryCaseId preservedSegments first.researchedCandidate
    (maxPlanAttempts - 1) [] first.planCandidate

/-- The facts against which proposals are validated: with the researched provider, if there is one. -/
def validationScenario (scenario : DemoScenario) (candidate : Option BackupCareCandidate) :
    Except Failure DemoScenario :=
  match candidate with
  | some candidate => addResearchedCaregiver scenario candidate
  | none => .ok scenario

/-- `AgentCoreRuntimeGateway.plan_initial`. -/
def planInitial (disruption : String) (scenario : DemoScenario) : Service InitialPlanningResult := do
  let response ← invoke { operation := .initialPlanning, disruption := some disruption, scenario }
  let planningScenario ← Prog.ofExcept (validationScenario scenario response.researchedCandidate)
  let attempts ← validateWithRepairs response scenario planningScenario none []
  let final := attempts.last.validation
  return {
    success := final.valid
    attempts
    finalPlan := if final.valid then some final.validatedPlan else none
    deterministicTotalCost := final.deterministicTotalCost
    requiresApproval := final.requiresApproval
    finalErrors := if final.valid then [] else final.issues
    researchedCandidate := response.researchedCandidate }

/-- The assumptions that a plan adds to those a case already has. -/
def mergeAssumptions (assumptions added : List PlanAssumption) : List PlanAssumption :=
  assumptions ++ added.filter fun assumption => assumption.assumptionId ∉ assumptions.map (·.assumptionId)

/-- The case with its new plan. -/
def replannedCase (updatedCase : RecoveryCase) (finalPlan : RecoveryPlan) : RecoveryCase :=
  { updatedCase with
    status := .executing
    activeRecoveryPlan := some finalPlan
    assumptions := mergeAssumptions updatedCase.assumptions finalPlan.assumptions
    uncoveredWindows := [] }

/-- `build_replanning_result`. -/
def buildReplanningResult (outcome : InvalidationOutcome) (event : RecoveryEvent) (attempts : PlanningAttempts)
    (researchedCandidate : Option BackupCareCandidate) : ReplanningResult :=
  let finalValidation := attempts.last.validation
  let success := finalValidation.valid
  let finalPlan := materializeCaregiverAssumptions finalValidation.validatedPlan
  let updatedCase := if success then replannedCase outcome.recoveryCase finalPlan else outcome.recoveryCase
  { success
    triggeringEvent := event
    invalidatedAssumptions := outcome.invalidatedAssumptions
    impactedSegments := outcome.impactedSegments
    preservedSegments := outcome.preservedSegments
    uncoveredWindows := outcome.uncoveredWindows
    planningAttempts := attempts
    finalPlan := if success then some finalPlan else none
    finalValidation
    deterministicTotalCost := finalValidation.deterministicTotalCost
    requiresApproval := finalValidation.requiresApproval
    finalErrors := if success then [] else finalValidation.issues
    recoveryCase := updatedCase
    statusHistory := [outcome.previousStatus, .replanning, updatedCase.status]
    researchedCandidate }

/-- What the runtime is told about a decline's outcome. -/
def replanningContext (outcome : InvalidationOutcome) : ReplanningContext :=
  { recoveryCase := outcome.recoveryCase
    previousStatus := outcome.previousStatus
    originalValidPlan := outcome.originalValidPlan
    invalidatedAssumptions := outcome.invalidatedAssumptions
    impactedSegments := outcome.impactedSegments
    impactReasons := outcome.impactReasons
    preservedSegments := outcome.preservedSegments
    uncoveredWindows := outcome.uncoveredWindows }

/-- What `replan` asks of the runtime. -/
def replanningRequest (caseId : String) (outcome : InvalidationOutcome) : AgentRuntimeRequest :=
  { operation := .replanning
    recoveryCaseId := some caseId
    scenario := outcome.updatedScenario
    replanningContext := some (replanningContext outcome) }

/-- `AgentCoreRuntimeGateway.replan`. -/
def replan (recoveryCase : RecoveryCase) (event : RecoveryEvent) (scenario : DemoScenario) :
    Service ReplanningResult := do
  let outcome ← Prog.ofExcept (applyCaregiverDecline recoveryCase event scenario)
  let response ← invoke (replanningRequest recoveryCase.caseId outcome)
  let planningScenario ← Prog.ofExcept (validationScenario outcome.updatedScenario response.researchedCandidate)
  let attempts ← validateWithRepairs response outcome.updatedScenario planningScenario (some recoveryCase.caseId)
    outcome.preservedSegments
  return buildReplanningResult outcome event attempts response.researchedCandidate

end DayMend.Agent
