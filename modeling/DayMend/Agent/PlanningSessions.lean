import DayMend.Agent.PlannerInput
import DayMend.Agent.RuntimeGateway

/-!
# Local planning sessions

The sessions in which the agents are asked directly: the single agent of
`agent/recovery_agent.py`, which drafts plans and is told what is wrong with them
(`runBoundedPlanAttempts`), and the planner of `agent/constraint_planner.py`, which is given
the whole input for every proposal (`runConstraintPlanning`) and in selection mode returns
primitives of the matrix (`proposeConstraintPlan`). Both are programs that ask an agent.
-/

namespace DayMend.Agent

open DayMend.Base DayMend.Models DayMend.Fixtures DayMend.Services

/-- The prompt for a draft: the one that the caller gives, or `_repair_prompt`, which names the attempt, the findings
and the scope. -/
inductive ProposalPrompt where
  | proposal (text : String)
  | repair (attemptNumber : ℕ) (issues : List PlanValidationIssue) (repairScope : String)

/-- What an agent is asked. -/
inductive AgentCall where
  /-- `agent(proposal_prompt, structured_output_model=RecoveryPlan)`. -/
  | draft (prompt : ProposalPrompt)
  /-- `planner("Verify the complete structured PlannerInvocationInput …")`, with no output. -/
  | verifyContext (plannerInput : PlannerInvocationInput)
  /-- `planner(render_planner_input(planner_input), structured_output_model=PrimitiveSelection)`. -/
  | select (plannerInput : PlannerInvocationInput)
  /-- `planner(render_planner_input(planner_input), structured_output_model=RecoveryPlan)`. -/
  | propose (plannerInput : PlannerInvocationInput)

/-- The structured output of a call. -/
def AgentOutput : AgentCall → Type
  | .draft _ => Option RecoveryPlan
  | .verifyContext _ => Unit
  | .select _ => Option PrimitiveSelection
  | .propose _ => Option RecoveryPlan

/-- A program of a session. It neither reads nor saves cases. -/
abbrev Session (α : Type) := Prog String RecoveryCase PlanningFailure AgentOutput α

/-- `model_copy(update={"validation_state": NOT_VALIDATED, "validation_errors": []})`. -/
def notValidated (plan : RecoveryPlan) : RecoveryPlan :=
  { plan with validationState := .notValidated, validationErrors := [] }

/-- `if not 1 <= max_attempts <= MAX_PLAN_ATTEMPTS`. -/
def checkMaxAttempts (maxAttempts : ℕ) : Except PlanningFailure Unit :=
  raiseIf (¬ (1 ≤ maxAttempts ∧ maxAttempts ≤ maxPlanAttempts))
    (.failed (.valueError s!"max_attempts must be between 1 and {maxPlanAttempts}"))

/-- The attempt that follows earlier ones: a proposal, and what the validator finds. -/
def nextAttempt (scenario : DemoScenario) (preservedSegments : List RecoveryPlanSegment)
    (earlier : List PlanningAttempt) (proposedPlan : RecoveryPlan) : PlanningAttempt :=
  { attemptNumber := earlier.length + 1
    proposedPlan
    validation := validateProposal proposedPlan scenario preservedSegments }

/-! ### The single agent -/

/-- The loop of `run_bounded_plan_attempts`, when `remaining` further drafts may be asked for. -/
def draftLoop (scenario : DemoScenario) (repairScope : String) (preservedSegments : List RecoveryPlanSegment) :
    ℕ → List PlanningAttempt → ProposalPrompt → Session PlanningAttempts
  | remaining, earlier, proposalPrompt =>
    .ask (.draft proposalPrompt) fun
      | none => .raise (.runtimeError "Strands returned no structured RecoveryPlan")
      | some output =>
        let attempt := nextAttempt scenario preservedSegments earlier (notValidated output)
        if attempt.validation.valid then .ret { earlier, last := attempt }
        else
          match remaining with
          | 0 => .ret { earlier, last := attempt }
          | remaining + 1 =>
            draftLoop scenario repairScope preservedSegments remaining (earlier ++ [attempt])
              (.repair (attempt.attemptNumber + 1) attempt.validation.issues repairScope)

/-- `run_bounded_plan_attempts`. -/
def runBoundedPlanAttempts (scenario : DemoScenario) (proposalPrompt : String) (maxAttempts : ℕ) (repairScope : String)
    (preservedSegments : List RecoveryPlanSegment) : Session PlanningAttempts := do
  Prog.ofExcept (checkMaxAttempts maxAttempts)
  draftLoop scenario repairScope preservedSegments (maxAttempts - 1) [] (.proposal proposalPrompt)

/-! ### The planner -/

section Planner

variable (materializedPlanId : List String → String) (brief : PlanningBrief) (scenario : DemoScenario)

/-- `INITIAL_PLANNING if brief.planning_mode is PlanningMode.INITIAL else REPLANNING`. -/
def initialOperation : PlannerOperation :=
  if brief.planningMode = .initial then .initialPlanning else .replanning

/-- Before replanning, the planner verifies the context. -/
def verifyContext (operation : PlannerOperation) (plannerInput : PlannerInvocationInput) : Session Unit :=
  if operation = .replanning then .ask (.verifyContext plannerInput) fun _ => .ret () else .ret ()

/-- The plan that the planner's output makes: of the primitives that it selects, or as it is returned. -/
def plannerOutput (plannerInput : PlannerInvocationInput) (selectionRequired : Bool) : Session RecoveryPlan :=
  if selectionRequired then
    .ask (.select plannerInput) fun
      | none => .raise (.runtimeError "Strands returned no structured PrimitiveSelection")
      | some selection =>
        Prog.ofExcept (liftFailure
          (materializePrimitiveSelection materializedPlanId selection plannerInput.feasibleAssignmentMatrix))
  else
    .ask (.propose plannerInput) fun
      | none => .raise (.runtimeError "Strands returned no structured RecoveryPlan")
      | some output => .ret (notValidated output)

/-- `propose_constraint_plan`, for an operation that is given. -/
def proposeConstraintPlan (operation : PlannerOperation) (previousPlan : Option RecoveryPlan)
    (validatorFeedback : List PlanValidationIssue) : Session RecoveryPlan := do
  let plannerInput ← Prog.ofExcept
    (buildPlannerInvocationInput operation brief scenario previousPlan validatorFeedback)
  let selectionRequired ← Prog.ofExcept (usesPrimitiveSelection plannerInput)
  verifyContext operation plannerInput
  plannerOutput materializedPlanId plannerInput selectionRequired

/-- The loop of `run_constraint_planning`, when `remaining` further proposals may be asked for. -/
def planLoop (remaining : ℕ) (earlier : List PlanningAttempt) (operation : PlannerOperation)
    (previousCandidate : Option RecoveryPlan) (feedback : List PlanValidationIssue) : Session PlanningAttempts := do
  let proposal ← proposeConstraintPlan materializedPlanId brief scenario operation previousCandidate feedback
  let attempt := nextAttempt scenario brief.preservedSegments earlier proposal
  if attempt.validation.valid then .ret { earlier, last := attempt }
  else
    match remaining with
    | 0 => .ret { earlier, last := attempt }
    | remaining + 1 =>
      planLoop remaining (earlier ++ [attempt]) .planRepair (some proposal) attempt.validation.issues

/-- `build_planning_result`. -/
def buildPlanningResult (success : Bool) (attempts : PlanningAttempts) : InitialPlanningResult :=
  let lastValidation := attempts.last.validation
  { success
    attempts
    finalPlan := if success then some lastValidation.validatedPlan else none
    deterministicTotalCost := lastValidation.deterministicTotalCost
    requiresApproval := lastValidation.requiresApproval
    finalErrors := if success then [] else lastValidation.issues
    researchedCandidate := none }

/-- `run_constraint_planning`. -/
def runConstraintPlanning (maxAttempts : ℕ) : Session InitialPlanningResult := do
  Prog.ofExcept (checkMaxAttempts maxAttempts)
  let attempts ← planLoop materializedPlanId brief scenario (maxAttempts - 1) [] (initialOperation brief) none []
  return buildPlanningResult attempts.last.validation.valid attempts

end Planner

end DayMend.Agent
