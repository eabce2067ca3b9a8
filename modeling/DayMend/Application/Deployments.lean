import DayMend.Agent.AgentCoreGateway
import DayMend.Application.RecoveryService
import DayMend.Base.Refine

/-!
# The deployed application

`RecoveryApplicationService` with a planning gateway: the agents of
`StrandsRecoveryPlanningGateway`, or the remote runtime of `AgentCoreRuntimeGateway`. Apart
from planning, the deployed service is the one of `Application.RecoveryService`; where that
asks a runtime of which nothing is known, the deployed service has its gateway ask
(`PlanningGateway.startRecovery`, `PlanningGateway.processEvent`,
`PlanningGateway.decideApproval`).
-/

namespace DayMend.Application

open DayMend.Base DayMend.Models DayMend.Fixtures DayMend.Services DayMend.Agent

/-- `RecoveryPlanningGateway`, in a world that answers `A`. -/
structure PlanningGateway {Q : Type} (A : Q → Type) where
  planInitial (disruption : String) (scenario : DemoScenario) : Wire.GatewayProgram A InitialPlanningResult
  replan (recoveryCase : RecoveryCase) (event : RecoveryEvent) (scenario : DemoScenario) :
    Wire.GatewayProgram A ReplanningResult

/-- `StrandsRecoveryPlanningGateway`. -/
def strandsGateway (materializedPlanId : List String → String) (architecture : AgentArchitecture) :
    PlanningGateway AgentAnswer :=
  { planInitial := strandsPlanInitial materializedPlanId architecture
    replan := strandsReplan materializedPlanId architecture }

/-- `AgentCoreRuntimeGateway`, with a runtime whose host has its own architecture. -/
def agentCoreGateway (materializedPlanId : List String → String) (host architecture : AgentArchitecture) :
    PlanningGateway Wire.RemoteAnswer :=
  { planInitial := Wire.planInitial (Wire.agentCoreInvoker materializedPlanId host) architecture
    replan := Wire.replan (Wire.agentCoreInvoker materializedPlanId host) architecture }

/-! ### Programs of the deployed service -/

section Deployed

variable {Q : Type} {A : Q → Type}

/-- What the deployed service asks is answered by the world, or by whomever the gateway asks. -/
def DeployedAnswer (A : Q → Type) : Query ⊕ Q → Type
  | .inl query => Answer query
  | .inr question => A question

variable (A) in
/-- A program of the deployed service. -/
abbrev Deployed (α : Type) := Prog String RecoveryCase ReasoningFailure (DeployedAnswer A) α

/-- The world is asked. -/
def askWorld (query : Query) : Deployed A (Answer query) := .ask (.inl query) .ret

/-- The gateway asks. -/
def askThroughGateway (question : Q) : Deployed A (A question) := .ask (.inr question) .ret

/-- A failure of the services. -/
def serviceFailure (failure : Failure) : ReasoningFailure := .planning (.failed failure)

/-- A program of the services. -/
def inService {α : Type} (service : Service α) : Deployed A α := service.interpret askWorld serviceFailure

/-- A program of the gateway. -/
def throughGateway {α : Type} (planning : Wire.GatewayProgram A α) : Deployed A α :=
  planning.interpret askThroughGateway id

/-- A computation of the services. -/
def computed {α : Type} (x : Except Failure α) : Deployed A α := Prog.ofExcept (x.mapError serviceFailure)

/-- `except ValueError as exc: raise EventNotApplicable(str(exc))`; a contract's errors are `ValueError`s, and
`valueErrorText` says what text they and others have. -/
def eventNotApplicableTo (valueErrorText : ReasoningFailure → Option String) : ReasoningFailure → ReasoningFailure
  | .planning (.failed failure) => serviceFailure (eventNotApplicable failure)
  | failure =>
    match valueErrorText failure with
    | some message => serviceFailure (.eventNotApplicable message)
    | none => failure

end Deployed

/-! ### The parts of the service's programs that do not plan -/

/-- `start_recovery`, when there is a planning result. -/
def finishStarting (scenarioFactory scenario : DemoScenario) (command : StartRecoveryCommand) (caseId : String)
    (planning : InitialPlanningResult) : Service RecoveryCase := do
  let some finalPlan := planning.finalPlan
    | .raise (.planningFailed "DayMend could not produce a valid initial recovery plan.")
  let acceptedPlan := acceptPlan finalPlan caseId []
  let now ← clock
  let created ← Prog.ofExcept
    (createActiveRecoveryCase caseId (disruptionText command) acceptedPlan scenario.requiredCoverage now)
  let saved ← saveCase (startedCase command caseId scenario created planning.researchedCandidate) none
  if planning.researchedCandidate.isNone && !planning.requiresApproval then return saved
  let later ← nowAfter saved.updatedAt
  let gate ← applyAutonomyGate saved { planning.attempts.last.validation with validatedPlan := acceptedPlan }
    scenario.policy later
  if gate.approvalRequired then return gate.recoveryCase
  executeAndComplete scenarioFactory caseId

/-- The recovery plans, with the facts of the day. -/
theorem startRecovery_eq (scenarioFactory scenario : DemoScenario) (command : StartRecoveryCommand) :
    startRecovery scenarioFactory scenario command = (do
      let caseId ← newId
      let need ← Prog.ofExcept (assessKnownOptionRecoveryNeed scenario none none)
      let stop ← Prog.ofExcept (noInitialOption scenario need)
      if stop then persistInitialNoOption command caseId scenario need.requestedWindows
      else
        let planning ← planInitial (disruptionText command) scenario
        finishStarting scenarioFactory scenario command caseId planning) := by
  unfold startRecovery
  refine congrArg (newId >>= ·) (funext fun caseId => ?_)
  refine congrArg (Prog.ofExcept _ >>= ·) (funext fun need => ?_)
  refine congrArg (Prog.ofExcept _ >>= ·) (funext fun stop => ?_)
  cases stop with
  | true => rfl
  | false => rfl

/-- `process_event` up to its `try`: the case, the event and the facts. -/
def admitEvent (scenarioFactory : DemoScenario) (caseId : String) (command : EventCommand) :
    Service (RecoveryCase × RecoveryEvent × DemoScenario) := do
  let stored ← getCase caseId
  Prog.ofExcept (checkExpectedVersion stored command.expectedVersion)
  Prog.ofExcept (raiseIf (command.eventType ≠ .caregiverDeclined)
    (.eventNotApplicable s!"Event type {command.eventType.value} is not supported."))
  let now ← nowAfter stored.updatedAt
  let recoveryCase := { stored with updatedAt := now }
  let scenario ← Prog.ofExcept (scenarioFor scenarioFactory recoveryCase)
  let eventId ← eventIdOf command
  let event ← Prog.ofExcept (eventOf command eventId)
  return (recoveryCase, event, scenario)

/-- An event is admitted, and then stops the recovery or makes it replan. -/
theorem processEvent_eq (scenarioFactory : DemoScenario) (caseId : String) (command : EventCommand) :
    processEvent scenarioFactory caseId command = (do
      let (recoveryCase, event, scenario) ← admitEvent scenarioFactory caseId command
      match ← (stopOrReplan recoveryCase event scenario).mapError eventNotApplicable with
      | .inl stopped => return stopped
      | .inr result => finishReplanning scenarioFactory recoveryCase result) := by
  unfold processEvent admitEvent
  -- the case, its version, the kind of event, the time, the facts, the event's identifier and the event
  refine (bind_assoc_congr fun stored => bind_assoc_congr fun _ => bind_assoc_congr fun _ => ?_).symm
  refine bind_assoc_congr fun now => bind_assoc_congr fun scenario => bind_assoc_congr fun eventId => ?_
  exact bind_assoc_congr fun event => rfl

/-! ### The deployed service -/

namespace PlanningGateway

variable {Q : Type} {A : Q → Type} (gateway : PlanningGateway A) (valueErrorText : ReasoningFailure → Option String)
  (scenarioFactory : DemoScenario)

/-- `start_recovery`. -/
def startRecovery (scenario : DemoScenario) (command : StartRecoveryCommand) : Deployed A RecoveryCase := do
  let caseId ← inService newId
  let need ← computed (assessKnownOptionRecoveryNeed scenario none none)
  let stop ← computed (noInitialOption scenario need)
  if stop then inService (persistInitialNoOption command caseId scenario need.requestedWindows)
  else
    let planning ← throughGateway (gateway.planInitial (disruptionText command) scenario)
    inService (finishStarting scenarioFactory scenario command caseId planning)

/-- The two steps inside the `try` of `process_event`. -/
def stopOrReplan (recoveryCase : RecoveryCase) (event : RecoveryEvent) (scenario : DemoScenario) :
    Deployed A (RecoveryCase ⊕ ReplanningResult) := do
  match ← inService (stopWhenNoRecoveryOption recoveryCase event scenario) with
  | some stopped => return .inl stopped
  | none => return .inr (← throughGateway (gateway.replan recoveryCase event scenario))

/-- `process_event`. -/
def processEvent (caseId : String) (command : EventCommand) : Deployed A RecoveryCase := do
  let (recoveryCase, event, scenario) ← inService (admitEvent scenarioFactory caseId command)
  match ← (gateway.stopOrReplan recoveryCase event scenario).mapError (eventNotApplicableTo valueErrorText) with
  | .inl stopped => return stopped
  | .inr result => inService (finishReplanning scenarioFactory recoveryCase result)

/-- The requests that the deployed service takes; `decide_approval` plans nothing. -/
inductive Request : Deployed A RecoveryCase → Prop where
  /-- Start a recovery, on a day with these facts. -/
  | start (scenario : DemoScenario) (command : StartRecoveryCommand) :
      Request (gateway.startRecovery scenarioFactory scenario command)
  /-- Process an event. -/
  | event (caseId : String) (command : EventCommand) :
      Request (gateway.processEvent valueErrorText scenarioFactory caseId command)
  /-- Decide an approval. -/
  | decide (caseId approvalId : String) (command : ApprovalCommand) :
      Request (inService (decideApproval scenarioFactory caseId approvalId command))

/-- The requests, when recoveries are started on certain days only. -/
inductive RequestOn (days : DemoScenario → Prop) : Deployed A RecoveryCase → Prop where
  /-- Start a recovery, on one of the days. -/
  | start (scenario : DemoScenario) (command : StartRecoveryCommand) (h : days scenario) :
      RequestOn days (gateway.startRecovery scenarioFactory scenario command)
  /-- Process an event. -/
  | event (caseId : String) (command : EventCommand) :
      RequestOn days (gateway.processEvent valueErrorText scenarioFactory caseId command)
  /-- Decide an approval. -/
  | decide (caseId approvalId : String) (command : ApprovalCommand) :
      RequestOn days (inService (decideApproval scenarioFactory caseId approvalId command))

variable {gateway valueErrorText scenarioFactory} in
theorem Request.on {p : Deployed A RecoveryCase} (h : gateway.Request valueErrorText scenarioFactory p) :
    gateway.RequestOn valueErrorText scenarioFactory (fun _ => True) p := by
  cases h with
  | start scenario command => exact .start scenario command trivial
  | event caseId command => exact .event caseId command
  | decide caseId approvalId command => exact .decide caseId approvalId command

end PlanningGateway

end DayMend.Application
