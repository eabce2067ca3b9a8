import DayMend.Agent.RuntimeExecution

/-!
# Planning with the remote runtime

`AgentCoreClient` and `AgentCoreRuntimeGateway` of `agent/runtime_gateway.py` with the whole
contracts: the gateway asks the runtime for proposals, validates them itself and sends
invalid ones back (`Wire.planInitial`, `Wire.replan`); the client sends each request at most
twice. Between the client and the runtime there is a network that may lose a request, or
the response to one that has been carried out (`deliver`).
-/

namespace DayMend.Agent.Wire

open DayMend.Base DayMend.Models DayMend.Fixtures DayMend.Services

/-- A program of the gateway, in a world that answers `A`. -/
abbrev GatewayProgram {Q : Type} (A : Q → Type) (α : Type) := Prog String RecoveryCase ReasoningFailure A α

/-- `AgentCoreInvocationError(message)`. -/
def invocationError (message : String) : ReasoningFailure := .planning (.failed (.agentCoreInvocationError message))

/-- The text of a failed invocation. -/
def failedSafely : String := "AgentCore reasoning invocation failed safely"

/-! ### The client -/

/-- What `invoke_agent_runtime` comes to. -/
inductive TransportReply where
  /-- `ConnectionClosedError`, `ConnectTimeoutError` or `EndpointConnectionError`. -/
  | connectionFailed
  /-- Any other error of the SDK, or a payload that is no response. -/
  | failed
  /-- A response. -/
  | response (response : AgentRuntimeResponse)

section Client

variable {Q : Type} {A : Q → Type} (deliver : AgentRuntimeRequest → GatewayProgram A TransportReply)

/-- What the client makes of a reply, when `retry` may follow a failed connection. -/
def receive (request : AgentRuntimeRequest) (retry : GatewayProgram A AgentRuntimeResponse) :
    TransportReply → GatewayProgram A AgentRuntimeResponse
  | .response response =>
    if response.requestId ≠ request.requestId then
      .raise (invocationError "AgentCore response request_id did not match")
    else .ret response
  | .connectionFailed => retry
  | .failed => .raise (invocationError failedSafely)

/-- `AgentCoreClient.invoke`: `for transport_attempt in range(2)`. -/
def clientInvoke (request : AgentRuntimeRequest) : GatewayProgram A AgentRuntimeResponse := do
  let first ← deliver request
  receive request (do
    let second ← deliver request
    receive request (.raise (invocationError failedSafely)) second) first

end Client

/-! ### The gateway -/

/-- What a gateway needs: fresh identifiers, and a `RuntimeInvoker`. -/
structure RuntimeInvoker {Q : Type} (A : Q → Type) where
  uuid4 : GatewayProgram A String
  invoke : AgentRuntimeRequest → GatewayProgram A AgentRuntimeResponse

section Gateway

variable {Q : Type} {A : Q → Type} (invoker : RuntimeInvoker A) (architecture : AgentArchitecture)

/-- `_request`, and its invocation. -/
def invokeWith (fields : (requestId architecture : String) → RequestFields) :
    GatewayProgram A AgentRuntimeResponse := do
  let requestId ← invoker.uuid4
  let request ← Prog.ofExcept (liftPlanning (fields requestId architecture.value).request)
  invoker.invoke request

/-- The request for an initial plan. -/
def initialFields (disruption : String) (scenario : DemoScenario) (requestId architecture : String) : RequestFields :=
  { requestId, operation := .initialPlanning, architecture, disruption := some disruption, scenario }

/-- The request for a new plan after a decline. -/
def replanningFields (recoveryCaseId : String) (outcome : InvalidationOutcome) (requestId architecture : String) :
    RequestFields :=
  { requestId
    recoveryCaseId := some recoveryCaseId
    operation := .replanning
    architecture
    scenario := outcome.updatedScenario
    replanningContext := some (replanningContext outcome) }

/-- The request for a repair of a plan. -/
def repairFields (first : AgentRuntimeResponse) (scenario : DemoScenario) (recoveryCaseId : Option String)
    (plan : RecoveryPlan) (issues : List PlanValidationIssue) (requestId architecture : String) : RequestFields :=
  { requestId
    recoveryCaseId
    operation := .planRepair
    architecture
    scenario
    planningBrief := some first.planningBrief
    previousPlan := some plan
    validatorFeedback := issues
    researchedCandidate := first.researchedCandidate }

/-- The loop of `_validate_with_repairs`, when `remaining` further proposals may be asked for. -/
def repairLoop (first : AgentRuntimeResponse) (scenario validationScenario : DemoScenario)
    (recoveryCaseId : Option String) (preservedSegments : List RecoveryPlanSegment) :
    ℕ → List PlanningAttempt → RecoveryPlan → GatewayProgram A PlanningAttempts
  | remaining, earlier, plan =>
    let attempt := nextAttempt validationScenario preservedSegments earlier plan
    if attempt.validation.valid then .ret { earlier, last := attempt }
    else
      match remaining with
      | 0 => .ret { earlier, last := attempt }
      | remaining + 1 => do
        let response ← invokeWith invoker architecture
          (repairFields first scenario recoveryCaseId plan attempt.validation.issues)
        repairLoop first scenario validationScenario recoveryCaseId preservedSegments remaining
          (earlier ++ [attempt]) response.planCandidate

/-- What follows the runtime's first response: the facts with the provider that it names, and the attempts. -/
def validateResponse (first : AgentRuntimeResponse) (scenario : DemoScenario) (recoveryCaseId : Option String)
    (preservedSegments : List RecoveryPlanSegment) : GatewayProgram A PlanningAttempts := do
  let planningScenario ← Prog.ofExcept (liftServices (validationScenario scenario first.researchedCandidate))
  repairLoop invoker architecture first scenario planningScenario recoveryCaseId preservedSegments
    (maxPlanAttempts - 1) [] first.planCandidate

/-- `AgentCoreRuntimeGateway.plan_initial`. -/
def planInitial (disruption : String) (scenario : DemoScenario) : GatewayProgram A InitialPlanningResult := do
  let response ← invokeWith invoker architecture (initialFields disruption scenario)
  let attempts ← validateResponse invoker architecture response scenario none []
  return { buildPlanningResult attempts.last.validation.valid attempts with
    researchedCandidate := response.researchedCandidate }

/-- `AgentCoreRuntimeGateway.replan`. -/
def replan (recoveryCase : RecoveryCase) (event : RecoveryEvent) (scenario : DemoScenario) :
    GatewayProgram A ReplanningResult := do
  let outcome ← Prog.ofExcept (liftServices (applyCaregiverDecline recoveryCase event scenario))
  let response ← invokeWith invoker architecture (replanningFields recoveryCase.caseId outcome)
  let attempts ← validateResponse invoker architecture response outcome.updatedScenario (some recoveryCase.caseId)
    outcome.preservedSegments
  return buildReplanningResult outcome event attempts response.researchedCandidate

end Gateway

/-! ### The deployment -/

/-- What becomes of a message. -/
inductive Delivery where
  | delivered
  /-- An error after which the client tries again. -/
  | connectionFailed
  /-- Any other error. -/
  | failed
  deriving DecidableEq

/-- What the gateway and the runtime behind it ask. -/
inductive RemoteQuestion where
  /-- `uuid4()`. -/
  | uuid4
  /-- What becomes of a request. -/
  | send (request : AgentRuntimeRequest)
  /-- What becomes of the response to it. -/
  | respond (request : AgentRuntimeRequest)
  /-- The runtime asks an agent. -/
  | agent (question : AgentQuestion)

/-- What they are answered. -/
def RemoteAnswer : RemoteQuestion → Type
  | .uuid4 => String
  | .send _ => Delivery
  | .respond _ => Delivery
  | .agent question => AgentAnswer question

/-- A program of the gateway and the runtime. -/
abbrev Remote (α : Type) := GatewayProgram RemoteAnswer α

/-- The runtime asks an agent. -/
def askRemotely (question : AgentQuestion) : Remote (AgentAnswer question) := .ask (.agent question) .ret

/-- A session of the runtime. -/
def atRuntime {α : Type} (session : Reasoning α) : Remote α := session.interpret askRemotely id

/-- What the network brings back: the runtime's response, an error in its place, or nothing. -/
def transported (executed : Except ReasoningFailure AgentRuntimeResponse) : Delivery → TransportReply
  | .delivered =>
    match executed with
    | .ok response => .response response
    | .error _ => .failed
  | .connectionFailed => .connectionFailed
  | .failed => .failed

section Deployment

variable (materializedPlanId : List String → String) (architecture : AgentArchitecture)

/-- A request on the network, and the runtime at the other end: the request may not arrive, and when the runtime has
carried it out the response may not. -/
def deliver (request : AgentRuntimeRequest) : Remote TransportReply :=
  .ask (.send request) fun
    | Delivery.delivered => do
      let executed ← (atRuntime (executeRuntimeRequest materializedPlanId architecture request)).attempt
      .ask (.respond request) fun delivery => .ret (transported executed delivery)
    | Delivery.connectionFailed => .ret .connectionFailed
    | Delivery.failed => .ret .failed

/-- The invoker of the deployed application. -/
def agentCoreInvoker : RuntimeInvoker RemoteAnswer :=
  { uuid4 := .ask .uuid4 .ret
    invoke := clientInvoke (deliver materializedPlanId architecture) }

/-- The environment of a deployment: an identifier has 36 characters, the network may do whatever it likes, and the
agents answer what they may. -/
def remoteEnv (agents : (question : AgentQuestion) → AgentAnswer question → Prop) :
    (question : RemoteQuestion) → RemoteAnswer question → Prop
  | .uuid4, id => String.length id = 36
  | .send _, _ => True
  | .respond _, _ => True
  | .agent question, answer => agents question answer

end Deployment

end DayMend.Agent.Wire
