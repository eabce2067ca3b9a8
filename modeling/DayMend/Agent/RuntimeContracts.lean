import DayMend.Services.BackupCare
import DayMend.Services.ExecutionActions
import DayMend.Services.PlanInvalidation

/-!
# The services' programs

What the application asks of the world outside (`Query`): the time, a fresh
identifier, an execution adapter, and the reasoning runtime with the contracts of
`agent/runtime_contracts.py`. The services are programs (`Service`) over the store
of recovery cases that may ask these questions.
-/

namespace DayMend.Agent

open DayMend.Base DayMend.Models DayMend.Fixtures DayMend.Services

/-- What the runtime is asked to do. -/
inductive RuntimeOperation where
  | initialPlanning
  | replanning
  | planRepair
  deriving DecidableEq

/-- What the runtime is told about a decline. -/
structure ReplanningContext where
  recoveryCase : RecoveryCase
  previousStatus : RecoveryStatus
  originalValidPlan : RecoveryPlan
  invalidatedAssumptions : List PlanAssumption
  impactedSegments : List RecoveryPlanSegment
  impactReasons : List SegmentImpactReason := []
  preservedSegments : List RecoveryPlanSegment
  uncoveredWindows : List CoverageWindow

/-- A request to the runtime. -/
structure AgentRuntimeRequest where
  operation : RuntimeOperation
  recoveryCaseId : Option String := none
  disruption : Option String := none
  scenario : DemoScenario
  replanningContext : Option ReplanningContext := none
  previousPlan : Option RecoveryPlan := none
  validatorFeedback : List PlanValidationIssue := []
  researchedCandidate : Option BackupCareCandidate := none
  /-- Replanning requires its deterministic context, repair a previous plan. -/
  validate_contract : (operation = .replanning → replanningContext.isSome) ∧
    (operation = .planRepair → previousPlan.isSome) := by simp

/-- What the runtime answers: a proposal, and a provider that its research has found. -/
structure AgentRuntimeResponse where
  planCandidate : RecoveryPlan
  researchedCandidate : Option BackupCareCandidate := none

/-- What the services ask. -/
inductive Query where
  /-- `clock()`. -/
  | clock
  /-- `id_factory()`. -/
  | newId
  /-- `adapter.execute(action, now=now)`. -/
  | execute (action : ExecutionAction) (now : Instant)
  /-- `invoker.invoke(request)`. -/
  | invoke (request : AgentRuntimeRequest)

/-- What they are answered. -/
def Answer : Query → Type
  | .clock => Instant
  | .newId => String
  | .execute _ _ => ExecutionAction
  | .invoke _ => Except Failure AgentRuntimeResponse

/-- A program of the services. -/
abbrev Service (α : Type) := Prog String RecoveryCase Failure Answer α

/-- `clock()`. -/
def clock : Service Instant := .ask .clock .ret

/-- `id_factory()`. -/
def newId : Service String := .ask .newId .ret

/-- `adapter.execute(action, now=now)`. -/
def executeAction (action : ExecutionAction) (now : Instant) : Service ExecutionAction :=
  .ask (.execute action now) .ret

/-- `invoker.invoke(request)`. -/
def invoke (request : AgentRuntimeRequest) : Service AgentRuntimeResponse :=
  .ask (.invoke request) fun answer => Prog.ofExcept answer

/-- `repository.get(case_id)`. -/
def getCase (caseId : String) : Service RecoveryCase :=
  .get caseId fun
    | some recoveryCase => .ret recoveryCase
    | none => .raise (.recoveryCaseNotFound caseId)

/-- `repository.save(recovery_case, expected_version=...)`. -/
def saveCase (recoveryCase : RecoveryCase) (expectedVersion : Option ℕ) : Service RecoveryCase :=
  .save recoveryCase expectedVersion fun
    | some saved => .ret saved
    | none => .raise (.recoveryCaseVersionConflict recoveryCase.caseId)

end DayMend.Agent
