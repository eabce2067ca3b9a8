import DayMend.Agent.RuntimeContracts

/-!
# Execution

`RecoveryExecutionService` of `services/execution_service.py`: the actions of the
active plan are carried out when the plan is valid and, where approval is needed,
approved. An action that has succeeded is not carried out again.
-/

namespace DayMend.Services

open DayMend.Base DayMend.Models DayMend.Fixtures DayMend.Agent

/-- What execution has done. -/
structure ExecutionResult where
  recoveryCase : RecoveryCase
  actions : List ExecutionAction
  succeeded : Bool
  idempotent : Bool := false

/-- `{action.action_id: action for action in actions}`. -/
def actionDict (actions : List ExecutionAction) : Dict String ExecutionAction :=
  .ofList (actions.map fun action => (action.actionId, action))

/-- The record of an action that has succeeded. -/
def succeededRecord (actions : Dict String ExecutionAction) (actionId : String) : Option ExecutionAction :=
  (actions.get? actionId).filter (·.status = .succeeded)

theorem mem_of_succeededRecord {actions : List ExecutionAction} {actionId : String} {a : ExecutionAction}
    (h : succeededRecord (actionDict actions) actionId = some a) :
    a ∈ actions ∧ a.actionId = actionId ∧ a.status = .succeeded := by
  obtain ⟨hget, hstatus⟩ := Option.filter_eq_some_iff.mp h
  obtain ⟨action, hmem, heq⟩ := List.mem_map.mp (Dict.mem_of_get?_ofList hget)
  obtain ⟨rfl, rfl⟩ := Prod.mk.inj heq
  exact ⟨hmem, rfl, of_decide_eq_true hstatus⟩

/-- An approved request for exactly this plan. -/
def ApprovedFor (approvals : List ApprovalRequest) (planId : String) : Prop :=
  ∃ approval ∈ approvals, approval.status = .approved ∧ approval.planId = planId

instance (approvals : List ApprovalRequest) (planId : String) : Decidable (ApprovedFor approvals planId) :=
  inferInstanceAs (Decidable (∃ approval ∈ approvals, approval.status = .approved ∧ approval.planId = planId))

/-- The plan that may be executed, or why none may. -/
def checkExecution (recoveryCase : RecoveryCase) : Except Failure RecoveryPlan :=
  match recoveryCase.activeRecoveryPlan with
  | none => .error (.workflowInvariantError "execution requires a deterministically valid active plan")
  | some plan =>
    if plan.validationState ≠ .valid then
      .error (.workflowInvariantError "execution requires a deterministically valid active plan")
    else if recoveryCase.pendingApproval.isSome then
      .error (.workflowInvariantError "execution is blocked by pending approval")
    else if recoveryCase.status ≠ .executing then
      .error (.workflowInvariantError s!"case status {recoveryCase.status.value} cannot execute")
    else if plan.approvalReasons ≠ [] ∧ ¬ ApprovedFor recoveryCase.approvalHistory plan.planId then
      .error (.workflowInvariantError "required current-plan approval has not been granted")
    else .ok plan

theorem checkExecution_eq_ok {recoveryCase : RecoveryCase} {plan : RecoveryPlan}
    (h : checkExecution recoveryCase = .ok plan) :
    recoveryCase.activeRecoveryPlan = some plan ∧ plan.validationState = .valid ∧
      recoveryCase.pendingApproval = none ∧ recoveryCase.status = .executing ∧
        (plan.approvalReasons = [] ∨ ApprovedFor recoveryCase.approvalHistory plan.planId) := by
  unfold checkExecution at h
  split at h
  · cases h
  next p hp =>
    split at h
    · cases h
    next hvalid =>
      split at h
      · cases h
      next hpending =>
        split at h
        · cases h
        next hstatus =>
          split at h
          · cases h
          next happroval =>
            obtain rfl := Except.ok.inj h
            refine ⟨hp, not_not.mp hvalid, by simpa using hpending, not_not.mp hstatus, ?_⟩
            rw [not_and_or, not_not, not_not] at happroval
            exact happroval

/-- The events of a case with the beginning of the execution of a plan among them. -/
def withStartEvent (events : List RecoveryEvent) (planId : String) (now : Instant) : List RecoveryEvent :=
  let startEventId := s!"execution-started:{planId}"
  if startEventId ∈ events.map (·.eventId) then events
  else events ++
    [{ eventId := startEventId, eventType := .executionStarted, occurredAt := now
       details := [("plan_id", .str planId)] }]

/-- The event of an action's result. -/
def actionEvent (planId : String) (result : ExecutionAction) (now : Instant) : RecoveryEvent :=
  { eventId := s!"action-{result.status.lower}:{result.actionId}"
    eventType := if result.status = .succeeded then .actionCompleted else .actionFailed
    occurredAt := now
    details :=
      [("action_id", .str result.actionId), ("plan_id", .str planId), ("target_id", .str result.targetId)]
    caregiver_decline_has_response_details := by split <;> simp }

/-- The result of an action is not a decline. -/
theorem actionEvent_decline? (planId : String) (result : ExecutionAction) (now : Instant) :
    (actionEvent planId result now).decline? = none := by
  apply RecoveryEvent.decline?_eq_none
  unfold actionEvent
  dsimp only
  split <;> simp

theorem withStartEvent_declines (events : List RecoveryEvent) (planId : String) (now : Instant) :
    (withStartEvent events planId now).filterMap RecoveryEvent.decline? = events.filterMap RecoveryEvent.decline? := by
  unfold withStartEvent
  dsimp only
  split
  · rfl
  · simp [RecoveryEvent.decline?]

/-- How far the loop over the required actions has come. -/
structure ExecutionProgress where
  history : List ExecutionAction
  events : List RecoveryEvent
  completed : List ExecutionAction := []

/-- The progress after an action has been carried out. -/
def ExecutionProgress.record (progress : ExecutionProgress) (planId : String) (result : ExecutionAction)
    (now : Instant) : ExecutionProgress :=
  { history := progress.history.filter (·.actionId ≠ result.actionId) ++ [result]
    events := progress.events ++ [actionEvent planId result now]
    completed := progress.completed ++ [result] }

/-- The loop over the required actions. -/
def runActions (planId : String) (existing : Dict String ExecutionAction) (now : Instant) :
    List ExecutionAction → ExecutionProgress → Service ExecutionProgress
  | [], progress => pure progress
  | action :: rest, progress =>
    match succeededRecord existing action.actionId with
    | some prior =>
      runActions planId existing now rest { progress with completed := progress.completed ++ [prior] }
    | none => do
      let result ← executeAction action now
      runActions planId existing now rest (progress.record planId result now)

/-- Every action that the loop has completed has succeeded. -/
def ExecutionProgress.succeeded (progress : ExecutionProgress) : Bool :=
  progress.completed.all fun action => action.status = .succeeded

/-- The case after execution. -/
def executedCase (recoveryCase : RecoveryCase) (progress : ExecutionProgress) (now : Instant) : RecoveryCase :=
  { recoveryCase with
    status := if progress.succeeded then .executing else .failed
    executionHistory := progress.history
    events := progress.events
    updatedAt := now }

/-- `RecoveryExecutionService.execute`. -/
def execute (caseId : String) (now : Instant) : Service ExecutionResult := do
  let recoveryCase ← getCase caseId
  let plan ← Prog.ofExcept (checkExecution recoveryCase)
  let required := requiredExecutionActions plan now
  let existing := actionDict recoveryCase.executionHistory
  let done := required.filterMap fun action => succeededRecord existing action.actionId
  if required ≠ [] ∧ done.length = required.length then
    return { recoveryCase, actions := done, succeeded := true, idempotent := true }
  else
    let progress ← runActions plan.planId existing now required
      { history := recoveryCase.executionHistory
        events := withStartEvent recoveryCase.events plan.planId now }
    let saved ← saveCase (executedCase recoveryCase progress now) (some recoveryCase.version)
    return { recoveryCase := saved, actions := progress.completed, succeeded := progress.succeeded }

end DayMend.Services
