import DayMend.Agent.RuntimeContracts

/-!
# Approvals

`services/approval_service.py`: a valid plan that costs too much, or that pays
somebody unfamiliar, pauses for the parent's decision (`applyAutonomyGate`), and
the decision is applied once (`decide`).
-/

namespace DayMend.Services

open DayMend.Base DayMend.Models DayMend.Fixtures DayMend.Agent

/-- What the gate has done. -/
structure AutonomyGateResult where
  recoveryCase : RecoveryCase
  approvalRequired : Bool
  approvalRequest : Option ApprovalRequest := none

/-- What a decision has done. -/
structure ApprovalDecisionResult where
  recoveryCase : RecoveryCase
  approval : ApprovalRequest
  idempotent : Bool := false

/-- `_save`. -/
def savePrevious (recoveryCase : RecoveryCase) (previousVersion : ℕ) : Service RecoveryCase :=
  saveCase recoveryCase (if previousVersion > 0 then some previousVersion else none)

/-- The case that may be executed at once. -/
def executingCase (recoveryCase : RecoveryCase) (validatedPlan : RecoveryPlan) (now : Instant) : RecoveryCase :=
  { recoveryCase with
    status := .executing
    activeRecoveryPlan := some validatedPlan
    updatedAt := now }

/-- Why approval is asked for, as text. -/
def approvalReason (validation : PlanValidationResult) (policy : FamilyPolicy) : String :=
  let reasons := validation.validatedPlan.approvalReasons
  let cost := validation.deterministicTotalCost.str
  let limit := policy.automaticSpendLimit.str
  if .unfamiliarPaidCaregiver ∈ reasons ∧ .costAboveAutomaticLimit ∈ reasons then
    s!"Deterministic plan cost {cost} exceeds the automatic-spend limit {limit}, " ++
      "and the plan uses an unfamiliar paid caregiver."
  else if .unfamiliarPaidCaregiver ∈ reasons then
    "The valid plan uses an unfamiliar paid caregiver requiring human approval."
  else s!"Deterministic plan cost {cost} exceeds the automatic-spend limit {limit}."

/-- The request for approval of a plan. -/
def approvalRequest (recoveryCase : RecoveryCase) (planId : String) (validation : PlanValidationResult)
    (policy : FamilyPolicy) (approvalId : String) (now : Instant) : ApprovalRequest :=
  let reasons := validation.validatedPlan.approvalReasons
  { approvalId
    recoveryCaseId := recoveryCase.caseId
    approvalType :=
      if .unfamiliarPaidCaregiver ∈ reasons ∧ .costAboveAutomaticLimit ∉ reasons then .unfamiliarPaidCaregiver
      else .spendAboveAutonomyLimit
    planId
    reason := approvalReason validation policy
    summary := "Paid backup care is needed to preserve today's critical commitments."
    consequence := "Approving permits simulated execution of the active recovery plan."
    requestedAt := now
    amount := some validation.deterministicTotalCost
    currency := some policy.currency }

/-- The event of a request for approval. -/
def approvalRequestedEvent (approval : ApprovalRequest) (now : Instant) : RecoveryEvent :=
  { eventId := s!"approval-requested:{approval.approvalId}"
    eventType := .approvalRequested
    occurredAt := now
    details :=
      [("approval_id", .str approval.approvalId), ("plan_id", .str approval.planId),
        ("amount", .str ((approval.amount.map Decimal.str).getD "None")),
        ("currency", (approval.currency.map JsonValue.str).getD .null)] }

/-- A request for approval is not a decline. -/
theorem approvalRequestedEvent_decline? (approval : ApprovalRequest) (now : Instant) :
    (approvalRequestedEvent approval now).decline? = none := by
  apply RecoveryEvent.decline?_eq_none
  intro h
  cases h

/-- The case that waits for a decision. -/
def requestedCase (recoveryCase : RecoveryCase) (validatedPlan : RecoveryPlan) (approval : ApprovalRequest)
    (now : Instant) : RecoveryCase :=
  { recoveryCase with
    status := .approvalRequired
    activeRecoveryPlan := some validatedPlan
    pendingApproval := some approval
    approvalHistory := recoveryCase.approvalHistory ++ [approval]
    events := recoveryCase.events ++ [approvalRequestedEvent approval now]
    updatedAt := now }

/-- `expected_reasons` is not empty. -/
def expectsApproval (validation : PlanValidationResult) (policy : FamilyPolicy) : Bool :=
  !validation.validatedPlan.approvalReasons.isEmpty ||
    decide (validation.deterministicTotalCost.toRat > policy.automaticSpendLimit.toRat)

/-- The request that already waits for a decision on a plan, if there is one. -/
def currentRequest (recoveryCase : RecoveryCase) (planId : String) : Option ApprovalRequest :=
  recoveryCase.pendingApproval.filter fun pending => pending.status = .pending ∧ pending.planId = planId

/-- `ApprovalService.apply_autonomy_gate`. -/
def applyAutonomyGate (recoveryCase : RecoveryCase) (validation : PlanValidationResult) (policy : FamilyPolicy)
    (now : Instant) : Service AutonomyGateResult :=
  match recoveryCase.activeRecoveryPlan, validation.valid with
  | some plan, true =>
    if validation.validatedPlan.planId ≠ plan.planId then
      .raise (.workflowInvariantError "validation does not apply to the active plan")
    else if validation.requiresApproval ≠ expectsApproval validation policy then
      .raise (.workflowInvariantError "approval requirement disagrees with deterministic policy")
    else if !validation.requiresApproval then do
      let saved ← savePrevious (executingCase recoveryCase validation.validatedPlan now) recoveryCase.version
      return { recoveryCase := saved, approvalRequired := false }
    else
      match currentRequest recoveryCase plan.planId with
      | some pending => return { recoveryCase, approvalRequired := true, approvalRequest := some pending }
      | none => do
        let approvalId ← newId
        let approval := approvalRequest recoveryCase plan.planId validation policy approvalId now
        let saved ← savePrevious (requestedCase recoveryCase validation.validatedPlan approval now)
          recoveryCase.version
        return { recoveryCase := saved, approvalRequired := true, approvalRequest := some approval }
  | _, _ => .raise (.workflowInvariantError "only a deterministically valid active plan may proceed")

/-- What a parent may decide. -/
inductive ApprovalDecision where
  | approve
  | reject
  deriving DecidableEq

/-- The status of a decided request. -/
def ApprovalDecision.status : ApprovalDecision → ApprovalStatus
  | .approve => .approved
  | .reject => .rejected

/-- The text of a decision. -/
def ApprovalDecision.lower : ApprovalDecision → String
  | .approve => "approved"
  | .reject => "rejected"

theorem ApprovalDecision.status_ne_pending (decision : ApprovalDecision) : decision.status ≠ .pending := by
  cases decision <;> simp [status]

/-- A request, decided. -/
def decidedRequest (approval : ApprovalRequest) (decision : ApprovalDecision) (now : Instant) : ApprovalRequest :=
  { approval with
    status := decision.status
    decidedAt := some now
    decision_time_matches_status := by simp [decision.status_ne_pending] }

/-- The event of a decision. -/
def decisionEvent (approval : ApprovalRequest) (decision : ApprovalDecision) (now : Instant)
    (reason : Option String) : RecoveryEvent :=
  { eventId := s!"approval-{decision.lower}:{approval.approvalId}"
    eventType := if decision = .approve then .approvalApproved else .approvalRejected
    occurredAt := now
    details :=
      [("approval_id", .str approval.approvalId), ("plan_id", .str approval.planId),
        ("reason", (reason.map JsonValue.str).getD .null)]
    caregiver_decline_has_response_details := by cases decision <;> simp }

/-- The case after a decision. -/
def decidedCase (recoveryCase : RecoveryCase) (approval : ApprovalRequest) (decision : ApprovalDecision)
    (now : Instant) (reason : Option String) : RecoveryCase :=
  let decided := decidedRequest approval decision now
  let event := decisionEvent approval decision now reason
  { recoveryCase with
    status := if decision = .approve then .executing else .replanning
    pendingApproval := none
    approvalHistory := recoveryCase.approvalHistory.map fun item =>
      if item.approvalId = approval.approvalId then decided else item
    events := recoveryCase.events ++ [event]
    latestReplanTriggerEventId :=
      if decision = .approve then recoveryCase.latestReplanTriggerEventId else some event.eventId
    updatedAt := now }

/-- A decision is not a decline. -/
theorem decisionEvent_decline? (approval : ApprovalRequest) (decision : ApprovalDecision) (now : Instant)
    (reason : Option String) : (decisionEvent approval decision now reason).decline? = none := by
  apply RecoveryEvent.decline?_eq_none
  cases decision <;> simp [decisionEvent]

/-- Whether the request for `approvalId` may be decided: it is the case's current one, for its active plan. -/
def checkDecision (recoveryCase : RecoveryCase) (approval : ApprovalRequest) : Except Failure Unit :=
  if approval.status ≠ .pending then
    .error (.workflowInvariantError
      s!"cannot change finalized approval {approval.approvalId} from {approval.status.value}")
  else if recoveryCase.status ≠ .approvalRequired then
    .error (.workflowInvariantError "case is not waiting for approval")
  else
    match recoveryCase.pendingApproval with
    | none => .error (.workflowInvariantError "case has no pending approval")
    | some pending =>
      if pending.approvalId ≠ approval.approvalId then
        .error (.workflowInvariantError "approval is stale or is not the current request")
      else
        match recoveryCase.activeRecoveryPlan with
        | none => .error (.workflowInvariantError "approval does not authorize the current active plan")
        | some plan =>
          if approval.planId ≠ plan.planId then
            .error (.workflowInvariantError "approval does not authorize the current active plan")
          else .ok ()

theorem checkDecision_eq_ok {recoveryCase : RecoveryCase} {approval : ApprovalRequest}
    (h : checkDecision recoveryCase approval = .ok ()) :
    approval.status = .pending ∧ recoveryCase.status = .approvalRequired ∧
      (∃ pending, recoveryCase.pendingApproval = some pending ∧ pending.approvalId = approval.approvalId) ∧
        ∃ plan, recoveryCase.activeRecoveryPlan = some plan ∧ approval.planId = plan.planId := by
  unfold checkDecision at h
  split at h
  · cases h
  next hpending =>
    split at h
    · cases h
    next hstatus =>
      split at h
      · cases h
      next pending hp =>
        split at h
        · cases h
        next hid =>
          split at h
          · cases h
          next plan hplan =>
            split at h
            · cases h
            next hplanId =>
              exact ⟨not_not.mp hpending, not_not.mp hstatus, ⟨pending, hp, not_not.mp hid⟩, plan, hplan,
                not_not.mp hplanId⟩

/-- `ApprovalService._decide`. -/
def decide (caseId approvalId : String) (decision : ApprovalDecision) (now : Instant) (reason : Option String) :
    Service ApprovalDecisionResult := do
  let recoveryCase ← getCase caseId
  let matching := recoveryCase.approvalHistory.filter fun approval => approval.approvalId = approvalId
  match matching.getLast? with
  | none => .raise (.workflowInvariantError s!"approval {approvalId} does not belong to case {caseId}")
  | some approval =>
    if approval.status = decision.status then return { recoveryCase, approval, idempotent := true }
    else
      Prog.ofExcept (checkDecision recoveryCase approval)
      let saved ← saveCase (decidedCase recoveryCase approval decision now reason) (some recoveryCase.version)
      return { recoveryCase := saved, approval := decidedRequest approval decision now }

end DayMend.Services
