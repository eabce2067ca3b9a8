import DayMend.Services.ApprovalService

/-!
# What the client makes of a decided approval

The client of `frontend/src/app/core/recovery.store.ts` looks at the case that the
service returns for a decision and reports one that it takes to be inconsistent
(`approvalResponseError`). It sees the case as `api/mappers.py` shows it
(`recoveryCaseResponse`); here are the parts that it looks at.
-/

namespace DayMend.Frontend

open DayMend.Models DayMend.Services

/-- A request for approval, as the client sees it. -/
structure ApprovalResponse where
  approvalId : String
  planId : String
  status : ApprovalStatus
  deriving DecidableEq

/-- The times of a case. -/
structure RecoveryTimestampsResponse where
  createdAt : Instant
  updatedAt : Instant
  completionVerifiedAt : Option Instant
  deriving DecidableEq

/-- A case, as the client sees it. -/
structure RecoveryCaseResponse where
  recoveryCaseId : String
  status : RecoveryStatus
  approvalHistory : List ApprovalResponse
  executionActions : List ExecutionAction
  timestamps : RecoveryTimestampsResponse
  version : ℕ

/-- `ApprovalResponse.model_validate(approval.model_dump(...))`. -/
def approvalResponse (approval : ApprovalRequest) : ApprovalResponse :=
  { approvalId := approval.approvalId, planId := approval.planId, status := approval.status }

/-- `recovery_case_response`. -/
def recoveryCaseResponse (recoveryCase : RecoveryCase) : RecoveryCaseResponse :=
  { recoveryCaseId := recoveryCase.caseId
    status := recoveryCase.status
    approvalHistory := recoveryCase.approvalHistory.map approvalResponse
    executionActions := recoveryCase.executionHistory
    timestamps :=
      { createdAt := recoveryCase.createdAt
        updatedAt := recoveryCase.updatedAt
        completionVerifiedAt := recoveryCase.completionVerifiedAt }
    version := recoveryCase.version }

/-- `approvalResponseError`. -/
def approvalResponseError (recovery : RecoveryCaseResponse) (approvalId : String) (decision : ApprovalDecision) :
    Option String :=
  let approval := recovery.approvalHistory.find? fun item => item.approvalId = approvalId
  let expectedStatus := if decision = .approve then ApprovalStatus.approved else .rejected
  let validDecision := approval.map (·.status) = some expectedStatus
  let validRejection := decision ≠ .reject ∨
    recovery.status = .replanning ∧ recovery.executionActions.length = 0 ∧
      recovery.timestamps.completionVerifiedAt = none
  if validDecision ∧ validRejection then none
  else some "DayMend received an inconsistent approval result. Refresh before taking another action."

/-- The first request for approval with an identifier. -/
def firstApproval (recoveryCase : RecoveryCase) (approvalId : String) : Option ApprovalRequest :=
  recoveryCase.approvalHistory.find? fun approval => approval.approvalId = approvalId

/-- The client finds the first request, as it sees it. -/
theorem status_find?_approvalHistory (recoveryCase : RecoveryCase) (approvalId : String) :
    ((recoveryCaseResponse recoveryCase).approvalHistory.find? fun item =>
        item.approvalId = approvalId).map (·.status) =
      (firstApproval recoveryCase approvalId).map (·.status) := by
  rw [recoveryCaseResponse, List.find?_map, Option.map_map]
  rfl

/-- **What the client accepts as a rejection**: the first request with the identifier is rejected, and the case is
replanning, has carried out nothing and has never been verified. -/
theorem approvalResponseError_reject_iff {recoveryCase : RecoveryCase} {approvalId : String} :
    approvalResponseError (recoveryCaseResponse recoveryCase) approvalId .reject = none ↔
      (firstApproval recoveryCase approvalId).map (·.status) = some .rejected ∧ recoveryCase.status = .replanning ∧
        recoveryCase.executionHistory = [] ∧ recoveryCase.completionVerifiedAt = none := by
  simp only [approvalResponseError, status_find?_approvalHistory]
  simp [recoveryCaseResponse, ← exists_and_right, and_assoc]

end DayMend.Frontend
