import DayMend.Services.ExecutionService

/-!
# Completion

`services/completion_verifier.py`: the only path to RESOLVED. A case is resolved
when nothing speaks against it (`completionErrors`).
-/

namespace DayMend.Services

open DayMend.Base DayMend.Models DayMend.Fixtures DayMend.Agent

/-- What the verifier has decided. -/
structure CompletionVerificationResult where
  verified : Bool
  errors : List String := []
  recoveryCase : RecoveryCase

/-- `if condition: errors.append(message)`. -/
def errorIf (condition : Prop) [Decidable condition] (message : String) : List String :=
  if condition then [message] else []

@[simp] theorem errorIf_eq_nil {condition : Prop} [Decidable condition] {message : String} :
    errorIf condition message = [] ↔ ¬ condition := by
  simp [errorIf]

/-- A segment that relies on an invalidated assumption about its caregiver. -/
def ReliesOnInvalidated (assumption : PlanAssumption) (segment : RecoveryPlanSegment) : Prop :=
  assumption.status = .invalidated ∧ segment.source = .caregiver ∧
    segment.assignedPersonId = assumption.subjectId ∧
      ∃ w ∈ assumption.relevantWindow, segment.window.Overlaps w

instance (assumption : PlanAssumption) (segment : RecoveryPlanSegment) :
    Decidable (ReliesOnInvalidated assumption segment) := by
  unfold ReliesOnInvalidated; infer_instance

/-- What speaks against the completion of a case with an active plan. -/
def completionErrors (recoveryCase : RecoveryCase) (plan : RecoveryPlan) (scenario : DemoScenario) (now : Instant) :
    List String :=
  let validation := validate plan scenario
  let actions := actionDict recoveryCase.executionHistory
  errorIf (recoveryCase.status ≠ .executing) "Case is not in EXECUTING state." ++
    (if validation.valid then [] else validation.errors) ++
    errorIf recoveryCase.pendingApproval.isSome "Mandatory approval is still pending." ++
    errorIf (validation.requiresApproval ∧ ¬ ApprovedFor recoveryCase.approvalHistory plan.planId)
      "The active plan lacks its required approval." ++
    ((requiredExecutionActions plan now).flatMap fun expected =>
      errorIf (succeededRecord actions expected.actionId = none)
        s!"Required action {expected.actionId} did not succeed.") ++
    recoveryCase.assumptions.flatMap fun assumption =>
      plan.coverageSegments.flatMap fun segment =>
        errorIf (ReliesOnInvalidated assumption segment)
          s!"Active plan still relies on invalidated assumption {assumption.assumptionId}."

/-- Nothing speaks against the completion of a case with an active plan. -/
structure Completable (recoveryCase : RecoveryCase) (plan : RecoveryPlan) (scenario : DemoScenario) (now : Instant) :
    Prop where
  executing : recoveryCase.status = .executing
  valid : (validate plan scenario).valid = true
  not_pending : recoveryCase.pendingApproval = none
  approved : (validate plan scenario).requiresApproval = true → ApprovedFor recoveryCase.approvalHistory plan.planId
  done : ∀ expected ∈ requiredExecutionActions plan now,
    ∃ a, succeededRecord (actionDict recoveryCase.executionHistory) expected.actionId = some a
  relies : ∀ assumption ∈ recoveryCase.assumptions, ∀ segment ∈ plan.coverageSegments,
    ¬ ReliesOnInvalidated assumption segment

theorem completionErrors_eq_nil {recoveryCase : RecoveryCase} {plan : RecoveryPlan} {scenario : DemoScenario}
    {now : Instant} :
    completionErrors recoveryCase plan scenario now = [] ↔ Completable recoveryCase plan scenario now := by
  have hvalid : (if (validate plan scenario).valid then [] else (validate plan scenario).errors) = [] ↔
      (validate plan scenario).valid = true := by
    cases h : validationIssues plan scenario <;> simp [validate, h]
  simp only [completionErrors, List.append_eq_nil_iff, List.flatMap_eq_nil_iff, errorIf_eq_nil, hvalid, not_not,
    not_and, Bool.not_eq_true, Option.isSome_eq_false_iff, Option.isNone_iff_eq_none, and_assoc]
  constructor
  · rintro ⟨hstatus, hv, hp, ha, hd, hr⟩
    exact ⟨hstatus, hv, hp, ha, fun e he => Option.ne_none_iff_exists'.mp (hd e he), hr⟩
  · intro h
    exact ⟨h.executing, h.valid, h.not_pending, h.approved, fun e he => Option.ne_none_iff_exists'.mpr (h.done e he),
      h.relies⟩

/-- The events of a case with its verification and its end among them. -/
def withCompletionEvents (recoveryCase : RecoveryCase) (planId : String) (now : Instant) : List RecoveryEvent :=
  let verifiedEventId := s!"completion-verified:{planId}"
  if verifiedEventId ∈ recoveryCase.events.map (·.eventId) then recoveryCase.events
  else recoveryCase.events ++
    [{ eventId := verifiedEventId, eventType := .completionVerified, occurredAt := now
       details := [("plan_id", .str planId)] },
      { eventId := s!"case-resolved:{recoveryCase.caseId}", eventType := .caseResolved, occurredAt := now
        details := [("plan_id", .str planId)] }]

theorem withCompletionEvents_declines (recoveryCase : RecoveryCase) (planId : String) (now : Instant) :
    (withCompletionEvents recoveryCase planId now).filterMap RecoveryEvent.decline? = recoveryCase.declines := by
  unfold withCompletionEvents
  dsimp only
  split
  · rfl
  · simp [RecoveryEvent.decline?, RecoveryCase.declines]

/-- The case, resolved. -/
def resolvedCase (recoveryCase : RecoveryCase) (planId : String) (now : Instant) : RecoveryCase :=
  { recoveryCase with
    status := .resolved
    completionVerifiedAt := some now
    events := withCompletionEvents recoveryCase planId now
    updatedAt := now }

/-- `CompletionVerifier.verify_and_resolve`. -/
def verifyAndResolve (caseId : String) (scenario : DemoScenario) (now : Instant) :
    Service CompletionVerificationResult := do
  let recoveryCase ← getCase caseId
  match recoveryCase.activeRecoveryPlan with
  | none =>
    return {
      verified := false
      errors := errorIf (recoveryCase.status ≠ .executing) "Case is not in EXECUTING state." ++
        ["Case has no active plan."]
      recoveryCase }
  | some plan =>
    let errors := completionErrors recoveryCase plan scenario now
    if errors ≠ [] then return { verified := false, errors, recoveryCase }
    else
      let saved ← saveCase (resolvedCase recoveryCase plan.planId now) (some recoveryCase.version)
      return { verified := true, recoveryCase := saved }

end DayMend.Services
