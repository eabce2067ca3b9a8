import DayMend.Base.Store
import DayMend.Fixtures.Scenario

/-!
# Recovery cases

The persistent aggregate (`RecoveryCase` of `models/domain.py`) and the events in
its history. A caregiver's decline always names the caregiver, the declined window
and a message, which is a field of the event.

`context_state` is a free-form dictionary in the source; here it is a record of the
keys that the services write. The snapshot of the scenario is the scenario itself,
as the transport contract reads back what it has written.
-/

namespace DayMend.Models

open DayMend.Base DayMend.Fixtures

/-- A decline names the caregiver, says something, and has a window. -/
def HasResponseDetails (caregiverId message : Option String) (relevantWindow : Option CoverageWindow) : Prop :=
  (∃ c, caregiverId = some c ∧ c ≠ "") ∧ (∃ m, message = some m ∧ m ≠ "") ∧ relevantWindow.isSome

/-- A fact recorded in a case's history. -/
structure RecoveryEvent where
  eventId : String
  eventType : RecoveryEventType
  occurredAt : Instant
  caregiverId : Option String := none
  relevantWindow : Option CoverageWindow := none
  message : Option String := none
  details : List (String × JsonValue) := []
  /-- Caregiver declines have their response details. -/
  caregiver_decline_has_response_details :
    eventType = .caregiverDeclined → HasResponseDetails caregiverId message relevantWindow := by simp

/-- What a decline says. -/
structure Decline where
  caregiverId : String
  window : CoverageWindow
  message : String
  deriving DecidableEq

/-- The decline an event records, if it records one. -/
def RecoveryEvent.decline? (event : RecoveryEvent) : Option Decline :=
  if h : event.eventType = .caregiverDeclined then
    let details := event.caregiver_decline_has_response_details h
    some
      { caregiverId := event.caregiverId.get (by obtain ⟨⟨c, hc, -⟩, -⟩ := details; simp [hc])
        window := event.relevantWindow.get details.2.2
        message := event.message.get (by obtain ⟨-, ⟨m, hm, -⟩, -⟩ := details; simp [hm]) }
  else none

/-- Only declines record a decline. -/
theorem RecoveryEvent.decline?_eq_none {event : RecoveryEvent} (h : event.eventType ≠ .caregiverDeclined) :
    event.decline? = none := dif_neg h

/-- Why a segment entered the scope of repair. -/
structure SegmentImpactReason where
  segmentId : String
  reasonCode : String
  message : String
  dependsOnSegmentId : Option String := none
  deriving DecidableEq

/-- The disruption with which a recovery began. -/
structure OriginalDisruption where
  disruptionType : String
  occurredAt : Instant
  caregiverId : String
  message : String
  deriving DecidableEq

/-- The keys of `context_state`. -/
structure ContextState where
  scenarioSnapshot : Option DemoScenario := none
  originalDisruption : Option OriginalDisruption := none
  researchedBackupCareCandidate : Option BackupCareCandidate := none
  latestCaregiverResponse : Option RecoveryEvent := none
  caregiverAvailability : Option (Dict String (List CoverageWindow)) := none
  segmentImpactReasons : Option (List SegmentImpactReason) := none

/-- A childcare disruption and its recovery history. -/
structure RecoveryCase where
  caseId : String
  status : RecoveryStatus := .detected
  disruption : String
  coverageGap : CoverageWindow
  uncoveredWindows : List CoverageWindow := []
  contextState : ContextState := {}
  familyPolicy : Option FamilyPolicy := none
  activeRecoveryPlan : Option RecoveryPlan := none
  previousPlans : List RecoveryPlan := []
  assumptions : List PlanAssumption := []
  events : List RecoveryEvent := []
  pendingApproval : Option ApprovalRequest := none
  approvalHistory : List ApprovalRequest := []
  executionHistory : List ExecutionAction := []
  latestReplanTriggerEventId : Option String := none
  completionVerifiedAt : Option Instant := none
  version : ℕ := 0
  createdAt : Instant
  updatedAt : Instant

/-- `updated_at_must_not_precede_created_at`, with which a case is read back. -/
def RecoveryCase.updated_at_must_not_precede_created_at (recoveryCase : RecoveryCase) : Except Failure RecoveryCase :=
  if recoveryCase.updatedAt < recoveryCase.createdAt then
    .error (.valueError "updated_at cannot be before created_at")
  else .ok recoveryCase

/-- Cases are kept under their identifiers, with their versions. -/
instance : Versioned String RecoveryCase where
  key := RecoveryCase.caseId
  version := RecoveryCase.version
  setVersion n c := { c with version := n }
  key_setVersion _ _ := rfl
  version_setVersion _ _ := rfl

/-- The declines recorded in a case, oldest first. -/
def RecoveryCase.declines (recoveryCase : RecoveryCase) : List Decline :=
  recoveryCase.events.filterMap RecoveryEvent.decline?

theorem RecoveryCase.declines_congr {c c' : RecoveryCase} (h : c'.events = c.events) : c'.declines = c.declines :=
  congrArg (List.filterMap RecoveryEvent.decline?) h

end DayMend.Models
