import DayMend.Base.Decimal
import DayMend.Base.Span

/-!
# Domain contracts

The data of a childcare recovery (`models/domain.py`): windows of time, caregivers,
policies, plans and their segments, approvals and execution actions. A contract
that the source checks when a value is built is a field here, so that a value that
breaks it cannot be built.

Instants are exact integers, in microseconds; a duration is a difference of
instants. Amounts of money are nonnegative decimals.
-/

namespace DayMend.Models

open DayMend.Base

/-- A point in time, in microseconds. -/
abbrev Instant := ℤ

/-- The text of an instant. -/
def isoformat (t : Instant) : String := toString t

/-- One minute. -/
def minute : ℤ := 60000000

/-- `int(delta.total_seconds() // 60)`: the whole minutes of a duration. -/
def wholeMinutes (delta : ℤ) : ℤ := delta / minute

/-- An interval during which childcare is needed or available. -/
abbrev CoverageWindow := Span ℤ

/-- Lifecycle states of a recovery case. -/
inductive RecoveryStatus where
  | detected
  | assessing
  | planning
  | executing
  | waitingForResponse
  | replanning
  | noRecoveryOption
  | approvalRequired
  | resolved
  | failed
  deriving DecidableEq

/-- The text of a status. -/
def RecoveryStatus.value : RecoveryStatus → String
  | .detected => "DETECTED"
  | .assessing => "ASSESSING"
  | .planning => "PLANNING"
  | .executing => "EXECUTING"
  | .waitingForResponse => "WAITING_FOR_RESPONSE"
  | .replanning => "REPLANNING"
  | .noRecoveryOption => "NO_RECOVERY_OPTION"
  | .approvalRequired => "APPROVAL_REQUIRED"
  | .resolved => "RESOLVED"
  | .failed => "FAILED"

/-- The facts recorded in a recovery history. -/
inductive RecoveryEventType where
  | disruptionDetected
  | caregiverDeclined
  | approvalRequested
  | approvalApproved
  | approvalRejected
  | executionStarted
  | actionCompleted
  | actionFailed
  | completionVerified
  | caseResolved
  deriving DecidableEq

/-- The text of an event type. -/
def RecoveryEventType.value : RecoveryEventType → String
  | .disruptionDetected => "DISRUPTION_DETECTED"
  | .caregiverDeclined => "CAREGIVER_DECLINED"
  | .approvalRequested => "APPROVAL_REQUESTED"
  | .approvalApproved => "APPROVAL_APPROVED"
  | .approvalRejected => "APPROVAL_REJECTED"
  | .executionStarted => "EXECUTION_STARTED"
  | .actionCompleted => "ACTION_COMPLETED"
  | .actionFailed => "ACTION_FAILED"
  | .completionVerified => "COMPLETION_VERIFIED"
  | .caseResolved => "CASE_RESOLVED"

/-- Whether an assumption may still support an active plan. -/
inductive PlanAssumptionStatus where
  | active
  | invalidated
  deriving DecidableEq

/-- Result of plan validation. -/
inductive PlanValidationState where
  | notValidated
  | valid
  | invalid
  deriving DecidableEq

/-- Decision state of an approval request. -/
inductive ApprovalStatus where
  | pending
  | approved
  | rejected
  deriving DecidableEq

/-- The text of an approval status. -/
def ApprovalStatus.value : ApprovalStatus → String
  | .pending => "PENDING"
  | .approved => "APPROVED"
  | .rejected => "REJECTED"

/-- Action categories that may cross an autonomy boundary. -/
inductive ApprovalType where
  | spendAboveAutonomyLimit
  | unfamiliarPaidCaregiver
  deriving DecidableEq

/-- Reasons a valid plan still requires human permission. -/
inductive PlanApprovalReason where
  | costAboveAutomaticLimit
  | unfamiliarPaidCaregiver
  deriving DecidableEq

/-- Recovery operations. -/
inductive ExecutionActionType where
  | reserveCaregiver
  | updateCalendar
  deriving DecidableEq

/-- Outcome of one operation. -/
inductive ExecutionActionStatus where
  | pending
  | succeeded
  | failed
  deriving DecidableEq

/-- The text of an action status, in lower case. -/
def ExecutionActionStatus.lower : ExecutionActionStatus → String
  | .pending => "pending"
  | .succeeded => "succeeded"
  | .failed => "failed"

/-- A parent's calendar commitment. -/
structure CalendarEvent where
  eventId : String
  ownerId : String
  title : String
  window : CoverageWindow
  location : Option String := none
  movable : Bool := false
  critical : Bool := false
  deriving DecidableEq

/-- Where care takes place. -/
inductive CareLocationType where
  | familyHome
  | caregiverHome
  | other
  deriving DecidableEq

/-- A potential caregiver. -/
structure Caregiver where
  caregiverId : String
  name : String
  isTrusted : Bool
  relationship : Option String := none
  availability : List CoverageWindow := []
  hourlyRate : Option Decimal := none
  flatRate : Option Decimal := none
  handoffBufferMinutes : ℕ := 0
  knownToFamily : Bool := true
  previouslyUsed : Bool := false
  externalProvider : Bool := false
  careLocationType : CareLocationType := .familyHome
  locationId : String := "family_home"
  locationLabel : String := "Family home"
  travelMinutesFromFamilyHome : ℕ := 0
  canTransportChild : Bool := false
  /-- A caregiver cannot have both an hourly and a flat rate. -/
  has_at_most_one_price_type : hourlyRate = none ∨ flatRate = none := by simp
  deriving DecidableEq

/-- A provider's rating, from 0 to 5. -/
abbrev Rating := {rating : Decimal // rating.toRat ≤ 5}

/-- Soft priorities. -/
structure FamilyPreferences where
  preferFamilyFirst : Bool := false
  preferTrustedCaregivers : Bool := false
  preferInHomeCare : Bool := false
  protectCriticalMeetings : Bool := false
  preferFewerHandoffs : Bool := false
  preferParentAMorningCoverage : Bool := false
  avoidReschedulingCustomerMeetings : Bool := false
  preferredBackupOrder : List String := []
  preferredHandoffLocation : Option String := none
  preferCloserBackupCare : Bool := false
  preferLowerBackupCareCost : Bool := false
  preferredMinimumProviderRating : Option Rating := none
  preferMeaningfulReviewHistory : Bool := false
  preferPreviouslyUsedProvider : Bool := false
  deriving DecidableEq

/-- Hard rules and autonomy boundaries. -/
structure FamilyPolicy where
  requireTrustedCaregiver : Bool := true
  unapprovedCaregiverAllowed : Bool := false
  automaticSpendLimit : Decimal := 0
  currency : String := "USD"
  minimumHandoffMinutes : ℕ := 0
  requireVerifiedBackupProvider : Bool := false
  requireBackgroundCheckedBackupProvider : Bool := false
  requireApprovalForUnfamiliarPaidCaregiver : Bool := false
  allowExternalBackupProviders : Bool := true
  allowProviderTransport : Bool := true
  deriving DecidableEq

/-- Kind of person assigned to a segment. -/
inductive CoverageSource where
  | caregiver
  | parent
  deriving DecidableEq

/-- The text of a source. -/
def CoverageSource.value : CoverageSource → String
  | .caregiver => "CAREGIVER"
  | .parent => "PARENT"

/-- Stationary care or child transport. -/
inductive PlanSegmentType where
  | care
  | transport
  deriving DecidableEq

/-- A parent's driving capability. -/
structure ParentTransportCapability where
  parentId : String
  canTransportChild : Bool := false
  availability : List CoverageWindow := []
  deriving DecidableEq

/-- One continuous portion of coverage in a plan. -/
structure RecoveryPlanSegment where
  segmentId : String
  window : CoverageWindow
  assignedPersonId : String
  source : CoverageSource
  segmentType : PlanSegmentType := .care
  locationId : String := "family_home"
  locationLabel : String := "Family home"
  destinationLocationId : Option String := none
  destinationLocationLabel : Option String := none
  transporterId : Option String := none
  estimatedCost : Decimal := 0
  /-- Transport segments require a destination and a driver. -/
  transport_has_destination_and_driver :
    segmentType = .transport → destinationLocationId.isSome ∧ transporterId.isSome := by simp
  deriving DecidableEq

/-- Where a transport segment takes the child. -/
def RecoveryPlanSegment.destination (s : RecoveryPlanSegment) (h : s.segmentType = .transport) : String :=
  s.destinationLocationId.get (s.transport_has_destination_and_driver h).1

/-- Who drives on a transport segment. -/
def RecoveryPlanSegment.transporter (s : RecoveryPlanSegment) (h : s.segmentType = .transport) : String :=
  s.transporterId.get (s.transport_has_destination_and_driver h).2

/-- One provider record of the backup-care inventory. -/
structure BackupCareCandidate where
  candidateId : String
  displayName : String
  availability : List CoverageWindow := []
  hourlyRate : Option Decimal := none
  flatRate : Option Decimal := none
  verified : Bool
  backgroundChecked : Bool
  minimumChildAge : ℕ
  maximumChildAge : ℕ
  knownToFamily : Bool := false
  previouslyUsed : Bool := false
  careLocationType : CareLocationType := .familyHome
  locationId : String := "family_home"
  locationLabel : String := "Family home"
  travelMinutesFromFamilyHome : ℕ := 0
  canTransportChild : Bool := false
  /-- Exactly one price, and an age range that is not empty. -/
  candidate_contract_is_consistent :
    hourlyRate.isSome ≠ flatRate.isSome ∧ minimumChildAge ≤ maximumChildAge := by simp
  deriving DecidableEq

/-- A JSON value of a free-form field. -/
inductive JsonValue where
  | null
  | bool (b : Bool)
  | str (s : String)
  | list (items : List JsonValue)
  | obj (fields : List (String × JsonValue))

/-- A window as JSON. -/
def windowJson (w : CoverageWindow) : JsonValue :=
  .obj [("start", .str (isoformat w.start)), ("end", .str (isoformat w.end_))]

/-- A fact of the world on which coverage depends. -/
structure PlanAssumption where
  assumptionId : String
  assumptionType : String
  subjectId : String
  relevantWindow : Option CoverageWindow := none
  value : Option JsonValue := none
  status : PlanAssumptionStatus := .active
  invalidatedAt : Option Instant := none
  invalidationReason : Option String := none
  triggeringEventId : Option String := none
  /-- Active assumptions have no invalidation details; invalidated ones have a time. -/
  invalidation_details_match_status :
    (status = .active → invalidatedAt = none ∧ invalidationReason = none ∧ triggeringEventId = none) ∧
      (status = .invalidated → invalidatedAt.isSome) := by simp

/-- A recovery proposal, with its validation state. -/
structure RecoveryPlan where
  planId : String
  coverageSegments : List RecoveryPlanSegment := []
  calendarChanges : List CalendarEvent := []
  estimatedCost : Decimal := 0
  assumptions : List PlanAssumption := []
  validationState : PlanValidationState := .notValidated
  validationErrors : List String := []
  approvalReasons : List PlanApprovalReason := []

/-- A decision that the parent must make. -/
structure ApprovalRequest where
  approvalId : String
  recoveryCaseId : String
  approvalType : ApprovalType
  planId : String
  reason : String
  summary : String
  consequence : String
  requestedAt : Instant
  status : ApprovalStatus := .pending
  amount : Option Decimal := none
  currency : Option String := none
  decidedAt : Option Instant := none
  /-- Pending requests have no decision time; decided ones have one. -/
  decision_time_matches_status : status = .pending ↔ decidedAt = none := by simp
  deriving DecidableEq

/-- One side effect and its result. -/
structure ExecutionAction where
  actionId : String
  actionType : ExecutionActionType
  targetId : String
  planId : String
  status : ExecutionActionStatus := .pending
  attemptedAt : Instant
  completedAt : Option Instant := none
  result : Option String := none
  error : Option String := none
  /-- Pending actions have no completion time, completed ones have one, failed ones an error. -/
  completion_fields_match_status :
    (status = .pending ↔ completedAt = none) ∧ (status = .failed → ∃ e, error = some e ∧ e ≠ "") := by simp
  deriving DecidableEq

/-- The ways an operation can fail. -/
inductive Failure where
  | valueError (message : String)
  | assertionError
  | attributeError
  | workflowInvariantError (message : String)
  | recoveryCaseNotFound (caseId : String)
  | recoveryCaseVersionConflict (caseId : String)
  | applicationConflict (message : String)
  | eventNotApplicable (message : String)
  | planningFailed (message : String)
  | replanningFailed (message : String)
  | agentCoreInvocationError (message : String)
  deriving DecidableEq

end DayMend.Models
