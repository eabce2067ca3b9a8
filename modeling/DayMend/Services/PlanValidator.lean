import DayMend.Base.Text
import DayMend.Fixtures.Scenario
import Mathlib.Algebra.BigOperators.Group.List.Basic
import Mathlib.Data.List.Sort

/-!
# Deterministic plan validation

`services/plan_validator.py`: five passes over the segments of a plan, sorted by
window, each of which collects the issues it finds; a plan is valid when there is
none. Then the prices of the plan are recomputed and the reasons for which it
needs a parent's approval are determined.

The passes append to one list of issues, so each is here the list of its own
issues, and `validationIssues` is their concatenation in the source's order.
-/

namespace DayMend.Services

open DayMend.Base DayMend.Models DayMend.Fixtures

/-- The taxonomy of issues. -/
inductive ValidationErrorCode where
  | duplicateSegmentId
  | coverageGap
  | coverageOverlap
  | handoffInfeasible
  | caregiverUnavailable
  | caregiverUntrusted
  | parentCriticalConflict
  | movableEventChangeRequired
  | unsupportedPerson
  | unsupportedCalendarEvent
  | hardPolicyViolation
  | locationTransitionInvalid
  | insufficientTravelTime
  | transporterUnavailable
  | preservedSegmentChanged
  deriving DecidableEq

/-- One finding. -/
structure PlanValidationIssue where
  code : ValidationErrorCode
  message : String
  subjectId : Option String := none
  segmentId : Option String := none
  eventId : Option String := none
  suggestedAlternatives : List String := []
  deriving DecidableEq

/-- The result of validation. -/
structure PlanValidationResult where
  valid : Bool
  issues : List PlanValidationIssue := []
  errors : List String := []
  warnings : List String := []
  deterministicTotalCost : Decimal
  requiresApproval : Bool := false
  validatedPlan : RecoveryPlan

/-- `if condition: issues.append(issue)`. -/
def issueIf (condition : Prop) [Decidable condition] (issue : PlanValidationIssue) : List PlanValidationIssue :=
  if condition then [issue] else []

@[simp] theorem issueIf_eq_nil {condition : Prop} [Decidable condition] {issue : PlanValidationIssue} :
    issueIf condition issue = [] ↔ ¬ condition := by
  simp [issueIf]

theorem mem_issueIf {condition : Prop} [Decidable condition] {issue found : PlanValidationIssue} :
    found ∈ issueIf condition issue ↔ condition ∧ found = issue := by
  by_cases h : condition <;> simp [issueIf, h]

/-- One window of `availability` contains all of `window`. -/
def IsCovered (window : CoverageWindow) (availability : List CoverageWindow) : Prop :=
  ∃ w ∈ availability, w.Contains window

instance (window : CoverageWindow) (availability : List CoverageWindow) : Decidable (IsCovered window availability) :=
  inferInstanceAs (Decidable (∃ w ∈ availability, w.Contains window))

/-! ### The sorted segments -/

/-- `sorted(segments, key=lambda segment: (segment.window.start, segment.window.end))`. -/
def sortedSegments (segments : List RecoveryPlanSegment) : List RecoveryPlanSegment :=
  segments.insertionSort fun s t => s.window.LexLe t.window

theorem mem_sortedSegments {segments : List RecoveryPlanSegment} {s : RecoveryPlanSegment} :
    s ∈ sortedSegments segments ↔ s ∈ segments :=
  List.mem_insertionSort _

theorem sortedSegments_perm (segments : List RecoveryPlanSegment) : (sortedSegments segments).Perm segments :=
  List.perm_insertionSort _ _

theorem pairwise_sortedSegments (segments : List RecoveryPlanSegment) :
    (sortedSegments segments).Pairwise fun s t => s.window.LexLe t.window := by
  have : Std.Total fun s t : RecoveryPlanSegment => s.window.LexLe t.window := ⟨fun s t => Span.lexLe_total _ _⟩
  have : IsTrans RecoveryPlanSegment fun s t => s.window.LexLe t.window := ⟨fun _ _ _ => Span.LexLe.trans⟩
  exact List.pairwise_insertionSort _ _

/-- Neighbours of a sorted list: `zip(segments, segments[1:])`. -/
def neighbours (segments : List RecoveryPlanSegment) : List (RecoveryPlanSegment × RecoveryPlanSegment) :=
  segments.zip segments.tail

/-! ### Coverage and handoffs -/

/-- `_validate_unique_segment_ids`. -/
def validateUniqueSegmentIds (segments : List RecoveryPlanSegment) : List PlanValidationIssue :=
  issueIf (¬ (segments.map (·.segmentId)).Nodup)
    { code := .duplicateSegmentId, message := "Coverage segment IDs must be unique." }

/-- The handoff buffer that `current` needs when it takes over from another person. -/
def requiredBuffer (scenario : DemoScenario) (caregivers : Dict String Caregiver) (current : RecoveryPlanSegment) : ℕ :=
  if current.source = .caregiver then
    match caregivers.get? current.assignedPersonId with
    | some caregiver => max scenario.policy.minimumHandoffMinutes caregiver.handoffBufferMinutes
    | none => scenario.policy.minimumHandoffMinutes
  else scenario.policy.minimumHandoffMinutes

/-- `actual_overlap`: the whole minutes by which `current` begins before `previous` ends. -/
def actualOverlap (previous current : RecoveryPlanSegment) : ℤ :=
  max 0 (wholeMinutes (-(current.window.start - previous.window.end_)))

/-- The gap issue before a segment. -/
def uncoveredGap (previous current : RecoveryPlanSegment) : PlanValidationIssue :=
  let minutes := wholeMinutes (current.window.start - previous.window.end_)
  { code := .coverageGap
    message := s!"Uncovered gap before segment {current.segmentId}: {minutes} minutes."
    segmentId := current.segmentId }

/-- One turn of the loop over neighbours. -/
def validateHandoff (scenario : DemoScenario) (caregivers : Dict String Caregiver)
    (previous current : RecoveryPlanSegment) : List PlanValidationIssue :=
  let boundaryDelta := current.window.start - previous.window.end_
  if previous.assignedPersonId = current.assignedPersonId then
    if boundaryDelta > 0 then [uncoveredGap previous current]
    else issueIf (boundaryDelta < 0)
      { code := .coverageOverlap
        message := s!"Inconsistent overlap before segment {current.segmentId} for the same assigned person."
        segmentId := current.segmentId }
  else
    let required := requiredBuffer scenario caregivers current
    let actual := actualOverlap previous current
    issueIf (boundaryDelta > 0) (uncoveredGap previous current) ++
      if actual < required then
        [{ code := .handoffInfeasible
           message := s!"Handoff before segment {current.segmentId} provides " ++
             s!"{actual} of {required} required buffer minutes."
           segmentId := current.segmentId }]
      else issueIf (actual > required)
        { code := .coverageOverlap
          message := s!"Unexpected overlap before segment {current.segmentId}: " ++
            s!"{actual} minutes with only {required} required."
          segmentId := current.segmentId }

/-- `_validate_coverage_and_handoffs`. -/
def validateCoverageAndHandoffs (segments : List RecoveryPlanSegment) (scenario : DemoScenario)
    (caregivers : Dict String Caregiver) : List PlanValidationIssue :=
  let required := scenario.requiredCoverage
  match segments with
  | [] => [{ code := .coverageGap, message := "Required childcare window has no coverage segments." }]
  | first :: rest =>
    let last := (first :: rest).getLast (List.cons_ne_nil _ _)
    issueIf (first.window.start ≠ required.start)
        { code := .coverageGap
          message := "Coverage does not start at the beginning of the required window."
          segmentId := first.segmentId } ++
      issueIf (last.window.end_ ≠ required.end_)
        { code := .coverageGap
          message := "Coverage does not end at the end of the required window."
          segmentId := last.segmentId } ++
      ((first :: rest).flatMap fun segment =>
        issueIf (segment.window.start < required.start ∨ segment.window.end_ > required.end_)
          { code := .hardPolicyViolation
            message := s!"Segment {segment.segmentId} extends outside the required window."
            segmentId := segment.segmentId }) ++
      (neighbours (first :: rest)).flatMap fun p => validateHandoff scenario caregivers p.1 p.2

/-! ### Assignments -/

/-- `", ".join(...) or "none"`: a caregiver's availability as text. -/
def authoritativeAvailability (availability : List CoverageWindow) : String :=
  if availability = [] then "none"
  else ", ".intercalate (availability.map fun w => isoformat w.start ++ " to " ++ isoformat w.end_)

/-- The trust rule of a policy. -/
def trustRequired (policy : FamilyPolicy) : Bool := policy.requireTrustedCaregiver || !policy.unapprovedCaregiverAllowed

/-- One turn of the loop of `_validate_assignments`. -/
def validateAssignment (scenario : DemoScenario) (caregivers : Dict String Caregiver)
    (segment : RecoveryPlanSegment) : List PlanValidationIssue :=
  let personId := segment.assignedPersonId
  match segment.source with
  | .parent =>
    issueIf (personId ∉ scenario.parentIds)
      { code := .unsupportedPerson
        message := s!"Segment {segment.segmentId} invents unsupported parent {personId}."
        subjectId := personId
        segmentId := segment.segmentId }
  | .caregiver =>
    match caregivers.get? personId with
    | none =>
      [{ code := .unsupportedPerson
         message := s!"Segment {segment.segmentId} invents unsupported caregiver {personId}."
         subjectId := personId
         segmentId := segment.segmentId }]
    | some caregiver =>
      issueIf (personId ∈ scenario.unavailableCaregiverIds)
          { code := .caregiverUnavailable
            message := s!"Caregiver {personId} is unavailable due to the disruption for segment " ++
              s!"{segment.segmentId} from {isoformat segment.window.start} to {isoformat segment.window.end_}."
            subjectId := personId
            segmentId := segment.segmentId } ++
        issueIf (caregiver.externalProvider ∧ ¬ scenario.policy.allowExternalBackupProviders)
          { code := .hardPolicyViolation
            message := "External backup providers are disabled by family policy."
            subjectId := personId
            segmentId := segment.segmentId } ++
        issueIf (trustRequired scenario.policy ∧ ¬ caregiver.isTrusted)
          { code := .caregiverUntrusted
            message := s!"Caregiver {personId} is not trusted/approved by family policy."
            subjectId := personId
            segmentId := segment.segmentId } ++
        issueIf (¬ IsCovered segment.window caregiver.availability)
          { code := .caregiverUnavailable
            message := s!"Caregiver {personId} is unavailable for segment {segment.segmentId} from " ++
              s!"{isoformat segment.window.start} to {isoformat segment.window.end_}. " ++
              s!"Authoritative availability: {authoritativeAvailability caregiver.availability}."
            subjectId := personId
            segmentId := segment.segmentId }

/-- `_validate_assignments`. -/
def validateAssignments (segments : List RecoveryPlanSegment) (scenario : DemoScenario)
    (caregivers : Dict String Caregiver) : List PlanValidationIssue :=
  segments.flatMap (validateAssignment scenario caregivers)

/-! ### Locations and transport -/

/-- `_travel_minutes`. -/
def travelMinutes (origin destination familyHome : String) (travelFromHome : Dict String ℕ) : Option ℕ :=
  if origin = destination then some 0
  else if origin = familyHome then travelFromHome.get? destination
  else if destination = familyHome then travelFromHome.get? origin
  else none

/-- `known_locations`. -/
def knownLocations (scenario : DemoScenario) (caregivers : Dict String Caregiver) : List String :=
  scenario.familyHomeLocationId :: caregivers.values.map (·.locationId)

/-- `travel_from_home`. -/
def travelFromHome (scenario : DemoScenario) (caregivers : Dict String Caregiver) : Dict String ℕ :=
  .ofList ((caregivers.values.filter fun c => c.locationId ≠ scenario.familyHomeLocationId).map fun c =>
    (c.locationId, c.travelMinutesFromFamilyHome))

/-- `capable` in `_validate_transporter`. -/
def transporterCapable (policy : FamilyPolicy) (capability : Option ParentTransportCapability)
    (caregiver : Option Caregiver) : Bool :=
  capability.any (·.canTransportChild) ||
    caregiver.any fun c =>
      c.canTransportChild &&
        (!c.externalProvider || (policy.allowProviderTransport && policy.allowExternalBackupProviders))

/-- `availability` in `_validate_transporter`: a parent's capability counts before a caregiver's. -/
def transporterAvailability (capability : Option ParentTransportCapability) (caregiver : Option Caregiver) :
    List CoverageWindow :=
  match capability, caregiver with
  | some capability, _ => capability.availability
  | none, some caregiver => caregiver.availability
  | none, none => []

/-- `_validate_transporter`. -/
def validateTransporter (segment : RecoveryPlanSegment) (transporterId : String) (scenario : DemoScenario)
    (caregivers : Dict String Caregiver) (parentTransport : Dict String ParentTransportCapability) :
    List PlanValidationIssue :=
  let capability := parentTransport.get? transporterId
  let caregiver := caregivers.get? transporterId
  issueIf
      (¬ transporterCapable scenario.policy capability caregiver ∨
        ¬ IsCovered segment.window (transporterAvailability capability caregiver))
      { code := .transporterUnavailable
        message := s!"Transporter {transporterId} is not capable and available for segment {segment.segmentId}."
        subjectId := transporterId
        segmentId := segment.segmentId } ++
    scenario.parentEvents.flatMap fun event =>
      if event.ownerId ≠ transporterId ∨ ¬ segment.window.Overlaps event.window then []
      else issueIf (event.critical ∨ ¬ event.movable)
        { code := .parentCriticalConflict
          message := s!"Parent {transporterId} transports during critical or non-movable event {event.eventId}."
          subjectId := transporterId
          segmentId := segment.segmentId
          eventId := event.eventId }

/-- One turn of the first loop of `_validate_locations_and_transport`. -/
def validateLocation (scenario : DemoScenario) (caregivers : Dict String Caregiver) (segment : RecoveryPlanSegment) :
    List PlanValidationIssue :=
  let home := scenario.familyHomeLocationId
  issueIf (segment.locationId ∉ knownLocations scenario caregivers)
      { code := .locationTransitionInvalid
        message := s!"Segment {segment.segmentId} uses unknown location {segment.locationId}."
        segmentId := segment.segmentId } ++
    if h : segment.segmentType = .transport then
      let destination := segment.destination h
      issueIf (destination ∉ knownLocations scenario caregivers ∨ destination = segment.locationId)
          { code := .locationTransitionInvalid
            message := s!"Transport segment {segment.segmentId} needs distinct, known origin and " ++
              "destination locations."
            segmentId := segment.segmentId } ++
        (let actualMinutes := wholeMinutes (segment.window.end_ - segment.window.start)
        match travelMinutes segment.locationId destination home (travelFromHome scenario caregivers) with
        | none =>
          [{ code := .locationTransitionInvalid
             message := s!"No authoritative travel duration exists for transport segment {segment.segmentId}."
             segmentId := segment.segmentId }]
        | some requiredMinutes =>
          issueIf (actualMinutes < requiredMinutes)
            { code := .insufficientTravelTime
              message := s!"Transport segment {segment.segmentId} provides {actualMinutes} of " ++
                s!"{requiredMinutes} required travel minutes."
              segmentId := segment.segmentId }) ++
        validateTransporter segment (segment.transporter h) scenario caregivers
          (parentTransport scenario.parentTransportCapabilities)
    else
      match caregivers.get? segment.assignedPersonId with
      | none => []
      | some caregiver =>
        issueIf (segment.locationId ≠ caregiver.locationId)
          { code := .locationTransitionInvalid
            message := s!"Caregiver {caregiver.caregiverId} provides care at {caregiver.locationId}, not " ++
              s!"{segment.locationId}."
            subjectId := caregiver.caregiverId
            segmentId := segment.segmentId }

/-- `previous_end`: where a segment leaves the child. -/
def endLocation (segment : RecoveryPlanSegment) : String :=
  if h : segment.segmentType = .transport then segment.destination h else segment.locationId

/-- One turn of the second loop of `_validate_locations_and_transport`. -/
def validateTransition (previous current : RecoveryPlanSegment) : List PlanValidationIssue :=
  let previousEnd := endLocation previous
  issueIf (previousEnd ≠ current.locationId)
    { code := .locationTransitionInvalid
      message := s!"Child cannot move from {previousEnd} to {current.locationId} before segment " ++
        s!"{current.segmentId} without an explicit transport segment."
      segmentId := current.segmentId }

/-- `_validate_locations_and_transport`. -/
def validateLocationsAndTransport (segments : List RecoveryPlanSegment) (scenario : DemoScenario)
    (caregivers : Dict String Caregiver) : List PlanValidationIssue :=
  segments.flatMap (validateLocation scenario caregivers) ++
    (neighbours segments).flatMap fun p => validateTransition p.1 p.2

/-! ### Parents' calendars -/

/-- `{event.event_id: event for event in events}`. -/
def eventDict (events : List CalendarEvent) : Dict String CalendarEvent :=
  .ofList (events.map fun event => (event.eventId, event))

/-- One turn of the loop over the proposed calendar changes. -/
def validateCalendarChange (originalEvents : Dict String CalendarEvent) (change : CalendarEvent) :
    List PlanValidationIssue :=
  match originalEvents.get? change.eventId with
  | none =>
    [{ code := .unsupportedCalendarEvent
       message := s!"Calendar change invents unsupported event {change.eventId}."
       subjectId := change.ownerId
       eventId := change.eventId }]
  | some original =>
    if original.critical ∨ ¬ original.movable then
      [{ code := .parentCriticalConflict
         message := s!"Calendar event {change.eventId} cannot be moved."
         subjectId := change.ownerId
         eventId := change.eventId }]
    else issueIf (change.ownerId ≠ original.ownerId)
      { code := .unsupportedCalendarEvent
        message := s!"Calendar change {change.eventId} changes the event owner."
        subjectId := change.ownerId
        eventId := change.eventId }

/-- One turn of the loop over a parent segment and that parent's events. -/
def validateParentEvent (changes : Dict String CalendarEvent) (segment : RecoveryPlanSegment)
    (event : CalendarEvent) : List PlanValidationIssue :=
  if event.ownerId ≠ segment.assignedPersonId ∨ ¬ segment.window.Overlaps event.window then []
  else if event.critical ∨ ¬ event.movable then
    [{ code := .parentCriticalConflict
       message := s!"Parent {segment.assignedPersonId} is assigned during critical or non-movable event " ++
         s!"{event.eventId}."
       subjectId := segment.assignedPersonId
       segmentId := segment.segmentId
       eventId := event.eventId }]
  else
    match changes.get? event.eventId with
    | none =>
      [{ code := .movableEventChangeRequired
         message := s!"Parent coverage overlaps movable event {event.eventId} without a proposed calendar change."
         subjectId := segment.assignedPersonId
         segmentId := segment.segmentId
         eventId := event.eventId }]
    | some changedEvent =>
      issueIf (segment.window.Overlaps changedEvent.window)
        { code := .movableEventChangeRequired
          message := s!"Moved calendar event {event.eventId} still overlaps parent coverage."
          subjectId := segment.assignedPersonId
          segmentId := segment.segmentId
          eventId := event.eventId }

/-- `_validate_parent_calendars`. -/
def validateParentCalendars (segments : List RecoveryPlanSegment) (calendarChanges : List CalendarEvent)
    (scenario : DemoScenario) : List PlanValidationIssue :=
  calendarChanges.flatMap (validateCalendarChange (eventDict scenario.parentEvents)) ++
    segments.flatMap fun segment =>
      if segment.source ≠ .parent then []
      else scenario.parentEvents.flatMap (validateParentEvent (eventDict calendarChanges) segment)

/-! ### Prices, warnings and approval -/

/-- `datetime.timestamp`: the seconds since 1970, as a float. -/
def timestamp (instant : ℤ) : ℚ := double (instant / 1000000)

/-- What a window costs at an hourly rate. The timestamps are subtracted as floats; the difference goes through its text
into a decimal, and the decimals are divided and multiplied to 28 digits. -/
def hourlyAmount (hourlyRate : Decimal) (window : CoverageWindow) : ℚ :=
  let hours := shortestDecimal (double (timestamp window.end_ - timestamp window.start))
  let hours := Decimal.context (hours / 3600)
  Decimal.context (hourlyRate.toRat * hours)

/-- Eleven minutes at 16.50 come to 3.025, but eleven sixtieths of an hour, to 28 digits, to a little less. -/
example : (Decimal.quantize (hourlyAmount ⟨1650, 2⟩ ⟨0, 660000000, by decide⟩)).str = "3.02" := by decide +kernel

/-- What a segment costs, and the caregivers whose flat rate is charged after it. -/
def segmentCost (caregivers : Dict String Caregiver) (chargedFlatRates : List String)
    (segment : RecoveryPlanSegment) : ℚ × List String :=
  match segment.source, caregivers.get? segment.assignedPersonId with
  | .caregiver, some caregiver =>
    match caregiver.flatRate, caregiver.hourlyRate with
    | some flatRate, _ =>
      if caregiver.caregiverId ∈ chargedFlatRates then (0, chargedFlatRates)
      else (flatRate.toRat, caregiver.caregiverId :: chargedFlatRates)
    | none, some hourlyRate => (hourlyAmount hourlyRate segment.window, chargedFlatRates)
    | none, none => (0, chargedFlatRates)
  | _, _ => (0, chargedFlatRates)

/-- The segments with their recomputed costs. -/
def priceSegments (caregivers : Dict String Caregiver) :
    List String → List RecoveryPlanSegment → List RecoveryPlanSegment
  | _, [] => []
  | charged, segment :: rest =>
    let (cost, charged) := segmentCost caregivers charged segment
    { segment with estimatedCost := Decimal.quantize cost } :: priceSegments caregivers charged rest

/-- `_recompute_costs`. -/
def recomputeCosts (segments : List RecoveryPlanSegment) (caregivers : Dict String Caregiver) :
    List RecoveryPlanSegment × Decimal :=
  let deterministicSegments := priceSegments caregivers [] segments
  (deterministicSegments, Decimal.quantize (deterministicSegments.map (·.estimatedCost.toRat)).sum)

/-- `_warn_on_cost_mismatches`. -/
def warnOnCostMismatches (proposedPlan : RecoveryPlan) (deterministicSegments : List RecoveryPlanSegment)
    (totalCost : Decimal) : List String :=
  let proposedById : Dict String Decimal :=
    .ofList (proposedPlan.coverageSegments.map fun segment => (segment.segmentId, segment.estimatedCost))
  (deterministicSegments.flatMap fun segment =>
      if (proposedById.get? segment.segmentId).map Decimal.toRat ≠ some segment.estimatedCost.toRat then
        [s!"Recomputed cost for segment {segment.segmentId}: {segment.estimatedCost.str}."]
      else []) ++
    if proposedPlan.estimatedCost.toRat ≠ totalCost.toRat then [s!"Recomputed plan total cost: {totalCost.str}."]
    else []

/-- `_add_preference_warnings`. -/
def addPreferenceWarnings (segments : List RecoveryPlanSegment) (caregivers : Dict String Caregiver)
    (preferences : FamilyPreferences) : List String :=
  let usedCaregivers := segments.filterMap fun segment =>
    if segment.source = .caregiver then caregivers.get? segment.assignedPersonId else none
  let handoffs := (neighbours segments).countP fun p => p.1.assignedPersonId ≠ p.2.assignedPersonId
  (if preferences.preferFamilyFirst ∧ usedCaregivers ≠ [] ∧
        ¬ ∃ item ∈ usedCaregivers, item.relationship = some "family" then
      ["Plan does not satisfy the soft preference to use family first."]
    else []) ++
    if preferences.preferFewerHandoffs ∧ handoffs > 1 then
      ["Plan has multiple handoffs despite the soft preference for fewer."]
    else []

/-- A caregiver from outside whom the family does not know and has to pay. -/
def unfamiliarPaid (caregiver : Caregiver) : Bool :=
  caregiver.externalProvider && !caregiver.knownToFamily &&
    (caregiver.hourlyRate.any (fun rate => decide (0 < rate.toRat)) ||
      caregiver.flatRate.any fun rate => decide (0 < rate.toRat))

/-- `uses_unfamiliar_paid_caregiver`. -/
def usesUnfamiliarPaidCaregiver (segments : List RecoveryPlanSegment) (caregivers : Dict String Caregiver) : Bool :=
  segments.any fun segment =>
    decide (segment.source = .caregiver) && (caregivers.get? segment.assignedPersonId).any unfamiliarPaid

/-- The reasons for which a plan needs approval, each with its warning. -/
def approvalFindings (segments : List RecoveryPlanSegment) (totalCost : Decimal) (scenario : DemoScenario)
    (caregivers : Dict String Caregiver) : List (PlanApprovalReason × String) :=
  (if totalCost.toRat > scenario.policy.automaticSpendLimit.toRat then
      [(.costAboveAutomaticLimit,
        "Plan cost exceeds the automatic-spend limit and would require approval before execution.")]
    else []) ++
    if scenario.policy.requireApprovalForUnfamiliarPaidCaregiver ∧
        usesUnfamiliarPaidCaregiver segments caregivers then
      [(.unfamiliarPaidCaregiver, "Plan uses an unfamiliar paid caregiver and requires approval before execution.")]
    else []

/-! ### Validation -/

/-- The issues of a plan, in the order in which the passes find them. -/
def validationIssues (plan : RecoveryPlan) (scenario : DemoScenario) : List PlanValidationIssue :=
  let segments := sortedSegments plan.coverageSegments
  let caregivers := caregiverDict scenario.caregivers
  validateUniqueSegmentIds segments ++
    validateCoverageAndHandoffs segments scenario caregivers ++
    validateAssignments segments scenario caregivers ++
    validateLocationsAndTransport segments scenario caregivers ++
    validateParentCalendars segments plan.calendarChanges scenario

/-- `PlanValidator.validate`. -/
def validate (plan : RecoveryPlan) (scenario : DemoScenario) : PlanValidationResult :=
  let caregivers := caregiverDict scenario.caregivers
  let issues := validationIssues plan scenario
  let (deterministicSegments, totalCost) := recomputeCosts (sortedSegments plan.coverageSegments) caregivers
  let findings := approvalFindings deterministicSegments totalCost scenario caregivers
  let errors := issues.map (·.message)
  { valid := issues.isEmpty
    issues
    errors
    warnings :=
      warnOnCostMismatches plan deterministicSegments totalCost ++
        addPreferenceWarnings deterministicSegments caregivers scenario.preferences ++ findings.map (·.2)
    deterministicTotalCost := totalCost
    requiresApproval := !findings.isEmpty
    validatedPlan := { plan with
      coverageSegments := deterministicSegments
      estimatedCost := totalCost
      validationState := if issues.isEmpty then .valid else .invalid
      validationErrors := errors
      approvalReasons := findings.map (·.1) } }

/-- A plan needs no approval when its cost is within the limit and it pays nobody unfamiliar for whom the
family wants to be asked. -/
theorem requiresApproval_eq_false_iff {plan : RecoveryPlan} {scenario : DemoScenario} :
    (validate plan scenario).requiresApproval = false ↔
      (validate plan scenario).deterministicTotalCost.toRat ≤ scenario.policy.automaticSpendLimit.toRat ∧
        ¬ (scenario.policy.requireApprovalForUnfamiliarPaidCaregiver ∧
          usesUnfamiliarPaidCaregiver (validate plan scenario).validatedPlan.coverageSegments
            (caregiverDict scenario.caregivers)) := by
  simp only [validate, Bool.not_eq_false', List.isEmpty_iff, approvalFindings, List.append_eq_nil_iff, ite_eq_right_iff,
    List.cons_ne_nil, imp_false, gt_iff_lt, not_lt]

/-- Without caregivers every segment is free. -/
theorem priceSegments_of_no_caregiver {caregivers : Dict String Caregiver} {segments : List RecoveryPlanSegment}
    (h : ∀ s ∈ segments, s.source ≠ .caregiver) :
    ∀ charged : List String, ∀ t ∈ priceSegments caregivers charged segments,
      t.estimatedCost.toRat = 0 ∧ t.source ≠ .caregiver := by
  induction segments with
  | nil => intro charged t ht; cases ht
  | cons segment rest ih =>
    obtain ⟨hsegment, hrest⟩ := List.forall_mem_cons.mp h
    intro charged t ht
    have hcost : segmentCost caregivers charged segment = (0, charged) := by
      unfold segmentCost
      split
      next hsource _ => exact absurd hsource hsegment
      next => rfl
    simp only [priceSegments, hcost] at ht
    rcases List.mem_cons.mp ht with rfl | ht
    · exact ⟨Decimal.toRat_quantize_zero, hsegment⟩
    · exact ih hrest charged t ht

/-- **Only plans with caregivers need approval.** -/
theorem exists_caregiver_of_requiresApproval {plan : RecoveryPlan} {scenario : DemoScenario}
    (h : (validate plan scenario).requiresApproval = true) : ∃ s ∈ plan.coverageSegments, s.source = .caregiver := by
  by_contra hnone
  have hfree : ∀ s ∈ sortedSegments plan.coverageSegments, s.source ≠ .caregiver := by
    intro s hs hsource
    exact hnone ⟨s, mem_sortedSegments.mp hs, hsource⟩
  have hpriced : ∀ t ∈ priceSegments (caregiverDict scenario.caregivers) [] (sortedSegments plan.coverageSegments),
      t.estimatedCost.toRat = 0 ∧ t.source ≠ .caregiver := priceSegments_of_no_caregiver hfree []
  have hsum : ((priceSegments (caregiverDict scenario.caregivers) []
      (sortedSegments plan.coverageSegments)).map (·.estimatedCost.toRat)).sum = 0 := by
    apply List.sum_eq_zero
    intro x hx
    obtain ⟨t, ht, rfl⟩ := List.mem_map.mp hx
    exact (hpriced t ht).1
  have hfalse : (validate plan scenario).requiresApproval = false := by
    rw [requiresApproval_eq_false_iff]
    constructor
    · have hcost : (validate plan scenario).deterministicTotalCost.toRat = 0 := by
        simp only [validate, recomputeCosts, hsum, Decimal.toRat_quantize_zero]
      rw [hcost]
      exact Decimal.toRat_nonneg _
    · rintro ⟨-, huses⟩
      obtain ⟨t, ht, huses⟩ := List.any_eq_true.mp huses
      rw [Bool.and_eq_true, decide_eq_true_eq] at huses
      exact (hpriced t ht).2 huses.1
  rw [h] at hfalse
  cases hfalse

/-- `_preserved_work_survives`. -/
def PreservedWorkSurvives (preserved candidate : RecoveryPlanSegment) : Prop :=
  candidate.window.Contains preserved.window ∧
    candidate.assignedPersonId = preserved.assignedPersonId ∧
    candidate.source = preserved.source ∧
    candidate.segmentType = preserved.segmentType ∧
    candidate.locationId = preserved.locationId ∧
    candidate.destinationLocationId = preserved.destinationLocationId ∧
    candidate.transporterId = preserved.transporterId

instance (preserved candidate : RecoveryPlanSegment) : Decidable (PreservedWorkSurvives preserved candidate) := by
  unfold PreservedWorkSurvives; infer_instance

/-- The issues of segments that should have been preserved and were not. -/
def preservationIssues (plan : RecoveryPlan) (preservedSegments : List RecoveryPlanSegment) :
    List PlanValidationIssue :=
  preservedSegments.flatMap fun preserved =>
    issueIf (¬ ∃ candidate ∈ plan.coverageSegments, PreservedWorkSurvives preserved candidate)
      { code := .preservedSegmentChanged
        message := s!"Previously accepted segment {preserved.segmentId} must remain materially unchanged " ++
          "because deterministic impact analysis preserved it."
        subjectId := preserved.assignedPersonId
        segmentId := preserved.segmentId }

/-- `PlanValidator.validate_repair`. -/
def validateRepair (plan : RecoveryPlan) (scenario : DemoScenario) (preservedSegments : List RecoveryPlanSegment) :
    PlanValidationResult :=
  let result := validate plan scenario
  let preservationIssues := preservationIssues plan preservedSegments
  if preservationIssues = [] then result
  else
    let issues := result.issues ++ preservationIssues
    let errors := issues.map (·.message)
    { result with
      valid := false
      issues
      errors
      validatedPlan := { result.validatedPlan with
        validationState := .invalid
        validationErrors := errors } }

end DayMend.Services
