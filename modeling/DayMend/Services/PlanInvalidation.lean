import DayMend.Models.Case
import DayMend.Services.PlanValidator

/-!
# Declines

`services/plan_invalidation.py`: what a caregiver's decline does to a case with a
valid plan (`applyCaregiverDecline`) and to the facts of the day
(`applyCaregiverDeclineToScenario`).
-/

namespace DayMend.Services

open DayMend.Base DayMend.Models DayMend.Fixtures

/-- The type of the assumptions on which caregiver segments rest. -/
def caregiverAvailable : String := "CAREGIVER_AVAILABLE"

/-- The assumption on which a caregiver segment of a plan rests. -/
def caregiverAssumption (planId : String) (segment : RecoveryPlanSegment) : PlanAssumption :=
  { assumptionId := s!"caregiver-availability:{planId}:{segment.segmentId}"
    assumptionType := caregiverAvailable
    subjectId := segment.assignedPersonId
    relevantWindow := segment.window
    value := some (.bool true) }

/-- An assumption about a caregiver's availability, by its type. -/
def AboutCaregiver (assumption : PlanAssumption) : Prop :=
  assumption.assumptionType = caregiverAvailable ∨ assumption.assumptionType = "CAREGIVER_AVAILABILITY"

instance (assumption : PlanAssumption) : Decidable (AboutCaregiver assumption) := inferInstanceAs (Decidable (_ ∨ _))

/-- `materialize_caregiver_assumptions`. -/
def materializeCaregiverAssumptions (plan : RecoveryPlan) : RecoveryPlan :=
  { plan with
    assumptions :=
      (plan.assumptions.filter fun assumption => ¬ AboutCaregiver assumption) ++
        (plan.coverageSegments.filter fun segment => segment.source = .caregiver).map
          (caregiverAssumption plan.planId) }

/-- The smallest case with a plan: it waits for what may happen to the plan. -/
def activeCase (caseId disruption : String) (validatedPlan : RecoveryPlan) (requiredCoverage : CoverageWindow)
    (now : Instant) : RecoveryCase :=
  let activePlan := materializeCaregiverAssumptions validatedPlan
  { caseId
    status := .waitingForResponse
    disruption
    coverageGap := requiredCoverage
    activeRecoveryPlan := activePlan
    assumptions := activePlan.assumptions
    createdAt := now
    updatedAt := now }

/-- `create_active_recovery_case`. -/
def createActiveRecoveryCase (caseId disruption : String) (validatedPlan : RecoveryPlan)
    (requiredCoverage : CoverageWindow) (now : Instant) : Except Failure RecoveryCase :=
  if validatedPlan.validationState ≠ .valid then
    .error (.valueError "an active recovery case requires a deterministically valid plan")
  else .ok (activeCase caseId disruption validatedPlan requiredCoverage now)

theorem eq_activeCase_of_create {caseId disruption : String} {validatedPlan : RecoveryPlan}
    {requiredCoverage : CoverageWindow} {now : Instant} {created : RecoveryCase}
    (h : createActiveRecoveryCase caseId disruption validatedPlan requiredCoverage now = .ok created) :
    created = activeCase caseId disruption validatedPlan requiredCoverage now := by
  rw [createActiveRecoveryCase] at h
  split at h
  · cases h
  · exact (Except.ok.inj h).symm

/-- What a decline does, for replanning. -/
structure InvalidationOutcome where
  recoveryCase : RecoveryCase
  previousStatus : RecoveryStatus
  updatedScenario : DemoScenario
  originalValidPlan : RecoveryPlan
  invalidatedAssumptions : List PlanAssumption
  impactedSegments : List RecoveryPlanSegment
  impactReasons : List SegmentImpactReason
  preservedSegments : List RecoveryPlanSegment
  uncoveredWindows : List CoverageWindow

/-! ### Windows -/

/-- Put a window, no earlier than the last one merged, to the merged windows, latest first. -/
def mergeInto (merged : List CoverageWindow) (window : CoverageWindow) : List CoverageWindow :=
  match merged with
  | [] => [window]
  | last :: earlier =>
    if window.start > last.end_ then window :: last :: earlier
    else ⟨last.start, max last.end_ window.end_, lt_max_of_lt_left last.start_lt_end⟩ :: earlier

/-- `_merge_windows`. -/
def mergeWindows (windows : List CoverageWindow) : List CoverageWindow :=
  ((windows.insertionSort Span.LexLe).foldl mergeInto []).reverse

/-- `_caregiver_availability_snapshot`. -/
def caregiverAvailabilitySnapshot (scenario : DemoScenario) : Dict String (List CoverageWindow) :=
  .ofList (scenario.caregivers.map fun caregiver => (caregiver.caregiverId, caregiver.availability))

/-! ### The facts of the day -/

/-- The first caregiver with an identifier. -/
def findCaregiver (scenario : DemoScenario) (caregiverId : String) : Except Failure Caregiver :=
  match scenario.caregivers.find? (·.caregiverId = caregiverId) with
  | some caregiver => .ok caregiver
  | none => .error (.valueError s!"unknown caregiver {caregiverId}")

/-- `_subtract_window`. -/
def subtractWindow (available unavailable : CoverageWindow) : List CoverageWindow :=
  if ¬ available.Overlaps unavailable then [available]
  else
    (if h : available.start < unavailable.start then [⟨available.start, unavailable.start, h⟩] else []) ++
      if h : unavailable.end_ < available.end_ then [⟨unavailable.end_, available.end_, h⟩] else []

theorem subtractWindow_eq_sub (available unavailable : CoverageWindow) :
    subtractWindow available unavailable = available.sub unavailable := by
  unfold subtractWindow Span.sub
  exact ite_not ..

/-- A caregiver without the declined window. -/
def withoutWindow (window : CoverageWindow) (caregiver : Caregiver) : Caregiver :=
  { caregiver with availability := caregiver.availability.flatMap fun w => w.sub window }

/-- `apply_caregiver_decline_to_scenario`. -/
def applyCaregiverDeclineToScenario (scenario : DemoScenario) (decline : Decline) : Except Failure DemoScenario :=
  if decline.caregiverId ∈ scenario.caregivers.map (·.caregiverId) then
    .ok { scenario with
      caregivers := scenario.caregivers.map fun caregiver =>
        if caregiver.caregiverId ≠ decline.caregiverId then caregiver
        else withoutWindow decline.window caregiver }
  else .error (.valueError s!"unknown caregiver {decline.caregiverId}")

/-! ### The case -/

/-- The assumptions that a decline invalidates. -/
def Matches (decline : Decline) (assumption : PlanAssumption) : Prop :=
  assumption.status = .active ∧ assumption.assumptionType = caregiverAvailable ∧
    assumption.subjectId = decline.caregiverId ∧
      ∃ w ∈ assumption.relevantWindow, w.Overlaps decline.window

instance (decline : Decline) (assumption : PlanAssumption) : Decidable (Matches decline assumption) := by
  unfold Matches; infer_instance

/-- An assumption that an event has invalidated. -/
def invalidateAssumption (event : RecoveryEvent) (decline : Decline) (assumption : PlanAssumption) : PlanAssumption :=
  { assumption with
    status := .invalidated
    invalidatedAt := some event.occurredAt
    invalidationReason := some decline.message
    triggeringEventId := some event.eventId
    invalidation_details_match_status := by simp }

/-- The segments that the declined caregiver was to look after during the window. -/
def directlyImpacted (decline : Decline) (plan : RecoveryPlan) : List RecoveryPlanSegment :=
  plan.coverageSegments.filter fun segment =>
    segment.source = .caregiver ∧ segment.segmentType = .care ∧
      segment.assignedPersonId = decline.caregiverId ∧ segment.window.Overlaps decline.window

/-- What the search for connected trips has found. -/
structure Impact where
  impactedIds : List String
  impactReasons : Dict String SegmentImpactReason

/-- Put a connected trip in scope; a reason already given stays. -/
def Impact.connect (impact : Impact) (directImpactedIds : List String) (trip care : RecoveryPlanSegment)
    (message : String) : Impact :=
  { impactedIds := trip.segmentId :: impact.impactedIds
    impactReasons :=
      match impact.impactReasons.get? trip.segmentId with
      | some _ => impact.impactReasons
      | none => impact.impactReasons.insert trip.segmentId
          { segmentId := trip.segmentId
            reasonCode := "connected_handoff_invalidated"
            message
            dependsOnSegmentId := if care.segmentId ∈ directImpactedIds then some care.segmentId else none } }

/-- A trip that ends where and when the declined care begins. -/
def EndsAt (declined : Caregiver) (trip care : RecoveryPlanSegment) : Prop :=
  trip.segmentType = .transport ∧ trip.window.end_ = care.window.start ∧
    trip.destinationLocationId = some declined.locationId

/-- A trip that begins where and when the declined care ends. -/
def StartsAt (declined : Caregiver) (trip care : RecoveryPlanSegment) : Prop :=
  trip.segmentType = .transport ∧ trip.window.start = care.window.end_ ∧ trip.locationId = declined.locationId

instance (declined : Caregiver) (trip care : RecoveryPlanSegment) : Decidable (EndsAt declined trip care) := by
  unfold EndsAt; infer_instance

instance (declined : Caregiver) (trip care : RecoveryPlanSegment) : Decidable (StartsAt declined trip care) := by
  unfold StartsAt; infer_instance

/-- The trip before an impacted segment, put in scope. -/
def Impact.connectPrevious (impact : Impact) (directImpactedIds : List String) (declined : Caregiver)
    (previous : Option RecoveryPlanSegment) (segment : RecoveryPlanSegment) : Impact :=
  match previous with
  | none => impact
  | some previous =>
    if EndsAt declined previous segment then
      impact.connect directImpactedIds previous segment
        "The transport ends at the declined caregiver's location and depends on the invalidated care handoff."
    else impact

/-- The trip after an impacted segment, put in scope. -/
def Impact.connectFollowing (impact : Impact) (directImpactedIds : List String) (declined : Caregiver)
    (following : Option RecoveryPlanSegment) (segment : RecoveryPlanSegment) : Impact :=
  match following with
  | none => impact
  | some following =>
    if StartsAt declined following segment then
      impact.connect directImpactedIds following segment
        "The transport starts at the declined caregiver's location and depends on the invalidated care handoff."
    else impact

/-- The loop over the sorted segments that puts connected trips in scope. -/
def connectTrips (directImpactedIds : List String) (declined : Caregiver) :
    Option RecoveryPlanSegment → List RecoveryPlanSegment → Impact → Impact
  | _, [], impact => impact
  | previous, segment :: rest, impact =>
    connectTrips directImpactedIds declined (some segment) rest <|
      if segment.segmentId ∈ impact.impactedIds then
        (impact.connectPrevious directImpactedIds declined previous segment).connectFollowing
          directImpactedIds declined rest.head? segment
      else impact

/-- The reason for which a directly impacted segment is in scope. -/
def directReason (segment : RecoveryPlanSegment) : SegmentImpactReason :=
  { segmentId := segment.segmentId
    reasonCode := "caregiver_availability_invalidated"
    message := "The segment depends on caregiver availability invalidated by the recorded decline." }

/-- Everything that a decline of `declined` puts in scope. -/
def impactOf (decline : Decline) (declined : Caregiver) (plan : RecoveryPlan) : Impact :=
  let impacted := directlyImpacted decline plan
  let directImpactedIds := impacted.map (·.segmentId)
  connectTrips directImpactedIds declined none (sortedSegments plan.coverageSegments)
    { impactedIds := directImpactedIds
      impactReasons := .ofList (impacted.map fun segment => (segment.segmentId, directReason segment)) }

/-- The case after a decline, when `original` was its valid plan. -/
def declinedCase (recoveryCase : RecoveryCase) (event : RecoveryEvent) (original : RecoveryPlan)
    (updatedAssumptions : List PlanAssumption) (updatedScenario : DemoScenario)
    (reasons : List SegmentImpactReason) (gap : CoverageWindow) (uncovered : List CoverageWindow) : RecoveryCase :=
  { recoveryCase with
    status := .replanning
    coverageGap := gap
    uncoveredWindows := uncovered
    contextState := { recoveryCase.contextState with
      latestCaregiverResponse := event
      caregiverAvailability := caregiverAvailabilitySnapshot updatedScenario
      segmentImpactReasons := reasons }
    activeRecoveryPlan := some { original with
      assumptions := updatedAssumptions
      validationState := .invalid
      validationErrors := [s!"External event {event.eventId} invalidated caregiver availability."] }
    previousPlans :=
      if original.planId ∈ recoveryCase.previousPlans.map (·.planId) then recoveryCase.previousPlans
      else recoveryCase.previousPlans ++ [original]
    assumptions := updatedAssumptions
    events := recoveryCase.events ++ [event]
    latestReplanTriggerEventId := event.eventId
    updatedAt := max (max recoveryCase.createdAt recoveryCase.updatedAt) event.occurredAt }

/-- The decline that a case with a valid plan may be told of, and the plan. -/
def checkDecline (recoveryCase : RecoveryCase) (event : RecoveryEvent) : Except Failure (Decline × RecoveryPlan) :=
  match event.decline?, recoveryCase.activeRecoveryPlan with
  | none, _ => .error (.valueError "PlanInvalidationService only handles caregiver declines")
  | some decline, activePlan =>
    if event.eventId ∈ recoveryCase.events.map (·.eventId) then
      .error (.valueError s!"event {event.eventId} has already been recorded")
    else
      match activePlan with
      | none => .error (.valueError "recovery case has no active plan")
      | some plan =>
        if plan.validationState ≠ .valid then
          .error (.valueError "world-state replanning must start from a valid active plan")
        else .ok (decline, plan)

/-- `PlanInvalidationService.apply_caregiver_decline`. -/
def applyCaregiverDecline (recoveryCase : RecoveryCase) (event : RecoveryEvent) (scenario : DemoScenario) :
    Except Failure InvalidationOutcome := do
  let (decline, activePlan) ← checkDecline recoveryCase event
  let original := materializeCaregiverAssumptions activePlan
  let assumptions := if recoveryCase.assumptions = [] then original.assumptions else recoveryCase.assumptions
  let updatedAssumptions := assumptions.map fun assumption =>
    if Matches decline assumption then invalidateAssumption event decline assumption else assumption
  let invalidated := (assumptions.filter (Matches decline ·)).map (invalidateAssumption event decline)
  let declined ← findCaregiver scenario decline.caregiverId
  let impact := impactOf decline declined original
  let impacted := (sortedSegments original.coverageSegments).filter (·.segmentId ∈ impact.impactedIds)
  raiseIf (impacted = [] ∨ invalidated = [])
    (.valueError "caregiver decline did not invalidate an active plan dependency")
  let preserved := original.coverageSegments.filter (·.segmentId ∉ impact.impactedIds)
  -- there is an impacted segment, so there is an uncovered window
  let uncovered := mergeWindows (impacted.map (·.window))
  let updatedScenario ← applyCaregiverDeclineToScenario scenario decline
  let reasons := impacted.filterMap fun segment => impact.impactReasons.get? segment.segmentId
  return {
    recoveryCase := declinedCase recoveryCase event original updatedAssumptions updatedScenario reasons
      (uncovered.headD recoveryCase.coverageGap) uncovered
    previousStatus := recoveryCase.status
    updatedScenario
    originalValidPlan := original
    invalidatedAssumptions := invalidated
    impactedSegments := impacted
    impactReasons := reasons
    preservedSegments := preserved
    uncoveredWindows := uncovered }

/-! ### What a decline leaves behind -/

variable {recoveryCase : RecoveryCase} {event : RecoveryEvent} {scenario : DemoScenario} {outcome : InvalidationOutcome}

theorem aboutCaregiver_caregiverAssumption (planId : String) (segment : RecoveryPlanSegment) :
    AboutCaregiver (caregiverAssumption planId segment) := Or.inl rfl

/-- Attaching the caregiver assumptions again, whatever the plan is called by then, replaces those attached before. -/
theorem materializeCaregiverAssumptions_rename (plan : RecoveryPlan) (planId : String) :
    materializeCaregiverAssumptions { materializeCaregiverAssumptions plan with planId } =
      materializeCaregiverAssumptions { plan with planId } := by
  have hother : (plan.assumptions.filter fun a => ¬ AboutCaregiver a).filter (fun a => ¬ AboutCaregiver a) =
      plan.assumptions.filter fun a => ¬ AboutCaregiver a :=
    List.filter_eq_self.mpr fun a ha => (List.mem_filter.mp ha).2
  have hcaregiver : ((plan.coverageSegments.filter fun segment => segment.source = .caregiver).map
      (caregiverAssumption plan.planId)).filter (fun a => ¬ AboutCaregiver a) = [] := by
    rw [List.filter_eq_nil_iff]
    intro a ha
    obtain ⟨segment, -, rfl⟩ := List.mem_map.mp ha
    simpa using aboutCaregiver_caregiverAssumption plan.planId segment
  simp only [materializeCaregiverAssumptions, List.filter_append, hother, hcaregiver, List.append_nil]

theorem materializeCaregiverAssumptions_idem (plan : RecoveryPlan) :
    materializeCaregiverAssumptions (materializeCaregiverAssumptions plan) = materializeCaregiverAssumptions plan :=
  materializeCaregiverAssumptions_rename plan plan.planId

theorem checkDecline_eq_ok {decline : Decline} {plan : RecoveryPlan}
    (h : checkDecline recoveryCase event = .ok (decline, plan)) :
    event.decline? = some decline ∧ event.eventId ∉ recoveryCase.events.map (·.eventId) ∧
      recoveryCase.activeRecoveryPlan = some plan ∧ plan.validationState = .valid := by
  unfold checkDecline at h
  cases hd : event.decline? with
  | none => simp [hd] at h
  | some d =>
    cases hp : recoveryCase.activeRecoveryPlan with
    | none =>
      simp only [hd, hp] at h
      split at h <;> cases h
    | some p =>
      simp only [hd, hp] at h
      split at h
      · cases h
      next hevent =>
        split at h
        · cases h
        next hvalid =>
          simp only [Except.ok.injEq, Prod.mk.injEq] at h
          obtain ⟨rfl, rfl⟩ := h
          exact ⟨rfl, hevent, rfl, not_not.mp hvalid⟩

/-- **What a decline does**: it applies to a new event and a valid plan, takes the declined window out of
the facts, and leaves the case with the plan invalid and the event recorded. -/
theorem applyCaregiverDecline_eq_ok (h : applyCaregiverDecline recoveryCase event scenario = .ok outcome) :
    ∃ decline plan, checkDecline recoveryCase event = .ok (decline, plan) ∧
      applyCaregiverDeclineToScenario scenario decline = .ok outcome.updatedScenario ∧
        ∃ assumptions reasons gap uncovered, outcome.recoveryCase = declinedCase recoveryCase event
          (materializeCaregiverAssumptions plan) assumptions outcome.updatedScenario reasons gap uncovered := by
  simp only [applyCaregiverDecline, bind_eq_ok] at h
  obtain ⟨⟨decline, plan⟩, hcheck, declined, -, -, -, updated, hupdated, h⟩ := h
  obtain rfl := Except.ok.inj h
  exact ⟨decline, plan, hcheck, hupdated, _, _, _, _, rfl⟩

end DayMend.Services
