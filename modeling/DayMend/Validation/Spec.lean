import DayMend.Services.PlanValidator

/-!
# What the validator accepts

Each pass of the validator finds nothing exactly when a condition on segments and
facts holds. The conditions are stated one by one (`HandoffOk`, `AssignmentOk`,
`LocationOk`, `ChangeOk`, `ParentEventOk`), and `Accepted` puts them together:
`accepted_iff_valid` says that a plan is valid exactly when it is accepted. What
follows from validity is proved from `Accepted` alone.
-/

namespace DayMend.Validation

open DayMend.Base DayMend.Models DayMend.Fixtures DayMend.Services

variable {plan : RecoveryPlan} {scenario : DemoScenario} {segment previous current : RecoveryPlanSegment}

/-! ### The conditions -/

/-- `id` names `caregiver` for the services. -/
def Knows (scenario : DemoScenario) (id : String) (caregiver : Caregiver) : Prop :=
  (caregiverDict scenario.caregivers).get? id = some caregiver

/-- `caregiver` may be given `window`, by the family's policy and the facts of the day. -/
structure Eligible (scenario : DemoScenario) (caregiver : Caregiver) (window : CoverageWindow) : Prop where
  /-- The disruption has not made the caregiver unavailable. -/
  not_unavailable : caregiver.caregiverId ∉ scenario.unavailableCaregiverIds
  /-- Caregivers from outside need the family's leave. -/
  external_allowed : caregiver.externalProvider → scenario.policy.allowExternalBackupProviders
  /-- Where the policy asks for trust, the caregiver is trusted. -/
  trusted : trustRequired scenario.policy → caregiver.isTrusted
  /-- One availability window contains all of `window`. -/
  available : IsCovered window caregiver.availability

/-- `current` may follow `previous` in the order of time. -/
structure HandoffOk (scenario : DemoScenario) (previous current : RecoveryPlanSegment) : Prop where
  /-- There is no gap. -/
  no_gap : current.window.start ≤ previous.window.end_
  /-- The same person goes on at once. -/
  same_person : previous.assignedPersonId = current.assignedPersonId → current.window.start = previous.window.end_
  /-- Another person comes exactly the required minutes earlier. -/
  buffer : previous.assignedPersonId ≠ current.assignedPersonId →
    actualOverlap previous current = requiredBuffer scenario (caregiverDict scenario.caregivers) current

/-- The assigned person of a segment may be assigned to it. -/
def AssignmentOk (scenario : DemoScenario) (segment : RecoveryPlanSegment) : Prop :=
  match segment.source with
  | .parent => segment.assignedPersonId ∈ scenario.parentIds
  | .caregiver =>
    ∃ caregiver, Knows scenario segment.assignedPersonId caregiver ∧ Eligible scenario caregiver segment.window

/-- The transporter of a segment can drive and has the time. -/
structure TransporterOk (scenario : DemoScenario) (segment : RecoveryPlanSegment) (transporterId : String) : Prop where
  /-- The transporter may drive the child. -/
  capable : transporterCapable scenario.policy
    ((parentTransport scenario.parentTransportCapabilities).get? transporterId)
    ((caregiverDict scenario.caregivers).get? transporterId)
  /-- One availability window contains the trip. -/
  available : IsCovered segment.window (transporterAvailability
    ((parentTransport scenario.parentTransportCapabilities).get? transporterId)
    ((caregiverDict scenario.caregivers).get? transporterId))
  /-- None of the transporter's own events that cannot be moved overlaps the trip. -/
  no_fixed_event : ∀ event ∈ scenario.parentEvents, event.ownerId = transporterId →
    segment.window.Overlaps event.window → ¬ event.critical ∧ event.movable

/-- A transport segment takes the child somewhere else, in time, with a driver who can. -/
structure TripOk (scenario : DemoScenario) (segment : RecoveryPlanSegment) (h : segment.segmentType = .transport) :
    Prop where
  /-- The destination is known. -/
  destination_known : segment.destination h ∈ knownLocations scenario (caregiverDict scenario.caregivers)
  /-- The trip goes somewhere. -/
  destination_ne : segment.destination h ≠ segment.locationId
  /-- It takes at least the travel time. -/
  enough_time : ∃ minutes : ℕ, travelMinutes segment.locationId (segment.destination h)
    scenario.familyHomeLocationId (travelFromHome scenario (caregiverDict scenario.caregivers)) = some minutes ∧
      minutes ≤ wholeMinutes (segment.window.end_ - segment.window.start)
  /-- The driver can. -/
  transporter : TransporterOk scenario segment (segment.transporter h)

/-- Where a segment takes place is in order. -/
structure LocationOk (scenario : DemoScenario) (segment : RecoveryPlanSegment) : Prop where
  /-- The place is known. -/
  known : segment.locationId ∈ knownLocations scenario (caregiverDict scenario.caregivers)
  /-- A caregiver looks after the child at the caregiver's own place. -/
  care : segment.segmentType ≠ .transport →
    ∀ caregiver, Knows scenario segment.assignedPersonId caregiver → segment.locationId = caregiver.locationId
  /-- A trip is in order. -/
  trip : ∀ h : segment.segmentType = .transport, TripOk scenario segment h

/-- A calendar change moves an event that may be moved, and leaves it with its owner. -/
def ChangeOk (scenario : DemoScenario) (change : CalendarEvent) : Prop :=
  ∃ original, (eventDict scenario.parentEvents).get? change.eventId = some original ∧
    ¬ original.critical ∧ original.movable ∧ change.ownerId = original.ownerId

/-- A parent's own event leaves the parent free for a segment. -/
def ParentEventOk (changes : List CalendarEvent) (segment : RecoveryPlanSegment) (event : CalendarEvent) : Prop :=
  event.ownerId = segment.assignedPersonId → segment.window.Overlaps event.window →
    ¬ event.critical ∧ event.movable ∧
      ∃ changed, (eventDict changes).get? event.eventId = some changed ∧ ¬ segment.window.Overlaps changed.window

/-- The child is where `current` begins when `previous` ends. -/
def TransitionOk (previous current : RecoveryPlanSegment) : Prop := endLocation previous = current.locationId

/-- **What the validator accepts.** -/
structure Accepted (plan : RecoveryPlan) (scenario : DemoScenario) : Prop where
  unique_ids : (plan.coverageSegments.map (·.segmentId)).Nodup
  ne_nil : sortedSegments plan.coverageSegments ≠ []
  starts : ((sortedSegments plan.coverageSegments).head ne_nil).window.start = scenario.requiredCoverage.start
  ends : ((sortedSegments plan.coverageSegments).getLast ne_nil).window.end_ = scenario.requiredCoverage.end_
  inside : ∀ s ∈ plan.coverageSegments, scenario.requiredCoverage.Contains s.window
  handoffs : (sortedSegments plan.coverageSegments).IsChain (HandoffOk scenario)
  assignments : ∀ s ∈ plan.coverageSegments, AssignmentOk scenario s
  locations : ∀ s ∈ plan.coverageSegments, LocationOk scenario s
  transitions : (sortedSegments plan.coverageSegments).IsChain TransitionOk
  changes : ∀ change ∈ plan.calendarChanges, ChangeOk scenario change
  parent_events : ∀ s ∈ plan.coverageSegments, s.source = .parent →
    ∀ event ∈ scenario.parentEvents, ParentEventOk plan.calendarChanges s event

/-! ### Each pass finds nothing exactly when its condition holds -/

theorem validateUniqueSegmentIds_eq_nil {segments : List RecoveryPlanSegment} :
    validateUniqueSegmentIds segments = [] ↔ (segments.map (·.segmentId)).Nodup := by
  rw [validateUniqueSegmentIds, issueIf_eq_nil, not_not]

theorem validateHandoff_eq_nil :
    validateHandoff scenario (caregiverDict scenario.caregivers) previous current = [] ↔
      HandoffOk scenario previous current := by
  simp only [validateHandoff]
  split
  next hp =>
    constructor
    · intro h
      split at h
      · exact absurd h (List.cons_ne_nil _ _)
      next hgap =>
        rw [issueIf_eq_nil] at h
        exact ⟨by omega, fun _ => by omega, fun hne => absurd hp hne⟩
    · intro h
      have := h.same_person hp
      rw [if_neg (by omega), issueIf_eq_nil]
      omega
  next hp =>
    rw [List.append_eq_nil_iff, issueIf_eq_nil]
    constructor
    · rintro ⟨hgap, h⟩
      split at h
      · exact absurd h (List.cons_ne_nil _ _)
      next hlt =>
        rw [issueIf_eq_nil] at h
        exact ⟨by omega, fun he => absurd he hp, fun _ => by omega⟩
    · intro h
      have hbuffer := h.buffer hp
      have hgap := h.no_gap
      refine ⟨by omega, ?_⟩
      rw [if_neg (by omega), issueIf_eq_nil]
      omega

theorem validateAssignment_eq_nil :
    validateAssignment scenario (caregiverDict scenario.caregivers) segment = [] ↔ AssignmentOk scenario segment := by
  simp only [validateAssignment, AssignmentOk, Knows]
  cases segment.source with
  | parent => simp
  | caregiver =>
    cases hc : (caregiverDict scenario.caregivers).get? segment.assignedPersonId with
    | none => simp
    | some caregiver =>
      have hid := (caregiverId_of_get? hc).2
      simp only [List.append_eq_nil_iff, issueIf_eq_nil, Option.some.injEq, exists_eq_left', not_not, not_and]
      constructor
      · rintro ⟨⟨⟨h₁, h₂⟩, h₃⟩, h₄⟩
        exact ⟨hid ▸ h₁, h₂, h₃, h₄⟩
      · intro h
        exact ⟨⟨⟨hid ▸ h.not_unavailable, h.external_allowed⟩, h.trusted⟩, h.available⟩

theorem validateTransporter_eq_nil {transporterId : String} :
    validateTransporter segment transporterId scenario (caregiverDict scenario.caregivers)
        (parentTransport scenario.parentTransportCapabilities) = [] ↔
      TransporterOk scenario segment transporterId := by
  simp only [validateTransporter, List.append_eq_nil_iff, issueIf_eq_nil, List.flatMap_eq_nil_iff, not_or, not_not]
  constructor
  · rintro ⟨⟨hc, ha⟩, he⟩
    refine ⟨hc, ha, fun event hevent ho hw => ?_⟩
    have h := he event hevent
    rw [if_neg (by simp [ho, hw]), issueIf_eq_nil] at h
    simpa using h
  · rintro ⟨hc, ha, he⟩
    refine ⟨⟨hc, ha⟩, fun event hevent => ?_⟩
    split
    · rfl
    next h =>
      have h' := he event hevent (by tauto) (by tauto)
      rw [issueIf_eq_nil]
      tauto

theorem validateLocation_eq_nil :
    validateLocation scenario (caregiverDict scenario.caregivers) segment = [] ↔ LocationOk scenario segment := by
  simp only [validateLocation, List.append_eq_nil_iff, issueIf_eq_nil, not_not]
  by_cases h : segment.segmentType = .transport
  · simp only [h, dite_true, List.append_eq_nil_iff, issueIf_eq_nil, not_or, not_not, validateTransporter_eq_nil]
    constructor
    · rintro ⟨hk, ⟨⟨hd, hne⟩, htime⟩, ht⟩
      refine ⟨hk, fun hc => absurd h hc, fun _ => ⟨hd, hne, ?_, ht⟩⟩
      split at htime
      · exact absurd htime (List.cons_ne_nil _ _)
      next minutes hm => exact ⟨minutes, hm, not_lt.mp (issueIf_eq_nil.mp htime)⟩
    · intro hl
      obtain ⟨hd, hne, ⟨minutes, hm, hle⟩, ht⟩ := hl.trip h
      refine ⟨hl.known, ⟨⟨hd, hne⟩, ?_⟩, ht⟩
      rw [hm]
      exact issueIf_eq_nil.mpr (not_lt.mpr hle)
  · simp only [h, dite_false]
    constructor
    · rintro ⟨hk, hc⟩
      refine ⟨hk, fun _ caregiver hcg => ?_, fun ht => absurd ht h⟩
      rw [Knows] at hcg
      rw [hcg] at hc
      simpa using hc
    · intro hl
      refine ⟨hl.known, ?_⟩
      cases hcg : (caregiverDict scenario.caregivers).get? segment.assignedPersonId with
      | none => rfl
      | some caregiver => simpa using hl.care h caregiver hcg

theorem validateTransition_eq_nil : validateTransition previous current = [] ↔ TransitionOk previous current := by
  simp [validateTransition, TransitionOk]

theorem validateCalendarChange_eq_nil {change : CalendarEvent} :
    validateCalendarChange (eventDict scenario.parentEvents) change = [] ↔ ChangeOk scenario change := by
  simp only [validateCalendarChange, ChangeOk]
  cases (eventDict scenario.parentEvents).get? change.eventId with
  | none => simp
  | some original =>
    by_cases h : original.critical ∨ ¬ original.movable
    · simp only [h, if_true, Option.some.injEq, exists_eq_left']
      exact ⟨fun h' => absurd h' (List.cons_ne_nil _ _), fun h' => by tauto⟩
    · simp only [h, if_false, issueIf_eq_nil, not_not, Option.some.injEq, exists_eq_left']
      tauto

theorem validateParentEvent_eq_nil {changes : List CalendarEvent} {event : CalendarEvent} :
    validateParentEvent (eventDict changes) segment event = [] ↔ ParentEventOk changes segment event := by
  simp only [validateParentEvent, ParentEventOk]
  by_cases h : event.ownerId ≠ segment.assignedPersonId ∨ ¬ segment.window.Overlaps event.window
  · simp only [h, if_true, true_iff]
    intro ho hw
    exact absurd h (by tauto)
  · rw [if_neg h]
    by_cases hm : event.critical ∨ ¬ event.movable
    · rw [if_pos hm]
      exact ⟨fun h' => absurd h' (List.cons_ne_nil _ _), fun h' => by tauto⟩
    · rw [if_neg hm]
      cases (eventDict changes).get? event.eventId with
      | none => simp; tauto
      | some changed =>
        simp only [issueIf_eq_nil, Option.some.injEq, exists_eq_left']
        tauto

/-! ### Validity -/

theorem valid_iff : (validate plan scenario).valid ↔ validationIssues plan scenario = [] := by
  simp [validate]

private theorem coverage_eq_nil (segments : List RecoveryPlanSegment) :
    validateCoverageAndHandoffs segments scenario (caregiverDict scenario.caregivers) = [] ↔
      ∃ h : segments ≠ [], (segments.head h).window.start = scenario.requiredCoverage.start ∧
        (segments.getLast h).window.end_ = scenario.requiredCoverage.end_ ∧
        (∀ s ∈ segments, scenario.requiredCoverage.Contains s.window) ∧ segments.IsChain (HandoffOk scenario) := by
  cases segments with
  | nil => simp [validateCoverageAndHandoffs]
  | cons first rest =>
    have hinside : ∀ s : RecoveryPlanSegment,
        ¬ (s.window.start < scenario.requiredCoverage.start ∨ s.window.end_ > scenario.requiredCoverage.end_) ↔
          scenario.requiredCoverage.Contains s.window := fun s => by
      rw [Span.Contains, not_or, not_lt, gt_iff_lt, not_lt]
    simp only [validateCoverageAndHandoffs, List.append_eq_nil_iff, issueIf_eq_nil, List.flatMap_eq_nil_iff,
      validateHandoff_eq_nil, hinside, neighbours, forall_mem_zip_tail_iff_isChain, not_not, List.head_cons,
      ne_eq, reduceCtorEq, not_false_eq_true, exists_true_left, and_assoc]

/-- **A plan is valid exactly when it is accepted.** -/
theorem accepted_iff_valid : (validate plan scenario).valid ↔ Accepted plan scenario := by
  have hperm := sortedSegments_perm plan.coverageSegments
  simp only [valid_iff, validationIssues, List.append_eq_nil_iff, validateUniqueSegmentIds_eq_nil, coverage_eq_nil,
    validateAssignments, validateLocationsAndTransport, validateParentCalendars, List.flatMap_eq_nil_iff,
    validateAssignment_eq_nil, validateLocation_eq_nil, validateTransition_eq_nil, validateCalendarChange_eq_nil,
    neighbours, forall_mem_zip_tail_iff_isChain, mem_sortedSegments, (hperm.map _).nodup_iff]
  constructor
  · rintro ⟨⟨⟨⟨hu, hne, hs, he, hi, hh⟩, ha⟩, hl, ht⟩, hc, hp⟩
    refine ⟨hu, hne, hs, he, hi, hh, ha, hl, ht, hc, fun s hs hsource event hevent => ?_⟩
    have h := hp s hs
    rw [if_neg (by simp [hsource]), List.flatMap_eq_nil_iff] at h
    exact validateParentEvent_eq_nil.mp (h event hevent)
  · intro h
    refine ⟨⟨⟨⟨h.unique_ids, h.ne_nil, h.starts, h.ends, h.inside, h.handoffs⟩, h.assignments⟩, h.locations,
      h.transitions⟩, h.changes, fun s hs => ?_⟩
    split
    · rfl
    next hsource =>
      rw [List.flatMap_eq_nil_iff]
      exact fun event hevent => validateParentEvent_eq_nil.mpr (h.parent_events s hs (not_not.mp hsource) event hevent)

theorem accepted_of_valid (h : (validate plan scenario).valid = true) : Accepted plan scenario :=
  accepted_iff_valid.mp h

end DayMend.Validation
