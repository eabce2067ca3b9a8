import DayMend.Services.ExecutionActions
import DayMend.Validation.Coverage

/-!
# Everybody who takes part

A person takes part in a segment as its assigned person or as the driver of its
trip (`Participates`). The assigned person of a caregiver segment is checked
against availability, trust and policy, and reserved when the plan is carried out.
A driver is only checked for being able to drive and for having the time: trust,
unavailability and reservation are not looked at (`untrustedDriver_valid`).
`valid_participants_iff` says exactly which valid plans have nobody ineligible in
them.
-/

namespace DayMend.Validation

open DayMend.Base DayMend.Models DayMend.Fixtures DayMend.Services

variable {plan : RecoveryPlan} {scenario : DemoScenario} {segment : RecoveryPlanSegment} {id : String}

/-- `id` drives the child on `segment`. -/
def Drives (segment : RecoveryPlanSegment) (id : String) : Prop :=
  ∃ h : segment.segmentType = .transport, segment.transporter h = id

instance (segment : RecoveryPlanSegment) (id : String) : Decidable (Drives segment id) :=
  inferInstanceAs (Decidable (∃ h : segment.segmentType = .transport, segment.transporter h = id))

/-- `id` takes part in `segment`, in either role. -/
def Participates (segment : RecoveryPlanSegment) (id : String) : Prop :=
  segment.assignedPersonId = id ∨ Drives segment id

instance (segment : RecoveryPlanSegment) (id : String) : Decidable (Participates segment id) :=
  inferInstanceAs (Decidable (_ ∨ _))

/-- `id` has a caregiver's record, or at least is no parent. -/
def IsCaregiver (scenario : DemoScenario) (id : String) : Prop :=
  (∃ caregiver, Knows scenario id caregiver) ∨ id ∉ scenario.parentIds

/-- Every caregiver who takes part in a segment is known, may be given it, and is
reserved by one of the actions that carry the plan out. -/
def NobodyIneligible (plan : RecoveryPlan) (scenario : DemoScenario) : Prop :=
  ∀ s ∈ plan.coverageSegments, ∀ id, Participates s id → IsCaregiver scenario id →
    (∃ caregiver, Knows scenario id caregiver ∧ Eligible scenario caregiver s.window) ∧
      ∀ now, ∃ action ∈ requiredExecutionActions plan now,
        action.actionType = .reserveCaregiver ∧ action.targetId = id

/-- The validator takes `id` for a parent when it looks at `segment`: as the assigned
person of a parent segment, or as a driver with a parent's driving capability. -/
def TakenForParent (scenario : DemoScenario) (segment : RecoveryPlanSegment) (id : String) : Prop :=
  (segment.assignedPersonId = id ∧ segment.source = .parent) ∨
    (Drives segment id ∧ ∃ item, (parentTransport scenario.parentTransportCapabilities).get? id = some item)

/-- Caregivers who drive, or who stand in for a parent, also look after the child in
some caregiver segment, and have the time by their own record. -/
def DriversAlsoCare (plan : RecoveryPlan) (scenario : DemoScenario) : Prop :=
  ∀ s ∈ plan.coverageSegments, ∀ id, Participates s id → IsCaregiver scenario id →
    (∃ s' ∈ plan.coverageSegments, s'.source = .caregiver ∧ s'.assignedPersonId = id) ∧
      (TakenForParent scenario s id → ∀ caregiver, Knows scenario id caregiver →
        IsCovered s.window caregiver.availability)

/-- A driver with a caregiver's record and no parent's capability has the time by that record. -/
theorem TransporterOk.isCovered (h : TransporterOk scenario segment id)
    (hitem : (parentTransport scenario.parentTransportCapabilities).get? id = none) {caregiver : Caregiver}
    (hk : Knows scenario id caregiver) : IsCovered segment.window caregiver.availability := by
  have ha := h.available
  rw [Knows] at hk
  rw [hitem, hk] at ha
  exact ha

/-- A caregiver segment's assigned person is known and eligible. -/
theorem Accepted.eligible_of_assigned (h : Accepted plan scenario) (hs : segment ∈ plan.coverageSegments)
    (hsource : segment.source = .caregiver) :
    ∃ caregiver, Knows scenario segment.assignedPersonId caregiver ∧ Eligible scenario caregiver segment.window := by
  have ha := h.assignments segment hs
  rw [AssignmentOk, hsource] at ha
  exact ha

/-- Whoever takes part and is not taken for a parent is either the assigned person of a
caregiver segment or a driver checked against a caregiver's record. -/
theorem Accepted.isCovered_of_participates (h : Accepted plan scenario) (hs : segment ∈ plan.coverageSegments)
    (hp : Participates segment id) (hn : ¬ TakenForParent scenario segment id) {caregiver : Caregiver}
    (hk : Knows scenario id caregiver) : IsCovered segment.window caregiver.availability := by
  rw [TakenForParent, not_or] at hn
  rcases hp with rfl | hd
  · have hsource : segment.source = .caregiver := by
      cases hsource : segment.source with
      | parent => exact absurd ⟨rfl, hsource⟩ hn.1
      | caregiver => rfl
    obtain ⟨c, hc, he⟩ := h.eligible_of_assigned hs hsource
    rw [Knows] at hc hk
    rw [hk] at hc
    obtain rfl := Option.some.inj hc
    exact he.available
  · have hitem : (parentTransport scenario.parentTransportCapabilities).get? id = none := by
      rw [Option.eq_none_iff_forall_not_mem]
      exact fun item hitem => hn.2 ⟨hd, item, hitem⟩
    obtain ⟨ht, rfl⟩ := hd
    exact ((h.locations segment hs).trip ht).transporter.isCovered hitem hk

/-- **When nobody ineligible takes part in a valid plan**: exactly when every caregiver who
takes part in any role is also the assigned person of a caregiver segment of the plan,
and has the time by the caregiver's record where the validator took the caregiver for
a parent. -/
theorem valid_participants_iff (h : (validate plan scenario).valid = true) :
    NobodyIneligible plan scenario ↔ DriversAlsoCare plan scenario := by
  have hacc := accepted_of_valid h
  constructor
  · intro hp s hs id hid hcare
    obtain ⟨⟨caregiver, hk, he⟩, hreserved⟩ := hp s hs id hid hcare
    refine ⟨exists_reserveCaregiver_iff.mp (hreserved 0), fun _ c hc => ?_⟩
    rw [Knows] at hk hc
    rw [hk] at hc
    obtain rfl := Option.some.inj hc
    exact he.available
  · intro hp s hs id hid hcare
    obtain ⟨⟨s', hs', hsource, rfl⟩, htime⟩ := hp s hs id hid hcare
    -- trust and policy are checked on the segment to which the caregiver is assigned
    obtain ⟨caregiver, hk, he⟩ := hacc.eligible_of_assigned hs' hsource
    refine ⟨⟨caregiver, hk, he.not_unavailable, he.external_allowed, he.trusted, ?_⟩,
      fun now => exists_reserveCaregiver_iff.mpr ⟨s', hs', hsource, rfl⟩⟩
    by_cases hn : TakenForParent scenario s s'.assignedPersonId
    · exact htime hn caregiver hk
    · exact hacc.isCovered_of_participates hs hid hn hk

theorem valid_participants_iff_sharedPlan :
    NobodyIneligible sharedPlan sharedDay ↔ DriversAlsoCare sharedPlan sharedDay :=
  valid_participants_iff (by decide +kernel)

/-- The child goes to the grandmother's, fifteen minutes away; a neighbour whom the family does
not trust could drive. -/
def driveDay : DemoScenario :=
  day (minutes 0 60)
    [{ sitter "grandma" [minutes 15 60] with locationId := "grandma_home", travelMinutesFromFamilyHome := 15 },
      { sitter "neighbour" [minutes 0 60] with isTrusted := false, canTransportChild := true }]

/-- A plan for `driveDay`: the neighbour drives. -/
def drivePlan : RecoveryPlan :=
  { planId := "drive"
    coverageSegments :=
      [{ segmentId := "trip", window := minutes 0 15, assignedPersonId := "parent_a", source := .parent
         segmentType := .transport, destinationLocationId := some "grandma_home"
         transporterId := some "neighbour" },
        { care "stay" "grandma" .caregiver (minutes 15 60) with
          locationId := "grandma_home"
          transport_has_destination_and_driver := by simp [care] }] }

/-- The validator accepts a driver whom the family's policy does not admit. -/
theorem untrustedDriver_valid :
    (validate drivePlan driveDay).valid = true ∧ ¬ NobodyIneligible drivePlan driveDay := by
  have hvalid : (validate drivePlan driveDay).valid = true := by decide +kernel
  refine ⟨hvalid, fun hp => ?_⟩
  have hs : drivePlan.coverageSegments.head (by decide) ∈ drivePlan.coverageSegments := List.head_mem _
  obtain ⟨⟨caregiver, hk, he⟩, -⟩ := hp _ hs "neighbour" (by decide +kernel) (Or.inr (by decide +kernel))
  have hc : Knows driveDay "neighbour" driveDay.caregivers[1] := by unfold Knows; decide +kernel
  rw [Knows] at hk hc
  rw [hk] at hc
  obtain rfl := Option.some.inj hc
  exact absurd (he.trusted (by decide +kernel)) (by decide +kernel)

end DayMend.Validation
