import DayMend.Validation.Eligibility

/-!
# Double booking

Handoff buffers make neighbouring segments of different people overlap, and the
validator asks no more than that neighbours of the same person do not. So it does
not see a person assigned to two overlapping segments with a third one between
them, nor a driver busy elsewhere (`bookedTwice_valid`).
`valid_bookings_iff` says exactly which valid plans book nobody twice.
-/

namespace DayMend.Validation

open DayMend.Base DayMend.Models DayMend.Fixtures DayMend.Services

variable {plan : RecoveryPlan} {scenario : DemoScenario} {s t : RecoveryPlanSegment} {id : String}

/-- Nobody takes part in two distinct segments that overlap. -/
def NobodyBookedTwice (plan : RecoveryPlan) : Prop :=
  ∀ s ∈ plan.coverageSegments, ∀ t ∈ plan.coverageSegments, s ≠ t → s.window.Overlaps t.window →
    ∀ id, Participates s id → ¬ Participates t id

/-- Two segments next to each other in the order of time. -/
def AreNeighbours (plan : RecoveryPlan) (s t : RecoveryPlanSegment) : Prop :=
  (s, t) ∈ neighbours (sortedSegments plan.coverageSegments) ∨
    (t, s) ∈ neighbours (sortedSegments plan.coverageSegments)

/-- Overlapping segments that are not neighbours have different assigned persons. -/
def DistantAssigneesDiffer (plan : RecoveryPlan) : Prop :=
  ∀ s ∈ plan.coverageSegments, ∀ t ∈ plan.coverageSegments, s ≠ t → s.window.Overlaps t.window →
    ¬ AreNeighbours plan s t → s.assignedPersonId ≠ t.assignedPersonId

/-- Who drives on a trip takes no part in another segment that overlaps it. -/
def DriversOnlyDrive (plan : RecoveryPlan) : Prop :=
  ∀ s ∈ plan.coverageSegments, ∀ t ∈ plan.coverageSegments, s ≠ t → s.window.Overlaps t.window →
    ∀ id, Drives s id → ¬ Participates t id

/-- Of two neighbours with the same assigned person, the later begins when the earlier ends. -/
theorem Accepted.not_overlaps_of_mem_neighbours (h : Accepted plan scenario)
    (hn : (s, t) ∈ neighbours (sortedSegments plan.coverageSegments))
    (hp : s.assignedPersonId = t.assignedPersonId) : ¬ s.window.Overlaps t.window := by
  have hand : HandoffOk scenario s t := forall_mem_zip_tail_iff_isChain.mpr h.handoffs (s, t) hn
  have := hand.same_person hp
  rintro ⟨-, hlt⟩
  omega

/-- Overlapping neighbours have different assigned persons. -/
theorem Accepted.ne_of_areNeighbours (h : Accepted plan scenario) (hn : AreNeighbours plan s t)
    (ho : s.window.Overlaps t.window) : s.assignedPersonId ≠ t.assignedPersonId := by
  intro hp
  rcases hn with hn | hn
  · exact h.not_overlaps_of_mem_neighbours hn hp ho
  · exact h.not_overlaps_of_mem_neighbours hn hp.symm (Span.overlaps_comm.mp ho)

/-- **When a valid plan books nobody twice**: exactly when overlapping segments that are not
neighbours in time have different assigned persons, and no driver takes part in a
segment that overlaps the trip. -/
theorem valid_bookings_iff (h : (validate plan scenario).valid = true) :
    NobodyBookedTwice plan ↔ DistantAssigneesDiffer plan ∧ DriversOnlyDrive plan := by
  have hacc := accepted_of_valid h
  constructor
  · intro hb
    refine ⟨fun s hs t ht hne ho _ hp => ?_, fun s hs t ht hne ho id hd => ?_⟩
    · exact hb s hs t ht hne ho _ (Or.inl rfl) (Or.inl hp.symm)
    · exact hb s hs t ht hne ho id (Or.inr hd)
  · rintro ⟨hdistant, hdrive⟩ s hs t ht hne ho id hps hpt
    rcases hps with rfl | hds
    · rcases hpt with hpt | hdt
      · by_cases hn : AreNeighbours plan s t
        · exact hacc.ne_of_areNeighbours hn ho hpt.symm
        · exact hdistant s hs t ht hne ho hn hpt.symm
      · exact hdrive t ht s hs hne.symm (Span.overlaps_comm.mp ho) _ hdt (Or.inl rfl)
    · exact hdrive s hs t ht hne ho id hds hpt

theorem valid_bookings_iff_sharedPlan :
    NobodyBookedTwice sharedPlan ↔ DistantAssigneesDiffer sharedPlan ∧ DriversOnlyDrive sharedPlan :=
  valid_bookings_iff (show (validate sharedPlan sharedDay).valid = true by decide +kernel)

/-- A day whose family wants half an hour of overlap at every handoff. -/
def handoffDay : DemoScenario :=
  { day (minutes 0 100) [] with policy := { minimumHandoffMinutes := 30 } }

/-- A plan for it with a short stretch between two of the same parent's. -/
def handoffPlan : RecoveryPlan :=
  { planId := "handoff"
    coverageSegments :=
      [care "first" "parent_a" .parent (minutes 0 60), care "second" "parent_b" .parent (minutes 30 70),
        care "third" "parent_a" .parent (minutes 40 100)] }

/-- The validator accepts a plan in which one parent has two stretches of care at once. -/
theorem bookedTwice_valid :
    (validate handoffPlan handoffDay).valid = true ∧ ¬ NobodyBookedTwice handoffPlan := by
  refine ⟨by decide +kernel, fun hb => ?_⟩
  exact hb (care "first" "parent_a" .parent (minutes 0 60)) (by decide)
    (care "third" "parent_a" .parent (minutes 40 100)) (by decide) (by decide) (by decide) "parent_a" (Or.inl rfl)
    (Or.inl rfl)

end DayMend.Validation
