import DayMend.Validation.Spec

/-!
# Coverage and assigned persons

The validator compares only neighbours of the sorted segments. That is enough for
coverage: neighbours leave no gap (`isChain_noGap`), so by the covering lemma for
spans no instant of the required window is left out (`Accepted.covers`). The
assigned person of a segment is a free parent or an eligible caregiver
(`Accepted.assigned`).
-/

namespace DayMend.Validation

open DayMend.Base DayMend.Models DayMend.Fixtures DayMend.Services

variable {plan : RecoveryPlan} {scenario : DemoScenario} {segment : RecoveryPlanSegment}

/-- `id` is a parent of whom no fixed event overlaps `window`. -/
def FreeParent (scenario : DemoScenario) (id : String) (window : CoverageWindow) : Prop :=
  id ∈ scenario.parentIds ∧
    ∀ event ∈ scenario.parentEvents, event.ownerId = id → event.critical ∨ ¬ event.movable →
      ¬ window.Overlaps event.window

/-- `id` is a caregiver of the family's who may be given `window`. -/
def EligibleCaregiver (scenario : DemoScenario) (id : String) (window : CoverageWindow) : Prop :=
  ∃ caregiver ∈ scenario.caregivers, caregiver.caregiverId = id ∧ Eligible scenario caregiver window

/-- Neighbours in time leave no gap. -/
theorem Accepted.isChain_noGap (h : Accepted plan scenario) :
    ((sortedSegments plan.coverageSegments).map (·.window)).IsChain Span.NoGap := by
  rw [List.isChain_map]
  exact h.handoffs.imp fun _ _ hand => hand.no_gap

/-- No instant of the required window is left out. -/
theorem Accepted.covers (h : Accepted plan scenario) {t : ℤ} (ht : t ∈ scenario.requiredCoverage) :
    ∃ s ∈ plan.coverageSegments, t ∈ s.window := by
  have hne : (sortedSegments plan.coverageSegments).map (·.window) ≠ [] := by
    simpa using h.ne_nil
  obtain ⟨w, hw, htw⟩ := Span.exists_mem_of_isChain h.isChain_noGap hne (t := t)
    (by rw [List.head_map, h.starts]; exact ht.1) (by rw [List.getLast_map, h.ends]; exact ht.2)
  obtain ⟨s, hs, rfl⟩ := List.mem_map.mp hw
  exact ⟨s, mem_sortedSegments.mp hs, htw⟩

/-- The assigned person is a free parent or an eligible caregiver. -/
theorem Accepted.assigned (h : Accepted plan scenario) (hs : segment ∈ plan.coverageSegments) :
    FreeParent scenario segment.assignedPersonId segment.window ∨
      EligibleCaregiver scenario segment.assignedPersonId segment.window := by
  have ha := h.assignments segment hs
  rw [AssignmentOk] at ha
  cases hsource : segment.source with
  | parent =>
    rw [hsource] at ha
    refine Or.inl ⟨ha, fun event hevent howner hfixed hw => ?_⟩
    obtain ⟨hc, hm, -⟩ := h.parent_events segment hs hsource event hevent howner hw
    rcases hfixed with hfixed | hfixed
    · exact hc hfixed
    · exact hfixed hm
  | caregiver =>
    rw [hsource] at ha
    obtain ⟨caregiver, hk, he⟩ := ha
    obtain ⟨hmem, hid⟩ := caregiverId_of_get? hk
    exact Or.inr ⟨caregiver, hmem, hid, he⟩

/-- **A valid plan covers the required window with people who may be there**: its
segments lie in the window and leave no instant of it out, and each is assigned to
a parent without fixed events of their own during it, or to a known caregiver who
is available for all of it and whom the family's policy admits. -/
theorem valid_covers_and_assigns (h : (validate plan scenario).valid = true) :
    (∀ s ∈ plan.coverageSegments, scenario.requiredCoverage.Contains s.window) ∧
      (∀ t ∈ scenario.requiredCoverage, ∃ s ∈ plan.coverageSegments, t ∈ s.window) ∧
      ∀ s ∈ plan.coverageSegments,
        FreeParent scenario s.assignedPersonId s.window ∨
          EligibleCaregiver scenario s.assignedPersonId s.window := by
  have hacc := accepted_of_valid h
  exact ⟨hacc.inside, fun t ht => hacc.covers ht, fun s hs => hacc.assigned hs⟩

/-- A parent until the sitter comes, and the sitter until the end. -/
def sharedDay : DemoScenario := day (minutes 0 120) [sitter "grandma" [minutes 30 150]]

/-- The plan for `sharedDay`. -/
def sharedPlan : RecoveryPlan :=
  { planId := "shared"
    coverageSegments :=
      [care "later" "grandma" .caregiver (minutes 60 120), care "first" "parent_a" .parent (minutes 0 60)] }

theorem valid_covers_and_assigns_sharedPlan :
    (∀ s ∈ sharedPlan.coverageSegments, sharedDay.requiredCoverage.Contains s.window) ∧
      (∀ t ∈ sharedDay.requiredCoverage, ∃ s ∈ sharedPlan.coverageSegments, t ∈ s.window) ∧
      ∀ s ∈ sharedPlan.coverageSegments,
        FreeParent sharedDay s.assignedPersonId s.window ∨
          EligibleCaregiver sharedDay s.assignedPersonId s.window :=
  valid_covers_and_assigns (by decide +kernel)

end DayMend.Validation
