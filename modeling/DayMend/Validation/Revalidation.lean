import DayMend.Agent.RuntimeGateway
import DayMend.Validation.Noninterference
import DayMend.Validation.Spec

/-!
# Validating a plan again

What the validator returns is the plan it was given with its segments sorted and
priced. The passes look at no price and sort the segments first, so on the same facts
it says the same again, and finds the same reasons for approval
(`validate_validated`). Of the facts it looks at the caregivers through their table
only, so two lists of caregivers with the same table are as good as each other
(`validate_congr`).
-/

namespace DayMend.Validation

open DayMend.Base DayMend.Models DayMend.Fixtures DayMend.Services DayMend.Agent

variable {plan : RecoveryPlan} {scenario facts : DemoScenario}

/-! ### Prices -/

/-- A segment without its price. -/
def unpriced (segment : RecoveryPlanSegment) : RecoveryPlanSegment := { segment with estimatedCost := 0 }

/-- Prices play no part in the order of the segments. -/
theorem sortedSegments_map_unpriced (segments : List RecoveryPlanSegment) :
    sortedSegments (segments.map unpriced) = (sortedSegments segments).map unpriced := by
  symm
  exact List.map_insertionSort _ _ unpriced segments fun _ _ _ _ => Iff.rfl

theorem sortedSegments_sortedSegments (segments : List RecoveryPlanSegment) :
    sortedSegments (sortedSegments segments) = sortedSegments segments :=
  (pairwise_sortedSegments segments).insertionSort_eq

section Prices

variable (segments : List RecoveryPlanSegment) (caregivers : Dict String Caregiver)

/-- The prices that segments came with are not looked at. -/
theorem priceSegments_unpriced : ∀ charged : List String,
    priceSegments caregivers charged (segments.map unpriced) = priceSegments caregivers charged segments := by
  induction segments with
  | nil => exact fun _ => rfl
  | cons segment rest ih =>
    intro charged
    exact congrArg ({ segment with estimatedCost := .quantize (segmentCost caregivers charged segment).1 } :: ·)
      (ih (segmentCost caregivers charged segment).2)

/-- Pricing changes nothing but prices. -/
theorem priceSegments_map_unpriced : ∀ charged : List String,
    (priceSegments caregivers charged segments).map unpriced = segments.map unpriced := by
  induction segments with
  | nil => exact fun _ => rfl
  | cons segment rest ih =>
    intro charged
    exact congrArg (unpriced segment :: ·) (ih (segmentCost caregivers charged segment).2)

end Prices

/-! ### Two plans with the same sorted segments -/

/-- Two plans have the same calendar changes, and the same segments up to order and price. -/
def SameSegments (p q : RecoveryPlan) : Prop :=
  p.calendarChanges = q.calendarChanges ∧
    (sortedSegments p.coverageSegments).map unpriced = (sortedSegments q.coverageSegments).map unpriced

/-- The validator finds the same issues in such plans, and the same prices. -/
theorem SameSegments.validate_eq {p q : RecoveryPlan} (h : SameSegments p q) (scenario : DemoScenario) :
    validationIssues p scenario = validationIssues q scenario ∧
      recomputeCosts (sortedSegments p.coverageSegments) (caregiverDict scenario.caregivers) =
        recomputeCosts (sortedSegments q.coverageSegments) (caregiverDict scenario.caregivers) := by
  obtain ⟨hchanges, hsegments⟩ := h
  constructor
  · apply validationIssues_congr scenario _ hchanges
    have hstripped : ∀ segments : List RecoveryPlanSegment,
        segments.map stripped = (segments.map unpriced).map stripped := by
      intro segments
      rw [List.map_map]
      rfl
    rw [hstripped, hsegments, ← hstripped]
  · simp only [recomputeCosts]
    rw [← priceSegments_unpriced, hsegments, priceSegments_unpriced]

/-- The validated plan has the same segments as the plan. -/
theorem sameSegments_validatedPlan (plan : RecoveryPlan) (scenario : DemoScenario) :
    SameSegments (validate plan scenario).validatedPlan plan := by
  refine ⟨rfl, ?_⟩
  have hpriced : (validate plan scenario).validatedPlan.coverageSegments.map unpriced =
      (sortedSegments plan.coverageSegments).map unpriced := priceSegments_map_unpriced ..
  rw [← sortedSegments_map_unpriced, hpriced, sortedSegments_map_unpriced, sortedSegments_sortedSegments]

/-- What a valid proposal's result has from the validator proper. -/
theorem validateProposal_of_valid {proposal : RecoveryPlan} {preservedSegments : List RecoveryPlanSegment}
    (h : (validateProposal proposal scenario preservedSegments).valid = true) :
    validateProposal proposal scenario preservedSegments = validate proposal scenario := by
  unfold validateProposal at h ⊢
  split
  · rfl
  next hne =>
    rw [if_neg hne] at h
    simp only [validateRepair] at h ⊢
    split
    · rfl
    next hissues =>
      rw [if_neg hissues] at h
      cases h

/-- **A valid plan is valid again**, and needs approval again exactly when there was a reason for it. -/
theorem validate_validated {proposal : RecoveryPlan} {preservedSegments : List RecoveryPlanSegment}
    (h : (validateProposal proposal scenario preservedSegments).valid = true)
    (hplan : SameSegments plan (validateProposal proposal scenario preservedSegments).validatedPlan)
    (hreasons : plan.approvalReasons =
      (validateProposal proposal scenario preservedSegments).validatedPlan.approvalReasons) :
    (validate plan scenario).valid = true ∧
      (validate plan scenario).requiresApproval = !plan.approvalReasons.isEmpty := by
  have hmarks := (validateProposal_marks proposal scenario preservedSegments).1
  have hproposal := validateProposal_of_valid h
  rw [hproposal] at h hplan hreasons hmarks
  obtain ⟨hissues, hcosts⟩ := hplan.validate_eq scenario
  obtain ⟨hissues', hcosts'⟩ := (sameSegments_validatedPlan proposal scenario).validate_eq scenario
  have hsame : validationIssues plan scenario = validationIssues proposal scenario := hissues.trans hissues'
  refine ⟨?_, ?_⟩
  · rw [valid_iff] at h ⊢
    exact hsame.trans h
  · rw [hreasons, ← hmarks]
    simp only [validate, hcosts.trans hcosts']

/-! ### Two lists of caregivers with the same table -/

/-- The facts differ in nothing but the list of caregivers, and their table is the same. -/
def SameFacts (facts scenario : DemoScenario) : Prop :=
  ∃ caregivers, scenario = { facts with caregivers } ∧ caregiverDict caregivers = caregiverDict facts.caregivers

theorem SameFacts.refl (facts : DemoScenario) : SameFacts facts facts := ⟨facts.caregivers, rfl, rfl⟩

/-- The validator looks at the caregivers through their table only. -/
theorem validate_congr (h : SameFacts facts scenario) (plan : RecoveryPlan) :
    validate plan scenario = validate plan facts := by
  obtain ⟨caregivers, rfl, hdict⟩ := h
  simp only [validate, validationIssues, hdict]
  rfl

end DayMend.Validation
