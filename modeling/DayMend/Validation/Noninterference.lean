import DayMend.Services.PlanValidator

/-!
# What the validator does not look at

A proposal says more than what is to be done: it has a name, prices, assumptions, a
verdict of its own and the labels of its locations. Every pass gives the same answer on
segments that have been stripped of these (`stripped`), so two plans for the same work
get the same verdict (`validate_sameVerdict`, `validateRepair_sameVerdict`).
-/

namespace DayMend.Validation

open DayMend.Base DayMend.Models DayMend.Fixtures DayMend.Services

variable {segments segments' : List RecoveryPlanSegment}

/-! ### The same work -/

/-- Two segments agree on everything but their labels and prices. -/
structure SameWork (s t : RecoveryPlanSegment) : Prop where
  segmentId : s.segmentId = t.segmentId
  window : s.window = t.window
  assignedPersonId : s.assignedPersonId = t.assignedPersonId
  source : s.source = t.source
  segmentType : s.segmentType = t.segmentType
  locationId : s.locationId = t.locationId
  destinationLocationId : s.destinationLocationId = t.destinationLocationId
  transporterId : s.transporterId = t.transporterId

/-- Two plans have the same segments one by one, up to labels and prices, and the same calendar changes. -/
structure SameProposal (p q : RecoveryPlan) : Prop where
  segments : List.Forall₂ SameWork p.coverageSegments q.coverageSegments
  calendarChanges : p.calendarChanges = q.calendarChanges

/-- A segment without its labels and its price. -/
def stripped (segment : RecoveryPlanSegment) : RecoveryPlanSegment :=
  { segment with locationLabel := "", destinationLocationLabel := none, estimatedCost := 0 }

theorem stripped_eq_iff {s t : RecoveryPlanSegment} : stripped s = stripped t ↔ SameWork s t := by
  cases s
  cases t
  simp only [stripped, RecoveryPlanSegment.mk.injEq, true_and, and_true]
  constructor
  · rintro ⟨h₁, h₂, h₃, h₄, h₅, h₆, h₇, h₈⟩
    exact ⟨h₁, h₂, h₃, h₄, h₅, h₆, h₇, h₈⟩
  · rintro ⟨h₁, h₂, h₃, h₄, h₅, h₆, h₇, h₈⟩
    exact ⟨h₁, h₂, h₃, h₄, h₅, h₆, h₇, h₈⟩

theorem map_stripped_eq_iff :
    segments.map stripped = segments'.map stripped ↔ List.Forall₂ SameWork segments segments' := by
  rw [← List.forall₂_eq_eq_eq, List.forall₂_map_left_iff, List.forall₂_map_right_iff]
  simp only [stripped_eq_iff]

/-! ### Each pass gives the same answer on stripped segments -/

theorem neighbours_map (f : RecoveryPlanSegment → RecoveryPlanSegment) (segments : List RecoveryPlanSegment) :
    neighbours (segments.map f) = (neighbours segments).map (Prod.map f f) := by
  rw [neighbours, neighbours, ← List.map_tail, List.zip_map]

/-- Labels and prices play no part in the order of the segments. -/
theorem sortedSegments_map_stripped (segments : List RecoveryPlanSegment) :
    sortedSegments (segments.map stripped) = (sortedSegments segments).map stripped := by
  symm
  exact List.map_insertionSort _ _ stripped segments fun _ _ _ _ => Iff.rfl

section Passes

variable (segments : List RecoveryPlanSegment) (scenario : DemoScenario) (caregivers : Dict String Caregiver)

theorem validateUniqueSegmentIds_stripped :
    validateUniqueSegmentIds (segments.map stripped) = validateUniqueSegmentIds segments := by
  simp only [validateUniqueSegmentIds, List.map_map]
  rfl

theorem validateCoverageAndHandoffs_stripped :
    validateCoverageAndHandoffs (segments.map stripped) scenario caregivers =
      validateCoverageAndHandoffs segments scenario caregivers := by
  cases segments with
  | nil => rfl
  | cons first rest =>
    have hlast : ((first :: rest).map stripped).getLast (by simp) =
        stripped ((first :: rest).getLast (List.cons_ne_nil _ _)) := List.getLast_map ..
    have hneighbours := neighbours_map stripped (first :: rest)
    simp only [List.map_cons] at hlast hneighbours
    simp only [validateCoverageAndHandoffs, List.map_cons, hlast, hneighbours, List.flatMap_map]
    rw [← List.map_cons, List.flatMap_map]
    rfl

theorem validateAssignments_stripped :
    validateAssignments (segments.map stripped) scenario caregivers =
      validateAssignments segments scenario caregivers := by
  rw [validateAssignments, List.flatMap_map]
  rfl

theorem validateLocationsAndTransport_stripped :
    validateLocationsAndTransport (segments.map stripped) scenario caregivers =
      validateLocationsAndTransport segments scenario caregivers := by
  rw [validateLocationsAndTransport, List.flatMap_map, neighbours_map, List.flatMap_map]
  rfl

theorem validateParentCalendars_stripped (changes : List CalendarEvent) :
    validateParentCalendars (segments.map stripped) changes scenario =
      validateParentCalendars segments changes scenario := by
  rw [validateParentCalendars, List.flatMap_map]
  rfl

/-- The labels and prices that segments came with have no part in the recomputed prices. -/
theorem priceSegments_stripped : ∀ charged : List String,
    (priceSegments caregivers charged (segments.map stripped)).map (fun s => (stripped s, s.estimatedCost)) =
      (priceSegments caregivers charged segments).map fun s => (stripped s, s.estimatedCost) := by
  induction segments with
  | nil => exact fun _ => rfl
  | cons segment rest ih =>
    intro charged
    exact congrArg ((stripped segment, .quantize (segmentCost caregivers charged segment).1) :: ·)
      (ih (segmentCost caregivers charged segment).2)

theorem usesUnfamiliarPaidCaregiver_stripped :
    usesUnfamiliarPaidCaregiver (segments.map stripped) caregivers =
      usesUnfamiliarPaidCaregiver segments caregivers := by
  rw [usesUnfamiliarPaidCaregiver, List.any_map]
  rfl

end Passes

/-- The validator finds the same issues in segments that agree once sorted and stripped. -/
theorem validationIssues_congr {p q : RecoveryPlan} (scenario : DemoScenario)
    (hsegments : (sortedSegments p.coverageSegments).map stripped = (sortedSegments q.coverageSegments).map stripped)
    (hchanges : p.calendarChanges = q.calendarChanges) : validationIssues p scenario = validationIssues q scenario := by
  simp only [validationIssues]
  rw [← validateUniqueSegmentIds_stripped, ← validateCoverageAndHandoffs_stripped, ← validateAssignments_stripped,
    ← validateLocationsAndTransport_stripped, ← validateParentCalendars_stripped, hsegments, hchanges,
    validateUniqueSegmentIds_stripped, validateCoverageAndHandoffs_stripped, validateAssignments_stripped,
    validateLocationsAndTransport_stripped, validateParentCalendars_stripped]

/-! ### The same verdict -/

/-- Two results say the same of the plans they are about: whether they are valid, what is wrong with them, what each
of their segments costs and what all cost together, and why they need approval. -/
structure SameVerdict (r r' : PlanValidationResult) : Prop where
  valid : r.valid = r'.valid
  issues : r.issues = r'.issues
  errors : r.errors = r'.errors
  segmentCosts : r.validatedPlan.coverageSegments.map (fun s => (s.segmentId, s.estimatedCost)) =
    r'.validatedPlan.coverageSegments.map fun s => (s.segmentId, s.estimatedCost)
  deterministicTotalCost : r.deterministicTotalCost = r'.deterministicTotalCost
  estimatedCost : r.validatedPlan.estimatedCost = r'.validatedPlan.estimatedCost
  requiresApproval : r.requiresApproval = r'.requiresApproval
  approvalReasons : r.validatedPlan.approvalReasons = r'.validatedPlan.approvalReasons
  validationState : r.validatedPlan.validationState = r'.validatedPlan.validationState
  validationErrors : r.validatedPlan.validationErrors = r'.validatedPlan.validationErrors

variable {p q : RecoveryPlan}

theorem SameProposal.map_stripped (h : SameProposal p q) :
    (sortedSegments p.coverageSegments).map stripped = (sortedSegments q.coverageSegments).map stripped := by
  rw [← sortedSegments_map_stripped, ← sortedSegments_map_stripped, map_stripped_eq_iff.mpr h.segments]

section Costs

variable (scenario : DemoScenario) (caregivers : Dict String Caregiver)

/-- The recomputed segments of two plans for the same work agree up to labels. -/
theorem SameProposal.recomputed (h : SameProposal p q) {β : Type} (f : RecoveryPlanSegment × Decimal → β) :
    (recomputeCosts (sortedSegments p.coverageSegments) caregivers).1.map (fun s => f (stripped s, s.estimatedCost)) =
      (recomputeCosts (sortedSegments q.coverageSegments) caregivers).1.map fun s =>
        f (stripped s, s.estimatedCost) := by
  have hpriced : (priceSegments caregivers [] (sortedSegments p.coverageSegments)).map
        (fun s => (stripped s, s.estimatedCost)) =
      (priceSegments caregivers [] (sortedSegments q.coverageSegments)).map fun s => (stripped s, s.estimatedCost) := by
    rw [← priceSegments_stripped, h.map_stripped, priceSegments_stripped]
  simpa only [recomputeCosts, List.map_map, Function.comp_def] using congrArg (List.map f) hpriced

theorem SameProposal.totalCost_eq (h : SameProposal p q) :
    (recomputeCosts (sortedSegments p.coverageSegments) caregivers).2 =
      (recomputeCosts (sortedSegments q.coverageSegments) caregivers).2 := by
  have hcosts := h.recomputed caregivers fun s => s.2.toRat
  simp only [recomputeCosts] at hcosts ⊢
  rw [hcosts]

/-- There are the same reasons for approval. -/
theorem SameProposal.approvalFindings_eq (h : SameProposal p q) :
    approvalFindings (recomputeCosts (sortedSegments p.coverageSegments) caregivers).1
        (recomputeCosts (sortedSegments p.coverageSegments) caregivers).2 scenario caregivers =
      approvalFindings (recomputeCosts (sortedSegments q.coverageSegments) caregivers).1
        (recomputeCosts (sortedSegments q.coverageSegments) caregivers).2 scenario caregivers := by
  have huses : usesUnfamiliarPaidCaregiver (recomputeCosts (sortedSegments p.coverageSegments) caregivers).1
      caregivers =
        usesUnfamiliarPaidCaregiver (recomputeCosts (sortedSegments q.coverageSegments) caregivers).1 caregivers := by
    rw [← usesUnfamiliarPaidCaregiver_stripped, h.recomputed caregivers Prod.fst, usesUnfamiliarPaidCaregiver_stripped]
  simp only [approvalFindings, h.totalCost_eq caregivers, huses]

end Costs

/-- **The model cannot talk its way past the validator.** -/
theorem validate_sameVerdict (h : SameProposal p q) (scenario : DemoScenario) :
    SameVerdict (validate p scenario) (validate q scenario) := by
  have hissues : validationIssues p scenario = validationIssues q scenario :=
    validationIssues_congr scenario h.map_stripped h.calendarChanges
  have htotal := h.totalCost_eq (caregiverDict scenario.caregivers)
  have hfindings := h.approvalFindings_eq scenario (caregiverDict scenario.caregivers)
  exact {
    valid := by simp only [validate, hissues]
    issues := hissues
    errors := by simp only [validate, hissues]
    segmentCosts := h.recomputed (caregiverDict scenario.caregivers) fun s => (s.1.segmentId, s.2)
    deterministicTotalCost := htotal
    estimatedCost := htotal
    requiresApproval := by simp only [validate, hfindings]
    approvalReasons := by simp only [validate, hfindings]
    validationState := by simp only [validate, hissues]
    validationErrors := by simp only [validate, hissues] }

/-- Whether a segment counts as preserved work does not depend on its labels and its price. -/
theorem SameWork.preservedWorkSurvives_iff {s t : RecoveryPlanSegment} (h : SameWork s t)
    (preserved : RecoveryPlanSegment) : PreservedWorkSurvives preserved s ↔ PreservedWorkSurvives preserved t := by
  simp only [PreservedWorkSurvives, h.window, h.assignedPersonId, h.source, h.segmentType, h.locationId,
    h.destinationLocationId, h.transporterId]

theorem exists_preservedWorkSurvives_iff (h : List.Forall₂ SameWork segments segments')
    (preserved : RecoveryPlanSegment) :
    (∃ s ∈ segments, PreservedWorkSurvives preserved s) ↔ ∃ t ∈ segments', PreservedWorkSurvives preserved t := by
  induction h with
  | nil => rfl
  | cons hhead _ ih => simp only [List.exists_mem_cons_iff, hhead.preservedWorkSurvives_iff, ih]

theorem SameProposal.preservationIssues_eq (h : SameProposal p q) (preservedSegments : List RecoveryPlanSegment) :
    preservationIssues p preservedSegments = preservationIssues q preservedSegments := by
  simp only [preservationIssues, issueIf, exists_preservedWorkSurvives_iff h.segments]

/-- **The same verdict on two plans for the same work**, with and without preserved work. -/
theorem validateRepair_sameVerdict (h : SameProposal p q) (scenario : DemoScenario)
    (preservedSegments : List RecoveryPlanSegment) :
    SameVerdict (validate p scenario) (validate q scenario) ∧
      SameVerdict (validateRepair p scenario preservedSegments) (validateRepair q scenario preservedSegments) := by
  have hvalidate := validate_sameVerdict h scenario
  have hissues := h.preservationIssues_eq preservedSegments
  refine ⟨hvalidate, ?_⟩
  unfold validateRepair
  rw [hissues]
  by_cases hnone : preservationIssues q preservedSegments = []
  · simpa only [hnone, if_true] using hvalidate
  · simp only [hnone, if_false]
    exact { hvalidate with
      valid := rfl
      issues := congrArg (· ++ preservationIssues q preservedSegments) hvalidate.issues
      errors := by simp only [hvalidate.issues]
      validationState := rfl
      validationErrors := by simp only [hvalidate.issues] }

/-- A plan for an hour of care. -/
def plainProposal : RecoveryPlan :=
  { planId := "plain", coverageSegments := [care "hour" "kim" .caregiver (minutes 0 60)] }

/-- The same hour at a price of its own, by a plan that calls itself valid. -/
def boastfulProposal : RecoveryPlan :=
  { planId := "approved"
    coverageSegments := [{ care "hour" "kim" .caregiver (minutes 0 60) with
      locationLabel := "Home, no approval needed", estimatedCost := ⟨1, 2⟩ }]
    estimatedCost := ⟨1, 2⟩
    validationState := .valid
    validationErrors := ["none"]
    approvalReasons := [.costAboveAutomaticLimit] }

theorem sameProposal_boastful : SameProposal plainProposal boastfulProposal where
  segments := .cons ⟨rfl, rfl, rfl, rfl, rfl, rfl, rfl, rfl⟩ .nil
  calendarChanges := rfl

theorem validateRepair_sameVerdict_boastful :
    let scenario := day (minutes 0 60) [sitter "kim" [minutes 0 60]]
    let preservedSegments := [care "first" "kim" .caregiver (minutes 0 30)]
    SameVerdict (validate plainProposal scenario) (validate boastfulProposal scenario) ∧
      SameVerdict (validateRepair plainProposal scenario preservedSegments)
        (validateRepair boastfulProposal scenario preservedSegments) :=
  validateRepair_sameVerdict sameProposal_boastful _ _

end DayMend.Validation
