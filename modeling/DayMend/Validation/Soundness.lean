import DayMend.Agent.PathSelections
import DayMend.Validation.Agreement
import DayMend.Validation.Partition

/-!
# What the planability gate promises

The gate looks at preserved identifiers and at the provider's care one by one: each must
have survived pruning, on some way through the day. Where the segments of the plan do not
overlap, this is enough for one way that has all of them (`planable_selects`): a way through
the provider's care takes every preserved segment, because at its time nothing else is
there to be done.
-/

namespace DayMend.Validation

open DayMend.Base DayMend.Models DayMend.Fixtures DayMend.Services DayMend.Application DayMend.Agent

variable {scenario updated : DemoScenario} {plan : RecoveryPlan} {recoveryCase : RecoveryCase} {event : RecoveryEvent}
  {outcome : InvalidationOutcome} {matrix : FeasibleAssignmentMatrix} {need : RecoveryNeed}
  {line : List FeasiblePrimitive} {legs : List Leg} {home : String} {required : CoverageWindow}
  {segment : RecoveryPlanSegment} {candidate : BackupCareCandidate}

/-- No two segments of the plan overlap. -/
def SegmentsApart (plan : RecoveryPlan) : Prop :=
  ∀ s ∈ plan.coverageSegments, ∀ t ∈ plan.coverageSegments, s.window.Overlaps t.window → s = t

instance (plan : RecoveryPlan) : Decidable (SegmentsApart plan) := by unfold SegmentsApart; infer_instance

/-! ### Preserved segments of such a plan -/

theorem Partitions.mem_plan (h : Partitions outcome plan required) :
    (∀ s ∈ outcome.impactedSegments, s ∈ plan.coverageSegments) ∧
      ∀ s ∈ outcome.preservedSegments, s ∈ plan.coverageSegments :=
  ⟨fun _ hs => h.perm.mem_iff.mp (List.mem_append_left _ hs),
    fun _ hs => h.perm.mem_iff.mp (List.mem_append_right _ hs)⟩

/-- No affected window reaches into preserved work. -/
theorem Partitions.not_overlaps (h : Partitions outcome plan required) (hapart : SegmentsApart plan)
    (hs : segment ∈ outcome.preservedSegments) :
    ∀ affected ∈ outcome.uncoveredWindows, ¬ affected.Overlaps segment.window := by
  intro affected haffected hoverlaps
  obtain ⟨t, ht, hts⟩ := Span.overlaps_iff_exists_mem.mp hoverlaps
  have huncovered : t ∈ Span.pointsOf outcome.uncoveredWindows := ⟨affected, haffected, ht⟩
  rw [h.uncovered] at huncovered
  obtain ⟨w, hw, htw⟩ := huncovered
  obtain ⟨impacted, himpacted, rfl⟩ := List.mem_map.mp hw
  have hsame : impacted = segment := hapart impacted (h.mem_plan.1 impacted himpacted) segment (h.mem_plan.2 segment hs)
    (Span.overlaps_iff_exists_mem.mpr ⟨t, htw, hts⟩)
  exact h.disjoint impacted himpacted (hsame ▸ hs)

/-- **Every way through the day takes all preserved work.** -/
theorem Partitions.mem_path (h : Partitions outcome plan required) (haccepted : Accepted plan scenario)
    (hapart : SegmentsApart plan)
    (hpath : FullPath legs scenario.requiredCoverage home (line.map (·.leg)))
    (hline : ∀ p ∈ line, p ∈ candidatesOf (candidatePrimitives updated (some outcome.uncoveredWindows)
      (some outcome.preservedSegments))) (hs : segment ∈ outcome.preservedSegments) :
    ∃ p ∈ line, p.StandsFor segment := by
  rw [candidatePrimitives_some] at hline
  exact mem_path_of_preserved hpath hline (haccepted.inside segment (h.mem_plan.2 segment hs))
    (fun other hother => hapart other (h.mem_plan.2 other hother) segment (h.mem_plan.2 segment hs))
    (h.not_overlaps hapart hs)

/-! ### The selection -/

/-- The selected primitives make one way through the day, from home at its beginning to its end, which takes all
preserved work and has a stretch of care with the provider. -/
structure SelectsPath (selection : PrimitiveSelection) (matrix : FeasibleAssignmentMatrix) (scenario : DemoScenario)
    (preserved : List RecoveryPlanSegment) (candidateId : String) : Prop where
  path : ∃ line : List FeasiblePrimitive, (∀ p ∈ line, p ∈ matrix.primitives) ∧
    selection.selectedPrimitiveIds = line.map (·.primitiveId) ∧
      FullPath (matrix.primitives.map (·.leg)) scenario.requiredCoverage scenario.familyHomeLocationId
        (line.map (·.leg))
  preserved : ∀ s ∈ preserved, s.segmentId ∈ selection.selectedPrimitiveIds
  cares : ∃ p ∈ matrix.carePrimitives, p.assignedPersonId = candidateId ∧
    p.primitiveId ∈ selection.selectedPrimitiveIds

/-- A stretch of care that is left in the matrix can be selected with all preserved work. -/
theorem exists_selectsPath (planIdOf : List String → String) (hpart : Partitions outcome plan required)
    (haccepted : Accepted plan scenario) (hapart : SegmentsApart plan)
    (hrequired : updated.requiredCoverage = scenario.requiredCoverage)
    (hmatrix : buildFeasibleAssignmentMatrix updated (some outcome.uncoveredWindows) (some outcome.preservedSegments) =
      .ok matrix) {p : FeasibleCarePrimitive} (hp : p ∈ matrix.carePrimitives) :
    ∃ selection repaired, materializePrimitiveSelection planIdOf selection matrix = .ok repaired ∧
      SelectsPath selection matrix updated outcome.preservedSegments p.assignedPersonId := by
  obtain ⟨line, hpath, hline, hon⟩ := exists_path_of_mem_primitives hmatrix (care_mem_primitives.mpr hp)
  have htakes : ∀ s ∈ outcome.preservedSegments, ∃ q ∈ line, q.StandsFor s := by
    intro s hs
    have hpath' := hpath
    rw [hrequired] at hpath'
    exact hpart.mem_path haccepted hapart hpath' (fun q hq => mem_candidatesOf hmatrix (hline q hq)) hs
  have himmutable : ∀ q ∈ matrix.primitives, q.immutable = true → q ∈ line :=
    fun q hq hkeep => mem_line_of_immutable hmatrix htakes hq hkeep
  obtain ⟨selection, repaired, hselection, hrepaired⟩ := exists_selection_of_path planIdOf hpath hline himmutable
  refine ⟨selection, repaired, hrepaired, ⟨line, hline, hselection, hpath⟩, fun s hs => ?_, p, hp, rfl, ?_⟩
  · obtain ⟨q, hq, hstands⟩ := htakes s hs
    rw [hselection, ← hstands.primitiveId_eq]
    exact List.mem_map_of_mem hq
  · rw [hselection]
    exact List.mem_map_of_mem (f := FeasiblePrimitive.primitiveId) hon

/-- **The gate is sound**: with every provider that it finds, one way through the day can be selected. -/
theorem planable_selects (planIdOf : List String → String) {ids : List String} {id : String}
    (hvalid : (validate plan scenario).valid = true) (hapart : SegmentsApart plan)
    (hactive : recoveryCase.activeRecoveryPlan = some plan)
    (hdecline : applyCaregiverDecline recoveryCase event scenario = .ok outcome)
    (hids : planableResearchCandidateIds outcome.updatedScenario need (some outcome.uncoveredWindows)
      (some outcome.preservedSegments) = .ok ids) (hid : id ∈ ids) :
    ∃ candidate ∈ (searchBackupCareCandidates outcome.updatedScenario need.requestedWindows).eligibleCandidates,
      candidate.candidateId = id ∧
      ∃ updated matrix selection repaired,
        addResearchedCaregiver outcome.updatedScenario candidate = .ok updated ∧
        buildFeasibleAssignmentMatrix updated (some outcome.uncoveredWindows) (some outcome.preservedSegments) =
          .ok matrix ∧
        materializePrimitiveSelection planIdOf selection matrix = .ok repaired ∧
        SelectsPath selection matrix updated outcome.preservedSegments id := by
  obtain ⟨decline, declined, hsplits⟩ := exists_splits_active hactive hdecline
  have haccepted := accepted_of_valid hvalid
  obtain ⟨candidate, hcandidate, hplanable, rfl⟩ := exists_isPlanable hids hid
  obtain ⟨updated, matrix, hadded, hmatrix, hpasses⟩ := isPlanable_eq_ok_iff.mp hplanable
  obtain ⟨p, hp, hassigned⟩ := exists_care_of_passes hpasses.symm
  have hrequired : updated.requiredCoverage = scenario.requiredCoverage := by
    obtain ⟨-, rfl⟩ := addResearchedCaregiver_eq_ok.mp hadded
    obtain ⟨-, hupdated⟩ := applyCaregiverDeclineToScenario_eq_ok.mp hsplits.updated
    rw [hupdated]
  obtain ⟨selection, repaired, hrepaired, hselects⟩ :=
    exists_selectsPath planIdOf (hsplits.partitions haccepted) haccepted hapart hrequired hmatrix hp
  refine ⟨candidate, hcandidate, rfl, updated, matrix, selection, repaired, hadded, hmatrix, hrepaired, ?_⟩
  rw [← hassigned]
  exact hselects

/-! ### A day in two turns -/

/-- One sitter for each half of the day, two providers in the inventory, and no parent. -/
def turnsDay : DemoScenario :=
  { inventoryDay twoHome with caregivers := [sitter "kim" [minutes 0 60], sitter "lee" [minutes 60 120]] }

/-- Each takes a half. -/
def turnsPlan : RecoveryPlan :=
  { planId := "turns"
    coverageSegments := [care "first" "kim" .caregiver (minutes 0 60), care "second" "lee" .caregiver (minutes 60 120)]
    validationState := .valid }

/-- A sitter declines. -/
def sitterDeclines (caregiverId : String) (window : CoverageWindow) (h : caregiverId ≠ "") : RecoveryEvent :=
  { eventId := "event-1"
    eventType := .caregiverDeclined
    occurredAt := 0
    caregiverId := some caregiverId
    relevantWindow := some window
    message := some "busy"
    caregiver_decline_has_response_details := fun _ => ⟨⟨_, rfl, h⟩, ⟨_, rfl, by decide⟩, rfl⟩ }

/-- What is needed of the inventory then. -/
def secondHalf : RecoveryNeed :=
  { requestedWindows := [minutes 60 120], knownOptionsInsufficient := true, researchNeeded := true }

theorem planable_selects_turnsDay :
    ∃ outcome, applyCaregiverDecline (caseWith turnsPlan) (sitterDeclines "lee" (minutes 60 120) (by decide)) turnsDay =
        .ok outcome ∧
      planableResearchCandidateIds outcome.updatedScenario secondHalf (some outcome.uncoveredWindows)
        (some outcome.preservedSegments) = .ok ["hana", "wim"] ∧
      ∃ candidate ∈ (searchBackupCareCandidates outcome.updatedScenario secondHalf.requestedWindows).eligibleCandidates,
        candidate.candidateId = "wim" ∧
        ∃ updated matrix selection repaired,
          addResearchedCaregiver outcome.updatedScenario candidate = .ok updated ∧
          buildFeasibleAssignmentMatrix updated (some outcome.uncoveredWindows) (some outcome.preservedSegments) =
            .ok matrix ∧
          materializePrimitiveSelection (materializedPlanId ", ".intercalate) selection matrix = .ok repaired ∧
          SelectsPath selection matrix updated outcome.preservedSegments "wim" := by
  have hrun : (applyCaregiverDecline (caseWith turnsPlan) (sitterDeclines "lee" (minutes 60 120) (by decide))
      turnsDay >>= fun outcome => planableResearchCandidateIds outcome.updatedScenario secondHalf
        (some outcome.uncoveredWindows) (some outcome.preservedSegments)) = .ok ["hana", "wim"] := by decide +kernel
  obtain ⟨outcome, hdecline, hids⟩ := bind_eq_ok.mp hrun
  have hvalid : (validate (materializeCaregiverAssumptions turnsPlan) turnsDay).valid = true := by decide +kernel
  have hapart : SegmentsApart (materializeCaregiverAssumptions turnsPlan) := by decide +kernel
  exact ⟨outcome, hdecline, hids, planable_selects _ hvalid hapart rfl hdecline hids (by decide)⟩

end DayMend.Validation
