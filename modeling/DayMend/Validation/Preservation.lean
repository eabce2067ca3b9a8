import DayMend.Agent.Replanning
import DayMend.Validation.Impact

/-!
# Preserved work that is selected

A repair is checked once more for the work that the decline left alone. The matrix offers
that work as primitives, which the planner selects by identifier, and which become
segments again. On this way a stretch of care loses its destination and its driver, if
it names them, and a trip is lost that another preserved trip displaces. Nothing else is lost
(`selectingPreserves_iff`).
-/

namespace DayMend.Validation

open DayMend.Base DayMend.Models DayMend.Fixtures DayMend.Services DayMend.Application DayMend.Agent

variable {scenario facts : DemoScenario} {plan : RecoveryPlan} {recoveryCase : RecoveryCase} {event : RecoveryEvent}
  {outcome : InvalidationOutcome} {matrix : FeasibleAssignmentMatrix} {preserved : List RecoveryPlanSegment}
  {affectedWindows : List CoverageWindow} {selection : PrimitiveSelection} {planIdOf : List String → String}
  {segment previous current : RecoveryPlanSegment} {issue : PlanValidationIssue}

/-! ### The issues of preservation -/

theorem code_ne_of_mem_validateHandoff {caregivers : Dict String Caregiver}
    (h : issue ∈ validateHandoff scenario caregivers previous current) : issue.code ≠ .preservedSegmentChanged := by
  unfold validateHandoff at h
  dsimp only at h
  split at h
  · split at h
    · obtain rfl := List.mem_singleton.mp h
      rintro ⟨⟩
    · obtain ⟨-, rfl⟩ := mem_issueIf.mp h
      rintro ⟨⟩
  · rcases List.mem_append.mp h with h | h
    · obtain ⟨-, rfl⟩ := mem_issueIf.mp h
      rintro ⟨⟩
    · split at h
      · obtain rfl := List.mem_singleton.mp h
        rintro ⟨⟩
      · obtain ⟨-, rfl⟩ := mem_issueIf.mp h
        rintro ⟨⟩

theorem code_ne_of_mem_validateCoverageAndHandoffs {segments : List RecoveryPlanSegment}
    {caregivers : Dict String Caregiver} (h : issue ∈ validateCoverageAndHandoffs segments scenario caregivers) :
    issue.code ≠ .preservedSegmentChanged := by
  cases segments with
  | nil =>
    obtain rfl := List.mem_singleton.mp h
    rintro ⟨⟩
  | cons first rest =>
    simp only [validateCoverageAndHandoffs, List.mem_append, mem_issueIf, List.mem_flatMap] at h
    rcases h with ((⟨-, rfl⟩ | ⟨-, rfl⟩) | ⟨s, -, -, rfl⟩) | ⟨pair, -, h⟩
    · rintro ⟨⟩
    · rintro ⟨⟩
    · rintro ⟨⟩
    · exact code_ne_of_mem_validateHandoff h

theorem code_ne_of_mem_validateAssignment {caregivers : Dict String Caregiver}
    (h : issue ∈ validateAssignment scenario caregivers segment) : issue.code ≠ .preservedSegmentChanged := by
  unfold validateAssignment at h
  dsimp only at h
  split at h
  · obtain ⟨-, rfl⟩ := mem_issueIf.mp h
    rintro ⟨⟩
  · split at h
    · obtain rfl := List.mem_singleton.mp h
      rintro ⟨⟩
    · simp only [List.mem_append, mem_issueIf] at h
      rcases h with ((⟨-, rfl⟩ | ⟨-, rfl⟩) | ⟨-, rfl⟩) | ⟨-, rfl⟩ <;> rintro ⟨⟩

theorem code_ne_of_mem_validateTransporter {transporterId : String} {caregivers : Dict String Caregiver}
    {parentTransport : Dict String ParentTransportCapability}
    (h : issue ∈ validateTransporter segment transporterId scenario caregivers parentTransport) :
    issue.code ≠ .preservedSegmentChanged := by
  rcases List.mem_append.mp h with h | h
  · obtain ⟨-, rfl⟩ := mem_issueIf.mp h
    rintro ⟨⟩
  · obtain ⟨event, -, h⟩ := List.mem_flatMap.mp h
    split at h
    · cases h
    · obtain ⟨-, rfl⟩ := mem_issueIf.mp h
      rintro ⟨⟩

theorem code_ne_of_mem_validateLocation {caregivers : Dict String Caregiver}
    (h : issue ∈ validateLocation scenario caregivers segment) : issue.code ≠ .preservedSegmentChanged := by
  rcases List.mem_append.mp h with h | h
  · obtain ⟨-, rfl⟩ := mem_issueIf.mp h
    rintro ⟨⟩
  split at h
  · rcases List.mem_append.mp h with h | h
    · rcases List.mem_append.mp h with h | h
      · obtain ⟨-, rfl⟩ := mem_issueIf.mp h
        rintro ⟨⟩
      · dsimp only at h
        split at h
        · obtain rfl := List.mem_singleton.mp h
          rintro ⟨⟩
        · obtain ⟨-, rfl⟩ := mem_issueIf.mp h
          rintro ⟨⟩
    · exact code_ne_of_mem_validateTransporter h
  · split at h
    · cases h
    · obtain ⟨-, rfl⟩ := mem_issueIf.mp h
      rintro ⟨⟩

theorem code_ne_of_mem_validateCalendarChange {originalEvents : Dict String CalendarEvent} {change : CalendarEvent}
    (h : issue ∈ validateCalendarChange originalEvents change) : issue.code ≠ .preservedSegmentChanged := by
  unfold validateCalendarChange at h
  split at h
  · obtain rfl := List.mem_singleton.mp h
    rintro ⟨⟩
  · split at h
    · obtain rfl := List.mem_singleton.mp h
      rintro ⟨⟩
    · obtain ⟨-, rfl⟩ := mem_issueIf.mp h
      rintro ⟨⟩

theorem code_ne_of_mem_validateParentEvent {changes : Dict String CalendarEvent} {event : CalendarEvent}
    (h : issue ∈ validateParentEvent changes segment event) : issue.code ≠ .preservedSegmentChanged := by
  unfold validateParentEvent at h
  split at h
  · cases h
  · split at h
    · obtain rfl := List.mem_singleton.mp h
      rintro ⟨⟩
    · split at h
      · obtain rfl := List.mem_singleton.mp h
        rintro ⟨⟩
      · obtain ⟨-, rfl⟩ := mem_issueIf.mp h
        rintro ⟨⟩

/-- The five passes say nothing of preserved work. -/
theorem code_ne_of_mem_validationIssues (h : issue ∈ validationIssues plan scenario) :
    issue.code ≠ .preservedSegmentChanged := by
  simp only [validationIssues, List.mem_append] at h
  rcases h with (((h | h) | h) | h) | h
  · obtain ⟨-, rfl⟩ := mem_issueIf.mp h
    rintro ⟨⟩
  · exact code_ne_of_mem_validateCoverageAndHandoffs h
  · obtain ⟨s, -, h⟩ := List.mem_flatMap.mp h
    exact code_ne_of_mem_validateAssignment h
  · rcases List.mem_append.mp h with h | h
    · obtain ⟨s, -, h⟩ := List.mem_flatMap.mp h
      exact code_ne_of_mem_validateLocation h
    · obtain ⟨pair, -, h⟩ := List.mem_flatMap.mp h
      obtain ⟨-, rfl⟩ := mem_issueIf.mp h
      rintro ⟨⟩
  · rcases List.mem_append.mp h with h | h
    · obtain ⟨change, -, h⟩ := List.mem_flatMap.mp h
      exact code_ne_of_mem_validateCalendarChange h
    · obtain ⟨s, -, h⟩ := List.mem_flatMap.mp h
      split at h
      · cases h
      · obtain ⟨event, -, h⟩ := List.mem_flatMap.mp h
        exact code_ne_of_mem_validateParentEvent h

theorem mem_preservationIssues :
    issue ∈ preservationIssues plan preserved → issue.code = .preservedSegmentChanged := by
  intro h
  obtain ⟨s, -, h⟩ := List.mem_flatMap.mp h
  obtain ⟨-, rfl⟩ := mem_issueIf.mp h
  rfl

theorem preservationIssues_eq_nil_iff : preservationIssues plan preserved = [] ↔
    ∀ s ∈ preserved, ∃ candidate ∈ plan.coverageSegments, PreservedWorkSurvives s candidate := by
  simp [preservationIssues]

/-- **When preserved work is reported as changed.** -/
theorem no_preservation_issue_iff : (∀ issue ∈ (validateRepair plan scenario preserved).issues,
    issue.code ≠ .preservedSegmentChanged) ↔
      ∀ s ∈ preserved, ∃ candidate ∈ plan.coverageSegments, PreservedWorkSurvives s candidate := by
  rw [← preservationIssues_eq_nil_iff, validateRepair]
  dsimp only
  split
  next hnone => exact ⟨fun _ => hnone, fun _ _ hissue => code_ne_of_mem_validationIssues hissue⟩
  next hsome =>
    refine ⟨fun hall => ?_, fun hnone => absurd hnone hsome⟩
    refine List.eq_nil_iff_forall_not_mem.mpr fun issue hissue => ?_
    exact hall issue (List.mem_append_right _ hissue) (mem_preservationIssues hissue)

/-! ### What the way through the matrix keeps -/

/-- No selection has all of the preserved segments: the matrix does not offer one of their identifiers. -/
def NotOffered (matrix : FeasibleAssignmentMatrix) (preserved : List RecoveryPlanSegment) : Prop :=
  ∃ s ∈ preserved, ∀ p ∈ matrix.primitives, p.primitiveId ≠ s.segmentId

/-- Preserved care names neither a destination nor a driver. -/
def PlainCare (preserved : List RecoveryPlanSegment) : Prop :=
  ∀ s ∈ preserved, s.segmentType = .care → s.destinationLocationId = none ∧ s.transporterId = none

/-- A trip of the day that comes into the selection because a preserved segment has its identifier. -/
structure StandsIn (facts : DemoScenario) (affectedWindows : List CoverageWindow) (preserved : List RecoveryPlanSegment)
    (trip : FeasibleTransportPrimitive) : Prop where
  mem : trip ∈ tripsInScope (transportPrimitives facts) affectedWindows
  key_ne : ∀ s ∈ preserved, tripKey s ≠ some trip.key
  id_mem : ∃ s ∈ preserved, trip.primitiveId = s.segmentId

/-- The work of each preserved trip is done by a preserved trip that counts, itself or another, or by a trip that
stands in. -/
def TripsCount (facts : DemoScenario) (affectedWindows : List CoverageWindow) (preserved : List RecoveryPlanSegment) :
    Prop :=
  ∀ s ∈ preserved, s.segmentType = .transport →
    (∃ trip, Counts preserved trip ∧ PreservedWorkSurvives s trip) ∨
      ∃ trip, StandsIn facts affectedWindows preserved trip ∧
        PreservedWorkSurvives s (FeasiblePrimitive.transport trip).segment

/-- A selection with all of the preserved segments keeps their work, as repair validation sees it. -/
def SelectingPreserves (facts : DemoScenario) (matrix : FeasibleAssignmentMatrix)
    (preserved : List RecoveryPlanSegment) : Prop :=
  ∀ (planIdOf : List String → String) (selection : PrimitiveSelection) (repair : RecoveryPlan),
    materializePrimitiveSelection planIdOf selection matrix = .ok repair →
      (∀ s ∈ preserved, s.segmentId ∈ selection.selectedPrimitiveIds) →
        ∀ issue ∈ (validateRepair repair facts preserved).issues, issue.code ≠ .preservedSegmentChanged

/-- A stretch of care is care. -/
theorem segmentType_eq_care (h : segment.segmentType ≠ .transport) : segment.segmentType = .care := by
  cases htype : segment.segmentType with
  | care => rfl
  | transport => exact absurd htype h

theorem mem_selectedPlan {p : FeasiblePrimitive} (hp : p ∈ matrix.primitives)
    (hid : p.primitiveId ∈ selection.selectedPrimitiveIds) :
    p.segment ∈ (selectedPlan planIdOf selection matrix).coverageSegments :=
  (List.mem_insertionSort _).mpr (List.mem_map_of_mem (mem_selectedPrimitives.mpr ⟨hp, hid⟩))

theorem exists_of_mem_selectedPlan (h : segment ∈ (selectedPlan planIdOf selection matrix).coverageSegments) :
    ∃ p ∈ matrix.primitives, p.primitiveId ∈ selection.selectedPrimitiveIds ∧ p.segment = segment := by
  obtain ⟨p, hp, rfl⟩ := List.mem_map.mp ((List.mem_insertionSort _).mp h)
  obtain ⟨hp, hid⟩ := mem_selectedPrimitives.mp hp
  exact ⟨p, hp, hid, rfl⟩

/-- A care primitive does the work of the plain care that has its key. -/
theorem survives_of_key {kept : RecoveryPlanSegment} (hkey : (preservedCare kept).key = (preservedCare segment).key)
    (hcare : segment.segmentType = .care)
    (hplain : segment.destinationLocationId = none ∧ segment.transporterId = none) :
    PreservedWorkSurvives segment (FeasiblePrimitive.care (preservedCare kept)).segment := by
  simp only [FeasibleCarePrimitive.key, preservedCare, Prod.mk.injEq] at hkey
  obtain ⟨hperson, hsource, hstart, hend, hlocation⟩ := hkey
  refine ⟨⟨hstart.le, hend.ge⟩, hperson, hsource, hcare.symm, hlocation, ?_, ?_⟩
  · exact hplain.1.symm
  · exact hplain.2.symm

/-- The primitive of a preserved trip does what the trip does. -/
theorem survives_preservedTransport_iff {trip : RecoveryPlanSegment} (htrip : trip.segmentType = .transport) :
    PreservedWorkSurvives segment (FeasiblePrimitive.transport (preservedTransport trip htrip)).segment ↔
      PreservedWorkSurvives segment trip := by
  have hdestination : some (trip.destination htrip) = trip.destinationLocationId := Option.some_get _
  have hdriver : some (trip.transporter htrip) = trip.transporterId := Option.some_get _
  simp only [PreservedWorkSurvives, FeasiblePrimitive.segment, preservedTransport, hdestination, hdriver, htrip]

section Matrix

variable (hmatrix : buildFeasibleAssignmentMatrix facts (some affectedWindows) (some preserved) = .ok matrix)

include hmatrix

theorem mem_primitives_of_replanning {p : FeasiblePrimitive} (hoffered : ¬ NotOffered matrix preserved)
    (hcandidate : p ∈ candidatesOf (replanningPrimitives (carePrimitives facts (transportPrimitives facts))
      (transportPrimitives facts) affectedWindows preserved))
    (hid : ∃ s ∈ preserved, p.primitiveId = s.segmentId) : p ∈ matrix.primitives := by
  obtain ⟨s, hs, hid⟩ := hid
  have hfound : ∃ q ∈ matrix.primitives, q.primitiveId = s.segmentId := by
    by_contra hnone
    exact hoffered ⟨s, hs, fun q hq hsame => hnone ⟨q, hq, hsame⟩⟩
  obtain ⟨q, hq, hsame⟩ := hfound
  exact mem_primitives_of_id hmatrix hq hcandidate (hid.trans hsame.symm)

/-- **The way through the matrix keeps** plain care and the trips that count. -/
theorem selectingPreserves_of (hplain : PlainCare preserved) (htrips : TripsCount facts affectedWindows preserved) :
    SelectingPreserves facts matrix preserved := by
  intro planIdOf selection repair hrepair hselected
  obtain ⟨hknown, -, rfl⟩ := materializePrimitiveSelection_eq_ok_iff.mp hrepair
  have hoffered : ¬ NotOffered matrix preserved := fun ⟨s, hs, hnone⟩ => hknown ⟨_, hselected s hs, hnone⟩
  -- whatever is among the candidates under a preserved identifier is selected
  have hkept : ∀ p ∈ candidatesOf (replanningPrimitives (carePrimitives facts (transportPrimitives facts))
      (transportPrimitives facts) affectedWindows preserved), (∃ s ∈ preserved, p.primitiveId = s.segmentId) →
        p.segment ∈ (selectedPlan planIdOf selection matrix).coverageSegments := by
    intro p hp hid
    have hmem := mem_primitives_of_replanning hmatrix hoffered hp hid
    obtain ⟨s, hs, hid⟩ := hid
    exact mem_selectedPlan hmem (hid ▸ hselected s hs)
  rw [no_preservation_issue_iff]
  intro s hs
  by_cases htransport : s.segmentType = .transport
  · rcases htrips s hs htransport with ⟨trip, hcounts, hsurvives⟩ | ⟨trip, hstands, hsurvives⟩
    · have htrip : trip.segmentType = .transport := hsurvives.2.2.2.1.trans htransport
      refine ⟨_, hkept (.transport (preservedTransport trip htrip)) ?_ ⟨trip, hcounts.mem, rfl⟩,
        (survives_preservedTransport_iff htrip).mpr hsurvives⟩
      exact List.mem_append_right _ (List.mem_map_of_mem (hcounts.mem_replanning htrip))
    · refine ⟨_, hkept (.transport trip) ?_ hstands.id_mem, hsurvives⟩
      exact List.mem_append_right _
        (List.mem_map_of_mem (mem_replanning_of_mem_transport hstands.mem hstands.key_ne))
  · obtain ⟨kept, hcounts, hkey⟩ := exists_countsAsCare hs htransport
    have hcare := segmentType_eq_care htransport
    refine ⟨_, hkept (.care (preservedCare kept)) ?_ ⟨kept, hcounts.mem, rfl⟩,
      survives_of_key hkey hcare (hplain s hs hcare)⟩
    exact List.mem_append_left _ (List.mem_map_of_mem hcounts.mem_replanning)

theorem replanning_of_mem_primitives {p : FeasiblePrimitive} (hp : p ∈ matrix.primitives) :
    p ∈ candidatesOf (replanningPrimitives (carePrimitives facts (transportPrimitives facts))
      (transportPrimitives facts) affectedWindows preserved) := by
  have hcandidate := mem_candidatesOf hmatrix hp
  rwa [candidatePrimitives_some] at hcandidate

/-- The preserved segments alone can be selected, and their primitives do the work that is kept. -/
theorem exists_survivor_of_selectingPreserves (hids : (preserved.map (·.segmentId)).Nodup)
    (hoffered : ¬ NotOffered matrix preserved) (h : SelectingPreserves facts matrix preserved) :
    ∀ s ∈ preserved, ∃ p ∈ matrix.primitives, (∃ t ∈ preserved, p.primitiveId = t.segmentId) ∧
      PreservedWorkSurvives s p.segment := by
  intro s hs
  let selection : PrimitiveSelection :=
    { selectedPrimitiveIds := preserved.map (·.segmentId)
      min_length := List.ne_nil_of_mem (List.mem_map_of_mem hs)
      selected_ids_are_unique := hids }
  have hknown : ¬ SelectsUnknown selection matrix := by
    rintro ⟨id, hid, hnone⟩
    obtain ⟨s, hs, rfl⟩ := List.mem_map.mp hid
    exact hoffered ⟨s, hs, hnone⟩
  have himmutable : ¬ OmitsImmutable selection matrix := by
    rintro ⟨p, hp, himmutable, homitted⟩
    obtain ⟨s, hs, hid, -⟩ := exists_preserved_of_immutable (replanning_of_mem_primitives hmatrix hp) himmutable
    exact homitted (hid ▸ List.mem_map_of_mem hs)
  have hall := no_preservation_issue_iff.mp (h (fun _ => "repair") selection _
    (materializePrimitiveSelection_eq_ok_iff.mpr ⟨hknown, himmutable, rfl⟩) fun s hs => List.mem_map_of_mem hs)
  obtain ⟨candidate, hcandidate, hsurvives⟩ := hall s hs
  obtain ⟨p, hp, hid, rfl⟩ := exists_of_mem_selectedPlan hcandidate
  obtain ⟨t, ht, hid⟩ := List.mem_map.mp hid
  exact ⟨p, hp, ⟨t, ht, hid.symm⟩, hsurvives⟩

/-- **Nothing else is kept**: the preserved segments alone can be selected. -/
theorem of_selectingPreserves (hids : (preserved.map (·.segmentId)).Nodup) (hoffered : ¬ NotOffered matrix preserved)
    (h : SelectingPreserves facts matrix preserved) :
    PlainCare preserved ∧ TripsCount facts affectedWindows preserved := by
  have hdone := exists_survivor_of_selectingPreserves hmatrix hids hoffered h
  constructor
  · intro s hs hcare
    obtain ⟨p, -, -, hsurvives⟩ := hdone s hs
    obtain ⟨-, -, -, htype, -, hdestination, hdriver⟩ := hsurvives
    cases p with
    | care p => exact ⟨hdestination.symm, hdriver.symm⟩
    | transport p =>
      rw [hcare] at htype
      cases htype
  · intro s hs htransport
    obtain ⟨p, hp, hid, hsurvives⟩ := hdone s hs
    cases p with
    | care p =>
      have htype := hsurvives.2.2.2.1
      rw [htransport] at htype
      cases htype
    | transport p =>
      rcases List.mem_append.mp (replanning_of_mem_primitives hmatrix hp) with hcandidate | hcandidate
      · obtain ⟨item, -, hitem⟩ := List.mem_map.mp hcandidate
        cases hitem
      obtain ⟨item, hitem, hsame⟩ := List.mem_map.mp hcandidate
      cases hsame
      rcases of_mem_replanning_transport hitem with ⟨trip, htrip, hcounts, rfl⟩ | ⟨hscope, hkey⟩
      · exact Or.inl ⟨trip, hcounts, (survives_preservedTransport_iff htrip).mp hsurvives⟩
      · exact Or.inr ⟨p, ⟨hscope, hkey, hid⟩, hsurvives⟩

end Matrix

/-- **When selecting preserved work preserves it**, for a decline of a valid plan and the matrix of its replanning. -/
theorem selectingPreserves_iff (hvalid : (validate plan scenario).valid = true)
    (hactive : recoveryCase.activeRecoveryPlan = some plan)
    (hdecline : applyCaregiverDecline recoveryCase event scenario = .ok outcome)
    (hmatrix : buildFeasibleAssignmentMatrix facts (some outcome.uncoveredWindows) (some outcome.preservedSegments) =
      .ok matrix) :
    SelectingPreserves facts matrix outcome.preservedSegments ↔
      NotOffered matrix outcome.preservedSegments ∨
        PlainCare outcome.preservedSegments ∧
          TripsCount facts outcome.uncoveredWindows outcome.preservedSegments := by
  obtain ⟨decline, declined, hsplits⟩ := exists_splits_active hactive hdecline
  have hids := hsplits.nodup_preservedIds (accepted_of_valid hvalid).unique_ids
  constructor
  · intro h
    by_cases hoffered : NotOffered matrix outcome.preservedSegments
    · exact Or.inl hoffered
    · exact Or.inr (of_selectingPreserves hmatrix hids hoffered h)
  · rintro (⟨s, hs, hnone⟩ | ⟨hplain, htrips⟩)
    · intro planIdOf selection repair hrepair hselected
      exact absurd ⟨_, hselected s hs, hnone⟩ (materializePrimitiveSelection_eq_ok_iff.mp hrepair).1
    · exact selectingPreserves_of hmatrix hplain htrips

/-! ### A small day -/

/-- A day on which two sitters can take over from the first. -/
def relayDay : DemoScenario :=
  day (minutes 0 120) [sitter "ana" [minutes 0 60], sitter "ben" [minutes 60 120], sitter "cara" [minutes 60 120]]

/-- The first sitter's stretch of care may name a driver, whom nobody needs. -/
def relayPlan (transporterId : Option String) : RecoveryPlan :=
  { planId := "relay"
    coverageSegments :=
      [{ Fixtures.care "first" "ana" .caregiver (minutes 0 60) with
          transporterId
          transport_has_destination_and_driver := nofun },
        Fixtures.care "second" "ben" .caregiver (minutes 60 120)]
    validationState := .valid }

/-- The second sitter declines. -/
def benDeclines : RecoveryEvent :=
  { grandmaDeclines (minutes 60 120) with
    caregiverId := some "ben"
    caregiver_decline_has_response_details := fun _ => ⟨⟨_, rfl, by simp⟩, ⟨_, rfl, by simp⟩, rfl⟩ }

/-- What replanning starts from when the second sitter declines. -/
def relayReplanning (transporterId : Option String) :
    Except Failure (InvalidationOutcome × FeasibleAssignmentMatrix) := do
  let outcome ← applyCaregiverDecline (caseWith (relayPlan transporterId)) benDeclines relayDay
  let matrix ← buildFeasibleAssignmentMatrix outcome.updatedScenario (some outcome.uncoveredWindows)
    (some outcome.preservedSegments)
  pure (outcome, matrix)

theorem selectingPreserves_iff_relayDay :
    ∃ outcome, applyCaregiverDecline (caseWith (relayPlan none)) benDeclines relayDay = .ok outcome ∧
      ∃ matrix, buildFeasibleAssignmentMatrix outcome.updatedScenario (some outcome.uncoveredWindows)
          (some outcome.preservedSegments) = .ok matrix ∧
        (SelectingPreserves outcome.updatedScenario matrix outcome.preservedSegments ↔
          NotOffered matrix outcome.preservedSegments ∨
            PlainCare outcome.preservedSegments ∧
              TripsCount outcome.updatedScenario outcome.uncoveredWindows outcome.preservedSegments) := by
  have hseen : (relayReplanning none).toOption.map (fun _ => ()) = some () := by decide +kernel
  obtain ⟨⟨outcome, matrix⟩, hbuilt, -⟩ := exists_ok_of_toOption hseen
  simp only [relayReplanning, bind_eq_ok] at hbuilt
  obtain ⟨outcome, happly, matrix, hmatrix, -⟩ := hbuilt
  exact ⟨outcome, happly, matrix, hmatrix, selectingPreserves_iff (by decide +kernel) rfl happly hmatrix⟩

/-- The driver of the first stretch of care is lost: all of the preserved work can be selected, and repair validation
then says that it changed. -/
theorem namedDriver_is_lost : (validate (relayPlan (some "ana")) relayDay).valid = true ∧
    ∃ outcome, applyCaregiverDecline (caseWith (relayPlan (some "ana"))) benDeclines relayDay = .ok outcome ∧
      ∃ matrix, buildFeasibleAssignmentMatrix outcome.updatedScenario (some outcome.uncoveredWindows)
          (some outcome.preservedSegments) = .ok matrix ∧
        ¬ SelectingPreserves outcome.updatedScenario matrix outcome.preservedSegments := by
  refine ⟨by decide +kernel, ?_⟩
  have hseen : (relayReplanning (some "ana")).toOption.map (fun built =>
      (built.1.preservedSegments.map fun s => (s.segmentId, s.segmentType, s.transporterId),
        decide (∃ s ∈ built.1.preservedSegments, ∀ p ∈ built.2.primitives, p.primitiveId ≠ s.segmentId))) =
      some ([("first", .care, some "ana")], false) := by decide +kernel
  obtain ⟨⟨outcome, matrix⟩, hbuilt, hfacts⟩ := exists_ok_of_toOption hseen
  obtain ⟨hsegments, hoffered⟩ := Prod.mk.inj hfacts
  simp only [relayReplanning, bind_eq_ok] at hbuilt
  obtain ⟨outcome', happly, matrix', hmatrix, hsame⟩ := hbuilt
  cases hsame
  refine ⟨outcome, happly, matrix, hmatrix, fun hpreserves => ?_⟩
  obtain ⟨s, hs, hseg⟩ := List.map_eq_singleton_iff.mp hsegments
  simp only [Prod.mk.injEq] at hseg
  obtain ⟨-, hcare, hdriver⟩ := hseg
  have hids : (outcome.preservedSegments.map (·.segmentId)).Nodup := by
    rw [hs]
    exact List.nodup_singleton _
  have hall : ¬ NotOffered matrix outcome.preservedSegments := by
    unfold NotOffered
    exact of_decide_eq_false hoffered
  have hplain := (of_selectingPreserves hmatrix hids hall hpreserves).1
  have hnone := (hplain s (hs ▸ List.mem_singleton_self s) hcare).2
  rw [hdriver] at hnone
  cases hnone

end DayMend.Validation
