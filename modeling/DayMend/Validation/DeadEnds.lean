import DayMend.Agent.SelectionMode
import DayMend.Validation.Preservation
import DayMend.Validation.Primitives
import DayMend.Validation.Soundness
import Mathlib.Data.List.Permutation

/-!
# Dead ends of selection mode

In selection mode a plan is a line of primitives, and nothing can be added to it: no event
is moved, and nobody comes before the primitive says. The mode test excludes care for which
an event would have to be moved. It does not look at the time that handoffs need, at trips
for which an event would have to be moved, nor at whether preserved work is still possible.
A plan that the validator accepts can be selected exactly when some line is in order in all
of these respects (`exists_accepted_selection_iff`). Where handoffs need no time, no event
can be moved and preserved work is still possible, there is such a line
(`PlainDay.exists_accepted_selection`).
-/

namespace DayMend.Validation

open DayMend.Base DayMend.Models DayMend.Fixtures DayMend.Services DayMend.Application DayMend.Agent

variable {facts : DemoScenario} {plan : RecoveryPlan} {matrix : FeasibleAssignmentMatrix}
  {input : PlannerInvocationInput} {preserved : List RecoveryPlanSegment} {line : List FeasiblePrimitive}
  {segment : RecoveryPlanSegment} {event : CalendarEvent} {windows : Option (List CoverageWindow)}
  {segments : Option (List RecoveryPlanSegment)}

/-! ### Lines in order -/

/-- Primitives along which the child is handed through the day, each in order by itself. -/
structure Relay (facts : DemoScenario) (line : List FeasiblePrimitive) : Prop where
  in_order : InOrder line
  begins : line.head?.map (·.segment.window.start) = some facts.requiredCoverage.start
  ends : line.getLast?.map (·.segment.window.end_) = some facts.requiredCoverage.end_
  /-- The time that handoffs need is given, -/
  handoffs : line.IsChain fun p q => HandoffOk facts p.segment q.segment
  moves : line.IsChain fun p q => TransitionOk p.segment q.segment
  /-- everyone may do what is asked, free of events that cannot be moved, -/
  segment_ok : ∀ p ∈ line, SegmentOk facts p.segment
  /-- and parents drive free of those that can. -/
  trips_free : ∀ p ∈ line, p.segment.segmentType = .transport → p.segment.source = .parent →
    ∀ event ∈ facts.parentEvents, event.ownerId = p.segment.assignedPersonId → fixedEvent event = false →
      ¬ p.segment.window.Overlaps event.window

/-- A line of the matrix with all that must be kept, on which preserved work survives. -/
structure WayOut (facts : DemoScenario) (matrix : FeasibleAssignmentMatrix) (preserved : List RecoveryPlanSegment)
    (line : List FeasiblePrimitive) : Prop extends Relay facts line where
  mem : ∀ p ∈ line, p ∈ matrix.primitives
  keeps : ∀ p ∈ matrix.primitives, p.immutable = true → p ∈ line
  survives : ∀ s ∈ preserved, ∃ p ∈ line, PreservedWorkSurvives s p.segment

/-! ### What is accepted of a line -/

/-- **When a repair is accepted.** -/
theorem validateRepair_valid_iff : (validateRepair plan facts preserved).valid = true ↔
    Accepted plan facts ∧ ∀ s ∈ preserved, ∃ candidate ∈ plan.coverageSegments, PreservedWorkSurvives s candidate := by
  rw [← accepted_iff_valid, ← preservationIssues_eq_nil_iff, validateRepair]
  dsimp only
  split
  next hnone => simp [hnone]
  next hsome => exact iff_of_false Bool.false_ne_true fun h => hsome h.2

/-- Without changes to the calendar a parent's events are never in the way. -/
theorem parentEventOk_nil_iff :
    ParentEventOk [] segment event ↔
      (event.ownerId = segment.assignedPersonId → ¬ segment.window.Overlaps event.window) := by
  constructor
  · intro h howner hoverlaps
    obtain ⟨-, -, changed, hchanged, -⟩ := h howner hoverlaps
    cases hchanged
  · intro h howner hoverlaps
    exact absurd hoverlaps (h howner)

theorem Relay.ne_nil (h : Relay facts line) : line ≠ [] := by
  rintro rfl
  cases h.begins

/-- **On a relay of the matrix parents are free of all their events**: of those that cannot be moved and, when they
drive, of the others because it is a relay, and when they look after the child, of the others because of the mode
test. -/
theorem Relay.parent_free (h : Relay facts line)
    (hmatrix : buildFeasibleAssignmentMatrix facts windows segments = .ok input.feasibleAssignmentMatrix)
    (huses : usesPrimitiveSelection input = .ok true) {p : FeasiblePrimitive} (hp : p ∈ line)
    (hmem : p ∈ input.feasibleAssignmentMatrix.primitives) (hsource : p.segment.source = .parent)
    (hevent : event ∈ facts.parentEvents) (howner : event.ownerId = p.segment.assignedPersonId) :
    ¬ p.segment.window.Overlaps event.window := by
  cases hkind : fixedEvent event with
  | true => exact (h.segment_ok p hp).free hsource event hevent howner hkind
  | false =>
    cases p with
    | care p =>
      have hparent : p.assignedPersonId ∈ facts.parentIds := by
        have hassigned := (h.segment_ok _ hp).assignment
        rw [AssignmentOk, hsource] at hassigned
        exact hassigned
      exact not_overlaps_of_usesPrimitiveSelection hmatrix huses (care_mem_primitives.mp hmem) hsource hparent hevent
        howner hkind
    | transport p => exact h.trips_free _ hp rfl hsource event hevent howner hkind

section Line

variable (hsegments : plan.coverageSegments = line.map (·.segment)) (hchanges : plan.calendarChanges = [])

include hsegments hchanges

/-- The line of an accepted plan is a relay. -/
theorem relay_of_accepted (horder : InOrder line) (haccepted : Accepted plan facts) : Relay facts line := by
  have hsorted : sortedSegments plan.coverageSegments = line.map (·.segment) := by
    rw [hsegments, horder.sortedSegments_eq]
  have hmem : ∀ p ∈ line, p.segment ∈ plan.coverageSegments :=
    fun p hp => hsegments ▸ List.mem_map_of_mem (f := FeasiblePrimitive.segment) hp
  have hfree : ∀ p ∈ line, p.segment.source = .parent → ∀ event ∈ facts.parentEvents,
      event.ownerId = p.segment.assignedPersonId → ¬ p.segment.window.Overlaps event.window := by
    intro p hp hsource event hevent
    have hok := haccepted.parent_events _ (hmem p hp) hsource event hevent
    rw [hchanges] at hok
    exact parentEventOk_nil_iff.mp hok
  have hne : line.map (·.segment) ≠ [] := hsorted ▸ haccepted.ne_nil
  have hne' : line ≠ [] := fun hnil => hne (List.map_eq_nil_iff.mpr hnil)
  have hstarts := haccepted.starts
  have hends := haccepted.ends
  have hhandoffs := haccepted.handoffs
  have hmoves := haccepted.transitions
  simp only [hsorted] at hstarts hends hhandoffs hmoves
  rw [List.head_map] at hstarts
  rw [List.getLast_map] at hends
  refine ⟨horder, ?_, ?_, (List.isChain_map _).mp hhandoffs, (List.isChain_map _).mp hmoves, fun p hp => ?_,
    fun p hp _ hsource event hevent howner _ => hfree p hp hsource event hevent howner⟩
  · rw [List.head?_eq_some_head hne', Option.map_some, hstarts]
  · rw [List.getLast?_eq_some_getLast hne', Option.map_some, hends]
  · exact ⟨haccepted.assignments _ (hmem p hp), haccepted.locations _ (hmem p hp),
      fun hsource event hevent howner _ => hfree p hp hsource event hevent howner⟩

/-- **A relay of the matrix is accepted** in selection mode. -/
theorem Relay.accepted (h : Relay facts line)
    (hmatrix : buildFeasibleAssignmentMatrix facts windows segments = .ok input.feasibleAssignmentMatrix)
    (huses : usesPrimitiveSelection input = .ok true)
    (hline : ∀ p ∈ line, p ∈ input.feasibleAssignmentMatrix.primitives) : Accepted plan facts := by
  have hsorted : sortedSegments plan.coverageSegments = line.map (·.segment) := by
    rw [hsegments, h.in_order.sortedSegments_eq]
  have hne := h.ne_nil
  have hbegins := h.begins
  have hends := h.ends
  rw [List.head?_eq_some_head hne, Option.map_some, Option.some.injEq] at hbegins
  rw [List.getLast?_eq_some_getLast hne, Option.map_some, Option.some.injEq] at hends
  have hfrom : ∀ s ∈ plan.coverageSegments, ∃ p ∈ line, p.segment = s := by
    intro s hs
    rw [hsegments] at hs
    exact List.mem_map.mp hs
  refine
    { unique_ids := ?_
      ne_nil := ?_
      starts := ?_
      ends := ?_
      inside := ?_
      handoffs := ?_
      assignments := ?_
      locations := ?_
      transitions := ?_
      changes := ?_
      parent_events := ?_ }
  · rw [hsegments, map_segmentId_segment]
    exact nodup_primitiveIds_of_nodup h.in_order.nodup hline
  · rw [hsorted]
    exact fun hnil => hne (List.map_eq_nil_iff.mp hnil)
  · simp only [hsorted]
    rw [List.head_map, hbegins]
  · simp only [hsorted]
    rw [List.getLast_map, hends]
  · intro s hs
    obtain ⟨p, hp, rfl⟩ := hfrom s hs
    exact contains_of_mem_primitives hmatrix (hline p hp)
  · rw [hsorted]
    exact (List.isChain_map _).mpr h.handoffs
  · intro s hs
    obtain ⟨p, hp, rfl⟩ := hfrom s hs
    exact (h.segment_ok p hp).assignment
  · intro s hs
    obtain ⟨p, hp, rfl⟩ := hfrom s hs
    exact (h.segment_ok p hp).location
  · rw [hsorted]
    exact (List.isChain_map _).mpr h.moves
  · rw [hchanges]
    exact fun change hchange => absurd hchange List.not_mem_nil
  · intro s hs hsource event hevent
    obtain ⟨p, hp, rfl⟩ := hfrom s hs
    rw [hchanges, parentEventOk_nil_iff]
    exact h.parent_free hmatrix huses hp (hline p hp) hsource hevent

end Line

/-- A way out can be selected, and is accepted. -/
theorem WayOut.exists_selection (planIdOf : List String → String)
    (h : WayOut facts input.feasibleAssignmentMatrix preserved line)
    (hmatrix : buildFeasibleAssignmentMatrix facts windows segments = .ok input.feasibleAssignmentMatrix)
    (huses : usesPrimitiveSelection input = .ok true) :
    ∃ selection repaired, materializePrimitiveSelection planIdOf selection input.feasibleAssignmentMatrix =
        .ok repaired ∧ (validateRepair repaired facts preserved).valid = true := by
  obtain ⟨selection, repaired, hrepaired, hsegments, hchanges⟩ :=
    exists_selection_of_line planIdOf h.ne_nil h.in_order h.mem h.keeps
  refine ⟨selection, repaired, hrepaired, validateRepair_valid_iff.mpr ⟨?_, fun s hs => ?_⟩⟩
  · exact h.toRelay.accepted hsegments hchanges hmatrix huses h.mem
  · obtain ⟨p, hp, hsurvives⟩ := h.survives s hs
    exact ⟨p.segment, hsegments ▸ List.mem_map_of_mem hp, hsurvives⟩

/-- An accepted selection is a way out. -/
theorem exists_wayOut {planIdOf : List String → String} {selection : PrimitiveSelection} {repaired : RecoveryPlan}
    (hrepaired : materializePrimitiveSelection planIdOf selection matrix = .ok repaired)
    (hvalid : (validateRepair repaired facts preserved).valid = true) : ∃ line, WayOut facts matrix preserved line := by
  obtain ⟨hknown, hkept, rfl⟩ := materializePrimitiveSelection_eq_ok_iff.mp hrepaired
  obtain ⟨haccepted, hsurvives⟩ := validateRepair_valid_iff.mp hvalid
  obtain ⟨line, horder, hline, hsegments⟩ := exists_line planIdOf hknown
  refine ⟨line, relay_of_accepted hsegments rfl horder haccepted, fun p hp => ((hline p).mp hp).1, fun p hp himm => ?_,
    fun s hs => ?_⟩
  · by_contra homitted
    exact hkept ⟨p, hp, himm, fun hid => homitted ((hline p).mpr ⟨hp, hid⟩)⟩
  · obtain ⟨candidate, hcandidate, hdone⟩ := hsurvives s hs
    rw [hsegments] at hcandidate
    obtain ⟨p, hp, rfl⟩ := List.mem_map.mp hcandidate
    exact ⟨p, hp, hdone⟩

/-- **When selection mode is no dead end**: where it is on, a plan that repair validation accepts can be selected
exactly when the matrix has a way out. -/
theorem exists_accepted_selection_iff (planIdOf : List String → String) {operation : PlannerOperation}
    {brief : PlanningBrief} {previousCandidate : Option RecoveryPlan} {validatorFeedback : List PlanValidationIssue}
    (hinput : buildPlannerInvocationInput operation brief facts previousCandidate validatorFeedback = .ok input)
    (huses : usesPrimitiveSelection input = .ok true) :
    (∃ selection repaired, materializePrimitiveSelection planIdOf selection input.feasibleAssignmentMatrix =
        .ok repaired ∧ (validateRepair repaired facts brief.preservedSegments).valid = true) ↔
      ∃ line, WayOut facts input.feasibleAssignmentMatrix brief.preservedSegments line := by
  obtain ⟨-, hmatrix⟩ := buildPlannerInvocationInput_eq_ok hinput
  constructor
  · rintro ⟨selection, repaired, hrepaired, hvalid⟩
    exact exists_wayOut hrepaired hvalid
  · rintro ⟨line, hline⟩
    exact hline.exists_selection planIdOf hmatrix huses

/-! ### Days without dead ends -/

/-- A day of a family on which handoffs need no time and no event can be moved. -/
structure PlainDay (facts : DemoScenario) : Prop where
  family : FamilyScenario facts
  no_minimum : facts.policy.minimumHandoffMinutes = 0
  no_buffer : ∀ c ∈ facts.caregivers, c.handoffBufferMinutes = 0
  fixed : ∀ event ∈ facts.parentEvents, fixedEvent event = true

/-- Care cut to a part of its time is care of the day. -/
theorem CareOf.clip {p : FeasibleCarePrimitive} {window : CoverageWindow} (h : CareOf facts p)
    (hwithin : p.window.Contains window) : CareOf facts (clip p window) := by
  refine ⟨h.immutable, ?_⟩
  rcases h.carer with ⟨caregiver, hsource, hid, hlocation, hadmitted, available, ha, hcontains⟩ |
    ⟨hsource, hparent, hhome, hfree⟩
  · exact Or.inl ⟨caregiver, hsource, hid, hlocation, hadmitted, available, ha, hcontains.trans hwithin⟩
  · exact Or.inr ⟨hsource, hparent, hhome, hfree.of_contains hwithin⟩

/-- What stands for a segment in order is in order. -/
theorem SegmentOk.of_standsFor {p : FeasiblePrimitive} (h : SegmentOk facts segment) (hstands : p.StandsFor segment) :
    SegmentOk facts p.segment := by
  rcases hstands with ⟨hcare, rfl⟩ | ⟨htrip, rfl⟩
  · exact ⟨h.assignment, ⟨h.location.known, fun _ => h.location.care hcare, fun htrip => by cases htrip⟩, h.free⟩
  · obtain ⟨hknown, hne, htime, hdriver⟩ := h.location.trip htrip
    exact ⟨h.assignment, ⟨h.location.known, fun hcare => absurd rfl hcare, fun _ =>
      ⟨hknown, hne, htime, hdriver.capable, hdriver.available, hdriver.no_fixed_event⟩⟩, h.free⟩

/-- What stands for a segment that names no more than it needs does its work. -/
theorem survives_of_standsFor {p : FeasiblePrimitive} (hstands : p.StandsFor segment)
    (hplain : segment.segmentType = .care → segment.destinationLocationId = none ∧ segment.transporterId = none) :
    PreservedWorkSurvives segment p.segment := by
  rcases hstands with ⟨hcare, rfl⟩ | ⟨htrip, rfl⟩
  · exact survives_of_key rfl (segmentType_eq_care hcare) (hplain (segmentType_eq_care hcare))
  · exact (survives_preservedTransport_iff htrip).mpr ⟨Span.Contains.refl _, rfl, rfl, rfl, rfl, rfl, rfl⟩

/-- What replanning starts from is in order, if preserved work still is. -/
theorem segmentOk_of_mem_replanning (hfamily : FamilyScenario facts) {affectedWindows : List CoverageWindow}
    (hstill : ∀ s ∈ preserved, SegmentOk facts s) {p : FeasiblePrimitive}
    (hp : p ∈ candidatesOf (candidatePrimitives facts (some affectedWindows) (some preserved))) :
    SegmentOk facts p.segment := by
  rw [candidatePrimitives_some] at hp
  rcases List.mem_append.mp hp with hp | hp
  · obtain ⟨item, hitem, rfl⟩ := List.mem_map.mp hp
    rcases of_mem_replanning_care hitem with ⟨s, hcounts, rfl⟩ | ⟨hclip, -⟩
    · exact (hstill s hcounts.mem).of_standsFor (Or.inl ⟨hcounts.1, rfl⟩)
    · obtain ⟨q, hq, affected, -, window, hwindow, rfl⟩ := mem_clips.mp hclip
      have hcare := careOf_of_mem_carePrimitives hfamily hq
      exact CareOf.segmentOk hfamily (CareOf.clip hcare (contains_of_windowIntersection hwindow).1)
  · obtain ⟨item, hitem, rfl⟩ := List.mem_map.mp hp
    rcases of_mem_replanning_transport hitem with ⟨s, htype, hcounts, rfl⟩ | ⟨hscope, -⟩
    · exact (hstill s hcounts.mem).of_standsFor (Or.inr ⟨htype, rfl⟩)
    · exact TripOf.segmentOk hfamily (tripOf_of_mem_transportPrimitives hfamily (List.mem_filter.mp hscope).1)

/-- Where handoffs need no time, who begins when the other ends may follow. -/
theorem PlainDay.handoffOk (hday : PlainDay facts) {previous current : RecoveryPlanSegment}
    (hmeets : current.window.start = previous.window.end_) : HandoffOk facts previous current := by
  refine ⟨hmeets.le, fun _ => hmeets, fun _ => ?_⟩
  rw [requiredBuffer_eq_zero hday.no_minimum hday.no_buffer, actualOverlap, hmeets, sub_self]
  rfl

/-- **On a plain day a way through the day with all preserved work is a way out.** -/
theorem PlainDay.wayOut (hday : PlainDay facts) {affectedWindows : List CoverageWindow} {legs : List Leg}
    {home : String}
    (hmatrix : buildFeasibleAssignmentMatrix facts (some affectedWindows) (some preserved) = .ok matrix)
    (hpath : FullPath legs facts.requiredCoverage home (line.map (·.leg))) (hline : ∀ p ∈ line, p ∈ matrix.primitives)
    (hkept : ∀ s ∈ preserved, ∃ p ∈ line, p.StandsFor s) (hstill : ∀ s ∈ preserved, SegmentOk facts s)
    (hplain : PlainCare preserved) : WayOut facts matrix preserved line := by
  have hmeets : line.IsChain fun p q => q.segment.window.start = p.segment.window.end_ :=
    (List.isChain_map _).mp hpath.meets
  refine
    { in_order := hpath.inOrder
      begins := hpath.head?_start
      ends := hpath.getLast?_end
      handoffs := hmeets.imp fun p q hpq => hday.handoffOk hpq
      moves := ?_
      segment_ok := fun p hp => segmentOk_of_mem_replanning hday.family hstill (mem_candidatesOf hmatrix (hline p hp))
      trips_free := ?_
      mem := hline
      keeps := fun p hp himmutable => mem_line_of_immutable hmatrix hkept hp himmutable
      survives := ?_ }
  · refine ((List.isChain_map _).mp hpath.connected).imp fun p q hpq => ?_
    have hedges : (segmentEdge p.segment).2 = (segmentEdge q.segment).1 := by
      rw [segmentEdge_segment, segmentEdge_segment]
      exact hpq
    exact (Prod.mk.inj hedges).2
  · intro p _ _ _ event hevent _ hmoves
    rw [hday.fixed event hevent] at hmoves
    cases hmoves
  · intro s hs
    obtain ⟨p, hp, hstands⟩ := hkept s hs
    exact ⟨p, hp, survives_of_standsFor hstands (hplain s hs)⟩

/-- **On a plain day selection mode is no dead end**, where the segments of the plan do not overlap and preserved work
is still in order. -/
theorem PlainDay.exists_accepted_selection (hday : PlainDay facts) {scenario : DemoScenario} {active : RecoveryPlan}
    {outcome : InvalidationOutcome} (planIdOf : List String → String)
    (hpart : Partitions outcome active scenario.requiredCoverage) (haccepted : Accepted active scenario)
    (hapart : SegmentsApart active) (hrequired : facts.requiredCoverage = scenario.requiredCoverage)
    (hmatrix : buildFeasibleAssignmentMatrix facts (some outcome.uncoveredWindows) (some outcome.preservedSegments) =
      .ok input.feasibleAssignmentMatrix) (huses : usesPrimitiveSelection input = .ok true)
    (hstill : ∀ s ∈ outcome.preservedSegments, SegmentOk facts s) (hplain : PlainCare outcome.preservedSegments) :
    ∃ selection repaired, materializePrimitiveSelection planIdOf selection input.feasibleAssignmentMatrix =
        .ok repaired ∧ (validateRepair repaired facts outcome.preservedSegments).valid = true := by
  obtain ⟨p, hp⟩ := exists_mem_primitives_of_usesPrimitiveSelection huses
  obtain ⟨line, hpath, hline, -⟩ := exists_path_of_mem_primitives hmatrix hp
  have hkept : ∀ s ∈ outcome.preservedSegments, ∃ q ∈ line, q.StandsFor s := by
    intro s hs
    have hpath' := hpath
    rw [hrequired] at hpath'
    exact hpart.mem_path haccepted hapart hpath' (fun q hq => mem_candidatesOf hmatrix (hline q hq)) hs
  exact (hday.wayOut hmatrix hpath hline hkept hstill hplain).exists_selection planIdOf hmatrix huses

/-! ### Three sitters -/

/-- A day on which both parents work. Whoever hands the child to the third sitter must stay a while. -/
def threeSitters (handoffBufferMinutes : ℕ) : DemoScenario :=
  workday [sitter "kim" [minutes 0 60], sitter "lee" [minutes 60 120],
    { sitter "ana" [minutes 0 120] with handoffBufferMinutes }]

/-- What the orchestrator answers to the decline. -/
def coverTheRest : ReplanningBriefDecision :=
  { planningRequired := true
    objective := "Cover the rest of the day."
    relevantConstraintCategories := [.coverage]
    objective_length := by decide
    ids_length := by decide
    categories_length := by decide
    directives_length := by decide }

/-- What the planner is given when the second sitter declines. -/
def plannerAfterDecline (handoffBufferMinutes : ℕ) :
    Except PlanningFailure (InvalidationOutcome × PlanningBrief × PlannerInvocationInput) := do
  let outcome ← liftFailure (applyCaregiverDecline (caseWith turnsPlan)
    (sitterDeclines "lee" (minutes 60 120) (by decide)) (threeSitters handoffBufferMinutes))
  let brief ← createReplanningBrief (some (.decision coverTheRest)) outcome
  let input ← buildPlannerInvocationInput .replanning brief outcome.updatedScenario none []
  pure (outcome, brief, input)

/-- The first sitter stays. -/
def kimStays : FeasiblePrimitive :=
  .care
    { primitiveId := "first", assignedPersonId := "kim", source := .caregiver, window := minutes 0 60
      locationId := "family_home", locationLabel := "Family home", immutable := true }

/-- The third sitter follows. -/
def anaFollows : FeasiblePrimitive :=
  .care
    { primitiveId := "care:ana:3600000000", assignedPersonId := "ana", source := .caregiver, window := minutes 60 120
      locationId := "family_home", locationLabel := "Family home" }

/-- The third sitter comes ten minutes earlier. -/
def anaComesEarlier : RecoveryPlan :=
  { planId := "overlap"
    coverageSegments :=
      [care "first" "kim" .caregiver (minutes 0 60), care "second" "ana" .caregiver (minutes 50 120)] }

/-- The only line is the first sitter's time and then the third's, -/
theorem WayOut.eq_of_two (h : WayOut facts matrix preserved line) (hmatrix : matrix.primitives = [kimStays, anaFollows])
    (hrequired : facts.requiredCoverage = minutes 0 120) : line = [kimStays, anaFollows] := by
  have hbegins := h.begins
  have hends := h.ends
  rw [hrequired] at hbegins hends
  have hof : ∀ p ∈ line, p = kimStays ∨ p = anaFollows := by
    intro p hp
    have hmem := h.mem p hp
    rw [hmatrix] at hmem
    simpa using hmem
  have hkim : kimStays ∈ line := h.keeps _ (hmatrix ▸ List.mem_cons_self ..) rfl
  have hana : anaFollows ∈ line := by
    obtain ⟨last, hlast, hend⟩ := Option.map_eq_some_iff.mp hends
    rcases hof last (List.mem_of_getLast? hlast) with rfl | rfl
    · exact absurd hend (by decide)
    · exact List.mem_of_getLast? hlast
  have hperm : line.Perm [kimStays, anaFollows] := by
    refine (List.perm_ext_iff_of_nodup h.in_order.nodup (by decide)).mpr fun p => ⟨fun hp => ?_, fun hp => ?_⟩
    · simpa using hof p hp
    · rcases List.mem_pair.mp hp with rfl | rfl
      · exact hkim
      · exact hana
  have hother : line ≠ [anaFollows, kimStays] := by
    rintro rfl
    exact absurd (Option.some.inj hbegins) (by decide)
  exact (List.perm_pair.mp hperm).resolve_right hother

/-- which is a way out if the third sitter needs no time. -/
theorem exists_accepted_selection_iff_threeSitters :
    ∃ outcome brief input, plannerAfterDecline 0 = .ok (outcome, brief, input) ∧
      usesPrimitiveSelection input = .ok true ∧
      ((∃ selection repaired, materializePrimitiveSelection (materializedPlanId ", ".intercalate) selection
          input.feasibleAssignmentMatrix = .ok repaired ∧
          (validateRepair repaired outcome.updatedScenario brief.preservedSegments).valid = true) ↔
        ∃ line, WayOut outcome.updatedScenario input.feasibleAssignmentMatrix brief.preservedSegments line) := by
  have hseen : (plannerAfterDecline 0).toOption.map (fun given =>
      decide (usesPrimitiveSelection given.2.2 = .ok true)) = some true := by decide +kernel
  obtain ⟨⟨outcome, brief, input⟩, hafter, huses⟩ := exists_ok_of_toOption hseen
  have hrun := hafter
  simp only [plannerAfterDecline, bind_eq_ok] at hrun
  obtain ⟨outcome', -, brief', -, input', hinput, hsame⟩ := hrun
  cases hsame
  exact ⟨outcome, brief, input, hafter, of_decide_eq_true huses,
    exists_accepted_selection_iff _ hinput (of_decide_eq_true huses)⟩

/-- **A handoff that needs time is a dead end**: the mode is on, everything that can be selected is rejected, and with
the third sitter ten minutes earlier the plan would be accepted. -/
theorem handoff_is_dead_end :
    (validate (materializeCaregiverAssumptions turnsPlan) (threeSitters 10)).valid = true ∧
    ∃ outcome brief input,
      applyCaregiverDecline (caseWith turnsPlan) (sitterDeclines "lee" (minutes 60 120) (by decide)) (threeSitters 10) =
        .ok outcome ∧
      createReplanningBrief (some (.decision coverTheRest)) outcome = .ok brief ∧
      buildPlannerInvocationInput .replanning brief outcome.updatedScenario none [] = .ok input ∧
      usesPrimitiveSelection input = .ok true ∧
      (∀ (planIdOf : List String → String) (selection : PrimitiveSelection) (repaired : RecoveryPlan),
        materializePrimitiveSelection planIdOf selection input.feasibleAssignmentMatrix = .ok repaired →
          (validateRepair repaired outcome.updatedScenario brief.preservedSegments).valid = false) ∧
      (validateRepair anaComesEarlier outcome.updatedScenario brief.preservedSegments).valid = true := by
  refine ⟨by decide +kernel, ?_⟩
  have hseen : (plannerAfterDecline 10).toOption.map (fun given =>
      decide (usesPrimitiveSelection given.2.2 = .ok true ∧
        given.2.2.feasibleAssignmentMatrix.primitives = [kimStays, anaFollows] ∧
        given.1.updatedScenario.requiredCoverage = minutes 0 120 ∧
        requiredBuffer given.1.updatedScenario (caregiverDict given.1.updatedScenario.caregivers)
          anaFollows.segment = 10 ∧
        (validateRepair anaComesEarlier given.1.updatedScenario given.2.1.preservedSegments).valid = true)) =
      some true := by decide +kernel
  obtain ⟨⟨outcome, brief, input⟩, hafter, hfacts⟩ := exists_ok_of_toOption hseen
  obtain ⟨huses, hprimitives, hrequired, hbuffer, hearlier⟩ := of_decide_eq_true hfacts
  simp only [plannerAfterDecline, bind_eq_ok] at hafter
  obtain ⟨outcome', happly, brief', hbrief, input', hinput, hsame⟩ := hafter
  cases hsame
  refine ⟨outcome, brief, input, liftFailure_eq_ok.mp happly, hbrief, hinput, huses, ?_, hearlier⟩
  intro planIdOf selection repaired hrepaired
  rw [Bool.eq_false_iff]
  intro hvalid
  obtain ⟨line, hline⟩ := exists_wayOut hrepaired hvalid
  have hhandoffs := hline.handoffs
  rw [hline.eq_of_two hprimitives hrequired, List.isChain_pair] at hhandoffs
  have hoverlap := hhandoffs.buffer (by decide)
  rw [hbuffer] at hoverlap
  exact absurd hoverlap (by decide)

end DayMend.Validation
