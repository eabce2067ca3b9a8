import DayMend.Agent.PathSelections
import DayMend.Agent.PlannerInput

/-!
# When whole primitives are selected

Selection mode is on for a replanning whose matrix offers anything, unless a parent would
have to move an event to look after the child (`usesPrimitiveSelection_eq_true_iff`,
`not_overlaps_of_usesPrimitiveSelection`). In this mode a plan is a line of primitives in
the order of time, which needs nothing but its primitives (`exists_line`,
`exists_selection_of_line`).
-/

namespace DayMend.Agent

open DayMend.Base DayMend.Models DayMend.Fixtures DayMend.Services

variable {scenario : DemoScenario} {matrix : FeasibleAssignmentMatrix} {windows : Option (List CoverageWindow)}
  {segments : Option (List RecoveryPlanSegment)} {input : PlannerInvocationInput} {personId : String}
  {constraints : List MovableCalendarConstraint} {event : CalendarEvent} {selection : PrimitiveSelection}
  {line : List FeasiblePrimitive} {planIdOf : List String → String}

/-! ### The mode -/

/-- No care asks a parent to move an event when every parent with care is listed and has no such event then. -/
theorem hasUnmaterializedCalendarChanges_eq_false_iff :
    hasUnmaterializedCalendarChanges matrix = .ok false ↔
      ∀ p ∈ matrix.carePrimitives, p.source = .parent →
        ∃ constraints, movableConstraints matrix p.assignedPersonId = .ok constraints ∧
          ∀ constraint ∈ constraints, ¬ constraint.window.Overlaps p.window := by
  rw [hasUnmaterializedCalendarChanges, anyM_eq_ok_false_iff]
  refine forall₂_congr fun p _ => ?_
  by_cases hsource : p.source = .parent
  · rw [if_pos hsource, bind_eq_ok, imp_iff_right hsource]
    refine exists_congr fun constraints => and_congr_right fun _ => ?_
    simp [pure, Except.pure]
  · simp [hsource, pure, Except.pure]

/-- **When the mode is on.** -/
theorem usesPrimitiveSelection_eq_true_iff :
    usesPrimitiveSelection input = .ok true ↔
      input.planningBrief.planningMode = .worldStateReplan ∧
        ¬ (input.feasibleAssignmentMatrix.carePrimitives = [] ∧
          input.feasibleAssignmentMatrix.transportPrimitives = []) ∧
        hasUnmaterializedCalendarChanges input.feasibleAssignmentMatrix = .ok false := by
  unfold usesPrimitiveSelection
  dsimp only
  split
  next h =>
    rw [bind_eq_ok, and_iff_right h.1, and_iff_right h.2]
    constructor
    · rintro ⟨changes, hchanges, hnot⟩
      cases changes with
      | false => exact hchanges
      | true => cases hnot
    · intro hchanges
      exact ⟨false, hchanges, rfl⟩
  next h =>
    refine iff_of_false nofun ?_
    rintro ⟨hmode, hsome, -⟩
    exact h ⟨hmode, hsome⟩

theorem exists_mem_primitives_of_usesPrimitiveSelection (huses : usesPrimitiveSelection input = .ok true) :
    ∃ p, p ∈ input.feasibleAssignmentMatrix.primitives := by
  obtain ⟨-, hsome, -⟩ := usesPrimitiveSelection_eq_true_iff.mp huses
  refine List.exists_mem_of_ne_nil _ fun hnil => hsome ?_
  obtain ⟨hcare, htransport⟩ := List.append_eq_nil_iff.mp hnil
  exact ⟨List.map_eq_nil_iff.mp hcare, List.map_eq_nil_iff.mp htransport⟩

/-! ### Whose events may be moved -/

theorem people_of_build (hmatrix : buildFeasibleAssignmentMatrix scenario windows segments = .ok matrix) :
    matrix.people =
      (caregiverAssignments scenario ++ parentAssignments scenario).insertionSort fun p q => personLe p q := by
  unfold buildFeasibleAssignmentMatrix at hmatrix
  extract_lets required home transport care candidates pruned at hmatrix
  split at hmatrix
  · obtain rfl := Except.ok.inj hmatrix
    rfl
  · cases hmatrix

/-- People are listed in order, caregivers first. -/
theorem source_of_personLe {p q : FeasiblePersonAssignment} (h : personLe p q = true) (hp : p.source = .parent) :
    q.source = .parent := by
  unfold personLe at h
  cases hq : q.source with
  | parent => rfl
  | caregiver =>
    rw [hp, hq] at h
    revert h
    have hlt : compare CoverageSource.parent.value CoverageSource.caregiver.value = .gt := by decide
    rw [hlt]
    nofun

/-- The comparison of people: caregivers first. -/
def personCmp : FeasiblePersonAssignment → FeasiblePersonAssignment → Ordering :=
  compareLex (compareOn (·.source.value)) (compareOn (·.personId))

instance : Std.TransCmp personCmp :=
  inferInstanceAs (Std.TransCmp (compareLex (compareOn fun p : FeasiblePersonAssignment => p.source.value)
    (compareOn (·.personId))))

theorem pairwise_personCmp (people : List FeasiblePersonAssignment) :
    (sortBy personCmp people).Pairwise fun p q => (personCmp p q).isLE := pairwise_sortBy people

/-- Where a caregiver has a parent's identifier, the parent counts. -/
theorem source_of_get?_people (hmatrix : buildFeasibleAssignmentMatrix scenario windows segments = .ok matrix)
    {person parent : FeasiblePersonAssignment}
    (h : (Dict.ofList (matrix.people.map fun person => (person.personId, person))).get? parent.personId = some person)
    (hparent : parent ∈ parentAssignments scenario) : person.source = .parent := by
  have hsource : parent.source = .parent := by
    obtain ⟨calendar, -, rfl⟩ := List.mem_map.mp hparent
    rfl
  have hpeople : matrix.people = sortBy personCmp (caregiverAssignments scenario ++ parentAssignments scenario) :=
    people_of_build hmatrix
  rw [hpeople] at h
  have hsorted : (sortBy personCmp (caregiverAssignments scenario ++ parentAssignments scenario)).Pairwise
      fun p q => personLe p q = true := pairwise_personCmp _
  have hentries : ((sortBy personCmp (caregiverAssignments scenario ++ parentAssignments scenario)).map
      fun person => (person.personId, person)).Pairwise fun p q => personLe p.2 q.2 = true :=
    List.pairwise_map.mpr hsorted
  have hmem : (parent.personId, parent) ∈ (sortBy personCmp (caregiverAssignments scenario ++
      parentAssignments scenario)).map fun person => (person.personId, person) :=
    List.mem_map.mpr ⟨parent, mem_sortBy.mpr (List.mem_append_right _ hparent), rfl⟩
  rcases Dict.eq_or_rel_of_get?_ofList hentries h hmem with rfl | hle
  · exact hsource
  · exact source_of_personLe hle hsource

/-- **Every movable event of a parent** is a constraint on the parent. -/
theorem mem_movableConstraints (hmatrix : buildFeasibleAssignmentMatrix scenario windows segments = .ok matrix)
    (hparent : personId ∈ scenario.parentIds) (h : movableConstraints matrix personId = .ok constraints)
    (hevent : event ∈ scenario.parentEvents) (howner : event.ownerId = personId) (hmoves : fixedEvent event = false) :
    { eventId := event.eventId, window := event.window } ∈ constraints := by
  obtain ⟨calendar, hcalendar, rfl⟩ := exists_mem_sortedParents hparent
  unfold movableConstraints at h
  dsimp only at h
  split at h
  next person hperson =>
    obtain rfl := Except.ok.inj h
    have hsource := source_of_get?_people hmatrix hperson (List.mem_map_of_mem hcalendar)
    obtain ⟨listed, hlisted, heq⟩ := List.mem_map.mp (Dict.mem_of_get?_ofList hperson)
    obtain ⟨hid, rfl⟩ := Prod.mk.inj heq
    rw [people_of_build hmatrix, List.mem_insertionSort, List.mem_append] at hlisted
    rcases hlisted with hlisted | hlisted
    · obtain ⟨caregiver, -, rfl⟩ := List.mem_map.mp hlisted
      cases hsource
    · obtain ⟨other, hother, rfl⟩ := List.mem_map.mp hlisted
      refine List.mem_map.mpr ⟨event, List.mem_filter.mpr ⟨?_, ?_⟩, rfl⟩
      · exact (calendarOf_of_mem_sortedParents hother).events event hevent (howner.trans hid.symm)
      · simpa [fixedEvent, and_comm] using hmoves
  next => cases h

/-- **In selection mode no care falls into an event that its parent could move.** -/
theorem not_overlaps_of_usesPrimitiveSelection
    (hmatrix : buildFeasibleAssignmentMatrix scenario windows segments = .ok input.feasibleAssignmentMatrix)
    (huses : usesPrimitiveSelection input = .ok true) {p : FeasibleCarePrimitive}
    (hp : p ∈ input.feasibleAssignmentMatrix.carePrimitives) (hsource : p.source = .parent)
    (hparent : p.assignedPersonId ∈ scenario.parentIds) (hevent : event ∈ scenario.parentEvents)
    (howner : event.ownerId = p.assignedPersonId) (hmoves : fixedEvent event = false) :
    ¬ p.window.Overlaps event.window := by
  obtain ⟨-, -, hchanges⟩ := usesPrimitiveSelection_eq_true_iff.mp huses
  obtain ⟨constraints, hconstraints, hnone⟩ := hasUnmaterializedCalendarChanges_eq_false_iff.mp hchanges p hp hsource
  intro hoverlaps
  exact hnone _ (mem_movableConstraints hmatrix hparent hconstraints hevent howner hmoves)
    (Span.overlaps_comm.mp hoverlaps)

/-! ### Lines of primitives -/

/-- The primitives come in the order of segments. -/
def InOrder (line : List FeasiblePrimitive) : Prop := line.Pairwise fun p q => segmentCmp p.segment q.segment = .lt

theorem InOrder.nodup (h : InOrder line) : line.Nodup := by
  refine h.imp fun {p q} hlt heq => ?_
  have hself : segmentCmp q.segment q.segment = .eq := Std.ReflCmp.compare_self
  rw [heq, hself] at hlt
  cases hlt

/-- A way through the day is in order. -/
theorem FullPath.inOrder {legs : List Leg} {required : CoverageWindow} {home : String}
    (h : FullPath legs required home (line.map (·.leg))) : InOrder line := by
  have hafter := List.pairwise_map.mp (Span.pairwise_of_isChain_meets h.meets)
  refine hafter.imp fun {p q} hle => ?_
  have hlt : compare p.segment.window.start q.segment.window.start = .lt :=
    Int.compare_eq_lt.mpr (p.segment.window.start_lt_end.trans_le hle)
  simp only [segmentCmp, compareLex, compareOn, hlt, Ordering.then]

/-- The segments of a line are sorted, -/
theorem InOrder.sortBy_eq (h : InOrder line) :
    sortBy segmentCmp (line.map (·.segment)) = line.map (·.segment) := by
  refine sortBy_eq_self (List.pairwise_map.mpr (h.imp fun {p q} hlt => ?_))
  rw [hlt]
  rfl

/-- as the validator sorts them. -/
theorem InOrder.sortedSegments_eq (h : InOrder line) :
    sortedSegments (line.map (·.segment)) = line.map (·.segment) := by
  refine List.Pairwise.insertionSort_eq (List.pairwise_map.mpr (h.imp fun {p q} hlt => lexLe_of_segmentCmp ?_))
  rw [hlt]
  rfl

/-- **A selection is a line**: its primitives in order. -/
theorem exists_line (planIdOf : List String → String) (hknown : ¬ SelectsUnknown selection matrix) :
    ∃ line, InOrder line ∧
      (∀ p, p ∈ line ↔ p ∈ matrix.primitives ∧ p.primitiveId ∈ selection.selectedPrimitiveIds) ∧
      (selectedPlan planIdOf selection matrix).coverageSegments = line.map (·.segment) := by
  obtain ⟨line, hperm, hsegments⟩ := exists_primitives_of_segments planIdOf selection matrix
  refine ⟨line, ?_, fun p => hperm.mem_iff.trans mem_selectedPrimitives, hsegments⟩
  have hsorted : (line.map (·.segment)).Pairwise fun s t => (segmentCmp s t).isLE := by
    rw [← hsegments]
    exact pairwise_sortBy _
  have hids : ((selectedPrimitives selection matrix).map (·.primitiveId)).Nodup := by
    rw [map_selectedPrimitives (exists_of_not_selectsUnknown hknown)]
    exact selection.selected_ids_are_unique
  have hdistinct : line.Pairwise fun p q => p.primitiveId ≠ q.primitiveId :=
    List.pairwise_map.mp ((hperm.map _).nodup_iff.mpr hids)
  refine ((List.pairwise_map.mp hsorted).and hdistinct).imp fun {p q} hpq => ?_
  obtain ⟨hle, hne⟩ := hpq
  cases hcmp : segmentCmp p.segment q.segment with
  | lt => rfl
  | eq =>
    have hid := segmentId_eq_of_segmentCmp hcmp
    rw [segmentId_segment, segmentId_segment] at hid
    exact absurd hid hne
  | gt =>
    rw [hcmp] at hle
    cases hle

/-- The selected primitives of a line are the line. -/
theorem selectedPrimitives_eq (hline : ∀ p ∈ line, p ∈ matrix.primitives)
    (hselection : selection.selectedPrimitiveIds = line.map (·.primitiveId)) :
    selectedPrimitives selection matrix = line := by
  have hfound : ∀ p ∈ line, (matrix.byId.get? ∘ (·.primitiveId)) p = some p :=
    fun p hp => get?_byId_eq_some_iff.mpr ⟨hline p hp, rfl⟩
  rw [selectedPrimitives, hselection, List.filterMap_map, List.filterMap_congr hfound, List.filterMap_some]

/-- **A line can be selected**, if nothing that must be kept is off it. -/
theorem exists_selection_of_line (planIdOf : List String → String) (hne : line ≠ []) (horder : InOrder line)
    (hline : ∀ p ∈ line, p ∈ matrix.primitives) (himmutable : ∀ p ∈ matrix.primitives, p.immutable = true → p ∈ line) :
    ∃ selection plan, materializePrimitiveSelection planIdOf selection matrix = .ok plan ∧
      plan.coverageSegments = line.map (·.segment) ∧ plan.calendarChanges = [] := by
  have hids : (line.map (·.primitiveId)).Nodup := nodup_primitiveIds_of_nodup horder.nodup hline
  have hselection : (PrimitiveSelection.mk (line.map (·.primitiveId)) (fun hnil => hne (List.map_eq_nil_iff.mp hnil))
      hids).selectedPrimitiveIds = line.map (·.primitiveId) := rfl
  obtain ⟨plan, hplan, -, hchanges⟩ := exists_materialized planIdOf hselection hline
    fun p hp himm => List.mem_map_of_mem (himmutable p hp himm)
  refine ⟨_, plan, hplan, ?_, hchanges⟩
  obtain ⟨-, -, rfl⟩ := materializePrimitiveSelection_eq_ok_iff.mp hplan
  rw [selectedPlan, selectedPrimitives_eq hline hselection]
  exact horder.sortBy_eq

end DayMend.Agent
