import DayMend.Agent.PathSelections
import DayMend.Validation.KnownOptions

/-!
# Plans of primitives are valid

The planner computes its primitives from the facts of the day, and the validator checks
plans against the same facts, each with rules of its own for trust, availability, travel
and calendars. They agree: a plan that strings primitives of the matrix together, from
home at the beginning to the end of the required window, has no issue but missing handoff
buffers and events to be moved, which the matrix leaves to the planner
(`issues_of_materialized`).
-/

namespace DayMend.Validation

open DayMend.Base DayMend.Models DayMend.Fixtures DayMend.Services DayMend.Agent

variable {scenario : DemoScenario} {caregiver : Caregiver} {segment previous current : RecoveryPlanSegment}
  {matrix : FeasibleAssignmentMatrix} {path : List FeasiblePrimitive} {plan : RecoveryPlan}

/-! ### People and places, as the validator sees them -/

theorem Admitted.knows (hfamily : FamilyScenario scenario) (h : Admitted scenario caregiver) :
    Knows scenario caregiver.caregiverId caregiver :=
  get?_caregiverDict_of_mem hfamily.nodup_caregiverIds h.mem

theorem Admitted.eligible {window : CoverageWindow} (h : Admitted scenario caregiver)
    (havailable : IsCovered window caregiver.availability) : Eligible scenario caregiver window := by
  refine ⟨h.not_unavailable, h.external_allowed, fun hrequired => ?_, havailable⟩
  rcases h.trusted with htrusted | ⟨hrequire, hallowed⟩
  · exact htrusted
  · simp [trustRequired, hrequire, hallowed] at hrequired

/-- A parent is nobody's caregiver. -/
theorem not_knows_parent (hfamily : FamilyScenario scenario) {parentId : String} (h : parentId ∈ scenario.parentIds) :
    ¬ Knows scenario parentId caregiver := by
  intro hk
  obtain ⟨hmem, rfl⟩ := caregiverId_of_get? hk
  exact (hfamily.no_parent caregiver hmem).1 h

theorem mem_values_of_knows {id : String} (h : Knows scenario id caregiver) :
    caregiver ∈ (caregiverDict scenario.caregivers).values :=
  List.mem_map_of_mem (f := Prod.snd) (Dict.mem_entries_of_get? h)

theorem mem_knownLocations {id : String} (h : Knows scenario id caregiver) :
    caregiver.locationId ∈ knownLocations scenario (caregiverDict scenario.caregivers) :=
  List.mem_cons_of_mem _ (List.mem_map_of_mem (mem_values_of_knows h))

/-- A caregiver who counts is in the list. -/
theorem mem_caregivers_of_mem_values (h : caregiver ∈ (caregiverDict scenario.caregivers).values) :
    caregiver ∈ scenario.caregivers := by
  obtain ⟨entry, hentry, rfl⟩ := List.mem_map.mp h
  obtain ⟨listed, hlisted, rfl⟩ := List.mem_map.mp (Dict.mem_of_mem_entries_ofList hentry)
  exact hlisted

/-- Where everybody at a place is as far away, the travel time to a caregiver's place is the caregiver's. -/
theorem get?_travelFromHome_of_mem (hnodup : (scenario.caregivers.map (·.caregiverId)).Nodup)
    (htravel : ∀ c ∈ scenario.caregivers, ∀ d ∈ scenario.caregivers, c.locationId = d.locationId →
      c.travelMinutesFromFamilyHome = d.travelMinutesFromFamilyHome)
    (h : caregiver ∈ scenario.caregivers) (haway : caregiver.locationId ≠ scenario.familyHomeLocationId) :
    (travelFromHome scenario (caregiverDict scenario.caregivers)).get? caregiver.locationId =
      some caregiver.travelMinutesFromFamilyHome := by
  have hknows : Knows scenario caregiver.caregiverId caregiver := get?_caregiverDict_of_mem hnodup h
  have hlisted : (caregiver.locationId, caregiver.travelMinutesFromFamilyHome) ∈
      ((caregiverDict scenario.caregivers).values.filter fun c =>
        c.locationId ≠ scenario.familyHomeLocationId).map fun c => (c.locationId, c.travelMinutesFromFamilyHome) :=
    List.mem_map_of_mem (List.mem_filter.mpr ⟨mem_values_of_knows hknows, decide_eq_true haway⟩)
  obtain ⟨travel, hfound⟩ := Dict.exists_get?_of_mem (List.mem_map_of_mem (f := Prod.fst) hlisted)
  obtain ⟨other, hother, heq⟩ := List.mem_map.mp (Dict.mem_of_get?_ofList hfound)
  obtain ⟨hlocation, rfl⟩ := Prod.mk.inj heq
  have hmem := mem_caregivers_of_mem_values (List.mem_filter.mp hother).1
  rw [travelFromHome, hfound, htravel other hmem caregiver h hlocation]

theorem get?_travelFromHome (hfamily : FamilyScenario scenario) (h : Admitted scenario caregiver)
    (haway : caregiver.locationId ≠ scenario.familyHomeLocationId) :
    (travelFromHome scenario (caregiverDict scenario.caregivers)).get? caregiver.locationId =
      some caregiver.travelMinutesFromFamilyHome :=
  get?_travelFromHome_of_mem hfamily.nodup_caregiverIds hfamily.travel_eq h.mem haway

/-! ### One segment -/

/-- What the validator finds in order about a segment that was a primitive. -/
structure SegmentOk (scenario : DemoScenario) (segment : RecoveryPlanSegment) : Prop where
  assignment : AssignmentOk scenario segment
  location : LocationOk scenario segment
  free : segment.source = .parent → FreeOfFixed scenario segment.assignedPersonId segment.window

theorem CareOf.segmentOk {p : FeasibleCarePrimitive} (hfamily : FamilyScenario scenario) (h : CareOf scenario p) :
    SegmentOk scenario (FeasiblePrimitive.care p).segment := by
  rcases h.carer with ⟨caregiver, hsource, hid, hlocation, hadmitted, havailable⟩ | ⟨hsource, hparent, hhome, hfree⟩
  · have hknows := Admitted.knows hfamily hadmitted
    refine ⟨?_, ⟨?_, fun _ other hother => ?_, fun ht => by cases ht⟩, fun hp => ?_⟩
    · simp only [AssignmentOk, FeasiblePrimitive.segment, hsource, hid]
      exact ⟨caregiver, hknows, Admitted.eligible hadmitted havailable⟩
    · have hplace := mem_knownLocations hknows
      rw [← hlocation] at hplace
      exact hplace
    · rw [FeasiblePrimitive.segment, hid] at hother
      rw [← Option.some.inj (hknows.symm.trans hother)]
      exact hlocation
    · rw [FeasiblePrimitive.segment, hsource] at hp
      cases hp
  · refine ⟨?_, ⟨?_, fun _ other hother => ?_, fun ht => by cases ht⟩, fun _ => hfree⟩
    · simp only [AssignmentOk, FeasiblePrimitive.segment, hsource]
      exact hparent
    · exact List.mem_cons.mpr (Or.inl hhome)
    · exact absurd hother (not_knows_parent hfamily hparent)

theorem ParentDrives.transporterOk {parentId : String} (h : ParentDrives scenario parentId segment.window) :
    TransporterOk scenario segment parentId := by
  obtain ⟨capability, hcapability, hcan, hcovered⟩ := h.capability
  refine ⟨?_, ?_, fun event hevent howner ho => ?_⟩
  · simp [transporterCapable, hcapability, hcan]
  · rw [hcapability]
    exact hcovered
  · have hnot : ¬ fixedEvent event = true := fun hfixed => h.free event hevent howner hfixed ho
    simpa [fixedEvent] using hnot

theorem CaregiverDrives.transporterOk (hfamily : FamilyScenario scenario)
    (h : CaregiverDrives scenario caregiver segment.window) :
    TransporterOk scenario segment caregiver.caregiverId := by
  obtain ⟨-, hcapabilities, howners⟩ := hfamily.no_parent caregiver h.admitted.mem
  have hnone : (parentTransport scenario.parentTransportCapabilities).get? caregiver.caregiverId = none := by
    rw [Option.eq_none_iff_forall_ne_some]
    intro capability hcapability
    obtain ⟨item, hitem, heq⟩ := List.mem_map.mp (Dict.mem_of_get?_ofList hcapability)
    exact hcapabilities (List.mem_map.mpr ⟨item, hitem, (Prod.mk.inj heq).1⟩)
  have hknows := Admitted.knows hfamily h.admitted
  rw [Knows] at hknows
  refine ⟨?_, ?_, fun event hevent howner => ?_⟩
  · rw [hnone, hknows]
    cases hexternal : caregiver.externalProvider with
    | false => simp [transporterCapable, h.canTransportChild, hexternal]
    | true =>
      simp [transporterCapable, h.canTransportChild, h.external_allowed hexternal,
        h.admitted.external_allowed hexternal]
  · rw [hnone, hknows]
    exact h.available
  · exact absurd (List.mem_map.mpr ⟨event, hevent, howner⟩) howners

/-- The ends of a trip are known places, with a travel time between them. -/
theorem TripOf.travel {trip : FeasibleTransportPrimitive} (hfamily : FamilyScenario scenario)
    (h : TripOf scenario trip) :
    trip.locationId ∈ knownLocations scenario (caregiverDict scenario.caregivers) ∧
      trip.destinationLocationId ∈ knownLocations scenario (caregiverDict scenario.caregivers) ∧
        trip.destinationLocationId ≠ trip.locationId ∧
          ∃ minutes : ℕ, travelMinutes trip.locationId trip.destinationLocationId scenario.familyHomeLocationId
            (travelFromHome scenario (caregiverDict scenario.caregivers)) = some minutes ∧
              minutes ≤ wholeMinutes (trip.window.end_ - trip.window.start) := by
  obtain ⟨caregiver, hadmitted, haway, hends, hduration⟩ := h.place
  have hplace := mem_knownLocations (Admitted.knows hfamily hadmitted)
  have hhome : scenario.familyHomeLocationId ∈ knownLocations scenario (caregiverDict scenario.caregivers) :=
    List.mem_cons_self ..
  have htravel := get?_travelFromHome hfamily hadmitted haway
  have hlong : (caregiver.travelMinutesFromFamilyHome : ℤ) ≤ wholeMinutes (trip.window.end_ - trip.window.start) := by
    rw [hduration, wholeMinutes, Int.mul_ediv_cancel _ (by decide)]
  rcases hends with ⟨horigin, hdestination⟩ | ⟨horigin, hdestination⟩
  · rw [horigin, hdestination]
    refine ⟨hhome, hplace, haway, _, ?_, hlong⟩
    rw [travelMinutes, if_neg haway.symm, if_pos rfl, htravel]
  · rw [horigin, hdestination]
    refine ⟨hplace, hhome, haway.symm, _, ?_, hlong⟩
    rw [travelMinutes, if_neg haway, if_neg haway, if_pos rfl, htravel]

theorem TripOf.segmentOk {trip : FeasibleTransportPrimitive} (hfamily : FamilyScenario scenario)
    (h : TripOf scenario trip) : SegmentOk scenario (FeasiblePrimitive.transport trip).segment := by
  obtain ⟨horigin, hdestination, hne, htime⟩ := TripOf.travel hfamily h
  have htransporter : TransporterOk scenario (FeasiblePrimitive.transport trip).segment trip.transporterId := by
    rcases h.driver with ⟨-, hdrives⟩ | ⟨driver, -, hid, hdrives⟩
    · exact ParentDrives.transporterOk hdrives
    · rw [hid]
      exact CaregiverDrives.transporterOk hfamily hdrives
  refine ⟨?_, ⟨horigin, fun hcare => absurd rfl hcare, fun _ => ⟨hdestination, hne, htime, htransporter⟩⟩, fun hp => ?_⟩
  · rcases h.driver with ⟨hsource, hdrives⟩ | ⟨driver, hsource, hid, hdrives⟩
    · simp only [AssignmentOk, FeasiblePrimitive.segment, hsource, h.assigned]
      exact hdrives.mem_parentIds
    · simp only [AssignmentOk, FeasiblePrimitive.segment, hsource, h.assigned, hid]
      exact ⟨driver, Admitted.knows hfamily hdrives.admitted, Admitted.eligible hdrives.admitted hdrives.available⟩
  · rcases h.driver with ⟨-, hdrives⟩ | ⟨_, hsource, -⟩
    · have hfree := hdrives.free
      rw [← h.assigned] at hfree
      exact hfree
    · rw [FeasiblePrimitive.segment, hsource] at hp
      cases hp

/-- What is computed from the facts of a family is in order for the validator, and may be left out of a plan. -/
theorem segmentOk_of_mem_primitives (hfamily : FamilyScenario scenario)
    (hmatrix : buildFeasibleAssignmentMatrix scenario none none = .ok matrix) {p : FeasiblePrimitive}
    (h : p ∈ matrix.primitives) : SegmentOk scenario p.segment ∧ p.immutable = false := by
  obtain ⟨hcare, htransport⟩ := Prod.mk.inj (buildFeasibleAssignmentMatrix_eq_ok hmatrix)
  rcases List.mem_append.mp h with h | h
  · obtain ⟨q, hq, rfl⟩ := List.mem_map.mp h
    rw [hcare] at hq
    have hcareOf := careOf_of_mem_carePrimitives hfamily (List.mem_filter.mp hq).1
    exact ⟨CareOf.segmentOk hfamily hcareOf, hcareOf.immutable⟩
  · obtain ⟨q, hq, rfl⟩ := List.mem_map.mp h
    rw [htransport] at hq
    have htripOf := tripOf_of_mem_transportPrimitives hfamily (List.mem_filter.mp hq).1
    exact ⟨TripOf.segmentOk hfamily htripOf, htripOf.immutable⟩

/-! ### Segments strung together -/

/-- Segments in order that take the child from the beginning of the required window to its end, each from where and
when the one before ends. -/
structure Strung (scenario : DemoScenario) (segments : List RecoveryPlanSegment) : Prop where
  segment_ok : ∀ s ∈ segments, SegmentOk scenario s
  connected : segments.IsChain fun previous next => (segmentEdge previous).2 = (segmentEdge next).1
  begins : segments.head?.map (·.window.start) = some scenario.requiredCoverage.start
  ends : segments.getLast?.map (·.window.end_) = some scenario.requiredCoverage.end_

variable {segments : List RecoveryPlanSegment} {issue : PlanValidationIssue}

theorem Strung.meets (h : Strung scenario segments) : (segments.map (·.window)).IsChain Span.Meets :=
  (List.isChain_map _).mpr (h.connected.imp fun _ _ hedge => (Prod.mk.inj hedge).1.symm)

theorem Strung.moves (h : Strung scenario segments) : segments.IsChain TransitionOk :=
  h.connected.imp fun _ _ hedge => (Prod.mk.inj hedge).2

theorem Strung.inside (h : Strung scenario segments) {s : RecoveryPlanSegment} (hs : s ∈ segments) :
    scenario.requiredCoverage.Contains s.window := by
  refine Span.contains_of_isChain_meets h.meets ?_ ?_ s.window (List.mem_map_of_mem hs)
  · rw [List.head?_map, Option.map_map]
    exact h.begins
  · rw [List.getLast?_map, Option.map_map]
    exact h.ends

/-- The order of time is the only one. -/
theorem Strung.sortedSegments_eq (h : Strung scenario segments) {unsorted : List RecoveryPlanSegment}
    (hperm : unsorted.Perm segments) : sortedSegments unsorted = segments := by
  have hafter := List.pairwise_map.mp (Span.pairwise_of_isChain_meets h.meets)
  have hwindows : (segments.map (·.window)).Nodup := by
    refine List.pairwise_map.mpr (hafter.imp fun {s t} hle heq => ?_)
    exact absurd s.window.start_lt_end (not_lt.mpr (heq ▸ hle))
  refine List.Perm.eq_of_pairwise (fun s t hs ht hst hts => ?_) (pairwise_sortedSegments unsorted)
    (hafter.imp fun {s t} hle => Or.inl (s.window.start_lt_end.trans_le hle)) ((sortedSegments_perm _).trans hperm)
  refine List.inj_on_of_nodup_map hwindows (hperm.mem_iff.mp (mem_sortedSegments.mp hs)) ht ?_
  exact Span.LexLe.antisymm hst hts

/-- They cover the required window, so that only handoffs can be wrong. -/
theorem Strung.exists_handoff (h : Strung scenario segments)
    (hissue : issue ∈ validateCoverageAndHandoffs segments scenario (caregiverDict scenario.caregivers)) :
    ∃ previous current : RecoveryPlanSegment, current.window.start = previous.window.end_ ∧
      issue ∈ validateHandoff scenario (caregiverDict scenario.caregivers) previous current := by
  cases segments with
  | nil => cases h.begins
  | cons first rest =>
    have hbegins : first.window.start = scenario.requiredCoverage.start := Option.some.inj h.begins
    have hends : ((first :: rest).getLast (List.cons_ne_nil _ _)).window.end_ = scenario.requiredCoverage.end_ := by
      have hlast := h.ends
      rw [List.getLast?_eq_some_getLast (List.cons_ne_nil _ _)] at hlast
      exact Option.some.inj hlast
    rw [validateCoverageAndHandoffs] at hissue
    rcases List.mem_append.mp hissue with hissue | hissue
    · refine absurd hissue (List.eq_nil_iff_forall_not_mem.mp ?_ issue)
      simp only [List.append_eq_nil_iff, issueIf_eq_nil, List.flatMap_eq_nil_iff, not_not, not_or, not_lt, gt_iff_lt]
      exact ⟨⟨hbegins, hends⟩, fun s hs => h.inside hs⟩
    · obtain ⟨pair, hpair, hissue⟩ := List.mem_flatMap.mp hissue
      have hmeets := forall_mem_zip_tail_iff_isChain.mpr ((List.isChain_map _).mp h.meets) pair hpair
      exact ⟨pair.1, pair.2, hmeets, hissue⟩

/-- What the validator may find about segments strung together: missing buffers at handoffs, and parents' events in
the way. -/
theorem Strung.mem_validationIssues (h : Strung scenario segments) (hperm : plan.coverageSegments.Perm segments)
    (hids : (segments.map (·.segmentId)).Nodup) (hchanges : plan.calendarChanges = [])
    (hissue : issue ∈ validationIssues plan scenario) :
    (∃ previous current : RecoveryPlanSegment, current.window.start = previous.window.end_ ∧
      issue ∈ validateHandoff scenario (caregiverDict scenario.caregivers) previous current) ∨
    ∃ s ∈ segments, s.source = .parent ∧ ∃ event ∈ scenario.parentEvents,
      issue ∈ validateParentEvent (eventDict []) s event := by
  have hunique : validateUniqueSegmentIds segments = [] := validateUniqueSegmentIds_eq_nil.mpr hids
  have hassignments : validateAssignments segments scenario (caregiverDict scenario.caregivers) = [] :=
    List.flatMap_eq_nil_iff.mpr fun s hs => validateAssignment_eq_nil.mpr (h.segment_ok s hs).assignment
  have hlocations : validateLocationsAndTransport segments scenario (caregiverDict scenario.caregivers) = [] := by
    refine List.append_eq_nil_iff.mpr ⟨?_, ?_⟩
    · exact List.flatMap_eq_nil_iff.mpr fun s hs => validateLocation_eq_nil.mpr (h.segment_ok s hs).location
    · refine List.flatMap_eq_nil_iff.mpr fun pair hpair => validateTransition_eq_nil.mpr ?_
      exact forall_mem_zip_tail_iff_isChain.mpr h.moves pair hpair
  rw [validationIssues] at hissue
  rw [h.sortedSegments_eq hperm, hunique, hassignments, hlocations, hchanges, List.nil_append, List.append_nil,
    List.append_nil, List.mem_append] at hissue
  rcases hissue with hissue | hissue
  · exact Or.inl (h.exists_handoff hissue)
  · rw [validateParentCalendars, List.flatMap_nil, List.nil_append] at hissue
    obtain ⟨s, hs, hissue⟩ := List.mem_flatMap.mp hissue
    split at hissue
    · cases hissue
    next hsource =>
      obtain ⟨event, hevent, hissue⟩ := List.mem_flatMap.mp hissue
      exact Or.inr ⟨s, hs, not_not.mp hsource, event, hevent, hissue⟩

/-- Where one segment begins when the other ends, only the buffer can be missing, if one is required. -/
theorem of_mem_validateHandoff (hmeets : current.window.start = previous.window.end_)
    (hissue : issue ∈ validateHandoff scenario (caregiverDict scenario.caregivers) previous current) :
    issue.code = .handoffInfeasible ∧ 0 < requiredBuffer scenario (caregiverDict scenario.caregivers) current := by
  have hdelta : current.window.start - previous.window.end_ = 0 := sub_eq_zero.mpr hmeets
  have hoverlap : actualOverlap previous current = 0 := by
    rw [actualOverlap, hdelta]
    rfl
  rw [validateHandoff] at hissue
  simp only [hdelta, hoverlap, lt_irrefl, gt_iff_lt, if_false] at hissue
  split at hissue
  · exact (mem_issueIf.mp hissue).1.elim
  · rcases List.mem_append.mp hissue with hissue | hissue
    · exact (mem_issueIf.mp hissue).1.elim
    · split at hissue
      next hbuffer =>
        rw [List.mem_singleton.mp hissue]
        exact ⟨rfl, Int.natCast_pos.mp hbuffer⟩
      next => exact absurd (mem_issueIf.mp hissue).1 (not_lt.mpr (Int.natCast_nonneg _))

/-- Where a parent is free of fixed events, only an event that may be moved can be in the way. -/
theorem of_mem_validateParentEvent {event : CalendarEvent} (hevent : event ∈ scenario.parentEvents)
    (hfree : FreeOfFixed scenario segment.assignedPersonId segment.window)
    (hissue : issue ∈ validateParentEvent (eventDict []) segment event) :
    issue.code = .movableEventChangeRequired ∧ event.movable = true := by
  rw [validateParentEvent] at hissue
  split at hissue
  · cases hissue
  next hown =>
    rw [not_or, not_not, not_not] at hown
    have hfixed := hfree event hevent hown.1
    split at hissue
    next hm => exact absurd hown.2 (hfixed (by simpa [fixedEvent] using hm))
    next hm =>
      rw [not_or, not_not] at hm
      obtain rfl := List.mem_singleton.mp hissue
      exact ⟨rfl, hm.2⟩

/-- No buffer is required where neither the family nor a caregiver asks for one. -/
theorem requiredBuffer_eq_zero (hpolicy : scenario.policy.minimumHandoffMinutes = 0)
    (hcaregivers : ∀ c ∈ scenario.caregivers, c.handoffBufferMinutes = 0) :
    requiredBuffer scenario (caregiverDict scenario.caregivers) current = 0 := by
  rw [requiredBuffer]
  split
  · split
    next c hc => rw [hpolicy, hcaregivers c (caregiverId_of_get? hc).1, max_self]
    next => exact hpolicy
  · exact hpolicy

/-! ### Paths of primitives -/

theorem segmentEdge_segment (p : FeasiblePrimitive) : segmentEdge p.segment = (p.leg.start, p.leg.end_) := by
  cases p with
  | care p => rfl
  | transport p => rfl

/-- The segments of a full path are strung together. -/
theorem strung_of_fullPath (hfamily : FamilyScenario scenario)
    (hmatrix : buildFeasibleAssignmentMatrix scenario none none = .ok matrix)
    (hmem : ∀ p ∈ path, p ∈ matrix.primitives)
    (hpath : FullPath (matrix.primitives.map (·.leg)) scenario.requiredCoverage scenario.familyHomeLocationId
      (path.map (·.leg))) : Strung scenario (path.map (·.segment)) := by
  refine ⟨fun s hs => ?_, ?_, ?_, ?_⟩
  · obtain ⟨p, hp, rfl⟩ := List.mem_map.mp hs
    exact (segmentOk_of_mem_primitives hfamily hmatrix (hmem p hp)).1
  · refine (List.isChain_map _).mpr (((List.isChain_map _).mp hpath.connected).imp fun p q hpq => ?_)
    rw [segmentEdge_segment p, segmentEdge_segment q]
    exact hpq
  · rw [List.head?_map, Option.map_map]
    exact hpath.head?_start
  · rw [List.getLast?_map, Option.map_map]
    exact hpath.getLast?_end

/-- **Primitives strung together are a plan that the validator accepts** up to missing handoff buffers and events to
be moved; where no buffer is asked for and no event may be moved, the plan is valid. -/
theorem issues_of_materialized (hfamily : FamilyScenario scenario)
    (hmatrix : buildFeasibleAssignmentMatrix scenario none none = .ok matrix)
    (hmem : ∀ p ∈ path, p ∈ matrix.primitives)
    (hpath : FullPath (matrix.primitives.map (·.leg)) scenario.requiredCoverage scenario.familyHomeLocationId
      (path.map (·.leg))) (materializedPlanId : List String → String) :
    ∃ selection plan, selection.selectedPrimitiveIds = path.map (·.primitiveId) ∧
      materializePrimitiveSelection materializedPlanId selection matrix = .ok plan ∧
      (∀ issue ∈ (validate plan scenario).issues,
        issue.code = .handoffInfeasible ∨ issue.code = .movableEventChangeRequired) ∧
      (scenario.policy.minimumHandoffMinutes = 0 → (∀ c ∈ scenario.caregivers, c.handoffBufferMinutes = 0) →
        (∀ event ∈ scenario.parentEvents, event.movable = false) → (validate plan scenario).valid = true) := by
  have hstrung := strung_of_fullPath hfamily hmatrix hmem hpath
  have hids := hpath.nodup_primitiveIds hmem
  have hne : path.map (·.primitiveId) ≠ [] := by
    intro hnil
    obtain rfl := List.map_eq_nil_iff.mp hnil
    cases hpath.begins
  have hselection : (PrimitiveSelection.mk _ hne hids).selectedPrimitiveIds = path.map (·.primitiveId) := rfl
  obtain ⟨plan, hplan, hperm, hchanges⟩ := exists_materialized materializedPlanId hselection hmem
    fun p hp himmutable => by
      rw [(segmentOk_of_mem_primitives hfamily hmatrix hp).2] at himmutable
      cases himmutable
  have hsegmentIds : ((path.map (·.segment)).map (·.segmentId)).Nodup := by
    rw [map_segmentId_segment]
    exact hids
  have hfound (issue : PlanValidationIssue) (hissue : issue ∈ validationIssues plan scenario) :=
    hstrung.mem_validationIssues hperm hsegmentIds hchanges hissue
  have hfree : ∀ s ∈ path.map (·.segment), s.source = .parent →
      FreeOfFixed scenario s.assignedPersonId s.window := fun s hs => (hstrung.segment_ok s hs).free
  refine ⟨_, plan, rfl, hplan, fun issue hissue => ?_, fun hpolicy hcaregivers hmovable => ?_⟩
  · rcases hfound issue hissue with ⟨previous, current, hmeets, hissue⟩ | ⟨s, hs, hsource, event, hevent, hissue⟩
    · exact Or.inl (of_mem_validateHandoff hmeets hissue).1
    · exact Or.inr (of_mem_validateParentEvent hevent (hfree s hs hsource) hissue).1
  · refine valid_iff.mpr (List.eq_nil_iff_forall_not_mem.mpr fun issue hissue => ?_)
    rcases hfound issue hissue with ⟨previous, current, hmeets, hissue⟩ | ⟨s, hs, hsource, event, hevent, hissue⟩
    · have hbuffer := (of_mem_validateHandoff hmeets hissue).2
      rw [requiredBuffer_eq_zero hpolicy hcaregivers] at hbuffer
      exact absurd hbuffer (lt_irrefl 0)
    · have hmoves := (of_mem_validateParentEvent hevent (hfree s hs hsource) hissue).2
      rw [hmovable event hevent] at hmoves
      cases hmoves

/-! ### A day at the neighbour's -/

/-- A parent drives the child to the neighbour and back. -/
def neighbourDay : DemoScenario :=
  { day (minutes 0 120)
      [{ sitter "ana" [minutes 15 120] with
          careLocationType := .caregiverHome, locationId := "ana_home", locationLabel := "Ana's home"
          travelMinutesFromFamilyHome := 15 }] with
    parentTransportCapabilities :=
      [{ parentId := "parent_a", canTransportChild := true, availability := [minutes 0 120] }] }

theorem familyScenario_neighbourDay : FamilyScenario neighbourDay :=
  ⟨by decide, by decide, by decide⟩

/-- A drive of the first parent between home and the neighbour's. -/
def neighbourTrip (primitiveId : String) (window : CoverageWindow) (origin destination : String × String) :
    FeasibleTransportPrimitive :=
  { primitiveId, assignedPersonId := "parent_a", source := .parent, transporterId := "parent_a", window
    locationId := origin.1, locationLabel := origin.2
    destinationLocationId := destination.1, destinationLocationLabel := destination.2
    requiredDurationMinutes := 15 }

/-- There, care, and back. -/
def neighbourPath : List FeasiblePrimitive :=
  [.transport (neighbourTrip "transport:parent_a:0:family_home:ana_home" (minutes 0 15)
      ("family_home", "Family home") ("ana_home", "Ana's home")),
    .care
      { primitiveId := "care:ana:900000000", assignedPersonId := "ana", source := .caregiver
        window := minutes 15 105, locationId := "ana_home", locationLabel := "Ana's home" },
    .transport (neighbourTrip "transport:parent_a:6300000000:ana_home:family_home" (minutes 105 120)
      ("ana_home", "Ana's home") ("family_home", "Family home"))]

/-- The day at the neighbour's is a valid plan. -/
theorem issues_of_materialized_neighbourDay : ∃ matrix selection plan,
    buildFeasibleAssignmentMatrix neighbourDay none none = .ok matrix ∧
      selection.selectedPrimitiveIds = neighbourPath.map (·.primitiveId) ∧
      materializePrimitiveSelection (fun ids => ", ".intercalate ids) selection matrix = .ok plan ∧
      (validate plan neighbourDay).valid = true := by
  have hfound : (buildFeasibleAssignmentMatrix neighbourDay none none).toOption.map (fun matrix =>
      decide (∀ p ∈ neighbourPath, p ∈ matrix.primitives)) = some true := by decide +kernel
  obtain ⟨matrix, hmatrix, hmem⟩ := exists_ok_of_toOption hfound
  replace hmem : ∀ p ∈ neighbourPath, p ∈ matrix.primitives := of_decide_eq_true hmem
  have hpath : FullPath (matrix.primitives.map (·.leg)) neighbourDay.requiredCoverage
      neighbourDay.familyHomeLocationId (neighbourPath.map (·.leg)) := by
    refine ⟨fun leg hleg => ?_, by decide, rfl, rfl⟩
    obtain ⟨p, hp, rfl⟩ := List.mem_map.mp hleg
    exact List.mem_map_of_mem (hmem p hp)
  obtain ⟨selection, plan, hselection, hplan, -, hvalid⟩ :=
    issues_of_materialized familyScenario_neighbourDay hmatrix hmem hpath fun ids => ", ".intercalate ids
  exact ⟨matrix, selection, plan, hmatrix, hselection, hplan, hvalid rfl (by decide) (by decide)⟩

/-! ### Identifiers that are used twice -/

/-- The validator faults a plan of primitives that lead through the day, although no parent is a caregiver and it takes
the same time to the same place. -/
structure Misjudged (scenario : DemoScenario) (path : List FeasiblePrimitive) (code : ValidationErrorCode) : Prop where
  no_parent : ∀ c ∈ scenario.caregivers, c.caregiverId ∉ scenario.parentIds
  travel_eq : ∀ c ∈ scenario.caregivers, ∀ d ∈ scenario.caregivers, c.locationId = d.locationId →
    c.travelMinutesFromFamilyHome = d.travelMinutesFromFamilyHome
  faulted : ∃ matrix selection plan, buildFeasibleAssignmentMatrix scenario none none = .ok matrix ∧
    (∀ p ∈ path, p ∈ matrix.primitives) ∧
    FullPath (matrix.primitives.map (·.leg)) scenario.requiredCoverage scenario.familyHomeLocationId
      (path.map (·.leg)) ∧
    selection.selectedPrimitiveIds = path.map (·.primitiveId) ∧
    materializePrimitiveSelection (fun ids => ", ".intercalate ids) selection matrix = .ok plan ∧
    ∃ issue ∈ (validate plan scenario).issues, issue.code = code

/-- Such a path, by computation. -/
theorem misjudged_of_computed {code : ValidationErrorCode} {selection : PrimitiveSelection}
    (hno : ∀ c ∈ scenario.caregivers, c.caregiverId ∉ scenario.parentIds)
    (htravel : ∀ c ∈ scenario.caregivers, ∀ d ∈ scenario.caregivers, c.locationId = d.locationId →
      c.travelMinutesFromFamilyHome = d.travelMinutesFromFamilyHome)
    (hselection : selection.selectedPrimitiveIds = path.map (·.primitiveId))
    (hconnected : (path.map (·.leg)).IsChain fun previous next => previous.end_ = next.start)
    (hbegins : (path.map (·.leg)).head?.map (·.start) =
      some (scenario.requiredCoverage.start, scenario.familyHomeLocationId))
    (hends : (path.map (·.leg)).getLast?.map (·.end_.1) = some scenario.requiredCoverage.end_)
    (hfound : (buildFeasibleAssignmentMatrix scenario none none).toOption.map (fun matrix =>
      (decide (∀ p ∈ path, p ∈ matrix.primitives),
        (materializePrimitiveSelection (fun ids => ", ".intercalate ids) selection matrix).toOption.map fun plan =>
          decide (∃ issue ∈ (validate plan scenario).issues, issue.code = code))) = some (true, some true)) :
    Misjudged scenario path code := by
  obtain ⟨matrix, hmatrix, hboth⟩ := exists_ok_of_toOption hfound
  obtain ⟨hmem, hplanned⟩ := Prod.mk.inj hboth
  obtain ⟨plan, hplan, hissue⟩ := exists_ok_of_toOption hplanned
  replace hmem : ∀ p ∈ path, p ∈ matrix.primitives := of_decide_eq_true hmem
  refine ⟨hno, htravel, matrix, selection, plan, hmatrix, hmem, ⟨fun leg hleg => ?_, hconnected, hbegins, hends⟩,
    hselection, hplan, of_decide_eq_true hissue⟩
  obtain ⟨p, hp, rfl⟩ := List.mem_map.mp hleg
  exact List.mem_map_of_mem (hmem p hp)

/-- Two caregivers of one name, of whom the family trusts the first. -/
def namesakesDay : DemoScenario :=
  day (minutes 0 120) [sitter "ana" [minutes 0 120], { sitter "ana" [minutes 0 120] with isTrusted := false }]

/-- The first of them stays for the day. -/
def namesakePath : List FeasiblePrimitive :=
  [.care
    { primitiveId := "care:ana:0", assignedPersonId := "ana", source := .caregiver
      window := minutes 0 120, locationId := "family_home", locationLabel := "Family home" }]

/-- The neighbour drives the child home herself. -/
def drivingDay : DemoScenario :=
  { day (minutes 0 120)
      [{ sitter "ana" [minutes 15 120] with
          careLocationType := .caregiverHome, locationId := "ana_home", locationLabel := "Ana's home"
          travelMinutesFromFamilyHome := 15, canTransportChild := true }] with
    parentTransportCapabilities :=
      [{ parentId := "parent_a", canTransportChild := true, availability := [minutes 0 15] }] }

/-- The same day, with a record of the neighbour among the parents' driving capabilities. -/
def listedDriverDay : DemoScenario :=
  { drivingDay with
    parentTransportCapabilities := drivingDay.parentTransportCapabilities ++
      [{ parentId := "ana", canTransportChild := true, availability := [] }] }

/-- The same day, with an appointment of the neighbour among the parents' events. -/
def busyDriverDay : DemoScenario :=
  { drivingDay with parentEvents := [busy "appointment" "ana" (minutes 105 120)] }

/-- There with a parent, care, and back with the neighbour. -/
def drivingPath : List FeasiblePrimitive :=
  neighbourPath.take 2 ++
    [.transport
      { neighbourTrip "transport:ana:6300000000:ana_home:family_home" (minutes 105 120) ("ana_home", "Ana's home")
          ("family_home", "Family home") with
        assignedPersonId := "ana", source := .caregiver, transporterId := "ana" }]

/-- **Paths of the matrix that the validator faults**: of two records of one caregiver it takes the other, and it judges
a caregiver who drives by a parent's capability and a parent's calendar of the same identifier. -/
theorem misjudged_sharedIdentifiers :
    Misjudged namesakesDay namesakePath .caregiverUntrusted ∧
      Misjudged listedDriverDay drivingPath .transporterUnavailable ∧
      Misjudged busyDriverDay drivingPath .parentCriticalConflict := by
  let namesake : PrimitiveSelection := ⟨namesakePath.map (·.primitiveId), by decide, by decide⟩
  let driving : PrimitiveSelection := ⟨drivingPath.map (·.primitiveId), by decide, by decide⟩
  have hnamesake : namesake.selectedPrimitiveIds = namesakePath.map (·.primitiveId) := rfl
  have hdriving : driving.selectedPrimitiveIds = drivingPath.map (·.primitiveId) := rfl
  refine ⟨?_, ?_, ?_⟩
  · exact misjudged_of_computed (by decide) (by decide) hnamesake (by decide) rfl rfl (by decide +kernel)
  · exact misjudged_of_computed (by decide) (by decide) hdriving (by decide) rfl rfl (by decide +kernel)
  · exact misjudged_of_computed (by decide) (by decide) hdriving (by decide) rfl rfl (by decide +kernel)

end DayMend.Validation
