import DayMend.Agent.ConstraintPlanner
import DayMend.Services.PlanInvalidation

/-!
# The primitives of a day

What the facts of the day say about each primitive that the planner computes from them:
whose time it is (`CareOf`, `TripOf`). Windows are intersected and subtracted several
times on the way; a primitive lies in the windows it was made from.
-/

namespace DayMend.Agent

open DayMend.Base DayMend.Models DayMend.Fixtures DayMend.Services

variable {scenario : DemoScenario} {caregiver : Caregiver} {parent : ParentCalendar} {window : CoverageWindow}

/-! ### Windows -/

theorem contains_of_windowIntersection {v w u : CoverageWindow} (h : windowIntersection v w = some u) :
    v.Contains u ∧ w.Contains u := by
  unfold windowIntersection at h
  split at h
  · obtain rfl := Option.some.inj h
    exact ⟨⟨le_max_left .., min_le_left ..⟩, ⟨le_max_right .., min_le_right ..⟩⟩
  · cases h

theorem mem_subtractWindows {w u : CoverageWindow} {blocked : List CoverageWindow}
    (h : u ∈ subtractWindows w blocked) : w.Contains u ∧ ∀ block ∈ blocked, ¬ u.Overlaps block := by
  obtain ⟨w', hw', hcontains, hblocked⟩ := Span.exists_contains_of_mem_foldl_sub h
  obtain rfl := List.mem_singleton.mp hw'
  exact ⟨hcontains, fun block hb => hblocked block ((List.mem_insertionSort _).mpr hb)⟩

/-- **Taking windows out of a window is exact.** What is left are windows that are not empty, in order and apart, which
have the instants of the window outside the blocked ones, in whatever order these are listed; taking out one window is
what a decline does. -/
theorem subtractWindows_exact (window : CoverageWindow) (blocked : List CoverageWindow) :
    (∀ w ∈ subtractWindows window blocked, w.start < w.end_) ∧
      (subtractWindows window blocked).Pairwise (fun v w => v.end_ ≤ w.start) ∧
      Span.pointsOf (subtractWindows window blocked) = window.points \ Span.pointsOf blocked ∧
      (∀ blocked', blocked'.Perm blocked → subtractWindows window blocked' = subtractWindows window blocked) ∧
      ∀ block, subtractWindows window [block] = subtractWindow window block := by
  refine ⟨fun w _ => w.start_lt_end, ?_, ?_, fun blocked' hperm => ?_, fun block => ?_⟩
  · have hone : Span.Ascending [window] := List.pairwise_singleton ..
    exact hone.foldl_sub
  · have hsorted : Span.pointsOf (blocked.insertionSort Span.LexLe) = Span.pointsOf blocked :=
      Span.pointsOf_congr fun _ => List.mem_insertionSort _
    rw [subtractWindows, Span.pointsOf_foldl_sub, hsorted, Span.pointsOf_cons, Span.pointsOf_nil, Set.union_empty]
  · rw [subtractWindows, Span.insertionSort_lexLe_eq_of_perm hperm, subtractWindows]
  · rw [subtractWindow_eq_sub, subtractWindows, List.insertionSort_cons, List.insertionSort_nil,
      List.orderedInsert_nil, List.foldl_cons, List.foldl_nil, List.flatMap_singleton]

/-! ### People -/

/-- Whom the family's policy admits, by the facts of the day. -/
structure Admitted (scenario : DemoScenario) (caregiver : Caregiver) : Prop where
  mem : caregiver ∈ scenario.caregivers
  not_unavailable : caregiver.caregiverId ∉ scenario.unavailableCaregiverIds
  external_allowed : caregiver.externalProvider → scenario.policy.allowExternalBackupProviders
  trusted : caregiver.isTrusted ∨
    (¬ scenario.policy.requireTrustedCaregiver ∧ scenario.policy.unapprovedCaregiverAllowed)

theorem admitted_of_mem_feasibleCaregivers (h : caregiver ∈ feasibleCaregivers scenario) :
    Admitted scenario caregiver := by
  obtain ⟨hmem, hpolicy⟩ := List.mem_filter.mp (List.mem_filter.mp h).1
  obtain ⟨hunavailable, hexternal, htrusted⟩ := of_decide_eq_true hpolicy
  refine ⟨(List.mem_insertionSort _).mp hmem, hunavailable, fun he => ?_, ?_⟩
  · simpa [he] using hexternal
  · simpa using htrusted

/-- A window of a caregiver who is listed once is part of the caregiver's availability. -/
theorem exists_availability_of_mem_careWindows (hfamily : FamilyScenario scenario)
    (hc : caregiver ∈ feasibleCaregivers scenario)
    (hw : window ∈ ((caregiverCareWindows scenario).get? caregiver.caregiverId).getD []) :
    ∃ available ∈ caregiver.availability, available.Contains window := by
  have hnodup : ((feasibleCaregivers scenario).map (·.caregiverId)).Nodup := by
    have hsorted := (List.perm_insertionSort (fun c d : Caregiver => (compare c.caregiverId d.caregiverId).isLE)
      scenario.caregivers).map (·.caregiverId)
    exact (hsorted.nodup_iff.mpr hfamily.nodup_caregiverIds).sublist
      ((List.filter_sublist.trans List.filter_sublist).map _)
  have hwindows : (caregiverCareWindows scenario).get? caregiver.caregiverId =
      some (careWindows scenario.requiredCoverage caregiver) := by
    refine Dict.get?_ofList_of_mem ?_ (List.mem_map_of_mem hc)
    rw [List.map_map]
    exact hnodup
  rw [hwindows, Option.getD_some] at hw
  obtain ⟨available, ha, hintersection⟩ := List.mem_filterMap.mp hw
  exact ⟨available, ha, (contains_of_windowIntersection hintersection).1⟩

/-- What the planner knows of a parent's calendar is what the facts say. -/
structure CalendarOf (scenario : DemoScenario) (parent : ParentCalendar) : Prop where
  mem_parentIds : parent.parentId ∈ scenario.parentIds
  events : ∀ event ∈ scenario.parentEvents, event.ownerId = parent.parentId → event ∈ parent.events
  canTransportChild : parent.canTransportChild =
    ((parentTransport scenario.parentTransportCapabilities).get? parent.parentId).any (·.canTransportChild)
  availability : parent.availability =
    (((parentTransport scenario.parentTransportCapabilities).get? parent.parentId).map (·.availability)).getD []

theorem calendarOf_of_mem_sortedParents (h : parent ∈ sortedParents scenario) : CalendarOf scenario parent := by
  obtain ⟨unsorted, hunsorted, rfl⟩ := List.mem_map.mp h
  obtain ⟨parentId, hid, rfl⟩ := List.mem_map.mp ((List.mem_insertionSort _).mp hunsorted)
  refine ⟨hid, fun event hevent howner => ?_, rfl, rfl⟩
  exact (List.mem_insertionSort _).mpr (List.mem_filter.mpr ⟨hevent, decide_eq_true howner⟩)

/-- Every parent has a calendar. -/
theorem exists_mem_sortedParents {parentId : String} (h : parentId ∈ scenario.parentIds) :
    ∃ parent ∈ sortedParents scenario, parent.parentId = parentId :=
  ⟨_, List.mem_map_of_mem ((List.mem_insertionSort _).mpr (List.mem_map_of_mem h)), rfl⟩

/-- None of the fixed events of a person meets the window. -/
def FreeOfFixed (scenario : DemoScenario) (personId : String) (window : CoverageWindow) : Prop :=
  ∀ event ∈ scenario.parentEvents, event.ownerId = personId → fixedEvent event = true → ¬ window.Overlaps event.window

/-- What is left when the fixed events are taken away. -/
theorem CalendarOf.freeOfFixed (h : CalendarOf scenario parent) {w : CoverageWindow}
    (hw : window ∈ subtractWindows w (blockedWindows parent)) : FreeOfFixed scenario parent.parentId window := by
  intro event hevent howner hfixed
  refine (mem_subtractWindows hw).2 event.window (List.mem_map_of_mem (List.mem_filter.mpr ⟨?_, hfixed⟩))
  exact h.events event hevent howner

theorem FreeOfFixed.of_contains {personId : String} {w : CoverageWindow} (h : FreeOfFixed scenario personId w)
    (hcontains : w.Contains window) : FreeOfFixed scenario personId window :=
  fun event hevent howner hfixed ho => h event hevent howner hfixed (ho.of_contains hcontains)

/-- A parent who may drive in the window. -/
structure ParentDrives (scenario : DemoScenario) (parentId : String) (window : CoverageWindow) : Prop where
  mem_parentIds : parentId ∈ scenario.parentIds
  capability : ∃ capability, (parentTransport scenario.parentTransportCapabilities).get? parentId = some capability ∧
    capability.canTransportChild = true ∧ IsCovered window capability.availability
  free : FreeOfFixed scenario parentId window

theorem parentDrives_of_isCovered {entry : String × List CoverageWindow} (h : entry ∈ transportingParents scenario)
    (hcovered : IsCovered window entry.2) : ParentDrives scenario entry.1 window := by
  have hentry := Dict.mem_of_mem_entries_ofList ((List.mem_insertionSort _).mp h)
  obtain ⟨parent, hparent, hwindows⟩ := List.mem_filterMap.mp hentry
  dsimp only at hwindows
  split at hwindows
  · cases hwindows
  obtain rfl := Option.some.inj hwindows
  have hcalendar := calendarOf_of_mem_sortedParents hparent
  obtain ⟨w, hw, hcontains⟩ := hcovered
  dsimp only [parentTransportWindows] at hw
  split at hw
  next hcan =>
    obtain ⟨available, havailable, hw⟩ := List.mem_flatMap.mp hw
    split at hw
    next intersection hintersection =>
      rw [hcalendar.canTransportChild] at hcan
      rw [hcalendar.availability] at havailable
      cases hcapability : (parentTransport scenario.parentTransportCapabilities).get? parent.parentId with
      | none => simp [hcapability] at hcan
      | some capability =>
        rw [hcapability] at hcan havailable
        refine ⟨hcalendar.mem_parentIds, ⟨capability, hcapability, hcan, available, havailable, ?_⟩,
          (hcalendar.freeOfFixed hw).of_contains hcontains⟩
        exact (contains_of_windowIntersection hintersection).1.trans ((mem_subtractWindows hw).1.trans hcontains)
    · cases hw
  · cases hw

/-- A caregiver who may drive in the window. -/
structure CaregiverDrives (scenario : DemoScenario) (caregiver : Caregiver) (window : CoverageWindow) : Prop where
  admitted : Admitted scenario caregiver
  canTransportChild : caregiver.canTransportChild = true
  external_allowed : caregiver.externalProvider → scenario.policy.allowProviderTransport
  available : IsCovered window caregiver.availability

/-! ### Trips -/

/-- A trip of the day goes between home and the place of an admitted caregiver, in the caregiver's travel time, and
is driven by a parent or by that caregiver. -/
structure TripOf (scenario : DemoScenario) (trip : FeasibleTransportPrimitive) : Prop where
  immutable : trip.immutable = false
  place : ∃ caregiver, Admitted scenario caregiver ∧ caregiver.locationId ≠ scenario.familyHomeLocationId ∧
    ((trip.locationId = scenario.familyHomeLocationId ∧ trip.destinationLocationId = caregiver.locationId) ∨
      (trip.locationId = caregiver.locationId ∧ trip.destinationLocationId = scenario.familyHomeLocationId)) ∧
    trip.window.end_ - trip.window.start = caregiver.travelMinutesFromFamilyHome * minute
  assigned : trip.assignedPersonId = trip.transporterId
  driver : (trip.source = .parent ∧ ParentDrives scenario trip.transporterId trip.window) ∨
    ∃ caregiver, trip.source = .caregiver ∧ trip.transporterId = caregiver.caregiverId ∧
      CaregiverDrives scenario caregiver trip.window

theorem tripOf_of_mem_parentTrips (hc : caregiver ∈ feasibleCaregivers scenario)
    (haway : caregiver.locationId ≠ scenario.familyHomeLocationId)
    {duration_pos : 0 < caregiver.travelMinutesFromFamilyHome} {trip : FeasibleTransportPrimitive}
    (h : trip ∈ parentTrips scenario caregiver duration_pos) : TripOf scenario trip := by
  have hadmitted := admitted_of_mem_feasibleCaregivers hc
  obtain ⟨entry, hentry, h⟩ := List.mem_flatMap.mp h
  obtain ⟨careWindow, -, h⟩ := List.mem_flatMap.mp h
  rcases List.mem_append.mp h with h | h
  · split at h
    next hcovered =>
      obtain rfl := List.mem_singleton.mp h
      refine ⟨rfl, ⟨caregiver, hadmitted, haway, Or.inl ⟨rfl, rfl⟩, ?_⟩, rfl,
        Or.inl ⟨rfl, parentDrives_of_isCovered hentry hcovered⟩⟩
      exact sub_sub_cancel ..
    · cases h
  · split at h
    next hcovered =>
      obtain rfl := List.mem_singleton.mp h
      refine ⟨rfl, ⟨caregiver, hadmitted, haway, Or.inr ⟨rfl, rfl⟩, ?_⟩, rfl,
        Or.inl ⟨rfl, parentDrives_of_isCovered hentry hcovered⟩⟩
      exact sub_sub_cancel ..
    · cases h

theorem tripOf_of_mem_caregiverTrips (hfamily : FamilyScenario scenario)
    (hc : caregiver ∈ feasibleCaregivers scenario) (haway : caregiver.locationId ≠ scenario.familyHomeLocationId)
    {duration_pos : 0 < caregiver.travelMinutesFromFamilyHome} {trip : FeasibleTransportPrimitive}
    (h : trip ∈ caregiverTrips scenario caregiver duration_pos) : TripOf scenario trip := by
  have hadmitted := admitted_of_mem_feasibleCaregivers hc
  dsimp only [caregiverTrips] at h
  split at h
  next hcan =>
    rw [Bool.and_eq_true] at hcan
    obtain ⟨careWindow, hwindow, h⟩ := List.mem_filterMap.mp h
    split at h
    · cases h
    next hlong =>
      obtain rfl := Option.some.inj h
      obtain ⟨available, ha, hcontains⟩ := exists_availability_of_mem_careWindows hfamily hc hwindow
      refine ⟨rfl, ⟨caregiver, hadmitted, haway, Or.inr ⟨rfl, rfl⟩, sub_sub_cancel ..⟩, rfl,
        Or.inr ⟨caregiver, rfl, rfl, hadmitted, hcan.1, fun he => by simpa [he] using hcan.2, available, ha, ?_⟩⟩
      refine hcontains.trans ⟨?_, le_rfl⟩
      dsimp only [tripPrimitive]
      omega
  · cases h

/-- **What a trip of the day is.** -/
theorem tripOf_of_mem_transportPrimitives (hfamily : FamilyScenario scenario) {trip : FeasibleTransportPrimitive}
    (h : trip ∈ transportPrimitives scenario) : TripOf scenario trip := by
  obtain ⟨entry, hentry, rfl⟩ := List.mem_map.mp ((List.mem_insertionSort _).mp h)
  obtain ⟨item, hitem, rfl⟩ := List.mem_map.mp (Dict.mem_of_mem_entries_ofList hentry)
  obtain ⟨caregiver, hc, hitem⟩ := List.mem_flatMap.mp hitem
  split at hitem
  · cases hitem
  next hfar =>
    have haway : caregiver.locationId ≠ scenario.familyHomeLocationId := fun he => hfar (Or.inl he)
    rcases List.mem_append.mp hitem with hitem | hitem
    · exact tripOf_of_mem_parentTrips hc haway hitem
    · exact tripOf_of_mem_caregiverTrips hfamily hc haway hitem

/-! ### Care -/

/-- A stretch of care of the day is an admitted caregiver's own time, at the caregiver's place, or a parent's, at
home, outside the parent's fixed events. -/
structure CareOf (scenario : DemoScenario) (p : FeasibleCarePrimitive) : Prop where
  immutable : p.immutable = false
  carer : (∃ caregiver, p.source = .caregiver ∧ p.assignedPersonId = caregiver.caregiverId ∧
      p.locationId = caregiver.locationId ∧ Admitted scenario caregiver ∧ IsCovered p.window caregiver.availability) ∨
    (p.source = .parent ∧ p.assignedPersonId ∈ scenario.parentIds ∧ p.locationId = scenario.familyHomeLocationId ∧
      FreeOfFixed scenario p.assignedPersonId p.window)

theorem careOf_of_mem_caregiverCare (hfamily : FamilyScenario scenario) {trips : List FeasibleTransportPrimitive}
    {p : FeasibleCarePrimitive} (h : p ∈ caregiverCare scenario trips) : CareOf scenario p := by
  obtain ⟨caregiver, hc, h⟩ := List.mem_flatMap.mp h
  obtain ⟨careWindow, hwindow, h⟩ := List.mem_filterMap.mp h
  dsimp only at h
  split at h
  next hlt =>
    obtain rfl := Option.some.inj h
    obtain ⟨available, ha, hcontains⟩ := exists_availability_of_mem_careWindows hfamily hc hwindow
    refine ⟨rfl, Or.inl ⟨caregiver, rfl, rfl, rfl, admitted_of_mem_feasibleCaregivers hc, available, ha, ?_⟩⟩
    refine hcontains.trans ⟨le_rfl, ?_⟩
    -- care ends with the window, or before it with the first trip home that does
    dsimp only
    cases hmin : ((trips.filter fun item =>
        item.locationId = caregiver.locationId ∧ item.destinationLocationId = scenario.familyHomeLocationId ∧
          item.window.end_ = careWindow.end_).map (·.window.start)).min? with
    | none => exact le_rfl
    | some departure =>
      obtain ⟨item, hitem, rfl⟩ := List.mem_map.mp (List.min?_mem hmin)
      have hend := (of_decide_eq_true (List.mem_filter.mp hitem).2).2.2
      exact hend ▸ item.window.start_lt_end.le
  · cases h

theorem careOf_of_mem_parentCare {trips : List FeasibleTransportPrimitive} {p : FeasibleCarePrimitive}
    (h : p ∈ parentCare scenario trips) : CareOf scenario p := by
  obtain ⟨parent, hparent, h⟩ := List.mem_flatMap.mp h
  obtain ⟨careWindow, hwindow, h⟩ := List.mem_flatMap.mp h
  obtain ⟨window, hw, rfl⟩ := List.mem_map.mp h
  have hcalendar := calendarOf_of_mem_sortedParents hparent
  refine ⟨rfl, Or.inr ⟨rfl, hcalendar.mem_parentIds, rfl, ?_⟩⟩
  cases hdict : (Dict.ofList ((sortedParents scenario).map fun parent =>
      (parent.parentId, parentCareWindows scenario parent))).get? parent.parentId with
  | none => simp [hdict] at hwindow
  | some windows =>
    rw [hdict, Option.getD_some] at hwindow
    obtain ⟨same, hsame, heq⟩ := List.mem_map.mp (Dict.mem_of_get?_ofList hdict)
    obtain ⟨hid, rfl⟩ := Prod.mk.inj heq
    have hfree := (calendarOf_of_mem_sortedParents hsame).freeOfFixed hwindow
    rw [hid] at hfree
    exact hfree.of_contains (mem_subtractWindows hw).1

/-- **What a stretch of care of the day is.** -/
theorem careOf_of_mem_carePrimitives (hfamily : FamilyScenario scenario) {trips : List FeasibleTransportPrimitive}
    {p : FeasibleCarePrimitive} (h : p ∈ carePrimitives scenario trips) : CareOf scenario p := by
  rcases List.mem_append.mp ((List.mem_insertionSort _).mp h) with h | h
  · exact careOf_of_mem_caregiverCare hfamily h
  · exact careOf_of_mem_parentCare h

end DayMend.Agent
