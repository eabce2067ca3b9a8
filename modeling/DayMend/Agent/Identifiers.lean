import DayMend.Agent.DayPrimitives
import DayMend.Agent.Pruning
import DayMend.Agent.Replanning
import DayMend.Base.Text

/-!
# What identifiers of primitives say

An identifier names a person and the moment at which that person's work begins, and the
route of a trip; nothing in it says when the work ends. A matrix is built if what is on
full paths has distinct identifiers (`exists_matrix_iff`). On a coherent day nobody is in
two places at a time (`same_care`), so that the day's own work has them: what may share an
identifier is free work and preserved work, and trips whose routes are spelled alike
(`exists_initial_matrix_iff`, `exists_replanning_matrix_iff`).
-/

namespace DayMend.Agent

open DayMend.Base DayMend.Models DayMend.Fixtures DayMend.Services

variable {scenario : DemoScenario} {trips : List FeasibleTransportPrimitive} {p q : FeasibleCarePrimitive}
  {caregiver : Caregiver} {affectedWindows : List CoverageWindow} {preserved : List RecoveryPlanSegment}
  {windows : Option (List CoverageWindow)} {segments : Option (List RecoveryPlanSegment)}

/-! ### When the matrix is built -/

section Candidates

variable {candidates : List FeasibleCarePrimitive × List FeasibleTransportPrimitive} {required : CoverageWindow}
  {home : String}

theorem mem_candidatesOf_prune {p : FeasiblePrimitive} :
    p ∈ candidatesOf (pruneToFullCoveragePaths candidates.1 candidates.2 required home) ↔
      p ∈ candidatesOf candidates ∧ OnFullPath (legsOf candidates.1 candidates.2) required home p.primitiveId := by
  cases p with
  | care p => simp [candidatesOf, mem_prune_care, FeasiblePrimitive.primitiveId]
  | transport p => simp [candidatesOf, mem_prune_transport, FeasiblePrimitive.primitiveId]

/-- Identifiers that lie on a full path stand for one primitive. -/
def UniqueOnPaths (candidates : List FeasibleCarePrimitive × List FeasibleTransportPrimitive)
    (required : CoverageWindow) (home : String) : Prop :=
  ∀ p ∈ candidatesOf candidates, ∀ q ∈ candidatesOf candidates, p.primitiveId = q.primitiveId →
    OnFullPath (legsOf candidates.1 candidates.2) required home p.primitiveId → p = q

theorem nodup_prune_iff (hnodup : (candidatesOf candidates).Nodup) :
    ((candidatesOf (pruneToFullCoveragePaths candidates.1 candidates.2 required home)).map (·.primitiveId)).Nodup ↔
      UniqueOnPaths candidates required home := by
  obtain ⟨retained, hretained⟩ := candidatesOf_prune candidates required home
  have hpruned : (candidatesOf (pruneToFullCoveragePaths candidates.1 candidates.2 required home)).Nodup := by
    rw [hretained]
    exact hnodup.sublist List.filter_sublist
  rw [List.nodup_map_iff_inj_on hpruned]
  constructor
  · intro h p hp q hq hid hpath
    refine h p (mem_candidatesOf_prune.mpr ⟨hp, hpath⟩) q (mem_candidatesOf_prune.mpr ⟨hq, ?_⟩) hid
    exact hid ▸ hpath
  · intro h p hp q hq hid
    obtain ⟨hp, hpath⟩ := mem_candidatesOf_prune.mp hp
    exact h p hp q (mem_candidatesOf_prune.mp hq).1 hid hpath

end Candidates

theorem exists_matrix_iff_nodup : (∃ matrix, buildFeasibleAssignmentMatrix scenario windows segments = .ok matrix) ↔
    ((candidatesOf (pruneToFullCoveragePaths (candidatePrimitives scenario windows segments).1
      (candidatePrimitives scenario windows segments).2 scenario.requiredCoverage
      scenario.familyHomeLocationId)).map (·.primitiveId)).Nodup := by
  rw [map_primitiveId_candidatesOf]
  constructor
  · rintro ⟨matrix, hmatrix⟩
    rw [← buildFeasibleAssignmentMatrix_eq_ok hmatrix]
    exact matrix.primitive_ids_are_unique
  · intro h
    unfold buildFeasibleAssignmentMatrix
    extract_lets required home transport care candidates pruned
    have hids : (pruned.1.map (·.primitiveId) ++ pruned.2.map (·.primitiveId)).Nodup := h
    rw [dif_pos hids]
    exact ⟨_, rfl⟩

/-- Building fails in one way only. -/
theorem buildFeasibleAssignmentMatrix_eq_error
    (h : ¬ ∃ matrix, buildFeasibleAssignmentMatrix scenario windows segments = .ok matrix) :
    buildFeasibleAssignmentMatrix scenario windows segments =
      .error (.valueError "feasible primitive IDs must be unique") := by
  have hids := fun hnodup => h (exists_matrix_iff_nodup.mpr hnodup)
  rw [map_primitiveId_candidatesOf] at hids
  unfold buildFeasibleAssignmentMatrix
  extract_lets required home transport care candidates pruned
  exact dif_neg hids

/-- **When the matrix is built.** -/
theorem exists_matrix_iff (hnodup : (candidatesOf (candidatePrimitives scenario windows segments)).Nodup) :
    (∃ matrix, buildFeasibleAssignmentMatrix scenario windows segments = .ok matrix) ↔
      UniqueOnPaths (candidatePrimitives scenario windows segments) scenario.requiredCoverage
        scenario.familyHomeLocationId :=
  exists_matrix_iff_nodup.trans (nodup_prune_iff hnodup)

/-! ### Identifiers -/

/-- The identifier of a stretch of care. -/
def careId (personId : String) (start : ℤ) : String := s!"care:{personId}:{isoformat start}"

/-- The identifier of a trip. -/
def tripId (driver : String) (start : ℤ) (origin destination : String) : String :=
  s!"transport:{driver}:{isoformat start}:{origin}:{destination}"

theorem careId_eq (personId : String) (start : ℤ) :
    careId personId start = "care:" ++ personId ++ ":" ++ isoformat start := rfl

/-- **A stretch of care is known by its person and its beginning.** -/
theorem careId_inj {personId otherId : String} {start other : ℤ} (h : careId personId start = careId otherId other) :
    personId = otherId ∧ start = other := by
  rw [careId_eq, careId_eq] at h
  obtain ⟨hperson, hstart⟩ := colon_name_inj (colon_notMem_signed start) (colon_notMem_signed other) h
  exact ⟨append_left_cancel hperson, signed_inj hstart⟩

/-- Care and trips are told apart. -/
theorem careId_ne_tripId {personId driver origin destination : String} {start other : ℤ} :
    careId personId start ≠ tripId driver other origin destination := by
  intro h
  have hcare : (careId personId start).toList.head? = some 'c' := by
    rw [careId_eq, String.toList_append, String.toList_append, String.toList_append]
    rfl
  have htrip : (tripId driver other origin destination).toList.head? = some 't' := by
    have heq : tripId driver other origin destination = "transport:" ++ driver ++ ":" ++ isoformat other ++ ":" ++
      origin ++ ":" ++ destination := rfl
    simp only [heq, String.toList_append, List.append_assoc]
    rfl
  rw [h, htrip] at hcare
  exact absurd hcare (by decide)

/-! ### Whose time it is -/

/-- The parts of the day that the facts give a caregiver. -/
def windowsOf (scenario : DemoScenario) (caregiverId : String) : List CoverageWindow :=
  ((caregiverCareWindows scenario).get? caregiverId).getD []

/-- When care in a caregiver's window ends: with the window, or with the first trip home that does. -/
def careEnd (scenario : DemoScenario) (trips : List FeasibleTransportPrimitive) (locationId : String)
    (careWindow : CoverageWindow) : ℤ :=
  (((trips.filter fun item =>
    item.locationId = locationId ∧ item.destinationLocationId = scenario.familyHomeLocationId ∧
      item.window.end_ = careWindow.end_).map (·.window.start)).min?).getD careWindow.end_

theorem careEnd_le {locationId : String} {careWindow : CoverageWindow} :
    careEnd scenario trips locationId careWindow ≤ careWindow.end_ := by
  unfold careEnd
  cases hmin : ((trips.filter fun item =>
      item.locationId = locationId ∧ item.destinationLocationId = scenario.familyHomeLocationId ∧
        item.window.end_ = careWindow.end_).map (·.window.start)).min? with
  | none => exact le_rfl
  | some departure =>
    obtain ⟨item, hitem, rfl⟩ := List.mem_map.mp (List.min?_mem hmin)
    have hend := (of_decide_eq_true (List.mem_filter.mp hitem).2).2.2
    exact hend ▸ item.window.start_lt_end.le

/-- Care by a caregiver, in one of the caregiver's windows. -/
structure InWindow (scenario : DemoScenario) (trips : List FeasibleTransportPrimitive) (caregiver : Caregiver)
    (careWindow : CoverageWindow) (p : FeasibleCarePrimitive) : Prop where
  person : p.assignedPersonId = caregiver.caregiverId
  source : p.source = .caregiver
  location : p.locationId = caregiver.locationId
  start_eq : p.window.start = careWindow.start
  end_eq : p.window.end_ = careEnd scenario trips caregiver.locationId careWindow
  named : p.primitiveId = careId p.assignedPersonId p.window.start

theorem InWindow.contains {careWindow : CoverageWindow} (h : InWindow scenario trips caregiver careWindow p) :
    careWindow.Contains p.window := ⟨h.start_eq.ge, h.end_eq.trans_le careEnd_le⟩

/-- Care by a caregiver in one window, if there is time. -/
def careIn (scenario : DemoScenario) (trips : List FeasibleTransportPrimitive) (caregiver : Caregiver)
    (careWindow : CoverageWindow) : Option FeasibleCarePrimitive :=
  if h : careWindow.start < careEnd scenario trips caregiver.locationId careWindow then
    some
      { primitiveId := s!"care:{caregiver.caregiverId}:{isoformat careWindow.start}"
        assignedPersonId := caregiver.caregiverId
        source := .caregiver
        window := ⟨careWindow.start, careEnd scenario trips caregiver.locationId careWindow, h⟩
        locationId := caregiver.locationId
        locationLabel := caregiver.locationLabel }
  else none

theorem caregiverCare_eq : caregiverCare scenario trips = (feasibleCaregivers scenario).flatMap fun caregiver =>
    (windowsOf scenario caregiver.caregiverId).filterMap (careIn scenario trips caregiver) := rfl

theorem inWindow_of_careIn {careWindow : CoverageWindow} (h : careIn scenario trips caregiver careWindow = some p) :
    InWindow scenario trips caregiver careWindow p := by
  unfold careIn at h
  split at h
  · obtain rfl := Option.some.inj h
    exact ⟨rfl, rfl, rfl, rfl, rfl, rfl⟩
  · cases h

theorem exists_inWindow (h : p ∈ caregiverCare scenario trips) : ∃ caregiver ∈ feasibleCaregivers scenario,
    ∃ careWindow ∈ windowsOf scenario caregiver.caregiverId, InWindow scenario trips caregiver careWindow p := by
  rw [caregiverCare_eq] at h
  obtain ⟨caregiver, hc, h⟩ := List.mem_flatMap.mp h
  obtain ⟨careWindow, hwindow, h⟩ := List.mem_filterMap.mp h
  exact ⟨caregiver, hc, careWindow, hwindow, inWindow_of_careIn h⟩

/-- When a parent may look after the child, by the parent's identifier. -/
def parentWindowsOf (scenario : DemoScenario) (parentId : String) : List CoverageWindow :=
  ((Dict.ofList ((sortedParents scenario).map fun parent =>
    (parent.parentId, parentCareWindows scenario parent))).get? parentId).getD []

/-- When a parent does, who may also drive. -/
def betweenTrips (scenario : DemoScenario) (trips : List FeasibleTransportPrimitive) (parentId : String) :
    List CoverageWindow :=
  (parentWindowsOf scenario parentId).flatMap fun careWindow =>
    subtractWindows careWindow ((trips.filter (·.transporterId = parentId)).map (·.window))

/-- Care by a parent. -/
structure AtHome (scenario : DemoScenario) (trips : List FeasibleTransportPrimitive) (p : FeasibleCarePrimitive) :
    Prop where
  person : p.assignedPersonId ∈ scenario.parentIds
  source : p.source = .parent
  location : p.locationId = scenario.familyHomeLocationId
  window_mem : p.window ∈ betweenTrips scenario trips p.assignedPersonId
  named : p.primitiveId = careId p.assignedPersonId p.window.start

theorem atHome_of_mem_parentCare (h : p ∈ parentCare scenario trips) : AtHome scenario trips p := by
  obtain ⟨parent, hparent, h⟩ := List.mem_flatMap.mp h
  obtain ⟨careWindow, hwindow, h⟩ := List.mem_flatMap.mp h
  obtain ⟨window, hw, rfl⟩ := List.mem_map.mp h
  refine ⟨(calendarOf_of_mem_sortedParents hparent).mem_parentIds, rfl, rfl, ?_, rfl⟩
  exact List.mem_flatMap.mpr ⟨careWindow, hwindow, hw⟩

/-- What holds of a day on which nobody can be in two places: caregivers are no parents, caregivers listed under one
identifier are at one place, a caregiver's windows do not overlap, and it takes the same time to go to the same
place. -/
structure Coherent (scenario : DemoScenario) : Prop where
  not_parent : ∀ c ∈ scenario.caregivers, c.caregiverId ∉ scenario.parentIds
  same_place : ∀ c ∈ scenario.caregivers, ∀ d ∈ scenario.caregivers, c.caregiverId = d.caregiverId →
    c.locationId = d.locationId
  separate : ∀ c ∈ scenario.caregivers, Span.Separate c.availability
  travel_eq : ∀ c ∈ scenario.caregivers, ∀ d ∈ scenario.caregivers, c.locationId = d.locationId →
    c.travelMinutesFromFamilyHome = d.travelMinutesFromFamilyHome

theorem separate_windowsOf (h : Coherent scenario) (caregiverId : String) :
    Span.Separate (windowsOf scenario caregiverId) := by
  unfold windowsOf
  cases hget : (caregiverCareWindows scenario).get? caregiverId with
  | none => exact List.Pairwise.nil
  | some windows =>
    obtain ⟨c, hc, heq⟩ := List.mem_map.mp (Dict.mem_of_get?_ofList hget)
    obtain ⟨-, rfl⟩ := Prod.mk.inj heq
    refine (h.separate c (admitted_of_mem_feasibleCaregivers hc).mem).filterMap fun v u hu => ?_
    exact (contains_of_windowIntersection hu).1

theorem separate_subtractWindows (w : CoverageWindow) (blocked : List CoverageWindow) :
    Span.Separate (subtractWindows w blocked) := by
  have hone : Span.Separate [w] := List.pairwise_singleton ..
  exact hone.foldl_sub

theorem separate_betweenTrips (parentId : String) : Span.Separate (betweenTrips scenario trips parentId) := by
  have hwindows : Span.Separate (parentWindowsOf scenario parentId) := by
    unfold parentWindowsOf
    cases hget : (Dict.ofList ((sortedParents scenario).map fun parent =>
        (parent.parentId, parentCareWindows scenario parent))).get? parentId with
    | none => exact List.Pairwise.nil
    | some windows =>
      obtain ⟨parent, -, heq⟩ := List.mem_map.mp (Dict.mem_of_get?_ofList hget)
      obtain ⟨-, rfl⟩ := Prod.mk.inj heq
      exact separate_subtractWindows _ _
  refine hwindows.flatMap (fun _ _ _ hu => (mem_subtractWindows hu).1) fun v _ => ?_
  exact separate_subtractWindows _ _

/-- **Nobody is in two places at a time.** -/
theorem same_care (h : Coherent scenario) (hp : p ∈ carePrimitives scenario trips)
    (hq : q ∈ carePrimitives scenario trips) (hperson : p.assignedPersonId = q.assignedPersonId)
    (ho : p.window.Overlaps q.window) : p.window = q.window ∧ p.source = q.source ∧ p.locationId = q.locationId := by
  rcases List.mem_append.mp ((List.mem_insertionSort _).mp hp) with hp | hp
  · obtain ⟨c, hc, v, hv, hpin⟩ := exists_inWindow hp
    have hcmem := (admitted_of_mem_feasibleCaregivers hc).mem
    rcases List.mem_append.mp ((List.mem_insertionSort _).mp hq) with hq | hq
    · obtain ⟨d, hd, w, hw, hqin⟩ := exists_inWindow hq
      have hid : c.caregiverId = d.caregiverId := hpin.person.symm.trans (hperson.trans hqin.person)
      have hplace := h.same_place c hcmem d (admitted_of_mem_feasibleCaregivers hd).mem hid
      have hmeet : v.Overlaps w := by
        have hleft := ho.of_contains hpin.contains
        exact Span.overlaps_comm.mp ((Span.overlaps_comm.mp hleft).of_contains hqin.contains)
      obtain rfl := (separate_windowsOf h c.caregiverId).eq_of_overlaps hv (hid ▸ hw) hmeet
      refine ⟨Span.ext (hpin.start_eq.trans hqin.start_eq.symm) ?_, hpin.source.trans hqin.source.symm, ?_⟩
      · rw [hpin.end_eq, hqin.end_eq, hplace]
      · rw [hpin.location, hqin.location, hplace]
    · have hparent := (atHome_of_mem_parentCare hq).person
      rw [← hperson, hpin.person] at hparent
      exact absurd hparent (h.not_parent c hcmem)
  · have hpin := atHome_of_mem_parentCare hp
    rcases List.mem_append.mp ((List.mem_insertionSort _).mp hq) with hq | hq
    · obtain ⟨d, hd, w, hw, hqin⟩ := exists_inWindow hq
      have hparent := hpin.person
      rw [hperson, hqin.person] at hparent
      exact absurd hparent (h.not_parent d (admitted_of_mem_feasibleCaregivers hd).mem)
    · have hqin := atHome_of_mem_parentCare hq
      refine ⟨?_, hpin.source.trans hqin.source.symm, hpin.location.trans hqin.location.symm⟩
      exact (separate_betweenTrips p.assignedPersonId).eq_of_overlaps hpin.window_mem (hperson ▸ hqin.window_mem) ho

/-- A stretch of care of the day says who has the child from when on. -/
theorem primitiveId_of_mem_carePrimitives (hp : p ∈ carePrimitives scenario trips) :
    p.primitiveId = careId p.assignedPersonId p.window.start := by
  rcases List.mem_append.mp ((List.mem_insertionSort _).mp hp) with hp | hp
  · obtain ⟨c, -, v, -, hpin⟩ := exists_inWindow hp
    exact hpin.named
  · exact (atHome_of_mem_parentCare hp).named

/-! ### Trips -/

section Trips

variable {trip other : FeasibleTransportPrimitive}

/-- What the identifier of a trip is to say: who drives, when the trip begins, and the route. -/
def route (trip : FeasibleTransportPrimitive) : String × ℤ × String × String :=
  (trip.transporterId, trip.window.start, trip.locationId, trip.destinationLocationId)

/-- A trip between home and a caregiver's place, under the identifier that says so. -/
structure Between (scenario : DemoScenario) (caregiver : Caregiver) (trip : FeasibleTransportPrimitive) : Prop where
  away : caregiver.locationId ≠ scenario.familyHomeLocationId
  places : (trip.locationId = scenario.familyHomeLocationId ∧ trip.destinationLocationId = caregiver.locationId) ∨
    (trip.locationId = caregiver.locationId ∧ trip.destinationLocationId = scenario.familyHomeLocationId)
  lasts : trip.window.end_ - trip.window.start = caregiver.travelMinutesFromFamilyHome * minute
  named : trip.primitiveId =
    tripId trip.transporterId trip.window.start trip.locationId trip.destinationLocationId

theorem exists_between (h : trip ∈ transportPrimitives scenario) :
    ∃ caregiver ∈ scenario.caregivers, Between scenario caregiver trip := by
  obtain ⟨entry, hentry, rfl⟩ := List.mem_map.mp ((List.mem_insertionSort _).mp h)
  obtain ⟨item, hitem, rfl⟩ := List.mem_map.mp (Dict.mem_of_mem_entries_ofList hentry)
  obtain ⟨c, hc, hitem⟩ := List.mem_flatMap.mp hitem
  have hmem := (admitted_of_mem_feasibleCaregivers hc).mem
  split at hitem
  · cases hitem
  next hfar =>
    have haway : c.locationId ≠ scenario.familyHomeLocationId := fun he => hfar (Or.inl he)
    refine ⟨c, hmem, ?_⟩
    rcases List.mem_append.mp hitem with hitem | hitem
    · obtain ⟨parent, -, hitem⟩ := List.mem_flatMap.mp hitem
      obtain ⟨careWindow, -, hitem⟩ := List.mem_flatMap.mp hitem
      rcases List.mem_append.mp hitem with hitem | hitem
      · split at hitem
        · obtain rfl := List.mem_singleton.mp hitem
          exact ⟨haway, Or.inl ⟨rfl, rfl⟩, sub_sub_cancel .., rfl⟩
        · cases hitem
      · split at hitem
        · obtain rfl := List.mem_singleton.mp hitem
          exact ⟨haway, Or.inr ⟨rfl, rfl⟩, sub_sub_cancel .., rfl⟩
        · cases hitem
    · dsimp only [caregiverTrips] at hitem
      split at hitem
      · obtain ⟨careWindow, -, hitem⟩ := List.mem_filterMap.mp hitem
        split at hitem
        · cases hitem
        · obtain rfl := Option.some.inj hitem
          exact ⟨haway, Or.inr ⟨rfl, rfl⟩, sub_sub_cancel .., rfl⟩
      · cases hitem

/-- The place away from home that a trip leads to or from. -/
theorem Between.locationId_eq {d : Caregiver} (h : Between scenario caregiver trip) (h' : Between scenario d other)
    (horigin : trip.locationId = other.locationId)
    (hdestination : trip.destinationLocationId = other.destinationLocationId) :
    caregiver.locationId = d.locationId := by
  rcases h.places with ⟨hhome, haway⟩ | ⟨haway, hhome⟩
  · rcases h'.places with ⟨-, haway'⟩ | ⟨haway', -⟩
    · exact haway.symm.trans (hdestination.trans haway')
    · exact absurd (haway'.symm.trans (horigin.symm.trans hhome)) h'.away
  · rcases h'.places with ⟨-, haway'⟩ | ⟨haway', -⟩
    · exact absurd (haway'.symm.trans (hdestination.symm.trans hhome)) h'.away
    · exact haway.symm.trans (horigin.trans haway')

/-- **A trip of the day is known by its driver, its beginning and its route.** -/
theorem same_trip (h : Coherent scenario) (htrip : trip ∈ transportPrimitives scenario)
    (hother : other ∈ transportPrimitives scenario) (hroute : route trip = route other) : trip = other := by
  obtain ⟨c, hc, hbetween⟩ := exists_between htrip
  obtain ⟨d, hd, hbetween'⟩ := exists_between hother
  simp only [route, Prod.mk.injEq] at hroute
  obtain ⟨hdriver, hstart, horigin, hdestination⟩ := hroute
  have htravel := h.travel_eq c hc d hd (hbetween.locationId_eq hbetween' horigin hdestination)
  have hend : trip.window.end_ = other.window.end_ := by
    have hlasts := hbetween.lasts
    have hlasts' := hbetween'.lasts
    rw [htravel] at hlasts
    omega
  have hdistinct := Dict.nodup_map_values (fun item : FeasibleTransportPrimitive =>
    (item.transporterId, item.window.start, item.window.end_, item.locationId, item.destinationLocationId))
  refine List.inj_on_of_nodup_map (hdistinct _) ((List.mem_insertionSort _).mp htrip)
    ((List.mem_insertionSort _).mp hother) ?_
  simp only [hdriver, hstart, hend, horigin, hdestination]

end Trips

/-! ### Identifiers on a coherent day -/

/-- The identifiers on full paths say what they are to say: none is that of free work and of preserved work, and trips
with the same identifier have the same driver, beginning and route. -/
structure NamedApart (candidates : List FeasibleCarePrimitive × List FeasibleTransportPrimitive)
    (required : CoverageWindow) (home : String) : Prop where
  kept : ∀ p ∈ candidatesOf candidates, ∀ q ∈ candidatesOf candidates, p.immutable = false → q.immutable = true →
    p.primitiveId = q.primitiveId → ¬ OnFullPath (legsOf candidates.1 candidates.2) required home p.primitiveId
  trips : ∀ trip ∈ candidates.2, ∀ other ∈ candidates.2, trip.immutable = false → other.immutable = false →
    trip.primitiveId = other.primitiveId →
      OnFullPath (legsOf candidates.1 candidates.2) required home trip.primitiveId → route trip = route other

/-- What a coherent day makes sure of. -/
structure FreeKnown (candidates : List FeasibleCarePrimitive × List FeasibleTransportPrimitive) : Prop where
  nodup : (candidatesOf candidates).Nodup
  care : ∀ p ∈ candidates.1, ∀ q ∈ candidates.1, p.immutable = false → q.immutable = false →
    p.primitiveId = q.primitiveId → p = q
  trips : ∀ trip ∈ candidates.2, ∀ other ∈ candidates.2, trip.immutable = false → other.immutable = false →
    route trip = route other → trip = other
  apart : ∀ p ∈ candidates.1, ∀ trip ∈ candidates.2, p.immutable = false → trip.immutable = false →
    p.primitiveId ≠ trip.primitiveId
  kept : ∀ p ∈ candidatesOf candidates, ∀ q ∈ candidatesOf candidates, p.immutable = true → q.immutable = true →
    p.primitiveId = q.primitiveId → p = q

theorem uniqueOnPaths_iff {candidates : List FeasibleCarePrimitive × List FeasibleTransportPrimitive}
    {required : CoverageWindow} {home : String} (h : FreeKnown candidates) :
    UniqueOnPaths candidates required home ↔ NamedApart candidates required home := by
  constructor
  · intro hunique
    refine ⟨fun p hp q hq hfree hkept hid hpath => ?_, fun trip htrip other hother _ _ hid hpath => ?_⟩
    · obtain rfl := hunique p hp q hq hid hpath
      rw [hfree] at hkept
      cases hkept
    · have hsame := hunique (.transport trip) (List.mem_append_right _ (List.mem_map_of_mem htrip)) (.transport other)
        (List.mem_append_right _ (List.mem_map_of_mem hother)) hid hpath
      cases hsame
      rfl
  · intro hnamed p hp q hq hid hpath
    cases hpfree : p.immutable with
    | true =>
      cases hqfree : q.immutable with
      | true => exact h.kept p hp q hq hpfree hqfree hid
      | false => exact absurd (hid ▸ hpath) (hnamed.kept q hq p hp hqfree hpfree hid.symm)
    | false =>
      cases hqfree : q.immutable with
      | true => exact absurd hpath (hnamed.kept p hp q hq hpfree hqfree hid)
      | false =>
        rcases List.mem_append.mp hp with hp | hp
        · obtain ⟨a, ha, rfl⟩ := List.mem_map.mp hp
          rcases List.mem_append.mp hq with hq | hq
          · obtain ⟨b, hb, rfl⟩ := List.mem_map.mp hq
            exact congrArg _ (h.care a ha b hb hpfree hqfree hid)
          · obtain ⟨b, hb, rfl⟩ := List.mem_map.mp hq
            exact absurd hid (h.apart a ha b hb hpfree hqfree)
        · obtain ⟨a, ha, rfl⟩ := List.mem_map.mp hp
          rcases List.mem_append.mp hq with hq | hq
          · obtain ⟨b, hb, rfl⟩ := List.mem_map.mp hq
            exact absurd hid.symm (h.apart b hb a ha hqfree hpfree)
          · obtain ⟨b, hb, rfl⟩ := List.mem_map.mp hq
            exact congrArg _ (h.trips a ha b hb hpfree hqfree (hnamed.trips a ha b hb hpfree hqfree hid hpath))

theorem nodup_candidatesOf {candidates : List FeasibleCarePrimitive × List FeasibleTransportPrimitive}
    (hcare : candidates.1.Nodup) (htransport : candidates.2.Nodup) : (candidatesOf candidates).Nodup := by
  refine List.nodup_append.mpr ⟨hcare.map fun _ _ h => by cases h; rfl, htransport.map fun _ _ h => by cases h; rfl, ?_⟩
  intro p hp q hq heq
  obtain ⟨a, -, rfl⟩ := List.mem_map.mp hp
  obtain ⟨b, -, rfl⟩ := List.mem_map.mp hq
  cases heq

theorem nodup_transportPrimitives (scenario : DemoScenario) : (transportPrimitives scenario).Nodup := by
  have hdistinct := Dict.nodup_map_values (fun item : FeasibleTransportPrimitive =>
    (item.transporterId, item.window.start, item.window.end_, item.locationId, item.destinationLocationId))
  exact (List.perm_insertionSort _ _).nodup_iff.mpr (List.Nodup.of_map _ (hdistinct _))

/-! ### Replanning -/

theorem nodup_key_replanning_care (care : List FeasibleCarePrimitive) (transport : List FeasibleTransportPrimitive) :
    ((replanningPrimitives care transport affectedWindows preserved).1.map (·.key)).Nodup :=
  ((List.perm_insertionSort _ _).map _).nodup_iff.mpr (Dict.nodup_map_values FeasibleCarePrimitive.key _)

theorem nodup_key_replanning_transport (care : List FeasibleCarePrimitive)
    (transport : List FeasibleTransportPrimitive) :
    ((replanningPrimitives care transport affectedWindows preserved).2.map (·.key)).Nodup :=
  ((List.perm_insertionSort _ _).map _).nodup_iff.mpr (Dict.nodup_map_values FeasibleTransportPrimitive.key _)

/-- The free care of a replanning is the day's, cut to the affected windows. -/
theorem exists_clip (hp : p ∈ (replanningPrimitives (carePrimitives scenario trips) trips affectedWindows preserved).1)
    (hfree : p.immutable = false) : ∃ whole ∈ carePrimitives scenario trips, ∃ affected ∈ affectedWindows,
      ∃ window, windowIntersection whole.window affected = some window ∧ p = clip whole window := by
  rcases of_mem_replanning_care hp with ⟨s, -, rfl⟩ | ⟨hclip, -⟩
  · cases hfree
  · exact mem_clips.mp hclip

/-- **A person's time cut to affected windows that are apart** begins at different moments. -/
theorem clip_inj (h : Coherent scenario) (hwindows : Span.Separate affectedWindows)
    (hp : p ∈ carePrimitives scenario trips) (hq : q ∈ carePrimitives scenario trips) {v w a b : CoverageWindow}
    (hv : v ∈ affectedWindows) (hw : w ∈ affectedWindows) (ha : windowIntersection p.window v = some a)
    (hb : windowIntersection q.window w = some b) (hid : (clip p a).primitiveId = (clip q b).primitiveId) :
    (clip p a).key = (clip q b).key := by
  obtain ⟨hperson, hstart⟩ : p.assignedPersonId = q.assignedPersonId ∧ a.start = b.start := careId_inj hid
  obtain ⟨hpa, hva⟩ := contains_of_windowIntersection ha
  obtain ⟨hqb, hwb⟩ := contains_of_windowIntersection hb
  have hab : a.Overlaps b := ⟨hstart.trans_lt b.start_lt_end, hstart.symm.trans_lt a.start_lt_end⟩
  have hmeet : ∀ {u u' : CoverageWindow}, u.Contains a → u'.Contains b → u.Overlaps u' := by
    intro u u' hu hu'
    exact Span.overlaps_comm.mp ((Span.overlaps_comm.mp (hab.of_contains hu)).of_contains hu')
  obtain ⟨hwindow, hsource, hlocation⟩ := same_care h hp hq hperson (hmeet hpa hqb)
  obtain rfl := hwindows.eq_of_overlaps hv hw (hmeet hva hwb)
  rw [hwindow, hb] at ha
  obtain rfl := Option.some.inj ha
  simp only [FeasibleCarePrimitive.key, clip, hperson, hsource, hlocation]

theorem freeKnown_replanning (h : Coherent scenario) (hwindows : Span.Separate affectedWindows)
    (hids : (preserved.map (·.segmentId)).Nodup) :
    FreeKnown (replanningPrimitives (carePrimitives scenario (transportPrimitives scenario))
      (transportPrimitives scenario) affectedWindows preserved) where
  nodup := nodup_candidatesOf (List.Nodup.of_map _ (nodup_key_replanning_care _ _))
    (List.Nodup.of_map _ (nodup_key_replanning_transport _ _))
  care p hp q hq hpfree hqfree hid := by
    obtain ⟨a, ha, v, hv, x, hx, rfl⟩ := exists_clip hp hpfree
    obtain ⟨b, hb, w, hw, y, hy, rfl⟩ := exists_clip hq hqfree
    exact List.inj_on_of_nodup_map (nodup_key_replanning_care _ _) hp hq (clip_inj h hwindows ha hb hv hw hx hy hid)
  trips trip htrip other hother hfree hfree' hroute := by
    rcases of_mem_replanning_transport htrip with ⟨s, htype, -, rfl⟩ | ⟨hscope, -⟩
    · cases hfree
    rcases of_mem_replanning_transport hother with ⟨s, htype, -, rfl⟩ | ⟨hscope', -⟩
    · cases hfree'
    exact same_trip h (List.mem_filter.mp hscope).1 (List.mem_filter.mp hscope').1 hroute
  apart p hp trip htrip hfree hfree' hid := by
    obtain ⟨a, -, v, -, x, -, rfl⟩ := exists_clip hp hfree
    rcases of_mem_replanning_transport htrip with ⟨s, htype, -, rfl⟩ | ⟨hscope, -⟩
    · cases hfree'
    obtain ⟨c, -, hbetween⟩ := exists_between (List.mem_filter.mp hscope).1
    rw [hbetween.named] at hid
    exact careId_ne_tripId hid
  kept p hp q hq hpkept hqkept hid := by
    obtain ⟨s, hs, hps, hpkind⟩ := exists_preserved_of_immutable hp hpkept
    obtain ⟨t, ht, hqt, hqkind⟩ := exists_preserved_of_immutable hq hqkept
    obtain rfl := List.inj_on_of_nodup_map hids hs ht (hps.symm.trans (hid.trans hqt))
    rcases hpkind with ⟨hcare, rfl⟩ | ⟨htype, rfl⟩
    · rcases hqkind with ⟨-, rfl⟩ | ⟨htype, -⟩
      · rfl
      · exact absurd htype hcare
    · rcases hqkind with ⟨hcare, -⟩ | ⟨-, rfl⟩
      · exact absurd htype hcare
      · rfl

/-- An identifier of free work that no preserved work displaces: of care of the day, cut to an affected window, or of a
trip of the day within one. -/
def FreeName (scenario : DemoScenario) (affectedWindows : List CoverageWindow) (preserved : List RecoveryPlanSegment)
    (primitiveId : String) : Prop :=
  (∃ p ∈ clips (carePrimitives scenario (transportPrimitives scenario)) affectedWindows,
    (∀ s ∈ preserved, careKey s ≠ some p.key) ∧ p.primitiveId = primitiveId) ∨
  ∃ trip ∈ tripsInScope (transportPrimitives scenario) affectedWindows,
    (∀ s ∈ preserved, tripKey s ≠ some trip.key) ∧ trip.primitiveId = primitiveId

/-- An identifier of preserved work that counts. -/
def KeptName (preserved : List RecoveryPlanSegment) (primitiveId : String) : Prop :=
  ∃ s, (CountsAsCare preserved s ∨ s.segmentType = .transport ∧ Counts preserved s) ∧ s.segmentId = primitiveId

/-- The identifier lies on a full path of what replanning starts from. -/
def OnReplanningPath (scenario : DemoScenario) (affectedWindows : List CoverageWindow)
    (preserved : List RecoveryPlanSegment) (primitiveId : String) : Prop :=
  let offered := replanningPrimitives (carePrimitives scenario (transportPrimitives scenario))
    (transportPrimitives scenario) affectedWindows preserved
  OnFullPath (legsOf offered.1 offered.2) scenario.requiredCoverage scenario.familyHomeLocationId primitiveId

/-- No identifier on a full path is that of free work and that of preserved work, and free trips with one identifier
have one driver, beginning and route. -/
structure ReplanningNamedApart (scenario : DemoScenario) (affectedWindows : List CoverageWindow)
    (preserved : List RecoveryPlanSegment) : Prop where
  kept : ∀ primitiveId, FreeName scenario affectedWindows preserved primitiveId → KeptName preserved primitiveId →
    ¬ OnReplanningPath scenario affectedWindows preserved primitiveId
  trips : ∀ trip ∈ tripsInScope (transportPrimitives scenario) affectedWindows,
    ∀ other ∈ tripsInScope (transportPrimitives scenario) affectedWindows,
      (∀ s ∈ preserved, tripKey s ≠ some trip.key) → (∀ s ∈ preserved, tripKey s ≠ some other.key) →
        trip.primitiveId = other.primitiveId →
          OnReplanningPath scenario affectedWindows preserved trip.primitiveId → route trip = route other

theorem freeName_iff {primitiveId : String} : FreeName scenario affectedWindows preserved primitiveId ↔
    ∃ p ∈ candidatesOf (replanningPrimitives (carePrimitives scenario (transportPrimitives scenario))
      (transportPrimitives scenario) affectedWindows preserved), p.immutable = false ∧ p.primitiveId = primitiveId := by
  constructor
  · rintro (⟨p, hp, hkey, rfl⟩ | ⟨trip, htrip, hkey, rfl⟩)
    · obtain ⟨q, hq, hsame, hmem⟩ := exists_mem_replanning_of_mem_clips (transportPrimitives scenario) hp hkey
      obtain ⟨a, -, v, -, x, -, rfl⟩ := mem_clips.mp hp
      obtain ⟨b, hb, w, -, y, -, rfl⟩ := mem_clips.mp hq
      simp only [FeasibleCarePrimitive.key, clip, Prod.mk.injEq] at hsame
      have hfree : b.immutable = false := immutable_of_mem_carePrimitives hb
      exact ⟨.care (clip b y), List.mem_append_left _ (List.mem_map_of_mem hmem), hfree,
        congrArg₂ careId hsame.1 hsame.2.2.1⟩
    · refine ⟨.transport trip, List.mem_append_right _ (List.mem_map_of_mem ?_), ?_, rfl⟩
      · exact mem_replanning_of_mem_transport htrip hkey
      · exact immutable_of_mem_transportPrimitives (List.mem_filter.mp htrip).1
  · rintro ⟨p, hp, hfree, rfl⟩
    rcases List.mem_append.mp hp with hp | hp
    · obtain ⟨item, hitem, rfl⟩ := List.mem_map.mp hp
      rcases of_mem_replanning_care hitem with ⟨s, -, rfl⟩ | ⟨hclip, hkey⟩
      · cases hfree
      · exact Or.inl ⟨item, hclip, hkey, rfl⟩
    · obtain ⟨item, hitem, rfl⟩ := List.mem_map.mp hp
      rcases of_mem_replanning_transport hitem with ⟨s, htype, -, rfl⟩ | ⟨hscope, hkey⟩
      · cases hfree
      · exact Or.inr ⟨item, hscope, hkey, rfl⟩

theorem keptName_iff {primitiveId : String} : KeptName preserved primitiveId ↔
    ∃ p ∈ candidatesOf (replanningPrimitives (carePrimitives scenario (transportPrimitives scenario))
      (transportPrimitives scenario) affectedWindows preserved), p.immutable = true ∧ p.primitiveId = primitiveId := by
  constructor
  · rintro ⟨s, hcounts | ⟨htype, hcounts⟩, rfl⟩
    · exact ⟨.care (preservedCare s), List.mem_append_left _ (List.mem_map_of_mem hcounts.mem_replanning), rfl, rfl⟩
    · exact ⟨.transport (preservedTransport s htype),
        List.mem_append_right _ (List.mem_map_of_mem (hcounts.mem_replanning htype)), rfl, rfl⟩
  · rintro ⟨p, hp, hkept, rfl⟩
    rcases List.mem_append.mp hp with hp | hp
    · obtain ⟨item, hitem, rfl⟩ := List.mem_map.mp hp
      rcases of_mem_replanning_care hitem with ⟨s, hcounts, rfl⟩ | ⟨hclip, -⟩
      · exact ⟨s, Or.inl hcounts, rfl⟩
      · obtain ⟨q, hq, v, -, x, -, rfl⟩ := mem_clips.mp hclip
        exact absurd (immutable_of_mem_carePrimitives hq) (ne_of_eq_of_ne hkept nofun)
    · obtain ⟨item, hitem, rfl⟩ := List.mem_map.mp hp
      rcases of_mem_replanning_transport hitem with ⟨s, htype, hcounts, rfl⟩ | ⟨hscope, -⟩
      · exact ⟨s, Or.inr ⟨htype, hcounts⟩, rfl⟩
      · have hfree := immutable_of_mem_transportPrimitives (List.mem_filter.mp hscope).1
        exact absurd hfree (ne_of_eq_of_ne hkept nofun)

theorem namedApart_replanning_iff :
    NamedApart (replanningPrimitives (carePrimitives scenario (transportPrimitives scenario))
        (transportPrimitives scenario) affectedWindows preserved) scenario.requiredCoverage
        scenario.familyHomeLocationId ↔
      ReplanningNamedApart scenario affectedWindows preserved := by
  constructor
  · intro h
    refine ⟨fun primitiveId hfree hkept hpath => ?_, fun trip htrip other hother hkey hkey' hid hpath => ?_⟩
    · obtain ⟨p, hp, hpfree, rfl⟩ := freeName_iff.mp hfree
      obtain ⟨q, hq, hqkept, hid⟩ := keptName_iff.mp hkept
      exact h.kept p hp q hq hpfree hqkept hid.symm hpath
    · refine h.trips trip (mem_replanning_of_mem_transport htrip hkey) other
        (mem_replanning_of_mem_transport hother hkey') ?_ ?_ hid hpath
      · exact immutable_of_mem_transportPrimitives (List.mem_filter.mp htrip).1
      · exact immutable_of_mem_transportPrimitives (List.mem_filter.mp hother).1
  · intro h
    refine ⟨fun p hp q hq hfree hkept hid => ?_, fun trip htrip other hother hfree hfree' hid hpath => ?_⟩
    · exact h.kept _ (freeName_iff.mpr ⟨p, hp, hfree, rfl⟩) (keptName_iff.mpr ⟨q, hq, hkept, hid.symm⟩)
    · rcases of_mem_replanning_transport htrip with ⟨s, htype, -, rfl⟩ | ⟨hscope, hkey⟩
      · cases hfree
      rcases of_mem_replanning_transport hother with ⟨s, htype, -, rfl⟩ | ⟨hscope', hkey'⟩
      · cases hfree'
      exact h.trips trip hscope other hscope' hkey hkey' hid hpath

/-- **When the matrix of a replanning is built**, on a coherent day. -/
theorem exists_replanning_matrix_iff (h : Coherent scenario) (hwindows : Span.Separate affectedWindows)
    (hids : (preserved.map (·.segmentId)).Nodup) :
    (∃ matrix, buildFeasibleAssignmentMatrix scenario (some affectedWindows) (some preserved) = .ok matrix) ↔
      ReplanningNamedApart scenario affectedWindows preserved := by
  have hknown := freeKnown_replanning h hwindows hids
  rw [exists_matrix_iff (candidatePrimitives_some ▸ hknown.nodup), candidatePrimitives_some,
    uniqueOnPaths_iff hknown, namedApart_replanning_iff]

/-! ### The first planning -/

/-- Two stretches of care that nobody confuses: of different people, or at different times. -/
def Told (p q : FeasibleCarePrimitive) : Prop :=
  p.assignedPersonId ≠ q.assignedPersonId ∨ ¬ p.window.Overlaps q.window

theorem Told.ne (h : Told p q) : p ≠ q := by
  rintro rfl
  exact h.elim (fun hne => hne rfl) fun hn => hn (Span.overlaps_self _)

theorem pairwise_told_caregiverCare (h : Coherent scenario) (hids : (scenario.caregivers.map (·.caregiverId)).Nodup) :
    (caregiverCare scenario trips).Pairwise Told := by
  have hfeasible : (feasibleCaregivers scenario).Pairwise fun c d => c.caregiverId ≠ d.caregiverId := by
    have hperm := (List.perm_insertionSort (fun c d : Caregiver => (compare c.caregiverId d.caregiverId).isLE)
      scenario.caregivers).map (·.caregiverId)
    have hsorted := hperm.nodup_iff.mpr hids
    exact List.pairwise_map.mp (hsorted.sublist ((List.filter_sublist.trans List.filter_sublist).map _))
  rw [caregiverCare_eq]
  refine List.pairwise_flatMap.mpr ⟨fun c _ => ?_, hfeasible.imp fun hne => ?_⟩
  · refine List.pairwise_filterMap.mpr ((separate_windowsOf h c.caregiverId).imp fun hn => ?_)
    intro p hp q hq
    refine Or.inr fun ho => hn ?_
    have hleft := ho.of_contains (inWindow_of_careIn hp).contains
    exact Span.overlaps_comm.mp ((Span.overlaps_comm.mp hleft).of_contains (inWindow_of_careIn hq).contains)
  · intro p hp q hq
    obtain ⟨v, -, hp⟩ := List.mem_filterMap.mp hp
    obtain ⟨w, -, hq⟩ := List.mem_filterMap.mp hq
    exact Or.inl fun he => hne ((inWindow_of_careIn hp).person.symm.trans (he.trans (inWindow_of_careIn hq).person))

theorem parentCare_eq : parentCare scenario trips = (sortedParents scenario).flatMap fun parent =>
    (betweenTrips scenario trips parent.parentId).map fun window =>
      { primitiveId := s!"care:{parent.parentId}:{isoformat window.start}"
        assignedPersonId := parent.parentId
        source := .parent
        window
        locationId := scenario.familyHomeLocationId
        locationLabel := homeLabel } := by
  simp only [betweenTrips, List.map_flatMap]
  rfl

theorem pairwise_told_parentCare (hids : scenario.parentIds.Nodup) : (parentCare scenario trips).Pairwise Told := by
  have hparents : (sortedParents scenario).Pairwise fun p q => p.parentId ≠ q.parentId := by
    have hperm := (List.perm_insertionSort (fun p q : ParentCalendar => (compare p.parentId q.parentId).isLE)
      (parentCalendars scenario)).map (·.parentId)
    have hlisted : (parentCalendars scenario).map (·.parentId) = scenario.parentIds := by
      simp [parentCalendars, Function.comp_def]
    rw [hlisted] at hperm
    have hsorted := List.pairwise_map.mp (hperm.nodup_iff.mpr hids)
    exact List.pairwise_map.mpr hsorted
  rw [parentCare_eq]
  refine List.pairwise_flatMap.mpr ⟨fun parent _ => ?_, hparents.imp fun hne => ?_⟩
  · exact List.pairwise_map.mpr ((separate_betweenTrips parent.parentId).imp Or.inr)
  · intro p hp q hq
    obtain ⟨v, -, rfl⟩ := List.mem_map.mp hp
    obtain ⟨w, -, rfl⟩ := List.mem_map.mp hq
    exact Or.inl hne

theorem pairwise_told_care (h : Coherent scenario) (hcaregivers : (scenario.caregivers.map (·.caregiverId)).Nodup)
    (hparents : scenario.parentIds.Nodup) :
    (caregiverCare scenario trips ++ parentCare scenario trips).Pairwise Told := by
  refine List.pairwise_append.mpr ⟨pairwise_told_caregiverCare h hcaregivers, pairwise_told_parentCare hparents, ?_⟩
  intro p hp q hq
  obtain ⟨c, hc, v, -, hpin⟩ := exists_inWindow hp
  refine Or.inl fun hsame => h.not_parent c (admitted_of_mem_feasibleCaregivers hc).mem ?_
  rw [← hpin.person, hsame]
  exact (atHome_of_mem_parentCare hq).person

/-- **Nobody is listed twice.** -/
theorem freeKnown_initial (h : Coherent scenario) (hcaregivers : (scenario.caregivers.map (·.caregiverId)).Nodup)
    (hparents : scenario.parentIds.Nodup) :
    FreeKnown (carePrimitives scenario (transportPrimitives scenario), transportPrimitives scenario) where
  nodup := by
    apply nodup_candidatesOf _ (nodup_transportPrimitives scenario)
    exact (List.perm_insertionSort _ _).nodup_iff.mpr ((pairwise_told_care h hcaregivers hparents).imp Told.ne)
  care p hp q hq _ _ hid := by
    rw [primitiveId_of_mem_carePrimitives hp, primitiveId_of_mem_carePrimitives hq] at hid
    obtain ⟨hperson, hstart⟩ := careId_inj hid
    have hsymm : Std.Symm Told := ⟨fun p q h => h.imp Ne.symm fun hn ho => hn (Span.overlaps_comm.mp ho)⟩
    by_contra hne
    rcases (pairwise_told_care h hcaregivers hparents).forall ((List.mem_insertionSort _).mp hp)
      ((List.mem_insertionSort _).mp hq) hne with hother | hapart
    · exact hother hperson
    · exact hapart ⟨hstart.trans_lt q.window.start_lt_end, hstart.symm.trans_lt p.window.start_lt_end⟩
  trips trip htrip other hother _ _ hroute := same_trip h htrip hother hroute
  apart p hp trip htrip _ _ hid := by
    obtain ⟨c, -, hbetween⟩ := exists_between htrip
    rw [primitiveId_of_mem_carePrimitives hp, hbetween.named] at hid
    exact careId_ne_tripId hid
  kept p hp q _ hkept := by
    rcases List.mem_append.mp hp with hp | hp
    · obtain ⟨item, hitem, rfl⟩ := List.mem_map.mp hp
      exact absurd (immutable_of_mem_carePrimitives hitem) (ne_of_eq_of_ne hkept nofun)
    · obtain ⟨item, hitem, rfl⟩ := List.mem_map.mp hp
      exact absurd (immutable_of_mem_transportPrimitives hitem) (ne_of_eq_of_ne hkept nofun)

/-- Trips with one identifier that lies on a full path of the day have one driver, beginning and route. -/
def InitialNamedApart (scenario : DemoScenario) : Prop :=
  ∀ trip ∈ transportPrimitives scenario, ∀ other ∈ transportPrimitives scenario,
    trip.primitiveId = other.primitiveId →
      OnFullPath (legsOf (carePrimitives scenario (transportPrimitives scenario)) (transportPrimitives scenario))
        scenario.requiredCoverage scenario.familyHomeLocationId trip.primitiveId → route trip = route other

/-- **When the first matrix is built**, on a coherent day with nobody listed twice. -/
theorem exists_initial_matrix_iff (h : Coherent scenario)
    (hcaregivers : (scenario.caregivers.map (·.caregiverId)).Nodup) (hparents : scenario.parentIds.Nodup) :
    (∃ matrix, buildFeasibleAssignmentMatrix scenario none none = .ok matrix) ↔ InitialNamedApart scenario := by
  have hknown := freeKnown_initial h hcaregivers hparents
  have hday : candidatePrimitives scenario none none =
      (carePrimitives scenario (transportPrimitives scenario), transportPrimitives scenario) := rfl
  rw [exists_matrix_iff (hday ▸ hknown.nodup), hday, uniqueOnPaths_iff hknown]
  constructor
  · intro hnamed trip htrip other hother hid hpath
    exact hnamed.trips trip htrip other hother (immutable_of_mem_transportPrimitives htrip)
      (immutable_of_mem_transportPrimitives hother) hid hpath
  · intro hnamed
    refine ⟨fun p _ q hq _ hkept => ?_, fun trip htrip other hother _ _ => hnamed trip htrip other hother⟩
    rcases List.mem_append.mp hq with hq | hq
    · obtain ⟨item, hitem, rfl⟩ := List.mem_map.mp hq
      exact absurd (immutable_of_mem_carePrimitives hitem) (ne_of_eq_of_ne hkept nofun)
    · obtain ⟨item, hitem, rfl⟩ := List.mem_map.mp hq
      exact absurd (immutable_of_mem_transportPrimitives hitem) (ne_of_eq_of_ne hkept nofun)

end DayMend.Agent
