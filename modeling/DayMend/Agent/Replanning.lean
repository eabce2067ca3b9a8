import DayMend.Agent.DayPrimitives
import DayMend.Agent.Paths
import DayMend.Agent.Selections

/-!
# The matrix of a replanning

Preserved segments come into the matrix as primitives that must be kept, beside the day's
primitives cut to the affected windows. Two dictionaries tell stretches of care and trips
apart by their keys, and what is preserved counts before the rest (`mem_replanning_care`,
`mem_replanning_transport`); pruning then keeps all primitives of an identifier or none, so
that an identifier of the matrix stands for what it stood for before
(`mem_primitives_of_id`).
-/

namespace DayMend.Agent

open DayMend.Base DayMend.Models DayMend.Fixtures DayMend.Services

variable {scenario : DemoScenario} {matrix : FeasibleAssignmentMatrix} {preserved : List RecoveryPlanSegment}
  {affectedWindows : List CoverageWindow} {care : List FeasibleCarePrimitive}
  {transport : List FeasibleTransportPrimitive} {segment : RecoveryPlanSegment}

/-! ### The primitives of a day are free -/

theorem immutable_of_mem_carePrimitives {trips : List FeasibleTransportPrimitive} {p : FeasibleCarePrimitive}
    (h : p ∈ carePrimitives scenario trips) : p.immutable = false := by
  rcases List.mem_append.mp ((List.mem_insertionSort _).mp h) with h | h
  · obtain ⟨caregiver, -, h⟩ := List.mem_flatMap.mp h
    obtain ⟨window, -, h⟩ := List.mem_filterMap.mp h
    dsimp only at h
    split at h
    · obtain rfl := Option.some.inj h
      rfl
    · cases h
  · obtain ⟨parent, -, h⟩ := List.mem_flatMap.mp h
    obtain ⟨careWindow, -, h⟩ := List.mem_flatMap.mp h
    obtain ⟨window, -, rfl⟩ := List.mem_map.mp h
    rfl

theorem immutable_of_mem_transportPrimitives {trip : FeasibleTransportPrimitive}
    (h : trip ∈ transportPrimitives scenario) : trip.immutable = false := by
  obtain ⟨entry, hentry, rfl⟩ := List.mem_map.mp ((List.mem_insertionSort _).mp h)
  obtain ⟨item, hitem, rfl⟩ := List.mem_map.mp (Dict.mem_of_mem_entries_ofList hentry)
  obtain ⟨caregiver, -, hitem⟩ := List.mem_flatMap.mp hitem
  split at hitem
  · cases hitem
  rcases List.mem_append.mp hitem with hitem | hitem
  · obtain ⟨parent, -, hitem⟩ := List.mem_flatMap.mp hitem
    obtain ⟨careWindow, -, hitem⟩ := List.mem_flatMap.mp hitem
    rcases List.mem_append.mp hitem with hitem | hitem
    · split at hitem
      · obtain rfl := List.mem_singleton.mp hitem
        rfl
      · cases hitem
    · split at hitem
      · obtain rfl := List.mem_singleton.mp hitem
        rfl
      · cases hitem
  · dsimp only [caregiverTrips] at hitem
    split at hitem
    · obtain ⟨careWindow, -, hitem⟩ := List.mem_filterMap.mp hitem
      split at hitem
      · cases hitem
      · obtain rfl := Option.some.inj hitem
        rfl
    · cases hitem

/-! ### Preserved work -/

/-- The primitive of a preserved stretch of care. -/
def preservedCare? (segment : RecoveryPlanSegment) : Option FeasibleCarePrimitive :=
  if segment.segmentType = .transport then none else some (preservedCare segment)

/-- The primitive of a preserved trip. -/
def preservedTrip? (segment : RecoveryPlanSegment) : Option FeasibleTransportPrimitive :=
  if h : segment.segmentType = .transport then some (preservedTransport segment h) else none

/-- The key of a preserved stretch of care. -/
def careKey (segment : RecoveryPlanSegment) : Option CareKey := (preservedCare? segment).map FeasibleCarePrimitive.key

/-- The key of a preserved trip. -/
def tripKey (segment : RecoveryPlanSegment) : Option TransportKey :=
  (preservedTrip? segment).map FeasibleTransportPrimitive.key

theorem preservedCare?_of_care (h : segment.segmentType ≠ .transport) :
    preservedCare? segment = some (preservedCare segment) := if_neg h

theorem preservedTrip?_of_transport (h : segment.segmentType = .transport) :
    preservedTrip? segment = some (preservedTransport segment h) := dif_pos h

theorem careKey_of_care (h : segment.segmentType ≠ .transport) :
    careKey segment = some (preservedCare segment).key := by
  rw [careKey, preservedCare?_of_care h, Option.map_some]

/-- The last of the preserved stretches of care with its key, which is the one that counts. -/
def CountsAsCare (preserved : List RecoveryPlanSegment) (segment : RecoveryPlanSegment) : Prop :=
  segment.segmentType ≠ .transport ∧ preserved.reverse.find? (fun s => careKey s = careKey segment) = some segment

/-- The last of the preserved trips with its key, which is the one that counts. -/
def Counts (preserved : List RecoveryPlanSegment) (trip : RecoveryPlanSegment) : Prop :=
  preserved.reverse.find? (fun s => tripKey s = tripKey trip) = some trip

theorem CountsAsCare.mem (h : CountsAsCare preserved segment) : segment ∈ preserved :=
  List.mem_reverse.mp (List.mem_of_find?_eq_some h.2)

theorem Counts.mem (h : Counts preserved segment) : segment ∈ preserved :=
  List.mem_reverse.mp (List.mem_of_find?_eq_some h)

/-! ### What replanning starts from -/

/-- A stretch of care, cut to a window. -/
def clip (p : FeasibleCarePrimitive) (window : CoverageWindow) : FeasibleCarePrimitive :=
  { p with
    primitiveId := s!"care:{p.assignedPersonId}:{isoformat window.start}"
    window }

/-- The stretches of care, each cut to each affected window. -/
def clips (care : List FeasibleCarePrimitive) (affectedWindows : List CoverageWindow) : List FeasibleCarePrimitive :=
  care.flatMap fun p => affectedWindows.filterMap fun affected => (windowIntersection p.window affected).map (clip p)

theorem mem_clips {p : FeasibleCarePrimitive} :
    p ∈ clips care affectedWindows ↔ ∃ q ∈ care, ∃ affected ∈ affectedWindows, ∃ window,
      windowIntersection q.window affected = some window ∧ p = clip q window := by
  simp only [clips, List.mem_flatMap, List.mem_filterMap, Option.map_eq_some_iff, eq_comm (a := p)]

/-- The trips of the day that replanning may choose among: those within an affected window. -/
def tripsInScope (transport : List FeasibleTransportPrimitive) (affectedWindows : List CoverageWindow) :
    List FeasibleTransportPrimitive :=
  transport.filter fun item => ∃ affected ∈ affectedWindows, affected.Contains item.window

/-- **The stretches of care that replanning starts from**: preserved ones that count, and of the day's, cut to the
affected windows, the last with a key that no preserved one has. -/
theorem mem_replanning_care {p : FeasibleCarePrimitive} :
    p ∈ (replanningPrimitives care transport affectedWindows preserved).1 ↔
      (∃ s, CountsAsCare preserved s ∧ p = preservedCare s) ∨
        (∀ s ∈ preserved, careKey s ≠ some p.key) ∧
          (clips care affectedWindows).reverse.find? (fun q => q.key = p.key) = some p := by
  have hkept : (preserved.filter (·.segmentType ≠ .transport)).map preservedCare =
      preserved.filterMap preservedCare? := by
    induction preserved with
    | nil => rfl
    | cons s preserved ih =>
      by_cases h : s.segmentType = .transport
      · have hnone : preservedCare? s = none := if_pos h
        rw [List.filter_cons_of_neg (by simpa using h), List.filterMap_cons_none hnone, ih]
      · rw [List.filter_cons_of_pos (by simpa using h), List.filterMap_cons_some (preservedCare?_of_care h),
          List.map_cons, ih]
  have hcare : (replanningPrimitives care transport affectedWindows preserved).1 =
      (Dict.ofList ((clips care affectedWindows ++ (preserved.filter (·.segmentType ≠ .transport)).map
        preservedCare).map fun item => (item.key, item))).values.insertionSort fun p q => careLe p q := rfl
  rw [hcare, List.mem_insertionSort, hkept, Dict.mem_values_append_iff FeasibleCarePrimitive.key]
  refine or_congr_left (exists_congr fun s => ?_)
  by_cases htype : s.segmentType = .transport
  · simp [CountsAsCare, preservedCare?, htype]
  · have hprimitive : preservedCare? s = some p ↔ p = preservedCare s := by
      rw [preservedCare?_of_care htype, Option.some.injEq, eq_comm]
    rw [CountsAsCare, and_iff_right htype, hprimitive]
    rfl

/-- **The trips that replanning starts from**: preserved ones that count, and of the day's within an affected window
the last with a key that no preserved one has. -/
theorem mem_replanning_transport {p : FeasibleTransportPrimitive} :
    p ∈ (replanningPrimitives care transport affectedWindows preserved).2 ↔
      (∃ s, ∃ h : s.segmentType = .transport, Counts preserved s ∧ p = preservedTransport s h) ∨
        (∀ s ∈ preserved, tripKey s ≠ some p.key) ∧
          (tripsInScope transport affectedWindows).reverse.find? (fun q => q.key = p.key) = some p := by
  have htrips : (replanningPrimitives care transport affectedWindows preserved).2 =
      (Dict.ofList ((tripsInScope transport affectedWindows ++ preserved.filterMap preservedTrip?).map
        fun item => (item.key, item))).values.insertionSort fun p q => transportLe p q := rfl
  rw [htrips, List.mem_insertionSort, Dict.mem_values_append_iff FeasibleTransportPrimitive.key]
  refine or_congr_left (exists_congr fun s => ?_)
  by_cases htype : s.segmentType = .transport
  · have hprimitive : preservedTrip? s = some p ↔ p = preservedTransport s htype := by
      rw [preservedTrip?_of_transport htype, Option.some.injEq, eq_comm]
    rw [exists_prop_of_true htype, hprimitive]
    rfl
  · simp [preservedTrip?, htype]

theorem of_mem_replanning_care {p : FeasibleCarePrimitive}
    (h : p ∈ (replanningPrimitives care transport affectedWindows preserved).1) :
    (∃ s, CountsAsCare preserved s ∧ p = preservedCare s) ∨
      p ∈ clips care affectedWindows ∧ ∀ s ∈ preserved, careKey s ≠ some p.key := by
  refine (mem_replanning_care.mp h).imp_right fun ⟨hnone, hfind⟩ => ⟨?_, hnone⟩
  exact List.mem_reverse.mp (List.mem_of_find?_eq_some hfind)

theorem of_mem_replanning_transport {p : FeasibleTransportPrimitive}
    (h : p ∈ (replanningPrimitives care transport affectedWindows preserved).2) :
    (∃ s, ∃ h : s.segmentType = .transport, Counts preserved s ∧ p = preservedTransport s h) ∨
      p ∈ tripsInScope transport affectedWindows ∧ ∀ s ∈ preserved, tripKey s ≠ some p.key := by
  refine (mem_replanning_transport.mp h).imp_right fun ⟨hnone, hfind⟩ => ⟨?_, hnone⟩
  exact List.mem_reverse.mp (List.mem_of_find?_eq_some hfind)

/-- **Preserved work that counts** can be chosen. -/
theorem CountsAsCare.mem_replanning (h : CountsAsCare preserved segment) :
    preservedCare segment ∈ (replanningPrimitives care transport affectedWindows preserved).1 :=
  mem_replanning_care.mpr (Or.inl ⟨segment, h, rfl⟩)

theorem Counts.mem_replanning (h : Counts preserved segment) (htransport : segment.segmentType = .transport) :
    preservedTransport segment htransport ∈ (replanningPrimitives care transport affectedWindows preserved).2 :=
  mem_replanning_transport.mpr (Or.inl ⟨segment, htransport, h, rfl⟩)

/-- A preserved stretch of care counts, itself or another one with the same key. -/
theorem exists_countsAsCare (hs : segment ∈ preserved) (hcare : segment.segmentType ≠ .transport) :
    ∃ kept, CountsAsCare preserved kept ∧ (preservedCare kept).key = (preservedCare segment).key := by
  cases hfind : preserved.reverse.find? (fun s => careKey s = careKey segment) with
  | none => simpa using List.find?_eq_none.mp hfind segment (List.mem_reverse.mpr hs)
  | some kept =>
    have hkey : careKey kept = careKey segment := by simpa using List.find?_some hfind
    have htype : kept.segmentType ≠ .transport := by
      intro htransport
      rw [careKey_of_care hcare, careKey, preservedCare?, if_pos htransport] at hkey
      cases hkey
    refine ⟨kept, ⟨htype, hkey.symm ▸ hfind⟩, ?_⟩
    rw [careKey_of_care hcare, careKey_of_care htype] at hkey
    exact Option.some.inj hkey

/-- Free care whose key no preserved care has can be chosen, itself or other care with its key, -/
theorem exists_mem_replanning_of_mem_clips (transport : List FeasibleTransportPrimitive)
    {p : FeasibleCarePrimitive} (hp : p ∈ clips care affectedWindows)
    (hkey : ∀ s ∈ preserved, careKey s ≠ some p.key) :
    ∃ q ∈ clips care affectedWindows, q.key = p.key ∧
      q ∈ (replanningPrimitives care transport affectedWindows preserved).1 := by
  cases hfind : (clips care affectedWindows).reverse.find? (fun q => q.key = p.key) with
  | none => simpa using List.find?_eq_none.mp hfind p (List.mem_reverse.mpr hp)
  | some q =>
    have hsame : q.key = p.key := by simpa using List.find?_some hfind
    refine ⟨q, List.mem_reverse.mp (List.mem_of_find?_eq_some hfind), hsame, ?_⟩
    exact mem_replanning_care.mpr (Or.inr ⟨hsame ▸ hkey, hsame ▸ hfind⟩)

/-- and a trip of the day within an affected window whose key no preserved trip has. -/
theorem mem_replanning_of_mem_transport {trip : FeasibleTransportPrimitive}
    (htrip : trip ∈ tripsInScope (transportPrimitives scenario) affectedWindows)
    (hkey : ∀ s ∈ preserved, tripKey s ≠ some trip.key) :
    trip ∈ (replanningPrimitives care (transportPrimitives scenario) affectedWindows preserved).2 := by
  refine mem_replanning_transport.mpr (Or.inr ⟨hkey, ?_⟩)
  cases hfind : (tripsInScope (transportPrimitives scenario) affectedWindows).reverse.find?
      (fun q => q.key = trip.key) with
  | none => simpa using List.find?_eq_none.mp hfind trip (List.mem_reverse.mpr htrip)
  | some found =>
    have hsame : found.key = trip.key := by simpa using List.find?_some hfind
    have hfound := (List.mem_filter.mp (List.mem_reverse.mp (List.mem_of_find?_eq_some hfind))).1
    simp only [FeasibleTransportPrimitive.key, Prod.mk.injEq] at hsame
    obtain ⟨hdriver, -, hstart, hend, horigin, hdestination⟩ := hsame
    have hdistinct := Dict.nodup_map_values (fun item : FeasibleTransportPrimitive =>
      (item.transporterId, item.window.start, item.window.end_, item.locationId, item.destinationLocationId))
    refine congrArg some (List.inj_on_of_nodup_map (hdistinct _) ((List.mem_insertionSort _).mp hfound)
      ((List.mem_insertionSort _).mp (List.mem_filter.mp htrip).1) ?_)
    simp only [hdriver, hstart, hend, horigin, hdestination]

/-! ### Identifiers -/

/-- The primitives before pruning. -/
def candidatesOf (candidates : List FeasibleCarePrimitive × List FeasibleTransportPrimitive) : List FeasiblePrimitive :=
  candidates.1.map .care ++ candidates.2.map .transport

theorem map_primitiveId_candidatesOf (candidates : List FeasibleCarePrimitive × List FeasibleTransportPrimitive) :
    (candidatesOf candidates).map (·.primitiveId) =
      candidates.1.map (·.primitiveId) ++ candidates.2.map (·.primitiveId) := by
  simp [candidatesOf, FeasiblePrimitive.primitiveId, Function.comp_def]

/-- Pruning looks at the identifiers only. -/
theorem candidatesOf_prune (candidates : List FeasibleCarePrimitive × List FeasibleTransportPrimitive)
    (required : CoverageWindow) (home : String) :
    ∃ retained : List String, candidatesOf (pruneToFullCoveragePaths candidates.1 candidates.2 required home) =
      (candidatesOf candidates).filter (·.primitiveId ∈ retained) := by
  refine ⟨((legsOf candidates.1 candidates.2).filter fun leg =>
    leg.start ∈ forwardStates (legsOf candidates.1 candidates.2) required home ∧
      leg.end_ ∈ backwardStates (legsOf candidates.1 candidates.2) required).map (·.primitiveId), ?_⟩
  rw [candidatesOf, candidatesOf, List.filter_append, List.filter_map, List.filter_map]
  rfl

section Matrix

variable {windows : Option (List CoverageWindow)} {segments : Option (List RecoveryPlanSegment)}
  {p q : FeasiblePrimitive}

/-- The primitives of the matrix are those that were there before pruning, by their identifiers. -/
theorem exists_primitives_eq_filter (hmatrix : buildFeasibleAssignmentMatrix scenario windows segments = .ok matrix) :
    ∃ retained : List String, matrix.primitives =
      (candidatesOf (candidatePrimitives scenario windows segments)).filter (·.primitiveId ∈ retained) := by
  obtain ⟨retained, hretained⟩ := candidatesOf_prune (candidatePrimitives scenario windows segments)
    scenario.requiredCoverage scenario.familyHomeLocationId
  refine ⟨retained, ?_⟩
  rw [← hretained, ← buildFeasibleAssignmentMatrix_eq_ok hmatrix]
  rfl

theorem mem_candidatesOf (hmatrix : buildFeasibleAssignmentMatrix scenario windows segments = .ok matrix)
    (hp : p ∈ matrix.primitives) : p ∈ candidatesOf (candidatePrimitives scenario windows segments) := by
  obtain ⟨retained, hretained⟩ := exists_primitives_eq_filter hmatrix
  rw [hretained] at hp
  exact (List.mem_filter.mp hp).1

/-- **An identifier of the matrix stands for what it stood for before pruning.** -/
theorem mem_primitives_of_id (hmatrix : buildFeasibleAssignmentMatrix scenario windows segments = .ok matrix)
    (hp : p ∈ matrix.primitives) (hq : q ∈ candidatesOf (candidatePrimitives scenario windows segments))
    (hid : q.primitiveId = p.primitiveId) : q ∈ matrix.primitives := by
  obtain ⟨retained, hretained⟩ := exists_primitives_eq_filter hmatrix
  rw [hretained] at hp ⊢
  refine List.mem_filter.mpr ⟨hq, ?_⟩
  rw [hid]
  exact (List.mem_filter.mp hp).2

/-- A replanning starts from its own primitives. -/
theorem candidatePrimitives_some : candidatePrimitives scenario (some affectedWindows) (some preserved) =
    replanningPrimitives (carePrimitives scenario (transportPrimitives scenario)) (transportPrimitives scenario)
      affectedWindows preserved := rfl

/-- What must be kept of what replanning starts from is preserved. -/
theorem exists_preserved_of_immutable {p : FeasiblePrimitive}
    (hp : p ∈ candidatesOf (replanningPrimitives (carePrimitives scenario (transportPrimitives scenario))
      (transportPrimitives scenario) affectedWindows preserved)) (himmutable : p.immutable = true) :
    ∃ s ∈ preserved, p.primitiveId = s.segmentId ∧
      ((s.segmentType ≠ .transport ∧ p = .care (preservedCare s)) ∨
        ∃ h : s.segmentType = .transport, p = .transport (preservedTransport s h)) := by
  rcases List.mem_append.mp hp with hp | hp
  · obtain ⟨item, hitem, rfl⟩ := List.mem_map.mp hp
    rcases of_mem_replanning_care hitem with ⟨s, hcounts, rfl⟩ | ⟨hclip, -⟩
    · exact ⟨s, hcounts.mem, rfl, Or.inl ⟨hcounts.1, rfl⟩⟩
    · obtain ⟨q, hq, affected, -, window, -, rfl⟩ := mem_clips.mp hclip
      exact absurd (immutable_of_mem_carePrimitives hq) (ne_of_eq_of_ne himmutable nofun)
  · obtain ⟨item, hitem, rfl⟩ := List.mem_map.mp hp
    rcases of_mem_replanning_transport hitem with ⟨s, htype, hcounts, rfl⟩ | ⟨hscope, -⟩
    · exact ⟨s, hcounts.mem, rfl, Or.inr ⟨htype, rfl⟩⟩
    · have hfree := immutable_of_mem_transportPrimitives (List.mem_filter.mp hscope).1
      exact absurd hfree (ne_of_eq_of_ne himmutable nofun)

end Matrix

end DayMend.Agent
