import DayMend.Models.Case
import DayMend.Services.PlanValidator

/-!
# The matrix of feasible assignments

The deterministic part of `agent/constraint_planner.py`: which stretches of care
and which trips are possible (`buildFeasibleAssignmentMatrix`), and which of them
lie on a path that covers the whole required window, beginning at home
(`pruneToFullCoveragePaths`). The context tools of `tools/recovery_context.py`
hand the scenario's own facts over; the matrix reads them from the scenario.
-/

namespace DayMend.Agent

open DayMend.Base DayMend.Models DayMend.Fixtures DayMend.Services

/-! ### The data -/

/-- An event that must be moved if its owner is to look after the child. -/
structure MovableCalendarConstraint where
  eventId : String
  window : CoverageWindow
  deriving DecidableEq

/-- What one person may be asked to do. -/
structure FeasiblePersonAssignment where
  personId : String
  source : CoverageSource
  permittedCareWindows : List CoverageWindow
  allowedCareLocationIds : List String
  hardPolicyEligible : Bool
  isTrusted : Option Bool := none
  hourlyRate : Option Decimal := none
  flatRate : Option Decimal := none
  handoffBufferMinutes : ℕ := 0
  movableCalendarConstraints : List MovableCalendarConstraint := []
  deriving DecidableEq

/-- One possible stretch of care. -/
structure FeasibleCarePrimitive where
  primitiveId : String
  assignedPersonId : String
  source : CoverageSource
  window : CoverageWindow
  locationId : String
  locationLabel : String
  immutable : Bool := false
  deriving DecidableEq

/-- One possible trip. -/
structure FeasibleTransportPrimitive where
  primitiveId : String
  assignedPersonId : String
  source : CoverageSource
  transporterId : String
  window : CoverageWindow
  locationId : String
  locationLabel : String
  destinationLocationId : String
  destinationLocationLabel : String
  requiredDurationMinutes : ℤ
  immutable : Bool := false
  deriving DecidableEq

/-- A time at which a parent cannot look after the child. -/
structure HardUnavailableCareWindow where
  personId : String
  window : CoverageWindow
  reason : String
  eventId : String
  deriving DecidableEq

/-- What is possible on the day. -/
structure FeasibleAssignmentMatrix where
  requiredCoverageWindow : CoverageWindow
  people : List FeasiblePersonAssignment
  carePrimitives : List FeasibleCarePrimitive
  transportPrimitives : List FeasibleTransportPrimitive
  connectedUncoveredWindows : List CoverageWindow := []
  hardUnavailableCareWindows : List HardUnavailableCareWindow
  excludedPersonIds : List String
  familyHomeLocationId : String
  requireTrustedCaregiver : Bool
  unapprovedCaregiverAllowed : Bool
  minimumHandoffMinutes : ℕ
  /-- No two primitives have the same identifier. -/
  primitive_ids_are_unique :
    (carePrimitives.map (·.primitiveId) ++ transportPrimitives.map (·.primitiveId)).Nodup

/-- A parent's calendar, as the context tools show it. -/
structure ParentCalendar where
  parentId : String
  canTransportChild : Bool
  availability : List CoverageWindow
  events : List CalendarEvent

/-- `_parent_calendars`. -/
def parentCalendars (scenario : DemoScenario) : List ParentCalendar :=
  let transportByParent := parentTransport scenario.parentTransportCapabilities
  scenario.parentIds.map fun parentId =>
    { parentId
      canTransportChild := (transportByParent.get? parentId).any (·.canTransportChild)
      availability := ((transportByParent.get? parentId).map (·.availability)).getD []
      events := scenario.parentEvents.filter (·.ownerId = parentId) }

/-! ### Windows -/

/-- `_window_intersection`. -/
def windowIntersection (window required : CoverageWindow) : Option CoverageWindow :=
  if h : max window.start required.start < min window.end_ required.end_ then some ⟨_, _, h⟩ else none

/-- `_subtract_windows`. -/
def subtractWindows (window : CoverageWindow) (blocked : List CoverageWindow) : List CoverageWindow :=
  (blocked.insertionSort Span.LexLe).foldl (fun remaining block => remaining.flatMap (·.sub block)) [window]

/-- One turn of the inner loop of `_subtract_windows`: what a block leaves of a candidate. -/
def subtractBlock (block candidate : CoverageWindow) : List CoverageWindow :=
  if block.end_ ≤ candidate.start ∨ block.start ≥ candidate.end_ then [candidate]
  else
    (if h : candidate.start < block.start then [⟨candidate.start, block.start, h⟩] else []) ++
      if h : block.end_ < candidate.end_ then [⟨block.end_, candidate.end_, h⟩] else []

/-- A block that touches the candidate or is apart from it does not overlap it. -/
theorem subtractBlock_eq_sub (block candidate : CoverageWindow) :
    subtractBlock block candidate = candidate.sub block := by
  have hguard : (block.end_ ≤ candidate.start ∨ block.start ≥ candidate.end_) ↔ ¬ candidate.Overlaps block := by
    rw [Span.Overlaps, not_and_or, not_lt, not_lt]
  unfold subtractBlock Span.sub
  simp only [hguard, ite_not]

/-- The loops of `_subtract_windows`. -/
theorem subtractWindows_eq_foldl (window : CoverageWindow) (blocked : List CoverageWindow) :
    subtractWindows window blocked =
      (blocked.insertionSort Span.LexLe).foldl (fun remaining block => remaining.flatMap (subtractBlock block))
        [window] := by
  have hturn : ∀ block, subtractBlock block = fun candidate => candidate.sub block :=
    fun block => funext (subtractBlock_eq_sub block)
  simp only [subtractWindows, hturn]

/-! ### Paths -/

/-- A moment, and where the child is at it. -/
abbrev PathState := ℤ × String

/-- What a primitive does to the child: from where and when to where and when. -/
structure Leg where
  primitiveId : String
  start : PathState
  end_ : PathState
  deriving DecidableEq

/-- `states` of a stretch of care. -/
def FeasibleCarePrimitive.leg (p : FeasibleCarePrimitive) : Leg :=
  { primitiveId := p.primitiveId, start := (p.window.start, p.locationId), end_ := (p.window.end_, p.locationId) }

/-- `states` of a trip. -/
def FeasibleTransportPrimitive.leg (p : FeasibleTransportPrimitive) : Leg :=
  { primitiveId := p.primitiveId
    start := (p.window.start, p.locationId)
    end_ := (p.window.end_, p.destinationLocationId) }

/-- The legs of all primitives. -/
def legsOf (care : List FeasibleCarePrimitive) (transport : List FeasibleTransportPrimitive) : List Leg :=
  care.map (·.leg) ++ transport.map (·.leg)

/-- One pass that follows the legs from the states already reached. -/
def forwardPass (legs : List Leg) (states : List PathState) : List PathState :=
  legs.foldl (fun reached leg =>
    if leg.start ∈ reached ∧ leg.end_ ∉ reached then leg.end_ :: reached else reached) states

/-- One pass that follows the legs back from the states already reached. -/
def backwardPass (legs : List Leg) (states : List PathState) : List PathState :=
  legs.foldl (fun reached leg =>
    if leg.end_ ∈ reached ∧ leg.start ∉ reached then leg.start :: reached else reached) states

/-- `while changed`: passes, until one reaches nothing new; `fuel` bounds their number. -/
def passes (pass : List PathState → List PathState) : ℕ → List PathState → List PathState
  | 0, states => states
  | fuel + 1, states =>
    let reached := pass states
    if reached.length = states.length then states else passes pass fuel reached

/-- The states that can be reached from home at the beginning. A pass that is not the last
reaches the end of one more leg, so there are at most as many of them as legs. -/
def forwardStates (legs : List Leg) (required : CoverageWindow) (homeLocationId : String) : List PathState :=
  passes (forwardPass legs) (legs.length + 1) [(required.start, homeLocationId)]

/-- The states from which the end can be reached. -/
def backwardStates (legs : List Leg) (required : CoverageWindow) : List PathState :=
  passes (backwardPass legs) (legs.length + 1) ((legs.map (·.end_)).filter (·.1 = required.end_)).dedup

/-- `_prune_to_full_coverage_paths`. -/
def pruneToFullCoveragePaths (care : List FeasibleCarePrimitive) (transport : List FeasibleTransportPrimitive)
    (required : CoverageWindow) (homeLocationId : String) :
    List FeasibleCarePrimitive × List FeasibleTransportPrimitive :=
  let legs := legsOf care transport
  let forward := forwardStates legs required homeLocationId
  let backward := backwardStates legs required
  let retained := (legs.filter fun leg => leg.start ∈ forward ∧ leg.end_ ∈ backward).map (·.primitiveId)
  (care.filter (·.primitiveId ∈ retained), transport.filter (·.primitiveId ∈ retained))

/-- The order in which bridges are preferred: the shortest, then the earliest. -/
def bridgeLe (v w : CoverageWindow) : Bool :=
  ((compare (v.end_ - v.start) (w.end_ - w.start)).then ((compare v.start w.start).then
    (compare v.end_ w.end_))).isLE

/-- `_connected_uncovered_windows`. -/
def connectedUncoveredWindows (care : List FeasibleCarePrimitive) (transport : List FeasibleTransportPrimitive)
    (required : CoverageWindow) (homeLocationId : String) : List CoverageWindow :=
  let legs := legsOf care transport
  let forward := forwardStates legs required homeLocationId
  if ∃ state ∈ forward, state.1 = required.end_ then []
  else
    let backward := backwardStates legs required
    let bridges := forward.flatMap fun f => backward.filterMap fun b =>
      if h : f.1 < b.1 then if f.2 = b.2 then some (⟨f.1, b.1, h⟩ : CoverageWindow) else none else none
    match bridges.insertionSort fun v w => bridgeLe v w with
    | [] => [required]
    | best :: _ => [best]

/-! ### Replanning -/

/-- What tells one stretch of care from another. -/
abbrev CareKey := String × CoverageSource × ℤ × ℤ × String

/-- What tells one trip from another. -/
abbrev TransportKey := String × CoverageSource × ℤ × ℤ × String × String

/-- The key of a stretch of care. -/
def FeasibleCarePrimitive.key (p : FeasibleCarePrimitive) : CareKey :=
  (p.assignedPersonId, p.source, p.window.start, p.window.end_, p.locationId)

/-- The key of a trip. -/
def FeasibleTransportPrimitive.key (p : FeasibleTransportPrimitive) : TransportKey :=
  (p.transporterId, p.source, p.window.start, p.window.end_, p.locationId, p.destinationLocationId)

/-- The order of stretches of care. -/
def careLe (p q : FeasibleCarePrimitive) : Bool :=
  ((compare p.window.start q.window.start).then ((compare p.window.end_ q.window.end_).then
    ((compare p.source.value q.source.value).then (compare p.assignedPersonId q.assignedPersonId)))).isLE

/-- The order of trips. -/
def transportLe (p q : FeasibleTransportPrimitive) : Bool :=
  ((compare p.window.start q.window.start).then ((compare p.window.end_ q.window.end_).then
    ((compare p.transporterId q.transporterId).then ((compare p.locationId q.locationId).then
      (compare p.destinationLocationId q.destinationLocationId))))).isLE

/-- `_preserved_primitive`, of a stretch of care. -/
def preservedCare (segment : RecoveryPlanSegment) : FeasibleCarePrimitive :=
  { primitiveId := segment.segmentId
    assignedPersonId := segment.assignedPersonId
    source := segment.source
    window := segment.window
    locationId := segment.locationId
    locationLabel := segment.locationLabel
    immutable := true }

/-- `_preserved_primitive`, of a trip. -/
def preservedTransport (segment : RecoveryPlanSegment) (h : segment.segmentType = .transport) :
    FeasibleTransportPrimitive :=
  { primitiveId := segment.segmentId
    assignedPersonId := segment.assignedPersonId
    source := segment.source
    transporterId := segment.transporter h
    window := segment.window
    locationId := segment.locationId
    locationLabel := segment.locationLabel
    destinationLocationId := segment.destination h
    destinationLocationLabel :=
      match segment.destinationLocationLabel with
      | some label => if label = "" then segment.destination h else label
      | none => segment.destination h
    requiredDurationMinutes := wholeMinutes (segment.window.end_ - segment.window.start)
    immutable := true }

/-- `_replanning_primitives`. -/
def replanningPrimitives (care : List FeasibleCarePrimitive) (transport : List FeasibleTransportPrimitive)
    (affectedWindows : List CoverageWindow) (preservedSegments : List RecoveryPlanSegment) :
    List FeasibleCarePrimitive × List FeasibleTransportPrimitive :=
  let clipped := care.flatMap fun primitive => affectedWindows.filterMap fun affected =>
    (windowIntersection primitive.window affected).map fun window =>
      { primitive with
        primitiveId := s!"care:{primitive.assignedPersonId}:{isoformat window.start}"
        window }
  let inScope := transport.filter fun item => ∃ affected ∈ affectedWindows, affected.Contains item.window
  let preservedCare := (preservedSegments.filter (·.segmentType ≠ .transport)).map preservedCare
  let preservedTransport := preservedSegments.filterMap fun segment =>
    if h : segment.segmentType = .transport then some (preservedTransport segment h) else none
  let careDict : Dict CareKey FeasibleCarePrimitive :=
    .ofList ((clipped ++ preservedCare).map fun item => (item.key, item))
  let transportDict : Dict TransportKey FeasibleTransportPrimitive :=
    .ofList ((inScope ++ preservedTransport).map fun item => (item.key, item))
  (careDict.values.insertionSort fun p q => careLe p q, transportDict.values.insertionSort fun p q => transportLe p q)

/-! ### The matrix -/

/-- The caregivers whom the family's policy admits. -/
def eligibleCaregivers (scenario : DemoScenario) : List Caregiver :=
  (scenario.caregivers.insertionSort fun c d => (compare c.caregiverId d.caregiverId).isLE).filter fun caregiver =>
    caregiver.caregiverId ∉ scenario.unavailableCaregiverIds ∧
      (!caregiver.externalProvider || scenario.policy.allowExternalBackupProviders) ∧
        (caregiver.isTrusted ||
          (!scenario.policy.requireTrustedCaregiver && scenario.policy.unapprovedCaregiverAllowed))

/-- The part of a caregiver's availability that falls in the required window. -/
def careWindows (required : CoverageWindow) (caregiver : Caregiver) : List CoverageWindow :=
  caregiver.availability.filterMap fun window => windowIntersection window required

/-- The admitted caregivers who have time. -/
def feasibleCaregivers (scenario : DemoScenario) : List Caregiver :=
  (eligibleCaregivers scenario).filter fun caregiver => careWindows scenario.requiredCoverage caregiver ≠ []

/-- `caregiver_care_windows`: where an identifier occurs twice the later caregiver counts. -/
def caregiverCareWindows (scenario : DemoScenario) : Dict String (List CoverageWindow) :=
  .ofList ((feasibleCaregivers scenario).map fun caregiver =>
    (caregiver.caregiverId, careWindows scenario.requiredCoverage caregiver))

/-- An event that cannot be moved. -/
def fixedEvent (event : CalendarEvent) : Bool := event.critical || !event.movable

/-- The parents' calendars, by identifier, each with its events by identifier. -/
def sortedParents (scenario : DemoScenario) : List ParentCalendar :=
  ((parentCalendars scenario).insertionSort fun p q => (compare p.parentId q.parentId).isLE).map fun parent =>
    { parent with events := parent.events.insertionSort fun e f => (compare e.eventId f.eventId).isLE }

/-- The times of a parent's fixed events. -/
def blockedWindows (parent : ParentCalendar) : List CoverageWindow :=
  (parent.events.filter fixedEvent).map (·.window)

/-- When a parent may look after the child. -/
def parentCareWindows (scenario : DemoScenario) (parent : ParentCalendar) : List CoverageWindow :=
  subtractWindows scenario.requiredCoverage (blockedWindows parent)

/-- When a parent may drive. -/
def parentTransportWindows (scenario : DemoScenario) (parent : ParentCalendar) : List CoverageWindow :=
  if parent.canTransportChild then
    parent.availability.flatMap fun window =>
      match windowIntersection window scenario.requiredCoverage with
      | some intersection => subtractWindows intersection (blockedWindows parent)
      | none => []
  else []

/-- `parent_transport_windows`, sorted by parent. -/
def transportingParents (scenario : DemoScenario) : List (String × List CoverageWindow) :=
  let windows := (sortedParents scenario).filterMap fun parent =>
    let windows := parentTransportWindows scenario parent
    if windows = [] then none else some (parent.parentId, windows)
  (Dict.ofList windows).entries.insertionSort fun p q => (compare p.1 q.1).isLE

/-- The caregivers as the matrix lists them. -/
def caregiverAssignments (scenario : DemoScenario) : List FeasiblePersonAssignment :=
  (feasibleCaregivers scenario).map fun caregiver =>
    { personId := caregiver.caregiverId
      source := .caregiver
      permittedCareWindows := careWindows scenario.requiredCoverage caregiver
      allowedCareLocationIds := [caregiver.locationId]
      hardPolicyEligible := true
      isTrusted := caregiver.isTrusted
      hourlyRate := caregiver.hourlyRate
      flatRate := caregiver.flatRate
      handoffBufferMinutes := caregiver.handoffBufferMinutes }

/-- The parents as the matrix lists them. -/
def parentAssignments (scenario : DemoScenario) : List FeasiblePersonAssignment :=
  let knownLocations :=
    ((scenario.familyHomeLocationId :: (feasibleCaregivers scenario).map (·.locationId)).dedup).insertionSort
      fun a b => (compare a b).isLE
  (sortedParents scenario).map fun parent =>
    { personId := parent.parentId
      source := .parent
      permittedCareWindows := parentCareWindows scenario parent
      allowedCareLocationIds := knownLocations
      hardPolicyEligible := true
      movableCalendarConstraints :=
        (parent.events.filter fun event => event.movable && !event.critical).map fun event =>
          { eventId := event.eventId, window := event.window } }

/-- The parents' fixed events as the matrix lists them. -/
def hardUnavailable (scenario : DemoScenario) : List HardUnavailableCareWindow :=
  (sortedParents scenario).flatMap fun parent =>
    (parent.events.filter fixedEvent).map fun event =>
      { personId := parent.parentId
        window := event.window
        reason := "Protected critical or non-movable calendar commitment."
        eventId := event.eventId }

/-- What the matrix calls the family's home. -/
def homeLabel : String := "Family home"

/-- A trip between home and a caregiver's place. -/
def tripPrimitive (scenario : DemoScenario) (caregiver : Caregiver) (driver : String) (source : CoverageSource)
    (trip : CoverageWindow) (origin destination : String) : FeasibleTransportPrimitive :=
  let label (location : String) : String :=
    if location = scenario.familyHomeLocationId then homeLabel else caregiver.locationLabel
  { primitiveId := s!"transport:{driver}:{isoformat trip.start}:{origin}:{destination}"
    assignedPersonId := driver
    source
    transporterId := driver
    window := trip
    locationId := origin
    locationLabel := label origin
    destinationLocationId := destination
    destinationLocationLabel := label destination
    requiredDurationMinutes := caregiver.travelMinutesFromFamilyHome }

/-- The trips that parents can make to and from a caregiver who is away from home. -/
def parentTrips (scenario : DemoScenario) (caregiver : Caregiver)
    (duration_pos : 0 < caregiver.travelMinutesFromFamilyHome) : List FeasibleTransportPrimitive :=
  let home := scenario.familyHomeLocationId
  let delta : ℤ := caregiver.travelMinutesFromFamilyHome * minute
  have hdelta : 0 < delta := Int.mul_pos (Int.natCast_pos.mpr duration_pos) (by decide)
  let windows := ((caregiverCareWindows scenario).get? caregiver.caregiverId).getD []
  (transportingParents scenario).flatMap fun parent => windows.flatMap fun careWindow =>
    let there : CoverageWindow := ⟨careWindow.start - delta, careWindow.start, by omega⟩
    let back : CoverageWindow := ⟨careWindow.end_ - delta, careWindow.end_, by omega⟩
    (if IsCovered there parent.2 then
        [tripPrimitive scenario caregiver parent.1 .parent there home caregiver.locationId] else []) ++
      if IsCovered back parent.2 then
        [tripPrimitive scenario caregiver parent.1 .parent back caregiver.locationId home] else []

/-- The trips home that a caregiver who is away from home can make. -/
def caregiverTrips (scenario : DemoScenario) (caregiver : Caregiver)
    (duration_pos : 0 < caregiver.travelMinutesFromFamilyHome) : List FeasibleTransportPrimitive :=
  let delta : ℤ := caregiver.travelMinutesFromFamilyHome * minute
  have hdelta : 0 < delta := Int.mul_pos (Int.natCast_pos.mpr duration_pos) (by decide)
  let windows := ((caregiverCareWindows scenario).get? caregiver.caregiverId).getD []
  if caregiver.canTransportChild && (!caregiver.externalProvider || scenario.policy.allowProviderTransport) then
    windows.filterMap fun careWindow =>
      if careWindow.end_ - careWindow.start < delta then none
      else some (tripPrimitive scenario caregiver caregiver.caregiverId .caregiver
        ⟨careWindow.end_ - delta, careWindow.end_, by omega⟩ caregiver.locationId scenario.familyHomeLocationId)
  else []

/-- The trips of the day, sorted. -/
def transportPrimitives (scenario : DemoScenario) : List FeasibleTransportPrimitive :=
  let trips := (feasibleCaregivers scenario).flatMap fun (caregiver : Caregiver) =>
    if h : caregiver.locationId = scenario.familyHomeLocationId ∨ caregiver.travelMinutesFromFamilyHome = 0 then []
    else
      have hpos : 0 < caregiver.travelMinutesFromFamilyHome := Nat.pos_of_ne_zero fun h0 => h (Or.inr h0)
      parentTrips scenario caregiver hpos ++ caregiverTrips scenario caregiver hpos
  let byKey : Dict (String × ℤ × ℤ × String × String) FeasibleTransportPrimitive :=
    .ofList (trips.map fun item =>
      ((item.transporterId, item.window.start, item.window.end_, item.locationId, item.destinationLocationId), item))
  byKey.values.insertionSort fun p q => transportLe p q

/-- Care by caregivers: each window until the first trip home that ends with it. -/
def caregiverCare (scenario : DemoScenario) (trips : List FeasibleTransportPrimitive) : List FeasibleCarePrimitive :=
  (feasibleCaregivers scenario).flatMap fun caregiver =>
    (((caregiverCareWindows scenario).get? caregiver.caregiverId).getD []).filterMap fun careWindow =>
      let departures := (trips.filter fun item =>
        item.locationId = caregiver.locationId ∧ item.destinationLocationId = scenario.familyHomeLocationId ∧
          item.window.end_ = careWindow.end_).map (·.window.start)
      let careEnd := departures.min?.getD careWindow.end_
      if h : careWindow.start < careEnd then
        some
          { primitiveId := s!"care:{caregiver.caregiverId}:{isoformat careWindow.start}"
            assignedPersonId := caregiver.caregiverId
            source := .caregiver
            window := ⟨careWindow.start, careEnd, h⟩
            locationId := caregiver.locationId
            locationLabel := caregiver.locationLabel }
      else none

/-- Care by parents, at home, between their trips. -/
def parentCare (scenario : DemoScenario) (trips : List FeasibleTransportPrimitive) : List FeasibleCarePrimitive :=
  let careWindowsOf : Dict String (List CoverageWindow) :=
    .ofList ((sortedParents scenario).map fun parent => (parent.parentId, parentCareWindows scenario parent))
  (sortedParents scenario).flatMap fun parent =>
    let ownTrips := (trips.filter (·.transporterId = parent.parentId)).map (·.window)
    ((careWindowsOf.get? parent.parentId).getD []).flatMap fun careWindow =>
      (subtractWindows careWindow ownTrips).map fun window =>
        { primitiveId := s!"care:{parent.parentId}:{isoformat window.start}"
          assignedPersonId := parent.parentId
          source := .parent
          window
          locationId := scenario.familyHomeLocationId
          locationLabel := homeLabel }

/-- The stretches of care of the day, sorted. -/
def carePrimitives (scenario : DemoScenario) (trips : List FeasibleTransportPrimitive) : List FeasibleCarePrimitive :=
  (caregiverCare scenario trips ++ parentCare scenario trips).insertionSort fun p q => careLe p q

/-- The order in which the matrix lists people. -/
def personLe (p q : FeasiblePersonAssignment) : Bool :=
  ((compare p.source.value q.source.value).then (compare p.personId q.personId)).isLE

/-- The order in which the matrix lists fixed events. -/
def unavailableLe (v w : HardUnavailableCareWindow) : Bool :=
  ((compare v.window.start w.window.start).then ((compare v.personId w.personId).then
    (compare v.eventId w.eventId))).isLE

/-- `build_feasible_assignment_matrix`. -/
def buildFeasibleAssignmentMatrix (scenario : DemoScenario) (affectedWindows : Option (List CoverageWindow))
    (preservedSegments : Option (List RecoveryPlanSegment)) : Except Failure FeasibleAssignmentMatrix :=
  let required := scenario.requiredCoverage
  let home := scenario.familyHomeLocationId
  let transport := transportPrimitives scenario
  let care := carePrimitives scenario transport
  let candidates :=
    if affectedWindows.isSome ∨ preservedSegments.isSome then
      replanningPrimitives care transport (affectedWindows.getD []) (preservedSegments.getD [])
    else (care, transport)
  let pruned := pruneToFullCoveragePaths candidates.1 candidates.2 required home
  if h : (pruned.1.map (·.primitiveId) ++ pruned.2.map (·.primitiveId)).Nodup then
    .ok
      { requiredCoverageWindow := required
        people := (caregiverAssignments scenario ++ parentAssignments scenario).insertionSort fun p q => personLe p q
        carePrimitives := pruned.1
        transportPrimitives := pruned.2
        connectedUncoveredWindows := connectedUncoveredWindows candidates.1 candidates.2 required home
        hardUnavailableCareWindows := (hardUnavailable scenario).insertionSort fun v w => unavailableLe v w
        excludedPersonIds := scenario.unavailableCaregiverIds.dedup.insertionSort fun a b => (compare a b).isLE
        familyHomeLocationId := home
        requireTrustedCaregiver := scenario.policy.requireTrustedCaregiver
        unapprovedCaregiverAllowed := scenario.policy.unapprovedCaregiverAllowed
        minimumHandoffMinutes := scenario.policy.minimumHandoffMinutes
        primitive_ids_are_unique := h }
  else .error (.valueError "feasible primitive IDs must be unique")

end DayMend.Agent
