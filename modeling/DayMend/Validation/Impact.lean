import DayMend.Application.Reconstruction
import DayMend.Services.DeclinedObject
import DayMend.Validation.Coverage

/-!
# What a decline puts in scope

The service collects the care that a decline affects, and then goes through the sorted
segments once, to add the trips that connect with what is in scope already. In a valid
plan that is exactly the affected care with the trips that meet it
(`Accepted.mem_impactOf`): connections end with the first trip, as a trip leads
somewhere else. An accepted decline splits the plan into what is in scope and what is
preserved (`exists_splits`), and `exists_outcome` says when a decline is accepted.
-/

namespace DayMend.Validation

open DayMend.Base DayMend.Models DayMend.Fixtures DayMend.Services DayMend.Application

variable {scenario : DemoScenario} {plan : RecoveryPlan} {decline : Decline} {declined : Caregiver}
  {recoveryCase : RecoveryCase} {event : RecoveryEvent} {outcome : InvalidationOutcome}
  {segment trip care : RecoveryPlanSegment} {previous : Option RecoveryPlanSegment}
  {segments rest : List RecoveryPlanSegment} {impact : Impact} {directIds : List String}

/-! ### The search for connected trips -/

/-- A trip whose neighbour before it, or after it, is the other segment, at the declined caregiver's place and exactly
when that begins or ends. -/
def ConnectsWith (declined : Caregiver) (segments : List RecoveryPlanSegment) (trip other : RecoveryPlanSegment) :
    Prop :=
  [trip, other] <:+: segments ∧ EndsAt declined trip other ∨ [other, trip] <:+: segments ∧ StartsAt declined trip other

theorem mem_connectPrevious {id : String} :
    id ∈ (impact.connectPrevious directIds declined previous segment).impactedIds ↔
      id ∈ impact.impactedIds ∨ ∃ trip, previous = some trip ∧ EndsAt declined trip segment ∧ id = trip.segmentId := by
  unfold Impact.connectPrevious
  cases previous with
  | none => simp
  | some trip =>
    dsimp only
    split
    next h => simp [Impact.connect, h, or_comm]
    next h => simp [h]

theorem mem_connectFollowing {following : Option RecoveryPlanSegment} {id : String} :
    id ∈ (impact.connectFollowing directIds declined following segment).impactedIds ↔
      id ∈ impact.impactedIds ∨
        ∃ trip, following = some trip ∧ StartsAt declined trip segment ∧ id = trip.segmentId := by
  unfold Impact.connectFollowing
  cases following with
  | none => simp
  | some trip =>
    dsimp only
    split
    next h => simp [Impact.connect, h, or_comm]
    next h => simp [h]

/-- One turn of the loop. -/
def turn (directIds : List String) (declined : Caregiver) (previous : Option RecoveryPlanSegment)
    (segment : RecoveryPlanSegment) (rest : List RecoveryPlanSegment) (impact : Impact) : Impact :=
  if segment.segmentId ∈ impact.impactedIds then
    (impact.connectPrevious directIds declined previous segment).connectFollowing directIds declined rest.head? segment
  else impact

theorem connectTrips_cons :
    connectTrips directIds declined previous (segment :: rest) impact =
      connectTrips directIds declined (some segment) rest (turn directIds declined previous segment rest impact) := rfl

/-- **What one turn puts in scope**: the neighbours of a segment in scope that connect with it. -/
theorem mem_turn {id : String} :
    id ∈ (turn directIds declined previous segment rest impact).impactedIds ↔
      id ∈ impact.impactedIds ∨ segment.segmentId ∈ impact.impactedIds ∧
        ((∃ trip, previous = some trip ∧ EndsAt declined trip segment ∧ id = trip.segmentId) ∨
          ∃ trip, rest.head? = some trip ∧ StartsAt declined trip segment ∧ id = trip.segmentId) := by
  unfold turn
  split
  next h => rw [mem_connectFollowing, mem_connectPrevious, or_assoc, and_iff_right h]
  next h => simp [h]

/-- What is in scope stays in scope. -/
theorem subset_connectTrips :
    impact.impactedIds ⊆ (connectTrips directIds declined previous rest impact).impactedIds := by
  induction rest generalizing previous impact with
  | nil => exact fun _ h => h
  | cons segment rest ih => exact fun id h => ih (mem_turn.mpr (Or.inl h))

/-- A trip that leads to a segment in scope is in scope in the end, -/
theorem mem_connectTrips_of_endsAt (hcare : care.segmentId ∈ impact.impactedIds)
    (h : [trip, care] <:+: previous.toList ++ rest) (hends : EndsAt declined trip care) :
    trip.segmentId ∈ (connectTrips directIds declined previous rest impact).impactedIds := by
  induction rest generalizing previous impact with
  | nil => exact absurd (List.IsInfix.length_le h) (by cases previous <;> simp)
  | cons segment rest ih =>
    rw [connectTrips_cons]
    have hnow : previous = some trip ∧ segment = care ∨ [trip, care] <:+: (some segment).toList ++ rest := by
      cases previous with
      | none => exact Or.inr h
      | some p => simpa [eq_comm] using pair_infix_cons_iff.mp h
    rcases hnow with ⟨rfl, rfl⟩ | hrest
    · exact subset_connectTrips (mem_turn.mpr (Or.inr ⟨hcare, Or.inl ⟨trip, rfl, hends, rfl⟩⟩))
    · exact ih (mem_turn.mpr (Or.inl hcare)) hrest

/-- and so is one that leads away from it. -/
theorem mem_connectTrips_of_startsAt (hcare : care.segmentId ∈ impact.impactedIds) (h : [care, trip] <:+: rest)
    (hstarts : StartsAt declined trip care) :
    trip.segmentId ∈ (connectTrips directIds declined previous rest impact).impactedIds := by
  induction rest generalizing previous impact with
  | nil => simp at h
  | cons segment rest ih =>
    rw [connectTrips_cons]
    rcases pair_infix_cons_iff.mp h with ⟨rfl, hnext⟩ | hrest
    · exact subset_connectTrips (mem_turn.mpr (Or.inr ⟨hcare, Or.inr ⟨trip, hnext, hstarts, rfl⟩⟩))
    · exact ih (mem_turn.mpr (Or.inl hcare)) hrest

/-- Whatever connecting trips keep is kept by the whole loop. -/
theorem forall_mem_connectTrips {P : String → Prop}
    (hconnects : ∀ trip other, ConnectsWith declined (previous.toList ++ rest) trip other → P other.segmentId →
      P trip.segmentId)
    (h : ∀ id ∈ impact.impactedIds, P id) :
    ∀ id ∈ (connectTrips directIds declined previous rest impact).impactedIds, P id := by
  induction rest generalizing previous impact with
  | nil => exact h
  | cons segment rest ih =>
    rw [connectTrips_cons]
    have htail : segment :: rest <:+: previous.toList ++ segment :: rest := (List.suffix_append _ _).isInfix
    refine ih (fun trip other hc => hconnects trip other ?_) fun id hid => ?_
    · exact hc.imp (And.imp_left fun hpair => hpair.trans htail) (And.imp_left fun hpair => hpair.trans htail)
    · rcases mem_turn.mp hid with hid | ⟨hsegment, ⟨trip, rfl, hends, rfl⟩ | ⟨trip, hnext, hstarts, rfl⟩⟩
      · exact h id hid
      · refine hconnects trip segment (Or.inl ⟨?_, hends⟩) (h _ hsegment)
        exact ⟨[], rest, rfl⟩
      · refine hconnects trip segment (Or.inr ⟨?_, hstarts⟩) (h _ hsegment)
        exact (pair_infix_cons_iff.mpr (Or.inl ⟨rfl, hnext⟩)).trans htail

/-! ### What is in scope -/

/-- The declined caregiver was to look after the child in the segment, during the declined window. -/
def Direct (decline : Decline) (segment : RecoveryPlanSegment) : Prop :=
  segment.source = .caregiver ∧ segment.segmentType = .care ∧ segment.assignedPersonId = decline.caregiverId ∧
    segment.window.Overlaps decline.window

theorem mem_directlyImpacted :
    segment ∈ directlyImpacted decline plan ↔ segment ∈ plan.coverageSegments ∧ Direct decline segment := by
  simp [directlyImpacted, Direct]

/-- The segment is in the scope of the decline: it is affected itself, or connects with one that is. -/
def InScope (decline : Decline) (declined : Caregiver) (segments : List RecoveryPlanSegment)
    (segment : RecoveryPlanSegment) : Prop :=
  Direct decline segment ∨ ∃ care ∈ segments, Direct decline care ∧ ConnectsWith declined segments segment care

/-- In a valid plan the child is somewhere else after a trip. -/
theorem Accepted.destination_ne (h : Accepted plan scenario) (hmem : trip ∈ plan.coverageSegments)
    (htransport : trip.segmentType = .transport) : trip.destinationLocationId ≠ some trip.locationId := by
  have hne := ((h.locations trip hmem).trip htransport).destination_ne
  intro he
  refine hne ?_
  rw [RecoveryPlanSegment.destination]
  exact Option.get_of_eq_some _ he

/-- Neighbours in a valid plan meet at one place. -/
theorem Accepted.transition (h : Accepted plan scenario) {s t : RecoveryPlanSegment}
    (hpair : [s, t] <:+: sortedSegments plan.coverageSegments) : TransitionOk s t :=
  List.isChain_pair.mp <| List.IsChain.infix h.transitions hpair

/-- A trip ends at its destination. -/
theorem destinationLocationId_eq (htransport : trip.segmentType = .transport) :
    trip.destinationLocationId = some (endLocation trip) := by
  rw [endLocation, dif_pos htransport, RecoveryPlanSegment.destination, Option.some_get]

theorem Accepted.nodup_sortedSegments (h : Accepted plan scenario) : (sortedSegments plan.coverageSegments).Nodup :=
  (sortedSegments_perm _).nodup_iff.mpr (List.Nodup.of_map _ h.unique_ids)

/-- The segments of a valid plan are told apart by their identifiers. -/
theorem Accepted.eq_of_segmentId (h : Accepted plan scenario) {s t : RecoveryPlanSegment}
    (hs : s ∈ plan.coverageSegments) (ht : t ∈ plan.coverageSegments) (hid : s.segmentId = t.segmentId) : s = t :=
  List.inj_on_of_nodup_map h.unique_ids hs ht hid

/-- **Connections end with the first trip**: what a trip connects with is affected itself, as after a trip from the
declined caregiver's place, and before one to it, the child is somewhere else. -/
theorem Accepted.direct_of_connects (h : Accepted plan scenario) {other : RecoveryPlanSegment}
    (hother : InScope decline declined (sortedSegments plan.coverageSegments) other)
    (htrip : ConnectsWith declined (sortedSegments plan.coverageSegments) trip other) : Direct decline other := by
  rcases hother with hdirect | ⟨care, -, hcare, hconnects⟩
  · exact hdirect
  · have hne : ∀ {s : RecoveryPlanSegment}, s ∈ sortedSegments plan.coverageSegments →
        s.segmentType = .transport → s.destinationLocationId ≠ some s.locationId :=
      fun hs => h.destination_ne (mem_sortedSegments.mp hs)
    rcases hconnects with ⟨hpair, htransport, -, hplace⟩ | ⟨hpair, htransport, -, hplace⟩
    · rcases htrip with ⟨hpair', htransport', -, hplace'⟩ | ⟨hpair', htransport', -, -⟩
      · have hmeet := h.transition hpair'
        rw [destinationLocationId_eq htransport', Option.some.injEq] at hplace'
        rw [TransitionOk, hplace'] at hmeet
        rw [hmeet] at hplace
        exact absurd hplace (hne (mem_of_infix_pair hpair).1 htransport)
      · obtain rfl := pair_infix_right_unique h.nodup_sortedSegments hpair hpair'
        exact absurd htransport' (by rw [hcare.2.1]; decide)
    · rcases htrip with ⟨hpair', htransport', -, -⟩ | ⟨hpair', -, -, hplace'⟩
      · obtain rfl := pair_infix_left_unique h.nodup_sortedSegments hpair hpair'
        exact absurd htransport' (by rw [hcare.2.1]; decide)
      · have hmeet := h.transition hpair'
        rw [TransitionOk, hplace', ← hplace] at hmeet
        refine absurd ?_ (hne (mem_of_infix_pair hpair).2 htransport)
        rw [destinationLocationId_eq htransport, hmeet]

/-- **What a decline of a valid plan puts in scope.** -/
theorem Accepted.mem_impactOf (h : Accepted plan scenario) (hmem : segment ∈ plan.coverageSegments) :
    segment.segmentId ∈ (impactOf decline declined plan).impactedIds ↔
      InScope decline declined (sortedSegments plan.coverageSegments) segment := by
  have hdirect : ∀ {s}, s ∈ plan.coverageSegments → Direct decline s →
      s.segmentId ∈ (directlyImpacted decline plan).map (·.segmentId) :=
    fun hs hd => List.mem_map_of_mem (mem_directlyImpacted.mpr ⟨hs, hd⟩)
  constructor
  · intro hid
    have hall : ∀ id ∈ (impactOf decline declined plan).impactedIds, ∃ s ∈ plan.coverageSegments,
        s.segmentId = id ∧ InScope decline declined (sortedSegments plan.coverageSegments) s := by
      refine forall_mem_connectTrips ?_ fun id hid => ?_
      · rintro trip other hconnects ⟨s, hs, hsame, hscope⟩
        have hpair : trip ∈ sortedSegments plan.coverageSegments ∧ other ∈ sortedSegments plan.coverageSegments :=
          hconnects.elim (fun hc => mem_of_infix_pair hc.1) fun hc => (mem_of_infix_pair hc.1).symm
        obtain rfl := h.eq_of_segmentId hs (mem_sortedSegments.mp hpair.2) hsame
        refine ⟨trip, mem_sortedSegments.mp hpair.1, rfl, Or.inr ⟨s, hpair.2, ?_, hconnects⟩⟩
        exact h.direct_of_connects hscope hconnects
      · obtain ⟨s, hs, rfl⟩ := List.mem_map.mp hid
        obtain ⟨hs, hd⟩ := mem_directlyImpacted.mp hs
        exact ⟨s, hs, rfl, Or.inl hd⟩
    obtain ⟨s, hs, hsame, hscope⟩ := hall _ hid
    obtain rfl := h.eq_of_segmentId hs hmem hsame
    exact hscope
  · rintro (hd | ⟨care, hcare, hd, ⟨hpair, hends⟩ | ⟨hpair, hstarts⟩⟩)
    · exact subset_connectTrips (hdirect hmem hd)
    · exact mem_connectTrips_of_endsAt (hdirect (mem_sortedSegments.mp hcare) hd) hpair hends
    · exact mem_connectTrips_of_startsAt (hdirect (mem_sortedSegments.mp hcare) hd) hpair hstarts

/-! ### The outcome of a decline -/

/-- The segments in scope, in the order of time. -/
def impactedBy (decline : Decline) (declined : Caregiver) (plan : RecoveryPlan) : List RecoveryPlanSegment :=
  (sortedSegments plan.coverageSegments).filter (·.segmentId ∈ (impactOf decline declined plan).impactedIds)

/-- The others, in the order of the plan. -/
def preservedBy (decline : Decline) (declined : Caregiver) (plan : RecoveryPlan) : List RecoveryPlanSegment :=
  plan.coverageSegments.filter (·.segmentId ∉ (impactOf decline declined plan).impactedIds)

/-- The assumptions on which the case rests: its own, or if it has none those of the plan. -/
def assumptionsOf (recoveryCase : RecoveryCase) (plan : RecoveryPlan) : List PlanAssumption :=
  if recoveryCase.assumptions = [] then (materializeCaregiverAssumptions plan).assumptions else recoveryCase.assumptions

theorem checkDecline_eq_ok_iff :
    checkDecline recoveryCase event = .ok (decline, plan) ↔
      event.decline? = some decline ∧ event.eventId ∉ recoveryCase.events.map (·.eventId) ∧
        recoveryCase.activeRecoveryPlan = some plan ∧ plan.validationState = .valid := by
  refine ⟨checkDecline_eq_ok, ?_⟩
  rintro ⟨hdecline, hnew, hplan, hvalid⟩
  unfold checkDecline
  rw [hdecline, hplan]
  dsimp only
  rw [if_neg hnew, if_neg (not_not.mpr hvalid)]

theorem caregiverId_of_findCaregiver {caregiverId : String} (h : findCaregiver scenario caregiverId = .ok declined) :
    declined ∈ scenario.caregivers ∧ declined.caregiverId = caregiverId := by
  unfold findCaregiver at h
  split at h
  next hfind =>
    obtain rfl := Except.ok.inj h
    exact ⟨List.mem_of_find?_eq_some hfind, by simpa using List.find?_some hfind⟩
  next => cases h

/-- What replanning is told of the segments. -/
structure Splits (recoveryCase : RecoveryCase) (event : RecoveryEvent) (scenario : DemoScenario)
    (outcome : InvalidationOutcome) (decline : Decline) (plan : RecoveryPlan) (declined : Caregiver) : Prop where
  check : checkDecline recoveryCase event = .ok (decline, plan)
  found : findCaregiver scenario decline.caregiverId = .ok declined
  impacted_ne_nil : impactedBy decline declined plan ≠ []
  invalidated : ∃ assumption ∈ assumptionsOf recoveryCase plan, Matches decline assumption
  impacted_eq : outcome.impactedSegments = impactedBy decline declined plan
  preserved_eq : outcome.preservedSegments = preservedBy decline declined plan
  uncovered_eq : outcome.uncoveredWindows = mergeWindows ((impactedBy decline declined plan).map (·.window))
  updated : applyCaregiverDeclineToScenario scenario decline = .ok outcome.updatedScenario
  previousPlans_eq : outcome.recoveryCase.previousPlans =
    withPlan recoveryCase.previousPlans (materializeCaregiverAssumptions plan)

/-- **An accepted decline** splits the plan. -/
theorem exists_splits (h : applyCaregiverDecline recoveryCase event scenario = .ok outcome) :
    ∃ decline plan declined, Splits recoveryCase event scenario outcome decline plan declined := by
  simp only [applyCaregiverDecline, bind_eq_ok] at h
  obtain ⟨⟨decline, plan⟩, hcheck, declined, hfound, _, hraise, updated, hupdated, h⟩ := h
  obtain rfl := Except.ok.inj h
  obtain ⟨hne, hinvalidated⟩ : impactedBy decline declined plan ≠ [] ∧
      ((assumptionsOf recoveryCase plan).filter (Matches decline ·)).map (invalidateAssumption event decline) ≠ [] :=
    not_or.mp (raiseIf_eq_ok.mp hraise)
  refine ⟨decline, plan, declined, hcheck, hfound, hne, ?_, rfl, rfl, rfl, hupdated, rfl⟩
  have hsome := fun hnil => hinvalidated (List.map_eq_nil_iff.mpr hnil)
  obtain ⟨assumption, hassumption⟩ := List.exists_mem_of_ne_nil _ hsome
  obtain ⟨hmem, hmatches⟩ := List.mem_filter.mp hassumption
  exact ⟨assumption, hmem, of_decide_eq_true hmatches⟩

/-- The plan it splits is the active one. -/
theorem exists_splits_active (hactive : recoveryCase.activeRecoveryPlan = some plan)
    (h : applyCaregiverDecline recoveryCase event scenario = .ok outcome) :
    ∃ decline declined, Splits recoveryCase event scenario outcome decline plan declined := by
  obtain ⟨decline, active, declined, hsplits⟩ := exists_splits h
  obtain ⟨-, -, hsame, -⟩ := checkDecline_eq_ok hsplits.check
  obtain rfl := Option.some.inj (hactive.symm.trans hsame)
  exact ⟨decline, declined, hsplits⟩

/-- Preserved segments are told apart as those of the plan are. -/
theorem Splits.nodup_preservedIds (h : Splits recoveryCase event scenario outcome decline plan declined)
    (hids : (plan.coverageSegments.map (·.segmentId)).Nodup) :
    (outcome.preservedSegments.map (·.segmentId)).Nodup := by
  rw [h.preserved_eq]
  exact hids.sublist (List.filter_sublist.map _)

/-- **When a decline is accepted.** -/
theorem exists_outcome (hcheck : checkDecline recoveryCase event = .ok (decline, plan))
    (hfound : findCaregiver scenario decline.caregiverId = .ok declined)
    (hne : impactedBy decline declined plan ≠ [])
    (hinvalidated : ∃ assumption ∈ assumptionsOf recoveryCase plan, Matches decline assumption) :
    ∃ outcome, applyCaregiverDecline recoveryCase event scenario = .ok outcome ∧
      Splits recoveryCase event scenario outcome decline plan declined := by
  obtain ⟨hmem, hid⟩ := caregiverId_of_findCaregiver hfound
  have hknown : decline.caregiverId ∈ scenario.caregivers.map (·.caregiverId) := hid ▸ List.mem_map_of_mem hmem
  have hupdated := applyCaregiverDeclineToScenario_eq_ok.mpr ⟨hknown, rfl⟩
  have hsome : ((assumptionsOf recoveryCase plan).filter (Matches decline ·)).map
      (invalidateAssumption event decline) ≠ [] := by
    obtain ⟨assumption, hassumption, hmatches⟩ := hinvalidated
    refine List.ne_nil_of_mem (List.mem_map_of_mem (List.mem_filter.mpr ⟨hassumption, ?_⟩))
    exact decide_eq_true hmatches
  have hraise : raiseIf (impactedBy decline declined plan = [] ∨ ((assumptionsOf recoveryCase plan).filter
      (Matches decline ·)).map (invalidateAssumption event decline) = [])
        (Failure.valueError "caregiver decline did not invalidate an active plan dependency") = .ok () :=
    raiseIf_eq_ok.mpr (not_or.mpr ⟨hne, hsome⟩)
  have happly : ∃ outcome, applyCaregiverDecline recoveryCase event scenario = .ok outcome := by
    simp only [applyCaregiverDecline, bind_eq_ok]
    exact ⟨_, _, hcheck, _, hfound, _, hraise, _, hupdated, rfl⟩
  obtain ⟨outcome, happly⟩ := happly
  refine ⟨outcome, happly, ?_⟩
  obtain ⟨decline', plan', declined', hsplits⟩ := exists_splits happly
  obtain ⟨rfl, rfl⟩ := Prod.mk.inj (Except.ok.inj (hcheck.symm.trans hsplits.check))
  obtain rfl := Except.ok.inj (hfound.symm.trans hsplits.found)
  exact hsplits

theorem Splits.mem_impactedSegments (hs : Splits recoveryCase event scenario outcome decline plan declined)
    (h : Accepted plan scenario) :
    segment ∈ outcome.impactedSegments ↔
      segment ∈ plan.coverageSegments ∧ InScope decline declined (sortedSegments plan.coverageSegments) segment := by
  rw [hs.impacted_eq, impactedBy, List.mem_filter, decide_eq_true_eq, mem_sortedSegments]
  exact and_congr_right fun hmem => h.mem_impactOf hmem

theorem Splits.mem_preservedSegments (hs : Splits recoveryCase event scenario outcome decline plan declined)
    (h : Accepted plan scenario) :
    segment ∈ outcome.preservedSegments ↔
      segment ∈ plan.coverageSegments ∧ ¬ InScope decline declined (sortedSegments plan.coverageSegments) segment := by
  rw [hs.preserved_eq, preservedBy, List.mem_filter, decide_eq_true_eq]
  exact and_congr_right fun hmem => not_congr (h.mem_impactOf hmem)

/-! ### A small day -/

/-- A day on which the grandmother looks after the child at her own place, and is there some minutes before a driver
leaves; she drives, and so does a parent. -/
def grandmaDay (handoffBufferMinutes : ℕ) : DemoScenario :=
  { day (minutes 0 60)
      [{ sitter "grandma" [minutes 0 60] with
          handoffBufferMinutes
          locationId := "grandma_home"
          travelMinutesFromFamilyHome := 15
          canTransportChild := true }] with
    parentTransportCapabilities :=
      [{ parentId := "parent_a", canTransportChild := true, availability := [minutes 0 60] }] }

/-- Care at the grandmother's. -/
def atGrandma (window : CoverageWindow) : RecoveryPlanSegment :=
  { Fixtures.care "stay" "grandma" .caregiver window with locationId := "grandma_home" }

/-- A case that rests on a plan. -/
def caseWith (plan : RecoveryPlan) : RecoveryCase :=
  activeCase "case-1" "The nanny is unavailable today." plan (minutes 0 60) 0

/-- The grandmother declines. -/
def grandmaDeclines (window : CoverageWindow) : RecoveryEvent :=
  { eventId := "event-1"
    eventType := .caregiverDeclined
    occurredAt := 0
    caregiverId := some "grandma"
    relevantWindow := some window
    message := some "busy"
    caregiver_decline_has_response_details := fun _ => ⟨⟨_, rfl, by simp⟩, ⟨_, rfl, by simp⟩, rfl⟩ }

/-- The grandmother drives the child home. -/
def drivenPlan : RecoveryPlan :=
  { planId := "driven"
    coverageSegments :=
      [drive "there" "parent_a" .parent (minutes 0 15) "family_home" "grandma_home", atGrandma (minutes 15 45),
        drive "back" "grandma" .caregiver (minutes 45 60) "grandma_home" "family_home"]
    validationState := .valid }

end DayMend.Validation
