import DayMend.Validation.Impact

/-!
# Who depends on a declined caregiver

Segments depend on a caregiver who is assigned to them or drives. The service looks for
care only, and for the trips that meet it exactly; `applyCaregiverDecline_complete_iff`
says when this reaches everything that depends on the declined time, so that whatever is
preserved can still be carried out, and `applyCaregiverDecline_handoffs_iff` when the
trips to and from the affected care are in scope with it.
-/

namespace DayMend.Validation

open DayMend.Base DayMend.Models DayMend.Fixtures DayMend.Services DayMend.Application

variable {scenario : DemoScenario} {plan : RecoveryPlan} {decline : Decline} {declined : Caregiver}
  {recoveryCase : RecoveryCase} {event : RecoveryEvent} {outcome : InvalidationOutcome}
  {segment : RecoveryPlanSegment}

/-! ### The facts after a decline -/

variable {updated : DemoScenario}

theorem get?_caregiverDict_afterDecline (caregivers : List Caregiver) (id : String) :
    (caregiverDict (caregivers.map (afterDecline decline))).get? id =
      ((caregiverDict caregivers).get? id).map (afterDecline decline) := by
  rw [caregiverDict, caregiverDict, ← Dict.get?_ofList_map, List.map_map, List.map_map]
  congr 2
  refine List.map_congr_left fun caregiver _ => ?_
  simp

/-- Whoever had time has time after a decline that does not concern the window. -/
theorem isCovered_afterDecline {window : CoverageWindow} {caregiver : Caregiver}
    (h : IsCovered window caregiver.availability)
    (hfree : caregiver.caregiverId = decline.caregiverId → ¬ window.Overlaps decline.window) :
    IsCovered window (afterDecline decline caregiver).availability := by
  unfold afterDecline
  split
  · exact h
  next hid =>
    obtain ⟨v, hv, hcontains⟩ := h
    obtain ⟨p, hp, hpcontains⟩ := Span.exists_contains_sub hcontains (hfree (not_not.mp hid))
    exact ⟨p, List.mem_flatMap.mpr ⟨v, hv, hp⟩, hpcontains⟩

/-- The segment can be carried out by those whom it names: the assigned person may be assigned, and the driver can. -/
def IndividuallyAcceptable (scenario : DemoScenario) (segment : RecoveryPlanSegment) : Prop :=
  AssignmentOk scenario segment ∧
    ∀ h : segment.segmentType = .transport, TransporterOk scenario segment (segment.transporter h)

/-- The segment depends on the caregiver during the declined window. -/
def DependsOn (decline : Decline) (segment : RecoveryPlanSegment) : Prop :=
  (segment.assignedPersonId = decline.caregiverId ∨ segment.transporterId = some decline.caregiverId) ∧
    segment.window.Overlaps decline.window

theorem Eligible.afterDecline {caregiver : Caregiver} {window : CoverageWindow}
    (h : Eligible scenario caregiver window)
    (hfree : caregiver.caregiverId = decline.caregiverId → ¬ window.Overlaps decline.window) :
    Eligible { scenario with caregivers := scenario.caregivers.map (afterDecline decline) }
      (Application.afterDecline decline caregiver) window := by
  have hcovered := isCovered_afterDecline h.available hfree
  constructor
  · rw [caregiverId_afterDecline]
    exact h.not_unavailable
  · unfold Application.afterDecline
    split <;> exact h.external_allowed
  · unfold Application.afterDecline
    split <;> exact h.trusted
  · exact hcovered

theorem transporterCapable_afterDecline {policy : FamilyPolicy} {capability : Option ParentTransportCapability}
    {caregiver : Option Caregiver} :
    transporterCapable policy capability (caregiver.map (afterDecline decline)) =
      transporterCapable policy capability caregiver := by
  cases caregiver with
  | none => rfl
  | some caregiver =>
    rw [Option.map_some, afterDecline]
    split <;> rfl

theorem isCovered_transporterAvailability {window : CoverageWindow} {capability : Option ParentTransportCapability}
    {caregiver : Option Caregiver} (h : IsCovered window (transporterAvailability capability caregiver))
    (hfree : ∀ c, caregiver = some c → c.caregiverId = decline.caregiverId → ¬ window.Overlaps decline.window) :
    IsCovered window (transporterAvailability capability (caregiver.map (afterDecline decline))) := by
  cases capability with
  | some capability => exact h
  | none =>
    cases caregiver with
    | none => exact h
    | some caregiver => exact isCovered_afterDecline h (hfree caregiver rfl)

/-- **What does not depend on the declined caregiver during the window** can be carried out as before. -/
theorem Accepted.individuallyAcceptable (h : Accepted plan scenario) (hmem : segment ∈ plan.coverageSegments)
    (hupdated : applyCaregiverDeclineToScenario scenario decline = .ok updated) (hnot : ¬ DependsOn decline segment) :
    IndividuallyAcceptable updated segment := by
  obtain ⟨-, rfl⟩ := applyCaregiverDeclineToScenario_eq_ok.mp hupdated
  have hfree : ∀ id, segment.assignedPersonId = id ∨ segment.transporterId = some id → id = decline.caregiverId →
      ¬ segment.window.Overlaps decline.window := by
    rintro id hid rfl ho
    exact hnot ⟨hid, ho⟩
  refine ⟨?_, fun htransport => ?_⟩
  · have ha := h.assignments segment hmem
    unfold AssignmentOk at ha ⊢
    split at ha
    · exact ha
    · obtain ⟨caregiver, hknows, heligible⟩ := ha
      have hid := (caregiverId_of_get? hknows).2
      refine ⟨afterDecline decline caregiver, ?_, heligible.afterDecline (hfree _ (Or.inl hid.symm))⟩
      rw [Knows, get?_caregiverDict_afterDecline, hknows, Option.map_some]
  · have htrip := ((h.locations segment hmem).trip htransport).transporter
    have hdriver : segment.transporterId = some (segment.transporter htransport) := (Option.some_get _).symm
    refine ⟨?_, ?_, htrip.no_fixed_event⟩
    · rw [get?_caregiverDict_afterDecline, transporterCapable_afterDecline]
      exact htrip.capable
    · rw [get?_caregiverDict_afterDecline]
      refine isCovered_transporterAvailability htrip.available fun caregiver hdict => ?_
      have hid := (caregiverId_of_get? hdict).2
      exact hfree _ (Or.inr (hid ▸ hdriver))

/-! ### Completeness -/

/-- If anything depends on the caregiver during the window, the decline is accepted, everything that does is in scope,
and whatever is preserved can still be carried out. -/
def ImpactComplete (recoveryCase : RecoveryCase) (event : RecoveryEvent) (scenario : DemoScenario) (decline : Decline)
    (plan : RecoveryPlan) : Prop :=
  (∃ segment ∈ plan.coverageSegments, DependsOn decline segment) →
    ∃ outcome, applyCaregiverDecline recoveryCase event scenario = .ok outcome ∧
      (∀ segment ∈ plan.coverageSegments, DependsOn decline segment → segment ∈ outcome.impactedSegments) ∧
      ∀ segment ∈ outcome.preservedSegments, IndividuallyAcceptable outcome.updatedScenario segment

/-- The condition under which a decline reaches everything that depends on it: nothing does; or the event is new, the
caregiver is known, an assumption about the caregiver's time falls in the window, and everything that depends on the
decline is care by the caregiver, or a trip that connects with such care. -/
def ReachesDependents (recoveryCase : RecoveryCase) (event : RecoveryEvent) (scenario : DemoScenario)
    (decline : Decline) (plan : RecoveryPlan) : Prop :=
  (∀ segment ∈ plan.coverageSegments, ¬ DependsOn decline segment) ∨
    event.eventId ∉ recoveryCase.events.map (·.eventId) ∧
      (∃ assumption ∈ assumptionsOf recoveryCase plan, Matches decline assumption) ∧
        ∃ declined, findCaregiver scenario decline.caregiverId = .ok declined ∧
          ∀ segment ∈ plan.coverageSegments, DependsOn decline segment →
            InScope decline declined (sortedSegments plan.coverageSegments) segment

/-- **The impact of a decline is complete**, and what it preserves can still be carried out, exactly under that
condition. -/
theorem applyCaregiverDecline_complete_iff (hplan : recoveryCase.activeRecoveryPlan = some plan)
    (hstate : plan.validationState = .valid) (hvalid : (validate plan scenario).valid = true)
    (hdecline : event.decline? = some decline) :
    ImpactComplete recoveryCase event scenario decline plan ↔
      ReachesDependents recoveryCase event scenario decline plan := by
  have hacc := accepted_of_valid hvalid
  constructor
  · intro hcomplete
    by_cases hnone : ∀ segment ∈ plan.coverageSegments, ¬ DependsOn decline segment
    · exact Or.inl hnone
    · push Not at hnone
      obtain ⟨outcome, happly, himpacted, -⟩ := hcomplete hnone
      obtain ⟨decline', declined, hsplits⟩ := exists_splits_active hplan happly
      obtain ⟨hdecline', hnew, -, -⟩ := checkDecline_eq_ok hsplits.check
      obtain rfl := Option.some.inj (hdecline.symm.trans hdecline')
      refine Or.inr ⟨hnew, hsplits.invalidated, declined, hsplits.found, fun segment hmem hdepends => ?_⟩
      exact ((hsplits.mem_impactedSegments hacc).mp (himpacted segment hmem hdepends)).2
  · rintro (hnone | ⟨hnew, hinvalidated, declined, hfound, hreaches⟩) ⟨segment, hmem, hdepends⟩
    · exact absurd hdepends (hnone segment hmem)
    · have hcheck := checkDecline_eq_ok_iff.mpr ⟨hdecline, hnew, hplan, hstate⟩
      have hne : impactedBy decline declined plan ≠ [] := by
        refine List.ne_nil_of_mem (List.mem_filter.mpr ⟨mem_sortedSegments.mpr hmem, decide_eq_true ?_⟩)
        exact (hacc.mem_impactOf hmem).mpr (hreaches segment hmem hdepends)
      obtain ⟨outcome, happly, hsplits⟩ := exists_outcome hcheck hfound hne hinvalidated
      refine ⟨outcome, happly, fun s hs hd => ?_, fun s hs => ?_⟩
      · exact (hsplits.mem_impactedSegments hacc).mpr ⟨hs, hreaches s hs hd⟩
      · obtain ⟨hs, hout⟩ := (hsplits.mem_preservedSegments hacc).mp hs
        exact hacc.individuallyAcceptable hs hsplits.updated fun hd => hout (hreaches s hs hd)

theorem applyCaregiverDecline_complete_iff_drivenPlan :
    ImpactComplete (caseWith drivenPlan) (grandmaDeclines (minutes 30 60)) (grandmaDay 0)
        ⟨"grandma", minutes 30 60, "busy"⟩ (materializeCaregiverAssumptions drivenPlan) ↔
      ReachesDependents (caseWith drivenPlan) (grandmaDeclines (minutes 30 60)) (grandmaDay 0)
        ⟨"grandma", minutes 30 60, "busy"⟩ (materializeCaregiverAssumptions drivenPlan) :=
  applyCaregiverDecline_complete_iff rfl rfl (by decide +kernel) rfl

/-- A decline of the time in which the grandmother only drives is refused, though the drive depends on it. -/
theorem applyCaregiverDecline_misses_drive :
    (validate (materializeCaregiverAssumptions drivenPlan) (grandmaDay 0)).valid = true ∧
      ¬ ImpactComplete (caseWith drivenPlan) (grandmaDeclines (minutes 50 60)) (grandmaDay 0)
        ⟨"grandma", minutes 50 60, "busy"⟩ (materializeCaregiverAssumptions drivenPlan) := by
  refine ⟨by decide +kernel, fun hcomplete => ?_⟩
  obtain ⟨outcome, happly, -⟩ := hcomplete ⟨_, List.mem_of_mem_getLast? rfl, Or.inl rfl, by decide⟩
  have hrefused : (applyCaregiverDecline (caseWith drivenPlan) (grandmaDeclines (minutes 50 60))
      (grandmaDay 0)).toOption.isSome = false := by decide +kernel
  rw [happly] at hrefused
  cases hrefused

/-! ### Handoffs -/

/-- The segment is care by the declined caregiver. -/
def IsCareBy (decline : Decline) (segment : RecoveryPlanSegment) : Prop :=
  segment.segmentType = .care ∧ segment.assignedPersonId = decline.caregiverId

/-- The trip directly precedes the care and takes the child to the place, or directly follows it and leaves from it. -/
def HandsOver (place : String) (segments : List RecoveryPlanSegment) (trip care : RecoveryPlanSegment) : Prop :=
  trip.segmentType = .transport ∧
    ([trip, care] <:+: segments ∧ trip.destinationLocationId = some place ∨
      [care, trip] <:+: segments ∧ trip.locationId = place)

theorem mem_of_handsOver {place : String} {segments : List RecoveryPlanSegment} {trip care : RecoveryPlanSegment}
    (h : HandsOver place segments trip care) : trip ∈ segments ∧ care ∈ segments :=
  h.2.elim (fun hside => mem_of_infix_pair hside.1) fun hside => (mem_of_infix_pair hside.1).symm

/-- Every trip that hands the child over to the care in question, or takes it over, does so exactly when that begins or
ends. -/
def HandoffsExact (decline : Decline) (place : String) (segments : List RecoveryPlanSegment) : Prop :=
  ∀ trip care, Direct decline care → trip.segmentType = .transport →
    ([trip, care] <:+: segments → trip.destinationLocationId = some place → trip.window.end_ = care.window.start) ∧
      ([care, trip] <:+: segments → trip.locationId = place → trip.window.start = care.window.end_)

/-- Care by the declining caregiver that is in scope is affected itself. -/
theorem InScope.direct {segments : List RecoveryPlanSegment} {care : RecoveryPlanSegment}
    (h : InScope decline declined segments care) (hby : IsCareBy decline care) : Direct decline care := by
  rcases h with hd | ⟨_, -, -, hconnects⟩
  · exact hd
  · have htransport : care.segmentType = .transport := hconnects.elim (fun hc => hc.2.1) fun hc => hc.2.1
    rw [hby.1] at htransport
    cases htransport

/-- A trip to or from care at the place that connects with anything meets the care exactly. -/
theorem Accepted.meets_of_connects (hacc : Accepted plan scenario) {trip care : RecoveryPlanSegment}
    (htransport : trip.segmentType = .transport)
    (hscope : HandsOver declined.locationId (sortedSegments plan.coverageSegments) trip care →
      ∃ other, ConnectsWith declined (sortedSegments plan.coverageSegments) trip other) :
    ([trip, care] <:+: sortedSegments plan.coverageSegments → trip.destinationLocationId = some declined.locationId →
        trip.window.end_ = care.window.start) ∧
      ([care, trip] <:+: sortedSegments plan.coverageSegments → trip.locationId = declined.locationId →
        trip.window.start = care.window.end_) := by
  -- a trip cannot both end and begin at the place
  have hne : trip ∈ sortedSegments plan.coverageSegments → trip.destinationLocationId = some declined.locationId →
      trip.locationId ≠ declined.locationId := by
    intro hmem hdestination horigin
    exact hacc.destination_ne (mem_sortedSegments.mp hmem) htransport (horigin ▸ hdestination)
  constructor
  · intro hpair hplace
    obtain ⟨other, ⟨hpair', hends⟩ | ⟨-, hstarts⟩⟩ := hscope ⟨htransport, Or.inl ⟨hpair, hplace⟩⟩
    · obtain rfl := pair_infix_right_unique hacc.nodup_sortedSegments hpair hpair'
      exact hends.2.1
    · exact absurd hstarts.2.2 (hne (mem_of_infix_pair hpair).1 hplace)
  · intro hpair hplace
    obtain ⟨other, ⟨-, hends⟩ | ⟨hpair', hstarts⟩⟩ := hscope ⟨htransport, Or.inr ⟨hpair, hplace⟩⟩
    · exact absurd hplace (hne (mem_of_infix_pair hpair).2 hends.2.2)
    · obtain rfl := pair_infix_left_unique hacc.nodup_sortedSegments hpair hpair'
      exact hstarts.2.1

/-- A trip to or from care that it meets exactly is in scope with the care. -/
theorem HandsOver.inScope {segments : List RecoveryPlanSegment} {trip care : RecoveryPlanSegment}
    (h : HandsOver declined.locationId segments trip care) (hd : Direct decline care)
    (hexact : HandoffsExact decline declined.locationId segments) : InScope decline declined segments trip := by
  obtain ⟨-, hcare⟩ := mem_of_handsOver h
  obtain ⟨htransport, hside⟩ := h
  refine Or.inr ⟨care, hcare, hd, ?_⟩
  rcases hside with ⟨hpair, hplace⟩ | ⟨hpair, hplace⟩
  · exact Or.inl ⟨hpair, htransport, (hexact trip care hd htransport).1 hpair hplace, hplace⟩
  · exact Or.inr ⟨hpair, htransport, (hexact trip care hd htransport).2 hpair hplace, hplace⟩

/-- **Trips to and from impacted care** are impacted with it exactly if they meet it exactly. -/
theorem applyCaregiverDecline_handoffs_iff (hplan : recoveryCase.activeRecoveryPlan = some plan)
    (hvalid : (validate plan scenario).valid = true) (hdecline : event.decline? = some decline)
    (hfound : findCaregiver scenario decline.caregiverId = .ok declined)
    (h : applyCaregiverDecline recoveryCase event scenario = .ok outcome) :
    (∀ trip, ∀ care ∈ outcome.impactedSegments, IsCareBy decline care →
      HandsOver declined.locationId (sortedSegments plan.coverageSegments) trip care →
        trip ∈ outcome.impactedSegments ∧ trip ∉ outcome.preservedSegments) ↔
      HandoffsExact decline declined.locationId (sortedSegments plan.coverageSegments) := by
  have hacc := accepted_of_valid hvalid
  obtain ⟨decline', declined', hsplits⟩ := exists_splits_active hplan h
  obtain ⟨hdecline', -, -, -⟩ := checkDecline_eq_ok hsplits.check
  obtain rfl := Option.some.inj (hdecline.symm.trans hdecline')
  obtain rfl := Except.ok.inj (hfound.symm.trans hsplits.found)
  constructor
  · intro hall trip care hd htransport
    refine hacc.meets_of_connects htransport fun hover => ?_
    have hmem : care ∈ plan.coverageSegments := mem_sortedSegments.mp (mem_of_handsOver hover).2
    have hcare := (hsplits.mem_impactedSegments hacc).mpr ⟨hmem, Or.inl hd⟩
    have himpacted := (hall trip care hcare ⟨hd.2.1, hd.2.2.1⟩ hover).1
    rcases ((hsplits.mem_impactedSegments hacc).mp himpacted).2 with hd' | ⟨other, -, -, hconnects⟩
    · exact absurd hd'.2.1 (by rw [htransport]; decide)
    · exact ⟨other, hconnects⟩
  · intro hexact trip care hcare hby hover
    have hd : Direct decline care := ((hsplits.mem_impactedSegments hacc).mp hcare).2.direct hby
    have hmem : trip ∈ plan.coverageSegments := mem_sortedSegments.mp (mem_of_handsOver hover).1
    have hscope := hover.inScope hd hexact
    refine ⟨(hsplits.mem_impactedSegments hacc).mpr ⟨hmem, hscope⟩, fun hpreserved => ?_⟩
    exact ((hsplits.mem_preservedSegments hacc).mp hpreserved).2 hscope

/-- The grandmother is there five minutes before the driver leaves. -/
def bufferedPlan : RecoveryPlan :=
  { planId := "buffered"
    coverageSegments :=
      [drive "there" "parent_a" .parent (minutes 0 15) "family_home" "grandma_home", atGrandma (minutes 10 60)]
    validationState := .valid }

/-- The trip to the grandmother is preserved when she declines, as she has to be there before it ends. -/
theorem applyCaregiverDecline_misses_handoff :
    (validate (materializeCaregiverAssumptions bufferedPlan) (grandmaDay 5)).valid = true ∧
      ∃ outcome, applyCaregiverDecline (caseWith bufferedPlan) (grandmaDeclines (minutes 20 30)) (grandmaDay 5) =
          .ok outcome ∧
        ¬ ∀ trip, ∀ care ∈ outcome.impactedSegments, IsCareBy ⟨"grandma", minutes 20 30, "busy"⟩ care →
          HandsOver "grandma_home" (sortedSegments bufferedPlan.coverageSegments) trip care →
            trip ∈ outcome.impactedSegments ∧ trip ∉ outcome.preservedSegments := by
  refine ⟨by decide +kernel, ?_⟩
  have hseen : (applyCaregiverDecline (caseWith bufferedPlan) (grandmaDeclines (minutes 20 30))
      (grandmaDay 5)).toOption.map (·.impactedSegments) = some [atGrandma (minutes 10 60)] := by decide +kernel
  obtain ⟨outcome, happly, himpacted⟩ := exists_ok_of_toOption hseen
  refine ⟨outcome, happly, fun hall => ?_⟩
  have hthere := (hall (drive "there" "parent_a" .parent (minutes 0 15) "family_home" "grandma_home")
    (atGrandma (minutes 10 60)) (himpacted ▸ List.mem_singleton_self _) ⟨rfl, rfl⟩
    ⟨rfl, Or.inl ⟨by decide +kernel, rfl⟩⟩).1
  rw [himpacted] at hthere
  revert hthere
  decide

/-- Here the trips meet the grandmother's care exactly. -/
theorem applyCaregiverDecline_handoffs_iff_drivenPlan :
    ∃ outcome, applyCaregiverDecline (caseWith drivenPlan) (grandmaDeclines (minutes 20 30)) (grandmaDay 0) =
        .ok outcome ∧
      ((∀ trip, ∀ care ∈ outcome.impactedSegments, IsCareBy ⟨"grandma", minutes 20 30, "busy"⟩ care →
        HandsOver "grandma_home" (sortedSegments drivenPlan.coverageSegments) trip care →
          trip ∈ outcome.impactedSegments ∧ trip ∉ outcome.preservedSegments) ↔
        HandoffsExact ⟨"grandma", minutes 20 30, "busy"⟩ "grandma_home"
          (sortedSegments drivenPlan.coverageSegments)) := by
  have hseen : (applyCaregiverDecline (caseWith drivenPlan) (grandmaDeclines (minutes 20 30))
      (grandmaDay 0)).toOption.map (fun _ => ()) = some () := by decide +kernel
  obtain ⟨outcome, happly, -⟩ := exists_ok_of_toOption hseen
  refine ⟨outcome, happly, ?_⟩
  have hplan : (caseWith drivenPlan).activeRecoveryPlan = some (materializeCaregiverAssumptions drivenPlan) := rfl
  exact applyCaregiverDecline_handoffs_iff hplan (by decide +kernel) rfl rfl happly

end DayMend.Validation
