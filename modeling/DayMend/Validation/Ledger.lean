import DayMend.Base.Ledger
import DayMend.Validation.Impact
import DayMend.Validation.Revalidation

/-!
# The assumptions of a case that accepts a replacement

A replacement plan gets its caregiver assumptions twice: under the identifier that the
model has chosen, when the replanning result is built, and under the lifecycle
identifier, when the plan is accepted. The first are taken out again, and assumptions
are told apart by their identifiers only (`acceptedAssumptions_eq`). So what was there
before stays and nothing else is added, but where an earlier assumption has the
identifier of a new one already, the plan is accepted without it
(`acceptReplanningResult_ledger_iff`).
-/

namespace DayMend.Validation

open DayMend.Base DayMend.Models DayMend.Fixtures DayMend.Services DayMend.Application DayMend.Agent

variable {scenario facts : DemoScenario} {recoveryCase : RecoveryCase} {event : RecoveryEvent}
  {outcome : InvalidationOutcome} {attempts : PlanningAttempts} {candidate : Option BackupCareCandidate}
  {proposal : RecoveryPlan} {plan : RecoveryPlan} {planId : String} {segment other : RecoveryPlanSegment}
  {segments : List RecoveryPlanSegment} {assumption : PlanAssumption}

/-! ### The assumptions of a plan -/

/-- The availability assumptions on which segments rest in a plan of the given identifier. -/
def caregiverAssumptions (planId : String) (segments : List RecoveryPlanSegment) : List PlanAssumption :=
  (segments.filter fun segment => segment.source = .caregiver).map (caregiverAssumption planId)

/-- What else a plan assumes. -/
def otherAssumptions (plan : RecoveryPlan) : List PlanAssumption :=
  plan.assumptions.filter fun assumption => ¬ AboutCaregiver assumption

/-- The entries of a ledger under an identifier. -/
abbrev underId (assumptionId : String) (assumptions : List PlanAssumption) : List PlanAssumption :=
  under PlanAssumption.assumptionId assumptionId assumptions

theorem mem_caregiverAssumptions : assumption ∈ caregiverAssumptions planId segments ↔
    ∃ segment ∈ segments, segment.source = .caregiver ∧ assumption = caregiverAssumption planId segment := by
  simp [caregiverAssumptions, and_assoc, eq_comm]

theorem assumptionId_inj
    (h : (caregiverAssumption planId segment).assumptionId = (caregiverAssumption planId other).assumptionId) :
    segment.segmentId = other.segmentId :=
  append_left_cancel h

/-- Distinct segments rest on assumptions of distinct identifiers. -/
theorem nodup_caregiverAssumptions (hnodup : (segments.map (·.segmentId)).Nodup) :
    ((caregiverAssumptions planId segments).map (·.assumptionId)).Nodup := by
  rw [List.Nodup, List.pairwise_map] at hnodup
  rw [caregiverAssumptions, List.Nodup, List.pairwise_map, List.pairwise_map]
  exact (hnodup.filter _).imp fun hne h => hne (assumptionId_inj h)

/-- Among a plan's own assumptions, an identifier that nothing else it assumes has belongs to one at most. -/
theorem underId_append_caregiverAssumptions {others : List PlanAssumption} {assumptionId : String}
    (hnodup : (segments.map (·.segmentId)).Nodup) (hothers : assumptionId ∉ others.map (·.assumptionId))
    (hmem : assumption ∈ underId assumptionId (others ++ caregiverAssumptions planId segments)) :
    assumption ∈ caregiverAssumptions planId segments ∧
      underId assumptionId (others ++ caregiverAssumptions planId segments) = [assumption] := by
  rw [underId, under_append, under_eq_nil_iff.mpr hothers, List.nil_append] at hmem ⊢
  obtain ⟨hown, rfl⟩ := mem_under.mp hmem
  exact ⟨hown, under_of_nodup (nodup_caregiverAssumptions hnodup) hown⟩

/-- An entry that says that a caregiver is available. -/
def Relied (assumption : PlanAssumption) : Prop :=
  assumption.status = .active ∧ assumption.assumptionType = caregiverAvailable

instance (assumption : PlanAssumption) : Decidable (Relied assumption) := inferInstanceAs (Decidable (_ ∧ _))

theorem relied_caregiverAssumption : Relied (caregiverAssumption planId segment) := ⟨rfl, rfl⟩

/-- What a plan assumes besides says nothing of the kind, so under an identifier of its own assumptions there is
one entry that does. -/
theorem relied_append_caregiverAssumptions (hnodup : (segments.map (·.segmentId)).Nodup)
    (hmem : assumption ∈ caregiverAssumptions planId segments) :
    (underId assumption.assumptionId (otherAssumptions plan ++ caregiverAssumptions planId segments)).filter
      (Relied ·) = [assumption] := by
  have hothers : (underId assumption.assumptionId (otherAssumptions plan)).filter (Relied ·) = [] := by
    rw [List.filter_eq_nil_iff]
    intro other hother hrelied
    have hnot := (List.mem_filter.mp (mem_under.mp hother).1).2
    exact of_decide_eq_true hnot (Or.inl (of_decide_eq_true hrelied).2)
  rw [underId, under_append, List.filter_append, hothers, List.nil_append,
    under_of_nodup (nodup_caregiverAssumptions hnodup) hmem]
  obtain ⟨segment, -, -, rfl⟩ := mem_caregiverAssumptions.mp hmem
  exact List.filter_eq_self.mpr fun a ha => by
    obtain rfl := List.mem_singleton.mp ha
    exact decide_eq_true relied_caregiverAssumption

/-! ### The ledger of the case -/

/-- The identifier under which a plan is accepted. -/
def acceptedPlanId (recoveryCase : RecoveryCase) (outcome : InvalidationOutcome) : String :=
  (acceptPlan { planId := "" } recoveryCase.caseId outcome.recoveryCase.previousPlans).planId

/-- **What a decline leaves of the assumptions**: those that it matches are invalidated. -/
theorem assumptions_of_applyCaregiverDecline (h : applyCaregiverDecline recoveryCase event scenario = .ok outcome) :
    ∃ decline plan, checkDecline recoveryCase event = .ok (decline, plan) ∧
      outcome.recoveryCase.assumptions = (assumptionsOf recoveryCase plan).map fun assumption =>
        if Matches decline assumption then invalidateAssumption event decline assumption else assumption := by
  simp only [applyCaregiverDecline, bind_eq_ok] at h
  obtain ⟨⟨decline, plan⟩, hcheck, declined, _, _, _, updated, _, h⟩ := h
  obtain rfl := Except.ok.inj h
  exact ⟨decline, plan, hcheck, rfl⟩

/-- An accepted decline keeps the identifiers of the assumptions that the case has stored. -/
theorem stored_subset (h : applyCaregiverDecline recoveryCase event scenario = .ok outcome) :
    recoveryCase.assumptions.map (·.assumptionId) ⊆ outcome.recoveryCase.assumptions.map (·.assumptionId) := by
  obtain ⟨decline, plan, -, hassumptions⟩ := assumptions_of_applyCaregiverDecline h
  intro assumptionId hstored
  have hne : recoveryCase.assumptions ≠ [] := fun hnil => by rw [hnil] at hstored; cases hstored
  have hkeeps : (fun assumption => PlanAssumption.assumptionId
      (if Matches decline assumption then invalidateAssumption event decline assumption else assumption)) =
        PlanAssumption.assumptionId := by
    funext assumption
    split <;> rfl
  rw [hassumptions, assumptionsOf, if_neg hne, List.map_map, Function.comp_def, hkeeps]
  exact hstored

/-- The assumptions after the decline, without what the draft of the final plan has brought and the case has not stored
before, and those of the plan under its lifecycle identifier. -/
def ledgerAfter (stored before : List PlanAssumption) (finalPlan : RecoveryPlan) (planId : String) :
    List PlanAssumption :=
  mergeBy PlanAssumption.assumptionId
    (withoutDraft PlanAssumption.assumptionId before
      (otherAssumptions finalPlan ++ caregiverAssumptions finalPlan.planId finalPlan.coverageSegments)
      (stored.map (·.assumptionId)))
    (otherAssumptions finalPlan ++ caregiverAssumptions planId finalPlan.coverageSegments)

/-- **What the case assumes** when it has accepted a replacement. -/
theorem acceptReplanningResult_ledger (hvalid : attempts.last.validation.valid = true) :
    ∃ accepted plan,
      acceptReplanningResult recoveryCase (buildReplanningResult outcome event attempts candidate) = .ok accepted ∧
      accepted.finalPlan = some plan ∧ plan.planId = acceptedPlanId recoveryCase outcome ∧
      plan.coverageSegments = attempts.last.validation.validatedPlan.coverageSegments ∧
      accepted.recoveryCase.assumptions = ledgerAfter recoveryCase.assumptions outcome.recoveryCase.assumptions
        attempts.last.validation.validatedPlan (acceptedPlanId recoveryCase outcome) := by
  simp only [acceptReplanningResult, buildReplanningResult, hvalid, if_true, acceptPlan_materialize]
  refine ⟨_, _, rfl, rfl, rfl, rfl, ?_⟩
  simp only [acceptedAssumptions, replannedCase]
  rfl

/-- **A consistent ledger**: under the identifiers of earlier assumptions there is what there was, each caregiver
segment of the accepted plan has one assumption that says that its caregiver is available, and nothing else has been
added that says so. -/
structure LedgerConsistent (before : List PlanAssumption) (acceptedPlan : RecoveryPlan) (after : List PlanAssumption) :
    Prop where
  earlier : ∀ assumption ∈ before, underId assumption.assumptionId after = underId assumption.assumptionId before
  relied : ∀ segment ∈ acceptedPlan.coverageSegments, segment.source = .caregiver →
    (underId (caregiverAssumption acceptedPlan.planId segment).assumptionId after).filter (Relied ·) =
      [caregiverAssumption acceptedPlan.planId segment]
  no_other : ∀ assumption ∈ after, AboutCaregiver assumption → assumption ∈ before ∨
    assumption ∈ caregiverAssumptions acceptedPlan.planId acceptedPlan.coverageSegments

/-- Identifiers of availability assumptions of the final plan are taken by no earlier assumption but by these
themselves: under the lifecycle identifier by none at all, and under the model's identifier by none that the case has
not stored. -/
structure IdsFree (stored before : List PlanAssumption) (finalPlan : RecoveryPlan) (planId : String) : Prop where
  lifecycle : ∀ segment ∈ finalPlan.coverageSegments, segment.source = .caregiver →
    (caregiverAssumption planId segment).assumptionId ∈ before.map (·.assumptionId) →
      (underId (caregiverAssumption planId segment).assumptionId before).filter (Relied ·) =
        [caregiverAssumption planId segment]
  transient : ∀ assumption ∈ before, assumption.assumptionId ∉ stored.map (·.assumptionId) →
    assumption.assumptionId ∈
        (caregiverAssumptions finalPlan.planId finalPlan.coverageSegments).map (·.assumptionId) →
      underId assumption.assumptionId before = [assumption] ∧
        assumption ∈ caregiverAssumptions planId finalPlan.coverageSegments

section Ledger

variable {stored before : List PlanAssumption} {finalPlan acceptedPlan : RecoveryPlan}

/-- What the final plan assumes besides is under none of the earlier identifiers. -/
theorem notMem_otherAssumptions
    (hother : ∀ assumption ∈ otherAssumptions finalPlan, assumption.assumptionId ∉ before.map (·.assumptionId))
    {assumptionId : String} (hmem : assumptionId ∈ before.map (·.assumptionId)) :
    assumptionId ∉ (otherAssumptions finalPlan).map (·.assumptionId) := by
  intro hid
  obtain ⟨assumption, hassumption, rfl⟩ := List.mem_map.mp hid
  exact hother assumption hassumption hmem

/-- Under an earlier identifier there is what there was, unless the draft has taken the place of what the case had not
stored. -/
theorem under_ledgerAfter_of_mem (hkept : stored.map (·.assumptionId) ⊆ before.map (·.assumptionId))
    (hother : ∀ assumption ∈ otherAssumptions finalPlan, assumption.assumptionId ∉ before.map (·.assumptionId))
    {assumptionId : String} (hmem : assumptionId ∈ before.map (·.assumptionId)) :
    underId assumptionId (ledgerAfter stored before finalPlan planId) =
      if assumptionId ∈ (caregiverAssumptions finalPlan.planId finalPlan.coverageSegments).map (·.assumptionId) →
          assumptionId ∈ stored.map (·.assumptionId) then underId assumptionId before
      else underId assumptionId
        (otherAssumptions finalPlan ++ caregiverAssumptions planId finalPlan.coverageSegments) := by
  have hothers := notMem_otherAssumptions hother hmem
  have hdraft : assumptionId ∈ (otherAssumptions finalPlan ++
      caregiverAssumptions finalPlan.planId finalPlan.coverageSegments).map (·.assumptionId) ↔
        assumptionId ∈ (caregiverAssumptions finalPlan.planId finalPlan.coverageSegments).map (·.assumptionId) := by
    rw [List.map_append, List.mem_append, or_iff_right hothers]
  rw [underId, ledgerAfter, under_replace hkept]
  simp only [hdraft, hmem, true_and]

/-- Under another identifier there is what the accepted plan assumes. -/
theorem under_ledgerAfter_of_notMem (hkept : stored.map (·.assumptionId) ⊆ before.map (·.assumptionId))
    {assumptionId : String} (hmem : assumptionId ∉ before.map (·.assumptionId)) :
    underId assumptionId (ledgerAfter stored before finalPlan planId) =
      underId assumptionId
        (otherAssumptions finalPlan ++ caregiverAssumptions planId finalPlan.coverageSegments) := by
  rw [underId, ledgerAfter, under_replace hkept, if_neg fun h => hmem h.1]

/-- No assumption about availability is added but the accepted plan's own. -/
theorem mem_ledgerAfter (hkept : stored.map (·.assumptionId) ⊆ before.map (·.assumptionId))
    (hmem : assumption ∈ ledgerAfter stored before finalPlan planId) (habout : AboutCaregiver assumption) :
    assumption ∈ before ∨ assumption ∈ caregiverAssumptions planId finalPlan.coverageSegments := by
  apply (mem_of_mem_replace hkept hmem).imp_right
  intro hadded
  apply (List.mem_append.mp hadded).resolve_left
  intro hothers
  exact of_decide_eq_true (List.mem_filter.mp hothers).2 habout

/-- What a case assumes that has accepted a plan, it has assumed before, or the plan assumes it. -/
theorem mem_assumptions_of_accept {accepted : ReplanningResult}
    (hdecline : applyCaregiverDecline recoveryCase event scenario = .ok outcome)
    (h : acceptReplanningResult recoveryCase (buildReplanningResult outcome event attempts candidate) = .ok accepted)
    (hmem : assumption ∈ accepted.recoveryCase.assumptions) : assumption ∈ outcome.recoveryCase.assumptions ∨
      assumption ∈ (acceptPlan attempts.last.validation.validatedPlan recoveryCase.caseId
        outcome.recoveryCase.previousPlans).assumptions := by
  obtain ⟨hvalid, -⟩ := acceptReplanningResult_eq_ok rfl h
  obtain ⟨accepted', _, haccepted', -, -, -, hledger⟩ := acceptReplanningResult_ledger hvalid
  obtain rfl := Except.ok.inj (h.symm.trans haccepted')
  rw [hledger] at hmem
  exact mem_of_mem_replace (stored_subset hdecline) hmem

/-- In a consistent ledger no new assumption has met an earlier one of its identifier. -/
theorem LedgerConsistent.idsFree (hsegments : acceptedPlan.coverageSegments = finalPlan.coverageSegments)
    (hkept : stored.map (·.assumptionId) ⊆ before.map (·.assumptionId))
    (hother : ∀ assumption ∈ otherAssumptions finalPlan, assumption.assumptionId ∉ before.map (·.assumptionId))
    (hnodup : (finalPlan.coverageSegments.map (·.segmentId)).Nodup)
    (h : LedgerConsistent before acceptedPlan (ledgerAfter stored before finalPlan acceptedPlan.planId)) :
    IdsFree stored before finalPlan acceptedPlan.planId := by
  refine ⟨fun segment hsegment hsource hmem => ?_, fun assumption hmem hstored hdraft => ?_⟩
  · obtain ⟨earlier, hearlier, hsame⟩ := List.mem_map.mp hmem
    have hrelied := h.relied segment (hsegments ▸ hsegment) hsource
    rwa [← hsame, h.earlier earlier hearlier, hsame] at hrelied
  · -- the draft has taken its place, so what is there now comes from the accepted plan
    have hunder := h.earlier assumption hmem
    rw [under_ledgerAfter_of_mem hkept hother (List.mem_map_of_mem hmem),
      if_neg fun h => hstored (h hdraft)] at hunder
    have hnot := notMem_otherAssumptions hother (List.mem_map_of_mem hmem)
    have hself : assumption ∈ underId assumption.assumptionId before := mem_under.mpr ⟨hmem, rfl⟩
    rw [← hunder] at hself ⊢
    exact (underId_append_caregiverAssumptions hnodup hnot hself).symm

/-- Where their identifiers are free, under an earlier assumption's identifier there is what there was. -/
theorem IdsFree.under_earlier (h : IdsFree stored before finalPlan planId)
    (hkept : stored.map (·.assumptionId) ⊆ before.map (·.assumptionId))
    (hother : ∀ assumption ∈ otherAssumptions finalPlan, assumption.assumptionId ∉ before.map (·.assumptionId))
    (hnodup : (finalPlan.coverageSegments.map (·.segmentId)).Nodup) (hmem : assumption ∈ before) :
    underId assumption.assumptionId (ledgerAfter stored before finalPlan planId) =
      underId assumption.assumptionId before := by
  rw [under_ledgerAfter_of_mem hkept hother (List.mem_map_of_mem hmem)]
  split
  · rfl
  next hlost =>
    rw [Classical.not_imp] at hlost
    obtain ⟨honly, hown⟩ := h.transient assumption hmem hlost.2 hlost.1
    have hnot := notMem_otherAssumptions hother (List.mem_map_of_mem hmem)
    have hself : assumption ∈ underId assumption.assumptionId (otherAssumptions finalPlan ++
        caregiverAssumptions planId finalPlan.coverageSegments) :=
      mem_under.mpr ⟨List.mem_append_right _ hown, rfl⟩
    rw [honly, (underId_append_caregiverAssumptions hnodup hnot hself).2]

/-- **The ledger is consistent** exactly when the identifiers of the new assumptions are free. -/
theorem ledgerConsistent_iff (hid : acceptedPlan.planId = planId)
    (hsegments : acceptedPlan.coverageSegments = finalPlan.coverageSegments)
    (hkept : stored.map (·.assumptionId) ⊆ before.map (·.assumptionId))
    (hother : ∀ assumption ∈ otherAssumptions finalPlan, assumption.assumptionId ∉ before.map (·.assumptionId))
    (hnodup : (finalPlan.coverageSegments.map (·.segmentId)).Nodup) :
    LedgerConsistent before acceptedPlan (ledgerAfter stored before finalPlan planId) ↔
      IdsFree stored before finalPlan planId := by
  subst planId
  constructor
  · exact LedgerConsistent.idsFree hsegments hkept hother hnodup
  · intro h
    have hearlier : ∀ assumption ∈ before,
        underId assumption.assumptionId (ledgerAfter stored before finalPlan acceptedPlan.planId) =
          underId assumption.assumptionId before :=
      fun _ hmem => h.under_earlier hkept hother hnodup hmem
    refine ⟨hearlier, fun segment hsegment hsource => ?_, fun assumption hmem habout => ?_⟩
    · rw [hsegments] at hsegment
      by_cases hmem : (caregiverAssumption acceptedPlan.planId segment).assumptionId ∈ before.map (·.assumptionId)
      · obtain ⟨earlier, hmem', hsame⟩ := List.mem_map.mp hmem
        rw [← hsame, hearlier earlier hmem', hsame]
        exact h.lifecycle segment hsegment hsource hmem
      · rw [under_ledgerAfter_of_notMem hkept hmem]
        exact relied_append_caregiverAssumptions hnodup (mem_caregiverAssumptions.mpr ⟨segment, hsegment, hsource, rfl⟩)
    · rw [hsegments]
      exact mem_ledgerAfter hkept hmem habout

end Ledger

/-- **Accepting a replacement keeps the ledger consistent** exactly when no earlier assumption has the identifier of
one of its availability assumptions. -/
theorem acceptReplanningResult_ledger_iff (hdecline : applyCaregiverDecline recoveryCase event scenario = .ok outcome)
    (hproposal : attempts.last.validation = validateProposal proposal facts outcome.preservedSegments)
    (hvalid : attempts.last.validation.valid = true)
    (hother : ∀ assumption ∈ otherAssumptions attempts.last.validation.validatedPlan,
      assumption.assumptionId ∉ outcome.recoveryCase.assumptions.map (·.assumptionId)) :
    ∃ accepted plan,
      acceptReplanningResult recoveryCase (buildReplanningResult outcome event attempts candidate) = .ok accepted ∧
      accepted.finalPlan = some plan ∧ plan.planId = acceptedPlanId recoveryCase outcome ∧
      plan.coverageSegments = attempts.last.validation.validatedPlan.coverageSegments ∧
      (LedgerConsistent outcome.recoveryCase.assumptions plan accepted.recoveryCase.assumptions ↔
        IdsFree recoveryCase.assumptions outcome.recoveryCase.assumptions attempts.last.validation.validatedPlan
          (acceptedPlanId recoveryCase outcome)) := by
  obtain ⟨accepted, plan, haccepted, hplan, hid, hsegments, hledger⟩ := acceptReplanningResult_ledger hvalid
  refine ⟨accepted, plan, haccepted, hplan, hid, hsegments, ?_⟩
  have hnodup : (attempts.last.validation.validatedPlan.coverageSegments.map (·.segmentId)).Nodup := by
    rw [hproposal] at hvalid ⊢
    have hsame : SameSegments (validateProposal proposal facts outcome.preservedSegments).validatedPlan
        (validateProposal proposal facts outcome.preservedSegments).validatedPlan := ⟨rfl, rfl⟩
    exact (accepted_of_valid (validate_validated hvalid hsame rfl).1).unique_ids
  rw [hledger]
  exact ledgerConsistent_iff hid hsegments (stored_subset hdecline) hother hnodup

/-! ### A small day -/

/-- A day on which two sitters are free. -/
def freeDay : DemoScenario := day (minutes 0 60) [sitter "ana" [minutes 0 60], sitter "ben" [minutes 0 60]]

/-- A sitter has the child all day. -/
def allDay (planId segmentId caregiverId : String) (assumptions : List PlanAssumption) : RecoveryPlan :=
  { planId
    coverageSegments := [Fixtures.care segmentId caregiverId .caregiver (minutes 0 60)]
    assumptions
    validationState := .valid }

theorem no_details_of_active :
    (PlanAssumptionStatus.active = .active →
      (none : Option Instant) = none ∧ (none : Option String) = none ∧ (none : Option String) = none) ∧
    (PlanAssumptionStatus.active = .invalidated → (none : Option Instant).isSome) :=
  ⟨fun _ => ⟨rfl, rfl, rfl⟩, by decide⟩

/-- The first plan assumes that the door is open, under the given identifier. -/
def doorOpen (assumptionId : String) : PlanAssumption :=
  { assumptionId
    assumptionType := "DOOR_OPEN"
    subjectId := "ben"
    invalidation_details_match_status := no_details_of_active }

/-- The first sitter declines. -/
def anaDeclines : RecoveryEvent :=
  { grandmaDeclines (minutes 0 60) with
    caregiverId := some "ana"
    caregiver_decline_has_response_details := fun _ => ⟨⟨_, rfl, by simp⟩, ⟨_, rfl, by simp⟩, rfl⟩ }

/-- The one proposal, with what the validator finds. -/
def benProposed : PlanningAttempts :=
  { earlier := []
    last :=
      { attemptNumber := 1
        proposedPlan := allDay "plan-b" "b" "ben" []
        validation := validateProposal (allDay "plan-b" "b" "ben" []) freeDay [] } }

/-- The case rests on a plan with the first sitter and an open door. -/
def doorCase (assumptionId : String) : RecoveryCase :=
  caseWith (allDay "case-1:plan:1" "a" "ana" [doorOpen assumptionId])

theorem acceptReplanningResult_ledger_iff_doorCase :
    ∃ outcome, applyCaregiverDecline (doorCase "door") anaDeclines freeDay = .ok outcome ∧
      ∃ accepted plan, acceptReplanningResult (doorCase "door")
          (buildReplanningResult outcome anaDeclines benProposed none) = .ok accepted ∧
        accepted.finalPlan = some plan ∧ plan.planId = acceptedPlanId (doorCase "door") outcome ∧
        plan.coverageSegments = benProposed.last.validation.validatedPlan.coverageSegments ∧
        (LedgerConsistent outcome.recoveryCase.assumptions plan accepted.recoveryCase.assumptions ↔
          IdsFree (doorCase "door").assumptions outcome.recoveryCase.assumptions
            benProposed.last.validation.validatedPlan (acceptedPlanId (doorCase "door") outcome)) := by
  have hseen : (applyCaregiverDecline (doorCase "door") anaDeclines freeDay).toOption.map (·.preservedSegments) =
      some [] := by decide +kernel
  obtain ⟨outcome, happly, hpreserved⟩ := exists_ok_of_toOption hseen
  have hproposal : benProposed.last.validation =
      validateProposal (allDay "plan-b" "b" "ben" []) freeDay outcome.preservedSegments := hpreserved ▸ rfl
  refine ⟨outcome, happly, acceptReplanningResult_ledger_iff happly hproposal (by decide +kernel) ?_⟩
  intro assumption hother
  cases hother

/-- The open door has the identifier of the assumption on which the second plan rests, so nothing says that the second
sitter is available. -/
theorem doorCase_loses_assumption :
    (validate (allDay "case-1:plan:1" "a" "ana" [doorOpen "caregiver-availability:case-1:plan:2:b"]) freeDay).valid =
        true ∧
      ∃ outcome, applyCaregiverDecline (doorCase "caregiver-availability:case-1:plan:2:b") anaDeclines freeDay =
          .ok outcome ∧
        benProposed.last.validation =
          validateProposal (allDay "plan-b" "b" "ben" []) freeDay outcome.preservedSegments ∧
        benProposed.last.validation.valid = true ∧
        otherAssumptions benProposed.last.validation.validatedPlan = [] ∧
        ∃ accepted plan, acceptReplanningResult (doorCase "caregiver-availability:case-1:plan:2:b")
            (buildReplanningResult outcome anaDeclines benProposed none) = .ok accepted ∧
          accepted.finalPlan = some plan ∧
          ¬ LedgerConsistent outcome.recoveryCase.assumptions plan accepted.recoveryCase.assumptions := by
  refine ⟨by decide +kernel, ?_⟩
  have hseen : (applyCaregiverDecline (doorCase "caregiver-availability:case-1:plan:2:b") anaDeclines
      freeDay).toOption.map (fun outcome =>
        (outcome.preservedSegments, acceptedPlanId (doorCase "caregiver-availability:case-1:plan:2:b") outcome,
          ((underId "caregiver-availability:case-1:plan:2:b"
            (ledgerAfter (doorCase "caregiver-availability:case-1:plan:2:b").assumptions
              outcome.recoveryCase.assumptions benProposed.last.validation.validatedPlan "case-1:plan:2")).filter
                (Relied ·)).length)) = some ([], "case-1:plan:2", 0) := by decide +kernel
  obtain ⟨outcome, happly, hoffers⟩ := exists_ok_of_toOption hseen
  obtain ⟨hpreserved, hplanId, hnone⟩ : outcome.preservedSegments = [] ∧
      acceptedPlanId (doorCase "caregiver-availability:case-1:plan:2:b") outcome = "case-1:plan:2" ∧ _ = 0 := by
    simpa only [Prod.mk.injEq] using hoffers
  have hvalid : benProposed.last.validation.valid = true := by decide +kernel
  have hbuilt : ∃ accepted plan, acceptReplanningResult (doorCase "caregiver-availability:case-1:plan:2:b")
      (buildReplanningResult outcome anaDeclines benProposed none) = .ok accepted ∧ _ :=
    acceptReplanningResult_ledger hvalid
  obtain ⟨accepted, plan, haccepted, hplan, hid, hsegments, hledger⟩ := hbuilt
  refine ⟨outcome, happly, hpreserved ▸ rfl, hvalid, rfl, accepted, plan, haccepted, hplan, fun hconsistent => ?_⟩
  have hben : ∃ segment ∈ benProposed.last.validation.validatedPlan.coverageSegments,
      segment.source = .caregiver ∧ (caregiverAssumption "case-1:plan:2" segment).assumptionId =
        "caregiver-availability:case-1:plan:2:b" := by decide +kernel
  obtain ⟨segment, hsegment, hsource, hname⟩ := hben
  have hrelied := hconsistent.relied segment (hsegments ▸ hsegment) hsource
  rw [hledger, hid, hplanId, hname] at hrelied
  have hlength := congrArg List.length hrelied
  rw [hnone] at hlength
  cases hlength

end DayMend.Validation
