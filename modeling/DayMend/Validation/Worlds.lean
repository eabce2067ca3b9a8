import DayMend.Agent.Identifiers
import DayMend.Application.Reconstruction
import DayMend.Services.BackupCare
import DayMend.Validation.Eligibility
import DayMend.Validation.Partition

/-!
# Worlds that a family gets into

The facts of the day change as declines are recorded, which take windows out of a
caregiver's availability, and as researched providers join. Whoever is in the facts comes
from the family's list or from the inventory, and stays where it says (`World.listed`), so
that the day stays coherent (`World.coherent`), and the matrix is built in all of these
worlds except where identifiers meet (`exists_matrix_in_world_iff`).
-/

namespace DayMend.Validation

open DayMend.Base DayMend.Models DayMend.Fixtures DayMend.Services DayMend.Application DayMend.Agent

variable {base facts updated scenario : DemoScenario} {added : List String} {plan : RecoveryPlan}
  {recoveryCase : RecoveryCase} {event : RecoveryEvent} {outcome : InvalidationOutcome}

/-- The worlds that can be reached: a decline is recorded, or a provider whom the search admits joins. The identifiers
of those who joined are kept in order. -/
inductive World (base : DemoScenario) : List String → DemoScenario → Prop where
  | base : World base [] base
  | declined {added : List String} {facts updated : DemoScenario} {decline : Decline} (h : World base added facts)
      (hdecline : applyCaregiverDeclineToScenario facts decline = .ok updated) : World base added updated
  | researched {added : List String} {facts updated : DemoScenario} {requestedWindows : List CoverageWindow}
      {candidate : BackupCareCandidate} (h : World base added facts)
      (heligible : candidate ∈ (searchBackupCareCandidates facts requestedWindows).eligibleCandidates)
      (hadded : addResearchedCaregiver facts candidate = .ok updated) :
      World base (added ++ [candidate.candidateId]) updated

/-- Who may look after the child, where, and how long it takes to get there. -/
def listing (scenario : DemoScenario) : List (String × String × ℕ) :=
  scenario.caregivers.map (fun c => (c.caregiverId, c.locationId, c.travelMinutesFromFamilyHome)) ++
    scenario.backupCareCandidates.map fun k => (k.candidateId, k.locationId, k.travelMinutesFromFamilyHome)

/-- A family in which every person has an identifier of one's own, nobody's windows overlap, and it takes the same time
to go to the same place. -/
structure DistinctPeople (scenario : DemoScenario) : Prop where
  nodup : ((listing scenario).map (·.1) ++ scenario.parentIds).Nodup
  travel_eq : ∀ a ∈ listing scenario, ∀ b ∈ listing scenario, a.2.1 = b.2.1 → a.2.2 = b.2.2
  caregivers_separate : ∀ c ∈ scenario.caregivers, Span.Separate c.availability
  candidates_separate : ∀ k ∈ scenario.backupCareCandidates, Span.Separate k.availability

/-- What holds of every world. -/
structure Listed (base : DemoScenario) (added : List String) (facts : DemoScenario) : Prop where
  parentIds : facts.parentIds = base.parentIds
  inventory : facts.backupCareCandidates = base.backupCareCandidates
  ids : facts.caregivers.map (·.caregiverId) = base.caregivers.map (·.caregiverId) ++ added
  added_mem : added ⊆ base.backupCareCandidates.map (·.candidateId)
  mem : ∀ c ∈ facts.caregivers, (c.caregiverId, c.locationId, c.travelMinutesFromFamilyHome) ∈ listing base
  separate : ∀ c ∈ facts.caregivers, Span.Separate c.availability

/-- Recording a decline takes time from one caregiver. -/
theorem Listed.decline {decline : Decline} (h : Listed base added facts)
    (hdecline : applyCaregiverDeclineToScenario facts decline = .ok updated) : Listed base added updated := by
  obtain ⟨-, rfl⟩ := applyCaregiverDeclineToScenario_eq_ok.mp hdecline
  refine ⟨h.parentIds, h.inventory, ?_, h.added_mem, ?_, ?_⟩
  · rw [← h.ids]
    simp [Function.comp_def]
  · intro c hc
    obtain ⟨before, hbefore, rfl⟩ := List.mem_map.mp hc
    have hmem := h.mem before hbefore
    unfold afterDecline
    split
    · exact hmem
    · exact hmem
  · intro c hc
    obtain ⟨before, hbefore, rfl⟩ := List.mem_map.mp hc
    have hseparate := h.separate before hbefore
    unfold afterDecline
    split
    · exact hseparate
    · exact hseparate.flatMap_sub _

/-- A provider who joins comes from the inventory. -/
theorem Listed.research {requestedWindows : List CoverageWindow} {candidate : BackupCareCandidate}
    (hbase : DistinctPeople base) (h : Listed base added facts)
    (heligible : candidate ∈ (searchBackupCareCandidates facts requestedWindows).eligibleCandidates)
    (hadded : addResearchedCaregiver facts candidate = .ok updated) :
    Listed base (added ++ [candidate.candidateId]) updated := by
  obtain ⟨-, rfl⟩ := addResearchedCaregiver_eq_ok.mp hadded
  obtain ⟨listed, hlisted, hid, hlocation, htravel, havailability⟩ : ∃ k ∈ base.backupCareCandidates,
      candidate.candidateId = k.candidateId ∧ candidate.locationId = k.locationId ∧
        candidate.travelMinutesFromFamilyHome = k.travelMinutesFromFamilyHome ∧
          candidate.availability = k.availability := by
    obtain ⟨assessment, hassessment, rfl⟩ := List.mem_map.mp heligible
    obtain ⟨k, hk, rfl⟩ := List.mem_map.mp (List.mem_filter.mp hassessment).1
    refine ⟨k, h.inventory ▸ hk, ?_⟩
    simp only [assessCandidate, restrictTransport]
    split
    · exact ⟨rfl, rfl, rfl, rfl⟩
    · exact ⟨rfl, rfl, rfl, rfl⟩
  refine ⟨h.parentIds, h.inventory, ?_, ?_, ?_, ?_⟩
  · simp [h.ids, researchedCaregiver]
  · refine List.append_subset.mpr ⟨h.added_mem, List.cons_subset.mpr ⟨?_, List.nil_subset _⟩⟩
    exact List.mem_map.mpr ⟨listed, hlisted, hid.symm⟩
  · intro c hc
    rcases List.mem_append.mp hc with hc | hc
    · exact h.mem c hc
    · obtain rfl := List.mem_singleton.mp hc
      refine List.mem_append_right _ (List.mem_map.mpr ⟨listed, hlisted, ?_⟩)
      simp [researchedCaregiver, hid, hlocation, htravel]
  · intro c hc
    rcases List.mem_append.mp hc with hc | hc
    · exact h.separate c hc
    · obtain rfl := List.mem_singleton.mp hc
      have hseparate := hbase.candidates_separate listed hlisted
      rw [← havailability] at hseparate
      exact hseparate

/-- **Everybody is listed**, in every world. -/
theorem World.listed (hbase : DistinctPeople base) (h : World base added facts) : Listed base added facts := by
  induction h with
  | base =>
    refine ⟨rfl, rfl, (List.append_nil _).symm, List.nil_subset _, fun c hc => ?_, hbase.caregivers_separate⟩
    exact List.mem_append_left _ (List.mem_map.mpr ⟨c, hc, rfl⟩)
  | declined _ hdecline ih => exact ih.decline hdecline
  | researched _ heligible hadded ih => exact ih.research hbase heligible hadded

/-- **Every world is coherent.** -/
theorem World.coherent (hbase : DistinctPeople base) (h : World base added facts) : Coherent facts := by
  have hlisted := h.listed hbase
  obtain ⟨hids, -, hparents⟩ := List.nodup_append.mp hbase.nodup
  refine ⟨fun c hc hparent => ?_, fun c hc d hd hid => ?_, hlisted.separate, fun c hc d hd hlocation => ?_⟩
  · rw [hlisted.parentIds] at hparent
    exact hparents _ (List.mem_map_of_mem (hlisted.mem c hc)) _ hparent rfl
  · have hsame := List.inj_on_of_nodup_map hids (hlisted.mem c hc) (hlisted.mem d hd) hid
    exact (Prod.mk.inj (Prod.mk.inj hsame).2).1
  · exact hbase.travel_eq _ (hlisted.mem c hc) _ (hlisted.mem d hd) hlocation

/-- A world changes the day's caregivers and nothing else. -/
theorem World.exists_caregivers (h : World base added facts) : ∃ caregivers, facts = { base with caregivers } := by
  induction h with
  | base => exact ⟨_, rfl⟩
  | declined _ hdecline ih =>
    obtain ⟨caregivers, rfl⟩ := ih
    obtain ⟨-, rfl⟩ := applyCaregiverDeclineToScenario_eq_ok.mp hdecline
    exact ⟨_, rfl⟩
  | researched _ _ hadded ih =>
    obtain ⟨caregivers, rfl⟩ := ih
    obtain ⟨-, rfl⟩ := addResearchedCaregiver_eq_ok.mp hadded
    exact ⟨_, rfl⟩

/-- Replaying declines leads from world to world. -/
theorem World.replay {declines : List Decline} (h : World base added facts)
    (hreplay : replayDeclines facts declines = .ok updated) : World base added updated := by
  induction declines generalizing facts with
  | nil => exact Except.ok.inj hreplay ▸ h
  | cons decline declines ih =>
    rw [replayDeclines_cons, bind_eq_ok] at hreplay
    obtain ⟨next, hnext, hreplay⟩ := hreplay
    exact ih (h.declined hnext) hreplay

/-- The search admits the provider, for some windows, on a day with these facts. -/
def Admitted (scenario : DemoScenario) (provider : BackupCareCandidate) : Prop :=
  ∃ requestedWindows, provider ∈ (searchBackupCareCandidates scenario requestedWindows).eligibleCandidates

/-- Who is admitted does not depend on who else is available. -/
theorem admitted_caregivers {caregivers : List Caregiver} {provider : BackupCareCandidate} :
    Admitted { base with caregivers } provider ↔ Admitted base provider := Iff.rfl

/-- A provider who is admitted may join. -/
theorem World.admit {candidate : Option BackupCareCandidate} (h : World base added facts)
    (hadmitted : ∀ provider, candidate = some provider → Admitted base provider)
    (hupdated : validationScenario facts candidate = .ok updated) :
    ∃ joined, joined.Nodup ∧ World base (added ++ joined) updated := by
  cases candidate with
  | none => exact ⟨[], List.nodup_nil, (List.append_nil added).symm ▸ Except.ok.inj hupdated ▸ h⟩
  | some provider =>
    obtain ⟨caregivers, rfl⟩ := h.exists_caregivers
    obtain ⟨requestedWindows, heligible⟩ := hadmitted provider rfl
    have heligible : provider ∈
        (searchBackupCareCandidates { base with caregivers } requestedWindows).eligibleCandidates := heligible
    exact ⟨[provider.candidateId], List.nodup_singleton _, h.researched heligible hupdated⟩

/-- What the day has on record: a caregiver of the family, or a provider whom the search admits. -/
def Recorded (scenario : DemoScenario) (record : Caregiver) : Prop :=
  record ∈ scenario.caregivers ∨
    ∃ provider, Admitted scenario provider ∧ record = researchedCaregiver scenario.policy provider

/-- The caregiver is `record` with less time. -/
structure Within (record caregiver : Caregiver) : Prop where
  eq : caregiver = { record with availability := caregiver.availability }
  contains : ∀ w ∈ caregiver.availability, ∃ v ∈ record.availability, v.Contains w

theorem Within.refl (record : Caregiver) : Within record record :=
  ⟨rfl, fun w hw => ⟨w, hw, Span.Contains.refl w⟩⟩

/-- Declines take time away. -/
theorem Within.afterDecline {decline : Decline} {record caregiver : Caregiver} (h : Within record caregiver) :
    Within record (afterDecline decline caregiver) := by
  refine ⟨?_, fun w hw => ?_⟩
  · rw [h.eq]
    unfold Application.afterDecline
    split <;> rfl
  · obtain ⟨v, hv, hvw⟩ := exists_contains_of_mem_afterDecline hw
    obtain ⟨u, hu, huv⟩ := h.contains v hv
    exact ⟨u, hu, huv.trans hvw⟩

/-- **Everybody in a world is on the day's record**, and has no more time than that. -/
theorem World.recorded (h : World base added facts) {caregiver : Caregiver} (hmem : caregiver ∈ facts.caregivers) :
    ∃ record, Recorded base record ∧ Within record caregiver := by
  induction h generalizing caregiver with
  | base => exact ⟨caregiver, Or.inl hmem, .refl caregiver⟩
  | declined _ hdecline ih =>
    obtain ⟨-, rfl⟩ := applyCaregiverDeclineToScenario_eq_ok.mp hdecline
    obtain ⟨before, hbefore, rfl⟩ := List.mem_map.mp hmem
    obtain ⟨record, hrecord, hwithin⟩ := ih hbefore
    exact ⟨record, hrecord, hwithin.afterDecline⟩
  | researched hworld heligible hadded ih =>
    obtain ⟨-, rfl⟩ := addResearchedCaregiver_eq_ok.mp hadded
    rcases List.mem_append.mp hmem with hmem | hmem
    · exact ih hmem
    · obtain rfl := List.mem_singleton.mp hmem
      obtain ⟨caregivers, rfl⟩ := hworld.exists_caregivers
      exact ⟨_, Or.inr ⟨_, ⟨_, heligible⟩, rfl⟩, .refl _⟩

/-- **Whom a valid plan assigns** in a world, the day's record makes eligible. -/
theorem World.eligible_of_assigned (h : World base added facts) (hvalid : (validate plan facts).valid = true)
    {segment : RecoveryPlanSegment} (hs : segment ∈ plan.coverageSegments) (hsource : segment.source = .caregiver) :
    ∃ record, Recorded base record ∧ record.caregiverId = segment.assignedPersonId ∧
      Eligible base record segment.window := by
  obtain ⟨caregiver, hk, heligible⟩ := (accepted_of_valid hvalid).eligible_of_assigned hs hsource
  obtain ⟨hmem, hid⟩ := caregiverId_of_get? hk
  obtain ⟨record, hrecord, heq, hcontains⟩ := h.recorded hmem
  obtain ⟨caregivers, rfl⟩ := h.exists_caregivers
  obtain ⟨w, hw, hcovers⟩ := heligible.available
  obtain ⟨v, hv, hvw⟩ := hcontains w hw
  have hsame : record.caregiverId = caregiver.caregiverId := by rw [heq]
  refine ⟨record, hrecord, hsame.trans hid, ?_, fun hexternal => ?_, fun htrust => ?_, v, hv, hvw.trans hcovers⟩
  · rw [hsame]
    exact heligible.not_unavailable
  · refine heligible.external_allowed ?_
    rw [heq]
    exact hexternal
  · have htrusted := heligible.trusted htrust
    rw [heq] at htrusted
    exact htrusted

/-- Nobody is listed twice as long as nobody joins twice. -/
theorem World.nodup_caregiverIds (hbase : DistinctPeople base) (h : World base added facts) (hadded : added.Nodup) :
    (facts.caregivers.map (·.caregiverId)).Nodup := by
  have hlisted := h.listed hbase
  have hids := (List.nodup_append.mp hbase.nodup).1
  simp only [listing, List.map_append, List.map_map, Function.comp_def] at hids
  obtain ⟨hcaregivers, -, hdifferent⟩ := List.nodup_append.mp hids
  rw [hlisted.ids]
  refine List.nodup_append.mpr ⟨hcaregivers, hadded, fun id hid other hother => ?_⟩
  exact hdifferent id hid other (hlisted.added_mem hother)

/-- A day of distinct people on which nobody drives or has a calendar as a parent who is none. -/
structure FamilyDay (scenario : DemoScenario) : Prop extends DistinctPeople scenario where
  no_parent : ∀ person ∈ listing scenario, person.1 ∉ scenario.parentTransportCapabilities.map (·.parentId) ∧
    person.1 ∉ scenario.parentEvents.map (·.ownerId)

/-- **Every world that nobody joins twice** has the facts of a family. -/
theorem World.familyScenario (hbase : FamilyDay base) (h : World base added facts) (hadded : added.Nodup) :
    FamilyScenario facts := by
  have hcoherent := h.coherent hbase.toDistinctPeople
  have hlisted := h.listed hbase.toDistinctPeople
  refine ⟨h.nodup_caregiverIds hbase.toDistinctPeople hadded, fun c hc => ⟨hcoherent.not_parent c hc, ?_⟩,
    hcoherent.travel_eq⟩
  have hno := hbase.no_parent _ (hlisted.mem c hc)
  obtain ⟨caregivers, rfl⟩ := h.exists_caregivers
  exact hno

/-- **When the matrix is built**, in the worlds that a family gets into: for the first planning, in which nobody joins
twice, and for the replanning after a decline of a plan whose segments have distinct identifiers, as those of selected
primitives and of valid plans have. -/
theorem exists_matrix_in_world_iff (hbase : DistinctPeople base) (hworld : World base added facts) :
    (added.Nodup → ((∃ matrix, buildFeasibleAssignmentMatrix facts none none = .ok matrix) ↔
      InitialNamedApart facts)) ∧
    ∀ (recoveryCase : RecoveryCase) (event : RecoveryEvent) (scenario : DemoScenario) (plan : RecoveryPlan)
      (outcome : InvalidationOutcome), recoveryCase.activeRecoveryPlan = some plan →
        (plan.coverageSegments.map (·.segmentId)).Nodup →
          applyCaregiverDecline recoveryCase event scenario = .ok outcome →
            ((∃ matrix, buildFeasibleAssignmentMatrix facts (some outcome.uncoveredWindows)
                (some outcome.preservedSegments) = .ok matrix) ↔
              ReplanningNamedApart facts outcome.uncoveredWindows outcome.preservedSegments) := by
  have hcoherent := hworld.coherent hbase
  refine ⟨fun hadded => ?_, fun recoveryCase event scenario plan outcome hactive hids hdecline => ?_⟩
  · have hparents := (List.nodup_append.mp hbase.nodup).2.1
    rw [← (hworld.listed hbase).parentIds] at hparents
    exact exists_initial_matrix_iff hcoherent (hworld.nodup_caregiverIds hbase hadded) hparents
  · obtain ⟨decline, declined, hsplits⟩ := exists_splits_active hactive hdecline
    have hpreserved := hsplits.nodup_preservedIds hids
    have hwindows : Span.Separate outcome.uncoveredWindows := by
      rw [hsplits.uncovered_eq]
      exact (mergeWindows_spec _).1.imp fun hlt ho => absurd (hlt.trans ho.2) (lt_irrefl _)
    exact exists_replanning_matrix_iff hcoherent hwindows hpreserved

/-! ### A day with a handover -/

/-- A day on which the second sitter comes ten minutes before the first one leaves. -/
def handoverDay : DemoScenario :=
  day (minutes 0 120)
    [sitter "hal" [minutes 0 50], sitter "kim" [minutes 0 60], sitter "mia" [minutes 60 120],
      { sitter "pat" [minutes 50 120] with handoffBufferMinutes := 10 }]

theorem distinctPeople_handoverDay : DistinctPeople handoverDay where
  nodup := by decide +kernel
  travel_eq := by decide +kernel
  caregivers_separate := by
    unfold Span.Separate
    decide +kernel
  candidates_separate := by
    unfold Span.Separate
    decide +kernel

/-- The first two sitters with a handover are selected. -/
def handoverSelection : PrimitiveSelection :=
  { selectedPrimitiveIds := [careId "kim" (minutes 0 60).start, careId "pat" (minutes 50 120).start]
    min_length := List.cons_ne_nil _ _
    selected_ids_are_unique := by decide }

/-- The plan that they make. -/
def handoverPlan : Except Failure RecoveryPlan := do
  let matrix ← buildFeasibleAssignmentMatrix handoverDay none none
  let plan ← materializePrimitiveSelection (fun ids => ", ".intercalate ids) handoverSelection matrix
  pure { plan with validationState := .valid }

/-- The first sitter declines. -/
def kimDeclines : RecoveryEvent :=
  { grandmaDeclines (minutes 0 60) with
    caregiverId := some "kim"
    caregiver_decline_has_response_details := fun _ => ⟨⟨_, rfl, by simp⟩, ⟨_, rfl, by simp⟩, rfl⟩ }

/-- The plan, and what its decline leaves. -/
def handoverDeclined : Except Failure (RecoveryPlan × InvalidationOutcome) := do
  let plan ← handoverPlan
  let outcome ← applyCaregiverDecline (caseWith plan) kimDeclines handoverDay
  pure (plan, outcome)

theorem exists_matrix_in_world_iff_handoverDay :
    ((∃ matrix, buildFeasibleAssignmentMatrix handoverDay none none = .ok matrix) ↔ InitialNamedApart handoverDay) ∧
      ∃ plan, handoverPlan = .ok plan ∧ ∃ outcome, applyCaregiverDecline (caseWith plan) kimDeclines handoverDay =
          .ok outcome ∧
        ((∃ matrix, buildFeasibleAssignmentMatrix handoverDay (some outcome.uncoveredWindows)
            (some outcome.preservedSegments) = .ok matrix) ↔
          ReplanningNamedApart handoverDay outcome.uncoveredWindows outcome.preservedSegments) := by
  obtain ⟨hinitial, hreplanning⟩ := exists_matrix_in_world_iff distinctPeople_handoverDay World.base
  have hseen : handoverDeclined.toOption.map (fun declined => declined.1.coverageSegments.map (·.segmentId)) =
      some handoverSelection.selectedPrimitiveIds := by decide +kernel
  obtain ⟨declined, hdeclined, hids⟩ := exists_ok_of_toOption hseen
  simp only [handoverDeclined, bind_eq_ok] at hdeclined
  obtain ⟨plan, hplan, outcome, happly, hsame⟩ := hdeclined
  cases hsame
  have hnodup : (plan.coverageSegments.map (·.segmentId)).Nodup := hids ▸ handoverSelection.selected_ids_are_unique
  refine ⟨hinitial List.nodup_nil, plan, hplan, outcome, happly, ?_⟩
  exact hreplanning _ _ _ (materializeCaregiverAssumptions plan) _ rfl hnodup happly

/-- The second sitter's preserved stretch of care begins within the declined window, and has the identifier of her time
until its end: no matrix is built. -/
theorem handover_has_no_matrix : DistinctPeople handoverDay ∧
    ∃ matrix plan outcome, buildFeasibleAssignmentMatrix handoverDay none none = .ok matrix ∧
      materializePrimitiveSelection (fun ids => ", ".intercalate ids) handoverSelection matrix = .ok plan ∧
      (validate plan handoverDay).valid = true ∧
      applyCaregiverDecline (caseWith { plan with validationState := .valid }) kimDeclines handoverDay = .ok outcome ∧
      World handoverDay [] outcome.updatedScenario ∧
      buildFeasibleAssignmentMatrix outcome.updatedScenario (some outcome.uncoveredWindows)
        (some outcome.preservedSegments) = .error (.valueError "feasible primitive IDs must be unique") := by
  refine ⟨distinctPeople_handoverDay, ?_⟩
  have hseen : handoverDeclined.toOption.map (fun declined =>
      ((validate declined.1 handoverDay).valid, (buildFeasibleAssignmentMatrix declined.2.updatedScenario
        (some declined.2.uncoveredWindows) (some declined.2.preservedSegments)).toOption.isNone)) =
      some (true, true) := by decide +kernel
  obtain ⟨declined, hdeclined, hfacts⟩ := exists_ok_of_toOption hseen
  obtain ⟨hvalid, hnone⟩ := Prod.mk.inj hfacts
  simp only [handoverDeclined, handoverPlan, bind_eq_ok] at hdeclined
  obtain ⟨active, ⟨matrix, hmatrix, plan, hplan, hactive⟩, outcome, happly, hsame⟩ := hdeclined
  cases hsame
  cases hactive
  have hworld : World handoverDay [] outcome.updatedScenario := by
    obtain ⟨decline, active, declined, hsplits⟩ := exists_splits happly
    exact World.base.declined hsplits.updated
  refine ⟨matrix, plan, outcome, hmatrix, hplan, hvalid, happly, hworld, buildFeasibleAssignmentMatrix_eq_error ?_⟩
  rintro ⟨replanned, hreplanned⟩
  rw [hreplanned] at hnone
  cases hnone

end DayMend.Validation
