import DayMend.Agent.Paths
import DayMend.Services.BackupCare

/-!
# When a provider completes the day

The planability gate finds no provider (`planableResearchCandidateIds`) only if fewer
than two providers of the inventory can be presented to the family at all, or none of
those who can be presented completes the day: there is no path from home through the
required window that keeps the preserved segments and has a stretch of care with the
provider (`noPlanableProvider_of_planable_nil`). Pruning loses no such path, so a gate
that looks at what is left of the matrix misses nobody.
-/

namespace DayMend.Validation

open DayMend.Base DayMend.Models DayMend.Fixtures DayMend.Services DayMend.Agent

variable {scenario updated : DemoScenario} {affectedWindows : Option (List CoverageWindow)}
  {preservedSegments : Option (List RecoveryPlanSegment)} {requestedWindows : List CoverageWindow}
  {candidate : BackupCareCandidate} {path : List Leg}

/-- The provider is what the family's policy asks of providers, and takes children of this age. -/
structure MeetsProviderPolicy (scenario : DemoScenario) (candidate : BackupCareCandidate) : Prop where
  verified : scenario.policy.requireVerifiedBackupProvider → candidate.verified
  backgroundChecked : scenario.policy.requireBackgroundCheckedBackupProvider → candidate.backgroundChecked
  age : candidate.minimumChildAge ≤ scenario.childAgeYears ∧ scenario.childAgeYears ≤ candidate.maximumChildAge

/-- The provider can be presented: moreover, one of the provider's windows contains each of the requested ones. -/
structure Presentable (scenario : DemoScenario) (requestedWindows : List CoverageWindow)
    (candidate : BackupCareCandidate) : Prop extends MeetsProviderPolicy scenario candidate where
  available : ∀ window ∈ requestedWindows, IsCovered window candidate.availability

/-- The assessment finds nothing against those who can be presented. -/
theorem eligible_iff_presentable (hallowed : scenario.policy.allowExternalBackupProviders = true) :
    (assessCandidate scenario requestedWindows candidate).eligible = true ↔
      Presentable scenario requestedWindows candidate := by
  have hcode (condition : Bool) (code : BackupCareIneligibilityCode) :
      codeIf condition code = [] ↔ condition = false := by
    cases condition <;> simp [codeIf]
  simp only [assessCandidate, List.isEmpty_iff, List.append_eq_nil_iff, hcode, hallowed, Bool.not_true,
    Bool.and_eq_false_imp, Bool.not_eq_false', decide_eq_false_iff_not, not_not, true_and]
  constructor
  · rintro ⟨⟨⟨havailable, hverified⟩, hchecked⟩, hage⟩
    exact ⟨⟨hverified, hchecked, hage⟩, havailable⟩
  · intro h
    exact ⟨⟨⟨h.available, h.verified⟩, h.backgroundChecked⟩, h.age⟩

instance (scenario : DemoScenario) (requestedWindows : List CoverageWindow) :
    DecidablePred (Presentable scenario requestedWindows) := fun candidate =>
  decidable_of_iff
    ((scenario.policy.requireVerifiedBackupProvider → candidate.verified) ∧
      (scenario.policy.requireBackgroundCheckedBackupProvider → candidate.backgroundChecked) ∧
        (candidate.minimumChildAge ≤ scenario.childAgeYears ∧ scenario.childAgeYears ≤ candidate.maximumChildAge) ∧
          ∀ window ∈ requestedWindows, IsCovered window candidate.availability)
    ⟨fun h => ⟨⟨h.1, h.2.1, h.2.2.1⟩, h.2.2.2⟩, fun h => ⟨h.verified, h.backgroundChecked, h.age, h.available⟩⟩

/-- What the search returns are those who can be presented. -/
theorem eligibleCandidates_eq (hallowed : scenario.policy.allowExternalBackupProviders = true) :
    (searchBackupCareCandidates scenario requestedWindows).eligibleCandidates =
      (scenario.backupCareCandidates.filter fun candidate => Presentable scenario requestedWindows candidate).map
        (restrictTransport scenario.policy) := by
  have hfilter : ∀ candidate ∈ scenario.backupCareCandidates,
      (assessCandidate scenario requestedWindows candidate).eligible =
        decide (Presentable scenario requestedWindows candidate) := by
    intro candidate _
    rw [Bool.eq_iff_iff, decide_eq_true_iff]
    exact eligible_iff_presentable hallowed
  rw [searchBackupCareCandidates, List.filter_map, List.map_map]
  exact congrArg _ (List.filter_congr hfilter)

/-- A path through the day that keeps the preserved segments. -/
structure Connects (updated : DemoScenario) (affectedWindows : Option (List CoverageWindow))
    (preservedSegments : Option (List RecoveryPlanSegment)) (path : List Leg) : Prop where
  full : FullPath (legsOf (candidatePrimitives updated affectedWindows preservedSegments).1
    (candidatePrimitives updated affectedWindows preservedSegments).2) updated.requiredCoverage
      updated.familyHomeLocationId path
  preserved : ∀ segment ∈ preservedSegments.getD [],
    (∃ p ∈ (candidatePrimitives updated affectedWindows preservedSegments).1,
      p.primitiveId = segment.segmentId ∧ p.immutable = true ∧ p.leg ∈ path) ∨
    ∃ p ∈ (candidatePrimitives updated affectedWindows preservedSegments).2,
      p.primitiveId = segment.segmentId ∧ p.immutable = true ∧ p.leg ∈ path

/-- On the path, the provider `candidateId` looks after the child for a part of the day. -/
structure Completes (updated : DemoScenario) (affectedWindows : Option (List CoverageWindow))
    (preservedSegments : Option (List RecoveryPlanSegment)) (candidateId : String) (path : List Leg) : Prop
    extends Connects updated affectedWindows preservedSegments path where
  cares : ∃ p ∈ (candidatePrimitives updated affectedWindows preservedSegments).1,
    p.assignedPersonId = candidateId ∧ p.leg ∈ path

/-- The provider joins the day without driving where the family does not want providers to drive, in any case. -/
theorem addResearchedCaregiver_restrictTransport (scenario : DemoScenario) (candidate : BackupCareCandidate) :
    addResearchedCaregiver scenario (restrictTransport scenario.policy candidate) =
      addResearchedCaregiver scenario candidate := by
  have hcaregiver : researchedCaregiver scenario.policy (restrictTransport scenario.policy candidate) =
      researchedCaregiver scenario.policy candidate := by
    cases h : scenario.policy.allowProviderTransport with
    | false => simp [researchedCaregiver, restrictTransport, h]
    | true => simp [restrictTransport, h]
  rw [addResearchedCaregiver, addResearchedCaregiver, hcaregiver]

theorem candidateId_restrictTransport (policy : FamilyPolicy) (candidate : BackupCareCandidate) :
    (restrictTransport policy candidate).candidateId = candidate.candidateId := by
  unfold restrictTransport
  split
  · rfl
  · rfl

/-- The gate lets a provider through who completes the day. -/
theorem Completes.isPlanable (hadded : addResearchedCaregiver scenario candidate = .ok updated)
    (h : Completes updated affectedWindows preservedSegments candidate.candidateId path) {planable : Bool}
    (hplanable : isPlanable scenario affectedWindows preservedSegments candidate = .ok planable) : planable = true := by
  obtain ⟨updated', hupdated, hplanable⟩ := bind_eq_ok.mp hplanable
  obtain rfl : updated = updated' := Except.ok.inj (hadded.symm.trans hupdated)
  obtain ⟨matrix, hmatrix, hplanable⟩ := bind_eq_ok.mp hplanable
  obtain rfl := Except.ok.inj hplanable
  have hkept := h.full.mem_prune
  have hne := h.full.prune_ne_nil
  rw [← buildFeasibleAssignmentMatrix_eq_ok hmatrix] at hkept hne
  rw [Bool.and_eq_true, Bool.and_eq_true, List.all_eq_true, List.any_eq_true]
  refine ⟨⟨?_, fun segment hsegment => decide_eq_true ?_⟩, ?_⟩
  · rw [Bool.not_eq_true', Bool.eq_false_iff, ne_eq, Bool.and_eq_true, List.isEmpty_iff, List.isEmpty_iff]
    exact hne
  · rcases h.preserved segment hsegment with ⟨p, hp, hid, himmutable, hleg⟩ | ⟨p, hp, hid, himmutable, hleg⟩
    · rw [← hid]
      exact List.mem_append_left _ (List.mem_map_of_mem (List.mem_filter.mpr ⟨hkept.1 p hp hleg, himmutable⟩))
    · rw [← hid]
      exact List.mem_append_right _ (List.mem_map_of_mem (List.mem_filter.mpr ⟨hkept.2 p hp hleg, himmutable⟩))
  · obtain ⟨p, hp, hassigned, hleg⟩ := h.cares
    exact ⟨p, hkept.1 p hp hleg, decide_eq_true hassigned⟩

/-- No choice of providers can be presented, or nobody who can be presented completes the day. -/
def NoPlanableProvider (scenario : DemoScenario) (requestedWindows : List CoverageWindow)
    (affectedWindows : Option (List CoverageWindow)) (preservedSegments : Option (List RecoveryPlanSegment)) : Prop :=
  (scenario.backupCareCandidates.filter fun candidate => Presentable scenario requestedWindows candidate).length < 2 ∨
    ∀ candidate ∈ scenario.backupCareCandidates, Presentable scenario requestedWindows candidate →
      ∀ updated path, addResearchedCaregiver scenario candidate = .ok updated →
        ¬ Completes updated affectedWindows preservedSegments candidate.candidateId path

/-- **The gate finds no provider only when there is none to choose.** -/
theorem noPlanableProvider_of_planable_nil {need : RecoveryNeed}
    (hallowed : scenario.policy.allowExternalBackupProviders = true)
    (h : planableResearchCandidateIds scenario need affectedWindows preservedSegments = .ok []) :
    NoPlanableProvider scenario need.requestedWindows affectedWindows preservedSegments := by
  unfold planableResearchCandidateIds at h
  dsimp only at h
  rw [eligibleCandidates_eq hallowed] at h
  split at h
  next hfew =>
    rw [List.length_map] at hfew
    exact Or.inl hfew
  next =>
    obtain ⟨planable, hplanable, hnil⟩ := bind_eq_ok.mp h
    obtain rfl := List.map_eq_nil_iff.mp (Except.ok.inj hnil)
    refine Or.inr fun candidate hmem hpresentable updated path hadded hcompletes => ?_
    have heligible : restrictTransport scenario.policy candidate ∈
        (scenario.backupCareCandidates.filter fun candidate =>
          Presentable scenario need.requestedWindows candidate).map (restrictTransport scenario.policy) :=
      List.mem_map_of_mem (List.mem_filter.mpr ⟨hmem, decide_eq_true hpresentable⟩)
    obtain ⟨b, hb, hkept⟩ := exists_of_filterM_eq_ok hplanable _ heligible
    rw [← addResearchedCaregiver_restrictTransport] at hadded
    rw [← candidateId_restrictTransport scenario.policy] at hcompletes
    exact List.not_mem_nil (hkept (Completes.isPlanable hadded hcompletes hb))

end DayMend.Validation
