import DayMend.Agent.ConstraintPlanner

/-!
# Backup care

`services/backup_care.py`: whether the known options suffice, which providers of
the backup inventory are eligible, and how a researched provider becomes a
caregiver of the day. The planability gate of `agent/research_planability.py`
(`planableResearchCandidateIds`) decides before any model is called whether some
provider completes a path.
-/

namespace DayMend.Services

open DayMend.Base DayMend.Models DayMend.Fixtures DayMend.Agent

/-- Reasons for which a provider cannot be presented. -/
inductive BackupCareIneligibilityCode where
  | unavailable
  | unverified
  | backgroundCheckRequired
  | childAgeUnsupported
  | externalProvidersDisabled
  deriving DecidableEq

/-- Whether known options cover the recovery window. -/
structure RecoveryNeed where
  requestedWindows : List CoverageWindow := []
  knownOptionsInsufficient : Bool
  researchNeeded : Bool
  alreadyConsideredCaregiverIds : List String := []

/-- The result for one inventory record. -/
structure BackupCareCandidateAssessment where
  candidate : BackupCareCandidate
  eligible : Bool
  ineligibilityCodes : List BackupCareIneligibilityCode := []

/-- What the research agent may choose from. -/
structure BackupCareSearchResult where
  requestedWindows : List CoverageWindow
  consideredCandidates : List BackupCareCandidateAssessment
  eligibleCandidates : List BackupCareCandidate

/-- `assess_known_option_recovery_need`. -/
def assessKnownOptionRecoveryNeed (scenario : DemoScenario) (affectedWindows : Option (List CoverageWindow))
    (preservedSegments : Option (List RecoveryPlanSegment)) : Except Failure RecoveryNeed := do
  let matrix ← buildFeasibleAssignmentMatrix scenario affectedWindows preservedSegments
  let insufficient := matrix.carePrimitives.isEmpty && matrix.transportPrimitives.isEmpty
  let uncovered :=
    if insufficient then
      match affectedWindows with
      | some (window :: windows) => window :: windows
      | _ => matrix.connectedUncoveredWindows
    else []
  return {
    requestedWindows := uncovered
    knownOptionsInsufficient := insufficient
    researchNeeded := insufficient && scenario.policy.allowExternalBackupProviders
    alreadyConsideredCaregiverIds := scenario.caregivers.map (·.caregiverId) }

/-- `if condition: codes.append(code)`. -/
def codeIf (condition : Bool) (code : BackupCareIneligibilityCode) : List BackupCareIneligibilityCode :=
  if condition then [code] else []

/-- The candidate as the family's policy lets it be used. -/
def restrictTransport (policy : FamilyPolicy) (candidate : BackupCareCandidate) : BackupCareCandidate :=
  if policy.allowProviderTransport then candidate else { candidate with canTransportChild := false }

/-- One turn of the loop over the inventory. -/
def assessCandidate (scenario : DemoScenario) (requestedWindows : List CoverageWindow)
    (candidate : BackupCareCandidate) : BackupCareCandidateAssessment :=
  let policy := scenario.policy
  let codes :=
    codeIf (!policy.allowExternalBackupProviders) .externalProvidersDisabled ++
      codeIf (¬ ∀ window ∈ requestedWindows, IsCovered window candidate.availability) .unavailable ++
      codeIf (policy.requireVerifiedBackupProvider && !candidate.verified) .unverified ++
      codeIf (policy.requireBackgroundCheckedBackupProvider && !candidate.backgroundChecked)
        .backgroundCheckRequired ++
      codeIf (¬ (candidate.minimumChildAge ≤ scenario.childAgeYears ∧
        scenario.childAgeYears ≤ candidate.maximumChildAge)) .childAgeUnsupported
  { candidate := restrictTransport policy candidate, eligible := codes.isEmpty, ineligibilityCodes := codes }

/-- `search_backup_care_candidates`. -/
def searchBackupCareCandidates (scenario : DemoScenario) (requestedWindows : List CoverageWindow) :
    BackupCareSearchResult :=
  let assessments := scenario.backupCareCandidates.map (assessCandidate scenario requestedWindows)
  { requestedWindows
    consideredCandidates := assessments
    eligibleCandidates := (assessments.filter (·.eligible)).map (·.candidate) }

/-- The caregiver that a provider becomes. -/
def researchedCaregiver (policy : FamilyPolicy) (candidate : BackupCareCandidate) : Caregiver :=
  { caregiverId := candidate.candidateId
    name := candidate.displayName
    isTrusted := candidate.verified && candidate.backgroundChecked
    relationship := some "researched_external_backup"
    availability := candidate.availability
    hourlyRate := candidate.hourlyRate
    flatRate := candidate.flatRate
    knownToFamily := candidate.knownToFamily
    previouslyUsed := candidate.previouslyUsed
    externalProvider := true
    careLocationType := candidate.careLocationType
    locationId := candidate.locationId
    locationLabel := candidate.locationLabel
    travelMinutesFromFamilyHome := candidate.travelMinutesFromFamilyHome
    canTransportChild := candidate.canTransportChild && policy.allowProviderTransport
    has_at_most_one_price_type := by
      have h := candidate.candidate_contract_is_consistent.1
      cases hh : candidate.hourlyRate <;> cases hf : candidate.flatRate <;> simp_all }

/-- `add_researched_caregiver`. -/
def addResearchedCaregiver (scenario : DemoScenario) (candidate : BackupCareCandidate) :
    Except Failure DemoScenario :=
  if scenario.policy.allowExternalBackupProviders then
    .ok { scenario with caregivers := scenario.caregivers ++ [researchedCaregiver scenario.policy candidate] }
  else .error (.valueError "External backup providers are disabled by family policy.")

/-- The caregiver joins at the end of the list, and nothing else changes. -/
theorem addResearchedCaregiver_eq_ok {scenario updated : DemoScenario} {candidate : BackupCareCandidate} :
    addResearchedCaregiver scenario candidate = .ok updated ↔
      scenario.policy.allowExternalBackupProviders = true ∧
        updated = { scenario with
          caregivers := scenario.caregivers ++ [researchedCaregiver scenario.policy candidate] } := by
  unfold addResearchedCaregiver
  split
  next h => simp [h, eq_comm]
  next h => simp [h]

/-- One turn of the loop of `planable_research_candidate_ids`: the provider completes a path
that keeps all preserved work. -/
def isPlanable (scenario : DemoScenario) (affectedWindows : Option (List CoverageWindow))
    (preservedSegments : Option (List RecoveryPlanSegment)) (candidate : BackupCareCandidate) :
    Except Failure Bool := do
  let candidateScenario ← addResearchedCaregiver scenario candidate
  let matrix ← buildFeasibleAssignmentMatrix candidateScenario affectedWindows preservedSegments
  let immutableIds :=
    (matrix.carePrimitives.filter (·.immutable)).map (·.primitiveId) ++
      (matrix.transportPrimitives.filter (·.immutable)).map (·.primitiveId)
  return !(matrix.carePrimitives.isEmpty && matrix.transportPrimitives.isEmpty) &&
    (preservedSegments.getD []).all (fun segment => decide (segment.segmentId ∈ immutableIds)) &&
    matrix.carePrimitives.any fun item => decide (item.assignedPersonId = candidate.candidateId)

/-- `planable_research_candidate_ids`. -/
def planableResearchCandidateIds (scenario : DemoScenario) (recoveryNeed : RecoveryNeed)
    (affectedWindows : Option (List CoverageWindow)) (preservedSegments : Option (List RecoveryPlanSegment)) :
    Except Failure (List String) := do
  let search := searchBackupCareCandidates scenario recoveryNeed.requestedWindows
  -- the research agent compares at least two providers
  if search.eligibleCandidates.length < 2 then return []
  let planable ← search.eligibleCandidates.filterM (isPlanable scenario affectedWindows preservedSegments)
  return planable.map (·.candidateId)

end DayMend.Services
