import DayMend.Base.Alone
import DayMend.Runs.Programs
import DayMend.Validation.Eligibility
import DayMend.Validation.Revalidation

/-!
# External care is grounded

Whoever comes from outside should be in the backup inventory, and eligible. The planning
agents that run with the application see to it; the gateway to a remote runtime takes
the provider that the runtime names and plans with what the runtime says about the
provider (`unlistedProvider_accepted`). `grounded_iff` says when an accepted plan is
grounded all the same.
-/

namespace DayMend.Runs

open DayMend.Base DayMend.Models DayMend.Fixtures DayMend.Services DayMend.Agent DayMend.Application
open DayMend.Validation

variable {answers : AgentRuntimeRequest → Except Failure AgentRuntimeResponse → Prop} {scenario facts : DemoScenario}
  {candidate : Option BackupCareCandidate} {plan : RecoveryPlan} {requestedWindows : List CoverageWindow}

/-- The availability, prices and trust of a caregiver are those listed. -/
structure SameCare (caregiver listed : Caregiver) : Prop where
  availability : caregiver.availability = listed.availability
  hourlyRate : caregiver.hourlyRate = listed.hourlyRate
  flatRate : caregiver.flatRate = listed.flatRate
  isTrusted : caregiver.isTrusted = listed.isTrusted
  knownToFamily : caregiver.knownToFamily = listed.knownToFamily
  previouslyUsed : caregiver.previouslyUsed = listed.previouslyUsed

/-- A caregiver is the family's, or listed in the backup inventory as eligible, with the availability, prices and
trust of the record. -/
def GroundedCaregiver (scenario : DemoScenario) (requestedWindows : List CoverageWindow) (caregiver : Caregiver) :
    Prop :=
  caregiver ∈ scenario.caregivers ∨
    ∃ k ∈ (searchBackupCareCandidates scenario requestedWindows).eligibleCandidates,
      k.candidateId = caregiver.caregiverId ∧ SameCare caregiver (researchedCaregiver scenario.policy k)

/-- A plan assigns a caregiver. -/
def Assigns (plan : RecoveryPlan) (id : String) : Prop :=
  ∃ s ∈ plan.coverageSegments, s.source = .caregiver ∧ s.assignedPersonId = id

/-- Every caregiver whom a plan assigns is grounded, by the facts with which the plan was validated. -/
def Grounded (scenario : DemoScenario) (candidate : Option BackupCareCandidate)
    (requestedWindows : List CoverageWindow) (plan : RecoveryPlan) : Prop :=
  ∃ facts, validationScenario scenario candidate = .ok facts ∧
    ∀ id, Assigns plan id →
      ∃ caregiver, Knows facts id caregiver ∧ GroundedCaregiver scenario requestedWindows caregiver

/-- The provider that the runtime has named is not assigned, or grounded. -/
def GroundedResearch (scenario : DemoScenario) (candidate : Option BackupCareCandidate)
    (requestedWindows : List CoverageWindow) (plan : RecoveryPlan) : Prop :=
  ∀ k, candidate = some k → Assigns plan k.candidateId →
    GroundedCaregiver scenario requestedWindows (researchedCaregiver scenario.policy k)

/-- What the gateway accepts: the facts of the day that it has been given, for replanning with the decline, the
provider that the runtime has named, and the plan. -/
inductive AcceptedRemotely (answers : AgentRuntimeRequest → Except Failure AgentRuntimeResponse → Prop) :
    DemoScenario → Option BackupCareCandidate → RecoveryPlan → Prop where
  /-- Initial planning is successful. -/
  | initial {disruption : String} {scenario : DemoScenario} {l l' : List RecoveryCase} {result : InitialPlanningResult}
      {plan : RecoveryPlan} (h : (planInitial disruption scenario).Ends (env answers) l l' (.ok result))
      (hsuccess : result.success = true) (hplan : result.finalPlan = some plan) :
      AcceptedRemotely answers scenario result.researchedCandidate plan
  /-- Replanning is successful. -/
  | replan {c : RecoveryCase} {event : RecoveryEvent} {scenario : DemoScenario} {outcome : InvalidationOutcome}
      {l l' : List RecoveryCase} {result : ReplanningResult} {plan : RecoveryPlan}
      (hdecline : applyCaregiverDecline c event scenario = .ok outcome)
      (h : (replan c event scenario).Ends (env answers) l l' (.ok result))
      (hsuccess : result.success = true) (hplan : result.finalPlan = some plan) :
      AcceptedRemotely answers outcome.updatedScenario result.researchedCandidate plan

/-! ### Accepted plans -/

theorem plannedInitially_of_ends {disruption : String} {l l' : List RecoveryCase} {result : InitialPlanningResult}
    (h : (planInitial disruption scenario).Ends (env answers) l l' (.ok result)) :
    PlannedInitially scenario result := by
  have hwp : (ledgerRules scenario answers).wp (planInitial disruption scenario) ∅ fun s result =>
    s = ∅ ∧ PlannedInitially scenario result := wp_planInitial
  obtain ⟨_, -, hplanned⟩ := Prog.Ends.post_of_wp hwp h
  exact hplanned

theorem replannedFrom_of_ends {c : RecoveryCase} {event : RecoveryEvent} {l l' : List RecoveryCase}
    {result : ReplanningResult} (h : (replan c event scenario).Ends (env answers) l l' (.ok result)) :
    ReplannedFrom answers c event scenario result := by
  have hwp : (ledgerRules scenario answers).wp (replan c event scenario) ∅ fun s result =>
    s = ∅ ∧ ReplannedFrom answers c event scenario result := wp_replan
  obtain ⟨_, -, hreplanned⟩ := Prog.Ends.post_of_wp hwp h
  exact hreplanned

/-- **What is accepted is valid** on the facts with the provider that the runtime has named. -/
theorem AcceptedRemotely.accepted (h : AcceptedRemotely answers scenario candidate plan) :
    ∃ facts, validationScenario scenario candidate = .ok facts ∧ Accepted plan facts := by
  cases h with
  | initial h _ hplan =>
    obtain ⟨facts, proposal, hfacts, hproposal, -, hfinal⟩ := plannedInitially_of_ends h
    obtain ⟨hvalid, rfl⟩ := hfinal plan hplan
    rw [hproposal] at hvalid ⊢
    exact ⟨facts, hfacts, accepted_of_valid (validate_validated hvalid ⟨rfl, rfl⟩ rfl).1⟩
  | replan hdecline h _ hplan =>
    obtain ⟨outcome', response, facts, proposal, attempts, houtcome, -, hfacts, hproposal, rfl⟩ :=
      replannedFrom_of_ends h
    obtain rfl := Except.ok.inj (hdecline.symm.trans houtcome)
    simp only [buildReplanningResult] at hplan
    split at hplan
    next hvalid =>
      obtain rfl := Option.some.inj hplan
      rw [hproposal] at hvalid ⊢
      exact ⟨facts, hfacts, accepted_of_valid (validate_validated hvalid ⟨rfl, rfl⟩ rfl).1⟩
    next => cases hplan

/-- Whom the facts know is the family's caregiver, or the provider who has been added. -/
theorem known_of_validationScenario (hfacts : validationScenario scenario candidate = .ok facts) {id : String}
    {caregiver : Caregiver} (hk : Knows facts id caregiver) :
    caregiver ∈ scenario.caregivers ∨
      ∃ k, candidate = some k ∧ id = k.candidateId ∧ caregiver = researchedCaregiver scenario.policy k := by
  obtain ⟨hmem, hid⟩ := caregiverId_of_get? hk
  cases candidate with
  | none =>
    obtain rfl := Except.ok.inj hfacts
    exact Or.inl hmem
  | some k =>
    obtain ⟨-, rfl⟩ := addResearchedCaregiver_eq_ok.mp hfacts
    rcases List.mem_append.mp hmem with hmem | hmem
    · exact Or.inl hmem
    · obtain rfl := List.mem_singleton.mp hmem
      exact Or.inr ⟨k, rfl, hid.symm, rfl⟩

/-- The provider who has been added is known as such, whatever else the name stands for. -/
theorem knows_researchedCaregiver {k : BackupCareCandidate}
    (hfacts : validationScenario scenario (some k) = .ok facts) :
    Knows facts k.candidateId (researchedCaregiver scenario.policy k) := by
  obtain ⟨-, rfl⟩ := addResearchedCaregiver_eq_ok.mp hfacts
  simp only [Knows, caregiverDict, List.map_append, List.map_singleton, Dict.get?_ofList_append_singleton]
  exact if_pos rfl

/-- An accepted plan is grounded exactly when the added provider is, if assigned. -/
theorem grounded_iff_of_accepted (hfacts : validationScenario scenario candidate = .ok facts)
    (haccepted : Accepted plan facts) :
    Grounded scenario candidate requestedWindows plan ↔ GroundedResearch scenario candidate requestedWindows plan := by
  constructor
  · rintro ⟨facts', hfacts', hgrounded⟩ k rfl hassigns
    obtain ⟨caregiver, hk, hcaregiver⟩ := hgrounded k.candidateId hassigns
    obtain rfl := Option.some.inj (hk.symm.trans (knows_researchedCaregiver hfacts'))
    exact hcaregiver
  · intro hresearch
    refine ⟨facts, hfacts, ?_⟩
    rintro id ⟨s, hs, hsource, rfl⟩
    obtain ⟨caregiver, hk, -⟩ := haccepted.eligible_of_assigned hs hsource
    refine ⟨caregiver, hk, ?_⟩
    rcases known_of_validationScenario hfacts hk with hmem | ⟨k, hk', hid, rfl⟩
    · exact Or.inl hmem
    · exact hresearch k hk' ⟨s, hs, hsource, hid⟩

/-- **When external care is grounded**: whatever the remote runtime answers, for every plan that the gateway accepts
and whatever windows are asked for, everybody assigned is the family's or listed as eligible, with the record's
availability, prices and trust, if and only if this is so of the provider that the runtime has named, or the plan
does not assign that provider. -/
theorem grounded_iff (h : AcceptedRemotely answers scenario candidate plan) (requestedWindows : List CoverageWindow) :
    Grounded scenario candidate requestedWindows plan ↔ GroundedResearch scenario candidate requestedWindows plan := by
  obtain ⟨facts, hfacts, haccepted⟩ := h.accepted
  exact grounded_iff_of_accepted hfacts haccepted

/-- The runtime plans with the provider `id`. -/
def plannedWith (id : String) : (List RecoveryCase) × Service InitialPlanningResult :=
  advances (answering 1 "case" (allDayBy id) (some (provider id))) 10
    ([], planInitial "The nanny is unavailable." (providersDay []))

/-- If the gateway accepts the runtime's plan with a provider, it accepts it. -/
theorem exists_acceptedRemotely {id : String}
    (h : ∃ result ∈ (plannedWith id).2.result?, result.success = true ∧
      result.researchedCandidate.map (·.candidateId) = some id ∧
        ∃ plan ∈ result.finalPlan, ∃ s ∈ plan.coverageSegments, s.source = .caregiver ∧ s.assignedPersonId = id) :
    ∃ k plan, AcceptedRemotely (fun _ _ => True) (providersDay []) (some k) plan ∧ k.candidateId = id ∧
      Assigns plan id := by
  obtain ⟨result, hresult, hsuccess, hid, plan, hplan, hassigns⟩ := h
  obtain ⟨k, hk, hid⟩ := Option.map_eq_some_iff.mp hid
  have hanswers : ∀ q, env (fun _ _ => True) q (answering 1 "case" (allDayBy id) (some (provider id)) q) :=
    env_answering fun _ => trivial
  have hends := ends_of_result? hanswers hresult
  refine ⟨k, plan, ?_, hid, hassigns⟩
  rw [← hk]
  exact .initial hends hsuccess hplan

theorem grounded_iff_listedProvider :
    ∃ k plan, k.candidateId = "hana" ∧ Assigns plan "hana" ∧
      (Grounded (providersDay []) (some k) [minutes 0 120] plan ↔
        GroundedResearch (providersDay []) (some k) [minutes 0 120] plan) := by
  have hplanned := exists_acceptedRemotely (show ∃ result ∈ (plannedWith "hana").2.result?, _ by decide +kernel)
  obtain ⟨k, plan, haccepted, hid, hassigns⟩ := hplanned
  exact ⟨k, plan, hid, hassigns, grounded_iff haccepted _⟩

/-- The search lists nobody who is not in the inventory. -/
theorem candidateId_mem_of_eligible {k : BackupCareCandidate}
    (h : k ∈ (searchBackupCareCandidates scenario requestedWindows).eligibleCandidates) :
    k.candidateId ∈ scenario.backupCareCandidates.map (·.candidateId) := by
  obtain ⟨assessment, hassessment, rfl⟩ := List.mem_map.mp h
  obtain ⟨listed, hlisted, rfl⟩ := List.mem_map.mp (List.mem_filter.mp hassessment).1
  refine List.mem_map.mpr ⟨listed, hlisted, ?_⟩
  simp only [assessCandidate, restrictTransport]
  split
  · rfl
  · rfl

/-- The runtime names a provider who is not in the inventory, and plans with what it says about the provider; the
plan is accepted. -/
theorem unlistedProvider_accepted :
    ∃ k plan, AcceptedRemotely (fun _ _ => True) (providersDay []) (some k) plan ∧
      ∀ requestedWindows, ¬ Grounded (providersDay []) (some k) requestedWindows plan := by
  have hplanned := exists_acceptedRemotely (show ∃ result ∈ (plannedWith "mia").2.result?, _ by decide +kernel)
  obtain ⟨k, plan, hplan, hid, hassigns⟩ := hplanned
  refine ⟨k, plan, hplan, fun requestedWindows hgrounded => ?_⟩
  obtain ⟨facts, hfacts, haccepted⟩ := hplan.accepted
  have hresearch := (grounded_iff_of_accepted hfacts haccepted).mp hgrounded k rfl (hid ▸ hassigns)
  rcases hresearch with hmem | ⟨listed, hlisted, heq, -⟩
  · cases hmem
  · have hin := candidateId_mem_of_eligible hlisted
    rw [heq.trans hid] at hin
    exact absurd hin (by decide)

end DayMend.Runs
