import DayMend.Application.Reconstruction
import DayMend.Runs.Programs
import DayMend.Validation.Planability

/-!
# Cases without options

When a case is stored because no provider completes the day, the gate has looked at the
inventory and found no choice of providers, or nobody among them who completes the day
(`noOptionGrounds_of_reaches`). The gate wants two providers to choose from, and only
lets those through who have time for every requested window and whose care is part of a
path: it finds nobody on days on which a single provider, one who would fill another gap,
or a drive to somebody else's place would complete the path (`givenUpTooSoon`).
-/

namespace DayMend.Runs

open DayMend.Base DayMend.Models DayMend.Fixtures DayMend.Services DayMend.Agent DayMend.Application
open DayMend.Validation

variable {scenarioFactory : DemoScenario}
  {answers : AgentRuntimeRequest → Except Failure AgentRuntimeResponse → Prop}
  {cfg : Config String RecoveryCase Failure Answer RecoveryCase} {c : RecoveryCase}

/-! ### The reason -/

/-- The reason that the newest event of a case gives. -/
def reasonCode (c : RecoveryCase) : Option String :=
  c.events.getLast?.bind fun event =>
    match (Dict.ofList event.details).get? "reason_code" with
    | some (.str code) => some code
    | _ => none

/-- The reason given is the one among the details, whatever was there before. -/
theorem get?_noOptionDetails (details : List (String × JsonValue)) (externalDisabled : Bool)
    (uncovered : List CoverageWindow) (preservedIds : List String) :
    (Dict.ofList (details ++ noOptionDetails externalDisabled uncovered preservedIds)).get? "reason_code" =
      some (.str (if externalDisabled then "EXTERNAL_BACKUP_DISABLED" else "NO_PLANABLE_BACKUP_CARE")) := by
  rw [Dict.ofList_append]
  simp only [noOptionDetails, List.foldl_cons, List.foldl_nil, Dict.get?_insert]
  simp

theorem reasonCode_initialNoOptionCase (command : StartRecoveryCommand) (caseId : String) (scenario : DemoScenario)
    (uncovered : List CoverageWindow) (now : Instant) :
    reasonCode (initialNoOptionCase command caseId scenario uncovered now) =
      some (if !scenario.policy.allowExternalBackupProviders then "EXTERNAL_BACKUP_DISABLED"
        else "NO_PLANABLE_BACKUP_CARE") := by
  have hreason := get?_noOptionDetails [("disruption_type", .str command.disruptionType)]
    (!scenario.policy.allowExternalBackupProviders) uncovered []
  rw [List.singleton_append] at hreason
  simp only [reasonCode, initialNoOptionCase, List.getLast?_singleton, Option.bind_some, disruptionEvent, hreason]

theorem reasonCode_noOptionCase (outcome : InvalidationOutcome) (event : RecoveryEvent) (externalDisabled : Bool)
    (uncovered : List CoverageWindow) (now : Instant) :
    reasonCode (noOptionCase outcome event externalDisabled uncovered now) =
      some (if externalDisabled then "EXTERNAL_BACKUP_DISABLED" else "NO_PLANABLE_BACKUP_CARE") := by
  simp only [reasonCode, noOptionCase, List.getLast?_append, List.getLast?_singleton, Option.some_or, Option.bind_some,
    get?_noOptionDetails]

/-! ### The decision -/

/-- The known options do not suffice, and no provider completes the day. -/
structure NothingHelps (scenario : DemoScenario) (affectedWindows : Option (List CoverageWindow))
    (preservedSegments : Option (List RecoveryPlanSegment)) (need : RecoveryNeed) : Prop where
  assessed : assessKnownOptionRecoveryNeed scenario affectedWindows preservedSegments = .ok need
  insufficient : need.knownOptionsInsufficient = true
  no_provider : NoPlanableProvider scenario need.requestedWindows affectedWindows preservedSegments

/-- Why a case was stored without options. -/
inductive NoOptionGrounds (scenarioFactory : DemoScenario) (saved : List RecoveryCase) (c : RecoveryCase) : Prop where
  /-- Nothing helps on the day of the disruption. -/
  | atOnce (scenario : DemoScenario) (need : RecoveryNeed) (hsnapshot : c.contextState.scenarioSnapshot = some scenario)
      (h : NothingHelps scenario none none need)
  /-- Nothing helps after a decline of the version before. -/
  | afterDecline (before : RecoveryCase) (event : RecoveryEvent) (scenario : DemoScenario)
      (outcome : InvalidationOutcome) (need : RecoveryNeed) (now : Instant) (hbefore : before ∈ saved)
      (hdecline : DeclineOf scenarioFactory before event scenario outcome)
      (hcase : c = stored (noOptionCase outcome event false need.requestedWindows now) (some before.version))
      (h : NothingHelps outcome.updatedScenario (some outcome.uncoveredWindows) (some outcome.preservedSegments) need)

/-- Where help from outside is allowed, the service stops only when the known options do not suffice and the gate
finds nobody. -/
theorem of_stop {insufficient allowed : Bool} {planable : Except Failure (List String)} (hallowed : allowed = true)
    (h : (if !insufficient then .ok false else if !allowed then .ok true else return (← planable).isEmpty) =
      (.ok true : Except Failure Bool)) : insufficient = true ∧ planable = .ok [] := by
  subst hallowed
  cases insufficient with
  | false => cases h
  | true =>
    obtain ⟨ids, hids, hempty⟩ := bind_eq_ok.mp h
    obtain rfl := List.isEmpty_iff.mp (Except.ok.inj hempty)
    exact ⟨rfl, hids⟩

theorem StopsAtOnce.nothingHelps {scenario : DemoScenario} {need : RecoveryNeed} (h : StopsAtOnce scenario need)
    (hallowed : scenario.policy.allowExternalBackupProviders = true) : NothingHelps scenario none none need := by
  obtain ⟨hinsufficient, hplanable⟩ := of_stop hallowed h.stop
  exact ⟨h.assessed, hinsufficient, noPlanableProvider_of_planable_nil hallowed hplanable⟩

theorem StopsAfter.nothingHelps {scenario : DemoScenario} {outcome : InvalidationOutcome} {need : RecoveryNeed}
    (h : StopsAfter scenario outcome need) (hallowed : scenario.policy.allowExternalBackupProviders = true)
    (hpolicy : outcome.updatedScenario.policy = scenario.policy) :
    NothingHelps outcome.updatedScenario (some outcome.uncoveredWindows) (some outcome.preservedSegments) need := by
  obtain ⟨hinsufficient, hplanable⟩ := of_stop hallowed h.stop
  rw [← hpolicy] at hallowed
  exact ⟨h.assessed, hinsufficient, noPlanableProvider_of_planable_nil hallowed hplanable⟩

/-- A decline leaves the family's policy alone. -/
theorem DeclineOf.policy_eq {event : RecoveryEvent} {scenario : DemoScenario} {outcome : InvalidationOutcome}
    (h : DeclineOf scenarioFactory c event scenario outcome) :
    outcome.updatedScenario.policy = scenario.policy := by
  obtain ⟨_, _, _, -, hupdated, -⟩ := h.eq_declinedCase
  obtain ⟨-, hupdated⟩ := applyCaregiverDeclineToScenario_eq_ok.mp hupdated
  rw [hupdated]

/-! ### Every stored case -/

theorem GivenUpAtOnce.grounds {saved : List RecoveryCase} (h : GivenUpAtOnce c)
    (hreason : reasonCode c = some "NO_PLANABLE_BACKUP_CARE") :
    NoOptionGrounds scenarioFactory saved (stored c none) := by
  obtain ⟨command, caseId, scenario, need, now, hstops, rfl⟩ := h
  rw [reasonCode_initialNoOptionCase] at hreason
  cases hallowed : scenario.policy.allowExternalBackupProviders with
  | false => simp [hallowed] at hreason
  | true => exact .atOnce scenario need rfl (hstops.nothingHelps hallowed)

theorem GivenUpAfter.grounds {saved : List RecoveryCase} {before : RecoveryCase} (hbefore : before ∈ saved)
    (h : GivenUpAfter scenarioFactory before c) (hreason : reasonCode c = some "NO_PLANABLE_BACKUP_CARE") :
    NoOptionGrounds scenarioFactory saved (stored c (some before.version)) := by
  obtain ⟨event, scenario, outcome, need, now, hdecline, hstops, rfl⟩ := h
  rw [reasonCode_noOptionCase] at hreason
  cases hallowed : scenario.policy.allowExternalBackupProviders with
  | false => simp [hallowed] at hreason
  | true =>
    refine .afterDecline before event scenario outcome need now hbefore hdecline rfl ?_
    exact hstops.nothingHelps hallowed hdecline.policy_eq

/-- **No case is stored for want of a provider without grounds**, whatever the order in which requests take turns. -/
theorem noOptionGrounds_of_reaches (h : Reaches scenarioFactory answers cfg) (hc : c ∈ cfg.saved)
    (hstatus : c.status = .noRecoveryOption) (hreason : reasonCode c = some "NO_PLANABLE_BACKUP_CARE") :
    NoOptionGrounds scenarioFactory cfg.saved c := by
  have hist : (checkedRules scenarioFactory answers).Hist (versions cfg.saved c.caseId) :=
    Rules.hist_of_reachable (R := checkedRules scenarioFactory answers) (fun _ hp => wp_request_checked hp) h c.caseId
  obtain ⟨newer, past, hsplit⟩ := List.append_of_mem (mem_versions hc)
  rw [hsplit] at hist
  have hsaved : past ⊆ cfg.saved := fun d hd =>
    (List.mem_filter.mp (hsplit ▸ List.mem_append_right _ (List.mem_cons_of_mem _ hd))).1
  -- the version was saved first, or over the one before it
  cases Rules.Hist.of_append hist with
  | start hinit => exact GivenUpAtOnce.grounds (hinit.2 hstatus) hreason
  | step _ hstep => exact GivenUpAfter.grounds (hsaved (List.mem_cons_self ..)) (hstep.2 hstatus) hreason

/-! ### Whom the gate does not consider -/

/-- The nanny is ill on the day of the scenario. -/
def givenUpRun (scenario : DemoScenario) : Schedule :=
  [.spawn (startRecovery scenario scenario nannyIll), .steps 0 10 (answering 1 "case" (allDayBy "nobody") none)]

theorem reaches_givenUpRun (scenario : DemoScenario) :
    Reaches scenario (fun _ _ => True) (Config.run (givenUpRun scenario)) := by
  refine reachable_run fun t ht => ?_
  rcases List.mem_cons.mp ht with rfl | ht
  · exact .start ..
  · rw [List.mem_singleton.mp ht]
    exact env_answering fun _ => trivial

/-- The case is given up for want of a provider on the day of the scenario. -/
def GivenUpOn (scenario : DemoScenario) (c : RecoveryCase) : Prop :=
  c.status = .noRecoveryOption ∧ reasonCode c = some "NO_PLANABLE_BACKUP_CARE" ∧ c.declines = [] ∧
    c.contextState.scenarioSnapshot = some scenario

instance (scenario : DemoScenario) (c : RecoveryCase) : Decidable (GivenUpOn scenario c) :=
  inferInstanceAs (Decidable (_ ∧ _))

/-- A recovery on this day is given up, although there is a path through the day when a provider of the inventory whom
the policy admits is added to it. -/
def GivenUpTooSoon (scenario : DemoScenario) : Prop :=
  ∃ cfg, Reaches scenario (fun _ _ => True) cfg ∧ ∃ c ∈ cfg.saved, GivenUpOn scenario c ∧
    ∃ candidate ∈ scenario.backupCareCandidates, MeetsProviderPolicy scenario candidate ∧
      ∃ updated path, addResearchedCaregiver scenario candidate = .ok updated ∧ Connects updated none none path

/-- The day with a provider added to it. -/
def withProvider (scenario : DemoScenario) (candidate : BackupCareCandidate) : DemoScenario :=
  { scenario with caregivers := scenario.caregivers ++ [researchedCaregiver scenario.policy candidate] }

theorem givenUpTooSoon_of_connects {scenario : DemoScenario} {candidate : BackupCareCandidate} {path : List Leg}
    (hgiven : ∃ c ∈ (Config.run (givenUpRun scenario)).saved, GivenUpOn scenario c)
    (hmem : candidate ∈ scenario.backupCareCandidates) (hpolicy : MeetsProviderPolicy scenario candidate)
    (hallowed : scenario.policy.allowExternalBackupProviders = true)
    (hconnects : Connects (withProvider scenario candidate) none none path) : GivenUpTooSoon scenario := by
  obtain ⟨c, hc, hgiven⟩ := hgiven
  exact ⟨_, reaches_givenUpRun scenario, c, hc, hgiven, candidate, hmem, hpolicy, _, path,
    addResearchedCaregiver_eq_ok.mpr ⟨hallowed, rfl⟩, hconnects⟩

/-- A provider who is available in one window. -/
def providerIn (candidateId : String) (window : CoverageWindow) : BackupCareCandidate :=
  { provider candidateId with availability := [window] }

/-- The second sitter comes before the first leaves, so that the smallest gap is before the second comes. Two providers
have time for it, and a third could take over from the first sitter. -/
def lateProviderDay : DemoScenario :=
  { providersDay [sitter "kim" [minutes 0 50], sitter "lee" [minutes 20 120]] with
    backupCareCandidates :=
      [providerIn "hana" (minutes 0 30), providerIn "ida" (minutes 0 30), providerIn "wim" (minutes 50 120)] }

theorem givenUpOn_lateProviderDay :
    ∃ c ∈ (Config.run (givenUpRun lateProviderDay)).saved, GivenUpOn lateProviderDay c := by decide +kernel

/-- Two providers can be presented, and neither completes the day. -/
theorem noOptionGrounds_of_reaches_lateProviderDay :
    (∃ need ∈ (assessKnownOptionRecoveryNeed lateProviderDay none none).toOption,
      2 ≤ (searchBackupCareCandidates lateProviderDay need.requestedWindows).eligibleCandidates.length) ∧
      ∃ c ∈ (Config.run (givenUpRun lateProviderDay)).saved, GivenUpOn lateProviderDay c ∧
        NoOptionGrounds lateProviderDay (Config.run (givenUpRun lateProviderDay)).saved c := by
  obtain ⟨c, hc, hgiven⟩ := givenUpOn_lateProviderDay
  refine ⟨by decide +kernel, c, hc, hgiven, ?_⟩
  exact noOptionGrounds_of_reaches (reaches_givenUpRun _) hc hgiven.1 hgiven.2.1

/-- A day on which only one provider could come. -/
def singleProviderDay : DemoScenario := { providersDay [] with backupCareCandidates := [provider "hana"] }

/-- A provider who looks after the child at the provider's own place until a parent could fetch it. -/
def awayProvider (candidateId : String) : BackupCareCandidate :=
  { providerIn candidateId (minutes 0 65) with
    careLocationType := .caregiverHome
    locationId := candidateId
    locationLabel := candidateId
    travelMinutesFromFamilyHome := 15 }

/-- The first parent is free before the sitter leaves, and would be free exactly then after fetching the child from a
provider, where it is not. -/
def fetchingDay : DemoScenario :=
  { day (minutes 0 120) [sitter "kim" [minutes 0 65]] with
    parentEvents := [busy "board" "parent_a" (minutes 0 50), busy "clinic" "parent_b" (minutes 0 120)]
    parentTransportCapabilities :=
      [{ parentId := "parent_a", canTransportChild := true, availability := [minutes 0 120] }]
    backupCareCandidates := [awayProvider "hana", awayProvider "ida"] }

/-- **The gate gives up too soon** on a single provider, on one who fills another gap than the smallest, and on one
whose place only makes a parent's day fit. -/
theorem givenUpTooSoon :
    GivenUpTooSoon singleProviderDay ∧ GivenUpTooSoon lateProviderDay ∧ GivenUpTooSoon fetchingDay := by
  refine ⟨?_, ?_, ?_⟩
  · have hconnects : Connects (withProvider singleProviderDay (provider "hana")) none none
        [⟨"care:hana:0", (0, "family_home"), (7200000000, "family_home")⟩] :=
      ⟨⟨by decide +kernel, by decide, rfl, rfl⟩, fun s hs => by cases hs⟩
    exact givenUpTooSoon_of_connects (by decide +kernel) (by decide)
      ⟨fun _ => rfl, fun _ => rfl, by decide⟩ rfl hconnects
  · have hconnects : Connects (withProvider lateProviderDay (providerIn "wim" (minutes 50 120))) none none
        [⟨"care:kim:0", (0, "family_home"), (3000000000, "family_home")⟩,
          ⟨"care:wim:3000000000", (3000000000, "family_home"), (7200000000, "family_home")⟩] :=
      ⟨⟨by decide +kernel, by decide, rfl, rfl⟩, fun s hs => by cases hs⟩
    exact givenUpTooSoon_of_connects (by decide +kernel) (by decide) ⟨fun _ => rfl, fun _ => rfl, by decide⟩ rfl
      hconnects
  · have hconnects : Connects (withProvider fetchingDay (awayProvider "hana")) none none
        [⟨"care:kim:0", (0, "family_home"), (3900000000, "family_home")⟩,
          ⟨"care:parent_a:3900000000", (3900000000, "family_home"), (7200000000, "family_home")⟩] :=
      ⟨⟨by decide +kernel, by decide, rfl, rfl⟩, fun s hs => by cases hs⟩
    exact givenUpTooSoon_of_connects (by decide +kernel) (by decide) ⟨fun _ => rfl, fun _ => rfl, by decide⟩ rfl
      hconnects

end DayMend.Runs
