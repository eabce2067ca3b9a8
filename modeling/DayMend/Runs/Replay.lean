import DayMend.Application.Reconstruction
import DayMend.Runs.Authorisation

/-!
# Replaying a stored case

The facts of a stored case are rebuilt when they are needed. Then the validator should
find the case's valid plan valid again (`Replays`). The plan was accepted on the facts
of its own time: the rebuilt ones before the last decline, that decline, and the
provider of the last research, added at the end. The case keeps one provider only, and
the rebuilt facts have it before all declines. So the law holds as long as the research
for an accepted plan comes back with the recorded provider, or the first one, and with
nobody whom a decline has named (`KeepsProvider`, `replays_of_reaches`); a second provider
takes the place of the first, and then the decline of the first cannot be replayed
(`secondProvider_breaks`).
-/

namespace DayMend.Runs

open DayMend.Base DayMend.Models DayMend.Fixtures DayMend.Services DayMend.Agent DayMend.Application
open DayMend.Validation

variable {scenarioFactory : DemoScenario}
  {answers : AgentRuntimeRequest → Except Failure AgentRuntimeResponse → Prop} {seen : Set RecoveryCase}
  {c c' : RecoveryCase} {plan : RecoveryPlan} {candidate : Option BackupCareCandidate}

/-- The facts of a case can be rebuilt, and its valid plan is valid on them. -/
def Replays (scenarioFactory : DemoScenario) (c : RecoveryCase) : Prop :=
  ∃ facts, scenarioFor scenarioFactory c = .ok facts ∧
    ∀ p, c.activeRecoveryPlan = some p → p.validationState = .valid → (validate p facts).valid = true

/-! ### What replanning may answer -/

/-- A plan was accepted after this answer to a replanning request, and the version `c` has it: the plan is valid, the
events are those of the request, and the provider of the answer, if there is one, is recorded. -/
def TakenUp (request : AgentRuntimeRequest) (response : AgentRuntimeResponse) (c : RecoveryCase) : Prop :=
  ∃ context plan, request.replanningContext = some context ∧ context.recoveryCase.caseId = c.caseId ∧
    context.recoveryCase.events = c.events ∧ c.activeRecoveryPlan = some plan ∧ plan.validationState = .valid ∧
      c.contextState.researchedBackupCareCandidate = response.researchedCandidate.or
        context.recoveryCase.contextState.researchedBackupCareCandidate

/-- Research finds nobody whom a recorded decline names. -/
def NamesNoDeclined (request : AgentRuntimeRequest) (response : AgentRuntimeResponse) : Prop :=
  ∀ context provider, request.replanningContext = some context → response.researchedCandidate = some provider →
    ∀ decline ∈ context.recoveryCase.declines, decline.caregiverId ≠ provider.candidateId

/-- Research finds the recorded provider again, if there is one. -/
def KeepsRecorded (request : AgentRuntimeRequest) (response : AgentRuntimeResponse) : Prop :=
  ∀ context provider, request.replanningContext = some context → response.researchedCandidate = some provider →
    ∀ recorded, context.recoveryCase.contextState.researchedBackupCareCandidate = some recorded → recorded = provider

/-- For the plan of a version, research has found nobody whom a decline names. -/
def FindsNoDeclined (answers : AgentRuntimeRequest → Except Failure AgentRuntimeResponse → Prop) (c : RecoveryCase) :
    Prop :=
  ∀ request response, answers request (.ok response) → TakenUp request response c → NamesNoDeclined request response

/-- For the plan of a version, research has found the recorded provider, or the first one, and nobody whom a decline
names. -/
def KeepsProvider (answers : AgentRuntimeRequest → Except Failure AgentRuntimeResponse → Prop) (c : RecoveryCase) :
    Prop :=
  ∀ request response, answers request (.ok response) → TakenUp request response c →
    NamesNoDeclined request response ∧ KeepsRecorded request response

/-! ### The rebuilt facts -/

variable (scenarioFactory) in
theorem baseScenario_congr (hsnapshot : c'.contextState.scenarioSnapshot = c.contextState.scenarioSnapshot)
    (hpolicy : c'.familyPolicy = c.familyPolicy) :
    baseScenario scenarioFactory c' = baseScenario scenarioFactory c := by
  rw [baseScenario, baseScenario, hsnapshot, hpolicy]

theorem scenarioFor_eq_ok {facts : DemoScenario} :
    scenarioFor scenarioFactory c = .ok facts ↔
      ∃ scenario, validationScenario (baseScenario scenarioFactory c)
        c.contextState.researchedBackupCareCandidate = .ok scenario ∧ replayDeclines scenario c.declines = .ok facts :=
  bind_eq_ok

/-- Where the plan, the declines and the context are kept, the rebuilt facts are kept. -/
theorem Kept.scenarioFor_eq (h : Kept c c') : scenarioFor scenarioFactory c' = scenarioFor scenarioFactory c := by
  rw [scenarioFor, scenarioFor, baseScenario_congr _ (congrArg _ h.context) h.policy, h.context, h.declines]

/-- A further decline without a new provider is replayed last. -/
theorem Declined.scenarioFor_eq {decline : Decline} (h : Declined scenarioFactory answers c c' decline plan)
    (hsame : c'.contextState.researchedBackupCareCandidate = c.contextState.researchedBackupCareCandidate)
    {scenario updated : DemoScenario} (hfacts : scenarioFor scenarioFactory c = .ok scenario)
    (happly : applyCaregiverDeclineToScenario scenario decline = .ok updated) :
    scenarioFor scenarioFactory c' = .ok updated := by
  obtain ⟨start, hstart, hreplay⟩ := scenarioFor_eq_ok.mp hfacts
  refine scenarioFor_eq_ok.mpr ⟨start, ?_, ?_⟩
  · rw [baseScenario_congr _ h.snapshot h.policy, hsame]
    exact hstart
  · rw [h.declines, replayDeclines_append_singleton, bind_eq_ok]
    exact ⟨scenario, hreplay, happly⟩

/-- **A provider whom no decline names**: the facts with the provider added at the end are the rebuilt ones,
if the provider was recorded before or is the first. -/
theorem sameFacts_of_keepsProvider {base scenario updated facts : DemoScenario} {recorded : Option BackupCareCandidate}
    {provider : BackupCareCandidate} {declines : List Decline}
    (hstart : validationScenario base recorded = .ok scenario)
    (hreplay : replayDeclines scenario declines = .ok updated)
    (hfacts : addResearchedCaregiver updated provider = .ok facts)
    (hkeeps : ∀ r, recorded = some r → r = provider)
    (hnames : ∀ decline ∈ declines, decline.caregiverId ≠ provider.candidateId) :
    ∃ start rebuilt, addResearchedCaregiver base provider = .ok start ∧ replayDeclines start declines = .ok rebuilt ∧
      SameFacts facts rebuilt := by
  obtain ⟨hallow, rfl⟩ := addResearchedCaregiver_eq_ok.mp hfacts
  obtain ⟨caregivers, rfl⟩ := exists_caregivers_of_replayDeclines hreplay
  cases recorded with
  | none =>
    -- the provider is the first: it may be added before the declines as well
    obtain rfl := Except.ok.inj hstart
    refine ⟨_, _, addResearchedCaregiver_eq_ok.mpr ⟨hallow, rfl⟩, ?_, .refl _⟩
    exact replayDeclines_add hreplay hnames
  | some r =>
    -- the provider was there before: it stands in the list twice
    obtain rfl := hkeeps r rfl
    obtain ⟨hbase, rfl⟩ := addResearchedCaregiver_eq_ok.mp hstart
    obtain ⟨earlier, hlast⟩ := exists_append_of_replayDeclines rfl hreplay hnames
    refine ⟨_, _, addResearchedCaregiver_eq_ok.mpr ⟨hbase, rfl⟩, hreplay, caregivers, rfl, ?_⟩
    dsimp only at hlast ⊢
    rw [hlast]
    exact (caregiverDict_append_twice ..).symm

/-- An accepted plan is valid on facts with the same caregivers, and needs approval on them as before. -/
theorem AcceptedPlan.validate_eq {facts rebuilt : DemoScenario} {caseId : String} {previousPlans : List RecoveryPlan}
    (h : AcceptedPlan facts caseId previousPlans plan) (hsame : SameFacts facts rebuilt) :
    (validate plan rebuilt).valid = true ∧
      (validate plan rebuilt).requiresApproval = !plan.approvalReasons.isEmpty := by
  obtain ⟨proposal, preservedSegments, hvalid, rfl⟩ := h
  rw [validate_congr hsame]
  exact validate_validated hvalid ⟨rfl, rfl⟩ rfl

section AcceptedAfter

variable {decline : Decline} {old : RecoveryPlan} {scenario updated facts : DemoScenario}
  {response : AgentRuntimeResponse}

/-- The answer behind a newly accepted plan is taken up; its request knows the declines and the recorded provider. -/
theorem AcceptedAfter.exists_takenUp
    (h : AcceptedAfter scenarioFactory answers c c' decline old scenario updated facts response plan) :
    ∃ request context, request.replanningContext = some context ∧
      context.recoveryCase.declines = c'.declines ∧
        context.recoveryCase.contextState.researchedBackupCareCandidate =
          c.contextState.researchedBackupCareCandidate ∧
            answers request (.ok response) ∧ TakenUp request response c' := by
  obtain ⟨request, context, hcontext, hcase, hevents, hrecorded, hanswer⟩ := h.answered
  obtain ⟨previousPlans, haccepted⟩ := h.accepted
  refine ⟨request, context, hcontext, RecoveryCase.declines_congr hevents, hrecorded, hanswer, ?_⟩
  refine ⟨context, plan, hcontext, hcase, hevents, h.active, haccepted.validationState_eq, ?_⟩
  rw [hrecorded]
  exact h.researched

/-- After replanning that keeps the provider, the rebuilt facts are those on which the plan was accepted. -/
theorem AcceptedAfter.exists_rebuilt
    (h : AcceptedAfter scenarioFactory answers c c' decline old scenario updated facts response plan)
    (hprovider : KeepsProvider answers c') :
    ∃ rebuilt, scenarioFor scenarioFactory c' = .ok rebuilt ∧ SameFacts facts rebuilt := by
  obtain ⟨request, context, hcontext, hdeclines, hrecorded, hanswer, htaken⟩ := h.exists_takenUp
  obtain ⟨hnames, hkeeps⟩ := hprovider request response hanswer htaken
  have hresearched := h.researched
  have hvalidated := h.validated
  cases hprovider : response.researchedCandidate with
  | none =>
    rw [hprovider] at hresearched hvalidated
    obtain rfl := Except.ok.inj hvalidated
    exact ⟨updated, h.declined.scenarioFor_eq hresearched h.rebuilt h.applied, .refl _⟩
  | some provider =>
    rw [hprovider] at hresearched hvalidated
    obtain ⟨start, hstart, hreplay⟩ := scenarioFor_eq_ok.mp h.rebuilt
    have hreplay : replayDeclines start c'.declines = .ok updated := by
      rw [h.declined.declines, replayDeclines_append_singleton, bind_eq_ok]
      exact ⟨scenario, hreplay, h.applied⟩
    have hnames : ∀ d ∈ c'.declines, d.caregiverId ≠ provider.candidateId := by
      rw [← hdeclines]
      exact hnames context provider hcontext hprovider
    have hkeeps : ∀ r, c.contextState.researchedBackupCareCandidate = some r → r = provider := by
      rw [← hrecorded]
      exact hkeeps context provider hcontext hprovider
    obtain ⟨start', rebuilt, hstart', hrebuilt, hsame⟩ :=
      sameFacts_of_keepsProvider hstart hreplay hvalidated hkeeps hnames
    refine ⟨rebuilt, scenarioFor_eq_ok.mpr ⟨start', ?_, hrebuilt⟩, hsame⟩
    rw [baseScenario_congr _ h.declined.snapshot h.declined.policy, hresearched]
    exact hstart'

end AcceptedAfter

/-! ### Every version replays -/

/-- The facts of a case can be rebuilt, its valid plan is valid on them, and needs approval on them exactly when
there was a reason for it. -/
def ReplaysExactly (scenarioFactory : DemoScenario) (c : RecoveryCase) : Prop :=
  ∃ facts, scenarioFor scenarioFactory c = .ok facts ∧
    ∀ p, c.activeRecoveryPlan = some p → p.validationState = .valid →
      (validate p facts).valid = true ∧ (validate p facts).requiresApproval = !p.approvalReasons.isEmpty

theorem ReplaysExactly.replays (h : ReplaysExactly scenarioFactory c) : Replays scenarioFactory c := by
  obtain ⟨facts, hfacts, hvalid⟩ := h
  exact ⟨facts, hfacts, fun p hp hpv => (hvalid p hp hpv).1⟩

/-- The first version of a case replays: there is nothing to replay yet. -/
theorem ReplaysExactly.of_initial (h : Initial c) : ReplaysExactly scenarioFactory (stored c none) := by
  cases h with
  | noOption command caseId scenario uncovered now h =>
    subst h
    exact ⟨scenario, rfl, fun p hp => by cases hp⟩
  | started h =>
    obtain ⟨command, caseId, scenario, candidate, facts, plan, now, hfacts, haccepted, rfl⟩ := h
    refine ⟨facts, scenarioFor_eq_ok.mpr ⟨facts, hfacts, rfl⟩, fun p hp _ => ?_⟩
    obtain ⟨proposal, preservedSegments, hvalid, rfl⟩ := id haccepted
    obtain rfl := Option.some.inj (hp.symm.trans (congrArg some (materialize_acceptPlan ..)))
    exact haccepted.validate_eq (.refl facts)

/-- **A step keeps a case replayable**, when replanning keeps the provider. -/
theorem ReplaysExactly.step (h : ReplaysExactly scenarioFactory c)
    (hs : CaseStep scenarioFactory answers seen c c') (hprovider : KeepsProvider answers c') :
    ReplaysExactly scenarioFactory c' := by
  rcases hs.work_or_declined with hw | ⟨decline, old, hd⟩
  · obtain ⟨facts, hfacts, hvalid⟩ := h
    refine ⟨facts, hw.kept.scenarioFor_eq.trans hfacts, fun p hp => hvalid p ?_⟩
    rw [← hw.kept.active]
    exact hp
  · cases hd.result with
    | invalid q hactive _ hinvalid _ hcontext =>
      obtain ⟨scenario, updated, hfacts, happly⟩ := hd.facts
      refine ⟨updated, hd.scenarioFor_eq hcontext hfacts happly, fun p hp hvalid => ?_⟩
      obtain rfl := Option.some.inj (hactive.symm.trans hp)
      rw [hinvalid] at hvalid
      cases hvalid
    | replanned hr =>
      obtain ⟨_, _, scenario, updated, facts, response, plan, ha⟩ := hr.acceptedAfter
      obtain ⟨rebuilt, hrebuilt, hsame⟩ := ha.exists_rebuilt hprovider
      obtain ⟨previousPlans, haccepted⟩ := ha.accepted
      refine ⟨rebuilt, hrebuilt, fun p hp _ => ?_⟩
      obtain rfl := Option.some.inj (ha.active.symm.trans hp)
      exact haccepted.validate_eq hsame

theorem replaysExactly_of_history {l : List RecoveryCase} (h : CaseHistory scenarioFactory answers l)
    (hprovider : ∀ c ∈ l, KeepsProvider answers c) : ∀ c ∈ l, ReplaysExactly scenarioFactory c := by
  refine h.forall_mem_of ?_ ?_ hprovider
  · exact fun _ hinit _ => .of_initial hinit
  · intro past c c' _ hold hs hnew
    have hstep : ReplaysExactly scenarioFactory c' := (hold c (List.mem_cons_self ..)).step hs hnew
    exact hstep

/-- Research finds nobody. -/
def FindsNobody (_ : AgentRuntimeRequest) (answer : Except Failure AgentRuntimeResponse) : Prop :=
  ∀ response, answer = .ok response → response.researchedCandidate = none

theorem reaches_takenOver_none : Reaches sittersDay FindsNobody (Config.run takenOver) := by
  refine reaches_takenOver fun _ plan response h => ?_
  obtain rfl := Except.ok.inj h
  rfl

theorem KeepsProvider.findsNoDeclined (h : KeepsProvider answers c) : FindsNoDeclined answers c :=
  fun request response hanswer htaken => (h request response hanswer htaken).1

/-- Where research finds nobody, the provider is kept. -/
theorem keepsProvider_of_findsNobody (c : RecoveryCase) : KeepsProvider FindsNobody c := by
  intro request response hanswer _
  have hnone := hanswer response rfl
  constructor
  · intro context provider _ hprovider
    rw [hnone] at hprovider
    cases hprovider
  · intro context provider _ hprovider
    rw [hnone] at hprovider
    cases hprovider

/-- **Every stored version of a case replays** in every run in which the research for its accepted plans finds the
recorded provider, or the first one, and nobody whom a decline names. -/
theorem replays_of_reaches {cfg : Config String RecoveryCase Failure Answer RecoveryCase} {caseId : String}
    (h : Reaches scenarioFactory answers cfg) (hprovider : ∀ c ∈ versions cfg.saved caseId, KeepsProvider answers c) :
    ∀ c ∈ versions cfg.saved caseId, Replays scenarioFactory c :=
  fun c hc => (replaysExactly_of_history (caseHistory_of_reaches h caseId) hprovider c hc).replays

/-- Research finds nobody when the sitter declines. -/
theorem replays_takenOver :
    (∃ c ∈ versions (Config.run takenOver).saved "case", c.declines ≠ [] ∧ c.status = .resolved) ∧
      ∀ c ∈ versions (Config.run takenOver).saved "case", Replays sittersDay c :=
  ⟨by decide +kernel, replays_of_reaches reaches_takenOver_none fun c _ => keepsProvider_of_findsNobody c⟩

/-- A provider comes from outside and declines; research finds a second one. -/
def secondProvider : Schedule :=
  [.spawn (startRecovery (providersDay []) (providersDay []) nannyIll),
    .steps 0 100 (answering 1 "case" (allDayBy "hana") (some (provider "hana"))),
    .spawn (processEvent (providersDay []) "case" (declineCommand "hana" (minutes 0 120))),
    .steps 1 100 (answering 2 "event" (allDayBy "wim") (some (provider "wim")))]

/-- The case with the second provider cannot be replayed: the facts have no caregiver to take the decline from. -/
theorem secondProvider_breaks :
    ∃ cfg, Reaches (providersDay []) (fun _ _ => True) cfg ∧ ∃ c ∈ cfg.saved, ¬ Replays (providersDay []) c := by
  refine ⟨Config.run secondProvider, ?_, ?_⟩
  · exact reaches_two (.start ..) (env_answering fun _ => trivial) (.event ..) (env_answering fun _ => trivial)
  · have hraises : ∃ c ∈ (Config.run secondProvider).saved,
        (scenarioFor (providersDay []) c).isOk = false := by decide +kernel
    obtain ⟨c, hc, hraises⟩ := hraises
    refine ⟨c, hc, ?_⟩
    rintro ⟨facts, hfacts, -⟩
    rw [hfacts] at hraises
    cases hraises

end DayMend.Runs
