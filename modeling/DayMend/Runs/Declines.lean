import DayMend.Runs.Replay
import DayMend.Validation.Eligibility

/-!
# Declined windows

A caregiver who has declined a window should not be used in it again
(`DeclinedWindowsUnused`). A decline is recorded in the case and taken out of the
caregiver's availability, but not out of the backup inventory: research may find a
declined provider again, who then joins the day as if nothing had been declined
(`declinedProvider_reused`). `declinedWindowsUnused_of_reaches` says that this is the
only way: when the research for the accepted plans of a case finds nobody whom a decline
names, no valid plan of the case uses a declined window.
-/

namespace DayMend.Runs

open DayMend.Base DayMend.Models DayMend.Fixtures DayMend.Services DayMend.Agent DayMend.Application
open DayMend.Validation

variable {scenarioFactory : DemoScenario}
  {answers : AgentRuntimeRequest → Except Failure AgentRuntimeResponse → Prop} {seen : Set RecoveryCase}
  {c c' : RecoveryCase} {plan : RecoveryPlan} {facts : DemoScenario} {decline : Decline}

/-- A segment is assigned to the caregiver `id`, or driven by the caregiver `id`: by somebody of whom the family's
facts do not know a parent's driving capability. -/
def UsesCaregiver (scenario : DemoScenario) (segment : RecoveryPlanSegment) (id : String) : Prop :=
  (segment.source = .caregiver ∧ segment.assignedPersonId = id) ∨
    (Drives segment id ∧ (parentTransport scenario.parentTransportCapabilities).get? id = none)

/-- The valid plan of a case uses no caregiver in a window that the caregiver has declined. -/
def DeclinedWindowsUnused (scenarioFactory : DemoScenario) (c : RecoveryCase) : Prop :=
  ∀ p, c.activeRecoveryPlan = some p → p.validationState = .valid → ∀ decline ∈ c.declines,
    ∀ s ∈ p.coverageSegments, UsesCaregiver (baseScenario scenarioFactory c) s decline.caregiverId →
      ¬ s.window.Overlaps decline.window

/-! ### Plans on facts that avoid a decline -/

/-- **A plan accepted on facts that avoid a decline** does not use its window. -/
theorem not_overlaps_of_accepted (hplan : Accepted plan facts) (h : Avoids facts decline) {s : RecoveryPlanSegment}
    (hs : s ∈ plan.coverageSegments) (huses : UsesCaregiver facts s decline.caregiverId) :
    ¬ s.window.Overlaps decline.window := by
  rcases huses with ⟨hsource, hid⟩ | ⟨⟨htype, hid⟩, hnone⟩
  · obtain ⟨caregiver, hk, heligible⟩ := hplan.eligible_of_assigned hs hsource
    rw [hid] at hk
    exact h.not_overlaps_of_isCovered hk heligible.available
  · have hdriver := ((hplan.locations s hs).trip htype).transporter
    rw [hid] at hdriver
    cases hk : (caregiverDict facts.caregivers).get? decline.caregiverId with
    | some caregiver => exact h.not_overlaps_of_isCovered hk (hdriver.isCovered hnone hk)
    | none =>
      -- a driver without any record is not available
      have havailable := hdriver.available
      rw [hnone, hk] at havailable
      obtain ⟨w, hw, -⟩ := havailable
      cases hw

/-! ### Every version -/

/-- The valid plan of a case was accepted on facts that avoid all its declines, and differ from the base facts in
the caregivers only. -/
def AcceptedAvoiding (scenarioFactory : DemoScenario) (c : RecoveryCase) : Prop :=
  ∀ p, c.activeRecoveryPlan = some p → p.validationState = .valid →
    ∃ caregivers, Accepted p { baseScenario scenarioFactory c with caregivers } ∧
      ∀ decline ∈ c.declines, Avoids { baseScenario scenarioFactory c with caregivers } decline

theorem AcceptedAvoiding.unused (h : AcceptedAvoiding scenarioFactory c) : DeclinedWindowsUnused scenarioFactory c := by
  intro p hp hvalid decline hd s hs huses
  obtain ⟨caregivers, haccepted, havoids⟩ := h p hp hvalid
  exact not_overlaps_of_accepted haccepted (havoids decline hd) hs huses

theorem AcceptedPlan.accepted {caseId : String} {previousPlans : List RecoveryPlan}
    (h : AcceptedPlan facts caseId previousPlans plan) : Accepted plan facts :=
  accepted_of_valid (h.validate_eq (.refl facts)).1

theorem exists_caregivers_of_scenarioFor (h : scenarioFor scenarioFactory c = .ok facts) :
    ∃ caregivers, facts = { baseScenario scenarioFactory c with caregivers } := by
  obtain ⟨start, hstart, hreplay⟩ := scenarioFor_eq_ok.mp h
  obtain ⟨first, rfl⟩ := exists_caregivers_of_validationScenario hstart
  obtain ⟨caregivers, rfl⟩ := exists_caregivers_of_replayDeclines hreplay
  exact ⟨caregivers, rfl⟩

/-- A plan accepted after a decline, when research finds nobody whom a decline names. -/
theorem AcceptedAfter.avoiding {old : RecoveryPlan} {scenario updated : DemoScenario} {response : AgentRuntimeResponse}
    (h : AcceptedAfter scenarioFactory answers c c' decline old scenario updated facts response plan)
    (hfinds : FindsNoDeclined answers c') :
    ∃ caregivers, Accepted plan { baseScenario scenarioFactory c' with caregivers } ∧
      ∀ d ∈ c'.declines, Avoids { baseScenario scenarioFactory c' with caregivers } d := by
  obtain ⟨request, context, hcontext, hdeclines, -, hanswer, htaken⟩ := h.exists_takenUp
  obtain ⟨previousPlans, haccepted⟩ := h.accepted
  obtain ⟨first, rfl⟩ := exists_caregivers_of_scenarioFor h.rebuilt
  obtain ⟨-, rfl⟩ := applyCaregiverDeclineToScenario_eq_ok.mp h.applied
  obtain ⟨caregivers, hcaregivers⟩ := exists_caregivers_of_validationScenario h.validated
  have hbase := baseScenario_congr scenarioFactory h.declined.snapshot h.declined.policy
  have hfacts : facts = { baseScenario scenarioFactory c' with caregivers } := by rw [hcaregivers, hbase]
  refine ⟨caregivers, hfacts ▸ haccepted.accepted, fun d hd => ?_⟩
  rw [← hfacts]
  have hne : ∀ k, response.researchedCandidate = some k → d.caregiverId ≠ k.candidateId := by
    intro k hk
    refine hfinds request response hanswer htaken context k hcontext hk d ?_
    rw [hdeclines]
    exact hd
  refine Avoids.validationScenario ?_ h.validated hne
  rw [h.declined.declines] at hd
  rcases List.mem_append.mp hd with hd | hd
  · obtain ⟨start, -, hreplay⟩ := scenarioFor_eq_ok.mp h.rebuilt
    exact ((avoids_of_replayDeclines hreplay).2 d hd).apply h.applied
  · rw [List.mem_singleton.mp hd]
    exact avoids_of_apply h.applied

/-- The first version of a case has no declines. -/
theorem AcceptedAvoiding.of_initial (h : Initial c) : AcceptedAvoiding scenarioFactory (stored c none) := by
  intro p hp _
  have hdeclines : (stored c none).declines = [] := h.nothing_yet.2.2.2
  cases h with
  | noOption command caseId scenario uncovered now h =>
    subst h
    cases hp
  | started h =>
    obtain ⟨command, caseId, scenario, candidate, facts, plan, now, hfacts, haccepted, rfl⟩ := h
    obtain ⟨caregivers, rfl⟩ := exists_caregivers_of_validationScenario hfacts
    refine ⟨caregivers, ?_, by simp [hdeclines]⟩
    obtain ⟨proposal, preservedSegments, hvalid, rfl⟩ := id haccepted
    obtain rfl := Option.some.inj (hp.symm.trans (congrArg some (materialize_acceptPlan ..)))
    exact haccepted.accepted

/-- **A step keeps declined windows unused**, when research finds nobody whom a decline names. -/
theorem AcceptedAvoiding.step (h : AcceptedAvoiding scenarioFactory c)
    (hs : CaseStep scenarioFactory answers seen c c') (hfinds : FindsNoDeclined answers c') :
    AcceptedAvoiding scenarioFactory c' := by
  intro p hp hvalid
  rcases hs.work_or_declined with hw | ⟨decline, old, hd⟩
  · rw [baseScenario_congr _ (congrArg _ hw.kept.context) hw.kept.policy, hw.kept.declines]
    exact h p (hw.kept.active ▸ hp) hvalid
  · cases hd.result with
    | invalid q hactive _ hinvalid _ _ =>
      obtain rfl := Option.some.inj (hactive.symm.trans hp)
      rw [hinvalid] at hvalid
      cases hvalid
    | replanned hr =>
      obtain ⟨_, _, scenario, updated, facts, response, plan, ha⟩ := hr.acceptedAfter
      obtain rfl := Option.some.inj (ha.active.symm.trans hp)
      exact ha.avoiding hfinds

theorem acceptedAvoiding_of_history {l : List RecoveryCase} (h : CaseHistory scenarioFactory answers l)
    (hfinds : ∀ c ∈ l, FindsNoDeclined answers c) : ∀ c ∈ l, AcceptedAvoiding scenarioFactory c := by
  refine h.forall_mem_of ?_ ?_ hfinds
  · exact fun _ hinit _ => .of_initial hinit
  · intro past c c' _ hold hs hnew
    have hstep : AcceptedAvoiding scenarioFactory c' := (hold c (List.mem_cons_self ..)).step hs hnew
    exact hstep

/-- **No declined window of a case is used again** in every run in which the research for its accepted plans finds
nobody whom a decline names. -/
theorem declinedWindowsUnused_of_reaches {cfg : Config String RecoveryCase Failure Answer RecoveryCase}
    {caseId : String} (h : Reaches scenarioFactory answers cfg)
    (hfinds : ∀ c ∈ versions cfg.saved caseId, FindsNoDeclined answers c) :
    ∀ c ∈ versions cfg.saved caseId, DeclinedWindowsUnused scenarioFactory c :=
  fun c hc => (acceptedAvoiding_of_history (caseHistory_of_reaches h caseId) hfinds c hc).unused

/-- Research finds nobody when the sitter declines. -/
theorem declinedWindowsUnused_takenOver :
    (∃ c ∈ versions (Config.run takenOver).saved "case", c.declines ≠ [] ∧ c.status = .resolved) ∧
      ∀ c ∈ versions (Config.run takenOver).saved "case", DeclinedWindowsUnused sittersDay c :=
  ⟨by decide +kernel, declinedWindowsUnused_of_reaches reaches_takenOver_none fun c _ =>
    (keepsProvider_of_findsNobody c).findsNoDeclined⟩

/-- A provider comes from outside and declines; research finds the same provider again. -/
def declinedProvider : Schedule :=
  [.spawn (startRecovery (providersDay []) (providersDay []) nannyIll),
    .steps 0 100 (answering 1 "case" (allDayBy "hana") (some (provider "hana"))),
    .spawn (processEvent (providersDay []) "case" (declineCommand "hana" (minutes 0 120))),
    .steps 1 100 (answering 2 "event" (allDayBy "hana") (some (provider "hana")))]

/-- The case ends with a valid plan in which the provider comes in the declined window. -/
theorem declinedProvider_reused :
    ∃ cfg, Reaches (providersDay []) (fun _ _ => True) cfg ∧
      ∃ c ∈ cfg.saved, ¬ DeclinedWindowsUnused (providersDay []) c := by
  refine ⟨Config.run declinedProvider, ?_, ?_⟩
  · exact reaches_two (.start ..) (env_answering fun _ => trivial) (.event ..) (env_answering fun _ => trivial)
  · have hreused : ∃ c ∈ (Config.run declinedProvider).saved, ∃ p ∈ c.activeRecoveryPlan,
        p.validationState = .valid ∧ ∃ decline ∈ c.declines, ∃ s ∈ p.coverageSegments,
          (s.source = .caregiver ∧ s.assignedPersonId = decline.caregiverId) ∧
            s.window.Overlaps decline.window := by decide +kernel
    obtain ⟨c, hc, p, hp, hvalid, decline, hd, s, hs, huses, ho⟩ := hreused
    exact ⟨c, hc, fun h => h p hp hvalid decline hd s hs (Or.inl huses) ho⟩

end DayMend.Runs
