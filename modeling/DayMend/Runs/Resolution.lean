import DayMend.Runs.Actions
import DayMend.Runs.Quiet

/-!
# Resolved cases

A case is resolved by a save of its own, after a verification that reads the case once
more. So what the verifier checks of the case holds of the version that is saved:
nothing is pending, every required action has succeeded, no segment relies on an
invalidated assumption; and a plan that needs approval has it, because nothing was
executed for it before (`finished_of_history`).

The facts, however, are those rebuilt before execution. Another request may record a
decline in between; then the plan is checked against facts that are no longer the
case's (`staleFacts_resolve`). It does no harm as long as the stored case replays, and
it cannot come about in a quiet run; `resolvedOk_of_reaches` rests on the one or the
other.
-/

namespace DayMend.Runs

open DayMend.Base DayMend.Models DayMend.Fixtures DayMend.Services DayMend.Agent DayMend.Application
open DayMend.Validation

variable {scenarioFactory : DemoScenario}
  {answers : AgentRuntimeRequest → Except Failure AgentRuntimeResponse → Prop} {seen : Set RecoveryCase}
  {c c' : RecoveryCase} {past : List RecoveryCase} {plan : RecoveryPlan}

/-! ### Resolution -/

/-- A caregiver segment rests on what is assumed about its person in an overlapping window. -/
def RestsOn (segment : RecoveryPlanSegment) (assumption : PlanAssumption) : Prop :=
  segment.source = .caregiver ∧ segment.assignedPersonId = assumption.subjectId ∧
    ∃ w ∈ assumption.relevantWindow, segment.window.Overlaps w

/-- What holds of a resolved case and its plan, whatever the facts. -/
structure Finished (c : RecoveryCase) (p : RecoveryPlan) : Prop where
  active : c.activeRecoveryPlan = some p
  valid : p.validationState = .valid
  not_pending : c.pendingApproval = none
  approved : p.approvalReasons ≠ [] → ApprovedFor c.approvalHistory p.planId
  done : ∀ now, ∀ expected ∈ requiredExecutionActions p now,
    ∃ a ∈ c.executionHistory, a.actionId = expected.actionId ∧ a.status = .succeeded
  relies : ∀ assumption ∈ c.assumptions, ∀ segment ∈ p.coverageSegments, RestsOn segment assumption →
    assumption.status = .active

/-- Every required action of a completable case has a succeeded record. -/
theorem exists_succeeded_of_completable {scenario : DemoScenario} {now : Instant} (h : Completable c plan scenario now)
    (later : Instant) : ∀ expected ∈ requiredExecutionActions plan later,
      ∃ a ∈ c.executionHistory, a.actionId = expected.actionId ∧ a.status = .succeeded := by
  intro expected hexpected
  obtain ⟨same, hsame, hid⟩ := exists_required_of_now hexpected now
  obtain ⟨a, ha⟩ := h.done same hsame
  obtain ⟨hmem, haid, hstatus⟩ := mem_of_succeededRecord ha
  exact ⟨a, hmem, haid.trans hid, hstatus⟩

/-- A valid plan that needs approval has a caregiver segment: nothing else costs, and nobody else is unfamiliar. -/
theorem exists_caregiver_of_reasons (h : CaseHistory scenarioFactory answers (c :: past))
    (hplan : c.activeRecoveryPlan = some plan) (hvalid : plan.validationState = .valid)
    (hreasons : plan.approvalReasons ≠ []) : ∃ s ∈ plan.coverageSegments, s.source = .caregiver := by
  obtain ⟨d, -, hfresh, hd⟩ := exists_fresh_of_valid h hplan hvalid
  obtain ⟨p, facts, previousPlans, hp, haccepted⟩ := hfresh.exists_acceptedPlan
  obtain rfl := Option.some.inj (hp.symm.trans hd)
  obtain ⟨-, hrequires⟩ := haccepted.validate_eq (.refl facts)
  have hneeds : (validate p facts).requiresApproval = true := by
    rw [hrequires]
    simpa using hreasons
  exact exists_caregiver_of_requiresApproval hneeds

/-- **A completable case is finished**, apart from its status. -/
theorem finished_of_completable {scenario : DemoScenario} {now : Instant}
    (h : CaseHistory scenarioFactory answers (c :: past)) (hplan : c.activeRecoveryPlan = some plan)
    (hc : Completable c plan scenario now) : Finished c plan := by
  have hmem : c ∈ c :: past := List.mem_cons_self ..
  have hvalid : plan.validationState = .valid := by
    refine validUnlessIdle_of_history h c hmem ?_ plan hplan
    rintro (hidle | hidle) <;> simp [hc.executing] at hidle
  refine ⟨hplan, hvalid, hc.not_pending, fun hreasons => ?_, exists_succeeded_of_completable hc,
    fun assumption ha segment hs hrests => ?_⟩
  · -- the reservation of a caregiver has been carried out, which needed the approval
    obtain ⟨s, hs, hsource⟩ := exists_caregiver_of_reasons h hplan hvalid hreasons
    have hrequired : caregiverAction plan now s ∈ requiredExecutionActions plan now :=
      List.mem_append_right _ (List.mem_map_of_mem (List.mem_filter.mpr ⟨hs, decide_eq_true hsource⟩))
    obtain ⟨a, ha, hid, -⟩ := exists_succeeded_of_completable hc now _ hrequired
    have hactions := actionsOk_of_history h c hmem
    obtain ⟨n, hn⟩ := planNamed_of_history h c hmem plan hplan
    have hplanId : a.planId = plan.planId := (hactions.named a ha).planId_eq (actionNamed_of_required hn hrequired) hid
    exact (hactions.approved plan hplan hvalid a ha hplanId).resolve_left hreasons
  · cases hstatus : assumption.status with
    | active => rfl
    | invalidated => exact absurd ⟨hstatus, hrests⟩ (hc.relies assumption ha segment hs)

/-- Only the verifier resolves a case. -/
theorem CaseStep.resolved (h : CaseStep scenarioFactory answers seen c c') (hstatus : c'.status = .resolved) :
    ∃ p scenario now, c.activeRecoveryPlan = some p ∧ Completable c p scenario now ∧
      c' = resolvedCase c p.planId now := by
  rcases h.work_or_declined with hw | ⟨decline, old, hd⟩
  · cases hw with
    | gateExecuting now _ _ _ => cases hstatus
    | gateApproval now _ _ _ _ _ => cases hstatus
    | decide decision now reason _ _ => cases decision <;> cases hstatus
    | execute now _ _ =>
      rw [executedCase] at hstatus
      dsimp only at hstatus
      split at hstatus <;> cases hstatus
    | @resolve c₀ scenario p now _ _ hplan herrors =>
      exact ⟨p, scenario, now, hplan, completionErrors_eq_nil.mp herrors, rfl⟩
  · cases hd.result with
    | invalid q _ _ _ hidle _ => rcases hidle with hs | hs <;> simp [hs] at hstatus
    | replanned hr => simp [hr.status_eq] at hstatus

/-- **A resolved case is finished**, whatever the runtime answers and in whatever order requests take turns. -/
theorem finished_of_history {l : List RecoveryCase} (h : CaseHistory scenarioFactory answers l) :
    ∀ c ∈ l, c.status = .resolved → ∃ p, Finished c p := by
  refine h.forall_mem (fun c hinit hstatus => ?_) fun past c c' hist _ hs hstatus => ?_
  · cases hinit with
    | noOption command caseId scenario uncovered now h =>
      subst h
      cases hstatus
    | started h =>
      obtain ⟨_, _, _, _, _, _, _, _, _, rfl⟩ := h
      cases hstatus
  · obtain ⟨p, scenario, now, hplan, hc, rfl⟩ := hs.resolved hstatus
    obtain ⟨hactive, hvalid, hpending, happroved, hdone, hrelies⟩ := finished_of_completable hist hplan hc
    exact ⟨p, hactive, hvalid, hpending, happroved, hdone, hrelies⟩

/-- What a resolved case with the plan `p` should satisfy, the facts rebuilt from it being `facts`. -/
structure ResolvedOk (scenarioFactory : DemoScenario) (c : RecoveryCase) (p : RecoveryPlan) (facts : DemoScenario) :
    Prop extends Finished c p where
  rebuilt : scenarioFor scenarioFactory c = .ok facts
  accepted : (validate p facts).valid = true
  required_approval : (validate p facts).requiresApproval = true → ApprovedFor c.approvalHistory p.planId

/-- On its own facts, a finished case is resolved rightly. -/
theorem Finished.resolvedOk {p : RecoveryPlan} (h : Finished c p) (hown : OwnFacts scenarioFactory c) :
    ∃ facts, ResolvedOk scenarioFactory c p facts := by
  obtain ⟨q, facts, hq, hfacts, haccepted, happroved⟩ := hown
  obtain rfl := Option.some.inj (hq.symm.trans h.active)
  exact ⟨facts, h, hfacts, haccepted, happroved⟩

/-- A finished case that replays has its own facts. -/
theorem Finished.ownFacts {p : RecoveryPlan} (h : Finished c p) (hreplays : ReplaysExactly scenarioFactory c) :
    OwnFacts scenarioFactory c := by
  obtain ⟨facts, hfacts, hvalid⟩ := hreplays
  obtain ⟨haccepted, hrequires⟩ := hvalid p h.active h.valid
  refine ⟨p, facts, h.active, hfacts, haccepted, fun hrequired => h.approved ?_⟩
  simpa [hrequires] using hrequired

/-- **Resolution is sound** in every run in which the research for the accepted plans of the case finds the recorded
provider, or the first one, and nobody whom a decline names; and in every run that is quiet for the case. -/
theorem resolvedOk_of_reaches {cfg : Config String RecoveryCase Failure Answer RecoveryCase} {caseId : String}
    (h : (Reaches scenarioFactory answers cfg ∧ ∀ c ∈ versions cfg.saved caseId, KeepsProvider answers c) ∨
      ReachesQuietly scenarioFactory answers caseId cfg) :
    ∀ c ∈ versions cfg.saved caseId, c.status = .resolved → ∃ p facts, ResolvedOk scenarioFactory c p facts := by
  intro c hc hstatus
  rcases h with ⟨hreaches, hprovider⟩ | hquiet
  · have hist := caseHistory_of_reaches hreaches caseId
    obtain ⟨p, hp⟩ := finished_of_history hist c hc hstatus
    exact ⟨p, hp.resolvedOk (hp.ownFacts (replaysExactly_of_history hist hprovider c hc))⟩
  · have hist := caseHistory_of_reaches hquiet.reachable caseId
    obtain ⟨p, hp⟩ := finished_of_history hist c hc hstatus
    exact ⟨p, hp.resolvedOk (ownFacts_of_reachesQuietly hquiet c hc hstatus)⟩

theorem resolvedOk_instances :
    ((∃ c ∈ versions (Config.run takenOver).saved "case", c.status = .resolved) ∧
        ∀ c ∈ versions (Config.run takenOver).saved "case", c.status = .resolved →
          ∃ p facts, ResolvedOk sittersDay c p facts) ∧
      (∃ c ∈ versions (Config.run secondProvider).saved "case", c.status = .resolved) ∧
        ∀ c ∈ versions (Config.run secondProvider).saved "case", c.status = .resolved →
          ∃ p facts, ResolvedOk (providersDay []) c p facts := by
  refine ⟨⟨by decide +kernel, ?_⟩, by decide +kernel, ?_⟩
  · exact resolvedOk_of_reaches (Or.inl ⟨reaches_takenOver_none, fun c _ => keepsProvider_of_findsNobody c⟩)
  · exact resolvedOk_of_reaches (Or.inr reachesQuietly_secondProvider)

/-! ### Facts that are no longer those of the case -/

/-- A sitter who needs ten minutes for a handoff. -/
def slowSitter : Caregiver := { sitter "kim" [minutes 0 120] with handoffBufferMinutes := 10 }

/-- The sitter comes first, then a provider. -/
def sitterFirst : RecoveryPlan :=
  { planId := "proposal"
    coverageSegments := [care "s1" "kim" .caregiver (minutes 0 60), care "s2" "hana" .caregiver (minutes 60 120)] }

/-- The provider stays until the sitter is ready. -/
def sitterAllDay : RecoveryPlan :=
  { planId := "proposal"
    coverageSegments := [care "s1" "hana" .caregiver (minutes 0 10), care "s2" "kim" .caregiver (minutes 0 120)] }

/-- A start has rebuilt the facts when the provider declines. The request with the decline finds the provider again,
and its plan is executed; then the start goes on to verify. -/
def staleFacts : Schedule :=
  [.spawn (startRecovery (providersDay [slowSitter]) (providersDay [slowSitter]) nannyIll),
    .steps 0 12 (answering 1 "case" sitterFirst (some (provider "hana"))),
    .spawn (processEvent (providersDay [slowSitter]) "case" (declineCommand "hana" (minutes 0 120))),
    .steps 1 100 (answering 2 "event" sitterAllDay (some (provider "hana"))),
    .steps 0 100 (answering 3 "" sitterAllDay none)]

theorem reaches_staleFacts : Reaches (providersDay [slowSitter]) (fun _ _ => True) (Config.run staleFacts) := by
  apply reachable_run
  intro t ht
  simp only [staleFacts, List.mem_cons, List.not_mem_nil, or_false] at ht
  rcases ht with rfl | rfl | rfl | rfl | rfl
  · exact .start ..
  · exact env_answering fun _ => trivial
  · exact .event ..
  · exact env_answering fun _ => trivial
  · exact env_answering fun _ => trivial

/-- The case is resolved, though by its own facts the provider of its plan has declined. -/
theorem staleFacts_resolve :
    ∃ cfg, Reaches (providersDay [slowSitter]) (fun _ _ => True) cfg ∧
      ∃ c ∈ cfg.saved, c.status = .resolved ∧ ¬ ∃ p facts, ResolvedOk (providersDay [slowSitter]) c p facts := by
  refine ⟨_, reaches_staleFacts, ?_⟩
  have hrejected : ∃ c ∈ (Config.run staleFacts).saved, c.status = .resolved ∧
      ∃ p ∈ c.activeRecoveryPlan, ∃ facts ∈ (scenarioFor (providersDay [slowSitter]) c).toOption,
        (validate p facts).valid = false := by decide +kernel
  obtain ⟨c, hc, hstatus, p, hp, facts, hfacts, hinvalid⟩ := hrejected
  refine ⟨c, hc, hstatus, ?_⟩
  rintro ⟨q, rebuilt, hok⟩
  rw [hok.rebuilt] at hfacts
  obtain rfl := Option.some.inj hfacts
  obtain rfl := Option.some.inj (hok.active.symm.trans hp)
  rw [hok.accepted] at hinvalid
  cases hinvalid

end DayMend.Runs
