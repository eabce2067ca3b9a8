import DayMend.Base.Creates
import DayMend.Runs.Grounding
import DayMend.Runs.PlanningAgents
import DayMend.Runs.Replay
import DayMend.Validation.Worlds

/-!
# External care is grounded in every deployment

A runtime of which nothing is known may name any provider, and the gateway plans with the
provider. The repository's own agents name only whom the search has found. So in every run
of a deployment each case's provider is in the inventory of the day on which the case was
started, and eligible by that day's policy; its plans assign only the family's caregivers
and such providers (`groundedCase_of_deployed`); and the facts that are rebuilt from a case
are one of the worlds that the day can get into (`world_of_deployed`).
-/

namespace DayMend.Runs

open DayMend.Base DayMend.Models DayMend.Fixtures DayMend.Services DayMend.Agent DayMend.Application
open DayMend.Validation

variable {scenarioFactory scenario facts : DemoScenario}
  {answers : AgentRuntimeRequest → Except Failure AgentRuntimeResponse → Prop} {P : RecoveryCase → Prop}
  {days : DemoScenario → Prop} {c c' : RecoveryCase} {caseId : String}

/-! ### What the services create -/

section Creates

variable {asked : (q : Query) → Answer q → Prop}

theorem creates_getCase : (getCase caseId).Creates asked P := by
  rintro (_ | c)
  · trivial
  · trivial

theorem creates_saveCase_bind {α : Type} {expected : Option ℕ} {f : RecoveryCase → Service α}
    (h : expected = none → P c) (hf : (f (stored c expected)).Creates asked P) :
    (saveCase c expected >>= f).Creates asked P := ⟨h, hf, trivial⟩

theorem onlyAsks_nowAfter {notBefore : Instant} : (nowAfter notBefore).OnlyAsks := fun _ => trivial

theorem onlyAsks_runActions {planId : String} {existing : Dict String ExecutionAction} {now : Instant}
    {required : List ExecutionAction} {progress : ExecutionProgress} :
    (runActions planId existing now required progress).OnlyAsks := by
  induction required generalizing progress with
  | nil => trivial
  | cons action rest ih =>
    rw [runActions]
    split
    · exact ih
    · exact fun _ => ih

theorem creates_execute {now : Instant} : (execute caseId now).Creates asked P := by
  refine creates_getCase.bind fun c => (Prog.Creates.ofExcept _).bind fun plan => .ite trivial ?_
  refine (Prog.Creates.of_onlyAsks onlyAsks_runActions).bind fun progress => ?_
  exact creates_saveCase_bind (by rintro ⟨⟩) trivial

theorem creates_verifyAndResolve {now : Instant} : (verifyAndResolve caseId scenario now).Creates asked P := by
  refine creates_getCase.bind fun c => ?_
  split
  · trivial
  · exact .ite trivial (creates_saveCase_bind (by rintro ⟨⟩) trivial)

theorem creates_executeAndComplete : (executeAndComplete scenarioFactory caseId).Creates asked P := by
  refine creates_getCase.bind fun c => ?_
  refine (Prog.Creates.ofExcept _).bind fun _ => (Prog.Creates.ofExcept _).bind fun _ => ?_
  refine (Prog.Creates.of_onlyAsks onlyAsks_nowAfter).bind fun now => creates_execute.bind fun execution => ?_
  refine .ite trivial ((Prog.Creates.of_onlyAsks onlyAsks_nowAfter).bind fun later => ?_)
  exact creates_verifyAndResolve.bind fun _ => trivial

/-- The gate saves a case that has been saved before. -/
theorem creates_applyAutonomyGate {validation : PlanValidationResult} {policy : FamilyPolicy} {now : Instant}
    (hversion : 0 < c.version) : (applyAutonomyGate c validation policy now).Creates asked P := by
  have hsave : ∀ {α : Type} {next : RecoveryCase} {f : RecoveryCase → Service α}, (∀ saved, (f saved).Creates asked P) →
      (savePrevious next c.version >>= f).Creates asked P := by
    intro α next f hf
    rw [savePrevious, if_pos hversion]
    exact creates_saveCase_bind (by rintro ⟨⟩) (hf _)
  unfold applyAutonomyGate
  split
  · refine .ite trivial (.ite trivial (.ite (hsave fun _ => trivial) ?_))
    split
    · trivial
    · exact (Prog.Creates.of_onlyAsks (p := newId) fun _ => trivial).bind fun _ => hsave fun _ => trivial
  · trivial

theorem creates_decideApproval {approvalId : String} {command : ApprovalCommand} :
    (decideApproval scenarioFactory caseId approvalId command).Creates asked P := by
  refine creates_getCase.bind fun c => (Prog.Creates.ofExcept _).bind fun _ => ?_
  refine (Prog.Creates.of_onlyAsks onlyAsks_nowAfter).bind fun now => Prog.Creates.bind ?_ fun result => ?_
  · refine creates_getCase.bind fun c => ?_
    dsimp only
    split
    · trivial
    · exact .ite trivial ((Prog.Creates.ofExcept _).bind fun _ => creates_saveCase_bind (by rintro ⟨⟩) trivial)
  · exact .ite trivial (.ite trivial creates_executeAndComplete)

theorem onlyAsks_repairLoop {validated : DemoScenario} {recoveryCaseId : Option String}
    {preserved : List RecoveryPlanSegment} {candidate : Option BackupCareCandidate} {remaining : ℕ}
    {earlier : List PlanningAttempt} {plan : RecoveryPlan} :
    (repairLoop scenario validated recoveryCaseId preserved candidate remaining earlier plan).OnlyAsks := by
  induction remaining generalizing earlier plan with
  | zero => trivial
  | succ remaining ih =>
    rw [repairLoop]
    exact .ite trivial (Prog.OnlyAsks.bind (fun answer => .ofExcept answer) fun _ => ih)

end Creates

/-! ### Cases whose provider the search admits -/

theorem FoundFor.admitted {need : Except Failure RecoveryNeed} {provider : BackupCareCandidate}
    (h : FoundFor scenario need provider) : Admitted scenario provider := by
  obtain ⟨recoveryNeed, -, -, hmem⟩ := h
  exact ⟨recoveryNeed.requestedWindows, hmem⟩

/-- The case was started on one of the days, and its provider is admitted on that day. -/
def StartedOn (days : DemoScenario → Prop) (c : RecoveryCase) : Prop :=
  ∃ day, days day ∧ c.contextState.scenarioSnapshot = some day ∧
    ∀ provider, c.contextState.researchedBackupCareCandidate = some provider → Admitted day provider

/-- Initial planning comes back with a provider who is admitted. -/
theorem admitted_of_planInitial {disruption : String} {planning : InitialPlanningResult}
    (h : (planInitial disruption scenario).Outcome (env groundedAnswers) (.ok planning)) :
    ∀ provider, planning.researchedCandidate = some provider → Admitted scenario provider := by
  obtain ⟨response, hresponse, h⟩ := outcome_bind_ok.mp h
  obtain ⟨facts, -, h⟩ := outcome_bind_ok.mp h
  obtain ⟨attempts, -, h⟩ := outcome_bind_ok.mp h
  obtain rfl := outcome_ret_ok.mp h
  exact fun provider hprovider => FoundFor.admitted (outcome_invoke.mp hresponse provider hprovider)

theorem onlyAsks_planInitial {disruption : String} : (planInitial disruption scenario).OnlyAsks :=
  Prog.OnlyAsks.bind (fun answer => .ofExcept answer) fun _ => (Prog.OnlyAsks.ofExcept _).bind fun _ =>
    onlyAsks_repairLoop.bind fun _ => trivial

theorem onlyAsks_replan {event : RecoveryEvent} : (replan c event scenario).OnlyAsks :=
  (Prog.OnlyAsks.ofExcept _).bind fun _ => Prog.OnlyAsks.bind (fun answer => .ofExcept answer) fun _ =>
    (Prog.OnlyAsks.ofExcept _).bind fun _ => onlyAsks_repairLoop.bind fun _ => trivial

theorem creates_finishStarting {command : StartRecoveryCommand} {planning : InitialPlanningResult}
    (hday : days scenario)
    (h : ∀ provider, planning.researchedCandidate = some provider → Admitted scenario provider) :
    (finishStarting scenarioFactory scenario command caseId planning).Creates (env groundedAnswers)
      (StartedOn days) := by
  rw [finishStarting]
  split
  next finalPlan _ =>
    refine (Prog.Creates.of_onlyAsks (p := clock) fun _ => trivial).bind fun now => ?_
    refine (Prog.Creates.ofExcept _).bind fun created => creates_saveCase_bind (fun _ => ⟨scenario, hday, rfl, h⟩) ?_
    refine .ite trivial ((Prog.Creates.of_onlyAsks onlyAsks_nowAfter).bind fun later => ?_)
    refine (creates_applyAutonomyGate (Nat.succ_pos _)).bind fun gate => .ite trivial creates_executeAndComplete
  next => trivial

-- whether known options suffice is not computed here
attribute [local irreducible] assessKnownOptionRecoveryNeed noInitialOption noRecoveryOption

theorem creates_startRecovery {command : StartRecoveryCommand} (hday : days scenario) :
    (startRecovery scenarioFactory scenario command).Creates (env groundedAnswers) (StartedOn days) := by
  rw [startRecovery_eq]
  refine (Prog.Creates.of_onlyAsks (p := newId) fun _ => trivial).bind fun caseId => ?_
  refine (Prog.Creates.ofExcept _).bind fun need => (Prog.Creates.ofExcept _).bind fun stop => .ite ?_ ?_
  · refine (Prog.Creates.of_onlyAsks (p := clock) fun _ => trivial).bind fun now => ?_
    exact ⟨fun _ => ⟨scenario, hday, rfl, by rintro _ ⟨⟩⟩, trivial, trivial⟩
  · exact Prog.Creates.bind_of_onlyAsks onlyAsks_planInitial fun planning hplanning =>
      creates_finishStarting hday (admitted_of_planInitial hplanning)

theorem creates_stopOrReplan {event : RecoveryEvent} :
    (stopOrReplan c event scenario).Creates (env groundedAnswers) (StartedOn days) := by
  refine Prog.Creates.bind ?_ fun stopped => ?_
  · refine (Prog.Creates.ofExcept _).bind fun outcome => (Prog.Creates.ofExcept _).bind fun need => ?_
    refine (Prog.Creates.ofExcept _).bind fun stop => .ite ?_ trivial
    exact (Prog.Creates.of_onlyAsks onlyAsks_nowAfter).bind fun now => creates_saveCase_bind (by rintro ⟨⟩) trivial
  · split
    · trivial
    · exact (Prog.Creates.of_onlyAsks onlyAsks_replan).bind fun _ => trivial

theorem creates_finishReplanning {result : ReplanningResult} :
    (finishReplanning scenarioFactory c result).Creates (env groundedAnswers) (StartedOn days) := by
  rw [finishReplanning]
  refine .ite (creates_saveCase_bind (by rintro ⟨⟩) trivial) ((Prog.Creates.ofExcept _).bind fun accepted => ?_)
  refine creates_saveCase_bind (by rintro ⟨⟩) ((Prog.Creates.ofExcept _).bind fun facts => ?_)
  refine (Prog.Creates.of_onlyAsks onlyAsks_nowAfter).bind fun now => ?_
  refine (creates_applyAutonomyGate (Nat.succ_pos _)).bind fun gate => .ite trivial creates_executeAndComplete

theorem creates_processEvent {command : EventCommand} :
    (processEvent scenarioFactory caseId command).Creates (env groundedAnswers) (StartedOn days) := by
  rw [processEvent_eq]
  refine Prog.Creates.bind ?_ fun admitted => creates_stopOrReplan.mapError.bind fun result => ?_
  · refine creates_getCase.bind fun c => (Prog.Creates.ofExcept _).bind fun _ => ?_
    refine (Prog.Creates.ofExcept _).bind fun _ => (Prog.Creates.of_onlyAsks onlyAsks_nowAfter).bind fun now => ?_
    refine (Prog.Creates.ofExcept _).bind fun facts => Prog.Creates.bind ?_ fun eventId => ?_
    · unfold eventIdOf
      split
      · exact .ite (fun _ _ => trivial) trivial
      · exact fun _ _ => trivial
    · exact (Prog.Creates.ofExcept _).bind fun _ => trivial
  · split
    · trivial
    · exact creates_finishReplanning

theorem creates_request {p : Service RecoveryCase} (hp : RequestOn scenarioFactory days p) :
    p.Creates (env groundedAnswers) (StartedOn days) := by
  cases hp with
  | start scenario command h => exact creates_startRecovery h
  | event caseId command => exact creates_processEvent
  | decide caseId approvalId command => exact creates_decideApproval

/-! ### The facts and the plans of a case -/

section Grounded

variable {day : DemoScenario} {added : List String} {seen : Set RecoveryCase}

/-- A valid plan with these segments has been made in a world of the day. -/
def PlannedFor (day : DemoScenario) (segments : List RecoveryPlanSegment) : Prop :=
  ∃ added facts plan, World day added facts ∧ (validate plan facts).valid = true ∧ plan.coverageSegments = segments

/-- All plans that a case has. -/
def allPlans (c : RecoveryCase) : List RecoveryPlan := c.previousPlans ++ c.activeRecoveryPlan.toList

theorem mem_allPlans {plan : RecoveryPlan} :
    plan ∈ allPlans c ↔ plan ∈ c.previousPlans ∨ c.activeRecoveryPlan = some plan := by
  simp [allPlans]

/-- The case has been started on `day`; its provider is admitted there, and its plans were made for worlds of that
day. -/
structure GroundedIn (day : DemoScenario) (c : RecoveryCase) : Prop where
  snapshot : c.contextState.scenarioSnapshot = some day
  provider : ∀ provider, c.contextState.researchedBackupCareCandidate = some provider → Admitted day provider
  plans : ∀ plan ∈ allPlans c, PlannedFor day plan.coverageSegments

/-- **The rebuilt facts of a grounded case** are a world of its day. -/
theorem GroundedIn.world (h : GroundedIn day c) (hfacts : scenarioFor scenarioFactory c = .ok facts) :
    ∃ added, added.Nodup ∧ World day added facts := by
  obtain ⟨start, hstart, hreplay⟩ := scenarioFor_eq_ok.mp hfacts
  rw [baseScenario, h.snapshot] at hstart
  obtain ⟨joined, hjoined, hworld⟩ := World.base.admit h.provider hstart
  exact ⟨joined, hjoined, hworld.replay hreplay⟩

/-- An accepted plan has been made for the facts on which it was accepted. -/
theorem AcceptedPlan.plannedFor {previousPlans : List RecoveryPlan} {plan : RecoveryPlan}
    (h : AcceptedPlan facts caseId previousPlans plan) (hworld : World day added facts) :
    PlannedFor day plan.coverageSegments :=
  ⟨added, facts, plan, hworld, (h.validate_eq (.refl facts)).1, rfl⟩

/-- A case is grounded when it starts, if its provider is. -/
theorem Initial.groundedIn (h : Initial c) (hstarted : StartedOn days c) : ∃ day, days day ∧ GroundedIn day c := by
  obtain ⟨day, hday, hsnapshot, hprovider⟩ := hstarted
  refine ⟨day, hday, hsnapshot, hprovider, fun plan hplan => ?_⟩
  cases h with
  | noOption command caseId scenario uncovered now h =>
    subst h
    cases hplan
  | started h =>
    obtain ⟨command, caseId, scenario, candidate, facts, accepted, now, hfacts, haccepted, rfl⟩ := h
    obtain rfl := Option.some.inj hsnapshot
    obtain ⟨joined, -, hworld⟩ := World.base.admit hprovider hfacts
    obtain rfl := List.mem_singleton.mp hplan
    exact haccepted.plannedFor hworld

/-- A recorded decline keeps what has been planned: the invalidated plan has the segments of the valid one. -/
theorem GroundedIn.declined {event : RecoveryEvent} {outcome : InvalidationOutcome} (h : GroundedIn day c)
    (hdecline : DeclineOf scenarioFactory c event scenario outcome) : GroundedIn day outcome.recoveryCase := by
  obtain ⟨decline, plan, now, hcheck, -, assumptions, reasons, gap, uncovered, heq⟩ := hdecline.eq_declinedCase
  have hactive := (checkDecline_eq_ok hcheck).2.2.1
  have hplan : PlannedFor day plan.coverageSegments := h.plans plan (mem_allPlans.mpr (Or.inr hactive))
  rw [heq]
  refine ⟨h.snapshot, h.provider, fun other hother => ?_⟩
  rcases mem_allPlans.mp hother with hother | hother
  · rw [declinedCase] at hother
    dsimp only at hother
    split at hother
    · exact h.plans other (mem_allPlans.mpr (Or.inl hother))
    · rcases List.mem_append.mp hother with hother | hother
      · exact h.plans other (mem_allPlans.mpr (Or.inl hother))
      · rw [List.mem_singleton.mp hother]
        exact hplan
  · obtain rfl := Option.some.inj hother
    exact hplan

/-- **A step keeps a case grounded.** -/
theorem GroundedIn.step (h : GroundedIn day c) (hstep : CaseStep scenarioFactory groundedAnswers seen c c') :
    GroundedIn day c' := by
  cases hstep with
  | work hwork =>
    have hkept := hwork.kept
    refine ⟨hkept.context ▸ h.snapshot, hkept.context ▸ h.provider, fun plan hplan => h.plans plan ?_⟩
    rw [mem_allPlans] at hplan ⊢
    rwa [hkept.previous, hkept.active] at hplan
  | noOption externalDisabled uncovered now hdecline =>
    have hdeclined := h.declined hdecline
    exact ⟨hdeclined.snapshot, hdeclined.provider, hdeclined.plans⟩
  | replanFailed hdecline => exact h.declined hdecline
  | replanAccepted hreplanned =>
    obtain ⟨event, scenario, outcome, response, facts, plan, assumptions, hdecline, hanswer, hfacts, haccepted, rfl⟩ :=
      hreplanned
    have hdeclined := h.declined hdecline
    obtain ⟨added, -, hworld⟩ := h.world hdecline.facts
    obtain ⟨decline, _, _, -, happly, -⟩ := hdecline.eq_declinedCase
    have hupdated := hworld.declined happly
    -- the runtime names a provider who has been found for the facts after the decline
    have hadmitted : ∀ provider, response.researchedCandidate = some provider → Admitted day provider := by
      intro provider hprovider
      obtain ⟨caregivers, hcaregivers⟩ := hupdated.exists_caregivers
      have hfound : Admitted outcome.updatedScenario provider := FoundFor.admitted (hanswer provider hprovider)
      rwa [hcaregivers, admitted_caregivers] at hfound
    obtain ⟨joined, -, hworld'⟩ := hupdated.admit hadmitted hfacts
    refine ⟨?_, fun provider hprovider => ?_, fun other hother => ?_⟩
    · rw [(matchesOutcome_acceptedCase ..).snapshot]
      exact hdeclined.snapshot
    · rw [acceptedCase_researched, Option.or_eq_some_iff] at hprovider
      rcases hprovider with hprovider | ⟨-, hprovider⟩
      · exact hadmitted provider hprovider
      · exact hdeclined.provider provider hprovider
    · rw [mem_allPlans, acceptedCase_previousPlans, acceptedCase_activeRecoveryPlan, Option.some.injEq] at hother
      rcases hother with hother | rfl
      · exact hdeclined.plans other (mem_allPlans.mpr (Or.inl hother))
      · exact haccepted.plannedFor hworld'

/-- The number of a version plays no part. -/
theorem GroundedIn.stored {expected : Option ℕ} (h : GroundedIn day c) : GroundedIn day (stored c expected) :=
  ⟨h.snapshot, h.provider, h.plans⟩

/-- **Every case is grounded** in one of the days on which recoveries are started, when the runtime names only whom the
search has found. -/
theorem groundedIn_of_reachable {cfg : Config String RecoveryCase Failure Answer RecoveryCase}
    (h : Reachable (env groundedAnswers) (RequestOn scenarioFactory days) cfg) :
    ∀ c ∈ cfg.saved, ∃ day, days day ∧ GroundedIn day c := by
  refine forall_mem_saved.mp fun caseId => ?_
  have hrequest : ∀ p, RequestOn scenarioFactory days p →
      ((rules scenarioFactory groundedAnswers).creating (StartedOn days)).wp p ∅ fun _ _ => True :=
    fun p hp => Rules.wp_creating (wp_request_unchecked hp.request) (creates_request hp)
  refine Rules.Hist.forall_mem ?_ ?_ (Rules.hist_of_reachable hrequest h caseId)
  · rintro c ⟨hinitial, hstarted⟩
    obtain ⟨day, hday, hgrounded⟩ := hinitial.groundedIn hstarted
    exact ⟨day, hday, hgrounded.stored⟩
  · intro past c c' _ hall hstep
    obtain ⟨day, hday, hgrounded⟩ := hall c (List.mem_cons_self ..)
    exact ⟨day, hday, (hgrounded.step hstep).stored⟩

end Grounded

/-! ### Deployments -/

section Deployments

variable {Q : Type} {A : Q → Type} {valueErrorText : ReasoningFailure → Option String}
  {agents : (question : AgentQuestion) → AgentAnswer question → Prop} {gateway : PlanningGateway A}
  {asked : (question : Q) → A question → Prop}
  {cfg : Config String RecoveryCase ReasoningFailure (DeployedAnswer A) RecoveryCase}

/-- **In every run of a deployment** each stored case is grounded in the day on which it was started: its provider is
one whom the search admits, each of its plans, replaced, invalidated or active, was valid in a world that the day can
get into, and the facts that are rebuilt from it are such a world, which nobody has joined twice. -/
theorem groundedCase_of_deployed (hdeployed : DeployedWith agents gateway asked)
    (h : Reachable (deployedEnv asked) (gateway.Request valueErrorText scenarioFactory) cfg) :
    ∀ c ∈ cfg.saved, ∃ day, GroundedIn day c ∧
      ∀ facts, scenarioFor scenarioFactory c = .ok facts → ∃ added, added.Nodup ∧ World day added facts := by
  obtain ⟨threads, hreachable, -⟩ := exists_reachable_of_deployedOn hdeployed (h.mono fun p hp => hp.on)
  intro c hc
  obtain ⟨day, -, hday⟩ := groundedIn_of_reachable hreachable c hc
  exact ⟨day, hday, fun facts => hday.world⟩

/-- The researched provider stays with the case when the sitter declines. -/
theorem groundedCase_of_deployed_researched :
    (Config.run deployedResearched).saved.map (fun c => (c.status, c.contextState.researchedBackupCareCandidate)) =
        [(.resolved, some (provider "hana")), (.executing, some (provider "hana")),
          (.executing, some (provider "hana")), (.executing, some (provider "hana")),
          (.resolved, some (provider "hana")), (.executing, some (provider "hana")),
          (.executing, some (provider "hana")), (.waitingForResponse, some (provider "hana"))] ∧
      ∀ c ∈ (Config.run deployedResearched).saved, ∃ day, GroundedIn day c ∧
        ∀ facts, scenarioFor morningSittersDay c = .ok facts → ∃ added, added.Nodup ∧ World day added facts :=
  ⟨by decide +kernel, groundedCase_of_deployed deployedWith_researchAgents reachable_deployedResearched⟩

/-- **Whoever is ever planned with** is on record: in every run of a deployment, each segment with a caregiver, of
each plan of each stored case, is given to somebody whom the case's day has on record as the family's caregiver or as a
provider whom the search admits, and by that record the person is eligible for the segment's window. -/
theorem assigned_recorded_of_deployed (hdeployed : DeployedWith agents gateway asked)
    (h : Reachable (deployedEnv asked) (gateway.Request valueErrorText scenarioFactory) cfg) :
    ∀ c ∈ cfg.saved, ∃ day, c.contextState.scenarioSnapshot = some day ∧
      ∀ plan ∈ allPlans c, ∀ segment ∈ plan.coverageSegments, segment.source = .caregiver →
        ∃ record, Recorded day record ∧ record.caregiverId = segment.assignedPersonId ∧
          Eligible day record segment.window := by
  obtain ⟨threads, hreachable, -⟩ := exists_reachable_of_deployedOn hdeployed (h.mono fun p hp => hp.on)
  intro c hc
  obtain ⟨day, -, hday⟩ := groundedIn_of_reachable hreachable c hc
  refine ⟨day, hday.snapshot, fun plan hplan segment hs hsource => ?_⟩
  obtain ⟨added, facts, valid, hworld, hvalid, heq⟩ := hday.plans plan hplan
  rw [← heq] at hs
  exact hworld.eligible_of_assigned hvalid hs hsource

/-- The plans assign a sitter for the morning and the provider for the afternoon. -/
theorem assigned_recorded_of_deployed_researched :
    ((Config.run deployedResearched).saved.map fun c => (allPlans c).map fun plan =>
        plan.coverageSegments.map (·.assignedPersonId)) =
      List.replicate 4 [["kim", "hana"], ["lee", "hana"]] ++ List.replicate 4 [["kim", "hana"]] ∧
    ∀ c ∈ (Config.run deployedResearched).saved, ∃ day, c.contextState.scenarioSnapshot = some day ∧
      ∀ plan ∈ allPlans c, ∀ segment ∈ plan.coverageSegments, segment.source = .caregiver →
        ∃ record, Recorded day record ∧ record.caregiverId = segment.assignedPersonId ∧
          Eligible day record segment.window :=
  ⟨by decide +kernel, assigned_recorded_of_deployed deployedWith_researchAgents reachable_deployedResearched⟩

end Deployments

end DayMend.Runs
