import DayMend.Base.Trace
import DayMend.Runs.Transitions

/-!
# The programs make no other saves

Each program of the services has its precondition: whatever the world answers, what
it saves is the first version of a case or a step from a version it has seen
(`wp_request`). With the soundness of the rules the versions of a case form a history
of such steps, whatever the order in which requests take turns
(`caseHistory_of_reaches`).
-/

namespace DayMend.Runs

open DayMend.Base DayMend.Models DayMend.Fixtures DayMend.Services DayMend.Agent DayMend.Application

variable {scenarioFactory : DemoScenario}
  {answers : AgentRuntimeRequest → Except Failure AgentRuntimeResponse → Prop}

/-! ### The services' small programs -/

section Programs

variable {seen : Set RecoveryCase} {c c' : RecoveryCase} {caseId : String}

theorem wp_getCase {post : Set RecoveryCase → RecoveryCase → Prop}
    (h : ∀ c, c.caseId = caseId → post (insert c seen) c) :
    (ledgerRules scenarioFactory answers).wp (getCase caseId) seen post :=
  ⟨fun c hc => h c hc, trivial⟩

theorem wp_saveCase {expected : Option ℕ} {post : Set RecoveryCase → RecoveryCase → Prop}
    (h : (ledgerRules scenarioFactory answers).Justified seen c expected)
    (hpost : post (insert (stored c expected) seen) (stored c expected)) :
    (ledgerRules scenarioFactory answers).wp (saveCase c expected) seen post :=
  ⟨h, hpost, trivial⟩

/-- A step from a case that has been seen justifies a save under its version. -/
theorem justified (hc : c ∈ seen) (hkey : c'.caseId = c.caseId)
    (h : LedgerStep scenarioFactory answers {x ∈ seen | x.caseId = c.caseId} c c') :
    (ledgerRules scenarioFactory answers).Justified seen c' (some c.version) :=
  ⟨c, hc, hkey.symm, rfl, by rw [show key c' = c.caseId from hkey]; exact h⟩

theorem wp_nowAfter {notBefore : Instant} {post : Set RecoveryCase → Instant → Prop} (h : ∀ t, post seen t) :
    (ledgerRules scenarioFactory answers).wp (nowAfter notBefore) seen post :=
  fun _ _ => h _

theorem wp_clock {post : Set RecoveryCase → Instant → Prop} (h : ∀ t, post seen t) :
    (ledgerRules scenarioFactory answers).wp clock seen post :=
  fun _ _ => h _

theorem wp_newId {post : Set RecoveryCase → String → Prop} (h : ∀ id, post seen id) :
    (ledgerRules scenarioFactory answers).wp newId seen post :=
  fun _ _ => h _

theorem wp_executeAction {action : ExecutionAction} {now : Instant} {post : Set RecoveryCase → ExecutionAction → Prop}
    (h : ∀ failTargets, post seen (simulatedExecute failTargets action now)) :
    (ledgerRules scenarioFactory answers).wp (executeAction action now) seen post := by
  rintro _ ⟨failTargets, rfl⟩
  exact h failTargets

theorem wp_invoke {request : AgentRuntimeRequest} {post : Set RecoveryCase → AgentRuntimeResponse → Prop}
    (h : ∀ response, answers request (.ok response) → post seen response) :
    (ledgerRules scenarioFactory answers).wp (invoke request) seen post := by
  intro (answer : Except Failure AgentRuntimeResponse) hanswer
  refine Rules.wp_ofExcept.mpr fun response hresponse => ?_
  subst hresponse
  exact h response hanswer

theorem wp_eventIdOf {command : EventCommand} {post : Set RecoveryCase → String → Prop} (h : ∀ id, post seen id) :
    (ledgerRules scenarioFactory answers).wp (eventIdOf command) seen post := by
  unfold eventIdOf
  split
  · split
    · rw [Rules.wp_bind]
      exact wp_newId fun id => h _
    · exact h _
  · rw [Rules.wp_bind]
    exact wp_newId fun id => h _

/-! ### Execution -/

theorem wp_runActions {planId : String} {existing : Dict String ExecutionAction} {now : Instant}
    {required : List ExecutionAction} : ∀ {progress : ExecutionProgress},
    (ledgerRules scenarioFactory answers).wp (runActions planId existing now required progress) seen
      fun s after => s = seen ∧ RanActions planId existing now required progress after := by
  induction required with
  | nil => exact ⟨rfl, .nil⟩
  | cons action rest ih =>
    intro progress
    rw [runActions]
    split
    next prior hprior => exact Rules.wp_mono (fun _ _ h => ⟨h.1, .skip hprior h.2⟩) ih
    next hnone =>
      rw [Rules.wp_bind]
      exact wp_executeAction fun failTargets =>
        Rules.wp_mono (fun _ _ h => ⟨h.1, .run failTargets hnone h.2⟩) ih

theorem wp_execute {now : Instant} :
    (ledgerRules scenarioFactory answers).wp (execute caseId now) seen fun _ _ => True := by
  rw [execute, Rules.wp_bind]
  refine wp_getCase fun c _ => ?_
  rw [Rules.wp_bind, Rules.wp_ofExcept]
  intro plan hcheck
  dsimp only
  split
  · trivial
  · rw [Rules.wp_bind]
    refine Rules.wp_mono ?_ wp_runActions
    rintro _ progress ⟨rfl, hrun⟩
    rw [Rules.wp_bind]
    exact wp_saveCase (justified (Set.mem_insert ..) rfl (WorkStep.execute now hcheck hrun).ledger) trivial

theorem wp_verifyAndResolve {c₀ : RecoveryCase} {scenario : DemoScenario} {now : Instant} (hc₀ : c₀ ∈ seen)
    (hkey : c₀.caseId = caseId) (hfacts : scenarioFor scenarioFactory c₀ = .ok scenario) :
    (ledgerRules scenarioFactory answers).wp (verifyAndResolve caseId scenario now) seen fun _ _ => True := by
  rw [verifyAndResolve, Rules.wp_bind]
  refine wp_getCase fun c hc => ?_
  split
  · trivial
  next plan hplan =>
    dsimp only
    split
    · trivial
    next herrors =>
      have hstep : WorkStep scenarioFactory answers {x ∈ insert c seen | x.caseId = c.caseId} c
          (resolvedCase c plan.planId now) := by
        refine .resolve now ⟨Set.mem_insert_of_mem _ hc₀, ?_⟩ hfacts hplan (not_not.mp herrors)
        rw [hkey, hc]
      rw [Rules.wp_bind]
      exact wp_saveCase (justified (Set.mem_insert ..) rfl hstep.ledger) trivial

theorem wp_executeAndComplete :
    (ledgerRules scenarioFactory answers).wp (executeAndComplete scenarioFactory caseId) seen fun _ _ => True := by
  rw [executeAndComplete, Rules.wp_bind]
  refine wp_getCase fun c hc => ?_
  rw [Rules.wp_bind, Rules.wp_ofExcept]
  intro scenario hfacts
  rw [Rules.wp_bind, Rules.wp_ofExcept]
  rintro - -
  rw [Rules.wp_bind]
  refine wp_nowAfter fun now => ?_
  rw [Rules.wp_bind]
  refine Rules.wp_mono ?_ (Rules.wp_subset wp_execute)
  rintro s execution ⟨hs, -⟩
  split
  · trivial
  · rw [Rules.wp_bind]
    refine wp_nowAfter fun later => ?_
    rw [Rules.wp_bind]
    exact Rules.wp_mono (fun _ _ _ => trivial) (wp_verifyAndResolve (hs (Set.mem_insert ..)) hc hfacts)

/-! ### Approval -/

/-- The gate, on a case that has just been saved with the plan that `validation` is about. -/
theorem wp_applyAutonomyGate {validation : PlanValidationResult} {policy : FamilyPolicy} {now : Instant}
    (hc : c ∈ seen) (hfresh : Fresh scenarioFactory answers {x ∈ seen | x.caseId = c.caseId} c)
    (hplan : c.activeRecoveryPlan = some validation.validatedPlan)
    (hreasons : validation.requiresApproval = !validation.validatedPlan.approvalReasons.isEmpty) :
    (ledgerRules scenarioFactory answers).wp (applyAutonomyGate c validation policy now) seen fun _ _ => True := by
  have hversion : 0 < c.version := by
    rcases hfresh with ⟨x, -, rfl⟩ | ⟨c₀, -, x, -, rfl⟩ <;> exact Nat.succ_pos _
  have hsave : ∀ {next : RecoveryCase} {α : Type} {f : RecoveryCase → Service α}, next.caseId = c.caseId →
      WorkStep scenarioFactory answers {x ∈ seen | x.caseId = c.caseId} c next →
        (∀ saved s, (ledgerRules scenarioFactory answers).wp (f saved) s fun _ _ => True) →
          (ledgerRules scenarioFactory answers).wp (savePrevious next c.version >>= f) seen fun _ _ => True := by
    intro next α f hkey hstep hf
    rw [Rules.wp_bind, savePrevious, if_pos hversion]
    exact wp_saveCase (justified hc hkey hstep.ledger) (hf _ _)
  rw [applyAutonomyGate, hplan]
  cases validation.valid with
  | false => trivial
  | true =>
    simp only [ne_eq, not_true_eq_false, if_false]
    split
    · trivial
    split
    next hrequires =>
      refine hsave rfl (.gateExecuting now hfresh hplan ?_) fun _ _ => trivial
      simpa [hreasons] using hrequires
    next hrequires =>
      split
      · trivial
      · rw [Rules.wp_bind]
        refine wp_newId fun approvalId =>
          hsave rfl (.gateApproval now hfresh hplan ?_ rfl rfl) fun _ _ => trivial
        intro hempty
        rw [hreasons, hempty] at hrequires
        exact hrequires rfl

theorem wp_decide {approvalId : String} {decision : ApprovalDecision} {now : Instant} {reason : Option String} :
    (ledgerRules scenarioFactory answers).wp (Services.decide caseId approvalId decision now reason) seen
      fun _ _ => True := by
  rw [Services.decide, Rules.wp_bind]
  refine wp_getCase fun c _ => ?_
  dsimp only
  split
  · trivial
  next approval hlast =>
    split
    · trivial
    · rw [Rules.wp_bind, Rules.wp_ofExcept]
      intro _ hcheck
      rw [Rules.wp_bind]
      have hmem := (List.mem_filter.mp (List.mem_of_getLast? hlast)).1
      exact wp_saveCase (justified (Set.mem_insert ..) rfl
        (WorkStep.decide decision now reason hmem hcheck).ledger) trivial

/-! ### Planning -/

/-- A planning session ends with what the validator says of its last proposal. -/
theorem wp_repairLoop {scenario facts : DemoScenario} {recoveryCaseId : Option String}
    {preservedSegments : List RecoveryPlanSegment} {candidate : Option BackupCareCandidate} {remaining : ℕ} :
    ∀ {earlier : List PlanningAttempt} {plan : RecoveryPlan},
    (ledgerRules scenarioFactory answers).wp
      (repairLoop scenario facts recoveryCaseId preservedSegments candidate remaining earlier plan) seen
      fun s attempts => s = seen ∧
        ∃ proposal, attempts.last.validation = validateProposal proposal facts preservedSegments := by
  induction remaining with
  | zero => exact ⟨rfl, _, rfl⟩
  | succ remaining ih =>
    intro earlier plan
    rw [repairLoop]
    dsimp only
    split
    · exact ⟨rfl, _, rfl⟩
    · rw [Rules.wp_bind]
      exact wp_invoke fun response _ => ih

/-- What initial planning has found: the provider, the facts, and the last proposal's validation. -/
def PlannedInitially (scenario : DemoScenario) (result : InitialPlanningResult) : Prop :=
  ∃ facts proposal, validationScenario scenario result.researchedCandidate = .ok facts ∧
    result.attempts.last.validation = validateProposal proposal facts [] ∧
      result.requiresApproval = result.attempts.last.validation.requiresApproval ∧
        ∀ plan, result.finalPlan = some plan → result.attempts.last.validation.valid = true ∧
          plan = result.attempts.last.validation.validatedPlan

theorem wp_planInitial {disruption : String} {scenario : DemoScenario} :
    (ledgerRules scenarioFactory answers).wp (planInitial disruption scenario) seen
      fun s result => s = seen ∧ PlannedInitially scenario result := by
  rw [planInitial, Rules.wp_bind]
  refine wp_invoke fun response _ => ?_
  rw [Rules.wp_bind, Rules.wp_ofExcept]
  intro facts hfacts
  rw [Rules.wp_bind]
  refine Rules.wp_mono ?_ wp_repairLoop
  rintro _ attempts ⟨rfl, proposal, hproposal⟩
  refine ⟨rfl, facts, proposal, hfacts, hproposal, rfl, fun plan hplan => ?_⟩
  dsimp only at hplan
  split at hplan
  next hvalid => exact ⟨hvalid, (Option.some.inj hplan).symm⟩
  next => cases hplan

/-- The case that is saved with the plan found starts with it. -/
theorem PlannedInitially.started {scenario : DemoScenario} {result : InitialPlanningResult} {finalPlan : RecoveryPlan}
    {command : StartRecoveryCommand} {created : RecoveryCase} {now : Instant} (h : PlannedInitially scenario result)
    (hplan : result.finalPlan = some finalPlan)
    (hcreated : createActiveRecoveryCase caseId (disruptionText command) (acceptPlan finalPlan caseId [])
      scenario.requiredCoverage now = .ok created) :
    Started (startedCase command caseId scenario created result.researchedCandidate) := by
  obtain ⟨facts, proposal, hfacts, hproposal, -, hfinal⟩ := h
  obtain ⟨hvalid, rfl⟩ := hfinal finalPlan hplan
  rw [hproposal] at hvalid hcreated
  obtain rfl := eq_activeCase_of_create hcreated
  exact ⟨command, caseId, scenario, _, facts, _, now, hfacts, ⟨proposal, [], hvalid, rfl⟩, rfl⟩

/-- The plan found needs approval exactly when it gives reasons for it. -/
theorem PlannedInitially.requiresApproval_eq {scenario : DemoScenario} {result : InitialPlanningResult}
    {finalPlan : RecoveryPlan} (h : PlannedInitially scenario result) (hplan : result.finalPlan = some finalPlan) :
    result.attempts.last.validation.requiresApproval = !finalPlan.approvalReasons.isEmpty := by
  obtain ⟨facts, proposal, -, hproposal, -, hfinal⟩ := h
  obtain ⟨-, rfl⟩ := hfinal finalPlan hplan
  rw [hproposal]
  exact (validateProposal_marks proposal facts []).1

variable (answers) in
/-- What replanning has found after a decline of `c`. -/
def ReplannedFrom (c : RecoveryCase) (event : RecoveryEvent) (scenario : DemoScenario) (result : ReplanningResult) :
    Prop :=
  ∃ outcome response facts proposal attempts, applyCaregiverDecline c event scenario = .ok outcome ∧
    answers (replanningRequest c.caseId outcome) (.ok response) ∧
      validationScenario outcome.updatedScenario response.researchedCandidate = .ok facts ∧
        attempts.last.validation = validateProposal proposal facts outcome.preservedSegments ∧
          result = buildReplanningResult outcome event attempts response.researchedCandidate

/-- Without a valid plan, the declined case is saved as the decline has left it. -/
theorem ReplannedFrom.failed {event : RecoveryEvent} {scenario : DemoScenario} {result : ReplanningResult}
    {now : Instant} (h : ReplannedFrom answers { c with updatedAt := now } event scenario result)
    (hfacts : scenarioFor scenarioFactory c = .ok scenario) (hfailed : result.success = false) :
    ∃ outcome, DeclineOf scenarioFactory c event scenario outcome ∧ result.recoveryCase = outcome.recoveryCase := by
  obtain ⟨outcome, response, facts, proposal, attempts, houtcome, -, -, -, rfl⟩ := h
  have hinvalid : attempts.last.validation.valid = false := hfailed
  exact ⟨outcome, ⟨hfacts, now, houtcome⟩, by simp [buildReplanningResult, hinvalid]⟩

/-- With a valid plan, the declined case is saved with it, and the gate is asked about it. -/
theorem ReplannedFrom.replanned {event : RecoveryEvent} {scenario : DemoScenario} {result accepted : ReplanningResult}
    {now : Instant} (h : ReplannedFrom answers { c with updatedAt := now } event scenario result)
    (hfacts : scenarioFor scenarioFactory c = .ok scenario)
    (haccepted : acceptReplanningResult { c with updatedAt := now } result = .ok accepted) :
    ∃ saved, withResearched accepted.recoveryCase accepted.researchedCandidate = saved ∧
      Replanned scenarioFactory answers c saved ∧ (∀ assumption ∈ saved.assumptions, LedgerEntry c saved assumption) ∧
        saved.caseId = c.caseId ∧ saved.activeRecoveryPlan = some accepted.finalValidation.validatedPlan ∧
          accepted.finalValidation.requiresApproval =
            !accepted.finalValidation.validatedPlan.approvalReasons.isEmpty := by
  obtain ⟨outcome, response, facts, proposal, attempts, houtcome, hanswer, hresearch, hproposal, rfl⟩ := h
  have hdecline : DeclineOf scenarioFactory c event scenario outcome := ⟨hfacts, now, houtcome⟩
  obtain ⟨hvalid, -, hvalidation, -⟩ := acceptReplanningResult_eq_ok rfl haccepted
  obtain ⟨assumptions, hsaved⟩ := exists_acceptedCase_of_accept haccepted
  have hreplanned : Replanned scenarioFactory answers c (acceptedCase outcome
      (acceptPlan attempts.last.validation.validatedPlan { c with updatedAt := now }.caseId
        outcome.recoveryCase.previousPlans) assumptions response.researchedCandidate) := by
    refine ⟨event, scenario, outcome, response, facts, _, assumptions, hdecline, hanswer, hresearch, ?_, rfl⟩
    exact ⟨proposal, outcome.preservedSegments, hproposal ▸ hvalid, by rw [hproposal]⟩
  refine ⟨_, hsaved, hreplanned, ?_, ?_, ?_, ?_⟩
  · intro assumption hmem
    rw [← hsaved, withResearched_assumptions] at hmem
    rcases Validation.mem_assumptions_of_accept houtcome haccepted hmem with hmem | hmem
    · exact hdecline.ledgerEntry (matchesOutcome_acceptedCase ..) assumption hmem
    · refine .accepted _ (acceptedCase_activeRecoveryPlan ..) ?_ ?_
      · rw [hproposal] at hvalid ⊢
        exact (validateProposal_marks proposal facts outcome.preservedSegments).2 hvalid
      · rwa [materialize_acceptPlan]
  · rw [acceptedCase_caseId]
    exact hdecline.caseId_eq
  · rw [acceptedCase_activeRecoveryPlan, hvalidation]
  · rw [hvalidation, hproposal]
    exact (validateProposal_marks proposal facts outcome.preservedSegments).1

theorem wp_replan {event : RecoveryEvent} {scenario : DemoScenario} :
    (ledgerRules scenarioFactory answers).wp (replan c event scenario) seen
      fun s result => s = seen ∧ ReplannedFrom answers c event scenario result := by
  rw [replan, Rules.wp_bind, Rules.wp_ofExcept]
  intro outcome houtcome
  rw [Rules.wp_bind]
  refine wp_invoke fun response hresponse => ?_
  rw [Rules.wp_bind, Rules.wp_ofExcept]
  intro facts hfacts
  rw [Rules.wp_bind]
  refine Rules.wp_mono ?_ wp_repairLoop
  rintro _ attempts ⟨rfl, proposal, hproposal⟩
  exact ⟨rfl, outcome, response, facts, proposal, attempts, houtcome, hresponse, hfacts, hproposal, rfl⟩

/-! ### Requests -/

theorem wp_startRecovery {scenario : DemoScenario} {command : StartRecoveryCommand} :
    (ledgerRules scenarioFactory answers).wp (startRecovery scenarioFactory scenario command) seen
      fun _ _ => True := by
  rw [startRecovery, Rules.wp_bind]
  refine wp_newId fun caseId => ?_
  rw [Rules.wp_bind, Rules.wp_ofExcept]
  intro need hneed
  rw [Rules.wp_bind, Rules.wp_ofExcept]
  intro stop hstop
  split
  next hgiven =>
    rw [persistInitialNoOption, Rules.wp_bind]
    refine wp_clock fun now =>
      wp_saveCase ⟨⟨.noOption command caseId scenario need.requestedWindows now rfl, fun _ => ?_⟩, ?_⟩ trivial
    · exact ⟨command, caseId, scenario, need, now, ⟨hneed, hgiven ▸ hstop⟩, rfl⟩
    · rintro assumption ⟨⟩
  rw [Rules.wp_bind]
  refine Rules.wp_mono ?_ wp_planInitial
  rintro s planning ⟨-, hplanned⟩
  split
  next finalPlan hplan =>
    rw [Rules.wp_bind]
    refine wp_clock fun now => ?_
    rw [Rules.wp_bind, Rules.wp_ofExcept]
    intro created hcreated
    have hstarted := hplanned.started hplan hcreated
    have hreasons := hplanned.requiresApproval_eq hplan
    obtain rfl := eq_activeCase_of_create hcreated
    rw [Rules.wp_bind]
    refine wp_saveCase hstarted.ledger ?_
    split
    · trivial
    rw [Rules.wp_bind]
    refine wp_nowAfter fun later => ?_
    rw [Rules.wp_bind]
    refine Rules.wp_mono ?_ (wp_applyAutonomyGate (Set.mem_insert ..) (Or.inl ⟨_, hstarted, rfl⟩) ?_ ?_)
    · rintro t gate -
      split
      · trivial
      · exact wp_executeAndComplete
    · exact congrArg some (materialize_acceptPlan ..)
    · exact hreasons
  next => trivial

/-- Up to the failure or success of replanning: a case without options is saved, or a result handed on. -/
theorem wp_stopOrReplan {now : Instant} {event : RecoveryEvent} {scenario : DemoScenario} (hc : c ∈ seen)
    (hfacts : scenarioFor scenarioFactory c = .ok scenario) :
    (ledgerRules scenarioFactory answers).wp (stopOrReplan { c with updatedAt := now } event scenario) seen
      fun _ result => ∀ r, result = .inr r →
        ReplannedFrom answers { c with updatedAt := now } event scenario r := by
  rw [stopOrReplan, Rules.wp_bind, stopWhenNoRecoveryOption, Rules.wp_bind, Rules.wp_ofExcept]
  intro outcome houtcome
  have hdecline : DeclineOf scenarioFactory c event scenario outcome := ⟨hfacts, now, houtcome⟩
  rw [Rules.wp_bind, Rules.wp_ofExcept]
  intro need hneed
  rw [Rules.wp_bind, Rules.wp_ofExcept]
  intro stop hstop
  split
  next hgiven =>
    rw [Rules.wp_bind]
    refine wp_nowAfter fun later => ?_
    rw [Rules.wp_bind]
    refine wp_saveCase (justified (c := c) hc hdecline.caseId_eq ⟨⟨.noOption _ _ _ hdecline, fun _ => ?_⟩, ?_⟩) ?_
    · exact ⟨event, scenario, outcome, need, later, hdecline, ⟨hneed, hgiven ▸ hstop⟩, rfl⟩
    · exact hdecline.ledgerEntry (matchesOutcome_noOptionCase hdecline ..)
    intro r hr
    cases hr
  · rw [Rules.wp_pure, Rules.wp_bind]
    refine Rules.wp_mono ?_ wp_replan
    rintro s result ⟨-, hresult⟩ r hr
    exact Sum.inr.inj hr ▸ hresult

theorem wp_finishReplanning {now : Instant} {event : RecoveryEvent} {scenario : DemoScenario}
    {result : ReplanningResult} (hc : c ∈ seen) (hfacts : scenarioFor scenarioFactory c = .ok scenario)
    (h : ReplannedFrom answers { c with updatedAt := now } event scenario result) :
    (ledgerRules scenarioFactory answers).wp (finishReplanning scenarioFactory { c with updatedAt := now } result) seen
      fun _ _ => True := by
  rw [finishReplanning]
  split
  next hfailed =>
    obtain ⟨outcome, hdecline, hcase⟩ := h.failed hfacts (by simpa using hfailed)
    rw [hcase, Rules.wp_bind]
    exact wp_saveCase (justified (c := c) hc hdecline.caseId_eq
      ⟨hdecline.checked, hdecline.ledgerEntry (.refl outcome)⟩) trivial
  next =>
    rw [Rules.wp_bind, Rules.wp_ofExcept]
    intro accepted haccepted
    obtain ⟨saved, hsaved, hreplanned, hledger, hkey, hplan, hreasons⟩ := h.replanned hfacts haccepted
    rw [hsaved, Rules.wp_bind]
    refine wp_saveCase (justified (c := c) hc hkey ⟨hreplanned.checked, hledger⟩) ?_
    rw [Rules.wp_bind, Rules.wp_ofExcept]
    rintro later -
    rw [Rules.wp_bind]
    refine wp_nowAfter fun gateTime => ?_
    rw [Rules.wp_bind]
    have hseen : c ∈ {x ∈ insert (stored saved (some c.version)) seen |
        x.caseId = (stored saved (some c.version)).caseId} := ⟨Set.mem_insert_of_mem _ hc, hkey.symm⟩
    refine Rules.wp_mono ?_
      (wp_applyAutonomyGate (Set.mem_insert ..) (Or.inr ⟨c, hseen, _, hreplanned, rfl⟩) hplan hreasons)
    rintro t gate -
    split
    · trivial
    · exact wp_executeAndComplete

theorem wp_processEvent {command : EventCommand} :
    (ledgerRules scenarioFactory answers).wp (processEvent scenarioFactory caseId command) seen fun _ _ => True := by
  rw [processEvent, Rules.wp_bind]
  refine wp_getCase fun c _ => ?_
  rw [Rules.wp_bind, Rules.wp_ofExcept]
  rintro - -
  rw [Rules.wp_bind, Rules.wp_ofExcept]
  rintro - -
  rw [Rules.wp_bind]
  refine wp_nowAfter fun now => ?_
  rw [Rules.wp_bind, Rules.wp_ofExcept]
  intro scenario hfacts
  -- the time of the update plays no part in the facts
  replace hfacts : scenarioFor scenarioFactory c = .ok scenario := hfacts
  rw [Rules.wp_bind]
  refine wp_eventIdOf fun eventId => ?_
  rw [Rules.wp_bind, Rules.wp_ofExcept]
  intro event _
  rw [Rules.wp_bind, Rules.wp_mapError]
  refine Rules.wp_mono ?_ (Rules.wp_subset (wp_stopOrReplan (Set.mem_insert ..) hfacts))
  rintro s result ⟨hs, hresult⟩
  split
  · trivial
  next r => exact wp_finishReplanning (hs (Set.mem_insert ..)) hfacts (hresult r rfl)

theorem wp_decideApproval {approvalId : String} {command : ApprovalCommand} :
    (ledgerRules scenarioFactory answers).wp (decideApproval scenarioFactory caseId approvalId command) seen
      fun _ _ => True := by
  rw [decideApproval, Rules.wp_bind]
  refine wp_getCase fun c _ => ?_
  rw [Rules.wp_bind, Rules.wp_ofExcept]
  rintro - -
  rw [Rules.wp_bind]
  refine wp_nowAfter fun now => ?_
  rw [Rules.wp_bind]
  refine Rules.wp_mono ?_ wp_decide
  rintro s result -
  split
  · trivial
  split
  · trivial
  exact wp_executeAndComplete

/-- **No request saves anything but the first version of a case or a step from a version it has seen.** -/
theorem wp_request {p : Service RecoveryCase} (hp : Request scenarioFactory p) :
    (ledgerRules scenarioFactory answers).wp p ∅ fun _ _ => True := by
  cases hp with
  | start scenario command => exact wp_startRecovery
  | event caseId command => exact wp_processEvent
  | decide caseId approvalId command => exact wp_decideApproval

/-- Where assumptions come from may be forgotten. -/
theorem wp_request_checked {p : Service RecoveryCase} (hp : Request scenarioFactory p) :
    (checkedRules scenarioFactory answers).wp p ∅ fun _ _ => True := by
  have henv : ∀ q a, (checkedRules scenarioFactory answers).env q a → (ledgerRules scenarioFactory answers).env q a :=
    fun _ _ h => h
  exact Rules.wp_weaken henv (fun c h => h.1) (fun s c c' h => h.1) (wp_request hp)

/-- What has been checked may be forgotten. -/
theorem wp_request_unchecked {p : Service RecoveryCase} (hp : Request scenarioFactory p) :
    (rules scenarioFactory answers).wp p ∅ fun _ _ => True := by
  have henv : ∀ q a, (rules scenarioFactory answers).env q a → (checkedRules scenarioFactory answers).env q a :=
    fun _ _ h => h
  exact Rules.wp_weaken henv (fun c h => h.1) (fun s c c' h => h.1) (wp_request_checked hp)

end Programs

/-! ### Histories of cases -/

/-- What requests to any number of services that share a store can reach, taking turns in any order. -/
abbrev Reaches (scenarioFactory : DemoScenario)
    (answers : AgentRuntimeRequest → Except Failure AgentRuntimeResponse → Prop)
    (cfg : Config String RecoveryCase Failure Answer RecoveryCase) : Prop :=
  Reachable (env answers) (Request scenarioFactory) cfg

/-- The versions of a case, newest first, each made from the one before it by a step. -/
abbrev CaseHistory (scenarioFactory : DemoScenario)
    (answers : AgentRuntimeRequest → Except Failure AgentRuntimeResponse → Prop) : List RecoveryCase → Prop :=
  (rules scenarioFactory answers).Hist

/-- **The versions of a case form a history**, whatever the order in which requests take turns. -/
theorem caseHistory_of_reaches {cfg : Config String RecoveryCase Failure Answer RecoveryCase}
    (h : Reaches scenarioFactory answers cfg) (caseId : String) :
    CaseHistory scenarioFactory answers (versions cfg.saved caseId) :=
  Rules.hist_of_reachable (R := rules scenarioFactory answers) (fun _ hp => wp_request_unchecked hp) h caseId

/-- At any time of a run the versions of a case form a history. -/
theorem caseHistory_of_suffix {starts : List (Service RecoveryCase)} {trace earlier : Trace String RecoveryCase Answer}
    {cfg : Config String RecoveryCase Failure Answer RecoveryCase}
    (h : Traced (env answers) (Request scenarioFactory) starts trace cfg) (hsuffix : earlier <:+ trace)
    (caseId : String) : CaseHistory scenarioFactory answers (versions (logOf earlier) caseId) := by
  obtain ⟨_, cfg', -, ht⟩ := h.of_suffix hsuffix
  rw [← ht.saved_eq]
  exact caseHistory_of_reaches ht.reachable caseId

/-- Every stored case is a version of itself. -/
theorem mem_versions {saved : List RecoveryCase} {c : RecoveryCase} (h : c ∈ saved) : c ∈ versions saved c.caseId :=
  List.mem_filter.mpr ⟨h, decide_eq_true rfl⟩

/-- What holds of every version of every case holds of every stored case. -/
theorem forall_mem_saved {saved : List RecoveryCase} {P : RecoveryCase → Prop} :
    (∀ caseId, ∀ c ∈ versions saved caseId, P c) ↔ ∀ c ∈ saved, P c :=
  ⟨fun h c hc => h c.caseId c (mem_versions hc), fun h _ c hc => h c (List.mem_filter.mp hc).1⟩

/-! ### Schedules -/

/-- Turns of requests to the service. -/
abbrev Schedule := List (Turn String RecoveryCase Failure Answer RecoveryCase)

/-- A world in which it is `time`, `id` is fresh, every action succeeds, and the runtime proposes `plan`. -/
def answering (time : Instant) (id : String) (plan : RecoveryPlan) (candidate : Option BackupCareCandidate) :
    (q : Query) → Answer q
  | .clock => time
  | .newId => id
  | .execute action now => simulatedExecute [] action now
  | .invoke _ => .ok { planCandidate := plan, researchedCandidate := candidate }

/-- Such a world is allowed when the runtime may answer so. -/
theorem env_answering {time : Instant} {id : String} {plan : RecoveryPlan} {candidate : Option BackupCareCandidate}
    (h : ∀ r, answers r (.ok { planCandidate := plan, researchedCandidate := candidate })) :
    ∀ q, env answers q (answering time id plan candidate q) := by
  intro q
  cases q with
  | clock => trivial
  | newId => trivial
  | execute action now => exact ⟨[], rfl⟩
  | invoke r => exact h r

/-- Two requests may come, the second after the first has taken its steps. -/
theorem allowed_two {p q : Service RecoveryCase} {n m : ℕ} {first second : (q : Query) → Answer q}
    (hp : Request scenarioFactory p) (hfirst : ∀ q, env answers q (first q)) (hq : Request scenarioFactory q)
    (hsecond : ∀ q, env answers q (second q)) :
    ∀ t ∈ ([.spawn p, .steps 0 n first, .spawn q, .steps 1 m second] : Schedule),
      t.Allowed (env answers) (Request scenarioFactory) := by
  intro t ht
  simp only [List.mem_cons, List.not_mem_nil, or_false] at ht
  rcases ht with rfl | rfl | rfl | rfl
  · exact hp
  · exact hfirst
  · exact hq
  · exact hsecond

theorem reaches_two {p q : Service RecoveryCase} {n m : ℕ} {first second : (q : Query) → Answer q}
    (hp : Request scenarioFactory p) (hfirst : ∀ q, env answers q (first q)) (hq : Request scenarioFactory q)
    (hsecond : ∀ q, env answers q (second q)) :
    Reaches scenarioFactory answers (Config.run [.spawn p, .steps 0 n first, .spawn q, .steps 1 m second]) :=
  reachable_run (allowed_two hp hfirst hq hsecond)

/-- A report that the nanny is ill. -/
def nannyIll : StartRecoveryCommand :=
  { disruptionType := "CAREGIVER_UNAVAILABLE", occurredAt := 0, caregiverId := "nanny", message := "I am ill." }

/-- A decline of a window. -/
def declineCommand (caregiverId : String) (window : CoverageWindow) : EventCommand :=
  { caregiverId, occurredAt := 0, relevantWindow := window, message := "I cannot come." }

/-- A day with one paid sitter and no help from outside. -/
def paidDay : DemoScenario :=
  { day (minutes 0 120) [{ sitter "kim" [minutes 0 120] with
      hourlyRate := some 30, has_at_most_one_price_type := by simp [sitter] }] with
    policy := { allowExternalBackupProviders := false } }

/-- The sitter looks after the child all day. -/
def paidPlan : RecoveryPlan :=
  { planId := "proposal", coverageSegments := [care "all" "kim" .caregiver (minutes 0 120)] }

/-- One person looks after the child all day. -/
def allDayBy (caregiverId : String) : RecoveryPlan :=
  { planId := "proposal", coverageSegments := [care "all" caregiverId .caregiver (minutes 0 120)] }

/-- A day with two sitters. -/
def sittersDay : DemoScenario := day (minutes 0 120) [sitter "kim" [minutes 0 120], sitter "lee" [minutes 0 120]]

/-- A day with two sitters who come for nothing and one who is to be paid. -/
def lastPaidDay : DemoScenario :=
  day (minutes 0 120) [sitter "kim" [minutes 0 120], sitter "lee" [minutes 0 120],
    { sitter "sam" [minutes 0 120] with hourlyRate := some 30, has_at_most_one_price_type := by simp [sitter] }]

/-- The first sitter is to come and declines; the second takes over. -/
def takenOver : Schedule :=
  [.spawn (startRecovery sittersDay sittersDay nannyIll), .steps 0 100 (answering 1 "case" (allDayBy "kim") none),
    .spawn (processEvent sittersDay "case" (declineCommand "kim" (minutes 0 120))),
    .steps 1 100 (answering 2 "event" (allDayBy "lee") none)]

theorem allowed_takenOver (h : ∀ r plan, answers r (.ok { planCandidate := plan })) :
    ∀ t ∈ takenOver, t.Allowed (env answers) (Request sittersDay) :=
  allowed_two (.start ..) (env_answering fun r => h r _) (.event ..) (env_answering fun r => h r _)

theorem reaches_takenOver (h : ∀ r plan, answers r (.ok { planCandidate := plan })) :
    Reaches sittersDay answers (Config.run takenOver) := reachable_run (allowed_takenOver h)

theorem flat_rate_only : (none : Option Decimal).isSome ≠ (some (0 : Decimal)).isSome ∧ 0 ≤ 10 := ⟨by decide, by decide⟩

/-- A provider of the backup inventory who is available all day. -/
def provider (candidateId : String) : BackupCareCandidate :=
  { candidateId
    displayName := candidateId
    availability := [minutes 0 120]
    flatRate := some 0
    verified := true
    backgroundChecked := true
    minimumChildAge := 0
    maximumChildAge := 10
    candidate_contract_is_consistent := flat_rate_only }

/-- A day on which both parents are busy and two providers could come. -/
def providersDay (caregivers : List Caregiver) : DemoScenario :=
  { day (minutes 0 120) caregivers with
    parentEvents :=
      [{ eventId := "board", ownerId := "parent_a", title := "Board", window := minutes 0 120, critical := true },
        { eventId := "clinic", ownerId := "parent_b", title := "Clinic", window := minutes 0 120, critical := true }]
    backupCareCandidates := [provider "hana", provider "wim"] }

end DayMend.Runs
