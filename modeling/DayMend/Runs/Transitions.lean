import DayMend.Validation.Ledger

/-!
# What a save may do to a case

The programs of the services read a case, work, and save it under the version they
read. This module says once what any of these saves can do: `Initial` for the first
version of a case and `CaseStep` for every later one, each with what the program has
checked before. What follows from these steps for the fields of a case is said here
too, so that the invariants need not look into the programs again.

`answers` says what the reasoning runtime may answer; most results leave it open.
-/

namespace DayMend.Runs

open DayMend.Base DayMend.Models DayMend.Fixtures DayMend.Services DayMend.Agent DayMend.Application
open DayMend.Validation

variable (scenarioFactory : DemoScenario)
  (answers : AgentRuntimeRequest → Except Failure AgentRuntimeResponse → Prop)

/-- What the world outside may answer: any time, any identifier, the adapter's result for some set of failing
targets, and from the runtime what `answers` allows. -/
def env : (q : Query) → Answer q → Prop
  | .clock, _ => True
  | .newId, _ => True
  | .execute action now, result => ∃ failTargets, result = simulatedExecute failTargets action now
  | .invoke request, answer => answers request answer

/-! ### The steps -/

/-- `plan` is a proposal that the validator has found valid, under its lifecycle identifier. -/
def AcceptedPlan (facts : DemoScenario) (caseId : String) (previousPlans : List RecoveryPlan) (plan : RecoveryPlan) :
    Prop :=
  ∃ proposal preservedSegments, (validateProposal proposal facts preservedSegments).valid = true ∧
    plan = acceptPlan (validateProposal proposal facts preservedSegments).validatedPlan caseId previousPlans

/-- A case that starts with an accepted plan. -/
def Started (c : RecoveryCase) : Prop :=
  ∃ command caseId scenario candidate facts plan now, validationScenario scenario candidate = .ok facts ∧
    AcceptedPlan facts caseId [] plan ∧
      c = startedCase command caseId scenario
        (activeCase caseId (disruptionText command) plan scenario.requiredCoverage now) candidate

/-- The first version of a case. -/
inductive Initial (c : RecoveryCase) : Prop where
  /-- There is no option from the start. -/
  | noOption (command : StartRecoveryCommand) (caseId : String) (scenario : DemoScenario)
      (uncovered : List CoverageWindow) (now : Instant)
      (h : c = initialNoOptionCase command caseId scenario uncovered now)
  /-- There is a plan. -/
  | started (h : Started c)

/-- What `process_event` has found out about a decline of the case `c`. -/
structure DeclineOf (c : RecoveryCase) (event : RecoveryEvent) (scenario : DemoScenario)
    (outcome : InvalidationOutcome) :
    Prop where
  /-- The facts of the day, rebuilt from the case. -/
  facts : scenarioFor scenarioFactory c = .ok scenario
  /-- What the decline does. -/
  outcome : ∃ now, applyCaregiverDecline { c with updatedAt := now } event scenario = .ok outcome

/-- The declined case with an accepted plan, and the provider who was found for it. -/
def acceptedCase (outcome : InvalidationOutcome) (plan : RecoveryPlan) (assumptions : List PlanAssumption)
    (candidate : Option BackupCareCandidate) : RecoveryCase :=
  withResearched
    { outcome.recoveryCase with
      status := .executing
      activeRecoveryPlan := some plan
      assumptions
      uncoveredWindows := [] } candidate

/-- The case `c` with an accepted plan after a decline. -/
def Replanned (c c' : RecoveryCase) : Prop :=
  ∃ event scenario outcome response facts plan assumptions, DeclineOf scenarioFactory c event scenario outcome ∧
    answers (replanningRequest c.caseId outcome) (.ok response) ∧
      validationScenario outcome.updatedScenario response.researchedCandidate = .ok facts ∧
        AcceptedPlan facts c.caseId outcome.recoveryCase.previousPlans plan ∧
          c' = acceptedCase outcome plan assumptions response.researchedCandidate

/-- The version `c` was saved with a newly accepted plan, from a version among `seen` if it is not the first. -/
def Fresh (seen : Set RecoveryCase) (c : RecoveryCase) : Prop :=
  (∃ x, Started x ∧ c = stored x none) ∨
    ∃ c₀ ∈ seen, ∃ x, Replanned scenarioFactory answers c₀ x ∧ c = stored x (some c₀.version)

/-- How the loop of `execute` goes through the required actions. -/
inductive RanActions (planId : String) (existing : Dict String ExecutionAction) (now : Instant) :
    List ExecutionAction → ExecutionProgress → ExecutionProgress → Prop where
  /-- There are none. -/
  | nil {progress : ExecutionProgress} : RanActions planId existing now [] progress progress
  /-- An action has succeeded before. -/
  | skip {action prior : ExecutionAction} {rest : List ExecutionAction} {progress after : ExecutionProgress}
      (h : succeededRecord existing action.actionId = some prior)
      (hrest : RanActions planId existing now rest { progress with completed := progress.completed ++ [prior] } after) :
      RanActions planId existing now (action :: rest) progress after
  /-- An action is carried out. -/
  | run {action : ExecutionAction} {rest : List ExecutionAction} {progress after : ExecutionProgress}
      (failTargets : List String) (h : succeededRecord existing action.actionId = none)
      (hrest : RanActions planId existing now rest
        (progress.record planId (simulatedExecute failTargets action now) now) after) :
      RanActions planId existing now (action :: rest) progress after

/-- What a save that records no decline may do to a case `c`, by a program that has seen `seen`. -/
inductive WorkStep (seen : Set RecoveryCase) (c : RecoveryCase) : RecoveryCase → Prop where
  /-- The gate lets a new plan through. -/
  | gateExecuting {plan : RecoveryPlan} (now : Instant) (hfresh : Fresh scenarioFactory answers seen c)
      (hplan : c.activeRecoveryPlan = some plan) (hreasons : plan.approvalReasons = []) :
      WorkStep seen c (executingCase c plan now)
  /-- The gate asks for approval of a new plan. -/
  | gateApproval {plan : RecoveryPlan} {approval : ApprovalRequest} (now : Instant)
      (hfresh : Fresh scenarioFactory answers seen c) (hplan : c.activeRecoveryPlan = some plan)
      (hreasons : plan.approvalReasons ≠ []) (happroval : approval.planId = plan.planId)
      (hpending : approval.status = .pending) :
      WorkStep seen c (requestedCase c plan approval now)
  /-- A parent decides. -/
  | decide {approval : ApprovalRequest} (decision : ApprovalDecision) (now : Instant) (reason : Option String)
      (hmem : approval ∈ c.approvalHistory) (hcheck : checkDecision c approval = .ok ()) :
      WorkStep seen c (decidedCase c approval decision now reason)
  /-- The active plan is executed. -/
  | execute {plan : RecoveryPlan} {progress : ExecutionProgress} (now : Instant)
      (hcheck : checkExecution c = .ok plan)
      (hrun : RanActions plan.planId (actionDict c.executionHistory) now (requiredExecutionActions plan now)
        { history := c.executionHistory, events := withStartEvent c.events plan.planId now } progress) :
      WorkStep seen c (executedCase c progress now)
  /-- The case is resolved, by the facts rebuilt from a version `c₀` that the program has seen. -/
  | resolve {c₀ : RecoveryCase} {scenario : DemoScenario} {plan : RecoveryPlan} (now : Instant) (hc₀ : c₀ ∈ seen)
      (hfacts : scenarioFor scenarioFactory c₀ = .ok scenario) (hplan : c.activeRecoveryPlan = some plan)
      (herrors : completionErrors c plan scenario now = []) :
      WorkStep seen c (resolvedCase c plan.planId now)

/-- **What a save may do to a case** `c`, by a program that has seen `seen`. -/
inductive CaseStep (seen : Set RecoveryCase) (c : RecoveryCase) : RecoveryCase → Prop where
  /-- No decline is recorded. -/
  | work {c' : RecoveryCase} (h : WorkStep scenarioFactory answers seen c c') : CaseStep seen c c'
  /-- A decline leaves no option. -/
  | noOption {event : RecoveryEvent} {scenario : DemoScenario} {outcome : InvalidationOutcome} (externalDisabled : Bool)
      (uncovered : List CoverageWindow) (now : Instant) (h : DeclineOf scenarioFactory c event scenario outcome) :
      CaseStep seen c (noOptionCase outcome event externalDisabled uncovered now)
  /-- A decline is recorded, and no valid plan found. -/
  | replanFailed {event : RecoveryEvent} {scenario : DemoScenario} {outcome : InvalidationOutcome}
      (h : DeclineOf scenarioFactory c event scenario outcome) : CaseStep seen c outcome.recoveryCase
  /-- A decline is recorded, and a new plan accepted. -/
  | replanAccepted {c' : RecoveryCase} (h : Replanned scenarioFactory answers c c') : CaseStep seen c c'

variable {scenarioFactory answers}

theorem Fresh.mono {s t : Set RecoveryCase} {c : RecoveryCase} (hst : s ⊆ t)
    (h : Fresh scenarioFactory answers s c) : Fresh scenarioFactory answers t c := by
  rcases h with h | ⟨c₀, hc₀, h⟩
  · exact Or.inl h
  · exact Or.inr ⟨c₀, hst hc₀, h⟩

theorem WorkStep.mono {s t : Set RecoveryCase} {c c' : RecoveryCase} (hst : s ⊆ t)
    (h : WorkStep scenarioFactory answers s c c') : WorkStep scenarioFactory answers t c c' := by
  cases h with
  | gateExecuting now hfresh hplan hreasons => exact .gateExecuting now (hfresh.mono hst) hplan hreasons
  | gateApproval now hfresh hplan hreasons happroval hpending =>
    exact .gateApproval now (hfresh.mono hst) hplan hreasons happroval hpending
  | decide decision now reason hmem hcheck => exact .decide decision now reason hmem hcheck
  | execute now hcheck hrun => exact .execute now hcheck hrun
  | resolve now hc₀ hfacts hplan herrors => exact .resolve now (hst hc₀) hfacts hplan herrors

theorem CaseStep.mono {s t : Set RecoveryCase} {c c' : RecoveryCase} (hst : s ⊆ t)
    (h : CaseStep scenarioFactory answers s c c') : CaseStep scenarioFactory answers t c c' := by
  cases h with
  | work h => exact .work (h.mono hst)
  | noOption externalDisabled uncovered now h => exact .noOption externalDisabled uncovered now h
  | replanFailed h => exact .replanFailed h
  | replanAccepted h => exact .replanAccepted h

variable (scenarioFactory answers)

/-- The rules of the store of cases. -/
def rules : Rules RecoveryCase Answer where
  env := env answers
  init := Initial
  step := CaseStep scenarioFactory answers
  step_mono := CaseStep.mono

variable {scenarioFactory answers}

/-! ### Declines -/

section Declines

variable {c c' : RecoveryCase} {event : RecoveryEvent} {scenario : DemoScenario} {outcome : InvalidationOutcome}

/-- A decline invalidates the valid plan of the case and records the event. -/
theorem DeclineOf.eq_declinedCase (h : DeclineOf scenarioFactory c event scenario outcome) :
    ∃ decline plan now, checkDecline c event = .ok (decline, plan) ∧
      applyCaregiverDeclineToScenario scenario decline = .ok outcome.updatedScenario ∧
        ∃ assumptions reasons gap uncovered, outcome.recoveryCase = declinedCase { c with updatedAt := now } event
          (materializeCaregiverAssumptions plan) assumptions outcome.updatedScenario reasons gap uncovered := by
  obtain ⟨now, hout⟩ := h.outcome
  obtain ⟨decline, plan, hcheck, hupdated, assumptions, reasons, gap, uncovered, heq⟩ :=
    applyCaregiverDecline_eq_ok hout
  exact ⟨decline, plan, now, hcheck, hupdated, assumptions, reasons, gap, uncovered, heq⟩

theorem DeclineOf.caseId_eq (h : DeclineOf scenarioFactory c event scenario outcome) :
    outcome.recoveryCase.caseId = c.caseId := by
  obtain ⟨_, _, _, _, _, _, _, _, _, heq⟩ := h.eq_declinedCase
  rw [heq]
  rfl

theorem DeclineOf.status_eq (h : DeclineOf scenarioFactory c event scenario outcome) :
    outcome.recoveryCase.status = .replanning := by
  obtain ⟨_, _, _, _, _, _, _, _, _, heq⟩ := h.eq_declinedCase
  rw [heq]
  rfl

theorem DeclineOf.researched_eq (h : DeclineOf scenarioFactory c event scenario outcome) :
    outcome.recoveryCase.contextState.researchedBackupCareCandidate =
      c.contextState.researchedBackupCareCandidate := by
  obtain ⟨_, _, _, _, _, _, _, _, _, heq⟩ := h.eq_declinedCase
  rw [heq]
  rfl

end Declines

/-! ### The fields of a case -/

section AcceptedCase

variable (outcome : InvalidationOutcome) (plan : RecoveryPlan) (assumptions : List PlanAssumption)
  (candidate : Option BackupCareCandidate)

@[simp] theorem acceptedCase_caseId :
    (acceptedCase outcome plan assumptions candidate).caseId = outcome.recoveryCase.caseId := by
  cases candidate <;> rfl

@[simp] theorem acceptedCase_status : (acceptedCase outcome plan assumptions candidate).status = .executing := by
  cases candidate <;> rfl

@[simp] theorem acceptedCase_activeRecoveryPlan :
    (acceptedCase outcome plan assumptions candidate).activeRecoveryPlan = some plan := by
  cases candidate <;> rfl

@[simp] theorem acceptedCase_previousPlans :
    (acceptedCase outcome plan assumptions candidate).previousPlans = outcome.recoveryCase.previousPlans := by
  cases candidate <;> rfl

@[simp] theorem acceptedCase_events :
    (acceptedCase outcome plan assumptions candidate).events = outcome.recoveryCase.events := by
  cases candidate <;> rfl

@[simp] theorem acceptedCase_researched :
    (acceptedCase outcome plan assumptions candidate).contextState.researchedBackupCareCandidate =
      candidate.or outcome.recoveryCase.contextState.researchedBackupCareCandidate := by
  cases candidate <;> rfl

/-- What is saved of an accepted result is the accepted case. -/
theorem exists_acceptedCase_of_accept {priorCase : RecoveryCase} {event : RecoveryEvent} {attempts : PlanningAttempts}
    {accepted : ReplanningResult} {outcome : InvalidationOutcome} {candidate : Option BackupCareCandidate}
    (h : acceptReplanningResult priorCase (buildReplanningResult outcome event attempts candidate) = .ok accepted) :
    ∃ assumptions, withResearched accepted.recoveryCase accepted.researchedCandidate =
      acceptedCase outcome
        (acceptPlan attempts.last.validation.validatedPlan priorCase.caseId outcome.recoveryCase.previousPlans)
        assumptions candidate := by
  obtain ⟨-, ⟨assumptions, hcase⟩, -, hcandidate⟩ := acceptReplanningResult_eq_ok rfl h
  refine ⟨assumptions, ?_⟩
  rw [hcase, hcandidate]
  rfl

end AcceptedCase

section Fields

variable {seen : Set RecoveryCase} {c c' : RecoveryCase}

/-- At first nothing has been asked for, carried out or declined. -/
theorem Initial.nothing_yet (h : Initial c) :
    c.approvalHistory = [] ∧ c.executionHistory = [] ∧ c.pendingApproval = none ∧ c.declines = [] := by
  cases h with
  | noOption command caseId scenario uncovered now h =>
    subst h
    exact ⟨rfl, rfl, rfl, rfl⟩
  | started h =>
    obtain ⟨_, _, _, _, _, _, _, _, _, rfl⟩ := h
    exact ⟨rfl, rfl, rfl, rfl⟩

/-- What the steps other than declines leave alone. -/
structure Kept (c c' : RecoveryCase) : Prop where
  caseId : c'.caseId = c.caseId
  active : c'.activeRecoveryPlan = c.activeRecoveryPlan
  previous : c'.previousPlans = c.previousPlans
  declines : c'.declines = c.declines
  context : c'.contextState = c.contextState
  policy : c'.familyPolicy = c.familyPolicy

/-- What becomes of the plan when a decline is recorded. -/
inductive DeclinedPlan (scenarioFactory : DemoScenario)
    (answers : AgentRuntimeRequest → Except Failure AgentRuntimeResponse → Prop) (c c' : RecoveryCase)
    (plan : RecoveryPlan) : Prop where
  /-- There is no new one; the old one stays, invalid. -/
  | invalid (q : RecoveryPlan) (hactive : c'.activeRecoveryPlan = some q) (hid : q.planId = plan.planId)
      (hinvalid : q.validationState = .invalid) (hstatus : c'.status = .noRecoveryOption ∨ c'.status = .replanning)
      (hcontext : c'.contextState.researchedBackupCareCandidate = c.contextState.researchedBackupCareCandidate)
  /-- A new one is accepted. -/
  | replanned (h : Replanned scenarioFactory answers c c')

/-- What a recorded decline of a case with the active plan `plan` does to its fields. -/
structure Declined (scenarioFactory : DemoScenario)
    (answers : AgentRuntimeRequest → Except Failure AgentRuntimeResponse → Prop) (c c' : RecoveryCase)
    (decline : Decline) (plan : RecoveryPlan) : Prop where
  caseId : c'.caseId = c.caseId
  active : c.activeRecoveryPlan = some plan
  valid : plan.validationState = .valid
  facts : ∃ scenario updated, scenarioFor scenarioFactory c = .ok scenario ∧
    applyCaregiverDeclineToScenario scenario decline = .ok updated
  result : DeclinedPlan scenarioFactory answers c c' plan
  previous : c'.previousPlans =
    if plan.planId ∈ c.previousPlans.map (·.planId) then c.previousPlans
    else c.previousPlans ++ [materializeCaregiverAssumptions plan]
  declines : c'.declines = c.declines ++ [decline]
  pending : c'.pendingApproval = c.pendingApproval
  approvals : c'.approvalHistory = c.approvalHistory
  actions : c'.executionHistory = c.executionHistory
  snapshot : c'.contextState.scenarioSnapshot = c.contextState.scenarioSnapshot
  policy : c'.familyPolicy = c.familyPolicy

theorem Replanned.status_eq (h : Replanned scenarioFactory answers c c') : c'.status = .executing := by
  obtain ⟨_, _, _, _, _, _, _, _, _, _, _, rfl⟩ := h
  exact acceptedCase_status ..

/-- A case that has just been given a plan waits for the gate. -/
theorem Fresh.status_eq (h : Fresh scenarioFactory answers seen c) :
    c.status = .waitingForResponse ∨ c.status = .executing := by
  rcases h with ⟨x, ⟨_, _, _, _, _, _, _, _, _, rfl⟩, rfl⟩ | ⟨c₀, _, x, hx, rfl⟩
  · exact Or.inl rfl
  · exact Or.inr hx.status_eq

/-- A decline leaves no case waiting for approval. -/
theorem Declined.status_ne {decline : Decline} {plan : RecoveryPlan}
    (h : Declined scenarioFactory answers c c' decline plan) : c'.status ≠ .approvalRequired := by
  cases h.result with
  | invalid q _ _ _ hstatus _ =>
    rcases hstatus with hs | hs
    · simp [hs]
    · simp [hs]
  | replanned hr => simp [hr.status_eq]

variable {planId : String} {existing : Dict String ExecutionAction} {now : Instant} {required : List ExecutionAction}
  {progress after : ExecutionProgress}

/-- Execution records no decline. -/
theorem RanActions.declines_eq (h : RanActions planId existing now required progress after) :
    after.events.filterMap RecoveryEvent.decline? = progress.events.filterMap RecoveryEvent.decline? := by
  induction h with
  | nil => rfl
  | skip _ _ ih => exact ih
  | run failTargets _ _ ih =>
    rw [ih, ExecutionProgress.record, List.filterMap_append, List.filterMap_cons_none (actionEvent_decline? ..),
      List.filterMap_nil, List.append_nil]

/-- What execution adds to the history is the adapter's result for a required action. -/
theorem RanActions.mem_history (h : RanActions planId existing now required progress after) {a : ExecutionAction}
    (ha : a ∈ after.history) :
    a ∈ progress.history ∨ ∃ action ∈ required, ∃ failTargets, a = simulatedExecute failTargets action now := by
  induction h with
  | nil => exact Or.inl ha
  | skip _ _ ih =>
    rcases ih ha with ha | ⟨action, haction, hres⟩
    · exact Or.inl ha
    · exact Or.inr ⟨action, List.mem_cons_of_mem _ haction, hres⟩
  | @run action rest progress after failTargets _ _ ih =>
    rcases ih ha with ha | ⟨action, haction, hres⟩
    · rcases List.mem_append.mp ha with ha | ha
      · exact Or.inl (List.mem_filter.mp ha).1
      · exact Or.inr ⟨action, List.mem_cons_self .., failTargets, List.mem_singleton.mp ha⟩
    · exact Or.inr ⟨action, List.mem_cons_of_mem _ haction, hres⟩

/-- What is saved after a decline agrees with the outcome of the decline on the fields that `Declined` speaks of,
apart from the active plan. -/
structure MatchesOutcome (outcome : InvalidationOutcome) (c' : RecoveryCase) : Prop where
  caseId : c'.caseId = outcome.recoveryCase.caseId
  previous : c'.previousPlans = outcome.recoveryCase.previousPlans
  declines : c'.declines = outcome.recoveryCase.declines
  pending : c'.pendingApproval = outcome.recoveryCase.pendingApproval
  approvals : c'.approvalHistory = outcome.recoveryCase.approvalHistory
  actions : c'.executionHistory = outcome.recoveryCase.executionHistory
  snapshot : c'.contextState.scenarioSnapshot = outcome.recoveryCase.contextState.scenarioSnapshot
  policy : c'.familyPolicy = outcome.recoveryCase.familyPolicy

theorem MatchesOutcome.refl (outcome : InvalidationOutcome) : MatchesOutcome outcome outcome.recoveryCase :=
  ⟨rfl, rfl, rfl, rfl, rfl, rfl, rfl, rfl⟩

theorem matchesOutcome_acceptedCase (outcome : InvalidationOutcome) (plan : RecoveryPlan)
    (assumptions : List PlanAssumption) (candidate : Option BackupCareCandidate) :
    MatchesOutcome outcome (acceptedCase outcome plan assumptions candidate) := by
  cases candidate with
  | none => exact ⟨rfl, rfl, rfl, rfl, rfl, rfl, rfl, rfl⟩
  | some candidate => exact ⟨rfl, rfl, rfl, rfl, rfl, rfl, rfl, rfl⟩

variable (answers) in
theorem DeclineOf.declined {event : RecoveryEvent} {scenario : DemoScenario} {outcome : InvalidationOutcome}
    (h : DeclineOf scenarioFactory c event scenario outcome) (hmatches : MatchesOutcome outcome c')
    (hresult : ∀ plan, (∃ q, outcome.recoveryCase.activeRecoveryPlan = some q ∧ q.planId = plan.planId ∧
      q.validationState = .invalid) → DeclinedPlan scenarioFactory answers c c' plan) :
    ∃ decline plan, event.decline? = some decline ∧
      applyCaregiverDeclineToScenario scenario decline = .ok outcome.updatedScenario ∧
        Declined scenarioFactory answers c c' decline plan := by
  obtain ⟨decline, plan, now, hcheck, hupdated, assumptions, reasons, gap, uncovered, heq⟩ := h.eq_declinedCase
  obtain ⟨hdecline, -, hactive, hvalid⟩ := checkDecline_eq_ok hcheck
  have hresult := hresult plan ⟨_, congrArg RecoveryCase.activeRecoveryPlan heq, rfl, rfl⟩
  obtain ⟨hcase, hprevious, hdeclines, hpending, happrovals, hactions, hsnapshot, hpolicy⟩ := hmatches
  rw [heq] at hcase hprevious hdeclines hpending happrovals hactions hsnapshot hpolicy
  refine ⟨decline, plan, hdecline, hupdated, hcase, hactive, hvalid, ⟨scenario, _, h.facts, hupdated⟩, hresult,
    hprevious, ?_, hpending, happrovals, hactions, hsnapshot, hpolicy⟩
  rw [hdeclines]
  simp [RecoveryCase.declines, declinedCase, hdecline]

/-- The declined case for which there is no option: its last event names the same decline, with more details. -/
theorem matchesOutcome_noOptionCase {event : RecoveryEvent} {scenario : DemoScenario} {outcome : InvalidationOutcome}
    (h : DeclineOf scenarioFactory c event scenario outcome) (externalDisabled : Bool)
    (uncovered : List CoverageWindow) (now : Instant) :
    MatchesOutcome outcome (noOptionCase outcome event externalDisabled uncovered now) := by
  obtain ⟨_, _, _, _, _, _, _, _, _, heq⟩ := h.eq_declinedCase
  have hevents : outcome.recoveryCase.events = c.events ++ [event] := by rw [heq]; rfl
  refine ⟨rfl, rfl, ?_, rfl, rfl, rfl, rfl, rfl⟩
  simp only [RecoveryCase.declines, noOptionCase, hevents, List.dropLast_concat, List.filterMap_append]
  rfl

/-- What the newly accepted plan `plan` of `c'` rests on: the facts rebuilt from `c`, the decline, the runtime's
answer and the facts with its provider. -/
structure AcceptedAfter (scenarioFactory : DemoScenario)
    (answers : AgentRuntimeRequest → Except Failure AgentRuntimeResponse → Prop) (c c' : RecoveryCase)
    (decline : Decline) (old : RecoveryPlan) (scenario updated facts : DemoScenario)
    (response : AgentRuntimeResponse) (plan : RecoveryPlan) : Prop where
  declined : Declined scenarioFactory answers c c' decline old
  rebuilt : scenarioFor scenarioFactory c = .ok scenario
  applied : applyCaregiverDeclineToScenario scenario decline = .ok updated
  answered : ∃ request context, request.replanningContext = some context ∧
    context.recoveryCase.caseId = c'.caseId ∧ context.recoveryCase.events = c'.events ∧
      context.recoveryCase.contextState.researchedBackupCareCandidate =
        c.contextState.researchedBackupCareCandidate ∧ answers request (.ok response)
  validated : validationScenario updated response.researchedCandidate = .ok facts
  accepted : ∃ previousPlans, AcceptedPlan facts c.caseId previousPlans plan
  active : c'.activeRecoveryPlan = some plan
  researched : c'.contextState.researchedBackupCareCandidate =
    response.researchedCandidate.or c.contextState.researchedBackupCareCandidate

theorem Replanned.acceptedAfter (h : Replanned scenarioFactory answers c c') :
    ∃ decline old scenario updated facts response plan,
      AcceptedAfter scenarioFactory answers c c' decline old scenario updated facts response plan := by
  obtain ⟨event, scenario, outcome, response, facts, plan, assumptions, hdecline, hanswer, hfacts, haccepted, rfl⟩ :=
    id h
  obtain ⟨decline, old, hevent, happly, hd⟩ := hdecline.declined answers
    (matchesOutcome_acceptedCase outcome plan assumptions response.researchedCandidate) fun _ _ => .replanned h
  refine ⟨decline, old, scenario, outcome.updatedScenario, facts, response, plan, hd, hdecline.facts, happly, ?_,
    hfacts, ⟨_, haccepted⟩, acceptedCase_activeRecoveryPlan .., ?_⟩
  · exact ⟨_, replanningContext outcome, rfl, (acceptedCase_caseId ..).symm, (acceptedCase_events ..).symm,
      hdecline.researched_eq, hanswer⟩
  · rw [acceptedCase_researched, hdecline.researched_eq]

/-- A step that records no decline keeps the plan and the facts. -/
theorem WorkStep.kept (h : WorkStep scenarioFactory answers seen c c') : Kept c c' := by
  cases h with
  | gateExecuting now _ hplan _ => exact ⟨rfl, hplan.symm, rfl, RecoveryCase.declines_congr rfl, rfl, rfl⟩
  | gateApproval now _ hplan _ _ _ =>
    refine ⟨rfl, hplan.symm, rfl, ?_, rfl, rfl⟩
    simp [RecoveryCase.declines, requestedCase, approvalRequestedEvent_decline?]
  | decide decision now reason _ _ =>
    refine ⟨rfl, rfl, rfl, ?_, rfl, rfl⟩
    simp [RecoveryCase.declines, decidedCase, decisionEvent_decline?]
  | execute now _ hrun => exact ⟨rfl, rfl, rfl, hrun.declines_eq.trans (withStartEvent_declines ..), rfl, rfl⟩
  | resolve now _ _ _ _ => exact ⟨rfl, rfl, rfl, withCompletionEvents_declines .., rfl, rfl⟩

/-- **A step records no decline, or does what a decline does**, whatever comes of it. -/
theorem CaseStep.work_or_declined (h : CaseStep scenarioFactory answers seen c c') :
    WorkStep scenarioFactory answers seen c c' ∨
      ∃ decline plan, Declined scenarioFactory answers c c' decline plan := by
  cases h with
  | work h => exact Or.inl h
  | @noOption event scenario outcome externalDisabled uncovered now h =>
    have hmatches := matchesOutcome_noOptionCase h externalDisabled uncovered now
    obtain ⟨decline, plan, -, -, hd⟩ := h.declined answers hmatches
      fun plan ⟨q, hq, hid, hinvalid⟩ => .invalid q hq hid hinvalid (Or.inl rfl) h.researched_eq
    exact Or.inr ⟨decline, plan, hd⟩
  | replanFailed h =>
    obtain ⟨decline, plan, -, -, hd⟩ := h.declined answers (.refl _)
      fun plan ⟨q, hq, hid, hinvalid⟩ => .invalid q hq hid hinvalid (Or.inr h.status_eq) h.researched_eq
    exact Or.inr ⟨decline, plan, hd⟩
  | replanAccepted h =>
    obtain ⟨decline, plan, _, _, _, _, _, hr⟩ := h.acceptedAfter
    exact Or.inr ⟨decline, plan, hr.declined⟩

end Fields

/-! ### Giving up

A case is saved without options only after the service has found that neither known options nor a provider can help.
-/

section GivingUp

/-- The service has found no option for the day. -/
structure StopsAtOnce (scenario : DemoScenario) (need : RecoveryNeed) : Prop where
  assessed : assessKnownOptionRecoveryNeed scenario none none = .ok need
  stop : noInitialOption scenario need = .ok true

/-- The service has found no option after a decline. -/
structure StopsAfter (scenario : DemoScenario) (outcome : InvalidationOutcome) (need : RecoveryNeed) : Prop where
  assessed : assessKnownOptionRecoveryNeed outcome.updatedScenario (some outcome.uncoveredWindows)
    (some outcome.preservedSegments) = .ok need
  stop : noRecoveryOption scenario outcome need = .ok true

/-- The case is given up as soon as the disruption is reported. -/
def GivenUpAtOnce (c : RecoveryCase) : Prop :=
  ∃ command caseId scenario need now, StopsAtOnce scenario need ∧
    c = initialNoOptionCase command caseId scenario need.requestedWindows now

/-- The case `c` is given up after a decline. -/
def GivenUpAfter (scenarioFactory : DemoScenario) (c c' : RecoveryCase) : Prop :=
  ∃ event scenario outcome need now, DeclineOf scenarioFactory c event scenario outcome ∧
    StopsAfter scenario outcome need ∧
      c' = noOptionCase outcome event (!scenario.policy.allowExternalBackupProviders) need.requestedWindows now

/-- A first version for which the service has checked that there is no option, if it says so. -/
def CheckedInitial (c : RecoveryCase) : Prop := Initial c ∧ (c.status = .noRecoveryOption → GivenUpAtOnce c)

/-- A step for which the service has checked that there is no option, if it says so. -/
def CheckedStep (scenarioFactory : DemoScenario)
    (answers : AgentRuntimeRequest → Except Failure AgentRuntimeResponse → Prop) (seen : Set RecoveryCase)
    (c c' : RecoveryCase) : Prop :=
  CaseStep scenarioFactory answers seen c c' ∧ (c'.status = .noRecoveryOption → GivenUpAfter scenarioFactory c c')

variable (scenarioFactory answers) in
/-- The rules of the store of cases, with what the service has checked. -/
def checkedRules : Rules RecoveryCase Answer where
  env := env answers
  init := CheckedInitial
  step := CheckedStep scenarioFactory answers
  step_mono := fun hst h => ⟨h.1.mono hst, h.2⟩

variable {seen : Set RecoveryCase} {c c' : RecoveryCase}

theorem WorkStep.status_ne (h : WorkStep scenarioFactory answers seen c c') : c'.status ≠ .noRecoveryOption := by
  cases h with
  | gateExecuting now _ _ _ => simp [executingCase]
  | gateApproval now _ _ _ _ _ => simp [requestedCase]
  | decide decision now reason _ _ => cases decision <;> simp [decidedCase]
  | @execute plan progress now _ _ => cases hs : progress.succeeded <;> simp [executedCase, hs]
  | resolve now _ _ _ _ => simp [resolvedCase]

theorem WorkStep.checked (h : WorkStep scenarioFactory answers seen c c') :
    CheckedStep scenarioFactory answers seen c c' :=
  ⟨.work h, fun hs => absurd hs h.status_ne⟩

theorem Started.checked (h : Started c) : CheckedInitial c := by
  refine ⟨.started h, fun hs => ?_⟩
  obtain ⟨_, _, _, _, _, _, _, _, _, rfl⟩ := h
  cases hs

theorem Replanned.checked (h : Replanned scenarioFactory answers c c') :
    CheckedStep scenarioFactory answers seen c c' := by
  refine ⟨.replanAccepted h, fun hs => ?_⟩
  rw [h.status_eq] at hs
  cases hs

theorem DeclineOf.checked {event : RecoveryEvent} {scenario : DemoScenario} {outcome : InvalidationOutcome}
    (h : DeclineOf scenarioFactory c event scenario outcome) :
    CheckedStep scenarioFactory answers seen c outcome.recoveryCase := by
  refine ⟨.replanFailed h, fun hs => ?_⟩
  rw [h.status_eq] at hs
  cases hs

end GivingUp

/-! ### Assumptions

What a case assumes only ever comes from a plan that was accepted, and is invalidated by declines.
-/

section Assumptions

/-- The case, or its valid plan, assumes it. -/
def Assumes (c : RecoveryCase) (assumption : PlanAssumption) : Prop :=
  assumption ∈ c.assumptions ∨ ∃ plan, c.activeRecoveryPlan = some plan ∧ plan.validationState = .valid ∧
    assumption ∈ (materializeCaregiverAssumptions plan).assumptions

/-- Where an assumption of the version `c'` after `c` comes from. -/
inductive LedgerEntry (c c' : RecoveryCase) (assumption : PlanAssumption) : Prop where
  /-- It was assumed before. -/
  | kept (h : Assumes c assumption)
  /-- A plan that has just been accepted assumes it. -/
  | accepted (plan : RecoveryPlan) (hactive : c'.activeRecoveryPlan = some plan)
      (hvalid : plan.validationState = .valid) (h : assumption ∈ (materializeCaregiverAssumptions plan).assumptions)
  /-- It has been invalidated by a decline. -/
  | invalidated (event : RecoveryEvent) (decline : Decline) (earlier : PlanAssumption)
      (hdeclines : c'.declines = c.declines ++ [decline]) (hearlier : Assumes c earlier)
      (hmatches : Matches decline earlier) (h : assumption = invalidateAssumption event decline earlier)

/-- A checked step, of whose assumptions it is known where they come from. -/
def LedgerStep (scenarioFactory : DemoScenario)
    (answers : AgentRuntimeRequest → Except Failure AgentRuntimeResponse → Prop) (seen : Set RecoveryCase)
    (c c' : RecoveryCase) : Prop :=
  CheckedStep scenarioFactory answers seen c c' ∧ ∀ assumption ∈ c'.assumptions, LedgerEntry c c' assumption

/-- A checked first version assumes what its plan assumes. -/
def LedgerInitial (c : RecoveryCase) : Prop :=
  CheckedInitial c ∧ ∀ assumption ∈ c.assumptions, ∃ plan, c.activeRecoveryPlan = some plan ∧
    plan.validationState = .valid ∧ assumption ∈ (materializeCaregiverAssumptions plan).assumptions

variable (scenarioFactory answers) in
/-- The rules of the store of cases, with what the service has checked and where assumptions come from. -/
def ledgerRules : Rules RecoveryCase Answer where
  env := env answers
  init := LedgerInitial
  step := LedgerStep scenarioFactory answers
  step_mono := fun hst h => ⟨⟨h.1.1.mono hst, h.1.2⟩, h.2⟩

variable {seen : Set RecoveryCase} {c c' : RecoveryCase}

/-- A step that records no decline leaves the assumptions alone. -/
theorem WorkStep.ledger (h : WorkStep scenarioFactory answers seen c c') :
    LedgerStep scenarioFactory answers seen c c' := by
  refine ⟨h.checked, fun assumption hmem => .kept (Or.inl ?_)⟩
  cases h with
  | gateExecuting now _ _ _ => exact hmem
  | gateApproval now _ _ _ _ _ => exact hmem
  | decide decision now reason _ _ => cases decision <;> exact hmem
  | execute now _ _ => exact hmem
  | resolve now _ _ _ _ => exact hmem

/-- An accepted plan is valid. -/
theorem AcceptedPlan.validationState_eq {facts : DemoScenario} {caseId : String} {previousPlans : List RecoveryPlan}
    {plan : RecoveryPlan} (h : AcceptedPlan facts caseId previousPlans plan) : plan.validationState = .valid := by
  obtain ⟨proposal, preservedSegments, hvalid, rfl⟩ := h
  exact (validateProposal_marks proposal facts preservedSegments).2 hvalid

theorem Started.ledger (h : Started c) : LedgerInitial c := by
  refine ⟨h.checked, fun assumption hmem => ?_⟩
  obtain ⟨_, _, _, _, _, plan, _, _, haccepted, rfl⟩ := h
  exact ⟨materializeCaregiverAssumptions plan, rfl, haccepted.validationState_eq,
    (materializeCaregiverAssumptions_idem plan).symm ▸ hmem⟩

/-- What a decline leaves of the assumptions. -/
theorem DeclineOf.ledgerEntry {event : RecoveryEvent} {scenario : DemoScenario} {outcome : InvalidationOutcome}
    (h : DeclineOf scenarioFactory c event scenario outcome) (hmatches : MatchesOutcome outcome c') :
    ∀ assumption ∈ outcome.recoveryCase.assumptions, LedgerEntry c c' assumption := by
  obtain ⟨now, hout⟩ := h.outcome
  obtain ⟨decline, plan, hcheck, hassumptions⟩ := assumptions_of_applyCaregiverDecline hout
  obtain ⟨hdecline, -, hactive, hvalid⟩ := checkDecline_eq_ok hcheck
  have hassumes : ∀ assumption ∈ assumptionsOf c plan, Assumes c assumption := by
    intro assumption hmem
    rw [assumptionsOf] at hmem
    split at hmem
    · exact Or.inr ⟨plan, hactive, hvalid, hmem⟩
    · exact Or.inl hmem
  have hdeclines : c'.declines = c.declines ++ [decline] := by
    obtain ⟨decline', plan', later, hcheck', -, _, _, _, _, heq⟩ := h.eq_declinedCase
    obtain rfl := Option.some.inj (hdecline.symm.trans (checkDecline_eq_ok hcheck').1)
    rw [hmatches.declines, heq]
    simp [RecoveryCase.declines, declinedCase, hdecline]
  intro assumption hmem
  rw [hassumptions] at hmem
  obtain ⟨earlier, hearlier, rfl⟩ := List.mem_map.mp hmem
  split
  next hm => exact .invalidated event decline earlier hdeclines (hassumes earlier hearlier) hm rfl
  next => exact .kept (hassumes earlier hearlier)

end Assumptions

end DayMend.Runs
