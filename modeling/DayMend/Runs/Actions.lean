import DayMend.Runs.Authorisation

/-!
# The actions of a case

The identifier of an action is made of the identifier of its plan, which is made of that
of the case and a number; so it tells the plan (`ActionNamed.planId_eq`). With it a
case keeps its actions in order (`ActionsOk`): they belong to plans that the case has
had, and to the active plan only if it needs no approval or has it.
-/

namespace DayMend.Runs

open DayMend.Base DayMend.Models DayMend.Fixtures DayMend.Services DayMend.Agent DayMend.Application

variable {scenarioFactory : DemoScenario}
  {answers : AgentRuntimeRequest → Except Failure AgentRuntimeResponse → Prop} {seen : Set RecoveryCase}
  {c c' : RecoveryCase} {past : List RecoveryCase} {plan : RecoveryPlan}

/-! ### The identifiers of actions -/

/-- The active plan has a lifecycle identifier of the case. -/
def PlanNamed (c : RecoveryCase) : Prop :=
  ∀ p, c.activeRecoveryPlan = some p → ∃ n, p.planId = lifecycleId c.caseId n

/-- An action is named after its plan, which has a lifecycle identifier of the case. -/
def ActionNamed (caseId : String) (a : ExecutionAction) : Prop :=
  ∃ n rest, a.planId = lifecycleId caseId n ∧
    (a.actionId = "calendar:" ++ a.planId ++ ":" ++ rest ∨ a.actionId = "caregiver:" ++ a.planId ++ ":" ++ rest)

theorem AcceptedPlan.exists_lifecycleId {facts : DemoScenario} {caseId : String} {previousPlans : List RecoveryPlan}
    (h : AcceptedPlan facts caseId previousPlans plan) : ∃ n, plan.planId = lifecycleId caseId n := by
  obtain ⟨_, _, _, rfl⟩ := h
  exact ⟨_, rfl⟩

theorem planNamed_of_history {l : List RecoveryCase} (h : CaseHistory scenarioFactory answers l) :
    ∀ c ∈ l, PlanNamed c := by
  refine h.forall_mem (fun c hinit => ?_) fun past c c' _ hold hs => ?_
  · cases hinit with
    | noOption command caseId scenario uncovered now h =>
      subst h
      intro p hp
      cases hp
    | started h =>
      have hfresh : Fresh scenarioFactory answers ∅ (stored c none) := Or.inl ⟨c, h, rfl⟩
      obtain ⟨q, facts, previousPlans, hq, haccepted⟩ := hfresh.exists_acceptedPlan
      intro p hp
      obtain rfl := Option.some.inj (hq.symm.trans hp)
      exact haccepted.exists_lifecycleId
  · have hprior : PlanNamed c := hold c (List.mem_cons_self ..)
    have hnext : PlanNamed c' := by
      intro p hp
      rcases hs.work_or_declined with hw | ⟨decline, old, hd⟩
      · rw [hw.kept.caseId]
        exact hprior p (hw.kept.active ▸ hp)
      · rw [hd.caseId]
        cases hd.result with
        | invalid q hactive hid _ _ _ =>
          obtain rfl := Option.some.inj (hactive.symm.trans hp)
          rw [hid]
          exact hprior old hd.active
        | replanned hr =>
          obtain ⟨_, _, _, _, _, _, q, ha⟩ := hr.acceptedAfter
          obtain rfl := Option.some.inj (ha.active.symm.trans hp)
          obtain ⟨previousPlans, haccepted⟩ := ha.accepted
          exact haccepted.exists_lifecycleId
    exact hnext

/-- A required action is named after its plan. -/
theorem actionNamed_of_required {caseId : String} {n : ℕ} (hplan : plan.planId = lifecycleId caseId n) {now : Instant}
    {action : ExecutionAction} (h : action ∈ requiredExecutionActions plan now) : ActionNamed caseId action := by
  rcases List.mem_append.mp h with h | h
  · obtain ⟨event, -, rfl⟩ := List.mem_map.mp h
    exact ⟨n, event.eventId, hplan, Or.inl (calendarAction_actionId plan now event)⟩
  · obtain ⟨s, -, rfl⟩ := List.mem_map.mp h
    exact ⟨n, s.segmentId, hplan, Or.inr (caregiverAction_actionId plan now s)⟩

/-- **The identifier of an action tells the plan.** -/
theorem ActionNamed.planId_eq {caseId : String} {a b : ExecutionAction} (ha : ActionNamed caseId a)
    (hb : ActionNamed caseId b) (hid : a.actionId = b.actionId) : a.planId = b.planId := by
  obtain ⟨n, x, hn, hname⟩ := ha
  obtain ⟨m, y, hm, hname'⟩ := hb
  have hnumeral : ∀ kind : String, kind ++ a.planId ++ ":" ++ x = kind ++ b.planId ++ ":" ++ y →
      a.planId = b.planId := by
    intro kind heq
    rw [hn, hm, lifecycleId_eq, lifecycleId_eq] at heq
    simp only [String.append_assoc] at heq
    have hnumerals := append_left_cancel (append_left_cancel (append_left_cancel heq))
    simp only [← String.append_assoc] at hnumerals
    rw [hn, hm, numeral_colon_inj hnumerals]
  rcases hname with hname | hname
  · rcases hname' with hname' | hname'
    · exact hnumeral _ (hname ▸ hname' ▸ hid)
    · -- the third letter tells the kinds of actions apart
      have hfront := congrArg (fun t : String => t.toList.take 3) (hname ▸ hname' ▸ hid)
      simp at hfront
  · rcases hname' with hname' | hname'
    · have hfront := congrArg (fun t : String => t.toList.take 3) (hname ▸ hname' ▸ hid)
      simp at hfront
    · exact hnumeral _ (hname ▸ hname' ▸ hid)

/-! ### Execution and approval -/

/-- Nothing has been carried out for the active plan. -/
def NoneYet (c : RecoveryCase) : Prop :=
  ∀ p, c.activeRecoveryPlan = some p → ∀ a ∈ c.executionHistory, a.planId ≠ p.planId

/-- What is kept of the actions of a case. -/
structure ActionsOk (c : RecoveryCase) : Prop where
  /-- They belong to plans that the case has had. -/
  known : ∀ a ∈ c.executionHistory, a.planId ∈ planIds c
  /-- They are named after their plans. -/
  named : ∀ a ∈ c.executionHistory, ActionNamed c.caseId a
  /-- While a plan waits for approval, nothing is carried out for it. -/
  waiting : c.status = .approvalRequired → NoneYet c
  /-- Where something has been carried out for a valid plan, it needs no approval or has it. -/
  approved : ∀ p, c.activeRecoveryPlan = some p → p.validationState = .valid →
    ∀ a ∈ c.executionHistory, a.planId = p.planId →
      p.approvalReasons = [] ∨ ApprovedFor c.approvalHistory p.planId

/-- A new plan has an identifier that no action knows. -/
theorem Fresh.noneYet (h : Fresh scenarioFactory answers seen c)
    (hknown : ∀ x ∈ seen, ∀ a ∈ x.executionHistory, a.planId ∈ planIds x) : NoneYet c := by
  intro p hp a ha heq
  rcases h with ⟨x, hx, rfl⟩ | ⟨c₀, hc₀, x, hx, rfl⟩
  · have hnone : (stored x none).executionHistory = [] := (Initial.started hx).nothing_yet.2.1
    rw [hnone] at ha
    cases ha
  · obtain ⟨q, hq, hnew⟩ := hx.planId_notMem
    obtain rfl := Option.some.inj (hq.symm.trans hp)
    obtain ⟨_, _, _, _, _, _, _, hafter⟩ := hx.acceptedAfter
    have hold : a ∈ c₀.executionHistory := by
      rw [← hafter.declined.actions]
      exact ha
    exact hnew (hafter.declined.planIds_subset_previous (heq ▸ hknown c₀ hc₀ a hold))

/-- Where no action is added and nothing has been carried out for the active plan. -/
theorem ActionsOk.of_noneYet (h : ActionsOk c) (hactions : c'.executionHistory = c.executionHistory)
    (hids : planIds c ⊆ planIds c') (hcase : c'.caseId = c.caseId) (hnone : NoneYet c') : ActionsOk c' where
  known := by
    intro a ha
    exact hids (h.known a (hactions ▸ ha))
  named := by
    intro a ha
    rw [hcase]
    exact h.named a (hactions ▸ ha)
  waiting := fun _ => hnone
  approved := fun p hp _ a ha heq => absurd heq (hnone p hp a ha)

theorem ActionsOk.of_initial (h : Initial c) : ActionsOk c := by
  obtain ⟨-, hnone, -, -⟩ := h.nothing_yet
  exact ⟨by simp [hnone], by simp [hnone], fun _ => by simp [NoneYet, hnone], by simp [hnone]⟩

/-- Execution adds only actions of the plan that it has checked. -/
theorem ActionsOk.executed (h : ActionsOk c) (hnamed : PlanNamed c) {progress : ExecutionProgress} {now : Instant}
    (hcheck : checkExecution c = .ok plan)
    (hrun : RanActions plan.planId (actionDict c.executionHistory) now (requiredExecutionActions plan now)
      { history := c.executionHistory, events := withStartEvent c.events plan.planId now } progress) :
    ActionsOk (executedCase c progress now) := by
  obtain ⟨hactive, -, -, -, happroved⟩ := checkExecution_eq_ok hcheck
  have hnew : ∀ a ∈ progress.history,
      a ∈ c.executionHistory ∨ a.planId = plan.planId ∧ ActionNamed c.caseId a := by
    intro a ha
    rcases hrun.mem_history ha with hold | ⟨action, hrequired, failTargets, rfl⟩
    · exact Or.inl hold
    · obtain ⟨hplanId, hactionId⟩ := simulatedExecute_ids failTargets action now
      obtain ⟨n, hn⟩ := hnamed plan hactive
      obtain ⟨m, rest, hm, hname⟩ := actionNamed_of_required hn hrequired
      refine Or.inr ⟨hplanId.trans (planId_of_mem_requiredExecutionActions hrequired).1, m, rest, ?_, ?_⟩
      · rw [hplanId, hm]
      · rw [hplanId, hactionId]
        exact hname
  refine ⟨fun a ha => ?_, fun a ha => ?_, fun hstatus => ?_, fun p hp _ a ha heq => ?_⟩
  · rcases hnew a ha with hold | ⟨hid, -⟩
    · exact h.known a hold
    · rw [hid]
      exact planId_mem_planIds (c := executedCase c progress now) hactive
  · rcases hnew a ha with hold | ⟨-, hname⟩
    · exact h.named a hold
    · exact hname
  · rw [executedCase] at hstatus
    dsimp only at hstatus
    split at hstatus <;> cases hstatus
  · obtain rfl := Option.some.inj (hactive.symm.trans hp)
    exact happroved

/-- **A step keeps the actions in order.** -/
theorem ActionsOk.step (h : ActionsOk c) (hseen : ∀ x ∈ seen, ActionsOk x) (hnamed : PlanNamed c)
    (hs : CaseStep scenarioFactory answers seen c c') : ActionsOk c' := by
  have hids := hs.planIds_subset
  rcases hs.work_or_declined with hw | ⟨decline, old, hd⟩
  · have hkept := hw.kept
    cases hw with
    | gateExecuting now hfresh hplan _ =>
      have hnone := hfresh.noneYet fun x hx => (hseen x hx).known
      exact h.of_noneYet rfl hids rfl fun p hp => hnone p (hkept.active ▸ hp)
    | gateApproval now hfresh hplan _ _ _ =>
      have hnone := hfresh.noneYet fun x hx => (hseen x hx).known
      exact h.of_noneYet rfl hids rfl fun p hp => hnone p (hkept.active ▸ hp)
    | decide decision now reason _ hcheck =>
      obtain ⟨-, hstatus, -, -⟩ := checkDecision_eq_ok hcheck
      exact h.of_noneYet rfl hids rfl (h.waiting hstatus)
    | execute now hcheck hrun => exact h.executed hnamed hcheck hrun
    | resolve now _ _ _ _ => exact ⟨h.known, h.named, fun hstatus => (by cases hstatus), h.approved⟩
  · refine ⟨fun a ha => hids (h.known a (hd.actions ▸ ha)), fun a ha => ?_, fun hstatus => absurd hstatus hd.status_ne,
      fun p hp hvalid a ha heq => ?_⟩
    · rw [hd.caseId]
      exact h.named a (hd.actions ▸ ha)
    · rcases hd.invalid_or_new with ⟨q, hq, -, hinvalid, -⟩ | ⟨q, hq, hnew⟩
      · obtain rfl := Option.some.inj (hq.symm.trans hp)
        rw [hinvalid] at hvalid
        cases hvalid
      · obtain rfl := Option.some.inj (hq.symm.trans hp)
        exact absurd (heq ▸ h.known a (hd.actions ▸ ha)) hnew

theorem actionsOk_of_history {l : List RecoveryCase} (h : CaseHistory scenarioFactory answers l) :
    ∀ c ∈ l, ActionsOk c := by
  refine h.forall_mem (fun c hinit => ?_) fun past c c' hist hold hs => ?_
  · have hstart := ActionsOk.of_initial hinit
    exact ⟨hstart.known, hstart.named, hstart.waiting, hstart.approved⟩
  · have hc := hold c (List.mem_cons_self ..)
    have hnext : ActionsOk c' := hc.step hold (planNamed_of_history hist c (List.mem_cons_self ..)) hs
    exact ⟨hnext.known, hnext.named, hnext.waiting, hnext.approved⟩

end DayMend.Runs
