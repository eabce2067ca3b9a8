import DayMend.Runs.Programs

/-!
# No unauthorised execution

Whatever the order in which declines, decisions and executions take turns, an action is
only carried out for the active plan, which the validator has found valid, and either
without a reason to ask for approval or with an approval of exactly this plan
(`executionAuthorised_of_reaches`).

An approval speaks of a plan by its identifier. So the main fact is that identifiers
are never used again (`planIds`): an accepted plan gets one that is new to the case, and
the identifiers of all plans that a case has had are kept. With it, an approval cannot
authorise another plan, and a rejected plan is never executed: until a decline replaces
it, its case waits in a state in which nothing is carried out.
-/

namespace DayMend.Runs

open DayMend.Base DayMend.Models DayMend.Fixtures DayMend.Services DayMend.Agent DayMend.Application

variable {scenarioFactory : DemoScenario}
  {answers : AgentRuntimeRequest → Except Failure AgentRuntimeResponse → Prop} {seen : Set RecoveryCase}
  {c c' : RecoveryCase} {past : List RecoveryCase} {plan : RecoveryPlan} {decline : Decline}

/-! ### The identifiers of plans -/

/-- The identifiers of the plans that a case has had. -/
def planIds (c : RecoveryCase) : List String :=
  c.previousPlans.map (·.planId) ++ (c.activeRecoveryPlan.map (·.planId)).toList

theorem planId_mem_planIds (h : c.activeRecoveryPlan = some plan) : plan.planId ∈ planIds c := by
  simp [planIds, h]

theorem Kept.planIds_eq (h : Kept c c') : planIds c' = planIds c := by
  rw [planIds, planIds, h.previous, h.active]

/-- After a decline the old plan is among the previous ones. -/
theorem Declined.planIds_subset_previous (h : Declined scenarioFactory answers c c' decline plan) :
    planIds c ⊆ c'.previousPlans.map (·.planId) := by
  intro id hid
  have hid : id ∈ c.previousPlans.map (·.planId) ∨ id = plan.planId := by
    simpa [planIds, h.active, eq_comm] using hid
  rw [h.previous]
  split
  next hmem =>
    rcases hid with hid | rfl
    · exact hid
    · exact hmem
  next =>
    rw [List.map_append]
    rcases hid with hid | rfl
    · exact List.mem_append_left _ hid
    · exact List.mem_append_right _ (List.mem_singleton.mpr rfl)

/-- A newly accepted plan has a new identifier. -/
theorem Replanned.planId_notMem (h : Replanned scenarioFactory answers c c') :
    ∃ p, c'.activeRecoveryPlan = some p ∧ p.planId ∉ c'.previousPlans.map (·.planId) := by
  obtain ⟨_, _, outcome, _, _, _, _, _, _, _, ⟨_, _, _, rfl⟩, rfl⟩ := h
  rw [acceptedCase_previousPlans]
  exact ⟨_, acceptedCase_activeRecoveryPlan .., planId_acceptPlan_notMem _ _ _⟩

/-- What becomes of the plan of a declined case: it is invalid, or there is a new one under a new identifier. -/
theorem Declined.invalid_or_new (h : Declined scenarioFactory answers c c' decline plan) :
    (∃ q, c'.activeRecoveryPlan = some q ∧ q.planId = plan.planId ∧ q.validationState = .invalid ∧
        (c'.status = .noRecoveryOption ∨ c'.status = .replanning)) ∨
      ∃ p, c'.activeRecoveryPlan = some p ∧ p.planId ∉ planIds c := by
  cases h.result with
  | invalid q hactive hid hinvalid hstatus _ => exact Or.inl ⟨q, hactive, hid, hinvalid, hstatus⟩
  | replanned hr =>
    obtain ⟨p, hp, hnew⟩ := hr.planId_notMem
    exact Or.inr ⟨p, hp, fun hmem => hnew (h.planIds_subset_previous hmem)⟩

theorem CaseStep.planIds_subset (h : CaseStep scenarioFactory answers seen c c') : planIds c ⊆ planIds c' := by
  rcases h.work_or_declined with hw | ⟨decline, plan, hd⟩
  · rw [hw.kept.planIds_eq]
    exact List.Subset.refl _
  · exact fun id hid => List.mem_append_left _ (hd.planIds_subset_previous hid)

/-- The newest version of a case has the identifiers of all plans that it has ever had. -/
theorem planIds_subset_of_mem (h : CaseHistory scenarioFactory answers (c :: past)) :
    ∀ d ∈ c :: past, planIds d ⊆ planIds c := by
  refine h.rel_of_mem (r := fun d c => planIds d ⊆ planIds c) (fun _ => List.Subset.refl _) List.Subset.trans ?_
  intro seen c₀ c₁ hs
  have hstep : planIds c₀ ⊆ planIds c₁ := CaseStep.planIds_subset hs
  exact hstep

/-! ### Valid plans -/

/-- The states in which a case waits for a decline, or for nothing. -/
def Idle (c : RecoveryCase) : Prop := c.status = .replanning ∨ c.status = .noRecoveryOption

/-- In any other state the active plan is valid. -/
def ValidUnlessIdle (c : RecoveryCase) : Prop :=
  ¬ Idle c → ∀ p, c.activeRecoveryPlan = some p → p.validationState = .valid

/-- A step that records no decline starts from a case that waits for the gate, a decision or execution. -/
theorem WorkStep.status_eq (h : WorkStep scenarioFactory answers seen c c') :
    c.status = .waitingForResponse ∨ c.status = .executing ∨ c.status = .approvalRequired := by
  cases h with
  | gateExecuting now hfresh _ _ => exact hfresh.status_eq.imp_right Or.inl
  | gateApproval now hfresh _ _ _ _ => exact hfresh.status_eq.imp_right Or.inl
  | decide decision now reason _ hcheck =>
    obtain ⟨-, hstatus, -, -⟩ := checkDecision_eq_ok hcheck
    exact Or.inr (Or.inr hstatus)
  | execute now hcheck _ =>
    obtain ⟨-, -, -, hstatus, -⟩ := checkExecution_eq_ok hcheck
    exact Or.inr (Or.inl hstatus)
  | resolve now _ _ _ herrors => exact Or.inr (Or.inl (completionErrors_eq_nil.mp herrors).executing)

theorem WorkStep.not_idle (h : WorkStep scenarioFactory answers seen c c') : ¬ Idle c := by
  rintro (hidle | hidle)
  · rcases h.status_eq with hs | hs | hs <;> simp [hidle] at hs
  · rcases h.status_eq with hs | hs | hs <;> simp [hidle] at hs

theorem AcceptedPlan.valid {facts : DemoScenario} {caseId : String} {previousPlans : List RecoveryPlan}
    (h : AcceptedPlan facts caseId previousPlans plan) : plan.validationState = .valid := by
  obtain ⟨proposal, preservedSegments, hvalid, rfl⟩ := h
  exact (validateProposal_marks proposal facts preservedSegments).2 hvalid

/-- A case that has just been given a plan has an accepted one. -/
theorem Fresh.exists_acceptedPlan (h : Fresh scenarioFactory answers seen c) :
    ∃ p facts previousPlans, c.activeRecoveryPlan = some p ∧ AcceptedPlan facts c.caseId previousPlans p := by
  rcases h with ⟨x, ⟨command, caseId, scenario, candidate, facts, p, now, -, haccepted, rfl⟩, rfl⟩ |
    ⟨c₀, -, x, ⟨event, scenario, outcome, response, facts, p, assumptions, hdecline, -, -, haccepted, rfl⟩, rfl⟩
  · obtain ⟨proposal, preservedSegments, hvalid, rfl⟩ := id haccepted
    exact ⟨_, facts, [], congrArg some (materialize_acceptPlan ..), haccepted⟩
  · have hkey : (acceptedCase outcome p assumptions response.researchedCandidate).caseId = c₀.caseId := by
      rw [acceptedCase_caseId, hdecline.caseId_eq]
    refine ⟨p, facts, outcome.recoveryCase.previousPlans, acceptedCase_activeRecoveryPlan .., ?_⟩
    rw [← hkey] at haccepted
    exact haccepted

theorem Replanned.exists_valid (h : Replanned scenarioFactory answers c c') :
    ∃ p, c'.activeRecoveryPlan = some p ∧ p.validationState = .valid := by
  obtain ⟨p, facts, previousPlans, hp, haccepted⟩ :=
    Fresh.exists_acceptedPlan (Or.inr ⟨c, Set.mem_univ c, c', h, rfl⟩)
  exact ⟨p, hp, haccepted.valid⟩

theorem validUnlessIdle_of_history {l : List RecoveryCase} (h : CaseHistory scenarioFactory answers l) :
    ∀ c ∈ l, ValidUnlessIdle c := by
  refine h.forall_mem (fun c hinit => ?_) fun past c c' _ hold hs => ?_
  · cases hinit with
    | noOption command caseId scenario uncovered now h =>
      subst h
      exact fun hidle => absurd (Or.inr rfl) hidle
    | started h =>
      intro _ p hp
      have hfresh : Fresh scenarioFactory answers ∅ (stored c none) := Or.inl ⟨c, h, rfl⟩
      obtain ⟨q, facts, previousPlans, hq, haccepted⟩ := hfresh.exists_acceptedPlan
      exact Option.some.inj (hp.symm.trans hq) ▸ haccepted.valid
  · rcases hs.work_or_declined with hw | ⟨decline, plan, hd⟩
    · intro _ p hp
      exact hold c (List.mem_cons_self ..) hw.not_idle p (hw.kept.active ▸ hp)
    · intro hidle p hp
      cases hd.result with
      | invalid _ _ _ _ hstatus _ => exact absurd hstatus.symm hidle
      | replanned hr =>
        obtain ⟨q, hq, hvalid⟩ := hr.exists_valid
        exact Option.some.inj (hp.symm.trans hq) ▸ hvalid

/-- **Every valid active plan was accepted**, and active, when it was saved for the first time. -/
theorem exists_fresh_of_valid (h : CaseHistory scenarioFactory answers (c :: past))
    (hplan : c.activeRecoveryPlan = some plan) (hvalid : plan.validationState = .valid) :
    ∃ d ∈ c :: past, Fresh scenarioFactory answers {x | x ∈ c :: past} d ∧ d.activeRecoveryPlan = some plan := by
  induction h using Rules.Hist.head_induction with
  | start x h =>
    cases h with
    | noOption command caseId scenario uncovered now h =>
      subst h
      cases hplan
    | started h => exact ⟨_, List.mem_cons_self .., Or.inl ⟨x, h, rfl⟩, hplan⟩
  | step c₀ c₁ older _ hs ih =>
    have hsub : {x | x ∈ c₀ :: older} ⊆ {x | x ∈ stored c₁ (some (version c₀)) :: c₀ :: older} :=
      fun x hx => List.mem_cons_of_mem _ hx
    rcases hs.work_or_declined with hw | ⟨decline, old, hd⟩
    · obtain ⟨d, hd, hfresh, hactive⟩ := ih (hw.kept.active ▸ hplan)
      exact ⟨d, List.mem_cons_of_mem _ hd, hfresh.mono hsub, hactive⟩
    · cases hd.result with
      | invalid q hactive _ hinvalid _ _ =>
        obtain rfl := Option.some.inj (hactive.symm.trans hplan)
        rw [hinvalid] at hvalid
        cases hvalid
      | replanned hr =>
        exact ⟨_, List.mem_cons_self .., Or.inr ⟨c₀, List.mem_cons_of_mem _ (List.mem_cons_self ..), c₁, hr, rfl⟩,
          hplan⟩

/-- The valid plans of two versions of a case are the same when their identifiers are. -/
def SamePlan (c d : RecoveryCase) : Prop :=
  ∀ p q, c.activeRecoveryPlan = some p → d.activeRecoveryPlan = some q → p.validationState = .valid →
    q.validationState = .valid → p.planId = q.planId → p = q

theorem SamePlan.symm {d : RecoveryCase} (h : SamePlan c d) : SamePlan d c :=
  fun p q hp hq hpv hqv hid => (h q p hq hp hqv hpv hid.symm).symm

theorem SamePlan.refl (c : RecoveryCase) : SamePlan c c :=
  fun _ _ hp hq _ _ _ => Option.some.inj (hp.symm.trans hq)

/-- **Identifiers of plans are never used again.** -/
theorem samePlan_of_history {l : List RecoveryCase} (h : CaseHistory scenarioFactory answers l) :
    ∀ c ∈ l, ∀ d ∈ l, SamePlan c d := by
  induction h with
  | nil => simp
  | start h =>
    intro c hc d hd
    rw [List.mem_singleton.mp hc, List.mem_singleton.mp hd]
    exact .refl _
  | @step c₀ c₁ older hist hs ih =>
    -- the newest version against an older one
    have hnew : ∀ d ∈ c₀ :: older, SamePlan (stored c₁ (some (version c₀))) d := by
      intro d hd
      rcases hs.work_or_declined with hw | ⟨decline, plan, hdec⟩
      · exact fun p q hp => ih c₀ (List.mem_cons_self ..) d hd p q (hw.kept.active ▸ hp)
      · intro p q hp hq hpv _ hid
        rcases hdec.invalid_or_new with ⟨r, hr, -, hinvalid, -⟩ | ⟨r, hr, hfresh⟩
        · obtain rfl := Option.some.inj (hr.symm.trans hp)
          rw [hinvalid] at hpv
          cases hpv
        · obtain rfl := Option.some.inj (hr.symm.trans hp)
          have hmem := planIds_subset_of_mem hist d hd (planId_mem_planIds hq)
          exact absurd (hid ▸ hmem) hfresh
    intro c hc d hd
    rcases List.mem_cons.mp hc with rfl | hc
    · rcases List.mem_cons.mp hd with rfl | hd
      · exact .refl _
      · exact hnew d hd
    · rcases List.mem_cons.mp hd with rfl | hd
      · exact (hnew c hc).symm
      · exact ih c hc d hd

/-! ### Rejections -/

/-- A plan has been rejected. -/
def Rejected (c : RecoveryCase) (planId : String) : Prop :=
  ∃ approval ∈ c.approvalHistory, approval.status = .rejected ∧ approval.planId = planId

/-- A step that rejects a plan leaves it active and its case idle. -/
theorem WorkStep.rejected (h : WorkStep scenarioFactory answers seen c c') {planId : String}
    (hr : Rejected c' planId) :
    Rejected c planId ∨ Idle c' ∧ ∃ p, c.activeRecoveryPlan = some p ∧ p.planId = planId := by
  obtain ⟨approval, hmem, hstatus, hid⟩ := hr
  cases h with
  | gateExecuting now _ _ _ => exact Or.inl ⟨approval, hmem, hstatus, hid⟩
  | gateApproval now _ _ _ _ hpending =>
    rcases List.mem_append.mp hmem with hmem | hmem
    · exact Or.inl ⟨approval, hmem, hstatus, hid⟩
    · rw [List.mem_singleton.mp hmem, hpending] at hstatus
      cases hstatus
  | @decide decided decision now reason hold hcheck =>
    obtain ⟨old, hmemOld, rfl⟩ := List.mem_map.mp hmem
    split at hstatus
    next hsame =>
      rw [if_pos hsame] at hid
      obtain ⟨-, -, -, p, hp, hplanId⟩ := checkDecision_eq_ok hcheck
      cases decision with
      | approve => cases hstatus
      | reject => exact Or.inr ⟨Or.inl rfl, p, hp, hplanId.symm.trans hid⟩
    next hother =>
      rw [if_neg hother] at hid
      exact Or.inl ⟨old, hmemOld, hstatus, hid⟩
  | execute now _ _ => exact Or.inl ⟨approval, hmem, hstatus, hid⟩
  | resolve now _ _ _ _ => exact Or.inl ⟨approval, hmem, hstatus, hid⟩

/-- **A rejected plan stays rejected**: as long as it is active, its case is idle. -/
theorem idle_of_rejected (h : CaseHistory scenarioFactory answers (c :: past)) {d : RecoveryCase}
    (hd : d ∈ c :: past) {planId : String} (hr : Rejected d planId) :
    planId ∈ planIds c ∧ ∀ p, c.activeRecoveryPlan = some p → p.planId = planId → Idle c := by
  induction h using Rules.Hist.head_induction generalizing d with
  | start x h =>
    obtain ⟨approval, hmem, -⟩ := hr
    rw [List.mem_singleton.mp hd, show (stored x none).approvalHistory = [] from h.nothing_yet.1] at hmem
    cases hmem
  | step c₀ c₁ older _ hs ih =>
    -- what an earlier version says of the plan
    have hold : ∀ e ∈ c₀ :: older, Rejected e planId →
        planId ∈ planIds c₁ ∧ ∀ p, c₁.activeRecoveryPlan = some p → p.planId = planId → Idle c₁ := by
      intro e he hre
      obtain ⟨hmem, hidle⟩ := ih he hre
      refine ⟨hs.planIds_subset hmem, fun p hp hid => ?_⟩
      rcases hs.work_or_declined with hw | ⟨decline, plan, hdec⟩
      · exact absurd (hidle p (hw.kept.active ▸ hp) hid) hw.not_idle
      · rcases hdec.invalid_or_new with ⟨_, _, _, _, hstatus⟩ | ⟨q, hq, hnew⟩
        · exact hstatus.symm
        · obtain rfl := Option.some.inj (hq.symm.trans hp)
          exact absurd (hid ▸ hmem) hnew
    rcases List.mem_cons.mp hd with rfl | hd
    · rcases hs.work_or_declined with hw | ⟨decline, plan, hdec⟩
      · rcases hw.rejected hr with hr | ⟨hidle, p, hp, hid⟩
        · exact hold c₀ (List.mem_cons_self ..) hr
        · refine ⟨hid ▸ planId_mem_planIds ?_, fun _ _ _ => hidle⟩
          exact hw.kept.active.trans hp
      · obtain ⟨approval, hmem, hstatus⟩ := hr
        exact hold c₀ (List.mem_cons_self ..) ⟨approval, hdec.approvals ▸ hmem, hstatus⟩
    · exact hold d hd hr

/-! ### Execution -/

/-- An action is carried out from the older version `c` to the newer `c'`. -/
def Executed (c' c : RecoveryCase) (a : ExecutionAction) : Prop := a ∈ c'.executionHistory ∧ a ∉ c.executionHistory

/-- Only execution carries out actions, and only those of the plan that it has checked. -/
theorem CaseStep.executed (h : CaseStep scenarioFactory answers seen c c') {a : ExecutionAction}
    (ha : Executed c' c a) : ∃ p, checkExecution c = .ok p ∧ a.planId = p.planId := by
  rcases h.work_or_declined with hw | ⟨decline, plan, hd⟩
  · cases hw with
    | gateExecuting now _ _ _ => exact absurd ha.1 ha.2
    | gateApproval now _ _ _ _ _ => exact absurd ha.1 ha.2
    | decide decision now reason _ _ => exact absurd ha.1 ha.2
    | @execute p progress now hcheck hrun =>
      rcases hrun.mem_history ha.1 with hold | ⟨action, hrequired, failTargets, rfl⟩
      · exact absurd hold ha.2
      · obtain ⟨hplanId, -⟩ := planId_of_mem_requiredExecutionActions hrequired
        obtain ⟨hsame, -⟩ := simulatedExecute_ids failTargets action now
        exact ⟨p, hcheck, hsame.trans hplanId⟩
    | resolve now _ _ _ _ => exact absurd ha.1 ha.2
  · exact absurd (hd.actions ▸ ha.1) ha.2

/-- Every action of a case was carried out at some time. -/
theorem exists_executed (h : CaseHistory scenarioFactory answers (c :: past)) {a : ExecutionAction}
    (ha : a ∈ c.executionHistory) :
    ∃ newer c₁ c₀ older, c :: past = newer ++ c₁ :: c₀ :: older ∧ Executed c₁ c₀ a := by
  induction h using Rules.Hist.head_induction with
  | start x h =>
    rw [show (stored x none).executionHistory = [] from h.nothing_yet.2.1] at ha
    cases ha
  | step c₀ c₁ older _ _ ih =>
    by_cases hold : a ∈ c₀.executionHistory
    · obtain ⟨newer, d₁, d₀, rest, heq, hexec⟩ := ih hold
      exact ⟨stored c₁ (some (version c₀)) :: newer, d₁, d₀, rest, by rw [heq, List.cons_append], hexec⟩
    · exact ⟨[], _, c₀, older, rfl, ha, hold⟩

/-- The plan with an identifier may be executed on the version `c`, whose history is `earlier`: it is the active
plan, and was found valid by the validator when it was accepted; and the validator found no reason to ask for
approval, or the history has an approval of exactly this plan. -/
structure Authorised (scenarioFactory : DemoScenario)
    (answers : AgentRuntimeRequest → Except Failure AgentRuntimeResponse → Prop) (earlier : List RecoveryCase)
    (c : RecoveryCase) (planId : String) (plan : RecoveryPlan) : Prop where
  planId_eq : plan.planId = planId
  active : c.activeRecoveryPlan = some plan
  valid : plan.validationState = .valid
  accepted : ∃ d ∈ earlier, Fresh scenarioFactory answers {x | x ∈ earlier} d ∧ d.activeRecoveryPlan = some plan ∧
    ∃ facts proposal preservedSegments previousPlans,
      (validateProposal proposal facts preservedSegments).valid = true ∧
        plan = acceptPlan (validateProposal proposal facts preservedSegments).validatedPlan d.caseId previousPlans ∧
          ((validateProposal proposal facts preservedSegments).requiresApproval = false ∨
            ApprovedFor c.approvalHistory planId)

theorem authorised_of_checkExecution (h : CaseHistory scenarioFactory answers (c :: past))
    (hcheck : checkExecution c = .ok plan) : Authorised scenarioFactory answers (c :: past) c plan.planId plan := by
  obtain ⟨hactive, hvalid, -, -, happroved⟩ := checkExecution_eq_ok hcheck
  obtain ⟨d, hd, hfresh, hdactive⟩ := exists_fresh_of_valid h hactive hvalid
  refine ⟨rfl, hactive, hvalid, d, hd, hfresh, hdactive, ?_⟩
  obtain ⟨q, facts, previousPlans, hq, proposal, preservedSegments, hproposal, rfl⟩ := hfresh.exists_acceptedPlan
  obtain rfl := Option.some.inj (hdactive.symm.trans hq)
  refine ⟨facts, proposal, preservedSegments, previousPlans, hproposal, rfl, ?_⟩
  rcases happroved with hnone | happroved
  · have hreasons : (validateProposal proposal facts preservedSegments).validatedPlan.approvalReasons = [] := hnone
    left
    rw [(validateProposal_marks proposal facts preservedSegments).1, hreasons]
    rfl
  · exact Or.inr happroved

/-- **Every approval was given for the plan that was active**, and waited for it. -/
theorem exists_granted (h : CaseHistory scenarioFactory answers (c :: past)) {approval : ApprovalRequest}
    (hmem : approval ∈ c.approvalHistory) (happroved : approval.status = .approved) :
    ∃ d ∈ past, d.status = .approvalRequired ∧
      ∃ p, d.activeRecoveryPlan = some p ∧ p.validationState = .valid ∧ p.planId = approval.planId := by
  induction h using Rules.Hist.head_induction with
  | start x h =>
    rw [show (stored x none).approvalHistory = [] from h.nothing_yet.1] at hmem
    cases hmem
  | step c₀ c₁ older hist hs ih =>
    have hold : approval ∈ c₀.approvalHistory → ∃ d ∈ c₀ :: older, d.status = .approvalRequired ∧
        ∃ p, d.activeRecoveryPlan = some p ∧ p.validationState = .valid ∧ p.planId = approval.planId := by
      intro hmem
      obtain ⟨d, hd, hrest⟩ := ih hmem
      exact ⟨d, List.mem_cons_of_mem _ hd, hrest⟩
    rcases hs.work_or_declined with hw | ⟨decline, plan, hdec⟩
    · cases hw with
      | gateExecuting now _ _ _ => exact hold hmem
      | gateApproval now _ _ _ _ hpending =>
        rcases List.mem_append.mp hmem with hmem | hmem
        · exact hold hmem
        · rw [List.mem_singleton.mp hmem, hpending] at happroved
          cases happroved
      | @decide decided decision now reason hdecided hcheck =>
        obtain ⟨old, hmemOld, rfl⟩ := List.mem_map.mp hmem
        split at happroved
        next hsame =>
          obtain ⟨-, hstatus, -, p, hp, hid⟩ := checkDecision_eq_ok hcheck
          have hvalid := validUnlessIdle_of_history hist c₀ (List.mem_cons_self ..)
            (by rintro (hidle | hidle) <;> simp [hstatus] at hidle) p hp
          refine ⟨c₀, List.mem_cons_self .., hstatus, p, hp, hvalid, ?_⟩
          rw [if_pos hsame]
          exact hid.symm
        next hother =>
          rw [if_neg hother] at hold ⊢
          exact hold hmemOld
      | execute now _ _ => exact hold hmem
      | resolve now _ _ _ _ => exact hold hmem
    · exact hold (hdec.approvals ▸ hmem)

/-- Nothing unauthorised has been executed in the history of a case, newest version first. -/
structure ExecutionAuthorised (scenarioFactory : DemoScenario)
    (answers : AgentRuntimeRequest → Except Failure AgentRuntimeResponse → Prop) (l : List RecoveryCase) : Prop where
  /-- Every action of any version was carried out at some time, on a plan that was authorised then. -/
  authorised : ∀ newer c past, l = newer ++ c :: past → ∀ a ∈ c.executionHistory,
    ∃ between c₁ c₀ older, c :: past = between ++ c₁ :: c₀ :: older ∧ Executed c₁ c₀ a ∧
      ∃ plan, Authorised scenarioFactory answers (c₀ :: older) c₀ a.planId plan
  /-- An identifier stands for one plan. -/
  identified : ∀ c ∈ l, ∀ d ∈ l, SamePlan c d
  /-- Every approval was given while the plan with its identifier was active and valid. -/
  granted : ∀ newer c past, l = newer ++ c :: past → ∀ approval ∈ c.approvalHistory, approval.status = .approved →
    ∃ d ∈ past, d.status = .approvalRequired ∧
      ∃ p, d.activeRecoveryPlan = some p ∧ p.validationState = .valid ∧ p.planId = approval.planId
  /-- Nothing is carried out for a plan that was rejected before. -/
  not_rejected : ∀ newer c₁ c₀ older, l = newer ++ c₁ :: c₀ :: older → ∀ a, Executed c₁ c₀ a →
    ∀ d ∈ c₀ :: older, ¬ Rejected d a.planId

theorem executionAuthorised_of_history {l : List RecoveryCase} (h : CaseHistory scenarioFactory answers l) :
    ExecutionAuthorised scenarioFactory answers l where
  authorised := by
    rintro newer c past rfl a ha
    have hc := Rules.Hist.of_append h
    obtain ⟨between, c₁, c₀, older, heq, hexec⟩ := exists_executed hc ha
    refine ⟨between, c₁, c₀, older, heq, hexec, ?_⟩
    rw [heq] at hc
    cases Rules.Hist.of_append hc with
    | @step _ x _ hist hs =>
      obtain ⟨p, hcheck, hid⟩ := hs.executed (show Executed x c₀ a from hexec)
      exact ⟨p, hid ▸ authorised_of_checkExecution hist hcheck⟩
  identified := samePlan_of_history h
  granted := by
    rintro newer c past rfl approval hmem happroved
    exact exists_granted (Rules.Hist.of_append h) hmem happroved
  not_rejected := by
    rintro newer c₁ c₀ older rfl a hexec d hd hrejected
    cases Rules.Hist.of_append h with
    | @step _ x _ hist hs =>
      obtain ⟨p, hcheck, hid⟩ := hs.executed (show Executed x c₀ a from hexec)
      obtain ⟨hactive, -, -, hstatus, -⟩ := checkExecution_eq_ok hcheck
      have hidle := (idle_of_rejected hist hd hrejected).2 p hactive hid.symm
      rcases hidle with hidle | hidle <;> simp [hstatus] at hidle

/-- A recovery waits for approval of the sitter's pay; the approval is given, and the plan executed. -/
def approved : Schedule :=
  [.spawn (startRecovery paidDay paidDay nannyIll), .steps 0 100 (answering 1 "case" paidPlan none),
    .spawn (decideApproval paidDay "case" "case" { decision := .approve }),
    .steps 1 100 (answering 2 "event" paidPlan none)]

theorem reaches_approved : Reaches paidDay (fun _ _ => True) (Config.run approved) :=
  reaches_two (.start ..) (env_answering fun _ => trivial) (.decide ..) (env_answering fun _ => trivial)

/-- **No unauthorised execution**, whatever the runtime answers and in whatever order requests take turns. -/
theorem executionAuthorised_of_reaches {cfg : Config String RecoveryCase Failure Answer RecoveryCase}
    (h : Reaches scenarioFactory answers cfg) (caseId : String) :
    ExecutionAuthorised scenarioFactory answers (versions cfg.saved caseId) :=
  executionAuthorised_of_history (caseHistory_of_reaches h caseId)

theorem executionAuthorised_approved :
    (∃ c ∈ (Config.run approved).saved, c.status = .resolved ∧ c.executionHistory ≠ []) ∧
      ExecutionAuthorised paidDay (fun _ _ => True) (versions (Config.run approved).saved "case") :=
  ⟨by decide +kernel, executionAuthorised_of_reaches reaches_approved "case"⟩

end DayMend.Runs
