import DayMend.Runs.Programs

/-!
# Pending approvals

A case waits for at most one approval, that of its active plan (`PendingOk`). The
gate, the decisions and execution keep it so. A decline does not: it replaces or
invalidates the plan and leaves the request pending (`declinedWhilePending_breaks`).
`pendingOk_iff` says that this is the only way: every stored case is in order exactly
when no decline is recorded while an approval is pending.
-/

namespace DayMend.Runs

open DayMend.Base DayMend.Models DayMend.Fixtures DayMend.Services DayMend.Agent DayMend.Application

variable {scenarioFactory : DemoScenario}
  {answers : AgentRuntimeRequest → Except Failure AgentRuntimeResponse → Prop} {seen : Set RecoveryCase}
  {c c' : RecoveryCase}

/-- A pending approval is that of the active plan, and the only one. -/
structure PendingOk (c : RecoveryCase) : Prop where
  /-- A case with a pending approval waits for it. -/
  status : ∀ p, c.pendingApproval = some p → c.status = .approvalRequired
  /-- It is about the active plan. -/
  plan : ∀ p, c.pendingApproval = some p → ∃ plan, c.activeRecoveryPlan = some plan ∧ p.planId = plan.planId
  /-- The history has no other pending request. -/
  only : c.approvalHistory.filter (fun approval => approval.status = .pending) = c.pendingApproval.toList

/-- With nothing pending, a case is in order when its history has no pending request. -/
theorem PendingOk.of_none (hp : c.pendingApproval = none)
    (h : ∀ approval ∈ c.approvalHistory, approval.status ≠ .pending) : PendingOk c where
  status := by simp [hp]
  plan := by simp [hp]
  only := by
    rw [hp, Option.toList_none, List.filter_eq_nil_iff]
    intro approval ha
    simpa using h approval ha

theorem PendingOk.ne_pending (h : PendingOk c) (hp : c.pendingApproval = none) :
    ∀ approval ∈ c.approvalHistory, approval.status ≠ .pending := by
  intro approval ha hs
  have honly := h.only
  rw [hp, Option.toList_none, List.filter_eq_nil_iff] at honly
  exact honly approval ha (decide_eq_true hs)

/-- A case in any other state has no pending approval. -/
theorem PendingOk.eq_none (h : PendingOk c) (hs : c.status ≠ .approvalRequired) : c.pendingApproval = none := by
  cases hp : c.pendingApproval with
  | none => rfl
  | some p => exact absurd (h.status p hp) hs

/-- A pending request in the history is the pending approval. -/
theorem PendingOk.eq_of_mem (h : PendingOk c) {approval : ApprovalRequest} (ha : approval ∈ c.approvalHistory)
    (hs : approval.status = .pending) : c.pendingApproval = some approval := by
  have hmem : approval ∈ c.approvalHistory.filter fun approval => approval.status = .pending :=
    List.mem_filter.mpr ⟨ha, decide_eq_true hs⟩
  rw [h.only] at hmem
  exact Option.mem_toList.mp hmem

theorem PendingOk.of_initial (h : Initial c) : PendingOk c := by
  obtain ⟨happrovals, -, hnone, -⟩ := h.nothing_yet
  exact .of_none hnone (by simp [happrovals])

/-- A new plan is gated with nothing pending. -/
theorem PendingOk.eq_none_of_fresh (h : PendingOk c) (hf : Fresh scenarioFactory answers seen c) :
    c.pendingApproval = none := by
  apply h.eq_none
  rcases hf.status_eq with hs | hs
  · simp [hs]
  · simp [hs]

/-- A decision leaves nothing pending. -/
theorem PendingOk.decided (h : PendingOk c) {approval : ApprovalRequest} (hmem : approval ∈ c.approvalHistory)
    (hcheck : checkDecision c approval = .ok ()) (decision : ApprovalDecision) (now : Instant)
    (reason : Option String) : PendingOk (decidedCase c approval decision now reason) := by
  obtain ⟨hpending, -, -, -⟩ := checkDecision_eq_ok hcheck
  refine .of_none rfl fun item hitem => ?_
  obtain ⟨old, hold, rfl⟩ := List.mem_map.mp hitem
  split
  · exact decision.status_ne_pending
  next hid =>
    -- a second pending request would be the pending approval too
    intro hs
    have hsame := (h.eq_of_mem hold hs).symm.trans (h.eq_of_mem hmem hpending)
    exact hid (by rw [Option.some.inj hsame])

/-- A step that records no decline keeps approvals in order. -/
theorem PendingOk.work (h : PendingOk c) (hs : WorkStep scenarioFactory answers seen c c') : PendingOk c' := by
  cases hs with
  | gateExecuting now hfresh hplan _ =>
    have hnone := h.eq_none_of_fresh hfresh
    exact .of_none hnone (h.ne_pending hnone)
  | @gateApproval plan approval now hfresh hplan _ happroval hpending =>
    refine ⟨fun _ _ => rfl, fun p hp => ⟨plan, rfl, ?_⟩, ?_⟩
    · obtain rfl := Option.some.inj hp
      exact happroval
    · have hold := h.only
      rw [h.eq_none_of_fresh hfresh] at hold
      simp [requestedCase, List.filter_append, hold, hpending]
  | decide decision now reason hmem hcheck => exact h.decided hmem hcheck decision now reason
  | execute now hcheck _ =>
    obtain ⟨-, -, hnone, -, -⟩ := checkExecution_eq_ok hcheck
    exact .of_none hnone (h.ne_pending hnone)
  | resolve now _ _ _ herrors =>
    have hnone := (completionErrors_eq_nil.mp herrors).not_pending
    exact .of_none hnone (h.ne_pending hnone)

/-- A recorded decline keeps approvals in order exactly when it finds nothing pending. -/
theorem PendingOk.declined_iff (h : PendingOk c) {decline : Decline} {plan : RecoveryPlan}
    (hd : Declined scenarioFactory answers c c' decline plan) : PendingOk c' ↔ c.pendingApproval = none := by
  constructor
  · intro h'
    rw [← hd.pending]
    exact h'.eq_none hd.status_ne
  · intro hnone
    refine .of_none (hd.pending.trans hnone) ?_
    rw [hd.approvals]
    exact h.ne_pending hnone

/-- From the older version `c` to the newer `c'`, a decline has been recorded only if nothing was pending. -/
def DeclinesWhenNothingPending (c' c : RecoveryCase) : Prop :=
  c.declines.length < c'.declines.length → c.pendingApproval = none

/-- **A step keeps approvals in order** exactly when it records no decline, or finds nothing pending. -/
theorem PendingOk.step_iff (h : PendingOk c) (hs : CaseStep scenarioFactory answers seen c c') :
    PendingOk c' ↔ DeclinesWhenNothingPending c' c := by
  rcases hs.work_or_declined with hw | ⟨decline, plan, hd⟩
  · simp [DeclinesWhenNothingPending, hw.kept.declines, h.work hw]
  · simp [DeclinesWhenNothingPending, hd.declines, h.declined_iff hd]

theorem pendingOk_setVersion {n : ℕ} : PendingOk (setVersion n c) ↔ PendingOk c :=
  ⟨fun h => ⟨h.status, h.plan, h.only⟩, fun h => ⟨h.status, h.plan, h.only⟩⟩

/-- Along a history, all versions are in order exactly when every decline finds nothing pending. -/
theorem pendingOk_history_iff {l : List RecoveryCase} (h : CaseHistory scenarioFactory answers l) :
    (∀ c ∈ l, PendingOk c) ↔ l.IsChain DeclinesWhenNothingPending := by
  induction h with
  | nil => simp
  | start h => simpa [stored] using pendingOk_setVersion.mpr (PendingOk.of_initial h)
  | @step c c' past _ hs ih =>
    rw [List.forall_mem_cons, List.isChain_cons_cons, ← ih]
    constructor
    · rintro ⟨h', hold⟩
      exact ⟨((hold c (List.mem_cons_self ..)).step_iff hs).mp (pendingOk_setVersion.mp h'), hold⟩
    · rintro ⟨hcond, hold⟩
      exact ⟨pendingOk_setVersion.mpr (((hold c (List.mem_cons_self ..)).step_iff hs).mpr hcond), hold⟩

/-- In every case, every decline has been recorded while nothing was pending. -/
def NoDeclineWhilePending (saved : List RecoveryCase) : Prop :=
  ∀ caseId, (versions saved caseId).IsChain DeclinesWhenNothingPending

/-- A recovery waits for approval of the sitter's pay; then the sitter declines. -/
def declineWhilePending : Schedule :=
  [.spawn (startRecovery paidDay paidDay nannyIll), .steps 0 100 (answering 1 "case" paidPlan none),
    .spawn (processEvent paidDay "case" (declineCommand "kim" (minutes 0 120))),
    .steps 1 100 (answering 2 "event" paidPlan none)]

theorem reaches_declineWhilePending :
    Reaches paidDay (fun _ _ => True) (Config.run declineWhilePending) :=
  reaches_two (.start ..) (env_answering fun _ => trivial) (.event ..) (env_answering fun _ => trivial)

/-- **When approvals are in order**: whatever the runtime answers and in whatever order requests take turns,
every case ever stored is in order exactly when no decline has been recorded while an approval was pending. -/
theorem pendingOk_iff {cfg : Config String RecoveryCase Failure Answer RecoveryCase}
    (h : Reaches scenarioFactory answers cfg) :
    (∀ c ∈ cfg.saved, PendingOk c) ↔ NoDeclineWhilePending cfg.saved := by
  rw [← forall_mem_saved]
  exact forall_congr' fun caseId => pendingOk_history_iff (caseHistory_of_reaches h caseId)

theorem pendingOk_iff_declineWhilePending :
    (∀ c ∈ (Config.run declineWhilePending).saved, PendingOk c) ↔
      NoDeclineWhilePending (Config.run declineWhilePending).saved :=
  pendingOk_iff reaches_declineWhilePending

/-- The decline is recorded and the request stays pending, though no case waits for it. -/
theorem declinedWhilePending_breaks :
    ∃ cfg, Reaches paidDay (fun _ _ => True) cfg ∧ ∃ c ∈ cfg.saved, ¬ PendingOk c := by
  refine ⟨_, reaches_declineWhilePending, ?_⟩
  have hcase : ∃ c ∈ (Config.run declineWhilePending).saved,
      c.pendingApproval.isSome = true ∧ c.status = .replanning := by decide +kernel
  obtain ⟨c, hc, hpending, hstatus⟩ := hcase
  refine ⟨c, hc, fun h => ?_⟩
  obtain ⟨p, hp⟩ := Option.isSome_iff_exists.mp hpending
  have hwaits := h.status p hp
  rw [hstatus] at hwaits
  cases hwaits

end DayMend.Runs
