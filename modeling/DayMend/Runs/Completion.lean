import DayMend.Base.Alone
import DayMend.Runs.Declines
import DayMend.Runs.Programs

/-!
# Finished recoveries that are not resolved

The verifier does not resolve a case whose plan relies on an invalidated assumption, and
an assumption that a decline touches is invalidated for its whole window. The facts,
however, keep the time that the decline has left, and a new plan may use it. So a
finished recovery is resolved exactly when its plan leaves this time alone
(`verifyAndResolve_iff`), as every plan does in a run in which each decline takes in the
windows that it touches.
-/

namespace DayMend.Runs

open DayMend.Base DayMend.Models DayMend.Fixtures DayMend.Services DayMend.Agent DayMend.Application
open DayMend.Validation

variable {scenarioFactory : DemoScenario}
  {answers : AgentRuntimeRequest → Except Failure AgentRuntimeResponse → Prop} {seen : Set RecoveryCase}
  {c c' : RecoveryCase} {plan : RecoveryPlan} {facts : DemoScenario} {now : Instant} {saved : List RecoveryCase}
  {caseId : String} {assumption : PlanAssumption}

/-! ### Verification -/

/-- Everything is done for the case, by the facts rebuilt from it. -/
structure ReadyToComplete (scenarioFactory : DemoScenario) (c : RecoveryCase) (plan : RecoveryPlan)
    (facts : DemoScenario) (now : Instant) : Prop where
  executing : c.status = .executing
  not_pending : c.pendingApproval = none
  active : c.activeRecoveryPlan = some plan
  rebuilt : scenarioFor scenarioFactory c = .ok facts
  accepted : (validate plan facts).valid = true
  approved : (validate plan facts).requiresApproval = true → ApprovedFor c.approvalHistory plan.planId
  done : ∀ expected ∈ requiredExecutionActions plan now,
    ∃ action, succeededRecord (actionDict c.executionHistory) expected.actionId = some action

/-- The verifier finds the case complete and stores it as resolved. -/
def Resolves (answers : AgentRuntimeRequest → Except Failure AgentRuntimeResponse → Prop) (saved : List RecoveryCase)
    (caseId : String) (facts : DemoScenario) (now : Instant) : Prop :=
  ∃ later result, (verifyAndResolve caseId facts now).Ends (env answers) saved later (.ok result) ∧
    result.verified = true ∧ current later caseId = some result.recoveryCase ∧ result.recoveryCase.status = .resolved

/-- What the verifier does with the stored case. -/
theorem verifyAndResolve_ends_iff {later : List RecoveryCase} {r : Except Failure CompletionVerificationResult}
    (hc : current saved caseId = some c) (hplan : c.activeRecoveryPlan = some plan) :
    (verifyAndResolve caseId facts now).Ends (env answers) saved later r ↔
      if completionErrors c plan facts now = [] then
        later = stored (resolvedCase c plan.planId now) (some c.version) :: saved ∧
          r = .ok { verified := true, recoveryCase := stored (resolvedCase c plan.planId now) (some c.version) }
      else later = saved ∧
        r = .ok { verified := false, errors := completionErrors c plan facts now, recoveryCase := c } := by
  have hkey : c.caseId = caseId := key_of_current hc
  have haccepts : Accepts saved (resolvedCase c plan.planId now) (some c.version) := by
    apply accepts_of_current
    rwa [show key (resolvedCase c plan.planId now) = caseId from hkey]
  have hget : ∀ f : RecoveryCase → Service CompletionVerificationResult,
      (getCase caseId >>= f).Ends (env answers) saved later r ↔ (f c).Ends (env answers) saved later r := by
    intro f
    rw [ends_bind]
    simp only [getCase, Prog.Ends, hc, Except.ok.injEq, reduceCtorEq, and_false, false_and, exists_false, or_false]
    constructor
    · rintro ⟨_, _, ⟨rfl, rfl⟩, h⟩
      exact h
    · exact fun h => ⟨_, _, ⟨rfl, rfl⟩, h⟩
  rw [verifyAndResolve, hget, hplan]
  dsimp only
  split
  next => rfl
  next herrors =>
    rw [if_pos (not_not.mp herrors), ends_bind]
    simp only [saveCase, Prog.Ends, if_pos haccepts, Except.ok.injEq, reduceCtorEq, and_false, false_and, exists_false,
      or_false]
    constructor
    · rintro ⟨_, _, ⟨rfl, rfl⟩, h⟩
      exact h
    · exact fun h => ⟨_, _, ⟨rfl, rfl⟩, h⟩

/-- The case is resolved exactly when nothing speaks against it. -/
theorem resolves_iff_completable (hc : current saved caseId = some c) (hplan : c.activeRecoveryPlan = some plan) :
    Resolves answers saved caseId facts now ↔ Completable c plan facts now := by
  rw [← completionErrors_eq_nil]
  have hkey : c.caseId = caseId := key_of_current hc
  constructor
  · rintro ⟨later, result, hends, hverified, -, -⟩
    rw [verifyAndResolve_ends_iff hc hplan] at hends
    split at hends
    next herrors => exact herrors
    next =>
      obtain ⟨-, hr⟩ := hends
      obtain rfl := Except.ok.inj hr
      cases hverified
  · intro herrors
    refine ⟨_, _, (verifyAndResolve_ends_iff hc hplan).mpr (by rw [if_pos herrors]; exact ⟨rfl, rfl⟩), rfl, ?_, rfl⟩
    exact current_cons hkey

/-! ### The time that declines have left -/

/-- No caregiver segment of the plan takes time, inside the window of an invalidated assumption about its caregiver,
that the caregiver has not declined. -/
def LeavesRest (c : RecoveryCase) (plan : RecoveryPlan) : Prop :=
  ∀ assumption ∈ c.assumptions, assumption.status = .invalidated → ∀ w ∈ assumption.relevantWindow,
    ∀ segment ∈ plan.coverageSegments, segment.source = .caregiver → segment.assignedPersonId = assumption.subjectId →
      ∀ t ∈ segment.window, t ∈ w → t ∈ declinedInstants c.declines assumption.subjectId

/-- Nobody is available at a declined instant of a case, by the facts rebuilt from it. -/
theorem avoids_of_scenarioFor (h : scenarioFor scenarioFactory c = .ok facts) :
    ∀ decline ∈ c.declines, Avoids facts decline := by
  obtain ⟨start, -, hreplay⟩ := scenarioFor_eq_ok.mp h
  exact (avoids_of_replayDeclines hreplay).2

/-- **A finished recovery is complete** exactly when its plan leaves the rest of declined windows alone. -/
theorem ReadyToComplete.completable_iff (h : ReadyToComplete scenarioFactory c plan facts now) :
    Completable c plan facts now ↔ LeavesRest c plan := by
  constructor
  · intro hc assumption hmem hinvalid w hw segment hs hsource hperson t ht htw
    have hoverlaps : segment.window.Overlaps w := Span.overlaps_iff_exists_mem.mpr ⟨t, ht, htw⟩
    exact absurd ⟨hinvalid, hsource, hperson, w, hw, hoverlaps⟩ (hc.relies assumption hmem segment hs)
  · intro hrest
    refine ⟨h.executing, h.accepted, h.not_pending, h.approved, h.done, fun assumption hmem segment hs hrelies => ?_⟩
    obtain ⟨hinvalid, hsource, hperson, w, hw, hoverlaps⟩ := hrelies
    obtain ⟨t, ht, htw⟩ := Span.overlaps_iff_exists_mem.mp hoverlaps
    -- the plan takes this instant, and the validator gives no declined instant to anybody
    obtain ⟨decline, hdecline, hid, htd⟩ := hrest assumption hmem hinvalid w hw segment hs hsource hperson t ht htw
    have huses : UsesCaregiver facts segment decline.caregiverId := Or.inl ⟨hsource, hperson.trans hid.symm⟩
    exact not_overlaps_of_accepted (accepted_of_valid h.accepted) (avoids_of_scenarioFor h.rebuilt decline hdecline) hs
      huses (Span.overlaps_iff_exists_mem.mpr ⟨t, ht, htd⟩)

/-! ### Declines of whole windows -/

/-- From the older version `c` to the newer `c'`, a decline has been recorded only of windows that take in those of the
assumptions that it touches. -/
def DeclinesWhole (c' c : RecoveryCase) : Prop :=
  ∀ decline, c'.declines = c.declines ++ [decline] → ∀ assumption, Assumes c assumption → Matches decline assumption →
    ∀ w ∈ assumption.relevantWindow, decline.window.Contains w

/-- The valid plan of the case has not come with an invalidated assumption about a window. -/
def BringsNone (c : RecoveryCase) : Prop :=
  ∀ plan, c.activeRecoveryPlan = some plan → plan.validationState = .valid → ∀ assumption ∈ plan.assumptions,
    assumption.status = .invalidated → assumption.relevantWindow = none

/-- Every decline of the case takes in what it touches, and no accepted plan brings invalidated assumptions. -/
structure InWhole (saved : List RecoveryCase) (caseId : String) : Prop where
  declines : (versions saved caseId).IsChain DeclinesWhole
  plans : ∀ c ∈ versions saved caseId, BringsNone c

/-- The window of an invalidated assumption has been declined. -/
def DeclinedInWhole (c : RecoveryCase) (assumption : PlanAssumption) : Prop :=
  assumption.status = .invalidated → ∀ w ∈ assumption.relevantWindow,
    ∃ decline ∈ c.declines, decline.caregiverId = assumption.subjectId ∧ decline.window.Contains w

theorem LeavesRest.of_declinedInWhole (h : ∀ assumption ∈ c.assumptions, DeclinedInWhole c assumption) :
    LeavesRest c plan := by
  intro assumption hmem hinvalid w hw segment _ _ _ t _ htw
  obtain ⟨decline, hdecline, hid, hcontains⟩ := h assumption hmem hinvalid w hw
  exact ⟨decline, hdecline, hid, hcontains.1.trans htw.1, htw.2.trans_le hcontains.2⟩

/-- What a valid plan itself assumes is not invalidated. -/
theorem BringsNone.declinedInWhole (h : BringsNone c) (hactive : c.activeRecoveryPlan = some plan)
    (hvalid : plan.validationState = .valid) (hmem : assumption ∈ (materializeCaregiverAssumptions plan).assumptions) :
    DeclinedInWhole c assumption := by
  intro hinvalid w hw
  rcases List.mem_append.mp hmem with hmem | hmem
  · rw [h plan hactive hvalid assumption (List.mem_filter.mp hmem).1 hinvalid] at hw
    cases hw
  · obtain ⟨segment, -, rfl⟩ := List.mem_map.mp hmem
    cases hinvalid

/-- A step keeps the recorded declines, and may record one more. -/
theorem CaseStep.declines_subset (h : CaseStep scenarioFactory answers seen c c') : c.declines ⊆ c'.declines := by
  rcases h.work_or_declined with hw | ⟨decline, old, hd⟩
  · rw [hw.kept.declines]
    exact List.Subset.refl _
  · rw [hd.declines]
    exact List.subset_append_left ..

/-- **A step keeps invalidated windows declined**, when it declines whole windows. -/
theorem LedgerStep.declinedInWhole (h : LedgerStep scenarioFactory answers seen c c') (hwhole : DeclinesWhole c' c)
    (hplans : BringsNone c') (hold : ∀ assumption, Assumes c assumption → DeclinedInWhole c assumption) :
    ∀ assumption, Assumes c' assumption → DeclinedInWhole c' assumption := by
  rintro assumption (hmem | ⟨plan, hactive, hvalid, hmem⟩)
  · cases h.2 assumption hmem with
    | kept hassumes =>
      intro hinvalid w hw
      obtain ⟨decline, hdecline, hcovers⟩ := hold assumption hassumes hinvalid w hw
      exact ⟨decline, h.1.1.declines_subset hdecline, hcovers⟩
    | accepted plan hactive hvalid hmem => exact hplans.declinedInWhole hactive hvalid hmem
    | invalidated event decline earlier hdeclines hearlier hmatches heq =>
      subst heq
      intro _ w hw
      refine ⟨decline, ?_, hmatches.2.2.1.symm, hwhole decline hdeclines earlier hearlier hmatches w hw⟩
      rw [hdeclines]
      exact List.mem_append_right _ (List.mem_singleton_self _)
  · exact hplans.declinedInWhole hactive hvalid hmem

/-- **Invalidated windows are declined windows** in every version of a case whose declines take in what they touch. -/
theorem declinedInWhole_of_history {l : List RecoveryCase} (h : (ledgerRules scenarioFactory answers).Hist l)
    (hdeclines : l.IsChain DeclinesWhole) (hplans : ∀ c ∈ l, BringsNone c) :
    ∀ c ∈ l, ∀ assumption, Assumes c assumption → DeclinedInWhole c assumption := by
  induction h with
  | nil => simp
  | @start c hinit =>
    rw [List.forall_mem_singleton]
    rw [List.forall_mem_singleton] at hplans
    rintro assumption (hmem | ⟨plan, hactive, hvalid, hmem⟩)
    · obtain ⟨plan, hactive, hvalid, hmem⟩ := hinit.2 assumption hmem
      exact hplans.declinedInWhole hactive hvalid hmem
    · exact hplans.declinedInWhole hactive hvalid hmem
  | @step c c' past _ hs ih =>
    rw [List.isChain_cons_cons] at hdeclines
    rw [List.forall_mem_cons] at hplans ⊢
    have hold := ih hdeclines.2 hplans.2
    have hstep : ∀ assumption, Assumes c' assumption → DeclinedInWhole c' assumption :=
      LedgerStep.declinedInWhole hs hdeclines.1 hplans.1 (hold c (List.mem_cons_self ..))
    exact ⟨hstep, hold⟩

/-- The versions of a case form a history in which it is known where assumptions come from. -/
theorem ledgerHistory_of_reaches {cfg : Config String RecoveryCase Failure Answer RecoveryCase}
    (h : Reaches scenarioFactory answers cfg) (caseId : String) :
    (ledgerRules scenarioFactory answers).Hist (versions cfg.saved caseId) :=
  Rules.hist_of_reachable (R := ledgerRules scenarioFactory answers) (fun _ hp => wp_request hp) h caseId

/-- **When a finished recovery is resolved**: exactly when its plan takes none of the time that declines have left of
invalidated windows; and in every run in which the declines of the case take in what they touch. -/
theorem verifyAndResolve_iff {cfg : Config String RecoveryCase Failure Answer RecoveryCase}
    (h : Reaches scenarioFactory answers cfg) (hc : current cfg.saved caseId = some c)
    (hready : ReadyToComplete scenarioFactory c plan facts now) :
    (Resolves answers cfg.saved caseId facts now ↔ LeavesRest c plan) ∧
      (InWhole cfg.saved caseId → Resolves answers cfg.saved caseId facts now) := by
  have hiff : Resolves answers cfg.saved caseId facts now ↔ LeavesRest c plan :=
    (resolves_iff_completable hc hready.active).trans hready.completable_iff
  refine ⟨hiff, fun hwhole => hiff.mpr ?_⟩
  have hmem : c ∈ versions cfg.saved caseId :=
    List.mem_filter.mpr ⟨List.mem_of_find?_eq_some hc, decide_eq_true (key_of_current hc)⟩
  have hall := declinedInWhole_of_history (ledgerHistory_of_reaches h caseId) hwhole.declines hwhole.plans c hmem
  exact .of_declinedInWhole fun assumption hassumption => hall assumption (Or.inl hassumption)

/-! ### A sitter who has half a day left -/

/-- Whether everything is done for a case that needs no approval. -/
def IsReady (c : RecoveryCase) (plan : RecoveryPlan) (facts : DemoScenario) (now : Instant) : Prop :=
  c.status = .executing ∧ c.pendingApproval = none ∧ (validate plan facts).valid = true ∧
    (validate plan facts).requiresApproval = false ∧
      ∀ expected ∈ requiredExecutionActions plan now,
        (succeededRecord (actionDict c.executionHistory) expected.actionId).isSome = true

instance : Decidable (IsReady c plan facts now) := by unfold IsReady; infer_instance

theorem IsReady.readyToComplete (h : IsReady c plan facts now) (hplan : c.activeRecoveryPlan = some plan)
    (hfacts : facts ∈ (scenarioFor scenarioFactory c).toOption) :
    ReadyToComplete scenarioFactory c plan facts now := by
  obtain ⟨hstatus, hpending, hvalid, hrequires, hdone⟩ := h
  refine ⟨hstatus, hpending, hplan, ?_, hvalid, fun h => ?_, fun e he => Option.isSome_iff_exists.mp (hdone e he)⟩
  · cases hs : scenarioFor scenarioFactory c with
    | error e => rw [hs] at hfacts; cases hfacts
    | ok facts' => rw [hs] at hfacts; exact congrArg _ (Option.some.inj hfacts)
  · rw [hrequires] at h
    cases h

/-- The first sitter is to come all day and declines; the given plan is accepted in its stead, and the request takes so
many steps. -/
def declinedBy (window : CoverageWindow) (replacement : RecoveryPlan) (steps : ℕ) : Schedule :=
  [.spawn (startRecovery sittersDay sittersDay nannyIll), .steps 0 100 (answering 1 "case" (allDayBy "kim") none),
    .spawn (processEvent sittersDay "case" (declineCommand "kim" window)),
    .steps 1 steps (answering 2 "event" replacement none)]

theorem reaches_declinedBy (window : CoverageWindow) (replacement : RecoveryPlan) (steps : ℕ) :
    Reaches sittersDay (fun _ _ => True) (Config.run (declinedBy window replacement steps)) :=
  reaches_two (.start ..) (env_answering fun _ => trivial) (.event ..) (env_answering fun _ => trivial)

/-- The second sitter comes for one half of the day, the first for the other. -/
def halfDayEach : RecoveryPlan :=
  { planId := "proposal"
    coverageSegments :=
      [care "first" "lee" .caregiver (minutes 0 60), care "second" "kim" .caregiver (minutes 60 120)] }

/-- The second sitter takes over the whole day, and everything is carried out. -/
theorem verifyAndResolve_iff_declinedBy :
    ∃ c plan facts, current (Config.run (declinedBy (minutes 0 120) (allDayBy "lee") 13)).saved "case" = some c ∧
      (Resolves (fun _ _ => True) (Config.run (declinedBy (minutes 0 120) (allDayBy "lee") 13)).saved "case" facts 3 ↔
        LeavesRest c plan) ∧
      (InWhole (Config.run (declinedBy (minutes 0 120) (allDayBy "lee") 13)).saved "case" →
        Resolves (fun _ _ => True) (Config.run (declinedBy (minutes 0 120) (allDayBy "lee") 13)).saved "case" facts
          3) := by
  have hready : ∃ c ∈ current (Config.run (declinedBy (minutes 0 120) (allDayBy "lee") 13)).saved "case",
      ∃ plan ∈ c.activeRecoveryPlan, ∃ facts ∈ (scenarioFor sittersDay c).toOption, IsReady c plan facts 3 := by
    decide +kernel
  obtain ⟨c, hc, plan, hplan, facts, hfacts, hready⟩ := hready
  exact ⟨c, plan, facts, hc, verifyAndResolve_iff (reaches_declinedBy ..) hc (hready.readyToComplete hplan hfacts)⟩

/-- The first sitter declines half of the day and comes for the other half, by a plan that the validator accepts.
Everything is carried out, and the case is not resolved. -/
theorem halfDeclined_not_resolved :
    ∃ cfg c plan facts, Reaches sittersDay (fun _ _ => True) cfg ∧ current cfg.saved "case" = some c ∧
      ReadyToComplete sittersDay c plan facts 3 ∧ ¬ Resolves (fun _ _ => True) cfg.saved "case" facts 3 := by
  have hseen : ∃ c ∈ current (Config.run (declinedBy (minutes 0 60) halfDayEach 100)).saved "case",
      ∃ plan ∈ c.activeRecoveryPlan, ∃ facts ∈ (scenarioFor sittersDay c).toOption,
        IsReady c plan facts 3 ∧ completionErrors c plan facts 3 ≠ [] := by decide +kernel
  obtain ⟨c, hc, plan, hplan, facts, hfacts, hready, herrors⟩ := hseen
  refine ⟨_, c, plan, facts, reaches_declinedBy (minutes 0 60) halfDayEach 100, hc,
    hready.readyToComplete hplan hfacts, ?_⟩
  rw [resolves_iff_completable hc hplan, ← completionErrors_eq_nil]
  exact herrors

end DayMend.Runs
