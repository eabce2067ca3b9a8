import DayMend.Runs.Declines
import DayMend.Runs.Grounding

/-!
# A decline that fails

Processing a decline saves the case up to four times, and may fail after the first. In a
run of one request it does so exactly when the planner's plan is valid but the case does
not go on with it (`atomicOnFailure_iff`): a request for approval that the plan does not
need is still pending, or the facts cannot be rebuilt because somebody who has declined
is no caregiver of theirs. Then the failure leaves another case behind
(`declinedWhileWaiting_torn`). Execution and verification themselves do not fail.
-/

namespace DayMend.Runs

open DayMend.Base DayMend.Models DayMend.Fixtures DayMend.Services DayMend.Agent DayMend.Application
open DayMend.Validation

variable {scenarioFactory scenario : DemoScenario}
  {answers : AgentRuntimeRequest → Except Failure AgentRuntimeResponse → Prop} {c : RecoveryCase} {caseId : String}
  {l l' : List RecoveryCase}

/-! ### The programs, alone -/

section Alone

variable {fail : List RecoveryCase → Failure → Prop}

theorem always_getCase {post : List RecoveryCase → RecoveryCase → Prop} (hc : current l caseId = some c)
    (h : post l c) : (getCase caseId).Always (env answers) l post fail := by
  rw [getCase, Prog.Always, hc]
  exact h

theorem always_saveCase {c' : RecoveryCase} {post : List RecoveryCase → RecoveryCase → Prop}
    (hc : current l c'.caseId = some c)
    (h : post (stored c' (some c.version) :: l) (stored c' (some c.version))) :
    (saveCase c' (some c.version)).Always (env answers) l post fail := by
  have hacc : Accepts l c' (some c.version) := accepts_of_current hc
  rw [saveCase, Prog.Always, if_pos hacc]
  exact h

theorem always_runActions {planId : String} {existing : Dict String ExecutionAction} {now : Instant}
    {required : List ExecutionAction} : ∀ {progress : ExecutionProgress},
    (runActions planId existing now required progress).Always (env answers) l (fun l₁ _ => l₁ = l) fail := by
  induction required with
  | nil => exact rfl
  | cons action rest ih =>
    intro progress
    rw [runActions]
    split
    · exact ih
    · exact fun result _ => ih

/-- Execution of a case that may be executed does not fail, and the case is still there afterwards. -/
theorem always_execute {plan : RecoveryPlan} {now : Instant} (hc : current l caseId = some c)
    (hcheck : checkExecution c = .ok plan) :
    (execute caseId now).Always (env answers) l (fun l₁ _ => ∃ c', current l₁ caseId = some c') fail := by
  have hkey : c.caseId = caseId := key_of_current hc
  rw [execute, always_bind]
  refine always_getCase hc ?_
  rw [always_bind, always_ofExcept, hcheck]
  refine ⟨fun p hp => ?_, fun e he => by cases he⟩
  dsimp only
  split
  · exact ⟨c, hc⟩
  · rw [always_bind]
    refine Prog.Always.mono ?_ always_runActions
    rintro l₁ progress rfl
    rw [always_bind]
    refine always_saveCase (by rw [← hkey] at hc; exact hc) ⟨_, current_cons ?_⟩
    exact hkey

/-- Verification does not fail. -/
theorem always_verifyAndResolve {now : Instant} (hc : current l caseId = some c) :
    (verifyAndResolve caseId scenario now).Always (env answers) l (fun _ _ => True) fail := by
  have hkey : c.caseId = caseId := key_of_current hc
  rw [verifyAndResolve, always_bind]
  refine always_getCase hc ?_
  split
  · trivial
  · dsimp only
    split
    · trivial
    · rw [always_bind]
      refine always_saveCase (by rw [← hkey] at hc; exact hc) trivial

/-- **Execution and verification of a case that may be executed** do not fail. -/
theorem always_executeAndComplete {plan : RecoveryPlan} (hc : current l caseId = some c)
    (hfacts : scenarioFor scenarioFactory c = .ok scenario) (hcheck : checkExecution c = .ok plan) :
    (executeAndComplete scenarioFactory caseId).Always (env answers) l (fun _ _ => True) fail := by
  obtain ⟨hactive, -⟩ := checkExecution_eq_ok hcheck
  rw [executeAndComplete, always_bind]
  refine always_getCase hc ?_
  rw [always_bind, always_ofExcept, hfacts]
  refine ⟨fun facts _ => ?_, fun e he => by cases he⟩
  rw [always_bind, always_ofExcept, raiseIf, hactive]
  refine ⟨fun _ _ => ?_, fun e he => by cases he⟩
  rw [always_bind]
  refine fun t _ => ?_
  change Prog.Always _ (execute caseId _ >>= _) _ _ _
  rw [always_bind]
  refine Prog.Always.mono ?_ (always_execute hc hcheck)
  rintro l₁ execution ⟨c', hc'⟩
  split
  · trivial
  · rw [always_bind]
    refine fun t _ => ?_
    change Prog.Always _ (verifyAndResolve caseId facts _ >>= _) _ _ _
    rw [always_bind]
    exact Prog.Always.mono (fun _ _ _ => trivial) (always_verifyAndResolve hc')

/-- Execution of a case that may not be executed raises, and saves nothing. -/
theorem always_executeAndComplete_blocked {e : Failure} (hc : current l caseId = some c)
    (hfacts : scenarioFor scenarioFactory c = .ok scenario) (hactive : c.activeRecoveryPlan ≠ none)
    (hcheck : checkExecution c = .error e) :
    (executeAndComplete scenarioFactory caseId).Always (env answers) l (fun _ _ => False)
      fun l₁ raised => l₁ = l ∧ raised = e := by
  rw [executeAndComplete, always_bind]
  refine always_getCase hc ?_
  rw [always_bind, always_ofExcept, hfacts]
  refine ⟨fun facts _ => ?_, fun e he => by cases he⟩
  rw [always_bind, always_ofExcept, raiseIf, if_neg hactive]
  refine ⟨fun _ _ => ?_, fun e he => by cases he⟩
  rw [always_bind]
  refine fun t _ => ?_
  change Prog.Always _ (execute caseId _ >>= _) _ _ _
  rw [always_bind, execute, always_bind]
  refine always_getCase hc ?_
  rw [always_bind, always_ofExcept, hcheck]
  exact ⟨fun p hp => (by cases hp), fun raised hraised => ⟨rfl, (Except.error.inj hraised).symm⟩⟩

/-- The gate lets a new plan through or asks for approval; it does not fail. -/
theorem always_applyAutonomyGate {validation : PlanValidationResult} {policy : FamilyPolicy} {now : Instant}
    (hc : current l c.caseId = some c) (hversion : 0 < c.version)
    (hplan : c.activeRecoveryPlan = some validation.validatedPlan) (hvalid : validation.valid = true)
    (hexpects : validation.requiresApproval = expectsApproval validation policy) :
    (applyAutonomyGate c validation policy now).Always (env answers) l
      (fun l₁ gate => gate.approvalRequired = validation.requiresApproval ∧ (gate.approvalRequired = false →
        gate.recoveryCase = stored (executingCase c validation.validatedPlan now) (some c.version) ∧
          current l₁ c.caseId = some gate.recoveryCase)) fail := by
  have hsave : ∀ {next : RecoveryCase} {post : List RecoveryCase → RecoveryCase → Prop}, next.caseId = c.caseId →
      post (stored next (some c.version) :: l) (stored next (some c.version)) →
        (savePrevious next c.version).Always (env answers) l post fail := by
    intro next post hkey h
    rw [savePrevious, if_pos hversion]
    exact always_saveCase (by rw [hkey]; exact hc) h
  rw [applyAutonomyGate, hplan, hvalid]
  simp only [ne_eq, not_true_eq_false, if_false, hexpects]
  split
  next hrequires =>
    rw [always_bind]
    refine hsave rfl ⟨?_, fun _ => ⟨rfl, current_cons rfl⟩⟩
    simpa using hrequires.symm
  next hrequires =>
    have hrequires : expectsApproval validation policy = true := by simpa using hrequires
    split
    · exact ⟨hrequires.symm, fun h => by cases h⟩
    · rw [always_bind]
      refine fun approvalId _ => ?_
      change Prog.Always _ (savePrevious _ _ >>= _) _ _ _
      rw [always_bind]
      exact hsave rfl ⟨hrequires.symm, fun h => by cases h⟩

end Alone

/-- A valid proposal needs approval exactly when the gate expects it, on facts with the same policy. -/
theorem requiresApproval_eq_expectsApproval {proposal : RecoveryPlan} {facts : DemoScenario}
    {preservedSegments : List RecoveryPlanSegment}
    (hvalid : (validateProposal proposal facts preservedSegments).valid = true) (validation : PlanValidationResult)
    (hrequires : validation.requiresApproval = (validateProposal proposal facts preservedSegments).requiresApproval)
    (hcost : validation.deterministicTotalCost =
      (validateProposal proposal facts preservedSegments).deterministicTotalCost)
    (hreasons : validation.validatedPlan.approvalReasons =
      (validateProposal proposal facts preservedSegments).validatedPlan.approvalReasons) :
    validation.requiresApproval = expectsApproval validation facts.policy := by
  have hmarks := (validateProposal_marks proposal facts preservedSegments).1
  rw [expectsApproval, hreasons, ← hmarks, hrequires, hcost]
  rw [validateProposal_of_valid hvalid]
  cases h : (validate proposal facts).requiresApproval with
  | true => rfl
  | false =>
    obtain ⟨hlimit, -⟩ := requiresApproval_eq_false_iff.mp h
    simp [hlimit]

/-- A decline that cannot be replayed is an error of values. -/
theorem replayDeclines_error {declines : List Decline} {facts : DemoScenario} {e : Failure}
    (h : replayDeclines facts declines = .error e) : ∃ message, e = .valueError message := by
  induction declines generalizing facts with
  | nil => cases h
  | cons decline declines ih =>
    rw [replayDeclines_cons, bind_eq_error] at h
    obtain hfirst | ⟨next, -, hrest⟩ := h
    · rw [applyCaregiverDeclineToScenario] at hfirst
      split at hfirst
      · cases hfirst
      · exact ⟨_, (Except.error.inj hfirst).symm⟩
    · exact ih hrest

/-- Facts that cannot be rebuilt are an error of values. -/
theorem scenarioFor_error {e : Failure} (h : scenarioFor scenarioFactory c = .error e) :
    ∃ message, e = .valueError message := by
  rw [scenarioFor] at h
  cases hk : c.contextState.researchedBackupCareCandidate with
  | none =>
    rw [hk] at h
    exact replayDeclines_error h
  | some k =>
    rw [hk, validationScenario, addResearchedCaregiver] at h
    split at h
    · exact replayDeclines_error h
    · exact ⟨_, (Except.error.inj h).symm⟩

/-! ### What becomes of an accepted plan -/

/-- The case goes on with its new plan: whoever has declined is a caregiver of the base facts, or the provider who
has been found now, if one has been found; and no approval is pending, or the new plan needs approval itself. -/
def GoesOn (scenarioFactory : DemoScenario) (c : RecoveryCase) (decline : Decline)
    (candidate : Option BackupCareCandidate) (plan : RecoveryPlan) : Prop :=
  (∀ k, candidate = some k → ∀ d ∈ c.declines ++ [decline],
    d.caregiverId ∈ (baseScenario scenarioFactory c).caregivers.map (·.caregiverId) ∨
      d.caregiverId = k.candidateId) ∧
    (c.pendingApproval = none ∨ plan.approvalReasons ≠ [])

/-- An error that is not the announced one has changed the stored case. -/
def Torn (l : List RecoveryCase) (caseId : String) (l' : List RecoveryCase) (e : Failure) : Prop :=
  (∀ message, e ≠ .replanningFailed message) ∧ current l' caseId ≠ current l caseId

theorem torn_of_version {c' : RecoveryCase} {e : Failure} (hc : current l caseId = some c)
    (hc' : current l' caseId = some c') (hversion : c.version < c'.version)
    (he : ∀ message, e ≠ .replanningFailed message) : Torn l caseId l' e := by
  refine ⟨he, fun heq => ?_⟩
  rw [hc, hc'] at heq
  rw [Option.some.inj heq] at hversion
  exact lt_irrefl _ hversion

/-- A gated case whose plan needs no approval may be executed exactly when no approval is pending. -/
theorem checkExecution_executingCase {plan : RecoveryPlan} (now : Instant) (n : Option ℕ)
    (hvalid : plan.validationState = .valid) (hreasons : plan.approvalReasons = []) :
    checkExecution (stored (executingCase c plan now) n) =
      if c.pendingApproval.isSome then
        .error (.workflowInvariantError "execution is blocked by pending approval") else .ok plan := by
  simp only [checkExecution, stored, setVersion, executingCase, hvalid, hreasons]
  simp

/-- A gated case whose plan needs no approval is carried out, unless an approval is pending. -/
theorem always_executeAndComplete_executingCase {gated : RecoveryCase} {plan : RecoveryPlan} {now : Instant}
    {n : Option ℕ} (hcase : gated = stored (executingCase c plan now) n) (hc : current l gated.caseId = some gated)
    (hvalid : plan.validationState = .valid) (hreasons : plan.approvalReasons = [])
    (hfacts : scenarioFor scenarioFactory c = .ok scenario) :
    (executeAndComplete scenarioFactory gated.caseId).Always (env answers) l (fun _ _ => c.pendingApproval = none)
      fun l₁ e => c.pendingApproval ≠ none ∧ (∀ message, e ≠ .replanningFailed message) ∧ l₁ = l := by
  have hcheck := checkExecution_executingCase (c := c) now n hvalid hreasons
  rw [← hcase] at hcheck
  have hgatedFacts : scenarioFor scenarioFactory gated = .ok scenario := by
    rw [hcase]
    exact hfacts
  cases hpending : c.pendingApproval with
  | none =>
    rw [hpending] at hcheck
    exact Prog.Always.mono (fun _ _ _ => rfl) (always_executeAndComplete hc hgatedFacts hcheck)
  | some approval =>
    rw [hpending] at hcheck
    have hactive : gated.activeRecoveryPlan ≠ none := by
      rw [hcase]
      exact Option.some_ne_none _
    refine (always_executeAndComplete_blocked hc hgatedFacts hactive hcheck).imp (fun _ _ h => h.elim) ?_
    rintro l₂ e ⟨rfl, rfl⟩
    exact ⟨Option.some_ne_none _, fun message h => (by cases h), rfl⟩

/-- The gate and what follows it: the plan is carried out or waits for approval, unless an approval is pending that
the plan does not need. -/
theorem always_gateAndExecute (validation : PlanValidationResult) {policy : FamilyPolicy} {now : Instant}
    (hc : current l c.caseId = some c) (hversion : 0 < c.version)
    (hplan : c.activeRecoveryPlan = some validation.validatedPlan) (hvalid : validation.valid = true)
    (hstate : validation.validatedPlan.validationState = .valid)
    (hrequires : validation.requiresApproval = !validation.validatedPlan.approvalReasons.isEmpty)
    (hexpects : validation.requiresApproval = expectsApproval validation policy)
    (hfacts : scenarioFor scenarioFactory c = .ok scenario) :
    (applyAutonomyGate c validation policy now >>= fun gate =>
      if gate.approvalRequired then pure gate.recoveryCase
      else executeAndComplete scenarioFactory gate.recoveryCase.caseId).Always (env answers) l
        (fun _ _ => c.pendingApproval = none ∨ validation.validatedPlan.approvalReasons ≠ [])
        fun l₁ e => ¬ (c.pendingApproval = none ∨ validation.validatedPlan.approvalReasons ≠ []) ∧
          (∀ message, e ≠ .replanningFailed message) ∧
            ∃ c', current l₁ c.caseId = some c' ∧ c.version < c'.version := by
  rw [always_bind]
  refine Prog.Always.mono ?_ (always_applyAutonomyGate hc hversion hplan hvalid hexpects)
  rintro l₁ gate ⟨happroval, hgated⟩
  cases hgate : gate.approvalRequired with
  | true =>
    right
    intro hnone
    rw [hgate, hrequires, hnone] at happroval
    cases happroval
  | false =>
    have hnone : validation.validatedPlan.approvalReasons = [] := by
      rw [hgate, hrequires] at happroval
      simpa using happroval.symm
    obtain ⟨hcase, hcurrent⟩ := hgated hgate
    have hkey : gate.recoveryCase.caseId = c.caseId := by
      rw [hcase]
      rfl
    rw [← hkey] at hcurrent ⊢
    refine (always_executeAndComplete_executingCase hcase hcurrent hstate hnone hfacts).imp (fun _ _ => Or.inl) ?_
    rintro l₂ e ⟨hpending, hother, rfl⟩
    refine ⟨by simp [hpending, hnone], hother, _, hcurrent, ?_⟩
    rw [hcase]
    exact Nat.lt_succ_self _

/-- The facts after a decline can be rebuilt exactly when whoever has declined is a caregiver of the base facts, or
the provider who has been found. -/
theorem exists_rebuilt_iff {c' : RecoveryCase} {decline : Decline} {old : RecoveryPlan} {updated facts : DemoScenario}
    {candidate : Option BackupCareCandidate} (hd : Declined scenarioFactory answers c c' decline old)
    (hscenario : scenarioFor scenarioFactory c = .ok scenario)
    (happly : applyCaregiverDeclineToScenario scenario decline = .ok updated)
    (hfacts : validationScenario updated candidate = .ok facts)
    (hresearched : c'.contextState.researchedBackupCareCandidate =
      candidate.or c.contextState.researchedBackupCareCandidate) :
    (∃ rebuilt, scenarioFor scenarioFactory c' = .ok rebuilt) ↔
      ∀ k, candidate = some k → ∀ d ∈ c.declines ++ [decline],
        d.caregiverId ∈ (baseScenario scenarioFactory c).caregivers.map (·.caregiverId) ∨
          d.caregiverId = k.candidateId := by
  cases candidate with
  | none => exact ⟨fun _ k hk => (by cases hk), fun _ => ⟨updated, hd.scenarioFor_eq hresearched hscenario happly⟩⟩
  | some k =>
    obtain ⟨caregivers, rfl⟩ := exists_caregivers_of_scenarioFor hscenario
    obtain ⟨-, rfl⟩ := applyCaregiverDeclineToScenario_eq_ok.mp happly
    obtain ⟨hallow, -⟩ := addResearchedCaregiver_eq_ok.mp hfacts
    have hstart : validationScenario (baseScenario scenarioFactory c) (some k) = .ok _ :=
      addResearchedCaregiver_eq_ok.mpr ⟨hallow, rfl⟩
    have hbase := baseScenario_congr scenarioFactory hd.snapshot hd.policy
    rw [scenarioFor, hbase, hresearched, Option.some_or, hstart, hd.declines]
    refine exists_replayDeclines_iff.trans ?_
    simp [researchedCaregiver]

/-- The facts on which a plan is validated and those that are rebuilt after it have the same policy. -/
theorem policy_eq_of_declined {c' : RecoveryCase} {decline : Decline} {old : RecoveryPlan}
    {updated facts rebuilt : DemoScenario} {candidate : Option BackupCareCandidate}
    (hd : Declined scenarioFactory answers c c' decline old) (hscenario : scenarioFor scenarioFactory c = .ok scenario)
    (happly : applyCaregiverDeclineToScenario scenario decline = .ok updated)
    (hfacts : validationScenario updated candidate = .ok facts)
    (hrebuilt : scenarioFor scenarioFactory c' = .ok rebuilt) : rebuilt.policy = facts.policy := by
  obtain ⟨_, rfl⟩ := exists_caregivers_of_scenarioFor hscenario
  obtain ⟨_, rfl⟩ := exists_caregivers_of_scenarioFor hrebuilt
  obtain ⟨-, rfl⟩ := applyCaregiverDeclineToScenario_eq_ok.mp happly
  obtain ⟨_, rfl⟩ := exists_caregivers_of_validationScenario hfacts
  rw [baseScenario_congr scenarioFactory hd.snapshot hd.policy]

/-- The declined case is saved with its new plan, gated and carried out, if its facts can be rebuilt. -/
theorem always_saveAndContinue {saved : RecoveryCase} (validation : PlanValidationResult)
    (hc : current l caseId = some c) (hkey : saved.caseId = caseId)
    (hplan : saved.activeRecoveryPlan = some validation.validatedPlan) (hvalid : validation.valid = true)
    (hstate : validation.validatedPlan.validationState = .valid)
    (hrequires : validation.requiresApproval = !validation.validatedPlan.approvalReasons.isEmpty)
    (hexpects : ∀ rebuilt, scenarioFor scenarioFactory saved = .ok rebuilt →
      validation.requiresApproval = expectsApproval validation rebuilt.policy) :
    (saveCase saved (some c.version) >>= fun replanned =>
      Prog.ofExcept (scenarioFor scenarioFactory replanned) >>= fun scenario =>
        nowAfter replanned.updatedAt >>= fun now =>
          applyAutonomyGate replanned validation scenario.policy now >>= fun gate =>
            if gate.approvalRequired then pure gate.recoveryCase
            else executeAndComplete scenarioFactory gate.recoveryCase.caseId).Always (env answers) l
      (fun _ _ => (∃ rebuilt, scenarioFor scenarioFactory saved = .ok rebuilt) ∧
        (saved.pendingApproval = none ∨ validation.validatedPlan.approvalReasons ≠ []))
      fun l₁ e => ¬ ((∃ rebuilt, scenarioFor scenarioFactory saved = .ok rebuilt) ∧
        (saved.pendingApproval = none ∨ validation.validatedPlan.approvalReasons ≠ [])) ∧ Torn l caseId l₁ e := by
  subst hkey
  have hcurrent : current (stored saved (some c.version) :: l) saved.caseId = some (stored saved (some c.version)) :=
    current_cons rfl
  rw [always_bind]
  refine always_saveCase hc ?_
  rw [always_bind, always_ofExcept]
  refine ⟨fun rebuilt hrebuilt => ?_, fun e he => ?_⟩
  · rw [always_bind]
    refine fun t _ => ?_
    change Prog.Always _ (applyAutonomyGate _ _ _ _ >>= _) _ _ _
    refine (always_gateAndExecute validation (c := stored saved (some c.version)) hcurrent (Nat.succ_pos _) hplan hvalid
      hstate hrequires (hexpects rebuilt hrebuilt) hrebuilt).imp ?_ ?_
    · exact fun l₁ _ hgoes => ⟨⟨rebuilt, hrebuilt⟩, hgoes⟩
    · rintro l₁ e ⟨hstuck, hother, c', hc', hversion⟩
      exact ⟨fun h => hstuck h.2, torn_of_version hc hc' (Nat.lt_of_succ_lt hversion) hother⟩
  · obtain ⟨message, rfl⟩ := scenarioFor_error he
    refine ⟨?_, torn_of_version hc hcurrent (Nat.lt_succ_self _) fun message h => by cases h⟩
    rintro ⟨⟨rebuilt, hrebuilt⟩, -⟩
    exact absurd (he.symm.trans hrebuilt) (by simp)

/-- When there is no valid plan, the failure is the announced one. -/
theorem always_finishReplanning_failed {event : RecoveryEvent} {result : ReplanningResult} {now : Instant}
    {post : List RecoveryCase → RecoveryCase → Prop} (hc : current l caseId = some c)
    (hreplanned : ReplannedFrom answers { c with updatedAt := now } event scenario result)
    (hplan : result.finalPlan = none) :
    (finishReplanning scenarioFactory { c with updatedAt := now } result).Always (env answers) l post fun l₁ e =>
      (∀ message, e ≠ .replanningFailed message) → current l₁ caseId = current l caseId := by
  obtain ⟨outcome, response, facts, proposal, attempts, houtcome, -, -, -, rfl⟩ := hreplanned
  obtain ⟨_, _, -, -, _, _, _, _, heq⟩ := applyCaregiverDecline_eq_ok houtcome
  simp only [buildReplanningResult] at hplan
  split at hplan
  next => cases hplan
  next hlast =>
    rw [finishReplanning, if_pos (by simp [buildReplanningResult, hlast]), always_bind]
    refine always_saveCase (c := c) ?_ fun hother => absurd rfl (hother _)
    rw [← key_of_current hc] at hc
    simp only [buildReplanningResult, hlast, heq]
    exact hc

/-- **What becomes of an accepted plan**: the case goes on with it, or the failure has changed the stored case. -/
theorem always_finishReplanning {event : RecoveryEvent} {decline : Decline} {result : ReplanningResult}
    {finalPlan : RecoveryPlan} {now : Instant} (hc : current l caseId = some c)
    (hscenario : scenarioFor scenarioFactory c = .ok scenario)
    (hreplanned : ReplannedFrom answers { c with updatedAt := now } event scenario result)
    (hevent : event.decline? = some decline) (hplan : result.finalPlan = some finalPlan) :
    (finishReplanning scenarioFactory { c with updatedAt := now } result).Always (env answers) l
      (fun _ _ => GoesOn scenarioFactory c decline result.researchedCandidate finalPlan)
      fun l₁ e => ¬ GoesOn scenarioFactory c decline result.researchedCandidate finalPlan ∧ Torn l caseId l₁ e := by
  obtain ⟨outcome, response, facts, proposal, attempts, houtcome, hanswer, hfacts, hproposal, rfl⟩ := hreplanned
  have hdecline : DeclineOf scenarioFactory c event scenario outcome := ⟨hscenario, now, houtcome⟩
  simp only [buildReplanningResult] at hplan
  split at hplan
  case isFalse => cases hplan
  case isTrue hlast =>
  have hvalid : (validateProposal proposal facts outcome.preservedSegments).valid = true := hproposal ▸ hlast
  obtain ⟨hrequires, hstate⟩ := validateProposal_marks proposal facts outcome.preservedSegments
  rw [finishReplanning, if_neg (by simp [buildReplanningResult, hlast]), always_bind, always_ofExcept]
  refine ⟨fun accepted haccepted => ?_, fun e he => ?_⟩
  · obtain ⟨-, -, hvalidation, -⟩ := acceptReplanningResult_eq_ok rfl haccepted
    obtain ⟨assumptions, hsaved⟩ := exists_acceptedCase_of_accept haccepted
    rw [hsaved, hvalidation, hproposal]
    have hreplanned : Replanned scenarioFactory answers c _ := ⟨event, scenario, outcome, response, facts, _,
      assumptions, hdecline, hanswer, hfacts, ⟨proposal, outcome.preservedSegments, hvalid, rfl⟩, rfl⟩
    obtain ⟨decline', old, hevent', happly, hd⟩ := hdecline.declined answers (matchesOutcome_acceptedCase ..)
      fun _ _ => .replanned hreplanned
    obtain rfl := Option.some.inj (hevent'.symm.trans hevent)
    have hgoes : GoesOn scenarioFactory c decline' response.researchedCandidate finalPlan ↔ _ :=
      and_congr_left' (exists_rebuilt_iff hd hscenario happly hfacts
        ((acceptedCase_researched ..).trans (by rw [hdecline.researched_eq]))).symm
    have hreasons : finalPlan.approvalReasons =
        (validateProposal proposal facts outcome.preservedSegments).validatedPlan.approvalReasons := by
      rw [← Option.some.inj hplan, ← hproposal]
      rfl
    rw [hreasons, ← hd.pending] at hgoes
    refine (always_saveAndContinue
      { validateProposal proposal facts outcome.preservedSegments with
        validatedPlan := acceptPlan _ c.caseId outcome.recoveryCase.previousPlans }
      hc (hd.caseId.trans (key_of_current hc)) (acceptedCase_activeRecoveryPlan ..) hvalid (hstate hvalid) hrequires
      fun rebuilt hrebuilt => ?_).imp (fun _ _ => hgoes.mpr) fun _ _ => And.imp_left hgoes.not.mpr
    rw [policy_eq_of_declined hd hscenario happly hfacts hrebuilt]
    exact requiresApproval_eq_expectsApproval hvalid _ rfl rfl rfl
  · simp [acceptReplanningResult, buildReplanningResult, hlast] at he

/-! ### Declines -/

/-- Processing an event, alone, fails with the announced failure only, or leaves the stored case as it was. -/
def AtomicOnFailure (scenarioFactory : DemoScenario)
    (answers : AgentRuntimeRequest → Except Failure AgentRuntimeResponse → Prop) (l : List RecoveryCase)
    (caseId : String) (command : EventCommand) : Prop :=
  ∀ l' e, (processEvent scenarioFactory caseId command).Ends (env answers) l l' (.error e) →
    (∀ message, e ≠ .replanningFailed message) → current l' caseId = current l caseId

variable (scenarioFactory answers) in
/-- The planner's outcome for a decline of the stored case `c`: `process_event` has nothing against the decline, does
not stop at it, and replanning ends with `result`. -/
structure PlannerOutcome (l : List RecoveryCase) (c : RecoveryCase) (command : EventCommand) (decline : Decline)
    (result : ReplanningResult) : Prop where
  version : checkExpectedVersion c command.expectedVersion = .ok ()
  supported : command.eventType = .caregiverDeclined
  event : ∃ eventId event, (eventIdOf command).Ends (env answers) l l (.ok eventId) ∧
    eventOf command eventId = .ok event ∧ event.decline? = some decline ∧
      ∃ scenario t, scenarioFor scenarioFactory c = .ok scenario ∧
        (stopOrReplan { c with updatedAt := max t c.updatedAt } event scenario).Ends (env answers) l l
          (.ok (.inr result))

theorem saveless_repairLoop {facts : DemoScenario} {recoveryCaseId : Option String}
    {preservedSegments : List RecoveryPlanSegment} {researched : Option BackupCareCandidate} {n : ℕ} :
    ∀ {earlier : List PlanningAttempt} {plan : RecoveryPlan},
      (repairLoop scenario facts recoveryCaseId preservedSegments researched n earlier plan).Saveless := by
  induction n with
  | zero => exact trivial
  | succ n ih =>
    intro earlier plan
    rw [repairLoop]
    dsimp only
    split
    · trivial
    · exact Prog.Saveless.bind (fun answer => Prog.saveless_ofExcept _) fun response => ih

theorem saveless_replan (c : RecoveryCase) (event : RecoveryEvent) (scenario : DemoScenario) :
    (replan c event scenario).Saveless := by
  refine (Prog.saveless_ofExcept _).bind fun outcome => ?_
  refine Prog.Saveless.bind (fun answer => Prog.saveless_ofExcept _) fun response => ?_
  exact (Prog.saveless_ofExcept _).bind fun facts => saveless_repairLoop.bind fun attempts => trivial

theorem saveless_eventIdOf (command : EventCommand) : (eventIdOf command).Saveless := by
  rw [eventIdOf]
  split
  · split
    · exact fun _ => trivial
    · trivial
  · exact fun _ => trivial

/-- A decline is stopped at, or nothing is saved. -/
theorem always_stopOrReplan {event : RecoveryEvent} {now : Instant} (hc : current l caseId = some c) :
    (stopOrReplan { c with updatedAt := now } event scenario).Always (env answers) l
      (fun l₁ result => ∀ replanned, result = .inr replanned → l₁ = l) fun l₁ _ => l₁ = l := by
  rw [stopOrReplan, stopWhenNoRecoveryOption, always_bind, always_bind, always_ofExcept]
  refine ⟨fun outcome houtcome => ?_, fun e _ => rfl⟩
  rw [always_bind, always_ofExcept]
  refine ⟨fun need _ => ?_, fun e _ => rfl⟩
  rw [always_bind, always_ofExcept]
  refine ⟨fun stop _ => ?_, fun e _ => rfl⟩
  split
  · rw [always_bind]
    refine fun t _ => ?_
    change Prog.Always _ (saveCase _ _ >>= _) _ _ _
    rw [always_bind]
    obtain ⟨_, _, -, -, _, _, _, _, heq⟩ := applyCaregiverDecline_eq_ok houtcome
    have hkey : (noOptionCase outcome event (!scenario.policy.allowExternalBackupProviders) need.requestedWindows
        (max t outcome.recoveryCase.updatedAt)).caseId = caseId := by
      rw [← key_of_current hc, noOptionCase, heq]
      rfl
    exact always_saveCase (c := c) (hkey.symm ▸ hc) fun replanned h => by cases h
  · change Prog.Always _ (replan _ _ _ >>= _) _ _ _
    rw [always_bind]
    exact (saveless_replan ..).always (fun _ _ _ _ => rfl) fun _ => rfl

/-- What the planner's outcome is. -/
theorem replannedFrom_of_stopOrReplan {event : RecoveryEvent} {result : ReplanningResult} {now : Instant}
    (hscenario : scenarioFor scenarioFactory c = .ok scenario)
    (h : (stopOrReplan { c with updatedAt := now } event scenario).Ends (env answers) l l' (.ok (.inr result))) :
    ReplannedFrom answers { c with updatedAt := now } event scenario result := by
  obtain ⟨_, hresult⟩ := Prog.Ends.post_of_wp (wp_stopOrReplan (Set.mem_singleton c) hscenario) h
  exact hresult result rfl

theorem ReplannedFrom.decline? {event : RecoveryEvent} {result : ReplanningResult}
    (h : ReplannedFrom answers c event scenario result) : ∃ decline, event.decline? = some decline := by
  obtain ⟨outcome, _, _, _, _, houtcome, -⟩ := h
  obtain ⟨decline, _, hcheck, -⟩ := applyCaregiverDecline_eq_ok houtcome
  exact ⟨decline, (checkDecline_eq_ok hcheck).1⟩

/-- A decline that is planned comes to what finishing its result comes to. -/
theorem PlannerOutcome.ends {command : EventCommand} {decline : Decline} {result : ReplanningResult}
    (h : PlannerOutcome scenarioFactory answers l c command decline result) (hc : current l caseId = some c) :
    ∃ event scenario now, scenarioFor scenarioFactory c = .ok scenario ∧ event.decline? = some decline ∧
      ReplannedFrom answers { c with updatedAt := now } event scenario result ∧
        ∀ l' r, (finishReplanning scenarioFactory { c with updatedAt := now } result).Ends (env answers) l l' r →
          (processEvent scenarioFactory caseId command).Ends (env answers) l l' r := by
  obtain ⟨eventId, event, hid, hevent, hdecline, scenario, t, hscenario, hplanned⟩ := h.event
  refine ⟨event, scenario, _, hscenario, hdecline, replannedFrom_of_stopOrReplan hscenario hplanned, fun l' r hr => ?_⟩
  have hget : (getCase caseId).Ends (env answers) l l (.ok c) := by
    rw [getCase, Prog.Ends, hc]
    exact ⟨rfl, rfl⟩
  have hsupported : raiseIf (command.eventType ≠ .caregiverDeclined)
      (Failure.eventNotApplicable s!"Event type {command.eventType.value} is not supported.") = .ok () :=
    if_neg (not_not.mpr h.supported)
  have hnow : (nowAfter c.updatedAt).Ends (env answers) l l (.ok (max t c.updatedAt)) := ⟨t, trivial, rfl, rfl⟩
  rw [processEvent]
  refine hget.bind (Prog.Ends.bind (ends_ofExcept.mpr ⟨rfl, h.version.symm⟩) ?_)
  refine Prog.Ends.bind (ends_ofExcept.mpr ⟨rfl, hsupported.symm⟩) (hnow.bind ?_)
  refine Prog.Ends.bind (ends_ofExcept.mpr ⟨rfl, hscenario.symm⟩) (hid.bind ?_)
  refine Prog.Ends.bind (ends_ofExcept.mpr ⟨rfl, hevent.symm⟩) ?_
  exact Prog.Ends.bind (ends_mapError.mpr ⟨_, hplanned, rfl⟩) hr

/-- The world outside answers every question, if the planner does. -/
theorem exists_env (hanswers : ∀ request, ∃ answer, answers request answer) (q : Query) : ∃ a, env answers q a := by
  cases q with
  | clock => exact ⟨(0 : Instant), trivial⟩
  | newId => exact ⟨("" : String), trivial⟩
  | execute action now => exact ⟨_, [], rfl⟩
  | invoke request => exact hanswers request

/-- Processing an event whose valid plans go on fails with the announced failure, or saves nothing before it fails. -/
theorem always_processEvent (hc : current l caseId = some c) (command : EventCommand)
    (hgoes : ∀ decline result plan, PlannerOutcome scenarioFactory answers l c command decline result →
      result.finalPlan = some plan → GoesOn scenarioFactory c decline result.researchedCandidate plan) :
    (processEvent scenarioFactory caseId command).Always (env answers) l (fun _ _ => True) fun l₁ e =>
      (∀ message, e ≠ .replanningFailed message) → current l₁ caseId = current l caseId := by
  rw [processEvent, always_bind]
  refine always_getCase hc ?_
  rw [always_bind, always_ofExcept]
  refine ⟨fun _ hversion => ?_, fun e _ _ => rfl⟩
  rw [always_bind, always_ofExcept]
  refine ⟨fun _ hsupported => ?_, fun e _ _ => rfl⟩
  rw [always_bind]
  refine fun t _ => ?_
  change Prog.Always _ (Prog.ofExcept _ >>= _) _ _ _
  rw [always_bind, always_ofExcept]
  refine ⟨fun scenario hscenario => ?_, fun e _ _ => rfl⟩
  rw [always_bind]
  refine (saveless_eventIdOf command).always (fun eventId hid => ?_) fun e _ => rfl
  rw [always_bind, always_ofExcept]
  refine ⟨fun event hevent => ?_, fun e _ _ => rfl⟩
  rw [always_bind, always_mapError]
  refine (always_stopOrReplan hc).with_ends.imp ?_ ?_
  · rintro l₁ (stopped | result) ⟨hsame, hplanned⟩
    · trivial
    obtain rfl := hsame result rfl
    have hreplanned := replannedFrom_of_stopOrReplan hscenario hplanned
    obtain ⟨decline, hdecline⟩ := hreplanned.decline?
    have hsupported : command.eventType = .caregiverDeclined := by
      by_contra hne
      rw [raiseIf, if_pos hne] at hsupported
      cases hsupported
    have houtcome : PlannerOutcome scenarioFactory answers l₁ c command decline result :=
      ⟨hversion, hsupported, eventId, event, hid, hevent, hdecline, scenario, t, hscenario, hplanned⟩
    cases hplan : result.finalPlan with
    | some plan =>
      refine (always_finishReplanning hc hscenario hreplanned hdecline hplan).imp (fun _ _ _ => trivial) ?_
      intro l₂ e hfailed
      exact absurd (hgoes decline result plan houtcome hplan) hfailed.1
    | none => exact always_finishReplanning_failed hc hreplanned hplan
  · rintro l₁ e rfl -
    rfl

/-- A run of one request that fails and has changed the case. -/
theorem not_atomicOnFailure_of_run {command : EventCommand} {answer : (q : Query) → Answer q}
    (run : List RecoveryCase × Service RecoveryCase) (hanswer : ∀ q, env answers q (answer q)) {n : ℕ}
    (hrun : run = advances answer n (l, processEvent scenarioFactory caseId command)) {e : Failure}
    (hfails : run.2.failure? = some e) (hother : ∀ message, e ≠ .replanningFailed message)
    (hchanged : current run.1 caseId ≠ current l caseId) : ¬ AtomicOnFailure scenarioFactory answers l caseId command :=
  fun hatomic => hchanged (hatomic run.1 e (ends_of_failure? hanswer hrun hfails) hother)

/-- **When a failed decline leaves the case alone**: in a run of one request, for every stored case, every event and
whatever the planner may answer, a failure of `process_event` that is not the announced one leaves the stored case as
it was, if and only if the case goes on with every valid plan that replanning ends with. -/
theorem atomicOnFailure_iff (hanswers : ∀ request, ∃ answer, answers request answer)
    (hc : current l caseId = some c) (command : EventCommand) :
    AtomicOnFailure scenarioFactory answers l caseId command ↔
      ∀ decline result plan, PlannerOutcome scenarioFactory answers l c command decline result →
        result.finalPlan = some plan → GoesOn scenarioFactory c decline result.researchedCandidate plan := by
  constructor
  · intro hatomic decline result plan houtcome hplan
    obtain ⟨event, scenario, now, hscenario, hdecline, hreplanned, hprocess⟩ := houtcome.ends hc
    obtain ⟨l', r, hends⟩ := Prog.exists_ends (exists_env hanswers)
      (finishReplanning scenarioFactory { c with updatedAt := now } result) l
    obtain ⟨hok, herror⟩ := (always_finishReplanning hc hscenario hreplanned hdecline hplan).of_ends hends
    cases r with
    | ok saved => exact hok saved rfl
    | error e =>
      obtain ⟨-, hother, hchanged⟩ := herror e rfl
      exact absurd (hatomic l' e (hprocess l' _ hends) hother) hchanged
  · intro hgoes l' e hends hother
    exact ((always_processEvent hc command hgoes).of_ends hends).2 e rfl hother

/-- A recovery has been started with a plan. -/
def planned (facts : DemoScenario) (plan : RecoveryPlan) : Schedule :=
  [.spawn (startRecovery facts facts nannyIll), .steps 0 100 (answering 1 "case" plan none)]

theorem reaches_planned (facts : DemoScenario) (plan : RecoveryPlan) :
    Reaches facts (fun _ _ => True) (Config.run (planned facts plan)) := by
  apply reachable_run
  intro t ht
  simp only [planned, List.mem_cons, List.not_mem_nil, or_false] at ht
  rcases ht with rfl | rfl
  · exact .start ..
  · exact env_answering fun _ => trivial

theorem atomicOnFailure_iff_sittersDay :
    ∃ c, current (Config.run (planned sittersDay (allDayBy "kim"))).saved "case" = some c ∧
      (AtomicOnFailure sittersDay (fun _ _ => True) (Config.run (planned sittersDay (allDayBy "kim"))).saved "case"
          (declineCommand "kim" (minutes 0 120)) ↔
        ∀ decline result plan, PlannerOutcome sittersDay (fun _ _ => True)
          (Config.run (planned sittersDay (allDayBy "kim"))).saved c (declineCommand "kim" (minutes 0 120)) decline
            result → result.finalPlan = some plan → GoesOn sittersDay c decline result.researchedCandidate plan) := by
  have hstored : (current (Config.run (planned sittersDay (allDayBy "kim"))).saved "case").isSome := by decide +kernel
  obtain ⟨c, hc⟩ := Option.isSome_iff_exists.mp hstored
  exact ⟨c, hc, atomicOnFailure_iff (fun _ => ⟨.error .assertionError, trivial⟩) hc _⟩

/-- A recovery waits for approval of the third sitter's pay; that sitter declines, and the planner finds a valid plan
with the first, which needs no approval. -/
def declinedWhileWaiting : List RecoveryCase × Service RecoveryCase :=
  advances (answering 2 "event" (allDayBy "kim") none) 100
    ((Config.run (planned lastPaidDay (allDayBy "sam"))).saved,
      processEvent lastPaidDay "case" (declineCommand "sam" (minutes 0 120)))

/-- The new plan is saved, and then the old request stands in the way of carrying it out. -/
theorem declinedWhileWaiting_torn :
    ∃ cfg, Reaches lastPaidDay (fun _ _ => True) cfg ∧
      ∃ caseId command, ¬ AtomicOnFailure lastPaidDay (fun _ _ => True) cfg.saved caseId command := by
  have hanswers : ∀ q, env (fun _ _ => True) q (answering 2 "event" (allDayBy "kim") none q) :=
    env_answering fun _ => trivial
  have hfails : declinedWhileWaiting.2.failure? =
      some (.workflowInvariantError "execution is blocked by pending approval") := by decide +kernel
  have hchanged : (current declinedWhileWaiting.1 "case").map (·.version) ≠
      (current (Config.run (planned lastPaidDay (allDayBy "sam"))).saved "case").map (·.version) := by decide +kernel
  refine ⟨_, reaches_planned lastPaidDay (allDayBy "sam"), "case", declineCommand "sam" (minutes 0 120), ?_⟩
  exact not_atomicOnFailure_of_run declinedWhileWaiting hanswers rfl hfails (fun message h => by cases h)
    fun hsame => hchanged (by rw [hsame])

end DayMend.Runs
