import DayMend.Base.Rely
import DayMend.Runs.Replay

/-!
# Quiet runs

Execution and verification rebuild the facts of a case once, before the first of them
reads the case again. This module says what that is good for: in a run in which the
facts of a case change only while no other request is in progress (`ReachesQuietly`),
the case is resolved on its own facts (`ownFacts_of_reachesQuietly`), whatever the
runtime answers, and whatever happens to other cases. Requests that take their turns one after the other make
such a run; so do requests that interleave, as long as declines do not.
-/

namespace DayMend.Runs

open DayMend.Base DayMend.Models DayMend.Fixtures DayMend.Services DayMend.Agent DayMend.Application

variable (scenarioFactory : DemoScenario)
  (answers : AgentRuntimeRequest → Except Failure AgentRuntimeResponse → Prop) (caseId : String)

/-- The facts rebuilt from the stored case stay the same. -/
def FactsKept (l l' : List RecoveryCase) : Prop :=
  ∀ c, current l caseId = some c →
    ∃ c', current l' caseId = some c' ∧ scenarioFor scenarioFactory c' = scenarioFor scenarioFactory c

/-- What requests can reach when the facts of the stored case change only while no other request is in progress. -/
abbrev ReachesQuietly (cfg : Config String RecoveryCase Failure Answer RecoveryCase) : Prop :=
  QuietlyReachable (env answers) (FactsKept scenarioFactory caseId) (Request scenarioFactory) cfg

/-- The plan of a case is accepted on the facts rebuilt from the case, and has the approval that it needs on them. -/
def OwnFacts (c : RecoveryCase) : Prop :=
  ∃ p facts, c.activeRecoveryPlan = some p ∧ scenarioFor scenarioFactory c = .ok facts ∧
    (validate p facts).valid = true ∧
      ((validate p facts).requiresApproval = true → ApprovedFor c.approvalHistory p.planId)

/-- Every resolved version of the case has been resolved on its own facts. -/
def ResolvedOnOwnFacts (l : List RecoveryCase) : Prop :=
  ∀ c ∈ versions l caseId, c.status = .resolved → OwnFacts scenarioFactory c

/-- Requests rely on the facts of the stored case, and resolve it on its own. -/
def quiet : Rely RecoveryCase Answer where
  env := env answers
  rely := FactsKept scenarioFactory caseId
  rely_refl _ c h := ⟨c, h, rfl⟩
  rely_trans h₁ h₂ c h := by
    obtain ⟨c₁, hc₁, heq₁⟩ := h₁ c h
    obtain ⟨c₂, hc₂, heq₂⟩ := h₂ c₁ hc₁
    exact ⟨c₂, hc₂, heq₂.trans heq₁⟩
  ok := ResolvedOnOwnFacts scenarioFactory caseId

variable {scenarioFactory answers caseId}

/-! ### Single steps -/

section Steps

variable {l : List RecoveryCase} {c : RecoveryCase} {k : String}

theorem quiet_wp_getCase {post : List RecoveryCase → RecoveryCase → Prop}
    (h : ∀ l' c, FactsKept scenarioFactory caseId l l' → current l' k = some c → post l' c) :
    (quiet scenarioFactory answers caseId).wp (getCase k) l post := by
  intro l' hkept _
  cases hc : current l' k with
  | none => trivial
  | some c => exact h l' c hkept hc

theorem quiet_wp_executeAction {action : ExecutionAction} {now : Instant}
    {post : List RecoveryCase → ExecutionAction → Prop}
    (h : ∀ failTargets, post l (simulatedExecute failTargets action now)) :
    (quiet scenarioFactory answers caseId).wp (executeAction action now) l post := by
  rintro _ ⟨failTargets, rfl⟩
  exact h failTargets

/-- A save of another case, in any status but RESOLVED, or of the case on its own facts. -/
theorem quiet_wp_saveCase {expected : Option ℕ} {post : List RecoveryCase → RecoveryCase → Prop}
    (h : c.caseId = caseId → c.status = .resolved → OwnFacts scenarioFactory (stored c expected))
    (hpost : ∀ l', post (stored c expected :: l') (stored c expected)) :
    (quiet scenarioFactory answers caseId).wp (saveCase c expected) l post := by
  intro l' _ hok
  refine ⟨fun _ => ⟨fun x hx hresolved => ?_, hpost l'⟩, fun _ => trivial⟩
  obtain ⟨hx, hkey⟩ := List.mem_filter.mp hx
  rcases List.mem_cons.mp hx with rfl | hx
  · exact h (of_decide_eq_true hkey) hresolved
  · exact hok x (List.mem_filter.mpr ⟨hx, hkey⟩) hresolved

theorem quiet_wp_nowAfter {notBefore : Instant} {post : List RecoveryCase → Instant → Prop} (h : ∀ t, post l t) :
    (quiet scenarioFactory answers caseId).wp (nowAfter notBefore) l post :=
  fun _ _ => h _

end Steps

/-! ### Programs that resolve nothing themselves -/

section Harmless

variable {α β : Type} {P : α → Prop} {P' : β → Prop} {c : RecoveryCase} {k : String}

variable (scenarioFactory answers caseId) in
/-- Wherever it starts, a program keeps the resolved case in order, and its result satisfies `P`. -/
def Harmless (p : Service α) (P : α → Prop) : Prop :=
  ∀ l, (quiet scenarioFactory answers caseId).wp p l fun _ a => P a

theorem Harmless.mono {P₁ : α → Prop} {p : Service α} (h : Harmless scenarioFactory answers caseId p P)
    (hP : ∀ a, P a → P₁ a) : Harmless scenarioFactory answers caseId p P₁ :=
  fun l => Rely.wp_mono (fun _ a => hP a) (h l)

theorem Harmless.bind {p : Service α} {f : α → Service β} (h : Harmless scenarioFactory answers caseId p P)
    (hf : ∀ a, P a → Harmless scenarioFactory answers caseId (f a) P') :
    Harmless scenarioFactory answers caseId (p >>= f) P' :=
  fun l => Rely.wp_bind.mpr (Rely.wp_mono (fun l' a ha => hf a ha l') (h l))

theorem harmless_pure {a : α} (h : P a) : Harmless scenarioFactory answers caseId (pure a) P := fun _ => h

theorem harmless_raise {e : Failure} : Harmless scenarioFactory answers caseId (.raise e) P := fun _ => trivial

theorem harmless_ofExcept {x : Except Failure α} :
    Harmless scenarioFactory answers caseId (Prog.ofExcept x) fun a => x = .ok a :=
  fun _ => Rely.wp_ofExcept.mpr fun _ ha => ha

theorem harmless_clock : Harmless scenarioFactory answers caseId clock fun _ => True := fun _ _ _ => trivial

theorem harmless_newId : Harmless scenarioFactory answers caseId newId fun _ => True := fun _ _ _ => trivial

theorem harmless_nowAfter {notBefore : Instant} :
    Harmless scenarioFactory answers caseId (nowAfter notBefore) fun _ => True :=
  harmless_clock.bind fun _ _ => harmless_pure trivial

theorem harmless_invoke {request : AgentRuntimeRequest} :
    Harmless scenarioFactory answers caseId (invoke request) fun _ => True :=
  fun _ _ _ => Rely.wp_ofExcept.mpr fun _ _ => trivial

theorem harmless_getCase : Harmless scenarioFactory answers caseId (getCase k) fun _ => True :=
  fun _ => quiet_wp_getCase fun _ _ _ _ => trivial

/-- A save in any status but RESOLVED. -/
theorem harmless_saveCase {expected : Option ℕ} (h : c.status ≠ .resolved) :
    Harmless scenarioFactory answers caseId (saveCase c expected) fun saved => saved = stored c expected :=
  fun _ => quiet_wp_saveCase (fun _ hresolved => absurd hresolved h) fun _ => rfl

theorem harmless_savePrevious {previous : ℕ} (h : c.status ≠ .resolved) :
    Harmless scenarioFactory answers caseId (savePrevious c previous) fun _ => True :=
  (harmless_saveCase h).mono fun _ _ => trivial

theorem harmless_eventIdOf {command : EventCommand} :
    Harmless scenarioFactory answers caseId (eventIdOf command) fun _ => True := by
  unfold eventIdOf
  split
  · split
    · exact harmless_newId.bind fun _ _ => harmless_pure trivial
    · exact harmless_pure trivial
  · exact harmless_newId.bind fun _ _ => harmless_pure trivial

theorem harmless_applyAutonomyGate {validation : PlanValidationResult} {policy : FamilyPolicy} {now : Instant} :
    Harmless scenarioFactory answers caseId (applyAutonomyGate c validation policy now) fun _ => True := by
  unfold applyAutonomyGate
  split
  · split
    · exact harmless_raise
    split
    · exact harmless_raise
    split
    · exact (harmless_savePrevious (by simp [executingCase])).bind fun _ _ => harmless_pure trivial
    split
    · exact harmless_pure trivial
    · refine harmless_newId.bind fun _ _ => ?_
      exact (harmless_savePrevious (by simp [requestedCase])).bind fun _ _ => harmless_pure trivial
  · exact harmless_raise

theorem harmless_decide {approvalId : String} {decision : ApprovalDecision} {now : Instant} {reason : Option String} :
    Harmless scenarioFactory answers caseId (Services.decide k approvalId decision now reason) fun _ => True := by
  refine harmless_getCase.bind fun c _ => ?_
  dsimp only
  split
  · exact harmless_raise
  split
  · exact harmless_pure trivial
  · refine harmless_ofExcept.bind fun _ _ => ?_
    exact (harmless_saveCase (by cases decision <;> simp [decidedCase])).bind fun _ _ => harmless_pure trivial

theorem harmless_repairLoop {scenario facts : DemoScenario} {recoveryCaseId : Option String}
    {preservedSegments : List RecoveryPlanSegment} {candidate : Option BackupCareCandidate} {remaining : ℕ} :
    ∀ {earlier : List PlanningAttempt} {plan : RecoveryPlan},
    Harmless scenarioFactory answers caseId
      (repairLoop scenario facts recoveryCaseId preservedSegments candidate remaining earlier plan) fun _ => True := by
  induction remaining with
  | zero => exact harmless_pure trivial
  | succ remaining ih =>
    intro earlier plan
    rw [repairLoop]
    dsimp only
    split
    · exact harmless_pure trivial
    · exact harmless_invoke.bind fun _ _ => ih

theorem harmless_planInitial {disruption : String} {scenario : DemoScenario} :
    Harmless scenarioFactory answers caseId (planInitial disruption scenario) fun _ => True := by
  refine harmless_invoke.bind fun response _ => harmless_ofExcept.bind fun facts _ => ?_
  exact harmless_repairLoop.bind fun _ _ => harmless_pure trivial

/-- Replanning resolves nothing: what it hands on is being replanned or executed. -/
theorem harmless_replan {event : RecoveryEvent} {scenario : DemoScenario} :
    Harmless scenarioFactory answers caseId (replan c event scenario)
      fun result => result.recoveryCase.status ≠ .resolved := by
  refine harmless_ofExcept.bind fun outcome houtcome => harmless_invoke.bind fun response _ => ?_
  refine harmless_ofExcept.bind fun facts _ => harmless_repairLoop.bind fun attempts _ => harmless_pure ?_
  obtain ⟨_, _, _, _, _, _, _, _, heq⟩ := applyCaregiverDecline_eq_ok houtcome
  cases hvalid : attempts.last.validation.valid with
  | true => simp [buildReplanningResult, hvalid, replannedCase]
  | false => simp [buildReplanningResult, hvalid, heq, declinedCase]

end Harmless

/-! ### Execution and verification -/

section Verification

variable {l l' : List RecoveryCase} {c : RecoveryCase} {k : String} {facts : DemoScenario}

variable (scenarioFactory caseId) in
/-- If `k` is the case, the facts rebuilt from the stored case are `facts`. -/
def HasFacts (l : List RecoveryCase) (k : String) (facts : DemoScenario) : Prop :=
  k = caseId → ∃ c, current l k = some c ∧ scenarioFor scenarioFactory c = .ok facts

/-- Whoever reads the case later finds the same facts. -/
theorem HasFacts.of_read (h : HasFacts scenarioFactory caseId l k facts)
    (hkept : FactsKept scenarioFactory caseId l l') (hc : current l' k = some c) :
    c.caseId = caseId → scenarioFor scenarioFactory c = .ok facts := by
  intro hcase
  obtain rfl : k = caseId := (key_of_current hc).symm.trans hcase
  obtain ⟨before, hbefore, hfacts⟩ := h rfl
  obtain ⟨c', hc', heq⟩ := hkept before hbefore
  obtain rfl := Option.some.inj (hc'.symm.trans hc)
  exact heq.trans hfacts

/-- Execution asks the adapter only. -/
theorem quiet_wp_runActions {planId : String} {existing : Dict String ExecutionAction} {now : Instant}
    {required : List ExecutionAction} : ∀ {progress : ExecutionProgress},
    (quiet scenarioFactory answers caseId).wp (runActions planId existing now required progress) l
      fun l' after => l' = l ∧ RanActions planId existing now required progress after := by
  induction required with
  | nil => exact ⟨rfl, .nil⟩
  | cons action rest ih =>
    intro progress
    rw [runActions]
    split
    next prior hprior => exact Rely.wp_mono (fun _ _ h => ⟨h.1, .skip hprior h.2⟩) ih
    next hnone =>
      rw [Rely.wp_bind]
      exact quiet_wp_executeAction fun failTargets =>
        Rely.wp_mono (fun _ _ h => ⟨h.1, .run failTargets hnone h.2⟩) ih

/-- Execution resolves no case. -/
theorem executedCase_status_ne (c : RecoveryCase) (progress : ExecutionProgress) (now : Instant) :
    (executedCase c progress now).status ≠ .resolved := by
  unfold executedCase
  dsimp only
  split <;> simp

/-- **Execution leaves the facts of the case as they are.** -/
theorem quiet_wp_execute {now : Instant} (h : HasFacts scenarioFactory caseId l k facts) :
    (quiet scenarioFactory answers caseId).wp (execute k now) l
      fun l' _ => HasFacts scenarioFactory caseId l' k facts := by
  rw [execute, Rely.wp_bind]
  refine quiet_wp_getCase fun l₁ c hkept hc => ?_
  have hfacts := h.of_read hkept hc
  have hkey : c.caseId = k := key_of_current hc
  rw [Rely.wp_bind, Rely.wp_ofExcept]
  intro plan hcheck
  dsimp only
  split
  · exact fun hk => ⟨c, hc, hfacts (hkey.trans hk)⟩
  · rw [Rely.wp_bind]
    refine Rely.wp_mono ?_ quiet_wp_runActions
    rintro _ progress ⟨rfl, hrun⟩
    rw [Rely.wp_bind]
    refine quiet_wp_saveCase (fun _ hresolved => absurd hresolved (executedCase_status_ne c progress now)) fun l₂ => ?_
    -- execution records no decline
    have hsame : Kept c (stored (executedCase c progress now) (some c.version)) :=
      ⟨rfl, rfl, rfl, hrun.declines_eq.trans (withStartEvent_declines ..), rfl, rfl⟩
    exact fun hk => ⟨_, current_cons hkey, hsame.scenarioFor_eq.trans (hfacts (hkey.trans hk))⟩

/-- **Verification on the facts of the case** resolves it on its own facts. -/
theorem quiet_wp_verifyAndResolve {now : Instant} (h : HasFacts scenarioFactory caseId l k facts) :
    (quiet scenarioFactory answers caseId).wp (verifyAndResolve k facts now) l fun _ _ => True := by
  rw [verifyAndResolve, Rely.wp_bind]
  refine quiet_wp_getCase fun l₁ c hkept hc => ?_
  have hfacts := h.of_read hkept hc
  split
  · trivial
  next plan hplan =>
    dsimp only
    split
    · trivial
    next herrors =>
      have hok := completionErrors_eq_nil.mp (not_not.mp herrors)
      have hsame : Kept c (stored (resolvedCase c plan.planId now) (some c.version)) :=
        ⟨rfl, rfl, rfl, withCompletionEvents_declines .., rfl, rfl⟩
      rw [Rely.wp_bind]
      refine quiet_wp_saveCase (fun hcase _ => ?_) fun _ => trivial
      exact ⟨plan, facts, hplan, hsame.scenarioFor_eq.trans (hfacts hcase), hok.valid, hok.approved⟩

/-- Whatever stands before it, `_execute_and_complete` verifies on the facts of the case. -/
theorem harmless_executeAndComplete :
    Harmless scenarioFactory answers caseId (executeAndComplete scenarioFactory k) fun _ => True := by
  intro l
  rw [executeAndComplete, Rely.wp_bind]
  refine quiet_wp_getCase fun l₁ c _ hc => ?_
  rw [Rely.wp_bind, Rely.wp_ofExcept]
  intro scenario hfacts
  have h₁ : HasFacts scenarioFactory caseId l₁ k scenario := fun _ => ⟨c, hc, hfacts⟩
  rw [Rely.wp_bind, Rely.wp_ofExcept]
  intro _ _
  rw [Rely.wp_bind]
  refine quiet_wp_nowAfter fun now => ?_
  rw [Rely.wp_bind]
  refine Rely.wp_mono (fun l₂ execution h₂ => ?_) (quiet_wp_execute h₁)
  split
  · trivial
  · rw [Rely.wp_bind]
    refine quiet_wp_nowAfter fun later => ?_
    rw [Rely.wp_bind]
    exact Rely.wp_mono (fun _ _ _ => trivial) (quiet_wp_verifyAndResolve h₂)

end Verification

/-! ### Requests -/

section Requests

variable {c : RecoveryCase} {k : String}

theorem harmless_startRecovery {scenario : DemoScenario} {command : StartRecoveryCommand} :
    Harmless scenarioFactory answers caseId (startRecovery scenarioFactory scenario command) fun _ => True := by
  refine harmless_newId.bind fun k _ => harmless_ofExcept.bind fun need _ => ?_
  refine harmless_ofExcept.bind fun stop _ => ?_
  split
  · have hno : Harmless scenarioFactory answers caseId
        (persistInitialNoOption command k scenario need.requestedWindows) fun _ => True :=
      harmless_clock.bind fun now _ => (harmless_saveCase (by simp [initialNoOptionCase])).mono fun _ _ => trivial
    exact hno.bind fun _ _ => harmless_pure trivial
  refine harmless_planInitial.bind fun planning _ => ?_
  split
  · refine harmless_clock.bind fun now _ => harmless_ofExcept.bind fun created hcreated => ?_
    obtain rfl := eq_activeCase_of_create hcreated
    refine (harmless_saveCase (by simp [startedCase, activeCase])).bind fun saved _ => ?_
    split
    · exact harmless_pure trivial
    refine harmless_nowAfter.bind fun later _ => harmless_applyAutonomyGate.bind fun gate _ => ?_
    split
    · exact harmless_pure trivial
    · exact harmless_executeAndComplete
  · exact harmless_raise

theorem harmless_stopOrReplan {event : RecoveryEvent} {scenario : DemoScenario} :
    Harmless scenarioFactory answers caseId (stopOrReplan c event scenario)
      fun result => ∀ r, result = .inr r → r.recoveryCase.status ≠ .resolved := by
  have hstop : Harmless scenarioFactory answers caseId (stopWhenNoRecoveryOption c event scenario) fun _ => True := by
    intro l
    rw [stopWhenNoRecoveryOption, Rely.wp_bind, Rely.wp_ofExcept]
    intro outcome _
    rw [Rely.wp_bind, Rely.wp_ofExcept]
    intro need _
    rw [Rely.wp_bind, Rely.wp_ofExcept]
    intro stop _
    split
    · rw [Rely.wp_bind]
      refine quiet_wp_nowAfter fun now => ?_
      rw [Rely.wp_bind]
      exact quiet_wp_saveCase (fun _ h => absurd h (by simp [noOptionCase])) fun _ => trivial
    · trivial
  refine hstop.bind fun stopped _ => ?_
  split
  · exact harmless_pure fun r hr => by cases hr
  · exact harmless_replan.bind fun result h => harmless_pure fun r hr => Sum.inr.inj hr ▸ h

theorem harmless_finishReplanning {result : ReplanningResult} (h : result.recoveryCase.status ≠ .resolved) :
    Harmless scenarioFactory answers caseId (finishReplanning scenarioFactory c result) fun _ => True := by
  rw [finishReplanning]
  split
  · exact (harmless_saveCase h).bind fun _ _ => harmless_raise
  · refine harmless_ofExcept.bind fun accepted haccepted => ?_
    have hstatus : (withResearched accepted.recoveryCase accepted.researchedCandidate).status ≠ .resolved := by
      obtain ⟨contextState, hcontext⟩ := withResearched_eq accepted.recoveryCase accepted.researchedCandidate
      rw [hcontext]
      rw [acceptReplanningResult] at haccepted
      split at haccepted
      · cases haccepted
      · obtain rfl := Except.ok.inj haccepted
        exact h
    refine (harmless_saveCase hstatus).bind fun replanned _ => harmless_ofExcept.bind fun scenario _ => ?_
    refine harmless_nowAfter.bind fun now _ => harmless_applyAutonomyGate.bind fun gate _ => ?_
    split
    · exact harmless_pure trivial
    · exact harmless_executeAndComplete

theorem harmless_processEvent {command : EventCommand} :
    Harmless scenarioFactory answers caseId (processEvent scenarioFactory k command) fun _ => True := by
  refine harmless_getCase.bind fun c _ => harmless_ofExcept.bind fun _ _ => harmless_ofExcept.bind fun _ _ => ?_
  refine harmless_nowAfter.bind fun now _ => harmless_ofExcept.bind fun scenario _ => ?_
  refine harmless_eventIdOf.bind fun eventId _ => harmless_ofExcept.bind fun event _ => ?_
  have hpart : Harmless scenarioFactory answers caseId
      ((stopOrReplan { c with updatedAt := now } event scenario).mapError eventNotApplicable)
      fun result => ∀ r, result = .inr r → r.recoveryCase.status ≠ .resolved :=
    fun l => Rely.wp_mapError.mpr (harmless_stopOrReplan l)
  refine hpart.bind fun result h => ?_
  split
  · exact harmless_pure trivial
  next r => exact harmless_finishReplanning (h r rfl)

theorem harmless_decideApproval {approvalId : String} {command : ApprovalCommand} :
    Harmless scenarioFactory answers caseId (decideApproval scenarioFactory k approvalId command) fun _ => True := by
  refine harmless_getCase.bind fun c _ => harmless_ofExcept.bind fun _ _ => ?_
  refine harmless_nowAfter.bind fun now _ => harmless_decide.bind fun result _ => ?_
  split
  · exact harmless_pure trivial
  split
  · exact harmless_pure trivial
  exact harmless_executeAndComplete

theorem harmless_request {p : Service RecoveryCase} (hp : Request scenarioFactory p) :
    Harmless scenarioFactory answers caseId p fun _ => True := by
  cases hp with
  | start scenario command => exact harmless_startRecovery
  | event k command => exact harmless_processEvent
  | decide k approvalId command => exact harmless_decideApproval

end Requests

/-- **In a quiet run the case is resolved on its own facts**, whatever the runtime answers. -/
theorem ownFacts_of_reachesQuietly {cfg : Config String RecoveryCase Failure Answer RecoveryCase}
    (h : ReachesQuietly scenarioFactory answers caseId cfg) : ResolvedOnOwnFacts scenarioFactory caseId cfg.saved :=
  (Rely.ok_of_quietlyReachable (G := quiet scenarioFactory answers caseId)
    (by simp [quiet, ResolvedOnOwnFacts, versions]) (fun _ hp => harmless_request hp) h).1

/-- Two requests make a quiet run when the second comes after the first has finished. -/
theorem reachesQuietly_two {p q : Service RecoveryCase} {n m : ℕ} {first second : (q : Query) → Answer q}
    (hp : Request scenarioFactory p) (hfirst : ∀ q, env answers q (first q))
    (hfinished : (advances first n ([], p)).2.Finished) (hq : Request scenarioFactory q)
    (hsecond : ∀ q, env answers q (second q)) :
    ReachesQuietly scenarioFactory answers caseId
      (Config.run [.spawn p, .steps 0 n first, .spawn q, .steps 1 m second]) := by
  have h₁ : ReachesQuietly scenarioFactory answers caseId ⟨_, [(advances first n ([], p)).2]⟩ :=
    QuietlyReachable.init.alone (by simp) hp hfirst n
  exact h₁.alone (by simpa using hfinished) hq hsecond m

/-- A run need not replay to be quiet. -/
theorem reachesQuietly_secondProvider :
    ReachesQuietly (providersDay []) (fun _ _ => True) caseId (Config.run secondProvider) :=
  reachesQuietly_two (.start ..) (env_answering fun _ => trivial) (by decide +kernel) (.event ..)
    (env_answering fun _ => trivial)

end DayMend.Runs
