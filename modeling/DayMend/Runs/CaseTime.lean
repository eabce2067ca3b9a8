import DayMend.Runs.Atomicity

/-!
# The times of a case

Every writer of a case takes its time from a clock that may go back, from the previous
version, or from a client's event, and keeps the latest of them. So when requests come
one after the other, the versions of a case are in the order of their times, all with the
time at which the case was created (`chronological_of_sequential`). Each program of the
service keeps the log so (`Keeps`) as long as what it saves comes after the version that
it has read (`After`).
-/

namespace DayMend.Runs

open DayMend.Base DayMend.Models DayMend.Fixtures DayMend.Services DayMend.Agent DayMend.Application

variable {scenarioFactory scenario : DemoScenario}
  {answers : AgentRuntimeRequest → Except Failure AgentRuntimeResponse → Prop} {c c' : RecoveryCase} {caseId : String}
  {l l' : List RecoveryCase} {α β : Type}

/-! ### Logs in the order of time -/

/-- A version that may follow the version `c`: of the same case, with the same creation, and not updated before. -/
structure After (c c' : RecoveryCase) : Prop where
  caseId : c'.caseId = c.caseId
  createdAt : c'.createdAt = c.createdAt
  updatedAt : c.updatedAt ≤ c'.updatedAt

/-- The versions of every case are in the order of their times, newest first, and none was updated before it was
created. -/
structure Chronological (l : List RecoveryCase) : Prop where
  after : ∀ caseId, (versions l caseId).Pairwise fun newer older => After older newer
  created : ∀ c ∈ l, c.createdAt ≤ c.updatedAt

theorem After.trans {c'' : RecoveryCase} (h : After c c') (h' : After c' c'') : After c c'' :=
  ⟨h'.caseId.trans h.caseId, h'.createdAt.trans h.createdAt, h.updatedAt.trans h'.updatedAt⟩

theorem After.stored (h : After c c') (e : Option ℕ) : After c (stored c' e) := ⟨h.caseId, h.createdAt, h.updatedAt⟩

theorem chronological_nil : Chronological [] := ⟨fun _ => .nil, fun _ h => by cases h⟩

theorem Chronological.current_created (h : Chronological l) (hc : current l caseId = some c) :
    c.createdAt ≤ c.updatedAt := h.created c (List.mem_of_find?_eq_some hc)

/-- A version after the current one keeps the order. -/
theorem Chronological.save (h : Chronological l) (hc : current l c.caseId = some c) (hafter : After c c') :
    Chronological (c' :: l) where
  after := by
    intro caseId
    by_cases hkey : key c' = caseId
    · obtain ⟨rest, hversions⟩ : ∃ rest, versions l caseId = c :: rest := by
        have hsame : c.caseId = caseId := hafter.caseId.symm.trans hkey
        rw [← List.head?_eq_some_iff, ← current_eq_head?, ← hsame]
        exact hc
      have hpairwise := h.after caseId
      rw [versions_cons hkey]
      rw [hversions] at hpairwise ⊢
      refine List.pairwise_cons.mpr ⟨fun older holder => ?_, hpairwise⟩
      rcases List.mem_cons.mp holder with rfl | holder
      · exact hafter
      · exact ((List.pairwise_cons.mp hpairwise).1 older holder).trans hafter
    · rw [versions_cons_of_ne hkey]
      exact h.after caseId
  created := by
    have hle : c'.createdAt ≤ c'.updatedAt := by
      rw [hafter.createdAt]
      exact (h.current_created hc).trans hafter.updatedAt
    exact List.forall_mem_cons.mpr ⟨hle, h.created⟩

/-- So does the first version of a case. -/
theorem Chronological.create (h : Chronological l) (hnone : current l c.caseId = none)
    (hle : c.createdAt ≤ c.updatedAt) : Chronological (c :: l) where
  after := by
    intro caseId
    by_cases hkey : key c = caseId
    · have hempty : versions l caseId = [] := by
        rw [← List.head?_eq_none_iff, ← current_eq_head?, ← hkey]
        exact hnone
      rw [versions_cons hkey, hempty]
      exact List.pairwise_singleton ..
    · rw [versions_cons_of_ne hkey]
      exact h.after caseId
  created := List.forall_mem_cons.mpr ⟨hle, h.created⟩

/-! ### Programs that keep the order -/

variable (answers) in
/-- However a program ends alone, it leaves the log in the order of time, and it returns as `post` says. -/
def Keeps (l : List RecoveryCase) (p : Service α) (post : List RecoveryCase → α → Prop) : Prop :=
  p.Always (env answers) l (fun l₁ a => Chronological l₁ ∧ post l₁ a) fun l₁ _ => Chronological l₁

section Keeps

variable {post : List RecoveryCase → α → Prop} {post' : List RecoveryCase → β → Prop}

theorem Keeps.bind {p : Service α} {f : α → Service β} (hp : Keeps answers l p post)
    (hf : ∀ l₁ a, Chronological l₁ → post l₁ a → Keeps answers l₁ (f a) post') : Keeps answers l (p >>= f) post' := by
  rw [Keeps, always_bind]
  exact Prog.Always.mono (fun l₁ a h => hf l₁ a h.1 h.2) hp

theorem Keeps.mono {post₁ : List RecoveryCase → α → Prop} {p : Service α} (hp : Keeps answers l p post)
    (hpost : ∀ l₁ a, post l₁ a → post₁ l₁ a) : Keeps answers l p post₁ :=
  Prog.Always.mono (fun _ _ h => ⟨h.1, hpost _ _ h.2⟩) hp

/-- A program that saves nothing. -/
theorem keeps_of_saveless {p : Service α} (hp : p.Saveless) (h : Chronological l) :
    Keeps answers l p fun l₁ a => l₁ = l ∧ p.Ends (env answers) l l (.ok a) :=
  hp.always (fun _ hends => ⟨h, rfl, hends⟩) fun _ => h

theorem keeps_pure {a : α} (h : Chronological l) (hpost : post l a) : Keeps answers l (pure a) post := ⟨h, hpost⟩

/-- What it returns may be put into something else. -/
theorem Keeps.returns {p : Service α} {f : α → β} (hp : Keeps answers l p post) :
    Keeps answers l (p >>= fun a => pure (f a)) fun _ _ => True :=
  hp.bind fun _ _ h₁ _ => keeps_pure h₁ trivial

theorem keeps_raise {e : Failure} (h : Chronological l) : Keeps answers l (.raise e : Service α) post := h

theorem keeps_ofExcept {x : Except Failure α} (h : Chronological l) :
    Keeps answers l (Prog.ofExcept x) fun l₁ a => l₁ = l ∧ x = .ok a := by
  rw [Keeps, always_ofExcept]
  exact ⟨fun a ha => ⟨h, rfl, ha⟩, fun _ _ => h⟩

theorem keeps_clock (h : Chronological l) : Keeps answers l clock fun l₁ _ => l₁ = l := fun _ _ => ⟨h, rfl⟩

theorem keeps_newId (h : Chronological l) : Keeps answers l newId fun l₁ _ => l₁ = l := fun _ _ => ⟨h, rfl⟩

/-- The time that is taken is not before the time that it is compared with. -/
theorem keeps_nowAfter {notBefore : Instant} (h : Chronological l) :
    Keeps answers l (nowAfter notBefore) fun l₁ now => l₁ = l ∧ notBefore ≤ now :=
  fun _ _ => ⟨h, rfl, le_max_right ..⟩

theorem keeps_getCase (h : Chronological l) :
    Keeps answers l (getCase caseId) fun l₁ c => l₁ = l ∧ current l caseId = some c ∧ c.caseId = caseId := by
  rw [Keeps, getCase, Prog.Always]
  cases hc : current l caseId with
  | none => exact h
  | some c => exact ⟨h, rfl, rfl, key_of_current hc⟩

theorem keeps_mapError {f : Failure → Failure} {p : Service α} (hp : Keeps answers l p post) :
    Keeps answers l (p.mapError f) post := by
  rw [Keeps, always_mapError]
  exact hp

/-- A save of what may follow the current version. -/
theorem keeps_saveCase {expected : Option ℕ} (h : Chronological l) (hc : current l c.caseId = some c)
    (hafter : After c c') :
    Keeps answers l (saveCase c' expected) fun l₁ saved =>
      saved = stored c' expected ∧ current l₁ c.caseId = some saved := by
  rw [Keeps, saveCase, Prog.Always]
  split
  · exact ⟨h.save hc (hafter.stored expected), rfl, current_cons hafter.caseId⟩
  · exact h

/-- A save of a case that is new. -/
theorem keeps_createCase (h : Chronological l) (hle : c.createdAt ≤ c.updatedAt) :
    Keeps answers l (saveCase c none) fun l₁ saved => current l₁ saved.caseId = some saved := by
  rw [Keeps, saveCase, Prog.Always]
  split
  next hacc =>
    rw [Accepts, Option.map_eq_none_iff] at hacc
    exact ⟨h.create (c := stored c none) hacc hle, current_cons rfl⟩
  next => exact h

end Keeps

/-! ### The programs of the service -/

theorem after_executedCase {progress : ExecutionProgress} {now : Instant} (h : c.updatedAt ≤ now) :
    After c (executedCase c progress now) := ⟨rfl, rfl, h⟩

theorem after_resolvedCase {planId : String} {now : Instant} (h : c.updatedAt ≤ now) :
    After c (resolvedCase c planId now) := ⟨rfl, rfl, h⟩

theorem after_executingCase {plan : RecoveryPlan} {now : Instant} (h : c.updatedAt ≤ now) :
    After c (executingCase c plan now) := ⟨rfl, rfl, h⟩

theorem after_requestedCase {plan : RecoveryPlan} {approval : ApprovalRequest} {now : Instant}
    (h : c.updatedAt ≤ now) : After c (requestedCase c plan approval now) := ⟨rfl, rfl, h⟩

theorem after_decidedCase {approval : ApprovalRequest} {decision : ApprovalDecision} {now : Instant}
    {reason : Option String} (h : c.updatedAt ≤ now) : After c (decidedCase c approval decision now reason) :=
  ⟨rfl, rfl, h⟩

/-- A decline is recorded at the latest of the case's times and the time at which it is said to have occurred. -/
theorem after_declined {event : RecoveryEvent} {outcome : InvalidationOutcome} {now : Instant}
    (h : applyCaregiverDecline { c with updatedAt := now } event scenario = .ok outcome) (hnow : c.updatedAt ≤ now) :
    After c outcome.recoveryCase := by
  obtain ⟨_, _, -, -, _, _, _, _, heq⟩ := applyCaregiverDecline_eq_ok h
  rw [heq]
  refine ⟨rfl, rfl, ?_⟩
  change c.updatedAt ≤ max (max c.createdAt now) event.occurredAt
  exact (hnow.trans (le_max_right ..)).trans (le_max_left ..)

theorem keeps_runActions {planId : String} {existing : Dict String ExecutionAction} {now : Instant}
    {required : List ExecutionAction} {progress : ExecutionProgress} (h : Chronological l) :
    Keeps answers l (runActions planId existing now required progress) fun l₁ _ => l₁ = l := by
  refine Prog.Always.mono (fun l₁ _ hsame => ⟨?_, hsame⟩) always_runActions
  rw [show l₁ = l from hsame]
  exact h

theorem keeps_execute {now : Instant} (h : Chronological l) (hc : current l c.caseId = some c)
    (hnow : c.updatedAt ≤ now) :
    Keeps answers l (execute c.caseId now) fun l₁ execution =>
      current l₁ execution.recoveryCase.caseId = some execution.recoveryCase ∧
        execution.recoveryCase.caseId = c.caseId := by
  rw [execute]
  refine (keeps_getCase h).bind ?_
  rintro l₁ read h₁ ⟨rfl, hread, -⟩
  obtain rfl : read = c := Option.some.inj (hread.symm.trans hc)
  refine (keeps_ofExcept h₁).bind ?_
  rintro l₂ plan h₂ ⟨rfl, -⟩
  dsimp only
  split
  · exact keeps_pure h₂ ⟨hc, rfl⟩
  · refine (keeps_runActions h₂).bind ?_
    rintro l₃ progress h₃ rfl
    refine (keeps_saveCase h₃ hc (after_executedCase hnow)).bind ?_
    rintro l₄ saved h₄ ⟨rfl, hsaved⟩
    exact keeps_pure h₄ ⟨hsaved, rfl⟩

theorem keeps_verifyAndResolve {now : Instant} (h : Chronological l) (hc : current l c.caseId = some c)
    (hnow : c.updatedAt ≤ now) :
    Keeps answers l (verifyAndResolve c.caseId scenario now) fun _ _ => True := by
  rw [verifyAndResolve]
  refine (keeps_getCase h).bind ?_
  rintro l₁ read h₁ ⟨rfl, hread, -⟩
  obtain rfl : read = c := Option.some.inj (hread.symm.trans hc)
  split
  · exact keeps_pure h₁ trivial
  · dsimp only
    split
    · exact keeps_pure h₁ trivial
    · exact (keeps_saveCase h₁ hc (after_resolvedCase hnow)).returns

theorem keeps_executeAndComplete (h : Chronological l) :
    Keeps answers l (executeAndComplete scenarioFactory caseId) fun _ _ => True := by
  rw [executeAndComplete]
  refine (keeps_getCase h).bind ?_
  rintro l₁ current₁ h₁ ⟨rfl, hc, rfl⟩
  refine (keeps_ofExcept h₁).bind ?_
  rintro l₂ scenario h₂ ⟨rfl, -⟩
  refine (keeps_ofExcept h₂).bind ?_
  rintro l₃ _ h₃ ⟨rfl, -⟩
  refine (keeps_nowAfter h₃).bind ?_
  rintro l₄ now h₄ ⟨rfl, hnow⟩
  refine (keeps_execute h₄ hc hnow).bind ?_
  rintro l₅ execution h₅ ⟨hexecuted, hkey⟩
  split
  · exact keeps_pure h₅ trivial
  · refine (keeps_nowAfter h₅).bind ?_
    rintro l₆ later h₆ ⟨rfl, hlater⟩
    rw [← hkey]
    exact (keeps_verifyAndResolve h₆ hexecuted hlater).returns

theorem keeps_applyAutonomyGate {validation : PlanValidationResult} {policy : FamilyPolicy} {now : Instant}
    (h : Chronological l) (hc : current l c.caseId = some c) (hnow : c.updatedAt ≤ now) :
    Keeps answers l (applyAutonomyGate c validation policy now) fun _ _ => True := by
  unfold applyAutonomyGate
  split
  · split
    · exact keeps_raise h
    split
    · exact keeps_raise h
    split
    · exact (keeps_saveCase h hc (after_executingCase hnow)).returns
    split
    · exact keeps_pure h trivial
    · refine (keeps_newId h).bind ?_
      rintro l₁ approvalId h₁ rfl
      exact (keeps_saveCase h₁ hc (after_requestedCase hnow)).returns
  · exact keeps_raise h

theorem keeps_decide {approvalId : String} {decision : ApprovalDecision} {now : Instant} {reason : Option String}
    (h : Chronological l) (hc : current l c.caseId = some c) (hnow : c.updatedAt ≤ now) :
    Keeps answers l (Services.decide c.caseId approvalId decision now reason) fun _ _ => True := by
  rw [Services.decide]
  refine (keeps_getCase h).bind ?_
  rintro l₁ read h₁ ⟨rfl, hread, -⟩
  obtain rfl : read = c := Option.some.inj (hread.symm.trans hc)
  dsimp only
  split
  · exact keeps_raise h₁
  · split
    · exact keeps_pure h₁ trivial
    · refine (keeps_ofExcept h₁).bind ?_
      rintro l₂ _ h₂ ⟨rfl, -⟩
      exact (keeps_saveCase h₂ hc (after_decidedCase hnow)).returns

/-! ### Requests -/

theorem saveless_planInitial (disruption : String) (scenario : DemoScenario) :
    (planInitial disruption scenario).Saveless := by
  refine Prog.Saveless.bind (fun answer => Prog.saveless_ofExcept _) fun response => ?_
  exact (Prog.saveless_ofExcept _).bind fun facts => saveless_repairLoop.bind fun attempts => trivial

theorem keeps_startRecovery {command : StartRecoveryCommand} (h : Chronological l) :
    Keeps answers l (startRecovery scenarioFactory scenario command) fun _ _ => True := by
  rw [startRecovery]
  refine (keeps_newId h).bind ?_
  rintro l₁ caseId h₁ rfl
  refine (keeps_ofExcept h₁).bind ?_
  rintro l₂ need h₂ ⟨rfl, -⟩
  refine (keeps_ofExcept h₂).bind ?_
  rintro l₃ stop h₃ ⟨rfl, -⟩
  split
  · rw [persistInitialNoOption]
    refine (keeps_clock h₃).bind ?_
    rintro l₄ now h₄ rfl
    exact (keeps_createCase h₄ le_rfl).mono fun _ _ _ => trivial
  · refine (keeps_of_saveless (saveless_planInitial _ _) h₃).bind ?_
    rintro l₄ planning h₄ ⟨rfl, -⟩
    split
    · refine (keeps_clock h₄).bind ?_
      rintro l₅ now h₅ rfl
      refine (keeps_ofExcept h₅).bind ?_
      rintro l₆ created h₆ ⟨rfl, hcreated⟩
      have hle : (startedCase command caseId scenario created planning.researchedCandidate).createdAt ≤
          (startedCase command caseId scenario created planning.researchedCandidate).updatedAt := by
        rw [eq_activeCase_of_create hcreated]
        exact le_rfl
      refine (keeps_createCase h₆ hle).bind ?_
      rintro l₇ saved h₇ hsaved
      split
      · exact keeps_pure h₇ trivial
      · refine (keeps_nowAfter h₇).bind ?_
        rintro l₈ later h₈ ⟨rfl, hlater⟩
        refine (keeps_applyAutonomyGate h₈ hsaved hlater).bind ?_
        rintro l₉ gate h₉ -
        split
        · exact keeps_pure h₉ trivial
        · exact keeps_executeAndComplete h₉
    · exact keeps_raise h₄

/-- A case that a decline gives up is saved after the decline. -/
theorem keeps_stopWhenNoRecoveryOption {event : RecoveryEvent} {now : Instant} (h : Chronological l)
    (hc : current l c.caseId = some c) (hnow : c.updatedAt ≤ now) :
    Keeps answers l (stopWhenNoRecoveryOption { c with updatedAt := now } event scenario) fun l₁ stopped =>
      stopped = none → l₁ = l := by
  rw [stopWhenNoRecoveryOption]
  refine (keeps_ofExcept h).bind ?_
  intro l₁ outcome h₁ hpost
  have houtcome : applyCaregiverDecline { c with updatedAt := now } event scenario = .ok outcome := hpost.2
  obtain rfl : l₁ = l := hpost.1
  refine (keeps_ofExcept h₁).bind ?_
  rintro l₂ need h₂ ⟨rfl, -⟩
  refine (keeps_ofExcept h₂).bind ?_
  rintro l₃ stop h₃ ⟨rfl, -⟩
  split
  · refine (keeps_nowAfter h₃).bind ?_
    rintro l₄ later h₄ ⟨rfl, hlater⟩
    have hdeclined := after_declined houtcome hnow
    have hafter : After c (noOptionCase outcome event (!scenario.policy.allowExternalBackupProviders)
        need.requestedWindows later) := ⟨hdeclined.caseId, hdeclined.createdAt, hdeclined.updatedAt.trans hlater⟩
    refine (keeps_saveCase h₄ hc hafter).bind ?_
    rintro l₅ saved h₅ -
    refine keeps_pure h₅ fun hnone => ?_
    cases hnone
  · exact keeps_pure h₃ fun _ => rfl

/-- A decline is stopped at, or nothing is saved. -/
theorem keeps_stopOrReplan {event : RecoveryEvent} {now : Instant} (h : Chronological l)
    (hc : current l c.caseId = some c) (hnow : c.updatedAt ≤ now) :
    Keeps answers l (stopOrReplan { c with updatedAt := now } event scenario) fun l₁ r =>
      ∀ result, r = .inr result → l₁ = l ∧
        (stopOrReplan { c with updatedAt := now } event scenario).Ends (env answers) l l (.ok (.inr result)) := by
  have hkeeps : Keeps answers l (stopOrReplan { c with updatedAt := now } event scenario) fun l₁ r =>
      ∀ result, r = .inr result → l₁ = l := by
    rw [stopOrReplan]
    refine (keeps_stopWhenNoRecoveryOption h hc hnow).bind ?_
    rintro l₁ (_ | stopped) h₁ hsame
    · obtain rfl := hsame rfl
      refine (keeps_of_saveless (saveless_replan ..) h₁).bind ?_
      rintro l₂ result h₂ ⟨rfl, -⟩
      exact keeps_pure h₂ fun _ _ => rfl
    · refine keeps_pure h₁ fun result hresult => ?_
      cases hresult
  refine Prog.Always.mono ?_ hkeeps.with_ends
  rintro l₁ r ⟨⟨h₁, hsame⟩, hends⟩
  refine ⟨h₁, fun result hresult => ?_⟩
  subst hresult
  obtain rfl := hsame result rfl
  exact ⟨rfl, hends⟩

/-- The case that replanning returns comes after the stored one. -/
theorem after_replannedFrom {event : RecoveryEvent} {result : ReplanningResult} {now : Instant}
    (h : ReplannedFrom answers { c with updatedAt := now } event scenario result) (hnow : c.updatedAt ≤ now) :
    After c result.recoveryCase := by
  obtain ⟨outcome, response, facts, proposal, attempts, houtcome, -, -, -, rfl⟩ := h
  have hdeclined := after_declined houtcome hnow
  rw [buildReplanningResult]
  dsimp only
  split
  · exact ⟨hdeclined.caseId, hdeclined.createdAt, hdeclined.updatedAt⟩
  · exact hdeclined

theorem after_accepted {priorCase : RecoveryCase} {result accepted : ReplanningResult}
    (h : acceptReplanningResult priorCase result = .ok accepted) (hafter : After c result.recoveryCase) :
    After c (withResearched accepted.recoveryCase accepted.researchedCandidate) := by
  obtain ⟨contextState, heq⟩ := withResearched_eq accepted.recoveryCase accepted.researchedCandidate
  rw [heq]
  rw [acceptReplanningResult] at h
  split at h
  · cases h
  · obtain rfl := Except.ok.inj h
    exact ⟨hafter.caseId, hafter.createdAt, hafter.updatedAt⟩

theorem keeps_finishReplanning {result : ReplanningResult} {now : Instant} (h : Chronological l)
    (hc : current l c.caseId = some c) (hafter : After c result.recoveryCase) :
    Keeps answers l (finishReplanning scenarioFactory { c with updatedAt := now } result) fun _ _ => True := by
  rw [finishReplanning]
  split
  · refine (keeps_saveCase h hc hafter).bind ?_
    rintro l₁ saved h₁ -
    exact keeps_raise h₁
  · refine (keeps_ofExcept h).bind ?_
    rintro l₁ accepted h₁ ⟨rfl, haccepted⟩
    have hsaved := after_accepted haccepted hafter
    refine (keeps_saveCase h₁ hc hsaved).bind ?_
    rintro l₂ replanned h₂ ⟨rfl, hreplanned⟩
    rw [← hsaved.caseId] at hreplanned
    refine (keeps_ofExcept h₂).bind ?_
    rintro l₃ scenario h₃ ⟨rfl, -⟩
    refine (keeps_nowAfter h₃).bind ?_
    rintro l₄ later h₄ ⟨rfl, hlater⟩
    refine (keeps_applyAutonomyGate h₄ hreplanned hlater).bind ?_
    rintro l₅ gate h₅ -
    split
    · exact keeps_pure h₅ trivial
    · exact keeps_executeAndComplete h₅

theorem keeps_processEvent {command : EventCommand} (h : Chronological l) :
    Keeps answers l (processEvent scenarioFactory caseId command) fun _ _ => True := by
  rw [processEvent]
  refine (keeps_getCase h).bind ?_
  rintro l₁ c h₁ ⟨rfl, hc, rfl⟩
  refine (keeps_ofExcept h₁).bind ?_
  rintro l₂ _ h₂ ⟨rfl, -⟩
  refine (keeps_ofExcept h₂).bind ?_
  rintro l₃ _ h₃ ⟨rfl, -⟩
  refine (keeps_nowAfter h₃).bind ?_
  rintro l₄ now h₄ ⟨rfl, hnow⟩
  refine (keeps_ofExcept h₄).bind ?_
  rintro l₅ scenario h₅ ⟨rfl, hscenario⟩
  refine (keeps_of_saveless (saveless_eventIdOf command) h₅).bind ?_
  rintro l₆ eventId h₆ ⟨rfl, -⟩
  refine (keeps_ofExcept h₆).bind ?_
  rintro l₇ event h₇ ⟨rfl, -⟩
  refine Keeps.bind (keeps_mapError (keeps_stopOrReplan h₇ hc hnow)) ?_
  rintro l₈ (stopped | result) h₈ hplanned
  · exact keeps_pure h₈ trivial
  · obtain ⟨rfl, hreplanned⟩ := hplanned result rfl
    exact keeps_finishReplanning h₈ hc (after_replannedFrom (replannedFrom_of_stopOrReplan hscenario hreplanned) hnow)

theorem keeps_decideApproval {approvalId : String} {command : ApprovalCommand} (h : Chronological l) :
    Keeps answers l (decideApproval scenarioFactory caseId approvalId command) fun _ _ => True := by
  rw [decideApproval]
  refine (keeps_getCase h).bind ?_
  rintro l₁ c h₁ ⟨rfl, hc, rfl⟩
  refine (keeps_ofExcept h₁).bind ?_
  rintro l₂ _ h₂ ⟨rfl, -⟩
  refine (keeps_nowAfter h₂).bind ?_
  rintro l₃ now h₃ ⟨rfl, hnow⟩
  refine (keeps_decide h₃ hc hnow).bind ?_
  rintro l₄ result h₄ -
  split
  · exact keeps_pure h₄ trivial
  split
  · exact keeps_pure h₄ trivial
  · exact keeps_executeAndComplete h₄

theorem keeps_request {request : Service RecoveryCase} (hrequest : Request scenarioFactory request)
    (h : Chronological l) : Keeps answers l request fun _ _ => True := by
  cases hrequest with
  | start scenario command => exact keeps_startRecovery h
  | event caseId command => exact keeps_processEvent h
  | decide caseId approvalId command => exact keeps_decideApproval h

/-! ### Runs of one request after the other -/

variable (scenarioFactory answers) in
/-- The logs that requests lead to when each has ended, well or badly, before the next one comes. -/
inductive Sequential : List RecoveryCase → Prop where
  /-- Nothing has been saved. -/
  | init : Sequential []
  /-- A request comes and ends. -/
  | call {l l' : List RecoveryCase} {request : Service RecoveryCase} {r : Except Failure RecoveryCase} :
      Sequential l → Request scenarioFactory request → request.Ends (env answers) l l' r → Sequential l'

theorem Sequential.chronological (h : Sequential scenarioFactory answers l) : Chronological l := by
  induction h with
  | init => exact chronological_nil
  | @call l l' request r _ hrequest hends ih =>
    obtain ⟨hok, herror⟩ := (keeps_request hrequest ih).of_ends hends
    cases r with
    | ok saved => exact (hok saved rfl).1
    | error e => exact herror e rfl

/-- **Case time never runs backwards.** When requests come one after the other, whatever the clock says and whenever
the events are said to have occurred, each version of a case is updated no earlier than every version before it, all
versions say that the case was created at the same time, and every version can be read back. -/
theorem caseTime_of_sequential (h : Sequential scenarioFactory answers l) :
    (∀ caseId, (versions l caseId).Pairwise fun newer older =>
      older.updatedAt ≤ newer.updatedAt ∧ older.createdAt = newer.createdAt) ∧
    ∀ c ∈ l, c.createdAt ≤ c.updatedAt ∧ c.updated_at_must_not_precede_created_at = .ok c := by
  have hchronological := h.chronological
  refine ⟨fun caseId => ?_, fun c hc => ?_⟩
  · exact (hchronological.after caseId).imp fun hafter => ⟨hafter.updatedAt, hafter.createdAt.symm⟩
  · have hle := hchronological.created c hc
    exact ⟨hle, if_neg (not_lt.mpr hle)⟩

/-- Kim is to look after the child all day. -/
def startedAtFive : List RecoveryCase × Service RecoveryCase :=
  advances (answering 5 "case" (allDayBy "kim") none) 100 ([], startRecovery sittersDay sittersDay nannyIll)

/-- Kim declines. The clock has gone back since, and the decline is said to have occurred earlier still. -/
def declinedAtTwo : List RecoveryCase × Service RecoveryCase :=
  advances (answering 2 "event" (allDayBy "lee") none) 100
    (startedAtFive.1, processEvent sittersDay "case" { declineCommand "kim" (minutes 0 120) with occurredAt := 1 })

/-- A request that the scheduler carries to its end alone. -/
theorem Sequential.advances {request : Service RecoveryCase} {answer : (q : Query) → Answer q} {n : ℕ}
    (h : Sequential scenarioFactory answers l) (hrequest : Request scenarioFactory request)
    (hanswer : ∀ q, env answers q (answer q))
    (hresult : (Base.advances answer n (l, request)).2.result?.isSome = true) :
    Sequential scenarioFactory answers (Base.advances answer n (l, request)).1 := by
  obtain ⟨saved, hsaved⟩ := Option.isSome_iff_exists.mp hresult
  exact h.call hrequest (ends_of_result? hanswer hsaved)

theorem sequential_declinedAtTwo : Sequential sittersDay (fun _ _ => True) declinedAtTwo.1 := by
  have hstarted : Sequential sittersDay (fun _ _ => True) startedAtFive.1 :=
    Sequential.init.advances (.start ..) (env_answering fun _ => trivial) (by decide +kernel)
  exact hstarted.advances (.event ..) (env_answering fun _ => trivial) (by decide +kernel)

theorem caseTime_of_sequential_declinedAtTwo :
    declinedAtTwo.1.map (fun c => (c.version, c.createdAt, c.updatedAt)) =
        [(5, 5, 5), (4, 5, 5), (3, 5, 5), (2, 5, 5), (1, 5, 5)] ∧
      (∀ caseId, (versions declinedAtTwo.1 caseId).Pairwise fun newer older =>
        older.updatedAt ≤ newer.updatedAt ∧ older.createdAt = newer.createdAt) ∧
      ∀ c ∈ declinedAtTwo.1, c.createdAt ≤ c.updatedAt ∧ c.updated_at_must_not_precede_created_at = .ok c :=
  ⟨by decide +kernel, caseTime_of_sequential sequential_declinedAtTwo⟩

end DayMend.Runs
