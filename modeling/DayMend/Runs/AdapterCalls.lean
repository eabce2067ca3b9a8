import DayMend.Runs.Programs

/-!
# Calls of the execution adapter

What a request does with the adapter, whatever the others do (`obeysCalls_request`): it
calls it only for actions that the plan of the case it has read requires and the case
has not recorded, in their order and each once, and the case that it saves next records
all of them.
-/

namespace DayMend.Runs

open DayMend.Base DayMend.Models DayMend.Fixtures DayMend.Services DayMend.Agent DayMend.Application

variable {scenarioFactory : DemoScenario}
  {answers : AgentRuntimeRequest → Except Failure AgentRuntimeResponse → Prop} {seen : Set RecoveryCase}
  {c c' : RecoveryCase} {caseId : String}

/-- What a program of the services notices. -/
abbrev CaseEvent := Event String RecoveryCase Answer

/-- The events of a run of the services. -/
abbrev CaseTrace := Trace String RecoveryCase Answer

/-! ### Calls of the adapter -/

/-- The actions that a program has had carried out, latest first. -/
def calledActions : List CaseEvent → List ExecutionAction
  | [] => []
  | .asked (.execute action _) _ :: earlier => action :: calledActions earlier
  | _ :: earlier => calledActions earlier

/-- The actions that a program has had carried out since it read or saved a case, latest first. -/
def calledSince : List CaseEvent → List ExecutionAction
  | [] => []
  | .asked (.execute action _) _ :: earlier => action :: calledSince earlier
  | .asked _ _ :: earlier => calledSince earlier
  | _ => []

/-! ### The calls that a program makes -/

/-- What a program may do next, given what it has noticed: it calls the adapter only for actions that the case it
has read requires and has not recorded, each once; and it records in its next save what it has called for. -/
def CallsAllowed (earlier : List CaseEvent) : CaseEvent → Prop
  | .asked (.execute action now) _ => ∃ k c plan, lastRead earlier = some (k, some c) ∧ checkExecution c = .ok plan ∧
    succeededRecord (actionDict c.executionHistory) action.actionId = none ∧
      ((calledSince earlier).reverse ++ [action]).Sublist (requiredExecutionActions plan now) ∧
        calledActions earlier = calledSince earlier
  | .saved c _ => ∀ action ∈ calledSince earlier, action.actionId ∈ c.executionHistory.map (·.actionId)
  | _ => True

/-- A question that is no call of the adapter. -/
def NoExecution : Query → Prop
  | .execute _ _ => False
  | _ => True

theorem mem_calledActions {action : ExecutionAction} {now : Instant} {result : ExecutionAction}
    {events : List CaseEvent} (h : Event.asked (.execute action now) result ∈ events) :
    action ∈ calledActions events := by
  fun_induction calledActions events with
  | case1 => cases h
  | case2 other _ _ earlier ih =>
    rcases List.mem_cons.mp h with heq | h
    · cases heq
      exact List.mem_cons_self ..
    · exact List.mem_cons_of_mem _ (ih h)
  | case3 ev earlier hev ih =>
    rcases List.mem_cons.mp h with heq | h
    · exact (hev _ _ _ heq.symm).elim
    · exact ih h

theorem calledSince_subset (events : List CaseEvent) : calledSince events ⊆ calledActions events := by
  fun_induction calledSince events with
  | case1 => exact List.Subset.refl _
  | case2 action now result earlier ih => exact List.cons_subset_cons _ ih
  | case3 q a earlier hq ih =>
    cases q with
    | execute action now => exact (hq action now a rfl HEq.rfl).elim
    | clock => exact ih
    | newId => exact ih
    | invoke request => exact ih
  | case4 => exact List.nil_subset _

/-- Events that are no calls of the adapter are allowed where there was none. -/
theorem callsAllowed_of_none {events : List CaseEvent} {ev : CaseEvent} (h : calledActions events = [])
    (hev : ∀ q a, ev = .asked q a → NoExecution q) :
    CallsAllowed events ev ∧ calledActions (ev :: events) = [] := by
  have hsince : calledSince events = [] := List.eq_nil_of_subset_nil (h ▸ calledSince_subset events)
  cases ev with
  | read k r => exact ⟨trivial, h⟩
  | saved c e => exact ⟨by simp [CallsAllowed, hsince], h⟩
  | refused c e => exact ⟨trivial, h⟩
  | asked q a =>
    cases q with
    | execute action now => exact (hev _ _ rfl).elim
    | clock => exact ⟨trivial, h⟩
    | newId => exact ⟨trivial, h⟩
    | invoke request => exact ⟨trivial, h⟩

variable (answers) in
/-- The precondition of a program for its calls of the adapter. -/
abbrev ObeysCalls {α : Type} (p : Service α) (events : List CaseEvent) (post : List CaseEvent → α → Prop) : Prop :=
  p.Obeys (env answers) CallsAllowed events post

theorem obeysCalls_of_asks {α : Type} {p : Service α} (hp : p.Asks NoExecution) {events : List CaseEvent}
    (h : calledActions events = []) : ObeysCalls answers p events fun later _ => calledActions later = [] :=
  hp.obeys (fun _ _ hnone hev => callsAllowed_of_none hnone hev) h

/-! ### Programs that call no adapter -/

theorem asks_nowAfter (notBefore : Instant) : (nowAfter notBefore).Asks NoExecution :=
  ⟨trivial, fun _ => trivial⟩

theorem asks_getCase (caseId : String) : (getCase caseId).Asks NoExecution := by
  rintro (_ | c) <;> trivial

theorem asks_saveCase (recoveryCase : RecoveryCase) (expectedVersion : Option ℕ) :
    (saveCase recoveryCase expectedVersion).Asks NoExecution := by
  rintro (_ | c) <;> trivial

theorem asks_invoke (request : AgentRuntimeRequest) : (invoke request).Asks NoExecution :=
  ⟨trivial, fun answer => Prog.asks_ofExcept answer⟩

theorem asks_eventIdOf (command : EventCommand) : (eventIdOf command).Asks NoExecution := by
  unfold eventIdOf
  split
  · split
    · exact Prog.Asks.bind ⟨trivial, fun _ => trivial⟩ fun _ => trivial
    · trivial
  · exact Prog.Asks.bind ⟨trivial, fun _ => trivial⟩ fun _ => trivial

theorem asks_repairLoop {scenario facts : DemoScenario} {recoveryCaseId : Option String}
    {preservedSegments : List RecoveryPlanSegment} {candidate : Option BackupCareCandidate} {remaining : ℕ} :
    ∀ {earlier : List PlanningAttempt} {plan : RecoveryPlan},
      (repairLoop scenario facts recoveryCaseId preservedSegments candidate remaining earlier plan).Asks
        NoExecution := by
  induction remaining with
  | zero => exact trivial
  | succ remaining ih =>
    intro earlier plan
    rw [repairLoop]
    dsimp only
    split
    · trivial
    · exact (asks_invoke _).bind fun _ => ih

theorem asks_planInitial (disruption : String) (scenario : DemoScenario) :
    (planInitial disruption scenario).Asks NoExecution := by
  refine (asks_invoke _).bind fun response => (Prog.asks_ofExcept _).bind fun facts => ?_
  exact asks_repairLoop.bind fun _ => trivial

theorem asks_replan (event : RecoveryEvent) (scenario : DemoScenario) : (replan c event scenario).Asks NoExecution := by
  refine (Prog.asks_ofExcept _).bind fun outcome => (asks_invoke _).bind fun response => ?_
  exact (Prog.asks_ofExcept _).bind fun facts => asks_repairLoop.bind fun _ => trivial

theorem asks_persistInitialNoOption (command : StartRecoveryCommand) (caseId : String) (scenario : DemoScenario)
    (uncovered : List CoverageWindow) :
    (persistInitialNoOption command caseId scenario uncovered).Asks NoExecution :=
  Prog.Asks.bind ⟨trivial, fun _ => trivial⟩ fun _ => asks_saveCase _ _

theorem asks_stopOrReplan (event : RecoveryEvent) (scenario : DemoScenario) :
    (stopOrReplan c event scenario).Asks NoExecution := by
  have hstop : (stopWhenNoRecoveryOption c event scenario).Asks NoExecution := by
    rw [stopWhenNoRecoveryOption, Prog.asks_ofExcept_bind]
    intro outcome _
    rw [Prog.asks_ofExcept_bind]
    intro need _
    rw [Prog.asks_ofExcept_bind]
    intro stop _
    split
    · exact (asks_nowAfter _).bind fun now => (asks_saveCase _ _).bind fun _ => trivial
    · trivial
  refine hstop.bind fun stopped => ?_
  split
  · trivial
  · exact (asks_replan event scenario).bind fun _ => trivial

theorem asks_applyAutonomyGate (validation : PlanValidationResult) (policy : FamilyPolicy) (now : Instant) :
    (applyAutonomyGate c validation policy now).Asks NoExecution := by
  unfold applyAutonomyGate
  split
  · split
    · trivial
    split
    · trivial
    split
    · exact (asks_saveCase _ _).bind fun _ => trivial
    split
    · trivial
    · exact Prog.Asks.bind ⟨trivial, fun _ => trivial⟩ fun _ => (asks_saveCase _ _).bind fun _ => trivial
  · trivial

theorem asks_decide (approvalId : String) (decision : ApprovalDecision) (now : Instant) (reason : Option String) :
    (Services.decide caseId approvalId decision now reason).Asks NoExecution := by
  refine (asks_getCase _).bind fun c => ?_
  dsimp only
  split
  · trivial
  split
  · trivial
  · exact (Prog.asks_ofExcept _).bind fun _ => (asks_saveCase _ _).bind fun _ => trivial

/-! ### Execution -/

/-- What a program that executes the plan of `c`, which it has read, has noticed when it has been through the
required actions `done`. -/
structure Executing (c : RecoveryCase) (done : List ExecutionAction) (history : List ExecutionAction)
    (events : List CaseEvent) : Prop where
  read : lastRead events = some (c.caseId, some c)
  only : calledActions events = calledSince events
  called : (calledSince events).reverse.Sublist done
  recorded : ∀ action ∈ calledSince events, action.actionId ∈ history.map (·.actionId)

/-- A recorded action stays recorded, and so is the one that is carried out. -/
theorem recorded_record (progress : ExecutionProgress) (planId : String) (result : ExecutionAction) (now : Instant)
    {actionId : String} (h : actionId = result.actionId ∨ actionId ∈ progress.history.map (·.actionId)) :
    actionId ∈ (progress.record planId result now).history.map (·.actionId) := by
  simp only [ExecutionProgress.record, List.map_append, List.mem_append]
  by_cases hid : actionId = result.actionId
  · exact Or.inr (by simp [hid])
  · left
    obtain ⟨action, hmem, rfl⟩ := List.mem_map.mp (h.resolve_left hid)
    exact List.mem_map.mpr ⟨action, List.mem_filter.mpr ⟨hmem, by simpa using hid⟩, rfl⟩

/-- The loop calls the adapter for the actions that are not recorded, in their order, each once. -/
theorem obeysCalls_runActions {plan : RecoveryPlan} {now : Instant} (hcheck : checkExecution c = .ok plan)
    {rest : List ExecutionAction} : ∀ {done : List ExecutionAction} {progress : ExecutionProgress}
    {events : List CaseEvent}, done ++ rest = requiredExecutionActions plan now →
      Executing c done progress.history events →
        ObeysCalls answers (runActions plan.planId (actionDict c.executionHistory) now rest progress) events
          fun later after => Executing c (requiredExecutionActions plan now) after.history later := by
  induction rest with
  | nil =>
    intro done progress events hdone h
    rw [List.append_nil] at hdone
    exact hdone ▸ h
  | cons action rest ih =>
    intro done progress events hdone h
    have hdone' : (done ++ [action]) ++ rest = requiredExecutionActions plan now := by simpa using hdone
    rw [runActions]
    split
    next prior hprior =>
      exact ih hdone' ⟨h.read, h.only, h.called.trans (List.sublist_append_left ..), h.recorded⟩
    next hnone =>
      rw [ObeysCalls, Prog.obeys_bind]
      rintro result ⟨failTargets, rfl⟩
      have hcalled : ((calledSince events).reverse ++ [action]).Sublist (done ++ [action]) :=
        h.called.append (List.Sublist.refl _)
      refine ⟨⟨c.caseId, c, plan, h.read, hcheck, hnone, ?_, h.only⟩, ih hdone' ⟨h.read, ?_, ?_, ?_⟩⟩
      · rw [← hdone']
        exact hcalled.trans (List.sublist_append_left ..)
      · exact congrArg (action :: ·) h.only
      · change (action :: calledSince events).reverse.Sublist _
        rw [List.reverse_cons]
        exact hcalled
      · intro a ha
        apply recorded_record
        rw [(simulatedExecute_ids failTargets action now).2]
        rcases List.mem_cons.mp ha with rfl | ha
        · exact Or.inl rfl
        · exact Or.inr (h.recorded a ha)

theorem obeysCalls_getCase {events : List CaseEvent} {post : List CaseEvent → RecoveryCase → Prop}
    (h : ∀ c, c.caseId = caseId → post (.read caseId (some c) :: events) c) :
    ObeysCalls answers (getCase caseId) events post := by
  rintro (_ | c) hc
  · exact ⟨trivial, trivial⟩
  · exact ⟨trivial, h c (hc c rfl)⟩

theorem obeysCalls_execute {now : Instant} {events : List CaseEvent} (h : calledActions events = []) :
    ObeysCalls answers (execute caseId now) events fun _ _ => True := by
  rw [ObeysCalls, execute, Prog.obeys_bind]
  refine obeysCalls_getCase fun c hc => ?_
  subst hc
  rw [Prog.obeys_bind, Prog.obeys_ofExcept]
  intro plan hcheck
  dsimp only
  split
  · trivial
  · have hread : Executing c [] c.executionHistory (.read c.caseId (some c) :: events) :=
      ⟨rfl, h, List.nil_sublist _, by simp [calledSince]⟩
    rw [Prog.obeys_bind]
    refine Prog.Obeys.mono ?_ (obeysCalls_runActions hcheck (List.nil_append _) hread)
    intro later progress hdone
    exact ⟨⟨hdone.recorded, trivial⟩, trivial, trivial⟩

/-- Verification reads the case again before it saves, and calls nothing. -/
theorem obeysCalls_verifyAndResolve {scenario : DemoScenario} {now : Instant} {events : List CaseEvent} :
    ObeysCalls answers (verifyAndResolve caseId scenario now) events fun _ _ => True := by
  rw [ObeysCalls, verifyAndResolve, Prog.obeys_bind]
  refine obeysCalls_getCase fun c _ => ?_
  split
  · trivial
  · dsimp only
    split
    · trivial
    · exact ⟨⟨by simp [CallsAllowed, calledSince], trivial⟩, trivial, trivial⟩

theorem obeysCalls_executeAndComplete {events : List CaseEvent} (h : calledActions events = []) :
    ObeysCalls answers (executeAndComplete scenarioFactory caseId) events fun _ _ => True := by
  rw [ObeysCalls, executeAndComplete, Prog.obeys_bind]
  refine Prog.Obeys.mono ?_ (obeysCalls_of_asks (asks_getCase caseId) h)
  intro events c h
  rw [Prog.obeys_bind, Prog.obeys_ofExcept]
  intro scenario _
  rw [Prog.obeys_bind, Prog.obeys_ofExcept]
  rintro - -
  rw [Prog.obeys_bind]
  refine Prog.Obeys.mono ?_ (obeysCalls_of_asks (asks_nowAfter _) h)
  intro events now h
  rw [Prog.obeys_bind]
  refine Prog.Obeys.mono ?_ (obeysCalls_execute h)
  intro events execution _
  split
  · trivial
  · rw [Prog.obeys_bind]
    refine fun later _ => ⟨trivial, ?_⟩
    change Prog.Obeys _ _ (verifyAndResolve caseId scenario _ >>= _) _ _
    rw [Prog.obeys_bind]
    exact Prog.Obeys.mono (fun _ _ _ => trivial) obeysCalls_verifyAndResolve

/-! ### Requests -/

theorem obeysCalls_startRecovery {scenario : DemoScenario} {command : StartRecoveryCommand} :
    ObeysCalls answers (startRecovery scenarioFactory scenario command) [] fun _ _ => True := by
  rw [ObeysCalls, startRecovery, Prog.obeys_bind]
  refine fun caseId _ => ⟨trivial, ?_⟩
  change Prog.Obeys _ _ (Prog.ofExcept _ >>= _) _ _
  rw [Prog.obeys_bind, Prog.obeys_ofExcept]
  intro need _
  rw [Prog.obeys_bind, Prog.obeys_ofExcept]
  intro stop _
  have hstart : calledActions [Event.asked Query.newId caseId] = [] := rfl
  split
  · exact Prog.Obeys.mono (fun _ _ _ => trivial) (obeysCalls_of_asks (asks_persistInitialNoOption ..) hstart)
  rw [Prog.obeys_bind]
  refine Prog.Obeys.mono ?_ (obeysCalls_of_asks (asks_planInitial _ _) hstart)
  intro events planning h
  split
  · rw [Prog.obeys_bind]
    refine fun now _ => ⟨trivial, ?_⟩
    change Prog.Obeys _ _ (Prog.ofExcept _ >>= _) _ _
    rw [Prog.obeys_bind, Prog.obeys_ofExcept]
    intro created _
    rw [Prog.obeys_bind]
    refine Prog.Obeys.mono ?_ (obeysCalls_of_asks (asks_saveCase _ _) h)
    intro events saved h
    split
    · trivial
    rw [Prog.obeys_bind]
    refine Prog.Obeys.mono ?_ (obeysCalls_of_asks (asks_nowAfter _) h)
    intro events later h
    rw [Prog.obeys_bind]
    refine Prog.Obeys.mono ?_ (obeysCalls_of_asks (asks_applyAutonomyGate _ _ _) h)
    intro events gate h
    split
    · trivial
    · exact obeysCalls_executeAndComplete h
  · trivial

theorem obeysCalls_finishReplanning {result : ReplanningResult} {events : List CaseEvent}
    (h : calledActions events = []) :
    ObeysCalls answers (finishReplanning scenarioFactory c result) events fun _ _ => True := by
  rw [ObeysCalls, finishReplanning]
  split
  · rw [Prog.obeys_bind]
    exact Prog.Obeys.mono (fun _ _ _ => trivial) (obeysCalls_of_asks (asks_saveCase _ _) h)
  · rw [Prog.obeys_bind, Prog.obeys_ofExcept]
    intro accepted _
    rw [Prog.obeys_bind]
    refine Prog.Obeys.mono ?_ (obeysCalls_of_asks (asks_saveCase _ _) h)
    intro events replanned h
    rw [Prog.obeys_bind, Prog.obeys_ofExcept]
    intro scenario _
    rw [Prog.obeys_bind]
    refine Prog.Obeys.mono ?_ (obeysCalls_of_asks (asks_nowAfter _) h)
    intro events now h
    rw [Prog.obeys_bind]
    refine Prog.Obeys.mono ?_ (obeysCalls_of_asks (asks_applyAutonomyGate _ _ _) h)
    intro events gate h
    split
    · trivial
    · exact obeysCalls_executeAndComplete h

theorem obeysCalls_processEvent {command : EventCommand} :
    ObeysCalls answers (processEvent scenarioFactory caseId command) [] fun _ _ => True := by
  rw [ObeysCalls, processEvent, Prog.obeys_bind]
  refine Prog.Obeys.mono ?_ (obeysCalls_of_asks (asks_getCase caseId) rfl)
  intro events c h
  rw [Prog.obeys_bind, Prog.obeys_ofExcept]
  rintro - -
  rw [Prog.obeys_bind, Prog.obeys_ofExcept]
  rintro - -
  rw [Prog.obeys_bind]
  refine Prog.Obeys.mono ?_ (obeysCalls_of_asks (asks_nowAfter _) h)
  intro events now h
  rw [Prog.obeys_bind, Prog.obeys_ofExcept]
  intro scenario _
  rw [Prog.obeys_bind]
  refine Prog.Obeys.mono ?_ (obeysCalls_of_asks (asks_eventIdOf _) h)
  intro events eventId h
  rw [Prog.obeys_bind, Prog.obeys_ofExcept]
  intro event _
  rw [Prog.obeys_bind]
  refine Prog.Obeys.mono ?_ (obeysCalls_of_asks ((asks_stopOrReplan event scenario).mapError _) h)
  intro events result h
  split
  · trivial
  · exact obeysCalls_finishReplanning h

theorem obeysCalls_decideApproval {approvalId : String} {command : ApprovalCommand} :
    ObeysCalls answers (decideApproval scenarioFactory caseId approvalId command) [] fun _ _ => True := by
  rw [ObeysCalls, decideApproval, Prog.obeys_bind]
  refine Prog.Obeys.mono ?_ (obeysCalls_of_asks (asks_getCase caseId) rfl)
  intro events c h
  rw [Prog.obeys_bind, Prog.obeys_ofExcept]
  rintro - -
  rw [Prog.obeys_bind]
  refine Prog.Obeys.mono ?_ (obeysCalls_of_asks (asks_nowAfter _) h)
  intro events now h
  rw [Prog.obeys_bind]
  refine Prog.Obeys.mono ?_ (obeysCalls_of_asks (asks_decide _ _ _ _) h)
  intro events result h
  split
  · trivial
  split
  · trivial
  · exact obeysCalls_executeAndComplete h

/-- **Every request** calls the adapter only for what the case it has read requires and has not recorded, each
action once, and records what it has called for in its next save. -/
theorem obeysCalls_request {p : Service RecoveryCase} (hp : Request scenarioFactory p) :
    ObeysCalls answers p [] fun _ _ => True := by
  cases hp with
  | start scenario command => exact obeysCalls_startRecovery
  | event caseId command => exact obeysCalls_processEvent
  | decide caseId approvalId command => exact obeysCalls_decideApproval

end DayMend.Runs
