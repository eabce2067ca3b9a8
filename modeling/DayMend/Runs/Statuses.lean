import DayMend.Runs.PlanningAgents

/-!
# The statuses of a case

What a status may be followed by is written in no one place of the services; each of them
checks the status, the plan or the approval when it reads the case, and saves later. All
the same, whatever the order in which requests take turns, the versions of a case go along
the arrows of one automaton (`nextStatuses`, `statuses_of_deployed`), and every arrow is
taken in some run (`mem_nextStatuses_iff`). A case whose plan is not valid is never saved
again: neither one for which there is no option, nor one for which no valid plan was found
after a decline.
-/

namespace DayMend.Runs

open DayMend.Base DayMend.Models DayMend.Fixtures DayMend.Services DayMend.Agent DayMend.Application

variable {scenarioFactory : DemoScenario}
  {answers : AgentRuntimeRequest → Except Failure AgentRuntimeResponse → Prop} {seen : Set RecoveryCase}
  {c c' : RecoveryCase} {plan : RecoveryPlan}

/-- The statuses that may follow a status. -/
def nextStatuses : RecoveryStatus → List RecoveryStatus
  | .waitingForResponse => [.executing, .approvalRequired, .replanning, .noRecoveryOption]
  | .approvalRequired => [.executing, .replanning, .noRecoveryOption]
  | .executing => [.executing, .approvalRequired, .failed, .resolved, .replanning, .noRecoveryOption]
  | .failed => [.executing, .replanning, .noRecoveryOption]
  | .resolved => [.executing, .replanning, .noRecoveryOption]
  | .replanning => [.executing, .replanning, .noRecoveryOption]
  | _ => []

/-- The case has a valid active plan. -/
def Alive (c : RecoveryCase) : Prop := ∃ plan, c.activeRecoveryPlan = some plan ∧ plan.validationState = .valid

/-- Only a case that was given up, or is to be replanned, may be without a valid plan. -/
inductive StatusOk (c : RecoveryCase) : Prop where
  /-- There is a plan. -/
  | planned (hstatus : c.status ∈ [.waitingForResponse, .approvalRequired, .executing, .failed, .resolved])
      (halive : Alive c)
  /-- A decision or a decline has left the case to be replanned. -/
  | replanning (hstatus : c.status = .replanning)
  /-- There is no option. -/
  | givenUp (hstatus : c.status = .noRecoveryOption) (hdead : ¬ Alive c)

theorem StatusOk.alive (h : StatusOk c) (hreplanning : c.status ≠ .replanning) (hnone : c.status ≠ .noRecoveryOption) :
    Alive c := by
  cases h with
  | planned _ halive => exact halive
  | replanning hs => exact absurd hs hreplanning
  | givenUp hs _ => exact absurd hs hnone

theorem Alive.of_active (h : Alive c) (hactive : c'.activeRecoveryPlan = c.activeRecoveryPlan) : Alive c' := by
  obtain ⟨plan, hplan, hvalid⟩ := h
  exact ⟨plan, hactive.trans hplan, hvalid⟩

/-- The number of a version plays no part. -/
theorem StatusOk.stored {expected : Option ℕ} (h : StatusOk c) : StatusOk (stored c expected) := by
  cases h with
  | planned hstatus halive => exact .planned hstatus halive
  | replanning hstatus => exact .replanning hstatus
  | givenUp hstatus hdead => exact .givenUp hstatus hdead

/-! ### One step -/

theorem Started.alive (h : Started c) : Alive c := by
  obtain ⟨_, _, _, _, _, plan, _, _, haccepted, rfl⟩ := h
  exact ⟨materializeCaregiverAssumptions plan, rfl, haccepted.validationState_eq⟩

theorem Replanned.alive (h : Replanned scenarioFactory answers c c') : Alive c' := by
  obtain ⟨event, scenario, outcome, response, facts, plan, assumptions, -, -, -, haccepted, rfl⟩ := h
  exact ⟨plan, acceptedCase_activeRecoveryPlan .., haccepted.validationState_eq⟩

theorem Fresh.alive (h : Fresh scenarioFactory answers seen c) : Alive c := by
  rcases h with ⟨x, hx, rfl⟩ | ⟨c₀, -, x, hx, rfl⟩
  · exact hx.alive
  · exact hx.alive

/-- Where a case begins. -/
theorem Initial.statusOk (h : Initial c) :
    (c.status = .waitingForResponse ∨ c.status = .noRecoveryOption) ∧ StatusOk c := by
  cases h with
  | noOption command caseId scenario uncovered now h =>
    subst h
    refine ⟨Or.inr rfl, .givenUp rfl ?_⟩
    rintro ⟨plan, ⟨⟩, -⟩
  | started h =>
    have halive := h.alive
    obtain ⟨_, _, _, _, _, _, _, _, _, rfl⟩ := h
    exact ⟨Or.inl rfl, .planned (by simp [startedCase, activeCase]) halive⟩

/-- A decline is of a valid plan, and is followed as it may be from any status. -/
theorem Declined.follows {decline : Decline} (h : Declined scenarioFactory answers c c' decline plan)
    (hok : StatusOk c) : Alive c ∧ c'.status ∈ nextStatuses c.status ∧ StatusOk c' := by
  have halive : Alive c := ⟨plan, h.active, h.valid⟩
  have hnext : ∀ {s : RecoveryStatus}, s = .executing ∨ s = .replanning ∨ s = .noRecoveryOption →
      s ∈ nextStatuses c.status := by
    intro s hs
    cases hok with
    | planned hstatus _ =>
      simp only [List.mem_cons, List.not_mem_nil, or_false] at hstatus
      rcases hstatus with hc | hc | hc | hc | hc <;> rw [hc] <;> rcases hs with rfl | rfl | rfl <;> decide
    | replanning hstatus =>
      rw [hstatus]
      rcases hs with rfl | rfl | rfl <;> decide
    | givenUp _ hdead => exact absurd halive hdead
  refine ⟨halive, ?_⟩
  cases h.result with
  | invalid q hactive _ hinvalid hstatus _ =>
    have hdead : ¬ Alive c' := by
      rintro ⟨plan', hplan', hvalid'⟩
      obtain rfl := Option.some.inj (hactive.symm.trans hplan')
      rw [hinvalid] at hvalid'
      cases hvalid'
    rcases hstatus with hs | hs
    · exact ⟨hnext (Or.inr (Or.inr hs)), .givenUp hs hdead⟩
    · exact ⟨hnext (Or.inr (Or.inl hs)), .replanning hs⟩
  | replanned hr =>
    exact ⟨hnext (Or.inl hr.status_eq), .planned (by simp [hr.status_eq]) hr.alive⟩

/-- Work is done on a valid plan, and moves the status forward. -/
theorem WorkStep.follows (h : WorkStep scenarioFactory answers seen c c') (hok : StatusOk c) :
    Alive c ∧ c'.status ∈ nextStatuses c.status ∧ StatusOk c' := by
  have hactive : c'.activeRecoveryPlan = c.activeRecoveryPlan := h.kept.active
  cases h with
  | gateExecuting now hfresh hplan _ =>
    refine ⟨hfresh.alive, ?_, .planned (by simp [executingCase]) (hfresh.alive.of_active hactive)⟩
    rcases hfresh.status_eq with hs | hs <;> simp [hs, nextStatuses, executingCase]
  | gateApproval now hfresh hplan _ _ _ =>
    refine ⟨hfresh.alive, ?_, .planned (by simp [requestedCase]) (hfresh.alive.of_active hactive)⟩
    rcases hfresh.status_eq with hs | hs <;> simp [hs, nextStatuses, requestedCase]
  | decide decision now reason _ hcheck =>
    obtain ⟨-, hs, -, -⟩ := checkDecision_eq_ok hcheck
    have halive := hok.alive (by simp [hs]) (by simp [hs])
    cases decision with
    | approve =>
      refine ⟨halive, ?_, .planned (by simp [decidedCase]) (halive.of_active hactive)⟩
      simp [hs, nextStatuses, decidedCase]
    | reject => exact ⟨halive, by simp [hs, nextStatuses, decidedCase], .replanning rfl⟩
  | @execute plan progress now hcheck hrun =>
    obtain ⟨hplan, hvalid, -, hs, -⟩ := checkExecution_eq_ok hcheck
    have halive : Alive c := ⟨plan, hplan, hvalid⟩
    have hstatus : (executedCase c progress now).status = if progress.succeeded then .executing else .failed := rfl
    refine ⟨halive, ?_, .planned ?_ (halive.of_active hactive)⟩
    · rw [hs, hstatus]
      split
      · decide
      · decide
    · rw [hstatus]
      split
      · decide
      · decide
  | resolve now _ _ hplan herrors =>
    have hs := (completionErrors_eq_nil.mp herrors).executing
    have halive := hok.alive (by simp [hs]) (by simp [hs])
    refine ⟨halive, ?_, .planned (by simp [resolvedCase]) (halive.of_active hactive)⟩
    simp [hs, nextStatuses, resolvedCase]

/-- **One step** is of a case with a valid plan, goes along an arrow, and keeps the status in order. -/
theorem CaseStep.follows (h : CaseStep scenarioFactory answers seen c c') (hok : StatusOk c) :
    Alive c ∧ c'.status ∈ nextStatuses c.status ∧ StatusOk c' := by
  rcases h.work_or_declined with hwork | ⟨decline, plan, hdeclined⟩
  · exact hwork.follows hok
  · exact hdeclined.follows hok

/-! ### Whole runs -/

/-- The versions of a case, newest first, go along the arrows, from a beginning, and only the newest may be without a
valid plan. -/
structure Follow (versions : List RecoveryCase) : Prop where
  arrows : versions.IsChain fun newer older => newer.status ∈ nextStatuses older.status
  start : ∀ c, versions.getLast? = some c → c.status = .waitingForResponse ∨ c.status = .noRecoveryOption
  alive : ∀ c ∈ versions.tail, Alive c

theorem follow_of_history {history : List RecoveryCase} (h : CaseHistory scenarioFactory answers history) :
    Follow history ∧ ∀ c ∈ history, StatusOk c := by
  induction h with
  | nil => exact ⟨⟨List.isChain_nil, by simp, by simp⟩, by simp⟩
  | start hinitial =>
    obtain ⟨hstart, hok⟩ := Initial.statusOk hinitial
    refine ⟨⟨List.isChain_singleton _, fun c hc => ?_, by simp⟩, by simpa using hok.stored⟩
    obtain rfl := Option.some.inj hc
    exact hstart
  | @step c c' past _ hstep ih =>
    obtain ⟨⟨harrows, hstart, halive⟩, hok⟩ := ih
    obtain ⟨hc, hnext, hok'⟩ := CaseStep.follows hstep (hok c (List.mem_cons_self ..))
    refine ⟨⟨List.IsChain.cons_cons hnext harrows, fun first hfirst => hstart first ?_, ?_⟩, ?_⟩
    · rwa [List.getLast?_cons_cons] at hfirst
    · exact List.forall_mem_cons.mpr ⟨hc, halive⟩
    · exact List.forall_mem_cons.mpr ⟨hok'.stored, hok⟩

/-- **Statuses follow the arrows**: in every run of a deployment, the versions of each case begin with a plan or
without an option, each has a status that may follow the one before, and one that has been replaced had a valid
active plan: a case whose plan is not valid is never saved again. -/
theorem statuses_of_deployed {Q : Type} {A : Q → Type} {valueErrorText : ReasoningFailure → Option String}
    {agents : (question : AgentQuestion) → AgentAnswer question → Prop} {gateway : PlanningGateway A}
    {asked : (question : Q) → A question → Prop}
    {cfg : Config String RecoveryCase ReasoningFailure (DeployedAnswer A) RecoveryCase}
    (hdeployed : DeployedWith agents gateway asked)
    (h : Reachable (deployedEnv asked) (gateway.Request valueErrorText scenarioFactory) cfg) (caseId : String) :
    Follow (versions cfg.saved caseId) := by
  obtain ⟨threads, hreachable, -⟩ := exists_reachable_of_deployed hdeployed h
  exact (follow_of_history (caseHistory_of_reaches hreachable caseId)).1

theorem statuses_of_deployed_takenOver :
    (versions (Config.run deployedTakenOver).saved "case").map (·.status) =
        [.resolved, .executing, .executing, .executing, .waitingForResponse] ∧
      Follow (versions (Config.run deployedTakenOver).saved "case") :=
  ⟨by decide +kernel, statuses_of_deployed deployedWith_singleAgent
    reachable_deployedTakenOver "case"⟩

/-! ### Every arrow is taken -/

/-- The arrows along which versions have gone, newest first. -/
def arrows : List RecoveryCase → List (RecoveryStatus × RecoveryStatus)
  | newer :: older :: past => (older.status, newer.status) :: arrows (older :: past)
  | _ => []

theorem mem_nextStatuses_of_chain {history : List RecoveryCase} {s s' : RecoveryStatus}
    (h : history.IsChain fun newer older => newer.status ∈ nextStatuses older.status)
    (harrow : (s, s') ∈ arrows history) : s' ∈ nextStatuses s := by
  induction history with
  | nil => cases harrow
  | cons newer history ih =>
    cases history with
    | nil => cases harrow
    | cons older past =>
      obtain ⟨hnext, hchain⟩ := List.isChain_cons_cons.mp h
      rcases List.mem_cons.mp harrow with heq | harrow
      · obtain ⟨rfl, rfl⟩ := Prod.mk.inj heq
        exact hnext
      · exact ih hchain harrow

/-- A day on which both parents are busy, and nobody comes from outside. -/
def busyDay (caregivers : List Caregiver) : DemoScenario := { providersDay caregivers with backupCareCandidates := [] }

/-- A sitter who comes for nothing. -/
def friend (caregiverId : String) : Caregiver := sitter caregiverId [minutes 0 120]

/-- A sitter who is to be paid more than is spent without asking. -/
def paidSitter (caregiverId : String) : Caregiver :=
  { friend caregiverId with hourlyRate := some 30, has_at_most_one_price_type := by simp [friend, sitter] }

/-- What comes after the start: somebody declines, the agent drafts a plan with another, and so many steps are taken,
or the parents reject the first plan. -/
inductive Later where
  | declines (caregiverId another : String) (steps : ℕ) (failTargets : List String)
  | rejected

/-- The world of `deployedAnswering`, in which some actions fail. -/
def deployedFailing (failTargets : List String) (time : Instant) (id : String) (plan : RecoveryPlan) :
    (question : Query ⊕ AgentQuestion) → DeployedAnswer AgentAnswer question
  | .inl (.execute action now) => simulatedExecute failTargets action now
  | question => deployedAnswering time id plan question

/-- The turns of the request `i`. -/
def Later.turns (scenario : DemoScenario) (i : ℕ) : Later → DeployedSchedule
  | .declines caregiverId another steps failTargets =>
    [.spawn (singleAgent.processEvent (fun _ => none) scenario "case" (declineCommand caregiverId (minutes 0 120))),
      .steps i steps (deployedFailing failTargets (i + 1) (toString i) (allDayBy another))]
  | .rejected =>
    [.spawn (inService (decideApproval scenario "case" "case" { decision := .reject })),
      .steps i 100 (deployedAnswering (i + 1) (toString i) (allDayBy "nobody"))]

/-- A day, who is to come first, and what comes later. -/
structure Story where
  scenario : DemoScenario
  first : String
  later : List Later

/-- The turns of a story. -/
def Story.turns (story : Story) : DeployedSchedule :=
  [.spawn (singleAgent.startRecovery story.scenario story.scenario nannyIll),
    .steps 0 100 (deployedAnswering 1 "case" (allDayBy story.first))] ++
      (story.later.zipIdx 1).flatMap fun later => later.1.turns story.scenario later.2

theorem Story.reachable (story : Story) : Reachable (deployedEnv fun _ _ => True)
    (singleAgent.Request (fun _ => none) story.scenario) (Config.run story.turns) := by
  refine reachable_run fun t ht => ?_
  rcases List.mem_append.mp ht with ht | ht
  · simp only [List.mem_cons, List.not_mem_nil, or_false] at ht
    rcases ht with rfl | rfl
    · exact .start story.scenario nannyIll
    · exact deployedEnv_answering
  · obtain ⟨⟨later, i⟩, -, ht⟩ := List.mem_flatMap.mp ht
    cases later with
    | declines caregiverId another steps failTargets =>
      simp only [Later.turns, List.mem_cons, List.not_mem_nil, or_false] at ht
      rcases ht with rfl | rfl
      · exact .event "case" (declineCommand caregiverId (minutes 0 120))
      · rintro ((_ | _ | _ | _) | question)
        · trivial
        · trivial
        · exact ⟨failTargets, rfl⟩
        · exact ⟨_, rfl⟩
        · trivial
    | rejected =>
      simp only [Later.turns, List.mem_cons, List.not_mem_nil, or_false] at ht
      rcases ht with rfl | rfl
      · exact .decide "case" "case" { decision := .reject }
      · exact deployedEnv_answering

/-- Stories in which every arrow is taken. -/
def stories : List Story :=
  let two := busyDay [friend "kim", friend "lee"]
  let three := busyDay [friend "kim", friend "lee", friend "pat"]
  let lastPaid := busyDay [friend "kim", friend "lee", paidSitter "sam"]
  [⟨two, "kim", [.declines "kim" "lee" 100 [], .declines "lee" "lee" 100 []]⟩,
    ⟨busyDay [friend "kim"], "kim", [.declines "kim" "kim" 100 []]⟩,
    ⟨two, "kim", [.declines "kim" "kim" 100 []]⟩,
    ⟨lastPaid, "sam", [.declines "sam" "kim" 100 []]⟩,
    ⟨busyDay [friend "kim", paidSitter "sam"], "kim", [.declines "kim" "sam" 100 [], .declines "sam" "sam" 100 []]⟩,
    ⟨lastPaid, "sam", [.rejected, .declines "sam" "lee" 100 []]⟩,
    ⟨lastPaid, "sam", [.rejected, .declines "sam" "sam" 100 []]⟩,
    ⟨busyDay [paidSitter "sam"], "sam", [.rejected, .declines "sam" "sam" 100 []]⟩,
    ⟨three, "kim", [.declines "kim" "lee" 100 ["lee"], .declines "lee" "pat" 100 []]⟩,
    ⟨three, "kim", [.declines "kim" "lee" 100 ["lee"], .declines "lee" "lee" 100 []]⟩,
    ⟨two, "kim", [.declines "kim" "lee" 100 ["lee"], .declines "lee" "lee" 100 []]⟩,
    ⟨three, "kim", [.declines "kim" "lee" 100 [], .declines "lee" "pat" 100 []]⟩,
    ⟨three, "kim", [.declines "kim" "lee" 100 [], .declines "lee" "lee" 100 []]⟩,
    -- the second decline comes before the first takeover is carried out
    ⟨two, "kim", [.declines "kim" "lee" 8 [], .declines "lee" "lee" 100 []]⟩,
    ⟨three, "kim", [.declines "kim" "lee" 8 [], .declines "lee" "lee" 100 []]⟩]

/-- The statuses from which an arrow leads. -/
def leftStatuses : List RecoveryStatus :=
  [.waitingForResponse, .approvalRequired, .executing, .failed, .resolved, .replanning]

theorem exists_story : ∀ s ∈ leftStatuses, ∀ s' ∈ nextStatuses s, ∃ story ∈ stories,
    (s, s') ∈ arrows (versions (Config.run story.turns).saved "case") := by
  have hall : ∀ s ∈ leftStatuses, ∀ s' ∈ nextStatuses s,
      (s, s') ∈ stories.flatMap fun story => arrows (versions (Config.run story.turns).saved "case") := by
    decide +kernel
  exact fun s hs s' hs' => List.mem_flatMap.mp (hall s hs s' hs')

/-- **The arrows are exact**: a status is followed by another in some run of the deployment with the single agent if and
only if the automaton says so. -/
theorem mem_nextStatuses_iff {s s' : RecoveryStatus} :
    s' ∈ nextStatuses s ↔ ∃ (scenarioFactory : DemoScenario)
      (cfg : Config String RecoveryCase ReasoningFailure (DeployedAnswer AgentAnswer) RecoveryCase) (caseId : String),
        Reachable (deployedEnv fun _ _ => True) (singleAgent.Request (fun _ => none) scenarioFactory) cfg ∧
          (s, s') ∈ arrows (versions cfg.saved caseId) := by
  constructor
  · intro h
    have hs : s ∈ leftStatuses := by
      cases s <;> first | decide | cases h
    obtain ⟨story, -, harrow⟩ := exists_story s hs s' h
    exact ⟨story.scenario, Config.run story.turns, "case", story.reachable, harrow⟩
  · rintro ⟨scenarioFactory, cfg, caseId, h, harrow⟩
    obtain ⟨threads, hreachable, -⟩ :=
      exists_reachable_of_deployed deployedWith_singleAgent h
    exact mem_nextStatuses_of_chain (follow_of_history (caseHistory_of_reaches hreachable caseId)).1.arrows harrow

end DayMend.Runs
