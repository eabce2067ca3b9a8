import DayMend.Runs.Deployed
import DayMend.Runs.Programs

/-!
# What the repository's own agents answer

Whichever architecture plans, and wherever its agents are, a planning session ends with
attempts that follow one another as the application lets them (`Wire.RepairsFrom`), on the
facts of the day with a provider whom the search has found. So both gateways plan with
grounded answers (`plans_strandsGateway`, `plans_agentCoreGateway`).
-/

namespace DayMend.Runs

open DayMend.Base DayMend.Models DayMend.Fixtures DayMend.Services DayMend.Agent DayMend.Application

variable {materializedPlanId : List String → String} {host architecture : AgentArchitecture}
  {agents : (question : AgentQuestion) → AgentAnswer question → Prop} {disruption : String}
  {scenario facts : DemoScenario} {preserved : List RecoveryPlanSegment} {remaining : ℕ}
  {earlier : List PlanningAttempt} {plan proposal : RecoveryPlan} {attempts : PlanningAttempts}
  {candidate : Option BackupCareCandidate} {recoveryCase : RecoveryCase} {event : RecoveryEvent}
  {outcome : InvalidationOutcome} {proposes : RecoveryPlan → List PlanValidationIssue → RecoveryPlan → Prop}

/-! ### Grounded answers -/

/-- What the known options do not cover, by a request for a plan. -/
def needOf (request : AgentRuntimeRequest) : Except Failure RecoveryNeed :=
  match request.replanningContext with
  | some context => replanningNeed (Wire.outcomeOf context request.scenario)
  | none => assessKnownOptionRecoveryNeed request.scenario none none

/-- A runtime that names only providers whom the search has found for what the known options do not cover. -/
def groundedAnswers (request : AgentRuntimeRequest) : Except Failure AgentRuntimeResponse → Prop
  | .error _ => True
  | .ok response =>
    ∀ candidate, response.researchedCandidate = some candidate → FoundFor request.scenario (needOf request) candidate

theorem mayFail_groundedAnswers : MayFail groundedAnswers := fun _ _ => trivial

/-! ### Sessions of the model -/

/-- Whatever is proposed, the model's runtime may propose. -/
theorem outcome_repairLoop_of_repairsFrom {caseId : Option String}
    (h : Wire.RepairsFrom proposes facts preserved remaining earlier plan attempts) :
    (repairLoop scenario facts caseId preserved candidate remaining earlier plan).Outcome (env groundedAnswers)
      (.ok attempts) := by
  induction remaining generalizing earlier plan with
  | zero =>
    rw [Wire.RepairsFrom] at h
    split at h
    · exact congrArg Except.ok h
    · exact congrArg Except.ok h
  | succ remaining ih =>
    rw [Wire.RepairsFrom] at h
    rw [repairLoop]
    dsimp only
    split at h
    next hvalid =>
      rw [nextAttempt] at hvalid
      rw [if_pos hvalid]
      exact congrArg Except.ok h
    next hinvalid =>
      obtain ⟨repair, -, h⟩ := h
      rw [nextAttempt] at hinvalid
      rw [if_neg hinvalid]
      refine outcome_bind_ok.mpr ⟨{ planCandidate := repair }, outcome_invoke.mpr ?_, ih h⟩
      rintro _ ⟨⟩

/-- An initial plan. -/
theorem outcome_planInitial_of_repairsFrom (hfacts : validationScenario scenario candidate = .ok facts)
    (hfound : ∀ k, candidate = some k → FoundFor scenario (assessKnownOptionRecoveryNeed scenario none none) k)
    (hrepairs : Wire.RepairsFrom proposes facts [] (maxPlanAttempts - 1) [] proposal attempts) :
    (planInitial disruption scenario).Outcome (env groundedAnswers)
      (.ok { buildPlanningResult attempts.last.validation.valid attempts with researchedCandidate := candidate }) := by
  refine outcome_bind_ok.mpr ⟨{ planCandidate := proposal, researchedCandidate := candidate },
    outcome_invoke.mpr hfound, outcome_bind_ok.mpr ⟨facts, outcome_ofExcept.mpr hfacts.symm,
    outcome_bind_ok.mpr ⟨attempts, outcome_repairLoop_of_repairsFrom hrepairs, rfl⟩⟩⟩

/-- A new plan. -/
theorem outcome_replan_of_repairsFrom (hdecline : applyCaregiverDecline recoveryCase event scenario = .ok outcome)
    (hfacts : validationScenario outcome.updatedScenario candidate = .ok facts)
    (hfound : ∀ k, candidate = some k → FoundFor outcome.updatedScenario (replanningNeed outcome) k)
    (hrepairs : Wire.RepairsFrom proposes facts outcome.preservedSegments (maxPlanAttempts - 1) [] proposal attempts) :
    (replan recoveryCase event scenario).Outcome (env groundedAnswers)
      (.ok (buildReplanningResult outcome event attempts candidate)) := by
  refine outcome_bind_ok.mpr ⟨outcome, outcome_ofExcept.mpr hdecline.symm, outcome_bind_ok.mpr
    ⟨{ planCandidate := proposal, researchedCandidate := candidate }, outcome_invoke.mpr hfound,
    outcome_bind_ok.mpr ⟨facts, outcome_ofExcept.mpr hfacts.symm,
    outcome_bind_ok.mpr ⟨attempts, outcome_repairLoop_of_repairsFrom hrepairs, rfl⟩⟩⟩⟩

/-! ### The single agent -/

/-- Drafts follow one another as the application lets them. -/
theorem exists_repairsFrom_of_draftLoop {repairScope : String} {prompt : ProposalPrompt}
    (h : ((draftLoop facts repairScope preserved remaining earlier prompt).on facts).Outcome agents (.ok attempts)) :
    ∃ proposal, Wire.RepairsFrom (fun _ _ _ => True) facts preserved remaining earlier proposal attempts := by
  induction remaining generalizing earlier prompt with
  | zero =>
    rw [draftLoop] at h
    obtain ⟨output, -, h⟩ := outcome_ask_on.mp h
    cases output with
    | none => cases h
    | some output =>
      refine ⟨notValidated output, ?_⟩
      rw [Wire.RepairsFrom]
      dsimp only at h
      split at h
      next hvalid => exact (if_pos hvalid).mpr (outcome_ret_ok.mp h)
      next hinvalid => exact (if_neg hinvalid).mpr (outcome_ret_ok.mp h)
  | succ remaining ih =>
    rw [draftLoop] at h
    obtain ⟨output, -, h⟩ := outcome_ask_on.mp h
    cases output with
    | none => cases h
    | some output =>
      refine ⟨notValidated output, ?_⟩
      rw [Wire.RepairsFrom]
      dsimp only at h
      split at h
      next hvalid => exact (if_pos hvalid).mpr (outcome_ret_ok.mp h)
      next hinvalid =>
        obtain ⟨repair, hrepairs⟩ := ih h
        exact (if_neg hinvalid).mpr ⟨repair, trivial, hrepairs⟩

/-- The single agent's attempts. -/
theorem exists_repairsFrom_of_runBoundedPlanAttempts {prompt repairScope : String}
    (h : ((runBoundedPlanAttempts facts prompt maxPlanAttempts repairScope preserved).on facts).Outcome agents
      (.ok attempts)) :
    ∃ proposal, Wire.RepairsFrom (fun _ _ _ => True) facts preserved (maxPlanAttempts - 1) [] proposal attempts := by
  rw [runBoundedPlanAttempts, Session.on, interpret_bind] at h
  obtain ⟨_, -, h⟩ := outcome_bind_ok.mp h
  exact exists_repairsFrom_of_draftLoop h

/-! ### Local agents -/

/-- The work of local agents belongs to the day. -/
theorem on_localInitialWork {work : PlanningWork} (harchitecture : architecture ≠ .single)
    (h : (localInitialWork architecture disruption scenario).Outcome agents (.ok work)) :
    work.On scenario (assessKnownOptionRecoveryNeed scenario none none) := by
  cases architecture with
  | single => exact absurd rfl harchitecture
  | multi =>
    obtain ⟨brief, -, h⟩ := outcome_bind_ok.mp h
    obtain rfl := outcome_ret_ok.mp h
    exact .plain
  | multiResearch =>
    obtain ⟨need, brief, hneed, -, h⟩ := outcome_researchedInitialWork.mp h
    split at h
    · obtain ⟨before, hbefore, rfl⟩ := h
      obtain ⟨⟨hfacts, hfound⟩, -⟩ := of_researchWork hbefore
      rw [hneed]
      exact ⟨hfacts, hfound⟩
    · rw [h]
      exact .plain

/-- **The repository's agents, asked by the application**, in any of their architectures. -/
theorem plans_strandsGateway :
    Plans (strandsGateway materializedPlanId architecture) agents groundedAnswers where
  planInitial_onlyAsks _ _ := onlyAsks_strandsPlanInitial
  replan_onlyAsks _ _ _ := onlyAsks_strandsReplan
  planInitial {disruption scenario result} h := by
    by_cases harchitecture : architecture = .single
    · subst harchitecture
      obtain ⟨_, -, h⟩ := outcome_bind_ok.mp h
      obtain ⟨attempts, hattempts, h⟩ := outcome_bind_ok.mp h
      obtain rfl := Except.ok.inj h
      obtain ⟨proposal, hrepairs⟩ := exists_repairsFrom_of_runBoundedPlanAttempts hattempts
      have hfacts : validationScenario scenario none = .ok scenario := rfl
      exact outcome_planInitial_of_repairsFrom hfacts (by rintro _ ⟨⟩) hrepairs
    · obtain ⟨work, proposal, attempts, hwork, -, hrepairs, rfl⟩ := (outcome_strandsPlanInitial harchitecture).mp h
      obtain ⟨hfacts, hfound⟩ := on_localInitialWork harchitecture hwork
      exact outcome_planInitial_of_repairsFrom hfacts hfound hrepairs
  replan {recoveryCase event scenario result} h := by
    by_cases harchitecture : architecture = .single
    · subst harchitecture
      obtain ⟨outcome, hdecline, h⟩ := outcome_bind_ok.mp h
      obtain ⟨_, -, h⟩ := outcome_bind_ok.mp h
      obtain ⟨attempts, hattempts, h⟩ := outcome_bind_ok.mp h
      obtain rfl := Except.ok.inj h
      obtain ⟨proposal, hrepairs⟩ := exists_repairsFrom_of_runBoundedPlanAttempts hattempts
      exact outcome_replan_of_repairsFrom (outcome_liftServices.mp hdecline) rfl (by rintro _ ⟨⟩) hrepairs
    · cases hdecline : applyCaregiverDecline recoveryCase event scenario with
      | error failure =>
        have hfails : strandsReplan materializedPlanId architecture recoveryCase event scenario =
            .raise (serviceFailure failure) := by
          rw [strandsReplan_eq _ harchitecture, runMultiAgentReplanning, hdecline]
          rfl
        change (strandsReplan materializedPlanId architecture recoveryCase event scenario).Outcome agents _ at h
        rw [hfails] at h
        cases h
      | ok outcome =>
        obtain ⟨work, proposal, attempts, hwork, -, hrepairs, rfl⟩ :=
          (Wire.outcome_strandsReplan harchitecture hdecline).mp h
        obtain ⟨⟨hfacts, hfound⟩, -⟩ := of_replanningWork hwork
        exact outcome_replan_of_repairsFrom hdecline hfacts hfound hrepairs

/-! ### The remote runtime -/

/-- A remote session that ends well has proposals for the work that its request is for. -/
theorem of_remoteSession {β : Type} {fields : (requestId architecture : String) → Wire.RequestFields}
    {works : PlanningWork → Prop} {operation : PlannerOperation} {caseId : Option String}
    {finish : PlanningAttempts → Option BackupCareCandidate → β} {b : β}
    (hnamed : ∀ id named, (fields id named).architecture = named)
    (hcontract : architecture ≠ .single → ∀ id : String, id.length = 36 → (fields id architecture.value).Contract)
    (hworks : ∀ id h work,
      (Wire.requestedWork ⟨fields id architecture.value, h⟩).Outcome agents (.ok work) ↔ works work)
    (hproposes : ∀ id h work proposal,
      (Wire.proposeFor materializedPlanId ⟨fields id architecture.value, h⟩ work).Outcome agents (.ok proposal) ↔
        Wire.Proposes materializedPlanId agents work.brief work.scenario operation none [] proposal)
    (hfacts : ∀ work, works work → validationScenario scenario work.researchedCandidate = .ok work.scenario)
    (h : (Wire.remoteSession materializedPlanId host architecture fields scenario caseId preserved finish).Outcome
      (Wire.remoteEnv agents) (.ok b)) :
    ∃ work proposes proposal attempts, works work ∧
      Wire.RepairsFrom proposes work.scenario preserved (maxPlanAttempts - 1) [] proposal attempts ∧
        b = finish attempts work.researchedCandidate := by
  obtain ⟨response, hresponse, -⟩ := outcome_bind_ok.mp h
  obtain ⟨hhost, harchitecture⟩ := Wire.ne_single_of_outcome_invokeWith hnamed hresponse
  rcases (Wire.outcome_remoteSession hhost harchitecture (hcontract harchitecture) hworks hproposes hfacts).mp h with
    heq | ⟨work, proposal, attempts, hwork, -, hrepairs, heq⟩
  · cases heq
  · exact ⟨work, _, proposal, attempts, hwork, hrepairs, Except.ok.inj heq⟩

/-- **The repository's agents, asked by the remote runtime**, whatever the network does. -/
theorem plans_agentCoreGateway :
    Plans (agentCoreGateway materializedPlanId host architecture) (Wire.remoteEnv agents) groundedAnswers where
  planInitial_onlyAsks _ _ := Wire.onlyAsks_remoteSession
  replan_onlyAsks _ _ _ := (Prog.OnlyAsks.ofExcept _).bind fun _ => Wire.onlyAsks_remoteSession
  planInitial {disruption scenario result} h := by
    by_cases hdisruption : disruption = ""
    · have hinvalid : ∀ id, ¬ (Wire.initialFields disruption scenario id architecture.value).Contract :=
        fun _ hcontract => (hcontract.initial rfl).2 (congrArg some hdisruption)
      cases (Wire.outcome_remoteSession_invalid hinvalid).mp h
    · obtain ⟨work, proposes, proposal, attempts, hwork, hrepairs, rfl⟩ := of_remoteSession (fun _ _ => rfl)
        (fun harchitecture _ hid => Wire.contract_initialFields hdisruption harchitecture hid)
        (fun _ _ _ => Iff.rfl) (fun _ _ _ _ => Iff.rfl) (fun _ hwork => (Wire.of_initialWork hwork).1.facts) h
      obtain ⟨⟨hfacts, hfound⟩, -⟩ := Wire.of_initialWork hwork
      exact outcome_planInitial_of_repairsFrom hfacts hfound hrepairs
  replan {recoveryCase event scenario result} h := by
    obtain ⟨outcome, hdecline, h⟩ := outcome_bind_ok.mp h
    obtain ⟨work, proposes, proposal, attempts, hwork, hrepairs, rfl⟩ := of_remoteSession (fun _ _ => rfl)
      (fun harchitecture _ hid => Wire.contract_replanningFields harchitecture hid)
      (fun _ hcontract _ => Wire.requestedWork_replanningFields hcontract) (fun _ _ _ _ => Iff.rfl)
      (fun _ hwork => (of_replanningWork hwork).1.facts) h
    obtain ⟨⟨hfacts, hfound⟩, -⟩ := of_replanningWork hwork
    have hdeclined := liftServices_eq_ok.mp (outcome_ofExcept.mp hdecline).symm
    exact outcome_replan_of_repairsFrom hdeclined hfacts hfound hrepairs

/-! ### Deployments -/

section Deployments

variable {Q : Type} {A : Q → Type} {valueErrorText : ReasoningFailure → Option String} {scenarioFactory : DemoScenario}

/-- The deployments of the repository: with local agents, or with a remote runtime. -/
inductive DeployedWith (agents : (question : AgentQuestion) → AgentAnswer question → Prop) :
    {Q : Type} → {A : Q → Type} → PlanningGateway A → ((question : Q) → A question → Prop) → Prop where
  /-- `DAYMEND_AGENT_RUNTIME=local`. -/
  | localAgents (materializedPlanId : List String → String) (architecture : AgentArchitecture) :
      DeployedWith agents (strandsGateway materializedPlanId architecture) agents
  /-- `DAYMEND_AGENT_RUNTIME=agentcore`. -/
  | remoteRuntime (materializedPlanId : List String → String) (host architecture : AgentArchitecture) :
      DeployedWith agents (agentCoreGateway materializedPlanId host architecture) (Wire.remoteEnv agents)

/-- A run of a deployment is a run of the model, with recoveries that are started on the same days. -/
theorem exists_reachable_of_deployedOn {gateway : PlanningGateway A} {asked : (question : Q) → A question → Prop}
    (hdeployed : DeployedWith agents gateway asked) {days : DemoScenario → Prop}
    {cfg : Config String RecoveryCase ReasoningFailure (DeployedAnswer A) RecoveryCase}
    (h : Reachable (deployedEnv asked) (gateway.RequestOn valueErrorText scenarioFactory days) cfg) :
    ∃ threads, Reachable (env groundedAnswers) (RequestOn scenarioFactory days) ⟨cfg.saved, threads⟩ ∧
      List.Forall₂ (fun p m => ∀ c, p = .ret c → m = .ret c) cfg.threads threads := by
  cases hdeployed with
  | localAgents materializedPlanId architecture =>
    exact exists_reachable_of_plans plans_strandsGateway mayFail_groundedAnswers h
  | remoteRuntime materializedPlanId host architecture =>
    exact exists_reachable_of_plans plans_agentCoreGateway mayFail_groundedAnswers h

/-- **Every run of a deployment is a run of the model** whose runtime gives grounded answers: the same versions are
saved, and requests return the same, however many there are and however they interleave, whatever the agents answer
and whatever the network loses. -/
theorem exists_reachable_of_deployed {gateway : PlanningGateway A} {asked : (question : Q) → A question → Prop}
    (hdeployed : DeployedWith agents gateway asked)
    {cfg : Config String RecoveryCase ReasoningFailure (DeployedAnswer A) RecoveryCase}
    (h : Reachable (deployedEnv asked) (gateway.Request valueErrorText scenarioFactory) cfg) :
    ∃ threads, Reachable (env groundedAnswers) (Request scenarioFactory) ⟨cfg.saved, threads⟩ ∧
      List.Forall₂ (fun p m => ∀ c, p = .ret c → m = .ret c) cfg.threads threads := by
  obtain ⟨threads, hreach, hreturned⟩ := exists_reachable_of_deployedOn hdeployed (h.mono fun p hp => hp.on)
  exact ⟨threads, hreach.mono fun p hp => hp.request, hreturned⟩

end Deployments

/-! ### A takeover -/

/-- Agents of which the single one drafts the plan. -/
def drafting (plan : RecoveryPlan) : (question : AgentQuestion) → AgentAnswer question
  | .analyzeDisruption _ _ => .ok ()
  | .analyzeDecline _ _ => .ok ()
  | .plan _ (.draft _) => .ok (some plan)
  | .plan _ (.verifyContext _) => .ok ()
  | .plan _ (.select _) => .ok none
  | .plan _ (.propose _) => .ok (some plan)
  | .initialBrief _ _ _ => .ok none
  | .replanningDecision _ _ => .ok none
  | .replanningRetry _ _ => .ok none
  | .research _ _ _ => .error (.agentError "ModelUnavailable")

/-- A deployment in which it is `time`, `id` is fresh, every action succeeds, and the agents draft the plan. -/
def deployedAnswering (time : Instant) (id : String) (plan : RecoveryPlan) :
    (question : Query ⊕ AgentQuestion) → DeployedAnswer AgentAnswer question
  | .inl (.invoke _) => .error (.agentCoreInvocationError "no runtime")
  | .inl query => answering time id plan none query
  | .inr question => drafting plan question

/-- The single agent. -/
def singleAgent : PlanningGateway AgentAnswer := strandsGateway (fun ids => ", ".intercalate ids) .single

/-- The single agent is deployed, and it may answer anything. -/
theorem deployedWith_singleAgent : DeployedWith (fun _ _ => True) singleAgent fun _ _ => True := .localAgents _ _

/-- Turns of requests to the deployment with the single agent. -/
abbrev DeployedSchedule := List (Turn String RecoveryCase ReasoningFailure (DeployedAnswer AgentAnswer) RecoveryCase)

/-- The first sitter is to come and declines; the second takes over. -/
def deployedTakenOver : DeployedSchedule :=
  [.spawn (singleAgent.startRecovery sittersDay sittersDay nannyIll),
    .steps 0 100 (deployedAnswering 1 "case" (allDayBy "kim")),
    .spawn (singleAgent.processEvent (fun _ => none) sittersDay "case" (declineCommand "kim" (minutes 0 120))),
    .steps 1 100 (deployedAnswering 2 "event" (allDayBy "lee"))]

theorem deployedEnv_answering {time : Instant} {id : String} {plan : RecoveryPlan} :
    ∀ question, deployedEnv (fun _ _ => True) question (deployedAnswering time id plan question) := by
  rintro ((_ | _ | _ | _) | question)
  · trivial
  · trivial
  · exact ⟨[], rfl⟩
  · exact ⟨_, rfl⟩
  · trivial

theorem reachable_deployedTakenOver : Reachable (deployedEnv fun _ _ => True)
    (singleAgent.Request (fun _ => none) sittersDay) (Config.run deployedTakenOver) := by
  refine reachable_run fun t ht => ?_
  simp only [deployedTakenOver, List.mem_cons, List.not_mem_nil, or_false] at ht
  rcases ht with rfl | rfl | rfl | rfl
  · exact .start sittersDay nannyIll
  · exact deployedEnv_answering
  · exact .event "case" (declineCommand "kim" (minutes 0 120))
  · exact deployedEnv_answering

theorem exists_reachable_of_deployed_takenOver :
    (Config.run deployedTakenOver).saved.map (·.version) = [5, 4, 3, 2, 1] ∧
      ∃ threads, Reachable (env groundedAnswers) (Request sittersDay) ⟨(Config.run deployedTakenOver).saved, threads⟩ ∧
        List.Forall₂ (fun p m => ∀ c, p = .ret c → m = .ret c) (Config.run deployedTakenOver).threads threads :=
  ⟨by decide +kernel, exists_reachable_of_deployed deployedWith_singleAgent reachable_deployedTakenOver⟩

/-! ### A day with a provider -/

/-- The orchestrator wants somebody from outside. -/
def askOutside (scenario : DemoScenario) : PlanningBrief :=
  { Validation.coverTheDay with requiredCoverageWindow := scenario.requiredCoverage }

theorem nodup_firstTwo : [1, 2].Nodup := by decide

/-- The research agent prefers the first provider. -/
def firstProvider : ResearchReply :=
  { structuredOutput := some
      { researchId := "research"
        requestedWindows := []
        rankedCandidates := [Validation.place "hana" 1 Nat.one_pos, Validation.place "wim" 2 Nat.two_pos]
        recommendedCandidateId := some "hana"
        ranks_are_unique := nodup_firstTwo }
    toolsUsed := ["search_backup_care"] }

theorem nodup_leeAndAfternoon : ["care:lee:0", "afternoon"].Nodup := by decide

/-- Agents of which the planner proposes the plan, and after a decline selects the second sitter for the morning. -/
def researching (plan : RecoveryPlan) : (question : AgentQuestion) → AgentAnswer question
  | .initialBrief facts _ _ => .ok (some (askOutside facts))
  | .replanningDecision _ _ => .ok (some (.decision Validation.coverTheRest))
  | .research _ _ _ => .ok firstProvider
  | .plan _ (.select _) => .ok (some ⟨_, List.cons_ne_nil _ _, nodup_leeAndAfternoon⟩)
  | question => drafting plan question

/-- A deployment in which it is `time`, `id` is fresh, every action succeeds, and the agents research. -/
def researchAnswering (time : Instant) (id : String) (plan : RecoveryPlan) :
    (question : Query ⊕ AgentQuestion) → DeployedAnswer AgentAnswer question
  | .inl query => deployedAnswering time id plan (.inl query)
  | .inr question => researching plan question

theorem deployedEnv_researchAnswering {time : Instant} {id : String} {plan : RecoveryPlan} :
    ∀ question, deployedEnv (fun _ _ => True) question (researchAnswering time id plan question)
  | .inl query => deployedEnv_answering (.inl query)
  | .inr _ => trivial

/-- The agents that research. -/
def researchAgents : PlanningGateway AgentAnswer := strandsGateway (fun ids => ", ".intercalate ids) .multiResearch

/-- The agents that research are deployed, and they may answer anything. -/
theorem deployedWith_researchAgents : DeployedWith (fun _ _ => True) researchAgents fun _ _ => True := .localAgents _ _

/-- A day on which the sitters have time in the morning only. -/
def morningSittersDay : DemoScenario := providersDay [sitter "kim" [minutes 0 60], sitter "lee" [minutes 0 60]]

/-- A sitter comes in the morning and a provider in the afternoon. -/
def thenProvider (caregiverId : String) : RecoveryPlan :=
  { planId := "proposal"
    coverageSegments :=
      [care "morning" caregiverId .caregiver (minutes 0 60), care "afternoon" "hana" .caregiver (minutes 60 120)] }

/-- A provider is researched for the afternoon. The sitter declines the morning, and the other one takes over. -/
def deployedResearched : DeployedSchedule :=
  [.spawn (researchAgents.startRecovery morningSittersDay morningSittersDay nannyIll),
    .steps 0 100 (researchAnswering 1 "case" (thenProvider "kim")),
    .spawn (researchAgents.processEvent (fun _ => none) morningSittersDay "case" (declineCommand "kim" (minutes 0 60))),
    .steps 1 100 (researchAnswering 2 "event" (thenProvider "lee"))]

theorem reachable_deployedResearched : Reachable (deployedEnv fun _ _ => True)
    (researchAgents.Request (fun _ => none) morningSittersDay) (Config.run deployedResearched) := by
  refine reachable_run fun t ht => ?_
  simp only [deployedResearched, List.mem_cons, List.not_mem_nil, or_false] at ht
  rcases ht with rfl | rfl | rfl | rfl
  · exact .start morningSittersDay nannyIll
  · exact deployedEnv_researchAnswering
  · exact .event "case" (declineCommand "kim" (minutes 0 60))
  · exact deployedEnv_researchAnswering

end DayMend.Runs
