import DayMend.Agent.Reasoning

/-!
# Planning with local agents

`StrandsRecoveryPlanningGateway` of `application/recovery_service.py`: the agents are asked
by the application itself. The single agent plans alone (`agent/recovery_agent.py`,
`agent/replanning.py`); in the other architectures the orchestrator scopes the work, a
provider is researched where the known options do not suffice, and the planner proposes
(`agent/multi_agent.py`, `agent/research_multi_agent.py`).
-/

namespace DayMend.Agent

open DayMend.Base DayMend.Models DayMend.Fixtures DayMend.Services

/-- The brief that names a researched provider. -/
def PlanningBrief.recommending (brief : PlanningBrief) (result : BackupCareResearchResult)
    (candidate : BackupCareCandidate) : PlanningBrief :=
  { brief with
    researchedCandidateIds := result.eligibleCandidateIds
    recommendedBackupCareCandidateId := some candidate.candidateId }

/-- The directive that the application adds to a local planner's brief. -/
def useRecommendedDirective : String :=
  "Use the grounded recommended backup-care candidate where needed for the " ++
    "unresolved known-options window; final feasibility remains deterministic."

/-- `[*brief.planner_directives[:7], "Use the grounded recommended backup-care candidate …"]`. -/
def PlanningBrief.directed (brief : PlanningBrief) : PlanningBrief :=
  { brief with
    plannerDirectives := brief.plannerDirectives.take 7 ++ [useRecommendedDirective]
    directives_length := by
      rw [List.length_append, List.length_take, List.length_singleton]
      omega }

/-- The brief for replanning that names a researched provider: the application says itself what is not covered. -/
def PlanningBrief.researched (brief : PlanningBrief) (need : RecoveryNeed) (result : BackupCareResearchResult)
    (candidate : BackupCareCandidate) : PlanningBrief :=
  { brief.recommending result candidate with
    knownOptionsInsufficient := true
    unresolvedKnownOptionWindows := need.requestedWindows
    backupResearchNeeded := true }

/-- What the planner is to work with: the brief, the facts, and the provider who has been researched. -/
structure PlanningWork where
  brief : PlanningBrief
  scenario : DemoScenario
  researchResult : Option BackupCareResearchResult := none
  researchedCandidate : Option BackupCareCandidate := none

/-- Research, and the choice of a provider with whom the day can be completed; `update` puts the choice in the
brief. -/
def researchWork (scenario : DemoScenario) (need : RecoveryNeed) (brief : PlanningBrief)
    (update : BackupCareResearchResult → BackupCareCandidate → PlanningBrief) : Reasoning PlanningWork := do
  let run ← runBackupCareResearch scenario need
  let selection ← Prog.ofExcept (liftPlanning (selectPlanableResearchCandidate run scenario brief))
  return {
    brief := update run.result selection.candidate
    scenario := selection.scenario
    researchResult := some run.result
    researchedCandidate := some selection.candidate }

/-- The need that a decline leaves. -/
def replanningNeed (outcome : InvalidationOutcome) : Except Failure RecoveryNeed :=
  assessKnownOptionRecoveryNeed outcome.updatedScenario (some outcome.uncoveredWindows)
    (some outcome.preservedSegments)

/-- `need.research_needed` decides whether a provider is researched. -/
def researchIfNeeded (outcome : InvalidationOutcome) (brief : PlanningBrief) : Reasoning PlanningWork := do
  let need ← Prog.ofExcept (liftServices (replanningNeed outcome))
  if need.researchNeeded then researchWork outcome.updatedScenario need brief (brief.researched need)
  else return { brief, scenario := outcome.updatedScenario }

/-- The work that a decline leaves to the planner. -/
def replanningWork (researches : Bool) (outcome : InvalidationOutcome) : Reasoning PlanningWork := do
  let brief ← createReplanBrief outcome
  if researches then researchIfNeeded outcome brief
  else return { brief, scenario := outcome.updatedScenario }

/-! ### What the work is -/

/-- A provider has been found by the search that the need asks for. -/
def FoundFor (scenario : DemoScenario) (need : Except Failure RecoveryNeed) (candidate : BackupCareCandidate) : Prop :=
  ∃ recoveryNeed, need = .ok recoveryNeed ∧ recoveryNeed.researchNeeded = true ∧
    candidate ∈ (searchBackupCareCandidates scenario recoveryNeed.requestedWindows).eligibleCandidates

/-- The work belongs to the day: its facts are those of the day with the provider who has been researched, if one
has, and that one has been found. -/
structure PlanningWork.On (work : PlanningWork) (scenario : DemoScenario) (need : Except Failure RecoveryNeed) :
    Prop where
  facts : validationScenario scenario work.researchedCandidate = .ok work.scenario
  found : ∀ candidate, work.researchedCandidate = some candidate → FoundFor scenario need candidate

-- a program need not be evaluated to see its shape
attribute [local irreducible] assessKnownOptionRecoveryNeed

variable {agents : (question : AgentQuestion) → AgentAnswer question → Prop} {scenario : DemoScenario}
  {need : RecoveryNeed} {brief : PlanningBrief}
  {update : BackupCareResearchResult → BackupCareCandidate → PlanningBrief} {work : PlanningWork}

/-- Work without research is work with the facts as they are. -/
theorem PlanningWork.On.plain {need : Except Failure RecoveryNeed} :
    PlanningWork.On { brief, scenario } scenario need :=
  ⟨rfl, by rintro _ ⟨⟩⟩

/-- **What research comes to.** -/
theorem of_researchWork (h : (researchWork scenario need brief update).Outcome agents (.ok work)) :
    work.On scenario (.ok need) ∧ ∃ result candidate, work.brief = update result candidate ∧
      work.researchedCandidate = some candidate := by
  obtain ⟨run, hrun, h⟩ := outcome_bind_ok.mp h
  obtain ⟨selection, hselection, h⟩ := outcome_bind_ok.mp h
  obtain rfl := Except.ok.inj h
  obtain ⟨hneeded, hsearch⟩ := of_runBackupCareResearch hrun
  obtain ⟨hfound, hadded⟩ := of_selectPlanableResearchCandidate (outcome_liftPlanning.mp hselection)
  refine ⟨⟨hadded, ?_⟩, _, _, rfl, rfl⟩
  rintro candidate hcandidate
  obtain rfl := Option.some.inj hcandidate
  exact ⟨need, rfl, hneeded, hsearch ▸ hfound⟩

/-- What is put in the brief does not change what else comes of research. -/
theorem outcome_researchWork_update (g : PlanningBrief → PlanningBrief) :
    (researchWork scenario need brief fun result candidate => g (update result candidate)).Outcome agents (.ok work) ↔
      ∃ before, (researchWork scenario need brief update).Outcome agents (.ok before) ∧
        work = { before with brief := g before.brief } := by
  constructor
  · intro h
    obtain ⟨run, hrun, h⟩ := outcome_bind_ok.mp h
    obtain ⟨selection, hselection, h⟩ := outcome_bind_ok.mp h
    exact ⟨_, outcome_bind_ok.mpr ⟨run, hrun, outcome_bind_ok.mpr ⟨selection, hselection, rfl⟩⟩, Except.ok.inj h⟩
  · rintro ⟨before, h, rfl⟩
    obtain ⟨run, hrun, h⟩ := outcome_bind_ok.mp h
    obtain ⟨selection, hselection, h⟩ := outcome_bind_ok.mp h
    obtain rfl := Except.ok.inj h
    exact outcome_bind_ok.mpr ⟨run, hrun, outcome_bind_ok.mpr ⟨selection, hselection, rfl⟩⟩

theorem of_researchIfNeeded {outcome : InvalidationOutcome}
    (h : (researchIfNeeded outcome brief).Outcome agents (.ok work)) :
    work.On outcome.updatedScenario (replanningNeed outcome) ∧ work.brief.planningMode = brief.planningMode ∧
      work.brief.preservedSegments = brief.preservedSegments := by
  obtain ⟨need, hneed, h⟩ := outcome_bind_ok.mp h
  rw [outcome_liftServices.mp hneed]
  split at h
  · obtain ⟨hon, result, candidate, heq, -⟩ := of_researchWork h
    rw [heq]
    exact ⟨hon, rfl, rfl⟩
  · obtain rfl := Except.ok.inj h
    exact ⟨.plain, rfl, rfl⟩

/-- **The work that a decline leaves** keeps what the decline has left as it is. -/
theorem of_replanningWork {researches : Bool} {outcome : InvalidationOutcome}
    (h : (replanningWork researches outcome).Outcome agents (.ok work)) :
    work.On outcome.updatedScenario (replanningNeed outcome) ∧
      work.brief.planningMode = .worldStateReplan ∧ work.brief.preservedSegments = outcome.preservedSegments := by
  obtain ⟨brief, hbrief, h⟩ := outcome_bind_ok.mp h
  obtain ⟨output, hcreated⟩ := of_createReplanBrief hbrief
  obtain ⟨hmode, -, hpreserved⟩ := of_createReplanningBrief hcreated
  split at h
  · obtain ⟨hon, hmode', hpreserved'⟩ := of_researchIfNeeded h
    exact ⟨hon, hmode'.trans hmode, hpreserved'.trans hpreserved⟩
  · obtain rfl := Except.ok.inj h
    exact ⟨.plain, hmode, hpreserved⟩

theorem onlyAsks_researchWork : (researchWork scenario need brief update).OnlyAsks :=
  onlyAsks_runBackupCareResearch.bind fun _ => (Prog.OnlyAsks.ofExcept _).bind fun _ => trivial

theorem onlyAsks_researchIfNeeded {outcome : InvalidationOutcome} : (researchIfNeeded outcome brief).OnlyAsks :=
  (Prog.OnlyAsks.ofExcept _).bind fun _ => .ite onlyAsks_researchWork trivial

theorem onlyAsks_replanningWork {researches : Bool} {outcome : InvalidationOutcome} :
    (replanningWork researches outcome).OnlyAsks :=
  onlyAsks_createReplanBrief.bind fun _ => .ite onlyAsks_researchIfNeeded trivial

/-! ### The gateway -/

section Gateway

variable (materializedPlanId : List String → String)

/-- The planner's session about some work. -/
def planWork (work : PlanningWork) : Reasoning InitialPlanningResult :=
  (runConstraintPlanning materializedPlanId work.brief work.scenario maxPlanAttempts).on work.scenario

/-- `run_multi_agent_initial_planning`. -/
def runMultiAgentInitialPlanning (disruption : String) (scenario : DemoScenario) : Reasoning InitialPlanningResult := do
  let brief ← createInitialBrief disruption scenario none
  planWork materializedPlanId { brief, scenario }

/-- The work for an initial plan, when a provider is researched if the known options do not suffice. -/
def researchedInitialWork (disruption : String) (scenario : DemoScenario) : Reasoning PlanningWork := do
  let need ← Prog.ofExcept (liftServices (assessKnownOptionRecoveryNeed scenario none none))
  let brief ← createInitialBrief disruption scenario (some need)
  if brief.backupResearchNeeded then
    researchWork scenario need brief fun result candidate => (brief.recommending result candidate).directed
  else return { brief, scenario }

/-- `run_research_multi_agent_initial_planning`. -/
def runResearchMultiAgentInitialPlanning (disruption : String) (scenario : DemoScenario) :
    Reasoning InitialPlanningResult := do
  let work ← researchedInitialWork disruption scenario
  let planning ← planWork materializedPlanId work
  return { planning with researchedCandidate := work.researchedCandidate }

/-- `run_initial_planning_session`. -/
def runInitialPlanningSession (disruption : String) (scenario : DemoScenario) : Reasoning InitialPlanningResult := do
  let _ ← askAgent (.analyzeDisruption scenario disruption)
  let attempts ← (runBoundedPlanAttempts scenario
    ("Using the authoritative tool results and completed analysis already in this " ++
      "conversation, return one RecoveryPlan now. Recheck exact coverage, caregiver " ++
      "availability, parent calendars, handoffs, identities, pricing, and autonomy " ++
      "before serializing it.") maxPlanAttempts "initial-planning" []).on scenario
  return buildPlanningResult attempts.last.validation.valid attempts

/-- `StrandsRecoveryPlanningGateway.plan_initial`. -/
def strandsPlanInitial (architecture : AgentArchitecture) (disruption : String) (scenario : DemoScenario) :
    Reasoning InitialPlanningResult :=
  match architecture with
  | .multiResearch => runResearchMultiAgentInitialPlanning materializedPlanId disruption scenario
  | .multi => runMultiAgentInitialPlanning materializedPlanId disruption scenario
  | .single => runInitialPlanningSession disruption scenario

/-- `run_multi_agent_replanning`. -/
def runMultiAgentReplanning (architecture : AgentArchitecture) (recoveryCase : RecoveryCase) (event : RecoveryEvent)
    (scenario : DemoScenario) : Reasoning ReplanningResult := do
  let outcome ← Prog.ofExcept (liftServices (applyCaregiverDecline recoveryCase event scenario))
  let work ← replanningWork (architecture = .multiResearch) outcome
  let planning ← planWork materializedPlanId work
  return buildReplanningResult outcome event planning.attempts work.researchedCandidate

/-- `process_external_event`. -/
def processExternalEvent (recoveryCase : RecoveryCase) (event : RecoveryEvent) (scenario : DemoScenario) :
    Reasoning ReplanningResult := do
  let outcome ← Prog.ofExcept (liftServices (applyCaregiverDecline recoveryCase event scenario))
  let _ ← askAgent (.analyzeDecline outcome.updatedScenario outcome)
  let attempts ← (runBoundedPlanAttempts outcome.updatedScenario
    ("Using the refreshed authoritative tools and updated recovery context, return a " ++
      "complete Plan B RecoveryPlan. It must cover the full required window, must not " ++
      "assign a declined caregiver during an unavailable window, and should preserve " ++
      "still-valid Plan A segments when feasible. Keep validation_state NOT_VALIDATED.")
    maxPlanAttempts "Plan-B draft" outcome.preservedSegments).on outcome.updatedScenario
  return buildReplanningResult outcome event attempts none

/-- `StrandsRecoveryPlanningGateway.replan`. -/
def strandsReplan (architecture : AgentArchitecture) (recoveryCase : RecoveryCase) (event : RecoveryEvent)
    (scenario : DemoScenario) : Reasoning ReplanningResult :=
  match architecture with
  | .single => processExternalEvent recoveryCase event scenario
  | _ => runMultiAgentReplanning materializedPlanId architecture recoveryCase event scenario

theorem strandsReplan_eq {architecture : AgentArchitecture} {recoveryCase : RecoveryCase} {event : RecoveryEvent}
    (harchitecture : architecture ≠ .single) :
    strandsReplan materializedPlanId architecture recoveryCase event scenario =
      runMultiAgentReplanning materializedPlanId architecture recoveryCase event scenario := by
  cases architecture with
  | single => exact absurd rfl harchitecture
  | multi => rfl
  | multiResearch => rfl

end Gateway

/-! ### Sessions neither read nor save -/

section OnlyAsks

variable {materializedPlanId : List String → String} {architecture : AgentArchitecture} {disruption : String}
  {facts scenario : DemoScenario} {preserved : List RecoveryPlanSegment} {recoveryCase : RecoveryCase}
  {event : RecoveryEvent}

theorem onlyAsks_planWork {work : PlanningWork} : (planWork materializedPlanId work).OnlyAsks :=
  onlyAsks_on ((Prog.OnlyAsks.ofExcept _).bind fun _ => onlyAsks_planLoop.bind fun _ => trivial)

theorem onlyAsks_runBoundedPlanAttempts {prompt repairScope : String} {maxAttempts : ℕ} :
    ((runBoundedPlanAttempts facts prompt maxAttempts repairScope preserved).on facts).OnlyAsks :=
  onlyAsks_on ((Prog.OnlyAsks.ofExcept _).bind fun _ => onlyAsks_draftLoop)

theorem onlyAsks_strandsPlanInitial :
    (strandsPlanInitial materializedPlanId architecture disruption scenario).OnlyAsks := by
  cases architecture with
  | single => exact (onlyAsks_askAgent _).bind fun _ => onlyAsks_runBoundedPlanAttempts.bind fun _ => trivial
  | multi => exact onlyAsks_createInitialBrief.bind fun _ => onlyAsks_planWork
  | multiResearch =>
    refine Prog.OnlyAsks.bind ?_ fun work => onlyAsks_planWork.bind fun _ => trivial
    exact (Prog.OnlyAsks.ofExcept _).bind fun need => onlyAsks_createInitialBrief.bind fun brief =>
      .ite onlyAsks_researchWork trivial

theorem onlyAsks_strandsReplan :
    (strandsReplan materializedPlanId architecture recoveryCase event scenario).OnlyAsks := by
  have hmulti : (runMultiAgentReplanning materializedPlanId architecture recoveryCase event scenario).OnlyAsks :=
    (Prog.OnlyAsks.ofExcept _).bind fun _ => onlyAsks_replanningWork.bind fun _ =>
      onlyAsks_planWork.bind fun _ => trivial
  cases architecture with
  | single =>
    exact (Prog.OnlyAsks.ofExcept _).bind fun _ => (onlyAsks_askAgent _).bind fun _ =>
      onlyAsks_runBoundedPlanAttempts.bind fun _ => trivial
  | multi => exact hmulti
  | multiResearch => exact hmulti

end OnlyAsks

end DayMend.Agent
