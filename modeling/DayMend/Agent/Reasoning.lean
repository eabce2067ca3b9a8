import DayMend.Agent.PlanningSessions
import DayMend.Agent.ResearchPlanability
import DayMend.Base.Interpret

/-!
# Sessions of several agents

What every agent of the application is asked (`AgentQuestion`), with the facts that its
tools show it, and the sessions of the orchestrator (`createInitialBrief`,
`createReplanBrief`), of the research agent of `agent/backup_care_researcher.py`
(`runBackupCareResearch`) and of the planner (`Session.on`). Any agent may fail, as the
service behind it may. Model calls and tools used are not counted; that the research
agent uses its one tool once is checked.
-/

namespace DayMend.Agent

open DayMend.Base DayMend.Models DayMend.Fixtures DayMend.Services

/-- `AgentArchitecture` of `agent/config.py`. -/
inductive AgentArchitecture where
  | single
  | multi
  | multiResearch
  deriving DecidableEq

/-- The architecture's name. -/
def AgentArchitecture.value : AgentArchitecture → String
  | .single => "single"
  | .multi => "multi"
  | .multiResearch => "multi_research"

/-- The ways in which a session can fail. -/
inductive ReasoningFailure where
  /-- In the application's own steps. -/
  | planning (failure : PlanningFailure)
  /-- `MaxTokensReachedException`. -/
  | maxTokensReached
  /-- Another exception of the service behind an agent. -/
  | agentError (errorType : String)
  deriving DecidableEq

/-- What the orchestrator is told about a decline. -/
structure ReplanningScope where
  recoveryCaseId : String
  currentActivePlanId : String
  triggeringEventId : String
  triggeringEventType : RecoveryEventType
  excludedCaregiverIds : List String
  invalidatedAssumptionIds : List String
  affectedWindows : List (String × CoverageWindow)
  affectedSegmentIds : List String
  impactReasonCodes : List String
  preservedSegmentIds : List String

/-- What the orchestrator is told in its second try. -/
structure ReplanningRetryScope where
  recoveryCaseId : String
  triggeringEventId : String
  excludedCaregiverIds : List String
  affectedWindowIds : List String
  affectedSegmentIds : List String
  preservedSegmentIds : List String

/-- What an agent is asked, and the facts that its tools show: `use_scenario(facts)`. -/
inductive AgentQuestion where
  /-- The single agent is to look at a disruption. -/
  | analyzeDisruption (facts : DemoScenario) (disruption : String)
  /-- The single agent is to look at a decline. -/
  | analyzeDecline (facts : DemoScenario) (outcome : InvalidationOutcome)
  /-- The single agent or the planner is asked for a plan, or to verify what it is told. -/
  | plan (facts : DemoScenario) (call : AgentCall)
  /-- The orchestrator is asked for a brief. -/
  | initialBrief (facts : DemoScenario) (disruption : String) (recoveryNeed : Option RecoveryNeed)
  /-- The orchestrator is asked how to replan. -/
  | replanningDecision (facts : DemoScenario) (scope : ReplanningScope)
  /-- It is asked again, more briefly. -/
  | replanningRetry (facts : DemoScenario) (scope : ReplanningRetryScope)
  /-- The research agent is asked to rank the providers for the windows. -/
  | research (facts : DemoScenario) (requestedWindows : List CoverageWindow)
      (alreadyConsideredCaregiverIds : List String)

/-- What the research agent answers, and the tools that it has called. -/
structure ResearchReply where
  structuredOutput : Option BackupCareResearchResult
  toolsUsed : List String

/-- What an agent answers. -/
def AgentReply : AgentQuestion → Type
  | .analyzeDisruption _ _ => Unit
  | .analyzeDecline _ _ => Unit
  | .plan _ call => AgentOutput call
  | .initialBrief _ _ _ => Option PlanningBrief
  | .replanningDecision _ _ => Option ReplanningOutput
  | .replanningRetry _ _ => Option ReplanningOutput
  | .research _ _ _ => ResearchReply

/-- What comes of asking: a reply, or a failure. -/
def AgentAnswer (question : AgentQuestion) : Type := Except ReasoningFailure (AgentReply question)

/-- A program of the agents' sessions. -/
abbrev Reasoning (α : Type) := Prog String RecoveryCase ReasoningFailure AgentAnswer α

/-- Ask an agent. -/
def askAgent (question : AgentQuestion) : Reasoning (AgentReply question) :=
  .ask question fun answer => Prog.ofExcept answer

/-- A computation of planning within a session. -/
def liftPlanning {α : Type} (x : Except PlanningFailure α) : Except ReasoningFailure α := x.mapError .planning

/-- A computation of the services within a session. -/
def liftServices {α : Type} (x : Except Failure α) : Except ReasoningFailure α := liftPlanning (liftFailure x)

theorem liftPlanning_eq_ok {α : Type} {x : Except PlanningFailure α} {a : α} : liftPlanning x = .ok a ↔ x = .ok a := by
  cases x <;> simp [liftPlanning, Except.mapError]

theorem liftServices_eq_ok {α : Type} {x : Except Failure α} {a : α} : liftServices x = .ok a ↔ x = .ok a :=
  liftPlanning_eq_ok.trans liftFailure_eq_ok

/-- The single agent or the planner is asked, whose tools show these facts. -/
def askForPlan (facts : DemoScenario) (call : AgentCall) : Reasoning (AgentOutput call) := askAgent (.plan facts call)

/-- A session of the single agent or the planner. -/
def Session.on {α : Type} (facts : DemoScenario) (session : Session α) : Reasoning α :=
  session.interpret (askForPlan facts) .planning

/-! ### The orchestrator -/

/-- `create_initial_planning_brief`. -/
def createInitialBrief (disruption : String) (scenario : DemoScenario) (recoveryNeed : Option RecoveryNeed) :
    Reasoning PlanningBrief := do
  let output ← askAgent (.initialBrief scenario disruption recoveryNeed)
  Prog.ofExcept (liftPlanning (createInitialPlanningBrief output scenario recoveryNeed))

/-- `context` of `create_replanning_brief`. -/
def replanningScope (outcome : InvalidationOutcome) : Except PlanningFailure ReplanningScope := do
  let some event := outcome.recoveryCase.events.getLast?
    | .error .indexError
  let some activePlan := outcome.recoveryCase.activeRecoveryPlan
    | .error (.failed .attributeError)
  return {
    recoveryCaseId := outcome.recoveryCase.caseId
    currentActivePlanId := activePlan.planId
    triggeringEventId := event.eventId
    triggeringEventType := event.eventType
    excludedCaregiverIds := excludedCaregiverIds event
    invalidatedAssumptionIds := outcome.invalidatedAssumptions.map (·.assumptionId)
    affectedWindows := (affectedWindowIds outcome).zip outcome.uncoveredWindows
    affectedSegmentIds := outcome.impactedSegments.map (·.segmentId)
    impactReasonCodes := outcome.impactReasons.map (·.reasonCode)
    preservedSegmentIds := outcome.preservedSegments.map (·.segmentId) }

/-- `retry_context`. -/
def ReplanningScope.retry (scope : ReplanningScope) : ReplanningRetryScope :=
  { recoveryCaseId := scope.recoveryCaseId
    triggeringEventId := scope.triggeringEventId
    excludedCaregiverIds := scope.excludedCaregiverIds
    affectedWindowIds := scope.affectedWindows.map (·.1)
    affectedSegmentIds := scope.affectedSegmentIds
    preservedSegmentIds := scope.preservedSegmentIds }

/-- The orchestrator's decision: when it runs out of tokens, it is asked once more. -/
def decideReplanning (facts : DemoScenario) (scope : ReplanningScope) : Reasoning (Option ReplanningOutput) :=
  .ask (.replanningDecision facts scope) fun
    | .ok output => .ret output
    | .error .maxTokensReached => askAgent (.replanningRetry facts scope.retry)
    | .error failure => .raise failure

/-- `create_replanning_brief`. -/
def createReplanBrief (outcome : InvalidationOutcome) : Reasoning PlanningBrief := do
  let scope ← Prog.ofExcept (liftPlanning (replanningScope outcome))
  let output ← decideReplanning outcome.updatedScenario scope
  Prog.ofExcept (liftPlanning (createReplanningBrief output outcome))

/-! ### The research agent -/

/-- `_research_id`. -/
def researchId (windows : List CoverageWindow) : String :=
  "backup-care-research:" ++
    ":".intercalate (windows.map fun window => s!"{isoformat window.start}-{isoformat window.end_}")

/-- A recommendation is grounded when it ranks every eligible provider once and recommends one of them. -/
def groundResearch (reply : ResearchReply) (recoveryNeed : RecoveryNeed) (grounding : BackupCareSearchResult) :
    Except PlanningFailure BackupCareResearchRun := do
  let eligibleIds := grounding.eligibleCandidates.map (·.candidateId)
  let some proposed := reply.structuredOutput
    | .error (.runtimeError "Strands Backup Care Research Agent returned no structured result")
  raiseIf (reply.toolsUsed ≠ ["search_backup_care"])
    (.runtimeError "Backup Care Research Agent must call search_backup_care exactly once")
  let rankedIds := proposed.rankedCandidates.map (·.candidateId)
  raiseIf (¬ ((∀ id ∈ rankedIds, id ∈ eligibleIds) ∧ (∀ id ∈ eligibleIds, id ∈ rankedIds) ∧
      rankedIds.length = eligibleIds.length))
    (.runtimeError "Backup Care Research Agent ranking was not grounded to eligible IDs")
  -- the test whether the recommended one is eligible, and the look-up
  let some recommended := proposed.recommendedCandidateId.bind (eligibleById grounding).get?
    | .error (.runtimeError "Backup Care Research Agent recommended an ineligible candidate ID")
  return {
    result := { proposed with
      researchId := researchId recoveryNeed.requestedWindows
      requestedWindows := recoveryNeed.requestedWindows
      consideredCandidateIds := grounding.consideredCandidates.map (·.candidate.candidateId)
      eligibleCandidateIds := eligibleIds
      unresolvedWindows := [] }
    searchResult := grounding
    recommendedCandidate := recommended }

/-- `run_backup_care_research`. -/
def runBackupCareResearch (scenario : DemoScenario) (recoveryNeed : RecoveryNeed) :
    Reasoning BackupCareResearchRun := do
  Prog.ofExcept (liftServices (raiseIf (recoveryNeed.researchNeeded = false ∨ recoveryNeed.requestedWindows = [])
    (.valueError "backup-care research requires an unresolved known-options window")))
  let grounding := searchBackupCareCandidates scenario recoveryNeed.requestedWindows
  Prog.ofExcept (liftPlanning (raiseIf (grounding.eligibleCandidates.length < 2)
    (.runtimeError "backup-care research requires multiple eligible candidates to compare")))
  let reply ← askAgent
    (.research scenario recoveryNeed.requestedWindows recoveryNeed.alreadyConsideredCaregiverIds)
  Prog.ofExcept (liftPlanning (groundResearch reply recoveryNeed grounding))

/-! ### What the sessions come to -/

variable {agents : (question : AgentQuestion) → AgentAnswer question → Prop}

theorem outcome_liftPlanning {α : Type} {x : Except PlanningFailure α} {a : α} :
    (Prog.ofExcept (liftPlanning x) : Reasoning α).Outcome agents (.ok a) ↔ x = .ok a := by
  rw [outcome_ofExcept, eq_comm, liftPlanning_eq_ok]

theorem outcome_liftServices {α : Type} {x : Except Failure α} {a : α} :
    (Prog.ofExcept (liftServices x) : Reasoning α).Outcome agents (.ok a) ↔ x = .ok a := by
  rw [outcome_ofExcept, eq_comm, liftServices_eq_ok]

/-- A brief for replanning is what the application makes of some answer. -/
theorem of_createReplanBrief {outcome : InvalidationOutcome} {brief : PlanningBrief}
    (h : (createReplanBrief outcome).Outcome agents (.ok brief)) :
    ∃ output, createReplanningBrief output outcome = .ok brief := by
  obtain ⟨_, -, h⟩ := outcome_bind_ok.mp h
  obtain ⟨output, -, h⟩ := outcome_bind_ok.mp h
  exact ⟨output, outcome_liftPlanning.mp h⟩

/-- An initial brief recommends nobody yet; without a need to look at, it asks for research as the orchestrator
does. -/
theorem createInitialPlanningBrief_research {output : Option PlanningBrief} {scenario : DemoScenario}
    {need : Option RecoveryNeed} {brief : PlanningBrief}
    (h : createInitialPlanningBrief output scenario need = .ok brief) :
    brief.recommendedBackupCareCandidateId = none ∧
      (need = none → output.map (·.backupResearchNeeded) = some brief.backupResearchNeeded) := by
  unfold createInitialPlanningBrief invokeOrchestrator at h
  cases output with
  | none => cases h
  | some output =>
    dsimp only at h
    split at h
    · cases h
    cases need with
    | none =>
      obtain rfl := Except.ok.inj h
      exact ⟨rfl, fun _ => rfl⟩
    | some need =>
      dsimp only at h
      split at h
      · cases h
      split at h
      · obtain rfl := Except.ok.inj h
        exact ⟨rfl, by rintro ⟨⟩⟩
      · obtain rfl := Except.ok.inj h
        exact ⟨rfl, by rintro ⟨⟩⟩

/-- An initial brief is what the application makes of an answer of the orchestrator. -/
theorem outcome_createInitialBrief {disruption : String} {scenario : DemoScenario} {need : Option RecoveryNeed}
    {brief : PlanningBrief} :
    (createInitialBrief disruption scenario need).Outcome agents (.ok brief) ↔
      ∃ output : Option PlanningBrief, agents (.initialBrief scenario disruption need) (.ok output) ∧
        createInitialPlanningBrief output scenario need = .ok brief := by
  constructor
  · intro h
    obtain ⟨output, ⟨answer, hanswer, houtput⟩, h⟩ := outcome_bind_ok.mp h
    obtain rfl := outcome_ofExcept.mp houtput
    exact ⟨output, hanswer, outcome_liftPlanning.mp h⟩
  · rintro ⟨output, hanswer, h⟩
    exact outcome_bind_ok.mpr ⟨output, ⟨.ok output, hanswer, rfl⟩, outcome_liftPlanning.mpr h⟩

/-- **Research is asked for when it is needed**, and ranks what the search finds. -/
theorem of_runBackupCareResearch {scenario : DemoScenario} {need : RecoveryNeed} {run : BackupCareResearchRun}
    (h : (runBackupCareResearch scenario need).Outcome agents (.ok run)) :
    need.researchNeeded = true ∧ run.searchResult = searchBackupCareCandidates scenario need.requestedWindows := by
  obtain ⟨_, hneeded, h⟩ := outcome_bind_ok.mp h
  obtain ⟨_, -, h⟩ := outcome_bind_ok.mp h
  obtain ⟨reply, -, h⟩ := outcome_bind_ok.mp h
  have hneed := raiseIf_eq_ok.mp (outcome_liftServices.mp hneeded)
  refine ⟨by simpa using fun hnot => hneed (Or.inl hnot), ?_⟩
  have hgrounded := outcome_liftPlanning.mp h
  unfold groundResearch at hgrounded
  dsimp only at hgrounded
  split at hgrounded
  · obtain ⟨_, -, hgrounded⟩ := bind_eq_ok.mp hgrounded
    obtain ⟨_, -, hgrounded⟩ := bind_eq_ok.mp hgrounded
    split at hgrounded
    · obtain rfl := Except.ok.inj hgrounded
      rfl
    · cases hgrounded
  · cases hgrounded

/-! ### The sessions only ask -/

theorem onlyAsks_askAgent (question : AgentQuestion) : (askAgent question).OnlyAsks :=
  fun answer => .ofExcept answer

theorem onlyAsks_createInitialBrief {disruption : String} {scenario : DemoScenario} {need : Option RecoveryNeed} :
    (createInitialBrief disruption scenario need).OnlyAsks :=
  (onlyAsks_askAgent _).bind fun _ => .ofExcept _

theorem onlyAsks_createReplanBrief {outcome : InvalidationOutcome} : (createReplanBrief outcome).OnlyAsks := by
  refine (Prog.OnlyAsks.ofExcept _).bind fun scope => Prog.OnlyAsks.bind ?_ fun _ => .ofExcept _
  rintro (failure | output)
  · cases failure with
    | planning failure => trivial
    | maxTokensReached => exact onlyAsks_askAgent _
    | agentError errorType => trivial
  · trivial

theorem onlyAsks_runBackupCareResearch {scenario : DemoScenario} {need : RecoveryNeed} :
    (runBackupCareResearch scenario need).OnlyAsks :=
  (Prog.OnlyAsks.ofExcept _).bind fun _ => (Prog.OnlyAsks.ofExcept _).bind fun _ =>
    (onlyAsks_askAgent _).bind fun _ => .ofExcept _

theorem onlyAsks_on {α : Type} {facts : DemoScenario} {session : Session α} (h : session.OnlyAsks) :
    (session.on facts).OnlyAsks :=
  h.interpret fun call => onlyAsks_askAgent (.plan facts call)

theorem onlyAsks_proposeConstraintPlan {materializedPlanId : List String → String} {brief : PlanningBrief}
    {scenario : DemoScenario} {operation : PlannerOperation} {previous : Option RecoveryPlan}
    {feedback : List PlanValidationIssue} :
    (proposeConstraintPlan materializedPlanId brief scenario operation previous feedback).OnlyAsks := by
  refine (Prog.OnlyAsks.ofExcept _).bind fun input => (Prog.OnlyAsks.ofExcept _).bind fun selects => ?_
  refine Prog.OnlyAsks.bind (.ite (fun _ => trivial) trivial) fun _ => .ite ?_ ?_
  · rintro (_ | selection)
    · trivial
    · exact .ofExcept _
  · rintro (_ | output)
    · trivial
    · trivial

theorem onlyAsks_planLoop {materializedPlanId : List String → String} {brief : PlanningBrief}
    {scenario : DemoScenario} {remaining : ℕ} {earlier : List PlanningAttempt} {operation : PlannerOperation}
    {previous : Option RecoveryPlan} {feedback : List PlanValidationIssue} :
    (planLoop materializedPlanId brief scenario remaining earlier operation previous feedback).OnlyAsks := by
  induction remaining generalizing earlier operation previous feedback with
  | zero => exact onlyAsks_proposeConstraintPlan.bind fun _ => .ite trivial trivial
  | succ remaining ih => exact onlyAsks_proposeConstraintPlan.bind fun _ => .ite trivial ih

theorem onlyAsks_draftLoop {scenario : DemoScenario} {repairScope : String} {preserved : List RecoveryPlanSegment}
    {remaining : ℕ} {earlier : List PlanningAttempt} {prompt : ProposalPrompt} :
    (draftLoop scenario repairScope preserved remaining earlier prompt).OnlyAsks := by
  induction remaining generalizing earlier prompt with
  | zero =>
    rw [draftLoop]
    rintro (_ | output)
    · trivial
    · exact .ite trivial trivial
  | succ remaining ih =>
    rw [draftLoop]
    rintro (_ | output)
    · trivial
    · exact .ite trivial ih

end DayMend.Agent
