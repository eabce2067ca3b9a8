import DayMend.Services.BackupCare
import DayMend.Services.PlanInvalidation

/-!
# Planning briefs

`agent/recovery_orchestrator.py`: what the orchestrating model's answer becomes
(`createInitialPlanningBrief`, `createReplanningBrief`). The model decides on the
objective, the directives and the categories; everything else in a brief is put
there by the application. The answers are parameters: of the retry, where the
first call ran out of tokens. Counts of model calls and tools are left out.
-/

namespace DayMend.Agent

open DayMend.Base DayMend.Models DayMend.Fixtures DayMend.Services

/-- The situations that ask for different planning. -/
inductive PlanningMode where
  | initial
  | worldStateReplan
  deriving DecidableEq

/-- The facts that a planner may need. -/
inductive ConstraintCategory where
  | coverage
  | parentCalendars
  | caregiverAvailability
  | familyPreferences
  | familyPolicy
  | planPreservation
  deriving DecidableEq

/-- What the orchestrator hands to the planner. -/
structure PlanningBrief where
  recoveryCaseId : Option String := none
  planningMode : PlanningMode
  planningRequired : Bool
  objective : String
  triggeringEvent : Option RecoveryEvent := none
  currentActivePlanId : Option String := none
  currentRecoveryStatus : Option RecoveryStatus := none
  invalidatedAssumptionIds : List String := []
  requiredCoverageWindow : CoverageWindow
  affectedWindows : List CoverageWindow := []
  affectedSegments : List RecoveryPlanSegment := []
  affectedSegmentReasons : List SegmentImpactReason := []
  preservedSegments : List RecoveryPlanSegment := []
  excludedCaregiverIds : List String := []
  relevantConstraintCategories : List ConstraintCategory
  plannerDirectives : List String := []
  knownOptionsInsufficient : Bool := false
  unresolvedKnownOptionWindows : List CoverageWindow := []
  backupResearchNeeded : Bool := false
  researchedCandidateIds : List String := []
  recommendedBackupCareCandidateId : Option String := none
  objective_length : 1 ≤ objective.length ∧ objective.length ≤ 500
  categories_length : 1 ≤ relevantConstraintCategories.length
  directives_length : plannerDirectives.length ≤ 8

/-- What the model decides about replanning. -/
structure ReplanningBriefDecision where
  planningRequired : Bool
  objective : String
  affectedWindowIds : List String := []
  affectedSegmentIds : List String := []
  preservedSegmentIds : List String := []
  backupResearchNeeded : Bool := false
  relevantConstraintCategories : List ConstraintCategory
  plannerDirectives : List String := []
  objective_length : 1 ≤ objective.length ∧ objective.length ≤ 240
  ids_length : affectedWindowIds.length ≤ 8 ∧ affectedSegmentIds.length ≤ 24 ∧ preservedSegmentIds.length ≤ 24
  categories_length : 1 ≤ relevantConstraintCategories.length ∧ relevantConstraintCategories.length ≤ 6
  directives_length : plannerDirectives.length ≤ 4

/-- The ways planning can fail. -/
inductive PlanningFailure where
  | runtimeError (message : String)
  | noPlanableResearchCandidate (message : String)
  | validationError (contract : String)
  | keyError (key : String)
  | indexError
  | failed (failure : Failure)
  deriving DecidableEq

/-- A computation of the services within planning. -/
def liftFailure {α : Type} : Except Failure α → Except PlanningFailure α
  | .ok a => .ok a
  | .error failure => .error (.failed failure)

@[simp] theorem liftFailure_eq_ok {α : Type} {x : Except Failure α} {a : α} : liftFailure x = .ok a ↔ x = .ok a := by
  cases x <;> simp [liftFailure]

/-- The services do not fail as planning does. -/
@[simp] theorem liftFailure_eq_error {α : Type} {x : Except Failure α} {e : PlanningFailure} :
    liftFailure x = .error e ↔ ∃ failure, x = .error failure ∧ .failed failure = e := by
  cases x <;> simp [liftFailure]

/-! ### The initial brief -/

/-- `_invoke_orchestrator`: the model's brief, with the application's facts put in. -/
def invokeOrchestrator (output : Option PlanningBrief) (authoritativeUpdates : PlanningBrief → PlanningBrief)
    (recoveryNeed : Option RecoveryNeed) : Except PlanningFailure PlanningBrief := do
  let some output := output
    | .error (.runtimeError "Strands Recovery Orchestrator returned no PlanningBrief")
  let brief := authoritativeUpdates output
  if !brief.planningRequired then
    .error (.runtimeError "Recovery Orchestrator declined required childcare planning")
  match recoveryNeed with
  | none => return brief
  | some need =>
    if need.researchNeeded && !brief.backupResearchNeeded then
      .error (.runtimeError "Recovery Orchestrator did not request research for an unresolved known-options gap")
    else if !need.researchNeeded then return { brief with backupResearchNeeded := false }
    else return brief

/-- `create_initial_planning_brief`. -/
def createInitialPlanningBrief (output : Option PlanningBrief) (scenario : DemoScenario)
    (recoveryNeed : Option RecoveryNeed) : Except PlanningFailure PlanningBrief :=
  invokeOrchestrator output
    (fun brief =>
      { brief with
        recoveryCaseId := none
        planningMode := .initial
        triggeringEvent := none
        currentActivePlanId := none
        currentRecoveryStatus := none
        invalidatedAssumptionIds := []
        requiredCoverageWindow := scenario.requiredCoverage
        affectedWindows := [scenario.requiredCoverage]
        affectedSegments := []
        affectedSegmentReasons := []
        preservedSegments := []
        excludedCaregiverIds := []
        knownOptionsInsufficient := (recoveryNeed.map (·.knownOptionsInsufficient)).getD false
        unresolvedKnownOptionWindows := (recoveryNeed.map (·.requestedWindows)).getD []
        researchedCandidateIds := []
        recommendedBackupCareCandidateId := none })
    recoveryNeed

/-- An initial brief preserves nothing. -/
theorem of_createInitialPlanningBrief {output : Option PlanningBrief} {scenario : DemoScenario}
    {recoveryNeed : Option RecoveryNeed} {brief : PlanningBrief}
    (h : createInitialPlanningBrief output scenario recoveryNeed = .ok brief) :
    brief.planningMode = .initial ∧ brief.preservedSegments = [] := by
  unfold createInitialPlanningBrief invokeOrchestrator at h
  cases output with
  | none => cases h
  | some output =>
    dsimp only at h
    split at h
    · cases h
    cases recoveryNeed with
    | none =>
      obtain rfl := Except.ok.inj h
      exact ⟨rfl, rfl⟩
    | some need =>
      dsimp only at h
      split at h
      · cases h
      split at h
      · obtain rfl := Except.ok.inj h
        exact ⟨rfl, rfl⟩
      · obtain rfl := Except.ok.inj h
        exact ⟨rfl, rfl⟩

/-! ### The brief for replanning -/

/-- The identifiers the context gives to the affected windows. -/
def affectedWindowIds (outcome : InvalidationOutcome) : List String :=
  (List.range outcome.uncoveredWindows.length).map fun index => s!"affected_window_{index + 1}"

/-- What a model may answer: a decision, a whole brief, or something else that is then validated as a decision. -/
inductive ReplanningOutput where
  | decision (decision : ReplanningBriefDecision)
  | brief (brief : PlanningBrief)
  | other (validated : Option ReplanningBriefDecision)

/-- `_replanning_decision`. -/
def replanningDecision (output : ReplanningOutput) (outcome : InvalidationOutcome) :
    Except PlanningFailure ReplanningBriefDecision :=
  match output with
  | .decision decision => .ok decision
  | .brief output =>
    if h : output.objective.length ≤ 240 ∧
        ((affectedWindowIds outcome).length ≤ 8 ∧ (outcome.impactedSegments.map (·.segmentId)).length ≤ 24 ∧
          (outcome.preservedSegments.map (·.segmentId)).length ≤ 24) ∧
        output.relevantConstraintCategories.length ≤ 6 then
      .ok
        { planningRequired := output.planningRequired
          objective := output.objective
          affectedWindowIds := affectedWindowIds outcome
          affectedSegmentIds := outcome.impactedSegments.map (·.segmentId)
          preservedSegmentIds := outcome.preservedSegments.map (·.segmentId)
          backupResearchNeeded := output.backupResearchNeeded
          relevantConstraintCategories := output.relevantConstraintCategories
          plannerDirectives := output.plannerDirectives.take 4
          objective_length := ⟨output.objective_length.1, h.1⟩
          ids_length := h.2.1
          categories_length := ⟨output.categories_length, h.2.2⟩
          directives_length := List.length_take_le 4 _ }
    else .error (.validationError "ReplanningBriefDecision")
  | .other (some decision) => .ok decision
  | .other none => .error (.validationError "ReplanningBriefDecision")

/-- `[event.caregiver_id] if event.caregiver_id else []`. -/
def excludedCaregiverIds (event : RecoveryEvent) : List String :=
  match event.caregiverId with
  | some caregiverId => if caregiverId = "" then [] else [caregiverId]
  | none => []

/-- `create_replanning_brief`. -/
def createReplanningBrief (output : Option ReplanningOutput) (outcome : InvalidationOutcome) :
    Except PlanningFailure PlanningBrief := do
  let some event := outcome.recoveryCase.events.getLast?
    | .error .indexError
  let some activePlan := outcome.recoveryCase.activeRecoveryPlan
    | .error (.failed .attributeError)
  let some output := output
    | .error (.runtimeError "Strands Recovery Orchestrator returned no replanning decision")
  let decision ← replanningDecision output outcome
  if !decision.planningRequired then
    .error (.runtimeError "Recovery Orchestrator declined required childcare planning")
  return {
    recoveryCaseId := outcome.recoveryCase.caseId
    planningMode := .worldStateReplan
    planningRequired := true
    objective := decision.objective
    triggeringEvent := event
    currentActivePlanId := activePlan.planId
    currentRecoveryStatus := outcome.recoveryCase.status
    invalidatedAssumptionIds := outcome.invalidatedAssumptions.map (·.assumptionId)
    requiredCoverageWindow := outcome.updatedScenario.requiredCoverage
    affectedWindows := outcome.uncoveredWindows
    affectedSegments := outcome.impactedSegments
    affectedSegmentReasons := outcome.impactReasons
    preservedSegments := outcome.preservedSegments
    excludedCaregiverIds := excludedCaregiverIds event
    relevantConstraintCategories := decision.relevantConstraintCategories
    plannerDirectives := decision.plannerDirectives
    objective_length := ⟨decision.objective_length.1, by have := decision.objective_length.2; omega⟩
    categories_length := decision.categories_length.1
    directives_length := by have := decision.directives_length; omega }

/-- A brief for replanning has the scope that the decline gave it. -/
theorem of_createReplanningBrief {output : Option ReplanningOutput} {outcome : InvalidationOutcome}
    {brief : PlanningBrief} (h : createReplanningBrief output outcome = .ok brief) :
    brief.planningMode = .worldStateReplan ∧ brief.affectedWindows = outcome.uncoveredWindows ∧
      brief.preservedSegments = outcome.preservedSegments := by
  unfold createReplanningBrief at h
  dsimp only at h
  split at h
  · split at h
    · split at h
      · obtain ⟨decision, -, h⟩ := bind_eq_ok.mp h
        split at h
        · cases h
        · obtain rfl := Except.ok.inj h
          exact ⟨rfl, rfl, rfl⟩
      · cases h
    · cases h
  · cases h

end DayMend.Agent
