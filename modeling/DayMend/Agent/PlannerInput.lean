import DayMend.Agent.PrimitiveSelection
import DayMend.Agent.RecoveryOrchestrator

/-!
# What a planner is given

The second part of `agent/constraint_planner.py`: the input of a planner
(`buildPlannerInvocationInput`), with the matrix that belongs to the brief and the
validator's feedback made actionable, and whether the planner is to select whole
primitives only (`usesPrimitiveSelection`).
-/

namespace DayMend.Agent

open DayMend.Base DayMend.Models DayMend.Fixtures DayMend.Services

/-- What a planner is asked for. -/
inductive PlannerOperation where
  | initialPlanning
  | replanning
  | planRepair
  deriving DecidableEq

/-- The input for one proposal or repair. The matrix and the preferences are always there, and the context of
the tools never is: the contract asks for both. -/
structure PlannerInvocationInput where
  operation : PlannerOperation
  planningBrief : PlanningBrief
  feasibleAssignmentMatrix : FeasibleAssignmentMatrix
  softRankingPreferences : FamilyPreferences
  previousCandidate : Option RecoveryPlan := none
  validatorFeedback : List PlanValidationIssue := []
  affectedWindows : List CoverageWindow := []
  affectedSegments : List RecoveryPlanSegment := []
  preservedSegments : List RecoveryPlanSegment := []
  /-- A repair is of something, for a reason. -/
  repair_has_candidate_and_feedback :
    operation = .planRepair → previousCandidate.isSome ∧ validatorFeedback ≠ []

/-! ### Feedback -/

/-- `_care_primitive_summary`. -/
def carePrimitiveSummary (primitive : FeasibleCarePrimitive) : String :=
  s!"CARE assigned_person_id={primitive.assignedPersonId} start={isoformat primitive.window.start} " ++
    s!"end={isoformat primitive.window.end_} location_id={primitive.locationId}"

/-- `_transport_primitive_summary`. -/
def transportPrimitiveSummary (primitive : FeasibleTransportPrimitive) : String :=
  s!"TRANSPORT transporter_id={primitive.transporterId} start={isoformat primitive.window.start} " ++
    s!"end={isoformat primitive.window.end_} origin={primitive.locationId} " ++
    s!"destination={primitive.destinationLocationId}"

/-- The order of the alternatives to a segment: those of the same person first. -/
def alternativeLe (segment : RecoveryPlanSegment) (p q : FeasibleCarePrimitive) : Bool :=
  ((compare (decide (p.assignedPersonId ≠ segment.assignedPersonId))
    (decide (q.assignedPersonId ≠ segment.assignedPersonId))).then ((compare p.window.start q.window.start).then
      (compare p.assignedPersonId q.assignedPersonId))).isLE

/-- Where the child is after a segment. -/
def locationAfter (segment : RecoveryPlanSegment) : Option String :=
  if segment.segmentType = .transport then segment.destinationLocationId else some segment.locationId

/-- What could replace a segment to which an issue belongs. -/
def alternativesTo (issue : PlanValidationIssue) (segment : RecoveryPlanSegment)
    (ordered : List RecoveryPlanSegment) (matrix : FeasibleAssignmentMatrix) : List String :=
  match issue.code with
  | .caregiverUnavailable =>
    let candidates := (matrix.carePrimitives.filter (·.window.Overlaps segment.window)).insertionSort
      fun p q => alternativeLe segment p q
    (candidates.take 6).map carePrimitiveSummary
  | .locationTransitionInvalid =>
    if segment.segmentType = .care then
      let own := (matrix.carePrimitives.filter (·.assignedPersonId = segment.assignedPersonId)).map
        carePrimitiveSummary
      let index := ordered.idxOf segment
      match if 0 < index then ordered[index - 1]? else none with
      | some previous =>
        own ++ (matrix.transportPrimitives.filter fun item =>
          some item.locationId = locationAfter previous ∧ item.destinationLocationId = segment.locationId).map
            transportPrimitiveSummary
      | none => own
    else
      (matrix.transportPrimitives.filter fun item =>
        some item.transporterId = segment.transporterId ∨
          (item.locationId = segment.locationId ∧
            some item.destinationLocationId = segment.destinationLocationId)).map transportPrimitiveSummary
  | _ => []

/-- `_actionable_validator_feedback`. -/
def actionableValidatorFeedback (issues : List PlanValidationIssue) (previousCandidate : Option RecoveryPlan)
    (matrix : FeasibleAssignmentMatrix) : List PlanValidationIssue :=
  match previousCandidate with
  | none => issues
  | some previous =>
    let ordered := previous.coverageSegments.insertionSort fun s t => s.window.LexLe t.window
    let byId : Dict String RecoveryPlanSegment := .ofList (ordered.map fun segment => (segment.segmentId, segment))
    issues.map fun issue =>
      let alternatives := (((byId.get? (issue.segmentId.getD "")).map fun segment =>
        alternativesTo issue segment ordered matrix).getD []).eraseDups.take 6
      if alternatives = [] then issue
      else
        { issue with
          message := s!"{issue.message} Feasible alternatives: " ++ "; ".intercalate alternatives ++ "."
          suggestedAlternatives := alternatives }

/-! ### The input -/

/-- `affected_windows=brief.affected_windows if replanning else None`. -/
def PlanningBrief.affected (brief : PlanningBrief) : Option (List CoverageWindow) :=
  if brief.planningMode = .worldStateReplan then some brief.affectedWindows else none

/-- `preserved_segments=brief.preserved_segments if replanning else None`. -/
def PlanningBrief.preserved (brief : PlanningBrief) : Option (List RecoveryPlanSegment) :=
  if brief.planningMode = .worldStateReplan then some brief.preservedSegments else none

/-- `build_planner_invocation_input`. -/
def buildPlannerInvocationInput (operation : PlannerOperation) (brief : PlanningBrief) (scenario : DemoScenario)
    (previousCandidate : Option RecoveryPlan) (validatorFeedback : List PlanValidationIssue) :
    Except PlanningFailure PlannerInvocationInput := do
  let matrix ← liftFailure (buildFeasibleAssignmentMatrix scenario brief.affected brief.preserved)
  let feedback := actionableValidatorFeedback validatorFeedback previousCandidate matrix
  if h : operation = .planRepair → previousCandidate.isSome ∧ feedback ≠ [] then
    return {
      operation
      planningBrief := brief
      feasibleAssignmentMatrix := matrix
      softRankingPreferences := scenario.preferences
      previousCandidate
      validatorFeedback := feedback
      affectedWindows := brief.affectedWindows
      affectedSegments := brief.affectedSegments
      preservedSegments := brief.preservedSegments
      repair_has_candidate_and_feedback := h }
  else .error (.failed (.valueError "PLAN_REPAIR requires previous candidate and validator feedback"))

/-- The input has the matrix of the brief. -/
theorem buildPlannerInvocationInput_eq_ok {operation : PlannerOperation} {brief : PlanningBrief}
    {scenario : DemoScenario} {previousCandidate : Option RecoveryPlan}
    {validatorFeedback : List PlanValidationIssue} {input : PlannerInvocationInput}
    (h : buildPlannerInvocationInput operation brief scenario previousCandidate validatorFeedback = .ok input) :
    input.planningBrief = brief ∧
      buildFeasibleAssignmentMatrix scenario brief.affected brief.preserved = .ok input.feasibleAssignmentMatrix := by
  obtain ⟨matrix, hmatrix, h⟩ := bind_eq_ok.mp h
  dsimp only at h
  split at h
  · obtain rfl := Except.ok.inj h
    exact ⟨rfl, liftFailure_eq_ok.mp hmatrix⟩
  · cases h

/-- An input that is not for a repair can be built when the matrix can. -/
theorem exists_buildPlannerInvocationInput {operation : PlannerOperation} {brief : PlanningBrief}
    {scenario : DemoScenario} {matrix : FeasibleAssignmentMatrix} (hoperation : operation ≠ .planRepair)
    (hmatrix : buildFeasibleAssignmentMatrix scenario brief.affected brief.preserved = .ok matrix) :
    ∃ input, buildPlannerInvocationInput operation brief scenario none [] = .ok input ∧
      input.feasibleAssignmentMatrix = matrix := by
  refine ⟨_, bind_eq_ok.mpr ⟨matrix, liftFailure_eq_ok.mpr hmatrix, dif_pos fun h => absurd h hoperation⟩, rfl⟩

/-- Where no input can be built, the services have failed. -/
theorem of_buildPlannerInvocationInput_eq_error {operation : PlannerOperation} {brief : PlanningBrief}
    {scenario : DemoScenario} {previousCandidate : Option RecoveryPlan}
    {validatorFeedback : List PlanValidationIssue} {e : PlanningFailure}
    (h : buildPlannerInvocationInput operation brief scenario previousCandidate validatorFeedback = .error e) :
    ∃ failure, e = .failed failure := by
  rcases bind_eq_error.mp h with h | ⟨matrix, -, h⟩
  · obtain ⟨failure, -, rfl⟩ := liftFailure_eq_error.mp h
    exact ⟨failure, rfl⟩
  · dsimp only at h
    split at h
    · cases h
    · exact ⟨_, (Except.error.inj h).symm⟩

/-! ### The mode -/

/-- `people[primitive.assigned_person_id].movable_calendar_constraints`. -/
def movableConstraints (matrix : FeasibleAssignmentMatrix) (personId : String) :
    Except PlanningFailure (List MovableCalendarConstraint) :=
  let people : Dict String FeasiblePersonAssignment :=
    .ofList (matrix.people.map fun person => (person.personId, person))
  match people.get? personId with
  | some person => .ok person.movableCalendarConstraints
  | none => .error (.keyError personId)

/-- `_has_unmaterialized_calendar_changes`: care by a parent who must move an event for it. -/
def hasUnmaterializedCalendarChanges (matrix : FeasibleAssignmentMatrix) : Except PlanningFailure Bool :=
  matrix.carePrimitives.anyM fun primitive =>
    if primitive.source = .parent then do
      let constraints ← movableConstraints matrix primitive.assignedPersonId
      return constraints.any fun constraint => constraint.window.Overlaps primitive.window
    else return false

/-- `_uses_primitive_selection`. -/
def usesPrimitiveSelection (plannerInput : PlannerInvocationInput) : Except PlanningFailure Bool :=
  let matrix := plannerInput.feasibleAssignmentMatrix
  if plannerInput.planningBrief.planningMode = .worldStateReplan ∧
      ¬ (matrix.carePrimitives = [] ∧ matrix.transportPrimitives = []) then do
    let changes ← hasUnmaterializedCalendarChanges matrix
    return !changes
  else return false

end DayMend.Agent
