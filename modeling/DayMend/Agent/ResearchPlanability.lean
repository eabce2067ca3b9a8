import DayMend.Agent.PlannerInput
import DayMend.Base.Sorting

/-!
# The choice among researched providers

`agent/research_planability.py`, and the contracts of
`agent/backup_care_researcher.py` that it reads: of the providers that the research
agent has ranked, `selectPlanableResearchCandidate` takes the first with whom the
day can be completed. The check before the models are called
(`planableResearchCandidateIds`) is in `Services/BackupCare`.
-/

namespace DayMend.Agent

open DayMend.Base DayMend.Models DayMend.Fixtures DayMend.Services

/-- One provider's place in the research agent's ranking. -/
structure RankedBackupCareCandidate where
  candidateId : String
  rank : ℕ
  fitSummary : String
  tradeoffs : List String
  rank_pos : 1 ≤ rank
  fitSummary_length : 1 ≤ fitSummary.length ∧ fitSummary.length ≤ 400
  tradeoffs_length : 1 ≤ tradeoffs.length ∧ tradeoffs.length ≤ 5

/-- What the research agent recommends. -/
structure BackupCareResearchResult where
  researchId : String
  requestedWindows : List CoverageWindow
  consideredCandidateIds : List String := []
  eligibleCandidateIds : List String := []
  rankedCandidates : List RankedBackupCareCandidate := []
  recommendedCandidateId : Option String := none
  unresolvedWindows : List CoverageWindow := []
  /-- No two places of the ranking have the same number. -/
  ranks_are_unique : (rankedCandidates.map (·.rank)).Nodup

/-- One invocation of the research agent, grounded in a search. -/
structure BackupCareResearchRun where
  result : BackupCareResearchResult
  searchResult : BackupCareSearchResult
  recommendedCandidate : BackupCareCandidate

/-- The provider who is taken. -/
structure PlanableResearchCandidate where
  candidate : BackupCareCandidate
  rank : ℕ
  scenario : DemoScenario
  matrix : FeasibleAssignmentMatrix

/-- The eligible providers by identifier. -/
def eligibleById (search : BackupCareSearchResult) : Dict String BackupCareCandidate :=
  .ofList (search.eligibleCandidates.map fun candidate => (candidate.candidateId, candidate))

/-- The operation for which the providers are tried. -/
def operationFor (brief : PlanningBrief) : PlannerOperation :=
  if brief.planningMode = .initial then .initialPlanning else .replanning

/-- One turn of the loop of `select_planable_research_candidate`. -/
def tryRanked (candidates : Dict String BackupCareCandidate) (scenario : DemoScenario) (brief : PlanningBrief)
    (ranked : RankedBackupCareCandidate) : Except PlanningFailure (Option PlanableResearchCandidate) := do
  let some candidate := candidates.get? ranked.candidateId
    | .error (.keyError ranked.candidateId)
  let candidateScenario ← liftFailure (addResearchedCaregiver scenario candidate)
  let plannerInput ← buildPlannerInvocationInput (operationFor brief) brief candidateScenario none []
  let matrix := plannerInput.feasibleAssignmentMatrix
  let immutableIds :=
    (matrix.carePrimitives.filter (·.immutable)).map (·.primitiveId) ++
      (matrix.transportPrimitives.filter (·.immutable)).map (·.primitiveId)
  let candidateCareSurvives :=
    matrix.carePrimitives.any fun primitive => decide (primitive.assignedPersonId = candidate.candidateId)
  let feasible :=
    !(matrix.carePrimitives.isEmpty && matrix.transportPrimitives.isEmpty) && candidateCareSurvives &&
      brief.preservedSegments.all fun segment => decide (segment.segmentId ∈ immutableIds)
  return if feasible then some { candidate, rank := ranked.rank, scenario := candidateScenario, matrix } else none

/-- The text of the failure when nobody is left. -/
def noPlanableMessage : String := "Known and researched backup-care options cannot form a complete feasible plan."

/-- The ranking, best rank first. -/
def byRank (ranked : List RankedBackupCareCandidate) : List RankedBackupCareCandidate :=
  sortBy (compareOn (·.rank)) ranked

/-- `select_planable_research_candidate`. -/
def selectPlanableResearchCandidate (researchRun : BackupCareResearchRun) (scenario : DemoScenario)
    (brief : PlanningBrief) : Except PlanningFailure PlanableResearchCandidate := do
  let candidates := eligibleById researchRun.searchResult
  match ← (byRank researchRun.result.rankedCandidates).findSomeM? (tryRanked candidates scenario brief) with
  | some chosen => return chosen
  | none => .error (.noPlanableResearchCandidate noPlanableMessage)

/-- **Who is taken** has been found by the search, and has joined the day. -/
theorem of_selectPlanableResearchCandidate {researchRun : BackupCareResearchRun} {scenario : DemoScenario}
    {brief : PlanningBrief} {chosen : PlanableResearchCandidate}
    (h : selectPlanableResearchCandidate researchRun scenario brief = .ok chosen) :
    chosen.candidate ∈ researchRun.searchResult.eligibleCandidates ∧
      addResearchedCaregiver scenario chosen.candidate = .ok chosen.scenario := by
  obtain ⟨found, hfound, h⟩ := bind_eq_ok.mp h
  cases found with
  | none => cases h
  | some taken =>
    obtain rfl := Except.ok.inj h
    obtain ⟨-, ranked, -, -, -, htried⟩ := findSomeM?_eq_ok_some_iff.mp hfound
    rw [tryRanked] at htried
    cases hcandidate : (eligibleById researchRun.searchResult).get? ranked.candidateId with
    | none =>
      rw [hcandidate] at htried
      cases htried
    | some candidate =>
      rw [hcandidate] at htried
      obtain ⟨candidateScenario, hadded, htried⟩ := bind_eq_ok.mp htried
      obtain ⟨plannerInput, -, htried⟩ := bind_eq_ok.mp htried
      dsimp only at htried
      split at htried
      · obtain rfl := Option.some.inj (Except.ok.inj htried)
        refine ⟨?_, liftFailure_eq_ok.mp hadded⟩
        obtain ⟨listed, hlisted, heq⟩ := List.mem_map.mp (Dict.mem_of_get?_ofList hcandidate)
        obtain rfl := (Prod.mk.inj heq).2
        exact hlisted
      · cases Except.ok.inj htried

end DayMend.Agent
