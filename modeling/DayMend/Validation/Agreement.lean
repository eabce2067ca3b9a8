import DayMend.Agent.ResearchPlanability
import DayMend.Fixtures.Scenario

/-!
# The check before research and the choice after it

Before any model is called, `planableResearchCandidateIds` finds the providers with
whom the day can be completed; after the research, `selectPlanableResearchCandidate`
takes one from the ranking, with a matrix that it builds from the planning brief.
Whatever the models have answered, the brief asks for the matrix of the check
(`PlannedBy.matrix_eq`), so one turn of the selection is one turn of the check
(`tryRanked_eq_ok_iff`), and the two agree (`select_agrees_with_check`). They agree on
identifiers: of two providers with one identifier the selection only knows the
last (`namesakes_disagree`).
-/

namespace DayMend.Validation

open DayMend.Base DayMend.Models DayMend.Fixtures DayMend.Services DayMend.Agent

/-- The brief with which a day is planned, and what the check is told about it: nothing at first, and after a
decline what the decline has uncovered and what it leaves. -/
inductive PlannedBy : DemoScenario → PlanningBrief → Option (List CoverageWindow) →
    Option (List RecoveryPlanSegment) → Prop
  | initial {output : Option PlanningBrief} {scenario : DemoScenario} {recoveryNeed : Option RecoveryNeed}
      {brief : PlanningBrief} (h : createInitialPlanningBrief output scenario recoveryNeed = .ok brief) :
      PlannedBy scenario brief none none
  | decline {output : Option ReplanningOutput} {outcome : InvalidationOutcome} {brief : PlanningBrief}
      (h : createReplanningBrief output outcome = .ok brief) :
      PlannedBy outcome.updatedScenario brief (some outcome.uncoveredWindows) (some outcome.preservedSegments)

/-- The research run is about the need, and its ranking lists exactly those who are eligible. -/
structure RanksEligible (run : BackupCareResearchRun) (scenario : DemoScenario) (need : RecoveryNeed) : Prop where
  searched : run.searchResult = searchBackupCareCandidates scenario need.requestedWindows
  ranked : (run.result.rankedCandidates.map (·.candidateId)).Perm
    (run.searchResult.eligibleCandidates.map (·.candidateId))

/-- The choice is eligible and among the given, and nobody among the given is ranked before it. -/
structure IsLowestRanked (run : BackupCareResearchRun) (ids : List String) (chosen : PlanableResearchCandidate) :
    Prop where
  eligible : chosen.candidate ∈ run.searchResult.eligibleCandidates
  mem : chosen.candidate.candidateId ∈ ids
  ranked : ∃ r ∈ run.result.rankedCandidates, r.candidateId = chosen.candidate.candidateId ∧ r.rank = chosen.rank
  lowest : ∀ r ∈ run.result.rankedCandidates, r.candidateId ∈ ids → chosen.rank ≤ r.rank

variable {scenario updated : DemoScenario} {brief : PlanningBrief} {affected : Option (List CoverageWindow)}
  {preserved : Option (List RecoveryPlanSegment)} {candidate : BackupCareCandidate}
  {candidates : Dict String BackupCareCandidate} {ranked : RankedBackupCareCandidate}
  {run : BackupCareResearchRun} {need : RecoveryNeed} {matrix : FeasibleAssignmentMatrix}

/-! ### One provider -/

/-- **The brief asks for the matrix of the check.** -/
theorem PlannedBy.matrix_eq (h : PlannedBy scenario brief affected preserved) :
    brief.affected = affected ∧ brief.preserved = preserved ∧ brief.preservedSegments = preserved.getD [] := by
  cases h with
  | initial h =>
    obtain ⟨hmode, hpreserved⟩ := of_createInitialPlanningBrief h
    simp [PlanningBrief.affected, PlanningBrief.preserved, hmode, hpreserved]
  | decline h =>
    obtain ⟨hmode, haffected, hpreserved⟩ := of_createReplanningBrief h
    simp [PlanningBrief.affected, PlanningBrief.preserved, hmode, haffected, hpreserved]

/-- The test of one provider, on the provider's matrix. -/
def passes (matrix : FeasibleAssignmentMatrix) (preservedSegments : List RecoveryPlanSegment) (candidateId : String) :
    Bool :=
  !(matrix.carePrimitives.isEmpty && matrix.transportPrimitives.isEmpty) &&
    (preservedSegments.all fun segment => decide (segment.segmentId ∈
      (matrix.carePrimitives.filter (·.immutable)).map (·.primitiveId) ++
        (matrix.transportPrimitives.filter (·.immutable)).map (·.primitiveId))) &&
    matrix.carePrimitives.any fun item => decide (item.assignedPersonId = candidateId)

/-- One turn of the check. -/
theorem isPlanable_eq_ok_iff {planable : Bool} :
    isPlanable scenario affected preserved candidate = .ok planable ↔
      ∃ updated matrix, addResearchedCaregiver scenario candidate = .ok updated ∧
        buildFeasibleAssignmentMatrix updated affected preserved = .ok matrix ∧
          planable = passes matrix (preserved.getD []) candidate.candidateId := by
  simp only [isPlanable, bind_eq_ok]
  constructor
  · rintro ⟨updated, hadded, matrix, hmatrix, h⟩
    exact ⟨updated, matrix, hadded, hmatrix, (Except.ok.inj h).symm⟩
  · rintro ⟨updated, matrix, hadded, hmatrix, rfl⟩
    exact ⟨updated, hadded, matrix, hmatrix, rfl⟩

/-- Who passes has a stretch of care in the matrix. -/
theorem exists_care_of_passes {preservedSegments : List RecoveryPlanSegment} {candidateId : String}
    (h : passes matrix preservedSegments candidateId = true) :
    ∃ p ∈ matrix.carePrimitives, p.assignedPersonId = candidateId := by
  rw [passes, Bool.and_eq_true, List.any_eq_true] at h
  obtain ⟨p, hp, hassigned⟩ := h.2
  exact ⟨p, hp, of_decide_eq_true hassigned⟩

/-- One turn of the selection, of a provider it knows. -/
theorem tryRanked_eq_ok_iff (hplanned : PlannedBy scenario brief affected preserved)
    (hknown : candidates.get? ranked.candidateId = some candidate) {found : Option PlanableResearchCandidate} :
    tryRanked candidates scenario brief ranked = .ok found ↔
      ∃ updated matrix, addResearchedCaregiver scenario candidate = .ok updated ∧
        buildFeasibleAssignmentMatrix updated affected preserved = .ok matrix ∧
          found = if passes matrix (preserved.getD []) candidate.candidateId then
            some { candidate, rank := ranked.rank, scenario := updated, matrix } else none := by
  obtain ⟨haffected, hpreserved, hsegments⟩ := hplanned.matrix_eq
  simp only [tryRanked, hknown, bind_eq_ok, liftFailure_eq_ok]
  have hfeasible (matrix : FeasibleAssignmentMatrix) :
      passes matrix (preserved.getD []) candidate.candidateId =
        (!(matrix.carePrimitives.isEmpty && matrix.transportPrimitives.isEmpty) &&
          (matrix.carePrimitives.any fun primitive => decide (primitive.assignedPersonId = candidate.candidateId)) &&
            brief.preservedSegments.all fun segment => decide (segment.segmentId ∈
              (matrix.carePrimitives.filter (·.immutable)).map (·.primitiveId) ++
                (matrix.transportPrimitives.filter (·.immutable)).map (·.primitiveId))) := by
    rw [passes, hsegments, Bool.and_right_comm]
  have hoperation : operationFor brief ≠ .planRepair := by
    unfold operationFor
    split <;> decide
  constructor
  · rintro ⟨updated, hadded, input, hinput, h⟩
    obtain ⟨-, hmatrix⟩ := buildPlannerInvocationInput_eq_ok hinput
    rw [haffected, hpreserved] at hmatrix
    refine ⟨updated, input.feasibleAssignmentMatrix, hadded, hmatrix, ?_⟩
    rw [hfeasible]
    exact (Except.ok.inj h).symm
  · rintro ⟨updated, matrix, hadded, hmatrix, rfl⟩
    rw [← haffected, ← hpreserved] at hmatrix
    obtain ⟨input, hinput, rfl⟩ := exists_buildPlannerInvocationInput hoperation hmatrix
    refine ⟨updated, hadded, input, hinput, ?_⟩
    rw [hfeasible]
    rfl

/-- **The turns agree**: the selection passes over whom the check rejects. -/
theorem tryRanked_eq_none_iff (hplanned : PlannedBy scenario brief affected preserved)
    (hknown : candidates.get? ranked.candidateId = some candidate) :
    tryRanked candidates scenario brief ranked = .ok none ↔
      isPlanable scenario affected preserved candidate = .ok false := by
  rw [tryRanked_eq_ok_iff hplanned hknown, isPlanable_eq_ok_iff]
  constructor
  · rintro ⟨updated, matrix, hadded, hmatrix, hnone⟩
    refine ⟨updated, matrix, hadded, hmatrix, ?_⟩
    cases h : passes matrix (preserved.getD []) candidate.candidateId with
    | false => rfl
    | true => simp [h] at hnone
  · rintro ⟨updated, matrix, hadded, hmatrix, hfalse⟩
    refine ⟨updated, matrix, hadded, hmatrix, ?_⟩
    rw [← hfalse]
    rfl

/-- Whom the selection takes, the check accepts. -/
theorem isPlanable_of_tryRanked (hplanned : PlannedBy scenario brief affected preserved)
    (hknown : candidates.get? ranked.candidateId = some candidate) {chosen : PlanableResearchCandidate}
    (h : tryRanked candidates scenario brief ranked = .ok (some chosen)) :
    isPlanable scenario affected preserved candidate = .ok true ∧ chosen.candidate = candidate ∧
      chosen.rank = ranked.rank := by
  obtain ⟨updated, matrix, hadded, hmatrix, hsome⟩ := (tryRanked_eq_ok_iff hplanned hknown).mp h
  split at hsome
  next hpasses =>
    obtain rfl := Option.some.inj hsome
    exact ⟨isPlanable_eq_ok_iff.mpr ⟨updated, matrix, hadded, hmatrix, hpasses.symm⟩, rfl, rfl⟩
  next => cases hsome

/-- The selection can decide where the check can. -/
theorem exists_tryRanked (hplanned : PlannedBy scenario brief affected preserved)
    (hknown : candidates.get? ranked.candidateId = some candidate) {planable : Bool}
    (h : isPlanable scenario affected preserved candidate = .ok planable) :
    ∃ found, tryRanked candidates scenario brief ranked = .ok found := by
  obtain ⟨updated, matrix, hadded, hmatrix, -⟩ := isPlanable_eq_ok_iff.mp h
  exact ⟨_, (tryRanked_eq_ok_iff hplanned hknown).mpr ⟨updated, matrix, hadded, hmatrix, rfl⟩⟩

/-- No turn of the selection says that nobody is left. -/
theorem tryRanked_ne_noPlanable {message : String} :
    tryRanked candidates scenario brief ranked ≠ .error (.noPlanableResearchCandidate message) := by
  intro h
  unfold tryRanked at h
  split at h
  · rcases bind_eq_error.mp h with h | ⟨updated, -, h⟩
    · obtain ⟨failure, -, h⟩ := liftFailure_eq_error.mp h
      cases h
    · rcases bind_eq_error.mp h with h | ⟨input, -, h⟩
      · obtain ⟨failure, h⟩ := of_buildPlannerInvocationInput_eq_error h
        cases h
      · cases h
  · cases h

/-! ### All of them -/

/-- Those who are ranked are known, each as the one with the identifier. -/
theorem RanksEligible.known (h : RanksEligible run scenario need)
    (hdistinct : (run.searchResult.eligibleCandidates.map (·.candidateId)).Nodup) :
    (∀ r ∈ run.result.rankedCandidates, ∃ candidate ∈ run.searchResult.eligibleCandidates,
      candidate.candidateId = r.candidateId) ∧
    (∀ candidate ∈ run.searchResult.eligibleCandidates,
      (∃ r ∈ run.result.rankedCandidates, r.candidateId = candidate.candidateId) ∧
        (eligibleById run.searchResult).get? candidate.candidateId = some candidate) := by
  refine ⟨fun r hr => ?_, fun candidate hcandidate => ⟨?_, ?_⟩⟩
  · exact List.mem_map.mp (h.ranked.mem_iff.mp (List.mem_map_of_mem hr))
  · exact List.mem_map.mp (h.ranked.mem_iff.mpr (List.mem_map_of_mem hcandidate))
  · refine Dict.get?_ofList_of_mem ?_ (List.mem_map_of_mem hcandidate)
    rw [List.map_map]
    exact hdistinct

/-- What the check returns, if there is a choice. -/
theorem planable_eq_ok_iff {ids : List String}
    (htwo : 2 ≤ (searchBackupCareCandidates scenario need.requestedWindows).eligibleCandidates.length) :
    planableResearchCandidateIds scenario need affected preserved = .ok ids ↔
      (∀ candidate ∈ (searchBackupCareCandidates scenario need.requestedWindows).eligibleCandidates,
        ∃ planable, isPlanable scenario affected preserved candidate = .ok planable) ∧
      ids = ((searchBackupCareCandidates scenario need.requestedWindows).eligibleCandidates.filter fun candidate =>
        (isPlanable scenario affected preserved candidate).toOption = some true).map (·.candidateId) := by
  unfold planableResearchCandidateIds
  dsimp only
  rw [if_neg (Nat.not_lt.mpr htwo), bind_eq_ok]
  constructor
  · rintro ⟨kept, hkept, h⟩
    obtain ⟨hall, rfl⟩ := filterM_eq_ok.mp hkept
    exact ⟨hall, (Except.ok.inj h).symm⟩
  · rintro ⟨hall, rfl⟩
    exact ⟨_, filterM_eq_ok.mpr ⟨hall, rfl⟩, rfl⟩

/-- Whom the check returns, it accepts. -/
theorem exists_isPlanable {ids : List String} {id : String}
    (hids : planableResearchCandidateIds scenario need affected preserved = .ok ids) (hid : id ∈ ids) :
    ∃ candidate ∈ (searchBackupCareCandidates scenario need.requestedWindows).eligibleCandidates,
      isPlanable scenario affected preserved candidate = .ok true ∧ candidate.candidateId = id := by
  by_cases htwo : 2 ≤ (searchBackupCareCandidates scenario need.requestedWindows).eligibleCandidates.length
  · obtain ⟨hall, rfl⟩ := (planable_eq_ok_iff htwo).mp hids
    obtain ⟨candidate, hcandidate, rfl⟩ := List.mem_map.mp hid
    obtain ⟨hcandidate, hpasses⟩ := List.mem_filter.mp hcandidate
    obtain ⟨planable, hplanable⟩ := hall candidate hcandidate
    rw [hplanable] at hpasses
    obtain rfl : planable = true := Option.some.inj (of_decide_eq_true hpasses)
    exact ⟨candidate, hcandidate, hplanable, rfl⟩
  · unfold planableResearchCandidateIds at hids
    dsimp only at hids
    rw [if_pos (Nat.not_le.mp htwo)] at hids
    obtain rfl := Except.ok.inj hids
    cases hid

/-- The check returns nobody when it rejects everybody. -/
theorem planable_eq_nil_iff
    (htwo : 2 ≤ (searchBackupCareCandidates scenario need.requestedWindows).eligibleCandidates.length) :
    planableResearchCandidateIds scenario need affected preserved = .ok [] ↔
      ∀ candidate ∈ (searchBackupCareCandidates scenario need.requestedWindows).eligibleCandidates,
        isPlanable scenario affected preserved candidate = .ok false := by
  rw [planable_eq_ok_iff htwo, eq_comm, List.map_eq_nil_iff, List.filter_eq_nil_iff]
  constructor
  · rintro ⟨hall, hnone⟩ candidate hcandidate
    obtain ⟨planable, hplanable⟩ := hall candidate hcandidate
    have hfalse := hnone candidate hcandidate
    cases planable with
    | false => exact hplanable
    | true => simp [hplanable, Except.toOption] at hfalse
  · intro hall
    refine ⟨fun candidate hcandidate => ⟨false, hall candidate hcandidate⟩, fun candidate hcandidate => ?_⟩
    simp [hall candidate hcandidate, Except.toOption]

section

variable (hplanned : PlannedBy scenario brief affected preserved) (hranks : RanksEligible run scenario need)
  (hdistinct : (run.searchResult.eligibleCandidates.map (·.candidateId)).Nodup)

include hplanned hranks hdistinct

/-- The selection gives up when the check rejects everybody. -/
theorem select_gives_up_iff :
    (∃ message, selectPlanableResearchCandidate run scenario brief = .error (.noPlanableResearchCandidate message)) ↔
      ∀ candidate ∈ run.searchResult.eligibleCandidates,
        isPlanable scenario affected preserved candidate = .ok false := by
  obtain ⟨hranked, hknown⟩ := hranks.known hdistinct
  have hnone : (byRank run.result.rankedCandidates).findSomeM?
      (tryRanked (eligibleById run.searchResult) scenario brief) = .ok none ↔
      ∀ candidate ∈ run.searchResult.eligibleCandidates,
        isPlanable scenario affected preserved candidate = .ok false := by
    rw [findSomeM?_eq_ok_none_iff]
    constructor
    · intro h candidate hcandidate
      obtain ⟨⟨r, hr, hid⟩, hget⟩ := hknown candidate hcandidate
      exact (tryRanked_eq_none_iff hplanned (hid ▸ hget)).mp (h r (mem_sortBy.mpr hr))
    · intro h r hr
      obtain ⟨candidate, hcandidate, hid⟩ := hranked r (mem_sortBy.mp hr)
      exact (tryRanked_eq_none_iff hplanned (hid ▸ (hknown candidate hcandidate).2)).mpr (h candidate hcandidate)
  rw [← hnone]
  constructor
  · rintro ⟨message, h⟩
    rcases bind_eq_error.mp h with h | ⟨found, hfound, h⟩
    · obtain ⟨r, -, hr⟩ := exists_of_findSomeM?_eq_error h
      exact absurd hr tryRanked_ne_noPlanable
    · cases found with
      | none => exact hfound
      | some chosen => cases h
  · intro h
    exact ⟨noPlanableMessage, bind_eq_error.mpr (Or.inr ⟨none, h, rfl⟩)⟩

/-- Wherever the check can decide, and accepts somebody, the selection does not fail. -/
theorem select_ne_error (hall : ∀ candidate ∈ run.searchResult.eligibleCandidates,
      ∃ planable, isPlanable scenario affected preserved candidate = .ok planable)
    (hsome : ¬ ∀ candidate ∈ run.searchResult.eligibleCandidates,
      isPlanable scenario affected preserved candidate = .ok false) (e : PlanningFailure) :
    selectPlanableResearchCandidate run scenario brief ≠ .error e := by
  intro hselect
  obtain ⟨hranked, hknown⟩ := hranks.known hdistinct
  rcases bind_eq_error.mp hselect with h | ⟨found, hfound, h⟩
  · obtain ⟨r, hr, he⟩ := exists_of_findSomeM?_eq_error h
    obtain ⟨candidate, hcandidate, hid⟩ := hranked r (mem_sortBy.mp hr)
    obtain ⟨planable, hplanable⟩ := hall candidate hcandidate
    obtain ⟨found, hfound⟩ := exists_tryRanked hplanned (hid ▸ (hknown candidate hcandidate).2) hplanable
    rw [he] at hfound
    cases hfound
  · cases found with
    | none =>
      obtain rfl := Except.error.inj h
      exact hsome ((select_gives_up_iff hplanned hranks hdistinct).mp ⟨_, hselect⟩)
    | some chosen => cases h

/-- Whom it takes, the check accepts, and of those the one who is ranked first. -/
theorem isLowestRanked_of_select {chosen : PlanableResearchCandidate}
    (hselect : selectPlanableResearchCandidate run scenario brief = .ok chosen) :
    IsLowestRanked run ((run.searchResult.eligibleCandidates.filter fun candidate =>
      (isPlanable scenario affected preserved candidate).toOption = some true).map (·.candidateId)) chosen := by
  obtain ⟨hranked, hknown⟩ := hranks.known hdistinct
  obtain ⟨found, hfound, h⟩ := bind_eq_ok.mp hselect
  cases found with
  | none => cases h
  | some found =>
    obtain rfl := Except.ok.inj h
    obtain ⟨before, r, after, hsplit, hbefore, hr⟩ := findSomeM?_eq_ok_some_iff.mp hfound
    have hmem : r ∈ run.result.rankedCandidates := by
      apply mem_sortBy.mp
      change r ∈ byRank run.result.rankedCandidates
      rw [hsplit]
      exact List.mem_append_right _ (List.mem_cons_self ..)
    obtain ⟨candidate, hcandidate, hid⟩ := hranked r hmem
    obtain ⟨hplanable, hchosen, hrank⟩ := isPlanable_of_tryRanked hplanned (hid ▸ (hknown candidate hcandidate).2) hr
    subst hchosen
    refine ⟨hcandidate, ?_, ⟨r, hmem, hid.symm, hrank.symm⟩, ?_⟩
    · refine List.mem_map_of_mem (List.mem_filter.mpr ⟨hcandidate, ?_⟩)
      simp [hplanable, Except.toOption]
    · -- whoever is ranked before has been passed over, so the check rejects them
      intro r' hr' hids
      rw [hrank]
      rcases mem_or_isLE_of_sortBy_eq hsplit hr' with hearlier | rfl | hlater
      · exfalso
        obtain ⟨other, hother, hother'⟩ := List.mem_map.mp hids
        obtain ⟨hother, hpasses⟩ := List.mem_filter.mp hother
        have hget := (hknown other hother).2
        rw [hother'] at hget
        have hrejected := (tryRanked_eq_none_iff hplanned hget).mp (hbefore r' hearlier)
        simp [hrejected, Except.toOption] at hpasses
      · exact le_rfl
      · exact Nat.isLE_compare.mp hlater

/-- Otherwise it takes the one whom the check accepts and who is ranked first. -/
theorem exists_select (hall : ∀ candidate ∈ run.searchResult.eligibleCandidates,
      ∃ planable, isPlanable scenario affected preserved candidate = .ok planable)
    (hsome : ¬ ∀ candidate ∈ run.searchResult.eligibleCandidates,
      isPlanable scenario affected preserved candidate = .ok false) :
    ∃ chosen, selectPlanableResearchCandidate run scenario brief = .ok chosen ∧
      IsLowestRanked run ((run.searchResult.eligibleCandidates.filter fun candidate =>
        (isPlanable scenario affected preserved candidate).toOption = some true).map (·.candidateId)) chosen := by
  cases hselect : selectPlanableResearchCandidate run scenario brief with
  | error e => exact absurd hselect (select_ne_error hplanned hranks hdistinct hall hsome e)
  | ok chosen => exact ⟨chosen, rfl, isLowestRanked_of_select hplanned hranks hdistinct hselect⟩

end

/-- **The check and the choice agree**, where no two who are eligible have one identifier: the selection gives up
exactly when the check finds nobody, and otherwise takes, of those whom the check finds, the one ranked first. -/
theorem select_agrees_with_check (hplanned : PlannedBy scenario brief affected preserved)
    (hranks : RanksEligible run scenario need) (htwo : 2 ≤ run.searchResult.eligibleCandidates.length)
    (hdistinct : (run.searchResult.eligibleCandidates.map (·.candidateId)).Nodup) :
    ((∃ message, selectPlanableResearchCandidate run scenario brief =
        .error (.noPlanableResearchCandidate message)) ↔
      planableResearchCandidateIds scenario need affected preserved = .ok []) ∧
    ∀ ids, planableResearchCandidateIds scenario need affected preserved = .ok ids → ids ≠ [] →
      ∃ chosen, selectPlanableResearchCandidate run scenario brief = .ok chosen ∧ IsLowestRanked run ids chosen := by
  have htwo' := htwo
  rw [hranks.searched] at htwo'
  constructor
  · rw [select_gives_up_iff hplanned hranks hdistinct, planable_eq_nil_iff htwo', hranks.searched]
  · intro ids hids hne
    have hsome : ¬ ∀ candidate ∈ run.searchResult.eligibleCandidates,
        isPlanable scenario affected preserved candidate = .ok false := by
      intro hnone
      rw [hranks.searched] at hnone
      rw [(planable_eq_nil_iff htwo').mpr hnone] at hids
      exact hne (Except.ok.inj hids).symm
    obtain ⟨hall, rfl⟩ := (planable_eq_ok_iff htwo').mp hids
    rw [← hranks.searched] at hall ⊢
    exact exists_select hplanned hranks hdistinct hall hsome

/-! ### Days on which nobody is at home -/

/-- A provider of the inventory who comes to the family home. -/
def comesHome (candidateId : String) : BackupCareCandidate :=
  { candidateId
    displayName := candidateId
    availability := [minutes 0 120]
    flatRate := some 0
    verified := true
    backgroundChecked := true
    minimumChildAge := 0
    maximumChildAge := 10 }

/-- A provider to whom the child would have to be taken. -/
def staysAway (candidateId : String) : BackupCareCandidate :=
  { comesHome candidateId with
    careLocationType := .caregiverHome
    locationId := "suburb"
    locationLabel := "Suburb"
    travelMinutesFromFamilyHome := 20
    candidate_contract_is_consistent := by simp [comesHome] }

/-- A day on which both parents work and only the inventory is left. -/
def inventoryDay (inventory : List BackupCareCandidate) : DemoScenario :=
  { day (minutes 0 120) [] with
    parentEvents := [busy "board" "parent_a" (minutes 0 120), busy "clinic" "parent_b" (minutes 0 120)]
    backupCareCandidates := inventory }

/-- Somebody is needed all day. -/
def allDayNeed : RecoveryNeed :=
  { requestedWindows := [minutes 0 120], knownOptionsInsufficient := true, researchNeeded := true }

/-- What the orchestrator answers. -/
def coverTheDay : PlanningBrief :=
  { planningMode := .initial
    planningRequired := true
    objective := "Cover the day."
    requiredCoverageWindow := minutes 0 120
    relevantConstraintCategories := [.coverage]
    backupResearchNeeded := true
    objective_length := by decide
    categories_length := by decide
    directives_length := by decide }

/-- The brief it becomes. -/
def dayBrief : PlanningBrief :=
  { coverTheDay with
    affectedWindows := [minutes 0 120]
    knownOptionsInsufficient := true
    unresolvedKnownOptionWindows := [minutes 0 120] }

theorem plannedBy_dayBrief (inventory : List BackupCareCandidate) :
    PlannedBy (inventoryDay inventory) dayBrief none none := by
  have hbrief : createInitialPlanningBrief (some coverTheDay) (inventoryDay inventory) (some allDayNeed) =
      .ok dayBrief := rfl
  exact .initial hbrief

/-- A place in the ranking. -/
def place (candidateId : String) (rank : ℕ) (rank_pos : 1 ≤ rank) : RankedBackupCareCandidate :=
  { candidateId
    rank
    fitSummary := "Fits."
    tradeoffs := ["Price."]
    rank_pos
    fitSummary_length := by decide
    tradeoffs_length := by decide }

/-- A run of the research agent over the inventory. -/
def rankedRun (inventory : List BackupCareCandidate) (first : BackupCareCandidate)
    (places : List RankedBackupCareCandidate) (h : (places.map (·.rank)).Nodup) : BackupCareResearchRun :=
  { result :=
      { researchId := "research"
        requestedWindows := [minutes 0 120]
        rankedCandidates := places
        ranks_are_unique := h }
    searchResult := searchBackupCareCandidates (inventoryDay inventory) [minutes 0 120]
    recommendedCandidate := first }

/-- Of two providers with one identifier, the first comes home. -/
def namesakes : List BackupCareCandidate := [comesHome "hana", staysAway "hana", staysAway "wim"]

/-- All three are ranked. -/
def namesakesRun : BackupCareResearchRun :=
  rankedRun namesakes (staysAway "wim")
    [place "hana" 1 (by decide), place "hana" 2 (by decide), place "wim" 3 (by decide)] (by decide)

/-- With the first, the day can be completed; the selection tries the second twice, and gives up. -/
theorem namesakes_disagree :
    PlannedBy (inventoryDay namesakes) dayBrief none none ∧
      RanksEligible namesakesRun (inventoryDay namesakes) allDayNeed ∧
      2 ≤ namesakesRun.searchResult.eligibleCandidates.length ∧
      planableResearchCandidateIds (inventoryDay namesakes) allDayNeed none none = .ok ["hana"] ∧
      selectPlanableResearchCandidate namesakesRun (inventoryDay namesakes) dayBrief =
        .error (.noPlanableResearchCandidate noPlanableMessage) ∧
      ¬ ((∃ message, selectPlanableResearchCandidate namesakesRun (inventoryDay namesakes) dayBrief =
          .error (.noPlanableResearchCandidate message)) ↔
        planableResearchCandidateIds (inventoryDay namesakes) allDayNeed none none = .ok []) := by
  have hplanable : planableResearchCandidateIds (inventoryDay namesakes) allDayNeed none none = .ok ["hana"] := by
    decide +kernel
  have hselect : selectPlanableResearchCandidate namesakesRun (inventoryDay namesakes) dayBrief =
      .error (.noPlanableResearchCandidate noPlanableMessage) := by
    have hmap : (selectPlanableResearchCandidate namesakesRun (inventoryDay namesakes) dayBrief).map (fun _ => ()) =
        .error (.noPlanableResearchCandidate noPlanableMessage) := by decide +kernel
    exact eq_error_of_map hmap
  refine ⟨plannedBy_dayBrief _, ⟨rfl, ?_⟩, by decide +kernel, hplanable, hselect, ?_⟩
  · have hids : namesakesRun.result.rankedCandidates.map (·.candidateId) =
        namesakesRun.searchResult.eligibleCandidates.map (·.candidateId) := by decide +kernel
    exact hids ▸ List.Perm.refl _
  · intro hagree
    have hnil := hagree.mp ⟨_, hselect⟩
    rw [hplanable] at hnil
    cases hnil

/-- Two providers who come home. -/
def twoHome : List BackupCareCandidate := [comesHome "hana", comesHome "wim"]

/-- The second is ranked first. -/
def twoHomeRun : BackupCareResearchRun :=
  rankedRun twoHome (comesHome "wim") [place "hana" 2 (by decide), place "wim" 1 (by decide)] (by decide)

theorem select_agrees_with_check_twoHome :
    planableResearchCandidateIds (inventoryDay twoHome) allDayNeed none none = .ok ["hana", "wim"] ∧
      ((∃ message, selectPlanableResearchCandidate twoHomeRun (inventoryDay twoHome) dayBrief =
          .error (.noPlanableResearchCandidate message)) ↔
        planableResearchCandidateIds (inventoryDay twoHome) allDayNeed none none = .ok []) ∧
      ∀ ids, planableResearchCandidateIds (inventoryDay twoHome) allDayNeed none none = .ok ids → ids ≠ [] →
        ∃ chosen, selectPlanableResearchCandidate twoHomeRun (inventoryDay twoHome) dayBrief = .ok chosen ∧
          IsLowestRanked twoHomeRun ids chosen := by
  have hids : twoHomeRun.result.rankedCandidates.map (·.candidateId) =
      twoHomeRun.searchResult.eligibleCandidates.map (·.candidateId) := by decide +kernel
  exact ⟨by decide +kernel, select_agrees_with_check (plannedBy_dayBrief _) ⟨rfl, hids ▸ List.Perm.refl _⟩
    (by decide +kernel) (by decide +kernel)⟩

end DayMend.Validation
