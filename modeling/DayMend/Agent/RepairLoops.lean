import DayMend.Agent.Identifiers
import DayMend.Agent.PlanningSessions
import DayMend.Base.Oracle

/-!
# The repair loops agree

Plans are proposed, validated and repaired in three loops: by the single agent, by the
planner, and by the application with the remote runtime. Where the planner can be given its
input, and what it selects are primitives, they make the same tries of the same proposals,
with the same verdicts (`repairLoops_agree`). Each is compared with the number of tries that
the verdicts alone allow (`triesFrom`).
-/

namespace DayMend.Agent

open DayMend.Base DayMend.Models DayMend.Fixtures DayMend.Services

/-- The verdicts of a session, first to last. -/
def PlanningAttempts.verdicts (attempts : PlanningAttempts) : List PlanValidationResult :=
  (attempts.earlier ++ [attempts.last]).map (·.validation)

/-- What a plan that is marked as valid or not is worth is not changed by the mark. -/
theorem validateProposal_notValidated (plan : RecoveryPlan) (scenario : DemoScenario)
    (preservedSegments : List RecoveryPlanSegment) :
    validateProposal (notValidated plan) scenario preservedSegments =
      validateProposal plan scenario preservedSegments := rfl

/-! ### The oracle -/

/-- The local agents propose one plan after the other; in selection mode, one selection after the other. -/
def localAgent (plans : ℕ → RecoveryPlan) (selections : ℕ → PrimitiveSelection) :
    (call : AgentCall) → ℕ → AgentOutput call × ℕ
  | .draft _, n => (some (plans n), n + 1)
  | .verifyContext _, n => ((), n)
  | .select _, n => (some (selections n), n + 1)
  | .propose _, n => (some (plans n), n + 1)

/-- The remote runtime answers with one response after the other. -/
def remoteRuntime (responses : ℕ → AgentRuntimeResponse) : (query : Query) → ℕ → Answer query × ℕ
  | .clock, n => ((0 : Instant), n)
  | .newId, n => ("", n)
  | .execute action _, n => (action, n)
  | .invoke _, n => (.ok (responses n), n + 1)

section Loops

variable {plans : ℕ → RecoveryPlan} {selections : ℕ → PrimitiveSelection} {responses : ℕ → AgentRuntimeResponse}
  {scenario : DemoScenario} {preserved : List RecoveryPlanSegment} {materializedPlanId : List String → String}
  {brief : PlanningBrief} {l : List RecoveryCase} {n remaining : ℕ} {earlier : List PlanningAttempt}

variable (plans scenario preserved) in
/-- The verdict on the `n`th proposal. -/
def verdictOn (n : ℕ) : PlanValidationResult := validateProposal (plans n) scenario preserved

variable (plans scenario preserved) in
/-- Whether it is accepted. -/
def acceptedAt (n : ℕ) : Bool := (verdictOn plans scenario preserved n).valid

variable (plans scenario preserved) in
/-- A session that goes on from earlier attempts, with the `n`th proposal, comes to its end after as many proposals as
the verdicts allow, and these are its verdicts. -/
def SessionEnds {ε : Type} (remaining : ℕ) (earlier : List PlanningAttempt) (l : List RecoveryCase) (n : ℕ)
    (run : Except ε PlanningAttempts × List RecoveryCase × ℕ) : Prop :=
  ∃ attempts, run = (.ok attempts, l, n + triesFrom (acceptedAt plans scenario preserved) remaining n) ∧
    attempts.verdicts = earlier.map (·.validation) ++
      (List.range' n (triesFrom (acceptedAt plans scenario preserved) remaining n)).map
        (verdictOn plans scenario preserved)

variable {ε : Type} {attempt : PlanningAttempt} {run : Except ε PlanningAttempts × List RecoveryCase × ℕ}

/-- It ends with a proposal that is accepted, or after which no other may follow. -/
theorem SessionEnds.last (hattempt : attempt.validation = verdictOn plans scenario preserved n)
    (h : attempt.validation.valid = true ∨ remaining = 0) :
    SessionEnds (ε := ε) plans scenario preserved remaining earlier l n
      (.ok { earlier, last := attempt }, l, n + 1) := by
  have hone : triesFrom (acceptedAt plans scenario preserved) remaining n = 1 := by
    cases remaining with
    | zero => rfl
    | succ remaining =>
      have hvalid : acceptedAt plans scenario preserved n = true :=
        (congrArg PlanValidationResult.valid hattempt).symm.trans (h.resolve_right (Nat.succ_ne_zero _))
      rw [triesFrom, if_pos hvalid]
  refine ⟨_, by rw [hone], ?_⟩
  rw [hone, PlanningAttempts.verdicts, List.map_append, List.map_singleton, hattempt]
  rfl

/-- After a proposal that is rejected it goes on with the next. -/
theorem SessionEnds.next (hattempt : attempt.validation = verdictOn plans scenario preserved n)
    (hinvalid : ¬ attempt.validation.valid = true)
    (h : SessionEnds plans scenario preserved remaining (earlier ++ [attempt]) l (n + 1) run) :
    SessionEnds plans scenario preserved (remaining + 1) earlier l n run := by
  have hfails : ¬ acceptedAt plans scenario preserved n = true := fun hvalid =>
    hinvalid ((congrArg PlanValidationResult.valid hattempt).trans hvalid)
  obtain ⟨attempts, hrun, hverdicts⟩ := h
  refine ⟨attempts, ?_, ?_⟩
  · rw [hrun, triesFrom, if_neg hfails, Nat.add_right_comm, Nat.add_assoc]
  · rw [hverdicts, triesFrom, if_neg hfails, List.range'_succ, List.map_append, List.map_singleton, List.append_assoc,
      hattempt]
    rfl

theorem runWith_draftLoop {repairScope : String} {proposalPrompt : ProposalPrompt}
    (hattempt : attempt = nextAttempt scenario preserved earlier (notValidated (plans n))) :
    (draftLoop scenario repairScope preserved remaining earlier proposalPrompt).runWith
        (localAgent plans selections) l n =
      (if attempt.validation.valid then (.ret { earlier, last := attempt } : Session PlanningAttempts)
      else
        match remaining with
        | 0 => .ret { earlier, last := attempt }
        | remaining + 1 =>
          draftLoop scenario repairScope preserved remaining (earlier ++ [attempt])
            (.repair (attempt.attemptNumber + 1) attempt.validation.issues repairScope)).runWith
        (localAgent plans selections) l (n + 1) := by
  rw [draftLoop, hattempt]
  rfl

/-- **The single agent's session.** -/
theorem sessionEnds_draftLoop {repairScope : String} {proposalPrompt : ProposalPrompt} :
    SessionEnds plans scenario preserved remaining earlier l n
      ((draftLoop scenario repairScope preserved remaining earlier proposalPrompt).runWith
        (localAgent plans selections) l n) := by
  induction remaining generalizing earlier proposalPrompt n with
  | zero =>
    rw [runWith_draftLoop rfl, runWith_ite]
    split
    · exact .last (validateProposal_notValidated ..) (Or.inr rfl)
    · exact .last (validateProposal_notValidated ..) (Or.inr rfl)
  | succ remaining ih =>
    rw [runWith_draftLoop rfl, runWith_ite]
    split
    next hvalid => exact .last (validateProposal_notValidated ..) (Or.inl hvalid)
    next hinvalid => exact .next (validateProposal_notValidated ..) hinvalid ih

/-! ### The planner's session -/

/-- What is not valid has issues. -/
theorem issues_ne_nil_of_not_valid {plan : RecoveryPlan}
    (h : ¬ (validateProposal plan scenario preserved).valid = true) :
    (validateProposal plan scenario preserved).issues ≠ [] := by
  have hvalidate : ¬ (validate plan scenario).valid = true → (validate plan scenario).issues ≠ [] :=
    fun hinvalid hnil => hinvalid (List.isEmpty_iff.mpr hnil)
  unfold validateProposal at h ⊢
  split at h
  next hnone =>
    rw [if_pos hnone]
    exact hvalidate h
  next hsome =>
    rw [if_neg hsome]
    rw [validateRepair] at h ⊢
    dsimp only at h ⊢
    split at h
    next hkept =>
      rw [if_pos hkept]
      exact hvalidate h
    next hchanged =>
      rw [if_neg hchanged]
      exact fun hnil => hchanged (List.append_eq_nil_iff.mp hnil).2

variable {operation : PlannerOperation} {previous : Option RecoveryPlan} {feedback : List PlanValidationIssue}
  {input input' : PlannerInvocationInput} {matrix : FeasibleAssignmentMatrix} {selects : Bool}

/-- The input for a repair can be built when the first one can. -/
theorem exists_repairInput {plan : RecoveryPlan} (hfeedback : feedback ≠ [])
    (hmatrix : buildFeasibleAssignmentMatrix scenario brief.affected brief.preserved = .ok matrix) :
    ∃ input, buildPlannerInvocationInput .planRepair brief scenario (some plan) feedback = .ok input ∧
      input.planningBrief = brief ∧ input.feasibleAssignmentMatrix = matrix := by
  have hrepair : actionableValidatorFeedback feedback (some plan) matrix ≠ [] := by
    rw [actionableValidatorFeedback]
    exact fun hnil => hfeedback (List.map_eq_nil_iff.mp hnil)
  exact ⟨_, bind_eq_ok.mpr ⟨matrix, liftFailure_eq_ok.mpr hmatrix, dif_pos fun _ => ⟨rfl, hrepair⟩⟩, rfl, rfl⟩

/-- The mode depends on the brief and the matrix alone. -/
theorem usesPrimitiveSelection_congr (hbrief : input'.planningBrief = input.planningBrief)
    (hmatrix : input'.feasibleAssignmentMatrix = input.feasibleAssignmentMatrix) :
    usesPrimitiveSelection input' = usesPrimitiveSelection input := by
  rw [usesPrimitiveSelection, hbrief, hmatrix, usesPrimitiveSelection]

/-- **What the planner proposes** is worth what the oracle's plan is worth. -/
theorem runWith_proposeConstraintPlan
    (hinput : buildPlannerInvocationInput operation brief scenario previous feedback = .ok input)
    (hmode : usesPrimitiveSelection input = .ok selects)
    (hselect : selects = true → materializePrimitiveSelection materializedPlanId (selections n)
      input.feasibleAssignmentMatrix = .ok (plans n)) :
    ∃ proposal, (proposeConstraintPlan materializedPlanId brief scenario operation previous feedback).runWith
        (localAgent plans selections) l n = (.ok proposal, l, n + 1) ∧
      validateProposal proposal scenario preserved = verdictOn plans scenario preserved n := by
  have hverified : (verifyContext operation input).runWith (localAgent plans selections) l n = (.ok (), l, n) := by
    rw [verifyContext]
    split <;> rfl
  rw [proposeConstraintPlan, runWith_bind_ok (by rw [runWith_ofExcept, hinput]),
    runWith_bind_ok (by rw [runWith_ofExcept, hmode]), runWith_bind_ok hverified]
  cases selects with
  | true =>
    refine ⟨plans n, ?_, rfl⟩
    have hproposal : liftFailure (materializePrimitiveSelection materializedPlanId (selections n)
        input.feasibleAssignmentMatrix) = .ok (plans n) := liftFailure_eq_ok.mpr (hselect rfl)
    rw [plannerOutput, if_pos rfl, Prog.runWith]
    dsimp only [localAgent]
    rw [hproposal]
    rfl
  | false => exact ⟨notValidated (plans n), rfl, validateProposal_notValidated ..⟩

/-- What comes of a proposal of the planner. -/
theorem runWith_planLoop (hbrief : input.planningBrief = brief) (hmode : usesPrimitiveSelection input = .ok selects)
    (hselect : selects = true → materializePrimitiveSelection materializedPlanId (selections n)
      input.feasibleAssignmentMatrix = .ok (plans n))
    (hinput : ∃ given, buildPlannerInvocationInput operation brief scenario previous feedback = .ok given ∧
      given.planningBrief = brief ∧ given.feasibleAssignmentMatrix = input.feasibleAssignmentMatrix) :
    ∃ (proposal : RecoveryPlan) (attempt : PlanningAttempt),
      attempt.validation = validateProposal proposal scenario brief.preservedSegments ∧
      attempt.validation = verdictOn plans scenario brief.preservedSegments n ∧
      (planLoop materializedPlanId brief scenario remaining earlier operation previous feedback).runWith
          (localAgent plans selections) l n =
        (if attempt.validation.valid then (.ret { earlier, last := attempt } : Session PlanningAttempts)
        else
          match remaining with
          | 0 => .ret { earlier, last := attempt }
          | remaining + 1 =>
            planLoop materializedPlanId brief scenario remaining (earlier ++ [attempt]) .planRepair (some proposal)
              attempt.validation.issues).runWith
          (localAgent plans selections) l (n + 1) := by
  obtain ⟨given, hgiven, hsameBrief, hsameMatrix⟩ := hinput
  have hgivenMode := (usesPrimitiveSelection_congr (hsameBrief.trans hbrief.symm) hsameMatrix).trans hmode
  obtain ⟨proposal, hproposal, hverdict⟩ := runWith_proposeConstraintPlan hgiven hgivenMode (hsameMatrix ▸ hselect)
  refine ⟨proposal, nextAttempt scenario brief.preservedSegments earlier proposal, rfl, hverdict, ?_⟩
  rw [planLoop]
  exact runWith_bind_ok hproposal

/-- **The planner's session**, when what it selects are primitives of the matrix. -/
theorem sessionEnds_planLoop
    (hmatrix : buildFeasibleAssignmentMatrix scenario brief.affected brief.preserved =
      .ok input.feasibleAssignmentMatrix)
    (hbrief : input.planningBrief = brief) (hmode : usesPrimitiveSelection input = .ok selects)
    (hselect : selects = true → ∀ i < n + triesFrom (acceptedAt plans scenario brief.preservedSegments) remaining n,
      materializePrimitiveSelection materializedPlanId (selections i) input.feasibleAssignmentMatrix = .ok (plans i))
    (hinput : ∃ given, buildPlannerInvocationInput operation brief scenario previous feedback = .ok given ∧
      given.planningBrief = brief ∧ given.feasibleAssignmentMatrix = input.feasibleAssignmentMatrix) :
    SessionEnds plans scenario brief.preservedSegments remaining earlier l n
      ((planLoop materializedPlanId brief scenario remaining earlier operation previous feedback).runWith
        (localAgent plans selections) l n) := by
  induction remaining generalizing earlier operation previous feedback n with
  | zero =>
    obtain ⟨_, attempt, -, hverdict, hrun⟩ := runWith_planLoop hbrief hmode
      (fun hselects => hselect hselects n (Nat.lt_succ_self n)) hinput
    rw [hrun, runWith_ite]
    split
    · exact .last hverdict (Or.inr rfl)
    · exact .last hverdict (Or.inr rfl)
  | succ remaining ih =>
    have hpos : n < n + triesFrom (acceptedAt plans scenario brief.preservedSegments) (remaining + 1) n :=
      Nat.lt_add_of_pos_right (triedFrom_triesFrom _ _ n).pos
    obtain ⟨proposal, attempt, hvalidated, hverdict, hrun⟩ := runWith_planLoop hbrief hmode
      (fun hselects => hselect hselects n hpos) hinput
    rw [hrun, runWith_ite]
    split
    next hvalid => exact .last hverdict (Or.inl hvalid)
    next hinvalid =>
      have hissues : attempt.validation.issues ≠ [] := by
        rw [hvalidated] at hinvalid ⊢
        exact issues_ne_nil_of_not_valid hinvalid
      refine .next hverdict hinvalid (ih (fun hselects i hi => hselect hselects i ?_)
        (exists_repairInput hissues hmatrix))
      have hfails : ¬ acceptedAt plans scenario brief.preservedSegments n = true := fun haccepted =>
        hinvalid ((congrArg PlanValidationResult.valid hverdict).trans haccepted)
      rw [triesFrom, if_neg hfails]
      omega

/-! ### The session with the remote runtime -/

/-- The runtime's answer is the next response. -/
theorem runWith_invoke {request : AgentRuntimeRequest} :
    (invoke request).runWith (remoteRuntime responses) l n = (.ok (responses n), l, n + 1) := rfl

/-- **The session with the remote runtime**, in which a proposal is in hand when it begins. -/
theorem sessionEnds_repairLoop {requested : DemoScenario} {recoveryCaseId : Option String}
    {researchedCandidate : Option BackupCareCandidate} (hresponses : ∀ n, (responses n).planCandidate = plans n) :
    SessionEnds plans scenario preserved remaining earlier l n
      ((repairLoop requested scenario recoveryCaseId preserved researchedCandidate remaining earlier
        (plans n)).runWith (remoteRuntime responses) l (n + 1)) := by
  induction remaining generalizing earlier n with
  | zero => exact .last rfl (Or.inr rfl)
  | succ remaining ih =>
    rw [repairLoop, runWith_ite]
    split
    next hvalid => exact .last rfl (Or.inl hvalid)
    next hinvalid =>
      refine .next rfl hinvalid ?_
      rw [runWith_bind_ok runWith_invoke, hresponses]
      exact ih

/-! ### The three sessions -/

variable (plans scenario preserved) in
/-- How many proposals a session makes that is allowed all of them. -/
def proposalsMade : ℕ := triesFrom (acceptedAt plans scenario preserved) (maxPlanAttempts - 1) 0

variable (plans scenario preserved) in
/-- The verdict with which it ends. -/
def finalVerdict : PlanValidationResult :=
  verdictOn plans scenario preserved (proposalsMade plans scenario preserved - 1)

variable (plans scenario preserved) in
/-- The attempts are those of the proposals made, one by one. -/
structure Concludes (attempts : PlanningAttempts) : Prop where
  verdicts : attempts.verdicts =
    (List.range (proposalsMade plans scenario preserved)).map (verdictOn plans scenario preserved)
  last : attempts.last.validation = finalVerdict plans scenario preserved

/-- **A session that is allowed all proposals** makes those that the verdicts allow. -/
theorem SessionEnds.concludes (h : SessionEnds plans scenario preserved (maxPlanAttempts - 1) [] l 0 run) :
    ∃ attempts, run = (.ok attempts, l, proposalsMade plans scenario preserved) ∧
      Concludes plans scenario preserved attempts := by
  obtain ⟨attempts, hrun, hverdicts⟩ := h
  rw [Nat.zero_add] at hrun
  rw [List.map_nil, List.nil_append, ← List.range_eq_range'] at hverdicts
  refine ⟨attempts, hrun, hverdicts, ?_⟩
  have hpos : triesFrom (acceptedAt plans scenario preserved) (maxPlanAttempts - 1) 0 ≠ 0 :=
    Nat.ne_of_gt (triedFrom_triesFrom _ _ _).pos
  have hlast := congrArg List.getLast? hverdicts
  rw [PlanningAttempts.verdicts, List.map_append, List.map_singleton, List.getLast?_concat, List.getLast?_map,
    List.getLast?_range, if_neg hpos] at hlast
  exact Option.some.inj hlast

/-- As many attempts as there may be are allowed. -/
theorem runWith_checkMaxAttempts :
    (Prog.ofExcept (checkMaxAttempts maxPlanAttempts) : Session Unit).runWith (localAgent plans selections) l n =
      (.ok (), l, n) := rfl

/-- Where the planner's input cannot be built, its session fails before anything is proposed. -/
theorem runWith_runConstraintPlanning_error {e : PlanningFailure}
    (hinput : buildPlannerInvocationInput (initialOperation brief) brief scenario none [] = .error e) :
    (runConstraintPlanning materializedPlanId brief scenario maxPlanAttempts).runWith
        (localAgent plans selections) l n = (.error e, l, n) := by
  have hplan : (planLoop materializedPlanId brief scenario (maxPlanAttempts - 1) [] (initialOperation brief) none
      []).runWith (localAgent plans selections) l n = (.error e, l, n) := by
    rw [show maxPlanAttempts - 1 = 2 from rfl, planLoop]
    refine runWith_bind_error ?_
    rw [proposeConstraintPlan]
    exact runWith_bind_error (by rw [runWith_ofExcept, hinput])
  rw [runConstraintPlanning, runWith_bind_ok runWith_checkMaxAttempts]
  exact runWith_bind_error hplan

/-- **The three loops agree**, where the planner's input can be built, its mode is determined, and what it selects makes
the plans that are proposed. They make at most as many proposals as are allowed, all but the last one of which are
rejected; the verdicts on them are the same, and so is the outcome. -/
theorem repairLoops_agree {proposalPrompt repairScope : String} {requested : DemoScenario}
    {recoveryCaseId : Option String}
    (hinput : buildPlannerInvocationInput (initialOperation brief) brief scenario none [] = .ok input)
    (hmode : usesPrimitiveSelection input = .ok selects)
    (hselect : selects = true → ∀ i < proposalsMade plans scenario brief.preservedSegments,
      materializePrimitiveSelection materializedPlanId (selections i) input.feasibleAssignmentMatrix = .ok (plans i))
    (hresponses : ∀ n, (responses n).planCandidate = plans n) :
    TriedFrom (acceptedAt plans scenario brief.preservedSegments) maxPlanAttempts 0
        (proposalsMade plans scenario brief.preservedSegments) ∧
      ∃ drafted returned result,
        (runBoundedPlanAttempts scenario proposalPrompt maxPlanAttempts repairScope brief.preservedSegments).runWith
            (localAgent plans selections) l 0 =
          (.ok drafted, l, proposalsMade plans scenario brief.preservedSegments) ∧
        (validateWithRepairs (responses 0) requested scenario recoveryCaseId brief.preservedSegments).runWith
            (remoteRuntime responses) l 1 =
          (.ok returned, l, proposalsMade plans scenario brief.preservedSegments) ∧
        (runConstraintPlanning materializedPlanId brief scenario maxPlanAttempts).runWith
            (localAgent plans selections) l 0 =
          (.ok result, l, proposalsMade plans scenario brief.preservedSegments) ∧
        Concludes plans scenario brief.preservedSegments drafted ∧
        Concludes plans scenario brief.preservedSegments returned ∧
        Concludes plans scenario brief.preservedSegments result.attempts ∧
        result.success = (finalVerdict plans scenario brief.preservedSegments).valid ∧
        result.deterministicTotalCost =
          (finalVerdict plans scenario brief.preservedSegments).deterministicTotalCost ∧
        result.finalPlan = if (finalVerdict plans scenario brief.preservedSegments).valid then
          some (finalVerdict plans scenario brief.preservedSegments).validatedPlan else none := by
  obtain ⟨hbrief, hmatrix⟩ := buildPlannerInvocationInput_eq_ok hinput
  have hdraft : SessionEnds plans scenario brief.preservedSegments (maxPlanAttempts - 1) [] l 0
      ((draftLoop scenario repairScope brief.preservedSegments (maxPlanAttempts - 1) []
        (.proposal proposalPrompt)).runWith (localAgent plans selections) l 0) := sessionEnds_draftLoop
  have hrepair : SessionEnds plans scenario brief.preservedSegments (maxPlanAttempts - 1) [] l 0
      ((repairLoop requested scenario recoveryCaseId brief.preservedSegments (responses 0).researchedCandidate
        (maxPlanAttempts - 1) [] (plans 0)).runWith (remoteRuntime responses) l (0 + 1)) :=
    sessionEnds_repairLoop hresponses
  have hplan : SessionEnds plans scenario brief.preservedSegments (maxPlanAttempts - 1) [] l 0
      ((planLoop materializedPlanId brief scenario (maxPlanAttempts - 1) [] (initialOperation brief) none []).runWith
        (localAgent plans selections) l 0) :=
    sessionEnds_planLoop hmatrix hbrief hmode (by rwa [Nat.zero_add]) ⟨input, hinput, hbrief, rfl⟩
  obtain ⟨drafted, hdrafted, hdraftedConcludes⟩ := hdraft.concludes
  obtain ⟨planned, hplanned, hplannedConcludes⟩ := hplan.concludes
  obtain ⟨returned, hreturned, hreturnedConcludes⟩ := hrepair.concludes
  refine ⟨triedFrom_triesFrom _ (maxPlanAttempts - 1) 0, drafted, returned,
    buildPlanningResult planned.last.validation.valid planned, ?_, ?_, ?_, hdraftedConcludes, hreturnedConcludes,
    hplannedConcludes, ?_, ?_, ?_⟩
  · rw [runBoundedPlanAttempts, runWith_bind_ok runWith_checkMaxAttempts]
    exact hdrafted
  · rw [validateWithRepairs, hresponses]
    exact hreturned
  · rw [runConstraintPlanning, runWith_bind_ok runWith_checkMaxAttempts, runWith_bind_ok hplanned]
    rfl
  · exact congrArg PlanValidationResult.valid hplannedConcludes.last
  · exact congrArg PlanValidationResult.deterministicTotalCost hplannedConcludes.last
  · rw [buildPlanningResult, hplannedConcludes.last]

end Loops

/-! ### Two sitters -/

/-- A day on which one sitter follows the other. -/
def twoSitters : DemoScenario := day (minutes 0 120) [sitter "kim" [minutes 0 60], sitter "lee" [minutes 60 120]]

/-- A brief for replanning the whole day. -/
def replanTheDay : PlanningBrief :=
  { planningMode := .worldStateReplan
    planningRequired := true
    objective := "Find care for the day."
    requiredCoverageWindow := minutes 0 120
    affectedWindows := [minutes 0 120]
    relevantConstraintCategories := [.coverage]
    objective_length := ⟨Nat.le_of_ble_eq_true rfl, Nat.le_of_ble_eq_true rfl⟩
    categories_length := le_rfl
    directives_length := Nat.zero_le _ }

theorem nodup_bothIds : ["care:kim:0", "care:lee:3600000000"].Nodup := by decide

/-- The first selection forgets the second sitter. -/
def secondForgotten : ℕ → PrimitiveSelection
  | 0 => ⟨["care:kim:0"], List.cons_ne_nil _ _, List.nodup_singleton _⟩
  | _ + 1 => ⟨_, List.cons_ne_nil _ _, nodup_bothIds⟩

/-- The plans that the selections make. -/
def plansForTwo (n : ℕ) : RecoveryPlan :=
  let materialized := do
    let input ← buildPlannerInvocationInput .replanning replanTheDay twoSitters none []
    liftFailure (materializePrimitiveSelection (fun _ => "day") (secondForgotten n) input.feasibleAssignmentMatrix)
  materialized.toOption.getD { planId := "none", coverageSegments := [] }

/-- The responses that return them. -/
def responsesForTwo (n : ℕ) : AgentRuntimeResponse := { planCandidate := plansForTwo n }

/-- The first plan is rejected, and the second accepted. -/
theorem repairLoops_agree_twoSitters :
    ∃ drafted returned result,
      (runBoundedPlanAttempts twoSitters "Cover the day." maxPlanAttempts "the day" []).runWith
          (localAgent plansForTwo secondForgotten) [] 0 = (.ok drafted, [], 2) ∧
      (validateWithRepairs (responsesForTwo 0) twoSitters twoSitters none []).runWith
          (remoteRuntime responsesForTwo) [] 1 = (.ok returned, [], 2) ∧
      (runConstraintPlanning (fun _ => "day") replanTheDay twoSitters maxPlanAttempts).runWith
          (localAgent plansForTwo secondForgotten) [] 0 = (.ok result, [], 2) ∧
      result.success = true := by
  have hseen : (buildPlannerInvocationInput .replanning replanTheDay twoSitters none []).toOption.map (fun input =>
      (usesPrimitiveSelection input, (List.range 2).all fun i => (materializePrimitiveSelection (fun _ => "day")
        (secondForgotten i) input.feasibleAssignmentMatrix).toOption.isSome)) = some (.ok true, true) := by
    decide +kernel
  have hmade : proposalsMade plansForTwo twoSitters replanTheDay.preservedSegments = 2 := by decide +kernel
  have hvalid : (finalVerdict plansForTwo twoSitters replanTheDay.preservedSegments).valid = true := by decide +kernel
  obtain ⟨input, hinput, hfacts⟩ := exists_ok_of_toOption hseen
  obtain ⟨hmode, hmaterialized⟩ := Prod.mk.inj hfacts
  have hselect : true = true → ∀ i < proposalsMade plansForTwo twoSitters replanTheDay.preservedSegments,
      materializePrimitiveSelection (fun _ => "day") (secondForgotten i) input.feasibleAssignmentMatrix =
        .ok (plansForTwo i) := by
    intro _ i hi
    rw [hmade] at hi
    have hsome := List.all_eq_true.mp hmaterialized i (List.mem_range.mpr hi)
    unfold plansForTwo
    rw [hinput]
    cases hplan : materializePrimitiveSelection (fun _ => "day") (secondForgotten i) input.feasibleAssignmentMatrix with
    | ok plan => rw [ok_bind, hplan]; rfl
    | error e =>
      rw [hplan] at hsome
      cases hsome
  have hresponses (n : ℕ) : (responsesForTwo n).planCandidate = plansForTwo n := rfl
  obtain ⟨-, drafted, returned, result, hdrafted, hreturned, hresult, -, -, -, hsuccess, -⟩ :=
    repairLoops_agree (l := []) hinput hmode hselect hresponses
  rw [hmade] at hdrafted hreturned hresult
  exact ⟨drafted, returned, result, hdrafted, hreturned, hresult, hsuccess.trans hvalid⟩

/-- A brief that keeps two segments with one identifier. -/
def keepTwice : PlanningBrief :=
  { replanTheDay with
    affectedWindows := []
    preservedSegments :=
      [care "day" "kim" .caregiver (minutes 0 60), care "day" "lee" .caregiver (minutes 60 120)] }

/-- **Two segments with one identifier**: no matrix is built, and the planner is asked for nothing, while the single
agent succeeds with its second plan. -/
theorem keepTwice_disagrees :
    (runConstraintPlanning (fun _ => "day") keepTwice twoSitters maxPlanAttempts).runWith
        (localAgent plansForTwo secondForgotten) [] 0 =
      (.error (.failed (.valueError "feasible primitive IDs must be unique")), [], 0) ∧
    ∃ drafted,
      (runBoundedPlanAttempts twoSitters "Cover the day." maxPlanAttempts "the day" keepTwice.preservedSegments).runWith
          (localAgent plansForTwo secondForgotten) [] 0 = (.ok drafted, [], 2) ∧
      drafted.last.validation.valid = true := by
  have hinput : buildPlannerInvocationInput (initialOperation keepTwice) keepTwice twoSitters none [] =
      .error (.failed (.valueError "feasible primitive IDs must be unique")) := by
    have hnone : (buildFeasibleAssignmentMatrix twoSitters keepTwice.affected keepTwice.preserved).toOption.isNone =
        true := by decide +kernel
    have hno : ¬ ∃ matrix, buildFeasibleAssignmentMatrix twoSitters keepTwice.affected keepTwice.preserved =
        .ok matrix := by
      rintro ⟨matrix, hmatrix⟩
      rw [hmatrix] at hnone
      cases hnone
    rw [buildPlannerInvocationInput, buildFeasibleAssignmentMatrix_eq_error hno]
    rfl
  have hmade : proposalsMade plansForTwo twoSitters keepTwice.preservedSegments = 2 := by decide +kernel
  have hvalid : (finalVerdict plansForTwo twoSitters keepTwice.preservedSegments).valid = true := by decide +kernel
  have hdraft : SessionEnds plansForTwo twoSitters keepTwice.preservedSegments (maxPlanAttempts - 1) [] [] 0
      ((draftLoop twoSitters "the day" keepTwice.preservedSegments (maxPlanAttempts - 1) []
        (.proposal "Cover the day.")).runWith (localAgent plansForTwo secondForgotten) [] 0) := sessionEnds_draftLoop
  obtain ⟨drafted, hdrafted, hconcludes⟩ := hdraft.concludes
  refine ⟨runWith_runConstraintPlanning_error hinput, drafted, ?_, ?_⟩
  · rw [runBoundedPlanAttempts, runWith_bind_ok runWith_checkMaxAttempts, hdrafted, hmade]
  · rw [hconcludes.last, hvalid]

end DayMend.Agent
