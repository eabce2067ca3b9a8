import DayMend.Agent.Location

/-!
# Where the agents are, in initial planning

As in replanning, a remote runtime comes to what local agents may come to
(`outcome_planInitial_iff`), but for two differences. When a provider has been researched,
a local planner is told so in one directive more (`told`). And without the research of
`multi_research`, the runtime does not go on when the orchestrator asks for research all the
same, where local agents do (`obedient`).
-/

namespace DayMend.Agent

open DayMend.Base DayMend.Models DayMend.Fixtures DayMend.Services

variable {materializedPlanId : List String → String} {host architecture : AgentArchitecture}
  {agents agents' : (question : AgentQuestion) → AgentAnswer question → Prop} {disruption : String}
  {scenario facts : DemoScenario} {brief : PlanningBrief} {work : PlanningWork} {operation : PlannerOperation}
  {previous : Option RecoveryPlan} {feedback : List PlanValidationIssue} {proposal : RecoveryPlan}

/-! ### What a local planner is told -/

/-- The brief as a local planner is given it. -/
def PlanningBrief.told (brief : PlanningBrief) : PlanningBrief :=
  if brief.planningMode = .initial ∧ brief.recommendedBackupCareCandidateId.isSome then brief.directed else brief

@[simp] theorem PlanningBrief.planningMode_told : brief.told.planningMode = brief.planningMode := by
  unfold told
  split <;> rfl

@[simp] theorem PlanningBrief.affectedWindows_told : brief.told.affectedWindows = brief.affectedWindows := by
  unfold told
  split <;> rfl

@[simp] theorem PlanningBrief.affectedSegments_told : brief.told.affectedSegments = brief.affectedSegments := by
  unfold told
  split <;> rfl

@[simp] theorem PlanningBrief.preservedSegments_told : brief.told.preservedSegments = brief.preservedSegments := by
  unfold told
  split <;> rfl

/-- A planner's input with the brief as a local planner is given it. -/
def PlannerInvocationInput.told (input : PlannerInvocationInput) : PlannerInvocationInput :=
  { input with planningBrief := input.planningBrief.told }

/-- Agents who are told, of a researched provider, what local agents are told. -/
def told (agents : (question : AgentQuestion) → AgentAnswer question → Prop) :
    (question : AgentQuestion) → AgentAnswer question → Prop
  | .plan facts (.verifyContext input), answer => agents (.plan facts (.verifyContext input.told)) answer
  | .plan facts (.select input), answer => agents (.plan facts (.select input.told)) answer
  | .plan facts (.propose input), answer => agents (.plan facts (.propose input.told)) answer
  | question, answer => agents question answer

/-- Apart from the brief, the input is the same. -/
theorem buildPlannerInvocationInput_told :
    buildPlannerInvocationInput operation brief.told scenario previous feedback =
      (buildPlannerInvocationInput operation brief scenario previous feedback).map PlannerInvocationInput.told := by
  unfold buildPlannerInvocationInput PlanningBrief.affected PlanningBrief.preserved
  simp only [PlanningBrief.planningMode_told, PlanningBrief.affectedWindows_told, PlanningBrief.affectedSegments_told,
    PlanningBrief.preservedSegments_told]
  cases liftFailure (buildFeasibleAssignmentMatrix scenario
    (if brief.planningMode = .worldStateReplan then some brief.affectedWindows else none)
    (if brief.planningMode = .worldStateReplan then some brief.preservedSegments else none)) with
  | error e => rfl
  | ok matrix =>
    change (if _ : _ then _ else _) = Except.map _ (if _ : _ then _ else _)
    split
    · rfl
    · rfl

/-- So is the mode of selection. -/
theorem usesPrimitiveSelection_told {input : PlannerInvocationInput} :
    usesPrimitiveSelection input.told = usesPrimitiveSelection input := by
  unfold usesPrimitiveSelection PlannerInvocationInput.told
  simp only [PlanningBrief.planningMode_told]

/-- A session that asks goes on from the answer. -/
theorem outcome_ask_on {α : Type} {call : AgentCall} {next : AgentOutput call → Session α} {a : α} :
    (Session.on facts (.ask call next)).Outcome agents (.ok a) ↔
      ∃ output : AgentOutput call, agents (.plan facts call) (.ok output) ∧
        ((next output).on facts).Outcome agents (.ok a) := by
  change (askForPlan facts call >>= fun output => (next output).on facts).Outcome agents (.ok a) ↔ _
  rw [outcome_bind_ok]
  refine exists_congr fun output => and_congr ?_ Iff.rfl
  constructor
  · rintro ⟨answer, hanswer, h⟩
    obtain rfl := outcome_ofExcept.mp h
    exact hanswer
  · intro h
    exact ⟨.ok output, h, rfl⟩

section Input

variable {input : PlannerInvocationInput}

/-- The planner's question before replanning. -/
theorem outcome_verifyContext_told :
    ((verifyContext operation input).on facts).Outcome (told agents) (.ok ()) ↔
      ((verifyContext operation input.told).on facts).Outcome agents (.ok ()) := by
  unfold verifyContext
  split
  · rw [outcome_ask_on, outcome_ask_on]
    exact Iff.rfl
  · exact Iff.rfl

/-- The planner's question for an output. -/
theorem outcome_plannerOutput_told {selectionRequired : Bool} :
    ((plannerOutput materializedPlanId input selectionRequired).on facts).Outcome (told agents) (.ok proposal) ↔
      ((plannerOutput materializedPlanId input.told selectionRequired).on facts).Outcome agents (.ok proposal) := by
  unfold plannerOutput
  split
  · rw [outcome_ask_on, outcome_ask_on]
    refine exists_congr fun output => and_congr Iff.rfl ?_
    cases output with
    | none => exact Iff.rfl
    | some selection =>
      rw [Session.on, Session.on, interpret_ofExcept, interpret_ofExcept, outcome_ofExcept, outcome_ofExcept]
      exact Iff.rfl
  · rw [outcome_ask_on, outcome_ask_on]
    refine exists_congr fun output => and_congr Iff.rfl ?_
    cases output with
    | none => exact Iff.rfl
    | some output => exact Iff.rfl

end Input

/-- **Told or not**: a planner who is given the one brief proposes what a planner who is told so proposes of the
other. -/
theorem proposes_told :
    Wire.Proposes materializedPlanId (told agents) brief facts operation previous feedback proposal ↔
      Wire.Proposes materializedPlanId agents brief.told facts operation previous feedback proposal := by
  unfold Wire.Proposes proposeConstraintPlan
  rw [buildPlannerInvocationInput_told]
  cases buildPlannerInvocationInput operation brief facts previous feedback with
  | error e => exact Iff.rfl
  | ok input =>
    have hsession : ∀ {env : (question : AgentQuestion) → AgentAnswer question → Prop} {given : PlannerInvocationInput},
        (Session.on facts (do
          let selectionRequired ← Prog.ofExcept (usesPrimitiveSelection given)
          verifyContext operation given
          plannerOutput materializedPlanId given selectionRequired)).Outcome env (.ok proposal) ↔
        ∃ selectionRequired, usesPrimitiveSelection given = .ok selectionRequired ∧
          ((verifyContext operation given).on facts).Outcome env (.ok ()) ∧
          ((plannerOutput materializedPlanId given selectionRequired).on facts).Outcome env (.ok proposal) := by
      intro env given
      rw [Session.on, interpret_bind, outcome_bind_ok, interpret_ofExcept]
      refine exists_congr fun selectionRequired => and_congr outcome_liftPlanning ?_
      rw [interpret_bind, outcome_bind_ok]
      constructor
      · rintro ⟨_, h⟩
        exact h
      · exact fun h => ⟨(), h⟩
    refine Iff.trans hsession (Iff.trans (exists_congr fun _ => ?_) hsession.symm)
    rw [usesPrimitiveSelection_told]
    exact and_congr Iff.rfl (and_congr outcome_verifyContext_told outcome_plannerOutput_told)

/-! ### What an orchestrator asks for -/

/-- Agents among whom an orchestrator that is shown no need for research asks for none. -/
def obedient (agents : (question : AgentQuestion) → AgentAnswer question → Prop) :
    (question : AgentQuestion) → AgentAnswer question → Prop
  | .initialBrief facts disruption none, answer =>
    agents (.initialBrief facts disruption none) answer ∧
      ∀ brief : PlanningBrief, (answer : Except ReasoningFailure (Option PlanningBrief)) = .ok (some brief) →
        brief.backupResearchNeeded = false
  | question, answer => agents question answer

/-- The questions that a planner is asked. -/
def AgentQuestion.OfPlanner : AgentQuestion → Prop
  | .plan _ _ => True
  | _ => False

theorem asks_askAgent {kind : AgentQuestion → Prop} {question : AgentQuestion} (h : kind question) :
    (askAgent question).Asks kind := ⟨h, fun answer => Prog.asks_ofExcept answer⟩

/-- A planner's proposal depends on the planner only. -/
theorem proposes_obedient :
    Wire.Proposes materializedPlanId (obedient agents) brief facts operation previous feedback proposal ↔
      Wire.Proposes materializedPlanId agents brief facts operation previous feedback proposal := by
  have hasks : ((proposeConstraintPlan materializedPlanId brief facts operation previous feedback).on facts).Asks
      AgentQuestion.OfPlanner := by
    refine Prog.Asks.interpret fun call => ?_
    exact asks_askAgent trivial
  refine hasks.outcome_iff fun question hquestion answer => ?_
  cases question with
  | plan facts call => exact Iff.rfl
  | _ => exact hquestion.elim

/-! ### The work -/

section Work

variable {need : RecoveryNeed} {update : BackupCareResearchResult → BackupCareCandidate → PlanningBrief}

theorem asks_researchWork :
    (researchWork scenario need brief update).Asks fun question => ∃ facts windows considered,
      question = .research facts windows considered := by
  refine Prog.Asks.bind ?_ fun run => Prog.Asks.bind (Prog.asks_ofExcept _) fun selection => trivial
  refine Prog.Asks.bind (Prog.asks_ofExcept _) fun _ => Prog.Asks.bind (Prog.asks_ofExcept _) fun _ => ?_
  exact Prog.Asks.bind (asks_askAgent ⟨_, _, _, rfl⟩) fun _ => Prog.asks_ofExcept _

/-- What research comes to does not depend on what the planner is told. -/
theorem outcome_researchWork_told :
    (researchWork scenario need brief update).Outcome (told agents) (.ok work) ↔
      (researchWork scenario need brief update).Outcome (obedient agents) (.ok work) := by
  refine asks_researchWork.outcome_iff ?_
  rintro question ⟨facts, windows, considered, rfl⟩ answer
  exact Iff.rfl

/-- Shown a need, an orchestrator may ask for research. -/
theorem outcome_createInitialBrief_some :
    (createInitialBrief disruption scenario (some need)).Outcome (obedient agents) (.ok brief) ↔
      (createInitialBrief disruption scenario (some need)).Outcome (told agents) (.ok brief) := by
  rw [outcome_createInitialBrief, outcome_createInitialBrief]
  exact Iff.rfl

/-- Shown none, an obedient one does not. -/
theorem outcome_createInitialBrief_none :
    (createInitialBrief disruption scenario none).Outcome (obedient agents) (.ok brief) ↔
      (createInitialBrief disruption scenario none).Outcome (told agents) (.ok brief) ∧
        brief.backupResearchNeeded = false := by
  rw [outcome_createInitialBrief, outcome_createInitialBrief]
  constructor
  · rintro ⟨output, ⟨hanswer, hobedient⟩, hcreated⟩
    refine ⟨⟨output, hanswer, hcreated⟩, ?_⟩
    have hresearch := (createInitialPlanningBrief_research hcreated).2 rfl
    cases output with
    | none => cases hresearch
    | some proposed => exact (Option.some.inj hresearch).symm.trans (hobedient proposed rfl)
  · rintro ⟨⟨output, hanswer, hcreated⟩, hneeded⟩
    refine ⟨output, ⟨hanswer, fun proposed heq => ?_⟩, hcreated⟩
    have hresearch := (createInitialPlanningBrief_research hcreated).2 rfl
    rw [Except.ok.inj heq] at hresearch
    exact (Option.some.inj hresearch).trans hneeded

/-- A brief that recommends nobody is told as it is. -/
theorem PlanningBrief.told_of_none (h : brief.recommendedBackupCareCandidateId = none) : brief.told = brief :=
  if_neg fun hsome => by simp [h] at hsome

/-- A brief that recommends somebody for an initial plan is told with the directive. -/
theorem PlanningBrief.told_recommending {result : BackupCareResearchResult} {candidate : BackupCareCandidate}
    (h : brief.planningMode = .initial) :
    (brief.recommending result candidate).told = (brief.recommending result candidate).directed :=
  if_pos ⟨h, rfl⟩

/-- The work of local agents for an initial plan. -/
def localInitialWork (architecture : AgentArchitecture) (disruption : String) (scenario : DemoScenario) :
    Reasoning PlanningWork :=
  match architecture with
  | .multiResearch => researchedInitialWork disruption scenario
  | _ => createInitialBrief disruption scenario none >>= fun brief => .ret { brief, scenario }

/-- The orchestrator's own brief recommends nobody. -/
theorem told_of_createInitialBrief {need : Option RecoveryNeed}
    (h : (createInitialBrief disruption scenario need).Outcome agents (.ok brief)) : brief.told = brief := by
  obtain ⟨output, -, hcreated⟩ := outcome_createInitialBrief.mp h
  exact PlanningBrief.told_of_none (createInitialPlanningBrief_research hcreated).1

attribute [local irreducible] assessKnownOptionRecoveryNeed

/-- Without research, the runtime goes on with a brief that asks for none. -/
theorem outcome_initialWork_multi :
    (Wire.initialWork AgentArchitecture.multi.value disruption scenario none).Outcome agents (.ok work) ↔
      ∃ brief, (createInitialBrief disruption scenario none).Outcome agents (.ok brief) ∧
        brief.backupResearchNeeded = false ∧ work = { brief, scenario } := by
  constructor
  · intro h
    obtain ⟨need, hneed, h⟩ := outcome_bind_ok.mp h
    obtain rfl := Except.ok.inj (outcome_ofExcept.mp hneed)
    obtain ⟨brief, hbrief, h⟩ := outcome_bind_ok.mp h
    split at h
    · cases h
    next hneeded => exact ⟨brief, hbrief, by simpa using hneeded, Except.ok.inj h⟩
  · rintro ⟨brief, hbrief, hneeded, rfl⟩
    refine outcome_bind_ok.mpr ⟨none, rfl, outcome_bind_ok.mpr ⟨brief, hbrief, ?_⟩⟩
    rw [if_neg (by simp [hneeded])]
    rfl

/-- With research, it looks for a provider if the brief asks for one. -/
theorem outcome_initialWork_multiResearch :
    (Wire.initialWork AgentArchitecture.multiResearch.value disruption scenario none).Outcome agents (.ok work) ↔
      ∃ need brief, assessKnownOptionRecoveryNeed scenario none none = .ok need ∧
        (createInitialBrief disruption scenario (some need)).Outcome agents (.ok brief) ∧
          if brief.backupResearchNeeded then
            (researchWork scenario need brief brief.recommending).Outcome agents (.ok work)
          else work = { brief, scenario } := by
  constructor
  · intro h
    obtain ⟨need, hneed, h⟩ := outcome_bind_ok.mp h
    obtain ⟨brief, hbrief, h⟩ := outcome_bind_ok.mp h
    obtain ⟨assessed, hassessed, rfl⟩ := map_eq_ok.mp (outcome_ofExcept.mp hneed).symm
    refine ⟨assessed, brief, liftServices_eq_ok.mp hassessed, hbrief, ?_⟩
    split at h
    next hneeded =>
      rw [if_pos hneeded]
      exact h
    next hneeded =>
      rw [if_neg hneeded]
      exact Except.ok.inj h
  · rintro ⟨need, brief, hneed, hbrief, h⟩
    have hassessed : Wire.recoveryNeedFor AgentArchitecture.multiResearch.value scenario = .ok (some need) := by
      rw [Wire.recoveryNeedFor, hneed]
      rfl
    refine outcome_bind_ok.mpr ⟨some need, outcome_ofExcept.mpr hassessed.symm, outcome_bind_ok.mpr ⟨brief, hbrief, ?_⟩⟩
    split at h
    next hneeded =>
      rw [if_pos hneeded]
      exact h
    next hneeded =>
      rw [if_neg hneeded, h]
      rfl

/-- So do local agents. -/
theorem outcome_researchedInitialWork :
    (researchedInitialWork disruption scenario).Outcome agents (.ok work) ↔
      ∃ need brief, assessKnownOptionRecoveryNeed scenario none none = .ok need ∧
        (createInitialBrief disruption scenario (some need)).Outcome agents (.ok brief) ∧
          if brief.backupResearchNeeded then
            ∃ before, (researchWork scenario need brief brief.recommending).Outcome agents (.ok before) ∧
              work = { before with brief := before.brief.directed }
          else work = { brief, scenario } := by
  rw [researchedInitialWork, outcome_bind_ok]
  refine exists_congr fun need => ?_
  rw [outcome_liftServices, outcome_bind_ok, ← exists_and_left]
  refine exists_congr fun brief => and_congr Iff.rfl (and_congr Iff.rfl ?_)
  split
  · exact outcome_researchWork_update PlanningBrief.directed
  · exact outcome_ret_ok

/-- **The work is the same** at both ends, but for what the planner is told. -/
theorem outcome_localInitialWork (harchitecture : architecture ≠ .single) :
    (localInitialWork architecture disruption scenario).Outcome (obedient agents) (.ok work) ↔
      ∃ before, (Wire.initialWork architecture.value disruption scenario none).Outcome (told agents) (.ok before) ∧
        work = { before with brief := before.brief.told } := by
  cases architecture with
  | single => exact absurd rfl harchitecture
  | multi =>
    simp only [localInitialWork, outcome_bind_ok, outcome_ret_ok, outcome_createInitialBrief_none,
      outcome_initialWork_multi]
    constructor
    · rintro ⟨brief, ⟨hbrief, hneeded⟩, rfl⟩
      exact ⟨_, ⟨brief, hbrief, hneeded, rfl⟩, by rw [told_of_createInitialBrief hbrief]⟩
    · rintro ⟨_, ⟨brief, hbrief, hneeded, rfl⟩, rfl⟩
      exact ⟨brief, ⟨hbrief, hneeded⟩, by rw [told_of_createInitialBrief hbrief]⟩
  | multiResearch =>
    simp only [localInitialWork, outcome_researchedInitialWork, outcome_createInitialBrief_some,
      ← outcome_researchWork_told, outcome_initialWork_multiResearch]
    constructor
    · rintro ⟨need, brief, hneed, hbrief, h⟩
      split at h
      next hneeded =>
        obtain ⟨before, hbefore, rfl⟩ := h
        obtain ⟨-, result, candidate, heq, -⟩ := of_researchWork hbefore
        obtain ⟨output, -, hcreated⟩ := outcome_createInitialBrief.mp hbrief
        refine ⟨before, ⟨need, brief, hneed, hbrief, by rwa [if_pos hneeded]⟩, ?_⟩
        rw [heq, PlanningBrief.told_recommending (of_createInitialPlanningBrief hcreated).1]
      next hneeded =>
        refine ⟨{ brief, scenario }, ⟨need, brief, hneed, hbrief, by rw [if_neg hneeded]⟩, ?_⟩
        rw [h, told_of_createInitialBrief hbrief]
    · rintro ⟨before, ⟨need, brief, hneed, hbrief, h⟩, rfl⟩
      refine ⟨need, brief, hneed, hbrief, ?_⟩
      split at h
      next hneeded =>
        obtain ⟨-, result, candidate, heq, -⟩ := of_researchWork h
        obtain ⟨output, -, hcreated⟩ := outcome_createInitialBrief.mp hbrief
        rw [if_pos hneeded]
        refine ⟨before, h, ?_⟩
        rw [heq, PlanningBrief.told_recommending (of_createInitialPlanningBrief hcreated).1]
      next hneeded => rw [if_neg hneeded, h, told_of_createInitialBrief hbrief]

end Work

/-! ### Sessions -/

/-- The work of local agents is for an initial plan, in which nothing is to be kept. -/
theorem of_localInitialWork (harchitecture : architecture ≠ .single)
    (h : (localInitialWork architecture disruption scenario).Outcome agents (.ok work)) :
    work.brief.planningMode = .initial ∧ work.brief.preservedSegments = [] := by
  cases architecture with
  | single => exact absurd rfl harchitecture
  | multi =>
    obtain ⟨brief, hbrief, h⟩ := outcome_bind_ok.mp h
    obtain rfl := outcome_ret_ok.mp h
    obtain ⟨output, -, hcreated⟩ := outcome_createInitialBrief.mp hbrief
    exact of_createInitialPlanningBrief hcreated
  | multiResearch =>
    obtain ⟨need, brief, -, hbrief, h⟩ := outcome_researchedInitialWork.mp h
    obtain ⟨output, -, hcreated⟩ := outcome_createInitialBrief.mp hbrief
    split at h
    · obtain ⟨before, hbefore, rfl⟩ := h
      obtain ⟨-, result, candidate, heq, -⟩ := of_researchWork hbefore
      have hinitial := of_createInitialPlanningBrief hcreated
      rw [heq]
      exact hinitial
    · rw [h]
      exact of_createInitialPlanningBrief hcreated

/-- What local agents may come to for an initial plan. -/
theorem outcome_strandsPlanInitial (harchitecture : architecture ≠ .single) {result : InitialPlanningResult} :
    (strandsPlanInitial materializedPlanId architecture disruption scenario).Outcome agents (.ok result) ↔
      ∃ work proposal attempts, (localInitialWork architecture disruption scenario).Outcome agents (.ok work) ∧
        Wire.Proposes materializedPlanId agents work.brief work.scenario .initialPlanning none [] proposal ∧
        Wire.RepairsFrom
          (fun plan => Wire.Proposes materializedPlanId agents work.brief work.scenario .planRepair (some plan))
          work.scenario [] (maxPlanAttempts - 1) [] proposal attempts ∧
        result = { buildPlanningResult attempts.last.validation.valid attempts with
          researchedCandidate := work.researchedCandidate } := by
  have hsession : (strandsPlanInitial materializedPlanId architecture disruption scenario).Outcome agents (.ok result) ↔
      ∃ work planning, (localInitialWork architecture disruption scenario).Outcome agents (.ok work) ∧
        (planWork materializedPlanId work).Outcome agents (.ok planning) ∧
        result = { planning with researchedCandidate := work.researchedCandidate } := by
    cases architecture with
    | single => exact absurd rfl harchitecture
    | multi =>
      simp only [strandsPlanInitial, runMultiAgentInitialPlanning, localInitialWork, outcome_bind_ok, outcome_ret_ok]
      constructor
      · rintro ⟨brief, hbrief, h⟩
        refine ⟨{ brief, scenario }, result, ⟨brief, hbrief, rfl⟩, h, ?_⟩
        obtain ⟨proposal, attempts, -, -, rfl⟩ := Wire.outcome_planWork.mp h
        rfl
      · rintro ⟨_, planning, ⟨brief, hbrief, rfl⟩, h, rfl⟩
        refine ⟨brief, hbrief, ?_⟩
        obtain ⟨proposal, attempts, -, -, rfl⟩ := Wire.outcome_planWork.mp h
        exact h
    | multiResearch =>
      simp only [strandsPlanInitial, runResearchMultiAgentInitialPlanning, localInitialWork, outcome_bind_ok,
        outcome_pure, Except.ok.injEq, exists_and_left]
  rw [hsession]
  refine exists_congr fun work => ?_
  constructor
  · rintro ⟨planning, hwork, hplanning, rfl⟩
    obtain ⟨hmode, hpreserved⟩ := of_localInitialWork harchitecture hwork
    obtain ⟨proposal, attempts, hproposal, hrepairs, rfl⟩ := Wire.outcome_planWork.mp hplanning
    rw [initialOperation, if_pos hmode] at hproposal
    rw [hpreserved] at hrepairs
    exact ⟨proposal, attempts, hwork, hproposal, hrepairs, rfl⟩
  · rintro ⟨proposal, attempts, hwork, hproposal, hrepairs, rfl⟩
    obtain ⟨hmode, hpreserved⟩ := of_localInitialWork harchitecture hwork
    refine ⟨_, hwork, Wire.outcome_planWork.mpr ⟨proposal, attempts, ?_, ?_, rfl⟩, rfl⟩
    · rw [initialOperation, if_pos hmode]
      exact hproposal
    · rw [hpreserved]
      exact hrepairs

/-- **An initial plan, wherever the agents are.** With a remote runtime, whatever the network does, a disruption without
a description is rejected; or the runtime fails safely; or the result is one that local agents could have come to, whose
planner is told the same and whose orchestrator is obedient. And every such result is one that a remote runtime may come
to. -/
theorem outcome_planInitial_iff (hhost : host ≠ .single) (harchitecture : architecture ≠ .single)
    {r : Except ReasoningFailure InitialPlanningResult} :
    (Wire.planInitial (Wire.agentCoreInvoker materializedPlanId host) architecture disruption scenario).Outcome
        (Wire.remoteEnv (told agents)) r ↔
      disruption = "" ∧ r = .error (.planning (.validationError "AgentRuntimeRequest")) ∨
      disruption ≠ "" ∧ (r = .error (Wire.invocationError Wire.failedSafely) ∨
        ∃ result, r = .ok result ∧
          (strandsPlanInitial materializedPlanId architecture disruption scenario).Outcome (obedient agents)
            (.ok result)) := by
  have hremote : Wire.planInitial (Wire.agentCoreInvoker materializedPlanId host) architecture disruption scenario =
      Wire.remoteSession materializedPlanId host architecture (Wire.initialFields disruption scenario) scenario none []
        fun attempts candidate => { buildPlanningResult attempts.last.validation.valid attempts with
          researchedCandidate := candidate } := rfl
  rw [hremote]
  by_cases hdisruption : disruption = ""
  · have hinvalid : ∀ id, ¬ (Wire.initialFields disruption scenario id architecture.value).Contract :=
      fun _ h => (h.initial rfl).2 (congrArg some hdisruption)
    rw [Wire.outcome_remoteSession_invalid hinvalid]
    constructor
    · intro h
      exact Or.inl ⟨hdisruption, h⟩
    · rintro (⟨-, h⟩ | ⟨hne, -⟩)
      · exact h
      · exact absurd hdisruption hne
  · have hproposes : ∀ brief facts, Wire.Proposes materializedPlanId (obedient agents) brief.told facts =
        Wire.Proposes materializedPlanId (told agents) brief facts := by
      intro brief facts
      funext operation previous feedback proposal
      exact propext (proposes_obedient.trans proposes_told.symm)
    rw [Wire.outcome_remoteSession hhost harchitecture
      (fun _ hid => Wire.contract_initialFields hdisruption harchitecture hid)
      (fun _ _ _ => Iff.rfl) (fun _ _ _ _ => Iff.rfl) (fun _ hwork => (Wire.of_initialWork hwork).1.facts)]
    simp only [outcome_strandsPlanInitial harchitecture, outcome_localInitialWork harchitecture, hdisruption, ne_eq,
      not_false_eq_true, false_and, true_and, false_or]
    refine or_congr Iff.rfl ?_
    constructor
    · rintro ⟨work, proposal, attempts, hwork, hproposal, hrepairs, rfl⟩
      refine ⟨_, rfl, _, proposal, attempts, ⟨work, hwork, rfl⟩, ?_, ?_, rfl⟩
      · rw [hproposes]
        exact hproposal
      · simp only [hproposes]
        exact hrepairs
    · rintro ⟨_, rfl, _, proposal, attempts, ⟨work, hwork, rfl⟩, hproposal, hrepairs, rfl⟩
      simp only [hproposes] at hproposal hrepairs
      exact ⟨work, proposal, attempts, hwork, hproposal, hrepairs, rfl⟩

theorem sendsLee_obedient : ∀ question, obedient Wire.SendsLee question (Wire.sendingLee question)
  | .initialBrief facts disruption none => ⟨rfl, by rintro _ ⟨⟩; rfl⟩
  | .initialBrief facts disruption (some need) => rfl
  | .analyzeDisruption facts disruption => rfl
  | .analyzeDecline facts outcome => rfl
  | .plan facts call => Wire.sendsLee (.plan facts call)
  | .replanningDecision facts scope => rfl
  | .replanningRetry facts scope => rfl
  | .research facts requestedWindows alreadyConsideredCaregiverIds => rfl

theorem outcome_planInitial_iff_twoSittersDay :
    ∃ result, Wire.whoComes result.finalPlan = some ["lee"] ∧
      (Wire.planInitial (Wire.agentCoreInvoker (fun ids => ", ".intercalate ids) .multi) .multi
        "The nanny is unavailable." Wire.twoSittersDay).Outcome (Wire.remoteEnv (told Wire.SendsLee)) (.ok result) := by
  have hseen : (advances Wire.sendingLee 20 (([] : List RecoveryCase), strandsPlanInitial
      (fun ids => ", ".intercalate ids) .multi "The nanny is unavailable." Wire.twoSittersDay)).2.result?.map
        (fun result => Wire.whoComes result.finalPlan) = some (some ["lee"]) := by decide +kernel
  obtain ⟨result, hresult, hwho⟩ := Option.map_eq_some_iff.mp hseen
  exact ⟨result, hwho, (outcome_planInitial_iff (by decide) (by decide)).mpr (Or.inr ⟨by decide,
    Or.inr ⟨result, rfl, Wire.outcome_of_result? sendsLee_obedient onlyAsks_strandsPlanInitial hresult⟩⟩)⟩

end DayMend.Agent
