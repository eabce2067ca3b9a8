import DayMend.Agent.AgentCoreGateway
import DayMend.Agent.RepairLoops
import DayMend.Validation.Agreement
import DayMend.Validation.DeadEnds
import DayMend.Validation.Worlds

/-!
# Where the agents are makes no difference

The application can ask its agents itself (`strandsPlanInitial`, `strandsReplan`), or have a
remote runtime ask them one request at a time, over a network that loses messages
(`Wire.planInitial`, `Wire.replan` with `Wire.agentCoreInvoker`). The plans that may come of
it are the same: a brief, an outcome and a provider survive the transport, each repair
finds the facts of the first proposal again, and a request that is carried out twice
changes nothing, since the runtime keeps nothing.

For replanning this holds as it stands (`outcome_replan_iff`). In initial planning the local
planner is told one thing more, when a provider has been researched, and the runtime does
not follow an orchestrator that asks for research on its own (`outcome_planInitial_iff`).
-/

namespace DayMend.Agent.Wire

open DayMend.Base DayMend.Models DayMend.Fixtures DayMend.Services

variable {materializedPlanId : List String → String} {host architecture : AgentArchitecture}
  {agents : (question : AgentQuestion) → AgentAnswer question → Prop} {request : AgentRuntimeRequest}
  {response : AgentRuntimeResponse}

/-! ### The network and the client -/

/-- What the runtime's session may come to is what the session may come to. -/
theorem outcome_atRuntime {α : Type} {session : Reasoning α} {r : Except ReasoningFailure α} :
    (atRuntime session).Outcome (remoteEnv agents) r ↔ session.Outcome agents r := by
  have hhandle : ∀ question, (askRemotely question).Replies (remoteEnv agents) (agents question) :=
    fun question => replies_ask (RemoteQuestion.agent question)
  refine Iff.trans (outcome_interpret hhandle) ?_
  constructor
  · rintro ⟨x, hx, rfl⟩
    cases x with
    | ok a => exact hx
    | error e => exact hx
  · intro h
    refine ⟨r, h, ?_⟩
    cases r <;> rfl

/-- **What the network brings back**: a failure, or a response that the runtime may give. -/
theorem outcome_deliver {reply : Except ReasoningFailure TransportReply} :
    (deliver materializedPlanId host request).Outcome (remoteEnv agents) reply ↔
      reply = .ok .connectionFailed ∨ reply = .ok .failed ∨ ∃ response, reply = .ok (.response response) ∧
        (executeRuntimeRequest materializedPlanId host request).Outcome agents (.ok response) := by
  constructor
  · rintro ⟨delivery, -, h⟩
    cases delivery with
    | connectionFailed => exact Or.inl h
    | failed => exact Or.inr (Or.inl h)
    | delivered =>
      rcases outcome_bind.mp h with ⟨executed, hexecuted, ⟨responded, -, hreply⟩⟩ | ⟨e, he, -⟩
      · obtain ⟨x, hx, hsession⟩ := outcome_attempt.mp hexecuted
        obtain rfl := Except.ok.inj hx
        obtain rfl : reply = .ok (transported executed responded) := hreply
        cases responded with
        | connectionFailed => exact Or.inl rfl
        | failed => exact Or.inr (Or.inl rfl)
        | delivered =>
          cases executed with
          | error e => exact Or.inr (Or.inl rfl)
          | ok response => exact Or.inr (Or.inr ⟨response, rfl, outcome_atRuntime.mp hsession⟩)
      · obtain ⟨x, hx, -⟩ := outcome_attempt.mp he
        cases hx
  · rintro (rfl | rfl | ⟨response, rfl, h⟩)
    · exact ⟨Delivery.connectionFailed, trivial, rfl⟩
    · exact ⟨Delivery.failed, trivial, rfl⟩
    · refine ⟨Delivery.delivered, trivial, outcome_bind.mpr (Or.inl ⟨.ok response, ?_, ?_⟩)⟩
      · exact outcome_attempt.mpr ⟨.ok response, rfl, outcome_atRuntime.mpr h⟩
      · exact ⟨Delivery.delivered, trivial, rfl⟩

/-- The runtime answers with the identifier of the request. -/
theorem of_executeRuntimeRequest
    (h : (executeRuntimeRequest materializedPlanId host request).Outcome agents (.ok response)) :
    ∃ work proposal, host ≠ .single ∧ (requestedWork request).Outcome agents (.ok work) ∧
      (proposeFor materializedPlanId request work).Outcome agents (.ok proposal) ∧
        response = respond request work proposal := by
  obtain ⟨_, hhost, h⟩ := outcome_bind_ok.mp h
  obtain ⟨work, hwork, h⟩ := outcome_bind_ok.mp h
  obtain ⟨proposal, hproposal, h⟩ := outcome_bind_ok.mp h
  have hhosted := liftServices_eq_ok.mp (outcome_ofExcept.mp hhost).symm
  exact ⟨work, proposal, raiseIf_eq_ok.mp hhosted, hwork, hproposal, Except.ok.inj h⟩

/-- **What the runtime may answer** that hosts several agents. -/
theorem outcome_executeRuntimeRequest (hhost : host ≠ .single) :
    (executeRuntimeRequest materializedPlanId host request).Outcome agents (.ok response) ↔
      ∃ work proposal, (requestedWork request).Outcome agents (.ok work) ∧
        (proposeFor materializedPlanId request work).Outcome agents (.ok proposal) ∧
          response = respond request work proposal := by
  constructor
  · intro h
    obtain ⟨work, proposal, -, hwork⟩ := of_executeRuntimeRequest h
    exact ⟨work, proposal, hwork⟩
  · rintro ⟨work, proposal, hwork, hproposal, rfl⟩
    refine outcome_bind_ok.mpr
      ⟨(), ?_, outcome_bind_ok.mpr ⟨work, hwork, outcome_bind_ok.mpr ⟨proposal, hproposal, rfl⟩⟩⟩
    exact outcome_ofExcept.mpr (liftServices_eq_ok.mpr (raiseIf_eq_ok.mpr hhost)).symm

/-- The client takes the runtime's response. -/
theorem receive_respond {A : RemoteQuestion → Type} {retry : GatewayProgram A AgentRuntimeResponse}
    (work : PlanningWork) (proposal : RecoveryPlan) :
    receive request retry (.response (respond request work proposal)) = .ret (respond request work proposal) :=
  if_neg (not_not.mpr rfl)

/-- **The client returns what the runtime may answer.** -/
theorem outcome_clientInvoke_ok :
    (clientInvoke (deliver materializedPlanId host) request).Outcome (remoteEnv agents) (.ok response) ↔
      (executeRuntimeRequest materializedPlanId host request).Outcome agents (.ok response) := by
  have hreceived : ∀ {retry : Remote AgentRuntimeResponse} {reply : TransportReply},
      (deliver materializedPlanId host request).Outcome (remoteEnv agents) (.ok reply) →
        (receive request retry reply).Outcome (remoteEnv agents) (.ok response) →
          (executeRuntimeRequest materializedPlanId host request).Outcome agents (.ok response) ∨
            retry.Outcome (remoteEnv agents) (.ok response) := by
    intro retry reply hreply h
    cases reply with
    | connectionFailed => exact Or.inr h
    | failed => cases h
    | response received =>
      rw [receive] at h
      split at h
      · cases h
      · obtain rfl := Except.ok.inj h
        rcases outcome_deliver.mp hreply with heq | heq | ⟨_, heq, hexecuted⟩
        · cases heq
        · cases heq
        · obtain rfl := TransportReply.response.inj (Except.ok.inj heq)
          exact Or.inl hexecuted
  constructor
  · intro h
    obtain ⟨first, hfirst, h⟩ := outcome_bind_ok.mp h
    rcases hreceived hfirst h with h | h
    · exact h
    · obtain ⟨second, hsecond, h⟩ := outcome_bind_ok.mp h
      rcases hreceived hsecond h with h | h
      · exact h
      · cases h
  · intro h
    obtain ⟨work, proposal, -, -, -, rfl⟩ := of_executeRuntimeRequest h
    refine outcome_bind_ok.mpr ⟨_, outcome_deliver.mpr (Or.inr (Or.inr ⟨_, rfl, h⟩)), ?_⟩
    rw [receive_respond]
    rfl

/-- **When the client fails, it fails safely**; a response is never that to another request. -/
theorem outcome_clientInvoke_error {e : ReasoningFailure} :
    (clientInvoke (deliver materializedPlanId host) request).Outcome (remoteEnv agents) (.error e) ↔
      e = invocationError failedSafely := by
  have hreceived : ∀ {retry : Remote AgentRuntimeResponse} {reply : TransportReply},
      (deliver materializedPlanId host request).Outcome (remoteEnv agents) (.ok reply) →
        (receive request retry reply).Outcome (remoteEnv agents) (.error e) →
          e = invocationError failedSafely ∨ retry.Outcome (remoteEnv agents) (.error e) := by
    intro retry reply hreply h
    cases reply with
    | connectionFailed => exact Or.inr h
    | failed => exact Or.inl (Except.error.inj h)
    | response received =>
      rcases outcome_deliver.mp hreply with heq | heq | ⟨_, heq, hexecuted⟩
      · cases heq
      · cases heq
      · obtain rfl := TransportReply.response.inj (Except.ok.inj heq)
        obtain ⟨work, proposal, -, -, -, rfl⟩ := of_executeRuntimeRequest hexecuted
        rw [receive_respond] at h
        cases h
  have hnever : ∀ e, ¬ (deliver materializedPlanId host request).Outcome (remoteEnv agents) (.error e) := by
    intro e h
    rcases outcome_deliver.mp h with heq | heq | ⟨_, heq, -⟩ <;> cases heq
  constructor
  · intro h
    rcases outcome_bind_error.mp h with h | ⟨first, hfirst, h⟩
    · exact absurd h (hnever e)
    · rcases hreceived hfirst h with h | h
      · exact h
      · rcases outcome_bind_error.mp h with h | ⟨second, hsecond, h⟩
        · exact absurd h (hnever e)
        · exact (hreceived hsecond h).elim id Except.error.inj
  · rintro rfl
    exact outcome_bind_error.mpr (Or.inr ⟨.failed, outcome_deliver.mpr (Or.inr (Or.inl rfl)), rfl⟩)

/-! ### Requests -/

/-- The architectures that a request may name. -/
theorem value_of_ne_single (h : architecture ≠ .single) :
    architecture.value = "multi" ∨ architecture.value = "multi_research" := by
  cases architecture with
  | single => exact absurd rfl h
  | multi => exact Or.inl rfl
  | multiResearch => exact Or.inr rfl

theorem value_eq_multiResearch_iff : architecture.value = "multi_research" ↔ architecture = .multiResearch := by
  cases architecture <;> simp [AgentArchitecture.value]

/-- What meets the contract is requested. -/
theorem request_eq_ok {fields : RequestFields} (h : fields.Contract) : fields.request = .ok ⟨fields, h⟩ := dif_pos h

theorem request_eq_ok_iff {fields : RequestFields} :
    fields.request = .ok request ↔ ∃ h : fields.Contract, request = ⟨fields, h⟩ := by
  unfold RequestFields.request
  split
  next h => simp [h, eq_comm]
  next h => simp [h]

/-- **An invocation** may come to what the runtime may answer to a request with a fresh identifier. -/
theorem outcome_invokeWith_ok (hhost : host ≠ .single)
    {fields : (requestId architecture : String) → RequestFields} :
    (invokeWith (agentCoreInvoker materializedPlanId host) architecture fields).Outcome (remoteEnv agents)
        (.ok response) ↔
      ∃ (id : String) (h : (fields id architecture.value).Contract) (work : PlanningWork) (proposal : RecoveryPlan),
        id.length = 36 ∧ (requestedWork ⟨_, h⟩).Outcome agents (.ok work) ∧
          (proposeFor materializedPlanId ⟨_, h⟩ work).Outcome agents (.ok proposal) ∧
            response = respond ⟨_, h⟩ work proposal := by
  constructor
  · intro h
    obtain ⟨id, ⟨_, hid, heq⟩, h⟩ := outcome_bind_ok.mp h
    obtain rfl := Except.ok.inj heq
    obtain ⟨request, hrequest, h⟩ := outcome_bind_ok.mp h
    obtain ⟨hcontract, rfl⟩ := request_eq_ok_iff.mp (liftPlanning_eq_ok.mp (outcome_ofExcept.mp hrequest).symm)
    obtain ⟨work, proposal, h⟩ := (outcome_executeRuntimeRequest hhost).mp (outcome_clientInvoke_ok.mp h)
    exact ⟨id, hcontract, work, proposal, hid, h⟩
  · rintro ⟨id, hcontract, work, proposal, hid, h⟩
    refine outcome_bind_ok.mpr ⟨id, ⟨id, hid, rfl⟩, outcome_bind_ok.mpr ⟨⟨_, hcontract⟩, ?_, ?_⟩⟩
    · exact outcome_ofExcept.mpr (liftPlanning_eq_ok.mpr (request_eq_ok hcontract)).symm
    · exact outcome_clientInvoke_ok.mpr ((outcome_executeRuntimeRequest hhost).mpr ⟨work, proposal, h⟩)

/-- There are identifiers of 36 characters. -/
theorem exists_uuid : ∃ id : String, id.length = 36 := ⟨"00000000-0000-4000-8000-000000000000", by decide⟩

/-- **An invocation whose request meets the contract** may fail, but only safely. -/
theorem outcome_invokeWith_error {fields : (requestId architecture : String) → RequestFields}
    (hcontract : ∀ id : String, id.length = 36 → (fields id architecture.value).Contract) {e : ReasoningFailure} :
    (invokeWith (agentCoreInvoker materializedPlanId host) architecture fields).Outcome (remoteEnv agents)
        (.error e) ↔ e = invocationError failedSafely := by
  constructor
  · intro h
    rcases outcome_bind_error.mp h with ⟨_, -, heq⟩ | ⟨id, ⟨_, hid, heq⟩, h⟩
    · cases heq
    · obtain rfl := Except.ok.inj heq
      rcases outcome_bind_error.mp h with h | ⟨request, hrequest, h⟩
      · rw [request_eq_ok (hcontract id hid)] at h
        cases outcome_ofExcept.mp h
      · exact outcome_clientInvoke_error.mp h
  · intro h
    obtain ⟨id, hid⟩ := exists_uuid
    refine outcome_bind_error.mpr (Or.inr ⟨id, ⟨id, hid, rfl⟩, outcome_bind_error.mpr (Or.inr ?_)⟩)
    exact ⟨⟨_, hcontract id hid⟩, outcome_ofExcept.mpr (liftPlanning_eq_ok.mpr (request_eq_ok _)).symm,
      outcome_clientInvoke_error.mpr h⟩

/-- Neither the application nor the runtime's host may plan with the single agent. -/
theorem ne_single_of_outcome_invokeWith {fields : (requestId architecture : String) → RequestFields}
    (hnamed : ∀ id named, (fields id named).architecture = named)
    (h : (invokeWith (agentCoreInvoker materializedPlanId host) architecture fields).Outcome (remoteEnv agents)
      (.ok response)) : host ≠ .single ∧ architecture ≠ .single := by
  obtain ⟨id, -, h⟩ := outcome_bind_ok.mp h
  obtain ⟨request, hrequest, h⟩ := outcome_bind_ok.mp h
  obtain ⟨hcontract, -⟩ := request_eq_ok_iff.mp (liftPlanning_eq_ok.mp (outcome_ofExcept.mp hrequest).symm)
  obtain ⟨_, _, hhost, -⟩ := of_executeRuntimeRequest (outcome_clientInvoke_ok.mp h)
  refine ⟨hhost, ?_⟩
  rintro rfl
  have harchitecture := hcontract.architecture
  rw [hnamed] at harchitecture
  exact absurd harchitecture (by decide)

/-- **An invocation whose request does not meet the contract** is not made. -/
theorem outcome_invokeWith_invalid {fields : (requestId architecture : String) → RequestFields}
    (hinvalid : ∀ id : String, ¬ (fields id architecture.value).Contract)
    {r : Except ReasoningFailure AgentRuntimeResponse} :
    (invokeWith (agentCoreInvoker materializedPlanId host) architecture fields).Outcome (remoteEnv agents) r ↔
      r = .error (.planning (.validationError "AgentRuntimeRequest")) := by
  have hrequest : ∀ id, (fields id architecture.value).request = .error (.validationError "AgentRuntimeRequest") :=
    fun id => dif_neg (hinvalid id)
  have hinvoke : invokeWith (agentCoreInvoker materializedPlanId host) architecture fields =
      (.ask .uuid4 fun _ => .raise (.planning (.validationError "AgentRuntimeRequest")) : Remote _) := by
    refine congrArg (Prog.ask RemoteQuestion.uuid4) (funext fun (id : String) => ?_)
    change (Prog.ofExcept (liftPlanning (fields id architecture.value).request) >>= _) = _
    rw [hrequest]
    rfl
  rw [hinvoke]
  constructor
  · rintro ⟨id, -, h⟩
    exact h
  · intro h
    obtain ⟨id, hid⟩ := exists_uuid
    exact ⟨id, hid, h⟩

/-! ### What the gateway only asks -/

theorem onlyAsks_initialWork {disruption named : String} {scenario : DemoScenario}
    {candidate : Option BackupCareCandidate} : (initialWork named disruption scenario candidate).OnlyAsks := by
  refine (Prog.OnlyAsks.ofExcept _).bind fun need => onlyAsks_createInitialBrief.bind fun brief => .ite ?_ trivial
  cases need with
  | none => trivial
  | some need => exact onlyAsks_researchWork

theorem onlyAsks_requestedWork : (requestedWork request).OnlyAsks := by
  unfold requestedWork
  split
  · split
    · exact .ofExcept _
    · trivial
  · split
    · exact onlyAsks_initialWork
    · trivial
  · split
    · exact onlyAsks_replanningWork.bind fun _ => trivial
    · trivial

theorem onlyAsks_executeRuntimeRequest : (executeRuntimeRequest materializedPlanId host request).OnlyAsks :=
  (Prog.OnlyAsks.ofExcept _).bind fun _ => onlyAsks_requestedWork.bind fun _ =>
    (onlyAsks_on onlyAsks_proposeConstraintPlan).bind fun _ => trivial

theorem onlyAsks_deliver : (deliver materializedPlanId host request).OnlyAsks := by
  rintro (_ | _ | _)
  · have hasks : ∀ question, (askRemotely question).OnlyAsks := fun question answer => trivial
    exact (onlyAsks_executeRuntimeRequest.interpret hasks).attempt.bind fun executed => fun delivery => trivial
  · trivial
  · trivial

theorem onlyAsks_clientInvoke : (clientInvoke (deliver materializedPlanId host) request).OnlyAsks := by
  have hreceive : ∀ {retry : Remote AgentRuntimeResponse}, retry.OnlyAsks → ∀ reply,
      (receive request retry reply).OnlyAsks := by
    intro retry hretry reply
    cases reply with
    | connectionFailed => exact hretry
    | failed => trivial
    | response response => exact .ite trivial trivial
  exact onlyAsks_deliver.bind (hreceive (onlyAsks_deliver.bind (hreceive trivial)))

theorem onlyAsks_invokeWith {fields : (requestId architecture : String) → RequestFields} :
    (invokeWith (agentCoreInvoker materializedPlanId host) architecture fields).OnlyAsks :=
  fun _ => (Prog.OnlyAsks.ofExcept _).bind fun _ => onlyAsks_clientInvoke

/-! ### Requests that meet the contract -/

theorem contract_initialFields {disruption id : String} {scenario : DemoScenario} (hdisruption : disruption ≠ "")
    (harchitecture : architecture ≠ .single) (hid : id.length = 36) :
    (initialFields disruption scenario id architecture.value).Contract :=
  { request_id_length := by simp only [initialFields]; omega
    schema_version := rfl
    architecture := value_of_ne_single harchitecture
    initial := fun _ => ⟨rfl, fun h => hdisruption (Option.some.inj h)⟩
    replanning := by rintro ⟨⟩
    repair := by rintro ⟨⟩ }

theorem contract_replanningFields {caseId id : String} {outcome : InvalidationOutcome}
    (harchitecture : architecture ≠ .single) (hid : id.length = 36) :
    (replanningFields caseId outcome id architecture.value).Contract :=
  { request_id_length := by simp only [replanningFields]; omega
    schema_version := rfl
    architecture := value_of_ne_single harchitecture
    initial := by rintro ⟨⟩
    replanning := fun _ => rfl
    repair := by rintro ⟨⟩ }

/-- A repair is asked for with findings. -/
theorem contract_repairFields {first : AgentRuntimeResponse} {scenario : DemoScenario} {caseId : Option String}
    {plan : RecoveryPlan} {issues : List PlanValidationIssue} {id : String} (hissues : issues ≠ [])
    (harchitecture : architecture ≠ .single) (hid : id.length = 36) :
    (repairFields first scenario caseId plan issues id architecture.value).Contract :=
  { request_id_length := by simp only [repairFields]; omega
    schema_version := rfl
    architecture := value_of_ne_single harchitecture
    initial := by rintro ⟨⟩
    replanning := by rintro ⟨⟩
    repair := fun _ => ⟨rfl, rfl, hissues⟩ }

/-! ### Repairs -/

/-- The attempts that may follow a plan when each repair is proposed for the findings on the plan before it. -/
def RepairsFrom (proposes : RecoveryPlan → List PlanValidationIssue → RecoveryPlan → Prop) (facts : DemoScenario)
    (preserved : List RecoveryPlanSegment) :
    ℕ → List PlanningAttempt → RecoveryPlan → PlanningAttempts → Prop
  | remaining, earlier, plan, attempts =>
    let attempt := nextAttempt facts preserved earlier plan
    if attempt.validation.valid then attempts = { earlier, last := attempt }
    else
      match remaining with
      | 0 => attempts = { earlier, last := attempt }
      | remaining + 1 =>
        ∃ repair, proposes plan attempt.validation.issues repair ∧
          RepairsFrom proposes facts preserved remaining (earlier ++ [attempt]) repair attempts

/-- What the planner may propose from a brief and the facts. -/
def Proposes (materializedPlanId : List String → String)
    (agents : (question : AgentQuestion) → AgentAnswer question → Prop) (brief : PlanningBrief)
    (facts : DemoScenario) (operation : PlannerOperation) (previous : Option RecoveryPlan)
    (feedback : List PlanValidationIssue) (proposal : RecoveryPlan) : Prop :=
  ((proposeConstraintPlan materializedPlanId brief facts operation previous feedback).on facts).Outcome agents
    (.ok proposal)

section Repairs

variable {brief : PlanningBrief} {scenario facts : DemoScenario} {preserved : List RecoveryPlanSegment}
  {remaining : ℕ} {earlier : List PlanningAttempt} {plan : RecoveryPlan} {attempts : PlanningAttempts}
  {first : AgentRuntimeResponse} {caseId : Option String}

/-- **Local repairs.** -/
theorem outcome_planLoop {operation : PlannerOperation} {previous : Option RecoveryPlan}
    {feedback : List PlanValidationIssue} :
    ((planLoop materializedPlanId brief facts remaining earlier operation previous feedback).on facts).Outcome agents
        (.ok attempts) ↔
      ∃ proposal, Proposes materializedPlanId agents brief facts operation previous feedback proposal ∧
        RepairsFrom (fun plan => Proposes materializedPlanId agents brief facts .planRepair (some plan)) facts
          brief.preservedSegments remaining earlier proposal attempts := by
  induction remaining generalizing earlier operation previous feedback with
  | zero =>
    rw [planLoop, Session.on, interpret_bind, outcome_bind_ok]
    refine exists_congr fun proposal => and_congr Iff.rfl ?_
    rw [RepairsFrom, interpret_ite]
    split
    · exact outcome_ret_ok
    · exact outcome_ret_ok
  | succ remaining ih =>
    rw [planLoop, Session.on, interpret_bind, outcome_bind_ok]
    refine exists_congr fun proposal => and_congr Iff.rfl ?_
    rw [RepairsFrom, interpret_ite]
    split
    · exact outcome_ret_ok
    · exact ih

/-- A repair is made from the brief that the request brings, with the provider whom it brings. -/
theorem repairWork_eq_ok (brief : PlanningBrief) {candidate : Option BackupCareCandidate}
    (hfacts : validationScenario scenario candidate = .ok facts) :
    repairWork brief scenario candidate = .ok { brief, scenario := facts, researchedCandidate := candidate } := by
  rw [repairWork, hfacts]
  rfl

/-- **A remote repair is a local one.** -/
theorem exists_invokeWith_repairFields_iff (hhost : host ≠ .single) (harchitecture : architecture ≠ .single)
    (hfacts : validationScenario scenario first.researchedCandidate = .ok facts)
    {issues : List PlanValidationIssue} (hissues : issues ≠ []) {repair : RecoveryPlan} :
    (∃ response, (invokeWith (agentCoreInvoker materializedPlanId host) architecture
        (repairFields first scenario caseId plan issues)).Outcome (remoteEnv agents) (.ok response) ∧
          response.planCandidate = repair) ↔
      Proposes materializedPlanId agents first.planningBrief facts .planRepair (some plan) issues repair := by
  have hwork := repairWork_eq_ok first.planningBrief hfacts
  constructor
  · rintro ⟨response, h, rfl⟩
    obtain ⟨id, hcontract, work, proposal, -, hrequested, hproposal, rfl⟩ := (outcome_invokeWith_ok hhost).mp h
    obtain rfl := Except.ok.inj ((outcome_ofExcept.mp hrequested).trans hwork)
    exact hproposal
  · intro hproposal
    obtain ⟨id, hid⟩ := exists_uuid
    have hcontract : (repairFields first scenario caseId plan issues id architecture.value).Contract :=
      contract_repairFields hissues harchitecture hid
    let work : PlanningWork :=
      { brief := first.planningBrief, scenario := facts, researchedCandidate := first.researchedCandidate }
    exact ⟨respond ⟨_, hcontract⟩ work repair, (outcome_invokeWith_ok hhost).mpr
      ⟨id, hcontract, work, repair, hid, outcome_ofExcept.mpr hwork.symm, hproposal, rfl⟩, rfl⟩

/-- **Remote repairs.** -/
theorem outcome_repairLoop_ok (hhost : host ≠ .single) (harchitecture : architecture ≠ .single)
    (hfacts : validationScenario scenario first.researchedCandidate = .ok facts) :
    (repairLoop (agentCoreInvoker materializedPlanId host) architecture first scenario facts caseId preserved remaining
        earlier plan).Outcome (remoteEnv agents) (.ok attempts) ↔
      RepairsFrom (fun plan => Proposes materializedPlanId agents first.planningBrief facts .planRepair (some plan))
        facts preserved remaining earlier plan attempts := by
  induction remaining generalizing earlier plan with
  | zero =>
    rw [repairLoop, RepairsFrom]
    split
    · exact outcome_ret_ok
    · exact outcome_ret_ok
  | succ remaining ih =>
    rw [repairLoop, RepairsFrom]
    split
    · exact outcome_ret_ok
    next hinvalid =>
      have hissues := issues_ne_nil_of_not_valid hinvalid
      rw [outcome_bind_ok]
      constructor
      · rintro ⟨response, hresponse, h⟩
        exact ⟨_, (exists_invokeWith_repairFields_iff hhost harchitecture hfacts hissues).mp ⟨response, hresponse, rfl⟩,
          ih.mp h⟩
      · rintro ⟨repair, hproposes, h⟩
        obtain ⟨response, hresponse, rfl⟩ :=
          (exists_invokeWith_repairFields_iff hhost harchitecture hfacts hissues).mpr hproposes
        exact ⟨response, hresponse, ih.mpr h⟩

/-- Remote repairs fail only safely. -/
theorem outcome_repairLoop_error (harchitecture : architecture ≠ .single) {e : ReasoningFailure}
    (h : (repairLoop (agentCoreInvoker materializedPlanId host) architecture first scenario facts caseId preserved
      remaining earlier plan).Outcome (remoteEnv agents) (.error e)) : e = invocationError failedSafely := by
  induction remaining generalizing earlier plan with
  | zero =>
    rw [repairLoop] at h
    split at h
    · cases h
    · cases h
  | succ remaining ih =>
    rw [repairLoop] at h
    split at h
    · cases h
    next hinvalid =>
      have hissues := issues_ne_nil_of_not_valid hinvalid
      rcases outcome_bind_error.mp h with h | ⟨response, -, h⟩
      · exact (outcome_invokeWith_error fun _ hid => contract_repairFields hissues harchitecture hid).mp h
      · exact ih h

theorem onlyAsks_repairLoop :
    (repairLoop (agentCoreInvoker materializedPlanId host) architecture first scenario facts caseId preserved remaining
      earlier plan).OnlyAsks := by
  induction remaining generalizing earlier plan with
  | zero =>
    rw [repairLoop]
    exact .ite trivial trivial
  | succ remaining ih =>
    rw [repairLoop]
    exact .ite trivial (onlyAsks_invokeWith.bind fun _ => ih)

end Repairs

/-! ### Sessions -/

/-- What a session of the planner comes to. -/
theorem outcome_planWork {work : PlanningWork} {planning : InitialPlanningResult} :
    (planWork materializedPlanId work).Outcome agents (.ok planning) ↔
      ∃ proposal attempts,
        Proposes materializedPlanId agents work.brief work.scenario (initialOperation work.brief) none [] proposal ∧
        RepairsFrom (fun plan => Proposes materializedPlanId agents work.brief work.scenario .planRepair (some plan))
          work.scenario work.brief.preservedSegments (maxPlanAttempts - 1) [] proposal attempts ∧
        planning = buildPlanningResult attempts.last.validation.valid attempts := by
  have hplan : planWork materializedPlanId work =
      (planLoop materializedPlanId work.brief work.scenario (maxPlanAttempts - 1) [] (initialOperation work.brief) none
        []).on work.scenario >>= fun attempts =>
          .ret (buildPlanningResult attempts.last.validation.valid attempts) := by
    rw [planWork, runConstraintPlanning, Session.on, interpret_bind, interpret_bind]
    rfl
  rw [hplan, outcome_bind_ok]
  constructor
  · rintro ⟨attempts, hattempts, h⟩
    obtain ⟨proposal, hproposal, hrepairs⟩ := outcome_planLoop.mp hattempts
    exact ⟨proposal, attempts, hproposal, hrepairs, outcome_ret_ok.mp h⟩
  · rintro ⟨proposal, attempts, hproposal, hrepairs, h⟩
    exact ⟨attempts, outcome_planLoop.mpr ⟨proposal, hproposal, hrepairs⟩, outcome_ret_ok.mpr h⟩

/-- The facts of a response are found again. -/
theorem validateResponse_eq {invoker : RuntimeInvoker RemoteAnswer} {first : AgentRuntimeResponse}
    {scenario facts : DemoScenario} {caseId : Option String} {preserved : List RecoveryPlanSegment}
    (hfacts : validationScenario scenario first.researchedCandidate = .ok facts) :
    validateResponse invoker architecture first scenario caseId preserved =
      repairLoop invoker architecture first scenario facts caseId preserved (maxPlanAttempts - 1) []
        first.planCandidate := by
  rw [validateResponse, hfacts]
  rfl

section Session

variable {β : Type} {fields : (requestId architecture : String) → RequestFields} {works : PlanningWork → Prop}
  {operation : PlannerOperation} {scenario : DemoScenario} {caseId : Option String}
  {preserved : List RecoveryPlanSegment} {finish : PlanningAttempts → Option BackupCareCandidate → β}

/-- A remote session: one proposal of the runtime, which the application validates and has repaired. -/
def remoteSession (materializedPlanId : List String → String) (host architecture : AgentArchitecture)
    (fields : (requestId architecture : String) → RequestFields) (scenario : DemoScenario) (caseId : Option String)
    (preserved : List RecoveryPlanSegment) (finish : PlanningAttempts → Option BackupCareCandidate → β) : Remote β :=
  invokeWith (agentCoreInvoker materializedPlanId host) architecture fields >>= fun response =>
    validateResponse (agentCoreInvoker materializedPlanId host) architecture response scenario caseId preserved >>=
      fun attempts => .ret (finish attempts response.researchedCandidate)

theorem onlyAsks_remoteSession :
    (remoteSession materializedPlanId host architecture fields scenario caseId preserved finish).OnlyAsks :=
  onlyAsks_invokeWith.bind fun _ => ((Prog.OnlyAsks.ofExcept _).bind fun _ => onlyAsks_repairLoop).bind fun _ => trivial

/-- **What a remote session comes to**, when the runtime does some work for the first request: it fails safely, or the
proposals are those that the planner makes of the work, since a repair finds its facts again. -/
theorem outcome_remoteSession (hhost : host ≠ .single) (harchitecture : architecture ≠ .single)
    (hcontract : ∀ id : String, id.length = 36 → (fields id architecture.value).Contract)
    (hworks : ∀ id h work, (requestedWork ⟨fields id architecture.value, h⟩).Outcome agents (.ok work) ↔ works work)
    (hproposes : ∀ id h work proposal, (proposeFor materializedPlanId ⟨fields id architecture.value, h⟩ work).Outcome
      agents (.ok proposal) ↔
        Proposes materializedPlanId agents work.brief work.scenario operation none [] proposal)
    (hfacts : ∀ work, works work → validationScenario scenario work.researchedCandidate = .ok work.scenario)
    {r : Except ReasoningFailure β} :
    (remoteSession materializedPlanId host architecture fields scenario caseId preserved finish).Outcome
        (remoteEnv agents) r ↔
      r = .error (invocationError failedSafely) ∨
        ∃ work proposal attempts, works work ∧
          Proposes materializedPlanId agents work.brief work.scenario operation none [] proposal ∧
          RepairsFrom (fun plan => Proposes materializedPlanId agents work.brief work.scenario .planRepair (some plan))
            work.scenario preserved (maxPlanAttempts - 1) [] proposal attempts ∧
          r = .ok (finish attempts work.researchedCandidate) := by
  constructor
  · intro h
    rcases outcome_bind.mp h with ⟨response, hresponse, h⟩ | ⟨e, he, rfl⟩
    · obtain ⟨id, hc, work, proposal, -, hrequested, hproposal, rfl⟩ := (outcome_invokeWith_ok hhost).mp hresponse
      have hwork := (hworks id hc work).mp hrequested
      have hfirst : validationScenario scenario (respond ⟨_, hc⟩ work proposal).researchedCandidate =
          .ok work.scenario := hfacts work hwork
      rw [validateResponse_eq hfirst] at h
      rcases outcome_bind.mp h with ⟨attempts, hattempts, h⟩ | ⟨e, he, rfl⟩
      · exact Or.inr ⟨work, proposal, attempts, hwork, (hproposes id hc work proposal).mp hproposal,
          (outcome_repairLoop_ok hhost harchitecture hfirst).mp hattempts, h⟩
      · exact Or.inl (congrArg Except.error (outcome_repairLoop_error harchitecture he))
    · exact Or.inl (congrArg Except.error ((outcome_invokeWith_error hcontract).mp he))
  · rintro (rfl | ⟨work, proposal, attempts, hwork, hproposal, hrepairs, rfl⟩)
    · exact outcome_bind_error.mpr (Or.inl ((outcome_invokeWith_error hcontract).mpr rfl))
    · obtain ⟨id, hid⟩ := exists_uuid
      have hc := hcontract id hid
      have hfirst : validationScenario scenario (respond ⟨_, hc⟩ work proposal).researchedCandidate =
          .ok work.scenario := hfacts work hwork
      refine outcome_bind_ok.mpr ⟨respond ⟨_, hc⟩ work proposal, (outcome_invokeWith_ok hhost).mpr
        ⟨id, hc, work, proposal, hid, (hworks id hc work).mpr hwork, (hproposes id hc work proposal).mpr hproposal,
          rfl⟩,
        outcome_bind_ok.mpr ⟨attempts, ?_, rfl⟩⟩
      rw [validateResponse_eq hfirst]
      exact (outcome_repairLoop_ok hhost harchitecture hfirst).mpr hrepairs

/-- A session is not begun with a request that does not meet the contract. -/
theorem outcome_remoteSession_invalid (hinvalid : ∀ id : String, ¬ (fields id architecture.value).Contract)
    {r : Except ReasoningFailure β} :
    (remoteSession materializedPlanId host architecture fields scenario caseId preserved finish).Outcome
        (remoteEnv agents) r ↔
      r = .error (.planning (.validationError "AgentRuntimeRequest")) := by
  constructor
  · intro h
    rcases outcome_bind.mp h with ⟨response, hresponse, -⟩ | ⟨e, he, rfl⟩
    · cases (outcome_invokeWith_invalid hinvalid).mp hresponse
    · exact congrArg Except.error (Except.error.inj ((outcome_invokeWith_invalid hinvalid).mp he))
  · rintro rfl
    exact outcome_bind_error.mpr (Or.inl ((outcome_invokeWith_invalid hinvalid).mpr rfl))

end Session

/-! ### Replanning -/

section Replanning

variable {recoveryCase : RecoveryCase} {event : RecoveryEvent} {scenario : DemoScenario}
  {outcome : InvalidationOutcome}

/-- The work for a decline is the same at both ends. -/
theorem requestedWork_replanningFields {caseId id : String}
    (hcontract : (replanningFields caseId outcome id architecture.value).Contract) {work : PlanningWork} :
    (requestedWork ⟨_, hcontract⟩).Outcome agents (.ok work) ↔
      (replanningWork (architecture = .multiResearch) outcome).Outcome agents (.ok work) := by
  have heq : decide (architecture.value = "multi_research") = decide (architecture = .multiResearch) :=
    decide_eq_decide.mpr value_eq_multiResearch_iff
  change (contextWork architecture.value (replanningContext outcome) outcome.updatedScenario none).Outcome agents _ ↔ _
  rw [contextWork, outcomeOf_replanningContext, heq, outcome_bind_ok]
  constructor
  · rintro ⟨before, hbefore, heq⟩
    rw [Option.or_none] at heq
    obtain rfl := Except.ok.inj heq
    exact hbefore
  · intro h
    refine ⟨work, h, ?_⟩
    rw [Option.or_none]
    rfl

/-- What local agents may come to after a decline that can be applied. -/
theorem outcome_strandsReplan (harchitecture : architecture ≠ .single)
    (hdecline : applyCaregiverDecline recoveryCase event scenario = .ok outcome) {result : ReplanningResult} :
    (strandsReplan materializedPlanId architecture recoveryCase event scenario).Outcome agents (.ok result) ↔
      ∃ work proposal attempts, (replanningWork (architecture = .multiResearch) outcome).Outcome agents (.ok work) ∧
        Proposes materializedPlanId agents work.brief work.scenario .replanning none [] proposal ∧
        RepairsFrom (fun plan => Proposes materializedPlanId agents work.brief work.scenario .planRepair (some plan))
          work.scenario outcome.preservedSegments (maxPlanAttempts - 1) [] proposal attempts ∧
        result = buildReplanningResult outcome event attempts work.researchedCandidate := by
  have hlocal : strandsReplan materializedPlanId architecture recoveryCase event scenario =
      replanningWork (architecture = .multiResearch) outcome >>= fun work =>
        planWork materializedPlanId work >>= fun planning =>
          .ret (buildReplanningResult outcome event planning.attempts work.researchedCandidate) := by
    rw [strandsReplan_eq _ harchitecture, runMultiAgentReplanning, hdecline]
    rfl
  -- the brief asks for a new plan, and has what the decline has left as it is
  have hbrief : ∀ {work : PlanningWork},
      (replanningWork (architecture = .multiResearch) outcome).Outcome agents (.ok work) →
        initialOperation work.brief = .replanning ∧ work.brief.preservedSegments = outcome.preservedSegments := by
    intro work hwork
    obtain ⟨-, hmode, hpreserved⟩ := of_replanningWork hwork
    exact ⟨by rw [initialOperation, hmode]; rfl, hpreserved⟩
  rw [hlocal, outcome_bind_ok]
  constructor
  · rintro ⟨work, hwork, h⟩
    obtain ⟨planning, hplanning, h⟩ := outcome_bind_ok.mp h
    obtain ⟨proposal, attempts, hproposal, hrepairs, rfl⟩ := outcome_planWork.mp hplanning
    rw [(hbrief hwork).1] at hproposal
    rw [(hbrief hwork).2] at hrepairs
    exact ⟨work, proposal, attempts, hwork, hproposal, hrepairs, outcome_ret_ok.mp h⟩
  · rintro ⟨work, proposal, attempts, hwork, hproposal, hrepairs, rfl⟩
    rw [← (hbrief hwork).1] at hproposal
    rw [← (hbrief hwork).2] at hrepairs
    exact ⟨work, hwork, outcome_bind_ok.mpr
      ⟨_, outcome_planWork.mpr ⟨proposal, attempts, hproposal, hrepairs, rfl⟩, rfl⟩⟩

/-- **Replanning, wherever the agents are.** With a remote runtime, whatever the network does, a decline is rejected
as the application rejects it itself; or the runtime fails safely; or the result is one that local agents could have
come to. And every result of local agents is one that a remote runtime may come to. -/
theorem outcome_replan_iff (hhost : host ≠ .single) (harchitecture : architecture ≠ .single)
    {r : Except ReasoningFailure ReplanningResult} :
    (replan (agentCoreInvoker materializedPlanId host) architecture recoveryCase event scenario).Outcome
        (remoteEnv agents) r ↔
      (∃ failure, applyCaregiverDecline recoveryCase event scenario = .error failure ∧
        r = .error (.planning (.failed failure))) ∨
      (∃ outcome, applyCaregiverDecline recoveryCase event scenario = .ok outcome) ∧
        (r = .error (invocationError failedSafely) ∨
          ∃ result, r = .ok result ∧
            (strandsReplan materializedPlanId architecture recoveryCase event scenario).Outcome agents
              (.ok result)) := by
  cases hdecline : applyCaregiverDecline recoveryCase event scenario with
  | error failure =>
    have hremote : replan (agentCoreInvoker materializedPlanId host) architecture recoveryCase event scenario =
        .raise (.planning (.failed failure)) := by
      rw [replan, hdecline]
      rfl
    rw [hremote, outcome_raise]
    constructor
    · intro h
      exact Or.inl ⟨failure, rfl, h⟩
    · rintro (⟨_, heq, h⟩ | ⟨⟨_, ⟨⟩⟩, -⟩)
      obtain rfl := Except.error.inj heq
      exact h
  | ok outcome =>
    have hremote : replan (agentCoreInvoker materializedPlanId host) architecture recoveryCase event scenario =
        remoteSession materializedPlanId host architecture (replanningFields recoveryCase.caseId outcome)
          outcome.updatedScenario (some recoveryCase.caseId) outcome.preservedSegments
          (buildReplanningResult outcome event) := by
      rw [replan, hdecline]
      rfl
    rw [hremote, outcome_remoteSession hhost harchitecture (fun _ hid => contract_replanningFields harchitecture hid)
      (fun _ hcontract _ => requestedWork_replanningFields hcontract) (fun _ _ _ _ => Iff.rfl)
      (fun _ hwork => (of_replanningWork hwork).1.facts)]
    simp only [outcome_strandsReplan harchitecture hdecline]
    constructor
    · rintro (rfl | ⟨work, proposal, attempts, hwork, hproposal, hrepairs, rfl⟩)
      · exact Or.inr ⟨⟨outcome, rfl⟩, Or.inl rfl⟩
      · exact Or.inr ⟨⟨outcome, rfl⟩, Or.inr ⟨_, rfl, work, proposal, attempts, hwork, hproposal, hrepairs, rfl⟩⟩
    · rintro (⟨_, ⟨⟩, -⟩ | ⟨-, rfl | ⟨_, rfl, work, proposal, attempts, hwork, hproposal, hrepairs, rfl⟩⟩)
      · exact Or.inl rfl
      · exact Or.inr ⟨work, proposal, attempts, hwork, hproposal, hrepairs, rfl⟩

end Replanning

/-! ### Another sitter takes over -/

/-- A day with two sitters. -/
def twoSittersDay : DemoScenario := day (minutes 0 60) [sitter "kim" [minutes 0 60], sitter "lee" [minutes 0 60]]

/-- The first is to come. -/
def kimComes : RecoveryCase :=
  Validation.caseWith
    { planId := "plan-1"
      coverageSegments := [care "all" "kim" .caregiver (minutes 0 60)]
      validationState := .valid }

/-- What the orchestrator tells the planner of a disruption. -/
def coverWindow (requiredCoverageWindow : CoverageWindow) : PlanningBrief :=
  { Validation.coverTheDay with
    requiredCoverageWindow
    backupResearchNeeded := false }

/-- The second sitter's primitive. -/
def leeSelected : PrimitiveSelection :=
  { selectedPrimitiveIds := [careId "lee" (minutes 0 60).start]
    min_length := List.cons_ne_nil _ _
    selected_ids_are_unique := by decide }

/-- The second sitter's plan. -/
def leeComes : RecoveryPlan :=
  { planId := "plan-2", coverageSegments := [care "all" "lee" .caregiver (minutes 0 60)] }

/-- Agents who have the second sitter come. -/
def sendingLee : (question : AgentQuestion) → AgentAnswer question
  | .analyzeDisruption _ _ => .ok ()
  | .analyzeDecline _ _ => .ok ()
  | .plan _ (.draft _) => .ok (some leeComes)
  | .plan _ (.verifyContext _) => .ok ()
  | .plan _ (.select _) => .ok (some leeSelected)
  | .plan _ (.propose _) => .ok (some leeComes)
  | .initialBrief facts _ _ => .ok (some (coverWindow facts.requiredCoverage))
  | .replanningDecision _ _ => .ok (some (.decision Validation.coverTheRest))
  | .replanningRetry _ _ => .ok none
  | .research _ _ _ => .error (.agentError "ModelUnavailable")

/-- They answer nothing else. -/
def SendsLee (question : AgentQuestion) (answer : AgentAnswer question) : Prop := answer = sendingLee question

theorem sendsLee (question : AgentQuestion) : SendsLee question (sendingLee question) := rfl

/-- A session that only asks comes to what the scheduler computes, among agents who may answer so. -/
theorem outcome_of_result? {α : Type} (hanswers : ∀ question, agents question (sendingLee question))
    {session : Reasoning α} (honly : session.OnlyAsks) {a : α}
    (h : (advances sendingLee 20 (([] : List RecoveryCase), session)).2.result? = some a) :
    session.Outcome agents (.ok a) :=
  (honly.ends_iff.mp (ends_of_result? hanswers h)).2

/-- Who comes, of a result. -/
def whoComes (plan : Option RecoveryPlan) : Option (List String) :=
  plan.map fun plan => plan.coverageSegments.map (·.assignedPersonId)

theorem outcome_replan_iff_twoSittersDay :
    ∃ result, whoComes result.finalPlan = some ["lee"] ∧
      (replan (agentCoreInvoker (fun ids => ", ".intercalate ids) .multi) .multi kimComes Validation.kimDeclines
        twoSittersDay).Outcome (remoteEnv SendsLee) (.ok result) := by
  have hseen : (advances sendingLee 20 (([] : List RecoveryCase), strandsReplan (fun ids => ", ".intercalate ids)
      .multi kimComes Validation.kimDeclines twoSittersDay)).2.result?.map (fun result => whoComes result.finalPlan) =
        some (some ["lee"]) := by decide +kernel
  have hdeclined : (applyCaregiverDecline kimComes Validation.kimDeclines twoSittersDay).toOption.map
      (fun outcome => outcome.uncoveredWindows.length) = some 1 := by decide +kernel
  obtain ⟨result, hresult, hwho⟩ := Option.map_eq_some_iff.mp hseen
  obtain ⟨outcome, houtcome, -⟩ := exists_ok_of_toOption hdeclined
  exact ⟨result, hwho, (outcome_replan_iff (by decide) (by decide)).mpr (Or.inr ⟨⟨outcome, houtcome⟩,
    Or.inr ⟨result, rfl, outcome_of_result? sendsLee onlyAsks_strandsReplan hresult⟩⟩)⟩

end DayMend.Agent.Wire
