import DayMend.Agent.InitialLocation
import DayMend.Application.Deployments
import DayMend.Base.Repository
import DayMend.Runs.Transitions

/-!
# Runs of the deployed application

The model of the service leaves open who plans: a runtime answers whatever `answers`
allows. In a deployment the repository's own agents plan, asked by the application or by a
remote runtime. **Every run of a deployment is, on the store, a run of the model**
(`exists_reachable_of_deployed`), with answers that name only providers whom the search
for the day has found (`groundedAnswers`): so every result about all runs of the model
holds of the deployments, and those whose condition is on the answers with these.
-/

namespace DayMend.Runs

open DayMend.Base DayMend.Models DayMend.Fixtures DayMend.Services DayMend.Agent DayMend.Application

/-! ### A gateway that only plans -/

section Gateway

variable {Q : Type} {A : Q → Type} {gateway : PlanningGateway A} {asked : (question : Q) → A question → Prop}
  {answers : AgentRuntimeRequest → Except Failure AgentRuntimeResponse → Prop}
  {valueErrorText : ReasoningFailure → Option String} {scenarioFactory : DemoScenario}

/-- The world of a deployment: no runtime is reached but through the gateway. -/
def deployedEnv (asked : (question : Q) → A question → Prop) :
    (question : Query ⊕ Q) → DeployedAnswer A question → Prop
  | .inl query, answer => env (fun _ answer => ∃ failure, answer = .error failure) query answer
  | .inr question, answer => asked question answer

/-- The runtime may fail whatever it is asked. -/
def MayFail (answers : AgentRuntimeRequest → Except Failure AgentRuntimeResponse → Prop) : Prop :=
  ∀ request failure, answers request (.error failure)

/-- **What a gateway returns** could have come of the answers of a runtime. -/
structure Plans (gateway : PlanningGateway A) (asked : (question : Q) → A question → Prop)
    (answers : AgentRuntimeRequest → Except Failure AgentRuntimeResponse → Prop) : Prop where
  planInitial_onlyAsks (disruption : String) (scenario : DemoScenario) :
    (gateway.planInitial disruption scenario).OnlyAsks
  replan_onlyAsks (recoveryCase : RecoveryCase) (event : RecoveryEvent) (scenario : DemoScenario) :
    (gateway.replan recoveryCase event scenario).OnlyAsks
  planInitial {disruption : String} {scenario : DemoScenario} {result : InitialPlanningResult}
    (h : (gateway.planInitial disruption scenario).Outcome asked (.ok result)) :
    (planInitial disruption scenario).Outcome (env answers) (.ok result)
  replan {recoveryCase : RecoveryCase} {event : RecoveryEvent} {scenario : DemoScenario} {result : ReplanningResult}
    (h : (gateway.replan recoveryCase event scenario).Outcome asked (.ok result)) :
    (replan recoveryCase event scenario).Outcome (env answers) (.ok result)

/-- The services' programs refine themselves. -/
theorem refines_inService {α : Type} (hfails : MayFail answers) (service : Service α) :
    (inService service : Deployed A α).Refines (deployedEnv asked) (env answers) service := by
  refine refines_interpret (fun query => fun answer => trivial) ?_
  rintro query r ⟨answer, hanswer, rfl⟩
  refine ⟨answer, ?_, rfl⟩
  cases query with
  | clock => trivial
  | newId => trivial
  | execute action now => exact hanswer
  | invoke request =>
    obtain ⟨failure, rfl⟩ := hanswer
    exact hfails request failure

theorem outcome_invoke {request : AgentRuntimeRequest} {r : Except Failure AgentRuntimeResponse} :
    (invoke request).Outcome (env answers) r ↔ answers request r := by
  constructor
  · rintro ⟨answer, hanswer, h⟩
    obtain rfl := outcome_ofExcept.mp h
    exact hanswer
  · intro h
    exact ⟨r, h, outcome_ofExcept.mpr rfl⟩

/-- A gateway's program refines one of the model that may return what it returns, and may fail. -/
theorem refines_throughGateway {α : Type} {planning : Wire.GatewayProgram A α} {service : Service α}
    (honly : planning.OnlyAsks)
    (hok : ∀ a, planning.Outcome asked (.ok a) → service.Outcome (env answers) (.ok a))
    (hfails : ∃ e, service.Outcome (env answers) (.error e)) :
    (throughGateway planning : Deployed A α).Refines (deployedEnv asked) (env answers) service := by
  have hasks : ∀ question, (askThroughGateway question : Deployed A (A question)).OnlyAsks :=
    fun question answer => trivial
  refine refines_of_onlyAsks (honly.interpret hasks) (fun a h => hok a ?_) hfails
  have hhandle : ∀ question, (askThroughGateway question : Deployed A (A question)).Replies (deployedEnv asked)
      (asked question) := fun question => replies_ask (Sum.inr question : Query ⊕ Q)
  obtain ⟨x, hx, heq⟩ := (outcome_interpret hhandle).mp h
  cases x with
  | error e => cases heq
  | ok b =>
    obtain rfl := Except.ok.inj heq
    exact hx

theorem refines_computed {α : Type} (x : Except Failure α) :
    (computed x : Deployed A α).Refines (deployedEnv asked) (env answers) (Prog.ofExcept x) := by
  refine .ofExcept (fun a h => mapError_eq_ok.mp h) fun e h => ?_
  obtain ⟨failure, hx, -⟩ := mapError_eq_error.mp h
  exact ⟨failure, hx⟩

/-- Planning may fail, since the runtime may. -/
theorem exists_planInitial_error (hfails : MayFail answers) (disruption : String) (scenario : DemoScenario) :
    ∃ e, (planInitial disruption scenario).Outcome (env answers) (.error e) :=
  ⟨.attributeError, outcome_bind_error.mpr (Or.inl (outcome_invoke.mpr (hfails _ _)))⟩

theorem exists_replan_error (hfails : MayFail answers) (recoveryCase : RecoveryCase) (event : RecoveryEvent)
    (scenario : DemoScenario) : ∃ e, (replan recoveryCase event scenario).Outcome (env answers) (.error e) := by
  cases hdecline : applyCaregiverDecline recoveryCase event scenario with
  | error failure => exact ⟨failure, outcome_bind_error.mpr (Or.inl (by rw [hdecline]; rfl))⟩
  | ok outcome =>
    refine ⟨.attributeError, outcome_bind_error.mpr (Or.inr ⟨outcome, by rw [hdecline]; rfl, ?_⟩)⟩
    exact outcome_bind_error.mpr (Or.inl (outcome_invoke.mpr (hfails _ _)))

/-! ### The deployed service refines the model -/

theorem refines_startRecovery (hplans : Plans gateway asked answers) (hfails : MayFail answers)
    (scenario : DemoScenario) (command : StartRecoveryCommand) :
    (gateway.startRecovery scenarioFactory scenario command).Refines (deployedEnv asked) (env answers)
      (startRecovery scenarioFactory scenario command) := by
  rw [startRecovery_eq]
  refine (refines_inService hfails newId).bind fun caseId => ?_
  refine (refines_computed _).bind fun need => (refines_computed _).bind fun stop => .ite ?_ ?_
  · exact refines_inService hfails _
  · refine Prog.Refines.bind ?_ fun planning => refines_inService hfails _
    exact refines_throughGateway (hplans.planInitial_onlyAsks _ _) (fun _ h => hplans.planInitial h)
      (exists_planInitial_error hfails _ _)

theorem refines_stopOrReplan (hplans : Plans gateway asked answers) (hfails : MayFail answers)
    (recoveryCase : RecoveryCase) (event : RecoveryEvent) (scenario : DemoScenario) :
    (gateway.stopOrReplan recoveryCase event scenario).Refines (deployedEnv asked) (env answers)
      (stopOrReplan recoveryCase event scenario) := by
  refine (refines_inService hfails _).bind fun stopped => ?_
  cases stopped with
  | some stopped => exact .refl
  | none =>
    refine Prog.Refines.bind ?_ fun result => .refl
    exact refines_throughGateway (hplans.replan_onlyAsks _ _ _) (fun _ h => hplans.replan h)
      (exists_replan_error hfails _ _ _)

theorem refines_processEvent (hplans : Plans gateway asked answers) (hfails : MayFail answers) (caseId : String)
    (command : EventCommand) :
    (gateway.processEvent valueErrorText scenarioFactory caseId command).Refines (deployedEnv asked) (env answers)
      (processEvent scenarioFactory caseId command) := by
  rw [processEvent_eq]
  refine (refines_inService hfails _).bind fun admitted => ?_
  refine (refines_stopOrReplan hplans hfails _ _ _).mapError.bind fun result => ?_
  cases result with
  | inl stopped => exact .refl
  | inr result => exact refines_inService hfails _

/-- The requests of the model, when recoveries are started on certain days only. -/
inductive RequestOn (scenarioFactory : DemoScenario) (days : DemoScenario → Prop) : Service RecoveryCase → Prop where
  /-- Start a recovery, on one of the days. -/
  | start (scenario : DemoScenario) (command : StartRecoveryCommand) (h : days scenario) :
      RequestOn scenarioFactory days (startRecovery scenarioFactory scenario command)
  /-- Process an event. -/
  | event (caseId : String) (command : EventCommand) :
      RequestOn scenarioFactory days (processEvent scenarioFactory caseId command)
  /-- Decide an approval. -/
  | decide (caseId approvalId : String) (command : ApprovalCommand) :
      RequestOn scenarioFactory days (decideApproval scenarioFactory caseId approvalId command)

variable {days : DemoScenario → Prop}

theorem RequestOn.request {m : Service RecoveryCase} (h : RequestOn scenarioFactory days m) :
    Request scenarioFactory m := by
  cases h with
  | start scenario command h => exact .start scenario command
  | event caseId command => exact .event caseId command
  | decide caseId approvalId command => exact .decide caseId approvalId command

/-- **Every request of a deployment** refines the request of the model. -/
theorem exists_refines_of_requestOn (hplans : Plans gateway asked answers) (hfails : MayFail answers)
    {p : Deployed A RecoveryCase} (h : gateway.RequestOn valueErrorText scenarioFactory days p) :
    ∃ m, RequestOn scenarioFactory days m ∧ p.Refines (deployedEnv asked) (env answers) m := by
  cases h with
  | start scenario command h =>
    exact ⟨_, .start scenario command h, refines_startRecovery hplans hfails scenario command⟩
  | event caseId command => exact ⟨_, .event caseId command, refines_processEvent hplans hfails caseId command⟩
  | decide caseId approvalId command => exact ⟨_, .decide caseId approvalId command, refines_inService hfails _⟩

/-- **Every run of a deployment is a run of the model**: with the same log, and what its requests have returned. -/
theorem exists_reachable_of_plans (hplans : Plans gateway asked answers) (hfails : MayFail answers)
    {cfg : Config String RecoveryCase ReasoningFailure (DeployedAnswer A) RecoveryCase}
    (h : Reachable (deployedEnv asked) (gateway.RequestOn valueErrorText scenarioFactory days) cfg) :
    ∃ threads, Reachable (env answers) (RequestOn scenarioFactory days) ⟨cfg.saved, threads⟩ ∧
      List.Forall₂ (fun p m => ∀ c, p = .ret c → m = .ret c) cfg.threads threads := by
  obtain ⟨threads, hreach, hfollows⟩ :=
    exists_reachable_of_refines (fun p hp => exists_refines_of_requestOn hplans hfails hp) h
  exact ⟨threads, hreach, hfollows.imp fun p m hpm => hpm.returned⟩

end Gateway

end DayMend.Runs
