import DayMend.Agent.RuntimeGateway
import DayMend.Services.ApprovalService
import DayMend.Services.CompletionVerifier
import Mathlib.Data.Finset.Card

/-!
# The recovery service

`RecoveryApplicationService` of `application/recovery_service.py`: a recovery is
started, declines are processed, approvals are decided, and what may be executed is
executed and verified. The service keeps no scenario: it rebuilds it from a case's
snapshot, the researched provider and the recorded declines (`scenarioFor`).
-/

namespace DayMend.Application

open DayMend.Base DayMend.Models DayMend.Fixtures DayMend.Services DayMend.Agent

/-- What begins a recovery. -/
structure StartRecoveryCommand where
  disruptionType : String
  occurredAt : Instant
  caregiverId : String
  message : String

/-- An external event. -/
structure EventCommand where
  eventType : RecoveryEventType := .caregiverDeclined
  caregiverId : String
  occurredAt : Instant
  relevantWindow : CoverageWindow
  message : String
  eventId : Option String := none
  expectedVersion : Option ℕ := none

/-- A parent's decision. -/
structure ApprovalCommand where
  decision : ApprovalDecision
  reason : Option String := none
  expectedVersion : Option ℕ := none

/-! ### Small steps -/

/-- `_now`: the time, but never before `notBefore`. -/
def nowAfter (notBefore : Instant) : Service Instant := do
  let t ← clock
  return max t notBefore

/-- `_check_expected_version`. -/
def checkExpectedVersion (recoveryCase : RecoveryCase) (expectedVersion : Option ℕ) : Except Failure Unit :=
  match expectedVersion with
  | none => .ok ()
  | some expected =>
    if expected ≠ recoveryCase.version then
      .error (.applicationConflict s!"Expected recovery version {expected}, found {recoveryCase.version}.")
    else .ok ()

/-- The facts of the day with the recorded declines replayed. -/
def replayDeclines (scenario : DemoScenario) (declines : List Decline) : Except Failure DemoScenario :=
  declines.foldlM applyCaregiverDeclineToScenario scenario

/-- The facts of the day from which a case's are rebuilt: its snapshot, or the factory's scenario with the
case's policy. -/
def baseScenario (scenarioFactory : DemoScenario) (recoveryCase : RecoveryCase) : DemoScenario :=
  match recoveryCase.contextState.scenarioSnapshot with
  | some snapshot => snapshot
  | none =>
    match recoveryCase.familyPolicy with
    | some policy => { scenarioFactory with policy }
    | none => scenarioFactory

/-- `_scenario_for`. -/
def scenarioFor (scenarioFactory : DemoScenario) (recoveryCase : RecoveryCase) : Except Failure DemoScenario := do
  let scenario ← validationScenario (baseScenario scenarioFactory recoveryCase)
    recoveryCase.contextState.researchedBackupCareCandidate
  replayDeclines scenario recoveryCase.declines

/-- `{case_id}:plan:{sequence}`. -/
def lifecycleId (caseId : String) (sequence : ℕ) : String := s!"{caseId}:plan:{sequence}"

/-- `while lifecycle_id in used_ids`: the first sequence number from `sequence` on whose identifier is not
used, when `fuel` tries are enough. -/
def freshSequence (caseId : String) (usedIds : List String) : ℕ → ℕ → ℕ
  | 0, sequence => sequence
  | fuel + 1, sequence =>
    if lifecycleId caseId sequence ∈ usedIds then freshSequence caseId usedIds fuel (sequence + 1) else sequence

/-- `_accept_plan`. As many tries as there are used identifiers are enough. -/
def acceptPlan (plan : RecoveryPlan) (caseId : String) (previousPlans : List RecoveryPlan) : RecoveryPlan :=
  let usedIds := previousPlans.map (·.planId)
  let sequence := freshSequence caseId usedIds usedIds.length (previousPlans.length + 1)
  materializeCaregiverAssumptions { plan with planId := lifecycleId caseId sequence }

theorem lifecycleId_eq (caseId : String) (sequence : ℕ) :
    lifecycleId caseId sequence = caseId ++ ":plan:" ++ toString sequence := rfl

/-- Different sequence numbers give different identifiers. -/
theorem lifecycleId_inj {caseId : String} {n m : ℕ} (h : lifecycleId caseId n = lifecycleId caseId m) : n = m :=
  numeral_inj (append_left_cancel h)

/-- If one of the tries finds an unused identifier, so does the search. -/
theorem freshSequence_notMem {caseId : String} {usedIds : List String} {fuel : ℕ} : ∀ {sequence : ℕ},
    (∃ k ≤ fuel, lifecycleId caseId (sequence + k) ∉ usedIds) →
      lifecycleId caseId (freshSequence caseId usedIds fuel sequence) ∉ usedIds := by
  induction fuel with
  | zero =>
    rintro sequence ⟨k, hk, hfree⟩
    obtain rfl : k = 0 := by omega
    exact hfree
  | succ fuel ih =>
    rintro sequence ⟨k, hk, hfree⟩
    rw [freshSequence]
    split
    next hused =>
      apply ih
      cases k with
      | zero => exact absurd hused hfree
      | succ k => exact ⟨k, by omega, by rwa [show sequence + 1 + k = sequence + (k + 1) by omega]⟩
    next hunused => exact hunused

/-- Among one more identifiers than are used, one is not used. -/
theorem exists_unused (caseId : String) (usedIds : List String) (sequence : ℕ) :
    ∃ k ≤ usedIds.length, lifecycleId caseId (sequence + k) ∉ usedIds := by
  by_contra hall
  push Not at hall
  have hinj : Set.InjOn (fun k => lifecycleId caseId (sequence + k)) (Finset.range (usedIds.length + 1)) := by
    intro i _ j _ h
    have := lifecycleId_inj h
    omega
  have hcard := Finset.card_le_card_of_injOn (t := usedIds.toFinset) _
    (fun k hk => List.mem_toFinset.mpr (hall k (Nat.lt_succ_iff.mp (Finset.mem_range.mp hk)))) hinj
  have hle := List.toFinset_card_le usedIds
  rw [Finset.card_range] at hcard
  omega

/-- **The identifier of an accepted plan is new to the case.** -/
theorem planId_acceptPlan_notMem (plan : RecoveryPlan) (caseId : String) (previousPlans : List RecoveryPlan) :
    (acceptPlan plan caseId previousPlans).planId ∉ previousPlans.map (·.planId) := by
  have hused := exists_unused caseId (previousPlans.map (·.planId)) (previousPlans.length + 1)
  exact freshSequence_notMem hused

/-- The caregiver assumptions that a plan came with make no difference. -/
theorem acceptPlan_materialize (plan : RecoveryPlan) (caseId : String) (previousPlans : List RecoveryPlan) :
    acceptPlan (materializeCaregiverAssumptions plan) caseId previousPlans = acceptPlan plan caseId previousPlans :=
  materializeCaregiverAssumptions_rename plan _

/-- An accepted plan has its caregiver assumptions. -/
theorem materialize_acceptPlan (plan : RecoveryPlan) (caseId : String) (previousPlans : List RecoveryPlan) :
    materializeCaregiverAssumptions (acceptPlan plan caseId previousPlans) = acceptPlan plan caseId previousPlans :=
  materializeCaregiverAssumptions_idem _

/-- The assumptions of a case that has accepted a plan under its lifecycle identifier. -/
def acceptedAssumptions (priorCase updatedCase : RecoveryCase) (finalPlan acceptedPlan : RecoveryPlan) :
    List PlanAssumption :=
  let transientIds := finalPlan.assumptions.map (·.assumptionId)
  let preexistingIds := priorCase.assumptions.map (·.assumptionId)
  let retained := updatedCase.assumptions.filter fun assumption =>
    assumption.assumptionId ∉ transientIds ∨ assumption.assumptionId ∈ preexistingIds
  mergeAssumptions retained acceptedPlan.assumptions

/-- `_accept_replanning_result`. -/
def acceptReplanningResult (priorCase : RecoveryCase) (result : ReplanningResult) :
    Except Failure ReplanningResult :=
  match result.finalPlan with
  | none => .error .assertionError
  | some finalPlan =>
    let acceptedPlan := acceptPlan finalPlan priorCase.caseId result.recoveryCase.previousPlans
    .ok { result with
      finalPlan := some acceptedPlan
      finalValidation := { result.finalValidation with validatedPlan := acceptedPlan }
      recoveryCase := { result.recoveryCase with
        activeRecoveryPlan := some acceptedPlan
        assumptions := acceptedAssumptions priorCase result.recoveryCase finalPlan acceptedPlan } }

/-- An accepted replanning result has a valid plan, under its lifecycle identifier, in the declined case. -/
theorem acceptReplanningResult_eq_ok {priorCase : RecoveryCase} {outcome : InvalidationOutcome} {event : RecoveryEvent}
    {attempts : PlanningAttempts} {candidate : Option BackupCareCandidate} {accepted : ReplanningResult}
    {plan : RecoveryPlan}
    (hplan : plan =
      acceptPlan attempts.last.validation.validatedPlan priorCase.caseId outcome.recoveryCase.previousPlans)
    (h : acceptReplanningResult priorCase (buildReplanningResult outcome event attempts candidate) = .ok accepted) :
    attempts.last.validation.valid = true ∧
      (∃ assumptions, accepted.recoveryCase = { outcome.recoveryCase with
        status := .executing
        activeRecoveryPlan := some plan
        assumptions
        uncoveredWindows := [] }) ∧
      accepted.finalValidation = { attempts.last.validation with validatedPlan := plan } ∧
      accepted.researchedCandidate = candidate := by
  subst hplan
  cases hvalid : attempts.last.validation.valid with
  | false => simp [acceptReplanningResult, buildReplanningResult, hvalid] at h
  | true =>
    simp only [acceptReplanningResult, buildReplanningResult, hvalid, if_true, acceptPlan_materialize,
      Except.ok.injEq] at h
    subst h
    exact ⟨rfl, ⟨_, rfl⟩, by rw [← hvalid]; rfl, rfl⟩

/-- The case with the provider that replanning has found, if it has found one. -/
def withResearched (recoveryCase : RecoveryCase) (candidate : Option BackupCareCandidate) : RecoveryCase :=
  match candidate with
  | none => recoveryCase
  | some candidate =>
    { recoveryCase with
      contextState := { recoveryCase.contextState with researchedBackupCareCandidate := some candidate } }

/-- Recording the provider changes the context and nothing else. -/
theorem withResearched_eq (recoveryCase : RecoveryCase) (candidate : Option BackupCareCandidate) :
    ∃ contextState, withResearched recoveryCase candidate = { recoveryCase with contextState } := by
  cases candidate with
  | none => exact ⟨_, rfl⟩
  | some candidate => exact ⟨_, rfl⟩

theorem withResearched_assumptions (recoveryCase : RecoveryCase) (candidate : Option BackupCareCandidate) :
    (withResearched recoveryCase candidate).assumptions = recoveryCase.assumptions := by
  cases candidate <;> rfl

/-! ### Execution -/

/-- `_execute_and_complete`. -/
def executeAndComplete (scenarioFactory : DemoScenario) (caseId : String) : Service RecoveryCase := do
  let current ← getCase caseId
  let scenario ← Prog.ofExcept (scenarioFor scenarioFactory current)
  Prog.ofExcept (raiseIf (current.activeRecoveryPlan = none) .attributeError)
  let now ← nowAfter current.updatedAt
  let execution ← execute caseId now
  if !execution.succeeded then return execution.recoveryCase
  let later ← nowAfter execution.recoveryCase.updatedAt
  let completion ← verifyAndResolve caseId scenario later
  return completion.recoveryCase

/-! ### Starting -/

/-- The event with which a recovery begins. -/
def disruptionEvent (command : StartRecoveryCommand) (caseId : String) (details : List (String × JsonValue)) :
    RecoveryEvent :=
  { eventId := s!"disruption:{caseId}"
    eventType := .disruptionDetected
    occurredAt := command.occurredAt
    caregiverId := command.caregiverId
    message := command.message
    details }

/-- The disruption that a command reports. -/
def originalDisruption (command : StartRecoveryCommand) : OriginalDisruption :=
  { disruptionType := command.disruptionType
    occurredAt := command.occurredAt
    caregiverId := command.caregiverId
    message := command.message }

/-- The disruption in one line. -/
def disruptionText (command : StartRecoveryCommand) : String := s!"{command.disruptionType}: {command.message}"

/-- Why there is no option, for a reader and for a program. -/
def noOptionDetails (externalDisabled : Bool) (uncovered : List CoverageWindow) (preservedIds : List String) :
    List (String × JsonValue) :=
  [("outcome_code", .str "NO_RECOVERY_OPTION"),
    ("reason_code", .str (if externalDisabled then "EXTERNAL_BACKUP_DISABLED" else "NO_PLANABLE_BACKUP_CARE")),
    ("message", .str "No recovery option is available with your current settings."),
    ("supporting_text", .str
      (if externalDisabled then
        "Known caregivers cannot cover the remaining gap, and external backup care is turned off."
      else "Known caregivers and eligible backup care cannot form a complete safe day.")),
    ("uncovered_windows", .list (uncovered.map windowJson)),
    ("preserved_segment_ids", .list (preservedIds.map .str))]

/-- The case of a disruption for which there is no option from the start. -/
def initialNoOptionCase (command : StartRecoveryCommand) (caseId : String) (scenario : DemoScenario)
    (uncovered : List CoverageWindow) (now : Instant) : RecoveryCase :=
  { caseId
    status := .noRecoveryOption
    disruption := disruptionText command
    coverageGap := scenario.requiredCoverage
    uncoveredWindows := uncovered
    contextState :=
      { scenarioSnapshot := some scenario, originalDisruption := some (originalDisruption command) }
    familyPolicy := some scenario.policy
    events :=
      [disruptionEvent command caseId
        (("disruption_type", .str command.disruptionType) ::
          noOptionDetails (!scenario.policy.allowExternalBackupProviders) uncovered [])]
    createdAt := now
    updatedAt := now }

/-- `_persist_initial_no_option`. -/
def persistInitialNoOption (command : StartRecoveryCommand) (caseId : String) (scenario : DemoScenario)
    (uncovered : List CoverageWindow) : Service RecoveryCase := do
  let now ← clock
  saveCase (initialNoOptionCase command caseId scenario uncovered now) none

/-- The case that starts with an accepted plan: what the domain creates, with the disruption and its facts. -/
def startedCase (command : StartRecoveryCommand) (caseId : String) (scenario : DemoScenario)
    (created : RecoveryCase) (researched : Option BackupCareCandidate) : RecoveryCase :=
  { created with
    events := [disruptionEvent command caseId [("disruption_type", .str command.disruptionType)]]
    contextState :=
      { scenarioSnapshot := some scenario
        originalDisruption := some (originalDisruption command)
        researchedBackupCareCandidate := researched }
    familyPolicy := some scenario.policy }

/-- No known path, and no provider who could complete one. -/
def noInitialOption (scenario : DemoScenario) (need : RecoveryNeed) : Except Failure Bool :=
  if !need.knownOptionsInsufficient then .ok false
  else if !scenario.policy.allowExternalBackupProviders then .ok true
  else return (← planableResearchCandidateIds scenario need none none).isEmpty

/-- `start_recovery`, for the family's scenario of the day. -/
def startRecovery (scenarioFactory scenario : DemoScenario) (command : StartRecoveryCommand) :
    Service RecoveryCase := do
  let caseId ← newId
  let need ← Prog.ofExcept (assessKnownOptionRecoveryNeed scenario none none)
  if ← Prog.ofExcept (noInitialOption scenario need) then
    return ← persistInitialNoOption command caseId scenario need.requestedWindows
  let planning ← planInitial (disruptionText command) scenario
  let some finalPlan := planning.finalPlan
    | .raise (.planningFailed "DayMend could not produce a valid initial recovery plan.")
  let acceptedPlan := acceptPlan finalPlan caseId []
  let now ← clock
  let created ← Prog.ofExcept
    (createActiveRecoveryCase caseId (disruptionText command) acceptedPlan scenario.requiredCoverage now)
  let saved ← saveCase (startedCase command caseId scenario created planning.researchedCandidate) none
  if planning.researchedCandidate.isNone && !planning.requiresApproval then return saved
  let later ← nowAfter saved.updatedAt
  let gate ← applyAutonomyGate saved { planning.attempts.last.validation with validatedPlan := acceptedPlan }
    scenario.policy later
  if gate.approvalRequired then return gate.recoveryCase
  executeAndComplete scenarioFactory caseId

/-! ### Declines -/

/-- `RecoveryEvent(...)`: the event of a command; a decline without response details is refused. -/
def eventOf (command : EventCommand) (eventId : String) : Except Failure RecoveryEvent :=
  if h : command.caregiverId ≠ "" ∧ command.message ≠ "" then
    .ok
      { eventId
        eventType := command.eventType
        occurredAt := command.occurredAt
        caregiverId := command.caregiverId
        relevantWindow := command.relevantWindow
        message := command.message
        caregiver_decline_has_response_details := fun _ => ⟨⟨_, rfl, h.1⟩, ⟨_, rfl, h.2⟩, rfl⟩ }
  else .error (.valueError "caregiver decline events require caregiver_id, message, and relevant_window")

/-- `command.event_id or f"event:{id_factory()}"`. -/
def eventIdOf (command : EventCommand) : Service String :=
  match command.eventId with
  | some eventId => if eventId = "" then return "event:" ++ (← newId) else return eventId
  | none => return "event:" ++ (← newId)

/-- The declined case for which there is no option. -/
def noOptionCase (outcome : InvalidationOutcome) (event : RecoveryEvent) (externalDisabled : Bool)
    (uncovered : List CoverageWindow) (now : Instant) : RecoveryCase :=
  let recorded := { event with
    details := event.details ++
      noOptionDetails externalDisabled uncovered (outcome.preservedSegments.map (·.segmentId)) }
  { outcome.recoveryCase with
    status := .noRecoveryOption
    events := outcome.recoveryCase.events.dropLast ++ [recorded]
    updatedAt := now }

/-- Whether neither known options nor a provider can repair a declined plan. -/
def noRecoveryOption (scenario : DemoScenario) (outcome : InvalidationOutcome) (need : RecoveryNeed) :
    Except Failure Bool :=
  if !need.knownOptionsInsufficient then .ok false
  else if !scenario.policy.allowExternalBackupProviders then .ok true
  else return (← planableResearchCandidateIds outcome.updatedScenario need (some outcome.uncoveredWindows)
    (some outcome.preservedSegments)).isEmpty

/-- `_stop_when_no_recovery_option`. -/
def stopWhenNoRecoveryOption (recoveryCase : RecoveryCase) (event : RecoveryEvent) (scenario : DemoScenario) :
    Service (Option RecoveryCase) := do
  let outcome ← Prog.ofExcept (applyCaregiverDecline recoveryCase event scenario)
  let need ← Prog.ofExcept (assessKnownOptionRecoveryNeed outcome.updatedScenario (some outcome.uncoveredWindows)
    (some outcome.preservedSegments))
  if ← Prog.ofExcept (noRecoveryOption scenario outcome need) then
    let now ← nowAfter outcome.recoveryCase.updatedAt
    let saved ← saveCase
      (noOptionCase outcome event (!scenario.policy.allowExternalBackupProviders) need.requestedWindows now)
      (some recoveryCase.version)
    return some saved
  else return none

/-- `except ValueError as exc: raise EventNotApplicable(str(exc))`. -/
def eventNotApplicable : Failure → Failure
  | .valueError message => .eventNotApplicable message
  | failure => failure

/-- The two steps that `process_event` takes inside its `try`: stop, or replan. -/
def stopOrReplan (recoveryCase : RecoveryCase) (event : RecoveryEvent) (scenario : DemoScenario) :
    Service (RecoveryCase ⊕ ReplanningResult) := do
  match ← stopWhenNoRecoveryOption recoveryCase event scenario with
  | some stopped => return .inl stopped
  | none => return .inr (← replan recoveryCase event scenario)

/-- What `process_event` does with a replanning result: save it, and gate and execute the new plan. -/
def finishReplanning (scenarioFactory : DemoScenario) (recoveryCase : RecoveryCase) (result : ReplanningResult) :
    Service RecoveryCase := do
  if !result.success then
    let _ ← saveCase result.recoveryCase (some recoveryCase.version)
    .raise (.replanningFailed "DayMend could not produce a valid replacement plan.")
  else
    let accepted ← Prog.ofExcept (acceptReplanningResult recoveryCase result)
    let replanned ← saveCase (withResearched accepted.recoveryCase accepted.researchedCandidate)
      (some recoveryCase.version)
    let scenario ← Prog.ofExcept (scenarioFor scenarioFactory replanned)
    let now ← nowAfter replanned.updatedAt
    let gate ← applyAutonomyGate replanned accepted.finalValidation scenario.policy now
    if gate.approvalRequired then return gate.recoveryCase
    executeAndComplete scenarioFactory gate.recoveryCase.caseId

/-- `process_event`. -/
def processEvent (scenarioFactory : DemoScenario) (caseId : String) (command : EventCommand) :
    Service RecoveryCase := do
  let stored ← getCase caseId
  Prog.ofExcept (checkExpectedVersion stored command.expectedVersion)
  Prog.ofExcept (raiseIf (command.eventType ≠ .caregiverDeclined)
    (.eventNotApplicable s!"Event type {command.eventType.value} is not supported."))
  let now ← nowAfter stored.updatedAt
  let recoveryCase := { stored with updatedAt := now }
  let scenario ← Prog.ofExcept (scenarioFor scenarioFactory recoveryCase)
  let eventId ← eventIdOf command
  let event ← Prog.ofExcept (eventOf command eventId)
  match ← (stopOrReplan recoveryCase event scenario).mapError eventNotApplicable with
  | .inl stopped => return stopped
  | .inr result => finishReplanning scenarioFactory recoveryCase result

/-! ### Decisions -/

/-- `decide_approval`. -/
def decideApproval (scenarioFactory : DemoScenario) (caseId approvalId : String) (command : ApprovalCommand) :
    Service RecoveryCase := do
  let current ← getCase caseId
  Prog.ofExcept (checkExpectedVersion current command.expectedVersion)
  let now ← nowAfter current.updatedAt
  let reason := if command.decision = .approve then none else command.reason
  let result ← Services.decide caseId approvalId command.decision now reason
  if result.approval.status ≠ .approved then return result.recoveryCase
  if result.idempotent ∧ result.recoveryCase.status = .resolved then return result.recoveryCase
  executeAndComplete scenarioFactory caseId

/-! ### Requests -/

/-- The requests that the service takes. -/
inductive Request (scenarioFactory : DemoScenario) : Service RecoveryCase → Prop where
  /-- Start a recovery, on a day with these facts. -/
  | start (scenario : DemoScenario) (command : StartRecoveryCommand) :
      Request scenarioFactory (startRecovery scenarioFactory scenario command)
  /-- Process an event. -/
  | event (caseId : String) (command : EventCommand) :
      Request scenarioFactory (processEvent scenarioFactory caseId command)
  /-- Decide an approval. -/
  | decide (caseId approvalId : String) (command : ApprovalCommand) :
      Request scenarioFactory (decideApproval scenarioFactory caseId approvalId command)

end DayMend.Application
