import DayMend.Services.PlanInvalidation
import Mathlib.Data.List.GetD

/-!
# A decline on objects

Cases are objects, and two of their attributes, the list of previous plans and the context
dictionary, are containers that `apply_caregiver_decline` changes in place, after copying
them. Here the containers stand in a memory, a case refers to them by address, and the
service runs on the memory (`applyCaregiverDeclineInPlace`). It leaves every container
that was there before as it was, and computes what `applyCaregiverDecline` says
(`applyCaregiverDeclineInPlace_eq`).
-/

namespace DayMend.Services

open DayMend.Base DayMend.Models DayMend.Fixtures

/-! ### The memory -/

/-- The containers, each at an address. -/
structure Memory where
  planLists : List (List RecoveryPlan)
  contexts : List ContextState

/-- The list of plans at an address. -/
def Memory.plans (memory : Memory) (address : ℕ) : List RecoveryPlan := memory.planLists.getD address []

/-- The context at an address. -/
def Memory.context (memory : Memory) (address : ℕ) : ContextState := memory.contexts.getD address {}

/-- `plans.copy()`: a new list with the same plans, at the next address. -/
def Memory.copyPlans (memory : Memory) (address : ℕ) : Memory :=
  { memory with planLists := memory.planLists ++ [memory.plans address] }

/-- `plans.append(plan)`. -/
def Memory.appendPlan (memory : Memory) (address : ℕ) (plan : RecoveryPlan) : Memory :=
  { memory with planLists := memory.planLists.modify address (· ++ [plan]) }

/-- `context.copy()`: a new dictionary with the same entries, at the next address. -/
def Memory.copyContext (memory : Memory) (address : ℕ) : Memory :=
  { memory with contexts := memory.contexts ++ [memory.context address] }

/-- `context.update(entries)`. -/
def Memory.updateContext (memory : Memory) (address : ℕ) (entries : ContextState → ContextState) : Memory :=
  { memory with contexts := memory.contexts.modify address entries }

/-- A case as an object: its attributes, but for the two containers, whose addresses it has. -/
structure CaseObject where
  attributes : RecoveryCase
  previousPlans : ℕ
  contextState : ℕ

/-- What is read of a case. -/
def CaseObject.value (memory : Memory) (object : CaseObject) : RecoveryCase :=
  { object.attributes with
    previousPlans := memory.plans object.previousPlans
    contextState := memory.context object.contextState }

/-- The containers of a case are there. -/
structure CaseObject.Within (object : CaseObject) (memory : Memory) : Prop where
  previousPlans : object.previousPlans < memory.planLists.length
  contextState : object.contextState < memory.contexts.length

/-! ### The service -/

/-- Computations that change the memory, and may fail; what a failed one has changed stays changed. -/
abbrev InPlace := ExceptT Failure (StateM Memory)

/-- A computation that leaves the memory alone. -/
def InPlace.ofExcept {α : Type} (x : Except Failure α) : InPlace α := ExceptT.mk (pure x)

/-- A run on a memory. -/
def InPlace.runOn {α : Type} (x : InPlace α) (memory : Memory) : Except Failure α × Memory := x.run.run memory

/-- What the service finds out before it changes anything. -/
structure FoundImpact where
  decline : Decline
  original : RecoveryPlan
  updatedAssumptions : List PlanAssumption
  invalidated : List PlanAssumption
  impact : Impact
  impacted : List RecoveryPlanSegment

/-- The segments that stay. -/
def FoundImpact.preserved (found : FoundImpact) : List RecoveryPlanSegment :=
  found.original.coverageSegments.filter (·.segmentId ∉ found.impact.impactedIds)

/-- The windows of the others. -/
def FoundImpact.uncovered (found : FoundImpact) : List CoverageWindow := mergeWindows (found.impacted.map (·.window))

/-- The reasons for which they are in scope. -/
def FoundImpact.reasons (found : FoundImpact) : List SegmentImpactReason :=
  found.impacted.filterMap fun segment => found.impact.impactReasons.get? segment.segmentId

/-- `apply_caregiver_decline`, up to its last check. -/
def findImpact (recoveryCase : RecoveryCase) (event : RecoveryEvent) (scenario : DemoScenario) :
    Except Failure FoundImpact := do
  let (decline, activePlan) ← checkDecline recoveryCase event
  let original := materializeCaregiverAssumptions activePlan
  let assumptions := if recoveryCase.assumptions = [] then original.assumptions else recoveryCase.assumptions
  let updatedAssumptions := assumptions.map fun assumption =>
    if Matches decline assumption then invalidateAssumption event decline assumption else assumption
  let invalidated := (assumptions.filter (Matches decline ·)).map (invalidateAssumption event decline)
  let declined ← findCaregiver scenario decline.caregiverId
  let impact := impactOf decline declined original
  let impacted := (sortedSegments original.coverageSegments).filter (·.segmentId ∈ impact.impactedIds)
  raiseIf (impacted = [] ∨ invalidated = [])
    (.valueError "caregiver decline did not invalidate an active plan dependency")
  return { decline, original, updatedAssumptions, invalidated, impact, impacted }

/-- The outcome, with the updated case. -/
def FoundImpact.outcome (found : FoundImpact) (previousStatus : RecoveryStatus) (updatedScenario : DemoScenario)
    (updatedCase : RecoveryCase) : InvalidationOutcome :=
  { recoveryCase := updatedCase
    previousStatus
    updatedScenario
    originalValidPlan := found.original
    invalidatedAssumptions := found.invalidated
    impactedSegments := found.impacted
    impactReasons := found.reasons
    preservedSegments := found.preserved
    uncoveredWindows := found.uncovered }

theorem applyCaregiverDecline_eq (recoveryCase : RecoveryCase) (event : RecoveryEvent) (scenario : DemoScenario) :
    applyCaregiverDecline recoveryCase event scenario = (do
      let found ← findImpact recoveryCase event scenario
      let updatedScenario ← applyCaregiverDeclineToScenario scenario found.decline
      return found.outcome recoveryCase.status updatedScenario <|
        declinedCase recoveryCase event found.original found.updatedAssumptions updatedScenario found.reasons
          (found.uncovered.headD recoveryCase.coverageGap) found.uncovered) := by
  unfold applyCaregiverDecline findImpact
  cases checkDecline recoveryCase event with
  | error e => rfl
  | ok checked =>
    obtain ⟨decline, activePlan⟩ := checked
    simp only [bind, Except.bind]
    cases findCaregiver scenario decline.caregiverId with
    | error e => rfl
    | ok declined =>
      dsimp only
      unfold raiseIf
      split_ifs <;> rfl

/-- The attributes of the updated case, apart from the containers. -/
def declinedAttributes (recoveryCase : RecoveryCase) (event : RecoveryEvent) (found : FoundImpact) : RecoveryCase :=
  { recoveryCase with
    status := .replanning
    coverageGap := found.uncovered.headD recoveryCase.coverageGap
    uncoveredWindows := found.uncovered
    activeRecoveryPlan := some { found.original with
      assumptions := found.updatedAssumptions
      validationState := .invalid
      validationErrors := [s!"External event {event.eventId} invalidated caregiver availability."] }
    assumptions := found.updatedAssumptions
    events := recoveryCase.events ++ [event]
    latestReplanTriggerEventId := event.eventId
    updatedAt := max (max recoveryCase.createdAt recoveryCase.updatedAt) event.occurredAt }

/-- The entries that go into the context. -/
def declinedContext (event : RecoveryEvent) (updatedScenario : DemoScenario) (found : FoundImpact)
    (context : ContextState) : ContextState :=
  { context with
    latestCaregiverResponse := event
    caregiverAvailability := caregiverAvailabilitySnapshot updatedScenario
    segmentImpactReasons := found.reasons }

/-- `plans.copy()`, with the plan appended if it is new. -/
def copyPlansWith (address : ℕ) (plan : RecoveryPlan) : InPlace ℕ := do
  let copy := (← get).planLists.length
  modify (·.copyPlans address)
  modify fun memory =>
    if plan.planId ∈ (memory.plans copy).map (·.planId) then memory else memory.appendPlan copy plan
  return copy

/-- `context.copy()`, updated. -/
def copyContextWith (address : ℕ) (entries : ContextState → ContextState) : InPlace ℕ := do
  let copy := (← get).contexts.length
  modify (·.copyContext address)
  modify (·.updateContext copy entries)
  return copy

/-- `PlanInvalidationService.apply_caregiver_decline`, on an object: the outcome, and the updated case. -/
def applyCaregiverDeclineInPlace (object : CaseObject) (event : RecoveryEvent) (scenario : DemoScenario) :
    InPlace (InvalidationOutcome × CaseObject) := do
  let recoveryCase := object.value (← get)
  let found ← InPlace.ofExcept (findImpact recoveryCase event scenario)
  let previousPlans ← copyPlansWith object.previousPlans found.original
  let updatedScenario ← InPlace.ofExcept (applyCaregiverDeclineToScenario scenario found.decline)
  let contextState ← copyContextWith object.contextState (declinedContext event updatedScenario found)
  let updatedCase : CaseObject := ⟨declinedAttributes recoveryCase event found, previousPlans, contextState⟩
  return (found.outcome recoveryCase.status updatedScenario (updatedCase.value (← get)), updatedCase)

/-! ### Runs -/

section Runs

variable {α β : Type} {memory later : Memory} {x : InPlace α} {f : α → InPlace β}

theorem InPlace.runOn_bind :
    (x >>= f).runOn memory =
      match x.runOn memory with
      | (.ok a, later) => (f a).runOn later
      | (.error e, later) => (.error e, later) := by
  simp only [runOn, ExceptT.run_bind, StateT.run_bind]
  cases x.run.run memory with
  | mk r later => cases r <;> rfl

theorem InPlace.runOn_bind_of_ok {a : α} (h : x.runOn memory = (.ok a, later)) :
    (x >>= f).runOn memory = (f a).runOn later := by
  rw [runOn_bind, h]

theorem InPlace.runOn_bind_of_error {e : Failure} (h : x.runOn memory = (.error e, later)) :
    (x >>= f).runOn memory = (.error e, later) := by
  rw [runOn_bind, h]

/-- What is seen of the result of a run is seen of a result. -/
theorem InPlace.exists_run_of_toOption {g : α → β} {b : β} (h : (x.runOn memory).1.toOption.map g = some b) :
    ∃ a later, x.runOn memory = (.ok a, later) ∧ g a = b := by
  obtain ⟨a, ha, hb⟩ := exists_ok_of_toOption h
  exact ⟨a, _, Prod.ext ha rfl, hb⟩

theorem InPlace.runOn_get : (get : InPlace Memory).runOn memory = (.ok memory, memory) := rfl

theorem InPlace.runOn_ofExcept {r : Except Failure α} : (InPlace.ofExcept r).runOn memory = (r, memory) := rfl

theorem InPlace.runOn_pure {a : α} : (pure a : InPlace α).runOn memory = (.ok a, memory) := rfl

end Runs

/-! ### What it leaves behind -/

variable {memory later : Memory} {object : CaseObject} {event : RecoveryEvent} {scenario : DemoScenario}
  {outcome : InvalidationOutcome}

/-- All containers of a memory are in a later one, as they were. -/
structure Memory.Extends (later memory : Memory) : Prop where
  planLists : memory.planLists <+: later.planLists
  contexts : memory.contexts <+: later.contexts

theorem Memory.Extends.refl (memory : Memory) : memory.Extends memory := ⟨List.prefix_rfl, List.prefix_rfl⟩

/-- **A case does not change** where its containers do not. -/
theorem CaseObject.Within.value_eq (h : object.Within memory) (hlater : later.Extends memory) :
    object.value later = object.value memory := by
  have hplans : later.plans object.previousPlans = memory.plans object.previousPlans := by
    obtain ⟨rest, hrest⟩ := hlater.planLists
    rw [Memory.plans, Memory.plans, ← hrest, List.getD_append _ _ _ _ h.previousPlans]
  have hcontext : later.context object.contextState = memory.context object.contextState := by
    obtain ⟨rest, hrest⟩ := hlater.contexts
    rw [Memory.context, Memory.context, ← hrest, List.getD_append _ _ _ _ h.contextState]
  rw [CaseObject.value, CaseObject.value, hplans, hcontext]

theorem modify_concat {α : Type} (l : List α) (a : α) (f : α → α) : (l ++ [a]).modify l.length f = l ++ [f a] := by
  rw [List.modify_eq_take_cons_drop (by simp)]
  simp

/-- The plans before, and the given one if it is new. -/
def withPlan (plans : List RecoveryPlan) (plan : RecoveryPlan) : List RecoveryPlan :=
  if plan.planId ∈ plans.map (·.planId) then plans else plans ++ [plan]

theorem runOn_copyPlansWith (address : ℕ) (plan : RecoveryPlan) :
    (copyPlansWith address plan).runOn memory =
      (.ok memory.planLists.length,
        { memory with planLists := memory.planLists ++ [withPlan (memory.plans address) plan] }) := by
  have hcopy : (memory.copyPlans address).plans memory.planLists.length = memory.plans address := by
    simp [Memory.plans, Memory.copyPlans]
  have hrun : (copyPlansWith address plan).runOn memory = (.ok memory.planLists.length,
      if plan.planId ∈ ((memory.copyPlans address).plans memory.planLists.length).map (·.planId) then
        memory.copyPlans address
      else (memory.copyPlans address).appendPlan memory.planLists.length plan) := rfl
  rw [hrun, hcopy, withPlan]
  split
  · rfl
  · rw [Memory.appendPlan, Memory.copyPlans, modify_concat]

theorem runOn_copyContextWith (address : ℕ) (entries : ContextState → ContextState) :
    (copyContextWith address entries).runOn memory =
      (.ok memory.contexts.length,
        { memory with contexts := memory.contexts ++ [entries (memory.context address)] }) := by
  have hrun : (copyContextWith address entries).runOn memory = (.ok memory.contexts.length,
      (memory.copyContext address).updateContext memory.contexts.length entries) := rfl
  rw [hrun, Memory.updateContext, Memory.copyContext, modify_concat]

/-- The updated object is the updated case. -/
theorem value_declined (recoveryCase : RecoveryCase) {updatedScenario : DemoScenario} {found : FoundImpact}
    {previousPlans contextState : ℕ}
    (hplans : later.plans previousPlans = withPlan recoveryCase.previousPlans found.original)
    (hcontext : later.context contextState = declinedContext event updatedScenario found recoveryCase.contextState) :
    CaseObject.value later ⟨declinedAttributes recoveryCase event found, previousPlans, contextState⟩ =
      declinedCase recoveryCase event found.original found.updatedAssumptions updatedScenario found.reasons
        (found.uncovered.headD recoveryCase.coverageGap) found.uncovered := by
  rw [CaseObject.value, hplans, hcontext, withPlan, declinedCase, declinedAttributes, declinedContext]

/-- **The service on objects** changes no container that was there, and computes what the service on values does. -/
theorem applyCaregiverDeclineInPlace_spec (object : CaseObject) (event : RecoveryEvent) (scenario : DemoScenario)
    (memory : Memory) :
    ∃ result later, (applyCaregiverDeclineInPlace object event scenario).runOn memory = (result, later) ∧
      later.Extends memory ∧ result.map Prod.fst = applyCaregiverDecline (object.value memory) event scenario ∧
        ∀ outcome updatedCase, result = .ok (outcome, updatedCase) →
          outcome.recoveryCase = updatedCase.value later := by
  rw [applyCaregiverDecline_eq, applyCaregiverDeclineInPlace, InPlace.runOn_bind_of_ok InPlace.runOn_get]
  dsimp only
  cases findImpact (object.value memory) event scenario with
  | error e =>
    exact ⟨_, _, InPlace.runOn_bind_of_error InPlace.runOn_ofExcept, Memory.Extends.refl memory, rfl,
      fun _ _ h => by cases h⟩
  | ok found =>
    rw [InPlace.runOn_bind_of_ok InPlace.runOn_ofExcept, InPlace.runOn_bind_of_ok (runOn_copyPlansWith ..), ok_bind]
    cases applyCaregiverDeclineToScenario scenario found.decline with
    | error e =>
      exact ⟨_, _, InPlace.runOn_bind_of_error InPlace.runOn_ofExcept, ⟨List.prefix_append .., List.prefix_rfl⟩, rfl,
        fun _ _ h => by cases h⟩
    | ok updatedScenario =>
      rw [InPlace.runOn_bind_of_ok InPlace.runOn_ofExcept, InPlace.runOn_bind_of_ok (runOn_copyContextWith ..),
        InPlace.runOn_bind_of_ok InPlace.runOn_get, ok_bind]
      refine ⟨_, _, InPlace.runOn_pure, ⟨List.prefix_append .., List.prefix_append ..⟩, ?_, fun _ _ h => ?_⟩
      · rw [value_declined (object.value memory) ?_ ?_]
        · rfl
        · simp [Memory.plans, CaseObject.value]
        · simp [Memory.context, CaseObject.value]
      · obtain ⟨rfl, rfl⟩ := Prod.mk.inj (Except.ok.inj h)
        rfl

end DayMend.Services
