import DayMend.Runs.Programs

/-!
# No update is lost

Every operation makes the next version of a case from one that it has read, in several
saves and with other requests in between. `extends_of_reaches` says that nothing is lost
on the way: the versions of a case are numbered one after the other, and each keeps the
events, the replaced plans and the requests for approval of the one before it, in their
order (`Extends`). `retains_of_reaches` is the same for any two versions.
-/

namespace DayMend.Runs

open DayMend.Base DayMend.Models DayMend.Fixtures DayMend.Services DayMend.Agent DayMend.Application

variable {scenarioFactory : DemoScenario}
  {answers : AgentRuntimeRequest → Except Failure AgentRuntimeResponse → Prop} {seen : Set RecoveryCase}
  {c c' : RecoveryCase}

/-- `newer` has all that `older` has recorded, where it stood. -/
structure Retains (older newer : RecoveryCase) : Prop where
  events : older.events <+: newer.events
  eventIds : older.events.map (·.eventId) <+: newer.events.map (·.eventId)
  previousPlans : older.previousPlans <+: newer.previousPlans
  approvalIds : older.approvalHistory.map (·.approvalId) <+: newer.approvalHistory.map (·.approvalId)

/-- `newer` is the next version, and has all that `older` has recorded. -/
structure Extends (older newer : RecoveryCase) : Prop extends Retains older newer where
  version : newer.version = older.version + 1

/-- With the events their identifiers are kept. -/
theorem Retains.of_events (hevents : c.events <+: c'.events) (hprevious : c.previousPlans <+: c'.previousPlans)
    (happrovals : c.approvalHistory.map (·.approvalId) <+: c'.approvalHistory.map (·.approvalId)) :
    Retains c c' where
  events := hevents
  eventIds := hevents.map _
  previousPlans := hprevious
  approvalIds := happrovals

theorem Retains.trans {c₁ c₂ c₃ : RecoveryCase} (h : Retains c₁ c₂) (h' : Retains c₂ c₃) : Retains c₁ c₃ where
  events := h.events.trans h'.events
  eventIds := h.eventIds.trans h'.eventIds
  previousPlans := h.previousPlans.trans h'.previousPlans
  approvalIds := h.approvalIds.trans h'.approvalIds

/-- What is retained has nothing to do with the number of the version. -/
theorem retains_setVersion {n : ℕ} (h : Retains c c') : Retains c (setVersion n c') :=
  ⟨h.events, h.eventIds, h.previousPlans, h.approvalIds⟩

/-! ### What the operations append -/

theorem prefix_withStartEvent (events : List RecoveryEvent) (planId : String) (now : Instant) :
    events <+: withStartEvent events planId now := by
  unfold withStartEvent
  dsimp only
  split
  · exact List.prefix_rfl
  · exact List.prefix_append ..

theorem prefix_withCompletionEvents (recoveryCase : RecoveryCase) (planId : String) (now : Instant) :
    recoveryCase.events <+: withCompletionEvents recoveryCase planId now := by
  unfold withCompletionEvents
  dsimp only
  split
  · exact List.prefix_rfl
  · exact List.prefix_append ..

/-- The loop over the required actions only appends events. -/
theorem RanActions.prefix_events {planId : String} {existing : Dict String ExecutionAction} {now : Instant}
    {required : List ExecutionAction} {progress after : ExecutionProgress}
    (h : RanActions planId existing now required progress after) : progress.events <+: after.events := by
  induction h with
  | nil => exact List.prefix_rfl
  | skip _ _ ih => exact ih
  | run failTargets _ _ ih => exact (List.prefix_append ..).trans ih

/-- A decision changes a request where it stands. -/
theorem decidedCase_approvalIds (approval : ApprovalRequest) (decision : ApprovalDecision) (now : Instant)
    (reason : Option String) :
    (decidedCase c approval decision now reason).approvalHistory.map (·.approvalId) =
      c.approvalHistory.map (·.approvalId) := by
  simp only [decidedCase, List.map_map]
  refine List.map_congr_left fun item _ => ?_
  simp only [Function.comp_apply]
  split
  next hid => exact hid.symm
  next => rfl

/-! ### Steps -/

/-- A step that records no decline retains everything. -/
theorem WorkStep.retains (h : WorkStep scenarioFactory answers seen c c') : Retains c c' := by
  cases h with
  | gateExecuting now _ _ _ => exact .of_events List.prefix_rfl List.prefix_rfl List.prefix_rfl
  | gateApproval now _ _ _ _ _ =>
    refine .of_events (List.prefix_append ..) List.prefix_rfl ?_
    simp only [requestedCase, List.map_append]
    exact List.prefix_append ..
  | decide decision now reason _ _ =>
    refine .of_events (List.prefix_append ..) List.prefix_rfl ?_
    rw [decidedCase_approvalIds]
  | execute now _ hrun =>
    exact .of_events ((prefix_withStartEvent ..).trans hrun.prefix_events) List.prefix_rfl List.prefix_rfl
  | resolve now _ _ _ _ => exact .of_events (prefix_withCompletionEvents ..) List.prefix_rfl List.prefix_rfl

/-- A decline appends its event, and the plan that it invalidates unless the plan has been replaced before. -/
theorem DeclineOf.retains {event : RecoveryEvent} {scenario : DemoScenario} {outcome : InvalidationOutcome}
    (h : DeclineOf scenarioFactory c event scenario outcome) : Retains c outcome.recoveryCase := by
  obtain ⟨_, plan, _, _, _, _, _, _, _, heq⟩ := h.eq_declinedCase
  rw [heq]
  refine .of_events (List.prefix_append ..) ?_ List.prefix_rfl
  simp only [declinedCase]
  split
  · exact List.prefix_rfl
  · exact List.prefix_append ..

/-- The event of a decline without options stands where the decline's stood. -/
theorem DeclineOf.retains_noOptionCase {event : RecoveryEvent} {scenario : DemoScenario}
    {outcome : InvalidationOutcome} (h : DeclineOf scenarioFactory c event scenario outcome) (externalDisabled : Bool)
    (uncovered : List CoverageWindow) (now : Instant) :
    Retains c (noOptionCase outcome event externalDisabled uncovered now) := by
  refine .of_events ?_ h.retains.previousPlans h.retains.approvalIds
  obtain ⟨_, _, _, _, _, _, _, _, _, heq⟩ := h.eq_declinedCase
  have hevents : outcome.recoveryCase.events = c.events ++ [event] := by rw [heq]; rfl
  simp only [noOptionCase, hevents, List.dropLast_concat]
  exact List.prefix_append ..

theorem retains_acceptedCase {outcome : InvalidationOutcome} (h : Retains c outcome.recoveryCase) (plan : RecoveryPlan)
    (assumptions : List PlanAssumption) (candidate : Option BackupCareCandidate) :
    Retains c (acceptedCase outcome plan assumptions candidate) := by
  cases candidate with
  | none => exact ⟨h.events, h.eventIds, h.previousPlans, h.approvalIds⟩
  | some candidate => exact ⟨h.events, h.eventIds, h.previousPlans, h.approvalIds⟩

/-- **A step retains everything that the version before it has recorded.** -/
theorem CaseStep.retains (h : CaseStep scenarioFactory answers seen c c') : Retains c c' := by
  cases h with
  | work h => exact h.retains
  | noOption externalDisabled uncovered now h => exact h.retains_noOptionCase externalDisabled uncovered now
  | replanFailed h => exact h.retains
  | replanAccepted h =>
    obtain ⟨_, _, _, _, _, _, _, hdecline, _, _, _, rfl⟩ := h
    exact retains_acceptedCase hdecline.retains ..

/-! ### Histories -/

/-- Nothing is saved before the first version. -/
theorem Initial.version_eq (h : Initial c) : c.version = 0 := by
  cases h with
  | noOption command caseId scenario uncovered now h =>
    subst h
    rfl
  | started h =>
    obtain ⟨_, _, _, _, _, _, _, _, _, rfl⟩ := h
    rfl

/-- **Along a history** each version extends the one before it, and the first is version 1. -/
theorem extends_of_history {l : List RecoveryCase} (h : CaseHistory scenarioFactory answers l) :
    l.IsChain (fun newer older => Extends older newer) ∧ ∀ c, l.getLast? = some c → c.version = 1 := by
  induction h with
  | nil => simp
  | @start c hinit =>
    refine ⟨List.isChain_singleton _, fun c' hc' => ?_⟩
    obtain rfl := Option.some.inj hc'
    change c.version + 1 = 1
    rw [hinit.version_eq]
  | @step c c' past _ hs ih =>
    obtain ⟨hchain, hfirst⟩ := ih
    refine ⟨List.isChain_cons_cons.mpr ⟨⟨retains_setVersion hs.retains, rfl⟩, hchain⟩, ?_⟩
    rw [List.getLast?_cons_cons]
    exact hfirst

/-- **No update is lost**: whatever the runtime answers and in whatever order requests take turns, the versions of a
case are numbered from 1 on, one after the other, and each extends the one before it. -/
theorem extends_of_reaches {cfg : Config String RecoveryCase Failure Answer RecoveryCase}
    (h : Reaches scenarioFactory answers cfg) (caseId : String) :
    (versions cfg.saved caseId).IsChain (fun newer older => Extends older newer) ∧
      ∀ c, (versions cfg.saved caseId).getLast? = some c → c.version = 1 :=
  extends_of_history (caseHistory_of_reaches h caseId)

theorem extends_takenOver :
    4 ≤ (versions (Config.run takenOver).saved "case").length ∧
      (versions (Config.run takenOver).saved "case").IsChain (fun newer older => Extends older newer) ∧
        ∀ c, (versions (Config.run takenOver).saved "case").getLast? = some c → c.version = 1 := by
  have hreaches : Reaches sittersDay (fun _ _ => True) (Config.run takenOver) := reaches_takenOver fun _ _ => trivial
  exact ⟨by decide +kernel, extends_of_reaches hreaches "case"⟩

/-- **Nothing recorded ever disappears**: every later version retains what any earlier one has recorded. -/
theorem retains_of_reaches {cfg : Config String RecoveryCase Failure Answer RecoveryCase}
    (h : Reaches scenarioFactory answers cfg) (caseId : String) :
    (versions cfg.saved caseId).Pairwise fun newer older => Retains older newer := by
  have hchain := (extends_of_history (caseHistory_of_reaches h caseId)).1
  have : Trans (fun newer older => Retains older newer) (fun newer older => Retains older newer)
      (fun newer older => Retains older newer) := ⟨fun h h' => h'.trans h⟩
  exact (hchain.imp fun _ _ h => h.toRetains).pairwise

end DayMend.Runs
