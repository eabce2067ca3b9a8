import DayMend.Runs.Atomicity
import DayMend.Runs.SideEffects

/-!
# What one execution carries out

One call of `execute` that runs alone, from any stored case and with any history of
actions: what it asks of the adapter, and what the case records of it. The loop is
described once (`runActions_asking`, `execute_asking`); from it follows exactly when
every required action is carried out exactly once (`execute_exactlyOnce_iff`).
-/

namespace DayMend.Runs

open DayMend.Base DayMend.Models DayMend.Fixtures DayMend.Services DayMend.Agent DayMend.Application
open DayMend.Validation

variable {answers : AgentRuntimeRequest → Except Failure AgentRuntimeResponse → Prop} {c c' : RecoveryCase}
  {caseId planId : String} {plan : RecoveryPlan} {now : Instant} {l l' : List RecoveryCase}
  {existing : Dict String ExecutionAction} {required results : List ExecutionAction}
  {asked : List ((q : Query) × Answer q)}

/-! ### The loop over the required actions -/

/-- The required actions that have no record of success, in their order. -/
def pendingActions (existing : Dict String ExecutionAction) (required : List ExecutionAction) : List ExecutionAction :=
  required.filter fun action => succeededRecord existing action.actionId = none

/-- The actions that the adapter was asked to carry out, first to last. -/
def invoked (asked : List ((q : Query) × Answer q)) : List ExecutionAction :=
  asked.filterMap fun
    | ⟨.execute action _, _⟩ => some action
    | _ => none

/-- The history after some results: each replaces what there was about its action. -/
def recordResults (history results : List ExecutionAction) : List ExecutionAction :=
  results.foldl (fun history result => history.filter (·.actionId ≠ result.actionId) ++ [result]) history

/-- The adapter has answered for an action. -/
def Answered (now : Instant) (action result : ExecutionAction) : Prop :=
  ∃ failTargets, result = simulatedExecute failTargets action now

theorem Answered.ids {action result : ExecutionAction} (h : Answered now action result) :
    result.planId = action.planId ∧ result.actionId = action.actionId := by
  obtain ⟨failTargets, rfl⟩ := h
  exact simulatedExecute_ids failTargets action now

/-- **The loop** asks the adapter for what is pending, and records each answer. -/
theorem runActions_asking (required : List ExecutionAction) :
    ∀ {progress : ExecutionProgress} {asked : List ((q : Query) × Answer q)} {r : Except Failure ExecutionProgress},
      (runActions planId existing now required progress).EndsAsking (env answers) l asked l' r →
        l' = l ∧ ∃ after results, r = .ok after ∧ invoked asked = pendingActions existing required ∧
          List.Forall₂ (Answered now) (pendingActions existing required) results ∧
            after.history = recordResults progress.history results ∧
              after.events = progress.events ++ results.map fun result => actionEvent planId result now := by
  induction required with
  | nil =>
    rintro progress asked r ⟨rfl, rfl, rfl⟩
    exact ⟨rfl, progress, [], rfl, rfl, .nil, rfl, (List.append_nil _).symm⟩
  | cons action rest ih =>
    intro progress asked r h
    rw [runActions] at h
    split at h
    next prior hprior =>
      have hpending : pendingActions existing (action :: rest) = pendingActions existing rest := by
        rw [pendingActions, List.filter_cons_of_neg (by simp [hprior]), pendingActions]
      rw [hpending]
      have hrest := ih h
      exact hrest
    next hnone =>
      have hpending : pendingActions existing (action :: rest) = action :: pendingActions existing rest := by
        rw [pendingActions, List.filter_cons_of_pos (by simp [hnone]), pendingActions]
      obtain ⟨_, later, ⟨failTargets, rfl⟩, rfl, h⟩ := h
      obtain ⟨rfl, after, results, rfl, hinvoked, hanswered, hhistory, hevents⟩ := ih h
      refine ⟨rfl, after, simulatedExecute failTargets action now :: results, rfl, ?_, ?_, ?_, ?_⟩
      · rw [hpending, ← hinvoked]
        rfl
      · rw [hpending]
        exact .cons ⟨failTargets, rfl⟩ hanswered
      · rw [hhistory]
        rfl
      · rw [hevents, List.map_cons]
        simp only [ExecutionProgress.record, List.append_assoc, List.singleton_append]

/-! ### The history after some results -/

variable {history : List ExecutionAction}

/-- Every result is recorded, or one that came later for the same action. -/
theorem actionId_mem_recordResults (results : List ExecutionAction) : ∀ {history : List ExecutionAction} {id : String},
    id ∈ (recordResults history results).map (·.actionId) ↔
      id ∈ history.map (·.actionId) ∨ id ∈ results.map (·.actionId) := by
  induction results with
  | nil => intro history id; simp [recordResults]
  | cons result rest ih =>
    intro history id
    have hstep : recordResults history (result :: rest) =
        recordResults (history.filter (·.actionId ≠ result.actionId) ++ [result]) rest := rfl
    rw [hstep, ih]
    by_cases hid : id = result.actionId
    · simp [hid]
    · simp only [List.mem_map, List.mem_append, List.mem_filter, List.mem_cons, List.not_mem_nil, or_false,
        decide_eq_true_eq]
      constructor
      · rintro (⟨a, ⟨ha, -⟩ | rfl, rfl⟩ | ⟨a, ha, rfl⟩)
        · exact Or.inl ⟨a, ha, rfl⟩
        · exact absurd rfl hid
        · exact Or.inr ⟨a, Or.inr ha, rfl⟩
      · rintro (⟨a, ha, rfl⟩ | ⟨a, rfl | ha, rfl⟩)
        · exact Or.inl ⟨a, Or.inl ⟨ha, hid⟩, rfl⟩
        · exact absurd rfl hid
        · exact Or.inr ⟨a, ha, rfl⟩

/-- **No action is recorded twice**, if none of the others was. -/
theorem nodup_recordResults (results : List ExecutionAction) : ∀ {history : List ExecutionAction},
    ((recordResults history results).map (·.actionId)).Nodup ↔
      ((history.filter (·.actionId ∉ results.map (·.actionId))).map (·.actionId)).Nodup := by
  induction results with
  | nil => intro history; simp [recordResults]
  | cons result rest ih =>
    intro history
    have hstep : recordResults history (result :: rest) =
        recordResults (history.filter (·.actionId ≠ result.actionId) ++ [result]) rest := rfl
    have hothers : (history.filter (·.actionId ≠ result.actionId)).filter (·.actionId ∉ rest.map (·.actionId)) =
        history.filter (·.actionId ∉ (result :: rest).map (·.actionId)) := by
      rw [List.filter_filter]
      apply List.filter_congr
      intro a _
      by_cases ha : a.actionId = result.actionId <;> simp [ha]
    rw [hstep, ih, List.filter_append, hothers]
    by_cases hagain : result.actionId ∈ rest.map (·.actionId)
    · rw [List.filter_cons_of_neg (by simpa using hagain), List.filter_nil, List.append_nil]
    · rw [List.filter_cons_of_pos (by simpa using hagain), List.filter_nil, List.map_append, List.map_singleton,
        List.nodup_append]
      refine ⟨fun h => h.1, fun h => ⟨h, List.nodup_singleton _, fun id hid other hother => ?_⟩⟩
      obtain ⟨a, ha, rfl⟩ := List.mem_map.mp hid
      rw [List.mem_singleton.mp hother]
      intro heq
      have hout := (List.mem_filter.mp ha).2
      simp [heq] at hout

/-- Of the records of other plans those stay, in their order, for whose actions there is no result. -/
theorem filter_planId_recordResults {results : List ExecutionAction} (hplan : ∀ a ∈ results, a.planId = planId) :
    ∀ {history : List ExecutionAction},
      (recordResults history results).filter (·.planId ≠ planId) =
        (history.filter (·.planId ≠ planId)).filter (·.actionId ∉ results.map (·.actionId)) := by
  induction results with
  | nil => intro history; simp [recordResults]
  | cons result rest ih =>
    intro history
    obtain ⟨hfirst, hrest⟩ := List.forall_mem_cons.mp hplan
    have hstep : recordResults history (result :: rest) =
        recordResults (history.filter (·.actionId ≠ result.actionId) ++ [result]) rest := rfl
    rw [hstep, ih hrest, List.filter_append, List.filter_cons_of_neg (by simp [hfirst]), List.filter_nil,
      List.append_nil, List.filter_filter, List.filter_filter, List.filter_filter]
    apply List.filter_congr
    intro a _
    by_cases ha : a.actionId = result.actionId <;> simp [ha, Bool.and_comm]

/-- **Records of other plans stay as they are** exactly if no result takes their place. -/
theorem others_kept_iff {results : List ExecutionAction} (hplan : ∀ a ∈ results, a.planId = planId) :
    (recordResults history results).filter (·.planId ≠ planId) = history.filter (·.planId ≠ planId) ↔
      ∀ a ∈ history, a.actionId ∈ results.map (·.actionId) → a.planId = planId := by
  rw [filter_planId_recordResults hplan, List.filter_eq_self]
  simp only [List.mem_filter, decide_eq_true_eq, and_imp]
  constructor
  · intro h a ha hid
    by_contra hother
    exact h a ha hother hid
  · intro h a ha hother hid
    exact hother (h a ha hid)

/-! ### One execution -/

theorem endsAsking_getCase {r : Except Failure RecoveryCase} (hc : current l caseId = some c) :
    (getCase caseId).EndsAsking (env answers) l asked l' r ↔ asked = [] ∧ l' = l ∧ r = .ok c := by
  rw [getCase, Prog.EndsAsking, hc]
  exact Iff.rfl

theorem endsAsking_saveCase {r : Except Failure RecoveryCase} (hc : current l c'.caseId = some c) :
    (saveCase c' (some c.version)).EndsAsking (env answers) l asked l' r ↔
      asked = [] ∧ l' = stored c' (some c.version) :: l ∧ r = .ok (stored c' (some c.version)) := by
  have hacc : Accepts l c' (some c.version) := accepts_of_current hc
  rw [saveCase, Prog.EndsAsking, if_pos hacc]
  exact Iff.rfl

theorem withStartEvent_eq (events : List RecoveryEvent) (planId : String) (now : Instant) :
    ∃ start, withStartEvent events planId now = events ++ start ∧ ∀ e ∈ start, e.eventType = .executionStarted := by
  unfold withStartEvent
  dsimp only
  split
  · exact ⟨[], (List.append_nil _).symm, by simp⟩
  · exact ⟨_, rfl, by simp⟩

/-- Where every required action has succeeded, nothing is pending. -/
theorem pendingActions_eq_nil
    (h : (required.filterMap fun action => succeededRecord existing action.actionId).length = required.length) :
    pendingActions existing required = [] := by
  have hall : ∀ action ∈ required, (succeededRecord existing action.actionId).isSome :=
    List.filterMap_length_eq_length.mp h
  apply List.filter_eq_nil_iff.mpr
  intro action haction hnone
  have hsome := hall action haction
  rw [of_decide_eq_true hnone] at hsome
  cases hsome

/-- **An execution** of a case that may be executed: it asks the adapter for what is pending, and saves the case with
each answer recorded and reported. -/
theorem execute_asking {r : Except Failure ExecutionResult} (hc : current l caseId = some c)
    (hcheck : checkExecution c = .ok plan) (h : (execute caseId now).EndsAsking (env answers) l asked l' r) :
    ∃ result results start, r = .ok result ∧ current l' caseId = some result.recoveryCase ∧
      invoked asked = pendingActions (actionDict c.executionHistory) (requiredExecutionActions plan now) ∧
        List.Forall₂ (Answered now) (invoked asked) results ∧
          result.recoveryCase.executionHistory = recordResults c.executionHistory results ∧
            (∀ e ∈ start, e.eventType = .executionStarted) ∧
              result.recoveryCase.events =
                c.events ++ (start ++ results.map fun result => actionEvent plan.planId result now) := by
  have hkey : c.caseId = caseId := key_of_current hc
  rw [execute, endsAsking_bind_of_ok (endsAsking_getCase hc), hcheck,
    endsAsking_bind_of_ok endsAsking_ofExcept] at h
  dsimp only at h
  split at h
  next hdone =>
    obtain ⟨rfl, rfl, rfl⟩ := h
    have hnone := pendingActions_eq_nil hdone.2
    exact ⟨_, [], [], rfl, hc, hnone.symm, .nil, rfl, by simp, by simp⟩
  next hdone =>
    rw [endsAsking_bind] at h
    obtain ⟨l₂, progress, calls, later, rfl, hrun, h⟩ | ⟨e, hrun, -⟩ := h
    swap
    · obtain ⟨-, _, _, hok, -⟩ := runActions_asking _ hrun
      cases hok
    obtain ⟨hl₂, after, results, hafter, hinvoked, hanswered, hhistory, hevents⟩ := runActions_asking _ hrun
    have hafter : progress = after := Except.ok.inj hafter
    subst l₂ progress
    obtain ⟨start, hstart, htype⟩ := withStartEvent_eq c.events plan.planId now
    have hsaveable : current l (executedCase c after now).caseId = some c := hkey ▸ hc
    rw [endsAsking_bind_of_ok (endsAsking_saveCase hsaveable)] at h
    obtain ⟨rfl, rfl, rfl⟩ := h
    rw [List.append_nil]
    refine ⟨_, results, start, rfl, current_cons hkey, hinvoked, hinvoked ▸ hanswered, hhistory, htype, ?_⟩
    rw [← List.append_assoc, ← hstart]
    exact hevents

/-! ### Exactly once -/

/-- An event reports the end of an action, good or bad. -/
def IsActionEvent (event : RecoveryEvent) : Prop :=
  event.eventType = .actionCompleted ∨ event.eventType = .actionFailed

instance : DecidablePred IsActionEvent := fun event =>
  inferInstanceAs (Decidable (event.eventType = .actionCompleted ∨ event.eventType = .actionFailed))

/-- There is a record of success for an action. -/
def HasSucceeded (history : List ExecutionAction) (actionId : String) : Prop :=
  ∃ a ∈ history, a.actionId = actionId ∧ a.status = .succeeded

/-- **Every required action is carried out exactly once** by an execution that makes `c'` of the case `c` and asks the
adapter for `calls`. -/
structure ExactlyOnce (c c' : RecoveryCase) (plan : RecoveryPlan) (now : Instant) (calls : List ExecutionAction) :
    Prop where
  /-- The adapter is called once for an action. -/
  once : (calls.map (·.actionId)).Nodup
  /-- It is called for the required actions that have not succeeded. -/
  called_iff : ∀ id, id ∈ calls.map (·.actionId) ↔
    id ∈ (requiredExecutionActions plan now).map (·.actionId) ∧ ¬ HasSucceeded c.executionHistory id
  /-- No action has two records. -/
  nodup_history : (c'.executionHistory.map (·.actionId)).Nodup
  /-- Every required action has one. -/
  recorded : ∀ action ∈ requiredExecutionActions plan now, action.actionId ∈ c'.executionHistory.map (·.actionId)
  /-- The records of other plans are the same. -/
  others_kept : c'.executionHistory.filter (·.planId ≠ plan.planId) =
    c.executionHistory.filter (·.planId ≠ plan.planId)
  /-- Every call is reported once. -/
  reported : ∃ added, c'.events = c.events ++ added ∧
    List.Forall₂ (fun action event => ("action_id", .str action.actionId) ∈ event.details) calls
      (added.filter fun event => IsActionEvent event)

/-- What it takes for that, of the case before the execution. -/
structure ExecutableOnce (c : RecoveryCase) (plan : RecoveryPlan) (now : Instant) : Prop where
  /-- The plan changes no event twice, unless that change has been made. -/
  changes_once : ((plan.calendarChanges.filter fun event =>
    succeededRecord (actionDict c.executionHistory) (calendarAction plan now event).actionId = none).map
      (·.eventId)).Nodup
  /-- Where a required action has a record of success, its last record is one. -/
  last_counts : ∀ action ∈ requiredExecutionActions plan now, HasSucceeded c.executionHistory action.actionId →
    succeededRecord (actionDict c.executionHistory) action.actionId ≠ none
  /-- The actions that are not to be carried out have one record each. -/
  recorded_once : ((c.executionHistory.filter fun a =>
    a.actionId ∉ (pendingActions (actionDict c.executionHistory) (requiredExecutionActions plan now)).map
      (·.actionId)).map (·.actionId)).Nodup
  /-- Those that are to be carried out have records of this plan only. -/
  own_records : ∀ a ∈ c.executionHistory,
    a.actionId ∈ (pendingActions (actionDict c.executionHistory) (requiredExecutionActions plan now)).map
      (·.actionId) → a.planId = plan.planId

theorem map_eq_of_answered {actions results : List ExecutionAction} (h : List.Forall₂ (Answered now) actions results) :
    results.map (·.actionId) = actions.map (·.actionId) := by
  induction h with
  | nil => rfl
  | cons hfirst _ ih => rw [List.map_cons, List.map_cons, hfirst.ids.2, ih]

theorem exists_answered {actions results : List ExecutionAction} (h : List.Forall₂ (Answered now) actions results)
    {result : ExecutionAction} (hresult : result ∈ results) : ∃ action ∈ actions, Answered now action result := by
  induction h with
  | nil => cases hresult
  | cons hfirst _ ih =>
    rcases List.mem_cons.mp hresult with rfl | hresult
    · exact ⟨_, List.mem_cons_self .., hfirst⟩
    · obtain ⟨action, haction, h⟩ := ih hresult
      exact ⟨action, List.mem_cons_of_mem _ haction, h⟩

/-- The actions to be carried out have different identifiers exactly if no event is to be changed twice. -/
theorem nodup_pendingActions (hsegments : (plan.coverageSegments.map (·.segmentId)).Nodup) :
    ((pendingActions existing (requiredExecutionActions plan now)).map (·.actionId)).Nodup ↔
      ((plan.calendarChanges.filter fun event =>
        succeededRecord existing (calendarAction plan now event).actionId = none).map (·.eventId)).Nodup := by
  have hinjective : ∀ kind : String, Function.Injective fun id : String => kind ++ plan.planId ++ ":" ++ id :=
    fun _ _ _ => append_left_cancel
  have hcaregivers : (((plan.coverageSegments.filter fun segment => segment.source = .caregiver).filter fun segment =>
      succeededRecord existing (caregiverAction plan now segment).actionId = none).map (·.segmentId)).Nodup :=
    hsegments.sublist ((List.filter_sublist.trans List.filter_sublist).map _)
  rw [pendingActions, requiredExecutionActions, List.filter_append, List.filter_map, List.filter_map, List.map_append,
    List.map_map, List.map_map, List.nodup_append]
  have hcalendar : ∀ events : List CalendarEvent,
      (events.map ((·.actionId) ∘ calendarAction plan now)).Nodup ↔ (events.map (·.eventId)).Nodup := by
    intro events
    rw [← List.nodup_map_iff (l := events.map (·.eventId)) (hinjective "calendar:"), List.map_map]
    exact Iff.rfl
  have hcaregiver : ∀ segments : List RecoveryPlanSegment,
      (segments.map ((·.actionId) ∘ caregiverAction plan now)).Nodup ↔ (segments.map (·.segmentId)).Nodup := by
    intro segments
    rw [← List.nodup_map_iff (l := segments.map (·.segmentId)) (hinjective "caregiver:"), List.map_map]
    exact Iff.rfl
  rw [hcalendar, hcaregiver]
  constructor
  · exact fun h => h.1
  · refine fun h => ⟨h, hcaregivers, fun x hx y hy => ?_⟩
    obtain ⟨event, -, rfl⟩ := List.mem_map.mp hx
    obtain ⟨segment, -, rfl⟩ := List.mem_map.mp hy
    exact calendarAction_actionId_ne plan now event segment

/-- Where the last record counts, a required action is to be carried out unless it has succeeded. -/
theorem mem_pendingActions_iff {id : String} :
    id ∈ (pendingActions existing required).map (·.actionId) ↔
      id ∈ required.map (·.actionId) ∧ succeededRecord existing id = none := by
  simp only [pendingActions, List.mem_map, List.mem_filter, decide_eq_true_eq]
  constructor
  · rintro ⟨a, ⟨ha, hnone⟩, rfl⟩
    exact ⟨⟨a, ha, rfl⟩, hnone⟩
  · rintro ⟨⟨a, ha, rfl⟩, hnone⟩
    exact ⟨a, ⟨ha, hnone⟩, rfl⟩

theorem hasSucceeded_of_succeededRecord {history : List ExecutionAction} {id : String}
    (h : succeededRecord (actionDict history) id ≠ none) : HasSucceeded history id := by
  obtain ⟨a, ha⟩ := Option.ne_none_iff_exists'.mp h
  obtain ⟨hmem, hid, hstatus⟩ := mem_of_succeededRecord ha
  exact ⟨a, hmem, hid, hstatus⟩

/-- The reports that an execution adds, among all the events that it adds. -/
theorem reports_of_answered {start : List RecoveryEvent} {actions results : List ExecutionAction}
    (hstart : ∀ e ∈ start, e.eventType = .executionStarted)
    (h : List.Forall₂ (Answered now) actions results) :
    List.Forall₂ (fun (action : ExecutionAction) (event : RecoveryEvent) =>
        ("action_id", .str action.actionId) ∈ event.details) actions
      ((start ++ results.map fun result => actionEvent planId result now).filter fun event => IsActionEvent event) := by
  have hnone : start.filter (fun event => IsActionEvent event) = [] := by
    apply List.filter_eq_nil_iff.mpr
    intro e he
    simp [IsActionEvent, hstart e he]
  have hall : (results.map fun result => actionEvent planId result now).filter (fun event => IsActionEvent event) =
      results.map fun result => actionEvent planId result now := by
    apply List.filter_eq_self.mpr
    intro e he
    obtain ⟨result, -, rfl⟩ := List.mem_map.mp he
    by_cases hstatus : result.status = .succeeded <;> simp [IsActionEvent, actionEvent, hstatus]
  rw [List.filter_append, hnone, hall, List.nil_append, List.forall₂_map_right_iff]
  refine h.imp fun action result hanswered => ?_
  rw [actionEvent, ← hanswered.ids.2]
  exact List.mem_cons_self ..

/-- **When an execution carries out every required action exactly once.** -/
theorem execute_exactlyOnce_iff {scenario : DemoScenario} {r : Except Failure ExecutionResult}
    (hc : current l caseId = some c) (hcheck : checkExecution c = .ok plan)
    (hvalid : (validate plan scenario).valid = true)
    (hrun : (execute caseId now).EndsAsking (env answers) l asked l' r) :
    ∃ result, r = .ok result ∧ current l' caseId = some result.recoveryCase ∧
      (ExactlyOnce c result.recoveryCase plan now (invoked asked) ↔ ExecutableOnce c plan now) := by
  obtain ⟨result, results, start, hresult, hcurrent, hinvoked, hanswered, hhistory, hstart, hevents⟩ :=
    execute_asking hc hcheck hrun
  have hids : results.map (·.actionId) = (invoked asked).map (·.actionId) := map_eq_of_answered hanswered
  have hplan : ∀ a ∈ results, a.planId = plan.planId := by
    intro a ha
    obtain ⟨action, haction, h⟩ := exists_answered hanswered ha
    rw [hinvoked] at haction
    rw [h.ids.1]
    exact (planId_of_mem_requiredExecutionActions (List.mem_filter.mp haction).1).1
  have hsegments : (plan.coverageSegments.map (·.segmentId)).Nodup := (accepted_iff_valid.mp hvalid).unique_ids
  refine ⟨result, hresult, hcurrent, fun h => ?_, fun h => ?_⟩
  · refine ⟨?_, ?_, ?_, ?_⟩
    · have honce := h.once
      rw [hinvoked, nodup_pendingActions hsegments] at honce
      exact honce
    · intro action haction hsucceeded hnone
      have hcalled : action.actionId ∈ (invoked asked).map (·.actionId) := by
        rw [hinvoked]
        exact mem_pendingActions_iff.mpr ⟨List.mem_map_of_mem haction, hnone⟩
      exact ((h.called_iff _).mp hcalled).2 hsucceeded
    · have hnodup := h.nodup_history
      rw [hhistory, nodup_recordResults, hids, hinvoked] at hnodup
      exact hnodup
    · have hkept := h.others_kept
      rw [hhistory, others_kept_iff hplan, hids, hinvoked] at hkept
      exact hkept
  · refine ⟨?_, ?_, ?_, ?_, ?_, ?_⟩
    · rw [hinvoked, nodup_pendingActions hsegments]
      exact h.changes_once
    · intro id
      rw [hinvoked, mem_pendingActions_iff]
      refine and_congr_right fun hid => ⟨fun hnone hsucceeded => ?_, fun hnot => ?_⟩
      · obtain ⟨action, haction, rfl⟩ := List.mem_map.mp hid
        exact h.last_counts action haction hsucceeded hnone
      · by_contra hsome
        exact hnot (hasSucceeded_of_succeededRecord hsome)
    · rw [hhistory, nodup_recordResults, hids, hinvoked]
      exact h.recorded_once
    · -- what has not succeeded is recorded now, and what has succeeded was
      intro action haction
      rw [hhistory, actionId_mem_recordResults, hids, hinvoked, mem_pendingActions_iff]
      by_cases hnone : succeededRecord (actionDict c.executionHistory) action.actionId = none
      · exact Or.inr ⟨List.mem_map_of_mem haction, hnone⟩
      · obtain ⟨a, ha, hid, -⟩ := hasSucceeded_of_succeededRecord hnone
        exact Or.inl (List.mem_map.mpr ⟨a, ha, hid⟩)
    · rw [hhistory, others_kept_iff hplan, hids, hinvoked]
      exact h.own_records
    · exact ⟨_, hevents, reports_of_answered hstart hanswered⟩

/-! ### Cases of a run -/

section Reachable

variable {scenarioFactory : DemoScenario} {seen : Set RecoveryCase} {past : List RecoveryCase}

theorem RanActions.nodup_history {progress after : ExecutionProgress}
    (h : RanActions planId existing now required progress after)
    (hnodup : (progress.history.map (·.actionId)).Nodup) : (after.history.map (·.actionId)).Nodup := by
  induction h with
  | nil => exact hnodup
  | skip _ _ ih => exact ih hnodup
  | @run action rest progress after failTargets _ _ ih =>
    have hrecord : ((recordResults progress.history [simulatedExecute failTargets action now]).map
        (·.actionId)).Nodup := (nodup_recordResults _).mpr (hnodup.sublist (List.filter_sublist.map _))
    exact ih hrecord

/-- **No case records an action twice.** -/
theorem nodup_executionHistory_of_history (h : CaseHistory scenarioFactory answers l) :
    ∀ c ∈ l, (c.executionHistory.map (·.actionId)).Nodup := by
  refine h.forall_mem (fun c hinit => ?_) fun past c c' _ hold hs => ?_
  · have hnone : c.executionHistory = [] := hinit.nothing_yet.2.1
    have hstart : (c.executionHistory.map (·.actionId)).Nodup := by simp [hnone]
    exact hstart
  · have hc := hold c (List.mem_cons_self ..)
    have hnext : (c'.executionHistory.map (·.actionId)).Nodup := by
      rcases hs.work_or_declined with hw | ⟨decline, old, hd⟩
      · cases hw with
        | gateExecuting => exact hc
        | gateApproval => exact hc
        | decide => exact hc
        | execute now _ hrun => exact hrun.nodup_history hc
        | resolve => exact hc
      · rw [hd.actions]
        exact hc
    exact hnext

/-- **In every case of a run** it only takes that the plan changes no event twice. -/
theorem executableOnce_iff_of_history (h : CaseHistory scenarioFactory answers (c :: past))
    (hcheck : checkExecution c = .ok plan) :
    ExecutableOnce c plan now ↔
      ((plan.calendarChanges.filter fun event =>
        succeededRecord (actionDict c.executionHistory) (calendarAction plan now event).actionId = none).map
          (·.eventId)).Nodup := by
  have hnodup := nodup_executionHistory_of_history h c (List.mem_cons_self ..)
  refine ⟨fun hc => hc.changes_once, fun hchanges => ⟨hchanges, ?_, ?_, ?_⟩⟩
  · rintro action haction ⟨a, ha, hid, -⟩
    exact succeededRecord_ne_none h hcheck haction (List.mem_map.mpr ⟨a, ha, hid⟩)
  · exact hnodup.sublist (List.filter_sublist.map _)
  · intro a ha hpending
    obtain ⟨hrequired, hnone⟩ := mem_pendingActions_iff.mp hpending
    obtain ⟨action, haction, hid⟩ := List.mem_map.mp hrequired
    refine absurd ?_ (succeededRecord_ne_none h hcheck haction (List.mem_map.mpr ⟨a, ha, hid.symm⟩))
    rw [hid]
    exact hnone

end Reachable

/-! ### A plan that moves an event twice -/

/-- A parent has a meeting in the way that can be moved. -/
def standup (start end_ : ℕ) : CalendarEvent :=
  { eventId := "standup", ownerId := "parent_a", title := "Standup", window := minutes start end_, movable := true }

/-- A day with that meeting and no caregiver. -/
def standupDay : DemoScenario := { day (minutes 0 60) [] with parentEvents := [standup 0 30] }

/-- The parent looks after the child, and the meeting is moved, and moved again. -/
def movedTwice : RecoveryPlan :=
  { planId := "plan"
    coverageSegments := [care "all" "parent_a" .parent (minutes 0 60)]
    calendarChanges := [standup 60 90, standup 90 120]
    validationState := .valid }

/-- A case that rests on this plan. -/
def movedCase : RecoveryCase :=
  { caseId := "case-1"
    status := .executing
    disruption := "The nanny is unavailable today."
    coverageGap := minutes 0 60
    activeRecoveryPlan := some movedTwice
    createdAt := 0
    updatedAt := 0 }

/-- Some execution of the case comes to an end. -/
theorem exists_execution_of_movedCase : ∃ asked l' r,
    (execute "case-1" 0).EndsAsking (env fun _ _ => True) [movedCase] asked l' r := by
  have henv : ∀ q, ∃ a, env (fun _ _ => True) q a := by
    intro q
    cases q with
    | clock => exact ⟨(0 : Instant), trivial⟩
    | newId => exact ⟨"id", trivial⟩
    | execute action now => exact ⟨simulatedExecute [] action now, [], rfl⟩
    | invoke request => exact ⟨.error .assertionError, trivial⟩
  obtain ⟨l', r, hends⟩ := Prog.exists_ends henv (execute "case-1" 0) [movedCase]
  obtain ⟨asked, hasked⟩ := ends_iff_exists_asked.mp hends
  exact ⟨asked, l', r, hasked⟩

theorem movedTwice_accepted :
    current [movedCase] "case-1" = some movedCase ∧ checkExecution movedCase = .ok movedTwice ∧
      (validate movedTwice standupDay).valid = true :=
  ⟨rfl, rfl, by decide +kernel⟩

theorem execute_exactlyOnce_iff_movedTwice :
    ∃ asked l' r, (execute "case-1" 0).EndsAsking (env fun _ _ => True) [movedCase] asked l' r ∧
      ∃ result, r = .ok result ∧ current l' "case-1" = some result.recoveryCase ∧
        (ExactlyOnce movedCase result.recoveryCase movedTwice 0 (invoked asked) ↔
          ExecutableOnce movedCase movedTwice 0) := by
  obtain ⟨asked, l', r, h⟩ := exists_execution_of_movedCase
  exact ⟨asked, l', r, h, execute_exactlyOnce_iff movedTwice_accepted.1 movedTwice_accepted.2.1
    movedTwice_accepted.2.2 h⟩

/-- The meeting is moved twice. -/
theorem movedTwice_executed_twice :
    (validate movedTwice standupDay).valid = true ∧ checkExecution movedCase = .ok movedTwice ∧
      ∃ asked l' result,
        (execute "case-1" 0).EndsAsking (env fun _ _ => True) [movedCase] asked l' (.ok result) ∧
          (invoked asked).map (·.actionId) = ["calendar:plan:standup", "calendar:plan:standup"] ∧
          ¬ ExactlyOnce movedCase result.recoveryCase movedTwice 0 (invoked asked) := by
  refine ⟨movedTwice_accepted.2.2, movedTwice_accepted.2.1, ?_⟩
  obtain ⟨asked, l', r, hasked⟩ := exists_execution_of_movedCase
  obtain ⟨result, results, start, rfl, -, hinvoked, -⟩ := execute_asking rfl rfl hasked
  have hids : (invoked asked).map (·.actionId) = ["calendar:plan:standup", "calendar:plan:standup"] := by
    rw [hinvoked]
    decide
  refine ⟨asked, l', result, hasked, hids, fun h => ?_⟩
  have honce := h.once
  rw [hids] at honce
  simp at honce

end DayMend.Runs
