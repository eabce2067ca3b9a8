import DayMend.Models.Domain

/-!
# The actions of a plan

The part of `services/execution_service.py` that takes no step on the store: which
actions a plan requires, and what the simulated adapter answers when it is told to
carry one out.
-/

namespace DayMend.Services

open DayMend.Models

/-- One event of the plan's calendar changes, moved. -/
def calendarAction (plan : RecoveryPlan) (now : Instant) (event : CalendarEvent) : ExecutionAction :=
  { actionId := s!"calendar:{plan.planId}:{event.eventId}"
    actionType := .updateCalendar
    targetId := event.eventId
    planId := plan.planId
    attemptedAt := now }

/-- The assigned caregiver of one segment, reserved. -/
def caregiverAction (plan : RecoveryPlan) (now : Instant) (segment : RecoveryPlanSegment) : ExecutionAction :=
  { actionId := s!"caregiver:{plan.planId}:{segment.segmentId}"
    actionType := .reserveCaregiver
    targetId := segment.assignedPersonId
    planId := plan.planId
    attemptedAt := now }

theorem calendarAction_actionId (plan : RecoveryPlan) (now : Instant) (event : CalendarEvent) :
    (calendarAction plan now event).actionId = "calendar:" ++ plan.planId ++ ":" ++ event.eventId := rfl

theorem caregiverAction_actionId (plan : RecoveryPlan) (now : Instant) (segment : RecoveryPlanSegment) :
    (caregiverAction plan now segment).actionId = "caregiver:" ++ plan.planId ++ ":" ++ segment.segmentId := rfl

/-- No calendar action is called like a caregiver action. -/
theorem calendarAction_actionId_ne (plan : RecoveryPlan) (now : Instant) (event : CalendarEvent)
    (segment : RecoveryPlanSegment) :
    (calendarAction plan now event).actionId ≠ (caregiverAction plan now segment).actionId := by
  -- the third letter tells the kinds of actions apart
  intro heq
  rw [calendarAction_actionId, caregiverAction_actionId] at heq
  have hfront := congrArg (fun t : String => t.toList.take 3) heq
  simp at hfront

/-- `required_execution_actions`. -/
def requiredExecutionActions (plan : RecoveryPlan) (now : Instant) : List ExecutionAction :=
  plan.calendarChanges.map (calendarAction plan now) ++
    (plan.coverageSegments.filter fun segment => segment.source = .caregiver).map (caregiverAction plan now)

/-- `SimulatedExecutionAdapter.execute`. -/
def simulatedExecute (failTargets : List String) (action : ExecutionAction) (now : Instant) : ExecutionAction :=
  if action.targetId ∈ failTargets then
    { action with
      status := .failed
      completedAt := some now
      error := some s!"Synthetic execution failure for {action.targetId}."
      completion_fields_match_status :=
        ⟨by simp, fun _ => ⟨_, rfl, fun h => by simpa [toString] using congrArg String.toList h⟩⟩ }
  else
    { action with
      status := .succeeded
      completedAt := some now
      result := some "Simulated action completed."
      completion_fields_match_status := by simp }

/-- The adapter answers for the action it was given. -/
theorem simulatedExecute_ids (failTargets : List String) (action : ExecutionAction) (now : Instant) :
    (simulatedExecute failTargets action now).planId = action.planId ∧
      (simulatedExecute failTargets action now).actionId = action.actionId := by
  unfold simulatedExecute
  split
  · exact ⟨rfl, rfl⟩
  · exact ⟨rfl, rfl⟩

/-- Every caregiver to be reserved is the assigned person of a caregiver segment, and conversely. -/
theorem exists_reserveCaregiver_iff {plan : RecoveryPlan} {now : Instant} {id : String} :
    (∃ action ∈ requiredExecutionActions plan now, action.actionType = .reserveCaregiver ∧ action.targetId = id) ↔
      ∃ s ∈ plan.coverageSegments, s.source = .caregiver ∧ s.assignedPersonId = id := by
  constructor
  · rintro ⟨action, ha, htype, rfl⟩
    rcases List.mem_append.mp ha with ha | ha
    · obtain ⟨event, -, rfl⟩ := List.mem_map.mp ha
      exact absurd htype (by simp [calendarAction])
    · obtain ⟨s, hs, rfl⟩ := List.mem_map.mp ha
      obtain ⟨hs, hsource⟩ := List.mem_filter.mp hs
      exact ⟨s, hs, of_decide_eq_true hsource, rfl⟩
  · rintro ⟨s, hs, hsource, rfl⟩
    refine ⟨caregiverAction plan now s, List.mem_append_right _ (List.mem_map_of_mem ?_), rfl, rfl⟩
    exact List.mem_filter.mpr ⟨hs, decide_eq_true hsource⟩

/-- The time plays no part in which actions are required. -/
theorem exists_required_of_now {plan : RecoveryPlan} {now : Instant} {action : ExecutionAction}
    (h : action ∈ requiredExecutionActions plan now) (later : Instant) :
    ∃ same ∈ requiredExecutionActions plan later, same.actionId = action.actionId := by
  rcases List.mem_append.mp h with h | h
  · obtain ⟨event, hevent, rfl⟩ := List.mem_map.mp h
    exact ⟨calendarAction plan later event, List.mem_append_left _ (List.mem_map_of_mem hevent), rfl⟩
  · obtain ⟨s, hs, rfl⟩ := List.mem_map.mp h
    exact ⟨caregiverAction plan later s, List.mem_append_right _ (List.mem_map_of_mem hs), rfl⟩

/-- Every required action belongs to the plan and has not been carried out. -/
theorem planId_of_mem_requiredExecutionActions {plan : RecoveryPlan} {now : Instant} {action : ExecutionAction}
    (h : action ∈ requiredExecutionActions plan now) : action.planId = plan.planId ∧ action.status = .pending := by
  rcases List.mem_append.mp h with h | h
  · obtain ⟨event, -, rfl⟩ := List.mem_map.mp h
    exact ⟨rfl, rfl⟩
  · obtain ⟨s, -, rfl⟩ := List.mem_map.mp h
    exact ⟨rfl, rfl⟩

end DayMend.Services
