import DayMend.Validation.Eligibility

/-!
# Parents' calendars

The plan's calendar changes move events; an event no change names stays where it
was, and where two changes name one event the later one counts (`finalWindow`).
The validator looks at an event only from the segments which a parent is assigned
to as a parent and which the event's *original* time overlaps. A moved event may
therefore land on another segment of its owner, and a parent who drives may have
an event during the trip (`movedOntoNextSegment_valid`). `valid_calendars_iff`
says exactly which valid plans put no parent in two places.
-/

namespace DayMend.Validation

open DayMend.Base DayMend.Models DayMend.Fixtures DayMend.Services

variable {plan : RecoveryPlan} {scenario : DemoScenario} {segment : RecoveryPlanSegment} {event : CalendarEvent}

/-- The time of an event after all the plan's calendar changes. -/
def finalWindow (plan : RecoveryPlan) (event : CalendarEvent) : CoverageWindow :=
  match (eventDict plan.calendarChanges).get? event.eventId with
  | some changed => changed.window
  | none => event.window

/-- No parent takes part in a segment that overlaps an event of that parent's, at its final time. -/
def CalendarsKept (plan : RecoveryPlan) (scenario : DemoScenario) : Prop :=
  ∀ s ∈ plan.coverageSegments, ∀ event ∈ scenario.parentEvents, event.ownerId ∈ scenario.parentIds →
    Participates s event.ownerId → ¬ s.window.Overlaps (finalWindow plan event)

/-- A change moves the event onto a segment that its original time left free. -/
def LandsOn (plan : RecoveryPlan) (event : CalendarEvent) (segment : RecoveryPlanSegment) : Prop :=
  ¬ segment.window.Overlaps event.window ∧
    ∃ changed, (eventDict plan.calendarChanges).get? event.eventId = some changed ∧
      segment.window.Overlaps changed.window

/-- The event overlaps a segment in which its owner takes part otherwise than as the parent
assigned to it, and no change moves it off. -/
def StaysDuring (plan : RecoveryPlan) (event : CalendarEvent) (segment : RecoveryPlanSegment) : Prop :=
  ¬ (segment.source = .parent ∧ segment.assignedPersonId = event.ownerId) ∧ segment.window.Overlaps event.window ∧
    ∀ changed, (eventDict plan.calendarChanges).get? event.eventId = some changed →
      segment.window.Overlaps changed.window

/-- No event of a parent's lands on, or stays during, a segment in which the parent takes part. -/
def NoneLandsNorStays (plan : RecoveryPlan) (scenario : DemoScenario) : Prop :=
  ∀ s ∈ plan.coverageSegments, ∀ event ∈ scenario.parentEvents, event.ownerId ∈ scenario.parentIds →
    Participates s event.ownerId → ¬ LandsOn plan event s ∧ ¬ StaysDuring plan event s

theorem finalWindow_of_changed {changed : CalendarEvent}
    (h : (eventDict plan.calendarChanges).get? event.eventId = some changed) :
    finalWindow plan event = changed.window := by
  rw [finalWindow, h]

theorem finalWindow_of_unchanged (h : (eventDict plan.calendarChanges).get? event.eventId = none) :
    finalWindow plan event = event.window := by
  rw [finalWindow, h]

/-- What lands on a segment is there in the end. -/
theorem LandsOn.overlaps (h : LandsOn plan event segment) : segment.window.Overlaps (finalWindow plan event) := by
  obtain ⟨-, changed, hc, hw⟩ := h
  rw [finalWindow_of_changed hc]
  exact hw

/-- What stays during a segment is there in the end. -/
theorem StaysDuring.overlaps (h : StaysDuring plan event segment) :
    segment.window.Overlaps (finalWindow plan event) := by
  obtain ⟨-, hw, hc⟩ := h
  cases hg : (eventDict plan.calendarChanges).get? event.eventId with
  | none => rw [finalWindow_of_unchanged hg]; exact hw
  | some changed => rw [finalWindow_of_changed hg]; exact hc changed hg

/-- The parent assigned to a segment is free of every event that overlapped it at first. -/
theorem Accepted.not_overlaps_finalWindow (h : Accepted plan scenario) (hs : segment ∈ plan.coverageSegments)
    (hsource : segment.source = .parent) (hevent : event ∈ scenario.parentEvents)
    (howner : event.ownerId = segment.assignedPersonId) (hw : segment.window.Overlaps event.window) :
    ¬ segment.window.Overlaps (finalWindow plan event) := by
  obtain ⟨-, -, changed, hc, hfree⟩ := h.parent_events segment hs hsource event hevent howner hw
  rw [finalWindow_of_changed hc]
  exact hfree

/-- **When a valid plan puts no parent in two places**: exactly when no changed event ends up on a
segment of its owner's that its original time left free, and no event of a parent's who
takes part otherwise than as the assigned parent stays during the segment. -/
theorem valid_calendars_iff (h : (validate plan scenario).valid = true) :
    CalendarsKept plan scenario ↔ NoneLandsNorStays plan scenario := by
  have hacc := accepted_of_valid h
  constructor
  · intro hk s hs event hevent howner hp
    have hfree := hk s hs event hevent howner hp
    exact ⟨fun hl => hfree hl.overlaps, fun hst => hfree hst.overlaps⟩
  · intro hn s hs event hevent howner hp hw
    obtain ⟨hl, hst⟩ := hn s hs event hevent howner hp
    by_cases horiginal : s.window.Overlaps event.window
    · by_cases hassigned : s.source = .parent ∧ s.assignedPersonId = event.ownerId
      · exact hacc.not_overlaps_finalWindow hs hassigned.1 hevent hassigned.2.symm horiginal hw
      · refine hst ⟨hassigned, horiginal, fun changed hc => ?_⟩
        rw [finalWindow_of_changed hc] at hw
        exact hw
    · -- an event that was elsewhere can only have been moved here
      cases hg : (eventDict plan.calendarChanges).get? event.eventId with
      | none =>
        rw [finalWindow_of_unchanged hg] at hw
        exact horiginal hw
      | some changed =>
        rw [finalWindow_of_changed hg] at hw
        exact hl ⟨horiginal, changed, hg, hw⟩

theorem valid_calendars_iff_sharedPlan :
    CalendarsKept sharedPlan sharedDay ↔ NoneLandsNorStays sharedPlan sharedDay :=
  valid_calendars_iff (by decide +kernel)

/-- A parent's call that can be moved. -/
def call (window : CoverageWindow) : CalendarEvent :=
  { eventId := "call", ownerId := "parent_a", title := "Call", window, movable := true }

/-- The day of the call. -/
def callDay : DemoScenario := { day (minutes 0 180) [] with parentEvents := [call (minutes 0 60)] }

/-- A plan that moves the call from the parent's first stretch of care to the second. -/
def callPlan : RecoveryPlan :=
  { planId := "call"
    coverageSegments :=
      [care "first" "parent_a" .parent (minutes 0 60), care "second" "parent_b" .parent (minutes 60 120),
        care "third" "parent_a" .parent (minutes 120 180)]
    calendarChanges := [call (minutes 120 180)] }

/-- The validator accepts a change that moves an event onto another segment of its owner's. -/
theorem movedOntoNextSegment_valid :
    (validate callPlan callDay).valid = true ∧ ¬ CalendarsKept callPlan callDay := by
  refine ⟨by decide +kernel, fun hk => ?_⟩
  refine hk (care "third" "parent_a" .parent (minutes 120 180)) (by decide) (call (minutes 0 60)) (by decide)
    (by decide) (Or.inl rfl) ?_
  have hc : (eventDict callPlan.calendarChanges).get? (call (minutes 0 60)).eventId =
      some (call (minutes 120 180)) := by
    decide +kernel
  rw [finalWindow_of_changed hc]
  exact Span.overlaps_self _

end DayMend.Validation
