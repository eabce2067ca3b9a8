import DayMend.Agent.DayPrimitives
import DayMend.Base.Sorting

/-!
# Everybody's own time

Which drives and which stretches of care the day has, said by the facts of the day
alone: the caregivers' hours, the parents' events and capabilities, and the family's
policy. A drive goes between home and a caregiver's place, exactly before the
caregiver's hours or at their end (`Drive`). Caregivers stay for their whole hours, up
to the first drive home that ends with these, and parents at home for as long as no
event and no drive of theirs keeps them from it (`Stay`). The planner enumerates all
of these: `exists_trip_iff` and `Stay.exists_care`.
-/

namespace DayMend.Agent

open DayMend.Base DayMend.Models DayMend.Fixtures DayMend.Services

variable {scenario : DemoScenario} {caregiver : Caregiver} {parent : ParentCalendar}
  {window : CoverageWindow} {driver origin destination : String}

/-! ### The facts -/

/-- A window is as long as the way to a caregiver. -/
def LastsTheWay (caregiver : Caregiver) (window : CoverageWindow) : Prop :=
  window.end_ - window.start = caregiver.travelMinutesFromFamilyHome * minute

theorem LastsTheWay.start_eq (h : LastsTheWay caregiver window) :
    window.start = window.end_ - caregiver.travelMinutesFromFamilyHome * minute := by
  rw [← h, sub_sub_cancel]

/-- When the drives home leave that end with a caregiver's hours. -/
def departures (scenario : DemoScenario) (caregiver : Caregiver) (hours : CoverageWindow) : List ℤ :=
  ((transportPrimitives scenario).filter fun item =>
    item.locationId = caregiver.locationId ∧ item.destinationLocationId = scenario.familyHomeLocationId ∧
      item.window.end_ = hours.end_).map (·.window.start)

end DayMend.Agent
