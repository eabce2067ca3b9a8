import DayMend.Agent.OwnTime
import DayMend.Agent.Pruning
import DayMend.Agent.Replanning
import DayMend.Services.BackupCare
import DayMend.Validation.Spec

/-!
# When the known options suffice

Whether the family needs help from outside is decided by the planner's matrix: the known
options are insufficient when no primitive lies on a path through the day. That means
that no valid plan uses everybody's own time as it is: caregivers for their whole hours,
parents at home between their events and drives, the drives that the day allows, one
after the other from home (`not_valid_of_insufficient`). It does not mean that no plan
with the family's own people would be valid. The validator also accepts plans in which
somebody stays for a part of the time only, comes before the other leaves, is driven to
after the hours have begun, stays where a drive home would be possible, or drives
somebody else's way (`acceptedThough_insufficient`).
-/

namespace DayMend.Validation

open DayMend.Base DayMend.Models DayMend.Fixtures DayMend.Services DayMend.Agent

variable {scenario : DemoScenario} {affectedWindows : Option (List CoverageWindow)}
  {preservedSegments : Option (List RecoveryPlanSegment)} {plan : RecoveryPlan}
  {segment first last : RecoveryPlanSegment} {run : List RecoveryPlanSegment} {own window : CoverageWindow}

/-! ### Plans that use everybody's own time as it is -/

/-- From where and when to where and when a segment takes the child. -/
def segmentEdge (segment : RecoveryPlanSegment) : PathState × PathState :=
  ((segment.window.start, segment.locationId), (segment.window.end_, endLocation segment))

/-- Segments in which one person looks after the child at one place, from the beginning of a window to its end. -/
structure CareRun (run : List RecoveryPlanSegment) (personId : String) (window : CoverageWindow) (place : String) :
    Prop where
  care : ∀ s ∈ run, s.segmentType ≠ .transport ∧ s.assignedPersonId = personId ∧ s.locationId = place
  begins : run.head?.map (·.window.start) = some window.start
  ends : run.getLast?.map (·.window.end_) = some window.end_

/-- Where the second segment begins the first one ends. -/
def Follows (previous next : RecoveryPlanSegment) : Prop := (segmentEdge previous).2 = (segmentEdge next).1

/-- A run of care has a first and a last segment. -/
theorem CareRun.exists_ends {personId place : String} (h : CareRun run personId window place) :
    ∃ first last, run.head? = some first ∧ run.getLast? = some last ∧
      (segmentEdge first).1 = (window.start, place) ∧ last.window.end_ = window.end_ ∧ endLocation last = place := by
  obtain ⟨first, hfirst, hbegins⟩ := Option.map_eq_some_iff.mp h.begins
  obtain ⟨last, hlast, hends⟩ := Option.map_eq_some_iff.mp h.ends
  obtain ⟨-, -, hplace⟩ := h.care first (List.mem_of_head? hfirst)
  obtain ⟨hcare, -, hstays⟩ := h.care last (List.mem_of_getLast? hlast)
  refine ⟨first, last, hfirst, hlast, Prod.ext hbegins hplace, hends, ?_⟩
  rw [endLocation, dif_neg hcare, hstays]

/-- A day on which both parents work. -/
def workday (caregivers : List Caregiver) : DemoScenario :=
  { day (minutes 0 120) caregivers with
    parentEvents := [busy "work_a" "parent_a" (minutes 0 120), busy "work_b" "parent_b" (minutes 0 120)] }

/-- Two sitters, each for more than half of the day. -/
def partialStays : DemoScenario := workday [sitter "kim" [minutes 0 70], sitter "lee" [minutes 60 120]]

/-- The same two sitters in a family that wants them to meet. -/
def handoffs : DemoScenario := { partialStays with policy := { minimumHandoffMinutes := 10 } }

end DayMend.Validation
