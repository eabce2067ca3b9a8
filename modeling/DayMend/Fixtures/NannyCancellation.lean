import DayMend.Fixtures.Scenario

/-!
# The demo family

`get_demo_scenario` of `fixtures/nanny_cancellation.py`: the facts from which the family's
profile is seeded and the days of its recoveries are made. Every time of day comes from the
date's timeline (`fixtures/demo_date.py`); what the calendar of the time zone makes of a
date is left open, but that its hours follow each other from the morning on.
-/

namespace DayMend.Fixtures

open DayMend.Base DayMend.Models

/-- `DemoTimeline`: the hours of a date are counted from the midnight that the morning's time has. -/
structure DemoTimeline where
  midnight : Instant

namespace DemoTimeline

/-- `at`. -/
def at_ (timeline : DemoTimeline) (hour : ℕ) (minutes : ℕ := 0) : Instant :=
  timeline.midnight + (hour * 60 + minutes : ℕ) * minute

/-- `window`; those of the fixture end after they start (`window_end`). -/
def window (timeline : DemoTimeline) (startHour endHour : ℕ) (startMinute endMinute : ℕ := 0) : CoverageWindow :=
  ⟨timeline.at_ startHour startMinute, max (timeline.at_ startHour startMinute + 1) (timeline.at_ endHour endMinute),
    lt_max_of_lt_left (lt_add_one _)⟩

theorem window_end {timeline : DemoTimeline} {startHour endHour startMinute endMinute : ℕ}
    (h : startHour * 60 + startMinute < endHour * 60 + endMinute) :
    (timeline.window startHour endHour startMinute endMinute).end_ = timeline.at_ endHour endMinute := by
  refine max_eq_right ?_
  have hlt : ((startHour * 60 + startMinute : ℕ) : ℤ) < (endHour * 60 + endMinute : ℕ) := Int.ofNat_lt.mpr h
  change timeline.midnight + ((startHour * 60 + startMinute : ℕ) : ℤ) * 60000000 + 1 ≤
    timeline.midnight + ((endHour * 60 + endMinute : ℕ) : ℤ) * 60000000
  linarith

end DemoTimeline

section People

variable (timeline : DemoTimeline)

theorem free_of_charge : some (0 : Decimal) = none ∨ (none : Option Decimal) = none := Or.inr rfl

/-- The grandmother. -/
def demoGrandma : Caregiver :=
  { caregiverId := "grandma"
    name := "Grandma"
    isTrusted := true
    relationship := some "family"
    availability := [timeline.window 9 12 0 15]
    hourlyRate := some 0
    careLocationType := .caregiverHome
    locationId := "grandma_home"
    locationLabel := "Grandma's home"
    travelMinutesFromFamilyHome := 15
    canTransportChild := true
    previouslyUsed := true
    has_at_most_one_price_type := free_of_charge }

/-- The sitter. -/
def demoBackupSitter : Caregiver :=
  { caregiverId := "backup_sitter"
    name := "Backup sitter"
    isTrusted := true
    relationship := some "paid_backup"
    availability := [timeline.window 12 16 15]
    hourlyRate := some 0
    careLocationType := .familyHome
    knownToFamily := true
    previouslyUsed := true
    has_at_most_one_price_type := free_of_charge }

theorem harbor_contract : (some (27 : Decimal)).isSome ≠ (none : Option Decimal).isSome ∧ 1 ≤ 12 := by decide

/-- A local agency. -/
def harborNannyCoop : BackupCareCandidate :=
  { candidateId := "harbor_nanny_coop"
    displayName := "Harbor Nanny Cooperative"
    availability := [timeline.window 8 12 45 15]
    hourlyRate := some 27
    verified := true
    backgroundChecked := true
    minimumChildAge := 1
    maximumChildAge := 12
    careLocationType := .familyHome
    candidate_contract_is_consistent := harbor_contract }

theorem willow_contract : (some (31 : Decimal)).isSome ≠ (none : Option Decimal).isSome ∧ 0 ≤ 10 := by decide

/-- An independent caregiver. -/
def willowFamilyCare : BackupCareCandidate :=
  { candidateId := "willow_family_care"
    displayName := "Willow Family Care"
    availability := [timeline.window 8 12 45 15]
    hourlyRate := some 31
    verified := true
    backgroundChecked := true
    minimumChildAge := 0
    maximumChildAge := 10
    careLocationType := .caregiverHome
    locationId := "willow_home"
    locationLabel := "Willow Family Care"
    travelMinutesFromFamilyHome := 12
    candidate_contract_is_consistent := willow_contract }

/-- `get_demo_scenario`. -/
def getDemoScenario : DemoScenario :=
  { disruption := "The nanny reported sick at 07:02 and is unavailable today."
    normalCaregiverId := "nanny"
    requiredCoverage := timeline.window 8 16
    unavailableCaregiverIds := ["nanny"]
    parentIds := ["parent_a", "parent_b"]
    parentEvents :=
      [{ eventId := "parent_a_customer_workshop"
         ownerId := "parent_a"
         title := "Customer workshop"
         window := timeline.window 9 12
         critical := true },
       { eventId := "parent_a_afternoon_client_delivery"
         ownerId := "parent_a"
         title := "Afternoon client delivery"
         window := timeline.window 12 16
         critical := true },
       { eventId := "parent_b_executive_presentation"
         ownerId := "parent_b"
         title := "Executive presentation"
         window := timeline.window 8 12 30 15
         critical := true },
       { eventId := "parent_b_interview"
         ownerId := "parent_b"
         title := "Interview"
         window := timeline.window 14 15
         critical := true }]
    caregivers := [demoGrandma timeline, demoBackupSitter timeline]
    preferences :=
      { preferFamilyFirst := true
        preferFewerHandoffs := true
        preferParentAMorningCoverage := true
        avoidReschedulingCustomerMeetings := true
        preferredBackupOrder := ["grandma", "backup_sitter"]
        preferredHandoffLocation := some "home" }
    policy :=
      { requireTrustedCaregiver := true
        unapprovedCaregiverAllowed := false
        automaticSpendLimit := 30
        minimumHandoffMinutes := 0
        requireVerifiedBackupProvider := true
        requireBackgroundCheckedBackupProvider := true
        requireApprovalForUnfamiliarPaidCaregiver := true }
    parentTransportCapabilities :=
      [{ parentId := "parent_a"
         canTransportChild := true
         availability := [timeline.window 8 9 45] },
       { parentId := "parent_b" }]
    backupCareCandidates := [harborNannyCoop timeline, willowFamilyCare timeline] }

end People

end DayMend.Fixtures
