import DayMend.Base.Dict
import DayMend.Models.Domain

/-!
# The authoritative facts of a disruption

`DemoScenario` (`fixtures/nanny_cancellation.py`): what the validator, the planner
and the recovery service know about the family and the day. The tables by
identifier that the services build from it are insertion-ordered dictionaries, so
where an identifier occurs twice the later record counts.
-/

namespace DayMend.Fixtures

open DayMend.Base DayMend.Models

/-- The authoritative facts. -/
structure DemoScenario where
  disruption : String
  normalCaregiverId : String
  requiredCoverage : CoverageWindow
  unavailableCaregiverIds : List String
  parentIds : List String
  parentEvents : List CalendarEvent
  caregivers : List Caregiver
  preferences : FamilyPreferences
  policy : FamilyPolicy
  familyHomeLocationId : String := "family_home"
  parentTransportCapabilities : List ParentTransportCapability := []
  childAgeYears : ℕ := 4
  backupCareCandidates : List BackupCareCandidate := []
  deriving DecidableEq

/-- `{caregiver.caregiver_id: caregiver for caregiver in scenario.caregivers}`. -/
def caregiverDict (caregivers : List Caregiver) : Dict String Caregiver :=
  .ofList (caregivers.map fun caregiver => (caregiver.caregiverId, caregiver))

/-- `{item.parent_id: item for item in scenario.parent_transport_capabilities}`. -/
def parentTransport (capabilities : List ParentTransportCapability) : Dict String ParentTransportCapability :=
  .ofList (capabilities.map fun item => (item.parentId, item))

theorem caregiverId_of_get? {caregivers : List Caregiver} {id : String} {caregiver : Caregiver}
    (h : (caregiverDict caregivers).get? id = some caregiver) :
    caregiver ∈ caregivers ∧ caregiver.caregiverId = id := by
  obtain ⟨c, hc, he⟩ := List.mem_map.mp (Dict.mem_of_get?_ofList h)
  simp only [Prod.mk.injEq] at he
  obtain ⟨rfl, rfl⟩ := he
  exact ⟨hc, rfl⟩

/-- The caregiver's record is the one that counts when no other has its identifier. -/
theorem get?_caregiverDict_of_mem {caregivers : List Caregiver} (hnodup : (caregivers.map (·.caregiverId)).Nodup)
    {caregiver : Caregiver} (h : caregiver ∈ caregivers) :
    (caregiverDict caregivers).get? caregiver.caregiverId = some caregiver := by
  refine Dict.get?_ofList_of_mem ?_ (List.mem_map_of_mem h)
  rw [List.map_map]
  exact hnodup

/-- What holds of the facts of a family: every caregiver is listed once, nobody is both a caregiver and a parent
(one who is listed as such, drives as such, or has a calendar), and it takes the same time to go to the same place. -/
structure FamilyScenario (scenario : DemoScenario) : Prop where
  nodup_caregiverIds : (scenario.caregivers.map (·.caregiverId)).Nodup
  no_parent : ∀ caregiver ∈ scenario.caregivers, caregiver.caregiverId ∉ scenario.parentIds ∧
    caregiver.caregiverId ∉ scenario.parentTransportCapabilities.map (·.parentId) ∧
      caregiver.caregiverId ∉ scenario.parentEvents.map (·.ownerId)
  travel_eq : ∀ caregiver ∈ scenario.caregivers, ∀ other ∈ scenario.caregivers,
    caregiver.locationId = other.locationId →
      caregiver.travelMinutesFromFamilyHome = other.travelMinutesFromFamilyHome

/-! ### Small days -/

/-- The window between two whole minutes of the day, one minute long at least. -/
def minutes (start end_ : ℕ) : CoverageWindow :=
  ⟨start * minute, max (start + 1) end_ * minute, by unfold minute; omega⟩

/-- A trusted caregiver who looks after the child at the family home, unpaid. -/
def sitter (caregiverId : String) (availability : List CoverageWindow) : Caregiver :=
  { caregiverId, name := caregiverId, isTrusted := true, availability }

/-- A day with the given caregivers on which the nanny is missing. -/
def day (requiredCoverage : CoverageWindow) (caregivers : List Caregiver) : DemoScenario :=
  { disruption := "The nanny is unavailable today."
    normalCaregiverId := "nanny"
    requiredCoverage
    unavailableCaregiverIds := ["nanny"]
    parentIds := ["parent_a", "parent_b"]
    parentEvents := []
    caregivers
    preferences := {}
    policy := {} }

/-- A critical event of a parent. -/
def busy (eventId ownerId : String) (window : CoverageWindow) : CalendarEvent :=
  { eventId, ownerId, title := "Work", window, critical := true }

/-- A stretch of care at the family home. -/
def care (segmentId assignedPersonId : String) (source : CoverageSource) (window : CoverageWindow) :
    RecoveryPlanSegment :=
  { segmentId, window, assignedPersonId, source }

/-- A trip with its driver. -/
def drive (segmentId driver : String) (source : CoverageSource) (window : CoverageWindow)
    (origin destination : String) : RecoveryPlanSegment :=
  { segmentId, window, assignedPersonId := driver, source, segmentType := .transport, locationId := origin
    destinationLocationId := some destination
    transporterId := some driver }

end DayMend.Fixtures
