import DayMend.Base.Trace
import DayMend.Fixtures.Scenario
import DayMend.Repositories.Family

/-!
# The family service

`FamilyService` of `application/family_service.py`: the profile is read, and seeded when
there is none; it is edited, one section at a time, for a version that the client names;
and it is reset. Every edit reads the profile itself, and leaves it to the save to compare
the versions.

The scenario factory, the source of the demo's date and the calendar of its time zone are
parameters; what stands for a date is left open.
-/

namespace DayMend.Application

open DayMend.Base DayMend.Models DayMend.Fixtures DayMend.Repositories

/-- What a family service is built from: `_scenario_factory`, and the date of an instant in `DEMO_TIME_ZONE`, unless
it is out of range. -/
structure FamilyService (Date : Type) where
  scenarioFactory : Date → DemoScenario
  careDate : Instant → Except String Date

/-- What `_demo_date_source` may say: the date of the demo, unless what is configured is not a date. -/
abbrev DateAnswer (Date : Type) (_ : Unit) : Type := Except String Date

/-- The errors of the service. -/
inductive FamilyFailure where
  | repository (error : FamilyError)
  | valueError (message : String)
  | keyError (key : String)
  | overflowError (message : String)

/-- A program of the service. -/
abbrev FamilyProgram (Date α : Type) := Prog Unit FamilyProfile FamilyFailure (DateAnswer Date) α

/-- A place where care is given. -/
structure CareLocation where
  locationId : String
  locationLabel : String
  careLocationType : CareLocationType
  travelMinutesFromFamilyHome : ℕ
  deriving DecidableEq

namespace FamilyService

variable {Date : Type} (service : FamilyService Date)

/-- `_demo_date_source()`. -/
def demoDate : FamilyProgram Date Date :=
  .ask () fun
    | .ok date => .ret date
    | .error message => .raise (.valueError message)

/-- `repository.save`. -/
def saveProfile (profile : FamilyProfile) (expectedVersion : Option ℕ) : FamilyProgram Date FamilyProfile :=
  .save profile expectedVersion fun
    | some stored => .ret stored
    | none => .raise (.repository familyVersionConflict)

/-- `_seed`. -/
def seed (scenario : DemoScenario) : FamilyProfile :=
  { caregivers := scenario.caregivers
    requiredCareSchedule := scenario.requiredCoverage
    preferences := scenario.preferences
    policy := scenario.policy }

/-- `get`, where there is no profile yet. -/
def seedFirst : FamilyProgram Date FamilyProfile := do
  let date ← demoDate
  .save (seed (service.scenarioFactory date)) none fun
    | some stored => .ret stored
    | none =>
      -- another request has seeded it first
      .get () fun
        | some profile => .ret profile
        | none => .raise (.repository familyVersionConflict)

/-- `get`. -/
def get : FamilyProgram Date FamilyProfile :=
  .get () fun
    | some profile => .ret profile
    | none => service.seedFirst

/-- `reset_demo`. -/
def resetDemo : FamilyProgram Date FamilyProfile :=
  .get () fun current => do
    let date ← demoDate
    saveProfile (seed (service.scenarioFactory date)) (current.map (·.version))

/-- `scenario`. -/
def scenario (profile : FamilyProfile) : Except FamilyFailure DemoScenario := do
  let careDate ← (service.careDate profile.requiredCareSchedule.start).mapError .overflowError
  return { service.scenarioFactory careDate with
    caregivers := profile.caregivers
    requiredCoverage := profile.requiredCareSchedule
    preferences := profile.preferences
    policy := profile.policy }

variable {service} in
theorem scenario_eq_ok {profile : FamilyProfile} {scenario : DemoScenario} : service.scenario profile = .ok scenario ↔
    ∃ date, service.careDate profile.requiredCareSchedule.start = .ok date ∧
      scenario = { service.scenarioFactory date with
        caregivers := profile.caregivers
        requiredCoverage := profile.requiredCareSchedule
        preferences := profile.preferences
        policy := profile.policy } := by
  rw [FamilyService.scenario, bind_eq_ok]
  cases service.careDate profile.requiredCareSchedule.start with
  | error message => simp [Except.mapError]
  | ok date => simp [Except.mapError, pure, Except.pure, eq_comm]

variable {service} in
theorem caregivers_of_scenario {profile : FamilyProfile} {scenario : DemoScenario}
    (h : service.scenario profile = .ok scenario) : scenario.caregivers = profile.caregivers := by
  obtain ⟨_, -, rfl⟩ := scenario_eq_ok.mp h
  rfl

/-- The family home, as a place of care. -/
def familyHome (scenario : DemoScenario) : CareLocation :=
  { locationId := scenario.familyHomeLocationId
    locationLabel := "Family home"
    careLocationType := .familyHome
    travelMinutesFromFamilyHome := 0 }

/-- Where a caregiver gives care. -/
def locationOf (caregiver : Caregiver) : CareLocation :=
  { locationId := caregiver.locationId
    locationLabel := caregiver.locationLabel
    careLocationType := caregiver.careLocationType
    travelMinutesFromFamilyHome := caregiver.travelMinutesFromFamilyHome }

/-- `{location["location_id"]: location for location in locations}`. -/
def locationDict (locations : List CareLocation) : Dict String CareLocation :=
  .ofList (locations.map fun location => (location.locationId, location))

/-- `locations`. -/
def locations : FamilyProgram Date (List CareLocation) := do
  let profile ← service.get
  let scenario ← Prog.ofExcept (service.scenario profile)
  return (locationDict (familyHome scenario :: scenario.caregivers.map locationOf)).values

/-- The caregivers of an edit are those of the profile, each given once. -/
def checkCaregivers (profile : FamilyProfile) (edit : FamilyUpdate) : Except FamilyFailure Unit :=
  let existing := (caregiverDict profile.caregivers).entries.map Prod.fst
  let ids := edit.caregivers.map (·.caregiverId)
  raiseIf (¬ ids.Nodup ∨ ¬ (ids ⊆ existing ∧ existing ⊆ ids))
    (.valueError "Update existing caregivers only; provide each caregiver exactly once.")

theorem checkCaregivers_eq_ok {profile : FamilyProfile} {edit : FamilyUpdate} :
    checkCaregivers profile edit = .ok () ↔ (edit.caregivers.map (·.caregiverId)).Nodup ∧
      ∀ id, id ∈ edit.caregivers.map (·.caregiverId) ↔ id ∈ profile.caregivers.map (·.caregiverId) := by
  have hkeys : ∀ id, id ∈ (caregiverDict profile.caregivers).entries.map Prod.fst ↔
      id ∈ profile.caregivers.map (·.caregiverId) := by
    intro id
    rw [caregiverDict, Dict.mem_keys_ofList, List.map_map]
    rfl
  simp only [checkCaregivers, raiseIf_eq_ok, not_or, not_not]
  apply and_congr_right
  rintro -
  constructor
  · rintro ⟨hsub, hsup⟩ id
    rw [← hkeys]
    exact ⟨fun h => hsub h, fun h => hsup h⟩
  · intro h
    exact ⟨fun id hid => (hkeys id).mpr ((h id).mp hid), fun id hid => (h id).mpr ((hkeys id).mp hid)⟩

/-- `existing[caregiver.caregiver_id].model_copy(update=…)`: the edit, then the facts of the location. -/
def editCaregiver (existing : Caregiver) (edit : CaregiverEdit) (location : CareLocation) : Caregiver :=
  { existing with
    caregiverId := edit.caregiverId
    name := edit.name
    relationship := some edit.relationship
    availability := edit.availability
    canTransportChild := edit.canTransportChild
    isTrusted := edit.isTrusted
    locationId := location.locationId
    locationLabel := location.locationLabel
    careLocationType := location.careLocationType
    travelMinutesFromFamilyHome := location.travelMinutesFromFamilyHome }

/-- The caregivers after an edit. -/
def editCaregivers (profile : FamilyProfile) (edit : FamilyUpdate) (locations : List CareLocation) :
    Except FamilyFailure (List Caregiver) :=
  edit.caregivers.mapM fun caregiver => do
    let some location := (locationDict locations).get? caregiver.locationId
      | .error (.valueError "Choose a known location with established travel facts.")
    let some existing := (caregiverDict profile.caregivers).get? caregiver.caregiverId
      | .error (.keyError caregiver.caregiverId)
    return editCaregiver existing caregiver location

/-- A caregiver who may come of an edit: known, at a place whose facts are known. -/
def EditsTo (profile : FamilyProfile) (locations : List CareLocation) (caregiver : CaregiverEdit)
    (edited : Caregiver) : Prop :=
  ∃ location existing, (locationDict locations).get? caregiver.locationId = some location ∧
    (caregiverDict profile.caregivers).get? caregiver.caregiverId = some existing ∧
      edited = editCaregiver existing caregiver location

/-- What an edit makes of the caregivers, one by one. -/
theorem editCaregivers_eq_ok {profile : FamilyProfile} {edit : FamilyUpdate} {locations : List CareLocation}
    {caregivers : List Caregiver} : editCaregivers profile edit locations = .ok caregivers ↔
      List.Forall₂ (EditsTo profile locations) edit.caregivers caregivers := by
  rw [editCaregivers, mapM_eq_ok]
  apply iff_of_eq
  congr 1
  funext caregiver edited
  rw [eq_iff_iff, EditsTo]
  cases (locationDict locations).get? caregiver.locationId with
  | none => simp
  | some location =>
    cases (caregiverDict profile.caregivers).get? caregiver.caregiverId with
    | none => simp
    | some existing => simp [pure, Except.pure, eq_comm]

/-- `update`. -/
def update (edit : FamilyUpdate) : FamilyProgram Date FamilyProfile := do
  let profile ← service.get
  Prog.ofExcept (checkCaregivers profile edit)
  let locations ← service.locations
  let caregivers ← Prog.ofExcept (editCaregivers profile edit locations)
  saveProfile { profile with caregivers, requiredCareSchedule := edit.requiredCareSchedule }
    (some edit.expectedVersion)

/-- The preferences after an edit. -/
def editPreferences (preferences : FamilyPreferences) (edit : PreferencesUpdate) : FamilyPreferences :=
  { preferences with
    preferTrustedCaregivers := edit.preferTrustedCaregivers
    preferInHomeCare := edit.preferInHomeCare
    preferFewerHandoffs := edit.minimizeHandoffs
    protectCriticalMeetings := edit.protectCriticalMeetings }

/-- `update_preferences`. -/
def updatePreferences (edit : PreferencesUpdate) : FamilyProgram Date FamilyProfile := do
  let profile ← service.get
  saveProfile { profile with preferences := editPreferences profile.preferences edit } (some edit.expectedVersion)

/-- The policy after an edit. -/
def editPolicy (policy : FamilyPolicy) (edit : PolicyUpdate) : FamilyPolicy :=
  { policy with
    automaticSpendLimit := edit.automaticSpendLimit
    requireApprovalForUnfamiliarPaidCaregiver := edit.requireApprovalForUnfamiliarProvider
    allowExternalBackupProviders := edit.allowExternalBackupProviders
    allowProviderTransport := edit.allowProviderTransport }

/-- `update_policy`. -/
def updatePolicy (edit : PolicyUpdate) : FamilyProgram Date FamilyProfile := do
  let profile ← service.get
  saveProfile
    { profile with policy := editPolicy profile.policy edit, notificationMode := edit.notificationMode }
    (some edit.expectedVersion)

end FamilyService

/-! ### Requests -/

/-- A call of the service. -/
inductive FamilyRequest where
  | get
  | locations
  | update (edit : FamilyUpdate)
  | updatePreferences (edit : PreferencesUpdate)
  | updatePolicy (edit : PolicyUpdate)
  | resetDemo

/-- What a call returns. -/
inductive FamilyResult where
  | profile (profile : FamilyProfile)
  | locations (locations : List CareLocation)

/-- The program of a call. -/
def FamilyService.call {Date : Type} (service : FamilyService Date) : FamilyRequest → FamilyProgram Date FamilyResult
  | .get => service.get >>= fun profile => .ret (.profile profile)
  | .locations => service.locations >>= fun locations => .ret (.locations locations)
  | .update edit => service.update edit >>= fun profile => .ret (.profile profile)
  | .updatePreferences edit => service.updatePreferences edit >>= fun profile => .ret (.profile profile)
  | .updatePolicy edit => service.updatePolicy edit >>= fun profile => .ret (.profile profile)
  | .resetDemo => service.resetDemo >>= fun profile => .ret (.profile profile)

end DayMend.Application
