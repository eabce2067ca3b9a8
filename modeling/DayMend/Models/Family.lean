import DayMend.Base.Store
import DayMend.Models.Domain
import Mathlib.Data.List.Sort

/-!
# The family profile

`models/family.py`: the facts about the family that can be edited, and the requests to
edit them. Each request covers one section of the profile and names the version that it
was made for. What the source checks of a request when it comes in is a field here.
-/

namespace DayMend.Models

open DayMend.Base

/-- What the family wants to hear of. -/
inductive NotificationMode where
  | decisionsOnly
  | meaningfulChanges
  | completionOnly
  deriving DecidableEq

/-- The profile. -/
structure FamilyProfile where
  version : ℕ := 0
  caregivers : List Caregiver
  requiredCareSchedule : CoverageWindow
  preferences : FamilyPreferences
  policy : FamilyPolicy
  notificationMode : NotificationMode := .meaningfulChanges
  deriving DecidableEq

/-- There is one profile. -/
instance : Versioned Unit FamilyProfile where
  key _ := ()
  version := FamilyProfile.version
  setVersion n profile := { profile with version := n }
  key_setVersion _ _ := rfl
  version_setVersion _ _ := rfl

/-- The characters that `str.strip` takes off. -/
def isSpace (c : Char) : Bool :=
  (9 ≤ c.toNat && c.toNat ≤ 13) || (28 ≤ c.toNat && c.toNat ≤ 32) || (0x2000 ≤ c.toNat && c.toNat ≤ 0x200A) ||
    c.toNat ∈ [0x85, 0xA0, 0x1680, 0x2028, 0x2029, 0x202F, 0x205F, 0x3000]

/-- A text of 1 to 100 characters, not all of them blank. -/
structure IsLabel (text : String) : Prop where
  min_length : 1 ≤ text.length
  max_length : text.length ≤ 100
  not_blank : ¬ text.toList.all isSpace

/-- What can be edited of a caregiver. -/
structure CaregiverEdit where
  caregiverId : String
  name : String
  relationship : String
  availability : List CoverageWindow
  canTransportChild : Bool
  locationId : String
  isTrusted : Bool
  isLabel_name : IsLabel name
  isLabel_relationship : IsLabel relationship
  max_length : availability.length ≤ 24
  /-- Care availability windows must not overlap. -/
  coherent_windows :
    (availability.insertionSort fun v w => v.start ≤ w.start).IsChain fun a b => a.end_ ≤ b.start

/-- An edit of the caregivers and the care schedule. -/
structure FamilyUpdate where
  expectedVersion : ℕ
  caregivers : List CaregiverEdit
  requiredCareSchedule : CoverageWindow

/-- An edit of the preferences. -/
structure PreferencesUpdate where
  expectedVersion : ℕ
  preferTrustedCaregivers : Bool
  preferInHomeCare : Bool
  minimizeHandoffs : Bool
  protectCriticalMeetings : Bool

/-- An edit of the policy. -/
structure PolicyUpdate where
  expectedVersion : ℕ
  automaticSpendLimit : Decimal
  requireApprovalForUnfamiliarProvider : Bool
  allowExternalBackupProviders : Bool
  allowProviderTransport : Bool
  notificationMode : NotificationMode
  /-- The limit has at most 10 digits, two of them after the point. -/
  max_digits : ∃ cents < 10 ^ 10, automaticSpendLimit.toRat * 100 = (cents : ℕ)

end DayMend.Models
