import DayMend.Agent.DayPrimitives
import DayMend.Base.Rely
import DayMend.Runs.FamilyEdits
import DayMend.Validation.Primitives

/-!
# Travel facts

What the profile says of a place (its label, its kind and the way there) it says with
every caregiver who is there. An edit of the caregivers gives each of them the facts of
the place that is chosen, by one table, so they never disagree, whatever calls of the
service come and in whatever order they take their turns; the caregivers and the order of
their time are kept as well (`forall_saved_of_edits`). So the planner and the validator,
who look a way up with different caregivers, find the same travel time
(`travelFacts_of_reachable`).
-/

namespace DayMend.Runs

open DayMend.Base DayMend.Models DayMend.Fixtures DayMend.Services DayMend.Agent DayMend.Application
open DayMend.Validation

variable {Date : Type} {service : FamilyService Date} {profile : FamilyProfile} {edit : FamilyUpdate}
  {locations : List CareLocation} {caregivers : List Caregiver}

/-! ### Edits of the caregivers -/

/-- Caregivers at the same place have the same facts about it. -/
def LocationDetermined (caregivers : List Caregiver) : Prop :=
  ∀ c ∈ caregivers, ∀ d ∈ caregivers, c.locationId = d.locationId →
    FamilyService.locationOf c = FamilyService.locationOf d

/-- No caregiver is available twice at the same time. -/
def WindowsCoherent (caregivers : List Caregiver) : Prop := ∀ c ∈ caregivers, Span.Separate c.availability

instance : Decidable (LocationDetermined caregivers) :=
  inferInstanceAs (Decidable (∀ c ∈ caregivers, ∀ d ∈ caregivers, c.locationId = d.locationId →
    FamilyService.locationOf c = FamilyService.locationOf d))

instance : Decidable (WindowsCoherent caregivers) :=
  inferInstanceAs (Decidable (∀ c ∈ caregivers, c.availability.Pairwise fun v w => ¬ v.Overlaps w))

/-- The facts of a place carry its identifier. -/
theorem locationId_of_get? {location : CareLocation} {id : String}
    (h : (FamilyService.locationDict locations).get? id = some location) : location.locationId = id := by
  obtain ⟨listed, -, heq⟩ := List.mem_map.mp (Dict.mem_of_get?_ofList h)
  rw [← (Prod.mk.inj heq).2]
  exact (Prod.mk.inj heq).1

/-- The facts of the place that was chosen, and nothing else, are those of the place. -/
theorem locationOf_of_editsTo {caregiverEdit : CaregiverEdit} {caregiver : Caregiver}
    (h : FamilyService.EditsTo profile locations caregiverEdit caregiver) :
    (FamilyService.locationDict locations).get? caregiver.locationId = some (FamilyService.locationOf caregiver) := by
  obtain ⟨location, existing, hlocation, -, rfl⟩ := h
  rw [← locationId_of_get? hlocation] at hlocation
  exact hlocation

/-- Windows that the request accepts do not overlap. -/
theorem separate_of_coherent {ws : List CoverageWindow}
    (h : (ws.insertionSort fun v w => v.start ≤ w.start).IsChain fun a b => a.end_ ≤ b.start) : Span.Separate ws := by
  have : IsTrans CoverageWindow fun a b => a.end_ ≤ b.start :=
    ⟨fun a b c hab hbc => hab.trans (b.start_lt_end.le.trans hbc)⟩
  have hsymm : ∀ {v w : CoverageWindow}, ¬ v.Overlaps w → ¬ w.Overlaps v := fun hn ho => hn (Span.overlaps_comm.mp ho)
  have hsorted : (ws.insertionSort fun v w => v.start ≤ w.start).Pairwise fun v w => ¬ v.Overlaps w :=
    (List.isChain_iff_pairwise.mp h).imp fun hle ho => absurd ho.2 (not_lt.mpr hle)
  exact (List.perm_insertionSort _ ws).pairwise hsorted hsymm

section Edited

variable {caregiver : Caregiver}

/-- Edited caregivers are at places as the table has them. -/
theorem get?_locationDict_of_edit (h : FamilyService.editCaregivers profile edit locations = .ok caregivers)
    (hc : caregiver ∈ caregivers) :
    (FamilyService.locationDict locations).get? caregiver.locationId = some (FamilyService.locationOf caregiver) := by
  obtain ⟨_, -, hto⟩ := exists_of_forall₂ (FamilyService.editCaregivers_eq_ok.mp h) hc
  exact locationOf_of_editsTo hto

theorem locationDetermined_of_edit (h : FamilyService.editCaregivers profile edit locations = .ok caregivers) :
    LocationDetermined caregivers := by
  intro c hc d hd hsame
  have hd := get?_locationDict_of_edit h hd
  rw [← hsame, get?_locationDict_of_edit h hc] at hd
  exact Option.some.inj hd

/-- Their windows are those of the edit. -/
theorem windowsCoherent_of_edit (h : FamilyService.editCaregivers profile edit locations = .ok caregivers) :
    WindowsCoherent caregivers := by
  intro c hc
  obtain ⟨caregiverEdit, -, _, _, -, -, rfl⟩ := exists_of_forall₂ (FamilyService.editCaregivers_eq_ok.mp h) hc
  exact separate_of_coherent caregiverEdit.coherent_windows

/-- So are their identifiers. -/
theorem caregiverIds_of_edit (h : FamilyService.editCaregivers profile edit locations = .ok caregivers) :
    caregivers.map (·.caregiverId) = edit.caregivers.map (·.caregiverId) := by
  refine (map_eq_map_of_forall₂ (FamilyService.editCaregivers_eq_ok.mp h) fun caregiverEdit caregiver hto => ?_).symm
  obtain ⟨_, _, -, -, rfl⟩ := hto
  rfl

/-- They are where the edit puts them. -/
theorem locationIds_of_edit (h : FamilyService.editCaregivers profile edit locations = .ok caregivers) :
    caregivers.map (·.locationId) = edit.caregivers.map (·.locationId) := by
  refine (map_eq_map_of_forall₂ (FamilyService.editCaregivers_eq_ok.mp h) fun caregiverEdit caregiver hto => ?_).symm
  obtain ⟨_, _, hlocation, -, rfl⟩ := hto
  exact (locationId_of_get? hlocation).symm

end Edited

/-! ### Every version -/

/-- A condition on the caregivers that seeds meet and edits keep. -/
structure KeptByEdits (service : FamilyService Date) (good : List Caregiver → Prop) : Prop where
  seed : ∀ date, good (service.scenarioFactory date).caregivers
  edit : ∀ {profile edit locations caregivers}, good profile.caregivers →
    FamilyService.checkCaregivers profile edit = .ok () →
      FamilyService.editCaregivers profile edit locations = .ok caregivers → good caregivers

section Calls

variable {good : List Caregiver → Prop} {l : List FamilyProfile}

/-- Programs that rely on stored profiles whose caregivers are as they should be. -/
abbrev keeping (good : List Caregiver → Prop) : Rely FamilyProfile (DateAnswer Date) :=
  Rely.ofValues anyDate fun p => good p.caregivers

theorem wp_demoDate {post : List FamilyProfile → Date → Prop} (h : ∀ l date, post l date) :
    (keeping good).wp (FamilyService.demoDate : FamilyProgram Date Date) l post := by
  rintro (message | date) _
  · trivial
  · exact h l date

theorem wp_saveProfile {c : FamilyProfile} {e : Option ℕ} (h : good c.caregivers) :
    (keeping good).wp (FamilyService.saveProfile c e : FamilyProgram Date FamilyProfile) l
      fun _ p => good p.caregivers :=
  Rely.wp_ofValues_save h (fun _ => h) fun _ => trivial

theorem wp_get (hkept : KeptByEdits service good) :
    (keeping good).wp service.get l fun _ p => good p.caregivers := by
  refine Rely.wp_ofValues_get (fun _ _ hc => hc) fun l => ?_
  rw [FamilyService.seedFirst, Rely.wp_bind]
  refine wp_demoDate fun l date => Rely.wp_ofValues_save (hkept.seed date) (fun _ => hkept.seed date) fun l => ?_
  exact Rely.wp_ofValues_get (fun _ _ hc => hc) fun _ => trivial

theorem wp_locations (hkept : KeptByEdits service good) :
    (keeping good).wp service.locations l fun _ _ => True := by
  rw [FamilyService.locations, Rely.wp_bind]
  refine Rely.wp_mono (fun l p _ => ?_) (wp_get hkept)
  rw [Rely.wp_bind, Rely.wp_ofExcept]
  exact fun _ _ => trivial

theorem wp_call (hkept : KeptByEdits service good) (request : FamilyRequest) :
    (keeping good).wp (service.call request) l fun _ _ => True := by
  cases request with
  | get => exact Rely.wp_bind.mpr (Rely.wp_mono (fun _ _ _ => trivial) (wp_get hkept))
  | locations => exact Rely.wp_bind.mpr (Rely.wp_mono (fun _ _ _ => trivial) (wp_locations hkept))
  | update edit =>
    rw [FamilyService.call, FamilyService.update, Rely.wp_bind, Rely.wp_bind]
    refine Rely.wp_mono (fun l profile hprofile => ?_) (wp_get hkept)
    rw [Rely.wp_bind, Rely.wp_ofExcept]
    intro _ hcheck
    rw [Rely.wp_bind]
    refine Rely.wp_mono (fun l locations _ => ?_) (wp_locations hkept)
    rw [Rely.wp_bind, Rely.wp_ofExcept]
    intro caregivers hedit
    exact Rely.wp_mono (fun _ _ _ => trivial) (wp_saveProfile (hkept.edit hprofile hcheck hedit))
  | updatePreferences edit =>
    rw [FamilyService.call, FamilyService.updatePreferences, Rely.wp_bind, Rely.wp_bind]
    refine Rely.wp_mono (fun l profile hprofile => ?_) (wp_get hkept)
    exact Rely.wp_mono (fun _ _ _ => trivial) (wp_saveProfile hprofile)
  | updatePolicy edit =>
    rw [FamilyService.call, FamilyService.updatePolicy, Rely.wp_bind, Rely.wp_bind]
    refine Rely.wp_mono (fun l profile hprofile => ?_) (wp_get hkept)
    exact Rely.wp_mono (fun _ _ _ => trivial) (wp_saveProfile hprofile)
  | resetDemo =>
    rw [FamilyService.call, FamilyService.resetDemo, Rely.wp_bind]
    have hreset : ∀ (l : List FamilyProfile) (current : Option FamilyProfile),
        (keeping good).wp (FamilyService.demoDate >>= fun date => FamilyService.saveProfile
          (FamilyService.seed (service.scenarioFactory date)) (current.map (·.version))) l fun _ _ => True := by
      intro l current
      rw [Rely.wp_bind]
      exact wp_demoDate fun l date => Rely.wp_mono (fun _ _ _ => trivial) (wp_saveProfile (hkept.seed date))
    exact Rely.wp_ofValues_get (fun l c _ => hreset l (some c)) fun l => hreset l none

/-- **What seeds meet and edits keep** holds of every profile that is ever stored. -/
theorem KeptByEdits.forall_saved (hkept : KeptByEdits service good)
    {cfg : Config Unit FamilyProfile FamilyFailure (DateAnswer Date) FamilyResult}
    (h : Reachable anyDate (IsCall service) cfg) : ∀ p ∈ cfg.saved, good p.caregivers := by
  refine Rely.forall_saved_of_reachable (fun p hp l => ?_) h
  obtain ⟨request, rfl⟩ := hp
  exact wp_call hkept request

end Calls

/-! ### Travel times -/

section Trips

variable {scenario : DemoScenario} {trip : FeasibleTransportPrimitive}

/-- A trip goes between home and the place of a caregiver, in that caregiver's travel time. -/
theorem exists_caregiver_of_mem_transportPrimitives (h : trip ∈ transportPrimitives scenario) :
    ∃ caregiver ∈ scenario.caregivers, caregiver.locationId ≠ scenario.familyHomeLocationId ∧
      trip.requiredDurationMinutes = caregiver.travelMinutesFromFamilyHome ∧
      trip.window.end_ - trip.window.start = caregiver.travelMinutesFromFamilyHome * minute ∧
      ((trip.locationId = scenario.familyHomeLocationId ∧ trip.destinationLocationId = caregiver.locationId) ∨
        (trip.locationId = caregiver.locationId ∧ trip.destinationLocationId = scenario.familyHomeLocationId)) := by
  obtain ⟨entry, hentry, rfl⟩ := List.mem_map.mp ((List.mem_insertionSort _).mp h)
  obtain ⟨item, hitem, rfl⟩ := List.mem_map.mp (Dict.mem_of_mem_entries_ofList hentry)
  obtain ⟨caregiver, hc, hitem⟩ := List.mem_flatMap.mp hitem
  have hmem : caregiver ∈ scenario.caregivers :=
    (List.mem_insertionSort _).mp (List.mem_filter.mp (List.mem_filter.mp hc).1).1
  split at hitem
  · cases hitem
  next hfar =>
    have haway : caregiver.locationId ≠ scenario.familyHomeLocationId := fun he => hfar (Or.inl he)
    refine ⟨caregiver, hmem, haway, ?_⟩
    rcases List.mem_append.mp hitem with hitem | hitem
    · obtain ⟨parent, -, hitem⟩ := List.mem_flatMap.mp hitem
      obtain ⟨careWindow, -, hitem⟩ := List.mem_flatMap.mp hitem
      rcases List.mem_append.mp hitem with hitem | hitem
      · split at hitem
        · obtain rfl := List.mem_singleton.mp hitem
          exact ⟨rfl, sub_sub_cancel .., Or.inl ⟨rfl, rfl⟩⟩
        · cases hitem
      · split at hitem
        · obtain rfl := List.mem_singleton.mp hitem
          exact ⟨rfl, sub_sub_cancel .., Or.inr ⟨rfl, rfl⟩⟩
        · cases hitem
    · dsimp only [caregiverTrips] at hitem
      split at hitem
      · obtain ⟨careWindow, -, hitem⟩ := List.mem_filterMap.mp hitem
        split at hitem
        · cases hitem
        · obtain rfl := Option.some.inj hitem
          exact ⟨rfl, sub_sub_cancel .., Or.inr ⟨rfl, rfl⟩⟩
      · cases hitem

/-- The validator, on the facts of the scenario, looks up for the trip the travel time that the planner took. -/
def SameTravelTime (scenario : DemoScenario) (trip : FeasibleTransportPrimitive) : Prop :=
  ∃ minutes : ℕ, trip.requiredDurationMinutes = minutes ∧ trip.window.end_ - trip.window.start = minutes * minute ∧
    travelMinutes trip.locationId trip.destinationLocationId scenario.familyHomeLocationId
      (travelFromHome scenario (caregiverDict scenario.caregivers)) = some minutes

/-- **One travel time for each trip**: where facts are a function of the place, the two agree. -/
theorem sameTravelTime_of_mem_transportPrimitives (hnodup : (scenario.caregivers.map (·.caregiverId)).Nodup)
    (hdetermined : LocationDetermined scenario.caregivers) (h : trip ∈ transportPrimitives scenario) :
    SameTravelTime scenario trip := by
  obtain ⟨caregiver, hmem, haway, hrequired, hlasts, hends⟩ := exists_caregiver_of_mem_transportPrimitives h
  have htravel := get?_travelFromHome_of_mem hnodup
    (fun c hc d hd hsame => congrArg CareLocation.travelMinutesFromFamilyHome (hdetermined c hc d hd hsame)) hmem haway
  refine ⟨caregiver.travelMinutesFromFamilyHome, hrequired, hlasts, ?_⟩
  rcases hends with ⟨horigin, hdestination⟩ | ⟨horigin, hdestination⟩
  · rw [horigin, hdestination, travelMinutes, if_neg haway.symm, if_pos rfl, htravel]
  · rw [horigin, hdestination, travelMinutes, if_neg haway, if_neg haway, if_pos rfl, htravel]

end Trips

/-- Facts from which profiles may be seeded: every caregiver is listed once, caregivers at the same place have the same
facts about it, and none is available twice at the same time. -/
structure SeedFacts (scenario : DemoScenario) : Prop where
  nodup_caregiverIds : (scenario.caregivers.map (·.caregiverId)).Nodup
  determined : LocationDetermined scenario.caregivers
  coherent : WindowsCoherent scenario.caregivers

theorem keptByEdits_determined (h : ∀ date, SeedFacts (service.scenarioFactory date)) :
    KeptByEdits service LocationDetermined where
  seed date := (h date).determined
  edit _ _ hedit := locationDetermined_of_edit hedit

theorem keptByEdits_coherent (h : ∀ date, SeedFacts (service.scenarioFactory date)) :
    KeptByEdits service WindowsCoherent where
  seed date := (h date).coherent
  edit _ _ hedit := windowsCoherent_of_edit hedit

/-- The caregivers stay those of a seed, each listed once, in the order that the last edit gives them in. -/
theorem keptByEdits_caregiverIds (h : ∀ date, SeedFacts (service.scenarioFactory date)) :
    KeptByEdits service fun caregivers => ∃ date, (caregivers.map (·.caregiverId)).Perm
      ((service.scenarioFactory date).caregivers.map (·.caregiverId)) where
  seed date := ⟨date, .refl _⟩
  edit := by
    rintro profile edit locations caregivers ⟨date, hperm⟩ hcheck hedit
    obtain ⟨hnodup, hids⟩ := FamilyService.checkCaregivers_eq_ok.mp hcheck
    refine ⟨date, ?_⟩
    rw [caregiverIds_of_edit hedit, List.perm_ext_iff_of_nodup hnodup (h date).nodup_caregiverIds]
    exact fun id => (hids id).trans hperm.mem_iff

/-- **Travel facts stay a function of the place.** In every run of calls of the service, taking turns in any order,
every stored profile has the same facts about a place with all its caregivers, its caregivers are those of a seed, each
listed once, and none of them is available twice at the same time. On the facts of the day with such a profile, the
validator looks up for each trip that the planner makes the travel time that the planner took. -/
theorem travelFacts_of_reachable (hseeds : ∀ date, SeedFacts (service.scenarioFactory date))
    {cfg : Config Unit FamilyProfile FamilyFailure (DateAnswer Date) FamilyResult}
    (h : Reachable anyDate (IsCall service) cfg) (profile : FamilyProfile) (hp : profile ∈ cfg.saved) :
    LocationDetermined profile.caregivers ∧
      (∃ date, (profile.caregivers.map (·.caregiverId)).Perm
        ((service.scenarioFactory date).caregivers.map (·.caregiverId))) ∧
      WindowsCoherent profile.caregivers ∧
      ∀ scenario, service.scenario profile = .ok scenario → ∀ trip ∈ transportPrimitives scenario,
        SameTravelTime scenario trip := by
  have hdetermined := (keptByEdits_determined hseeds).forall_saved h profile hp
  obtain ⟨date, hperm⟩ := (keptByEdits_caregiverIds hseeds).forall_saved h profile hp
  have hcoherent := (keptByEdits_coherent hseeds).forall_saved h profile hp
  refine ⟨hdetermined, ⟨date, hperm⟩, hcoherent, fun scenario hscenario trip htrip => ?_⟩
  rw [← FamilyService.caregivers_of_scenario hscenario] at hperm hdetermined
  have hnodup := hperm.nodup_iff.mpr (hseeds date).nodup_caregiverIds
  exact sameTravelTime_of_mem_transportPrimitives hnodup hdetermined htrip

/-! ### A family with a grandmother -/

/-- A grandmother, who looks after the child at her home, a quarter of an hour away, and drives. -/
def grandmaAt (window : CoverageWindow) (windows : List CoverageWindow) : Caregiver :=
  { sitter "grandma" (window :: windows) with
    relationship := some "grandmother"
    careLocationType := .caregiverHome
    locationId := "grandma_home"
    locationLabel := "Grandma's home"
    travelMinutesFromFamilyHome := 15
    canTransportChild := true }

/-- A family with the given caregivers. -/
def familyOf (caregivers : List Caregiver) : FamilyService Unit where
  scenarioFactory _ := day (minutes 0 120) caregivers
  careDate _ := .ok ()

/-- The profile is seeded. -/
def seeded (caregivers : List Caregiver) : Config Unit FamilyProfile FamilyFailure (DateAnswer Unit) FamilyResult :=
  Config.run [.spawn ((familyOf caregivers).call .get), .steps 0 3 fun _ => .ok ()]

theorem reachable_seeded (caregivers : List Caregiver) :
    Reachable anyDate (IsCall (familyOf caregivers)) (seeded caregivers) := by
  refine reachable_run fun t ht => ?_
  rcases List.mem_cons.mp ht with rfl | ht
  · exact ⟨.get, rfl⟩
  · obtain rfl := List.mem_singleton.mp ht
    exact fun _ => trivial

/-- The profile of the family that is seeded. -/
def seedProfile (caregivers : List Caregiver) : FamilyProfile :=
  { FamilyService.seed (day (minutes 0 120) caregivers) with version := 1 }

theorem seedFacts_grandma : SeedFacts (day (minutes 0 120) [grandmaAt (minutes 0 60) []]) where
  nodup_caregiverIds := List.nodup_singleton _
  determined := by decide +kernel
  coherent := by decide +kernel

/-- The grandmother may bring the child home. -/
theorem travelFacts_of_reachable_grandma :
    (transportPrimitives (day (minutes 0 120) [grandmaAt (minutes 0 60) []])).length = 1 ∧
    ∀ profile ∈ (seeded [grandmaAt (minutes 0 60) []]).saved, LocationDetermined profile.caregivers ∧
      (∃ date : Unit, (profile.caregivers.map (·.caregiverId)).Perm
        (((familyOf [grandmaAt (minutes 0 60) []]).scenarioFactory date).caregivers.map (·.caregiverId))) ∧
      WindowsCoherent profile.caregivers ∧
      ∀ scenario, (familyOf [grandmaAt (minutes 0 60) []]).scenario profile = .ok scenario →
        ∀ trip ∈ transportPrimitives scenario, SameTravelTime scenario trip :=
  ⟨by decide +kernel, travelFacts_of_reachable (fun _ => seedFacts_grandma) (reachable_seeded _)⟩

/-- The grandmother's windows overlap. -/
def overlapping : List Caregiver := [grandmaAt (minutes 0 60) [minutes 30 90]]

/-- The grandmother is listed twice, at her home and then at the family's. -/
def listedTwice : List Caregiver := [grandmaAt (minutes 0 60) [], sitter "grandma" [minutes 0 60]]

/-- **Seeds need more than that facts are a function of the place.** A seed may list windows that overlap, and they are
kept; or list a caregiver twice, at two places, and the validator looks up a way with the second entry alone. -/
theorem travelFacts_need_seedFacts :
    (LocationDetermined overlapping ∧ ∃ cfg, Reachable anyDate (IsCall (familyOf overlapping)) cfg ∧
      ∃ profile ∈ cfg.saved, ¬ WindowsCoherent profile.caregivers) ∧
    (LocationDetermined listedTwice ∧ WindowsCoherent listedTwice ∧
      ∃ cfg, Reachable anyDate (IsCall (familyOf listedTwice)) cfg ∧
        ∃ profile ∈ cfg.saved, ∃ scenario, (familyOf listedTwice).scenario profile = .ok scenario ∧
          ∃ trip ∈ transportPrimitives scenario, ¬ SameTravelTime scenario trip) := by
  constructor
  · exact ⟨by decide +kernel, _, reachable_seeded _, _, List.mem_singleton_self _, by decide +kernel⟩
  · refine ⟨by decide +kernel, by decide +kernel, _, reachable_seeded _, _, List.mem_singleton_self _, _, rfl, ?_⟩
    have hunknown : ∃ trip ∈ transportPrimitives (day (minutes 0 120) listedTwice),
        travelMinutes trip.locationId trip.destinationLocationId "family_home"
          (travelFromHome (day (minutes 0 120) listedTwice) (caregiverDict listedTwice)) = none := by
      decide +kernel
    obtain ⟨trip, htrip, hnone⟩ := hunknown
    refine ⟨trip, htrip, ?_⟩
    rintro ⟨_, -, -, hsome⟩
    exact absurd (hnone.symm.trans hsome) (Option.some_ne_none _).symm

end DayMend.Runs
