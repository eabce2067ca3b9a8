import DayMend.Fixtures.NannyCancellation
import DayMend.Runs.Undo
import DayMend.Validation.Worlds

/-!
# Days of a family

A recovery is started on the facts of a day: the calendar of the date, and the family's
caregivers as the stored profile has them. Edits choose places among those that are known
and leave alone what the family is not asked for, so whatever calls of the service come,
everybody in a stored profile is a caregiver of a seed, at a place of a seed
(`described_of_reachable`). Where the seeds give distinct people distinct identifiers and
agree about their places (`SeedsAgree`), every day of a stored profile is a day of distinct
people (`SeedsAgree.distinctPeople`), and so are all the worlds that it gets into.
-/

namespace DayMend.Runs

open DayMend.Base DayMend.Models DayMend.Fixtures DayMend.Services DayMend.Agent DayMend.Application
open DayMend.Validation

variable {Date : Type} {service : FamilyService Date} {good : List Caregiver → Prop} {l : List FamilyProfile}

/-! ### Conditions that calls keep -/

/-- A condition on the caregivers that seeds meet, and edits with the places of a day of such caregivers keep. -/
structure KeptByCalls (service : FamilyService Date) (good : List Caregiver → Prop) : Prop where
  seed : ∀ date, good (service.scenarioFactory date).caregivers
  edit : ∀ {profile located edit scenario caregivers}, good profile.caregivers → good located.caregivers →
    service.scenario located = .ok scenario → FamilyService.checkCaregivers profile edit = .ok () →
      FamilyService.editCaregivers profile edit (places scenario) = .ok caregivers → good caregivers

/-- Where the profile is read, it is read as it should be. -/
theorem KeptByCalls.wp_get (hkept : KeptByCalls service good) :
    (keeping good).wp service.get l fun _ p => good p.caregivers := by
  refine Rely.wp_ofValues_get (fun _ _ hc => hc) fun l => ?_
  rw [FamilyService.seedFirst, Rely.wp_bind]
  refine wp_demoDate fun l date => Rely.wp_ofValues_save (hkept.seed date) (fun _ => hkept.seed date) fun l => ?_
  exact Rely.wp_ofValues_get (fun _ _ hc => hc) fun _ => trivial

/-- The places that are known are those of such a day. -/
theorem KeptByCalls.wp_locations (hkept : KeptByCalls service good) :
    (keeping good).wp service.locations l fun _ locations => ∃ located scenario, good located.caregivers ∧
      service.scenario located = .ok scenario ∧ locations = places scenario := by
  rw [FamilyService.locations, Rely.wp_bind]
  refine Rely.wp_mono (fun l located hlocated => ?_) hkept.wp_get
  rw [Rely.wp_bind, Rely.wp_ofExcept]
  exact fun scenario hscenario => ⟨located, scenario, hlocated, hscenario, rfl⟩

theorem KeptByCalls.wp_call (hkept : KeptByCalls service good) (request : FamilyRequest) :
    (keeping good).wp (service.call request) l fun _ _ => True := by
  cases request with
  | get => exact Rely.wp_bind.mpr (Rely.wp_mono (fun _ _ _ => trivial) hkept.wp_get)
  | locations => exact Rely.wp_bind.mpr (Rely.wp_mono (fun _ _ _ => trivial) hkept.wp_locations)
  | update edit =>
    rw [FamilyService.call, FamilyService.update, Rely.wp_bind, Rely.wp_bind]
    refine Rely.wp_mono (fun l profile hprofile => ?_) hkept.wp_get
    rw [Rely.wp_bind, Rely.wp_ofExcept]
    intro _ hcheck
    rw [Rely.wp_bind]
    refine Rely.wp_mono (fun l locations hlocations => ?_) hkept.wp_locations
    obtain ⟨located, scenario, hlocated, hscenario, rfl⟩ := hlocations
    rw [Rely.wp_bind, Rely.wp_ofExcept]
    intro caregivers hedit
    exact Rely.wp_mono (fun _ _ _ => trivial)
      (wp_saveProfile (hkept.edit hprofile hlocated hscenario hcheck hedit))
  | updatePreferences edit =>
    rw [FamilyService.call, FamilyService.updatePreferences, Rely.wp_bind, Rely.wp_bind]
    refine Rely.wp_mono (fun l profile hprofile => ?_) hkept.wp_get
    exact Rely.wp_mono (fun _ _ _ => trivial) (wp_saveProfile hprofile)
  | updatePolicy edit =>
    rw [FamilyService.call, FamilyService.updatePolicy, Rely.wp_bind, Rely.wp_bind]
    refine Rely.wp_mono (fun l profile hprofile => ?_) hkept.wp_get
    exact Rely.wp_mono (fun _ _ _ => trivial) (wp_saveProfile hprofile)
  | resetDemo =>
    rw [FamilyService.call, FamilyService.resetDemo, Rely.wp_bind]
    have hreset : ∀ (l : List FamilyProfile) (current : Option FamilyProfile),
        (keeping good).wp (FamilyService.demoDate >>= fun date => FamilyService.saveProfile
          (FamilyService.seed (service.scenarioFactory date)) (current.map (·.version))) l fun _ _ => True := by
      intro l current
      rw [Rely.wp_bind]
      exact wp_demoDate fun l date => Rely.wp_mono (fun _ _ _ => trivial) (wp_saveProfile (hkept.seed date))
    exact Rely.wp_ofValues_get (fun l c _ => hreset l (some c)) fun l => hreset l none

/-- **What seeds meet and such edits keep** holds of every profile that is ever stored. -/
theorem KeptByCalls.forall_saved (hkept : KeptByCalls service good)
    {cfg : Config Unit FamilyProfile FamilyFailure (DateAnswer Date) FamilyResult}
    (h : Reachable anyDate (IsCall service) cfg) : ∀ p ∈ cfg.saved, good p.caregivers := by
  refine Rely.forall_saved_of_reachable (fun p hp l => ?_) h
  obtain ⟨request, rfl⟩ := hp
  exact hkept.wp_call request

/-! ### Caregivers of seeds -/

/-- The record is that of a seed, but for what the family is asked for: what the person charges, and whether the family
knows the person, is as in the seed. -/
def FromSeed (service : FamilyService Date) (caregiver : Caregiver) : Prop :=
  ∃ date, ∃ seed ∈ (service.scenarioFactory date).caregivers,
    caregiver = { seed with
      name := caregiver.name
      relationship := caregiver.relationship
      availability := caregiver.availability
      canTransportChild := caregiver.canTransportChild
      isTrusted := caregiver.isTrusted
      locationId := caregiver.locationId
      locationLabel := caregiver.locationLabel
      careLocationType := caregiver.careLocationType
      travelMinutesFromFamilyHome := caregiver.travelMinutesFromFamilyHome }

/-- A place that a seed knows. -/
def SeedPlace (service : FamilyService Date) (location : CareLocation) : Prop :=
  ∃ date, location ∈ FamilyService.familyHome (service.scenarioFactory date) ::
    (service.scenarioFactory date).caregivers.map FamilyService.locationOf

/-- Everybody is a caregiver of a seed, at a place of a seed. -/
def Described (service : FamilyService Date) (caregivers : List Caregiver) : Prop :=
  ∀ c ∈ caregivers, FromSeed service c ∧ SeedPlace service (FamilyService.locationOf c)

/-- The places of a day with such caregivers are places of seeds. -/
theorem seedPlace_of_get?_places {located : FamilyProfile} {scenario : DemoScenario} {location : CareLocation}
    {id : String} (h : Described service located.caregivers) (hscenario : service.scenario located = .ok scenario)
    (hlocation : (FamilyService.locationDict (places scenario)).get? id = some location) :
    SeedPlace service location := by
  obtain ⟨date, -, rfl⟩ := FamilyService.scenario_eq_ok.mp hscenario
  rw [get?_places, Option.or_eq_some_iff] at hlocation
  rcases hlocation with hlocation | ⟨-, hlocation⟩
  · obtain ⟨caregiver, hcaregiver, -, rfl⟩ := exists_caregiver_of_placeOf hlocation
    exact (h caregiver hcaregiver).2
  · split at hlocation
    · obtain rfl := Option.some.inj hlocation
      exact ⟨date, List.mem_cons_self ..⟩
    · cases hlocation

theorem keptByCalls_described : KeptByCalls service (Described service) where
  seed date c hc := ⟨⟨date, c, hc, rfl⟩, date, List.mem_cons_of_mem _ (List.mem_map_of_mem hc)⟩
  edit {profile located edit scenario caregivers} hprofile hlocated hscenario _ hedit caregiver hc := by
    refine ⟨?_, seedPlace_of_get?_places hlocated hscenario (get?_locationDict_of_edit hedit hc)⟩
    obtain ⟨caregiverEdit, -, location, existing, -, hexisting, rfl⟩ :=
      exists_of_forall₂ (FamilyService.editCaregivers_eq_ok.mp hedit) hc
    obtain ⟨hmem, hid⟩ := caregiverId_of_get? hexisting
    obtain ⟨date, seed, hseed, heq⟩ := (hprofile existing hmem).1
    refine ⟨date, seed, hseed, ?_⟩
    have hsame : seed.caregiverId = caregiverEdit.caregiverId := by rw [← hid, heq]
    rw [heq, FamilyService.editCaregiver, ← hsame]

/-! ### Seeds that agree -/

/-- Seeds in which distinct people have distinct identifiers, whatever the date, and which agree about places. -/
structure SeedsAgree (service : FamilyService Date) : Prop where
  facts : ∀ date, SeedFacts (service.scenarioFactory date)
  distinct : ∀ date date', ((service.scenarioFactory date).caregivers.map (·.caregiverId) ++
    (service.scenarioFactory date').backupCareCandidates.map (·.candidateId) ++
      (service.scenarioFactory date').parentIds).Nodup
  no_parent : ∀ date date', ∀ id ∈ (service.scenarioFactory date).caregivers.map (·.caregiverId) ++
    (service.scenarioFactory date').backupCareCandidates.map (·.candidateId),
      id ∉ (service.scenarioFactory date').parentTransportCapabilities.map (·.parentId) ∧
        id ∉ (service.scenarioFactory date').parentEvents.map (·.ownerId)
  candidates_separate : ∀ date, ∀ k ∈ (service.scenarioFactory date).backupCareCandidates, Span.Separate k.availability
  candidates_travel : ∀ date, ∀ k ∈ (service.scenarioFactory date).backupCareCandidates,
    ∀ other ∈ (service.scenarioFactory date).backupCareCandidates, k.locationId = other.locationId →
      k.travelMinutesFromFamilyHome = other.travelMinutesFromFamilyHome
  places_travel : ∀ place, SeedPlace service place → ∀ date, ∀ k ∈ (service.scenarioFactory date).backupCareCandidates,
    place.locationId = k.locationId → place.travelMinutesFromFamilyHome = k.travelMinutesFromFamilyHome

section Days

variable {cfg : Config Unit FamilyProfile FamilyFailure (DateAnswer Date) FamilyResult} {profile : FamilyProfile}
  {scenario : DemoScenario}

theorem described_of_reachable (h : Reachable anyDate (IsCall service) cfg) (hp : profile ∈ cfg.saved) :
    Described service profile.caregivers := keptByCalls_described.forall_saved h profile hp

/-- **The day of a stored profile** is a day of distinct people. -/
theorem SeedsAgree.familyDay (hseeds : SeedsAgree service) (h : Reachable anyDate (IsCall service) cfg)
    (hp : profile ∈ cfg.saved) (hscenario : service.scenario profile = .ok scenario) : FamilyDay scenario := by
  obtain ⟨hdetermined, ⟨date, hperm⟩, hcoherent, -⟩ := travelFacts_of_reachable hseeds.facts h profile hp
  have hdescribed := described_of_reachable h hp
  obtain ⟨date', -, rfl⟩ := FamilyService.scenario_eq_ok.mp hscenario
  have hids : (listing { service.scenarioFactory date' with
      caregivers := profile.caregivers
      requiredCoverage := profile.requiredCareSchedule
      preferences := profile.preferences
      policy := profile.policy }).map (·.1) = profile.caregivers.map (·.caregiverId) ++
        (service.scenarioFactory date').backupCareCandidates.map (·.candidateId) := by
    simp [listing, Function.comp_def]
  refine ⟨⟨?_, ?_, hcoherent, hseeds.candidates_separate date'⟩, fun person hperson => ?_⟩
  · rw [hids]
    exact ((hperm.append_right _).append_right _).nodup_iff.mpr (hseeds.distinct date date')
  · -- two caregivers, a caregiver and a provider, or two providers
    have hplace : ∀ c ∈ profile.caregivers, ∀ k ∈ (service.scenarioFactory date').backupCareCandidates,
        c.locationId = k.locationId → c.travelMinutesFromFamilyHome = k.travelMinutesFromFamilyHome :=
      fun c hc => hseeds.places_travel _ (hdescribed c hc).2 date'
    intro a ha b hb hsame
    rcases List.mem_append.mp ha with ha | ha
    · obtain ⟨c, hc, rfl⟩ := List.mem_map.mp ha
      rcases List.mem_append.mp hb with hb | hb
      · obtain ⟨d, hd, rfl⟩ := List.mem_map.mp hb
        exact congrArg CareLocation.travelMinutesFromFamilyHome (hdetermined c hc d hd hsame)
      · obtain ⟨k, hk, rfl⟩ := List.mem_map.mp hb
        exact hplace c hc k hk hsame
    · obtain ⟨k, hk, rfl⟩ := List.mem_map.mp ha
      rcases List.mem_append.mp hb with hb | hb
      · obtain ⟨d, hd, rfl⟩ := List.mem_map.mp hb
        exact (hplace d hd k hk hsame.symm).symm
      · obtain ⟨other, hother, rfl⟩ := List.mem_map.mp hb
        exact hseeds.candidates_travel date' k hk other hother hsame
  · have hmem := List.mem_map_of_mem (f := fun x : String × String × ℕ => x.1) hperson
    rw [hids, (hperm.append_right _).mem_iff] at hmem
    exact hseeds.no_parent date date' _ hmem

end Days

/-! ### The demo family -/

/-- The service with the demo's scenarios, for a calendar. -/
def demoFamily (timelineOf : Date → DemoTimeline) (careDate : Instant → Except String Date) : FamilyService Date where
  scenarioFactory date := getDemoScenario (timelineOf date)
  careDate := careDate

/-- The places of the demo's caregivers. -/
def demoPlaces : List CareLocation :=
  [⟨"family_home", "Family home", .familyHome, 0⟩, ⟨"grandma_home", "Grandma's home", .caregiverHome, 15⟩]

theorem locationOf_mem_demoPlaces {timeline : DemoTimeline} {c : Caregiver}
    (hc : c ∈ (getDemoScenario timeline).caregivers) : FamilyService.locationOf c ∈ demoPlaces := by
  have hmem : FamilyService.locationOf c ∈ demoPlaces.reverse := List.mem_map_of_mem hc
  exact List.mem_reverse.mp hmem

theorem seedFacts_demo (timeline : DemoTimeline) : SeedFacts (getDemoScenario timeline) where
  nodup_caregiverIds := by
    change ["grandma", "backup_sitter"].Nodup
    decide
  determined c hc d hd hsame := by
    have hplaces : ∀ a ∈ demoPlaces, ∀ b ∈ demoPlaces, a.locationId = b.locationId → a = b := by decide
    exact hplaces _ (locationOf_mem_demoPlaces hc) _ (locationOf_mem_demoPlaces hd) hsame
  coherent c hc := by
    simp only [getDemoScenario, List.mem_cons, List.not_mem_nil, or_false] at hc
    rcases hc with rfl | rfl <;> exact List.pairwise_singleton _ _

/-- **The demo's seeds agree**, on every calendar. -/
theorem seedsAgree_demo {timelineOf : Date → DemoTimeline} {careDate : Instant → Except String Date} :
    SeedsAgree (demoFamily timelineOf careDate) := by
  have hgoes : ∀ date, ∀ k ∈ ((demoFamily timelineOf careDate).scenarioFactory date).backupCareCandidates,
      (k.locationId, k.travelMinutesFromFamilyHome) ∈ [("family_home", 0), ("willow_home", 12)] := fun date k hk =>
    List.mem_map_of_mem (f := fun k : BackupCareCandidate => (k.locationId, k.travelMinutesFromFamilyHome)) hk
  refine ⟨fun date => seedFacts_demo _, fun _ _ => ?_, fun _ _ => ?_, fun date k hk => ?_,
    fun date k hk other hother hsame => ?_, fun place hplace date k hk hsame => ?_⟩
  · change ["grandma", "backup_sitter", "harbor_nanny_coop", "willow_family_care", "parent_a", "parent_b"].Nodup
    decide
  · change ∀ id ∈ ["grandma", "backup_sitter", "harbor_nanny_coop", "willow_family_care"],
      id ∉ ["parent_a", "parent_b"] ∧ id ∉ ["parent_a", "parent_a", "parent_b", "parent_b"]
    decide
  · simp only [demoFamily, getDemoScenario, List.mem_cons, List.not_mem_nil, or_false] at hk
    rcases hk with rfl | rfl <;> exact List.pairwise_singleton _ _
  · have hpairs : ∀ a ∈ [("family_home", 0), ("willow_home", 12)], ∀ b ∈ [("family_home", 0), ("willow_home", 12)],
        a.1 = b.1 → a.2 = b.2 := by decide
    exact hpairs _ (hgoes date k hk) _ (hgoes date other hother) hsame
  · have hpairs : ∀ a ∈ demoPlaces, ∀ b ∈ [("family_home", 0), ("willow_home", 12)],
        a.locationId = b.1 → a.travelMinutesFromFamilyHome = b.2 := by decide
    obtain ⟨date', hplace⟩ := hplace
    refine hpairs place ?_ _ (hgoes date k hk) hsame
    rcases List.mem_cons.mp hplace with rfl | hplace
    · exact List.mem_cons_self ..
    · obtain ⟨c, hc, rfl⟩ := List.mem_map.mp hplace
      exact locationOf_mem_demoPlaces hc

end DayMend.Runs
