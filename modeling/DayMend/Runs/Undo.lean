import DayMend.Base.Alone
import DayMend.Runs.TravelFacts

/-!
# Undoing an edit of the caregivers

An edit replaces what it may change of the caregivers, and the care schedule, so the way
back is an edit with what there was before. It is refused where the facts of a place are
needed that the edit has lost: they are known only from the caregivers who are there. The
edits that can be undone are those after which every caregiver's place is still known, by
the same facts (`undone_iff_reversible`).
-/

namespace DayMend.Runs

open DayMend.Base DayMend.Models DayMend.Fixtures DayMend.Services DayMend.Application

variable {Date : Type} {service : FamilyService Date} {profile edited : FamilyProfile} {edit undo : FamilyUpdate}
  {caregivers : List Caregiver} {caregiver : Caregiver} {caregiverEdit : CaregiverEdit} {locations : List CareLocation}
  {l l' : List FamilyProfile} {id : String}

/-! ### The places that are known -/

/-- The places that the service knows on the facts of a day: the family home, and those where caregivers are. -/
def places (scenario : DemoScenario) : List CareLocation :=
  (FamilyService.locationDict
    (FamilyService.familyHome scenario :: scenario.caregivers.map FamilyService.locationOf)).values

/-- The facts that the caregivers' records give of a place: those of the last one who is there. -/
def placeOf (caregivers : List Caregiver) (id : String) : Option CareLocation :=
  (FamilyService.locationDict (caregivers.map FamilyService.locationOf)).get? id

/-- The family home is known even if nobody is there. -/
theorem get?_places (scenario : DemoScenario) (id : String) :
    (FamilyService.locationDict (places scenario)).get? id = (placeOf scenario.caregivers id).or
      (if scenario.familyHomeLocationId = id then some (FamilyService.familyHome scenario) else none) := by
  rw [FamilyService.locationDict, places, FamilyService.locationDict, Dict.get?_ofList_values, List.map_cons,
    Dict.get?_ofList_cons]
  rfl

/-- What is known of a place comes from somebody who is there. -/
theorem exists_caregiver_of_placeOf {location : CareLocation} (h : placeOf caregivers id = some location) :
    ∃ caregiver ∈ caregivers, caregiver.locationId = id ∧ FamilyService.locationOf caregiver = location := by
  obtain ⟨listed, hlisted, heq⟩ := List.mem_map.mp (Dict.mem_of_get?_ofList h)
  obtain ⟨caregiver, hcaregiver, rfl⟩ := List.mem_map.mp hlisted
  obtain ⟨rfl, rfl⟩ := Prod.mk.inj heq
  exact ⟨caregiver, hcaregiver, rfl, rfl⟩

/-- A place where somebody is is known. -/
theorem exists_placeOf (h : id ∈ caregivers.map (·.locationId)) :
    ∃ location, placeOf caregivers id = some location := by
  refine Dict.exists_get?_of_mem ?_
  rw [List.map_map, List.map_map]
  exact h

theorem placeOf_eq_none (h : id ∉ caregivers.map (·.locationId)) : placeOf caregivers id = none := by
  rw [Option.eq_none_iff_forall_ne_some]
  intro location hlocation
  obtain ⟨caregiver, hcaregiver, rfl, -⟩ := exists_caregiver_of_placeOf hlocation
  exact h (List.mem_map_of_mem hcaregiver)

/-- Where caregivers at a place have the same facts about it, these are the facts of the place. -/
theorem LocationDetermined.placeOf_eq (h : LocationDetermined caregivers) (hc : caregiver ∈ caregivers) :
    placeOf caregivers caregiver.locationId = some (FamilyService.locationOf caregiver) := by
  obtain ⟨location, hlocation⟩ := exists_placeOf (List.mem_map_of_mem (f := (·.locationId)) hc)
  obtain ⟨last, hlast, hsame, rfl⟩ := exists_caregiver_of_placeOf hlocation
  rw [hlocation, h last hlast caregiver hc hsame]

/-- **Places after an edit**: those where the edit puts somebody, with the facts that they had. -/
theorem placeOf_of_edit (h : FamilyService.editCaregivers profile edit locations = .ok caregivers) (id : String) :
    placeOf caregivers id = if id ∈ edit.caregivers.map (·.locationId) then
      (FamilyService.locationDict locations).get? id else none := by
  rw [← locationIds_of_edit h]
  split
  next hmem =>
    obtain ⟨caregiver, hcaregiver, rfl⟩ := List.mem_map.mp hmem
    rw [(locationDetermined_of_edit h).placeOf_eq hcaregiver, get?_locationDict_of_edit h hcaregiver]
  next hmem => exact placeOf_eq_none hmem

/-! ### What a caregiver's facts are submitted as -/

/-- The edit of a caregiver says what is so already. -/
def Describes (caregiverEdit : CaregiverEdit) (caregiver : Caregiver) : Prop :=
  caregiverEdit.caregiverId = caregiver.caregiverId ∧ caregiverEdit.name = caregiver.name ∧
    some caregiverEdit.relationship = caregiver.relationship ∧ caregiverEdit.availability = caregiver.availability ∧
    caregiverEdit.canTransportChild = caregiver.canTransportChild ∧ caregiverEdit.locationId = caregiver.locationId ∧
    caregiverEdit.isTrusted = caregiver.isTrusted

/-- The caregiver's facts are such as a request may give. -/
structure Submittable (caregiver : Caregiver) : Prop where
  isLabel_name : IsLabel caregiver.name
  isLabel_relationship : ∃ relationship, caregiver.relationship = some relationship ∧ IsLabel relationship
  max_length : caregiver.availability.length ≤ 24
  coherent_windows :
    (caregiver.availability.insertionSort fun v w => v.start ≤ w.start).IsChain fun a b => a.end_ ≤ b.start

/-- Facts that may be given are those that some edit describes. -/
theorem exists_describes_iff : (∃ caregiverEdit, Describes caregiverEdit caregiver) ↔ Submittable caregiver := by
  constructor
  · rintro ⟨caregiverEdit, -, hname, hrelationship, havailability, -⟩
    refine ⟨hname ▸ caregiverEdit.isLabel_name, ⟨_, hrelationship.symm, caregiverEdit.isLabel_relationship⟩, ?_, ?_⟩
    · exact havailability ▸ caregiverEdit.max_length
    · exact havailability ▸ caregiverEdit.coherent_windows
  · rintro ⟨hname, ⟨relationship, hsome, hrelationship⟩, hlength, hcoherent⟩
    exact ⟨⟨_, _, _, _, _, _, _, hname, hrelationship, hlength, hcoherent⟩, rfl, rfl, hsome.symm, rfl, rfl, rfl, rfl⟩

/-- An edit that says what is so, at the place as it was, changes nothing. -/
theorem editCaregiver_eq_self_iff {location : CareLocation} (h : Describes caregiverEdit caregiver) :
    FamilyService.editCaregiver caregiver caregiverEdit location = caregiver ↔
      location = FamilyService.locationOf caregiver := by
  constructor
  · intro heq
    rw [← heq]
    rfl
  · rintro rfl
    obtain ⟨hid, hname, hrelationship, havailability, htransport, hplace, htrusted⟩ := h
    rw [FamilyService.editCaregiver, hid, hname, hrelationship, havailability, htransport, htrusted]
    rfl

/-! ### Updates that succeed -/

theorem ends_get (hcurrent : current l () = some profile) {r : Except FamilyFailure FamilyProfile} :
    service.get.Ends anyDate l l' r ↔ l' = l ∧ r = .ok profile := by
  rw [FamilyService.get, Prog.Ends, hcurrent]
  rfl

theorem ends_locations (hcurrent : current l () = some profile) :
    service.locations.Ends anyDate l l' (.ok locations) ↔
      l' = l ∧ ∃ scenario, service.scenario profile = .ok scenario ∧ locations = places scenario := by
  rw [FamilyService.locations, ends_bind_ok]
  simp only [ends_get hcurrent, ends_bind_ok, ends_ofExcept]
  constructor
  · rintro ⟨_, _, ⟨rfl, ⟨⟩⟩, _, scenario, ⟨rfl, hscenario⟩, rfl, ⟨⟩⟩
    exact ⟨rfl, scenario, hscenario.symm, rfl⟩
  · rintro ⟨rfl, scenario, hscenario, rfl⟩
    exact ⟨_, _, ⟨rfl, rfl⟩, _, scenario, ⟨rfl, hscenario.symm⟩, rfl, rfl⟩

/-- A save succeeds when it expects the version that there is. -/
theorem ends_saveProfile (hcurrent : current l () = some profile) {c : FamilyProfile} {v : ℕ} :
    (FamilyService.saveProfile c (some v) : FamilyProgram Date FamilyProfile).Ends anyDate l l' (.ok edited) ↔
      profile.version = v ∧ edited = { c with version := v + 1 } ∧ l' = edited :: l := by
  have haccepts : Accepts l c (some v) ↔ profile.version = v := by
    rw [Accepts, hcurrent]
    exact Option.some_inj
  rw [FamilyService.saveProfile, Prog.Ends]
  split
  next hacc =>
    constructor
    · rintro ⟨rfl, ⟨⟩⟩
      exact ⟨haccepts.mp hacc, rfl, rfl⟩
    · rintro ⟨-, rfl, rfl⟩
      exact ⟨rfl, rfl⟩
  next hacc =>
    constructor
    · rintro ⟨-, ⟨⟩⟩
    · exact fun h => absurd (haccepts.mpr h.1) hacc

/-- **When an update succeeds**: it gives the caregivers of the profile, each once, puts each at a place that is known,
and names the current version. -/
theorem ends_update (hcurrent : current l () = some profile) :
    (service.update edit).Ends anyDate l l' (.ok edited) ↔
      FamilyService.checkCaregivers profile edit = .ok () ∧
        ∃ scenario caregivers, service.scenario profile = .ok scenario ∧
          FamilyService.editCaregivers profile edit (places scenario) = .ok caregivers ∧
            profile.version = edit.expectedVersion ∧
              edited = { profile with
                version := edit.expectedVersion + 1
                caregivers
                requiredCareSchedule := edit.requiredCareSchedule } ∧ l' = edited :: l := by
  rw [FamilyService.update, ends_bind_ok]
  simp only [ends_get hcurrent, ends_bind_ok, ends_ofExcept]
  constructor
  · rintro ⟨_, _, ⟨rfl, ⟨⟩⟩, _, _, ⟨rfl, hcheck⟩, _, locations, hlocations, _, caregivers, ⟨rfl, hedit⟩, hsave⟩
    obtain ⟨rfl, scenario, hscenario, rfl⟩ := (ends_locations hcurrent).mp hlocations
    exact ⟨hcheck.symm, scenario, caregivers, hscenario, hedit.symm, (ends_saveProfile hcurrent).mp hsave⟩
  · rintro ⟨hcheck, scenario, caregivers, hscenario, hedit, hsave⟩
    have hlocations := (ends_locations hcurrent).mpr ⟨rfl, scenario, hscenario, rfl⟩
    exact ⟨_, _, ⟨rfl, rfl⟩, _, _, ⟨rfl, hcheck.symm⟩, _, _, hlocations, _, caregivers, ⟨rfl, hedit.symm⟩,
      (ends_saveProfile hcurrent).mpr hsave⟩

/-! ### The way back -/

/-- The update gives the caregivers' facts and the care schedule of the profile before, and the version after. -/
structure Undoes (profile edited : FamilyProfile) (undo : FamilyUpdate) : Prop where
  expectedVersion : undo.expectedVersion = edited.version
  describes : List.Forall₂ Describes undo.caregivers profile.caregivers
  requiredCareSchedule : undo.requiredCareSchedule = profile.requiredCareSchedule

/-- Such an update can be submitted, succeeds, and restores the caregivers and the care schedule. -/
def Undone (service : FamilyService Date) (profile edited : FamilyProfile) (l : List FamilyProfile) : Prop :=
  ∃ undo restored, Undoes profile edited undo ∧ (service.update undo).Ends anyDate l (restored :: l) (.ok restored) ∧
    restored.caregivers = profile.caregivers ∧ restored.requiredCareSchedule = profile.requiredCareSchedule

/-- The edit leaves the way back open: the caregivers' facts are such as a request may give, each caregiver is listed
once, the edited schedule starts on a date, and for each caregiver the place is known by the caregiver's own facts,
either because the edit puts somebody there and the last caregiver who was there had these facts, or, where it puts
nobody there, because it is the family home. -/
structure Reversible (service : FamilyService Date) (profile : FamilyProfile) (edit : FamilyUpdate) : Prop where
  submittable : ∀ caregiver ∈ profile.caregivers, Submittable caregiver
  nodup_caregiverIds : (profile.caregivers.map (·.caregiverId)).Nodup
  known : ∃ date, service.careDate edit.requiredCareSchedule.start = .ok date ∧
    ∀ caregiver ∈ profile.caregivers,
      if caregiver.locationId ∈ edit.caregivers.map (·.locationId) then
        placeOf profile.caregivers caregiver.locationId = some (FamilyService.locationOf caregiver)
      else FamilyService.locationOf caregiver = FamilyService.familyHome (service.scenarioFactory date)

section Undo

variable {scenario : DemoScenario}

/-- After an edit, a caregiver's place is known by the same facts if the edit leaves it so. -/
theorem get?_places_iff (hedit : FamilyService.editCaregivers profile edit (places scenario) = .ok caregivers)
    (hfacts : scenario.caregivers = profile.caregivers) {facts : DemoScenario} (hc : caregiver ∈ profile.caregivers) :
    (FamilyService.locationDict (places { facts with caregivers })).get? caregiver.locationId =
        some (FamilyService.locationOf caregiver) ↔
      if caregiver.locationId ∈ edit.caregivers.map (·.locationId) then
        placeOf profile.caregivers caregiver.locationId = some (FamilyService.locationOf caregiver)
      else FamilyService.locationOf caregiver = FamilyService.familyHome facts := by
  rw [get?_places, placeOf_of_edit hedit]
  split
  next hmem =>
    obtain ⟨location, hlocation⟩ := exists_placeOf (List.mem_map_of_mem (f := (·.locationId)) hc)
    rw [get?_places, hfacts, hlocation, Option.some_or, Option.some_or]
  next hmem =>
    rw [Option.none_or]
    constructor
    · intro h
      split at h
      next => exact (Option.some.inj h).symm
      next => cases h
    · intro h
      have hhome : facts.familyHomeLocationId = caregiver.locationId := (congrArg CareLocation.locationId h).symm
      exact (if_pos hhome).trans (congrArg some h.symm)

/-- What an edit makes of a caregiver who was edited before is what it makes of the caregiver. -/
theorem editsTo_iff_of_edit (hnodup : (profile.caregivers.map (·.caregiverId)).Nodup)
    (hedit : FamilyService.editCaregivers profile edit locations = .ok edited.caregivers)
    (hids : (edited.caregivers.map (·.caregiverId)).Nodup)
    (hmem : caregiver.caregiverId ∈ edited.caregivers.map (·.caregiverId)) (hc : caregiver ∈ profile.caregivers)
    (hdescribes : Describes caregiverEdit caregiver) {known : List CareLocation} :
    FamilyService.EditsTo edited known caregiverEdit caregiver ↔
      (FamilyService.locationDict known).get? caregiver.locationId = some (FamilyService.locationOf caregiver) := by
  obtain ⟨now, hnow, hsame⟩ := List.mem_map.mp hmem
  obtain ⟨earlier, -, location, existing, -, hexisting, hto⟩ :=
    exists_of_forall₂ (FamilyService.editCaregivers_eq_ok.mp hedit) hnow
  have hid : earlier.caregiverId = caregiver.caregiverId := by
    rw [← hsame, hto]
    rfl
  rw [hid, get?_caregiverDict_of_mem hnodup hc] at hexisting
  obtain rfl := Option.some.inj hexisting
  have hagain : ∀ location, FamilyService.editCaregiver now caregiverEdit location =
      FamilyService.editCaregiver caregiver caregiverEdit location := by
    intro location
    rw [hto]
    rfl
  have hget := get?_caregiverDict_of_mem hids hnow
  rw [hsame, ← hdescribes.1] at hget
  rw [FamilyService.EditsTo, hdescribes.2.2.2.2.2.1, hget]
  constructor
  · rintro ⟨location, _, hlocation, ⟨⟩, heq⟩
    rw [hagain] at heq
    rw [hlocation, (editCaregiver_eq_self_iff hdescribes).mp heq.symm]
  · intro h
    refine ⟨_, _, h, rfl, ?_⟩
    rw [hagain, (editCaregiver_eq_self_iff hdescribes).mpr rfl]

theorem reversible_of_undone (hcurrent : current l () = some profile)
    (hupdate : (service.update edit).Ends anyDate l l' (.ok edited)) (h : Undone service profile edited l') :
    Reversible service profile edit := by
  obtain ⟨hcheck, scenario, caregivers, hscenario, hedit, hversion, hedited, rfl⟩ := (ends_update hcurrent).mp hupdate
  obtain ⟨undo, restored, hundo, hends, hcaregivers, -⟩ := h
  obtain ⟨hcheck', scenario', caregivers', hscenario', hedit', -, rfl, -⟩ := (ends_update (current_cons rfl)).mp hends
  obtain rfl : caregivers' = profile.caregivers := hcaregivers
  obtain ⟨date, hdate, rfl⟩ := FamilyService.scenario_eq_ok.mp hscenario'
  have hids := map_eq_map_of_forall₂ hundo.describes (f := (·.caregiverId)) (g := (·.caregiverId)) fun _ _ h => h.1
  obtain ⟨hnodup, hsame⟩ := FamilyService.checkCaregivers_eq_ok.mp hcheck'
  rw [hids] at hnodup hsame
  subst hedited
  have hnow : (caregivers.map (·.caregiverId)).Nodup := by
    rw [caregiverIds_of_edit hedit]
    exact (FamilyService.checkCaregivers_eq_ok.mp hcheck).1
  refine ⟨fun c hc => ?_, hnodup, date, hdate, fun c hc => ?_⟩
  · obtain ⟨u, -, hdescribes⟩ := exists_of_forall₂ hundo.describes hc
    exact exists_describes_iff.mp ⟨u, hdescribes⟩
  · have hboth := hundo.describes.mp (fun _ _ hd he => And.intro hd he) (FamilyService.editCaregivers_eq_ok.mp hedit')
    obtain ⟨u, -, hdescribes, hto⟩ := exists_of_forall₂ hboth hc
    have hmem := (hsame _).mp (List.mem_map_of_mem (f := (·.caregiverId)) hc)
    have hplace := (editsTo_iff_of_edit hnodup hedit hnow hmem hc hdescribes).mp hto
    exact (get?_places_iff hedit (FamilyService.caregivers_of_scenario hscenario) hc).mp hplace

/-- The way back is open where each caregiver can be led back. -/
theorem undone_of_forall_exists (hcurrent : current l () = some edited)
    (hscenario : service.scenario edited = .ok scenario) (hnodup : (profile.caregivers.map (·.caregiverId)).Nodup)
    (hsame : ∀ id, id ∈ profile.caregivers.map (·.caregiverId) ↔ id ∈ edited.caregivers.map (·.caregiverId))
    (hback : ∀ c ∈ profile.caregivers, ∃ u, Describes u c ∧ FamilyService.EditsTo edited (places scenario) u c) :
    Undone service profile edited l := by
  obtain ⟨us, hus⟩ := exists_forall₂ hback
  have hids := map_eq_map_of_forall₂ hus (f := (·.caregiverId)) (g := (·.caregiverId)) fun _ _ h => h.1.1
  refine ⟨⟨edited.version, us, profile.requiredCareSchedule⟩, { edited with
    version := edited.version + 1
    caregivers := profile.caregivers
    requiredCareSchedule := profile.requiredCareSchedule }, ⟨rfl, hus.imp fun _ _ h => h.1, rfl⟩, ?_, rfl, rfl⟩
  refine (ends_update hcurrent).mpr ⟨FamilyService.checkCaregivers_eq_ok.mpr ?_, scenario, _, hscenario,
    FamilyService.editCaregivers_eq_ok.mpr (hus.imp fun _ _ h => h.2), rfl, rfl, rfl⟩
  rw [hids]
  exact ⟨hnodup, hsame⟩

theorem undone_of_reversible (hcurrent : current l () = some profile)
    (hupdate : (service.update edit).Ends anyDate l l' (.ok edited)) (h : Reversible service profile edit) :
    Undone service profile edited l' := by
  obtain ⟨hcheck, scenario, caregivers, hscenario, hedit, hversion, hedited, rfl⟩ := (ends_update hcurrent).mp hupdate
  obtain ⟨date, hdate, hknown⟩ := h.known
  obtain ⟨hnow, hsame⟩ := FamilyService.checkCaregivers_eq_ok.mp hcheck
  rw [← caregiverIds_of_edit hedit] at hnow hsame
  subst hedited
  refine undone_of_forall_exists (current_cons rfl) (FamilyService.scenario_eq_ok.mpr ⟨date, hdate, rfl⟩)
    h.nodup_caregiverIds (fun id => (hsame id).symm) fun c hc => ?_
  obtain ⟨u, hdescribes⟩ := exists_describes_iff.mpr (h.submittable c hc)
  have hmem := (hsame _).mpr (List.mem_map_of_mem (f := (·.caregiverId)) hc)
  have hplace := (get?_places_iff hedit (FamilyService.caregivers_of_scenario hscenario) hc).mpr (hknown c hc)
  exact ⟨u, hdescribes, (editsTo_iff_of_edit h.nodup_caregiverIds hedit hnow hmem hc hdescribes).mpr hplace⟩

/-- **The updates that can be undone** are those that leave the way back open. For every profile that is current, an
update of it that succeeds can be followed by an update with the caregivers' facts and the care schedule of before,
which succeeds and restores them, exactly if it does. -/
theorem undone_iff_reversible (hcurrent : current l () = some profile)
    (hupdate : (service.update edit).Ends anyDate l l' (.ok edited)) :
    Undone service profile edited l' ↔ Reversible service profile edit :=
  ⟨reversible_of_undone hcurrent hupdate, undone_of_reversible hcurrent hupdate⟩

end Undo

/-! ### Over whole runs -/

/-- Caregivers' facts stay such as a request may give. -/
theorem keptByEdits_submittable
    (h : ∀ date, ∀ caregiver ∈ (service.scenarioFactory date).caregivers, Submittable caregiver) :
    KeptByEdits service fun caregivers => ∀ caregiver ∈ caregivers, Submittable caregiver where
  seed := h
  edit := by
    intro profile edit locations caregivers _ _ hedit c hc
    obtain ⟨caregiverEdit, -, _, _, -, -, rfl⟩ := exists_of_forall₂ (FamilyService.editCaregivers_eq_ok.mp hedit) hc
    exact ⟨caregiverEdit.isLabel_name, ⟨_, rfl, caregiverEdit.isLabel_relationship⟩, caregiverEdit.max_length,
      caregiverEdit.coherent_windows⟩

/-- **What closes the way back in a run**: where seeds are in order, it is only that nobody is left at a place other
than the family home, or that the edited schedule starts on no date. -/
theorem reversible_iff_of_reachable (hseeds : ∀ date, SeedFacts (service.scenarioFactory date))
    (hsubmittable : ∀ date, ∀ caregiver ∈ (service.scenarioFactory date).caregivers, Submittable caregiver)
    {cfg : Config Unit FamilyProfile FamilyFailure (DateAnswer Date) FamilyResult}
    (h : Reachable anyDate (IsCall service) cfg) (hp : profile ∈ cfg.saved) :
    Reversible service profile edit ↔ ∃ date, service.careDate edit.requiredCareSchedule.start = .ok date ∧
      ∀ caregiver ∈ profile.caregivers, caregiver.locationId ∈ edit.caregivers.map (·.locationId) ∨
        FamilyService.locationOf caregiver = FamilyService.familyHome (service.scenarioFactory date) := by
  have hdetermined := (keptByEdits_determined hseeds).forall_saved h profile hp
  obtain ⟨date, hperm⟩ := (keptByEdits_caregiverIds hseeds).forall_saved h profile hp
  constructor
  · rintro ⟨-, -, date, hdate, hknown⟩
    refine ⟨date, hdate, fun c hc => ?_⟩
    have hc := hknown c hc
    split at hc
    next hmem => exact Or.inl hmem
    next => exact Or.inr hc
  · rintro ⟨date', hdate, hknown⟩
    refine ⟨(keptByEdits_submittable hsubmittable).forall_saved h profile hp,
      hperm.nodup_iff.mpr (hseeds date).nodup_caregiverIds, date', hdate, fun c hc => ?_⟩
    split
    next => exact hdetermined.placeOf_eq hc
    next hmem => exact (hknown c hc).resolve_left hmem

/-! ### The grandmother moves -/

theorem isLabel_grandma : IsLabel "grandma" where
  min_length := by decide
  max_length := by decide
  not_blank := by decide

theorem isLabel_grandmother : IsLabel "grandmother" where
  min_length := by decide
  max_length := by decide
  not_blank := by decide

/-- The grandmother is to look after the child at a place, and is trusted or not. -/
def grandmaEdited (expectedVersion : ℕ) (locationId : String) (isTrusted : Bool) : FamilyUpdate where
  expectedVersion
  caregivers :=
    [{ caregiverId := "grandma"
       name := "grandma"
       relationship := "grandmother"
       availability := [minutes 0 60]
       canTransportChild := true
       locationId
       isTrusted
       isLabel_name := isLabel_grandma
       isLabel_relationship := isLabel_grandmother
       max_length := Nat.le_of_ble_eq_true rfl
       coherent_windows := .singleton _ }]
  requiredCareSchedule := minutes 0 120

/-- The profile that has been seeded for the grandmother. -/
def grandmaProfile : FamilyProfile := seedProfile [grandmaAt (minutes 0 60) []]

/-- The grandmother at home, not trusted any more. -/
def grandmaDistrusted : FamilyProfile :=
  { grandmaProfile with version := 2, caregivers := [{ grandmaAt (minutes 0 60) [] with isTrusted := false }] }

/-- The grandmother at the family's home. -/
def grandmaMovedIn : FamilyProfile :=
  { grandmaProfile with
    version := 2
    caregivers := [{ sitter "grandma" [minutes 0 60] with
      relationship := some "grandmother"
      canTransportChild := true }] }

theorem ends_distrust : ((familyOf [grandmaAt (minutes 0 60) []]).update (grandmaEdited 1 "grandma_home" false)).Ends
    anyDate [grandmaProfile] [grandmaDistrusted, grandmaProfile] (.ok grandmaDistrusted) :=
  (ends_update rfl).mpr ⟨rfl, _, _, rfl, rfl, rfl, rfl, rfl⟩

theorem ends_moveIn : ((familyOf [grandmaAt (minutes 0 60) []]).update (grandmaEdited 1 "family_home" true)).Ends
    anyDate [grandmaProfile] [grandmaMovedIn, grandmaProfile] (.ok grandmaMovedIn) :=
  (ends_update rfl).mpr ⟨rfl, _, _, rfl, rfl, rfl, rfl, rfl⟩

theorem submittable_grandma {caregiver : Caregiver} (h : caregiver ∈ grandmaProfile.caregivers) :
    Submittable caregiver := by
  obtain rfl := List.mem_singleton.mp h
  exact ⟨isLabel_grandma, ⟨_, rfl, isLabel_grandmother⟩, Nat.le_of_ble_eq_true rfl, .singleton _⟩

/-- She is trusted again, since she has stayed at her home. -/
theorem undone_iff_reversible_distrust :
    Undone (familyOf [grandmaAt (minutes 0 60) []]) grandmaProfile grandmaDistrusted
      [grandmaDistrusted, grandmaProfile] := by
  refine (undone_iff_reversible rfl ends_distrust).mpr
    ⟨fun _ => submittable_grandma, List.nodup_singleton _, (), rfl, fun caregiver hc => ?_⟩
  obtain rfl := List.mem_singleton.mp hc
  decide +kernel

/-- **She cannot move back**: nobody is left at her home, so that the way there is not known any more. -/
theorem not_undone_moveIn :
    Reachable anyDate (IsCall (familyOf [grandmaAt (minutes 0 60) []])) (seeded [grandmaAt (minutes 0 60) []]) ∧
      (seeded [grandmaAt (minutes 0 60) []]).saved = [grandmaProfile] ∧
      ((familyOf [grandmaAt (minutes 0 60) []]).update (grandmaEdited 1 "family_home" true)).Ends anyDate
        [grandmaProfile] [grandmaMovedIn, grandmaProfile] (.ok grandmaMovedIn) ∧
      Undoes grandmaProfile grandmaMovedIn (grandmaEdited 2 "grandma_home" true) ∧
      ((familyOf [grandmaAt (minutes 0 60) []]).update (grandmaEdited 2 "grandma_home" true)).Ends anyDate
        [grandmaMovedIn, grandmaProfile] [grandmaMovedIn, grandmaProfile]
        (.error (.valueError "Choose a known location with established travel facts.")) ∧
      ¬ Undone (familyOf [grandmaAt (minutes 0 60) []]) grandmaProfile grandmaMovedIn
        [grandmaMovedIn, grandmaProfile] := by
  refine ⟨reachable_seeded _, rfl, ends_moveIn, ?_, ⟨rfl, rfl⟩, ?_⟩
  · exact ⟨rfl, .cons ⟨rfl, rfl, rfl, rfl, rfl, rfl, rfl⟩ .nil, rfl⟩
  intro hundone
  obtain ⟨⟨⟩, -, hknown⟩ := (reversible_of_undone rfl ends_moveIn hundone).known
  exact absurd (hknown _ (List.mem_singleton_self _)) (by decide +kernel)

end DayMend.Runs
