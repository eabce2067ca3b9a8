import DayMend.Application.FamilyService
import DayMend.Base.Optimistic

/-!
# Edits of the family profile

An edit of the profile names the version that the client has seen, but the service applies
it to what it reads itself, and reads more than once. That no edit overwrites another is
due to the versions: what the edit is applied to has the named version or a later one, and
if it is a later one the save conflicts (`Traced.current_of_shown`). So every edit changes
its own section of the profile that it replaces, and nothing else (`familyEdits_kept`).
-/

namespace DayMend.Runs

open DayMend.Base DayMend.Models DayMend.Fixtures DayMend.Repositories DayMend.Application

/-! ### Sections -/

/-- What one kind of edit is about. -/
inductive ProfileSection where
  /-- The caregivers and the care schedule. -/
  | care
  /-- The four preferences. -/
  | preferences
  /-- The four terms of the policy, and the notification mode. -/
  | policy

/-- The new profile differs from the old one in nothing but the section and the version. -/
def ProfileSection.ChangesOnly : ProfileSection → FamilyProfile → FamilyProfile → Prop
  | .care, old, new =>
    new = { old with
      version := new.version
      caregivers := new.caregivers
      requiredCareSchedule := new.requiredCareSchedule }
  | .preferences, old, new =>
    new = { old with
      version := new.version
      preferences := { old.preferences with
        preferTrustedCaregivers := new.preferences.preferTrustedCaregivers
        preferInHomeCare := new.preferences.preferInHomeCare
        preferFewerHandoffs := new.preferences.preferFewerHandoffs
        protectCriticalMeetings := new.preferences.protectCriticalMeetings } }
  | .policy, old, new =>
    new = { old with
      version := new.version
      notificationMode := new.notificationMode
      policy := { old.policy with
        automaticSpendLimit := new.policy.automaticSpendLimit
        requireApprovalForUnfamiliarPaidCaregiver := new.policy.requireApprovalForUnfamiliarPaidCaregiver
        allowExternalBackupProviders := new.policy.allowExternalBackupProviders
        allowProviderTransport := new.policy.allowProviderTransport } }

/-- The section of an edit, and the version that it expects. -/
def edit? : FamilyRequest → Option (ProfileSection × ℕ)
  | .get => none
  | .locations => none
  | .update edit => some (.care, edit.expectedVersion)
  | .updatePreferences edit => some (.preferences, edit.expectedVersion)
  | .updatePolicy edit => some (.policy, edit.expectedVersion)
  | .resetDemo => none

variable {Date : Type} {service : FamilyService Date} {request : FamilyRequest}

/-! ### What a call does by itself -/

variable (service request) in
/-- What a call may save: a seed where there is none, a seed if it is a reset, and if it is an edit a profile that it
has been shown with a change to the section. -/
def SaveAllowed (earlier : List (Event Unit FamilyProfile (DateAnswer Date))) :
    Event Unit FamilyProfile (DateAnswer Date) → Prop
  | .saved c none => ∃ date, c = FamilyService.seed (service.scenarioFactory date)
  | .saved c (some v) =>
    (request = .resetDemo ∧ ∃ date, c = FamilyService.seed (service.scenarioFactory date)) ∨
      ∃ profileSection p, edit? request = some (profileSection, v) ∧ Shown earlier p ∧ profileSection.ChangesOnly p c
  | _ => True

/-- The world may say any date. -/
abbrev anyDate (q : Unit) (_ : DateAnswer Date q) : Prop := True

section Calls

variable {events : List (Event Unit FamilyProfile (DateAnswer Date))}

theorem obeys_demoDate :
    (FamilyService.demoDate : FamilyProgram Date Date).Obeys anyDate (SaveAllowed service request) events
      fun later _ => events ⊆ later := by
  rintro (message | date) _
  · exact ⟨trivial, trivial⟩
  · exact ⟨trivial, List.subset_cons_self ..⟩

/-- Where there is no profile, the service is shown the seed or what has been seeded. -/
theorem obeys_seedFirst :
    service.seedFirst.Obeys anyDate (SaveAllowed service request) events
      fun later p => events ⊆ later ∧ Shown later p := by
  rw [FamilyService.seedFirst, Prog.obeys_bind]
  refine Prog.Obeys.mono (fun later date hsub => ?_) obeys_demoDate
  have hnext : ∀ ev, events ⊆ ev :: later := fun ev => List.Subset.trans hsub (List.subset_cons_self ..)
  refine ⟨⟨⟨date, rfl⟩, hnext _, shown_cons rfl⟩, trivial, ?_⟩
  rintro (_ | p) _
  · exact ⟨trivial, trivial⟩
  · exact ⟨trivial, List.Subset.trans (hnext _) (List.subset_cons_self ..), shown_cons rfl⟩

/-- The profile that the service gets has been shown to it. -/
theorem obeys_get :
    service.get.Obeys anyDate (SaveAllowed service request) events fun later p => events ⊆ later ∧ Shown later p := by
  rintro (_ | p) _
  · refine ⟨trivial, Prog.Obeys.mono (fun later p h => ?_) obeys_seedFirst⟩
    exact ⟨List.Subset.trans (List.subset_cons_self ..) h.1, h.2⟩
  · exact ⟨trivial, List.subset_cons_self .., shown_cons rfl⟩

theorem obeys_locations :
    service.locations.Obeys anyDate (SaveAllowed service request) events fun later _ => events ⊆ later := by
  rw [FamilyService.locations, Prog.obeys_bind]
  refine Prog.Obeys.mono (fun later p h => ?_) obeys_get
  rw [Prog.obeys_bind, Prog.obeys_ofExcept]
  exact fun _ _ => h.1

/-- A save that goes well has been made, and its result is what it stores. -/
theorem obeys_saveProfile {c : FamilyProfile} {v : ℕ}
    (h : SaveAllowed service request events (.saved c (some v))) :
    (FamilyService.saveProfile c (some v)).Obeys anyDate (SaveAllowed service request) events
      fun later p => .saved c (some v) ∈ later ∧ p = stored c (some v) :=
  ⟨⟨h, List.mem_cons_self .., rfl⟩, trivial, trivial⟩

/-- An edit that returns has saved the profile that it returns. -/
def Returned (request : FamilyRequest) (events : List (Event Unit FamilyProfile (DateAnswer Date)))
    (result : FamilyResult) : Prop :=
  ∀ profileSection v, edit? request = some (profileSection, v) →
    ∃ c, .saved c (some v) ∈ events ∧ result = .profile (stored c (some v))

/-- An edit saves a profile that it has been shown, with a change to its section. -/
theorem obeys_edit {profileSection : ProfileSection} {v : ℕ} (hedit : edit? request = some (profileSection, v))
    {p c : FamilyProfile} (hshown : Shown events p) (hchanges : profileSection.ChangesOnly p c) :
    (FamilyService.saveProfile c (some v) >>= fun p => .ret (.profile p)).Obeys anyDate
      (SaveAllowed service request) events (Returned request) := by
  rw [Prog.obeys_bind]
  refine Prog.Obeys.mono (fun later p h => ?_) (obeys_saveProfile (Or.inr ⟨_, p, hedit, hshown, hchanges⟩))
  intro profileSection' v' hedit'
  obtain ⟨rfl, rfl⟩ := Prod.mk.inj (Option.some.inj (hedit.symm.trans hedit'))
  exact ⟨c, h.1, congrArg _ h.2⟩

/-- **A call** saves what it may save. -/
theorem obeys_call (request : FamilyRequest) :
    (service.call request).Obeys anyDate (SaveAllowed service request) [] (Returned request) := by
  cases request with
  | get =>
    rw [FamilyService.call, Prog.obeys_bind]
    exact Prog.Obeys.mono (fun _ _ _ => nofun) obeys_get
  | locations =>
    rw [FamilyService.call, Prog.obeys_bind]
    exact Prog.Obeys.mono (fun _ _ _ => nofun) obeys_locations
  | update edit =>
    rw [FamilyService.call, FamilyService.update, Prog.obeys_bind, Prog.obeys_bind]
    refine Prog.Obeys.mono (fun later p h => ?_) obeys_get
    rw [Prog.obeys_bind, Prog.obeys_ofExcept]
    intro _ _
    rw [Prog.obeys_bind]
    refine Prog.Obeys.mono (fun last locations hlast => ?_) obeys_locations
    rw [Prog.obeys_bind, Prog.obeys_ofExcept]
    intro caregivers _
    rw [← Prog.obeys_bind]
    have hedit : edit? (.update edit) = some (.care, edit.expectedVersion) := rfl
    exact obeys_edit hedit (h.2.mono hlast) rfl
  | updatePreferences edit =>
    rw [FamilyService.call, FamilyService.updatePreferences, Prog.obeys_bind, Prog.obeys_bind]
    refine Prog.Obeys.mono (fun later p h => ?_) obeys_get
    rw [← Prog.obeys_bind]
    have hedit : edit? (.updatePreferences edit) = some (.preferences, edit.expectedVersion) := rfl
    exact obeys_edit hedit h.2 rfl
  | updatePolicy edit =>
    rw [FamilyService.call, FamilyService.updatePolicy, Prog.obeys_bind, Prog.obeys_bind]
    refine Prog.Obeys.mono (fun later p h => ?_) obeys_get
    rw [← Prog.obeys_bind]
    have hedit : edit? (.updatePolicy edit) = some (.policy, edit.expectedVersion) := rfl
    exact obeys_edit hedit h.2 rfl
  | resetDemo =>
    rw [FamilyService.call, Prog.obeys_bind, FamilyService.resetDemo]
    intro current _
    refine ⟨trivial, ?_⟩
    rw [Prog.obeys_bind]
    refine Prog.Obeys.mono (fun later date _ => ?_) obeys_demoDate
    cases current with
    | none => exact ⟨⟨⟨date, rfl⟩, nofun⟩, trivial, trivial⟩
    | some p => exact ⟨⟨Or.inl ⟨rfl, date, rfl⟩, nofun⟩, trivial, trivial⟩

end Calls

/-! ### The store -/

/-- What is saved can be seeded: a first save is of a profile without a version. -/
theorem accesses_saveProfile {c : FamilyProfile} {e : Option ℕ} (h : e = none → c.version = 0) :
    (FamilyService.saveProfile c e : FamilyProgram Date FamilyProfile).Accesses SeedsFirst := by
  refine ⟨fun he => h (Option.map_eq_none_iff.mp he), ?_⟩
  rintro (_ | p) <;> trivial

theorem accesses_demoDate : (FamilyService.demoDate : FamilyProgram Date Date).Accesses SeedsFirst := by
  rintro (message | date) <;> trivial

theorem accesses_get : service.get.Accesses SeedsFirst := by
  refine ⟨trivial, ?_⟩
  rintro (_ | p)
  · refine accesses_demoDate.bind fun date => ⟨fun _ => rfl, ?_⟩
    rintro (_ | p)
    · refine ⟨trivial, ?_⟩
      rintro (_ | p) <;> trivial
    · trivial
  · trivial

theorem accesses_locations : service.locations.Accesses SeedsFirst :=
  accesses_get.bind fun _ => (Prog.accesses_ofExcept _).bind fun _ => trivial

/-- No call saves the first profile under a version. -/
theorem accesses_call (request : FamilyRequest) : (service.call request).Accesses SeedsFirst := by
  cases request with
  | get => exact accesses_get.bind fun _ => trivial
  | locations => exact accesses_locations.bind fun _ => trivial
  | update edit =>
    refine Prog.Accesses.bind (accesses_get.bind fun p => ?_) fun _ => trivial
    refine (Prog.accesses_ofExcept _).bind fun _ => accesses_locations.bind fun _ => ?_
    exact (Prog.accesses_ofExcept _).bind fun _ => accesses_saveProfile nofun
  | updatePreferences edit =>
    refine Prog.Accesses.bind (accesses_get.bind fun p => ?_) fun _ => trivial
    exact accesses_saveProfile nofun
  | updatePolicy edit =>
    refine Prog.Accesses.bind (accesses_get.bind fun p => ?_) fun _ => trivial
    exact accesses_saveProfile nofun
  | resetDemo =>
    refine Prog.Accesses.bind ⟨trivial, fun current => ?_⟩ fun _ => trivial
    exact accesses_demoDate.bind fun date => accesses_saveProfile fun _ => rfl

/-! ### Calls in a run -/

variable (service request) in
/-- What a call makes of the profile that is there, if there is one. -/
inductive Replaces : Option FamilyProfile → FamilyProfile → Prop where
  /-- Where there is none, it seeds the first version. -/
  | seed (date : Date) : Replaces none { FamilyService.seed (service.scenarioFactory date) with version := 1 }
  /-- A reset makes a seed the next version. -/
  | reset (old : FamilyProfile) (date : Date) (h : request = .resetDemo) :
      Replaces (some old) { FamilyService.seed (service.scenarioFactory date) with version := old.version + 1 }
  /-- An edit that expects the version changes its section, and makes the next version. -/
  | edit {profileSection : ProfileSection} {old new : FamilyProfile}
      (h : edit? request = some (profileSection, old.version)) (hversion : new.version = old.version + 1)
      (hchanges : profileSection.ChangesOnly old new) : Replaces (some old) new

/-- If the newest event is the first one of an edit, the version that the edit expects has been shown before. -/
def ExpectsShownAt (requests : List FamilyRequest) : Trace Unit FamilyProfile (DateAnswer Date) → Prop
  | [] => True
  | (i, _) :: start => own i start = [] →
    ∀ edit ∈ requests[i]?.bind edit?, ∃ e ∈ start, e.2.shown?.map FamilyProfile.version = some edit.2

instance (requests : List FamilyRequest) :
    (trace : Trace Unit FamilyProfile (DateAnswer Date)) → Decidable (ExpectsShownAt requests trace)
  | [] => .isTrue trivial
  | (i, _) :: start => inferInstanceAs (Decidable (own i start = [] →
    ∀ edit ∈ requests[i]?.bind edit?, ∃ e ∈ start, e.2.shown?.map FamilyProfile.version = some edit.2))

/-- Every edit expects a version that somebody has been shown before the edit takes its first step. -/
def ExpectsShown (requests : List FamilyRequest) (trace : Trace Unit FamilyProfile (DateAnswer Date)) : Prop :=
  ∀ earlier, earlier <:+ trace → ExpectsShownAt requests earlier

instance (requests : List FamilyRequest) (trace : Trace Unit FamilyProfile (DateAnswer Date)) :
    Decidable (ExpectsShown requests trace) :=
  decidable_of_iff (∀ earlier ∈ trace.tails, ExpectsShownAt requests earlier) (by simp [ExpectsShown])

theorem ProfileSection.ChangesOnly.stored {profileSection : ProfileSection} {p c : FamilyProfile} {e : Option ℕ}
    (h : profileSection.ChangesOnly p c) : profileSection.ChangesOnly p (stored c e) := by
  cases profileSection with
  | care => exact congrArg (setVersion (e.getD c.version + 1)) h
  | preferences => exact congrArg (setVersion (e.getD c.version + 1)) h
  | policy => exact congrArg (setVersion (e.getD c.version + 1)) h

section Runs

variable (service) in
/-- A call of the service. -/
def IsCall (p : FamilyProgram Date FamilyResult) : Prop := ∃ request, p = service.call request

variable {requests : List FamilyRequest} {trace before : Trace Unit FamilyProfile (DateAnswer Date)}
  {cfg : Config Unit FamilyProfile FamilyFailure (DateAnswer Date) FamilyResult} {i : ℕ} {c : FamilyProfile}
  {e : Option ℕ}

/-- **What every save replaces**, in a run on the store. -/
theorem replaces_of_saved (h : Traced anyDate (IsCall service) (requests.map service.call) trace cfg)
    (hexpects : ExpectsShown requests trace) (hrequest : requests[i]? = some request)
    (hsaved : (i, .saved c e) :: before <:+ trace) :
    Replaces service request (current (logOf before) ()) (stored c e) := by
  have hstart : (requests.map service.call)[i]? = some (service.call request) := by
    rw [List.getElem?_map, hrequest]
    rfl
  have hown : Event.saved c e :: own i before <:+ own i trace := by
    rw [← own_cons_self]
    exact own_suffix i hsaved
  have hallowed := (h.keeps hstart (obeys_call request)).1.of_suffix hown
  have haccepts : (current (logOf before) ()).map version = e := h.agrees hsaved
  have hbefore : before <:+ trace := (List.suffix_cons ..).trans hsaved
  cases e with
  | none =>
    obtain ⟨date, rfl⟩ := hallowed
    rw [Option.map_eq_none_iff.mp haccepts]
    exact .seed date
  | some v =>
    obtain ⟨old, hold, rfl⟩ := Option.map_eq_some_iff.mp haccepts
    rw [hold]
    rcases hallowed with ⟨rfl, date, rfl⟩ | ⟨profileSection, p, hedit, ⟨ev, hev, hp⟩, hchanges⟩
    · exact .reset old date rfl
    · -- the version was known when the call came, so what it was shown since is what it replaces
      obtain ⟨first, start, hfirst, hcame⟩ := exists_start (List.ne_nil_of_mem hev)
      have hstart : start <:+ before := (List.suffix_cons ..).trans hfirst
      obtain ⟨earlier, hshown, hle⟩ := exists_suffix_of_mem_own hev hstart hcame
      have hexpected : (profileSection, version old) ∈ requests[i]?.bind edit? := by
        rw [hrequest]
        exact hedit
      obtain ⟨known, hmem, hknown⟩ := hexpects _ (hfirst.trans hbefore) hcame _ hexpected
      obtain ⟨q, hq, hversion⟩ := Option.map_eq_some_iff.mp hknown
      obtain ⟨_, _, -, ht⟩ := h.of_suffix (hstart.trans hbefore)
      have hp := h.current_of_shown hsaved hshown hp rfl hle ⟨q, ht.mem_logOf_of_shown hmem hq, rfl, hversion⟩
      obtain rfl : old = p := Option.some.inj (hold.symm.trans hp)
      exact .edit hedit rfl hchanges.stored

/-- An edit that has returned has saved what it returns. -/
theorem exists_saved_of_ret (h : Traced anyDate (IsCall service) (requests.map service.call) trace cfg)
    (hrequest : requests[i]? = some request) {profileSection : ProfileSection} {v : ℕ}
    (hedit : edit? request = some (profileSection, v)) {result : FamilyResult}
    (hret : cfg.threads[i]? = some (.ret result)) :
    ∃ c before, (i, .saved c (some v)) :: before <:+ trace ∧ result = .profile (stored c (some v)) := by
  have hstart : (requests.map service.call)[i]? = some (service.call request) := by
    rw [List.getElem?_map, hrequest]
    rfl
  obtain ⟨c, hmem, hresult⟩ := h.post_of_ret hstart (obeys_call request) hret profileSection v hedit
  obtain ⟨before, hsaved, -⟩ := exists_suffix_of_mem_own hmem (List.nil_suffix) rfl
  exact ⟨c, before, hsaved, hresult⟩

/-- **No edit of the profile overwrites another**: in every run on either repository, in which every edit expects a
version that has been read before, every save replaces the profile that is there as its call may: a seed replaces none,
an edit changes its own section of it, and the version goes up by one. Every edit that returns has made such a save,
and the repository holds what has been saved last. -/
theorem familyEdits_kept {S : Type} {r : Repository Unit FamilyProfile FamilyReply S} {s₀ s : S}
    {keeps : FamilyProfile → Prop} {ps : List (FamilyProgram Date FamilyResult)} (hr : IsFamilyRepository r s₀ keeps)
    (hrun : r.RunOn anyDate (IsCall service) s₀ (requests.map service.call) trace s ps)
    (hkeeps : ∀ e ∈ trace, ∀ access, e.2.access? = some access → Keepable keeps access)
    (hexpects : ExpectsShown requests trace) :
    (∀ i request, requests[i]? = some request → ∀ c e before, (i, .saved c e) :: before <:+ trace →
      Replaces service request (current (logOf before) ()) (stored c e)) ∧
    (∀ i request profileSection v result, requests[i]? = some request → edit? request = some (profileSection, v) →
      ps[i]? = some (.ret result) →
        ∃ c before, (i, .saved c (some v)) :: before <:+ trace ∧ result = .profile (stored c (some v))) ∧
    r.observe (r.call s (.get ())).2 = (current (logOf trace) ()).elim (.error (some .notFound)) .ok := by
  obtain ⟨fits, Abs, himplements, hnil, hfits⟩ := isFamilyRepository_implements hr
  have hown : ∀ p, IsCall service p → p.Accesses SeedsFirst := by
    rintro _ ⟨request, rfl⟩
    exact accesses_call request
  obtain ⟨htraced, habs, -⟩ := hrun.traced himplements hnil hown hkeeps hfits
  refine ⟨?_, ?_, ?_⟩
  · intro i request hrequest c e before hsaved
    exact replaces_of_saved htraced hexpects hrequest hsaved
  · intro i request profileSection v result hrequest hedit hret
    exact exists_saved_of_ret htraced hrequest hedit hret
  · rw [himplements.observe_eq _ _ _ habs (hfits (.get ()) trivial trivial), answerOf]
    cases current (logOf trace) () <;> rfl

end Runs

/-! ### A small history -/

/-- A family with a nanny, and a calendar with one day. -/
def nannyFamily : FamilyService Unit where
  scenarioFactory _ := day (minutes 480 960) [sitter "nanny" [minutes 480 960]]
  careDate _ := .ok ()

theorem isLabel_nanny : IsLabel "nanny" where
  min_length := by decide
  max_length := by decide
  not_blank := by decide

/-- The nanny is no longer trusted. -/
def distrustNanny (expectedVersion : ℕ) : FamilyUpdate where
  expectedVersion
  caregivers :=
    [{ caregiverId := "nanny"
       name := "nanny"
       relationship := "nanny"
       availability := []
       canTransportChild := false
       locationId := "family_home"
       isTrusted := false
       isLabel_name := isLabel_nanny
       isLabel_relationship := isLabel_nanny
       max_length := Nat.zero_le _
       coherent_windows := .nil }]
  requiredCareSchedule := minutes 480 600

/-- Care is to be at home. -/
def careAtHome (expectedVersion : ℕ) : PreferencesUpdate :=
  { expectedVersion
    preferTrustedCaregivers := false
    preferInHomeCare := true
    minimizeHandoffs := false
    protectCriticalMeetings := false }

/-- Two clients seed the profile at once. Both then edit version 1, and one of them the version that it gets; another
edit has read the profile when it is reset. -/
def sharedRequests : List FamilyRequest :=
  [.get, .get, .update (distrustNanny 1), .updatePreferences (careAtHome 1), .updatePreferences (careAtHome 2),
    .updatePreferences (careAtHome 3), .resetDemo]

/-- The order of their steps. -/
def sharedTurns : List (Turn Unit FamilyProfile FamilyFailure (DateAnswer Unit) FamilyResult) :=
  sharedRequests.map (fun request => .spawn (nannyFamily.call request)) ++
    [(0, 1), (1, 1), (0, 2), (1, 3), (3, 1), (2, 4), (3, 4), (4, 4), (5, 1), (6, 4), (5, 4)].map fun turn =>
      .steps turn.1 turn.2 fun _ => .ok ()

/-- It is a run on the repository in memory. -/
theorem exists_runOn_sharedTurns :
    ∃ s, inMemoryFamily.RunOn anyDate (IsCall nannyFamily) none (sharedRequests.map nannyFamily.call)
      (Run.of sharedTurns).trace s (Run.of sharedTurns).cfg.threads := by
  have hallowed : ∀ t ∈ sharedTurns, t.Allowed anyDate (IsCall nannyFamily) := by
    intro t ht
    rcases List.mem_append.mp ht with ht | ht
    · obtain ⟨request, -, rfl⟩ := List.mem_map.mp ht
      exact ⟨request, rfl⟩
    · obtain ⟨turn, -, rfl⟩ := List.mem_map.mp ht
      exact fun _ => trivial
  have hfits : ∀ e ∈ (Run.of sharedTurns).trace, ∀ access ∈ e.2.access?, SeedsFirst access := by decide +kernel
  obtain ⟨s, hrun, -⟩ := (traced_run hallowed).runOn inMemoryFamily_implements rfl hfits
  exact ⟨s, hrun⟩

/-- The seed of the first client, two edits and the reset are kept; the other edits conflict. -/
theorem familyEdits_kept_sharedTurns :
    (current (logOf (Run.of sharedTurns).trace) ()).map version = some 4 ∧
    ∃ s,
      (∀ i request, sharedRequests[i]? = some request →
        ∀ c e before, (i, .saved c e) :: before <:+ (Run.of sharedTurns).trace →
          Replaces nannyFamily request (current (logOf before) ()) (stored c e)) ∧
      (∀ i request profileSection v result, sharedRequests[i]? = some request →
        edit? request = some (profileSection, v) → (Run.of sharedTurns).cfg.threads[i]? = some (.ret result) →
          ∃ c before, (i, .saved c (some v)) :: before <:+ (Run.of sharedTurns).trace ∧
            result = .profile (stored c (some v))) ∧
      inMemoryFamily.observe (inMemoryFamily.call s (.get ())).2 =
        (current (logOf (Run.of sharedTurns).trace) ()).elim (.error (some .notFound)) .ok := by
  obtain ⟨s, hrun⟩ := exists_runOn_sharedTurns
  refine ⟨by decide +kernel, s, familyEdits_kept .inMemory hrun ?_ (by decide +kernel)⟩
  intro e _ access _
  cases access <;> trivial

end DayMend.Runs
