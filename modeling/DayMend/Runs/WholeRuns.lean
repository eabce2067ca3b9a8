import DayMend.Application.WholeService
import DayMend.Runs.FamilyDays
import DayMend.Runs.GroundedRuns

/-!
# Runs of the whole service

Recoveries are started, declined and approved while the family edits its profile. On its
own repository each of the two services does what it does alone: **every run of the whole
is, on the profiles, a run of the family service** (`exists_familyRun`) **and, on the cases,
a run of the recovery service** (`exists_recoveryRun`), whose recoveries are started on days
that stored profiles describe. There a thread of the whole is a thread of the service, or
nothing yet, and returns what that returns. So what has been proved of either holds of the
whole.
-/

namespace DayMend.Runs

open DayMend.Base DayMend.Models DayMend.Fixtures DayMend.Services DayMend.Agent DayMend.Application
open DayMend.Validation

variable {Date Q : Type} {A : Q → Type} {family : FamilyService Date} {gateway : PlanningGateway A}
  {asked : (question : Q) → A question → Prop} {valueErrorText : ReasoningFailure → Option String}
  {scenarioFactory : DemoScenario} {saved : List (FamilyProfile ⊕ RecoveryCase)}
  {p : Whole Date A (RecoveryCase ⊕ FamilyResult)}

/-- The world of the whole service. -/
def wholeEnv (asked : (question : Q) → A question → Prop) :
    (question : Unit ⊕ (Query ⊕ Q)) → WholeAnswer Date A question → Prop
  | .inl question, answer => anyDate question answer
  | .inr question, answer => deployedEnv asked question answer

theorem onlyAsks_askForFamily (question : Unit) : (askForFamily question : Whole Date A _).OnlyAsks := fun _ => trivial

theorem onlyAsks_askForRecovery (question : Query ⊕ Q) : (askForRecovery question : Whole Date A _).OnlyAsks :=
  fun _ => trivial

theorem of_askForFamily (question : Unit) (answer : DateAnswer Date question)
    (h : (askForFamily question : Whole Date A _).Outcome (wholeEnv asked) (.ok answer)) : anyDate question answer := by
  obtain ⟨_, hanswer, heq⟩ := h
  obtain rfl := Except.ok.inj heq
  exact hanswer

theorem of_askForRecovery (question : Query ⊕ Q) (answer : DeployedAnswer A question)
    (h : (askForRecovery question : Whole Date A _).Outcome (wholeEnv asked) (.ok answer)) :
    deployedEnv asked question answer := by
  obtain ⟨_, hanswer, heq⟩ := h
  obtain rfl := Except.ok.inj heq
  exact hanswer

theorem cases_apart : cases.Apart profiles := by rintro _ _ ⟨⟩

theorem profiles_apart : profiles.Apart cases := by rintro _ _ ⟨⟩

/-! ### Seen from the cases -/

/-- A day that one of the profiles describes. -/
def DayOf (family : FamilyService Date) (stored : List FamilyProfile) (scenario : DemoScenario) : Prop :=
  ∃ profile ∈ stored, family.scenario profile = .ok scenario

/-- `get` returns what has been stored. -/
theorem yields_get (stored : List FamilyProfile) : family.get.Yields anyDate stored (· ∈ stored) := by
  rintro (_ | profile) hstored
  · rintro (message | date) -
    · trivial
    · refine ⟨id, ?_⟩
      rintro (_ | profile) hstored
      · trivial
      · exact hstored profile rfl
  · exact hstored profile rfl

theorem imitates_recoveryRequest {own : Deployed A RecoveryCase} :
    cases.Imitates (wholeEnv asked) (deployedEnv asked) saved Sum.getLeft?
      (recoveryRequest own : Whole Date A (RecoveryCase ⊕ FamilyResult)) own :=
  Part.imitates_own onlyAsks_askForRecovery of_askForRecovery fun _ => rfl

/-- **A request becomes one of the recovery service**, with the day of a stored profile, or none. -/
theorem becomes_recovery (h : WholeRequest family gateway valueErrorText scenarioFactory p) :
    cases.Becomes (wholeEnv asked) (deployedEnv asked) saved Sum.getLeft?
      (gateway.RequestOn valueErrorText scenarioFactory (DayOf family (profiles.of saved))) p := by
  cases h with
  | start command =>
    refine Part.becomes_onPart_of_apart cases_apart onlyAsks_askForFamily of_askForFamily (yields_get _)
      fun profile hprofile => ?_
    cases hscenario : family.scenario profile with
    | error e => exact .raise
    | ok scenario => exact .request (.start scenario command ⟨profile, hprofile, hscenario⟩) imitates_recoveryRequest
  | event caseId command => exact .request (.event caseId command) imitates_recoveryRequest
  | decide caseId approvalId command => exact .request (.decide caseId approvalId command) imitates_recoveryRequest
  | family request =>
    exact Part.becomes_onPart_of_apart cases_apart onlyAsks_askForFamily of_askForFamily
      (Prog.Yields.of_forall fun _ => trivial) fun result _ => .ret rfl

/-! ### Seen from the profiles -/

/-- **A request becomes a call of the family service**, or none. -/
theorem becomes_call (h : WholeRequest family gateway valueErrorText scenarioFactory p) :
    profiles.Becomes (wholeEnv asked) anyDate saved Sum.getRight? (IsCall family) p := by
  have hrecovery : ∀ own : Deployed A RecoveryCase, profiles.Becomes (wholeEnv asked) anyDate saved Sum.getRight?
      (IsCall family) (recoveryRequest own : Whole Date A (RecoveryCase ⊕ FamilyResult)) := fun own =>
    Part.becomes_onPart_of_apart profiles_apart onlyAsks_askForRecovery of_askForRecovery
      (Prog.Yields.of_forall fun _ => trivial) fun _ _ => .ret rfl
  cases h with
  | start command =>
    refine .request ⟨.get, rfl⟩ (Part.imitates_onPart onlyAsks_askForFamily of_askForFamily fun profile => ?_)
    cases family.scenario profile with
    | error e => trivial
    | ok scenario =>
      exact Part.imitates_onPart_of_apart profiles_apart onlyAsks_askForRecovery fun _ => by rintro _ ⟨⟩
  | event caseId command => exact hrecovery _
  | decide caseId approvalId command => exact hrecovery _
  | family request =>
    exact .request ⟨request, rfl⟩ (Part.imitates_own onlyAsks_askForFamily of_askForFamily fun _ => rfl)

/-! ### Runs -/

section Runs

variable {cfg : Config (Unit ⊕ String) (FamilyProfile ⊕ RecoveryCase) (FamilyFailure ⊕ ReasoningFailure)
    (WholeAnswer Date A) (RecoveryCase ⊕ FamilyResult)}

/-- **Every run of the whole is on the profiles a run of the family service**, whose calls return the same, thread by
thread. -/
theorem exists_familyRun
    (h : Reachable (wholeEnv asked) (WholeRequest family gateway valueErrorText scenarioFactory) cfg) :
    ∃ threads, Reachable anyDate (IsCall family) ⟨profiles.of cfg.saved, threads.reduceOption⟩ ∧
      List.Forall₂ (fun p m => ∀ result, p = .ret (.inr result) → m = some (.ret result)) cfg.threads threads := by
  obtain ⟨threads, hreachable, hshows⟩ := Part.exists_reachable (fun p hp => becomes_call hp) h fun c hc => hc
  exact ⟨threads, hreachable, hshows.imp fun p m hpm result hp => hpm.returned hp rfl⟩

/-- **Every run of the whole is on the cases a run of the recovery service**, whose requests return the same, thread by
thread, and whose recoveries are started on days of stored profiles. -/
theorem exists_recoveryRun
    (h : Reachable (wholeEnv asked) (WholeRequest family gateway valueErrorText scenarioFactory) cfg) :
    ∃ threads, Reachable (deployedEnv asked) (gateway.RequestOn valueErrorText scenarioFactory
        (DayOf family (profiles.of cfg.saved))) ⟨cases.of cfg.saved, threads.reduceOption⟩ ∧
      List.Forall₂ (fun p m => ∀ recoveryCase, p = .ret (.inl recoveryCase) → m = some (.ret recoveryCase))
        cfg.threads threads := by
  obtain ⟨threads, hreachable, hshows⟩ := Part.exists_reachable (fun p hp => becomes_recovery hp) h fun c hc => hc
  exact ⟨threads, hreachable, hshows.imp fun p m hpm recoveryCase hp => hpm.returned hp rfl⟩

/-- **The two services do not disturb each other**: every run of the whole is on each repository a run of its own
service, in which each thread of the whole is a thread or nothing yet, and returns what the thread returns; recoveries
are started on days of stored profiles. -/
theorem separate_of_whole
    (h : Reachable (wholeEnv asked) (WholeRequest family gateway valueErrorText scenarioFactory) cfg) :
    (∃ threads, Reachable anyDate (IsCall family) ⟨profiles.of cfg.saved, threads.reduceOption⟩ ∧
      List.Forall₂ (fun p m => ∀ result, p = .ret (.inr result) → m = some (.ret result)) cfg.threads threads) ∧
    ∃ threads, Reachable (deployedEnv asked) (gateway.RequestOn valueErrorText scenarioFactory
        (DayOf family (profiles.of cfg.saved))) ⟨cases.of cfg.saved, threads.reduceOption⟩ ∧
      List.Forall₂ (fun p m => ∀ recoveryCase, p = .ret (.inl recoveryCase) → m = some (.ret recoveryCase))
        cfg.threads threads :=
  ⟨exists_familyRun h, exists_recoveryRun h⟩

variable {agents : (question : AgentQuestion) → AgentAnswer question → Prop}

/-- Each stored case is grounded in the day of a profile that was stored. -/
theorem groundedIn_of_whole (hdeployed : DeployedWith agents gateway asked)
    (h : Reachable (wholeEnv asked) (WholeRequest family gateway valueErrorText scenarioFactory) cfg) :
    ∀ c ∈ cases.of cfg.saved, ∃ day, DayOf family (profiles.of cfg.saved) day ∧ GroundedIn day c := by
  obtain ⟨_, hrecovery, -⟩ := exists_recoveryRun h
  obtain ⟨_, hreachable, -⟩ := exists_reachable_of_deployedOn hdeployed hrecovery
  exact groundedIn_of_reachable hreachable

/-- **Facts stay facts of a family**: in every run of the whole, with any deployment, however the family edits its
profile in the meantime, each stored case was started on the day of a stored profile; that day's people are distinct,
and so are those of the facts that are rebuilt from the case. -/
theorem familyFacts_of_whole (hdeployed : DeployedWith agents gateway asked) (hseeds : SeedsAgree family)
    (h : Reachable (wholeEnv asked) (WholeRequest family gateway valueErrorText scenarioFactory) cfg) :
    ∀ c ∈ cases.of cfg.saved, ∃ profile ∈ profiles.of cfg.saved, ∃ day, family.scenario profile = .ok day ∧
      c.contextState.scenarioSnapshot = some day ∧ FamilyDay day ∧
        ∀ facts, scenarioFor scenarioFactory c = .ok facts → FamilyScenario facts ∧ Coherent facts := by
  intro c hc
  obtain ⟨day, ⟨profile, hprofile, hscenario⟩, hgrounded⟩ := groundedIn_of_whole hdeployed h c hc
  obtain ⟨_, hfamily, -⟩ := exists_familyRun h
  have hday := hseeds.familyDay hfamily hprofile hscenario
  refine ⟨profile, hprofile, day, hscenario, hgrounded.snapshot, hday, fun facts hfacts => ?_⟩
  obtain ⟨added, hadded, hworld⟩ := hgrounded.world hfacts
  exact ⟨hworld.familyScenario hday hadded, hworld.coherent hday.toDistinctPeople⟩

/-- **Whoever is planned with is known, at a known price**: in every run of the whole, each segment with a caregiver, of
each plan of each stored case, is given to somebody who is eligible for it by the record of the day of a stored profile;
and the record is that of a seed's caregiver, of which edits change no price and no familiarity, or of a provider whom
the search admits. -/
theorem priced_of_whole (hdeployed : DeployedWith agents gateway asked)
    (h : Reachable (wholeEnv asked) (WholeRequest family gateway valueErrorText scenarioFactory) cfg) :
    ∀ c ∈ cases.of cfg.saved, ∃ day, DayOf family (profiles.of cfg.saved) day ∧
      c.contextState.scenarioSnapshot = some day ∧
      ∀ plan ∈ allPlans c, ∀ segment ∈ plan.coverageSegments, segment.source = .caregiver →
        ∃ record, record.caregiverId = segment.assignedPersonId ∧ Eligible day record segment.window ∧
          (FromSeed family record ∨
            ∃ provider, Validation.Admitted day provider ∧ record = researchedCaregiver day.policy provider) := by
  intro c hc
  obtain ⟨day, hday, hgrounded⟩ := groundedIn_of_whole hdeployed h c hc
  refine ⟨day, hday, hgrounded.snapshot, fun plan hplan segment hs hsource => ?_⟩
  obtain ⟨added, facts, valid, hworld, hvalid, heq⟩ := hgrounded.plans plan hplan
  rw [← heq] at hs
  obtain ⟨record, hrecord, hid, heligible⟩ := hworld.eligible_of_assigned hvalid hs hsource
  refine ⟨record, hid, heligible, ?_⟩
  rcases hrecord with hrecord | hrecord
  · obtain ⟨profile, hprofile, hscenario⟩ := hday
    obtain ⟨_, hfamily, -⟩ := exists_familyRun h
    rw [FamilyService.caregivers_of_scenario hscenario] at hrecord
    exact Or.inl (described_of_reachable hfamily hprofile record hrecord).1
  · exact Or.inr hrecord

end Runs

/-! ### A recovery of the demo family, and an edit -/

/-- The demo family on a day. -/
def demo : FamilyService Unit := demoFamily (fun _ => ⟨0⟩) fun _ => .ok ()

/-- Parent A takes the child to the grandmother. -/
def toGrandma : RecoveryPlanSegment :=
  { segmentId := "to-grandma"
    window := DemoTimeline.window ⟨0⟩ 8 9 45
    assignedPersonId := "parent_a"
    source := .parent
    segmentType := .transport
    destinationLocationId := some "grandma_home"
    transporterId := some "parent_a" }

/-- The morning at her home. -/
def atGrandmas : RecoveryPlanSegment :=
  { care "at-grandmas" "grandma" .caregiver (DemoTimeline.window ⟨0⟩ 9 12) with locationId := "grandma_home" }

/-- The way home. -/
def homeFromGrandma : RecoveryPlanSegment :=
  { segmentId := "home"
    window := DemoTimeline.window ⟨0⟩ 12 12 0 15
    assignedPersonId := "grandma"
    source := .caregiver
    segmentType := .transport
    locationId := "grandma_home"
    destinationLocationId := some "family_home"
    transporterId := some "grandma" }

/-- The grandmother in the morning, the sitter in the afternoon. -/
def demoPlan : RecoveryPlan :=
  { planId := "plan-1"
    coverageSegments :=
      [care "early" "parent_a" .parent (DemoTimeline.window ⟨0⟩ 8 8 0 45), toGrandma, atGrandmas, homeFromGrandma,
        care "afternoon" "backup_sitter" .caregiver (DemoTimeline.window ⟨0⟩ 12 16 15)] }

/-- Only trusted caregivers, if possible. -/
def trustedOnly : PreferencesUpdate :=
  { expectedVersion := 1
    preferTrustedCaregivers := true
    preferInHomeCare := false
    minimizeHandoffs := true
    protectCriticalMeetings := false }

/-- Answers to the whole service. -/
def wholeAnswering (time : Instant) (id : String) (plan : RecoveryPlan) :
    (question : Unit ⊕ (Query ⊕ AgentQuestion)) → WholeAnswer Unit AgentAnswer question
  | .inl _ => .ok ()
  | .inr question => deployedAnswering time id plan question

/-- A recovery is started, and the preferences edited before it is planned; then the sitter declines. -/
def editedMeanwhile : List (Turn (Unit ⊕ String) (FamilyProfile ⊕ RecoveryCase) (FamilyFailure ⊕ ReasoningFailure)
    (WholeAnswer Unit AgentAnswer) (RecoveryCase ⊕ FamilyResult)) :=
  [.spawn (startFromProfile demo singleAgent (getDemoScenario ⟨0⟩) nannyIll),
    .steps 0 4 (wholeAnswering 1 "case" demoPlan),
    .spawn (familyRequest (demo.call (.updatePreferences trustedOnly))),
    .steps 1 10 (wholeAnswering 1 "case" demoPlan),
    .steps 0 100 (wholeAnswering 1 "case" demoPlan),
    .spawn (recoveryRequest (singleAgent.processEvent (fun _ => none) (getDemoScenario ⟨0⟩) "case"
      (declineCommand "backup_sitter" (DemoTimeline.window ⟨0⟩ 12 16 15)))),
    .steps 2 100 (wholeAnswering 2 "event" demoPlan)]

theorem wholeEnv_answering {time : Instant} {id : String} {plan : RecoveryPlan} :
    (question : Unit ⊕ (Query ⊕ AgentQuestion)) →
      wholeEnv (fun _ _ => True) question (wholeAnswering time id plan question)
  | .inl _ => trivial
  | .inr question => deployedEnv_answering question

theorem reachable_editedMeanwhile : Reachable (wholeEnv fun _ _ => True)
    (WholeRequest demo singleAgent (fun _ => none) (getDemoScenario ⟨0⟩)) (Config.run editedMeanwhile) := by
  refine reachable_run fun t ht => ?_
  simp only [editedMeanwhile, List.mem_cons, List.not_mem_nil, or_false] at ht
  rcases ht with rfl | rfl | rfl | rfl | rfl | rfl | rfl
  · exact .start nannyIll
  · exact wholeEnv_answering
  · exact .family (.updatePreferences trustedOnly)
  · exact wholeEnv_answering
  · exact wholeEnv_answering
  · exact .event "case" (declineCommand "backup_sitter" (DemoTimeline.window ⟨0⟩ 12 16 15))
  · exact wholeEnv_answering

/-- The case keeps the preferences it was started with. -/
theorem separate_of_whole_editedMeanwhile :
    ((profiles.of (Config.run editedMeanwhile).saved).map fun p => (p.version, p.preferences.preferTrustedCaregivers)) =
        [(2, true), (1, false)] ∧
      ((cases.of (Config.run editedMeanwhile).saved).map fun c => (c.version, c.status,
        c.contextState.scenarioSnapshot.map (·.preferences.preferTrustedCaregivers))) =
          [(2, .noRecoveryOption, some false), (1, .waitingForResponse, some false)] ∧
      (∃ threads, Reachable anyDate (IsCall demo)
          ⟨profiles.of (Config.run editedMeanwhile).saved, threads.reduceOption⟩ ∧
        List.Forall₂ (fun p m => ∀ result, p = .ret (.inr result) → m = some (.ret result))
          (Config.run editedMeanwhile).threads threads) ∧
      ∃ threads, Reachable (deployedEnv fun _ _ => True) (singleAgent.RequestOn (fun _ => none) (getDemoScenario ⟨0⟩)
          (DayOf demo (profiles.of (Config.run editedMeanwhile).saved)))
          ⟨cases.of (Config.run editedMeanwhile).saved, threads.reduceOption⟩ ∧
        List.Forall₂ (fun p m => ∀ recoveryCase, p = .ret (.inl recoveryCase) → m = some (.ret recoveryCase))
          (Config.run editedMeanwhile).threads threads :=
  ⟨by decide +kernel, by decide +kernel, separate_of_whole reachable_editedMeanwhile⟩

theorem familyFacts_of_whole_editedMeanwhile :
    (cases.of (Config.run editedMeanwhile).saved).length = 2 ∧
      ∀ c ∈ cases.of (Config.run editedMeanwhile).saved, ∃ profile ∈ profiles.of (Config.run editedMeanwhile).saved,
        ∃ day, demo.scenario profile = .ok day ∧ c.contextState.scenarioSnapshot = some day ∧ FamilyDay day ∧
          ∀ facts, scenarioFor (getDemoScenario ⟨0⟩) c = .ok facts → FamilyScenario facts ∧ Coherent facts :=
  ⟨by decide +kernel, familyFacts_of_whole deployedWith_singleAgent seedsAgree_demo reachable_editedMeanwhile⟩

theorem priced_of_whole_editedMeanwhile :
    ((cases.of (Config.run editedMeanwhile).saved).map fun c => (allPlans c).map fun plan =>
      (plan.coverageSegments.filter (·.source = .caregiver)).map (·.assignedPersonId)) =
        [[["grandma", "grandma", "backup_sitter"], ["grandma", "grandma", "backup_sitter"]],
          [["grandma", "grandma", "backup_sitter"]]] ∧
    ∀ c ∈ cases.of (Config.run editedMeanwhile).saved,
      ∃ day, DayOf demo (profiles.of (Config.run editedMeanwhile).saved) day ∧
        c.contextState.scenarioSnapshot = some day ∧
        ∀ plan ∈ allPlans c, ∀ segment ∈ plan.coverageSegments, segment.source = .caregiver →
          ∃ record, record.caregiverId = segment.assignedPersonId ∧ Eligible day record segment.window ∧
            (FromSeed demo record ∨
              ∃ provider, Validation.Admitted day provider ∧ record = researchedCaregiver day.policy provider) :=
  ⟨by decide +kernel, priced_of_whole deployedWith_singleAgent reachable_editedMeanwhile⟩

end DayMend.Runs
