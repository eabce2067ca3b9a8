import DayMend.Runs.Actions
import DayMend.Runs.AdapterCalls
import DayMend.Runs.Declines

/-!
# Side effects

The adapter should be called at most once for an action (`AtMostOnce`). A request carries
out what the case that it has read has not recorded, and records it with its next save;
another request that reads the case in between carries it out again
(`approvedTwice_executes_twice`). `atMostOnce_of_traced` says that this is the only way,
apart from the execution of a plan that changes one event twice: when a request calls the
adapter for a plan only after the others' calls for the plan have been recorded
(`OneAfterAnother`), nothing is carried out twice.
-/

namespace DayMend.Runs

open DayMend.Base DayMend.Models DayMend.Fixtures DayMend.Services DayMend.Agent DayMend.Application
open DayMend.Validation

variable {scenarioFactory : DemoScenario}
  {answers : AgentRuntimeRequest → Except Failure AgentRuntimeResponse → Prop} {seen : Set RecoveryCase}
  {c c' : RecoveryCase} {caseId : String}

/-- The adapter calls for a case, latest first, each with the number of the program that made it: a program calls
the adapter for the case that it has read last. -/
def adapterCalls (caseId : String) : CaseTrace → List (ℕ × ExecutionAction)
  | [] => []
  | (i, .asked (.execute action _) _) :: earlier =>
    if (lastRead (own i earlier)).map Prod.fst = some caseId then (i, action) :: adapterCalls caseId earlier
    else adapterCalls caseId earlier
  | _ :: earlier => adapterCalls caseId earlier

/-- The adapter calls for a case whose outcome has been saved. -/
def recordedCalls (caseId : String) : CaseTrace → List (ℕ × ExecutionAction)
  | [] => []
  | (i, .saved c _) :: earlier =>
    if c.caseId = caseId then
      (calledSince (own i earlier)).map (fun action => (i, action)) ++ recordedCalls caseId earlier
    else recordedCalls caseId earlier
  | _ :: earlier => recordedCalls caseId earlier

/-- The adapter has been called at most once for any action of a case. -/
def AtMostOnce (caseId : String) (trace : CaseTrace) : Prop :=
  ((adapterCalls caseId trace).map (·.2.actionId)).Nodup

/-- A program calls the adapter for a plan only if the calls that other programs have made for the same plan had
been recorded when it read the case. -/
def OneAfterAnother (caseId : String) : CaseTrace → Prop
  | [] => True
  | (i, .asked (.execute action _) _) :: earlier =>
    ((lastRead (own i earlier)).map Prod.fst = some caseId → ∀ call ∈ adapterCalls caseId earlier, call.1 ≠ i →
      call.2.planId = action.planId → call ∈ recordedCalls caseId (beforeRead i earlier)) ∧
      OneAfterAnother caseId earlier
  | _ :: earlier => OneAfterAnother caseId earlier

theorem OneAfterAnother.of_cons {e : ℕ × CaseEvent} {trace : CaseTrace} (h : OneAfterAnother caseId (e :: trace)) :
    OneAfterAnother caseId trace := by
  obtain ⟨i, ev⟩ := e
  cases ev with
  | read k r => exact h
  | saved c e => exact h
  | refused c e => exact h
  | asked q a =>
    cases q with
    | execute action now => exact h.2
    | clock => exact h
    | newId => exact h
    | invoke request => exact h

/-- The plan of a case changes no event twice. -/
def ChangesOnce (c : RecoveryCase) : Prop :=
  ∀ plan ∈ c.activeRecoveryPlan, (plan.calendarChanges.map (·.eventId)).Nodup

/-- A version of the case whose plan the adapter has been called for. -/
def CalledFor (caseId : String) (trace : CaseTrace) (c : RecoveryCase) : Prop :=
  c.caseId = caseId ∧ ∃ plan ∈ c.activeRecoveryPlan, ∃ call ∈ adapterCalls caseId trace, call.2.planId = plan.planId

instance (caseId : String) (trace : CaseTrace) : Decidable (AtMostOnce caseId trace) :=
  inferInstanceAs (Decidable (List.Nodup _))

instance : DecidablePred ChangesOnce := fun c =>
  inferInstanceAs (Decidable (∀ plan ∈ c.activeRecoveryPlan, (plan.calendarChanges.map (·.eventId)).Nodup))

instance (caseId : String) (trace : CaseTrace) : DecidablePred (CalledFor caseId trace) := fun c =>
  inferInstanceAs (Decidable (c.caseId = caseId ∧ ∃ plan ∈ c.activeRecoveryPlan,
    ∃ call ∈ adapterCalls caseId trace, call.2.planId = plan.planId))

instance decidableOneAfterAnother (caseId : String) : (trace : CaseTrace) → Decidable (OneAfterAnother caseId trace)
  | [] => .isTrue trivial
  | (_, .asked (.execute _ _) _) :: earlier =>
    have := decidableOneAfterAnother caseId earlier
    inferInstanceAs (Decidable (_ ∧ _))
  | (_, .asked .clock _) :: earlier => decidableOneAfterAnother caseId earlier
  | (_, .asked .newId _) :: earlier => decidableOneAfterAnother caseId earlier
  | (_, .asked (.invoke _) _) :: earlier => decidableOneAfterAnother caseId earlier
  | (_, .read _ _) :: earlier => decidableOneAfterAnother caseId earlier
  | (_, .saved _ _) :: earlier => decidableOneAfterAnother caseId earlier
  | (_, .refused _ _) :: earlier => decidableOneAfterAnother caseId earlier

/-! ### What a case records of its actions -/

/-- Unless the case has failed, all that has been carried out for its valid plan has succeeded. -/
def AllSucceeded (c : RecoveryCase) : Prop :=
  c.status ≠ .failed → ∀ p, c.activeRecoveryPlan = some p → p.validationState = .valid →
    ∀ a ∈ c.executionHistory, a.planId = p.planId → a.status = .succeeded

/-- What execution adds to the history is among the completed actions, and what is completed stays so. -/
theorem RanActions.mem_completed {planId : String} {existing : Dict String ExecutionAction} {now : Instant}
    {required : List ExecutionAction} {progress after : ExecutionProgress}
    (h : RanActions planId existing now required progress after) :
    (∀ a ∈ progress.completed, a ∈ after.completed) ∧
      ∀ a ∈ after.history, a ∈ progress.history ∨ a ∈ after.completed := by
  induction h with
  | nil => exact ⟨fun a ha => ha, fun a ha => Or.inl ha⟩
  | skip _ _ ih => exact ⟨fun a ha => ih.1 a (List.mem_append_left _ ha), ih.2⟩
  | run failTargets _ _ ih =>
    refine ⟨fun a ha => ih.1 a (List.mem_append_left _ ha), fun a ha => ?_⟩
    rcases ih.2 a ha with ha | ha
    · rcases List.mem_append.mp ha with ha | ha
      · exact Or.inl (List.mem_filter.mp ha).1
      · exact Or.inr (ih.1 a (List.mem_append_right _ ha))
    · exact Or.inr ha

/-- Execution records what it has called for, and nothing recorded is lost. -/
theorem RanActions.actionIds_subset {planId : String} {existing : Dict String ExecutionAction} {now : Instant}
    {required : List ExecutionAction} {progress after : ExecutionProgress}
    (h : RanActions planId existing now required progress after) :
    progress.history.map (·.actionId) ⊆ after.history.map (·.actionId) := by
  induction h with
  | nil => exact List.Subset.refl _
  | skip _ _ ih => exact ih
  | run failTargets _ _ ih => exact fun id hid => ih (recorded_record _ _ _ _ (Or.inr hid))

/-- Execution that fails makes the case fail. -/
theorem AllSucceeded.executed (h : AllSucceeded c) {plan : RecoveryPlan} {progress : ExecutionProgress} {now : Instant}
    (hcheck : checkExecution c = .ok plan)
    (hrun : RanActions plan.planId (actionDict c.executionHistory) now (requiredExecutionActions plan now)
      { history := c.executionHistory, events := withStartEvent c.events plan.planId now } progress) :
    AllSucceeded (executedCase c progress now) := by
  obtain ⟨hactive, hvalid, -, hstatus, -⟩ := checkExecution_eq_ok hcheck
  intro hs p hp _ a ha hid
  obtain rfl := Option.some.inj (hactive.symm.trans hp)
  have hall : progress.succeeded = true := by
    by_contra hfailed
    exact hs (if_neg hfailed)
  rcases hrun.mem_completed.2 a ha with hold | hcompleted
  · exact h (by simp [hstatus]) plan hactive hvalid a hold hid
  · exact of_decide_eq_true (List.all_eq_true.mp hall a hcompleted)

/-- **A step keeps it so** that what has been carried out for the valid plan has succeeded. -/
theorem AllSucceeded.step (h : AllSucceeded c) (hknown : ActionsOk c)
    (hs : CaseStep scenarioFactory answers seen c c') : AllSucceeded c' := by
  rcases hs.work_or_declined with hw | ⟨decline, plan, hd⟩
  · have hstatus : c.status ≠ .failed := by
      rcases hw.status_eq with hs | hs | hs <;> simp [hs]
    have hkept := hw.kept
    have hsame : c'.executionHistory = c.executionHistory → AllSucceeded c' := fun hactions _ p hp hvalid a ha hid =>
      h hstatus p (hkept.active ▸ hp) hvalid a (hactions ▸ ha) hid
    cases hw with
    | gateExecuting now _ _ _ => exact hsame rfl
    | gateApproval now _ _ _ _ _ => exact hsame rfl
    | decide decision now reason _ _ => exact hsame rfl
    | execute now hcheck hrun => exact h.executed hcheck hrun
    | resolve now _ _ _ _ => exact hsame rfl
  · intro _ p hp hvalid a ha hid
    rcases hd.invalid_or_new with ⟨q, hq, -, hinvalid, -⟩ | ⟨q, hq, hnew⟩
    · obtain rfl := Option.some.inj (hq.symm.trans hp)
      rw [hinvalid] at hvalid
      cases hvalid
    · -- nothing has been carried out for a new plan
      obtain rfl := Option.some.inj (hq.symm.trans hp)
      exact absurd (hid ▸ hknown.known a (hd.actions ▸ ha)) hnew

theorem allSucceeded_of_history {l : List RecoveryCase} (h : CaseHistory scenarioFactory answers l) :
    ∀ c ∈ l, AllSucceeded c := by
  refine h.forall_mem (fun c hinit => ?_) fun past c c' hist hold hs => ?_
  · intro _ p _ _ a ha
    have hnone : (stored c none).executionHistory = [] := hinit.nothing_yet.2.1
    rw [hnone] at ha
    cases ha
  · have hmem : c ∈ c :: past := List.mem_cons_self ..
    have hnext : AllSucceeded c' := (hold c hmem).step (actionsOk_of_history hist c hmem) hs
    exact hnext

theorem CaseStep.actionIds_subset (h : CaseStep scenarioFactory answers seen c c') :
    c.executionHistory.map (·.actionId) ⊆ c'.executionHistory.map (·.actionId) := by
  rcases h.work_or_declined with hw | ⟨decline, plan, hd⟩
  · cases hw with
    | gateExecuting now _ _ _ => exact List.Subset.refl _
    | gateApproval now _ _ _ _ _ => exact List.Subset.refl _
    | decide decision now reason _ _ => exact List.Subset.refl _
    | execute now _ hrun => exact hrun.actionIds_subset
    | resolve now _ _ _ _ => exact List.Subset.refl _
  · rw [hd.actions]
    exact List.Subset.refl _

/-- **What has been recorded stays recorded.** -/
theorem actionIds_subset_of_mem {past : List RecoveryCase} (h : CaseHistory scenarioFactory answers (c :: past)) :
    ∀ d ∈ c :: past, d.executionHistory.map (·.actionId) ⊆ c.executionHistory.map (·.actionId) := by
  refine h.rel_of_mem (r := fun d c => d.executionHistory.map (·.actionId) ⊆ c.executionHistory.map (·.actionId))
    (fun _ => List.Subset.refl _) List.Subset.trans ?_
  intro seen c₀ c₁ hs
  have hstep := CaseStep.actionIds_subset hs
  exact hstep

/-- An action of the valid plan that is recorded has succeeded, in a case that may be executed. -/
theorem succeededRecord_ne_none {past : List RecoveryCase} (h : CaseHistory scenarioFactory answers (c :: past))
    {plan : RecoveryPlan} (hcheck : checkExecution c = .ok plan) {now : Instant} {action : ExecutionAction}
    (hrequired : action ∈ requiredExecutionActions plan now)
    (hrecorded : action.actionId ∈ c.executionHistory.map (·.actionId)) :
    succeededRecord (actionDict c.executionHistory) action.actionId ≠ none := by
  obtain ⟨hactive, hvalid, -, hstatus, -⟩ := checkExecution_eq_ok hcheck
  have hmem : c ∈ c :: past := List.mem_cons_self ..
  obtain ⟨n, hn⟩ := planNamed_of_history h c hmem plan hactive
  have hkey : action.actionId ∈ (c.executionHistory.map fun a => (a.actionId, a)).map Prod.fst := by
    rw [List.map_map]
    exact hrecorded
  obtain ⟨a, ha⟩ := Dict.exists_get?_of_mem hkey
  obtain ⟨b, hb, heq⟩ := List.mem_map.mp (Dict.mem_of_get?_ofList ha)
  obtain ⟨hid, rfl⟩ := Prod.mk.inj heq
  have hplanId : b.planId = plan.planId := by
    rw [← (planId_of_mem_requiredExecutionActions hrequired).1]
    exact ((actionsOk_of_history h c hmem).named b hb).planId_eq (actionNamed_of_required hn hrequired) hid
  have hsucceeded := allSucceeded_of_history h c hmem (by simp [hstatus]) plan hactive hvalid b hb hplanId
  rw [succeededRecord, actionDict, ha]
  simp [Option.filter, hsucceeded]

/-- The actions that a plan requires have different identifiers, if it changes no event twice. -/
theorem nodup_requiredExecutionActions {plan : RecoveryPlan} (now : Instant)
    (hsegments : (plan.coverageSegments.map (·.segmentId)).Nodup)
    (hchanges : (plan.calendarChanges.map (·.eventId)).Nodup) :
    ((requiredExecutionActions plan now).map (·.actionId)).Nodup := by
  have hinjective : ∀ kind : String, Function.Injective fun id : String => kind ++ plan.planId ++ ":" ++ id :=
    fun _ _ _ => append_left_cancel
  have hcaregivers := hsegments.sublist
    ((List.filter_sublist (p := fun segment : RecoveryPlanSegment => segment.source = .caregiver)).map _)
  rw [requiredExecutionActions, List.map_append, List.map_map, List.map_map]
  refine List.nodup_append.mpr ⟨?_, ?_, ?_⟩
  · have hcalendar := hchanges.map (hinjective "calendar:")
    rw [List.map_map] at hcalendar
    exact hcalendar
  · have hcaregiver := hcaregivers.map (hinjective "caregiver:")
    rw [List.map_map] at hcaregiver
    exact hcaregiver
  · intro x hx y hy
    obtain ⟨event, -, rfl⟩ := List.mem_map.mp hx
    obtain ⟨segment, -, rfl⟩ := List.mem_map.mp hy
    exact calendarAction_actionId_ne plan now event segment

/-- The plan that is executed was accepted, so its segments have different identifiers. -/
theorem nodup_of_checkExecution {past : List RecoveryCase} (h : CaseHistory scenarioFactory answers (c :: past))
    {plan : RecoveryPlan} (hcheck : checkExecution c = .ok plan) (hchanges : ChangesOnce c) (now : Instant) :
    ((requiredExecutionActions plan now).map (·.actionId)).Nodup := by
  obtain ⟨hactive, hvalid, -, -, -⟩ := checkExecution_eq_ok hcheck
  obtain ⟨d, -, hfresh, hd⟩ := exists_fresh_of_valid h hactive hvalid
  obtain ⟨q, facts, previousPlans, hq, haccepted⟩ := hfresh.exists_acceptedPlan
  obtain rfl := Option.some.inj (hd.symm.trans hq)
  exact nodup_requiredExecutionActions now haccepted.accepted.unique_ids (hchanges plan hactive)

/-! ### Calls in a run -/

section Calls

variable {starts : List (Service RecoveryCase)} {trace earlier : CaseTrace}
  {cfg : Config String RecoveryCase Failure Answer RecoveryCase} {i : ℕ} {action : ExecutionAction}

/-- Every call for a case is an event of the run, made by a program that has read the case last. -/
theorem exists_of_mem_adapterCalls {call : ℕ × ExecutionAction} (h : call ∈ adapterCalls caseId trace) :
    ∃ now result earlier, (call.1, .asked (.execute call.2 now) result) :: earlier <:+ trace ∧
      (lastRead (own call.1 earlier)).map Prod.fst = some caseId := by
  fun_induction adapterCalls caseId trace with
  | case1 => cases h
  | case2 i action now result earlier hread ih =>
    rcases List.mem_cons.mp h with rfl | h
    · exact ⟨now, result, earlier, List.suffix_rfl, hread⟩
    · obtain ⟨now, result, before, hsuffix, hcase⟩ := ih h
      exact ⟨now, result, before, hsuffix.trans (List.suffix_cons ..), hcase⟩
  | case3 i action now result earlier hread ih =>
    obtain ⟨now, result, before, hsuffix, hcase⟩ := ih h
    exact ⟨now, result, before, hsuffix.trans (List.suffix_cons ..), hcase⟩
  | case4 e earlier _ ih =>
    obtain ⟨now, result, before, hsuffix, hcase⟩ := ih h
    exact ⟨now, result, before, hsuffix.trans (List.suffix_cons ..), hcase⟩

theorem adapterCalls_suffix (h : earlier <:+ trace) : adapterCalls caseId earlier <:+ adapterCalls caseId trace := by
  fun_induction adapterCalls caseId trace with
  | case1 => rw [List.suffix_nil.mp h]; exact List.suffix_rfl
  | case2 i action now result past hread ih =>
    rcases List.suffix_cons_iff.mp h with rfl | h
    · rw [adapterCalls, if_pos hread]
    · exact (ih h).trans (List.suffix_cons ..)
  | case3 i action now result past hread ih =>
    rcases List.suffix_cons_iff.mp h with rfl | h
    · rw [adapterCalls, if_neg hread]
    · exact ih h
  | case4 e past hother ih =>
    rcases List.suffix_cons_iff.mp h with rfl | h
    · rw [adapterCalls]
      exact hother
    · exact ih h

theorem mem_calledActions_of_mem_adapterCalls {call : ℕ × ExecutionAction} (h : call ∈ adapterCalls caseId trace) :
    call.2 ∈ calledActions (own call.1 trace) := by
  obtain ⟨now, result, earlier, hsuffix, -⟩ := exists_of_mem_adapterCalls h
  have hown : Event.asked (.execute call.2 now) result :: own call.1 earlier <:+ own call.1 trace := by
    rw [← own_cons_self]
    exact own_suffix _ hsuffix
  exact mem_calledActions (hown.subset (List.mem_cons_self ..))

/-- What is recorded is in some saved version of the case. -/
theorem exists_of_mem_recordedCalls
    (h : Traced (env answers) (Request scenarioFactory) starts trace cfg) (hsuffix : earlier <:+ trace)
    {call : ℕ × ExecutionAction} (hcall : call ∈ recordedCalls caseId earlier) :
    ∃ c ∈ versions (logOf earlier) caseId, call.2.actionId ∈ c.executionHistory.map (·.actionId) := by
  fun_induction recordedCalls caseId earlier with
  | case1 => cases hcall
  | case2 i c expected earlier hcase ih =>
    rcases List.mem_append.mp hcall with hcall | hcall
    · obtain ⟨action, haction, rfl⟩ := List.mem_map.mp hcall
      have hallowed : CallsAllowed (own i earlier) (.saved c expected) :=
        h.allowed_of_obeys (fun _ hp => obeysCalls_request hp) hsuffix
      refine ⟨stored c expected, List.mem_filter.mpr ⟨List.mem_cons_self .., ?_⟩, hallowed action haction⟩
      exact decide_eq_true (by rw [key_stored]; exact hcase)
    · obtain ⟨d, hd, hid⟩ := ih ((List.suffix_cons ..).trans hsuffix) hcall
      exact ⟨d, (versions_suffix (List.suffix_cons ..) caseId).subset hd, hid⟩
  | case3 i c expected earlier _ ih =>
    obtain ⟨d, hd, hid⟩ := ih ((List.suffix_cons ..).trans hsuffix) hcall
    exact ⟨d, (versions_suffix (List.suffix_cons ..) caseId).subset hd, hid⟩
  | case4 e earlier _ ih =>
    obtain ⟨d, hd, hid⟩ := ih ((List.suffix_cons ..).trans hsuffix) hcall
    exact ⟨d, (versions_suffix (List.suffix_cons ..) caseId).subset hd, hid⟩

/-- What a call of the adapter rests on: the version of the case that the program has read. -/
structure CallOf (caseId : String) (earlier : CaseTrace) (i : ℕ) (action : ExecutionAction) (c : RecoveryCase)
    (plan : RecoveryPlan) (now : Instant) : Prop where
  current : current (logOf (beforeRead i earlier)) caseId = some c
  check : checkExecution c = .ok plan
  unrecorded : succeededRecord (actionDict c.executionHistory) action.actionId = none
  once : ((calledSince (own i earlier)).reverse ++ [action]).Sublist (requiredExecutionActions plan now)
  only : calledActions (own i earlier) = calledSince (own i earlier)

theorem exists_callOf (h : Traced (env answers) (Request scenarioFactory) starts trace cfg) {now : Instant}
    {result : ExecutionAction} (hsuffix : (i, .asked (.execute action now) result) :: earlier <:+ trace)
    (hcase : (lastRead (own i earlier)).map Prod.fst = some caseId) :
    ∃ c plan, CallOf caseId earlier i action c plan now := by
  have hallowed : CallsAllowed (own i earlier) (.asked (.execute action now) result) :=
    h.allowed_of_obeys (fun _ hp => obeysCalls_request hp) hsuffix
  obtain ⟨k, c, plan, hread, hcheck, hnone, honce, honly⟩ := hallowed
  rw [hread] at hcase
  obtain rfl : k = caseId := Option.some.inj hcase
  have hcurrent := h.lastRead_eq ((List.suffix_cons ..).trans hsuffix) hread
  exact ⟨c, plan, hcurrent.symm, hcheck, hnone, honce, honly⟩

variable {plan : RecoveryPlan} {now : Instant}

theorem CallOf.mem_required (h : CallOf caseId earlier i action c plan now) :
    action ∈ requiredExecutionActions plan now :=
  h.once.subset (List.mem_append_right _ (List.mem_singleton.mpr rfl))

/-- The version on which a call rests is the newest of a history. -/
theorem CallOf.exists_history (hcall : CallOf caseId earlier i action c plan now)
    (h : Traced (env answers) (Request scenarioFactory) starts trace cfg) (hsuffix : earlier <:+ trace) :
    ∃ past, versions (logOf (beforeRead i earlier)) caseId = c :: past ∧
      CaseHistory scenarioFactory answers (c :: past) := by
  have hhead := hcall.current
  rw [current_eq_head?] at hhead
  obtain ⟨past, hpast⟩ := List.head?_eq_some_iff.mp hhead
  refine ⟨past, hpast, ?_⟩
  rw [← hpast]
  exact caseHistory_of_suffix h ((beforeRead_suffix i earlier).trans hsuffix) caseId

theorem CallOf.caseId_eq (h : CallOf caseId earlier i action c plan now) : c.caseId = caseId := key_of_current h.current

/-- The action of a call is named after its plan. -/
theorem CallOf.actionNamed (hcall : CallOf caseId earlier i action c plan now)
    (h : Traced (env answers) (Request scenarioFactory) starts trace cfg) (hsuffix : earlier <:+ trace) :
    ActionNamed caseId action := by
  obtain ⟨past, -, hist⟩ := hcall.exists_history h hsuffix
  obtain ⟨hactive, -⟩ := checkExecution_eq_ok hcall.check
  obtain ⟨n, hn⟩ := planNamed_of_history hist c (List.mem_cons_self ..) plan hactive
  rw [← hcall.caseId_eq]
  exact actionNamed_of_required hn hcall.mem_required

/-- **A program calls the adapter for an action once.** -/
theorem CallOf.ne_own (hcall : CallOf caseId earlier i action c plan now)
    (h : Traced (env answers) (Request scenarioFactory) starts trace cfg) (hsuffix : earlier <:+ trace)
    (hchanges : ChangesOnce c) {other : ExecutionAction} (hother : other ∈ calledActions (own i earlier)) :
    other.actionId ≠ action.actionId := by
  obtain ⟨past, -, hist⟩ := hcall.exists_history h hsuffix
  have hnodup := (nodup_of_checkExecution hist hcall.check hchanges now).sublist (hcall.once.map (·.actionId))
  rw [hcall.only] at hother
  rw [List.map_append, List.nodup_append] at hnodup
  refine hnodup.2.2 _ (List.mem_map_of_mem (List.mem_reverse.mpr hother)) _ ?_
  exact List.mem_singleton.mpr rfl

/-- **A program calls the adapter for nothing that another one has called it for**, if the calls of the others for
the same plan had been recorded when it read the case. -/
theorem CallOf.ne_other (hcall : CallOf caseId earlier i action c plan now)
    (h : Traced (env answers) (Request scenarioFactory) starts trace cfg) (hsuffix : earlier <:+ trace)
    {call : ℕ × ExecutionAction} (hother : call ∈ adapterCalls caseId earlier)
    (hrecorded : call.2.planId = action.planId → call ∈ recordedCalls caseId (beforeRead i earlier)) :
    call.2.actionId ≠ action.actionId := by
  intro hid
  obtain ⟨now', result, before, hbefore, hcase⟩ := exists_of_mem_adapterCalls hother
  obtain ⟨c', plan', hcall'⟩ := exists_callOf h (hbefore.trans hsuffix) hcase
  have hnamed := hcall'.actionNamed h ((List.suffix_cons ..).trans (hbefore.trans hsuffix))
  have hplanId := hnamed.planId_eq (hcall.actionNamed h hsuffix) hid
  obtain ⟨past, hpast, hist⟩ := hcall.exists_history h hsuffix
  obtain ⟨d, hd, hdid⟩ := exists_of_mem_recordedCalls h ((beforeRead_suffix i earlier).trans hsuffix)
    (hrecorded hplanId)
  rw [hpast] at hd
  -- recorded then, recorded in the version that the program has read
  have hin := actionIds_subset_of_mem hist d hd hdid
  rw [hid] at hin
  exact succeededRecord_ne_none hist hcall.check hcall.mem_required hin hcall.unrecorded

end Calls

/-- **Side effects happen at most once** in every run in which a request calls the adapter for a plan only after the
calls that other requests have made for the same plan had been recorded, and in which no plan of the case that the
adapter is called for changes an event twice. -/
theorem atMostOnce_of_traced {starts : List (Service RecoveryCase)} {trace : CaseTrace}
    {cfg : Config String RecoveryCase Failure Answer RecoveryCase}
    (h : Traced (env answers) (Request scenarioFactory) starts trace cfg)
    (hserial : OneAfterAnother caseId trace)
    (hchanges : ∀ c ∈ cfg.saved, CalledFor caseId trace c → ChangesOnce c) : AtMostOnce caseId trace := by
  suffices H : ∀ earlier, earlier <:+ trace → OneAfterAnother caseId earlier → AtMostOnce caseId earlier from
    H trace List.suffix_rfl hserial
  intro earlier hsuffix hserial
  unfold AtMostOnce
  fun_induction adapterCalls caseId earlier with
  | case1 => exact List.nodup_nil
  | case2 i action now result earlier hcase ih =>
    have hearlier := (List.suffix_cons ..).trans hsuffix
    obtain ⟨c, plan, hcall⟩ := exists_callOf h hsuffix hcase
    have hc : c ∈ cfg.saved := by
      rw [h.saved_eq]
      refine (logOf_suffix ((beforeRead_suffix i earlier).trans hearlier)).subset ?_
      exact List.mem_of_find?_eq_some hcall.current
    have hcalled : CalledFor caseId trace c := by
      obtain ⟨hactive, -⟩ := checkExecution_eq_ok hcall.check
      refine ⟨hcall.caseId_eq, plan, hactive, (i, action), (adapterCalls_suffix hsuffix).subset ?_, ?_⟩
      · rw [adapterCalls, if_pos hcase]
        exact List.mem_cons_self ..
      · exact (planId_of_mem_requiredExecutionActions hcall.mem_required).1
    refine List.nodup_cons.mpr ⟨fun hmem => ?_, ih hearlier hserial.2⟩
    obtain ⟨call, hother, hid⟩ := List.mem_map.mp hmem
    by_cases hi : call.1 = i
    · subst hi
      exact hcall.ne_own h hearlier (hchanges c hc hcalled) (mem_calledActions_of_mem_adapterCalls hother) hid
    · exact hcall.ne_other h hearlier hother (hserial.1 hcase call hother hi) hid
  | case3 i action now result earlier _ ih => exact ih ((List.suffix_cons ..).trans hsuffix) hserial.2
  | case4 e earlier _ ih => exact ih ((List.suffix_cons ..).trans hsuffix) hserial.of_cons

/-- An approval is given twice; the first request takes `n` steps before the second comes. -/
def approvedTwice (n : ℕ) : Schedule :=
  [.spawn (startRecovery paidDay paidDay nannyIll), .steps 0 100 (answering 1 "case" paidPlan none),
    .spawn (decideApproval paidDay "case" "case" { decision := .approve }),
    .steps 1 n (answering 2 "event" paidPlan none),
    .spawn (decideApproval paidDay "case" "case" { decision := .approve }),
    .steps 2 100 (answering 3 "event" paidPlan none), .steps 1 100 (answering 4 "event" paidPlan none)]

theorem traced_approvedTwice (n : ℕ) :
    Traced (env fun _ _ => True) (Request paidDay) (Run.of (approvedTwice n)).starts (Run.of (approvedTwice n)).trace
      (Run.of (approvedTwice n)).cfg := by
  apply traced_run
  intro t ht
  simp only [approvedTwice, List.mem_cons, List.not_mem_nil, or_false] at ht
  rcases ht with rfl | rfl | rfl | rfl | rfl | rfl | rfl
  · exact .start ..
  · exact env_answering fun _ => trivial
  · exact .decide ..
  · exact env_answering fun _ => trivial
  · exact .decide ..
  · exact env_answering fun _ => trivial
  · exact env_answering fun _ => trivial

/-- The second approval comes when the first has been carried out. -/
theorem atMostOnce_approvedTwice :
    adapterCalls "case" (Run.of (approvedTwice 100)).trace ≠ [] ∧
      AtMostOnce "case" (Run.of (approvedTwice 100)).trace :=
  ⟨by decide +kernel, atMostOnce_of_traced (traced_approvedTwice 100) (by decide +kernel) (by decide +kernel)⟩

/-- The second approval comes when the first request has read the case for execution: the sitter is reserved twice. -/
theorem approvedTwice_executes_twice :
    ∃ starts trace cfg, Traced (env fun _ _ => True) (Request paidDay) starts trace cfg ∧
      ¬ AtMostOnce "case" trace :=
  ⟨_, _, _, traced_approvedTwice 7, by decide +kernel⟩

end DayMend.Runs
