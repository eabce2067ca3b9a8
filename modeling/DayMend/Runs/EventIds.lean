import DayMend.Runs.SideEffects
import DayMend.Runs.Updates

/-!
# The identifiers of events

Every event that the services append is called by what it reports and what it is about,
`approval-requested:` and the approval's identifier for instance (`EventName`); only the
identifiers of declines are chosen outside. Some appenders look first whether the
identifier is taken, the others rely on the case: there is no such approval, no such
result, and the case has not been resolved (`Records`).

The last is not so: a case that has been resolved may be declined and resolved again,
and then two events have one identifier (`declinedInTurn_repeats`).
`nodup_eventIds_of_reaches` says that only this can happen, or that a decline is called
like an event of the services, or that two approvals or two calendar changes of a plan
that is carried out have one identifier (`NamedOnce`).
-/

namespace DayMend.Runs

open DayMend.Base DayMend.Models DayMend.Fixtures DayMend.Services DayMend.Agent DayMend.Application

variable {scenarioFactory : DemoScenario}
  {answers : AgentRuntimeRequest → Except Failure AgentRuntimeResponse → Prop} {seen : Set RecoveryCase}
  {c c' : RecoveryCase}

/-! ### Names -/

/-- What an event of the services reports. -/
inductive EventName where
  | disruption
  | approvalRequested
  | approvalDecided (decision : ApprovalDecision)
  | executionStarted
  | actionResult (status : ExecutionActionStatus)
  | completionVerified
  | caseResolved
  deriving DecidableEq

/-- As it stands at the front of an identifier. -/
def EventName.text : EventName → String
  | .disruption => "disruption"
  | .approvalRequested => "approval-requested"
  | .approvalDecided decision => "approval-" ++ decision.lower
  | .executionStarted => "execution-started"
  | .actionResult status => "action-" ++ status.lower
  | .completionVerified => "completion-verified"
  | .caseResolved => "case-resolved"

/-- The identifier of the event that reports `name` about `subject`. -/
def EventName.id (name : EventName) (subject : String) : String := name.text ++ ":" ++ subject

theorem EventName.colon_notMem_text (name : EventName) : ':' ∉ name.text.toList := by
  cases name with
  | approvalDecided decision => cases decision <;> decide
  | actionResult status => cases status <;> decide
  | disruption => decide
  | approvalRequested => decide
  | executionStarted => decide
  | completionVerified => decide
  | caseResolved => decide

/-- Every name. -/
def EventName.all : List EventName :=
  [.disruption, .approvalRequested, .approvalDecided .approve, .approvalDecided .reject, .executionStarted,
    .actionResult .pending, .actionResult .succeeded, .actionResult .failed, .completionVerified, .caseResolved]

theorem EventName.mem_all (name : EventName) : name ∈ EventName.all := by
  cases name with
  | approvalDecided decision => cases decision <;> simp [all]
  | actionResult status => cases status <;> simp [all]
  | disruption => simp [all]
  | approvalRequested => simp [all]
  | executionStarted => simp [all]
  | completionVerified => simp [all]
  | caseResolved => simp [all]

theorem EventName.text_injective : Function.Injective EventName.text := by
  have hall : ∀ m ∈ EventName.all, ∀ n ∈ EventName.all, m.text = n.text → m = n := by decide
  exact fun m n h => hall m m.mem_all n n.mem_all h

/-- **An identifier tells what is reported, and about what.** -/
theorem EventName.id_inj {m n : EventName} {s t : String} (h : m.id s = n.id t) : m = n ∧ s = t := by
  obtain ⟨htext, hsubject⟩ := name_colon_inj m.colon_notMem_text n.colon_notMem_text h
  exact ⟨text_injective htext, hsubject⟩

theorem EventName.id_eq {name : EventName} {front : String} (h : name.text ++ ":" = front) (subject : String) :
    name.id subject = front ++ subject := by
  rw [id, h]

theorem approvalRequestedEvent_eventId (approval : ApprovalRequest) (now : Instant) :
    (approvalRequestedEvent approval now).eventId = EventName.approvalRequested.id approval.approvalId :=
  (EventName.id_eq (by decide) _).symm

theorem decisionEvent_eventId (approval : ApprovalRequest) (decision : ApprovalDecision) (now : Instant)
    (reason : Option String) :
    (decisionEvent approval decision now reason).eventId =
      (EventName.approvalDecided decision).id approval.approvalId := rfl

/-! ### What a case records -/

/-- What a case has recorded under the names whose appenders do not look whether the identifier is taken. -/
def Records (c : RecoveryCase) : EventName → String → Prop
  | .approvalRequested, subject => ∃ a ∈ c.approvalHistory, a.approvalId = subject
  | .approvalDecided decision, subject =>
    ∃ a ∈ c.approvalHistory, a.status = decision.status ∧ a.approvalId = subject
  | .actionResult status, subject => ∃ a ∈ c.executionHistory, a.status = status ∧ a.actionId = subject
  | .caseResolved, subject => c.completionVerifiedAt.isSome ∧ c.caseId = subject
  | .disruption, _ => False
  | .executionStarted, _ => False
  | .completionVerified, _ => False

/-- The identifiers of what a case has recorded so. -/
def recordedIds (c : RecoveryCase) : List String :=
  (c.approvalHistory.map fun a => EventName.approvalRequested.id a.approvalId) ++
    ([ApprovalDecision.approve, .reject].flatMap fun decision =>
      (c.approvalHistory.filter fun a => a.status = decision.status).map fun a =>
        (EventName.approvalDecided decision).id a.approvalId) ++
    (c.executionHistory.map fun a => (EventName.actionResult a.status).id a.actionId) ++
    if c.completionVerifiedAt.isSome then [EventName.caseResolved.id c.caseId] else []

theorem mem_recordedIds {id : String} :
    id ∈ recordedIds c ↔ ∃ name subject, Records c name subject ∧ id = EventName.id name subject := by
  have hdecision : ∀ decision : ApprovalDecision, decision ∈ [ApprovalDecision.approve, .reject] := by
    rintro (_ | _) <;> simp
  simp only [recordedIds, List.mem_append, List.mem_map, List.mem_flatMap, List.mem_filter, decide_eq_true_eq]
  constructor
  · rintro (((⟨a, ha, rfl⟩ | ⟨decision, -, a, ⟨ha, hstatus⟩, rfl⟩) | ⟨a, ha, rfl⟩) | h)
    · exact ⟨.approvalRequested, _, ⟨a, ha, rfl⟩, rfl⟩
    · exact ⟨.approvalDecided decision, _, ⟨a, ha, hstatus, rfl⟩, rfl⟩
    · exact ⟨.actionResult a.status, _, ⟨a, ha, rfl, rfl⟩, rfl⟩
    · split at h
      next hverified => exact ⟨.caseResolved, _, ⟨hverified, rfl⟩, List.mem_singleton.mp h⟩
      next => cases h
  · rintro ⟨name, subject, hrecords, rfl⟩
    cases name with
    | disruption => exact hrecords.elim
    | executionStarted => exact hrecords.elim
    | completionVerified => exact hrecords.elim
    | approvalRequested =>
      obtain ⟨a, ha, rfl⟩ := hrecords
      exact Or.inl (Or.inl (Or.inl ⟨a, ha, rfl⟩))
    | approvalDecided decision =>
      obtain ⟨a, ha, hstatus, rfl⟩ := hrecords
      exact Or.inl (Or.inl (Or.inr ⟨decision, hdecision decision, a, ⟨ha, hstatus⟩, rfl⟩))
    | actionResult status =>
      obtain ⟨a, ha, rfl, rfl⟩ := hrecords
      exact Or.inl (Or.inr ⟨a, ha, rfl⟩)
    | caseResolved =>
      obtain ⟨hverified, rfl⟩ := hrecords
      exact Or.inr (by rw [if_pos hverified]; exact List.mem_singleton.mpr rfl)

/-- No decline of a case is called like something that the case has recorded. -/
def DeclinesApart (c : RecoveryCase) : Prop :=
  ∀ e ∈ c.events, e.decline?.isSome → e.eventId ∉ recordedIds c

instance : DecidablePred DeclinesApart := fun c =>
  inferInstanceAs (Decidable (∀ e ∈ c.events, e.decline?.isSome → e.eventId ∉ recordedIds c))

/-- What has been recorded stays recorded. -/
def Grows (c c' : RecoveryCase) : Prop := ∀ name subject, Records c name subject → Records c' name subject

theorem Grows.of_kept (hcase : c'.caseId = c.caseId)
    (happrovals : ∀ a ∈ c.approvalHistory, ∃ a' ∈ c'.approvalHistory, a'.approvalId = a.approvalId ∧
      (a.status ≠ .pending → a'.status = a.status))
    (hactions : c.executionHistory ⊆ c'.executionHistory)
    (hverified : c.completionVerifiedAt.isSome → c'.completionVerifiedAt.isSome) : Grows c c' := by
  intro name subject hrecords
  cases name with
  | approvalRequested =>
    obtain ⟨a, ha, rfl⟩ := hrecords
    obtain ⟨a', ha', hid, -⟩ := happrovals a ha
    exact ⟨a', ha', hid⟩
  | approvalDecided decision =>
    obtain ⟨a, ha, hstatus, rfl⟩ := hrecords
    obtain ⟨a', ha', hid, hkept⟩ := happrovals a ha
    exact ⟨a', ha', (hkept (hstatus ▸ decision.status_ne_pending)).trans hstatus, hid⟩
  | actionResult status =>
    obtain ⟨a, ha, hresult⟩ := hrecords
    exact ⟨a, hactions ha, hresult⟩
  | caseResolved => exact ⟨hverified hrecords.1, hcase.trans hrecords.2⟩
  | disruption => exact hrecords
  | executionStarted => exact hrecords
  | completionVerified => exact hrecords

/-- The identifiers of the events of a case are distinct, and each is a decline's, one that the case has recorded,
or one whose appender looks whether it is taken. -/
structure EventsOk (c : RecoveryCase) : Prop where
  nodup : (c.events.map (·.eventId)).Nodup
  known : ∀ e ∈ c.events, e.decline? = none → ∃ name subject, e.eventId = EventName.id name subject ∧
    (Records c name subject ∨ name ∈ [.disruption, .executionStarted, .completionVerified])

/-- **An event is appended after a look** whether its identifier is taken. -/
theorem EventsOk.append_unused (h : EventsOk c) {e : RecoveryEvent} (hevents : c'.events = c.events ++ [e])
    (hgrows : Grows c c') (hunused : e.eventId ∉ c.events.map (·.eventId))
    (hknown : e.decline? = none → ∃ name subject, e.eventId = EventName.id name subject ∧
      name ∈ [.disruption, .executionStarted, .completionVerified]) : EventsOk c' where
  nodup := by
    rw [hevents, List.map_append, List.map_singleton]
    exact List.nodup_append.mpr ⟨h.nodup, List.nodup_singleton _, fun a ha b hb heq =>
      hunused (List.mem_singleton.mp hb ▸ heq ▸ ha)⟩
  known := by
    intro x hx hnone
    rw [hevents] at hx
    rcases List.mem_append.mp hx with hx | hx
    · obtain ⟨name, subject, hid, hname⟩ := h.known x hx hnone
      exact ⟨name, subject, hid, hname.imp_left (hgrows name subject)⟩
    · obtain rfl := List.mem_singleton.mp hx
      obtain ⟨name, subject, hid, hname⟩ := hknown hnone
      exact ⟨name, subject, hid, Or.inr hname⟩

/-- **Events are appended without a look**, of what the case had not recorded before. -/
theorem EventsOk.append_recorded (h : EventsOk c) {new : List RecoveryEvent} (hevents : c'.events = c.events ++ new)
    (hgrows : Grows c c') (hapart : DeclinesApart c') (hnodup : (new.map (·.eventId)).Nodup)
    (hnew : ∀ e ∈ new, ∃ name subject, e.eventId = EventName.id name subject ∧
      Records c' name subject ∧ ¬ Records c name subject) : EventsOk c' where
  nodup := by
    rw [hevents, List.map_append]
    refine List.nodup_append.mpr ⟨h.nodup, hnodup, fun id hid id' hid' heq => ?_⟩
    subst heq
    obtain ⟨x, hx, rfl⟩ := List.mem_map.mp hid
    obtain ⟨e, he, heid⟩ := List.mem_map.mp hid'
    obtain ⟨name, subject, hname, hrecords, hnot⟩ := hnew e he
    rw [heid] at hname
    cases hdecline : x.decline? with
    | some decline =>
      refine hapart x ?_ (by simp [hdecline]) (mem_recordedIds.mpr ⟨name, subject, hrecords, hname⟩)
      rw [hevents]
      exact List.mem_append_left _ hx
    | none =>
      obtain ⟨name', subject', hname', hknown⟩ := h.known x hx hdecline
      obtain ⟨rfl, rfl⟩ := EventName.id_inj (hname.symm.trans hname')
      rcases hknown with hknown | hknown
      · exact hnot hknown
      · -- nothing is recorded under these names
        simp only [List.mem_cons, List.not_mem_nil, or_false] at hknown
        rcases hknown with rfl | rfl | rfl
        · exact hrecords
        · exact hrecords
        · exact hrecords
  known := by
    intro x hx hnone
    rw [hevents] at hx
    rcases List.mem_append.mp hx with hx | hx
    · obtain ⟨name, subject, hid, hname⟩ := h.known x hx hnone
      exact ⟨name, subject, hid, hname.imp_left (hgrows name subject)⟩
    · obtain ⟨name, subject, hid, hrecords, -⟩ := hnew x hx
      exact ⟨name, subject, hid, Or.inl hrecords⟩

/-! ### What the operations append -/

/-- What execution has carried out is appended to the history and to the events, if it had not been carried out
before and no two required actions have one identifier. -/
theorem RanActions.exists_results {planId : String} {existing : Dict String ExecutionAction} {now : Instant}
    {required : List ExecutionAction} {progress after : ExecutionProgress}
    (h : RanActions planId existing now required progress after)
    (hnodup : (required.map (·.actionId)).Nodup)
    (hnew : ∀ a ∈ required, succeededRecord existing a.actionId = none →
      a.actionId ∉ progress.history.map (·.actionId)) :
    ∃ results, after.history = progress.history ++ results ∧
      after.events = progress.events ++ results.map (fun result => actionEvent planId result now) ∧
        (results.map (·.actionId)).Sublist (required.map (·.actionId)) ∧
          ∀ result ∈ results, result.actionId ∉ progress.history.map (·.actionId) := by
  induction h with
  | nil => exact ⟨[], by simp⟩
  | skip _ _ ih =>
    obtain ⟨results, hhistory, hevents, hsub, hout⟩ :=
      ih (List.nodup_cons.mp hnodup).2 fun a ha => hnew a (List.mem_cons_of_mem _ ha)
    exact ⟨results, hhistory, hevents, hsub.cons _, hout⟩
  | @run action rest progress after failTargets hnone _ ih =>
    obtain ⟨hfirst, hrest⟩ := List.nodup_cons.mp hnodup
    have hid := (simulatedExecute_ids failTargets action now).2
    generalize simulatedExecute failTargets action now = result at ih hid
    have haction := hnew action (List.mem_cons_self ..) hnone
    -- so that nothing is replaced in the history
    have hrecord : (progress.record planId result now).history = progress.history ++ [result] := by
      simp only [ExecutionProgress.record]
      congr 1
      refine List.filter_eq_self.mpr fun a ha => decide_eq_true fun heq => haction ?_
      rw [← hid, ← heq]
      exact List.mem_map_of_mem ha
    rw [hrecord] at ih
    obtain ⟨results, hhistory, hevents, hsub, hout⟩ := ih hrest fun a ha ha' => by
      rw [List.map_append, List.map_singleton, List.mem_append, List.mem_singleton, hid]
      rintro (hmem | heq)
      · exact hnew a (List.mem_cons_of_mem _ ha) ha' hmem
      · exact hfirst (List.mem_map.mpr ⟨a, ha, heq⟩)
    refine ⟨result :: results, ?_, ?_, ?_, ?_⟩
    · rw [hhistory, List.append_assoc, List.singleton_append]
    · rw [hevents, ExecutionProgress.record, List.append_assoc, List.singleton_append, List.map_cons]
    · rw [List.map_cons, List.map_cons, hid]
      exact hsub.cons_cons _
    · intro r hr
      rcases List.mem_cons.mp hr with rfl | hr
      · rw [hid]
        exact haction
      · exact fun hmem => hout r hr (by rw [List.map_append]; exact List.mem_append_left _ hmem)

theorem EventsOk.withStartEvent (h : EventsOk c) (planId : String) (now : Instant) :
    EventsOk { c with events := Services.withStartEvent c.events planId now } := by
  unfold Services.withStartEvent
  dsimp only
  split
  · exact ⟨h.nodup, h.known⟩
  next hunused =>
    refine h.append_unused rfl (fun _ _ h => h) hunused fun _ => ⟨.executionStarted, planId, ?_, by simp⟩
    exact (EventName.id_eq (by decide) _).symm

/-- What had not succeeded before is recorded in the end. -/
theorem RanActions.recorded {planId : String} {existing : Dict String ExecutionAction} {now : Instant}
    {required : List ExecutionAction} {progress after : ExecutionProgress}
    (h : RanActions planId existing now required progress after) {action : ExecutionAction}
    (haction : action ∈ required) (hnone : succeededRecord existing action.actionId = none) :
    action.actionId ∈ after.history.map (·.actionId) := by
  induction h with
  | nil => cases haction
  | skip hprior _ ih =>
    rcases List.mem_cons.mp haction with rfl | haction
    · rw [hnone] at hprior
      cases hprior
    · exact ih haction
  | @run first rest progress after failTargets _ hrest ih =>
    rcases List.mem_cons.mp haction with rfl | haction
    · refine hrest.actionIds_subset (recorded_record _ _ _ _ (Or.inl ?_))
      exact (simulatedExecute_ids failTargets action now).2.symm
    · exact ih haction

/-- Where everything had succeeded before, nothing is reported. -/
theorem RanActions.eq_of_forall_succeeded {planId : String} {existing : Dict String ExecutionAction} {now : Instant}
    {required : List ExecutionAction} {progress after : ExecutionProgress}
    (h : RanActions planId existing now required progress after)
    (hall : ∀ a ∈ required, succeededRecord existing a.actionId ≠ none) :
    after.history = progress.history ∧ after.events = progress.events := by
  induction h with
  | nil => exact ⟨rfl, rfl⟩
  | skip _ _ ih => exact ih fun a ha => hall a (List.mem_cons_of_mem _ ha)
  | run _ hnone _ _ => exact absurd hnone (hall _ (List.mem_cons_self ..))

/-- A version records actions only of a plan that changes no event twice. -/
def RecordsOnce (newer older : RecoveryCase) : Prop :=
  (∃ a ∈ newer.executionHistory, a.actionId ∉ older.executionHistory.map (·.actionId)) → ChangesOnce older

instance : DecidableRel RecordsOnce := fun newer older =>
  inferInstanceAs (Decidable ((∃ a ∈ newer.executionHistory, a.actionId ∉ older.executionHistory.map (·.actionId)) →
    ChangesOnce older))

/-- Execution forgets no action. -/
theorem grows_executedCase {progress : ExecutionProgress} {now : Instant}
    (hkept : ∀ a ∈ c.executionHistory, a ∈ progress.history) : Grows c (executedCase c progress now) :=
  Grows.of_kept rfl (fun a ha => ⟨a, ha, rfl, fun _ => rfl⟩) hkept fun h => h

/-- An execution with nothing left to do reports no more than its start. -/
theorem EventsOk.executed_again (h : EventsOk c) {planId : String} {progress : ExecutionProgress} {now : Instant}
    (hhistory : progress.history = c.executionHistory)
    (hevents : progress.events = Services.withStartEvent c.events planId now) :
    EventsOk (executedCase c progress now) := by
  have hstart := h.withStartEvent planId now
  rw [← hevents] at hstart
  refine ⟨hstart.nodup, fun e he hnone => ?_⟩
  obtain ⟨name, subject, hid, hname⟩ := hstart.known e he hnone
  have hgrows : Grows c (executedCase c progress now) := grows_executedCase fun a ha => hhistory ▸ ha
  exact ⟨name, subject, hid, hname.imp_left (hgrows name subject)⟩

/-- If anything is left to do, the save records it, so the plan changes no event twice. -/
theorem RecordsOnce.changesOnce {past : List RecoveryCase} {progress : ExecutionProgress} {now : Instant}
    (h : RecordsOnce (executedCase c progress now) c) (hist : CaseHistory scenarioFactory answers (c :: past))
    {plan : RecoveryPlan} (hcheck : checkExecution c = .ok plan)
    (hrun : RanActions plan.planId (actionDict c.executionHistory) now (requiredExecutionActions plan now)
      { history := c.executionHistory, events := Services.withStartEvent c.events plan.planId now } progress)
    {action : ExecutionAction} (haction : action ∈ requiredExecutionActions plan now)
    (hnone : succeededRecord (actionDict c.executionHistory) action.actionId = none) : ChangesOnce c := by
  obtain ⟨a, ha, hid⟩ := List.mem_map.mp (hrun.recorded haction hnone)
  refine h ⟨a, ha, fun hmem => ?_⟩
  rw [hid] at hmem
  exact succeededRecord_ne_none hist hcheck haction hmem hnone

/-- Execution reports what has not been carried out before. -/
theorem EventsOk.executed {past : List RecoveryCase} (h : EventsOk c)
    (hist : CaseHistory scenarioFactory answers (c :: past)) {plan : RecoveryPlan} {progress : ExecutionProgress}
    {now : Instant} (hcheck : checkExecution c = .ok plan)
    (hrun : RanActions plan.planId (actionDict c.executionHistory) now (requiredExecutionActions plan now)
      { history := c.executionHistory, events := Services.withStartEvent c.events plan.planId now } progress)
    (hrecords : RecordsOnce (executedCase c progress now) c) (hapart : DeclinesApart (executedCase c progress now)) :
    EventsOk (executedCase c progress now) := by
  by_cases hall : ∀ a ∈ requiredExecutionActions plan now,
      succeededRecord (actionDict c.executionHistory) a.actionId ≠ none
  · obtain ⟨hhistory, hevents⟩ := hrun.eq_of_forall_succeeded hall
    exact h.executed_again hhistory hevents
  push Not at hall
  obtain ⟨action, haction, hnone⟩ := hall
  have hnodup := nodup_of_checkExecution hist hcheck (hrecords.changesOnce hist hcheck hrun haction hnone) now
  obtain ⟨results, hhistory, hevents, hsub, hout⟩ := hrun.exists_results hnodup fun a ha hnone hmem =>
    succeededRecord_ne_none hist hcheck ha hmem hnone
  refine (h.withStartEvent plan.planId now).append_recorded hevents ?_ hapart ?_ ?_
  · refine grows_executedCase fun a ha => ?_
    rw [hhistory]
    exact List.mem_append_left _ ha
  · rw [List.map_map]
    refine List.pairwise_map.mpr ((List.pairwise_map.mp (hsub.nodup hnodup)).imp ?_)
    intro r s hne heq
    have hids : (EventName.actionResult r.status).id r.actionId = (EventName.actionResult s.status).id s.actionId := heq
    exact hne (EventName.id_inj hids).2
  · intro e he
    obtain ⟨result, hresult, rfl⟩ := List.mem_map.mp he
    refine ⟨.actionResult result.status, result.actionId, rfl, ⟨result, ?_, rfl, rfl⟩, ?_⟩
    · rw [executedCase, hhistory]
      exact List.mem_append_right _ hresult
    · rintro ⟨a, ha, -, hid⟩
      exact hout result hresult (hid ▸ List.mem_map_of_mem ha)

/-- A request for approval is reported once, if no two have one identifier. -/
theorem EventsOk.requested (h : EventsOk c) {plan : RecoveryPlan} {approval : ApprovalRequest} {now : Instant}
    (happrovals : ((requestedCase c plan approval now).approvalHistory.map (·.approvalId)).Nodup)
    (hapart : DeclinesApart (requestedCase c plan approval now)) : EventsOk (requestedCase c plan approval now) := by
  simp only [requestedCase, List.map_append, List.map_singleton] at happrovals
  obtain ⟨-, -, hnew⟩ := List.nodup_append.mp happrovals
  refine h.append_recorded rfl ?_ hapart (List.nodup_singleton _) ?_
  · exact Grows.of_kept rfl (fun a ha => ⟨a, List.mem_append_left _ ha, rfl, fun _ => rfl⟩) (List.Subset.refl _)
      fun h => h
  · intro e he
    obtain rfl := List.mem_singleton.mp he
    refine ⟨.approvalRequested, approval.approvalId, approvalRequestedEvent_eventId .., ?_, ?_⟩
    · exact ⟨approval, List.mem_append_right _ (List.mem_singleton.mpr rfl), rfl⟩
    · rintro ⟨a, ha, hid⟩
      exact hnew _ (List.mem_map_of_mem ha) _ (List.mem_singleton.mpr rfl) hid

/-- A decision is reported once: the request was open before. -/
theorem EventsOk.decided (h : EventsOk c) {approval : ApprovalRequest} {decision : ApprovalDecision} {now : Instant}
    {reason : Option String} (hmem : approval ∈ c.approvalHistory) (hpending : approval.status = .pending)
    (happrovals : (c.approvalHistory.map (·.approvalId)).Nodup)
    (hapart : DeclinesApart (decidedCase c approval decision now reason)) :
    EventsOk (decidedCase c approval decision now reason) := by
  have hsame : ∀ a ∈ c.approvalHistory, a.approvalId = approval.approvalId → a = approval :=
    fun a ha hid => List.inj_on_of_nodup_map happrovals ha hmem hid
  refine h.append_recorded rfl ?_ hapart (List.nodup_singleton _) ?_
  · refine Grows.of_kept rfl (fun a ha => ?_) (List.Subset.refl _) fun h => h
    by_cases hid : a.approvalId = approval.approvalId
    · refine ⟨decidedRequest approval decision now, List.mem_map.mpr ⟨a, ha, if_pos hid⟩, hid.symm, fun hne => ?_⟩
      rw [hsame a ha hid] at hne
      exact absurd hpending hne
    · exact ⟨a, List.mem_map.mpr ⟨a, ha, if_neg hid⟩, rfl, fun _ => rfl⟩
  · intro e he
    obtain rfl := List.mem_singleton.mp he
    refine ⟨.approvalDecided decision, approval.approvalId, decisionEvent_eventId .., ?_, ?_⟩
    · exact ⟨decidedRequest approval decision now, List.mem_map.mpr ⟨approval, hmem, if_pos rfl⟩, rfl, rfl⟩
    · rintro ⟨a, ha, hstatus, hid⟩
      rw [hsame a ha hid, hpending] at hstatus
      exact decision.status_ne_pending hstatus.symm

/-- A resolution is reported once, if the case has not been resolved before. -/
theorem EventsOk.resolved (h : EventsOk c) {planId : String} {now : Instant} (hfirst : c.completionVerifiedAt = none)
    (hapart : DeclinesApart (resolvedCase c planId now)) : EventsOk (resolvedCase c planId now) := by
  have hgrows : Grows c (resolvedCase c planId now) :=
    Grows.of_kept rfl (fun a ha => ⟨a, ha, rfl, fun _ => rfl⟩) (List.Subset.refl _) fun _ => rfl
  by_cases hused : s!"completion-verified:{planId}" ∈ c.events.map (·.eventId)
  · have hevents : (resolvedCase c planId now).events = c.events := if_pos hused
    refine ⟨by rw [hevents]; exact h.nodup, fun e he hnone => ?_⟩
    obtain ⟨name, subject, hid, hname⟩ := h.known e (hevents ▸ he) hnone
    exact ⟨name, subject, hid, hname.imp_left (hgrows name subject)⟩
  · have hevents : (resolvedCase c planId now).events = _ := if_neg hused
    rw [← List.singleton_append, ← List.append_assoc] at hevents
    have hid : s!"completion-verified:{planId}" = EventName.completionVerified.id planId :=
      (EventName.id_eq (by decide) _).symm
    have hverified : EventsOk { c with
        events := c.events ++
          [{ eventId := s!"completion-verified:{planId}", eventType := .completionVerified, occurredAt := now
             details := [("plan_id", .str planId)] }] } :=
      h.append_unused rfl (fun _ _ h => h) hused fun _ => ⟨.completionVerified, planId, hid, by simp⟩
    refine hverified.append_recorded hevents hgrows hapart (List.nodup_singleton _) fun e he => ?_
    obtain rfl := List.mem_singleton.mp he
    refine ⟨.caseResolved, c.caseId, (EventName.id_eq (by decide) _).symm, ⟨rfl, rfl⟩, ?_⟩
    rintro ⟨hbefore, -⟩
    simp [hfirst] at hbefore

theorem DeclineOf.events_eq {event : RecoveryEvent} {scenario : DemoScenario} {outcome : InvalidationOutcome}
    (h : DeclineOf scenarioFactory c event scenario outcome) : outcome.recoveryCase.events = c.events ++ [event] := by
  obtain ⟨_, _, _, _, _, _, _, _, _, heq⟩ := h.eq_declinedCase
  rw [heq]
  rfl

/-- A decline is recorded after a look whether its identifier is taken. -/
theorem EventsOk.declined (h : EventsOk c) {event recorded : RecoveryEvent} {scenario : DemoScenario}
    {outcome : InvalidationOutcome} (hdecline : DeclineOf scenarioFactory c event scenario outcome)
    (hmatches : MatchesOutcome outcome c')
    (hverified : c'.completionVerifiedAt = outcome.recoveryCase.completionVerifiedAt)
    (hevents : c'.events = c.events ++ [recorded]) (hid : recorded.eventId = event.eventId)
    (htype : recorded.eventType = event.eventType) : EventsOk c' := by
  obtain ⟨decline, plan, now, hcheck, -, _, _, _, _, heq⟩ := hdecline.eq_declinedCase
  obtain ⟨hevent, hunused, -, -⟩ := checkDecline_eq_ok hcheck
  obtain ⟨hcase, -, -, -, happrovals, hactions, -, -⟩ := hmatches
  rw [heq] at hcase happrovals hactions hverified
  have hgrows : Grows c c' := by
    refine Grows.of_kept hcase (fun a ha => ⟨a, ?_, rfl, fun _ => rfl⟩) ?_ fun hsome => ?_
    · rw [happrovals]
      exact ha
    · rw [hactions]
      exact List.Subset.refl _
    · rw [hverified]
      exact hsome
  refine h.append_unused hevents hgrows (hid ▸ hunused) fun hnone => ?_
  -- what is recorded is a decline
  have hkind : event.eventType = .caregiverDeclined := by
    by_contra hother
    rw [RecoveryEvent.decline?_eq_none hother] at hevent
    cases hevent
  rw [RecoveryEvent.decline?, dif_pos (htype.trans hkind)] at hnone
  cases hnone

/-! ### Histories -/

/-- A version resolves the case only if no earlier one has. -/
def ResolvesFirst (newer older : RecoveryCase) : Prop :=
  newer.status = .resolved → older.completionVerifiedAt = none

instance : DecidableRel ResolvesFirst := fun newer older =>
  inferInstanceAs (Decidable (newer.status = .resolved → older.completionVerifiedAt = none))

/-- **Nothing gets a name that is taken**: no decline is called like what the services report, no two approvals of a
case have one identifier, no plan whose actions are recorded changes an event twice, and no case is resolved
twice. -/
structure NamedOnce (saved : List RecoveryCase) : Prop where
  declines : ∀ c ∈ saved, DeclinesApart c
  approvals : ∀ c ∈ saved, (c.approvalHistory.map (·.approvalId)).Nodup
  changes : ∀ c ∈ saved, (versions saved c.caseId).IsChain RecordsOnce
  resolved : ∀ c ∈ saved, (versions saved c.caseId).IsChain ResolvesFirst

theorem EventsOk.of_initial (h : Initial c) : EventsOk c := by
  have hone : ∀ e : RecoveryEvent, e.decline? = none → e.eventId = EventName.disruption.id c.caseId →
      c.events = [e] → EventsOk c := by
    intro e _ hid hevents
    refine ⟨by rw [hevents]; exact List.nodup_singleton _, fun x hx _ => ⟨.disruption, c.caseId, ?_, by simp⟩⟩
    rw [hevents] at hx
    exact List.mem_singleton.mp hx ▸ hid
  cases h with
  | noOption command caseId scenario uncovered now h =>
    subst h
    exact hone _ (RecoveryEvent.decline?_eq_none (by simp [disruptionEvent])) (EventName.id_eq (by decide) _).symm rfl
  | started h =>
    obtain ⟨_, _, _, _, _, _, _, _, _, rfl⟩ := h
    exact hone _ (RecoveryEvent.decline?_eq_none (by simp [disruptionEvent])) (EventName.id_eq (by decide) _).symm rfl

/-- **A step keeps the identifiers of the events distinct** when nothing gets a name that is taken. -/
theorem EventsOk.step {past : List RecoveryCase} (h : EventsOk c)
    (hist : CaseHistory scenarioFactory answers (c :: past)) (hs : CaseStep scenarioFactory answers seen c c')
    (hapart : DeclinesApart c') (happrovals : (c'.approvalHistory.map (·.approvalId)).Nodup)
    (hrecords : RecordsOnce c' c) (hresolved : ResolvesFirst c' c) : EventsOk c' := by
  cases hs with
  | work hw =>
    cases hw with
    | gateExecuting now _ _ _ => exact ⟨h.nodup, h.known⟩
    | gateApproval now _ _ _ _ _ => exact h.requested happrovals hapart
    | decide decision now reason hmem hcheck =>
      obtain ⟨hpending, -, -, -⟩ := checkDecision_eq_ok hcheck
      rw [decidedCase_approvalIds] at happrovals
      exact h.decided hmem hpending happrovals hapart
    | execute now hcheck hrun => exact h.executed hist hcheck hrun hrecords hapart
    | resolve now _ _ _ _ => exact h.resolved (hresolved rfl) hapart
  | @noOption event scenario outcome externalDisabled uncovered now hd =>
    have hmatches := matchesOutcome_noOptionCase hd externalDisabled uncovered now
    have hevents : (noOptionCase outcome event externalDisabled uncovered now).events = c.events ++
        [{ event with details := event.details ++
            noOptionDetails externalDisabled uncovered (outcome.preservedSegments.map (·.segmentId)) }] := by
      rw [noOptionCase, hd.events_eq, List.dropLast_concat]
    exact h.declined hd hmatches rfl hevents rfl rfl
  | replanFailed hd => exact h.declined hd (.refl _) rfl hd.events_eq rfl rfl
  | replanAccepted hr =>
    obtain ⟨event, scenario, outcome, response, facts, plan, assumptions, hd, -, -, -, rfl⟩ := hr
    have hmatches := matchesOutcome_acceptedCase outcome plan assumptions response.researchedCandidate
    obtain ⟨contextState, heq⟩ := withResearched_eq { outcome.recoveryCase with
      status := .executing
      activeRecoveryPlan := some plan
      assumptions
      uncoveredWindows := [] } response.researchedCandidate
    refine h.declined hd hmatches ?_ ?_ rfl rfl
    · rw [acceptedCase, heq]
    · rw [acceptedCase, heq]
      exact hd.events_eq

theorem eventsOk_of_history {l : List RecoveryCase} (h : CaseHistory scenarioFactory answers l)
    (hdeclines : ∀ c ∈ l, DeclinesApart c) (happrovals : ∀ c ∈ l, (c.approvalHistory.map (·.approvalId)).Nodup)
    (hrecords : l.IsChain RecordsOnce) (hresolved : l.IsChain ResolvesFirst) : ∀ c ∈ l, EventsOk c := by
  induction h with
  | nil => simp
  | @start c hinit =>
    intro c' hc'
    obtain rfl := List.mem_singleton.mp hc'
    have hstart := EventsOk.of_initial hinit
    exact ⟨hstart.nodup, hstart.known⟩
  | @step c c' past hist hs ih =>
    have hold := ih (fun x hx => hdeclines x (List.mem_cons_of_mem _ hx))
      (fun x hx => happrovals x (List.mem_cons_of_mem _ hx)) (List.isChain_cons_cons.mp hrecords).2
      (List.isChain_cons_cons.mp hresolved).2
    intro x hx
    rcases List.mem_cons.mp hx with rfl | hx
    · have hc : c ∈ c :: past := List.mem_cons_self ..
      have hnext : EventsOk c' := (hold c hc).step hist hs (hdeclines (stored c' _) (List.mem_cons_self ..))
        (happrovals (stored c' _) (List.mem_cons_self ..)) (List.isChain_cons_cons.mp hrecords).1
        (List.isChain_cons_cons.mp hresolved).1
      exact ⟨hnext.nodup, hnext.known⟩
    · exact hold x hx

/-- **The events of a case have different identifiers** in every run in which nothing gets a name that is taken. -/
theorem nodup_eventIds_of_reaches {cfg : Config String RecoveryCase Failure Answer RecoveryCase}
    (h : Reaches scenarioFactory answers cfg) (hnames : NamedOnce cfg.saved) :
    ∀ c ∈ cfg.saved, (c.events.map (·.eventId)).Nodup := by
  intro c hc
  have hsaved : ∀ {P : RecoveryCase → Prop}, (∀ x ∈ cfg.saved, P x) → ∀ x ∈ versions cfg.saved c.caseId, P x :=
    fun hP x hx => hP x (List.mem_filter.mp hx).1
  have hok := eventsOk_of_history (caseHistory_of_reaches h c.caseId) (hsaved hnames.declines)
    (hsaved hnames.approvals) (hnames.changes c hc) (hnames.resolved c hc)
  exact (hok c (mem_versions hc)).nodup

/-- A day with three sitters. -/
def threeSittersDay : DemoScenario :=
  day (minutes 0 120) [sitter "kim" [minutes 0 120], sitter "lee" [minutes 0 120], sitter "sam" [minutes 0 120]]

/-- One sitter after the other is to come, and `n` of them decline. -/
def declinedInTurn (n : ℕ) : Schedule :=
  ([.spawn (startRecovery threeSittersDay threeSittersDay nannyIll),
    .steps 0 100 (answering 1 "case" (allDayBy "kim") none),
    .spawn (processEvent threeSittersDay "case" (declineCommand "kim" (minutes 0 120))),
    .steps 1 100 (answering 2 "first" (allDayBy "lee") none),
    .spawn (processEvent threeSittersDay "case" (declineCommand "lee" (minutes 0 120))),
    .steps 2 100 (answering 3 "second" (allDayBy "sam") none)] : Schedule).take (2 * n + 2)

theorem reaches_declinedInTurn (n : ℕ) :
    Reaches threeSittersDay (fun _ _ => True) (Config.run (declinedInTurn n)) := by
  apply reachable_run
  intro t ht
  replace ht := List.mem_of_mem_take ht
  simp only [List.mem_cons, List.not_mem_nil, or_false] at ht
  rcases ht with rfl | rfl | rfl | rfl | rfl | rfl
  · exact .start ..
  · exact env_answering fun _ => trivial
  · exact .event ..
  · exact env_answering fun _ => trivial
  · exact .event ..
  · exact env_answering fun _ => trivial

theorem nodup_eventIds_declinedInTurn :
    (∃ c ∈ (Config.run (declinedInTurn 1)).saved, c.status = .resolved) ∧
      ∀ c ∈ (Config.run (declinedInTurn 1)).saved, (c.events.map (·.eventId)).Nodup := by
  have hnames : ∀ c ∈ (Config.run (declinedInTurn 1)).saved, DeclinesApart c ∧
      (c.approvalHistory.map (·.approvalId)).Nodup ∧
        (versions (Config.run (declinedInTurn 1)).saved c.caseId).IsChain RecordsOnce ∧
          (versions (Config.run (declinedInTurn 1)).saved c.caseId).IsChain ResolvesFirst := by decide +kernel
  refine ⟨by decide +kernel, nodup_eventIds_of_reaches (reaches_declinedInTurn 1) ⟨?_, ?_, ?_, ?_⟩⟩
  · exact fun c hc => (hnames c hc).1
  · exact fun c hc => (hnames c hc).2.1
  · exact fun c hc => (hnames c hc).2.2.1
  · exact fun c hc => (hnames c hc).2.2.2

/-- Both times the next sitter's plan is carried out and the case resolved, each time under the same identifier. -/
theorem declinedInTurn_repeats :
    ∃ cfg, Reaches threeSittersDay (fun _ _ => True) cfg ∧ ∃ c ∈ cfg.saved, ¬ (c.events.map (·.eventId)).Nodup :=
  ⟨_, reaches_declinedInTurn 2, by decide +kernel⟩

end DayMend.Runs
