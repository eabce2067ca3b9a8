import DayMend.Frontend.RecoveryStore
import DayMend.Runs.Programs

/-!
# Rejections as the client sees them

A rejection leaves the actions of a case and the time of its verification alone, and the
client takes a rejected case for inconsistent unless it has neither
(`approvalResponseError`). A case that has been executed may come to wait for approval
again, after a decline; when the parent then says no, the client reports an error
(`rejectedLater_reported`). `rejection_agrees_iff` says exactly when it does not.
-/

namespace DayMend.Runs

open DayMend.Base DayMend.Models DayMend.Fixtures DayMend.Services DayMend.Agent DayMend.Application
open DayMend.Frontend

variable {scenarioFactory : DemoScenario}
  {answers : AgentRuntimeRequest → Except Failure AgentRuntimeResponse → Prop} {c : RecoveryCase}
  {caseId approvalId : String}

/-- The last request for approval with an identifier, which the service decides. -/
def lastApproval (recoveryCase : RecoveryCase) (approvalId : String) : Option ApprovalRequest :=
  (recoveryCase.approvalHistory.filter fun approval => approval.approvalId = approvalId).getLast?

/-- What a rejection returns when it has read `c₀`: the case itself if the request was rejected before, and otherwise
the case with the open request rejected. -/
inductive Rejection (approvalId : String) (c₀ : RecoveryCase) : RecoveryCase → Prop where
  /-- It was rejected before. -/
  | repeated {approval : ApprovalRequest} (hlast : lastApproval c₀ approvalId = some approval)
      (hstatus : approval.status = .rejected) : Rejection approvalId c₀ c₀
  /-- It is rejected. -/
  | recorded {approval : ApprovalRequest} (now : Instant) (reason : Option String)
      (hlast : lastApproval c₀ approvalId = some approval) (hcheck : checkDecision c₀ approval = .ok ()) :
      Rejection approvalId c₀ (stored (decidedCase c₀ approval .reject now reason) (some c₀.version))

/-- What a rejection reads last. -/
def RejectionOf (caseId approvalId : String) (events : List (Event String RecoveryCase Answer)) (c : RecoveryCase) :
    Prop :=
  ∃ c₀, lastRead events = some (caseId, some c₀) ∧ Rejection approvalId c₀ c

theorem obeys_getCase {events : List (Event String RecoveryCase Answer)}
    {post : List (Event String RecoveryCase Answer) → RecoveryCase → Prop}
    (h : ∀ c, c.caseId = caseId → post (.read caseId (some c) :: events) c) :
    (getCase caseId).Obeys (env answers) (fun _ _ => True) events post := by
  rintro (_ | c) hc
  · exact ⟨trivial, trivial⟩
  · exact ⟨trivial, h c (hc c rfl)⟩

theorem obeys_nowAfter {events : List (Event String RecoveryCase Answer)} {notBefore : Instant} :
    (nowAfter notBefore).Obeys (env answers) (fun _ _ => True) events fun _ _ => True :=
  fun _ _ => ⟨trivial, trivial⟩

/-- A rejection that goes well returns what it has made of the case that it has read. -/
theorem obeys_decide_reject {now : Instant} {reason : Option String}
    {events : List (Event String RecoveryCase Answer)} :
    (Services.decide caseId approvalId .reject now reason).Obeys (env answers) (fun _ _ => True) events
      fun later result =>
        result.approval.status = .rejected ∧ RejectionOf caseId approvalId later result.recoveryCase := by
  rw [Services.decide, Prog.obeys_bind]
  refine obeys_getCase fun c₀ _ => ?_
  dsimp only
  split
  · trivial
  next approval hlast =>
    split
    next hstatus => exact ⟨hstatus, c₀, rfl, .repeated hlast hstatus⟩
    next =>
      rw [Prog.obeys_bind, Prog.obeys_ofExcept]
      rintro ⟨⟩ hcheck
      exact ⟨⟨trivial, rfl, c₀, rfl, .recorded now reason hlast hcheck⟩, trivial, trivial⟩

theorem obeys_decideApproval_reject {reason : Option String} {expectedVersion : Option ℕ} :
    (decideApproval scenarioFactory caseId approvalId { decision := .reject, reason, expectedVersion }).Obeys
      (env answers) (fun _ _ => True) [] (RejectionOf caseId approvalId) := by
  rw [decideApproval, Prog.obeys_bind]
  refine obeys_getCase fun current _ => ?_
  rw [Prog.obeys_bind, Prog.obeys_ofExcept]
  rintro - -
  rw [Prog.obeys_bind]
  refine Prog.Obeys.mono ?_ obeys_nowAfter
  rintro events now -
  dsimp only
  rw [Prog.obeys_bind]
  refine Prog.Obeys.mono ?_ obeys_decide_reject
  rintro later result ⟨hstatus, hresult⟩
  rw [if_pos (by rw [hstatus]; decide)]
  exact hresult

/-! ### What the client says -/

/-- The client finds the request rejected that has just been rejected, since all with its identifier are. -/
theorem firstApproval_decidedCase {approval : ApprovalRequest} (now : Instant) (reason : Option String)
    (hlast : lastApproval c approvalId = some approval) :
    (firstApproval (decidedCase c approval .reject now reason) approvalId).map (·.status) = some .rejected := by
  obtain ⟨hmem, hid⟩ := List.mem_filter.mp (List.mem_of_getLast? hlast)
  replace hid := of_decide_eq_true hid
  have hkept : ∀ item : ApprovalRequest,
      (if item.approvalId = approval.approvalId then decidedRequest approval .reject now else item).approvalId =
        item.approvalId := by
    intro item
    split
    next heq => exact heq.symm
    next => rfl
  have hfound : (firstApproval (decidedCase c approval .reject now reason) approvalId).isSome := by
    rw [firstApproval, List.find?_isSome]
    exact ⟨_, List.mem_map_of_mem hmem, decide_eq_true ((hkept approval).trans hid)⟩
  obtain ⟨item, hitem⟩ := Option.isSome_iff_exists.mp hfound
  rw [hitem, Option.map_some]
  have hitemId : item.approvalId = approvalId := by simpa using List.find?_some hitem
  obtain ⟨old, -, rfl⟩ := List.mem_map.mp (List.mem_of_find?_eq_some hitem)
  have hold : old.approvalId = approvalId := (hkept old).symm.trans hitemId
  rw [if_pos (hold.trans hid.symm)]
  rfl

/-- The client accepts what a rejection makes of the case `c`: nothing has been carried out for it, it has never
been verified, and if the request was rejected before, the case is still replanning and the first request with the
identifier is the rejected one. -/
structure SeenAsRejected (c : RecoveryCase) (approvalId : String) : Prop where
  no_actions : c.executionHistory = []
  not_verified : c.completionVerifiedAt = none
  unchanged : (lastApproval c approvalId).map (·.status) = some .rejected →
    c.status = .replanning ∧ (firstApproval c approvalId).map (·.status) = some .rejected

theorem Rejection.accepted_iff {c₀ : RecoveryCase} (h : Rejection approvalId c₀ c) :
    approvalResponseError (recoveryCaseResponse c) approvalId .reject = none ↔ SeenAsRejected c₀ approvalId := by
  rw [approvalResponseError_reject_iff]
  cases h with
  | repeated hlast hstatus =>
    constructor
    · rintro ⟨hfirst, hreplanning, hactions, hverified⟩
      exact ⟨hactions, hverified, fun _ => ⟨hreplanning, hfirst⟩⟩
    · intro h
      obtain ⟨hreplanning, hfirst⟩ := h.unchanged (by rw [hlast, Option.map_some, hstatus])
      exact ⟨hfirst, hreplanning, h.no_actions, h.not_verified⟩
  | @recorded approval now reason hlast hcheck =>
    obtain ⟨hpending, -⟩ := checkDecision_eq_ok hcheck
    constructor
    · rintro ⟨-, -, hactions, hverified⟩
      refine ⟨hactions, hverified, fun hrejected => ?_⟩
      rw [hlast, Option.map_some, hpending] at hrejected
      cases hrejected
    · exact fun h => ⟨firstApproval_decidedCase now reason hlast, rfl, h.no_actions, h.not_verified⟩

/-- **When backend and client agree on a rejection**: in every run, whatever a rejection returns, the client accepts it
if and only if nothing has been carried out for the case that the rejection has read, nor has it been verified,
and a rejection that repeats an earlier one finds the case still replanning. -/
theorem rejection_agrees_iff {starts : List (Service RecoveryCase)} {trace : Trace String RecoveryCase Answer}
    {cfg : Config String RecoveryCase Failure Answer RecoveryCase}
    (h : Traced (env answers) (Request scenarioFactory) starts trace cfg) {i : ℕ} {reason : Option String}
    {expectedVersion : Option ℕ}
    (hstart : starts[i]? =
      some (decideApproval scenarioFactory caseId approvalId { decision := .reject, reason, expectedVersion }))
    (hret : cfg.threads[i]? = some (.ret c)) :
    ∃ c₀ ∈ versions (logOf (beforeRead i trace)) caseId, lastRead (own i trace) = some (caseId, some c₀) ∧
      (approvalResponseError (recoveryCaseResponse c) approvalId .reject = none ↔ SeenAsRejected c₀ approvalId) := by
  obtain ⟨c₀, hread, hrejection⟩ := h.post_of_ret hstart obeys_decideApproval_reject hret
  have hcurrent := h.lastRead_eq List.suffix_rfl hread
  refine ⟨c₀, List.mem_filter.mpr ⟨List.mem_of_find?_eq_some hcurrent.symm, ?_⟩, hread, hrejection.accepted_iff⟩
  exact decide_eq_true (key_of_current hcurrent.symm)

/-- The only sitter is to be paid, and the parent says no. -/
def rejectedAtOnce : Schedule :=
  [.spawn (startRecovery paidDay paidDay nannyIll), .steps 0 100 (answering 1 "case" paidPlan none),
    .spawn (decideApproval paidDay "case" "case" { decision := .reject }),
    .steps 1 100 (answering 2 "event" paidPlan none)]

theorem rejection_agrees_rejectedAtOnce :
    ∃ c, (Run.of rejectedAtOnce).cfg.threads[1]? = some (.ret c) ∧
      ∃ c₀ ∈ versions (logOf (beforeRead 1 (Run.of rejectedAtOnce).trace)) "case",
        lastRead (own 1 (Run.of rejectedAtOnce).trace) = some ("case", some c₀) ∧
          (approvalResponseError (recoveryCaseResponse c) "case" .reject = none ↔ SeenAsRejected c₀ "case") := by
  have hruns : Traced (env fun _ _ => True) (Request paidDay) (Run.of rejectedAtOnce).starts
      (Run.of rejectedAtOnce).trace (Run.of rejectedAtOnce).cfg :=
    traced_run (allowed_two (.start ..) (env_answering fun _ => trivial) (.decide ..) (env_answering fun _ => trivial))
  have hreturns : ((Run.of rejectedAtOnce).cfg.threads[1]?.bind Prog.result?).isSome := by decide +kernel
  obtain ⟨c, hc⟩ := Option.isSome_iff_exists.mp hreturns
  obtain ⟨p, hp, hret⟩ := Option.bind_eq_some_iff.mp hc
  rw [Prog.eq_ret_of_result? hret] at hp
  exact ⟨c, hp, rejection_agrees_iff hruns rfl hp⟩

/-- The first sitter declines and the second one's plan is carried out; then the second declines as well, and the
parent does not want to pay the third. -/
def rejectedLater : Schedule :=
  [.spawn (startRecovery lastPaidDay lastPaidDay nannyIll), .steps 0 100 (answering 1 "case" (allDayBy "kim") none),
    .spawn (processEvent lastPaidDay "case" (declineCommand "kim" (minutes 0 120))),
    .steps 1 100 (answering 2 "first" (allDayBy "lee") none),
    .spawn (processEvent lastPaidDay "case" (declineCommand "lee" (minutes 0 120))),
    .steps 2 100 (answering 3 "second" (allDayBy "sam") none),
    .spawn (decideApproval lastPaidDay "case" "second" { decision := .reject }),
    .steps 3 100 (answering 4 "third" (allDayBy "sam") none)]

theorem traced_rejectedLater :
    Traced (env fun _ _ => True) (Request lastPaidDay) (Run.of rejectedLater).starts (Run.of rejectedLater).trace
      (Run.of rejectedLater).cfg := by
  apply traced_run
  intro t ht
  simp only [rejectedLater, List.mem_cons, List.not_mem_nil, or_false] at ht
  rcases ht with rfl | rfl | rfl | rfl | rfl | rfl | rfl | rfl
  · exact .start ..
  · exact env_answering fun _ => trivial
  · exact .event ..
  · exact env_answering fun _ => trivial
  · exact .event ..
  · exact env_answering fun _ => trivial
  · exact .decide ..
  · exact env_answering fun _ => trivial

/-- The rejection is recorded, and the client reports it. -/
theorem rejectedLater_reported :
    ∃ starts trace cfg, Traced (env fun _ _ => True) (Request lastPaidDay) starts trace cfg ∧
      starts[3]? = some (decideApproval lastPaidDay "case" "second" { decision := .reject }) ∧
        ∃ c, cfg.threads[3]? = some (.ret c) ∧ c.status = .replanning ∧
          approvalResponseError (recoveryCaseResponse c) "second" .reject ≠ none := by
  have hreturns : ∃ c ∈ (Run.of rejectedLater).cfg.threads[3]?.bind Prog.result?, c.status = .replanning ∧
      approvalResponseError (recoveryCaseResponse c) "second" .reject ≠ none := by decide +kernel
  obtain ⟨c, hc, hstatus, hreported⟩ := hreturns
  obtain ⟨p, hp, hret⟩ := Option.bind_eq_some_iff.mp hc
  rw [Prog.eq_ret_of_result? hret] at hp
  exact ⟨_, _, _, traced_rejectedLater, rfl, c, hp, hstatus, hreported⟩

end DayMend.Runs
