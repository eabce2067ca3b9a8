import DayMend.Runs.Programs

/-!
# The expected version of a decision

A decision may name the version of the case that the client has seen. `decide_approval`
compares it with the version that it reads first; the decision is then applied to what
`_decide` reads, and the plan executed on what is read after that. `versionGuards_iff` says
when the comparison guards what is done: exactly when no other version of the case is
stored between the first read of a call and its first save. Of calls with the same
expected version then at most one changes the case.
-/

namespace DayMend.Runs

open DayMend.Base DayMend.Models DayMend.Fixtures DayMend.Services DayMend.Agent DayMend.Application

variable {scenarioFactory : DemoScenario}
  {answers : AgentRuntimeRequest → Except Failure AgentRuntimeResponse → Prop} {c : RecoveryCase} {caseId : String}

/-! ### What a decision does by itself -/

/-- A call begins by reading the case; it saves the case only, under some version, and only if the version that it
has read first is the expected one. -/
def DecisionAllowed (caseId : String) (v : ℕ) (earlier : List (Event String RecoveryCase Answer)) :
    Event String RecoveryCase Answer → Prop
  | .read k _ => earlier = [] → k = caseId
  | .saved c expected => c.caseId = caseId ∧ expected.isSome ∧
    ∃ c₀, earlier.getLast? = some (.read caseId (some c₀)) ∧ c₀.version = v
  | .refused _ _ => earlier ≠ []
  | .asked _ _ => earlier ≠ []

/-- The first event is the read of a version `v` of the case. -/
def HasRead (caseId : String) (v : ℕ) (events : List (Event String RecoveryCase Answer)) : Prop :=
  ∃ c₀, events.getLast? = some (.read caseId (some c₀)) ∧ c₀.version = v

variable {v : ℕ} {events : List (Event String RecoveryCase Answer)}

theorem HasRead.ne_nil (h : HasRead caseId v events) : events ≠ [] := by
  rintro rfl
  obtain ⟨_, h, -⟩ := h
  cases h

theorem HasRead.cons (h : HasRead caseId v events) (ev : Event String RecoveryCase Answer) :
    HasRead caseId v (ev :: events) := by
  obtain ⟨c₀, hc₀, hv⟩ := h
  refine ⟨c₀, ?_, hv⟩
  rw [List.getLast?_cons, hc₀]
  rfl

variable (answers caseId v) in
/-- A program that a call runs after its first read. -/
def Guarded {α : Type} (p : Service α) : Prop :=
  ∀ events, HasRead caseId v events →
    p.Obeys (env answers) (DecisionAllowed caseId v) events fun later _ => HasRead caseId v later

theorem Guarded.bind {α β : Type} {p : Service α} {f : α → Service β} (hp : Guarded answers caseId v p)
    (hf : ∀ a, Guarded answers caseId v (f a)) : Guarded answers caseId v (p >>= f) := by
  intro events h
  rw [Prog.obeys_bind]
  exact Prog.Obeys.mono (fun later a hlater => hf a later hlater) (hp events h)

theorem guarded_ret {α : Type} {a : α} : Guarded answers caseId v (.ret a : Service α) := fun _ h => h

theorem guarded_raise {α : Type} {e : Failure} : Guarded answers caseId v (.raise e : Service α) := fun _ _ => trivial

theorem guarded_ofExcept_bind {α β : Type} {x : Except Failure α} {f : α → Service β}
    (h : ∀ a, x = .ok a → Guarded answers caseId v (f a)) : Guarded answers caseId v (Prog.ofExcept x >>= f) := by
  intro events hevents
  rw [Prog.obeys_bind, Prog.obeys_ofExcept]
  exact fun a ha => h a ha events hevents

theorem guarded_ask {α : Type} {q : Query} {next : Answer q → Service α} (h : ∀ a, Guarded answers caseId v (next a)) :
    Guarded answers caseId v (.ask q next) :=
  fun _ hevents a _ => ⟨hevents.ne_nil, h a _ (hevents.cons _)⟩

theorem guarded_nowAfter {notBefore : Instant} : Guarded answers caseId v (nowAfter notBefore) :=
  guarded_ask fun _ => guarded_ret

theorem guarded_getCase_bind {α : Type} {f : RecoveryCase → Service α}
    (h : ∀ c, c.caseId = caseId → Guarded answers caseId v (f c)) :
    Guarded answers caseId v (getCase caseId >>= f) := by
  intro events hevents
  rw [Prog.obeys_bind]
  rintro (_ | c) hc
  · exact ⟨fun hnil => absurd hnil hevents.ne_nil, trivial⟩
  · exact ⟨fun hnil => absurd hnil hevents.ne_nil, h c (hc c rfl) _ (hevents.cons _)⟩

theorem guarded_saveCase {w : ℕ} (h : c.caseId = caseId) : Guarded answers caseId v (saveCase c (some w)) := by
  intro events hevents
  exact ⟨⟨⟨h, rfl, hevents⟩, hevents.cons _⟩, hevents.ne_nil, trivial⟩

theorem guarded_runActions {planId : String} {existing : Dict String ExecutionAction} {now : Instant}
    {required : List ExecutionAction} : ∀ {progress : ExecutionProgress},
    Guarded answers caseId v (runActions planId existing now required progress) := by
  induction required with
  | nil => exact guarded_ret
  | cons action rest ih =>
    intro progress
    rw [runActions]
    split
    · exact ih
    · exact (guarded_ask fun _ => guarded_ret).bind fun _ => ih

theorem guarded_execute {now : Instant} : Guarded answers caseId v (execute caseId now) := by
  rw [execute]
  refine guarded_getCase_bind fun c hc => guarded_ofExcept_bind fun plan _ => ?_
  dsimp only
  split
  · exact guarded_ret
  · refine guarded_runActions.bind fun progress => ?_
    refine Guarded.bind (guarded_saveCase ?_) fun _ => guarded_ret
    exact hc

theorem guarded_verifyAndResolve {scenario : DemoScenario} {now : Instant} :
    Guarded answers caseId v (verifyAndResolve caseId scenario now) := by
  rw [verifyAndResolve]
  refine guarded_getCase_bind fun c hc => ?_
  split
  · exact guarded_ret
  · dsimp only
    split
    · exact guarded_ret
    · refine Guarded.bind (guarded_saveCase ?_) fun _ => guarded_ret
      exact hc

theorem guarded_executeAndComplete : Guarded answers caseId v (executeAndComplete scenarioFactory caseId) := by
  rw [executeAndComplete]
  refine guarded_getCase_bind fun c _ => guarded_ofExcept_bind fun scenario _ => guarded_ofExcept_bind fun _ _ => ?_
  refine guarded_nowAfter.bind fun now => guarded_execute.bind fun execution => ?_
  split
  · exact guarded_ret
  · exact guarded_nowAfter.bind fun later => guarded_verifyAndResolve.bind fun _ => guarded_ret

theorem guarded_decide {approvalId : String} {decision : ApprovalDecision} {now : Instant} {reason : Option String} :
    Guarded answers caseId v (Services.decide caseId approvalId decision now reason) := by
  rw [Services.decide]
  refine guarded_getCase_bind fun c hc => ?_
  dsimp only
  split
  · exact guarded_raise
  split
  · exact guarded_ret
  · refine guarded_ofExcept_bind fun _ _ => ?_
    refine Guarded.bind (guarded_saveCase ?_) fun _ => guarded_ret
    exact hc

/-- **A call with an expected version** saves the case only after it has read that version first. -/
theorem obeys_decideApproval {approvalId : String} {command : ApprovalCommand}
    (hv : command.expectedVersion = some v) :
    (decideApproval scenarioFactory caseId approvalId command).Obeys (env answers) (DecisionAllowed caseId v) []
      fun _ _ => True := by
  rw [decideApproval, Prog.obeys_bind]
  rintro (_ | c) hc
  · exact ⟨fun _ => rfl, trivial⟩
  refine ⟨fun _ => rfl, ?_⟩
  change Prog.Obeys _ _ (Prog.ofExcept (checkExpectedVersion c command.expectedVersion) >>= _) _ _
  rw [Prog.obeys_bind, Prog.obeys_ofExcept]
  intro _ hcheck
  have hversion : c.version = v := by
    rw [hv, checkExpectedVersion] at hcheck
    split at hcheck
    · cases hcheck
    next hsame => exact (not_not.mp hsame).symm
  have hread : HasRead caseId v [.read caseId (some c)] := ⟨c, rfl, hversion⟩
  have hrest : Guarded answers caseId v (do
      let now ← nowAfter c.updatedAt
      let reason := if command.decision = .approve then none else command.reason
      let result ← Services.decide caseId approvalId command.decision now reason
      if result.approval.status ≠ .approved then return result.recoveryCase
      if result.idempotent ∧ result.recoveryCase.status = .resolved then return result.recoveryCase
      executeAndComplete scenarioFactory caseId) := by
    refine guarded_nowAfter.bind fun now => guarded_decide.bind fun result => ?_
    split
    · exact guarded_ret
    split
    · exact guarded_ret
    · exact guarded_executeAndComplete
  exact Prog.Obeys.mono (fun _ _ _ => trivial) (hrest _ hread)

/-! ### Calls in a run -/

section Calls

variable {starts : List (Service RecoveryCase)} {trace start before : Trace String RecoveryCase Answer}
  {cfg : Config String RecoveryCase Failure Answer RecoveryCase} {i j : ℕ} {e : Option ℕ}

/-- Request `i` is a decision about the case with the expected version `v`. -/
def IsDecision (scenarioFactory : DemoScenario) (starts : List (Service RecoveryCase)) (caseId : String) (v i : ℕ) :
    Prop :=
  ∃ approvalId command, starts[i]? = some (decideApproval scenarioFactory caseId approvalId command) ∧
    command.expectedVersion = some v

/-- The first save of a call replaces the version that it expects. -/
def VersionGuards (scenarioFactory : DemoScenario) (starts : List (Service RecoveryCase))
    (trace : Trace String RecoveryCase Answer) (caseId : String) : Prop :=
  ∀ v i, IsDecision scenarioFactory starts caseId v i → ∀ start before c e, FirstSave i trace start before c e →
    c.caseId = caseId ∧ e = some v

/-- Of calls with the same expected version at most one changes the case. -/
def AtMostOneChanges (scenarioFactory : DemoScenario) (starts : List (Service RecoveryCase))
    (trace : Trace String RecoveryCase Answer) (caseId : String) : Prop :=
  ∀ v i j, IsDecision scenarioFactory starts caseId v i → IsDecision scenarioFactory starts caseId v j →
    HasSaved (own i trace) → HasSaved (own j trace) → i = j

/-- No version of the case is stored between the first step of a call and its first save. -/
def Undisturbed (scenarioFactory : DemoScenario) (starts : List (Service RecoveryCase))
    (trace : Trace String RecoveryCase Answer) (caseId : String) : Prop :=
  ∀ v i, IsDecision scenarioFactory starts caseId v i → ∀ start before c e, FirstSave i trace start before c e →
    versions (logOf before) caseId = versions (logOf start) caseId

theorem decisionAllowed_of_saved (h : Traced (env answers) (Request scenarioFactory) starts trace cfg)
    (hi : IsDecision scenarioFactory starts caseId v i) (hsaved : (i, .saved c e) :: before <:+ trace) :
    DecisionAllowed caseId v (own i before) (.saved c e) := by
  obtain ⟨approvalId, command, hstart, hv⟩ := hi
  have hkeeps := (h.keeps hstart (obeys_decideApproval hv)).1
  have hown : Event.saved c e :: own i before <:+ own i trace := by
    rw [← own_cons_self]
    exact own_suffix i hsaved
  exact hkeeps.of_suffix hown

/-- Every call that changes the case makes a first save. -/
theorem exists_firstSave (h : Traced (env answers) (Request scenarioFactory) starts trace cfg)
    (hi : IsDecision scenarioFactory starts caseId v i) (hs : HasSaved (own i trace)) :
    ∃ start before c e, FirstSave i trace start before c e := by
  obtain ⟨before, c, e, hsaved, hnone⟩ := exists_first_save hs
  obtain ⟨-, -, c₀, hlast, -⟩ := decisionAllowed_of_saved h hi hsaved
  have hne : own i before ≠ [] := by
    intro hnil
    rw [hnil] at hlast
    cases hlast
  obtain ⟨ev, start, hstart, hcame⟩ := exists_start hne
  exact ⟨start, before, c, e, hsaved, hnone, ⟨ev, hstart⟩, hcame⟩

/-- What the first save of a call rests on: the version `v` was stored when the call came, and the save replaces
the version `w`. -/
theorem replaces_of_firstSave (hf : FirstSave i trace start before c e)
    (h : Traced (env answers) (Request scenarioFactory) starts trace cfg)
    (hi : IsDecision scenarioFactory starts caseId v i) :
    c.caseId = caseId ∧ (∃ c₀, current (logOf start) caseId = some c₀ ∧ c₀.version = v) ∧
      ∃ c₁, current (logOf before) caseId = some c₁ ∧ e = some c₁.version := by
  obtain ⟨hcase, hsome, c₀, hlast, hversion⟩ := decisionAllowed_of_saved h hi hf.saved
  obtain ⟨ev, hev⟩ := hf.started
  -- the first event is the read
  have hfirst : [ev] <:+ own i before := by
    have hsuffix := own_suffix i hev
    rwa [own_cons_self, hf.came] at hsuffix
  obtain ⟨later, hlater⟩ := hfirst
  rw [← hlater, List.getLast?_concat] at hlast
  obtain rfl := Option.some.inj hlast
  have hread : some c₀ = current (logOf start) caseId :=
    h.agrees (hev.trans ((List.suffix_cons ..).trans hf.saved))
  have haccepts : (current (logOf before) c.caseId).map version = e := h.agrees hf.saved
  obtain ⟨w, rfl⟩ := Option.isSome_iff_exists.mp hsome
  obtain ⟨c₁, hc₁, rfl⟩ := Option.map_eq_some_iff.mp haccepts
  exact ⟨hcase, ⟨c₀, hread.symm, hversion⟩, c₁, hcase ▸ hc₁, rfl⟩

/-- **The first save of a call replaces the expected version** exactly when no other version has been stored since
the call came. -/
theorem firstSave_guarded_iff (hf : FirstSave i trace start before c e)
    (h : Traced (env answers) (Request scenarioFactory) starts trace cfg)
    (hi : IsDecision scenarioFactory starts caseId v i) :
    e = some v ↔ versions (logOf before) caseId = versions (logOf start) caseId := by
  obtain ⟨-, ⟨c₀, hc₀, rfl⟩, c₁, hc₁, rfl⟩ := replaces_of_firstSave hf h hi
  have hsuffix : before <:+ trace := (List.suffix_cons ..).trans hf.saved
  obtain ⟨ev, hev⟩ := hf.started
  obtain ⟨newer, hnewer⟩ := versions_suffix ((List.suffix_cons ..).trans hev) caseId
  rw [current_eq_head?] at hc₀ hc₁
  obtain ⟨older, holder⟩ := List.head?_eq_some_iff.mp hc₀
  have hpairwise := (caseHistory_of_suffix h hsuffix caseId).pairwise_version
  rw [← hnewer] at hc₁ hpairwise ⊢
  rw [holder] at hc₁ hpairwise ⊢
  cases newer with
  | nil =>
    obtain rfl := Option.some.inj hc₁
    simp
  | cons d newer =>
    -- a newer version has a greater number
    obtain rfl := Option.some.inj hc₁
    have hlt : c₀.version < d.version := List.rel_of_pairwise_cons hpairwise (by simp)
    constructor
    · intro heq
      have := Option.some.inj heq
      omega
    · intro heq
      have := congrArg List.length heq
      simp at this
      omega

/-- A save that replaces the version `v` of a case is not followed by another one. -/
theorem saved_once (h : Traced (env answers) (Request scenarioFactory) starts trace cfg)
    {before' : Trace String RecoveryCase Answer} {c' : RecoveryCase} (hc : c.caseId = caseId) (hc' : c'.caseId = caseId)
    (hsaved : (j, .saved c' (some v)) :: before' <:+ trace) :
    ¬ (i, .saved c (some v)) :: before <:+ before' := by
  intro hearlier
  have haccepts : (current (logOf before') c'.caseId).map version = some v := h.agrees hsaved
  obtain ⟨c₁, hc₁, hversion⟩ := Option.map_eq_some_iff.mp haccepts
  rw [hc', current_eq_head?] at hc₁
  obtain ⟨older, holder⟩ := List.head?_eq_some_iff.mp hc₁
  have hpairwise := (caseHistory_of_suffix h ((List.suffix_cons ..).trans hsaved) caseId).pairwise_version
  -- the save of the first is in the log, under the next number
  have hmem : stored c (some v) ∈ versions (logOf before') caseId := by
    refine (versions_suffix hearlier caseId).subset (List.mem_filter.mpr ⟨List.mem_cons_self .., ?_⟩)
    exact decide_eq_true (by rw [key_stored]; exact hc)
  have hnext : version (stored c (some v)) = v + 1 := rfl
  rw [holder] at hpairwise hmem
  rcases List.mem_cons.mp hmem with heq | hmem
  · rw [heq] at hnext
    omega
  · have hlt := List.rel_of_pairwise_cons hpairwise hmem
    omega

/-- Of calls whose first saves replace the version that they expect, at most one changes the case. -/
theorem VersionGuards.atMostOneChanges (hg : VersionGuards scenarioFactory starts trace caseId)
    (h : Traced (env answers) (Request scenarioFactory) starts trace cfg) :
    AtMostOneChanges scenarioFactory starts trace caseId := by
  intro v i j hi hj hsi hsj
  have hfirst : ∀ {i}, IsDecision scenarioFactory starts caseId v i → HasSaved (own i trace) →
      ∃ before c, c.caseId = caseId ∧ (i, .saved c (some v)) :: before <:+ trace := by
    intro i hi hs
    obtain ⟨start, before, c, e, hf⟩ := exists_firstSave h hi hs
    obtain ⟨hcase, rfl⟩ := hg v i hi start before c e hf
    exact ⟨before, c, hcase, hf.saved⟩
  obtain ⟨before, c, hc, hsaved⟩ := hfirst hi hsi
  obtain ⟨before', c', hc', hsaved'⟩ := hfirst hj hsj
  rcases List.suffix_or_suffix_of_suffix hsaved hsaved' with hle | hle
  · rcases List.suffix_cons_iff.mp hle with heq | hle
    · exact congrArg Prod.fst (List.cons.inj heq).1
    · exact absurd hle (saved_once h hc hc' hsaved')
  · rcases List.suffix_cons_iff.mp hle with heq | hle
    · exact (congrArg Prod.fst (List.cons.inj heq).1).symm
    · exact absurd hle (saved_once h hc' hc hsaved)

/-- **When the expected version guards a decision**: in every run the first save of every call replaces the version
that it expects, and so at most one of the calls with the same expected version changes the case, exactly when no
version of the case is stored between the first read of a call and its first save. -/
theorem versionGuards_iff (h : Traced (env answers) (Request scenarioFactory) starts trace cfg) :
    VersionGuards scenarioFactory starts trace caseId ∧ AtMostOneChanges scenarioFactory starts trace caseId ↔
      Undisturbed scenarioFactory starts trace caseId := by
  constructor
  · rintro ⟨hg, -⟩ v i hi start before c e hf
    exact (firstSave_guarded_iff hf h hi).mp (hg v i hi start before c e hf).2
  · intro hu
    have hg : VersionGuards scenarioFactory starts trace caseId := by
      intro v i hi start before c e hf
      obtain ⟨hcase, -⟩ := replaces_of_firstSave hf h hi
      exact ⟨hcase, (firstSave_guarded_iff hf h hi).mpr (hu v i hi start before c e hf)⟩
    exact ⟨hg, hg.atMostOneChanges h⟩

end Calls

/-- Two approvals that expect version 2; the first to come has read the case when the second one is decided. -/
def expectedTwice (n : ℕ) : Schedule :=
  [.spawn (startRecovery paidDay paidDay nannyIll), .steps 0 100 (answering 1 "case" paidPlan none),
    .spawn (decideApproval paidDay "case" "case" { decision := .approve, expectedVersion := some 2 }),
    .steps 1 n (answering 2 "event" paidPlan none),
    .spawn (decideApproval paidDay "case" "case" { decision := .approve, expectedVersion := some 2 }),
    .steps 2 4 (answering 3 "event" paidPlan none), .steps 1 100 (answering 4 "event" paidPlan none)]

theorem traced_expectedTwice (n : ℕ) :
    Traced (env fun _ _ => True) (Request paidDay) (Run.of (expectedTwice n)).starts (Run.of (expectedTwice n)).trace
      (Run.of (expectedTwice n)).cfg := by
  apply traced_run
  intro t ht
  simp only [expectedTwice, List.mem_cons, List.not_mem_nil, or_false] at ht
  rcases ht with rfl | rfl | rfl | rfl | rfl | rfl | rfl
  · exact .start ..
  · exact env_answering fun _ => trivial
  · exact .decide ..
  · exact env_answering fun _ => trivial
  · exact .decide ..
  · exact env_answering fun _ => trivial
  · exact env_answering fun _ => trivial

/-- One approval comes after the other. -/
theorem versionGuards_iff_expectedTwice :
    HasSaved (own 1 (Run.of (expectedTwice 100)).trace) ∧
      (VersionGuards paidDay (Run.of (expectedTwice 100)).starts (Run.of (expectedTwice 100)).trace "case" ∧
        AtMostOneChanges paidDay (Run.of (expectedTwice 100)).starts (Run.of (expectedTwice 100)).trace "case" ↔
          Undisturbed paidDay (Run.of (expectedTwice 100)).starts (Run.of (expectedTwice 100)).trace "case") :=
  ⟨by decide +kernel, versionGuards_iff (traced_expectedTwice 100)⟩

/-- The second approval is decided after the first has compared the version: both change the case. -/
theorem expectedTwice_changes_twice :
    ∃ starts trace cfg, Traced (env fun _ _ => True) (Request paidDay) starts trace cfg ∧
      ¬ (VersionGuards paidDay starts trace "case" ∧ AtMostOneChanges paidDay starts trace "case") := by
  refine ⟨_, _, _, traced_expectedTwice 1, ?_⟩
  rintro ⟨-, hmost⟩
  have hfirst : IsDecision paidDay (Run.of (expectedTwice 1)).starts "case" 2 1 := ⟨_, _, rfl, rfl⟩
  have hsecond : IsDecision paidDay (Run.of (expectedTwice 1)).starts "case" 2 2 := ⟨_, _, rfl, rfl⟩
  have hsame := hmost 2 1 2 hfirst hsecond (by decide +kernel) (by decide +kernel)
  omega

end DayMend.Runs
