import DayMend.Base.Fold
import DayMend.Progress.Buffer

/-!
# What the client shows of the progress

The client of `frontend/src/app/core/recovery.store.ts` subscribes to the progress of a
recovery under one identifier, the one that it chose when it started the recovery, or
that of the case when it has been reloaded since (`ensureProgress`). It shows the events
that carry this identifier and no other case than the current one (`acceptsProgress`).

The service writes the events of an operation to the channel that the identifier of the
request stands for, but stamps them with the identifier that the channel was opened
under. What the client asks for is therefore what it shows exactly if, at every event
of the operation, the channel was opened under the identifier of the subscription and
carries no other case (`shown_iff`). After a reload it never is: the channel of the
case was opened under the identifier that the client has forgotten
(`reloaded_shown_iff`).
-/

namespace DayMend.Frontend

open DayMend.Base DayMend.Progress RecoveryProgressBuffer

variable {α : Type}

/-! ### The client -/

/-- The parts of the store that decide what is shown. -/
structure ProgressStore where
  progressId : Option String := none
  currentCaseId : Option String := none

/-- What the client takes for missing. -/
def isMissing (text : Option String) : Bool := text == none || text == some ""

/-- `ensureProgress`: the subscription that there is, or else one under the case or, without one, a new identifier. -/
def ensureProgress (store : ProgressStore) (recoveryCaseId : Option String) (newProgressId : String) :
    String × ProgressStore :=
  if isMissing store.progressId then
    let progressId := recoveryCaseId.getD newProgressId
    (progressId, { store with progressId := some progressId })
  else (store.progressId.getD "", store)

/-- `acceptsProgress`. -/
def acceptsProgress (store : ProgressStore) (progressId : String) (event : RecoveryProgressEvent α) : Bool :=
  if store.progressId ≠ some progressId ∨ event.progressId ≠ progressId then false
  else isMissing event.recoveryCaseId || isMissing store.currentCaseId || event.recoveryCaseId == store.currentCaseId

/-- A client that looks at a case, subscribed under an identifier. -/
structure Subscription where
  progressId : String
  caseId : String

/-- The store of the client. -/
def Subscription.store (s : Subscription) : ProgressStore :=
  { progressId := some s.progressId, currentCaseId := some s.caseId }

/-- The subscription of a client that has been reloaded: `constructor`, with the case that it had stored. -/
def Subscription.afterReload (caseId newProgressId : String) : Subscription :=
  { progressId := (ensureProgress {} (some caseId) newProgressId).1, caseId }

theorem acceptsProgress_iff {s : Subscription} {event : RecoveryProgressEvent α} :
    acceptsProgress s.store s.progressId event ↔
      event.progressId = s.progressId ∧
        (isMissing event.recoveryCaseId ∨ s.caseId = "" ∨ event.recoveryCaseId = some s.caseId) := by
  rw [acceptsProgress]
  by_cases hid : event.progressId = s.progressId
  · simp [hid, Subscription.store, isMissing, or_assoc]
  · simp [hid]

/-! ### Its operations -/

/-- What happens to the buffer while an operation of the client runs. -/
inductive Turn (α : Type) where
  /-- The route of the operation starts its channel, with or without the case. -/
  | scope (named : Bool)
  /-- A log entry of the operation, which names the case or not. -/
  | log (named : Bool) (content : α)
  /-- Any other call: of other clients, of streams. -/
  | other (call : Call α)

/-- The case, where it is named. -/
def Subscription.named? (s : Subscription) (named : Bool) : Option String := if named then some s.caseId else none

/-- `create_recovery`: the case is named once it is there. -/
def createRecovery (logs : List (Bool × α)) : List (Turn α) :=
  .scope false :: logs.map (fun entry => .log entry.1 entry.2) ++ [.scope true]

/-- `add_recovery_event` and `decide_approval`. -/
def continueRecovery (logs : List (Bool × α)) : List (Turn α) :=
  .scope true :: logs.map fun entry => .log entry.1 entry.2

/-- The buffer, and the events of the operation so far, newest first. -/
structure Watched (α : Type) where
  buffer : RecoveryProgressBuffer α := {}
  own : List (RecoveryProgressEvent α) := []

/-- One turn. -/
def Watched.turn (s : Subscription) (w : Watched α) : Turn α → Watched α
  | .scope named => { w with buffer := w.buffer.perform (.start s.progressId (s.named? named)) }
  | .log named content =>
    match w.buffer.append s.progressId (s.named? named) content with
    | .error _ => w
    | .ok (buffer, event) => { buffer, own := event :: w.own }
  | .other call => { w with buffer := w.buffer.perform call }

/-- A run of turns. -/
def watch (s : Subscription) (turns : List (Turn α)) : Watched α := turns.foldl (Watched.turn s) {}

/-- **All is shown**: whatever a snapshot or a stream gives of the operation, the client accepts. -/
def Watched.AllShown (s : Subscription) (w : Watched α) : Prop :=
  ∀ event ∈ w.own, ∀ events,
    (w.buffer.snapshot s.progressId = .ok events ∨ ∃ sequence, w.buffer.after s.progressId sequence = .ok events) →
      event ∈ events → acceptsProgress s.store s.progressId event

/-- The channel that a log entry is written to, if there is one, was opened under the identifier of the subscription,
and carries no case but that of the client, or is given it now. -/
def Watched.TurnOk (s : Subscription) (w : Watched α) : Turn α → Prop
  | .log named _ =>
    matchesPattern s.progressId → ∀ k, w.buffer.get? s.progressId = some k →
      (w.buffer.channel k).progressId = s.progressId ∧
        (named ∧ w.buffer.Joins s.progressId s.caseId ∨ isMissing (w.buffer.channel k).recoveryCaseId ∨
          s.caseId = "" ∨ (w.buffer.channel k).recoveryCaseId = some s.caseId)
  | _ => True

/-! ### When all is shown -/

variable {s : Subscription} {w : Watched α} {named : Bool} {content : α}

theorem caseJoined_named :
    w.buffer.caseJoined s.progressId (s.named? named) =
      if named ∧ w.buffer.Joins s.progressId s.caseId then some s.caseId
      else (w.buffer.opened (w.buffer.get? s.progressId) s.progressId).recoveryCaseId := by
  cases named <;> simp [Subscription.named?, caseJoined]

/-- **One event** is accepted exactly if the channel that it is written to is that of the subscription. -/
theorem acceptsProgress_eventFor_iff :
    acceptsProgress s.store s.progressId (w.buffer.eventFor s.progressId (s.named? named) content) ↔
      ∀ k, w.buffer.get? s.progressId = some k →
        (w.buffer.channel k).progressId = s.progressId ∧
          (named ∧ w.buffer.Joins s.progressId s.caseId ∨ isMissing (w.buffer.channel k).recoveryCaseId ∨
            s.caseId = "" ∨ (w.buffer.channel k).recoveryCaseId = some s.caseId) := by
  rw [acceptsProgress_iff]
  simp only [eventFor, caseJoined_named]
  cases hget : w.buffer.get? s.progressId with
  | none =>
    -- a new channel is opened under the identifier of the subscription
    by_cases hjoins : named ∧ w.buffer.Joins s.progressId s.caseId
    · simp [opened, hjoins]
    · simp [opened, hjoins, isMissing]
  | some k =>
    by_cases hjoins : named ∧ w.buffer.Joins s.progressId s.caseId
    · simp [opened, hjoins]
    · simp [opened, hjoins]

theorem turn_log_of_matches (hs : w.buffer.Sound) (hvalid : matchesPattern s.progressId) :
    w.turn s (.log named content) =
      { buffer := (w.buffer.appendTarget s.progressId (s.named? named)).1.record
          (w.buffer.appendTarget s.progressId (s.named? named)).2 content
        own := w.buffer.eventFor s.progressId (s.named? named) content :: w.own } := by
  rw [Watched.turn, (append_eq_ok (b := w.buffer)).mpr ⟨hvalid, rfl, rfl⟩]
  simp only [nextEvent_appendTarget hs]

theorem turn_log_of_not (hvalid : ¬ matchesPattern s.progressId) : w.turn s (.log named content) = w := by
  rw [Watched.turn]
  split
  · rfl
  next hok => exact absurd (append_eq_ok.mp hok).1 hvalid

theorem sound_turn (hs : w.buffer.Sound) (turn : Turn α) : (w.turn s turn).buffer.Sound := by
  cases turn with
  | scope named => exact hs.perform (.start s.progressId (s.named? named))
  | log named content =>
    by_cases hvalid : matchesPattern s.progressId
    · rw [turn_log_of_matches hs hvalid]
      exact hs.append
    · rwa [turn_log_of_not hvalid]
  | other call => exact hs.perform call

/-- What the operation has appended is accepted. -/
def Watched.Accepted (s : Subscription) (w : Watched α) : Prop :=
  ∀ event ∈ w.own, acceptsProgress s.store s.progressId event

theorem accepted_turn_iff (hs : w.buffer.Sound) (hw : w.Accepted s) (turn : Turn α) :
    (w.turn s turn).Accepted s ↔ w.TurnOk s turn := by
  cases turn with
  | scope named => exact iff_of_true hw trivial
  | other call => exact iff_of_true hw trivial
  | log named content =>
    by_cases hvalid : matchesPattern s.progressId
    · rw [turn_log_of_matches hs hvalid, Watched.Accepted]
      simp only [List.forall_mem_cons, acceptsProgress_eventFor_iff]
      exact ⟨fun h _ => h.1, fun h => ⟨h hvalid, hw⟩⟩
    · rw [turn_log_of_not hvalid]
      exact iff_of_true hw fun h => absurd h hvalid

theorem sound_watch (s : Subscription) (turns : List (Turn α)) : (watch s turns).buffer.Sound :=
  inv_foldl (fun w : Watched α => w.buffer.Sound) sound_empty (fun _ turn hs => sound_turn hs turn) turns

theorem watch_concat (turns : List (Turn α)) (turn : Turn α) :
    watch s (turns ++ [turn]) = (watch s turns).turn s turn := by
  rw [watch, List.foldl_append, List.foldl_cons, List.foldl_nil, watch]

/-- An event is given right after it has been appended, so all that is given is accepted only if all is. -/
theorem accepted_of_allShown {turns : List (Turn α)} (h : ∀ run, run <+: turns → (watch s run).AllShown s) :
    ∀ run, run <+: turns → (watch s run).Accepted s := by
  intro run
  induction run using List.reverseRecOn with
  | nil => exact fun _ => nofun
  | append_singleton run turn ih =>
    intro hrun
    have hold := ih ((List.prefix_append run [turn]).trans hrun)
    have hs := sound_watch s run
    have hshown := h _ hrun
    rw [watch_concat] at hshown ⊢
    cases turn with
    | scope named => exact hold
    | other call => exact hold
    | log named content =>
      by_cases hvalid : matchesPattern s.progressId
      · rw [turn_log_of_matches hs hvalid] at hshown ⊢
        refine List.forall_mem_cons.mpr ⟨?_, hold⟩
        refine hshown _ (List.mem_cons_self ..) _ (Or.inl (snapshot_eq_ok.mpr ⟨hvalid, rfl⟩)) ?_
        rw [get?_append hs, if_pos (Or.inl rfl), Option.elim_some]
        exact eventFor_mem_eventsAt hs
      · rwa [turn_log_of_not hvalid]

/-- **When all is shown**: whatever a snapshot or a stream gives of the operation, at any time of a run, is accepted
exactly if each of its events is written to the channel of the subscription. -/
theorem shown_iff (s : Subscription) (turns : List (Turn α)) :
    (∀ run, run <+: turns → (watch s run).AllShown s) ↔
      ∀ run turn, run ++ [turn] <+: turns → (watch s run).TurnOk s turn := by
  have hnone : Watched.Accepted s ({} : Watched α) := fun _ h => absurd h List.not_mem_nil
  have haccepted := forall_prefix_iff (fun w : Watched α => w.buffer.Sound) (Watched.Accepted s) sound_empty
    (fun _ turn hs => sound_turn hs turn) hnone (fun _ turn hs hw => accepted_turn_iff hs hw turn) turns
  constructor
  · exact fun h => haccepted.mp (accepted_of_allShown h)
  · intro h run hrun event hevent _ _ _
    exact haccepted.mpr h run hrun event hevent

/-- A client that has been reloaded since it started its recovery, and goes on with it. -/
def reloaded : Subscription := .afterReload "case-0001" "request-2"

/-- What happens: the recovery, started under an identifier that is forgotten then, and one more operation. -/
def reloadedTurns : List (Turn Unit) :=
  [.other (.start "request-1" none), .other (.append "request-1" (some "case-0001") ()),
    .other (.start "request-1" (some "case-0001"))] ++ continueRecovery [(true, ())]

/-- The event of the operation. -/
def reloadedEvent : RecoveryProgressEvent Unit :=
  { id := "request-1:2", progressId := "request-1", recoveryCaseId := some "case-0001", sequence := 2, content := () }

/-- The client drops what it asked for. -/
theorem reloaded_not_shown : ¬ (watch reloaded reloadedTurns).AllShown reloaded := by
  intro h
  have hown : reloadedEvent ∈ (watch reloaded reloadedTurns).own := by decide +kernel
  have hgiven : reloadedEvent ∈ ((watch reloaded reloadedTurns).buffer.get? "case-0001").elim []
      (watch reloaded reloadedTurns).buffer.eventsAt := by decide +kernel
  have hsnapshot := (snapshot_eq_ok (b := (watch reloaded reloadedTurns).buffer)).mpr
    ⟨(by decide +kernel : matchesPattern "case-0001"), rfl⟩
  have haccepted := h _ hown _ (Or.inl hsnapshot) hgiven
  exact absurd haccepted (by decide +kernel)

/-! ### Operations that run undisturbed -/

/-- The subscription stands for a channel, opened under the given identifier, that carries no case but that of the
client. -/
structure Holds (s : Subscription) (b : RecoveryProgressBuffer α) (k : ℕ) (progressId : String) : Prop where
  sound : b.Sound
  subscribed : b.get? s.progressId = some k
  opened_under : (b.channel k).progressId = progressId
  carries : (b.channel k).recoveryCaseId = none ∨ (b.channel k).recoveryCaseId = some s.caseId

theorem Holds.caseJoined {k : ℕ} {progressId : String} (h : Holds s w.buffer k progressId) :
    w.buffer.caseJoined s.progressId (s.named? named) = none ∨
      w.buffer.caseJoined s.progressId (s.named? named) = some s.caseId := by
  rw [caseJoined_named]
  split
  · exact Or.inr rfl
  · rw [h.subscribed]
    exact h.carries

/-- A log entry keeps the channel, and is accepted exactly if the channel was opened under the subscription. -/
theorem Holds.turn_log {k : ℕ} {progressId : String} (h : Holds s w.buffer k progressId)
    (hvalid : matchesPattern s.progressId) (named : Bool) (content : α) :
    Holds s (w.turn s (.log named content)).buffer k progressId ∧
      ((w.turn s (.log named content)).Accepted s ↔ progressId = s.progressId ∧ w.Accepted s) := by
  have hbecomes := append_becomes h.sound s.progressId (s.named? named) content
  rw [turn_log_of_matches h.sound hvalid]
  rw [h.subscribed, Option.getD_some] at hbecomes
  refine ⟨⟨h.sound.append, hbecomes.moves _ (Or.inl rfl), ?_, ?_⟩, ?_⟩
  · rw [hbecomes.self, ← h.opened_under]
    rfl
  · rw [hbecomes.self]
    exact h.caseJoined
  · simp only [Watched.Accepted, List.forall_mem_cons, acceptsProgress_eventFor_iff]
    refine and_congr_left fun _ => ?_
    rw [h.subscribed]
    rcases h.carries with hnone | hcase
    · simp [h.opened_under, hnone, isMissing]
    · simp [h.opened_under, hcase]

theorem Holds.logs {k : ℕ} {progressId : String} (h : Holds s w.buffer k progressId)
    (hvalid : matchesPattern s.progressId) (logs : List (Bool × α)) :
    ((logs.map fun entry => Turn.log entry.1 entry.2).foldl (Watched.turn s) w).Accepted s ↔
      (logs = [] ∨ progressId = s.progressId) ∧ w.Accepted s := by
  induction logs generalizing w with
  | nil => simp
  | cons entry logs ih =>
    obtain ⟨hnext, haccepted⟩ := h.turn_log hvalid entry.1 entry.2
    rw [List.map_cons, List.foldl_cons, ih hnext, haccepted]
    by_cases hsame : progressId = s.progressId
    · simp [hsame]
    · simp [hsame]

theorem turn_scope_buffer (hvalid : matchesPattern s.progressId) :
    (w.turn s (.scope named)).buffer = w.buffer.startLocked s.progressId (s.named? named) := by
  rw [Watched.turn]
  show w.buffer.perform (.start s.progressId (s.named? named)) = _
  rw [RecoveryProgressBuffer.perform, (start_eq_ok (b := w.buffer)).mpr ⟨hvalid, rfl⟩]

/-- **Starting a recovery**, with a new identifier, is shown. -/
theorem created_shown (hs : w.buffer.Sound) (hown : w.Accepted s) (hvalid : matchesPattern s.progressId)
    (hnew : ∀ k, w.buffer.get? s.progressId = some k →
      (w.buffer.channel k).progressId = s.progressId ∧ (w.buffer.channel k).recoveryCaseId = none)
    (logs : List (Bool × α)) : ((createRecovery logs).foldl (Watched.turn s) w).Accepted s := by
  have hbecomes := startLocked_becomes hs s.progressId (s.named? false)
  have hopened : (w.buffer.opened (w.buffer.findChannel s.progressId (s.named? false)) s.progressId).progressId =
        s.progressId ∧
      (w.buffer.opened (w.buffer.findChannel s.progressId (s.named? false)) s.progressId).recoveryCaseId = none := by
    show (w.buffer.opened (w.buffer.get? s.progressId) s.progressId).progressId = _ ∧
      (w.buffer.opened (w.buffer.get? s.progressId) s.progressId).recoveryCaseId = none
    cases hget : w.buffer.get? s.progressId with
    | none => exact ⟨rfl, rfl⟩
    | some k => exact hnew k hget
  have hholds : Holds s (w.turn s (.scope false)).buffer
      ((w.buffer.findChannel s.progressId (s.named? false)).getD w.buffer.objects.length) s.progressId := by
    rw [turn_scope_buffer hvalid]
    refine ⟨hs.startLocked, hbecomes.moves _ (Or.inl rfl), ?_, Or.inl ?_⟩
    · rw [hbecomes.self]
      exact hopened.1
    · rw [hbecomes.self]
      exact hopened.2
  rw [createRecovery, List.foldl_append, List.foldl_cons]
  -- naming the case in the end appends nothing
  exact (hholds.logs hvalid logs).mpr ⟨Or.inr rfl, hown⟩

/-- **Going on with a recovery** is shown exactly if the channel, that of the case or else that of the subscription, was
opened under the subscription. -/
theorem continued_shown_iff (hs : w.buffer.Sound) (hown : w.Accepted s) (hvalid : matchesPattern s.progressId)
    (logs : List (Bool × α)) :
    ((continueRecovery logs).foldl (Watched.turn s) w).Accepted s ↔
      logs = [] ∨ ∀ k, w.buffer.findChannel s.progressId (some s.caseId) = some k →
        (w.buffer.channel k).progressId = s.progressId := by
  have hbecomes := startLocked_becomes hs s.progressId (some s.caseId)
  have hholds : Holds s (w.turn s (.scope true)).buffer
      ((w.buffer.findChannel s.progressId (some s.caseId)).getD w.buffer.objects.length)
      (w.buffer.opened (w.buffer.findChannel s.progressId (some s.caseId)) s.progressId).progressId := by
    rw [turn_scope_buffer hvalid]
    show Holds s (w.buffer.startLocked s.progressId (some s.caseId)) _ _
    refine ⟨hs.startLocked, hbecomes.moves _ (Or.inl rfl), ?_, Or.inr ?_⟩
    · rw [hbecomes.self]
    · rw [hbecomes.self, Option.some_or]
  rw [continueRecovery, List.foldl_cons, hholds.logs hvalid,
    and_iff_left (show (w.turn s (.scope true)).Accepted s from hown)]
  cases w.buffer.findChannel s.progressId (some s.caseId) with
  | none => simp [opened]
  | some k => simp [opened]

/-- **After a reload** what is appended is shown exactly if the channel of the case was opened under the case. -/
theorem reloaded_shown_iff {caseId newProgressId : String} (hs : w.buffer.Sound) (hown : w.own = [])
    (hvalid : matchesPattern caseId) (logs : List (Bool × α)) :
    ((continueRecovery logs).foldl (Watched.turn (.afterReload caseId newProgressId)) w).Accepted
        (.afterReload caseId newProgressId) ↔
      logs = [] ∨ ∀ k, w.buffer.get? caseId = some k → (w.buffer.channel k).progressId = caseId := by
  have hnone : w.Accepted (.afterReload caseId newProgressId) := by
    intro event hevent
    rw [hown] at hevent
    exact absurd hevent List.not_mem_nil
  have hsame : w.buffer.findChannel caseId (some caseId) = w.buffer.get? caseId := by
    rw [findChannel, Option.bind_some, Option.or_self]
  rw [continued_shown_iff hs hnone hvalid]
  show (logs = [] ∨ ∀ k, w.buffer.findChannel caseId (some caseId) = some k →
    (w.buffer.channel k).progressId = caseId) ↔ _
  rw [hsame]

end DayMend.Frontend
