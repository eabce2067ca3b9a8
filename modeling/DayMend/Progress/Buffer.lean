import DayMend.Base.Dict
import DayMend.Base.Store
import Mathlib.Data.List.GetD

/-!
# The progress buffer

`progress.py`: channels of progress events, addressable by the identifier of a request
and by that of a case. Channels are objects that several names can stand for, so they
stand in a list here, and the dictionary gives a name the place of its channel.

What an event tells beyond its identifiers (the reviewed details, the time) is a type
`α`: the buffer only passes it on.

What each call does is said in terms of what the names stand for (`get?`), of the
events of each channel (`eventsAt`), and of who opened it and the case it carries
(`channel`).
-/

namespace DayMend.Progress

open DayMend.Base

/-- `RecoveryProgressEvent`. -/
structure RecoveryProgressEvent (α : Type) where
  id : String
  progressId : String
  recoveryCaseId : Option String := none
  sequence : ℕ
  content : α
  deriving DecidableEq

/-- `_ProgressChannel`. -/
structure ProgressChannel (α : Type) where
  progressId : String
  recoveryCaseId : Option String := none
  events : List (RecoveryProgressEvent α) := []
  nextSequence : ℕ := 1

/-- `RecoveryProgressBuffer`: the channel objects, and the channel of each name. -/
structure RecoveryProgressBuffer (α : Type) where
  objects : List (ProgressChannel α) := []
  channels : Dict String ℕ := .empty

/-- `MAX_PROGRESS_EVENTS`. -/
def maxProgressEvents : ℕ := 256

/-- A character of an identifier, past the first. -/
def isIdentifierChar (c : Char) : Bool := c.isAlphanum || c == '.' || c == '_' || c == ':' || c == '-'

/-- `_PROGRESS_ID_PATTERN.fullmatch`. -/
def matchesPattern (progressId : String) : Bool :=
  match progressId.toList with
  | [] => false
  | c :: rest => c.isAlphanum && decide (7 ≤ rest.length ∧ rest.length ≤ 127) && rest.all isIdentifierChar

/-- `_validate_progress_id`. -/
def validateProgressId (progressId : String) : Except String Unit :=
  raiseIf (matchesPattern progressId = false) "progress ID must be 8-128 safe identifier characters"

namespace RecoveryProgressBuffer

variable {α : Type} (b : RecoveryProgressBuffer α)

/-- `self._channels.get(name)`. -/
def get? (name : String) : Option ℕ := b.channels.get? name

/-- The channel at a place; there is one for every name. -/
def channel (k : ℕ) : ProgressChannel α := b.objects.getD k { progressId := "" }

/-- The events that a channel retains. -/
def eventsAt (k : ℕ) : List (RecoveryProgressEvent α) := (b.channel k).events

/-- `_ProgressChannel(progress_id=progress_id)`: a new object, at the next place. -/
def create (progressId : String) : RecoveryProgressBuffer α := { b with objects := b.objects ++ [{ progressId }] }

/-- `self._channels[name] = channel`. -/
def bind (name : String) (k : ℕ) : RecoveryProgressBuffer α := { b with channels := b.channels.insert name k }

/-- Change the attributes of a channel. -/
def modify (k : ℕ) (f : ProgressChannel α → ProgressChannel α) : RecoveryProgressBuffer α :=
  { b with objects := b.objects.modify k f }

/-- `_attach_locked`. A case that has another channel keeps it, and the channel stays as it is. -/
def attachLocked (k : ℕ) (recoveryCaseId : String) : RecoveryProgressBuffer α :=
  if b.get? recoveryCaseId ≠ none ∧ b.get? recoveryCaseId ≠ some k then b
  else (b.modify k fun channel => { channel with recoveryCaseId := some recoveryCaseId }).bind recoveryCaseId k

/-- Attach the channel to the case, if there is one. -/
def attachIf (k : ℕ) (recoveryCaseId : Option String) : RecoveryProgressBuffer α :=
  recoveryCaseId.elim b (b.attachLocked k)

/-- The channel that was found, or a new one. -/
def orCreate (found : Option ℕ) (progressId : String) : RecoveryProgressBuffer α × ℕ :=
  match found with
  | some k => (b, k)
  | none => (b.create progressId, b.objects.length)

/-- The channel of the case, or that of the request. -/
def findChannel (progressId : String) (recoveryCaseId : Option String) : Option ℕ :=
  (recoveryCaseId.bind b.get?).or (b.get? progressId)

/-- What `start` does under the lock. -/
def startLocked (progressId : String) (recoveryCaseId : Option String) : RecoveryProgressBuffer α :=
  let opened := b.orCreate (b.findChannel progressId recoveryCaseId) progressId
  (opened.1.bind progressId opened.2).attachIf opened.2 recoveryCaseId

/-- `start`. -/
def start (progressId : String) (recoveryCaseId : Option String) : Except String (RecoveryProgressBuffer α) := do
  validateProgressId progressId
  return b.startLocked progressId recoveryCaseId

/-- The channel of the request, or a new one under its name. -/
def getOrCreate (progressId : String) : RecoveryProgressBuffer α × ℕ :=
  match b.get? progressId with
  | some k => (b, k)
  | none => ((b.create progressId).bind progressId b.objects.length, b.objects.length)

/-- The channel that `append` writes to, once it is attached to the case. -/
def appendTarget (progressId : String) (recoveryCaseId : Option String) : RecoveryProgressBuffer α × ℕ :=
  let opened := b.getOrCreate progressId
  (opened.1.attachIf opened.2 recoveryCaseId, opened.2)

/-- The next event of a channel. -/
def nextEvent (k : ℕ) (content : α) : RecoveryProgressEvent α :=
  let channel := b.channel k
  { id := s!"{channel.progressId}:{channel.nextSequence}"
    progressId := channel.progressId
    recoveryCaseId := channel.recoveryCaseId
    sequence := channel.nextSequence
    content }

/-- The newest events of a channel, as many as it retains. -/
def retained (events : List (RecoveryProgressEvent α)) : List (RecoveryProgressEvent α) :=
  events.drop (events.length - maxProgressEvents)

/-- Append the next event to a channel. -/
def record (k : ℕ) (content : α) : RecoveryProgressBuffer α :=
  b.modify k fun channel =>
    { channel with
      nextSequence := channel.nextSequence + 1
      events := retained (channel.events ++ [b.nextEvent k content]) }

/-- `append`: what the buffer is then, and the event. -/
def append (progressId : String) (recoveryCaseId : Option String) (content : α) :
    Except String (RecoveryProgressBuffer α × RecoveryProgressEvent α) := do
  validateProgressId progressId
  let target := b.appendTarget progressId recoveryCaseId
  return (target.1.record target.2 content, target.1.nextEvent target.2 content)

/-- `snapshot`. -/
def snapshot (progressOrCaseId : String) : Except String (List (RecoveryProgressEvent α)) := do
  validateProgressId progressOrCaseId
  return (b.get? progressOrCaseId).elim [] b.eventsAt

/-- `after`. -/
def after (progressOrCaseId : String) (sequence : ℕ) : Except String (List (RecoveryProgressEvent α)) := do
  return (← b.snapshot progressOrCaseId).filter fun event => decide (event.sequence > sequence)

/-! ### What the operations do to the names and the channels -/

variable {b : RecoveryProgressBuffer α} {name progressId recoveryCaseId : String} {case? : Option String} {j k : ℕ}
  {event : RecoveryProgressEvent α} {content : α}

theorem validateProgressId_eq_ok {u : Unit} : validateProgressId progressId = .ok u ↔ matchesPattern progressId := by
  rw [validateProgressId, raiseIf_eq_ok, Bool.not_eq_false]

theorem start_eq_ok {b' : RecoveryProgressBuffer α} :
    b.start progressId case? = .ok b' ↔ matchesPattern progressId ∧ b' = b.startLocked progressId case? := by
  simp only [start, bind_eq_ok, validateProgressId_eq_ok, pure, Except.pure, Except.ok.injEq]
  exact ⟨fun ⟨_, hvalid, h⟩ => ⟨hvalid, h.symm⟩, fun ⟨hvalid, h⟩ => ⟨(), hvalid, h.symm⟩⟩

theorem append_eq_ok {b' : RecoveryProgressBuffer α} :
    b.append progressId case? content = .ok (b', event) ↔
      matchesPattern progressId ∧
        b' = (b.appendTarget progressId case?).1.record (b.appendTarget progressId case?).2 content ∧
          event = (b.appendTarget progressId case?).1.nextEvent (b.appendTarget progressId case?).2 content := by
  simp only [append, bind_eq_ok, validateProgressId_eq_ok, pure, Except.pure, Except.ok.injEq, Prod.mk.injEq]
  exact ⟨fun ⟨_, hvalid, h⟩ => ⟨hvalid, h.1.symm, h.2.symm⟩, fun ⟨hvalid, h⟩ => ⟨(), hvalid, h.1.symm, h.2.symm⟩⟩

theorem snapshot_eq_ok {events : List (RecoveryProgressEvent α)} :
    b.snapshot name = .ok events ↔ matchesPattern name ∧ events = (b.get? name).elim [] b.eventsAt := by
  simp only [snapshot, bind_eq_ok, validateProgressId_eq_ok, pure, Except.pure, Except.ok.injEq]
  exact ⟨fun ⟨_, hvalid, h⟩ => ⟨hvalid, h.symm⟩, fun ⟨hvalid, h⟩ => ⟨(), hvalid, h.symm⟩⟩

@[simp] theorem get?_bind :
    (b.bind recoveryCaseId k).get? name = if recoveryCaseId = name then some k else b.get? name :=
  Dict.get?_insert ..

@[simp] theorem get?_modify {f : ProgressChannel α → ProgressChannel α} : (b.modify k f).get? name = b.get? name := rfl

@[simp] theorem get?_create : (b.create progressId).get? name = b.get? name := rfl

@[simp] theorem channel_bind : (b.bind name k).channel j = b.channel j := rfl

@[simp] theorem length_create : (b.create progressId).objects.length = b.objects.length + 1 := by
  simp [create]

@[simp] theorem length_modify {f : ProgressChannel α → ProgressChannel α} :
    (b.modify k f).objects.length = b.objects.length := by
  simp [modify]

@[simp] theorem length_bind : (b.bind name k).objects.length = b.objects.length := rfl

theorem channel_create :
    (b.create progressId).channel j = if j = b.objects.length then { progressId } else b.channel j := by
  simp only [channel, create, List.getD_eq_getElem?_getD]
  by_cases hj : j < b.objects.length
  · rw [List.getElem?_append_left hj, if_neg (by omega)]
  · rw [List.getElem?_append_right (by omega)]
    by_cases heq : j = b.objects.length
    · simp [heq]
    · rw [if_neg heq, List.getElem?_eq_none (by simp; omega), List.getElem?_eq_none (by omega)]

theorem channel_modify {f : ProgressChannel α → ProgressChannel α} (hk : k < b.objects.length) :
    (b.modify k f).channel j = if j = k then f (b.channel k) else b.channel j := by
  simp only [channel, modify, List.getD_eq_getElem?_getD, List.getElem?_modify]
  by_cases hj : k = j
  · subst hj
    simp [List.getElem?_eq_getElem hk]
  · simp [hj, Ne.symm hj]

/-- No channel, no events. -/
theorem lt_of_mem_eventsAt (h : event ∈ b.eventsAt k) : k < b.objects.length := by
  by_contra hk
  rw [eventsAt, channel, List.getD_eq_default _ _ (by omega)] at h
  exact List.not_mem_nil h

/-- What a channel retains, it had. -/
theorem mem_of_mem_retained {events : List (RecoveryProgressEvent α)} (h : event ∈ retained events) : event ∈ events :=
  List.mem_of_mem_drop h

/-- The newest event is retained. -/
theorem mem_retained_concat (events : List (RecoveryProgressEvent α)) :
    event ∈ retained (events ++ [event]) := by
  rw [retained, List.drop_append, List.length_append, List.length_singleton, maxProgressEvents,
    show events.length + 1 - 256 - events.length = 0 by omega]
  simp

/-! ### Attaching -/

/-- The case has no other channel. -/
def Attaches (b : RecoveryProgressBuffer α) (k : ℕ) (recoveryCaseId : String) : Prop :=
  b.get? recoveryCaseId = none ∨ b.get? recoveryCaseId = some k

instance : Decidable (b.Attaches k recoveryCaseId) := inferInstanceAs (Decidable (_ ∨ _))

theorem attachLocked_of_attaches (h : b.Attaches k recoveryCaseId) :
    b.attachLocked k recoveryCaseId =
      (b.modify k fun channel => { channel with recoveryCaseId := some recoveryCaseId }).bind recoveryCaseId k := by
  rw [attachLocked, if_neg fun hother => h.elim hother.1 hother.2]

theorem attachLocked_of_not (h : ¬ b.Attaches k recoveryCaseId) : b.attachLocked k recoveryCaseId = b :=
  if_pos (not_or.mp h)

@[simp] theorem length_attachIf : (b.attachIf k case?).objects.length = b.objects.length := by
  cases case? with
  | none => rfl
  | some recoveryCaseId =>
    show (b.attachLocked k recoveryCaseId).objects.length = _
    by_cases h : b.Attaches k recoveryCaseId
    · simp [attachLocked_of_attaches h]
    · rw [attachLocked_of_not h]

/-- Attaching lets a case that has no other channel stand for this one. -/
theorem get?_attachIf :
    (b.attachIf k case?).get? name = some j ↔
      (case? = some name ∧ b.Attaches k name ∧ j = k) ∨
        (case? = some name → ¬ b.Attaches k name) ∧ b.get? name = some j := by
  cases case? with
  | none => simp [attachIf]
  | some recoveryCaseId =>
    show (b.attachLocked k recoveryCaseId).get? name = some j ↔ _
    by_cases h : b.Attaches k recoveryCaseId
    · rw [attachLocked_of_attaches h, get?_bind, get?_modify]
      by_cases hname : recoveryCaseId = name
      · subst hname
        simp [h, eq_comm]
      · simp [hname]
    · rw [attachLocked_of_not h]
      by_cases hname : recoveryCaseId = name
      · subst hname
        simp [h]
      · simp [hname]

/-- The case that a channel carries once it is attached. -/
def caseAttached (b : RecoveryProgressBuffer α) (k : ℕ) (case? : Option String) : Option String :=
  match case? with
  | none => (b.channel k).recoveryCaseId
  | some recoveryCaseId =>
    if b.Attaches k recoveryCaseId then some recoveryCaseId else (b.channel k).recoveryCaseId

/-- Attaching changes nothing but the case that the channel carries. -/
theorem channel_attachIf (hk : k < b.objects.length) :
    (b.attachIf k case?).channel j =
      if j = k then { b.channel k with recoveryCaseId := b.caseAttached k case? } else b.channel j := by
  cases case? with
  | none =>
    by_cases hj : j = k
    · simp [hj, attachIf, caseAttached]
    · simp [hj, attachIf]
  | some recoveryCaseId =>
    show (b.attachLocked k recoveryCaseId).channel j = _
    by_cases h : b.Attaches k recoveryCaseId
    · rw [attachLocked_of_attaches h, channel_bind, channel_modify hk, caseAttached, if_pos h]
    · rw [attachLocked_of_not h, caseAttached, if_neg h]
      by_cases hj : j = k
      · simp [hj]
      · simp [hj]

/-! ### What a call changes -/

/-- What holds of every buffer: names stand for channels, a channel still has a name that it was opened under, no two
were opened under the same, and a channel has stamped its events. -/
structure Sound (b : RecoveryProgressBuffer α) : Prop where
  in_range : ∀ name k, b.get? name = some k → k < b.objects.length
  named : ∀ k < b.objects.length, b.get? (b.channel k).progressId ≠ none
  progressId_inj : ∀ j < b.objects.length, ∀ k < b.objects.length,
    (b.channel j).progressId = (b.channel k).progressId → j = k
  stamped : ∀ k, ∀ event ∈ b.eventsAt k,
    event.progressId = (b.channel k).progressId ∧ event.sequence < (b.channel k).nextSequence

/-- One channel is as given, some names now stand for it, and all else is as before. -/
structure Becomes (b b' : RecoveryProgressBuffer α) (k : ℕ) (channel : ProgressChannel α) (moved : String → Prop) :
    Prop where
  lt : k < b'.objects.length
  le : b.objects.length ≤ b'.objects.length
  eq_or_lt : ∀ j < b'.objects.length, j = k ∨ j < b.objects.length
  self : b'.channel k = channel
  other : ∀ j, j ≠ k → b'.channel j = b.channel j
  moves : ∀ name, moved name → b'.get? name = some k
  keeps : ∀ name, ¬ moved name → b'.get? name = b.get? name

/-- The channel that was found, or a new one. -/
def opened (b : RecoveryProgressBuffer α) (found : Option ℕ) (progressId : String) : ProgressChannel α :=
  found.elim { progressId } b.channel

theorem eventsAt_eq_opened (found : Option ℕ) :
    b.eventsAt (found.getD b.objects.length) = (b.opened found progressId).events := by
  cases found with
  | none =>
    show (b.objects.getD b.objects.length _).events = []
    rw [List.getD_eq_default _ _ le_rfl]
  | some k => rfl

variable {b' : RecoveryProgressBuffer α} {channel : ProgressChannel α} {moved : String → Prop} {found : Option ℕ}

/-- Names are never lost. -/
theorem Becomes.get?_ne_none (h : Becomes b b' k channel moved) (hname : b.get? name ≠ none) : b'.get? name ≠ none := by
  by_cases hmoved : moved name
  · simp [h.moves name hmoved]
  · rwa [h.keeps name hmoved]

/-- What was opened before is a channel still. -/
theorem Becomes.progressId_eq (h : Becomes b b' (found.getD b.objects.length) channel moved)
    (hprogressId : channel.progressId = (b.opened found progressId).progressId) (hj : j < b.objects.length) :
    (b'.channel j).progressId = (b.channel j).progressId := by
  by_cases hk : j = found.getD b.objects.length
  · cases found with
    | none => simp at hk; omega
    | some k =>
      obtain rfl : j = k := hk
      exact (congrArg _ h.self).trans hprogressId
  · rw [h.other j hk]

/-- Sequence numbers only grow. -/
theorem Becomes.nextSequence_le (h : Becomes b b' (found.getD b.objects.length) channel moved)
    (hnext : (b.opened found progressId).nextSequence ≤ channel.nextSequence) (hj : j < b.objects.length) :
    (b.channel j).nextSequence ≤ (b'.channel j).nextSequence := by
  by_cases hk : j = found.getD b.objects.length
  · cases found with
    | none => simp at hk; omega
    | some k =>
      obtain rfl : j = k := hk
      exact hnext.trans_eq (congrArg _ h.self).symm
  · rw [h.other j hk]

/-- A buffer stays sound if the channel that changes is stamped as before, or is new under a name of its own. -/
theorem Sound.becomes (hs : b.Sound) (h : Becomes b b' (found.getD b.objects.length) channel moved)
    (hfound : ∀ k, found = some k → k < b.objects.length) (hopen : found = none → b.get? progressId = none)
    (hname : moved progressId) (hprogressId : channel.progressId = (b.opened found progressId).progressId)
    (hevents : ∀ event ∈ channel.events,
      event.progressId = channel.progressId ∧ event.sequence < channel.nextSequence) : b'.Sound := by
  have hold : ∀ j < b.objects.length, (b'.channel j).progressId = (b.channel j).progressId := fun j hj =>
    h.progressId_eq hprogressId hj
  have hnew : found = none → (b'.channel b.objects.length).progressId = progressId := by
    rintro rfl
    exact (congrArg _ h.self).trans hprogressId
  -- a new channel has a name that no other was opened under
  have hapart : found = none → ∀ j < b.objects.length,
      (b'.channel j).progressId ≠ (b'.channel b.objects.length).progressId := by
    intro hnone j hj heq
    rw [hold j hj, hnew hnone] at heq
    exact hs.named j hj (heq ▸ hopen hnone)
  have hcases : ∀ j < b'.objects.length, j < b.objects.length ∨ found = none ∧ j = b.objects.length := by
    intro j hj
    rcases h.eq_or_lt j hj with rfl | hj
    · cases found with
      | none => exact Or.inr ⟨rfl, rfl⟩
      | some k => exact Or.inl (hfound k rfl)
    · exact Or.inl hj
  refine ⟨fun name k hk => ?_, fun k hk => ?_, fun j hj k hk heq => ?_, fun k event hevent => ?_⟩
  · by_cases hr : moved name
    · rw [h.moves name hr] at hk
      exact Option.some.inj hk ▸ h.lt
    · rw [h.keeps name hr] at hk
      exact (hs.in_range name k hk).trans_le h.le
  · rcases hcases k hk with hk | ⟨hnone, rfl⟩
    · rw [hold k hk]
      exact h.get?_ne_none (hs.named k hk)
    · rw [hnew hnone, h.moves _ hname]
      exact Option.some_ne_none _
  · rcases hcases j hj with hj | ⟨hnone, rfl⟩
    · rcases hcases k hk with hk | ⟨hnone, rfl⟩
      · rw [hold j hj, hold k hk] at heq
        exact hs.progressId_inj j hj k hk heq
      · exact absurd heq (hapart hnone j hj)
    · rcases hcases k hk with hk | ⟨-, rfl⟩
      · exact absurd heq.symm (hapart hnone k hk)
      · rfl
  · by_cases hk : k = found.getD b.objects.length
    · subst hk
      rw [eventsAt, h.self] at hevent
      rw [h.self]
      exact hevents event hevent
    · rw [eventsAt, h.other k hk] at hevent
      rw [h.other k hk]
      exact hs.stamped k event hevent

theorem orCreate_snd : (b.orCreate found progressId).2 = found.getD b.objects.length := by
  cases found <;> rfl

/-- The name now stands for the channel that was found, or for a new one. -/
theorem becomes_orCreate (hfound : ∀ k, found = some k → k < b.objects.length) (progressId : String) :
    Becomes b ((b.orCreate found progressId).1.bind progressId (b.orCreate found progressId).2)
      (found.getD b.objects.length) (b.opened found progressId) (· = progressId) := by
  cases found with
  | none =>
    simp only [orCreate, Option.getD_none, opened, Option.elim_none]
    refine ⟨by simp, by simp, fun j hj => ?_, by simp [channel_create], fun j hj => ?_, by simp, fun name hne => ?_⟩
    · simp only [length_bind, length_create] at hj
      omega
    · simp [channel_create, hj]
    · simp [Ne.symm hne]
  | some k =>
    simp only [orCreate, Option.getD_some, opened, Option.elim_some]
    refine ⟨hfound k rfl, le_rfl, fun j hj => Or.inr hj, by simp, fun j _ => by simp, by simp, fun name hne => ?_⟩
    simp [Ne.symm hne]

/-- Attaching the channel to a case lets a case that has no other stand for it, and the channel carry it. -/
theorem Becomes.attachIf (h : Becomes b b' k channel moved) :
    Becomes b (b'.attachIf k case?) k { channel with recoveryCaseId := b'.caseAttached k case? }
      fun name => moved name ∨ case? = some name ∧ b'.Attaches k name := by
  refine ⟨?_, ?_, fun j hj => ?_, ?_, fun j hj => ?_, fun name hname => ?_, fun name hname => ?_⟩
  · rw [length_attachIf]
    exact h.lt
  · rw [length_attachIf]
    exact h.le
  · rw [length_attachIf] at hj
    exact h.eq_or_lt j hj
  · rw [channel_attachIf h.lt, if_pos rfl, h.self]
  · rw [channel_attachIf h.lt, if_neg hj, h.other j hj]
  · rw [get?_attachIf]
    by_cases hcase : case? = some name ∧ b'.Attaches k name
    · exact Or.inl ⟨hcase.1, hcase.2, rfl⟩
    · exact Or.inr ⟨not_and.mp hcase, h.moves name (hname.resolve_right hcase)⟩
  · obtain ⟨hmoved, hcase⟩ := not_or.mp hname
    refine (Option.ext fun j => ?_).trans (h.keeps name hmoved)
    rw [get?_attachIf]
    exact ⟨fun h => h.elim (fun h => absurd ⟨h.1, h.2.1⟩ hcase) (·.2), fun h => Or.inr ⟨not_and.mp hcase, h⟩⟩

/-- Recording an event changes what the channel holds. -/
theorem Becomes.record (h : Becomes b b' k channel moved) :
    Becomes b (b'.record k content) k
      { channel with
        nextSequence := channel.nextSequence + 1
        events := retained (channel.events ++ [b'.nextEvent k content]) } moved := by
  refine ⟨?_, ?_, fun j hj => ?_, ?_, fun j hj => ?_, h.moves, h.keeps⟩
  · rw [RecoveryProgressBuffer.record, length_modify]
    exact h.lt
  · rw [RecoveryProgressBuffer.record, length_modify]
    exact h.le
  · rw [RecoveryProgressBuffer.record, length_modify] at hj
    exact h.eq_or_lt j hj
  · rw [RecoveryProgressBuffer.record, channel_modify h.lt, if_pos rfl, h.self]
  · rw [RecoveryProgressBuffer.record, channel_modify h.lt, if_neg hj, h.other j hj]

theorem findChannel_lt (hs : b.Sound) (h : b.findChannel progressId case? = some k) : k < b.objects.length := by
  rw [findChannel, Option.or_eq_some_iff] at h
  rcases h with h | ⟨-, h⟩
  · obtain ⟨name, -, hname⟩ := Option.bind_eq_some_iff.mp h
    exact hs.in_range name k hname
  · exact hs.in_range _ k h

theorem get?_of_findChannel_eq_none (h : b.findChannel progressId case? = none) : b.get? progressId = none :=
  (Option.or_eq_none_iff.mp h).2

theorem Becomes.congr {channel' : ProgressChannel α} {moved' : String → Prop} (h : Becomes b b' k channel moved)
    (hchannel : channel' = channel) (hmoved : ∀ name, moved' name ↔ moved name) : Becomes b b' k channel' moved' :=
  ⟨h.lt, h.le, h.eq_or_lt, hchannel ▸ h.self, h.other, fun name hname => h.moves name ((hmoved name).mp hname),
    fun name hname => h.keeps name fun hold => hname ((hmoved name).mpr hold)⟩

/-- **What `start` does**: the request and the case now stand for the channel of the case if there is one, for that of
the request otherwise, or for a new one; it carries the case. -/
theorem startLocked_becomes (hs : b.Sound) (progressId : String) (case? : Option String) :
    Becomes b (b.startLocked progressId case?) ((b.findChannel progressId case?).getD b.objects.length)
      { b.opened (b.findChannel progressId case?) progressId with
        recoveryCaseId := case?.or (b.opened (b.findChannel progressId case?) progressId).recoveryCaseId }
      fun name => name = progressId ∨ case? = some name := by
  have hfound : ∀ k, b.findChannel progressId case? = some k → k < b.objects.length := fun _ => findChannel_lt hs
  have hcase : ∀ name, case? = some name → b.get? name = none ∨ b.findChannel progressId case? = b.get? name := by
    rintro name rfl
    cases hget : b.get? name with
    | none => exact Or.inl rfl
    | some k => exact Or.inr (by simp [findChannel, hget])
  rw [startLocked]
  generalize b.findChannel progressId case? = found at hfound hcase
  have hopened := becomes_orCreate hfound progressId
  rw [orCreate_snd] at hopened ⊢
  generalize (b.orCreate found progressId).1.bind progressId (found.getD b.objects.length) = b₁ at hopened
  -- the case has no other channel: its channel would have been found
  have hattaches : ∀ name, case? = some name → b₁.Attaches (found.getD b.objects.length) name := by
    intro name hname
    by_cases heq : name = progressId
    · exact Or.inr (hopened.moves name heq)
    · rw [Attaches, hopened.keeps name heq]
      rcases hcase name hname with hnone | hsame
      · exact Or.inl hnone
      · cases hget : b.get? name with
        | none => exact Or.inl rfl
        | some k => exact Or.inr (by rw [hsame, hget, Option.getD_some])
  refine hopened.attachIf.congr ?_ fun name => ?_
  · cases case? with
    | none => rw [caseAttached, hopened.self, Option.none_or]
    | some name => rw [caseAttached, if_pos (hattaches name rfl), Option.some_or]
  · exact or_congr_right (and_iff_left_of_imp (hattaches name)).symm

theorem getOrCreate_snd : (b.getOrCreate progressId).2 = (b.get? progressId).getD b.objects.length := by
  rw [getOrCreate]
  cases b.get? progressId <;> rfl

theorem becomes_getOrCreate (hs : b.Sound) (progressId : String) :
    Becomes b (b.getOrCreate progressId).1 ((b.get? progressId).getD b.objects.length)
      (b.opened (b.get? progressId) progressId) (· = progressId) := by
  rw [getOrCreate]
  cases hget : b.get? progressId with
  | none =>
    have hcreate : ∀ k, (none : Option ℕ) = some k → k < b.objects.length := nofun
    exact becomes_orCreate hcreate progressId
  | some k =>
    exact ⟨hs.in_range _ _ hget, le_rfl, fun j hj => Or.inr hj, rfl, fun _ _ => rfl, fun _ hname => hname ▸ hget,
      fun _ _ => rfl⟩

/-- The case joins the channel of the request: it is the request's own identifier, or has no other channel. -/
def Joins (b : RecoveryProgressBuffer α) (progressId recoveryCaseId : String) : Prop :=
  recoveryCaseId = progressId ∨ b.get? recoveryCaseId = none ∨ b.get? recoveryCaseId = b.get? progressId

instance : Decidable (b.Joins progressId recoveryCaseId) := inferInstanceAs (Decidable (_ ∨ _))

/-- The case that the channel of a request carries once an event has been appended. -/
def caseJoined (b : RecoveryProgressBuffer α) (progressId : String) (case? : Option String) : Option String :=
  match case? with
  | none => (b.opened (b.get? progressId) progressId).recoveryCaseId
  | some recoveryCaseId =>
    if b.Joins progressId recoveryCaseId then some recoveryCaseId
    else (b.opened (b.get? progressId) progressId).recoveryCaseId

/-- **The channel that `append` writes to**: that of the request if it has one, or a new one. -/
theorem appendTarget_becomes (hs : b.Sound) (progressId : String) (case? : Option String) :
    Becomes b (b.appendTarget progressId case?).1 ((b.get? progressId).getD b.objects.length)
      { b.opened (b.get? progressId) progressId with recoveryCaseId := b.caseJoined progressId case? }
      fun name => name = progressId ∨ case? = some name ∧ b.Joins progressId name := by
  have hopened := becomes_getOrCreate hs progressId
  -- a case stands for the channel then exactly if it joined it
  have hjoins : ∀ name, (b.getOrCreate progressId).1.Attaches ((b.get? progressId).getD b.objects.length) name ↔
      b.Joins progressId name := by
    intro name
    by_cases hname : name = progressId
    · exact iff_of_true (Or.inr (hopened.moves name hname)) (Or.inl hname)
    · rw [Attaches, Joins, hopened.keeps name hname, or_iff_right hname]
      cases hget : b.get? progressId with
      | some k => rfl
      | none =>
        have hne : b.get? name ≠ some b.objects.length := fun h => absurd (hs.in_range _ _ h) (lt_irrefl _)
        simp [hne]
  rw [appendTarget, getOrCreate_snd]
  refine hopened.attachIf.congr ?_ fun name => or_congr_right (and_congr_right fun _ => (hjoins name).symm)
  cases case? with
  | none => rw [caseAttached, hopened.self]; rfl
  | some name => rw [caseAttached, hopened.self, caseJoined]; simp only [hjoins]

theorem appendTarget_snd : (b.appendTarget progressId case?).2 = (b.get? progressId).getD b.objects.length :=
  getOrCreate_snd

/-- The event that `append` appends. -/
def eventFor (b : RecoveryProgressBuffer α) (progressId : String) (case? : Option String) (content : α) :
    RecoveryProgressEvent α :=
  let channel := b.opened (b.get? progressId) progressId
  { id := s!"{channel.progressId}:{channel.nextSequence}"
    progressId := channel.progressId
    recoveryCaseId := b.caseJoined progressId case?
    sequence := channel.nextSequence
    content }

theorem nextEvent_appendTarget (hs : b.Sound) :
    (b.appendTarget progressId case?).1.nextEvent (b.appendTarget progressId case?).2 content =
      b.eventFor progressId case? content := by
  rw [nextEvent, appendTarget_snd, (appendTarget_becomes hs progressId case?).self]
  rfl

/-- **What `append` does.** -/
theorem append_becomes (hs : b.Sound) (progressId : String) (case? : Option String) (content : α) :
    Becomes b ((b.appendTarget progressId case?).1.record (b.appendTarget progressId case?).2 content)
      ((b.get? progressId).getD b.objects.length)
      { b.opened (b.get? progressId) progressId with
        recoveryCaseId := b.caseJoined progressId case?
        nextSequence := (b.opened (b.get? progressId) progressId).nextSequence + 1
        events := retained ((b.opened (b.get? progressId) progressId).events ++
          [b.eventFor progressId case? content]) }
      fun name => name = progressId ∨ case? = some name ∧ b.Joins progressId name := by
  rw [← nextEvent_appendTarget hs, appendTarget_snd]
  exact (appendTarget_becomes hs progressId case?).record

theorem Sound.opened_stamped (hs : b.Sound) (h : event ∈ (b.opened found progressId).events) :
    event.progressId = (b.opened found progressId).progressId ∧
      event.sequence < (b.opened found progressId).nextSequence := by
  cases found with
  | none => exact absurd h List.not_mem_nil
  | some k => exact hs.stamped k event h

theorem sound_empty : (({} : RecoveryProgressBuffer α)).Sound :=
  ⟨nofun, fun _ h => absurd h (Nat.not_lt_zero _), fun _ h => absurd h (Nat.not_lt_zero _), fun _ _ h =>
    absurd (lt_of_mem_eventsAt h) (Nat.not_lt_zero _)⟩

theorem Sound.startLocked (hs : b.Sound) : (b.startLocked progressId case?).Sound :=
  hs.becomes (startLocked_becomes hs progressId case?) (fun _ => findChannel_lt hs) get?_of_findChannel_eq_none
    (Or.inl rfl) rfl fun _ => hs.opened_stamped

theorem Sound.append (hs : b.Sound) :
    ((b.appendTarget progressId case?).1.record (b.appendTarget progressId case?).2 content).Sound := by
  refine hs.becomes (append_becomes hs progressId case? content) (hs.in_range progressId) id (Or.inl rfl) rfl
    fun event hevent => ?_
  simp only at hevent
  rcases List.mem_append.mp (mem_of_mem_retained hevent) with hevent | hevent
  · have hstamped := hs.opened_stamped hevent
    exact ⟨hstamped.1, Nat.lt_succ_of_lt hstamped.2⟩
  · obtain rfl := List.mem_singleton.mp hevent
    exact ⟨rfl, Nat.lt_succ_self _⟩

/-- `start` leaves the events where they are. -/
theorem eventsAt_startLocked (hs : b.Sound) : (b.startLocked progressId case?).eventsAt j = b.eventsAt j := by
  have hbecomes := startLocked_becomes hs progressId case?
  by_cases hj : j = (b.findChannel progressId case?).getD b.objects.length
  · subst hj
    rw [eventsAt_eq_opened, eventsAt, hbecomes.self]
  · rw [eventsAt, hbecomes.other j hj, eventsAt]

/-- The names after `start`. -/
theorem get?_startLocked (hs : b.Sound) :
    (b.startLocked progressId case?).get? name =
      if name = progressId ∨ case? = some name then some ((b.findChannel progressId case?).getD b.objects.length)
      else b.get? name := by
  have hbecomes := startLocked_becomes hs progressId case?
  split
  next hmoved => exact hbecomes.moves name hmoved
  next hkept => exact hbecomes.keeps name hkept

/-- An event that a channel has stamped is not the next one. -/
theorem Sound.ne_eventFor (hs : b.Sound) (hk : k < b.objects.length)
    (hprogressId : event.progressId = (b.channel k).progressId)
    (hsequence : event.sequence < (b.channel k).nextSequence) :
    event ≠ b.eventFor progressId case? content := by
  rintro rfl
  cases hget : b.get? progressId with
  | none =>
    simp only [eventFor, hget, opened, Option.elim_none] at hprogressId
    exact hs.named k hk (hprogressId ▸ hget)
  | some i =>
    simp only [eventFor, hget, opened, Option.elim_some] at hprogressId hsequence
    obtain rfl := hs.progressId_inj i (hs.in_range _ _ hget) k hk hprogressId
    exact lt_irrefl _ hsequence

/-- The events after `append`: the new one is the newest of its channel, and no other is new. -/
theorem mem_eventsAt_append (hs : b.Sound) :
    event ∈ ((b.appendTarget progressId case?).1.record (b.appendTarget progressId case?).2 content).eventsAt j →
      event ∈ b.eventsAt j ∨
        event = b.eventFor progressId case? content ∧ j = (b.get? progressId).getD b.objects.length := by
  have hbecomes := append_becomes hs progressId case? content
  by_cases hj : j = (b.get? progressId).getD b.objects.length
  · subst hj
    rw [eventsAt, hbecomes.self, eventsAt_eq_opened]
    intro hevent
    simp only at hevent
    rcases List.mem_append.mp (mem_of_mem_retained hevent) with hevent | hevent
    · exact Or.inl hevent
    · exact Or.inr ⟨List.mem_singleton.mp hevent, rfl⟩
  · rw [eventsAt, hbecomes.other j hj]
    exact Or.inl

/-- The new event is there. -/
theorem eventFor_mem_eventsAt (hs : b.Sound) :
    b.eventFor progressId case? content ∈
      ((b.appendTarget progressId case?).1.record (b.appendTarget progressId case?).2 content).eventsAt
        ((b.get? progressId).getD b.objects.length) := by
  rw [eventsAt, (append_becomes hs progressId case? content).self]
  simp only
  exact mem_retained_concat _

/-- The names after `append`. -/
theorem get?_append (hs : b.Sound) :
    ((b.appendTarget progressId case?).1.record (b.appendTarget progressId case?).2 content).get? name =
      if name = progressId ∨ case? = some name ∧ b.Joins progressId name then
        some ((b.get? progressId).getD b.objects.length)
      else b.get? name := by
  have hbecomes := append_becomes hs progressId case? content
  split
  next hmoved => exact hbecomes.moves name hmoved
  next hkept => exact hbecomes.keeps name hkept

/-- A name stands for the channel that `append` writes to if it stands for that of the request. -/
theorem Sound.get?_eq_of_target (hs : b.Sound) (h : b.get? name = some ((b.get? progressId).getD b.objects.length)) :
    b.get? name = b.get? progressId := by
  cases hget : b.get? progressId with
  | none =>
    rw [hget, Option.getD_none] at h
    exact absurd (hs.in_range _ _ h) (lt_irrefl _)
  | some k => rw [h, hget, Option.getD_some]

end RecoveryProgressBuffer

/-! ### Runs of calls -/

/-- A call of the buffer that may change it. -/
inductive Call (α : Type) where
  /-- `start`. -/
  | start (progressId : String) (recoveryCaseId : Option String)
  /-- `append`. -/
  | append (progressId : String) (recoveryCaseId : Option String) (content : α)

variable {α : Type} {b : RecoveryProgressBuffer α}

/-- The buffer after a call; a call that fails changes nothing. -/
def RecoveryProgressBuffer.perform (b : RecoveryProgressBuffer α) : Call α → RecoveryProgressBuffer α
  | .start progressId case? =>
    match b.start progressId case? with
    | .error _ => b
    | .ok buffer => buffer
  | .append progressId case? content =>
    match b.append progressId case? content with
    | .error _ => b
    | .ok (buffer, _) => buffer

/-- Every call keeps a buffer sound. -/
theorem RecoveryProgressBuffer.Sound.perform (hs : b.Sound) (call : Call α) : (b.perform call).Sound := by
  cases call with
  | start progressId case? =>
    rw [RecoveryProgressBuffer.perform]
    split
    next => exact hs
    next hok =>
      rw [(start_eq_ok.mp hok).2]
      exact hs.startLocked
  | append progressId case? content =>
    rw [RecoveryProgressBuffer.perform]
    split
    next => exact hs
    next hok =>
      rw [(append_eq_ok.mp hok).2.1]
      exact hs.append

end DayMend.Progress
