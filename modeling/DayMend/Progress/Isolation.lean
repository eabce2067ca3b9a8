import DayMend.Base.Fold
import DayMend.Progress.Buffer

/-!
# Whose progress is whose

A run of calls appends events, each for a case or for none (`History`). Cases are isolated
if a case sees no event that was appended for another, and if what was appended for a case
says so and is found under it as long as it is retained (`Isolated`).

The buffer does not keep cases apart by itself: identifiers of requests and of cases name
the same channels, and one request can be used for two cases. Exactly one kind of call
breaks the isolation, a call that brings two cases to one channel or a case to a second
one (`CallOk`); as long as there is none, cases are isolated (`isolated_iff_callOk`).
-/

namespace DayMend.Progress

open DayMend.Base RecoveryProgressBuffer

variable {α : Type}

/-- A run of calls: what the buffer is after it, the events that it appended with the case that each was appended for,
newest first, and the cases that its calls named. A call that fails changes nothing. -/
structure History (α : Type) where
  buffer : RecoveryProgressBuffer α := {}
  appended : List (RecoveryProgressEvent α × Option String) := []
  caseIds : List String := []

/-- One more call. -/
def History.call (h : History α) : Call α → History α
  | .start progressId case? =>
    match h.buffer.start progressId case? with
    | .error _ => h
    | .ok buffer => { h with buffer, caseIds := case?.toList ++ h.caseIds }
  | .append progressId case? content =>
    match h.buffer.append progressId case? content with
    | .error _ => h
    | .ok (buffer, event) =>
      { buffer, appended := (event, case?) :: h.appended, caseIds := case?.toList ++ h.caseIds }

/-- The run of a list of calls. -/
def historyOf (calls : List (Call α)) : History α := calls.foldl History.call {}

/-- **Isolated cases**: no case sees an event that was appended for another, and every event that was appended for a
case is labelled with it and, while a channel retains it, is found under it. -/
structure History.Isolated (h : History α) : Prop where
  no_other : ∀ caseId ∈ h.caseIds, ∀ events, h.buffer.snapshot caseId = .ok events →
    ∀ entry ∈ h.appended, entry.1 ∈ events → entry.2 = none ∨ entry.2 = some caseId
  labelled : ∀ entry ∈ h.appended, ∀ caseId, entry.2 = some caseId → entry.1.recoveryCaseId = some caseId
  found : ∀ entry ∈ h.appended, ∀ caseId, entry.2 = some caseId → (∃ k, entry.1 ∈ h.buffer.eventsAt k) →
    ∃ events, h.buffer.snapshot caseId = .ok events ∧ entry.1 ∈ events

/-- The call does not bring two cases together. An event is appended for a case that is a valid identifier, has no
channel but that of the request, and shares it with no other case. A request and a case come to stand for one channel
only if what it retains was appended for none but them, and the request leaves nothing of its own behind. -/
def History.CallOk (h : History α) : Call α → Prop
  | .start progressId case? =>
    let target := (h.buffer.findChannel progressId case?).getD h.buffer.objects.length
    matchesPattern progressId →
      (∀ name, name = progressId ∨ case? = some name → name ∈ case?.toList ++ h.caseIds → matchesPattern name →
        ∀ entry ∈ h.appended, entry.1 ∈ h.buffer.eventsAt target → entry.2 = none ∨ entry.2 = some name) ∧
      ∀ entry ∈ h.appended, entry.2 = some progressId → ∀ k, entry.1 ∈ h.buffer.eventsAt k → k = target
  | .append progressId case? _ =>
    matchesPattern progressId → ∀ caseId, case? = some caseId →
      matchesPattern caseId ∧ h.buffer.Joins progressId caseId ∧
        ∀ other ∈ h.caseIds, matchesPattern other → h.buffer.get? other = h.buffer.get? progressId → other = caseId

/-! ### What every run records -/

/-- What holds of every run. -/
structure Recorded (h : History α) : Prop where
  sound : h.buffer.Sound
  stamped : ∀ entry ∈ h.appended, ∃ k < h.buffer.objects.length,
    entry.1.progressId = (h.buffer.channel k).progressId ∧ entry.1.sequence < (h.buffer.channel k).nextSequence
  named : ∀ caseId ∈ h.caseIds, h.buffer.get? caseId ≠ none
  appended_caseIds : ∀ entry ∈ h.appended, ∀ caseId, entry.2 = some caseId → caseId ∈ h.caseIds

variable {h : History α} {progressId : String} {case? : Option String} {content : α}

theorem call_start_of_matches (hvalid : matchesPattern progressId) :
    h.call (.start progressId case?) =
      { h with buffer := h.buffer.startLocked progressId case?, caseIds := case?.toList ++ h.caseIds } := by
  rw [History.call, (start_eq_ok (b := h.buffer)).mpr ⟨hvalid, rfl⟩]

theorem call_start_of_not (hvalid : ¬ matchesPattern progressId) : h.call (.start progressId case?) = h := by
  rw [History.call]
  split
  · rfl
  next hok => exact absurd (start_eq_ok.mp hok).1 hvalid

theorem call_append_of_matches (hs : h.buffer.Sound) (hvalid : matchesPattern progressId) :
    h.call (.append progressId case? content) =
      { buffer := (h.buffer.appendTarget progressId case?).1.record (h.buffer.appendTarget progressId case?).2 content
        appended := (h.buffer.eventFor progressId case? content, case?) :: h.appended
        caseIds := case?.toList ++ h.caseIds } := by
  rw [History.call, (append_eq_ok (b := h.buffer)).mpr ⟨hvalid, rfl, rfl⟩]
  simp only [nextEvent_appendTarget hs]

theorem call_append_of_not (hvalid : ¬ matchesPattern progressId) :
    h.call (.append progressId case? content) = h := by
  rw [History.call]
  split
  · rfl
  next hok => exact absurd (append_eq_ok.mp hok).1 hvalid

theorem recorded_start (hr : Recorded h) (hvalid : matchesPattern progressId) :
    Recorded (h.call (.start progressId case?)) := by
  rw [call_start_of_matches hvalid]
  have hbecomes := startLocked_becomes hr.sound progressId case?
  refine ⟨hr.sound.startLocked, fun entry hentry => ?_, fun caseId hcase => ?_, fun entry hentry caseId hcase => ?_⟩
  · obtain ⟨k, hk, hprogressId, hsequence⟩ := hr.stamped entry hentry
    refine ⟨k, hk.trans_le hbecomes.le, hprogressId.trans (hbecomes.progressId_eq rfl hk).symm, ?_⟩
    exact hsequence.trans_le (hbecomes.nextSequence_le
      (show (h.buffer.opened _ progressId).nextSequence ≤ _ from le_rfl) hk)
  · rcases List.mem_append.mp hcase with hcase | hcase
    · rw [hbecomes.moves caseId (Or.inr (Option.mem_toList.mp hcase))]
      exact Option.some_ne_none _
    · exact hbecomes.get?_ne_none (hr.named caseId hcase)
  · exact List.mem_append_right _ (hr.appended_caseIds entry hentry caseId hcase)

theorem recorded_append (hr : Recorded h) (hvalid : matchesPattern progressId) :
    Recorded (h.call (.append progressId case? content)) := by
  rw [call_append_of_matches hr.sound hvalid]
  have hbecomes := append_becomes hr.sound progressId case? content
  refine ⟨hr.sound.append, fun entry hentry => ?_, fun caseId hcase => ?_, fun entry hentry caseId hcase => ?_⟩
  · rcases List.mem_cons.mp hentry with rfl | hentry
    · refine ⟨_, hbecomes.lt, ?_, ?_⟩
      · rw [hbecomes.self]
        rfl
      · rw [hbecomes.self]
        exact Nat.lt_succ_self _
    · obtain ⟨k, hk, hprogressId, hsequence⟩ := hr.stamped entry hentry
      refine ⟨k, hk.trans_le hbecomes.le, hprogressId.trans (hbecomes.progressId_eq rfl hk).symm, ?_⟩
      exact hsequence.trans_le (hbecomes.nextSequence_le
        (show (h.buffer.opened _ progressId).nextSequence ≤ _ from Nat.le_succ _) hk)
  · rcases List.mem_append.mp hcase with hcase | hcase
    · -- the case stands for this channel now, or for another as before
      by_cases hmoved : caseId = progressId ∨ case? = some caseId ∧ h.buffer.Joins progressId caseId
      · rw [hbecomes.moves caseId hmoved]
        exact Option.some_ne_none _
      · rw [hbecomes.keeps caseId hmoved]
        intro hnone
        exact hmoved (Or.inr ⟨Option.mem_toList.mp hcase, Or.inr (Or.inl hnone)⟩)
    · exact hbecomes.get?_ne_none (hr.named caseId hcase)
  · rcases List.mem_cons.mp hentry with rfl | hentry
    · exact List.mem_append_left _ (Option.mem_toList.mpr hcase)
    · exact List.mem_append_right _ (hr.appended_caseIds entry hentry caseId hcase)

/-- Every call keeps the record. -/
theorem Recorded.call (hr : Recorded h) (call : Call α) : Recorded (h.call call) := by
  cases call with
  | start progressId case? =>
    by_cases hvalid : matchesPattern progressId
    · exact recorded_start hr hvalid
    · rwa [call_start_of_not hvalid]
  | append progressId case? content =>
    by_cases hvalid : matchesPattern progressId
    · exact recorded_append hr hvalid
    · rwa [call_append_of_not hvalid]

theorem recorded_empty : Recorded ({} : History α) := ⟨sound_empty, nofun, nofun, nofun⟩

/-! ### Isolation by channels -/

/-- Isolation in terms of channels: what the channel of a case retains was appended for no other, and what was appended
for a case is labelled with it and retained by its channel only. -/
structure ByChannel (h : History α) : Prop where
  no_other : ∀ caseId ∈ h.caseIds, matchesPattern caseId → ∀ k, h.buffer.get? caseId = some k →
    ∀ entry ∈ h.appended, entry.1 ∈ h.buffer.eventsAt k → entry.2 = none ∨ entry.2 = some caseId
  labelled : ∀ entry ∈ h.appended, ∀ caseId, entry.2 = some caseId → entry.1.recoveryCaseId = some caseId
  found : ∀ entry ∈ h.appended, ∀ caseId, entry.2 = some caseId → ∀ k, entry.1 ∈ h.buffer.eventsAt k →
    matchesPattern caseId ∧ h.buffer.get? caseId = some k

theorem isolated_iff_byChannel (hr : Recorded h) : h.Isolated ↔ ByChannel h := by
  constructor
  · intro hi
    refine ⟨fun caseId hcase hvalid k hk entry hentry hmem => ?_, hi.labelled,
      fun entry hentry caseId hcase k hmem => ?_⟩
    · refine hi.no_other caseId hcase _ (snapshot_eq_ok.mpr ⟨hvalid, rfl⟩) entry hentry ?_
      rwa [hk, Option.elim_some]
    · obtain ⟨events, hevents, hfound⟩ := hi.found entry hentry caseId hcase ⟨k, hmem⟩
      obtain ⟨hvalid, rfl⟩ := snapshot_eq_ok.mp hevents
      refine ⟨hvalid, ?_⟩
      cases hget : h.buffer.get? caseId with
      | none =>
        rw [hget, Option.elim_none] at hfound
        exact absurd hfound List.not_mem_nil
      | some j =>
        rw [hget, Option.elim_some] at hfound
        -- both channels have stamped the event
        have hsame := (hr.sound.stamped j _ hfound).1.symm.trans (hr.sound.stamped k _ hmem).1
        rw [hr.sound.progressId_inj j (lt_of_mem_eventsAt hfound) k (lt_of_mem_eventsAt hmem) hsame]
  · intro hi
    refine ⟨fun caseId hcase events hevents entry hentry hmem => ?_, hi.labelled,
      fun entry hentry caseId hcase hretained => ?_⟩
    · obtain ⟨hvalid, rfl⟩ := snapshot_eq_ok.mp hevents
      cases hget : h.buffer.get? caseId with
      | none =>
        rw [hget, Option.elim_none] at hmem
        exact absurd hmem List.not_mem_nil
      | some k =>
        rw [hget, Option.elim_some] at hmem
        exact hi.no_other caseId hcase hvalid k hget entry hentry hmem
    · obtain ⟨k, hmem⟩ := hretained
      obtain ⟨hvalid, hget⟩ := hi.found entry hentry caseId hcase k hmem
      refine ⟨_, snapshot_eq_ok.mpr ⟨hvalid, rfl⟩, ?_⟩
      rwa [hget, Option.elim_some]

/-! ### Which calls keep cases apart -/

/-- **Starting** keeps cases apart exactly if the call is ok. -/
theorem byChannel_start_iff (hr : Recorded h) (hi : ByChannel h) (hvalid : matchesPattern progressId) :
    ByChannel (h.call (.start progressId case?)) ↔ h.CallOk (.start progressId case?) := by
  rw [call_start_of_matches hvalid]
  constructor
  · intro hnext _
    refine ⟨fun name hname hmem hname' entry hentry hretained => ?_, fun entry hentry hcase k hretained => ?_⟩
    · refine hnext.no_other name hmem hname' ((h.buffer.findChannel progressId case?).getD h.buffer.objects.length) ?_
        entry hentry ?_
      · exact (get?_startLocked hr.sound).trans (if_pos hname)
      · exact (eventsAt_startLocked hr.sound).symm ▸ hretained
    · have hfound := (hnext.found entry hentry progressId hcase k ((eventsAt_startLocked hr.sound).symm ▸ hretained)).2
      rw [get?_startLocked hr.sound, if_pos (Or.inl rfl)] at hfound
      exact (Option.some.inj hfound).symm
  · intro hok
    obtain ⟨hothers, hown⟩ := hok hvalid
    refine ⟨fun caseId hcase hcase' k hk entry hentry hretained => ?_, hi.labelled,
      fun entry hentry caseId hcase k hretained => ?_⟩
    · rw [eventsAt_startLocked hr.sound] at hretained
      rw [get?_startLocked hr.sound] at hk
      split at hk
      next hname =>
        obtain rfl := Option.some.inj hk
        exact hothers caseId hname hcase hcase' entry hentry hretained
      next hname =>
        have hold := (List.mem_append.mp hcase).resolve_left fun h => hname (Or.inr (Option.mem_toList.mp h))
        exact hi.no_other caseId hold hcase' k hk entry hentry hretained
    · rw [eventsAt_startLocked hr.sound] at hretained
      obtain ⟨hcase', hget⟩ := hi.found entry hentry caseId hcase k hretained
      refine ⟨hcase', ?_⟩
      rw [get?_startLocked hr.sound]
      split
      next hname =>
        rcases hname with rfl | rfl
        · rw [hown entry hentry hcase k hretained]
        · -- the channel of the case is the one that is found
          rw [findChannel, Option.bind_some, hget, Option.some_or, Option.getD_some]
      next => exact hget

/-- An earlier event that is retained after `append` was retained before. -/
theorem Recorded.mem_earlier (hr : Recorded h) {entry : RecoveryProgressEvent α × Option String} {k : ℕ}
    (hentry : entry ∈ h.appended)
    (hretained : entry.1 ∈ ((h.buffer.appendTarget progressId case?).1.record
      (h.buffer.appendTarget progressId case?).2 content).eventsAt k) : entry.1 ∈ h.buffer.eventsAt k := by
  obtain ⟨j, hj, hprogressId, hsequence⟩ := hr.stamped entry hentry
  exact (mem_eventsAt_append hr.sound hretained).resolve_right fun hnew =>
    hr.sound.ne_eventFor hj hprogressId hsequence hnew.1

/-- The new event is in the channel of the request, and there only. -/
theorem Recorded.place_of_new (hr : Recorded h) {k : ℕ}
    (hretained : h.buffer.eventFor progressId case? content ∈ ((h.buffer.appendTarget progressId case?).1.record
      (h.buffer.appendTarget progressId case?).2 content).eventsAt k) :
    k = (h.buffer.get? progressId).getD h.buffer.objects.length := by
  rcases mem_eventsAt_append hr.sound hretained with hold | hnew
  · obtain ⟨hprogressId, hsequence⟩ := hr.sound.stamped k _ hold
    exact absurd rfl (hr.sound.ne_eventFor (lt_of_mem_eventsAt hold) hprogressId hsequence)
  · exact hnew.2

/-- A case that has come to stand for the channel of the request did so before, if it is not new. -/
theorem Recorded.get?_eq_of_moved (hr : Recorded h) {name : String} (hname : name ∈ h.caseIds)
    (hmoved : name = progressId ∨ case? = some name ∧ h.buffer.Joins progressId name) :
    h.buffer.get? name = h.buffer.get? progressId := by
  rcases hmoved with rfl | ⟨-, rfl | hnone | hsame⟩
  · rfl
  · rfl
  · exact absurd hnone (hr.named name hname)
  · exact hsame

/-- An earlier case that stands for the channel that was written to stood for that of the request. -/
theorem Recorded.get?_eq_of_target (hr : Recorded h) {name : String} (hname : name ∈ h.caseIds)
    (hget : ((h.buffer.appendTarget progressId case?).1.record (h.buffer.appendTarget progressId case?).2
      content).get? name = some ((h.buffer.get? progressId).getD h.buffer.objects.length)) :
    h.buffer.get? name = h.buffer.get? progressId := by
  rw [get?_append hr.sound] at hget
  split at hget
  next hmoved => exact hr.get?_eq_of_moved hname hmoved
  next => exact hr.sound.get?_eq_of_target hget

theorem callOk_of_byChannel_append (hr : Recorded h) (hvalid : matchesPattern progressId)
    (hnext : ByChannel (h.call (.append progressId case? content))) : h.CallOk (.append progressId case? content) := by
  rw [call_append_of_matches hr.sound hvalid] at hnext
  intro _ caseId hcase
  obtain ⟨hcase', hget⟩ := hnext.found _ (List.mem_cons_self ..) caseId hcase _ (eventFor_mem_eventsAt hr.sound)
  have hjoins : h.buffer.Joins progressId caseId := by
    by_contra hnot
    rw [get?_append hr.sound, if_neg fun hmoved => hmoved.elim (fun heq => hnot (Or.inl heq)) fun h => hnot h.2] at hget
    exact hnot (Or.inr (Or.inr (hr.sound.get?_eq_of_target hget)))
  refine ⟨hcase', hjoins, fun other hother hother' hsame => ?_⟩
  -- the other case sees the new event
  have hsees : ((h.buffer.appendTarget progressId case?).1.record (h.buffer.appendTarget progressId case?).2
      content).get? other = some ((h.buffer.get? progressId).getD h.buffer.objects.length) := by
    rw [get?_append hr.sound]
    split
    next => rfl
    next =>
      cases hget' : h.buffer.get? progressId with
      | none => exact absurd (hsame.trans hget') (hr.named other hother)
      | some k => rw [hsame, hget', Option.getD_some]
  have hseen := hnext.no_other other (List.mem_append_right _ hother) hother' _ hsees _ (List.mem_cons_self ..)
    (eventFor_mem_eventsAt hr.sound)
  rw [hcase] at hseen
  exact (Option.some.inj (hseen.resolve_left (Option.some_ne_none _))).symm

section AppendOk

variable (hr : Recorded h) (hvalid : matchesPattern progressId)
  (hok : h.CallOk (.append progressId case? content)) {caseId : String} {k : ℕ}
  (hcase : caseId ∈ case?.toList ++ h.caseIds)
  (hk : ((h.buffer.appendTarget progressId case?).1.record (h.buffer.appendTarget progressId case?).2
    content).get? caseId = some k)

include hr hvalid hok hcase hk

/-- Only the case that it is appended for sees the new event. -/
theorem Recorded.case_of_new_seen (hcase' : matchesPattern caseId)
    (hretained : h.buffer.eventFor progressId case? content ∈ ((h.buffer.appendTarget progressId case?).1.record
      (h.buffer.appendTarget progressId case?).2 content).eventsAt k) : case? = none ∨ case? = some caseId := by
  obtain rfl := hr.place_of_new hretained
  by_cases hown : case? = some caseId
  · exact Or.inr hown
  · have hold := (List.mem_append.mp hcase).resolve_left fun h => hown (Option.mem_toList.mp h)
    cases case? with
    | none => exact Or.inl rfl
    | some own =>
      have hsame := (hok hvalid own rfl).2.2 caseId hold hcase' (hr.get?_eq_of_target hold hk)
      exact absurd (congrArg some hsame.symm) hown

/-- A case that sees an earlier event of another case after the call saw it before, or is that case. -/
theorem Recorded.case_of_old_seen (hi : ByChannel h) (hcase' : matchesPattern caseId)
    {entry : RecoveryProgressEvent α × Option String} (hentry : entry ∈ h.appended)
    (hretained : entry.1 ∈ h.buffer.eventsAt k) : entry.2 = none ∨ entry.2 = some caseId := by
  cases hfor : entry.2 with
  | none => exact Or.inl rfl
  | some other =>
    obtain ⟨hother', hother⟩ := hi.found entry hentry other hfor k hretained
    by_cases hold : caseId ∈ h.caseIds
    · rw [← hfor]
      refine hi.no_other caseId hold hcase' k ?_ entry hentry hretained
      by_cases hplace : k = (h.buffer.get? progressId).getD h.buffer.objects.length
      · rw [hr.get?_eq_of_target hold (hplace ▸ hk), ← hr.sound.get?_eq_of_target (hplace ▸ hother), hother]
      · rw [get?_append hr.sound] at hk
        split at hk
        next => exact absurd (Option.some.inj hk).symm hplace
        next => exact hk
    · -- a new case shares its channel with no other
      have hown : case? = some caseId := Option.mem_toList.mp ((List.mem_append.mp hcase).resolve_right hold)
      obtain ⟨-, hjoins, hunique⟩ := hok hvalid caseId hown
      rw [get?_append hr.sound, if_pos (Or.inr ⟨hown, hjoins⟩)] at hk
      obtain rfl := Option.some.inj hk
      refine Or.inr (congrArg some (hunique other ?_ hother' (hr.sound.get?_eq_of_target hother)))
      exact hr.appended_caseIds entry hentry other hfor

end AppendOk

theorem byChannel_append_of_callOk (hr : Recorded h) (hi : ByChannel h) (hvalid : matchesPattern progressId)
    (hok : h.CallOk (.append progressId case? content)) : ByChannel (h.call (.append progressId case? content)) := by
  rw [call_append_of_matches hr.sound hvalid]
  refine ⟨fun caseId hcase hcase' k hk entry hentry hretained => ?_, fun entry hentry caseId hcase => ?_,
    fun entry hentry caseId hcase k hretained => ?_⟩
  · rcases List.mem_cons.mp hentry with rfl | hentry
    · exact hr.case_of_new_seen hvalid hok hcase hk hcase' hretained
    · exact hr.case_of_old_seen hvalid hok hcase hk hi hcase' hentry (hr.mem_earlier hentry hretained)
  · rcases List.mem_cons.mp hentry with rfl | hentry
    · obtain rfl : case? = some caseId := hcase
      exact if_pos (hok hvalid caseId rfl).2.1
    · exact hi.labelled entry hentry caseId hcase
  · rcases List.mem_cons.mp hentry with rfl | hentry
    · obtain ⟨hcase', hjoins, -⟩ := hok hvalid caseId hcase
      refine ⟨hcase', ?_⟩
      rw [get?_append hr.sound, if_pos (Or.inr ⟨hcase, hjoins⟩), hr.place_of_new hretained]
    · obtain ⟨hcase', hget⟩ := hi.found entry hentry caseId hcase k (hr.mem_earlier hentry hretained)
      refine ⟨hcase', ?_⟩
      rw [get?_append hr.sound]
      split
      next hmoved =>
        rw [← hr.get?_eq_of_moved (hr.appended_caseIds entry hentry caseId hcase) hmoved, hget, Option.getD_some]
      next => exact hget

/-- **One call** keeps cases apart exactly if it is ok. -/
theorem isolated_call_iff (hr : Recorded h) (hi : h.Isolated) (call : Call α) :
    (h.call call).Isolated ↔ h.CallOk call := by
  rw [isolated_iff_byChannel (hr.call call)]
  have hi' := (isolated_iff_byChannel hr).mp hi
  cases call with
  | start progressId case? =>
    by_cases hvalid : matchesPattern progressId
    · exact byChannel_start_iff hr hi' hvalid
    · rw [call_start_of_not hvalid]
      exact iff_of_true hi' fun h => absurd h hvalid
  | append progressId case? content =>
    by_cases hvalid : matchesPattern progressId
    · exact ⟨callOk_of_byChannel_append hr hvalid, byChannel_append_of_callOk hr hi' hvalid⟩
    · rw [call_append_of_not hvalid]
      exact iff_of_true hi' fun h => absurd h hvalid

/-- **When cases are isolated**: throughout a run, exactly if every call of the run is ok. -/
theorem isolated_iff_callOk (calls : List (Call α)) :
    (∀ run, run <+: calls → (historyOf run).Isolated) ↔
      ∀ run call, run ++ [call] <+: calls → (historyOf run).CallOk call :=
  forall_prefix_iff Recorded History.Isolated recorded_empty (fun _ call hr => hr.call call) ⟨nofun, nofun, nofun⟩
    (fun _ call hr hi => isolated_call_iff hr hi call) calls

/-- A client that keeps its progress identifier for a second case. -/
def secondCase : List (Call Unit) :=
  [.start "request-1" none, .append "request-1" (some "case-0001") (), .append "request-1" (some "case-0002") ()]

/-- The event that it appends for the second case. -/
def secondCaseEvent : RecoveryProgressEvent Unit :=
  { id := "request-1:2", progressId := "request-1", recoveryCaseId := some "case-0002", sequence := 2, content := () }

/-- The first case sees what was appended for the second. -/
theorem secondCase_not_isolated : ¬ (historyOf secondCase).Isolated := by
  intro h
  have hcase : "case-0001" ∈ (historyOf secondCase).caseIds := by decide +kernel
  have hentry : (secondCaseEvent, some "case-0002") ∈ (historyOf secondCase).appended := by decide +kernel
  have hseen : secondCaseEvent ∈ ((historyOf secondCase).buffer.get? "case-0001").elim []
      (historyOf secondCase).buffer.eventsAt := by decide +kernel
  have hsnapshot := (snapshot_eq_ok (b := (historyOf secondCase).buffer)).mpr
    ⟨(by decide +kernel : matchesPattern "case-0001"), rfl⟩
  rcases h.no_other "case-0001" hcase _ hsnapshot _ hentry hseen with hnone | hsame
  · exact absurd hnone (by decide)
  · exact absurd hsame (by decide)

end DayMend.Progress
