import DayMend.Progress.Isolation

/-!
# Polling loses nothing and repeats nothing

A channel numbers its events from 1 on, and retains the newest of them (`Numbered`). A
reader keeps the number of the last event it has seen, and asks for what came after it,
again and again, while calls of all kinds go on in between (`Reader.round`).

As long as no more events come between two polls than a channel retains, the reader gets
every event once, and in order (`polling_exact`).
-/

namespace DayMend.Progress

open DayMend.Base RecoveryProgressBuffer

variable {α : Type} {h : History α} {k : ℕ} {progressId name : String} {case? : Option String} {content : α}

/-! ### Numbered lists -/

/-- The elements that come after a number, in a list that is numbered from `a` on. -/
theorem filter_lt_eq_drop {β : Type} {f : β → ℕ} {s : ℕ} {l : List β} :
    ∀ {a : ℕ}, l.map f = List.range' a l.length → (l.filter fun x => decide (f x > s)) = l.drop (s + 1 - a) := by
  induction l with
  | nil => intro a _; simp
  | cons x l ih =>
    intro a hl
    rw [List.map_cons, List.length_cons, List.range'_succ, List.cons.injEq] at hl
    obtain ⟨rfl, hl⟩ := hl
    by_cases hx : f x > s
    · rw [List.filter_cons_of_pos (by simpa using hx), ih hl, show s + 1 - (f x + 1) = 0 by omega,
        show s + 1 - f x = 0 by omega, List.drop_zero, List.drop_zero]
    · rw [List.filter_cons_of_neg (by simpa using hx), ih hl, show s + 1 - f x = s + 1 - (f x + 1) + 1 by omega,
        List.drop_succ_cons]

/-- The newest `m` of the newest `m` and one more are the newest `m` of them all. -/
theorem newest_concat_newest {β : Type} (m : ℕ) (l : List β) (x : β) :
    (l.drop (l.length - m) ++ [x]).drop ((l.drop (l.length - m) ++ [x]).length - m) =
      (l ++ [x]).drop ((l ++ [x]).length - m) := by
  rw [List.drop_append, List.drop_append, List.drop_drop]
  simp only [List.length_append, List.length_drop, List.length_singleton]
  congr 2 <;> omega

/-! ### What a channel has numbered -/

/-- The events that have been appended under a progress identifier, oldest first. -/
def History.stampedBy (h : History α) (progressId : String) : List (RecoveryProgressEvent α) :=
  ((h.appended.map (·.1)).filter fun event => event.progressId = progressId).reverse

/-- The events that have been appended to a channel, oldest first. -/
def History.appendedTo (h : History α) (k : ℕ) : List (RecoveryProgressEvent α) :=
  h.stampedBy (h.buffer.channel k).progressId

/-- The channel has numbered the events from 1 on, and retains the newest. -/
structure Numbers (channel : ProgressChannel α) (events : List (RecoveryProgressEvent α)) : Prop where
  sequences : events.map (·.sequence) = List.range' 1 events.length
  next : channel.nextSequence = events.length + 1
  newest : channel.events = retained events

/-- Every channel has numbered what was appended to it. -/
structure Numbered (h : History α) : Prop where
  recorded : Recorded h
  numbers : ∀ k < h.buffer.objects.length, Numbers (h.buffer.channel k) (h.appendedTo k)

/-- The newest of the newest are the newest. -/
theorem retained_concat_retained (events : List (RecoveryProgressEvent α)) (event : RecoveryProgressEvent α) :
    retained (retained events ++ [event]) = retained (events ++ [event]) :=
  newest_concat_newest maxProgressEvents events event

theorem length_retained (events : List (RecoveryProgressEvent α)) :
    (retained events).length = min events.length maxProgressEvents := by
  rw [retained, List.length_drop]
  omega

/-- A new channel has numbered nothing. -/
theorem numbers_new (progressId : String) : Numbers ({ progressId } : ProgressChannel α) [] :=
  ⟨rfl, rfl, List.drop_nil.symm⟩

/-- The next event gets the next number. -/
theorem Numbers.concat {channel : ProgressChannel α} {events : List (RecoveryProgressEvent α)}
    {event : RecoveryProgressEvent α} (hn : Numbers channel events) (hsequence : event.sequence = channel.nextSequence)
    (recoveryCaseId : Option String) :
    Numbers { channel with
        recoveryCaseId
        nextSequence := channel.nextSequence + 1
        events := retained (channel.events ++ [event]) } (events ++ [event]) := by
  refine ⟨?_, ?_, ?_⟩
  · rw [List.map_append, hn.sequences, List.length_append, List.length_singleton, List.range'_concat,
      List.map_singleton, hsequence, hn.next, Nat.one_mul, Nat.add_comm]
  · simp only [hn.next, List.length_append, List.length_singleton]
  · simp only [hn.newest, retained_concat_retained]

/-- Nothing has been appended under an identifier that stands for nothing. -/
theorem Recorded.stampedBy_eq_nil (hr : Recorded h) (hget : h.buffer.get? progressId = none) :
    h.stampedBy progressId = [] := by
  rw [History.stampedBy, List.reverse_eq_nil_iff, List.filter_eq_nil_iff]
  intro event hevent hstamped
  obtain ⟨entry, hentry, rfl⟩ := List.mem_map.mp hevent
  obtain ⟨j, hj, hprogressId, -⟩ := hr.stamped entry hentry
  exact hr.sound.named j hj (hprogressId ▸ of_decide_eq_true hstamped ▸ hget)

/-- The channel that was found, or a new one, has numbered what was appended under its identifier. -/
theorem Numbered.opened (hn : Numbered h) {found : Option ℕ}
    (hfound : ∀ j, found = some j → j < h.buffer.objects.length)
    (hnone : found = none → h.buffer.get? progressId = none) :
    Numbers (h.buffer.opened found progressId) (h.stampedBy (h.buffer.opened found progressId).progressId) := by
  cases found with
  | none =>
    have hnil : h.stampedBy (h.buffer.opened none progressId).progressId = [] :=
      hn.recorded.stampedBy_eq_nil (hnone rfl)
    rw [hnil]
    exact numbers_new progressId
  | some j => exact hn.numbers j (hfound j rfl)

/-- What was opened before keeps what was appended to it. -/
theorem appendedTo_of_lt {buffer : RecoveryProgressBuffer α} {caseIds : List String}
    (hprogressId : (buffer.channel k).progressId = (h.buffer.channel k).progressId) :
    History.appendedTo { h with buffer, caseIds } k = h.appendedTo k := by
  rw [History.appendedTo, History.appendedTo, hprogressId]
  rfl

/-- `start` appends nothing. -/
theorem Numbered.start (hn : Numbered h) (hvalid : matchesPattern progressId) :
    Numbered (h.call (.start progressId case?)) := by
  refine ⟨hn.recorded.call _, fun k hk => ?_⟩
  rw [call_start_of_matches hvalid] at hk ⊢
  have hbecomes := startLocked_becomes hn.recorded.sound progressId case?
  by_cases htarget : k = (h.buffer.findChannel progressId case?).getD h.buffer.objects.length
  · have hnone : h.buffer.findChannel progressId case? = none → h.buffer.get? progressId = none :=
      get?_of_findChannel_eq_none
    have hopened := hn.opened (fun _ => findChannel_lt hn.recorded.sound) hnone
    rw [History.appendedTo, htarget, hbecomes.self]
    exact ⟨hopened.sequences, hopened.next, hopened.newest⟩
  · have hlt : k < h.buffer.objects.length := (hbecomes.eq_or_lt k hk).resolve_left htarget
    have hsame := hbecomes.other k htarget
    rw [appendedTo_of_lt (congrArg _ hsame), hsame]
    exact hn.numbers k hlt

/-- One more event, for those who ask for its identifier. -/
theorem stampedBy_cons {buffer : RecoveryProgressBuffer α} {caseIds : List String}
    (entry : RecoveryProgressEvent α × Option String) :
    History.stampedBy { buffer, appended := entry :: h.appended, caseIds } progressId =
      h.stampedBy progressId ++ if entry.1.progressId = progressId then [entry.1] else [] := by
  rw [History.stampedBy, List.map_cons]
  split
  next hsame => rw [List.filter_cons_of_pos (by simpa using hsame), List.reverse_cons, History.stampedBy]
  next hother => rw [List.filter_cons_of_neg (by simpa using hother), List.append_nil, History.stampedBy]

/-- The new event has the identifier of the channel that it is written to, and of no other. -/
theorem Recorded.stamps_target (hr : Recorded h) (hk : k < h.buffer.objects.length)
    (hstamped : (h.buffer.eventFor progressId case? content).progressId = (h.buffer.channel k).progressId) :
    k = (h.buffer.get? progressId).getD h.buffer.objects.length := by
  cases hget : h.buffer.get? progressId with
  | none =>
    simp only [eventFor, hget, RecoveryProgressBuffer.opened, Option.elim_none] at hstamped
    exact absurd (hstamped ▸ hget) (hr.sound.named k hk)
  | some j =>
    simp only [eventFor, hget, RecoveryProgressBuffer.opened, Option.elim_some] at hstamped
    exact (hr.sound.progressId_inj j (hr.sound.in_range _ _ hget) k hk hstamped).symm

/-- `append` appends the event to the channel of the request, and nothing to the others. -/
theorem Recorded.appendedTo_append (hr : Recorded h) (hvalid : matchesPattern progressId)
    (hk : k < h.buffer.objects.length) :
    (h.call (.append progressId case? content)).appendedTo k =
      h.appendedTo k ++
        if h.buffer.get? progressId = some k then [h.buffer.eventFor progressId case? content] else [] := by
  rw [call_append_of_matches hr.sound hvalid, History.appendedTo, stampedBy_cons]
  have hbecomes := append_becomes hr.sound progressId case? content
  have hsame := hbecomes.progressId_eq (show _ = (h.buffer.opened _ progressId).progressId from rfl) hk
  simp only [hsame]
  congr 2
  rw [eq_iff_iff]
  constructor
  · intro hstamped
    have htarget := hr.stamps_target hk hstamped
    cases hget : h.buffer.get? progressId with
    | none => simp only [hget, Option.getD_none] at htarget; omega
    | some j => rw [htarget, hget, Option.getD_some]
  · intro hget
    simp only [eventFor, hget, RecoveryProgressBuffer.opened, Option.elim_some]

/-- An event that `append` returns is appended to the channel that the identifier stands for, and to no other. -/
theorem Recorded.appendedTo_of_append_eq_ok (hr : Recorded h) (hk : k < h.buffer.objects.length)
    {buffer : RecoveryProgressBuffer α} {event : RecoveryProgressEvent α}
    (happend : h.buffer.append progressId case? content = .ok (buffer, event)) :
    (h.call (.append progressId case? content)).appendedTo k =
      h.appendedTo k ++ if h.buffer.get? progressId = some k then [event] else [] := by
  obtain ⟨hvalid, -, -⟩ := append_eq_ok.mp happend
  have hsame : event = h.buffer.eventFor progressId case? content := by
    have happended : (h.call (.append progressId case? content)).appended =
        (h.buffer.eventFor progressId case? content, case?) :: h.appended := by
      rw [call_append_of_matches hr.sound hvalid]
    rw [History.call, happend] at happended
    exact (Prod.mk.inj (List.cons.inj happended).1).1
  rw [hsame]
  exact hr.appendedTo_append hvalid hk

theorem Numbered.append (hn : Numbered h) (hvalid : matchesPattern progressId) :
    Numbered (h.call (.append progressId case? content)) := by
  refine ⟨hn.recorded.call _, fun k hk => ?_⟩
  have hbecomes := append_becomes hn.recorded.sound progressId case? content
  by_cases htarget : k = (h.buffer.get? progressId).getD h.buffer.objects.length
  · have hnone : h.buffer.get? progressId = none → h.buffer.get? progressId = none := id
    have hopened := hn.opened (hn.recorded.sound.in_range progressId) hnone
    have hown : (h.buffer.eventFor progressId case? content).progressId =
        (h.buffer.opened (h.buffer.get? progressId) progressId).progressId := rfl
    rw [call_append_of_matches hn.recorded.sound hvalid, History.appendedTo, stampedBy_cons, htarget, hbecomes.self]
    dsimp only
    rw [if_pos hown]
    exact hopened.concat rfl _
  · rw [call_append_of_matches hn.recorded.sound hvalid] at hk
    have hlt : k < h.buffer.objects.length := (hbecomes.eq_or_lt k hk).resolve_left htarget
    have hget : h.buffer.get? progressId ≠ some k := by
      intro hget
      rw [hget, Option.getD_some] at htarget
      exact htarget rfl
    rw [hn.recorded.appendedTo_append hvalid hlt, if_neg hget, List.append_nil,
      call_append_of_matches hn.recorded.sound hvalid]
    have hsame := hbecomes.other k htarget
    rw [hsame]
    exact hn.numbers k hlt

/-- Every call keeps the numbers. -/
theorem Numbered.call (hn : Numbered h) (call : Call α) : Numbered (h.call call) := by
  cases call with
  | start progressId case? =>
    by_cases hvalid : matchesPattern progressId
    · exact hn.start hvalid
    · rwa [call_start_of_not hvalid]
  | append progressId case? content =>
    by_cases hvalid : matchesPattern progressId
    · exact hn.append hvalid
    · rwa [call_append_of_not hvalid]

theorem numbered_empty : Numbered ({} : History α) := ⟨recorded_empty, fun _ hk => absurd hk (Nat.not_lt_zero _)⟩

theorem Numbered.foldl (hn : Numbered h) (calls : List (Call α)) : Numbered (calls.foldl History.call h) :=
  inv_foldl Numbered hn (fun _ call hn => hn.call call) calls

/-- Channels stay, and what was appended to them stays as it is. -/
theorem Recorded.call_extends (hr : Recorded h) (hk : k < h.buffer.objects.length) (call : Call α) :
    k < (h.call call).buffer.objects.length ∧ h.appendedTo k <+: (h.call call).appendedTo k := by
  cases call with
  | start progressId case? =>
    by_cases hvalid : matchesPattern progressId
    · have hbecomes := startLocked_becomes hr.sound progressId case?
      rw [call_start_of_matches hvalid]
      refine ⟨hk.trans_le hbecomes.le, ?_⟩
      rw [appendedTo_of_lt
        (hbecomes.progressId_eq (show _ = (h.buffer.opened _ progressId).progressId from rfl) hk)]
    · rw [call_start_of_not hvalid]
      exact ⟨hk, List.prefix_refl _⟩
  | append progressId case? content =>
    by_cases hvalid : matchesPattern progressId
    · refine ⟨?_, ?_⟩
      · rw [call_append_of_matches hr.sound hvalid]
        exact hk.trans_le (append_becomes hr.sound progressId case? content).le
      · rw [hr.appendedTo_append hvalid hk]
        exact List.prefix_append _ _
    · rw [call_append_of_not hvalid]
      exact ⟨hk, List.prefix_refl _⟩

theorem Numbered.foldl_extends (calls : List (Call α)) : ∀ {h : History α}, Numbered h →
    k < h.buffer.objects.length → k < (calls.foldl History.call h).buffer.objects.length ∧
      h.appendedTo k <+: (calls.foldl History.call h).appendedTo k := by
  induction calls with
  | nil => exact fun _ hk => ⟨hk, List.prefix_refl _⟩
  | cons call calls ih =>
    intro h hn hk
    obtain ⟨hk', hprefix⟩ := hn.recorded.call_extends hk call
    obtain ⟨hk'', hprefix'⟩ := ih (hn.call call) hk'
    exact ⟨hk'', hprefix.trans hprefix'⟩

/-! ### Polling -/

/-- A reader of a channel: the run so far, the number of the last event that it has seen, and what it was given. -/
structure Reader (α : Type) where
  history : History α
  lastSeen : ℕ
  received : List (RecoveryProgressEvent α) := []

/-- The reader calls `after` for a name, with the number of the last event that it has seen. -/
def Reader.poll (name : String) (reader : Reader α) : Reader α :=
  match reader.history.buffer.after name reader.lastSeen with
  | .ok events =>
    { reader with
      lastSeen := (events.getLast?.map (·.sequence)).getD reader.lastSeen
      received := reader.received ++ events }
  | .error _ => reader

/-- Some calls, and then a poll. -/
def Reader.round (name : String) (reader : Reader α) (calls : List (Call α)) : Reader α :=
  { reader with history := calls.foldl History.call reader.history }.poll name

/-- Before every poll at most as many events are appended to the channel as it retains, and the name stands for it when
the reader polls. -/
def Reader.KeepsUp (name : String) (k : ℕ) : Reader α → List (List (Call α)) → Prop
  | _, [] => True
  | reader, calls :: rounds =>
    let history := calls.foldl History.call reader.history
    (history.appendedTo k).length ≤ (reader.history.appendedTo k).length + maxProgressEvents ∧
      matchesPattern name ∧ history.buffer.get? name = some k ∧ (reader.round name calls).KeepsUp name k rounds

theorem after_eq_ok {b : RecoveryProgressBuffer α} {lastSeen : ℕ} (hvalid : matchesPattern name)
    (hget : b.get? name = some k) :
    b.after name lastSeen = .ok ((b.eventsAt k).filter fun event => decide (event.sequence > lastSeen)) := by
  have hsnapshot := (snapshot_eq_ok (b := b)).mpr ⟨hvalid, rfl⟩
  rw [after, hsnapshot, hget]
  rfl

/-- What comes after a number, of a numbered list without its first elements. -/
theorem filter_drop_eq {events : List (RecoveryProgressEvent α)} {m s : ℕ}
    (hsequences : events.map (·.sequence) = List.range' 1 events.length) :
    ((events.drop m).filter fun event => decide (event.sequence > s)) = events.drop (max m s) := by
  have hdrop : (events.drop m).map (·.sequence) = List.range' (1 + m) (events.drop m).length := by
    rw [List.map_drop, hsequences, List.drop_range', List.length_drop, Nat.mul_one]
  rw [filter_lt_eq_drop hdrop, List.drop_drop]
  congr 1
  omega

/-- **What a poll gives**: of what was appended to the channel and is retained, all that the reader has not seen. -/
theorem Numbered.after_eq (hn : Numbered h) (hvalid : matchesPattern name) (hget : h.buffer.get? name = some k)
    (lastSeen : ℕ) :
    h.buffer.after name lastSeen =
      .ok ((h.appendedTo k).drop (max ((h.appendedTo k).length - maxProgressEvents) lastSeen)) := by
  have hnumbers := hn.numbers k (hn.recorded.sound.in_range _ _ hget)
  rw [after_eq_ok hvalid hget, eventsAt, hnumbers.newest, retained, filter_drop_eq hnumbers.sequences]

/-- The number of the last event that a poll gives. -/
theorem getLast?_drop_sequence {events : List (RecoveryProgressEvent α)} {m s : ℕ}
    (hsequences : events.map (·.sequence) = List.range' 1 events.length) :
    (((events.drop m).getLast?).map (·.sequence)).getD s = if m < events.length then events.length else s := by
  rw [← List.getLast?_map, List.map_drop, hsequences, List.getLast?_drop]
  simp only [List.length_range', List.getLast?_range']
  by_cases hm : m < events.length
  · rw [if_neg (by omega), if_neg (by omega), if_pos hm, Option.getD_some]
    omega
  · rw [if_pos (by omega), if_neg hm, Option.getD_none]

/-- What holds of a reader who began when `start` events had been appended and the last number it had seen was `first`:
it has been given what was appended since, and nothing twice. -/
structure Reader.Delivered (start first : ℕ) (k : ℕ) (reader : Reader α) : Prop where
  numbered : Numbered reader.history
  in_range : k < reader.history.buffer.objects.length
  caught_up : max reader.lastSeen start = (reader.history.appendedTo k).length
  since : (reader.received.filter fun event => decide (event.sequence > start)) =
    (reader.history.appendedTo k).drop start
  first_le : first ≤ reader.lastSeen
  bounds : ∀ event ∈ reader.received, first < event.sequence ∧ event.sequence ≤ reader.lastSeen
  ascending : reader.received.Pairwise fun event later => event.sequence < later.sequence

/-- The numbers of a numbered list without its first elements. -/
theorem sequence_of_mem_drop {events : List (RecoveryProgressEvent α)} {event : RecoveryProgressEvent α} {m : ℕ}
    (hsequences : events.map (·.sequence) = List.range' 1 events.length) (hevent : event ∈ events.drop m) :
    m < event.sequence ∧ event.sequence ≤ events.length := by
  have hmem : event.sequence ∈ (events.drop m).map (·.sequence) := List.mem_map_of_mem hevent
  rw [List.map_drop, hsequences, List.drop_range', List.mem_range'_1] at hmem
  omega

theorem pairwise_drop {events : List (RecoveryProgressEvent α)}
    (hsequences : events.map (·.sequence) = List.range' 1 events.length) (m : ℕ) :
    (events.drop m).Pairwise fun event later => event.sequence < later.sequence := by
  have hpairwise : (events.map (·.sequence)).Pairwise (· < ·) := hsequences ▸ List.pairwise_lt_range'
  exact (List.pairwise_map.mp hpairwise).sublist (List.drop_sublist _ _)

/-- **One round** delivers what was appended in it. -/
theorem Reader.Delivered.round {start first : ℕ} {reader : Reader α} (hd : reader.Delivered start first k)
    {calls : List (Call α)} (hvalid : matchesPattern name)
    (hget : (calls.foldl History.call reader.history).buffer.get? name = some k)
    (hmany : ((calls.foldl History.call reader.history).appendedTo k).length ≤
      (reader.history.appendedTo k).length + maxProgressEvents) :
    (reader.round name calls).Delivered start first k := by
  have hn := hd.numbered.foldl calls
  obtain ⟨hk, new, hnew⟩ := hd.numbered.foldl_extends calls hd.in_range
  have hsequences := (hn.numbers k hk).sequences
  have hcaught := hd.caught_up
  have hfirst := hd.first_le
  rw [Reader.round, Reader.poll]
  simp only [hn.after_eq hvalid hget]
  generalize calls.foldl History.call reader.history = h' at hn hk hnew hsequences hmany hget
  have hlength : (h'.appendedTo k).length = (reader.history.appendedTo k).length + new.length := by
    rw [← hnew, List.length_append]
  -- nothing unseen has been lost, so the poll begins where the reader is
  have hbegin : max (max ((h'.appendedTo k).length - maxProgressEvents) reader.lastSeen) start =
      (reader.history.appendedTo k).length := by
    omega
  refine ⟨hn, hk, ?_, ?_, ?_, ?_, ?_⟩
  · simp only [getLast?_drop_sequence hsequences]
    split <;> omega
  · simp only [List.filter_append, hd.since, filter_drop_eq hsequences]
    rw [hbegin, ← hnew, List.drop_left, List.drop_append_of_le_length (by omega)]
  · simp only [getLast?_drop_sequence hsequences]
    split <;> omega
  · simp only [getLast?_drop_sequence hsequences]
    intro event hevent
    rcases List.mem_append.mp hevent with hevent | hevent
    · have hbounds := hd.bounds event hevent
      split <;> omega
    · have hbounds := sequence_of_mem_drop hsequences hevent
      rw [if_pos (by omega)]
      omega
  · refine List.pairwise_append.mpr ⟨hd.ascending, pairwise_drop hsequences _, fun event hevent later hlater => ?_⟩
    have hbounds := hd.bounds event hevent
    have hlater := sequence_of_mem_drop hsequences hlater
    omega

/-- **Every run of rounds.** -/
theorem Reader.Delivered.rounds {start first : ℕ} (rounds : List (List (Call α))) : ∀ {reader : Reader α},
    reader.Delivered start first k → reader.KeepsUp name k rounds →
      (rounds.foldl (Reader.round name) reader).Delivered start first k := by
  induction rounds with
  | nil => exact fun hd _ => hd
  | cons calls rounds ih =>
    rintro reader hd ⟨hmany, hvalid, hget, hrest⟩
    exact ih (hd.round hvalid hget hmany) hrest

/-- **Polling is exact.** After every run of calls, each channel has been appended what `append` returned for the
identifiers that stand for it, and retains the newest of it, at most as many as allowed, with consecutive numbers up to
the next one. A reader who has seen some of them and goes on polling, without ever falling behind by more than a channel
retains, is given every event that is appended from then on, once and in order. -/
theorem polling_exact (calls : List (Call α)) (k : ℕ) (hk : k < (historyOf calls).buffer.objects.length) :
    let history := historyOf calls
    let next := (history.buffer.channel k).nextSequence
    let events := history.buffer.eventsAt k
    (∀ progressId case? content buffer event, history.buffer.append progressId case? content = .ok (buffer, event) →
      (history.call (.append progressId case? content)).appendedTo k =
        history.appendedTo k ++ if history.buffer.get? progressId = some k then [event] else []) ∧
      events = (history.appendedTo k).drop ((history.appendedTo k).length - maxProgressEvents) ∧
      events.map (·.sequence) = List.range' (next - events.length) events.length ∧
      events.length ≤ maxProgressEvents ∧
      ∀ (name : String) (lastSeen : ℕ) (rounds : List (List (Call α))), lastSeen < next →
        ({ history, lastSeen } : Reader α).KeepsUp name k rounds →
          let reader := rounds.foldl (Reader.round name) { history, lastSeen }
          (reader.received.filter fun event => decide (event.sequence ≥ next)) =
              (reader.history.appendedTo k).drop (history.appendedTo k).length ∧
            (∀ event ∈ reader.received, lastSeen < event.sequence) ∧
            reader.received.Pairwise fun event later => event.sequence < later.sequence := by
  intro history next events
  have hn : Numbered history := numbered_empty.foldl calls
  have hnumbers := hn.numbers k hk
  have hnext : next = (history.appendedTo k).length + 1 := hnumbers.next
  have hevents : events = retained (history.appendedTo k) := hnumbers.newest
  have hlength : events.length = min (history.appendedTo k).length maxProgressEvents := by
    rw [hevents, length_retained]
  refine ⟨fun _ _ _ _ _ => hn.recorded.appendedTo_of_append_eq_ok hk, hevents, ?_, by omega,
    fun name lastSeen rounds hseen hkeeps => ?_⟩
  · have hoffset : 1 + ((history.appendedTo k).length - maxProgressEvents) * 1 = next - events.length := by
      omega
    have hcount : (history.appendedTo k).length - ((history.appendedTo k).length - maxProgressEvents) =
        events.length := by
      omega
    rw [← hoffset, ← hcount, hevents, retained, List.map_drop, hnumbers.sequences, List.drop_range']
  · have hd : ({ history, lastSeen } : Reader α).Delivered (history.appendedTo k).length lastSeen k := by
      have hle : lastSeen ≤ (history.appendedTo k).length := by omega
      refine ⟨hn, hk, max_eq_right hle, ?_, le_rfl, fun _ h => absurd h List.not_mem_nil, .nil⟩
      rw [List.drop_length, List.filter_nil]
    have hdelivered := hd.rounds rounds hkeeps
    refine ⟨?_, fun event hevent => (hdelivered.bounds event hevent).1, hdelivered.ascending⟩
    rw [← hdelivered.since]
    congr 2
    funext event
    rw [hnext]
    exact decide_eq_decide.mpr Nat.succ_le_iff

/-- A request that has reported twice. -/
def twoReports : List (Call Unit) :=
  [.start "request-1" none, .append "request-1" none (), .append "request-1" (some "case-0001") ()]

/-- It goes on to report for its case, while its client polls three times. -/
def threePolls : List (List (Call Unit)) :=
  [[.append "request-1" (some "case-0001") (), .append "case-0001" none ()], [], [.append "request-1" none ()]]

theorem polling_exact_twoReports :
    let history := historyOf twoReports
    let reader := threePolls.foldl (Reader.round "case-0001") { history, lastSeen := 1 }
    (reader.received.filter fun event => decide (event.sequence ≥ (history.buffer.channel 0).nextSequence)) =
        (reader.history.appendedTo 0).drop (history.appendedTo 0).length ∧
      (∀ event ∈ reader.received, 1 < event.sequence) ∧
      reader.received.Pairwise fun event later => event.sequence < later.sequence :=
  (polling_exact twoReports 0 (by decide +kernel)).2.2.2.2 "case-0001" 1 threePolls (by decide +kernel)
    ⟨by decide +kernel, by decide +kernel, by decide +kernel, by decide +kernel, by decide +kernel, by decide +kernel,
      by decide +kernel, by decide +kernel, by decide +kernel, trivial⟩

end DayMend.Progress
