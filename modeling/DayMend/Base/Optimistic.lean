import DayMend.Base.Trace

/-!
# Saves that expect a version

A program that saves a value on condition of a version that a client has named does not
know that what it has read itself is what it replaces. It is, if the version had been
stored when the program began (`Traced.current_of_shown`): whatever the programs do, the
versions at a key only grow (`Traced.grows`), so what the program has read since has that
version or a later one; and a later one would have made the save conflict.
-/

namespace DayMend.Base

variable {κ σ ε Q : Type} {A : Q → Type} {α : Type} [Versioned κ σ]

/-- The value that a program is shown by an event: what it has read, or what it has saved. -/
def Event.shown? : Event κ σ A → Option σ
  | .read _ r => r
  | .saved c expected => some (stored c expected)
  | .refused _ _ => none
  | .asked _ _ => none

/-- The program has been shown the value. -/
def Shown (events : List (Event κ σ A)) (c : σ) : Prop := ∃ ev ∈ events, ev.shown? = some c

theorem Shown.mono {events later : List (Event κ σ A)} {c : σ} (h : Shown events c) (hle : events ⊆ later) :
    Shown later c := by
  obtain ⟨ev, hev, hc⟩ := h
  exact ⟨ev, hle hev, hc⟩

theorem shown_cons {events : List (Event κ σ A)} {ev : Event κ σ A} {c : σ} (h : ev.shown? = some c) :
    Shown (ev :: events) c := ⟨ev, List.mem_cons_self .., h⟩

omit [Versioned κ σ] in
/-- What a program has noticed since a time at which it had noticed nothing, it has noticed later. -/
theorem exists_suffix_of_mem_own {i : ℕ} {ev : Event κ σ A} {start before : Trace κ σ A} (h : ev ∈ own i before)
    (hstart : start <:+ before) (hcame : own i start = []) :
    ∃ earlier, (i, ev) :: earlier <:+ before ∧ start <:+ earlier := by
  obtain ⟨⟨j, ev'⟩, hmem, heq⟩ := List.mem_filterMap.mp h
  split at heq
  next hj =>
    obtain rfl := hj
    obtain rfl := Option.some.inj heq
    obtain ⟨newer, earlier, rfl⟩ := List.append_of_mem hmem
    have hsuffix : (j, ev') :: earlier <:+ newer ++ (j, ev') :: earlier := List.suffix_append ..
    have hown : (ev' : Event κ σ A) ∉ own j start := by simp [hcame]
    rcases List.suffix_or_suffix_of_suffix hstart hsuffix with hle | hle
    · rcases List.suffix_cons_iff.mp hle with rfl | hle
      · exact absurd (by simp) hown
      · exact ⟨earlier, hsuffix, hle⟩
    · exact absurd ((own_suffix j hle).subset (by simp)) hown
  next => cases heq

variable [DecidableEq κ]

/-! ### Growing versions -/

/-- The versions at a key only grow. -/
def Grows (log : List σ) (k : κ) : Prop := (versions log k).Pairwise fun c d => version d < version c

variable {log : List σ} {k : κ} {c d : σ} {e : Option ℕ}

theorem mem_versions (hc : c ∈ log) (hk : key c = k) : c ∈ versions log k :=
  List.mem_filter.mpr ⟨hc, decide_eq_true hk⟩

/-- No version is greater than the current one, and only the current value has that. -/
theorem Grows.eq_or_lt (h : Grows log k) (hc : c ∈ versions log k) (hd : current log k = some d) :
    c = d ∨ version c < version d := by
  rw [current_eq_head?] at hd
  obtain ⟨older, holder⟩ := List.head?_eq_some_iff.mp hd
  rw [Grows, holder] at h
  rw [holder] at hc
  rcases List.mem_cons.mp hc with rfl | hc
  · exact Or.inl rfl
  · exact Or.inr (List.rel_of_pairwise_cons h hc)

/-- A save that is accepted makes the next version. -/
theorem Grows.stored (h : Grows log k) (ha : Accepts log c e) : Grows (stored c e :: log) k := by
  by_cases hk : key c = k
  · have hversions : versions (DayMend.Base.stored c e :: log) k = DayMend.Base.stored c e :: versions log k := by
      simp [versions, hk]
    rw [Grows, hversions]
    refine List.Pairwise.cons (fun d hd => ?_) h
    rw [DayMend.Base.stored, Versioned.version_setVersion]
    -- something is stored, so the save expects its version
    cases hcurrent : current log k with
    | none =>
      rw [current_eq_head?, List.head?_eq_none_iff] at hcurrent
      rw [hcurrent] at hd
      cases hd
    | some c₀ =>
      rw [Accepts, hk, hcurrent] at ha
      obtain rfl := ha
      show version d < version c₀ + 1
      rcases h.eq_or_lt hd hcurrent with rfl | hlt
      · omega
      · omega
  · have hversions : versions (DayMend.Base.stored c e :: log) k = versions log k := by simp [versions, hk]
    rw [Grows, hversions]
    exact h

variable {env : (q : Q) → A q → Prop} {request : Prog κ σ ε A α → Prop} {starts : List (Prog κ σ ε A α)}
  {trace start before earlier : Trace κ σ A} {cfg : Config κ σ ε A α} {i j v : ℕ} {ev : Event κ σ A} {p : σ}

/-- **Versions only grow**, whatever the programs do. -/
theorem Traced.grows (h : Traced env request starts trace cfg) (k : κ) : Grows (logOf trace) k := by
  induction h with
  | init => exact List.Pairwise.nil
  | spawn _ _ ih => exact ih
  | @step _ _ l _ _ _ _ _ _ ht hs ih =>
    have hlog : l = logOf _ := ht.saved_eq
    subst hlog
    cases hs with
    | get => exact ih
    | saved hacc => exact ih.stored hacc
    | refused _ => exact ih
    | ask _ => exact ih

/-- What a program is shown is what is stored then. -/
theorem Traced.current_of_suffix (h : Traced env request starts trace cfg) (hsuffix : (i, ev) :: earlier <:+ trace)
    (hp : ev.shown? = some p) : current (logOf ((i, ev) :: earlier)) (key p) = some p := by
  cases ev with
  | read k r =>
    have hr : r = current (logOf earlier) k := h.agrees hsuffix
    obtain rfl : r = some p := hp
    rw [key_of_current hr.symm]
    exact hr.symm
  | saved c e =>
    obtain rfl := Option.some.inj hp
    exact current_cons rfl
  | refused c e => cases hp
  | asked q a => cases hp

/-- What has been shown is in the log. -/
theorem Traced.mem_logOf_of_shown (h : Traced env request starts trace cfg) {e : ℕ × Event κ σ A} (he : e ∈ trace)
    (hp : e.2.shown? = some p) : p ∈ logOf trace := by
  obtain ⟨newer, older, rfl⟩ := List.append_of_mem he
  have hsuffix : e :: older <:+ newer ++ e :: older := List.suffix_append ..
  exact (logOf_suffix hsuffix).subset (List.mem_of_find?_eq_some (h.current_of_suffix hsuffix hp))

/-- **What is replaced is what has been shown**: a save that expects a version, and is accepted, replaces every value
that has been shown since a time when that version was stored. -/
theorem Traced.current_of_shown (h : Traced env request starts trace cfg)
    (hsaved : (j, .saved c (some v)) :: before <:+ trace) (hshown : (i, ev) :: earlier <:+ before)
    (hp : ev.shown? = some p) (hkey : key p = key c) (hstart : start <:+ earlier)
    (hknown : ∃ q ∈ logOf start, key q = key c ∧ version q = v) : current (logOf before) (key c) = some p := by
  have hbefore : before <:+ trace := (List.suffix_cons ..).trans hsaved
  obtain ⟨d, hd, hversion⟩ := Option.map_eq_some_iff.mp (h.agrees hsaved : (current _ _).map version = some v)
  have hcurrent := h.current_of_suffix (hshown.trans hbefore) hp
  -- the known version is not greater than the shown one
  obtain ⟨q, hq, hqkey, rfl⟩ := hknown
  obtain ⟨_, _, -, ht⟩ := h.of_suffix (hshown.trans hbefore)
  have hq : q ∈ logOf ((i, ev) :: earlier) := (logOf_suffix (hstart.trans (List.suffix_cons ..))).subset hq
  have hle := (ht.grows _).eq_or_lt (mem_versions hq (hqkey.trans hkey.symm)) hcurrent
  -- and the shown one not greater than the replaced one
  obtain ⟨_, _, -, ht'⟩ := h.of_suffix hbefore
  have hmem : p ∈ logOf before := (logOf_suffix hshown).subset (List.mem_of_find?_eq_some hcurrent)
  rcases (ht'.grows _).eq_or_lt (mem_versions hmem hkey) hd with rfl | hlt
  · exact hd
  · rcases hle with rfl | hle
    · omega
    · omega

end DayMend.Base
