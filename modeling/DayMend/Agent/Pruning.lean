import DayMend.Agent.Paths

/-!
# Pruning and the missing care, exactly

Pruning keeps exactly the primitives that share their identifier with one on a full path
(`pruneToFullCoveragePaths_exact`): with distinct identifiers, the primitives on full
paths. Where nothing is kept, `connectedUncoveredWindows` asks for one window of care that
leads from a moment reached from home to one from which the end is reached. That is the
smallest bridge exactly if no gap at the very end of the day is smaller than all of these
(`connectedUncoveredWindows_least_iff`): the moments from which the end is reached are
followed back from the ends of the primitives, not from the end of the day.
-/

namespace DayMend.Agent

open DayMend.Base DayMend.Models DayMend.Fixtures DayMend.Services

variable {care : List FeasibleCarePrimitive} {transport : List FeasibleTransportPrimitive} {legs path path' : List Leg}
  {required w : CoverageWindow} {home : String} {a b s : PathState}

/-! ### Ways -/

/-- Legs one after the other, from a moment and a place to another. -/
abbrev Ways (legs : List Leg) : PathState → List Leg → PathState → Prop := Leads Leg.start Leg.end_ legs

theorem forwardStates_eq :
    forwardStates legs required home =
      saturate (expand (legs.map fun leg => (leg.start, leg.end_))) (legs.length + 1) [(required.start, home)] := by
  rw [forwardStates, passes_eq, forwardPass_eq]
  rfl

/-- The states at the end of the day at which a leg ends. -/
def finalStates (legs : List Leg) (required : CoverageWindow) : List PathState :=
  ((legs.map (·.end_)).filter (·.1 = required.end_)).dedup

theorem mem_finalStates : s ∈ finalStates legs required ↔ (∃ leg ∈ legs, leg.end_ = s) ∧ s.1 = required.end_ := by
  simp [finalStates]

theorem backwardStates_eq :
    backwardStates legs required =
      saturate (expand (legs.map fun leg => (leg.end_, leg.start))) (legs.length + 1) (finalStates legs required) := by
  rw [backwardStates, passes_eq, backwardPass_eq, List.map_map]
  rfl

theorem loop_forwardStates :
    Loop (forwardPass legs) [(required.start, home)] (forwardStates legs required home) := by
  rw [forwardPass_eq, forwardStates_eq, ← List.length_map fun leg => (leg.start, leg.end_)]
  exact loop_saturate

theorem loop_backwardStates : Loop (backwardPass legs) (finalStates legs required) (backwardStates legs required) := by
  rw [backwardPass_eq, List.map_map, backwardStates_eq, ← List.length_map fun leg => (leg.end_, leg.start)]
  exact loop_saturate

/-- **Forward** are the states that legs lead to from home. -/
theorem mem_forwardStates_iff :
    s ∈ forwardStates legs required home ↔ ∃ path, Ways legs (required.start, home) path s := by
  rw [forwardStates_eq, mem_saturate_iff]
  simp

/-- **Backward** are the states from which legs lead to the end of some leg at the end of the day. -/
theorem mem_backwardStates_iff :
    s ∈ backwardStates legs required ↔ ∃ final ∈ finalStates legs required, ∃ path, Ways legs s path final := by
  rw [backwardStates_eq, mem_saturate_iff]
  constructor
  · rintro ⟨final, hfinal, path, h⟩
    exact ⟨final, hfinal, path.reverse, h.reverse⟩
  · rintro ⟨final, hfinal, path, h⟩
    exact ⟨final, hfinal, path.reverse, h.reverse⟩

/-- A full path is a way from home, when care begins to be needed, to the end of the day. -/
theorem fullPath_iff :
    FullPath legs required home path ↔
      ∃ location, Ways legs (required.start, home) path (required.end_, location) := by
  cases path with
  | nil =>
    refine ⟨fun h => by simpa using h.begins, ?_⟩
    rintro ⟨location, h⟩
    exact absurd (congrArg Prod.fst h) required.start_lt_end.ne
  | cons leg path =>
    simp only [Ways, leads_cons_iff]
    constructor
    · rintro ⟨hmem, hchain, hbegins, hends⟩
      obtain ⟨last, hlast, hend⟩ := Option.map_eq_some_iff.mp hends
      refine ⟨last.end_.2, hmem, hchain, hbegins, Option.map_eq_some_iff.mpr ⟨last, hlast, ?_⟩⟩
      rw [← hend]
    · rintro ⟨location, hmem, hchain, hbegins, hends⟩
      obtain ⟨last, hlast, hend⟩ := Option.map_eq_some_iff.mp hends
      exact ⟨hmem, hchain, hbegins, Option.map_eq_some_iff.mpr ⟨last, hlast, congrArg Prod.fst hend⟩⟩

/-- Where the last leg of a way ends. -/
theorem mem_finalStates_of_ways {location : String} (h : Ways legs a path (required.end_, location)) (hne : path ≠ []) :
    (required.end_, location) ∈ finalStates legs required := by
  cases path with
  | nil => exact absurd rfl hne
  | cons leg path =>
    obtain ⟨hmem, -, -, hends⟩ := leads_cons_iff.mp h
    obtain ⟨last, hlast, hend⟩ := Option.map_eq_some_iff.mp hends
    exact mem_finalStates.mpr ⟨⟨last, hmem last (List.mem_of_getLast? hlast), hend⟩, rfl⟩

/-! ### What is kept -/

/-- **A leg that is reached from home, and from whose end the end of the day is reached,** lies on a full path, and
only such a leg does. -/
theorem exists_fullPath_iff {leg : Leg} (hleg : leg ∈ legs) :
    (∃ path, FullPath legs required home path ∧ leg ∈ path) ↔
      leg.start ∈ forwardStates legs required home ∧ leg.end_ ∈ backwardStates legs required := by
  rw [mem_forwardStates_iff, mem_backwardStates_iff]
  constructor
  · rintro ⟨path, hfull, hmem⟩
    obtain ⟨location, hways⟩ := fullPath_iff.mp hfull
    obtain ⟨before, after, rfl⟩ := List.append_of_mem hmem
    obtain ⟨m, hbefore, hleg', rfl, hafter⟩ := leads_append.mp hways
    have hfinal := mem_finalStates_of_ways hways (by simp)
    exact ⟨⟨before, hbefore⟩, (required.end_, location), hfinal, after, hafter⟩
  · rintro ⟨⟨before, hbefore⟩, final, hfinal, after, hafter⟩
    obtain ⟨-, hend⟩ := mem_finalStates.mp hfinal
    refine ⟨before ++ leg :: after, fullPath_iff.mpr ⟨final.2, leads_append.mpr ⟨leg.start, hbefore, ?_⟩⟩, by simp⟩
    rw [← hend]
    exact ⟨hleg, rfl, hafter⟩

/-- The identifiers that pruning keeps are those on full paths. -/
theorem mem_retained_iff {primitiveId : String} :
    primitiveId ∈ (legs.filter fun leg => leg.start ∈ forwardStates legs required home ∧
        leg.end_ ∈ backwardStates legs required).map (·.primitiveId) ↔
      ∃ path, FullPath legs required home path ∧ ∃ leg ∈ path, leg.primitiveId = primitiveId := by
  rw [List.mem_map]
  constructor
  · rintro ⟨leg, hleg, hid⟩
    obtain ⟨hmem, hreached⟩ := List.mem_filter.mp hleg
    obtain ⟨path, hpath, hon⟩ := (exists_fullPath_iff hmem).mpr (of_decide_eq_true hreached)
    exact ⟨path, hpath, leg, hon, hid⟩
  · rintro ⟨path, hpath, leg, hon, hid⟩
    have hmem := hpath.mem_legs leg hon
    have hreached := (exists_fullPath_iff hmem).mp ⟨path, hpath, hon⟩
    exact ⟨leg, List.mem_filter.mpr ⟨hmem, decide_eq_true hreached⟩, hid⟩

/-- Some leg with the identifier lies on a full path. -/
def OnFullPath (legs : List Leg) (required : CoverageWindow) (home primitiveId : String) : Prop :=
  ∃ path, FullPath legs required home path ∧ ∃ leg ∈ path, leg.primitiveId = primitiveId

theorem mem_prune_care {p : FeasibleCarePrimitive} :
    p ∈ (pruneToFullCoveragePaths care transport required home).1 ↔
      p ∈ care ∧ OnFullPath (legsOf care transport) required home p.primitiveId := by
  rw [OnFullPath, ← mem_retained_iff]
  simp only [pruneToFullCoveragePaths, List.mem_filter, decide_eq_true_eq]

theorem mem_prune_transport {p : FeasibleTransportPrimitive} :
    p ∈ (pruneToFullCoveragePaths care transport required home).2 ↔
      p ∈ transport ∧ OnFullPath (legsOf care transport) required home p.primitiveId := by
  rw [OnFullPath, ← mem_retained_iff]
  simp only [pruneToFullCoveragePaths, List.mem_filter, decide_eq_true_eq]

/-- Something is kept exactly if there is a full path. -/
theorem prune_ne_nil_iff :
    pruneToFullCoveragePaths care transport required home ≠ ([], []) ↔
      ∃ path, FullPath (legsOf care transport) required home path := by
  constructor
  · intro hne
    by_contra hnone
    refine hne (Prod.ext (List.eq_nil_iff_forall_not_mem.mpr fun p hp => ?_)
      (List.eq_nil_iff_forall_not_mem.mpr fun p hp => ?_))
    · obtain ⟨path, hpath, -⟩ := (mem_prune_care.mp hp).2
      exact hnone ⟨path, hpath⟩
    · obtain ⟨path, hpath, -⟩ := (mem_prune_transport.mp hp).2
      exact hnone ⟨path, hpath⟩
  · rintro ⟨path, hpath⟩ hnil
    exact hpath.prune_ne_nil ⟨congrArg Prod.fst hnil, congrArg Prod.snd hnil⟩

/-- Primitives with distinct identifiers are told apart by them. -/
theorem eq_of_primitiveId_eq (hnodup : ((legsOf care transport).map (·.primitiveId)).Nodup) {leg leg' : Leg}
    (h : leg ∈ legsOf care transport) (h' : leg' ∈ legsOf care transport) (hid : leg.primitiveId = leg'.primitiveId) :
    leg = leg' :=
  List.inj_on_of_nodup_map hnodup h h' hid

/-- With distinct identifiers, a primitive's identifier lies on a full path exactly if the primitive does. -/
theorem onFullPath_iff (hnodup : ((legsOf care transport).map (·.primitiveId)).Nodup) {leg : Leg}
    (hleg : leg ∈ legsOf care transport) :
    OnFullPath (legsOf care transport) required home leg.primitiveId ↔
      ∃ path, FullPath (legsOf care transport) required home path ∧ leg ∈ path := by
  constructor
  · rintro ⟨path, hpath, leg', hleg', hid⟩
    obtain rfl := eq_of_primitiveId_eq hnodup (hpath.mem_legs leg' hleg') hleg hid
    exact ⟨path, hpath, hleg'⟩
  · rintro ⟨path, hpath, hon⟩
    exact ⟨path, hpath, leg, hon, rfl⟩

/-! ### The missing care -/

/-- A full path reaches the end of the day forwards. -/
theorem exists_forward_end_iff :
    (∃ state ∈ forwardStates legs required home, state.1 = required.end_) ↔
      ∃ path, FullPath legs required home path := by
  constructor
  · rintro ⟨⟨_, location⟩, hstate, rfl⟩
    obtain ⟨path, hpath⟩ := mem_forwardStates_iff.mp hstate
    exact ⟨path, fullPath_iff.mpr ⟨location, hpath⟩⟩
  · rintro ⟨path, hpath⟩
    obtain ⟨location, hways⟩ := fullPath_iff.mp hpath
    exact ⟨(required.end_, location), mem_forwardStates_iff.mpr ⟨path, hways⟩, rfl⟩

/-- The windows of care that would lead from a moment reached from home to one from which the end is reached. -/
def bridges (legs : List Leg) (required : CoverageWindow) (home : String) : List CoverageWindow :=
  (forwardStates legs required home).flatMap fun f => (backwardStates legs required).filterMap fun b =>
    if h : f.1 < b.1 then if f.2 = b.2 then some (⟨f.1, b.1, h⟩ : CoverageWindow) else none else none

theorem mem_bridges :
    w ∈ bridges legs required home ↔
      ∃ location, (w.start, location) ∈ forwardStates legs required home ∧
        (w.end_, location) ∈ backwardStates legs required := by
  simp only [bridges, List.mem_flatMap, List.mem_filterMap]
  constructor
  · rintro ⟨⟨_, location⟩, hf, ⟨_, _⟩, hb, h⟩
    split_ifs at h with hlt hsame
    · obtain rfl := hsame
      obtain rfl := Option.some.inj h
      exact ⟨_, hf, hb⟩
  · rintro ⟨location, hf, hb⟩
    exact ⟨_, hf, _, hb, by rw [dif_pos w.start_lt_end, if_pos rfl]⟩

theorem connectedUncoveredWindows_of_fullPath (h : ∃ path, FullPath (legsOf care transport) required home path) :
    connectedUncoveredWindows care transport required home = [] := by
  rw [connectedUncoveredWindows, if_pos (exists_forward_end_iff.mpr h)]

theorem connectedUncoveredWindows_of_not (h : ¬ ∃ path, FullPath (legsOf care transport) required home path) :
    connectedUncoveredWindows care transport required home =
      [((bridges (legsOf care transport) required home).insertionSort fun v w => bridgeLe v w).head?.getD
        required] := by
  rw [connectedUncoveredWindows, if_neg fun hend => h (exists_forward_end_iff.mp hend)]
  cases hsort : (bridges (legsOf care transport) required home).insertionSort fun v w => bridgeLe v w with
  | nil =>
    rw [bridges] at hsort
    simp only [hsort]
    rfl
  | cons best rest =>
    rw [bridges] at hsort
    simp only [hsort]
    rfl

/-- Nothing is missing exactly if there is a full path. -/
theorem connectedUncoveredWindows_eq_nil_iff :
    connectedUncoveredWindows care transport required home = [] ↔
      ∃ path, FullPath (legsOf care transport) required home path := by
  refine ⟨fun h => ?_, connectedUncoveredWindows_of_fullPath⟩
  by_contra hnone
  rw [connectedUncoveredWindows_of_not hnone] at h
  exact List.cons_ne_nil _ _ h

/-- **Pruning is exact and ends.** Both loops end with the states that the model computes; what is kept are the
primitives whose identifier lies on a full path, which are those on full paths if the identifiers are distinct; and no
care is missing exactly if something is kept. -/
theorem pruneToFullCoveragePaths_exact (care : List FeasibleCarePrimitive) (transport : List FeasibleTransportPrimitive)
    (required : CoverageWindow) (home : String) :
    Loop (forwardPass (legsOf care transport)) [(required.start, home)]
        (forwardStates (legsOf care transport) required home) ∧
      Loop (backwardPass (legsOf care transport)) (finalStates (legsOf care transport) required)
        (backwardStates (legsOf care transport) required) ∧
      (∀ p, p ∈ (pruneToFullCoveragePaths care transport required home).1 ↔
        p ∈ care ∧ OnFullPath (legsOf care transport) required home p.primitiveId) ∧
      (∀ p, p ∈ (pruneToFullCoveragePaths care transport required home).2 ↔
        p ∈ transport ∧ OnFullPath (legsOf care transport) required home p.primitiveId) ∧
      (((legsOf care transport).map (·.primitiveId)).Nodup →
        (∀ p, p ∈ (pruneToFullCoveragePaths care transport required home).1 ↔
          p ∈ care ∧ ∃ path, FullPath (legsOf care transport) required home path ∧ p.leg ∈ path) ∧
        ∀ p, p ∈ (pruneToFullCoveragePaths care transport required home).2 ↔
          p ∈ transport ∧ ∃ path, FullPath (legsOf care transport) required home path ∧ p.leg ∈ path) ∧
      (connectedUncoveredWindows care transport required home = [] ↔
        pruneToFullCoveragePaths care transport required home ≠ ([], [])) := by
  refine ⟨?_, ?_, fun _ => mem_prune_care, fun _ => mem_prune_transport, fun hnodup => ⟨fun p => ?_, fun p => ?_⟩, ?_⟩
  · exact loop_forwardStates
  · exact loop_backwardStates
  · rw [mem_prune_care]
    refine and_congr_right fun hp => ?_
    have hleg : p.leg ∈ legsOf care transport := List.mem_append_left _ (List.mem_map_of_mem hp)
    exact onFullPath_iff hnodup hleg
  · rw [mem_prune_transport]
    refine and_congr_right fun hp => ?_
    have hleg : p.leg ∈ legsOf care transport := List.mem_append_right _ (List.mem_map_of_mem hp)
    exact onFullPath_iff hnodup hleg
  · rw [connectedUncoveredWindows_eq_nil_iff, prune_ne_nil_iff]

/-- Care at home, with the given identifier. -/
def homeCare (primitiveId : String) (window : CoverageWindow) : FeasibleCarePrimitive :=
  { primitiveId, assignedPersonId := "kim", source := .caregiver, window, locationId := "home"
    locationLabel := "Home" }

/-- A primitive that lies on no full path is kept if it has the identifier of one that does. -/
theorem pruneToFullCoveragePaths_keeps_namesake :
    ¬ ∀ (care : List FeasibleCarePrimitive) (transport : List FeasibleTransportPrimitive) (required : CoverageWindow)
        (home : String), ∀ p ∈ care,
      p ∈ (pruneToFullCoveragePaths care transport required home).1 ↔
        ∃ path, FullPath (legsOf care transport) required home path ∧ p.leg ∈ path := by
  intro h
  have hlate := (h [homeCare "care:kim" (minutes 0 60), homeCare "care:kim" (minutes 90 120)] [] (minutes 0 60) "home"
    (homeCare "care:kim" (minutes 90 120)) (by decide)).mp (by decide)
  rw [exists_fullPath_iff (by decide)] at hlate
  revert hlate
  decide

/-! ### The smallest bridge -/

theorem start_lt_end_of_mem_legsOf {leg : Leg} (h : leg ∈ legsOf care transport) : leg.start.1 < leg.end_.1 := by
  rcases List.mem_append.mp h with h | h
  · obtain ⟨p, -, rfl⟩ := List.mem_map.mp h
    exact p.window.start_lt_end
  · obtain ⟨p, -, rfl⟩ := List.mem_map.mp h
    exact p.window.start_lt_end

/-- Time passes on the way. -/
theorem le_of_ways (h : Ways (legsOf care transport) a path b) : a.1 ≤ b.1 := by
  induction path generalizing a with
  | nil => exact (congrArg Prod.fst h).le
  | cons leg path ih =>
    obtain ⟨hleg, rfl, hrest⟩ := h
    exact (start_lt_end_of_mem_legsOf hleg).le.trans (ih hrest)

theorem le_start_of_mem_ways (h : Ways (legsOf care transport) a path b) {leg : Leg} (hleg : leg ∈ path) :
    a.1 ≤ leg.start.1 := by
  obtain ⟨before, after, rfl⟩ := List.append_of_mem hleg
  obtain ⟨m, hbefore, -, rfl, -⟩ := leads_append.mp h
  exact le_of_ways hbefore

/-- The child can be at the place at the moment. -/
def Reached (legs : List Leg) (required : CoverageWindow) (home : String) (state : PathState) : Prop :=
  ∃ path, Ways legs (required.start, home) path state

/-- From the place at the moment, legs lead on to where one of them ends the day. -/
def LeadsOn (legs : List Leg) (required : CoverageWindow) (state : PathState) : Prop :=
  ∃ final ∈ finalStates legs required, ∃ path, Ways legs state path final

/-- The window, as care at one place, completes a full path. -/
def Bridges (care : List FeasibleCarePrimitive) (transport : List FeasibleTransportPrimitive)
    (required : CoverageWindow) (home : String) (window : CoverageWindow) : Prop :=
  ∃ p : FeasibleCarePrimitive, p.window = window ∧
    ∃ path, FullPath (legsOf (p :: care) transport) required home path

/-- A window that completes a full path begins where the child can be, and ends where legs lead on, or with the day. -/
theorem Bridges.exists_reached (h : Bridges care transport required home w)
    (hnone : ¬ ∃ path, FullPath (legsOf care transport) required home path) :
    ∃ location, Reached (legsOf care transport) required home (w.start, location) ∧
      (w.end_ = required.end_ ∨ LeadsOn (legsOf care transport) required (w.end_, location)) := by
  obtain ⟨p, rfl, path, hfull⟩ := h
  obtain ⟨location, hways⟩ := fullPath_iff.mp hfull
  -- whatever is not the new leg is an old one
  have hold : ∀ {leg : Leg}, leg ∈ legsOf (p :: care) transport → leg ≠ p.leg → leg ∈ legsOf care transport :=
    fun hleg hne => (List.mem_cons.mp hleg).resolve_left hne
  have hmem : p.leg ∈ path := by
    by_contra hmissing
    refine hnone ⟨path, fullPath_iff.mpr ⟨location, hways.of_mem fun leg hleg => hold (hways.mem leg hleg) ?_⟩⟩
    exact fun he => hmissing (he ▸ hleg)
  obtain ⟨before, after, rfl, hnew⟩ := List.eq_append_cons_of_mem hmem
  obtain ⟨m, hbefore, -, rfl, hafter⟩ := leads_append.mp hways
  have hbefore' := hbefore.of_mem fun leg hleg => hold (hbefore.mem leg hleg) fun he => hnew (he ▸ hleg)
  -- and what comes after the new leg is later
  have hafter' : Ways (legsOf care transport) p.leg.end_ after (required.end_, location) := by
    refine hafter.of_mem fun leg hleg => hold (hafter.mem leg hleg) fun he => ?_
    have hlater := le_start_of_mem_ways hafter hleg
    rw [he] at hlater
    exact absurd p.window.start_lt_end (not_lt.mpr hlater)
  refine ⟨p.locationId, ⟨before, hbefore'⟩, ?_⟩
  rcases List.eq_nil_or_concat' after with rfl | ⟨_, _, rfl⟩
  · exact Or.inl (congrArg Prod.fst hafter')
  · exact Or.inr ⟨_, mem_finalStates_of_ways hafter' (by simp), _, hafter'⟩

/-- A window that begins where the child can be, and ends where legs lead on or with the day, completes a full path. -/
theorem bridges_of_reached {location : String}
    (hreached : Reached (legsOf care transport) required home (w.start, location))
    (hend : w.end_ = required.end_ ∨ LeadsOn (legsOf care transport) required (w.end_, location)) :
    Bridges care transport required home w := by
  obtain ⟨before, hbefore⟩ := hreached
  let p : FeasibleCarePrimitive :=
    { primitiveId := "", assignedPersonId := "", source := .caregiver, window := w, locationId := location
      locationLabel := "" }
  have hnew : ∀ {path : List Leg} {a b : PathState}, Ways (legsOf care transport) a path b →
      Ways (legsOf (p :: care) transport) a path b :=
    fun h => h.of_mem fun leg hleg => List.mem_cons_of_mem _ (h.mem leg hleg)
  have hp : p.leg ∈ legsOf (p :: care) transport := List.mem_cons_self ..
  refine ⟨p, rfl, ?_⟩
  rcases hend with hend | ⟨final, hfinal, after, hafter⟩
  · refine ⟨before ++ [p.leg], fullPath_iff.mpr ⟨location, leads_append.mpr ⟨_, hnew hbefore, hp, rfl, ?_⟩⟩⟩
    exact Prod.ext hend rfl
  · obtain ⟨-, hfinal⟩ := mem_finalStates.mp hfinal
    refine ⟨before ++ p.leg :: after, fullPath_iff.mpr ⟨final.2, leads_append.mpr ⟨_, hnew hbefore, hp, rfl, ?_⟩⟩⟩
    rw [← hfinal]
    exact hnew hafter

/-- **A window completes a full path** exactly if it begins where the child can be, and ends where legs lead on, or with
the day. -/
theorem bridges_iff (hnone : ¬ ∃ path, FullPath (legsOf care transport) required home path) :
    Bridges care transport required home w ↔
      ∃ location, Reached (legsOf care transport) required home (w.start, location) ∧
        (w.end_ = required.end_ ∨ LeadsOn (legsOf care transport) required (w.end_, location)) := by
  constructor
  · exact fun h => h.exists_reached hnone
  · rintro ⟨location, hreached, hend⟩
    exact bridges_of_reached hreached hend

/-- A shorter window, or one as long that begins no later. -/
def NoLarger (v w : CoverageWindow) : Prop :=
  v.end_ - v.start < w.end_ - w.start ∨ v.end_ - v.start = w.end_ - w.start ∧ v.start ≤ w.start

theorem bridgeLe_iff {v w : CoverageWindow} : bridgeLe v w = true ↔ NoLarger v w := by
  rw [bridgeLe, Ordering.isLE_then_iff_or, Ordering.isLE_then_iff_or, Int.compare_eq_lt, Int.compare_eq_eq,
    Int.compare_eq_lt, Int.compare_eq_eq, Int.isLE_compare, NoLarger]
  omega

theorem NoLarger.trans {u v w : CoverageWindow} (h : NoLarger u v) (h' : NoLarger v w) : NoLarger u w := by
  unfold NoLarger at *
  omega

theorem noLarger_total (v w : CoverageWindow) : NoLarger v w ∨ NoLarger w v := by
  unfold NoLarger
  omega

/-- The first bridge in order is one of the smallest. -/
theorem head_bridges (h : ((bridges legs required home).insertionSort fun v w => bridgeLe v w).head? = some w) :
    w ∈ bridges legs required home ∧ ∀ v ∈ bridges legs required home, NoLarger w v := by
  have : Std.Total fun v w : CoverageWindow => bridgeLe v w = true :=
    ⟨fun v w => by simpa only [bridgeLe_iff] using noLarger_total v w⟩
  have : IsTrans CoverageWindow fun v w => bridgeLe v w = true :=
    ⟨fun u v w => by simpa only [bridgeLe_iff] using NoLarger.trans⟩
  have hsorted := List.pairwise_insertionSort (fun v w => bridgeLe v w = true) (bridges legs required home)
  obtain ⟨rest, hcons⟩ := List.head?_eq_some_iff.mp h
  rw [hcons, List.pairwise_cons] at hsorted
  refine ⟨(List.mem_insertionSort _).mp (List.mem_of_head? h), fun v hv => ?_⟩
  have hv' := (List.mem_insertionSort fun v w => bridgeLe v w = true).mpr hv
  rw [hcons] at hv'
  rcases List.mem_cons.mp hv' with rfl | hrest
  · exact (noLarger_total v v).elim id id
  · exact bridgeLe_iff.mp (hsorted.1 v hrest)

theorem mem_bridges_iff :
    w ∈ bridges legs required home ↔
      ∃ location, Reached legs required home (w.start, location) ∧ LeadsOn legs required (w.end_, location) := by
  simp only [mem_bridges, mem_forwardStates_iff, mem_backwardStates_iff, Reached, LeadsOn]

/-- Wherever the child can be within the day, some window from where the child can be to where legs lead on is no larger
than what remains of the day. -/
def EndGapsBridged (legs : List Leg) (required : CoverageWindow) (home : String) : Prop :=
  ∀ t location, Reached legs required home (t, location) → required.start < t → ∀ h : t < required.end_,
    ∃ v : CoverageWindow,
      (∃ place, Reached legs required home (v.start, place) ∧ LeadsOn legs required (v.end_, place)) ∧
        NoLarger v ⟨t, required.end_, h⟩

/-- Care for the whole day at home completes a full path. -/
theorem bridges_required (hnone : ¬ ∃ path, FullPath (legsOf care transport) required home path) :
    Bridges care transport required home required :=
  (bridges_iff hnone).mpr ⟨home, ⟨[], rfl⟩, Or.inl rfl⟩

/-- A bridge lies within the day. -/
theorem noLarger_required_of_mem_bridges (h : w ∈ bridges (legsOf care transport) required home) :
    NoLarger w required := by
  obtain ⟨location, ⟨before, hbefore⟩, final, hfinal, after, hafter⟩ := mem_bridges_iff.mp h
  have hstart : required.start ≤ w.start := le_of_ways hbefore
  have hend : w.end_ ≤ final.1 := le_of_ways hafter
  have hfinal := (mem_finalStates.mp hfinal).2
  unfold NoLarger
  omega

/-- What completes a full path leads on, or is the whole day, or a gap at its end. -/
theorem mem_bridges_or_of_bridges (hnone : ¬ ∃ path, FullPath (legsOf care transport) required home path)
    (h : Bridges care transport required home w) :
    w ∈ bridges (legsOf care transport) required home ∨ w = required ∨
      ∃ location, Reached (legsOf care transport) required home (w.start, location) ∧ required.start < w.start ∧
        w.end_ = required.end_ := by
  obtain ⟨location, ⟨before, hbefore⟩, hend | hleads⟩ := (bridges_iff hnone).mp h
  · have hstart : required.start ≤ w.start := le_of_ways hbefore
    rcases hstart.eq_or_lt with hstart | hstart
    · exact Or.inr (Or.inl (Span.ext hstart.symm hend))
    · exact Or.inr (Or.inr ⟨location, ⟨before, hbefore⟩, hstart, hend⟩)
  · exact Or.inl (mem_bridges_iff.mpr ⟨location, ⟨before, hbefore⟩, hleads⟩)

/-- A gap at the end of the day completes a full path. -/
theorem bridges_end_gap (hnone : ¬ ∃ path, FullPath (legsOf care transport) required home path) {t : ℤ}
    {location : String} (h : Reached (legsOf care transport) required home (t, location)) (hend : t < required.end_) :
    Bridges care transport required home ⟨t, required.end_, hend⟩ :=
  (bridges_iff hnone).mpr ⟨location, h, Or.inl rfl⟩

/-- Where nothing leads on from where the child can be, the whole day is the least to ask for exactly if no gap at the
end of the day is smaller. -/
theorem required_least_iff (hnone : ¬ ∃ path, FullPath (legsOf care transport) required home path)
    (hnobridge : ∀ v, v ∉ bridges (legsOf care transport) required home) :
    (∀ v, Bridges care transport required home v → NoLarger required v) ↔
      EndGapsBridged (legsOf care transport) required home := by
  constructor
  · intro hmin t location hreached hstart hend
    have hgap := hmin _ (bridges_end_gap hnone hreached hend)
    unfold NoLarger at hgap
    dsimp only at hgap
    omega
  · intro hgaps v hv
    rcases mem_bridges_or_of_bridges hnone hv with hmem | rfl | ⟨location, hreached, hstart, hend⟩
    · exact absurd hmem (hnobridge v)
    · exact (noLarger_total v v).elim id id
    · obtain ⟨u, hu, -⟩ := hgaps v.start location hreached hstart (hend ▸ v.start_lt_end)
      exact absurd (mem_bridges_iff.mpr hu) (hnobridge u)

/-- The smallest window between where the child can be and where legs lead on is the least to ask for exactly if no
gap at the end of the day is smaller. -/
theorem best_least_iff (hnone : ¬ ∃ path, FullPath (legsOf care transport) required home path)
    {best : CoverageWindow} (hbest : best ∈ bridges (legsOf care transport) required home)
    (hleast : ∀ v ∈ bridges (legsOf care transport) required home, NoLarger best v) :
    (∀ v, Bridges care transport required home v → NoLarger best v) ↔
      EndGapsBridged (legsOf care transport) required home := by
  constructor
  · intro hmin t location hreached hstart hend
    exact ⟨best, mem_bridges_iff.mp hbest, hmin _ (bridges_end_gap hnone hreached hend)⟩
  · intro hgaps v hv
    rcases mem_bridges_or_of_bridges hnone hv with hmem | rfl | ⟨location, hreached, hstart, hend⟩
    · exact hleast v hmem
    · exact noLarger_required_of_mem_bridges hbest
    · obtain ⟨u, hu, hle⟩ := hgaps v.start location hreached hstart (hend ▸ v.start_lt_end)
      refine (hleast u (mem_bridges_iff.mpr hu)).trans ?_
      unfold NoLarger at *
      dsimp only at hle
      omega

/-- **The window asked for is the smallest that completes a full path** exactly if no gap at the end of the day is
smaller than every window between where the child can be and where legs lead on. -/
theorem connectedUncoveredWindows_least_iff
    (hnone : ¬ ∃ path, FullPath (legsOf care transport) required home path) :
    ((∃ v, Bridges care transport required home v) →
      ∃ w, connectedUncoveredWindows care transport required home = [w] ∧ Bridges care transport required home w ∧
        ∀ v, Bridges care transport required home v → NoLarger w v) ↔
      EndGapsBridged (legsOf care transport) required home := by
  rw [connectedUncoveredWindows_of_not hnone]
  have hsome : ∃ v, Bridges care transport required home v := ⟨required, bridges_required hnone⟩
  cases hhead : ((bridges (legsOf care transport) required home).insertionSort fun v w => bridgeLe v w).head? with
  | none =>
    -- nothing is reached backwards where the child can be: the whole day is asked for
    have hnobridge : ∀ v, v ∉ bridges (legsOf care transport) required home := by
      rw [List.head?_eq_none_iff] at hhead
      intro v hv
      have hv' := (List.mem_insertionSort fun v w => bridgeLe v w = true).mpr hv
      rw [hhead] at hv'
      exact List.not_mem_nil hv'
    rw [Option.getD_none, ← required_least_iff hnone hnobridge]
    constructor
    · intro hleast
      obtain ⟨w, hw, -, hmin⟩ := hleast hsome
      obtain rfl := List.head_eq_of_cons_eq hw
      exact hmin
    · exact fun hmin _ => ⟨required, rfl, bridges_required hnone, hmin⟩
  | some best =>
    obtain ⟨hbest, hleast⟩ := head_bridges hhead
    rw [Option.getD_some, ← best_least_iff hnone hbest hleast]
    constructor
    · intro hleast
      obtain ⟨w, hw, -, hmin⟩ := hleast hsome
      obtain rfl := List.head_eq_of_cons_eq hw
      exact hmin
    · intro hmin _
      obtain ⟨place, hreached, hleads⟩ := mem_bridges_iff.mp hbest
      exact ⟨best, rfl, bridges_of_reached hreached (Or.inr hleads), hmin⟩

/-- Kim is at home for the first hour and for the last half hour. -/
theorem connectedUncoveredWindows_least_iff_twice :
    ((∃ v, Bridges [homeCare "care:kim:0" (minutes 0 60), homeCare "care:kim:90" (minutes 90 120)] [] (minutes 0 120)
        "home" v) →
      ∃ w, connectedUncoveredWindows [homeCare "care:kim:0" (minutes 0 60), homeCare "care:kim:90" (minutes 90 120)] []
          (minutes 0 120) "home" = [w] ∧
        Bridges [homeCare "care:kim:0" (minutes 0 60), homeCare "care:kim:90" (minutes 90 120)] [] (minutes 0 120)
          "home" w ∧
        ∀ v, Bridges [homeCare "care:kim:0" (minutes 0 60), homeCare "care:kim:90" (minutes 90 120)] [] (minutes 0 120)
          "home" v → NoLarger w v) ↔
      EndGapsBridged (legsOf [homeCare "care:kim:0" (minutes 0 60), homeCare "care:kim:90" (minutes 90 120)] [])
        (minutes 0 120) "home" :=
  connectedUncoveredWindows_least_iff (by rw [← exists_forward_end_iff]; decide)

/-- Where Kim is at home for the first hour only, the whole day is asked for, though the second hour would do. -/
theorem connectedUncoveredWindows_asks_for_more :
    (¬ ∃ path, FullPath (legsOf [homeCare "care:kim:0" (minutes 0 60)] []) (minutes 0 120) "home" path) ∧
      ¬ ((∃ v, Bridges [homeCare "care:kim:0" (minutes 0 60)] [] (minutes 0 120) "home" v) →
        ∃ w, connectedUncoveredWindows [homeCare "care:kim:0" (minutes 0 60)] [] (minutes 0 120) "home" = [w] ∧
          Bridges [homeCare "care:kim:0" (minutes 0 60)] [] (minutes 0 120) "home" w ∧
          ∀ v, Bridges [homeCare "care:kim:0" (minutes 0 60)] [] (minutes 0 120) "home" v → NoLarger w v) := by
  have hnone : ¬ ∃ path, FullPath (legsOf [homeCare "care:kim:0" (minutes 0 60)] []) (minutes 0 120) "home" path := by
    rw [← exists_forward_end_iff]
    decide
  have hreached : Reached (legsOf [homeCare "care:kim:0" (minutes 0 60)] []) (minutes 0 120) "home"
      (60 * minute, "home") := mem_forwardStates_iff.mp (by decide)
  have hgap := bridges_end_gap hnone hreached (by decide)
  refine ⟨hnone, fun hleast => ?_⟩
  obtain ⟨w, hw, -, hmin⟩ := hleast ⟨_, bridges_required hnone⟩
  have hasked : connectedUncoveredWindows [homeCare "care:kim:0" (minutes 0 60)] [] (minutes 0 120) "home" =
      [minutes 0 120] := by decide
  obtain rfl := List.head_eq_of_cons_eq (hw.symm.trans hasked)
  have hsmaller := hmin _ hgap
  revert hsmaller
  unfold NoLarger
  decide

end DayMend.Agent
