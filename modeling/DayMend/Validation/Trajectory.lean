import DayMend.Validation.Coverage

/-!
# The child's trajectory

The validator carries one place from each sorted segment to the next, and handoff
buffers let segments overlap. Where only care overlaps, the places still agree
(`locationId_eq_of_overlaps`): everything between two overlapping segments overlaps
the first, so nothing between them moves the child. What the validator leaves out
is the very first place, which need not be the family home, and trips that overlap
another segment (`startsElsewhere_valid`). `valid_trajectory_iff` says exactly
which valid plans describe one continuous trajectory from home.
-/

namespace DayMend.Validation

open DayMend.Base DayMend.Models DayMend.Fixtures DayMend.Services

variable {plan : RecoveryPlan} {scenario : DemoScenario} {s t u : RecoveryPlanSegment}
  {l before between after : List RecoveryPlanSegment}

/-- Where the child is during a segment. -/
inductive Whereabouts where
  /-- In one place. -/
  | staying (locationId : String)
  /-- On the way from one place to another. -/
  | moving (origin destination : String)
  deriving DecidableEq

/-- Where a segment says the child is. -/
def whereabouts (segment : RecoveryPlanSegment) : Whereabouts :=
  if h : segment.segmentType = .transport then .moving segment.locationId (segment.destination h)
  else .staying segment.locationId

/-- One continuous trajectory of the child, from the family home. -/
structure ContinuousTrajectory (plan : RecoveryPlan) (scenario : DemoScenario) : Prop where
  /-- At the beginning of the required window the child is at home. -/
  starts_home : ∀ s ∈ plan.coverageSegments, scenario.requiredCoverage.start ∈ s.window →
    s.locationId = scenario.familyHomeLocationId
  /-- All segments that cover an instant agree on where the child is. -/
  agree : ∀ t ∈ scenario.requiredCoverage, ∀ s ∈ plan.coverageSegments, ∀ s' ∈ plan.coverageSegments,
    t ∈ s.window → t ∈ s'.window → whereabouts s = whereabouts s'
  /-- From one segment to the next the place changes only by a trip. -/
  moves : (sortedSegments plan.coverageSegments).IsChain TransitionOk
  /-- A trip takes at least the travel time between its ends. -/
  enough_time : ∀ s ∈ plan.coverageSegments, ∀ h : s.segmentType = .transport, ∃ minutes : ℕ,
    travelMinutes s.locationId (s.destination h) scenario.familyHomeLocationId
      (travelFromHome scenario (caregiverDict scenario.caregivers)) = some minutes ∧
        minutes * minute ≤ s.window.end_ - s.window.start

/-- The first segment is at home. -/
def FirstAtHome (plan : RecoveryPlan) (scenario : DemoScenario) : Prop :=
  ∀ s ∈ (sortedSegments plan.coverageSegments).head?, s.locationId = scenario.familyHomeLocationId

/-- No trip overlaps another segment. -/
def TripsApart (plan : RecoveryPlan) : Prop :=
  ∀ s ∈ plan.coverageSegments, s.segmentType = .transport → ∀ t ∈ plan.coverageSegments, s ≠ t →
    ¬ s.window.Overlaps t.window

theorem whereabouts_of_transport (h : s.segmentType = .transport) :
    whereabouts s = .moving s.locationId (s.destination h) := dif_pos h

theorem whereabouts_of_care (h : s.segmentType ≠ .transport) : whereabouts s = .staying s.locationId := dif_neg h

/-- Segments that agree begin in the same place. -/
theorem locationId_eq_of_whereabouts (h : whereabouts s = whereabouts t) : s.locationId = t.locationId := by
  unfold whereabouts at h
  split at h <;> split at h
  · exact (Whereabouts.moving.inj h).1
  · cases h
  · cases h
  · exact Whereabouts.staying.inj h

/-! ### Overlapping segments of the sorted list -/

/-- Of two members of a list one comes before the other. -/
theorem exists_split (hs : s ∈ l) (ht : t ∈ l) (hne : s ≠ t) :
    (∃ before between after, l = before ++ s :: (between ++ t :: after)) ∨
      ∃ before between after, l = before ++ t :: (between ++ s :: after) := by
  obtain ⟨before, after, rfl⟩ := List.append_of_mem hs
  rcases List.mem_append.mp ht with ht | ht
  · obtain ⟨before', between, rfl⟩ := List.append_of_mem ht
    exact Or.inr ⟨before', between, after, by simp⟩
  · rcases List.mem_cons.mp ht with rfl | ht
    · exact absurd rfl hne
    · obtain ⟨between, after', rfl⟩ := List.append_of_mem ht
      exact Or.inl ⟨before, between, after', rfl⟩

/-- What lies between two overlapping segments overlaps the first. -/
theorem overlaps_of_mem_between (hl : (s :: (between ++ t :: after)).Pairwise fun u v => u.window.LexLe v.window)
    (ho : s.window.Overlaps t.window) (hu : u ∈ between ++ [t]) : s.window.Overlaps u.window := by
  obtain ⟨hs, hl⟩ := List.pairwise_cons.mp hl
  rcases List.mem_append.mp hu with hu | hu
  · have hst := (hs u (List.mem_append_left _ hu)).start_le
    have hut := ((List.pairwise_append.mp hl).2.2 u hu t (List.mem_cons_self ..)).start_le
    exact ⟨hst.trans_lt u.window.start_lt_end, hut.trans_lt ho.2⟩
  · rw [List.mem_singleton.mp hu]
    exact ho

/-- Without trips from `s` to `t` the child stays where it is. -/
theorem locationId_eq_of_care (hchain : (s :: (between ++ [t])).IsChain TransitionOk)
    (hcare : ∀ u ∈ s :: (between ++ [t]), u.segmentType ≠ .transport) : s.locationId = t.locationId := by
  have hstay : ((s :: (between ++ [t])).map (·.locationId)).IsChain Eq := by
    rw [List.isChain_map]
    refine hchain.imp_of_mem_imp fun u v hu _ huv => ?_
    rw [TransitionOk, endLocation, dif_neg (hcare u hu)] at huv
    exact huv
  rw [List.isChain_iff_pairwise, List.map_cons, List.pairwise_cons] at hstay
  exact hstay.1 t.locationId (by simp)

/-! ### Valid plans -/

theorem Accepted.nodup (h : Accepted plan scenario) : (sortedSegments plan.coverageSegments).Nodup :=
  (sortedSegments_perm _).nodup_iff.mpr (List.Nodup.of_map _ h.unique_ids)

/-- Overlapping segments, none of them a trip, are in the same place. -/
theorem Accepted.locationId_eq_of_split (h : Accepted plan scenario) (htrips : TripsApart plan)
    (hl : sortedSegments plan.coverageSegments = before ++ s :: (between ++ t :: after))
    (ho : s.window.Overlaps t.window) : whereabouts s = whereabouts t := by
  have hsorted := pairwise_sortedSegments plan.coverageSegments
  have hchain := h.transitions
  have hnodup := h.nodup
  have hmem : ∀ u ∈ s :: (between ++ [t]), u ∈ plan.coverageSegments := fun u hu => by
    rw [← mem_sortedSegments, hl]
    simp only [List.mem_append, List.mem_cons, List.not_mem_nil, or_false] at hu ⊢
    tauto
  rw [hl] at hsorted hchain hnodup
  have hsorted := (List.pairwise_append.mp hsorted).2.1
  have hnodup := (List.nodup_append.mp hnodup).2.1
  have hchain : (before ++ (s :: (between ++ [t]) ++ after)).IsChain TransitionOk := by simpa using hchain
  have hne : ∀ u ∈ between ++ [t], s ≠ u := fun u hu hsu => by
    subst hsu
    simp only [List.nodup_cons, List.mem_append, List.mem_cons, not_or] at hnodup
    simp only [List.mem_append, List.mem_cons, List.not_mem_nil, or_false] at hu
    tauto
  -- a trip among them would overlap the first segment, or be it and overlap the last
  have hcare : ∀ u ∈ s :: (between ++ [t]), u.segmentType ≠ .transport := by
    intro u hu htransport
    rcases List.mem_cons.mp hu with rfl | hu'
    · exact htrips u (hmem u hu) htransport t (hmem t (by simp)) (hne t (by simp)) ho
    · exact htrips u (hmem u hu) htransport s (hmem s (List.mem_cons_self ..)) (hne u hu').symm
        (Span.overlaps_comm.mp (overlaps_of_mem_between hsorted ho hu'))
  rw [whereabouts_of_care (hcare s (List.mem_cons_self ..)), whereabouts_of_care (hcare t (by simp)),
    locationId_eq_of_care hchain.right_of_append.left_of_append hcare]

/-- Where no trip overlaps another segment, overlapping segments agree. -/
theorem Accepted.whereabouts_eq (h : Accepted plan scenario) (htrips : TripsApart plan)
    (hs : s ∈ plan.coverageSegments) (ht : t ∈ plan.coverageSegments) (ho : s.window.Overlaps t.window) :
    whereabouts s = whereabouts t := by
  by_cases hne : s = t
  · rw [hne]
  · rcases exists_split (mem_sortedSegments.mpr hs) (mem_sortedSegments.mpr ht) hne with
      ⟨before, between, after, hl⟩ | ⟨before, between, after, hl⟩
    · exact h.locationId_eq_of_split htrips hl ho
    · exact (h.locationId_eq_of_split htrips hl (Span.overlaps_comm.mp ho)).symm

/-- A trip and another segment that overlap and agree would have a segment after the first of them that
begins both where the trip begins and where it ends. -/
theorem Accepted.not_transport_of_split (h : Accepted plan scenario)
    (hagree : ∀ u ∈ plan.coverageSegments, ∀ v ∈ plan.coverageSegments, u.window.Overlaps v.window →
      whereabouts u = whereabouts v)
    (hl : sortedSegments plan.coverageSegments = before ++ s :: (between ++ t :: after))
    (ho : s.window.Overlaps t.window) : s.segmentType ≠ .transport := by
  intro htransport
  have hsorted := pairwise_sortedSegments plan.coverageSegments
  have hchain := h.transitions
  have hmem : ∀ u, u ∈ before ++ s :: (between ++ t :: after) → u ∈ plan.coverageSegments := fun u hu => by
    rw [← mem_sortedSegments, hl]
    exact hu
  rw [hl] at hsorted hchain
  have hsorted := (List.pairwise_append.mp hsorted).2.1
  obtain ⟨next, rest, hnext⟩ : ∃ next rest, between ++ t :: after = next :: rest :=
    List.exists_cons_of_ne_nil (by simp)
  have hmemnext : next ∈ between ++ [t] := by
    cases between with
    | nil => simp_all
    | cons b between => simp_all
  have hon := overlaps_of_mem_between hsorted ho hmemnext
  have hplan : s ∈ plan.coverageSegments := hmem s (by simp)
  have hw := hagree s hplan next (hmem next (by simp [hnext])) hon
  rw [hnext] at hchain
  have hstep : TransitionOk s next := (List.isChain_append_cons_cons.mp hchain).2.1
  have htrip := (h.locations s hplan).trip htransport
  apply htrip.destination_ne
  calc s.destination htransport = endLocation s := (dif_pos htransport).symm
    _ = next.locationId := hstep
    _ = s.locationId := (locationId_eq_of_whereabouts hw).symm

/-- **When a valid plan describes one continuous trajectory**: exactly when its first segment is at
home and no trip overlaps another segment. -/
theorem valid_trajectory_iff (h : (validate plan scenario).valid = true) :
    ContinuousTrajectory plan scenario ↔ FirstAtHome plan scenario ∧ TripsApart plan := by
  have hacc := accepted_of_valid h
  have hhead : (sortedSegments plan.coverageSegments).head hacc.ne_nil ∈ plan.coverageSegments :=
    mem_sortedSegments.mp (List.head_mem _)
  have hcovers : scenario.requiredCoverage.start ∈ ((sortedSegments plan.coverageSegments).head hacc.ne_nil).window :=
    hacc.starts ▸ Span.start_mem _
  constructor
  · intro hc
    refine ⟨fun s hs => ?_, fun s hs htransport t ht hne ho => ?_⟩
    · rw [List.head?_eq_some_head hacc.ne_nil, Option.mem_some_iff] at hs
      exact hs ▸ hc.starts_home _ hhead hcovers
    · have hagree : ∀ u ∈ plan.coverageSegments, ∀ v ∈ plan.coverageSegments, u.window.Overlaps v.window →
          whereabouts u = whereabouts v := fun u hu v hv huv => by
        obtain ⟨i, hi, hi'⟩ := Span.overlaps_iff_exists_mem.mp huv
        have hin := hacc.inside u hu
        exact hc.agree i ⟨hin.1.trans hi.1, hi.2.trans_le hin.2⟩ u hu v hv hi hi'
      rcases exists_split (mem_sortedSegments.mpr hs) (mem_sortedSegments.mpr ht) hne with
        ⟨before, between, after, hl⟩ | ⟨before, between, after, hl⟩
      · exact hacc.not_transport_of_split hagree hl ho htransport
      · -- the other segment agrees with the trip, so it is a trip too
        refine hacc.not_transport_of_split hagree hl (Span.overlaps_comm.mp ho) ?_
        have hw := hagree s hs t ht ho
        by_contra hcare
        rw [whereabouts_of_transport htransport, whereabouts_of_care hcare] at hw
        cases hw
  · rintro ⟨hfirst, htrips⟩
    refine ⟨fun s hs hstart => ?_, fun i _ s hs t ht his hit => ?_, hacc.transitions, fun s hs htransport => ?_⟩
    · have hw := hacc.whereabouts_eq htrips hhead hs (Span.overlaps_iff_exists_mem.mpr ⟨_, hcovers, hstart⟩)
      rw [← locationId_eq_of_whereabouts hw]
      exact hfirst _ (List.head?_eq_some_head hacc.ne_nil)
    · exact hacc.whereabouts_eq htrips hs ht (Span.overlaps_iff_exists_mem.mpr ⟨i, his, hit⟩)
    · obtain ⟨minutes, hm, hle⟩ := ((hacc.locations s hs).trip htransport).enough_time
      refine ⟨minutes, hm, ?_⟩
      rw [wholeMinutes, Int.le_ediv_iff_mul_le (by decide)] at hle
      exact hle

theorem valid_trajectory_iff_sharedPlan :
    ContinuousTrajectory sharedPlan sharedDay ↔ FirstAtHome sharedPlan sharedDay ∧ TripsApart sharedPlan :=
  valid_trajectory_iff (by decide +kernel)

/-- A day on which the grandmother could look after the child at her own place. -/
def awayDay : DemoScenario :=
  day (minutes 0 60)
    [{ sitter "grandma" [minutes 0 60] with locationId := "grandma_home", travelMinutesFromFamilyHome := 15 }]

/-- A plan in which the child is at the grandmother's from the start. -/
def awayPlan : RecoveryPlan :=
  { planId := "away"
    coverageSegments :=
      [{ care "stay" "grandma" .caregiver (minutes 0 60) with
          locationId := "grandma_home"
          transport_has_destination_and_driver := by simp [care] }] }

/-- The validator accepts a plan in which the child is never brought where it is looked after. -/
theorem startsElsewhere_valid :
    (validate awayPlan awayDay).valid = true ∧ ¬ ContinuousTrajectory awayPlan awayDay := by
  refine ⟨by decide +kernel, fun hc => ?_⟩
  have h := hc.starts_home (awayPlan.coverageSegments.head (by decide)) (List.head_mem _)
    ⟨by decide +kernel, by decide +kernel⟩
  exact absurd h (by decide +kernel)

end DayMend.Validation
