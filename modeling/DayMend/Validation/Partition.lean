import DayMend.Validation.Impact

/-!
# The parts of a declined plan

The windows in scope are merged: sorted, a window is joined with the last one if it
touches it (`mergeWindows_spec`). A decline of a valid plan partitions its segments, the
merged windows are the windows in scope, and nothing of the required window is lost
(`Partitions`). The service does so on objects, and leaves the caller's case as it was
(`applyCaregiverDecline_partitions`).
-/

namespace DayMend.Validation

open DayMend.Base DayMend.Models DayMend.Fixtures DayMend.Services DayMend.Application

variable {scenario : DemoScenario} {plan : RecoveryPlan} {decline : Decline} {declined : Caregiver}
  {recoveryCase : RecoveryCase} {event : RecoveryEvent} {outcome : InvalidationOutcome}
  {merged windows : List CoverageWindow} {window : CoverageWindow}

/-! ### What is uncovered -/

/-- The windows are apart, latest first. -/
def Apart (merged : List CoverageWindow) : Prop := merged.Pairwise fun later earlier => earlier.end_ < later.start

/-- Putting a window to the merged ones keeps them apart, -/
theorem Apart.mergeInto (h : Apart merged) : Apart (mergeInto merged window) := by
  cases merged with
  | nil => exact List.pairwise_singleton ..
  | cons last earlier =>
    obtain ⟨hlast, hearlier⟩ := List.pairwise_cons.mp h
    unfold Services.mergeInto
    dsimp only
    split
    next hafter =>
      refine List.pairwise_cons.mpr ⟨List.forall_mem_cons.mpr ⟨hafter, fun w hw => ?_⟩, h⟩
      exact (hlast w hw).trans (last.start_lt_end.trans hafter)
    next => exact List.pairwise_cons.mpr ⟨hlast, hearlier⟩

/-- covers what they covered and the window, -/
theorem pointsOf_mergeInto (h : ∀ last ∈ merged.head?, last.start ≤ window.start) :
    Span.pointsOf (mergeInto merged window) = Span.pointsOf merged ∪ window.points := by
  cases merged with
  | nil => simp [mergeInto, Span.pointsOf_cons, Span.pointsOf_nil]
  | cons last earlier =>
    have hstart : last.start ≤ window.start := h last rfl
    unfold mergeInto
    dsimp only
    split
    next =>
      rw [Span.pointsOf_cons, Set.union_comm]
    next htouch =>
      have hjoined : Span.points (⟨last.start, max last.end_ window.end_, lt_max_of_lt_left last.start_lt_end⟩ :
          CoverageWindow) = last.points ∪ window.points := by
        ext t
        simp only [Span.points, Set.mem_Ico, Set.mem_union]
        omega
      rw [Span.pointsOf_cons, Span.pointsOf_cons, hjoined, Set.union_right_comm]

/-- and begins no later than the window. -/
theorem head_mergeInto (h : ∀ last ∈ merged.head?, last.start ≤ window.start) :
    ∀ last ∈ (mergeInto merged window).head?, last.start ≤ window.start := by
  cases merged with
  | nil => simp [mergeInto]
  | cons last earlier =>
    unfold mergeInto
    dsimp only
    split
    next => simp
    next => simpa using h

/-- The loop: windows that come no earlier than the merged ones, each no earlier than the one before. -/
theorem foldl_mergeInto (hapart : Apart merged)
    (hsorted : windows.Pairwise fun v w => v.start ≤ w.start)
    (hafter : ∀ w ∈ windows, ∀ last ∈ merged.head?, last.start ≤ w.start) :
    Apart (windows.foldl mergeInto merged) ∧
      Span.pointsOf (windows.foldl mergeInto merged) = Span.pointsOf merged ∪ Span.pointsOf windows := by
  induction windows generalizing merged with
  | nil => simp [hapart]
  | cons window windows ih =>
    obtain ⟨hwindow, hsorted⟩ := List.pairwise_cons.mp hsorted
    obtain ⟨hfirst, -⟩ := List.forall_mem_cons.mp hafter
    have hnext : ∀ w ∈ windows, ∀ last ∈ (mergeInto merged window).head?, last.start ≤ w.start :=
      fun w hw last hlast => (head_mergeInto hfirst last hlast).trans (hwindow w hw)
    obtain ⟨hresult, hpoints⟩ := ih hapart.mergeInto hsorted hnext
    refine ⟨hresult, ?_⟩
    rw [List.foldl_cons, hpoints, pointsOf_mergeInto hfirst, Span.pointsOf_cons, Set.union_assoc]

/-- **Merged windows** are sorted and apart, and cover what the windows cover. -/
theorem mergeWindows_spec (windows : List CoverageWindow) :
    (mergeWindows windows).Pairwise (fun v w => v.end_ < w.start) ∧
      Span.pointsOf (mergeWindows windows) = Span.pointsOf windows := by
  have : Std.Total fun v w : CoverageWindow => v.LexLe w := ⟨Span.lexLe_total⟩
  have : IsTrans CoverageWindow fun v w => v.LexLe w := ⟨fun _ _ _ => Span.LexLe.trans⟩
  have hsorted := List.pairwise_insertionSort (fun v w : CoverageWindow => v.LexLe w) windows
  have hempty : Apart [] := List.Pairwise.nil
  obtain ⟨hapart, hpoints⟩ := foldl_mergeInto hempty (hsorted.imp Span.LexLe.start_le) (by simp)
  constructor
  · exact List.pairwise_reverse.mpr hapart
  · have hperm := List.perm_insertionSort (fun v w : CoverageWindow => v.LexLe w) windows
    rw [mergeWindows, Span.pointsOf_congr fun w => List.mem_reverse, hpoints, Span.pointsOf_nil, Set.empty_union]
    exact Span.pointsOf_congr fun w => hperm.mem_iff

/-! ### The parts of the plan -/

/-- What a decline makes of a plan. -/
structure Partitions (outcome : InvalidationOutcome) (plan : RecoveryPlan) (required : CoverageWindow) : Prop where
  /-- Every segment is in scope or preserved, -/
  perm : (outcome.impactedSegments ++ outcome.preservedSegments).Perm plan.coverageSegments
  /-- and none is both. -/
  disjoint : ∀ s ∈ outcome.impactedSegments, s ∉ outcome.preservedSegments
  /-- The uncovered windows are sorted and do not touch, -/
  apart : outcome.uncoveredWindows.Pairwise fun v w => v.end_ < w.start
  /-- and together they are the windows in scope. -/
  uncovered : Span.pointsOf outcome.uncoveredWindows = Span.pointsOf (outcome.impactedSegments.map (·.window))
  /-- Nothing of the required window is lost. -/
  covers : required.points ⊆
    Span.pointsOf (outcome.preservedSegments.map (·.window)) ∪ Span.pointsOf outcome.uncoveredWindows

theorem Splits.partitions (hs : Splits recoveryCase event scenario outcome decline plan declined)
    (h : Accepted plan scenario) : Partitions outcome plan scenario.requiredCoverage := by
  have hperm : (outcome.impactedSegments ++ outcome.preservedSegments).Perm plan.coverageSegments := by
    rw [hs.impacted_eq, hs.preserved_eq]
    have hsorted := (sortedSegments_perm plan.coverageSegments).filter
      fun s => s.segmentId ∈ (impactOf decline declined plan).impactedIds
    refine (hsorted.append_right _).trans ?_
    have hsplit := List.filter_append_perm
      (fun s : RecoveryPlanSegment => decide (s.segmentId ∈ (impactOf decline declined plan).impactedIds))
      plan.coverageSegments
    simpa only [preservedBy, decide_not] using hsplit
  obtain ⟨hapart, hpoints⟩ := mergeWindows_spec (outcome.impactedSegments.map (·.window))
  have hmerged : outcome.uncoveredWindows = mergeWindows (outcome.impactedSegments.map (·.window)) := by
    rw [hs.uncovered_eq, hs.impacted_eq]
  refine ⟨hperm, fun s himpacted hpreserved => ?_, hmerged ▸ hapart, hmerged ▸ hpoints, fun t ht => ?_⟩
  · exact ((hs.mem_preservedSegments h).mp hpreserved).2 ((hs.mem_impactedSegments h).mp himpacted).2
  · obtain ⟨s, hmem, hts⟩ := h.covers ht
    rcases List.mem_append.mp (hperm.mem_iff.mpr hmem) with himpacted | hpreserved
    · rw [hmerged, hpoints]
      exact Or.inr ⟨s.window, List.mem_map_of_mem himpacted, hts⟩
    · exact Or.inl ⟨s.window, List.mem_map_of_mem hpreserved, hts⟩

/-- How often a list of plans has the plan, by its identifier. -/
def occurrences (plans : List RecoveryPlan) (plan : RecoveryPlan) : ℕ := (plans.map (·.planId)).count plan.planId

theorem occurrences_withPlan {plans : List RecoveryPlan} {original : RecoveryPlan} (h : original.planId = plan.planId) :
    occurrences (withPlan plans original) plan = max 1 (occurrences plans plan) := by
  unfold withPlan occurrences
  split
  next hmem =>
    have hpos : 0 < (plans.map (·.planId)).count plan.planId := List.count_pos_iff.mpr (h ▸ hmem)
    omega
  next hnew =>
    have hzero : (plans.map (·.planId)).count plan.planId = 0 := List.count_eq_zero.mpr (h ▸ hnew)
    simp [List.count_append, h, hzero]

variable {memory later : Memory} {object updatedObject : CaseObject}

/-- **A decline partitions the plan**, keeps it among the previous plans, once unless it was there more often, and
leaves the caller's case as it was. -/
theorem applyCaregiverDecline_partitions (hobject : object.Within memory)
    (hplan : (object.value memory).activeRecoveryPlan = some plan) (hvalid : (validate plan scenario).valid = true)
    (h : (applyCaregiverDeclineInPlace object event scenario).runOn memory = (.ok (outcome, updatedObject), later)) :
    Partitions outcome plan scenario.requiredCoverage ∧
      updatedObject.value later = outcome.recoveryCase ∧
      occurrences outcome.recoveryCase.previousPlans plan =
        max 1 (occurrences (object.value memory).previousPlans plan) ∧
      object.value later = object.value memory := by
  obtain ⟨result, later', hrun, hextends, hresult, hobjects⟩ :=
    applyCaregiverDeclineInPlace_spec object event scenario memory
  obtain ⟨rfl, rfl⟩ := Prod.mk.inj (hrun.symm.trans h)
  have happly : applyCaregiverDecline (object.value memory) event scenario = .ok outcome := hresult.symm
  obtain ⟨decline, declined, hsplits⟩ := exists_splits_active hplan happly
  refine ⟨hsplits.partitions (accepted_of_valid hvalid), (hobjects _ _ rfl).symm, ?_, hobject.value_eq hextends⟩
  rw [hsplits.previousPlans_eq]
  exact occurrences_withPlan rfl

/-- A memory with one list of previous plans and one context. -/
def memoryWith (previousPlans : List RecoveryPlan) : Memory := ⟨[previousPlans], [{}]⟩

/-- The case of a plan as an object. -/
def objectWith (plan : RecoveryPlan) : CaseObject := ⟨caseWith plan, 0, 0⟩

/-- The grandmother declines the time in which she looks after the child. -/
theorem applyCaregiverDecline_partitions_drivenPlan :
    ∃ outcome updatedObject later,
      (applyCaregiverDeclineInPlace (objectWith drivenPlan) (grandmaDeclines (minutes 20 30)) (grandmaDay 0)).runOn
          (memoryWith []) = (.ok (outcome, updatedObject), later) ∧
        Partitions outcome (materializeCaregiverAssumptions drivenPlan) (grandmaDay 0).requiredCoverage ∧
        updatedObject.value later = outcome.recoveryCase ∧
        occurrences outcome.recoveryCase.previousPlans (materializeCaregiverAssumptions drivenPlan) =
          max 1 (occurrences ((objectWith drivenPlan).value (memoryWith [])).previousPlans
            (materializeCaregiverAssumptions drivenPlan)) ∧
        (objectWith drivenPlan).value later = (objectWith drivenPlan).value (memoryWith []) := by
  have hseen : ((applyCaregiverDeclineInPlace (objectWith drivenPlan) (grandmaDeclines (minutes 20 30))
      (grandmaDay 0)).runOn (memoryWith [])).1.toOption.map (fun _ => ()) = some () := by decide +kernel
  obtain ⟨⟨outcome, updatedObject⟩, later, hrun, -⟩ := InPlace.exists_run_of_toOption hseen
  exact ⟨outcome, updatedObject, later, hrun,
    applyCaregiverDecline_partitions ⟨by decide, by decide⟩ rfl (by decide +kernel) hrun⟩

/-- A plan that is twice among the previous plans stays there twice. -/
theorem applyCaregiverDecline_keeps_repetition :
    (validate (materializeCaregiverAssumptions drivenPlan) (grandmaDay 0)).valid = true ∧
      ∃ outcome updatedObject later,
        (applyCaregiverDeclineInPlace (objectWith drivenPlan) (grandmaDeclines (minutes 20 30)) (grandmaDay 0)).runOn
            (memoryWith [drivenPlan, drivenPlan]) = (.ok (outcome, updatedObject), later) ∧
          occurrences outcome.recoveryCase.previousPlans (materializeCaregiverAssumptions drivenPlan) ≠ 1 := by
  refine ⟨by decide +kernel, ?_⟩
  have hseen : ((applyCaregiverDeclineInPlace (objectWith drivenPlan) (grandmaDeclines (minutes 20 30))
      (grandmaDay 0)).runOn (memoryWith [drivenPlan, drivenPlan])).1.toOption.map (fun result =>
        occurrences result.1.recoveryCase.previousPlans (materializeCaregiverAssumptions drivenPlan)) =
      some 2 := by decide +kernel
  obtain ⟨⟨outcome, updatedObject⟩, later, hrun, htwice⟩ := InPlace.exists_run_of_toOption hseen
  exact ⟨outcome, updatedObject, later, hrun, by rw [htwice]; decide⟩

end DayMend.Validation
