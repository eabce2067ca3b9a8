import DayMend.Agent.ConstraintPlanner
import DayMend.Base.Reach

/-!
# Paths through the day

What the matrix keeps are the primitives on paths that begin at home, at the beginning
of the required window, and reach its end (`FullPath`). Pruning computes the states that
can be reached from the beginning and those from which the end can be reached, pass by
pass; whatever lies on a full path survives it (`FullPath.mem_prune`).
-/

namespace DayMend.Agent

open DayMend.Base DayMend.Models DayMend.Fixtures DayMend.Services

variable {care : List FeasibleCarePrimitive} {transport : List FeasibleTransportPrimitive} {legs path : List Leg}
  {required : CoverageWindow} {home : String}

/-- A way through the day: it begins at home when care is needed, each leg begins when and where the one before
ends, and the last ends when care is not needed any more. -/
structure FullPath (legs : List Leg) (required : CoverageWindow) (home : String) (path : List Leg) : Prop where
  mem_legs : ∀ leg ∈ path, leg ∈ legs
  connected : path.IsChain fun previous next => previous.end_ = next.start
  begins : path.head?.map (·.start) = some (required.start, home)
  ends : path.getLast?.map (·.end_.1) = some required.end_

/-! ### The passes follow the legs -/

/-- A leg as an edge. -/
def Leg.edge (leg : Leg) : PathState × PathState := (leg.start, leg.end_)

theorem forwardPass_eq (legs : List Leg) : forwardPass legs = expand (legs.map Leg.edge) := by
  funext states
  rw [forwardPass, expand, List.foldl_map]
  congr 1
  funext reached leg
  by_cases hleg : leg.start ∈ reached ∧ leg.end_ ∉ reached
  · exact (if_pos hleg).trans (if_pos hleg).symm
  · exact (if_neg hleg).trans (if_neg hleg).symm

theorem backwardPass_eq (legs : List Leg) : backwardPass legs = expand ((legs.map Leg.edge).map Prod.swap) := by
  funext states
  rw [backwardPass, expand, List.map_map, List.foldl_map]
  congr 1
  funext reached leg
  by_cases hleg : leg.end_ ∈ reached ∧ leg.start ∉ reached
  · exact (if_pos hleg).trans (if_pos hleg).symm
  · exact (if_neg hleg).trans (if_neg hleg).symm

theorem passes_eq (pass : List PathState → List PathState) (fuel : ℕ) : passes pass fuel = saturate pass fuel := by
  induction fuel with
  | zero => rfl
  | succ fuel ih =>
    funext states
    rw [passes, saturate, ih]

theorem closed_forwardStates : Closed (legs.map Leg.edge) (forwardStates legs required home) := by
  rw [forwardStates, passes_eq, forwardPass_eq, ← List.length_map (f := Leg.edge)]
  exact closed_saturate

theorem closed_backwardStates : Closed ((legs.map Leg.edge).map Prod.swap) (backwardStates legs required) := by
  rw [backwardStates, passes_eq, backwardPass_eq]
  have hlength : ((legs.map Leg.edge).map Prod.swap).length = legs.length := by simp
  rw [← hlength]
  exact closed_saturate

/-! ### What lies on a full path is kept -/

theorem FullPath.isWalk (h : FullPath legs required home path) :
    IsWalk (legs.map Leg.edge) (path.map Leg.edge) := by
  refine ⟨fun e he => ?_, (List.isChain_map _).mpr h.connected⟩
  obtain ⟨leg, hleg, rfl⟩ := List.mem_map.mp he
  exact List.mem_map_of_mem (h.mem_legs leg hleg)

/-- Every leg of a full path leads on from the beginning. -/
theorem FullPath.mem_forwardStates (h : FullPath legs required home path) :
    ∀ leg ∈ path, leg.start ∈ forwardStates legs required home ∧ leg.end_ ∈ forwardStates legs required home := by
  have hstart : (required.start, home) ∈ forwardStates legs required home := by
    rw [forwardStates, passes_eq, forwardPass_eq]
    exact subset_saturate (List.mem_singleton_self _)
  intro leg hleg
  refine h.isWalk.mem_of_closed closed_forwardStates (fun e he => ?_) leg.edge (List.mem_map_of_mem hleg)
  rw [List.head?_map, Option.mem_def, Option.map_eq_some_iff] at he
  obtain ⟨first, hfirst, rfl⟩ := he
  have hbegins := h.begins
  rw [hfirst, Option.map_some, Option.some.injEq] at hbegins
  rw [Leg.edge, hbegins]
  exact hstart

/-- From every leg of a full path the end can be reached. -/
theorem FullPath.mem_backwardStates (h : FullPath legs required home path) :
    ∀ leg ∈ path, leg.end_ ∈ backwardStates legs required := by
  intro leg hleg
  have hmem : leg.edge.swap ∈ (path.map Leg.edge).reverse.map Prod.swap :=
    List.mem_map_of_mem (List.mem_reverse.mpr (List.mem_map_of_mem hleg))
  refine (h.isWalk.reverse.mem_of_closed closed_backwardStates (fun e he => ?_) _ hmem).1
  rw [List.head?_map, List.head?_reverse, List.getLast?_map, Option.map_map, Option.mem_def,
    Option.map_eq_some_iff] at he
  obtain ⟨last, hlast, rfl⟩ := he
  have hends := h.ends
  rw [hlast, Option.map_some, Option.some.injEq] at hends
  rw [backwardStates, passes_eq, backwardPass_eq]
  refine subset_saturate (List.mem_dedup.mpr (List.mem_filter.mpr ⟨?_, decide_eq_true hends⟩))
  exact List.mem_map_of_mem (h.mem_legs last (List.mem_of_getLast? hlast))

/-- **What lies on a full path survives pruning.** -/
theorem FullPath.mem_prune (h : FullPath (legsOf care transport) required home path) :
    (∀ p ∈ care, p.leg ∈ path → p ∈ (pruneToFullCoveragePaths care transport required home).1) ∧
      ∀ p ∈ transport, p.leg ∈ path → p ∈ (pruneToFullCoveragePaths care transport required home).2 := by
  have hretained : ∀ leg ∈ path, leg.primitiveId ∈ ((legsOf care transport).filter fun leg =>
      leg.start ∈ forwardStates (legsOf care transport) required home ∧
        leg.end_ ∈ backwardStates (legsOf care transport) required).map (·.primitiveId) := by
    intro leg hleg
    refine List.mem_map_of_mem (List.mem_filter.mpr ⟨h.mem_legs leg hleg, decide_eq_true ⟨?_, ?_⟩⟩)
    · exact (h.mem_forwardStates leg hleg).1
    · exact h.mem_backwardStates leg hleg
  constructor
  · intro p hp hleg
    exact List.mem_filter.mpr ⟨hp, decide_eq_true (hretained p.leg hleg)⟩
  · intro p hp hleg
    exact List.mem_filter.mpr ⟨hp, decide_eq_true (hretained p.leg hleg)⟩

/-- Where there is a full path, something survives pruning. -/
theorem FullPath.prune_ne_nil (h : FullPath (legsOf care transport) required home path) :
    ¬ ((pruneToFullCoveragePaths care transport required home).1 = [] ∧
      (pruneToFullCoveragePaths care transport required home).2 = []) := by
  rintro ⟨hcare, htransport⟩
  obtain ⟨first, hfirst, -⟩ := Option.map_eq_some_iff.mp h.begins
  have hleg : first ∈ path := List.mem_of_head? hfirst
  rcases List.mem_append.mp (h.mem_legs first hleg) with hmem | hmem
  · obtain ⟨p, hp, rfl⟩ := List.mem_map.mp hmem
    exact List.not_mem_nil (hcare ▸ h.mem_prune.1 p hp hleg)
  · obtain ⟨p, hp, rfl⟩ := List.mem_map.mp hmem
    exact List.not_mem_nil (htransport ▸ h.mem_prune.2 p hp hleg)

/-! ### The matrix -/

/-- The primitives before pruning: those of the day, or for replanning those in the affected windows and the
preserved segments. -/
def candidatePrimitives (scenario : DemoScenario) (affectedWindows : Option (List CoverageWindow))
    (preservedSegments : Option (List RecoveryPlanSegment)) :
    List FeasibleCarePrimitive × List FeasibleTransportPrimitive :=
  let transport := transportPrimitives scenario
  let care := carePrimitives scenario transport
  if affectedWindows.isSome ∨ preservedSegments.isSome then
    replanningPrimitives care transport (affectedWindows.getD []) (preservedSegments.getD [])
  else (care, transport)

/-- The matrix keeps what pruning leaves. -/
theorem buildFeasibleAssignmentMatrix_eq_ok {scenario : DemoScenario} {affectedWindows : Option (List CoverageWindow)}
    {preservedSegments : Option (List RecoveryPlanSegment)} {matrix : FeasibleAssignmentMatrix}
    (h : buildFeasibleAssignmentMatrix scenario affectedWindows preservedSegments = .ok matrix) :
    (matrix.carePrimitives, matrix.transportPrimitives) =
      pruneToFullCoveragePaths (candidatePrimitives scenario affectedWindows preservedSegments).1
        (candidatePrimitives scenario affectedWindows preservedSegments).2 scenario.requiredCoverage
        scenario.familyHomeLocationId := by
  unfold buildFeasibleAssignmentMatrix at h
  extract_lets required home transport care candidates pruned at h
  split at h
  · injection h with h
    subst h
    rfl
  · cases h

end DayMend.Agent
