import DayMend.Agent.Identifiers

/-!
# Selecting a way through the day

Every primitive of a matrix lies on a way through the day whose primitives are all in the
matrix (`exists_path_of_mem_primitives`), and these can be selected
(`exists_selection_of_path`). The free work of a replanning stays within the affected
windows (`stands_or_within`); so where the preserved segments are apart from each other and
from these windows, every way through the day takes all of them (`mem_path_of_preserved`).
-/

namespace DayMend.Agent

open DayMend.Base DayMend.Models DayMend.Fixtures DayMend.Services

variable {scenario : DemoScenario} {matrix : FeasibleAssignmentMatrix} {preserved : List RecoveryPlanSegment}
  {affectedWindows : List CoverageWindow} {care : List FeasibleCarePrimitive}
  {transport : List FeasibleTransportPrimitive} {segment : RecoveryPlanSegment} {legs path : List Leg}
  {required : CoverageWindow} {home : String} {windows : Option (List CoverageWindow)}
  {segments : Option (List RecoveryPlanSegment)} {line : List FeasiblePrimitive} {p : FeasiblePrimitive}

/-! ### Primitives and their legs -/

@[simp] theorem primitiveId_leg (p : FeasiblePrimitive) : p.leg.primitiveId = p.primitiveId := by
  cases p <;> rfl

theorem start_leg (p : FeasiblePrimitive) : p.leg.start.1 = p.segment.window.start := by
  cases p <;> rfl

theorem end_leg (p : FeasiblePrimitive) : p.leg.end_.1 = p.segment.window.end_ := by
  cases p <;> rfl

theorem map_leg_candidatesOf (candidates : List FeasibleCarePrimitive × List FeasibleTransportPrimitive) :
    (candidatesOf candidates).map (·.leg) = legsOf candidates.1 candidates.2 := by
  simp [candidatesOf, legsOf, FeasiblePrimitive.leg, Function.comp_def]

/-- A list of legs is the legs of a list of primitives. -/
theorem exists_map_leg {candidates : List FeasibleCarePrimitive × List FeasibleTransportPrimitive}
    (h : ∀ leg ∈ path, leg ∈ legsOf candidates.1 candidates.2) :
    ∃ line : List FeasiblePrimitive, line.map (·.leg) = path ∧ ∀ p ∈ line, p ∈ candidatesOf candidates := by
  induction path with
  | nil => exact ⟨[], rfl, by simp⟩
  | cons leg path ih =>
    obtain ⟨hleg, hpath⟩ := List.forall_mem_cons.mp h
    obtain ⟨line, rfl, hline⟩ := ih hpath
    rw [← map_leg_candidatesOf] at hleg
    obtain ⟨p, hp, rfl⟩ := List.mem_map.mp hleg
    exact ⟨p :: line, rfl, List.forall_mem_cons.mpr ⟨hp, hline⟩⟩

/-! ### Ways through the day -/

/-- On a way through the day, each primitive begins when the one before ends. -/
theorem FullPath.meets (h : FullPath legs required home (line.map (·.leg))) :
    (line.map (·.segment.window)).IsChain Span.Meets := by
  rw [List.isChain_map]
  refine ((List.isChain_map _).mp h.connected).imp fun p q hpq => ?_
  rw [Span.Meets, ← start_leg, ← end_leg, hpq]

/-- A way begins with the day, -/
theorem FullPath.head?_start (h : FullPath legs required home (line.map (·.leg))) :
    line.head?.map (·.segment.window.start) = some required.start := by
  obtain ⟨leg, hleg, hbegins⟩ := Option.map_eq_some_iff.mp h.begins
  rw [List.head?_map] at hleg
  obtain ⟨p, hp, rfl⟩ := Option.map_eq_some_iff.mp hleg
  rw [hp, Option.map_some, ← start_leg, hbegins]

/-- and ends with it. -/
theorem FullPath.getLast?_end (h : FullPath legs required home (line.map (·.leg))) :
    line.getLast?.map (·.segment.window.end_) = some required.end_ := by
  obtain ⟨leg, hleg, hends⟩ := Option.map_eq_some_iff.mp h.ends
  rw [List.getLast?_map] at hleg
  obtain ⟨p, hp, rfl⟩ := Option.map_eq_some_iff.mp hleg
  rw [hp, Option.map_some, ← end_leg, hends]

/-- Whatever the moment, some primitive of the way has it. -/
theorem FullPath.exists_mem_window (h : FullPath legs required home (line.map (·.leg))) {t : ℤ} (ht : t ∈ required) :
    ∃ p ∈ line, t ∈ p.segment.window := by
  have hne : line ≠ [] := by
    rintro rfl
    cases h.begins
  have hbegins := h.head?_start
  have hends := h.getLast?_end
  rw [List.head?_eq_some_head hne, Option.map_some, Option.some.injEq] at hbegins
  rw [List.getLast?_eq_some_getLast hne, Option.map_some, Option.some.injEq] at hends
  have hne' : line.map (·.segment.window) ≠ [] := fun hnil => hne (List.map_eq_nil_iff.mp hnil)
  obtain ⟨w, hw, htw⟩ := Span.exists_mem_of_isChain (h.meets.imp fun _ _ hmeets => hmeets.le) hne' (t := t)
    (by rw [List.head_map, hbegins]; exact ht.1)
    (by rw [List.getLast_map, hends]; exact ht.2)
  obtain ⟨p, hp, rfl⟩ := List.mem_map.mp hw
  exact ⟨p, hp, htw⟩

/-- Distinct primitives of a matrix have distinct identifiers. -/
theorem nodup_primitiveIds_of_nodup (hnodup : line.Nodup) (hline : ∀ p ∈ line, p ∈ matrix.primitives) :
    (line.map (·.primitiveId)).Nodup := by
  refine hnodup.map_on fun p hp q hq hid => Option.some.inj ?_
  rw [← get?_primitives (hline p hp), hid, get?_primitives (hline q hq)]

/-- Nothing of the matrix is on a way twice. -/
theorem FullPath.nodup_primitiveIds (h : FullPath legs required home (line.map (·.leg)))
    (hline : ∀ p ∈ line, p ∈ matrix.primitives) : (line.map (·.primitiveId)).Nodup := by
  have hafter := List.pairwise_map.mp (Span.pairwise_of_isChain_meets h.meets)
  have hnodup : line.Nodup := by
    refine hafter.imp fun {p q} hle heq => ?_
    exact absurd p.segment.window.start_lt_end (not_lt.mpr (heq ▸ hle))
  exact nodup_primitiveIds_of_nodup hnodup hline

theorem primitives_eq_candidatesOf (hmatrix : buildFeasibleAssignmentMatrix scenario windows segments = .ok matrix) :
    matrix.primitives = candidatesOf (pruneToFullCoveragePaths (candidatePrimitives scenario windows segments).1
      (candidatePrimitives scenario windows segments).2 scenario.requiredCoverage scenario.familyHomeLocationId) := by
  rw [← buildFeasibleAssignmentMatrix_eq_ok hmatrix]
  rfl

/-- **Every primitive of a matrix lies on a way through the day** that the matrix has as a whole. -/
theorem exists_path_of_mem_primitives
    (hmatrix : buildFeasibleAssignmentMatrix scenario windows segments = .ok matrix) (hp : p ∈ matrix.primitives) :
    ∃ line : List FeasiblePrimitive, FullPath (matrix.primitives.map (·.leg)) scenario.requiredCoverage
        scenario.familyHomeLocationId (line.map (·.leg)) ∧ (∀ q ∈ line, q ∈ matrix.primitives) ∧ p ∈ line := by
  have hmem := hp
  rw [primitives_eq_candidatesOf hmatrix, mem_candidatesOf_prune] at hmem
  obtain ⟨-, path, hpath, leg, hleg, hid⟩ := hmem
  obtain ⟨line, rfl, hline⟩ := exists_map_leg hpath.mem_legs
  have hkept : ∀ q ∈ line, q ∈ matrix.primitives := by
    intro q hq
    rw [primitives_eq_candidatesOf hmatrix, mem_candidatesOf_prune]
    exact ⟨hline q hq, _, hpath, q.leg, List.mem_map_of_mem hq, primitiveId_leg q⟩
  refine ⟨line, ⟨fun leg hleg => ?_, hpath.connected, hpath.begins, hpath.ends⟩, hkept, ?_⟩
  · obtain ⟨q, hq, rfl⟩ := List.mem_map.mp hleg
    exact List.mem_map_of_mem (hkept q hq)
  · obtain ⟨q, hq, rfl⟩ := List.mem_map.mp hleg
    rw [primitiveId_leg] at hid
    have hsame : some q = some p := by
      rw [← get?_primitives (hkept q hq), hid, get?_primitives hp]
    exact Option.some.inj hsame ▸ hq

/-- Nothing of a matrix is outside the required window. -/
theorem contains_of_mem_primitives
    (hmatrix : buildFeasibleAssignmentMatrix scenario windows segments = .ok matrix) (hp : p ∈ matrix.primitives) :
    scenario.requiredCoverage.Contains p.segment.window := by
  obtain ⟨line, hpath, -, hp⟩ := exists_path_of_mem_primitives hmatrix hp
  refine Span.contains_of_isChain_meets hpath.meets ?_ ?_ _ (List.mem_map_of_mem hp)
  · rw [List.head?_map, Option.map_map]
    exact hpath.head?_start
  · rw [List.getLast?_map, Option.map_map]
    exact hpath.getLast?_end

/-- **A way through the day can be selected**, if nothing that must be kept is off it. -/
theorem exists_selection_of_path (planIdOf : List String → String)
    (hpath : FullPath legs required home (line.map (·.leg))) (hline : ∀ p ∈ line, p ∈ matrix.primitives)
    (himmutable : ∀ p ∈ matrix.primitives, p.immutable = true → p ∈ line) :
    ∃ selection plan, selection.selectedPrimitiveIds = line.map (·.primitiveId) ∧
      materializePrimitiveSelection planIdOf selection matrix = .ok plan := by
  have hne : line.map (·.primitiveId) ≠ [] := by
    intro hnil
    obtain rfl := List.map_eq_nil_iff.mp hnil
    cases hpath.begins
  have hselection : (PrimitiveSelection.mk _ hne (hpath.nodup_primitiveIds hline)).selectedPrimitiveIds =
      line.map (·.primitiveId) := rfl
  obtain ⟨plan, hplan, -⟩ := exists_materialized planIdOf hselection hline
    fun p hp himm => List.mem_map_of_mem (himmutable p hp himm)
  exact ⟨_, plan, hselection, hplan⟩

/-! ### Preserved work on the way -/

/-- The primitive is the one of the preserved segment. -/
def FeasiblePrimitive.StandsFor (p : FeasiblePrimitive) (segment : RecoveryPlanSegment) : Prop :=
  (segment.segmentType ≠ .transport ∧ p = .care (preservedCare segment)) ∨
    ∃ h : segment.segmentType = .transport, p = .transport (preservedTransport segment h)

theorem FeasiblePrimitive.StandsFor.window_eq (h : p.StandsFor segment) : p.segment.window = segment.window := by
  rcases h with ⟨-, rfl⟩ | ⟨_, rfl⟩ <;> rfl

theorem FeasiblePrimitive.StandsFor.primitiveId_eq (h : p.StandsFor segment) : p.primitiveId = segment.segmentId := by
  rcases h with ⟨-, rfl⟩ | ⟨_, rfl⟩ <;> rfl

/-- A line that has all preserved work leaves out nothing that must be kept. -/
theorem mem_line_of_immutable
    (hmatrix : buildFeasibleAssignmentMatrix scenario (some affectedWindows) (some preserved) = .ok matrix)
    (hkept : ∀ s ∈ preserved, ∃ q ∈ line, q.StandsFor s) (hp : p ∈ matrix.primitives)
    (himmutable : p.immutable = true) : p ∈ line := by
  have hcandidate := mem_candidatesOf hmatrix hp
  rw [candidatePrimitives_some] at hcandidate
  obtain ⟨s, hs, -, hstands⟩ := exists_preserved_of_immutable hcandidate himmutable
  obtain ⟨q, hq, hstands'⟩ := hkept s hs
  rcases hstands with ⟨hcare, rfl⟩ | ⟨htrip, rfl⟩
  · rcases hstands' with ⟨-, rfl⟩ | ⟨htrip, -⟩
    · exact hq
    · exact absurd htrip hcare
  · rcases hstands' with ⟨hcare, -⟩ | ⟨_, rfl⟩
    · exact absurd htrip hcare
    · exact hq

/-- **What replanning starts from** is preserved, or lies within an affected window. -/
theorem stands_or_within (hp : p ∈ candidatesOf (replanningPrimitives care transport affectedWindows preserved)) :
    (∃ s ∈ preserved, p.StandsFor s) ∨ ∃ affected ∈ affectedWindows, affected.Contains p.segment.window := by
  rcases List.mem_append.mp hp with hp | hp
  · obtain ⟨item, hitem, rfl⟩ := List.mem_map.mp hp
    rcases of_mem_replanning_care hitem with ⟨s, hcounts, rfl⟩ | ⟨hclip, -⟩
    · exact Or.inl ⟨s, hcounts.mem, Or.inl ⟨hcounts.1, rfl⟩⟩
    · obtain ⟨q, -, affected, haffected, window, hwindow, rfl⟩ := mem_clips.mp hclip
      exact Or.inr ⟨affected, haffected, (contains_of_windowIntersection hwindow).2⟩
  · obtain ⟨item, hitem, rfl⟩ := List.mem_map.mp hp
    rcases of_mem_replanning_transport hitem with ⟨s, htype, hcounts, rfl⟩ | ⟨hscope, -⟩
    · exact Or.inl ⟨s, hcounts.mem, Or.inr ⟨htype, rfl⟩⟩
    · obtain ⟨affected, haffected, hcontains⟩ := of_decide_eq_true (List.mem_filter.mp hscope).2
      exact Or.inr ⟨affected, haffected, hcontains⟩

/-- **Every way through the day takes a preserved segment** that no other one and no affected window overlaps: nothing
else is there to be done at its time. -/
theorem mem_path_of_preserved (hpath : FullPath legs required home (line.map (·.leg)))
    (hline : ∀ p ∈ line, p ∈ candidatesOf (replanningPrimitives care transport affectedWindows preserved))
    (hinside : required.Contains segment.window)
    (hpreserved : ∀ other ∈ preserved, other.window.Overlaps segment.window → other = segment)
    (haffected : ∀ affected ∈ affectedWindows, ¬ affected.Overlaps segment.window) :
    ∃ p ∈ line, p.StandsFor segment := by
  have hstart := Span.start_mem segment.window
  have hrequired : segment.window.start ∈ required := ⟨hinside.1, hstart.2.trans_le hinside.2⟩
  obtain ⟨p, hp, hpstart⟩ := hpath.exists_mem_window hrequired
  have hoverlaps : p.segment.window.Overlaps segment.window := Span.overlaps_iff_exists_mem.mpr ⟨_, hpstart, hstart⟩
  rcases stands_or_within (hline p hp) with ⟨other, hother, hstands⟩ | ⟨affected, hmem, hwithin⟩
  · rw [hstands.window_eq] at hoverlaps
    exact ⟨p, hp, hpreserved other hother hoverlaps ▸ hstands⟩
  · exact absurd (hoverlaps.of_contains hwithin) (haffected affected hmem)

end DayMend.Agent
