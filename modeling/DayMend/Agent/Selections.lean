import DayMend.Agent.PrimitiveSelection
import DayMend.Base.Sorting

/-!
# Selections and the plans they become

`_materialized_plan_id` of `agent/constraint_planner.py`, and what
`materialize_primitive_selection` makes of a selection: when it fails, what the
segments say, and that the order of the selected identifiers does not matter.
-/

namespace DayMend.Agent

open DayMend.Base DayMend.Models DayMend.Fixtures DayMend.Services

/-- `_materialized_plan_id`: the digest, by `json.dumps` and SHA-256, is of the sorted identifiers. -/
def materializedPlanId (digest : List String → String) (selectedPrimitiveIds : List String) : String :=
  "primitive-selection-" ++ digest (selectedPrimitiveIds.insertionSort fun a b => (compare a b).isLE)

/-- A segment says what a primitive says, in every material field. -/
def FeasiblePrimitive.CopiedTo : FeasiblePrimitive → RecoveryPlanSegment → Prop
  | .care p, s =>
    s.segmentType = .care ∧ s.segmentId = p.primitiveId ∧ s.assignedPersonId = p.assignedPersonId ∧
      s.source = p.source ∧ s.window = p.window ∧ s.locationId = p.locationId ∧ s.locationLabel = p.locationLabel
  | .transport p, s =>
    s.segmentType = .transport ∧ s.segmentId = p.primitiveId ∧ s.assignedPersonId = p.assignedPersonId ∧
      s.source = p.source ∧ s.window = p.window ∧ s.locationId = p.locationId ∧ s.locationLabel = p.locationLabel ∧
      s.transporterId = some p.transporterId ∧ s.destinationLocationId = some p.destinationLocationId ∧
      s.destinationLocationLabel = some p.destinationLocationLabel

theorem copiedTo_segment (p : FeasiblePrimitive) : p.CopiedTo p.segment := by
  cases p <;> simp [FeasiblePrimitive.CopiedTo, FeasiblePrimitive.segment]

@[simp] theorem segmentId_segment (p : FeasiblePrimitive) : p.segment.segmentId = p.primitiveId := by
  cases p <;> rfl

theorem map_segmentId_segment (line : List FeasiblePrimitive) :
    (line.map (·.segment)).map (·.segmentId) = line.map (·.primitiveId) := by
  rw [List.map_map]
  exact List.map_congr_left fun p _ => segmentId_segment p

/-! ### The order of segments -/

/-- The comparison of segments: by start, end and identifier. -/
def segmentCmp : RecoveryPlanSegment → RecoveryPlanSegment → Ordering :=
  compareLex (compareOn (·.window.start)) (compareLex (compareOn (·.window.end_)) (compareOn (·.segmentId)))

instance : Std.TransCmp segmentCmp :=
  inferInstanceAs (Std.TransCmp (compareLex (compareOn fun s : RecoveryPlanSegment => s.window.start)
    (compareLex (compareOn (·.window.end_)) (compareOn (·.segmentId)))))

theorem segmentId_eq_of_segmentCmp {s t : RecoveryPlanSegment} (h : segmentCmp s t = .eq) :
    s.segmentId = t.segmentId := by
  simp only [segmentCmp, compareLex_eq_eq, compareOn, Std.LawfulEqCmp.compare_eq_iff_eq] at h
  exact h.2.2

theorem lexLe_of_segmentCmp {s t : RecoveryPlanSegment} (h : (segmentCmp s t).isLE) : s.window.LexLe t.window := by
  change ((compare s.window.start t.window.start).then ((compare s.window.end_ t.window.end_).then
    (compare s.segmentId t.segmentId))).isLE at h
  rw [Ordering.isLE_then_iff_or, Ordering.isLE_then_iff_or, Int.compare_eq_lt, Int.compare_eq_eq, Int.compare_eq_lt,
    Int.compare_eq_eq] at h
  rcases h with h | ⟨h, h' | ⟨h', -⟩⟩
  · exact Or.inl h
  · exact Or.inr ⟨h, h'.le⟩
  · exact Or.inr ⟨h, h'.le⟩

/-- **`sorted(set(...))` depends only on the elements.** -/
theorem sortedSet_eq_of_perm {ids ids' : List String} (h : ids.Perm ids') : sortedSet ids = sortedSet ids' := by
  have hsorted : sortBy compare ids.dedup = sortBy compare ids'.dedup := by
    apply sortBy_eq_of_perm h.dedup
    intro a _ b _ hab
    exact Std.LawfulEqCmp.eq_of_compare hab
  exact hsorted

theorem sortedSet_eq_nil_iff {ids : List String} : sortedSet ids = [] ↔ ids = [] := by
  constructor
  · intro h
    have hperm : (sortedSet ids).Perm ids.dedup := List.perm_insertionSort _ _
    rw [h] at hperm
    apply List.eq_nil_iff_forall_not_mem.mpr
    intro id hid
    have hmem : id ∈ ids.dedup := List.mem_dedup.mpr hid
    rw [hperm.symm.eq_nil] at hmem
    cases hmem
  · rintro rfl
    rfl

/-- **The plan's identifier depends only on the set.** -/
theorem materializedPlanId_eq_of_perm (digest : List String → String) {ids ids' : List String} (h : ids.Perm ids') :
    materializedPlanId digest ids = materializedPlanId digest ids' := by
  have hsorted : sortBy compare ids = sortBy compare ids' :=
    sortBy_eq_of_perm h fun a _ b _ hab => Std.LawfulEqCmp.eq_of_compare hab
  exact congrArg (fun sorted => "primitive-selection-" ++ digest sorted) hsorted

/-! ### What a selection becomes -/

variable {matrix : FeasibleAssignmentMatrix} {selection selection' : PrimitiveSelection}

/-- `by_id`. -/
def FeasibleAssignmentMatrix.byId (matrix : FeasibleAssignmentMatrix) : Dict String FeasiblePrimitive :=
  .ofList (matrix.primitives.map fun p => (p.primitiveId, p))

theorem get?_byId_eq_some_iff {id : String} {p : FeasiblePrimitive} :
    matrix.byId.get? id = some p ↔ p ∈ matrix.primitives ∧ p.primitiveId = id := by
  constructor
  · intro h
    have hmem := Dict.mem_of_get?_ofList h
    obtain ⟨q, hq, heq⟩ := List.mem_map.mp hmem
    cases heq
    exact ⟨hq, rfl⟩
  · rintro ⟨hp, rfl⟩
    exact get?_primitives hp

theorem get?_byId_eq_none_iff {id : String} :
    matrix.byId.get? id = none ↔ ∀ p ∈ matrix.primitives, p.primitiveId ≠ id := by
  rw [Option.eq_none_iff_forall_ne_some]
  constructor
  · intro h p hp hid
    exact h p (get?_byId_eq_some_iff.mpr ⟨hp, hid⟩)
  · intro h p hp
    obtain ⟨hmem, hid⟩ := get?_byId_eq_some_iff.mp hp
    exact h p hmem hid

/-- The selected primitives, in the order of the selection. -/
def selectedPrimitives (selection : PrimitiveSelection) (matrix : FeasibleAssignmentMatrix) : List FeasiblePrimitive :=
  selection.selectedPrimitiveIds.filterMap matrix.byId.get?

theorem mem_selectedPrimitives {p : FeasiblePrimitive} :
    p ∈ selectedPrimitives selection matrix ↔
      p ∈ matrix.primitives ∧ p.primitiveId ∈ selection.selectedPrimitiveIds := by
  rw [selectedPrimitives, List.mem_filterMap]
  constructor
  · rintro ⟨id, hid, hp⟩
    obtain ⟨hmem, rfl⟩ := get?_byId_eq_some_iff.mp hp
    exact ⟨hmem, hid⟩
  · rintro ⟨hmem, hid⟩
    exact ⟨_, hid, get?_byId_eq_some_iff.mpr ⟨hmem, rfl⟩⟩

/-- **The identifiers of the selected primitives** are the selected identifiers, if all of them are known. -/
theorem map_selectedPrimitives
    (hknown : ∀ id ∈ selection.selectedPrimitiveIds, ∃ p ∈ matrix.primitives, p.primitiveId = id) :
    (selectedPrimitives selection matrix).map (·.primitiveId) = selection.selectedPrimitiveIds := by
  have hfound : ∀ id ∈ selection.selectedPrimitiveIds,
      (matrix.byId.get? id).map FeasiblePrimitive.primitiveId = some id := by
    intro id hid
    obtain ⟨p, hp, rfl⟩ := hknown id hid
    rw [get?_byId_eq_some_iff.mpr ⟨hp, rfl⟩]
    rfl
  rw [selectedPrimitives, List.map_filterMap, List.filterMap_congr hfound, List.filterMap_some]

/-- An identifier is selected that no primitive has. -/
def SelectsUnknown (selection : PrimitiveSelection) (matrix : FeasibleAssignmentMatrix) : Prop :=
  ∃ id ∈ selection.selectedPrimitiveIds, ∀ p ∈ matrix.primitives, p.primitiveId ≠ id

theorem exists_of_not_selectsUnknown (h : ¬ SelectsUnknown selection matrix) :
    ∀ id ∈ selection.selectedPrimitiveIds, ∃ p ∈ matrix.primitives, p.primitiveId = id := by
  intro id hid
  by_contra hnone
  exact h ⟨id, hid, fun p hp hsame => hnone ⟨p, hp, hsame⟩⟩

/-- A primitive that must be kept is not selected. -/
def OmitsImmutable (selection : PrimitiveSelection) (matrix : FeasibleAssignmentMatrix) : Prop :=
  ∃ p ∈ matrix.primitives, p.immutable = true ∧ p.primitiveId ∉ selection.selectedPrimitiveIds

/-- `unknown`. -/
def unknownIds (selection : PrimitiveSelection) (matrix : FeasibleAssignmentMatrix) : List String :=
  sortedSet (selection.selectedPrimitiveIds.filter fun id => (matrix.byId.get? id).isNone)

/-- `missing_immutable`. -/
def missingImmutableIds (selection : PrimitiveSelection) (matrix : FeasibleAssignmentMatrix) : List String :=
  sortedSet (((matrix.primitives.filter (·.immutable)).map (·.primitiveId)).filter
    (· ∉ selection.selectedPrimitiveIds))

theorem unknownIds_eq_nil_iff : unknownIds selection matrix = [] ↔ ¬ SelectsUnknown selection matrix := by
  rw [unknownIds, sortedSet_eq_nil_iff, List.filter_eq_nil_iff, SelectsUnknown]
  simp only [Option.isNone_iff_eq_none, get?_byId_eq_none_iff, not_exists, not_and]

theorem missingImmutableIds_eq_nil_iff :
    missingImmutableIds selection matrix = [] ↔ ¬ OmitsImmutable selection matrix := by
  rw [missingImmutableIds, sortedSet_eq_nil_iff, List.filter_eq_nil_iff, OmitsImmutable]
  simp only [List.mem_map, List.mem_filter, decide_eq_true_eq, not_not, not_exists, not_and, and_imp,
    forall_exists_index]
  constructor
  · intro h p hp himmutable
    exact h _ p hp himmutable rfl
  · rintro h _ p hp himmutable rfl
    exact h p hp himmutable

/-- The plan that a selection becomes, if it becomes one. -/
def selectedPlan (planIdOf : List String → String) (selection : PrimitiveSelection)
    (matrix : FeasibleAssignmentMatrix) : RecoveryPlan :=
  { planId := planIdOf selection.selectedPrimitiveIds
    coverageSegments := sortBy segmentCmp ((selectedPrimitives selection matrix).map (·.segment)) }

theorem materializePrimitiveSelection_eq (planIdOf : List String → String) (selection : PrimitiveSelection)
    (matrix : FeasibleAssignmentMatrix) :
    materializePrimitiveSelection planIdOf selection matrix =
      if unknownIds selection matrix ≠ [] then
        .error (.valueError ("unknown primitive IDs: " ++ ", ".intercalate (unknownIds selection matrix)))
      else if missingImmutableIds selection matrix ≠ [] then
        .error (.valueError ("missing required immutable primitive IDs: " ++
          ", ".intercalate (missingImmutableIds selection matrix)))
      else .ok (selectedPlan planIdOf selection matrix) := by
  rw [selectedPlan, selectedPrimitives, List.map_filterMap]
  rfl

/-- **When a selection becomes a plan**, and which. -/
theorem materializePrimitiveSelection_eq_ok_iff {planIdOf : List String → String} {plan : RecoveryPlan} :
    materializePrimitiveSelection planIdOf selection matrix = .ok plan ↔
      ¬ SelectsUnknown selection matrix ∧ ¬ OmitsImmutable selection matrix ∧
        plan = selectedPlan planIdOf selection matrix := by
  rw [materializePrimitiveSelection_eq, ← unknownIds_eq_nil_iff, ← missingImmutableIds_eq_nil_iff]
  by_cases hunknown : unknownIds selection matrix = []
  · by_cases hmissing : missingImmutableIds selection matrix = []
    · rw [if_neg (not_not.mpr hunknown), if_neg (not_not.mpr hmissing)]
      simp [hunknown, hmissing, eq_comm]
    · rw [if_neg (not_not.mpr hunknown), if_pos hmissing]
      simp [hmissing]
  · rw [if_pos hunknown]
    simp [hunknown]

/-- **When a selection is refused.** -/
theorem materializePrimitiveSelection_eq_error_iff {planIdOf : List String → String} :
    (∃ failure, materializePrimitiveSelection planIdOf selection matrix = .error failure) ↔
      SelectsUnknown selection matrix ∨ OmitsImmutable selection matrix := by
  rw [← not_iff_not, not_or]
  constructor
  · intro h
    cases hresult : materializePrimitiveSelection planIdOf selection matrix with
    | error failure => exact absurd ⟨failure, hresult⟩ h
    | ok plan =>
      obtain ⟨hunknown, hmissing, -⟩ := materializePrimitiveSelection_eq_ok_iff.mp hresult
      exact ⟨hunknown, hmissing⟩
  · rintro ⟨hunknown, hmissing⟩ ⟨failure, hfailure⟩
    have hplan : materializePrimitiveSelection planIdOf selection matrix = .ok _ :=
      materializePrimitiveSelection_eq_ok_iff.mpr ⟨hunknown, hmissing, rfl⟩
    rw [hfailure] at hplan
    cases hplan

/-! ### The order of a selection -/

/-- **The order of the selected identifiers does not matter**: the same plan, or the same refusal. -/
theorem materializePrimitiveSelection_eq_of_perm (digest : List String → String)
    (hperm : selection.selectedPrimitiveIds.Perm selection'.selectedPrimitiveIds) :
    materializePrimitiveSelection (materializedPlanId digest) selection matrix =
      materializePrimitiveSelection (materializedPlanId digest) selection' matrix := by
  have hunknown : unknownIds selection matrix = unknownIds selection' matrix :=
    sortedSet_eq_of_perm (hperm.filter _)
  have hmissing : missingImmutableIds selection matrix = missingImmutableIds selection' matrix := by
    simp only [missingImmutableIds, hperm.mem_iff]
  have hid : materializedPlanId digest selection.selectedPrimitiveIds =
      materializedPlanId digest selection'.selectedPrimitiveIds := materializedPlanId_eq_of_perm digest hperm
  have hsegments : sortBy segmentCmp ((selectedPrimitives selection matrix).map (·.segment)) =
      sortBy segmentCmp ((selectedPrimitives selection' matrix).map (·.segment)) := by
    apply sortBy_eq_of_perm ((hperm.filterMap _).map _)
    -- identifiers are unique in the matrix, so no two selected segments compare equal
    intro s hs t ht hcmp
    obtain ⟨p, hp, rfl⟩ := List.mem_map.mp hs
    obtain ⟨q, hq, rfl⟩ := List.mem_map.mp ht
    have hids : p.primitiveId = q.primitiveId := by simpa using segmentId_eq_of_segmentCmp hcmp
    have hsame := get?_byId_eq_some_iff.mpr ⟨(mem_selectedPrimitives.mp hp).1, hids⟩
    rw [get?_byId_eq_some_iff.mpr ⟨(mem_selectedPrimitives.mp hq).1, rfl⟩] at hsame
    cases hsame
    rfl
  rw [materializePrimitiveSelection_eq, materializePrimitiveSelection_eq, hunknown, hmissing, selectedPlan,
    selectedPlan, hid, hsegments]

/-- The segments of a selection come from its primitives, one from each. -/
theorem exists_primitives_of_segments (planIdOf : List String → String) (selection : PrimitiveSelection)
    (matrix : FeasibleAssignmentMatrix) :
    ∃ chosen : List FeasiblePrimitive, chosen.Perm (selectedPrimitives selection matrix) ∧
      (selectedPlan planIdOf selection matrix).coverageSegments = chosen.map (·.segment) := by
  refine ⟨sortBy (fun p q => segmentCmp p.segment q.segment) (selectedPrimitives selection matrix),
    sortBy_perm _ _, ?_⟩
  exact (map_sortBy _ _).symm

/-- **Materialisation depends only on what is chosen.** -/
theorem materializePrimitiveSelection_canonical (digest : List String → String) (matrix : FeasibleAssignmentMatrix)
    (selection selection' : PrimitiveSelection)
    (hperm : selection.selectedPrimitiveIds.Perm selection'.selectedPrimitiveIds) :
    materializePrimitiveSelection (materializedPlanId digest) selection matrix =
        materializePrimitiveSelection (materializedPlanId digest) selection' matrix ∧
      ((∃ failure, materializePrimitiveSelection (materializedPlanId digest) selection matrix = .error failure) ↔
        SelectsUnknown selection matrix ∨ OmitsImmutable selection matrix) ∧
      ∀ plan, materializePrimitiveSelection (materializedPlanId digest) selection matrix = .ok plan →
        ∃ chosen : List FeasiblePrimitive,
          (∀ p ∈ chosen, p ∈ matrix.primitives) ∧
            (chosen.map (·.primitiveId)).Perm selection.selectedPrimitiveIds ∧
            List.Forall₂ FeasiblePrimitive.CopiedTo chosen plan.coverageSegments ∧
            (plan.coverageSegments.map (·.segmentId)).Nodup ∧
            plan.coverageSegments.Pairwise fun s t => s.window.LexLe t.window := by
  refine ⟨materializePrimitiveSelection_eq_of_perm digest hperm, materializePrimitiveSelection_eq_error_iff, ?_⟩
  intro plan hplan
  obtain ⟨hunknown, -, rfl⟩ := materializePrimitiveSelection_eq_ok_iff.mp hplan
  obtain ⟨chosen, hchosen, hsegments⟩ :=
    exists_primitives_of_segments (materializedPlanId digest) selection matrix
  have hids : (chosen.map (·.primitiveId)).Perm selection.selectedPrimitiveIds :=
    map_selectedPrimitives (exists_of_not_selectsUnknown hunknown) ▸ hchosen.map _
  refine ⟨chosen, ?_, hids, ?_, ?_, ?_⟩
  · intro p hp
    exact (mem_selectedPrimitives.mp (hchosen.mem_iff.mp hp)).1
  · rw [hsegments, List.forall₂_map_right_iff, List.forall₂_same]
    intro p _
    exact copiedTo_segment p
  · rw [hsegments, map_segmentId_segment]
    exact hids.symm.nodup selection.selected_ids_are_unique
  · exact (pairwise_sortBy _).imp lexLe_of_segmentCmp

/-- A stretch of care at home. -/
def homeCareBy (primitiveId assignedPersonId : String) (window : CoverageWindow) : FeasibleCarePrimitive :=
  { primitiveId, assignedPersonId, source := .caregiver, window, locationId := "family_home"
    locationLabel := homeLabel }

theorem halves_unique : ["care:ana:0", "care:ben:60"].Nodup := by decide

/-- A day in two halves. -/
def halves : FeasibleAssignmentMatrix :=
  { requiredCoverageWindow := minutes 0 120
    people := []
    carePrimitives := [homeCareBy "care:ana:0" "ana" (minutes 0 60), homeCareBy "care:ben:60" "ben" (minutes 60 120)]
    transportPrimitives := []
    hardUnavailableCareWindows := []
    excludedPersonIds := []
    familyHomeLocationId := "family_home"
    requireTrustedCaregiver := true
    unapprovedCaregiverAllowed := false
    minimumHandoffMinutes := 0
    primitive_ids_are_unique := halves_unique }

/-- Both halves, the first one first. -/
def inOrder : PrimitiveSelection := ⟨["care:ana:0", "care:ben:60"], List.cons_ne_nil _ _, halves_unique⟩

/-- Both halves, the second one first. -/
def reversed : PrimitiveSelection :=
  ⟨["care:ben:60", "care:ana:0"], List.cons_ne_nil _ _, List.nodup_reverse.mp halves_unique⟩

theorem materializePrimitiveSelection_canonical_halves :
    inOrder.selectedPrimitiveIds.Perm reversed.selectedPrimitiveIds ∧
      materializePrimitiveSelection (materializedPlanId fun ids => ids.headD "") inOrder halves =
        materializePrimitiveSelection (materializedPlanId fun ids => ids.headD "") reversed halves ∧
      ((∃ failure, materializePrimitiveSelection (materializedPlanId fun ids => ids.headD "") inOrder halves =
          .error failure) ↔ SelectsUnknown inOrder halves ∨ OmitsImmutable inOrder halves) ∧
      ∀ plan, materializePrimitiveSelection (materializedPlanId fun ids => ids.headD "") inOrder halves = .ok plan →
        ∃ chosen : List FeasiblePrimitive,
          (∀ p ∈ chosen, p ∈ halves.primitives) ∧
            (chosen.map (·.primitiveId)).Perm inOrder.selectedPrimitiveIds ∧
            List.Forall₂ FeasiblePrimitive.CopiedTo chosen plan.coverageSegments ∧
            (plan.coverageSegments.map (·.segmentId)).Nodup ∧
            plan.coverageSegments.Pairwise fun s t => s.window.LexLe t.window :=
  ⟨List.Perm.swap _ _ _, materializePrimitiveSelection_canonical (fun ids => ids.headD "") halves inOrder reversed
    (List.Perm.swap _ _ _)⟩

end DayMend.Agent
