import DayMend.Agent.ConstraintPlanner

/-!
# Plans made of selected primitives

`materialize_primitive_selection` of `agent/constraint_planner.py`: the planner selects
primitives of the matrix by their identifiers, and each becomes a segment, field by
field. The plan's identifier is a digest of the selected identifiers, which is a
parameter here.
-/

namespace DayMend.Agent

open DayMend.Base DayMend.Models DayMend.Services

/-- A primitive of the matrix. -/
inductive FeasiblePrimitive where
  | care (p : FeasibleCarePrimitive)
  | transport (p : FeasibleTransportPrimitive)
  deriving DecidableEq

/-- `primitive_id`. -/
def FeasiblePrimitive.primitiveId : FeasiblePrimitive → String
  | .care p => p.primitiveId
  | .transport p => p.primitiveId

/-- `immutable`. -/
def FeasiblePrimitive.immutable : FeasiblePrimitive → Bool
  | .care p => p.immutable
  | .transport p => p.immutable

/-- From where and when to where and when a primitive takes the child. -/
def FeasiblePrimitive.leg : FeasiblePrimitive → Leg
  | .care p => p.leg
  | .transport p => p.leg

/-- A stretch of care needs neither destination nor driver. -/
theorem no_driver_of_care (h : PlanSegmentType.care = .transport) :
    (none : Option String).isSome = true ∧ (none : Option String).isSome = true := by
  cases h

/-- The segment that a primitive becomes. -/
def FeasiblePrimitive.segment : FeasiblePrimitive → RecoveryPlanSegment
  | .care p =>
    { segmentId := p.primitiveId
      assignedPersonId := p.assignedPersonId
      source := p.source
      segmentType := .care
      window := p.window
      locationId := p.locationId
      locationLabel := p.locationLabel
      transport_has_destination_and_driver := no_driver_of_care }
  | .transport p =>
    { segmentId := p.primitiveId
      assignedPersonId := p.assignedPersonId
      source := p.source
      segmentType := .transport
      transporterId := some p.transporterId
      window := p.window
      locationId := p.locationId
      locationLabel := p.locationLabel
      destinationLocationId := some p.destinationLocationId
      destinationLocationLabel := some p.destinationLocationLabel
      transport_has_destination_and_driver := fun _ => ⟨rfl, rfl⟩ }

/-- `primitives = [*matrix.care_primitives, *matrix.transport_primitives]`. -/
def FeasibleAssignmentMatrix.primitives (matrix : FeasibleAssignmentMatrix) : List FeasiblePrimitive :=
  matrix.carePrimitives.map .care ++ matrix.transportPrimitives.map .transport

/-- The planner's choice among the primitives. -/
structure PrimitiveSelection where
  selectedPrimitiveIds : List String
  /-- Something is selected. -/
  min_length : selectedPrimitiveIds ≠ []
  /-- Nothing is selected twice. -/
  selected_ids_are_unique : selectedPrimitiveIds.Nodup

/-- `sorted(set(...))`. -/
def sortedSet (ids : List String) : List String := ids.dedup.insertionSort fun a b => (compare a b).isLE

/-- The order of materialized segments: by start, end and identifier. -/
def segmentLe (s t : RecoveryPlanSegment) : Bool :=
  ((compare s.window.start t.window.start).then ((compare s.window.end_ t.window.end_).then
    (compare s.segmentId t.segmentId))).isLE

/-- `materialize_primitive_selection`. A `PrimitiveSelectionError` is an error of values. -/
def materializePrimitiveSelection (materializedPlanId : List String → String) (selection : PrimitiveSelection)
    (matrix : FeasibleAssignmentMatrix) : Except Failure RecoveryPlan :=
  let selectedIds := selection.selectedPrimitiveIds
  let byId : Dict String FeasiblePrimitive := .ofList (matrix.primitives.map fun p => (p.primitiveId, p))
  let unknown := sortedSet (selectedIds.filter fun id => (byId.get? id).isNone)
  let missingImmutable :=
    sortedSet (((matrix.primitives.filter (·.immutable)).map (·.primitiveId)).filter (· ∉ selectedIds))
  if unknown ≠ [] then .error (.valueError ("unknown primitive IDs: " ++ ", ".intercalate unknown))
  else if missingImmutable ≠ [] then
    .error (.valueError ("missing required immutable primitive IDs: " ++ ", ".intercalate missingImmutable))
  else .ok
    { planId := materializedPlanId selectedIds
      coverageSegments :=
        (selectedIds.filterMap fun id => (byId.get? id).map (·.segment)).insertionSort fun s t => segmentLe s t }

variable {matrix : FeasibleAssignmentMatrix} {selection : PrimitiveSelection} {path : List FeasiblePrimitive}

@[simp] theorem care_mem_primitives {p : FeasibleCarePrimitive} :
    .care p ∈ matrix.primitives ↔ p ∈ matrix.carePrimitives := by
  simp [FeasibleAssignmentMatrix.primitives]

/-- A primitive of the matrix is found by its identifier. -/
theorem get?_primitives {p : FeasiblePrimitive} (h : p ∈ matrix.primitives) :
    (Dict.ofList (matrix.primitives.map fun p => (p.primitiveId, p))).get? p.primitiveId = some p := by
  refine Dict.get?_ofList_of_mem ?_ (List.mem_map_of_mem h)
  have hids : matrix.primitives.map (·.primitiveId) =
      matrix.carePrimitives.map (·.primitiveId) ++ matrix.transportPrimitives.map (·.primitiveId) := by
    simp [FeasibleAssignmentMatrix.primitives, FeasiblePrimitive.primitiveId, Function.comp_def]
  rw [List.map_map]
  exact hids ▸ matrix.primitive_ids_are_unique

/-- **Selected primitives become segments**, when nothing immutable is left out. -/
theorem exists_materialized (materializedPlanId : List String → String)
    (hselection : selection.selectedPrimitiveIds = path.map (·.primitiveId))
    (hpath : ∀ p ∈ path, p ∈ matrix.primitives)
    (himmutable : ∀ p ∈ matrix.primitives, p.immutable = true → p.primitiveId ∈ selection.selectedPrimitiveIds) :
    ∃ plan, materializePrimitiveSelection materializedPlanId selection matrix = .ok plan ∧
      plan.coverageSegments.Perm (path.map (·.segment)) ∧ plan.calendarChanges = [] := by
  have hfound : ∀ id ∈ selection.selectedPrimitiveIds,
      ((Dict.ofList (matrix.primitives.map fun p => (p.primitiveId, p))).get? id).isNone = false := by
    intro id hid
    rw [hselection] at hid
    obtain ⟨p, hp, rfl⟩ := List.mem_map.mp hid
    rw [get?_primitives (hpath p hp)]
    rfl
  have hunknown : selection.selectedPrimitiveIds.filter (fun id =>
      ((Dict.ofList (matrix.primitives.map fun p => (p.primitiveId, p))).get? id).isNone) = [] :=
    List.filter_eq_nil_iff.mpr fun id hid => by simp [hfound id hid]
  have hmissing : (((matrix.primitives.filter (·.immutable)).map (·.primitiveId)).filter
      (· ∉ selection.selectedPrimitiveIds)) = [] := by
    refine List.filter_eq_nil_iff.mpr fun id hid => ?_
    obtain ⟨p, hp, rfl⟩ := List.mem_map.mp hid
    simpa using himmutable p (List.mem_filter.mp hp).1 (List.mem_filter.mp hp).2
  have hsegments : selection.selectedPrimitiveIds.filterMap (fun id =>
      ((Dict.ofList (matrix.primitives.map fun p => (p.primitiveId, p))).get? id).map (·.segment)) =
        path.map (·.segment) := by
    rw [hselection, List.filterMap_map]
    have hfound : ∀ p ∈ path, ((Dict.ofList (matrix.primitives.map fun p => (p.primitiveId, p))).get?
        p.primitiveId).map (·.segment) = (some ∘ FeasiblePrimitive.segment) p := by
      intro p hp
      rw [get?_primitives (hpath p hp)]
      rfl
    exact (List.filterMap_congr hfound).trans (congrFun List.filterMap_eq_map path)
  rw [materializePrimitiveSelection, hunknown, hmissing, hsegments]
  exact ⟨_, rfl, List.perm_insertionSort _ _, rfl⟩

end DayMend.Agent
