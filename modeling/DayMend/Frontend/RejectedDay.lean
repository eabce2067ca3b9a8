import DayMend.Base.Fold
import DayMend.Base.Gaps
import DayMend.Frontend.RecoveryStore
import DayMend.Validation.Preservation

/-!
# The day after a rejection

When the user has rejected a plan, the page `frontend/src/app/pages/today.ts` shows what is
left of the plan before (`rejectedDay`): its segments that the rejected plan has as well
count as covered, and between them there is care to be found. A segment is taken to be in
both plans if its window is the same (`segmentsMateriallyMatch`), where the validator lets
preserved work be part of a longer segment (`PreservedWorkSurvives`); so preserved work may
be shown as open (`rejectedDay_agrees_iff`).

The page compares times by `Date.parse`, in whole milliseconds.
-/

namespace DayMend.Frontend

open DayMend.Base DayMend.Models DayMend.Services DayMend.Validation DayMend.Fixtures

/-! ### What the page is given -/

/-- `Date.parse` of the text of an instant: the milliseconds, cut off. -/
def dateParse (instant : Instant) : ℤ := instant / 1000

theorem dateParse_mono {s t : Instant} (h : s ≤ t) : dateParse s ≤ dateParse t := Int.ediv_le_ediv (by decide) h

/-- A segment, as the client sees it. -/
structure CoverageSegment where
  segmentId : String
  window : CoverageWindow
  assignedPersonId : String
  source : CoverageSource
  segmentType : Option PlanSegmentType
  locationId : Option String
  locationLabel : Option String
  destinationLocationId : Option String
  destinationLocationLabel : Option String
  transporterId : Option String
  estimatedCost : Decimal
  deriving DecidableEq

/-- `CoverageSegmentResponse`, of a segment of a plan. -/
def coverageSegmentResponse (segment : RecoveryPlanSegment) : CoverageSegment :=
  { segmentId := segment.segmentId
    window := segment.window
    assignedPersonId := segment.assignedPersonId
    source := segment.source
    segmentType := some segment.segmentType
    locationId := some segment.locationId
    locationLabel := some segment.locationLabel
    destinationLocationId := segment.destinationLocationId
    destinationLocationLabel := segment.destinationLocationLabel
    transporterId := segment.transporterId
    estimatedCost := segment.estimatedCost }

/-- A plan, as the client sees it. -/
structure RecoveryPlanResponse where
  planId : String
  coverageSegments : List CoverageSegment

/-- `_plan`. -/
def planResponse (plan : RecoveryPlan) : RecoveryPlanResponse :=
  { planId := plan.planId, coverageSegments := plan.coverageSegments.map coverageSegmentResponse }

/-- The decisions and the plans of a case, as the client sees them. -/
structure ReviewedCaseResponse where
  activePlan : Option RecoveryPlanResponse
  previousPlans : List RecoveryPlanResponse
  approvalHistory : List ApprovalResponse

/-- `recovery_case_response`, of these. -/
def reviewedCaseResponse (recoveryCase : RecoveryCase) : ReviewedCaseResponse :=
  { activePlan := recoveryCase.activeRecoveryPlan.map planResponse
    previousPlans := recoveryCase.previousPlans.map planResponse
    approvalHistory := recoveryCase.approvalHistory.map approvalResponse }

/-! ### The page -/

namespace CoverageSegment

/-- The type of a segment, which is care unless it says otherwise. -/
def segmentTypeOrCare (segment : CoverageSegment) : PlanSegmentType := segment.segmentType.getD .care

/-- Where a segment takes place, by its identifier or else its label. -/
def location (segment : CoverageSegment) : Option String := segment.locationId.or segment.locationLabel

/-- Where a segment leads to. -/
def destination (segment : CoverageSegment) : Option String :=
  segment.destinationLocationId.or segment.destinationLocationLabel

/-- Who drives, if nobody else the person who looks after the child. -/
def transporter (segment : CoverageSegment) : String := segment.transporterId.getD segment.assignedPersonId

end CoverageSegment

/-- `segmentsMateriallyMatch`. -/
def SegmentsMateriallyMatch (left right : CoverageSegment) : Prop :=
  dateParse left.window.start = dateParse right.window.start ∧
    dateParse left.window.end_ = dateParse right.window.end_ ∧
    left.assignedPersonId = right.assignedPersonId ∧
    left.source = right.source ∧
    left.segmentTypeOrCare = right.segmentTypeOrCare ∧
    left.location = right.location ∧
    (left.segmentTypeOrCare ≠ .transport ∨ left.destination = right.destination ∧ left.transporter = right.transporter)

instance (left right : CoverageSegment) : Decidable (SegmentsMateriallyMatch left right) := by
  unfold SegmentsMateriallyMatch; infer_instance

/-- Whether a part of the day is covered. -/
inductive EntryKind where
  | covered
  | unresolved
  deriving DecidableEq

/-- A part of the day. -/
structure RejectedDayEntry where
  kind : EntryKind
  start : Instant
  end_ : Instant
  segment : Option CoverageSegment
  deriving DecidableEq

/-- A part with a segment. -/
def coveredEntry (segment : CoverageSegment) : RejectedDayEntry :=
  { kind := .covered, start := segment.window.start, end_ := segment.window.end_, segment := some segment }

/-- A part without care. -/
def unresolvedEntry (start end_ : Instant) : RejectedDayEntry :=
  { kind := .unresolved, start, end_, segment := none }

@[simp] theorem kind_coveredEntry (segment : CoverageSegment) : (coveredEntry segment).kind = .covered := rfl
@[simp] theorem kind_unresolvedEntry (start end_ : Instant) : (unresolvedEntry start end_).kind = .unresolved := rfl
@[simp] theorem segment_coveredEntry (segment : CoverageSegment) : (coveredEntry segment).segment = some segment := rfl

/-- The parts of the day from the cursor on. -/
def dayEntries (coverageEnd : Instant) : Instant → List CoverageSegment → List RejectedDayEntry
  | cursor, [] =>
    if dateParse cursor < dateParse coverageEnd then [unresolvedEntry cursor coverageEnd] else []
  | cursor, segment :: preserved =>
    (if dateParse segment.window.start > dateParse cursor then [unresolvedEntry cursor segment.window.start] else []) ++
      coveredEntry segment ::
        dayEntries coverageEnd
          (if dateParse segment.window.end_ > dateParse cursor then segment.window.end_ else cursor) preserved

/-- The day as it is shown. -/
structure RejectedDay where
  entries : List RejectedDayEntry
  unresolved : List RejectedDayEntry

/-- `rejected`: the last decision was against a plan. -/
def Rejected (recovery : Option ReviewedCaseResponse) : Prop :=
  (recovery.bind (·.approvalHistory.getLast?)).map (·.status) = some .rejected

instance (recovery : Option ReviewedCaseResponse) : Decidable (Rejected recovery) :=
  inferInstanceAs (Decidable (_ = _))

/-- The segments of the plan before that the proposed plan has as well, in the order of their starts. -/
def matchingSegments (prior proposed : RecoveryPlanResponse) : List CoverageSegment :=
  (prior.coverageSegments.filter fun segment =>
      ∃ candidate ∈ proposed.coverageSegments, SegmentsMateriallyMatch segment candidate).insertionSort
    fun left right => dateParse left.window.start ≤ dateParse right.window.start

/-- The start of the earliest of some segments. -/
def coverageStart (segments : List CoverageSegment) (first : CoverageSegment) : Instant :=
  segments.foldl (fun earliest segment =>
    if dateParse segment.window.start < dateParse earliest then segment.window.start else earliest) first.window.start

/-- The end of the latest of some segments. -/
def coverageEnd (segments : List CoverageSegment) (first : CoverageSegment) : Instant :=
  segments.foldl (fun latest segment =>
    if dateParse segment.window.end_ > dateParse latest then segment.window.end_ else latest) first.window.end_

/-- The day that is left of the plan before, with the given first segment, after a rejection of the proposed plan. -/
def remainingDay (prior proposed : RecoveryPlanResponse) (first : CoverageSegment) : RejectedDay :=
  let entries := dayEntries (coverageEnd prior.coverageSegments first) (coverageStart prior.coverageSegments first)
    (matchingSegments prior proposed)
  { entries, unresolved := entries.filter fun entry => entry.kind = .unresolved }

/-- `rejectedDay`. -/
def rejectedDay (recovery : Option ReviewedCaseResponse) : Option RejectedDay :=
  match recovery.bind (·.previousPlans.getLast?), recovery.bind (·.activePlan) with
  | some prior, some proposed =>
    match prior.coverageSegments with
    | [] => none
    | first :: _ =>
      if ¬ Rejected recovery then none else some (remainingDay prior proposed first)
  | _, _ => none

/-! ### What is shown -/

variable {recoveryCase : RecoveryCase} {prior proposed : RecoveryPlan} {preserved : List RecoveryPlanSegment}
  {segments : List CoverageSegment} {segment : CoverageSegment} {cursor last : Instant}

/-- The millisecond at which a segment starts. -/
def startsAt (segment : CoverageSegment) : ℤ := dateParse segment.window.start

/-- The millisecond at which it ends. -/
def endsAt (segment : CoverageSegment) : ℤ := dateParse segment.window.end_

/-- The milliseconds between which a part of the day lies. -/
def RejectedDayEntry.between (entry : RejectedDayEntry) : ℤ × ℤ := (dateParse entry.start, dateParse entry.end_)

/-- What is shown as covered are the segments that the sweep is over. -/
theorem filterMap_segment_dayEntries : (dayEntries last cursor segments).filterMap (·.segment) = segments := by
  induction segments generalizing cursor with
  | nil =>
    rw [dayEntries]
    split <;> rfl
  | cons segment segments ih =>
    have hgap : (if dateParse segment.window.start > dateParse cursor then
        [unresolvedEntry cursor segment.window.start] else []).filterMap (·.segment) = [] := by
      split <;> rfl
    rw [dayEntries, List.filterMap_append, hgap, List.nil_append, List.filterMap_cons_some (segment_coveredEntry _), ih]

theorem coveredEntry_mem_dayEntries : coveredEntry segment ∈ dayEntries last cursor segments ↔ segment ∈ segments := by
  constructor
  · intro h
    have hsegment : segment ∈ (dayEntries last cursor segments).filterMap (·.segment) :=
      List.mem_filterMap.mpr ⟨_, h, rfl⟩
    rwa [filterMap_segment_dayEntries] at hsegment
  · intro h
    induction segments generalizing cursor with
    | nil => cases h
    | cons first segments ih =>
      rw [dayEntries]
      apply List.mem_append_right
      rcases List.mem_cons.mp h with rfl | h
      · exact List.mem_cons_self
      · exact List.mem_cons_of_mem _ (ih h)

/-- **What is shown as unresolved are the gaps that a sweep finds.** -/
theorem unresolved_dayEntries :
    ((dayEntries last cursor segments).filter fun entry => entry.kind = .unresolved).map (·.between) =
      gapsFrom startsAt endsAt (dateParse last) (dateParse cursor) segments := by
  induction segments generalizing cursor with
  | nil =>
    rw [dayEntries, gapsFrom]
    split <;> rfl
  | cons segment segments ih =>
    have hcursor :
        dateParse (if dateParse segment.window.end_ > dateParse cursor then segment.window.end_ else cursor) =
          max (dateParse cursor) (endsAt segment) := by
      split
      next hlater => exact (max_eq_right (le_of_lt hlater)).symm
      next hlater => exact (max_eq_left (not_lt.mp hlater)).symm
    rw [dayEntries, gapsFrom, List.filter_append, List.map_append, List.filter_cons_of_neg (by simp), ih, hcursor]
    congr 1
    by_cases hopen : dateParse cursor < dateParse segment.window.start
    · simp [startsAt, RejectedDayEntry.between, unresolvedEntry, hopen]
    · simp [startsAt, hopen]

theorem mem_matchingSegments {left right : RecoveryPlanResponse} : segment ∈ matchingSegments left right ↔
    segment ∈ left.coverageSegments ∧
      ∃ candidate ∈ right.coverageSegments, SegmentsMateriallyMatch segment candidate := by
  rw [matchingSegments, List.mem_insertionSort, List.mem_filter, decide_eq_true_eq]

/-- The day begins with the earliest segment. -/
theorem isLeast_coverageStart (h : segment ∈ segments) :
    IsLeast {t | ∃ s ∈ segments, startsAt s = t} (dateParse (coverageStart segments segment)) := by
  obtain ⟨-, hall, hone⟩ :=
    foldl_best dateParse (fun s : CoverageSegment => s.window.start) segments segment.window.start
  constructor
  · rcases hone with hfirst | ⟨s, hs, hlast⟩
    · exact ⟨segment, h, congrArg dateParse hfirst.symm⟩
    · exact ⟨s, hs, congrArg dateParse hlast.symm⟩
  · rintro _ ⟨s, hs, rfl⟩
    exact hall s hs

/-- It ends with the latest. -/
theorem isGreatest_coverageEnd (h : segment ∈ segments) :
    IsGreatest {t | ∃ s ∈ segments, endsAt s = t} (dateParse (coverageEnd segments segment)) := by
  obtain ⟨-, hall, hone⟩ := foldl_best (fun t => OrderDual.toDual (dateParse t))
    (fun s : CoverageSegment => s.window.end_) segments segment.window.end_
  constructor
  · rcases hone with hfirst | ⟨s, hs, hlast⟩
    · exact ⟨segment, h, congrArg dateParse hfirst.symm⟩
    · exact ⟨s, hs, congrArg dateParse hlast.symm⟩
  · rintro _ ⟨s, hs, rfl⟩
    exact hall s hs

/-- The segments that are shown as covered. -/
def RejectedDay.covered (day : RejectedDay) : List CoverageSegment := day.entries.filterMap (·.segment)

/-- The milliseconds between which the unresolved parts lie. -/
def RejectedDay.gaps (day : RejectedDay) : List (ℤ × ℤ) := day.unresolved.map (·.between)

/-- The unresolved parts are, in the order of time, the gaps that the segments shown as covered leave of the day from
its first start to its last end; they have what of the day no such segment covers. -/
structure ShowsGaps (prior : RecoveryPlan) (day : RejectedDay) : Prop where
  in_order : day.gaps.Pairwise fun g g' => g.2 ≤ g'.1
  mem_gaps : ∃ first last,
    IsLeast {t | ∃ s ∈ (planResponse prior).coverageSegments, startsAt s = t} first ∧
      IsGreatest {t | ∃ s ∈ (planResponse prior).coverageSegments, endsAt s = t} last ∧
        (∀ gap, gap ∈ day.gaps ↔ IsGap startsAt endsAt day.covered first last gap) ∧
          ∀ t, (∃ gap ∈ day.gaps, gap.1 ≤ t ∧ t < gap.2) ↔
            (first ≤ t ∧ t < last) ∧ ∀ s ∈ day.covered, ¬ (startsAt s ≤ t ∧ t < endsAt s)

/-- The day shows every preserved segment as covered, none of its time as unresolved, and the gaps as they are. -/
structure AgreesWithRepair (prior : RecoveryPlan) (preserved : List RecoveryPlanSegment) (day : RejectedDay) :
    Prop where
  covered : ∀ s ∈ preserved, coveredEntry (coverageSegmentResponse s) ∈ day.entries
  showsGaps : ShowsGaps prior day
  not_unresolved : ∀ s ∈ preserved, ∀ gap ∈ day.gaps, ∀ t,
    ¬ ((startsAt (coverageSegmentResponse s) ≤ t ∧ t < endsAt (coverageSegmentResponse s)) ∧ gap.1 ≤ t ∧ t < gap.2)

/-- The sweep goes over the matching segments, from the first start of the plan before to its last end. -/
theorem sweepable_matchingSegments {prior proposed : RecoveryPlanResponse} {first : CoverageSegment}
    (h : first ∈ prior.coverageSegments) :
    Sweepable startsAt endsAt (dateParse (coverageEnd prior.coverageSegments first))
      (matchingSegments prior proposed) where
  sorted := by
    have : IsTrans CoverageSegment fun s t => startsAt s ≤ startsAt t := ⟨fun _ _ _ => le_trans⟩
    have : Std.Total fun s t : CoverageSegment => startsAt s ≤ startsAt t := ⟨fun _ _ => le_total ..⟩
    exact List.pairwise_insertionSort (fun s t : CoverageSegment => startsAt s ≤ startsAt t) _
  start_le_finish s _ := dateParse_mono s.window.start_lt_end.le
  finish_le s hs := (isGreatest_coverageEnd h).2 ⟨s, (mem_matchingSegments.mp hs).1, rfl⟩

theorem gaps_remainingDay {prior proposed : RecoveryPlanResponse} {first : CoverageSegment} :
    (remainingDay prior proposed first).gaps =
      gapsFrom startsAt endsAt (dateParse (coverageEnd prior.coverageSegments first))
        (dateParse (coverageStart prior.coverageSegments first)) (matchingSegments prior proposed) :=
  unresolved_dayEntries

theorem covered_remainingDay {prior proposed : RecoveryPlanResponse} {first : CoverageSegment} :
    (remainingDay prior proposed first).covered = matchingSegments prior proposed :=
  filterMap_segment_dayEntries

/-- **The unresolved parts are the gaps**, whatever segments the two plans have in common. -/
theorem showsGaps_remainingDay {first : CoverageSegment} (h : first ∈ (planResponse prior).coverageSegments) :
    ShowsGaps prior (remainingDay (planResponse prior) (planResponse proposed) first) where
  in_order := by
    rw [gaps_remainingDay]
    exact pairwise_gapsFrom (sweepable_matchingSegments h)
  mem_gaps := by
    refine ⟨_, _, isLeast_coverageStart h, isGreatest_coverageEnd h, ?_⟩
    rw [gaps_remainingDay, covered_remainingDay]
    exact ⟨fun gap => mem_gapsFrom (sweepable_matchingSegments h),
      fun t => exists_mem_gapsFrom_iff (sweepable_matchingSegments h)⟩

/-- After a rejection, what is left of the plan before is shown. -/
theorem exists_rejectedDay (hrejected : recoveryCase.approvalHistory.getLast?.map (·.status) = some .rejected)
    (hprior : recoveryCase.previousPlans.getLast? = some prior)
    (hproposed : recoveryCase.activeRecoveryPlan = some proposed) (hsegments : prior.coverageSegments ≠ []) :
    ∃ first ∈ (planResponse prior).coverageSegments, rejectedDay (some (reviewedCaseResponse recoveryCase)) =
      some (remainingDay (planResponse prior) (planResponse proposed) first) := by
  obtain ⟨first, rest, hfirst⟩ := List.exists_cons_of_ne_nil hsegments
  have hlist : (planResponse prior).coverageSegments =
      coverageSegmentResponse first :: rest.map coverageSegmentResponse := by
    rw [planResponse, hfirst, List.map_cons]
  have hshown : Rejected (some (reviewedCaseResponse recoveryCase)) := by
    rw [Rejected, Option.bind_some, reviewedCaseResponse, List.getLast?_map, Option.map_map]
    exact hrejected
  have hlast : (reviewedCaseResponse recoveryCase).previousPlans.getLast? = some (planResponse prior) := by
    rw [reviewedCaseResponse, List.getLast?_map, hprior, Option.map_some]
  have hactive : (reviewedCaseResponse recoveryCase).activePlan = some (planResponse proposed) := by
    rw [reviewedCaseResponse, hproposed, Option.map_some]
  refine ⟨coverageSegmentResponse first, hlist ▸ List.mem_cons_self, ?_⟩
  rw [rejectedDay, Option.bind_some, Option.bind_some, hlast, hactive]
  dsimp only
  split
  next hnil => rw [hlist] at hnil; cases hnil
  next first' _ hcons =>
    rw [hlist] at hcons
    rw [if_neg (not_not.mpr hshown), (List.cons.inj hcons).1]

/-- **When the page agrees with the validator.** After the rejection of a plan, the page shows the gaps as they are;
and it shows every preserved segment as covered, and none of their time as unresolved, exactly if each has a match in
the rejected plan. -/
theorem rejectedDay_agrees_iff (hrejected : recoveryCase.approvalHistory.getLast?.map (·.status) = some .rejected)
    (hprior : recoveryCase.previousPlans.getLast? = some prior)
    (hproposed : recoveryCase.activeRecoveryPlan = some proposed) (hsegments : prior.coverageSegments ≠ [])
    (hpreserved : preserved ⊆ prior.coverageSegments) :
    (∃ day, rejectedDay (some (reviewedCaseResponse recoveryCase)) = some day ∧ AgreesWithRepair prior preserved day) ↔
      ∀ s ∈ preserved, ∃ candidate ∈ proposed.coverageSegments,
        SegmentsMateriallyMatch (coverageSegmentResponse s) (coverageSegmentResponse candidate) := by
  obtain ⟨first, hfirst, hday⟩ := exists_rejectedDay hrejected hprior hproposed hsegments
  have hmatches : ∀ s ∈ preserved, (coverageSegmentResponse s ∈
      matchingSegments (planResponse prior) (planResponse proposed) ↔ ∃ candidate ∈ proposed.coverageSegments,
        SegmentsMateriallyMatch (coverageSegmentResponse s) (coverageSegmentResponse candidate)) := by
    intro s hs
    rw [mem_matchingSegments, planResponse, planResponse]
    simp only [List.mem_map (l := proposed.coverageSegments), exists_exists_and_eq_and]
    exact and_iff_right (List.mem_map_of_mem (hpreserved hs))
  rw [hday]
  constructor
  · rintro ⟨_, ⟨⟩, hagrees⟩ s hs
    exact (hmatches s hs).mp (coveredEntry_mem_dayEntries.mp (hagrees.covered s hs))
  · intro h
    have hshows : ShowsGaps prior (remainingDay (planResponse prior) (planResponse proposed) first) :=
      showsGaps_remainingDay hfirst
    refine ⟨_, rfl, fun s hs => coveredEntry_mem_dayEntries.mpr ((hmatches s hs).mpr (h s hs)), hshows,
      fun s hs gap hgap t hboth => ?_⟩
    obtain ⟨_, _, -, -, -, hpoints⟩ := hshows.mem_gaps
    have hcovered : coverageSegmentResponse s ∈
        (remainingDay (planResponse prior) (planResponse proposed) first).covered := by
      rw [covered_remainingDay]
      exact (hmatches s hs).mpr (h s hs)
    exact ((hpoints t).mp ⟨gap, hgap, hboth.2⟩).2 _ hcovered hboth.1

/-- A segment that retains preserved work in its very window matches it. -/
theorem match_of_survives {segment candidate : RecoveryPlanSegment} (h : PreservedWorkSurvives segment candidate)
    (hwindow : candidate.window = segment.window) :
    SegmentsMateriallyMatch (coverageSegmentResponse segment) (coverageSegmentResponse candidate) := by
  obtain ⟨-, hperson, hsource, htype, hlocation, hdestination, htransporter⟩ := h
  refine ⟨congrArg (dateParse ·.start) hwindow.symm, congrArg (dateParse ·.end_) hwindow.symm, hperson.symm,
    hsource.symm, htype.symm, congrArg some hlocation.symm, ?_⟩
  by_cases htrip : segment.segmentType = .transport
  · -- a trip has a destination, so that its label does not count
    obtain ⟨destination, hsome⟩ := Option.isSome_iff_exists.mp (segment.transport_has_destination_and_driver htrip).1
    simp [CoverageSegment.destination, CoverageSegment.transporter, coverageSegmentResponse, hdestination, htransporter,
      hperson, hsome]
  · exact Or.inl htrip

/-! ### A plan that lets a sitter stay -/

/-- A sitter who is paid. -/
def paidKim : Caregiver :=
  { sitter "kim" [minutes 0 120] with hourlyRate := some 20, has_at_most_one_price_type := Or.inr rfl }

/-- A day on which the other sitter has declined the second hour. -/
def declinedDay : DemoScenario :=
  { day (minutes 0 120) [paidKim, sitter "lee" [minutes 0 60]] with policy := { automaticSpendLimit := 30 } }

/-- The first hour of the plan before. -/
def earlyHour : RecoveryPlanSegment := care "early" "kim" .caregiver (minutes 0 60)

/-- The plan before. -/
def sharedPlan : RecoveryPlan :=
  { planId := "plan-1", coverageSegments := [earlyHour, care "late" "lee" .caregiver (minutes 60 120)] }

/-- The first sitter does the second hour as well. -/
def addedPlan : RecoveryPlan :=
  { planId := "plan-2", coverageSegments := [earlyHour, care "added" "kim" .caregiver (minutes 60 120)] }

/-- The same, in one segment. -/
def longerPlan : RecoveryPlan :=
  { planId := "plan-2", coverageSegments := [care "longer" "kim" .caregiver (minutes 0 120)] }

/-- The request to approve a plan. -/
def paidRequest (plan : RecoveryPlan) : ApprovalRequest :=
  approvalRequest (activeCase "case-1" "The nanny is unavailable today." sharedPlan (minutes 0 120) 0) "plan-2"
    (validateRepair plan declinedDay [earlyHour]) declinedDay.policy "approval-1" 0

/-- The case after the user has rejected a plan. -/
def rejectedCase (plan : RecoveryPlan) : RecoveryCase :=
  decidedCase
    (requestedCase
      { activeCase "case-1" "The nanny is unavailable today." sharedPlan (minutes 0 120) 0 with
        previousPlans := [sharedPlan] }
      (validateRepair plan declinedDay [earlyHour]).validatedPlan (paidRequest plan) 0)
    (paidRequest plan) .reject 0 none

/-- Where the first hour is kept as it is, it is shown as covered. -/
theorem rejectedDay_agrees_iff_addedPlan :
    (validateRepair addedPlan declinedDay [earlyHour]).valid = true ∧
      ∃ day, rejectedDay (some (reviewedCaseResponse (rejectedCase addedPlan))) = some day ∧
        AgreesWithRepair sharedPlan [earlyHour] day := by
  refine ⟨by decide +kernel, (rejectedDay_agrees_iff (by decide +kernel) rfl rfl (List.cons_ne_nil _ _) ?_).mpr ?_⟩
  · exact List.cons_subset.mpr ⟨List.mem_cons_self, List.nil_subset _⟩
  · decide +kernel

/-- **Preserved work is shown as open** where the rejected plan lets the sitter stay: the validator accepts the longer
segment, the page takes it for another one. -/
theorem earlyHour_unresolved :
    (validateRepair longerPlan declinedDay [earlyHour]).valid = true ∧
      (validateRepair longerPlan declinedDay [earlyHour]).requiresApproval = true ∧
      earlyHour ∈ sharedPlan.coverageSegments ∧
      (rejectedDay (some (reviewedCaseResponse (rejectedCase longerPlan)))).map (·.entries) =
        some [unresolvedEntry (minutes 0 120).start (minutes 0 120).end_] ∧
      ¬ ∃ day, rejectedDay (some (reviewedCaseResponse (rejectedCase longerPlan))) = some day ∧
        AgreesWithRepair sharedPlan [earlyHour] day := by
  have hentries : (rejectedDay (some (reviewedCaseResponse (rejectedCase longerPlan)))).map (·.entries) =
      some [unresolvedEntry (minutes 0 120).start (minutes 0 120).end_] := by decide +kernel
  refine ⟨by decide +kernel, by decide +kernel, List.mem_cons_self, hentries, ?_⟩
  rintro ⟨day, hday, hagrees⟩
  rw [hday, Option.map_some, Option.some_inj] at hentries
  have hcovered := hagrees.covered earlyHour (List.mem_singleton_self _)
  rw [hentries, List.mem_singleton] at hcovered
  exact absurd (congrArg RejectedDayEntry.kind hcovered) (by decide)

end DayMend.Frontend
