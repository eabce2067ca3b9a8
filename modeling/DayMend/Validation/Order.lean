import DayMend.Base.Sorting
import DayMend.Validation.Costs
import DayMend.Validation.Spec

/-!
# The order in which a plan lists its segments

The validator sorts the segments by their windows, so their order in the plan counts
only among segments with the same window: it makes no difference to the total and to
the reasons for approval (`totalAndReasons_of_perm`), and it may make one to the verdict,
since whoever comes second has to overlap by the buffer that he or she needs
(`validate_perm`).
-/

namespace DayMend.Validation

open DayMend.Base DayMend.Models DayMend.Fixtures DayMend.Services

variable {plan reordered : RecoveryPlan} {scenario : DemoScenario} {segments segments' : List RecoveryPlanSegment}
  {s t : RecoveryPlanSegment}

/-! ### What does not depend on the order -/

/-- The total and the reasons for approval do not depend on the order of the segments. -/
theorem totalAndReasons_of_perm (h : reordered.coverageSegments.Perm plan.coverageSegments) (scenario : DemoScenario) :
    (validate reordered scenario).deterministicTotalCost = (validate plan scenario).deterministicTotalCost ∧
      (validate reordered scenario).requiresApproval = (validate plan scenario).requiresApproval ∧
      (validate reordered scenario).validatedPlan.approvalReasons =
        (validate plan scenario).validatedPlan.approvalReasons := by
  have hsorted : (sortedSegments reordered.coverageSegments).Perm (sortedSegments plan.coverageSegments) :=
    ((sortedSegments_perm _).trans h).trans (sortedSegments_perm _).symm
  have hcosts : ∀ p : RecoveryPlan,
      (recomputeCosts (sortedSegments p.coverageSegments) (caregiverDict scenario.caregivers)).2 =
        Decimal.quantize (totalCost scenario.caregivers (sortedSegments p.coverageSegments)) :=
    fun p => congrArg Decimal.quantize (sum_priceSegments_nil _)
  have htotal : (recomputeCosts (sortedSegments reordered.coverageSegments) (caregiverDict scenario.caregivers)).2 =
      (recomputeCosts (sortedSegments plan.coverageSegments) (caregiverDict scenario.caregivers)).2 := by
    rw [hcosts, hcosts, totalCost_eq_of_perm hsorted]
  have huses : usesUnfamiliarPaidCaregiver
        (recomputeCosts (sortedSegments reordered.coverageSegments) (caregiverDict scenario.caregivers)).1
        (caregiverDict scenario.caregivers) =
      usesUnfamiliarPaidCaregiver
        (recomputeCosts (sortedSegments plan.coverageSegments) (caregiverDict scenario.caregivers)).1
        (caregiverDict scenario.caregivers) := by
    simp only [recomputeCosts]
    rw [usesUnfamiliarPaidCaregiver_priceSegments, usesUnfamiliarPaidCaregiver_priceSegments, hsorted.any_eq]
  refine ⟨htotal, ?_, ?_⟩
  · simp only [validate, approvalFindings, htotal, huses]
  · simp only [validate, approvalFindings, htotal, huses]

/-- The windows come in the same order, whoever has them. -/
theorem map_window_sortedSegments (h : segments.Perm segments') :
    (sortedSegments segments).map (·.window) = (sortedSegments segments').map (·.window) := by
  have hwindows : ∀ segments : List RecoveryPlanSegment,
      (sortedSegments segments).map (·.window) = (segments.map (·.window)).insertionSort Span.LexLe :=
    fun segments => List.map_insertionSort _ _ _ segments fun _ _ _ _ => Iff.rfl
  rw [hwindows, hwindows, Span.insertionSort_lexLe_eq_of_perm (h.map _)]

/-! ### What depends on it -/

/-- Neighbours hand over to each other, and the child is where the next begins. -/
def HandoversInOrder (plan : RecoveryPlan) (scenario : DemoScenario) : Prop :=
  (sortedSegments plan.coverageSegments).IsChain (HandoffOk scenario) ∧
    (sortedSegments plan.coverageSegments).IsChain TransitionOk

/-- Where lists have the same images, so have their first elements, -/
theorem map_head_eq {ι α : Type} {f : ι → α} {l l' : List ι} (h : l.map f = l'.map f) (hl : l ≠ []) (hl' : l' ≠ []) :
    f (l.head hl) = f (l'.head hl') := by
  have hhead := congrArg List.head? h
  rwa [List.head?_map, List.head?_map, List.head?_eq_some_head hl, List.head?_eq_some_head hl', Option.map_some,
    Option.map_some, Option.some.injEq] at hhead

/-- and their last. -/
theorem map_getLast_eq {ι α : Type} {f : ι → α} {l l' : List ι} (h : l.map f = l'.map f) (hl : l ≠ []) (hl' : l' ≠ []) :
    f (l.getLast hl) = f (l'.getLast hl') := by
  have hlast := congrArg List.getLast? h
  rwa [List.getLast?_map, List.getLast?_map, List.getLast?_eq_some_getLast hl, List.getLast?_eq_some_getLast hl',
    Option.map_some, Option.map_some, Option.some.injEq] at hlast

/-- Of an accepted plan everything but the handovers is accepted in any order. -/
theorem Accepted.reorder (h : Accepted plan scenario) (hperm : reordered.coverageSegments.Perm plan.coverageSegments)
    (hchanges : reordered.calendarChanges = plan.calendarChanges) :
    Accepted reordered scenario ↔ HandoversInOrder reordered scenario := by
  constructor
  · intro hreordered
    exact ⟨hreordered.handoffs, hreordered.transitions⟩
  · rintro ⟨hhandoffs, htransitions⟩
    have hwindows := map_window_sortedSegments hperm
    have hne : sortedSegments reordered.coverageSegments ≠ [] := by
      intro hnil
      rw [hnil, List.map_nil] at hwindows
      exact h.ne_nil (List.map_eq_nil_iff.mp hwindows.symm)
    have hhead : ((sortedSegments reordered.coverageSegments).head hne).window =
        ((sortedSegments plan.coverageSegments).head h.ne_nil).window := map_head_eq hwindows hne h.ne_nil
    have hlast : ((sortedSegments reordered.coverageSegments).getLast hne).window =
        ((sortedSegments plan.coverageSegments).getLast h.ne_nil).window := map_getLast_eq hwindows hne h.ne_nil
    exact {
      unique_ids := (hperm.map _).nodup_iff.mpr h.unique_ids
      ne_nil := hne
      starts := hhead ▸ h.starts
      ends := hlast ▸ h.ends
      inside := fun s hs => h.inside s (hperm.mem_iff.mp hs)
      handoffs := hhandoffs
      assignments := fun s hs => h.assignments s (hperm.mem_iff.mp hs)
      locations := fun s hs => h.locations s (hperm.mem_iff.mp hs)
      transitions := htransitions
      changes := by
        rw [hchanges]
        exact h.changes
      parent_events := by
        rw [hchanges]
        exact fun s hs => h.parent_events s (hperm.mem_iff.mp hs) }

/-- Two segments with the same window for different people, who hand over exactly as the second needs it. -/
structure Tied (scenario : DemoScenario) (s t : RecoveryPlanSegment) : Prop where
  window : s.window = t.window
  person : s.assignedPersonId ≠ t.assignedPersonId
  buffer : wholeMinutes (t.window.end_ - t.window.start) =
    requiredBuffer scenario (caregiverDict scenario.caregivers) t

/-- Neighbours that hand over in order and have the same window are tied. -/
theorem HandoffOk.tied (h : HandoffOk scenario s t) (hwindow : s.window = t.window) : Tied scenario s t := by
  have hlt := t.window.start_lt_end
  have hperson : s.assignedPersonId ≠ t.assignedPersonId := by
    intro hsame
    have hstart := h.same_person hsame
    rw [hwindow] at hstart
    omega
  refine ⟨hwindow, hperson, ?_⟩
  have hbuffer := h.buffer hperson
  have hlength : -(t.window.start - s.window.end_) = t.window.end_ - t.window.start := by
    rw [hwindow]
    omega
  rw [actualOverlap, hlength, max_eq_right] at hbuffer
  · exact hbuffer
  · exact Int.ediv_nonneg (by omega) (by decide)

/-- Without ties, no two segments of an accepted plan have the same window. -/
theorem Accepted.nodup_windows (h : Accepted plan scenario)
    (hties : ¬ ∃ s ∈ plan.coverageSegments, ∃ t ∈ plan.coverageSegments, Tied scenario s t) :
    ((sortedSegments plan.coverageSegments).map (·.window)).Nodup := by
  let Before (v w : CoverageWindow) : Prop := v.LexLe w ∧ v ≠ w
  have : IsTrans CoverageWindow Before := by
    refine ⟨fun u v w huv hvw => ⟨huv.1.trans hvw.1, ?_⟩⟩
    rintro rfl
    exact huv.2 (huv.1.antisymm hvw.1)
  have hchain : ((sortedSegments plan.coverageSegments).map (·.window)).IsChain Before := by
    rw [List.isChain_map, List.isChain_iff_forall_rel_of_append_cons_cons]
    intro s t before after hsplit
    refine ⟨?_, fun hwindow => hties ⟨s, ?_, t, ?_, ?_⟩⟩
    · have hsorted := (pairwise_sortedSegments plan.coverageSegments).isChain
      exact List.isChain_iff_forall_rel_of_append_cons_cons.mp hsorted hsplit
    · exact mem_sortedSegments.mp (by simp [hsplit])
    · exact mem_sortedSegments.mp (by simp [hsplit])
    · exact (List.isChain_iff_forall_rel_of_append_cons_cons.mp h.handoffs hsplit).tied hwindow
  exact (List.isChain_iff_pairwise.mp hchain).imp And.right

/-- Then the plan's segments come in one order only. -/
theorem Accepted.sortedSegments_eq (h : Accepted plan scenario) (hperm : segments.Perm plan.coverageSegments)
    (hties : ¬ ∃ s ∈ plan.coverageSegments, ∃ t ∈ plan.coverageSegments, Tied scenario s t) :
    sortedSegments segments = sortedSegments plan.coverageSegments := by
  have hnodup := h.nodup_windows hties
  apply List.Perm.eq_of_pairwise _ (pairwise_sortedSegments _) (pairwise_sortedSegments _)
  · exact ((sortedSegments_perm _).trans hperm).trans (sortedSegments_perm _).symm
  · intro s t hs ht hst hts
    have hs : s ∈ sortedSegments plan.coverageSegments :=
      mem_sortedSegments.mpr (hperm.mem_iff.mp (mem_sortedSegments.mp hs))
    exact List.inj_on_of_nodup_map hnodup hs ht (hst.antisymm hts)

/-- The same segments in the same order once sorted, and the same changes: the same issues. -/
theorem validationIssues_of_sortedSegments_eq
    (h : sortedSegments reordered.coverageSegments = sortedSegments plan.coverageSegments)
    (hchanges : reordered.calendarChanges = plan.calendarChanges) :
    validationIssues reordered scenario = validationIssues plan scenario := by
  simp only [validationIssues, h, hchanges]

theorem valid_eq_of_issues_eq (h : validationIssues reordered scenario = validationIssues plan scenario) :
    (validate reordered scenario).valid = (validate plan scenario).valid := by
  rw [Bool.eq_iff_iff, valid_iff, valid_iff, h]

/-- Segments with the same window are listed in the same order. -/
theorem sortedSegments_eq_of_filter_eq
    (h : ∀ window, segments.filter (·.window = window) = segments'.filter (·.window = window)) :
    sortedSegments segments = sortedSegments segments' := by
  apply eq_of_sorted_of_filter_eq (r := Span.LexLe) (f := RecoveryPlanSegment.window)
  · exact fun _ _ hv hw => hv.antisymm hw
  · exact pairwise_sortedSegments _
  · exact pairwise_sortedSegments _
  · intro window
    have hrefl : ∀ w : CoverageWindow, w.LexLe w := fun w => (Span.lexLe_total w w).elim id id
    rw [sortedSegments, filter_insertionSort hrefl, sortedSegments, filter_insertionSort hrefl]
    exact h window

/-- **What the order of the segments can do.** It never changes the total, nor the need and the reasons for approval.
It changes nothing about what is found wrong while segments with the same window stay in their order. It can change
the verdict only where two segments of different people have the same window, which lasts exactly as long as one of
them needs to take over; and another order of a valid plan is valid exactly when the handovers are in order in it. -/
theorem validate_perm (scenario : DemoScenario) (plan : RecoveryPlan) (segments : List RecoveryPlanSegment)
    (h : segments.Perm plan.coverageSegments) :
    let reordered := { plan with coverageSegments := segments }
    ((validate reordered scenario).deterministicTotalCost = (validate plan scenario).deterministicTotalCost ∧
      (validate reordered scenario).requiresApproval = (validate plan scenario).requiresApproval ∧
      (validate reordered scenario).validatedPlan.approvalReasons =
        (validate plan scenario).validatedPlan.approvalReasons) ∧
    ((∀ window, segments.filter (·.window = window) = plan.coverageSegments.filter (·.window = window)) →
      (validate reordered scenario).valid = (validate plan scenario).valid ∧
        (validate reordered scenario).issues = (validate plan scenario).issues) ∧
    ((validate reordered scenario).valid ≠ (validate plan scenario).valid →
      ∃ s ∈ plan.coverageSegments, ∃ t ∈ plan.coverageSegments, Tied scenario s t) ∧
    ((validate plan scenario).valid = true →
      ((validate reordered scenario).valid = true ↔ HandoversInOrder reordered scenario)) := by
  intro reordered
  refine ⟨totalAndReasons_of_perm h scenario, fun hfilter => ?_, fun hdiffer => ?_, fun hvalid => ?_⟩
  · have hissues : validationIssues reordered scenario = validationIssues plan scenario :=
      validationIssues_of_sortedSegments_eq (sortedSegments_eq_of_filter_eq hfilter) rfl
    exact ⟨valid_eq_of_issues_eq hissues, hissues⟩
  · -- one of the two plans is valid, and without ties both would come in the same order
    by_contra hties
    apply hdiffer
    cases hplan : (validate plan scenario).valid with
    | true =>
      have hissues : validationIssues reordered scenario = validationIssues plan scenario :=
        validationIssues_of_sortedSegments_eq ((accepted_of_valid hplan).sortedSegments_eq h hties) rfl
      rw [valid_eq_of_issues_eq hissues, hplan]
    | false =>
      by_contra hvalid
      have haccepted : Accepted reordered scenario := accepted_of_valid (by simpa using hvalid)
      have hties' : ¬ ∃ s ∈ segments, ∃ t ∈ segments, Tied scenario s t := by
        rintro ⟨s, hs, t, ht, htied⟩
        exact hties ⟨s, h.mem_iff.mp hs, t, h.mem_iff.mp ht, htied⟩
      have hissues : validationIssues plan scenario = validationIssues reordered scenario :=
        validationIssues_of_sortedSegments_eq (haccepted.sortedSegments_eq h.symm hties') rfl
      rw [valid_eq_of_issues_eq hissues] at hplan
      exact hvalid hplan
  · rw [accepted_iff_valid]
    exact (accepted_of_valid hvalid).reorder h rfl

/-- Ana can come at any time, and Ben needs ten minutes to take over. -/
def bufferDay : DemoScenario :=
  day (minutes 0 10) [sitter "ana" [minutes 0 10], { sitter "ben" [minutes 0 10] with handoffBufferMinutes := 10 }]

/-- Both look after the child for the ten minutes. -/
def anaAndBen : RecoveryPlan :=
  { planId := "both"
    coverageSegments := [care "first" "ana" .caregiver (minutes 0 10), care "second" "ben" .caregiver (minutes 0 10)] }

/-- The same two segments, listed the other way round: Ana now overlaps without need. -/
def benAndAna : RecoveryPlan := { anaAndBen with coverageSegments := anaAndBen.coverageSegments.reverse }

theorem validity_depends_on_order :
    ¬ ∀ (scenario : DemoScenario) (plan : RecoveryPlan) (segments : List RecoveryPlanSegment),
      segments.Perm plan.coverageSegments →
        (validate { plan with coverageSegments := segments } scenario).valid = (validate plan scenario).valid ∧
        (validate { plan with coverageSegments := segments } scenario).deterministicTotalCost =
          (validate plan scenario).deterministicTotalCost ∧
        (validate { plan with coverageSegments := segments } scenario).validatedPlan.approvalReasons =
          (validate plan scenario).validatedPlan.approvalReasons := by
  intro hall
  have hvalid : (validate anaAndBen bufferDay).valid = true := by decide +kernel
  have hinvalid : (validate benAndAna bufferDay).valid = false := by decide +kernel
  have hsame := (hall bufferDay anaAndBen anaAndBen.coverageSegments.reverse (List.reverse_perm _)).1
  exact absurd (hinvalid.symm.trans (hsame.trans hvalid)) (by decide)

theorem validate_perm_benAndAna :
    ((validate benAndAna bufferDay).deterministicTotalCost = (validate anaAndBen bufferDay).deterministicTotalCost ∧
      (validate benAndAna bufferDay).requiresApproval = (validate anaAndBen bufferDay).requiresApproval ∧
      (validate benAndAna bufferDay).validatedPlan.approvalReasons =
        (validate anaAndBen bufferDay).validatedPlan.approvalReasons) ∧
    ((∀ window, benAndAna.coverageSegments.filter (·.window = window) =
        anaAndBen.coverageSegments.filter (·.window = window)) →
      (validate benAndAna bufferDay).valid = (validate anaAndBen bufferDay).valid ∧
        (validate benAndAna bufferDay).issues = (validate anaAndBen bufferDay).issues) ∧
    ((validate benAndAna bufferDay).valid ≠ (validate anaAndBen bufferDay).valid →
      ∃ s ∈ anaAndBen.coverageSegments, ∃ t ∈ anaAndBen.coverageSegments, Tied bufferDay s t) ∧
    ((validate anaAndBen bufferDay).valid = true →
      ((validate benAndAna bufferDay).valid = true ↔ HandoversInOrder benAndAna bufferDay)) :=
  validate_perm bufferDay anaAndBen anaAndBen.coverageSegments.reverse (List.reverse_perm _)

end DayMend.Validation
