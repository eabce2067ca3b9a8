import DayMend.Services.PlanValidator

/-!
# What a plan costs

The recomputed total of a plan, independently of the order of its segments: care
by the hour, each segment rounded to cents, and each flat rate once. From it, what
it does to the total when a stretch of care is cut in two. The amounts pass through
floats and decimals of 28 digits, so the exact amount is known up to an error only.
-/

namespace DayMend.Validation

open DayMend.Base DayMend.Models DayMend.Fixtures DayMend.Services

/-- The hours of a window. -/
def hours (w : CoverageWindow) : ℚ := ((w.end_ - w.start : ℤ) : ℚ) / 1000000 / 3600

/-- What a window costs at an hourly rate, rounded to cents. -/
def hourlyCharge (rate : Decimal) (w : CoverageWindow) : ℚ := (Decimal.quantize (hourlyAmount rate w)).toRat

variable {caregivers : List Caregiver} {segment : RecoveryPlanSegment} {segments segments' : List RecoveryPlanSegment}

/-- The caregiver who is to be paid for a segment. -/
def payee (caregivers : List Caregiver) (segment : RecoveryPlanSegment) : Option Caregiver :=
  if segment.source = .caregiver then (caregiverDict caregivers).get? segment.assignedPersonId else none

/-- The hourly rate at which a segment is paid. -/
def rateOf (caregivers : List Caregiver) (segment : RecoveryPlanSegment) : Option Decimal :=
  (payee caregivers segment).bind fun c => if c.flatRate = none then c.hourlyRate else none

/-- What a segment costs by the hour. -/
def hourlyCost (caregivers : List Caregiver) (segment : RecoveryPlanSegment) : ℚ :=
  match rateOf caregivers segment with
  | some rate => hourlyCharge rate segment.window
  | none => 0

/-- The caregiver whose flat rate a segment asks for. -/
def flatPayee (caregivers : List Caregiver) (segment : RecoveryPlanSegment) : Option String :=
  (payee caregivers segment).bind fun c => if c.flatRate = none then none else some c.caregiverId

/-- A caregiver's flat rate, rounded to cents. -/
def flatFee (caregivers : List Caregiver) (caregiverId : String) : ℚ :=
  match ((caregiverDict caregivers).get? caregiverId).bind (·.flatRate) with
  | some rate => (Decimal.quantize rate.toRat).toRat
  | none => 0

/-- The caregivers whose flat rates a plan pays. -/
def flatPayees (caregivers : List Caregiver) (segments : List RecoveryPlanSegment) : Finset String :=
  (segments.filterMap (flatPayee caregivers)).toFinset

/-- A segment for which no flat rate is asked costs what it costs by the hour. -/
theorem segmentCost_of_no_flat (charged : List String) (h : flatPayee caregivers segment = none) :
    (Decimal.quantize (segmentCost (caregiverDict caregivers) charged segment).1).toRat =
        hourlyCost caregivers segment ∧
      (segmentCost (caregiverDict caregivers) charged segment).2 = charged := by
  unfold segmentCost hourlyCost rateOf
  unfold flatPayee at h
  cases hsource : segment.source with
  | parent => simp [payee, hsource]
  | caregiver =>
    cases hget : (caregiverDict caregivers).get? segment.assignedPersonId with
    | none => simp [payee, hsource, hget]
    | some c =>
      cases hflat : c.flatRate with
      | some rate => simp [payee, hsource, hget, hflat] at h
      | none =>
        cases hrate : c.hourlyRate with
        | none => simp [payee, hsource, hget, hflat, hrate]
        | some rate => simp [payee, hsource, hget, hflat, hrate, hourlyCharge]

/-- A flat rate is charged unless it has been charged before. -/
theorem segmentCost_of_flat (charged : List String) {id : String} (h : flatPayee caregivers segment = some id) :
    hourlyCost caregivers segment = 0 ∧
      (Decimal.quantize (segmentCost (caregiverDict caregivers) charged segment).1).toRat =
        (if id ∈ charged then 0 else flatFee caregivers id) ∧
      (segmentCost (caregiverDict caregivers) charged segment).2.toFinset = insert id charged.toFinset := by
  unfold segmentCost hourlyCost rateOf
  unfold flatPayee at h
  cases hsource : segment.source with
  | parent => simp [payee, hsource] at h
  | caregiver =>
    cases hget : (caregiverDict caregivers).get? segment.assignedPersonId with
    | none => simp [payee, hsource, hget] at h
    | some c =>
      cases hflat : c.flatRate with
      | none => simp [payee, hsource, hget, hflat] at h
      | some rate =>
        obtain ⟨-, hid⟩ := caregiverId_of_get? hget
        have hc : c.caregiverId = id := by simpa [payee, hsource, hget, hflat] using h
        subst hc
        by_cases hcharged : c.caregiverId ∈ charged
        · simp [payee, hsource, hget, hflat, hcharged]
        · have hnew : segment.assignedPersonId ∉ charged := hid ▸ hcharged
          simp [payee, hsource, hget, hflat, hnew, flatFee, hid]

/-- **The prices of the segments**: each by the hour, and each flat rate that has not been charged before. -/
theorem sum_priceSegments (segments : List RecoveryPlanSegment) : ∀ charged : List String,
    ((priceSegments (caregiverDict caregivers) charged segments).map (·.estimatedCost.toRat)).sum =
      (segments.map (hourlyCost caregivers)).sum +
        ∑ id ∈ flatPayees caregivers segments \ charged.toFinset, flatFee caregivers id := by
  induction segments with
  | nil => intro charged; simp [priceSegments, flatPayees]
  | cons segment rest ih =>
    intro charged
    simp only [priceSegments, List.map_cons, List.sum_cons]
    rw [ih]
    cases hpayee : flatPayee caregivers segment with
    | none =>
      obtain ⟨hcost, hcharged⟩ := segmentCost_of_no_flat charged hpayee
      have hpayees : flatPayees caregivers (segment :: rest) = flatPayees caregivers rest := by
        rw [flatPayees, List.filterMap_cons_none hpayee, flatPayees]
      rw [hcost, hcharged, hpayees]
      ring
    | some id =>
      obtain ⟨hhourly, hcost, hcharged⟩ := segmentCost_of_flat charged hpayee
      have hpayees : flatPayees caregivers (segment :: rest) = insert id (flatPayees caregivers rest) := by
        rw [flatPayees, List.filterMap_cons_some hpayee, List.toFinset_cons, flatPayees]
      rw [hhourly, hcost, hcharged, hpayees]
      by_cases hid : id ∈ charged
      · have hcover : insert id charged.toFinset = charged.toFinset :=
          Finset.insert_eq_of_mem (List.mem_toFinset.mpr hid)
        rw [if_pos hid, hcover, Finset.insert_sdiff_of_mem _ (List.mem_toFinset.mpr hid)]
        ring
      · have hnew : id ∉ charged.toFinset := fun h => hid (List.mem_toFinset.mp h)
        have hsplit : insert id (flatPayees caregivers rest) \ charged.toFinset =
            insert id (flatPayees caregivers rest \ insert id charged.toFinset) := by
          ext other
          by_cases hother : other = id
          · simp [hother, hid]
          · simp [hother]
        rw [if_neg hid, hsplit, Finset.sum_insert (by simp)]
        ring

theorem scale_priceSegments (segments : List RecoveryPlanSegment) : ∀ charged : List String,
    ∀ t ∈ priceSegments (caregiverDict caregivers) charged segments, t.estimatedCost.scale = 2 := by
  induction segments with
  | nil => intro charged t ht; cases ht
  | cons segment rest ih =>
    intro charged t ht
    simp only [priceSegments] at ht
    rcases List.mem_cons.mp ht with rfl | ht
    · rfl
    · exact ih _ t ht

/-- What the segments of a plan cost together. -/
def totalCost (caregivers : List Caregiver) (segments : List RecoveryPlanSegment) : ℚ :=
  (segments.map (hourlyCost caregivers)).sum + ∑ id ∈ flatPayees caregivers segments, flatFee caregivers id

/-- The order of the segments does not matter. -/
theorem totalCost_eq_of_perm (h : segments.Perm segments') :
    totalCost caregivers segments = totalCost caregivers segments' := by
  have hpayees : flatPayees caregivers segments = flatPayees caregivers segments' := by
    apply List.toFinset_eq_of_perm
    exact h.filterMap _
  rw [totalCost, totalCost, (h.map _).sum_eq, hpayees]

/-- The prices of all segments. -/
theorem sum_priceSegments_nil (segments : List RecoveryPlanSegment) :
    ((priceSegments (caregiverDict caregivers) [] segments).map (·.estimatedCost.toRat)).sum =
      totalCost caregivers segments := by
  rw [sum_priceSegments, List.toFinset_nil, Finset.sdiff_empty, totalCost]

/-- **The recomputed total.** -/
theorem toRat_deterministicTotalCost (plan : RecoveryPlan) (scenario : DemoScenario) :
    (validate plan scenario).deterministicTotalCost.toRat = totalCost scenario.caregivers plan.coverageSegments := by
  have hscale : ∀ d ∈ (priceSegments (caregiverDict scenario.caregivers) []
      (sortedSegments plan.coverageSegments)).map (·.estimatedCost), d.scale = 2 := by
    intro d hd
    obtain ⟨t, ht, rfl⟩ := List.mem_map.mp hd
    exact scale_priceSegments _ _ t ht
  have hrounded := Decimal.toRat_quantize_sum hscale
  rw [List.map_map] at hrounded
  rw [← totalCost_eq_of_perm (sortedSegments_perm plan.coverageSegments)]
  exact hrounded.trans (sum_priceSegments_nil _)

/-! ### Cutting a stretch of care in two -/

/-- The part of a segment before an instant. -/
def cutBefore (segment : RecoveryPlanSegment) (segmentId : String) (instant : ℤ) (h : segment.window.start < instant) :
    RecoveryPlanSegment :=
  { segment with segmentId, window := ⟨segment.window.start, instant, h⟩ }

/-- The part of a segment after an instant. -/
def cutAfter (segment : RecoveryPlanSegment) (segmentId : String) (instant : ℤ) (h : instant < segment.window.end_) :
    RecoveryPlanSegment :=
  { segment with segmentId, window := ⟨instant, segment.window.end_, h⟩ }

/-- By how much the charges for two parts exceed the charge for the whole. -/
def cutGap (caregivers : List Caregiver) (segment first second : RecoveryPlanSegment) : ℚ :=
  match rateOf caregivers segment with
  | some rate => hourlyCharge rate first.window + hourlyCharge rate second.window - hourlyCharge rate segment.window
  | none => 0

variable {before after : List RecoveryPlanSegment} {instant : ℤ} {firstId secondId : String}

/-- Both parts are paid as the whole is. -/
theorem hourlyCost_cut (hstart : segment.window.start < instant) (hend : instant < segment.window.end_) :
    hourlyCost caregivers (cutBefore segment firstId instant hstart) +
        hourlyCost caregivers (cutAfter segment secondId instant hend) =
      hourlyCost caregivers segment + cutGap caregivers segment (cutBefore segment firstId instant hstart)
        (cutAfter segment secondId instant hend) := by
  have hfirst : rateOf caregivers (cutBefore segment firstId instant hstart) = rateOf caregivers segment := rfl
  have hsecond : rateOf caregivers (cutAfter segment secondId instant hend) = rateOf caregivers segment := rfl
  rw [hourlyCost, hourlyCost, hourlyCost, hfirst, hsecond, cutGap]
  cases rateOf caregivers segment with
  | none => simp
  | some rate => ring

/-- The same flat rates are paid. -/
theorem flatPayees_cut (hstart : segment.window.start < instant) (hend : instant < segment.window.end_) :
    flatPayees caregivers (before ++ cutBefore segment firstId instant hstart ::
        cutAfter segment secondId instant hend :: after) = flatPayees caregivers (before ++ segment :: after) := by
  have hfirst : flatPayee caregivers (cutBefore segment firstId instant hstart) = flatPayee caregivers segment := rfl
  have hsecond : flatPayee caregivers (cutAfter segment secondId instant hend) = flatPayee caregivers segment := rfl
  ext id
  simp only [flatPayees, List.filterMap_append, List.filterMap_cons, hfirst, hsecond]
  cases flatPayee caregivers segment <;> simp

/-- **What a cut does to the total.** -/
theorem totalCost_cut (hstart : segment.window.start < instant) (hend : instant < segment.window.end_) :
    totalCost caregivers (before ++ cutBefore segment firstId instant hstart ::
        cutAfter segment secondId instant hend :: after) =
      totalCost caregivers (before ++ segment :: after) +
        cutGap caregivers segment (cutBefore segment firstId instant hstart)
          (cutAfter segment secondId instant hend) := by
  have hcost : hourlyCost caregivers (cutBefore segment firstId instant hstart) +
      hourlyCost caregivers (cutAfter segment secondId instant hend) = _ := hourlyCost_cut hstart hend
  rw [totalCost, totalCost, flatPayees_cut]
  simp only [List.map_append, List.map_cons, List.sum_append, List.sum_cons]
  linarith

theorem hours_pos (w : CoverageWindow) : 0 < hours w := by
  have hpos : (0 : ℚ) < ((w.end_ - w.start : ℤ) : ℚ) := by
    have hlt := w.start_lt_end
    exact_mod_cast Int.sub_pos_of_lt hlt
  unfold hours
  positivity

theorem hours_cut (hstart : segment.window.start < instant) (hend : instant < segment.window.end_) :
    hours (cutBefore segment firstId instant hstart).window + hours (cutAfter segment secondId instant hend).window =
      hours segment.window := by
  simp only [hours, cutBefore, cutAfter]
  push_cast
  ring

/-- Nearly nine thousand years on each side of 1970, which is more than a `datetime` can hold. -/
def Datable (instant : ℤ) : Prop := |instant| ≤ 2 ^ 38 * 1000000

instance (instant : ℤ) : Decidable (Datable instant) := inferInstanceAs (Decidable (_ ≤ _))

/-- A timestamp is exact up to a few hundredths of a millisecond. -/
theorem abs_timestamp_sub_le (h : Datable instant) :
    |timestamp instant - instant / 1000000| ≤ 1 / 2 ^ 15 ∧ |(instant / 1000000 : ℚ)| ≤ 2 ^ 38 := by
  have hseconds : |(instant / 1000000 : ℚ)| ≤ 2 ^ 38 := by
    have hcast : |(instant : ℚ)| ≤ 2 ^ 38 * 1000000 := by exact_mod_cast h
    rw [abs_div, abs_of_pos (by norm_num : (0 : ℚ) < 1000000), div_le_iff₀ (by norm_num)]
    exact hcast
  have hround := abs_double_sub_le (instant / 1000000)
  rw [timestamp]
  refine ⟨?_, hseconds⟩
  norm_num at hround hseconds ⊢
  linarith

/-- The seconds that are charged are those that pass, up to a quarter of a millisecond. -/
theorem abs_elapsed_sub_le {w : CoverageWindow} (hstart : Datable w.start) (hend : Datable w.end_) :
    |shortestDecimal (double (timestamp w.end_ - timestamp w.start)) - ((w.end_ - w.start : ℤ) : ℚ) / 1000000| ≤
        1 / 4000 ∧
      |((w.end_ - w.start : ℤ) : ℚ) / 1000000| ≤ 2 ^ 39 := by
  obtain ⟨hfrom, hfrom'⟩ := abs_timestamp_sub_le hstart
  obtain ⟨hto, hto'⟩ := abs_timestamp_sub_le hend
  have hdifference := abs_double_sub_le (timestamp w.end_ - timestamp w.start)
  have hprinted := abs_shortestDecimal_sub_le (double (timestamp w.end_ - timestamp w.start))
  have hseconds : ((w.end_ - w.start : ℤ) : ℚ) / 1000000 = w.end_ / 1000000 - w.start / 1000000 := by
    push_cast
    ring
  rw [hseconds]
  have hbound : |(w.end_ / 1000000 - w.start / 1000000 : ℚ)| ≤ 2 ^ 39 := by
    rw [abs_le] at hfrom' hto' ⊢
    constructor <;> linarith
  have hsubtracted : |timestamp w.end_ - timestamp w.start| ≤ 2 ^ 39 + 1 := by
    rw [abs_le] at hfrom hto hbound ⊢
    constructor <;> linarith
  have hrounded : |double (timestamp w.end_ - timestamp w.start)| ≤ 2 ^ 39 + 2 := by
    have := abs_sub_abs_le_abs_sub (double (timestamp w.end_ - timestamp w.start))
      (timestamp w.end_ - timestamp w.start)
    linarith
  refine ⟨?_, hbound⟩
  have hdifference' : |double (timestamp w.end_ - timestamp w.start) - (timestamp w.end_ - timestamp w.start)| ≤
      1 / 2 ^ 53 * (2 ^ 39 + 1) := hdifference.trans (by gcongr)
  have hprinted' : |shortestDecimal (double (timestamp w.end_ - timestamp w.start)) -
      double (timestamp w.end_ - timestamp w.start)| ≤ 1 / 2 ^ 52 * (2 ^ 39 + 2) := hprinted.trans (by gcongr)
  rw [abs_le] at hfrom hto hdifference' hprinted' ⊢
  norm_num at hfrom hto hdifference' hprinted' ⊢
  constructor <;> linarith

/-- **The amount for a window is near the exact one**: within a ten-millionth of the hourly rate. -/
theorem abs_hourlyAmount_sub_le (rate : Decimal) {w : CoverageWindow} (hstart : Datable w.start)
    (hend : Datable w.end_) : |hourlyAmount rate w - rate.toRat * hours w| ≤ rate.toRat / 10000000 := by
  obtain ⟨helapsed, hbound⟩ := abs_elapsed_sub_le hstart hend
  rw [hourlyAmount, hours]
  generalize shortestDecimal (double (timestamp w.end_ - timestamp w.start)) = elapsed at helapsed ⊢
  generalize ((w.end_ - w.start : ℤ) : ℚ) / 1000000 = seconds at helapsed hbound ⊢
  have hquotient := Decimal.abs_context_sub_le (elapsed / 3600)
  have hproduct := Decimal.abs_context_sub_le (rate.toRat * Decimal.context (elapsed / 3600))
  have hrate := rate.toRat_nonneg
  have hcharged : |elapsed / 3600| ≤ 2 ^ 28 := by
    rw [abs_le] at helapsed hbound ⊢
    constructor <;> linarith
  have hquotient' : |Decimal.context (elapsed / 3600) - elapsed / 3600| ≤ 1 / 10 ^ 27 * 2 ^ 28 :=
    hquotient.trans (by gcongr)
  have hhours : |Decimal.context (elapsed / 3600) - seconds / 3600| ≤ 9 / 10 ^ 8 := by
    rw [abs_le] at helapsed hquotient' ⊢
    norm_num at helapsed hquotient' ⊢
    constructor <;> linarith
  have hhours' : |Decimal.context (elapsed / 3600)| ≤ 2 ^ 29 := by
    rw [abs_le] at hcharged hquotient' ⊢
    norm_num at hcharged hquotient' ⊢
    constructor <;> linarith
  have hlast : |rate.toRat * Decimal.context (elapsed / 3600)| ≤ rate.toRat * 2 ^ 29 := by
    rw [abs_mul, abs_of_nonneg hrate]
    gcongr
  have hfirst : |rate.toRat * Decimal.context (elapsed / 3600) - rate.toRat * (seconds / 3600)| ≤
      rate.toRat * (9 / 10 ^ 8) := by
    rw [← mul_sub, abs_mul, abs_of_nonneg hrate]
    gcongr
  have htriangle := abs_sub_le (Decimal.context (rate.toRat * Decimal.context (elapsed / 3600)))
    (rate.toRat * Decimal.context (elapsed / 3600)) (rate.toRat * (seconds / 3600))
  norm_num at hproduct hlast hfirst ⊢
  linarith

/-- The charge for a window is half a cent from the exact amount at most, and the errors of the amount. -/
theorem abs_hourlyCharge_sub_le (rate : Decimal) {w : CoverageWindow} (hstart : Datable w.start)
    (hend : Datable w.end_) : |hourlyCharge rate w - rate.toRat * hours w| ≤ 1 / 200 + rate.toRat / 10000000 := by
  have hcharge : |hourlyCharge rate w - rate.toRat * hours w| ≤
      1 / 200 + |hourlyAmount rate w - rate.toRat * hours w| :=
    Decimal.abs_toRat_quantize_sub_le (mul_nonneg rate.toRat_nonneg (hours_pos w).le)
  linarith [abs_hourlyAmount_sub_le rate hstart hend]

/-- **A cut changes the charge by little**: by one cent at most up to a rate of ten thousand an hour. -/
theorem abs_cutGap_le (hstart : segment.window.start < instant) (hend : instant < segment.window.end_)
    (hfrom : Datable segment.window.start) (hto : Datable segment.window.end_) {rate : Decimal}
    (hrate : rateOf caregivers segment = some rate) :
    let gap := cutGap caregivers segment (cutBefore segment firstId instant hstart)
      (cutAfter segment secondId instant hend)
    |gap| ≤ 3 / 200 + 3 * rate.toRat / 10000000 ∧ (rate.toRat ≤ 10000 → |gap| ≤ 1 / 100) := by
  intro gap
  have hinstant : Datable instant := by
    rw [Datable, abs_le] at hfrom hto ⊢
    constructor <;> linarith
  have hfirst := abs_hourlyCharge_sub_le rate (w := (cutBefore segment firstId instant hstart).window) hfrom hinstant
  have hsecond := abs_hourlyCharge_sub_le rate (w := (cutAfter segment secondId instant hend).window) hinstant hto
  have hwhole := abs_hourlyCharge_sub_le rate hfrom hto
  have hsum : rate.toRat * hours segment.window =
      rate.toRat * hours (cutBefore segment firstId instant hstart).window +
        rate.toRat * hours (cutAfter segment secondId instant hend).window := by
    rw [← mul_add, hours_cut]
  have hgap : gap = hourlyCharge rate (cutBefore segment firstId instant hstart).window +
      hourlyCharge rate (cutAfter segment secondId instant hend).window - hourlyCharge rate segment.window := by
    simp only [gap, cutGap, hrate]
  have hlittle : |gap| ≤ 3 / 200 + 3 * rate.toRat / 10000000 := by
    rw [abs_le] at hfirst hsecond hwhole ⊢
    rw [hgap]
    constructor <;> linarith
  refine ⟨hlittle, fun hmoderate => ?_⟩
  have hlt : |gap| < 2 / 100 := by linarith
  rw [hgap] at hlt ⊢
  exact Decimal.abs_cents_le hlt

/-- Pricing changes nothing about who is asked to do what. -/
theorem usesUnfamiliarPaidCaregiver_priceSegments (segments : List RecoveryPlanSegment) : ∀ charged : List String,
    usesUnfamiliarPaidCaregiver (priceSegments (caregiverDict caregivers) charged segments) (caregiverDict caregivers) =
      segments.any fun s => (payee caregivers s).any unfamiliarPaid := by
  induction segments with
  | nil => intro charged; rfl
  | cons segment rest ih =>
    intro charged
    have htail := ih (segmentCost (caregiverDict caregivers) charged segment).2
    rw [usesUnfamiliarPaidCaregiver] at htail
    simp only [usesUnfamiliarPaidCaregiver, priceSegments, List.any_cons, htail]
    congr 1
    by_cases hsource : segment.source = .caregiver
    · simp [payee, hsource]
    · simp [payee, hsource]

/-- **When a plan needs approval**, by its total and by whom it asks. -/
theorem requiresApproval_eq_true_iff (plan : RecoveryPlan) (scenario : DemoScenario) :
    (validate plan scenario).requiresApproval = true ↔
      scenario.policy.automaticSpendLimit.toRat < totalCost scenario.caregivers plan.coverageSegments ∨
        scenario.policy.requireApprovalForUnfamiliarPaidCaregiver = true ∧
          ∃ s ∈ plan.coverageSegments, (payee scenario.caregivers s).any unfamiliarPaid = true := by
  have huses : usesUnfamiliarPaidCaregiver (validate plan scenario).validatedPlan.coverageSegments
      (caregiverDict scenario.caregivers) =
        (sortedSegments plan.coverageSegments).any fun s => (payee scenario.caregivers s).any unfamiliarPaid :=
    usesUnfamiliarPaidCaregiver_priceSegments _ []
  rw [← not_iff_not, Bool.not_eq_true, requiresApproval_eq_false_iff, huses, toRat_deterministicTotalCost, not_or,
    not_lt, List.any_eq_true]
  simp only [mem_sortedSegments]

/-- What a cut does to the plan's approval. -/
theorem requiresApproval_cut (plan : RecoveryPlan) (scenario : DemoScenario)
    (hstart : segment.window.start < instant) (hend : instant < segment.window.end_) :
    (validate { plan with
      coverageSegments := before ++ cutBefore segment firstId instant hstart ::
        cutAfter segment secondId instant hend :: after } scenario).requiresApproval = true ↔
      scenario.policy.automaticSpendLimit.toRat < totalCost scenario.caregivers (before ++ segment :: after) +
          cutGap scenario.caregivers segment (cutBefore segment firstId instant hstart)
            (cutAfter segment secondId instant hend) ∨
        scenario.policy.requireApprovalForUnfamiliarPaidCaregiver = true ∧
          ∃ s ∈ before ++ segment :: after, (payee scenario.caregivers s).any unfamiliarPaid = true := by
  have hfirst : payee scenario.caregivers (cutBefore segment firstId instant hstart) =
      payee scenario.caregivers segment := rfl
  have hsecond : payee scenario.caregivers (cutAfter segment secondId instant hend) =
      payee scenario.caregivers segment := rfl
  rw [requiresApproval_eq_true_iff, totalCost_cut]
  simp only [List.mem_append, List.mem_cons, or_and_right, exists_or, exists_eq_left, hfirst, hsecond,
    or_self_left]

/-- **Cutting care in two.** The total changes by what the charges for the parts and for the whole differ: not at all
for care that is not paid by the hour, one cent at most up to a rate of ten thousand an hour, and little beyond it.
Without a change the plan needs approval just as before, and otherwise it does unless the limit lies between the
totals. -/
theorem deterministicTotalCost_cut (scenario : DemoScenario) (plan : RecoveryPlan)
    (before after : List RecoveryPlanSegment) (segment : RecoveryPlanSegment) (instant : ℤ)
    (firstId secondId : String) (hstart : segment.window.start < instant) (hend : instant < segment.window.end_) :
    let first := cutBefore segment firstId instant hstart
    let second := cutAfter segment secondId instant hend
    let whole := validate { plan with coverageSegments := before ++ segment :: after } scenario
    let cut := validate { plan with coverageSegments := before ++ first :: second :: after } scenario
    let gap := cutGap scenario.caregivers segment first second
    cut.deterministicTotalCost.toRat = whole.deterministicTotalCost.toRat + gap ∧
      (rateOf scenario.caregivers segment = none → gap = 0) ∧
      (∀ rate, rateOf scenario.caregivers segment = some rate →
        Datable segment.window.start → Datable segment.window.end_ →
          |gap| ≤ 3 / 200 + 3 * rate.toRat / 10000000 ∧ (rate.toRat ≤ 10000 → |gap| ≤ 1 / 100)) ∧
      (gap = 0 → cut.requiresApproval = whole.requiresApproval) ∧
      (cut.requiresApproval ≠ whole.requiresApproval →
        |scenario.policy.automaticSpendLimit.toRat - whole.deterministicTotalCost.toRat| ≤ |gap|) := by
  intro first second whole cut gap
  have hwhole : whole.deterministicTotalCost.toRat = totalCost scenario.caregivers (before ++ segment :: after) :=
    toRat_deterministicTotalCost _ _
  have hcut : cut.deterministicTotalCost.toRat =
      totalCost scenario.caregivers (before ++ first :: second :: after) := toRat_deterministicTotalCost _ _
  have happroval : cut.requiresApproval = true ↔ _ := requiresApproval_cut plan scenario hstart hend
  have hbefore : whole.requiresApproval = true ↔ _ := requiresApproval_eq_true_iff _ scenario
  refine ⟨?_, ?_, ?_, ?_, ?_⟩
  · rw [hcut, hwhole]
    exact totalCost_cut hstart hend
  · intro hrate
    simp only [gap, cutGap, hrate]
  · intro rate hrate hfrom hto
    exact abs_cutGap_le hstart hend hfrom hto hrate
  · intro hzero
    apply Bool.eq_iff_iff.mpr
    rw [happroval, hbefore]
    simp only [gap] at hzero
    rw [hzero, add_zero]
  · intro hchanged
    rw [hwhole]
    -- an unfamiliar caregiver counts in both plans, so otherwise the limit lies between the two totals
    by_cases hunfamiliar : scenario.policy.requireApprovalForUnfamiliarPaidCaregiver = true ∧
        ∃ s ∈ before ++ segment :: after, (payee scenario.caregivers s).any unfamiliarPaid = true
    · have htrue : cut.requiresApproval = true := happroval.mpr (Or.inr hunfamiliar)
      have htrue' : whole.requiresApproval = true := hbefore.mpr (Or.inr hunfamiliar)
      exact absurd (htrue.trans htrue'.symm) hchanged
    · rw [or_iff_left hunfamiliar] at happroval hbefore
      have hdiffer : ¬ (cut.requiresApproval = true ↔ whole.requiresApproval = true) :=
        fun h => hchanged (Bool.eq_iff_iff.mpr h)
      rw [happroval, hbefore] at hdiffer
      exact Decimal.abs_sub_le_of_not_lt_iff_lt hdiffer

/-- A sitter for a cent an hour, and a family that wants to be asked about more than a cent. -/
def pennyDay : DemoScenario :=
  { day (minutes 0 60) [{ sitter "kim" [minutes 0 60] with
      hourlyRate := some ⟨1, 2⟩, has_at_most_one_price_type := Or.inr rfl }] with
    policy := { automaticSpendLimit := ⟨1, 2⟩ } }

/-- The sitter looks after the child for the hour. -/
def hourCare : RecoveryPlanSegment := care "hour" "kim" .caregiver (minutes 0 60)

/-- The hour of care and nothing else. -/
def hourPlan : RecoveryPlan := { planId := "hour", coverageSegments := [hourCare] }

/-- The same hour, in two halves. -/
def halvesPlan : RecoveryPlan :=
  { planId := "hour"
    coverageSegments := [care "hour" "kim" .caregiver (minutes 0 30), care "rest" "kim" .caregiver (minutes 30 60)] }

theorem halves_cost_more :
    (∃ hstart hend, halvesPlan.coverageSegments =
      [cutBefore hourCare "hour" (30 * minute) hstart, cutAfter hourCare "rest" (30 * minute) hend]) ∧
      (validate hourPlan pennyDay).valid = true ∧ (validate halvesPlan pennyDay).valid = true ∧
      (validate hourPlan pennyDay).deterministicTotalCost = ⟨1, 2⟩ ∧
      (validate halvesPlan pennyDay).deterministicTotalCost = ⟨2, 2⟩ ∧
      (validate hourPlan pennyDay).requiresApproval = false ∧
      (validate halvesPlan pennyDay).requiresApproval = true := by
  refine ⟨⟨by decide, by decide, rfl⟩, ?_⟩
  decide +kernel

theorem deterministicTotalCost_cut_halves :
    ∃ (hstart : hourCare.window.start < 30 * minute) (hend : 30 * minute < hourCare.window.end_),
      let first := cutBefore hourCare "hour" (30 * minute) hstart
      let second := cutAfter hourCare "rest" (30 * minute) hend
      let whole := validate { hourPlan with coverageSegments := [] ++ hourCare :: [] } pennyDay
      let cut := validate { hourPlan with coverageSegments := [] ++ first :: second :: [] } pennyDay
      let gap := cutGap pennyDay.caregivers hourCare first second
      cut.deterministicTotalCost.toRat = whole.deterministicTotalCost.toRat + gap ∧
        |gap| ≤ 1 / 100 ∧
        |pennyDay.policy.automaticSpendLimit.toRat - whole.deterministicTotalCost.toRat| ≤ |gap| := by
  have hrate : rateOf pennyDay.caregivers hourCare = some ⟨1, 2⟩ := by decide +kernel
  have hfrom : Datable hourCare.window.start := by decide
  have hto : Datable hourCare.window.end_ := by decide
  obtain ⟨htotal, -, hsmall, -, hlimit⟩ := deterministicTotalCost_cut pennyDay hourPlan [] [] hourCare (30 * minute)
    "hour" "rest" (by decide) (by decide)
  refine ⟨by decide, by decide, htotal, (hsmall _ hrate hfrom hto).2 (by decide +kernel), hlimit ?_⟩
  decide +kernel

end DayMend.Validation
