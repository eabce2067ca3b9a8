import DayMend.Base.Rounding
import Mathlib.Algebra.Order.Floor.Defs

/-!
# Nonnegative decimal amounts

An amount of money as a decimal numeral: digits and a scale, so that `30` and
`30.00` are the same number written differently (`Decimal.str`). Its value is a
rational (`Decimal.toRat`). A product or quotient is rounded to the 28 digits of
the arithmetic context, and `quantize` rounds half up to cents.
-/

namespace DayMend.Base

/-- The numeral with digits `coeff`, `scale` of them after the point. -/
structure Decimal where
  /-- The digits. -/
  coeff : ℕ
  /-- How many digits follow the point. -/
  scale : ℕ
  deriving DecidableEq

namespace Decimal

instance (n : ℕ) : OfNat Decimal n := ⟨⟨n, 0⟩⟩

/-- The number. -/
def toRat (d : Decimal) : ℚ := d.coeff / 10 ^ d.scale

theorem toRat_nonneg (d : Decimal) : 0 ≤ d.toRat := by unfold toRat; positivity

/-- Two digits after the point, rounding half up. An amount that would need more than 28 digits, at which the source
raises, is rounded like any other. -/
def quantize (x : ℚ) : Decimal := ⟨⌊x * 100 + 1 / 2⌋.toNat, 2⟩

@[simp] theorem toRat_quantize_zero : (quantize 0).toRat = 0 := by
  norm_num [quantize, toRat]

/-- Rounding half up, as a number of cents. -/
theorem toRat_quantize {x : ℚ} (hx : 0 ≤ x) : (quantize x).toRat = (⌊x * 100 + 1 / 2⌋ : ℤ) / 100 := by
  have hfloor : 0 ≤ ⌊x * 100 + 1 / 2⌋ := Int.floor_nonneg.mpr (by positivity)
  have hcast : ((⌊x * 100 + 1 / 2⌋.toNat : ℕ) : ℚ) = (⌊x * 100 + 1 / 2⌋ : ℤ) := by
    exact_mod_cast Int.toNat_of_nonneg hfloor
  rw [toRat, quantize, hcast]
  norm_num

/-- Whole cents stay as they are. -/
theorem toRat_quantize_cents (n : ℕ) : (quantize (n / 100)).toRat = n / 100 := by
  have hfloor : ⌊((n : ℚ) / 100) * 100 + 1 / 2⌋ = (n : ℤ) := by
    rw [Int.floor_eq_iff]
    constructor <;> push_cast <;> linarith
  rw [toRat_quantize (by positivity), hfloor]
  norm_num

/-- A sum of whole cents needs no rounding. -/
theorem toRat_quantize_sum {amounts : List Decimal} (h : ∀ d ∈ amounts, d.scale = 2) :
    (quantize (amounts.map toRat).sum).toRat = (amounts.map toRat).sum := by
  have hcents : ∃ n : ℕ, (amounts.map toRat).sum = n / 100 := by
    induction amounts with
    | nil => exact ⟨0, by simp⟩
    | cons d rest ih =>
      obtain ⟨hd, hrest⟩ := List.forall_mem_cons.mp h
      obtain ⟨n, hn⟩ := ih hrest
      refine ⟨d.coeff + n, ?_⟩
      rw [List.map_cons, List.sum_cons, hn, toRat, hd]
      push_cast
      ring
  obtain ⟨n, hn⟩ := hcents
  rw [hn, toRat_quantize_cents]

/-- The result of a product or quotient: 28 significant digits, ties to even. -/
def context (x : ℚ) : ℚ := roundTo 10 28 x

theorem abs_context_sub_le (x : ℚ) : |context x - x| ≤ 1 / 10 ^ 27 * |x| := by
  have hround := abs_roundTo_sub_le (p := 28) (by norm_num : 1 < 10) x
  have hx : 0 ≤ |x| := abs_nonneg x
  unfold context
  norm_num at hround ⊢
  linarith

/-- **Rounding to cents moves an amount by half a cent at most**, also one that is itself inexact. -/
theorem abs_toRat_quantize_sub_le {x y : ℚ} (hx : 0 ≤ x) : |(quantize y).toRat - x| ≤ 1 / 200 + |y - x| := by
  rcases le_or_gt 0 y with hy | hy
  · have hlow := Int.floor_le (y * 100 + 1 / 2)
    have hhigh := Int.lt_floor_add_one (y * 100 + 1 / 2)
    have hcents : |(quantize y).toRat - y| ≤ 1 / 200 := by
      rw [toRat_quantize hy, abs_le]
      constructor <;> linarith
    calc |(quantize y).toRat - x| ≤ |(quantize y).toRat - y| + |y - x| := abs_sub_le _ _ _
      _ ≤ 1 / 200 + |y - x| := by linarith
  · -- a negative amount becomes nothing, which is nearer
    have hnone : (quantize y).toRat = 0 := by
      have hfloor : ⌊y * 100 + 1 / 2⌋ ≤ 0 := by
        rw [← Int.lt_add_one_iff, Int.floor_lt]
        push_cast
        linarith
      rw [toRat, quantize, Int.toNat_of_nonpos hfloor]
      simp
    rw [hnone, zero_sub, abs_neg, abs_of_nonneg hx]
    have hgap : x - y ≤ |y - x| := by
      rw [abs_sub_comm]
      exact le_abs_self _
    linarith

/-- Sums of whole cents that differ by less than two cents differ by one at most. -/
theorem abs_cents_le {x y z : ℚ} (h : |(quantize x).toRat + (quantize y).toRat - (quantize z).toRat| < 2 / 100) :
    |(quantize x).toRat + (quantize y).toRat - (quantize z).toRat| ≤ 1 / 100 := by
  have hwhole : ∃ k : ℤ, (quantize x).toRat + (quantize y).toRat - (quantize z).toRat = k / 100 := by
    refine ⟨(quantize x).coeff + (quantize y).coeff - (quantize z).coeff, ?_⟩
    simp only [toRat, quantize]
    push_cast
    ring
  obtain ⟨k, hk⟩ := hwhole
  rw [hk, abs_div, abs_of_pos (by norm_num : (0 : ℚ) < 100)] at h ⊢
  have hlt : |(k : ℚ)| < 2 := by linarith
  have hle : |k| ≤ 1 := Int.lt_add_one_iff.mp (by exact_mod_cast hlt)
  have hcast : |(k : ℚ)| ≤ 1 := by exact_mod_cast hle
  linarith

/-- A limit that one of two amounts exceeds and the other does not is near. -/
theorem abs_sub_le_of_not_lt_iff_lt {limit x gap : ℚ} (h : ¬ (limit < x + gap ↔ limit < x)) :
    |limit - x| ≤ |gap| := by
  have hbetween : x ≤ limit ∧ limit < x + gap ∨ x + gap ≤ limit ∧ limit < x := by
    grind
  rw [abs_le]
  obtain ⟨hlow, hhigh⟩ := abs_le.mp (le_refl |gap|)
  rcases hbetween with ⟨hx, hgap⟩ | ⟨hgap, hx⟩
  · constructor <;> linarith
  · constructor <;> linarith

/-- The numeral as text. -/
def str (d : Decimal) : String :=
  if d.scale = 0 then toString d.coeff
  else
    let fraction := toString (d.coeff % 10 ^ d.scale)
    toString (d.coeff / 10 ^ d.scale) ++ "." ++
      String.ofList (List.replicate (d.scale - fraction.length) '0') ++ fraction

end Decimal

example : (Decimal.quantize (1 / 3 : ℚ)).str = "0.33" := by decide +kernel

end DayMend.Base
