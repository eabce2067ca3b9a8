import Mathlib.Data.Int.Log
import Mathlib.Data.Rat.Floor
import Mathlib.Tactic.Linarith
import Mathlib.Tactic.NormNum
import Mathlib.Tactic.Positivity

/-!
# Rounded arithmetic

Numbers with so many significant digits in some base, and the rounding to them
that goes to the nearest and at a tie to the even one. Two digits more bring
`double` and the shortest decimal that reads back as a given double, which is
how a float is printed. What is proved is how far a result is from the exact one.
The exponent has no bounds here: nothing overflows and nothing is subnormal.
-/

namespace DayMend.Base

/-- The nearest integer, the even one of two. -/
def roundEven (x : ℚ) : ℤ :=
  let k := ⌊x⌋
  if x - k < 1 / 2 ∨ x - k = 1 / 2 ∧ Even k then k else k + 1

theorem abs_roundEven_sub_le (x : ℚ) : |(roundEven x : ℚ) - x| ≤ 1 / 2 := by
  have hlow := Int.floor_le x
  have hhigh := Int.lt_floor_add_one x
  rw [abs_le]
  unfold roundEven
  dsimp only
  split_ifs with hdown
  · have hhalf : x - ⌊x⌋ ≤ 1 / 2 := hdown.elim le_of_lt fun h => h.1.le
    constructor <;> linarith
  · have hhalf : 1 / 2 ≤ x - ⌊x⌋ := not_lt.mp fun h => hdown (Or.inl h)
    push_cast
    constructor <;> linarith

/-- The unit of the last of `p` digits of a number in base `b`. -/
def lastPlace (b p : ℕ) (x : ℚ) : ℚ := (b : ℚ) ^ (Int.log b |x| + 1 - p)

/-- A number to `p` significant digits in base `b`. -/
def roundTo (b p : ℕ) (x : ℚ) : ℚ := roundEven (x / lastPlace b p x) * lastPlace b p x

variable {b p : ℕ} {x y : ℚ}

theorem lastPlace_pos (hb : 1 < b) : 0 < lastPlace b p x := by
  have hb' : (0 : ℚ) < b := by exact_mod_cast hb.pos
  exact zpow_pos hb' _

/-- The first digit of a number is not zero, so its last place is small beside it. -/
theorem lastPlace_le (hb : 1 < b) (hx : x ≠ 0) : lastPlace b p x ≤ (b : ℚ) ^ (1 - p : ℤ) * |x| := by
  have hb' : (0 : ℚ) < b := by exact_mod_cast hb.pos
  have hlead : (b : ℚ) ^ Int.log b |x| ≤ |x| := Int.zpow_log_le_self hb (abs_pos.mpr hx)
  calc lastPlace b p x = (b : ℚ) ^ (1 - p : ℤ) * (b : ℚ) ^ Int.log b |x| := by
        rw [lastPlace, ← zpow_add₀ hb'.ne']
        congr 1
        ring
    _ ≤ (b : ℚ) ^ (1 - p : ℤ) * |x| := mul_le_mul_of_nonneg_left hlead (zpow_pos hb' _).le

/-- **Half a unit in the last place**, relative to the number. -/
theorem abs_roundTo_sub_le (hb : 1 < b) (x : ℚ) : |roundTo b p x - x| ≤ (b : ℚ) ^ (1 - p : ℤ) / 2 * |x| := by
  rcases eq_or_ne x 0 with rfl | hx
  · simp [roundTo, roundEven]
  · have hunit : 0 < lastPlace b p x := lastPlace_pos hb
    have hscaled : roundTo b p x - x =
        (roundEven (x / lastPlace b p x) - x / lastPlace b p x) * lastPlace b p x := by
      rw [roundTo, sub_mul, div_mul_cancel₀ _ hunit.ne']
    calc |roundTo b p x - x| =
          |(roundEven (x / lastPlace b p x) : ℚ) - x / lastPlace b p x| * lastPlace b p x := by
          rw [hscaled, abs_mul, abs_of_pos hunit]
      _ ≤ 1 / 2 * ((b : ℚ) ^ (1 - p : ℤ) * |x|) :=
          mul_le_mul (abs_roundEven_sub_le _) (lastPlace_le hb hx) hunit.le (by norm_num)
      _ = (b : ℚ) ^ (1 - p : ℤ) / 2 * |x| := by ring

/-- A double. -/
def double (x : ℚ) : ℚ := roundTo 2 53 x

theorem abs_double_sub_le (x : ℚ) : |double x - x| ≤ 1 / 2 ^ 53 * |x| := by
  have h := abs_roundTo_sub_le (p := 53) (by norm_num : 1 < 2) x
  norm_num at h ⊢
  exact h

/-- The two decimals of `digits` digits between which a number lies, the nearer first. -/
def decimalsAround (x : ℚ) (digits : ℕ) : List ℚ :=
  let nearest := roundTo 10 digits x
  [nearest, if nearest ≤ x then nearest + lastPlace 10 digits x else nearest - lastPlace 10 digits x]

/-- The number a double is printed as: of the decimals that read back as the double those with the fewest digits, and
of these the nearest. Seventeen digits always read back. -/
def shortestDecimal (x : ℚ) : ℚ :=
  let candidates := (List.range' 1 16).flatMap (decimalsAround x)
  (candidates.find? fun c => double c = x).getD (roundTo 10 17 x)

/-- A number that reads back as `x` is as near to `x` as two roundings allow. -/
theorem abs_sub_le_of_double_eq (h : double y = x) : |y - x| ≤ 1 / 2 ^ 52 * |x| := by
  have hround := abs_double_sub_le y
  rw [h, abs_sub_comm] at hround
  have hy : |y| ≤ |y - x| + |x| := by simpa using abs_add_le (y - x) x
  have hx : 0 ≤ |x| := abs_nonneg x
  norm_num at hround ⊢
  linarith

/-- A printed double differs from the double by little. -/
theorem abs_shortestDecimal_sub_le (x : ℚ) : |shortestDecimal x - x| ≤ 1 / 2 ^ 52 * |x| := by
  unfold shortestDecimal
  dsimp only
  cases hfound : ((List.range' 1 16).flatMap (decimalsAround x)).find? fun c => double c = x with
  | some c =>
    have hreads : double c = x := by simpa using List.find?_some hfound
    exact abs_sub_le_of_double_eq hreads
  | none =>
    have hround := abs_roundTo_sub_le (p := 17) (by norm_num : 1 < 10) x
    have hx : 0 ≤ |x| := abs_nonneg x
    rw [Option.getD_none]
    norm_num at hround ⊢
    linarith

/-- Near a power of two the doubles above lie farther apart than those below. -/
example : shortestDecimal (2 ^ (-44 : ℤ)) = 5684341886080802 / 10 ^ 29 := by decide +kernel

end DayMend.Base
