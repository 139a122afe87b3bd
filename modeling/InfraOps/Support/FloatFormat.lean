import Mathlib.Algebra.Order.Field.Power
import Mathlib.Data.Int.Log
import Mathlib.Data.Rat.Floor
import Mathlib.Tactic.Linarith
import Mathlib.Tactic.Positivity

/-!
# Binary floating point

The finite numbers of a binary floating-point format among the rationals, and rounding to the
nearest of them, from a tie to the even significand. Rounding gives a number of the format and
leaves the numbers of the format as they are.
-/

namespace InfraOps

/-- The nearest integer, and of two the even one. -/
def roundEven (q : ℚ) : ℤ :=
  let k := ⌊q⌋
  if q - k < 1 / 2 then k
  else if 1 / 2 < q - k then k + 1
  else if k % 2 = 0 then k
  else k + 1

@[simp] theorem roundEven_intCast (n : ℤ) : roundEven n = n := by
  simp [roundEven]

theorem roundEven_cases (q : ℚ) : roundEven q = ⌊q⌋ ∨ roundEven q = ⌊q⌋ + 1 := by
  unfold roundEven
  dsimp only
  split_ifs
  · exact .inl rfl
  · exact .inr rfl
  · exact .inl rfl
  · exact .inr rfl

theorem abs_roundEven_le {q : ℚ} {n : ℕ} (h : |q| < n) : |roundEven q| ≤ n := by
  obtain ⟨hlo, hhi⟩ := abs_lt.mp h
  have hfloor : (-n : ℤ) ≤ ⌊q⌋ := Int.le_floor.mpr (by push_cast; exact hlo.le)
  have hceil : ⌊q⌋ < n := Int.floor_lt.mpr (by exact_mod_cast hhi)
  rcases roundEven_cases q with h | h
  · rw [h, abs_le]
    omega
  · rw [h, abs_le]
    omega

structure FloatFormat where
  /-- The bits of a significand. -/
  precision : ℕ
  precision_pos : 0 < precision
  /-- The exponent of the least positive number. -/
  minExponent : ℤ
  /-- The exponent of the least power of two that is too large. -/
  maxExponent : ℤ

namespace FloatFormat

def binary64 : FloatFormat where
  precision := 53
  precision_pos := by decide
  minExponent := -1074
  maxExponent := 1024

variable (f : FloatFormat)

/-- A number of the format, were its exponents unbounded above. -/
def Spaced (q : ℚ) : Prop :=
  ∃ m e : ℤ, |m| < 2 ^ f.precision ∧ f.minExponent ≤ e ∧ q = m * 2 ^ e

def Holds (q : ℚ) : Prop := f.Spaced q ∧ |q| < 2 ^ f.maxExponent

/-- The exponent of the numbers of the format around `q`. -/
def exponent (q : ℚ) : ℤ := max f.minExponent (Int.log 2 |q| + 1 - f.precision)

def nearest (q : ℚ) : ℚ := roundEven (q / 2 ^ f.exponent q) * 2 ^ f.exponent q

/-! ## Rounding gives a number of the format -/

theorem spaced_of_abs_le {m e : ℤ} (hm : |m| ≤ 2 ^ f.precision) (he : f.minExponent ≤ e) :
    f.Spaced (m * 2 ^ e) := by
  rcases hm.lt_or_eq with hlt | heq
  · exact ⟨m, e, hlt, he, rfl⟩
  -- a significand that has grown by one bit is halved
  have hpow : (2 : ℤ) ^ f.precision = 2 * 2 ^ (f.precision - 1) := by
    rw [← pow_succ', Nat.sub_add_cancel f.precision_pos]
  obtain ⟨half, rfl⟩ : (2 : ℤ) ∣ m := by
    rw [← Int.natAbs_dvd_natAbs, ← Int.natCast_dvd_natCast, Int.natCast_natAbs m, heq, hpow]
    exact Dvd.intro _ rfl
  refine ⟨half, e + 1, ?_, by omega, ?_⟩
  · rw [abs_mul, hpow] at heq
    have hhalf : |half| = 2 ^ (f.precision - 1) := by simpa using heq
    rw [hhalf]
    exact pow_lt_pow_right₀ (by norm_num) (Nat.sub_lt f.precision_pos Nat.one_pos)
  · rw [zpow_add₀ (by norm_num)]
    push_cast
    ring

theorem abs_div_lt (q : ℚ) : |q / 2 ^ f.exponent q| < (2 ^ f.precision : ℕ) := by
  have hstep : (0 : ℚ) < 2 ^ f.exponent q := by positivity
  have hlog : |q| < (2 : ℚ) ^ (Int.log 2 |q| + 1) :=
    Int.lt_zpow_succ_log_self Nat.one_lt_two |q|
  have hexp : Int.log 2 |q| + 1 ≤ f.precision + f.exponent q := by
    have hmax := le_max_right f.minExponent (Int.log 2 |q| + 1 - f.precision)
    unfold exponent
    omega
  rw [abs_div, abs_of_pos hstep, div_lt_iff₀ hstep]
  calc |q| < (2 : ℚ) ^ (Int.log 2 |q| + 1) := hlog
    _ ≤ 2 ^ ((f.precision : ℤ) + f.exponent q) := zpow_le_zpow_right₀ (by norm_num) hexp
    _ = (2 ^ f.precision : ℕ) * 2 ^ f.exponent q := by
      rw [zpow_add₀ (by norm_num), zpow_natCast]
      push_cast
      rfl

theorem spaced_nearest (q : ℚ) : f.Spaced (f.nearest q) := by
  have habs := abs_roundEven_le (f.abs_div_lt q)
  push_cast at habs
  exact f.spaced_of_abs_le habs (le_max_left _ _)

/-! ## The numbers of the format are kept -/

theorem exponent_le {m e : ℤ} (hm : |m| < 2 ^ f.precision) (hne : m ≠ 0)
    (he : f.minExponent ≤ e) : f.exponent (m * 2 ^ e) ≤ e := by
  have hpos : 0 < |(m : ℚ) * 2 ^ e| := by
    rw [abs_pos]
    exact mul_ne_zero (Int.cast_ne_zero.mpr hne) (by positivity)
  have hlt : |(m : ℚ) * 2 ^ e| < 2 ^ ((f.precision : ℤ) + e) := by
    rw [abs_mul, abs_of_pos (by positivity : (0 : ℚ) < 2 ^ e), zpow_add₀ (by norm_num),
      zpow_natCast]
    have hcast : |(m : ℚ)| < 2 ^ f.precision := by exact_mod_cast hm
    exact mul_lt_mul_of_pos_right hcast (by positivity)
  have hlog : Int.log 2 |(m : ℚ) * 2 ^ e| < f.precision + e :=
    (Int.lt_zpow_iff_log_lt Nat.one_lt_two hpos).mp hlt
  exact max_le he (by omega)

theorem nearest_of_spaced {q : ℚ} (h : f.Spaced q) : f.nearest q = q := by
  obtain ⟨m, e, hm, he, rfl⟩ := h
  by_cases hne : m = 0
  · subst hne
    simp [nearest, roundEven]
  -- the step around the number divides it
  have hle := f.exponent_le hm hne he
  have hint : (m : ℚ) * 2 ^ e / 2 ^ f.exponent (m * 2 ^ e) =
      ((m * 2 ^ (e - f.exponent (m * 2 ^ e)).toNat : ℤ) : ℚ) := by
    push_cast
    rw [mul_div_assoc, ← zpow_sub₀ (by norm_num), ← zpow_natCast, Int.toNat_of_nonneg (by omega)]
  rw [nearest, hint, roundEven_intCast, ← hint, div_mul_cancel₀ _ (by positivity)]

theorem holds_natCast {n : ℕ} (hbits : n < 2 ^ f.precision) (hmin : f.minExponent ≤ 0)
    (hmax : (f.precision : ℤ) ≤ f.maxExponent) : f.Holds n := by
  refine ⟨⟨n, 0, ?_, hmin, by simp⟩, ?_⟩
  · rw [Nat.abs_cast]
    exact_mod_cast hbits
  · rw [Nat.abs_cast]
    calc (n : ℚ) < 2 ^ f.precision := by exact_mod_cast hbits
      _ = 2 ^ (f.precision : ℤ) := (zpow_natCast 2 f.precision).symm
      _ ≤ 2 ^ f.maxExponent := zpow_le_zpow_right₀ (by norm_num) hmax

end FloatFormat

end InfraOps
