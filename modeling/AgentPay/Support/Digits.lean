import Mathlib.Data.Int.Log
import Mathlib.Data.Rat.Floor
import Mathlib.Tactic.Linarith
import Mathlib.Tactic.Positivity
import Mathlib.Tactic.FieldSimp

/-!
# Significant digits

Decimal floating point on the rationals: `roundDigits n q` is the multiple of a power of ten with
at most `n` significant digits that is nearest to `q`, the even one where two are. There is no
bound on the exponent.
-/

namespace Support

/-! ### To the nearest integer -/

/-- The nearest integer, halves to the even neighbour. -/
def roundEven (q : ℚ) : ℤ :=
  if q - ⌊q⌋ < 1 / 2 then ⌊q⌋
  else if 1 / 2 < q - ⌊q⌋ then ⌊q⌋ + 1
  else if ⌊q⌋ % 2 = 0 then ⌊q⌋
  else ⌊q⌋ + 1

@[simp] lemma roundEven_intCast (n : ℤ) : roundEven n = n := by
  simp [roundEven]

/-! ### To a number of significant digits -/

lemma ten_zpow_pos (k : ℤ) : (0 : ℚ) < 10 ^ k := zpow_pos (by norm_num) k

/-- The exponent of the last of the `n` leading digits of `q`. -/
def lastPlace (n : ℕ) (q : ℚ) : ℤ := Int.log 10 |q| + 1 - n

/-- `q` rounded to `n` significant digits. -/
def roundDigits (n : ℕ) (q : ℚ) : ℚ :=
  if q = 0 then 0 else roundEven (q / 10 ^ lastPlace n q) * 10 ^ lastPlace n q

@[simp] lemma roundDigits_zero (n : ℕ) : roundDigits n 0 = 0 := by
  simp [roundDigits]

/-- What has at most `n` significant digits is its own rounding. -/
lemma roundDigits_eq_self {n : ℕ} {q : ℚ} {c k : ℤ} (hc : |c| < 10 ^ n) (hq : q = c * 10 ^ k) :
    roundDigits n q = q := by
  rw [roundDigits]
  split_ifs with h0
  · exact h0.symm
  have hten := ten_zpow_pos k
  have habs : |q| < ((10 : ℕ) : ℚ) ^ ((n : ℤ) + k) := by
    rw [hq, abs_mul, abs_of_pos hten, zpow_add₀ (by norm_num)]
    have : |(c : ℚ)| < 10 ^ n := by exact_mod_cast hc
    push_cast
    rw [zpow_natCast]
    exact mul_lt_mul_of_pos_right this hten
  have hlog : Int.log 10 |q| < n + k :=
    (Int.lt_zpow_iff_log_lt (by norm_num) (abs_pos.mpr h0)).mp habs
  have hplace : lastPlace n q ≤ k := by
    rw [lastPlace]
    omega
  obtain ⟨m, hm⟩ := Int.eq_ofNat_of_zero_le (sub_nonneg.mpr hplace)
  -- the last place kept is at or below the last place used
  have hcoeff : q / 10 ^ lastPlace n q = ((c * 10 ^ m : ℤ) : ℚ) := by
    have hpow : (10 : ℚ) ^ k = 10 ^ lastPlace n q * 10 ^ m := by
      rw [← zpow_natCast, ← zpow_add₀ (by norm_num), ← hm, add_sub_cancel]
    rw [div_eq_iff (ten_zpow_pos _).ne']
    calc q = c * 10 ^ k := hq
      _ = (c * 10 ^ m : ℤ) * 10 ^ lastPlace n q := by
        rw [hpow]
        push_cast
        ring
  rw [hcoeff, roundEven_intCast, ← hcoeff, div_mul_cancel₀ _ (ten_zpow_pos _).ne']

/-- A whole number of less than `10 ^ n` is its own rounding. -/
lemma roundDigits_intCast {n : ℕ} {c : ℤ} (hc : |c| < 10 ^ n) : roundDigits n c = c :=
  roundDigits_eq_self (k := 0) hc (by simp)

end Support
