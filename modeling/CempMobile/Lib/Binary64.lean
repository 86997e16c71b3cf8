import Mathlib.Algebra.Order.Round
import Mathlib.Algebra.Order.Field.Power
import Mathlib.Data.Int.Log
import Mathlib.Data.Rat.Floor
import Mathlib.Tactic.Linarith
import Mathlib.Tactic.NormNum
import Mathlib.Tactic.Positivity
import Mathlib.Tactic.Ring

/-! Numbers with a 53-bit significand, as exact rationals: what an arithmetic operation returns
    where nothing overflows or becomes subnormal. -/

namespace Binary64

/-- The nearest integer; the even one of two that are equally near. -/
def nearestEven (x : ℚ) : ℤ :=
  if 2 * Int.fract x = 1 then (if Even ⌊x⌋ then ⌊x⌋ else ⌈x⌉) else round x

/-- The unit in the last place of a number. -/
def ulp (x : ℚ) : ℚ := 2 ^ (Int.log 2 |x| - 52)

/-- Rounds an exact result to 53 bits. -/
def fl (x : ℚ) : ℚ := if x = 0 then 0 else nearestEven (x / ulp x) * ulp x

theorem abs_nearestEven_sub_le (x : ℚ) : |(nearestEven x : ℚ) - x| ≤ 1 / 2 := by
  have hfloor := Int.floor_add_fract x
  unfold nearestEven
  split
  · next hhalf =>
    have hfract : Int.fract x ≠ 0 := by intro hzero; norm_num [hzero] at hhalf
    have hceil : ((⌈x⌉ : ℤ) : ℚ) = ⌊x⌋ + 1 := by
      have := Int.ceil_eq_add_one_sub_fract hfract
      linarith
    split <;> rw [abs_le] <;> constructor <;> linarith
  · rw [abs_sub_comm]
    exact abs_sub_round x

theorem ulp_pos (x : ℚ) : 0 < ulp x := by
  unfold ulp
  positivity

theorem ulp_le {x : ℚ} (hx : x ≠ 0) : ulp x ≤ |x| / 2 ^ 52 := by
  have hpow : ((2 : ℕ) : ℚ) ^ Int.log 2 |x| ≤ |x| :=
    Int.zpow_log_le_self (by norm_num) (abs_pos.mpr hx)
  have hsplit : ulp x = (2 : ℚ) ^ Int.log 2 |x| / 2 ^ (52 : ℕ) := by
    rw [ulp, zpow_sub₀ (by norm_num)]
    norm_num
  rw [hsplit]
  exact div_le_div_of_nonneg_right (by simpa using hpow) (by positivity)

/-- Rounding errs by half a unit in the last place at most. -/
theorem abs_fl_sub_le (x : ℚ) : |fl x - x| ≤ |x| / 2 ^ 53 := by
  unfold fl
  split
  · next hzero => simp [hzero]
  · next hx =>
    have hpos := ulp_pos x
    have hscale : (nearestEven (x / ulp x) : ℚ) * ulp x - x =
        ((nearestEven (x / ulp x) : ℚ) - x / ulp x) * ulp x := by
      field_simp
    rw [hscale, abs_mul, abs_of_pos hpos]
    calc |(nearestEven (x / ulp x) : ℚ) - x / ulp x| * ulp x
        ≤ 1 / 2 * ulp x :=
          mul_le_mul_of_nonneg_right (abs_nearestEven_sub_le _) hpos.le
      _ ≤ 1 / 2 * (|x| / 2 ^ 52) := by linarith [ulp_le hx]
      _ = |x| / 2 ^ 53 := by ring

theorem fl_le {x : ℚ} (hx : 0 ≤ x) : fl x ≤ x * (1 + 1 / 2 ^ 53) := by
  have herr := (abs_le.mp (abs_fl_sub_le x)).2
  rw [abs_of_nonneg hx] at herr
  linarith

theorem fl_nonneg {x : ℚ} (hx : 0 ≤ x) : 0 ≤ fl x := by
  have herr := (abs_le.mp (abs_fl_sub_le x)).1
  rw [abs_of_nonneg hx] at herr
  have hsmall : x / 2 ^ 53 ≤ x := div_le_self hx (by norm_num)
  linarith

/-- A product that exceeds no small whole number still does not after two roundings, to 53 bits
    and to a whole number: `Math.round` of a product by a rounded factor. -/
theorem round_fl_mul_fl_le {a n : ℕ} {s : ℚ} (hs : 0 ≤ s) (hle : a * s ≤ n) (hn : n ≤ 2 ^ 50) :
    round (fl (a * fl s)) ≤ n := by
  have hsmall : (n : ℚ) ≤ 1125899906842624 := by
    have hnat : n ≤ 1125899906842624 := by norm_num at hn; exact hn
    exact_mod_cast hnat
  have ha : (0 : ℚ) ≤ a := Nat.cast_nonneg a
  have hfactor : a * fl s ≤ n * (1 + 1 / 2 ^ 53) := by
    calc (a : ℚ) * fl s ≤ a * (s * (1 + 1 / 2 ^ 53)) := mul_le_mul_of_nonneg_left (fl_le hs) ha
      _ = a * s * (1 + 1 / 2 ^ 53) := by ring
      _ ≤ n * (1 + 1 / 2 ^ 53) := mul_le_mul_of_nonneg_right hle (by norm_num)
  have hproduct : fl (a * fl s) ≤ n * (1 + 1 / 2 ^ 53) * (1 + 1 / 2 ^ 53) := by
    calc fl (a * fl s) ≤ a * fl s * (1 + 1 / 2 ^ 53) := fl_le (mul_nonneg ha (fl_nonneg hs))
      _ ≤ n * (1 + 1 / 2 ^ 53) * (1 + 1 / 2 ^ 53) :=
          mul_le_mul_of_nonneg_right hfactor (by norm_num)
  have hbelow : fl (a * fl s) + 1 / 2 < n + 1 := by
    have hslack : (n : ℚ) * (1 + 1 / 2 ^ 53) * (1 + 1 / 2 ^ 53) + 1 / 2 < n + 1 := by
      norm_num
      linarith
    linarith
  rw [round_eq]
  have hlt : ⌊fl (a * fl s) + 1 / 2⌋ < (n : ℤ) + 1 := by
    rw [Int.floor_lt]
    push_cast
    exact hbelow
  omega

/-- A natural number up to 2 ^ 53 is a whole number of units in the last place. -/
theorem exists_units_eq {n : Nat} (hpos : n ≠ 0) (hn : n ≤ 2 ^ 53) :
    ∃ z : ℤ, (n : ℚ) = z * (2 : ℚ) ^ ((Nat.log 2 n : ℤ) - 52) := by
  have hlog : Nat.log 2 n ≤ 53 := by
    have hmono := Nat.log_mono_right (b := 2) hn
    rwa [Nat.log_pow (by decide)] at hmono
  rcases Nat.lt_or_ge 52 (Nat.log 2 n) with hlarge | hsmall
  · have heq : Nat.log 2 n = 53 := by omega
    have hle := Nat.pow_log_le_self 2 hpos
    rw [heq] at hle
    have hn' : n = 2 ^ 53 := le_antisymm hn hle
    refine ⟨2 ^ 52, ?_⟩
    rw [heq, hn']
    norm_num
  · refine ⟨n * 2 ^ (52 - Nat.log 2 n), ?_⟩
    have hcancel : (2 : ℚ) ^ (52 - Nat.log 2 n) * 2 ^ ((Nat.log 2 n : ℤ) - 52) = 1 := by
      rw [← zpow_natCast, ← zpow_add₀ (by norm_num), Nat.cast_sub hsmall]
      norm_num
    push_cast
    rw [mul_assoc, hcancel, mul_one]

theorem nearestEven_intCast (z : ℤ) : nearestEven (z : ℚ) = z := by
  unfold nearestEven
  rw [Int.fract_intCast, if_neg (by norm_num), round_intCast]

/-- Such a number is exact. -/
theorem fl_natCast {n : Nat} (hn : n ≤ 2 ^ 53) : fl n = n := by
  unfold fl
  by_cases hzero : n = 0
  · rw [hzero, Nat.cast_zero, if_pos rfl]
  · have hulp : ulp (n : ℚ) = 2 ^ ((Nat.log 2 n : ℤ) - 52) := by
      unfold ulp
      rw [Nat.abs_cast, Int.log_natCast]
    obtain ⟨z, hz⟩ := exists_units_eq hzero hn
    have hquotient : (n : ℚ) / ulp n = z := by
      rw [div_eq_iff (ulp_pos _).ne', hulp]
      exact hz
    rw [if_neg (Nat.cast_ne_zero.2 hzero), hquotient, nearestEven_intCast, hulp, ← hz]

end Binary64
