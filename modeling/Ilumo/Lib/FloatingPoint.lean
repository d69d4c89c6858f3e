import Mathlib.Algebra.Order.Floor.Ring
import Mathlib.Data.Int.Log
import Mathlib.Data.Rat.Floor
import Mathlib.Tactic.Linarith
import Mathlib.Tactic.NormNum

/-!
# Floating-point arithmetic

The result of an operation on floats is the float nearest to the exact result, subnormal ones
included. Infinities and NaNs are not modelled, and neither is overflow. `roundAway` and `truncate`
are `std::round` and the conversion to an integer.
-/

namespace FloatingPoint

/-- A binary format: the stored digits of a significand, and the exponent below which numbers are
subnormal. -/
structure Format where
  digits : Nat
  minExponent : ℤ
  deriving DecidableEq, Repr

def binary16 : Format := ⟨10, -14⟩

def binary64 : Format := ⟨52, -1022⟩

/-- The nearest integer, and the even one of two. -/
def roundEven (q : ℚ) : ℤ :=
  if 1 / 2 < q - ⌊q⌋ ∨ q - ⌊q⌋ = 1 / 2 ∧ ⌊q⌋ % 2 = 1 then ⌊q⌋ + 1 else ⌊q⌋

/-- Of one unit in the last place. -/
def Format.exponent (format : Format) (q : ℚ) : ℤ :=
  max (Int.log 2 |q|) format.minExponent - format.digits

def Format.round (format : Format) (q : ℚ) : ℚ :=
  roundEven (q / 2 ^ format.exponent q) * 2 ^ format.exponent q

abbrev half : ℚ → ℚ := binary16.round

abbrev double : ℚ → ℚ := binary64.round

/-- The nearest integer, and of two the one that is further from zero. -/
def roundAway (q : ℚ) : ℤ := if 0 ≤ q then ⌊q + 1 / 2⌋ else ⌈q - 1 / 2⌉

def truncate (q : ℚ) : ℤ := if 0 ≤ q then ⌊q⌋ else ⌈q⌉

/-! ### Rounding to an integer -/

theorem abs_roundEven_sub_le (q : ℚ) : |(roundEven q : ℚ) - q| ≤ 1 / 2 := by
  have hle := Int.floor_le q
  have hlt := Int.lt_floor_add_one q
  rw [roundEven, abs_le]
  split
  · rename_i h
    have hhalf : 1 / 2 ≤ q - ⌊q⌋ := h.elim le_of_lt fun h => h.1.ge
    push_cast
    constructor <;> linarith
  · rename_i h
    have hhalf : q - ⌊q⌋ ≤ 1 / 2 := not_lt.mp fun hlt => h (.inl hlt)
    constructor <;> linarith

@[simp] theorem roundEven_intCast (n : ℤ) : roundEven n = n := by norm_num [roundEven]

theorem roundEven_neg (q : ℚ) : roundEven (-q) = -roundEven q := by
  have hle := Int.floor_le q
  have hlt := Int.lt_floor_add_one q
  by_cases hint : q = ⌊q⌋
  · rw [hint, ← Int.cast_neg, roundEven_intCast, roundEven_intCast]
  have hstrict : (⌊q⌋ : ℚ) < q := lt_of_le_of_ne hle (Ne.symm hint)
  have hfloor : ⌊-q⌋ = -⌊q⌋ - 1 := by
    rw [Int.floor_eq_iff]
    push_cast
    constructor <;> linarith
  have hfraction : -q - ((-⌊q⌋ - 1 : ℤ) : ℚ) = 1 - (q - ⌊q⌋) := by
    push_cast
    ring
  rw [roundEven, roundEven, hfloor, hfraction]
  rcases lt_trichotomy (q - ⌊q⌋) (1 / 2) with hlow | hhalf | hhigh
  · rw [if_pos (.inl (by linarith)), if_neg (by rintro (h | h) <;> linarith)]
    ring
  · -- half way, one of two consecutive integers is odd
    rw [hhalf]
    norm_num
    split_ifs <;> omega
  · rw [if_neg (by rintro (h | h) <;> linarith), if_pos (.inl hhigh)]
    ring

theorem roundEven_pos_iff (q : ℚ) : 0 < roundEven q ↔ 1 / 2 < q := by
  have hle := Int.floor_le q
  have hlt := Int.lt_floor_add_one q
  rw [roundEven]
  rcases lt_trichotomy ⌊q⌋ 0 with hneg | hzero | hpos
  · have hcast : (⌊q⌋ : ℚ) ≤ -1 := by exact_mod_cast Int.le_sub_one_of_lt hneg
    refine iff_of_false ?_ (by linarith)
    split <;> omega
  · rw [hzero]
    norm_num
    split <;> simp_all
  · have hcast : (1 : ℚ) ≤ ⌊q⌋ := by exact_mod_cast hpos
    refine iff_of_true ?_ (by linarith)
    split <;> omega

/-! ### The nearest float -/

namespace Format

variable (format : Format)

theorem round_zero : format.round 0 = 0 := by norm_num [round, roundEven]

theorem exponent_neg (q : ℚ) : format.exponent (-q) = format.exponent q := by
  rw [exponent, exponent, abs_neg]

theorem round_neg (q : ℚ) : format.round (-q) = -format.round q := by
  rw [round, round, exponent_neg, neg_div, roundEven_neg, Int.cast_neg, neg_mul]

/-- A number is rounded to zero up to half the smallest float. -/
theorem round_pos_iff (q : ℚ) :
    0 < format.round q ↔ 2 ^ (format.minExponent - format.digits - 1) < q := by
  have hunit : (0 : ℚ) < 2 ^ format.exponent q := zpow_pos (by norm_num) _
  have hhalf : (1 / 2 * 2 ^ format.exponent q : ℚ) = 2 ^ (format.exponent q - 1) := by
    rw [zpow_sub_one₀ (by norm_num)]
    ring
  rw [round, mul_pos_iff_of_pos_right hunit, Int.cast_pos, roundEven_pos_iff, lt_div_iff₀ hunit,
    hhalf]
  by_cases hsmall : Int.log 2 |q| ≤ format.minExponent
  · rw [exponent, max_eq_right hsmall]
  rw [exponent, max_eq_left (by omega)]
  rcases lt_or_ge 0 q with hpos | hneg
  · have hlog : (2 : ℚ) ^ Int.log 2 q ≤ q := by
      exact_mod_cast Int.zpow_log_le_self (b := 2) (by norm_num) hpos
    rw [abs_of_pos hpos] at hsmall ⊢
    refine iff_of_true (lt_of_lt_of_le ?_ hlog) (lt_of_lt_of_le ?_ hlog)
    · exact zpow_lt_zpow_right₀ (by norm_num) (by omega)
    · exact zpow_lt_zpow_right₀ (by norm_num) (by omega)
  · refine iff_of_false ?_ ?_
    · exact not_lt.mpr (hneg.trans (zpow_pos (by norm_num) _).le)
    · exact not_lt.mpr (hneg.trans (zpow_pos (by norm_num) _).le)

theorem round_neg_iff (q : ℚ) :
    format.round q < 0 ↔ q < -2 ^ (format.minExponent - format.digits - 1) := by
  rw [← neg_pos, ← round_neg, round_pos_iff, lt_neg]

theorem abs_round_sub_le (q : ℚ) : |format.round q - q| ≤ 2 ^ format.exponent q / 2 := by
  have hpos : (0 : ℚ) < 2 ^ format.exponent q := zpow_pos (by norm_num) _
  have hround := abs_roundEven_sub_le (q / 2 ^ format.exponent q)
  have hscale : format.round q - q =
      (roundEven (q / 2 ^ format.exponent q) - q / 2 ^ format.exponent q) *
        2 ^ format.exponent q := by
    rw [sub_mul, div_mul_cancel₀ _ hpos.ne', round]
  rw [hscale, abs_mul, abs_of_pos hpos]
  linarith [mul_le_mul_of_nonneg_right hround hpos.le]

/-- Numbers up to `2 ^ n` are rounded by at most half the last digit of `2 ^ n`. -/
theorem abs_round_sub_le_of_le {q : ℚ} {n : ℤ} (hn : format.minExponent ≤ n) (hq : |q| ≤ 2 ^ n) :
    |format.round q - q| ≤ 2 ^ (n - format.digits - 1) := by
  by_cases hzero : q = 0
  · rw [hzero, round_zero, sub_zero, abs_zero]
    exact (zpow_pos (by norm_num) _).le
  have hlog : Int.log 2 |q| ≤ n := by
    calc Int.log 2 |q| ≤ Int.log 2 ((2 : ℕ) ^ n : ℚ) :=
          Int.log_mono_right (abs_pos.mpr hzero) (by exact_mod_cast hq)
      _ = n := Int.log_zpow (by norm_num) n
  have hexponent : format.exponent q ≤ n - format.digits := by
    rw [exponent]
    omega
  calc |format.round q - q| ≤ 2 ^ format.exponent q / 2 := format.abs_round_sub_le q
    _ ≤ 2 ^ (n - format.digits) / 2 := by
      linarith [zpow_le_zpow_right₀ (show (1 : ℚ) ≤ 2 by norm_num) hexponent]
    _ = 2 ^ (n - format.digits - 1) := by
      rw [zpow_sub_one₀ (by norm_num)]
      ring

/-- Normal numbers are rounded by at most half a unit in the last place. -/
theorem abs_round_sub_le_mul {q : ℚ} (hq : 2 ^ format.minExponent ≤ |q|) :
    |format.round q - q| ≤ |q| / 2 ^ (format.digits + 1) := by
  have hpos : 0 < |q| := lt_of_lt_of_le (zpow_pos (by norm_num) _) hq
  have hlog : (2 : ℚ) ^ Int.log 2 |q| ≤ |q| := by
    exact_mod_cast Int.zpow_log_le_self (b := 2) (by norm_num) hpos
  have hnormal : format.minExponent ≤ Int.log 2 |q| :=
    (Int.zpow_le_iff_le_log (b := 2) (by norm_num) hpos).mp (by exact_mod_cast hq)
  calc |format.round q - q| ≤ 2 ^ format.exponent q / 2 := format.abs_round_sub_le q
    _ = 2 ^ Int.log 2 |q| / 2 ^ (format.digits + 1) := by
      rw [exponent, max_eq_left hnormal, zpow_sub₀ (by norm_num), zpow_natCast, pow_succ,
        div_div]
    _ ≤ |q| / 2 ^ (format.digits + 1) := by gcongr

end Format

@[simp] theorem half_zero : half 0 = 0 := binary16.round_zero

theorem half_pos_iff (q : ℚ) : 0 < half q ↔ 2 ^ (-25 : ℤ) < q := binary16.round_pos_iff q

@[simp] theorem double_zero : double 0 = 0 := binary64.round_zero

@[simp] theorem double_neg (q : ℚ) : double (-q) = -double q := binary64.round_neg q

theorem double_pos_iff (q : ℚ) : 0 < double q ↔ 2 ^ (-1075 : ℤ) < q := binary64.round_pos_iff q

theorem double_neg_iff (q : ℚ) : double q < 0 ↔ q < -2 ^ (-1075 : ℤ) := binary64.round_neg_iff q

/-! ### Conversions to integers -/

theorem roundAway_eq_of_abs_sub_lt {q : ℚ} {n : ℤ} (h : |q - n| < 1 / 2) : roundAway q = n := by
  obtain ⟨hgt, hlt⟩ := abs_lt.mp h
  rw [roundAway]
  split
  · rw [Int.floor_eq_iff]
    constructor <;> linarith
  · rw [Int.ceil_eq_iff]
    constructor <;> linarith

theorem abs_roundAway_sub_le (q : ℚ) : |(roundAway q : ℚ) - q| ≤ 1 / 2 := by
  rw [roundAway, abs_le]
  split
  · constructor <;> linarith [Int.floor_le (q + 1 / 2), Int.lt_floor_add_one (q + 1 / 2)]
  · constructor <;> linarith [Int.le_ceil (q - 1 / 2), Int.ceil_lt_add_one (q - 1 / 2)]

theorem abs_truncate_sub_lt (q : ℚ) : |(truncate q : ℚ) - q| < 1 := by
  rw [truncate, abs_lt]
  split
  · constructor <;> linarith [Int.floor_le q, Int.lt_floor_add_one q]
  · constructor <;> linarith [Int.le_ceil q, Int.ceil_lt_add_one q]

end FloatingPoint
