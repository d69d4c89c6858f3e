import Ilumo.Control.PwmController
import Mathlib.Algebra.Order.Field.Rat
import Mathlib.Tactic.NormNum
import Mathlib.Tactic.Linarith

/-!
# What the callbacks do

Each callback has one outcome for each branch that its request selects: the exception it raises, if
any, and the channels it has changed by then. Everything about runs of requests follows from these
equations.
-/

namespace Ilumo.Control

open FloatingPoint Script

theorem changeDutyCycle_of_mem {channel : Channel} {percent : ℚ} (hlow : 0 ≤ percent)
    (hhigh : percent ≤ 100) (this : PMWController) :
    changeDutyCycle channel percent this = .ok () (this.drive channel percent) := by
  rw [changeDutyCycle, if_neg (not_or.mpr ⟨not_lt.mpr hlow, not_lt.mpr hhigh⟩)]
  rfl

theorem changeDutyCycle_of_neg {channel : Channel} {percent : ℚ} (hneg : percent < 0)
    (this : PMWController) : changeDutyCycle channel percent this = .error .valueError this := by
  rw [changeDutyCycle, if_pos (.inl hneg)]
  rfl

theorem changeDutyCycle_zero (channel : Channel) (this : PMWController) :
    changeDutyCycle channel 0 this = .ok () (this.drive channel 0) :=
  changeDutyCycle_of_mem le_rfl (by norm_num) this

/-! ### Rounded quotients -/

/-- Up to this speed the tenth of a speed is rounded to zero. -/
def negligible : ℚ := 5 * 2 ^ (-1074 : ℤ)

theorem negligible_pos : 0 < negligible := mul_pos (by norm_num) (zpow_pos (by norm_num) _)

theorem negligible_lt_one : negligible < 1 := by
  calc negligible ≤ 5 * 2 ^ (-3 : ℤ) := by
        rw [negligible]
        gcongr <;> norm_num
    _ < 1 := by norm_num

theorem tenth_pos_iff (speed : ℚ) : 0 < trueDiv speed 10 ↔ negligible < speed := by
  have hscale : 2 ^ (-1075 : ℤ) * 10 = negligible := by
    rw [negligible, show (-1074 : ℤ) = -1075 + 1 by norm_num, zpow_add_one₀ (by norm_num)]
    ring
  rw [trueDiv, double_pos_iff, lt_div_iff₀ (by norm_num), hscale]

theorem tenth_neg_iff (speed : ℚ) : trueDiv speed 10 < 0 ↔ speed < -negligible := by
  have hminus : trueDiv (-speed) 10 = -trueDiv speed 10 := by
    rw [trueDiv, neg_div, double_neg, trueDiv]
  rw [← neg_pos, ← hminus, tenth_pos_iff, lt_neg]

theorem tenth_eq_zero {speed : ℚ} (hlow : -negligible ≤ speed) (hhigh : speed ≤ negligible) :
    trueDiv speed 10 = 0 := by
  apply le_antisymm
  · exact not_lt.mp (mt (tenth_pos_iff speed).mp (not_lt.mpr hhigh))
  · exact not_lt.mp (mt (tenth_neg_iff speed).mp (not_lt.mpr hlow))

theorem trueDiv_le_hundred {x y : ℚ} (habs : |x / y| ≤ 1) : trueDiv x y ≤ 100 := by
  have hround : |trueDiv x y - x / y| ≤ 2 ^ ((0 : ℤ) - 52 - 1) :=
    binary64.abs_round_sub_le_of_le (by decide) (by simpa using habs)
  have hunit : (2 : ℚ) ^ ((0 : ℤ) - 52 - 1) ≤ 1 := by norm_num
  linarith [(abs_le.mp hround).2, (abs_le.mp habs).2]

theorem tenth_le_hundred {speed : ℚ} (hlow : -negligible ≤ speed) (hhigh : speed ≤ 8) :
    trueDiv speed 10 ≤ 100 := by
  apply trueDiv_le_hundred
  rw [abs_le]
  constructor <;> linarith [negligible_lt_one]

theorem trueDiv_brightness_neg_iff (brightness : ℤ) :
    trueDiv brightness 1005 < 0 ↔ brightness < 0 := by
  have hsmall : (2 : ℚ) ^ (-1075 : ℤ) < 1 / 1005 := by
    calc (2 : ℚ) ^ (-1075 : ℤ) < 2 ^ (-10 : ℤ) := zpow_lt_zpow_right₀ (by norm_num) (by norm_num)
      _ < 1 / 1005 := by norm_num
  rw [trueDiv, double_neg_iff, div_lt_iff₀ (by norm_num)]
  refine ⟨?_, ?_⟩
  · intro h
    have hcast : (brightness : ℚ) < 0 := by
      linarith [zpow_pos (show (0 : ℚ) < 2 by norm_num) (-1075)]
    exact_mod_cast hcast
  · intro h
    have hcast : (brightness : ℚ) ≤ -1 := by exact_mod_cast Int.le_sub_one_of_lt h
    linarith

theorem brightness_le_hundred {brightness : ℤ} (hlow : 0 ≤ brightness)
    (hhigh : brightness ≤ 1005) : trueDiv brightness 1005 ≤ 100 := by
  have hlow : (0 : ℚ) ≤ brightness := by exact_mod_cast hlow
  have hhigh : (brightness : ℚ) ≤ 1005 := by exact_mod_cast hhigh
  apply trueDiv_le_hundred
  rw [abs_le]
  constructor <;> linarith

/-! ### The callbacks -/

/-- The outcome of a motor request, by the branch that its speed and direction select. -/
theorem motorControlCallback_eq (req : SetMotorSpeed) (this : PMWController) :
    motorControlCallback req this =
      if 8 < req.speed then .error .assertionError this
      else if req.speed = 0 then .ok true ((this.drive .pwmMotor1 0).drive .pwmMotor2 0)
      else if req.forward then
        if req.speed < -negligible then .error .valueError this
        else .ok true ((this.drive .pwmMotor1 (trueDiv req.speed 10)).drive .pwmMotor2 0)
      else if req.speed < -negligible then .error .valueError (this.drive .pwmMotor1 0)
      else .ok true ((this.drive .pwmMotor1 0).drive .pwmMotor2 (trueDiv req.speed 10)) := by
  by_cases hlimit : 8 < req.speed
  · rw [if_pos hlimit, motorControlCallback, if_pos hlimit]
    rfl
  rw [if_neg hlimit, motorControlCallback, if_neg hlimit]
  simp only [pure_bind]
  by_cases hstop : req.speed = 0
  · simp only [if_pos hstop]
    rw [bind_of_ok (changeDutyCycle_zero ..), bind_of_ok (changeDutyCycle_zero ..)]
    rfl
  simp only [if_neg hstop]
  have hpercent (hpos : ¬ req.speed < -negligible) (channel : Channel) (this : PMWController) :
      changeDutyCycle channel (trueDiv req.speed 10) this =
        .ok () (this.drive channel (trueDiv req.speed 10)) := by
    apply changeDutyCycle_of_mem
    · exact not_lt.mp (mt (tenth_neg_iff _).mp hpos)
    · exact tenth_le_hundred (not_lt.mp hpos) (not_lt.mp hlimit)
  have hnegative (hneg : req.speed < -negligible) (channel : Channel) (this : PMWController) :
      changeDutyCycle channel (trueDiv req.speed 10) this = .error .valueError this :=
    changeDutyCycle_of_neg ((tenth_neg_iff _).mpr hneg) this
  by_cases hforward : req.forward
  · simp only [if_pos hforward]
    by_cases hneg : req.speed < -negligible
    · rw [if_pos hneg, bind_of_error (hnegative hneg ..)]
    · rw [if_neg hneg, bind_of_ok (hpercent hneg ..), bind_of_ok (changeDutyCycle_zero ..)]
      rfl
  · simp only [if_neg hforward]
    rw [bind_of_ok (changeDutyCycle_zero ..)]
    by_cases hneg : req.speed < -negligible
    · rw [if_pos hneg, bind_of_error (hnegative hneg ..)]
    · rw [if_neg hneg, bind_of_ok (hpercent hneg ..)]
      rfl

theorem handle_motor (req : SetMotorSpeed) (this : PMWController) :
    handle (.motor req) this =
      if 8 < req.speed then .error .assertionError this
      else if req.speed = 0 then .ok () ((this.drive .pwmMotor1 0).drive .pwmMotor2 0)
      else if req.forward then
        if req.speed < -negligible then .error .valueError this
        else .ok () ((this.drive .pwmMotor1 (trueDiv req.speed 10)).drive .pwmMotor2 0)
      else if req.speed < -negligible then .error .valueError (this.drive .pwmMotor1 0)
      else .ok () ((this.drive .pwmMotor1 0).drive .pwmMotor2 (trueDiv req.speed 10)) := by
  have hcallback := motorControlCallback_eq req this
  rw [handle]
  split_ifs at hcallback ⊢
  all_goals first
    | exact bind_of_ok hcallback
    | exact bind_of_error hcallback

theorem handle_led (req : SetLedBrightness) (this : PMWController) :
    handle (.led req) this =
      if req.brightness < 0 then .error .valueError this
      else .ok () (this.drive .pwmLed (trueDiv (min req.brightness 1005 : ℤ) 1005)) := by
  have hclamp : (if req.brightness > 1005 then { req with brightness := 1005 } else req) =
      ({ brightness := min req.brightness 1005 } : SetLedBrightness) := by
    split
    · rw [min_eq_right (by omega)]
    · rw [min_eq_left (by omega)]
  rw [handle, ledControlCallback]
  simp only [hclamp, bind_assoc]
  by_cases hneg : req.brightness < 0
  · have hduty := (trueDiv_brightness_neg_iff (min req.brightness 1005)).mpr
      (min_lt_of_left_lt hneg)
    rw [if_pos hneg, bind_of_error (changeDutyCycle_of_neg hduty this)]
  · have hlow : (0 : ℤ) ≤ min req.brightness 1005 := le_min (not_lt.mp hneg) (by norm_num)
    have hduty := not_lt.mp (mt (trueDiv_brightness_neg_iff _).mp (not_lt.mpr hlow))
    have hhundred := brightness_le_hundred hlow (min_le_right ..)
    rw [if_neg hneg, bind_of_ok (changeDutyCycle_of_mem hduty hhundred this)]
    rfl

/-- The constructor's state: all three channels started, the lights driven once. -/
def built (initialBrightness : ℤ) : PMWController :=
  (((PMWController.start {} .pwmMotor1 0).start .pwmMotor2 0).start .pwmLed 0).drive .pwmLed
    (trueDiv initialBrightness 1005)

theorem eq_built_of_init {initialBrightness : ℤ} {this : PMWController}
    (h : init initialBrightness {} = .ok () this) : this = built initialBrightness := by
  change changeDutyCycle .pwmLed (trueDiv initialBrightness 1005)
    (((PMWController.start {} .pwmMotor1 0).start .pwmMotor2 0).start .pwmLed 0) = _ at h
  rw [changeDutyCycle] at h
  split at h
  · cases h
  · cases h
    rfl

/-- The constructor's state with the default brightness. -/
def started : PMWController := final (init 800 {})

theorem init_started : init 800 {} = .ok () started := by
  have hmem : changeDutyCycle .pwmLed (trueDiv (800 : ℤ) 1005)
      (((PMWController.start {} .pwmMotor1 0).start .pwmMotor2 0).start .pwmLed 0) = .ok () _ :=
    changeDutyCycle_of_mem
      (not_lt.mp (mt (trueDiv_brightness_neg_iff _).mp (by decide)))
      (brightness_le_hundred (by decide) (by decide)) _
  change changeDutyCycle .pwmLed (trueDiv (800 : ℤ) 1005) _ = .ok () (final (changeDutyCycle ..))
  rw [hmem]
  rfl

end Ilumo.Control
