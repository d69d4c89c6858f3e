import Ilumo.Control.Callbacks

/-!
# Motor requests, applied whole or not at all

A request that is served sets the channel of its direction and zeroes the other. A request that
raises leaves both channels alone, with one exception: a reverse request zeroes the forward channel
before it finds that its own duty cycle is negative. A speed above the limit is refused instead of
being reduced to the limit, since the limit is assigned as an integer.
-/

namespace Ilumo.Control

open Script

/-- The channel that turns the motor in the requested direction. -/
def SetMotorSpeed.selected (req : SetMotorSpeed) : Channel :=
  if req.forward then .pwmMotor1 else .pwmMotor2

def SetMotorSpeed.other (req : SetMotorSpeed) : Channel :=
  if req.forward then .pwmMotor2 else .pwmMotor1

/-- What the source commands for a speed, in percent. -/
def dutyOf (speed : ℚ) : ℚ := trueDiv speed 10

/-- The request succeeds, with the selected channel at the limited speed and the other at zero. -/
def Applied (req : SetMotorSpeed) (this : PMWController) : Prop :=
  ∃ this', motorControlCallback req this = .ok true this' ∧
    this'.duty req.selected = dutyOf (min req.speed 8) ∧
    0 ≤ dutyOf (min req.speed 8) ∧ dutyOf (min req.speed 8) ≤ 100 ∧
    this'.duty req.other = 0

/-- The request raises, with both motor channels as they were. -/
def Refused (req : SetMotorSpeed) (this : PMWController) : Prop :=
  ∃ exception this', motorControlCallback req this = .error exception this' ∧
    this'.duty .pwmMotor1 = this.duty .pwmMotor1 ∧ this'.duty .pwmMotor2 = this.duty .pwmMotor2

/-- The request is applied whole or not at all, and above the limit it is as if it were at it. -/
structure WholeOrNot (req : SetMotorSpeed) (this : PMWController) : Prop where
  atomic : Applied req this ∨ Refused req this
  saturates : 8 < req.speed →
    motorControlCallback req this = motorControlCallback { req with speed := 8 } this

variable {req : SetMotorSpeed} {this : PMWController}

theorem not_applied_of_error {exception : PyError} {this' : PMWController}
    (h : motorControlCallback req this = .error exception this') : ¬ Applied req this := by
  intro happlied
  obtain ⟨this'', hok, -⟩ := happlied
  rw [h] at hok
  cases hok

theorem refused_iff_of_error {exception : PyError} {this' : PMWController}
    (h : motorControlCallback req this = .error exception this') :
    Refused req this ↔
      this'.duty .pwmMotor1 = this.duty .pwmMotor1 ∧
        this'.duty .pwmMotor2 = this.duty .pwmMotor2 := by
  refine ⟨?_, ?_⟩
  · intro hrefused
    obtain ⟨exception', this'', herror, hsame⟩ := hrefused
    rw [h] at herror
    cases herror
    exact hsame
  · intro hsame
    exact ⟨exception, this', h, hsame⟩

theorem applied_of_mem (hlow : -negligible ≤ req.speed) (hhigh : req.speed ≤ 8) :
    Applied req this := by
  have hcallback := motorControlCallback_eq req this
  rw [if_neg (not_lt.mpr hhigh)] at hcallback
  have hnonneg : 0 ≤ dutyOf req.speed := not_lt.mp (mt (tenth_neg_iff _).mp (not_lt.mpr hlow))
  have hpercent : dutyOf req.speed ≤ 100 := tenth_le_hundred hlow hhigh
  rw [Applied, min_eq_left hhigh]
  by_cases hstop : req.speed = 0
  · rw [if_pos hstop] at hcallback
    refine ⟨_, hcallback, ?_, hnonneg, hpercent, ?_⟩
    · rw [hstop, dutyOf, trueDiv, zero_div, FloatingPoint.double_zero]
      cases hforward : req.forward <;> simp [SetMotorSpeed.selected, hforward, PMWController.drive]
    · cases hforward : req.forward <;> simp [SetMotorSpeed.other, hforward, PMWController.drive]
  rw [if_neg hstop] at hcallback
  by_cases hforward : req.forward
  · rw [if_pos hforward, if_neg (not_lt.mpr hlow)] at hcallback
    refine ⟨_, hcallback, ?_, hnonneg, hpercent, ?_⟩
    · simp [SetMotorSpeed.selected, hforward, PMWController.drive, dutyOf]
    · simp [SetMotorSpeed.other, hforward, PMWController.drive]
  · rw [if_neg hforward, if_neg (not_lt.mpr hlow)] at hcallback
    refine ⟨_, hcallback, ?_, hnonneg, hpercent, ?_⟩
    · simp [SetMotorSpeed.selected, hforward, PMWController.drive, dutyOf]
    · simp [SetMotorSpeed.other, hforward, PMWController.drive]

/-- A reverse request with a negative speed has zeroed the forward channel when it raises. -/
theorem applied_or_refused_iff (hhigh : req.speed ≤ 8) :
    Applied req this ∨ Refused req this ↔
      (req.forward = false → req.speed < -negligible → this.duty .pwmMotor1 = 0) := by
  by_cases hlow : -negligible ≤ req.speed
  · exact iff_of_true (.inl (applied_of_mem hlow hhigh)) fun _ hneg => absurd hlow (not_le.mpr hneg)
  have hneg : req.speed < -negligible := not_le.mp hlow
  have hmoving : req.speed ≠ 0 := (hneg.trans (neg_lt_zero.mpr negligible_pos)).ne
  have hcallback := motorControlCallback_eq req this
  rw [if_neg (not_lt.mpr hhigh), if_neg hmoving, if_pos hneg, if_pos hneg] at hcallback
  by_cases hforward : req.forward
  · rw [if_pos hforward] at hcallback
    have hrefused := (refused_iff_of_error hcallback).mpr ⟨rfl, rfl⟩
    exact iff_of_true (.inr hrefused) fun hreverse => absurd hforward (by simp [hreverse])
  · rw [if_neg hforward] at hcallback
    rw [or_iff_right (not_applied_of_error hcallback), refused_iff_of_error hcallback]
    simp [PMWController.drive, hforward, hneg, eq_comm]

/-- Above the limit the request raises, which at the limit it does not. -/
theorem not_saturates (habove : 8 < req.speed) :
    motorControlCallback req this ≠ motorControlCallback { req with speed := 8 } this := by
  have hlimit := motorControlCallback_eq req this
  rw [if_pos habove] at hlimit
  obtain ⟨this', hok, -⟩ :=
    @applied_of_mem { req with speed := 8 } this
      (show -negligible ≤ 8 by linarith [negligible_pos]) le_rfl
  rw [hlimit, hok]
  intro h
  cases h

/-- **When a motor request is applied whole or not at all.** In every state, it is exactly when its
speed is not above the limit and, in reverse while the forward channel is driven, not negative by
more than what is rounded to zero. -/
theorem wholeOrNot_iff (req : SetMotorSpeed) (this : PMWController) :
    WholeOrNot req this ↔
      req.speed ≤ 8 ∧
        (req.forward = false → req.speed < -negligible → this.duty .pwmMotor1 = 0) := by
  by_cases hhigh : req.speed ≤ 8
  · rw [and_iff_right hhigh, ← applied_or_refused_iff hhigh]
    exact ⟨WholeOrNot.atomic, fun h => ⟨h, fun habove => absurd hhigh (not_le.mpr habove)⟩⟩
  · refine iff_of_false ?_ fun h => hhigh h.1
    intro hwhole
    exact not_saturates (not_le.mp hhigh) (hwhole.saturates (not_le.mp hhigh))

/-! ### Two requests after a forward one -/

/-- The state after a forward request at 5 rpm. -/
def turningForward : PMWController := (started.drive .pwmMotor1 (dutyOf 5)).drive .pwmMotor2 0

theorem spin_turningForward :
    spin [.motor { speed := 5, forward := true }] started = .ok () turningForward := by
  have hhandle := handle_motor { speed := 5, forward := true } started
  have hpositive : ¬ (5 : ℚ) < -negligible := by linarith [negligible_pos]
  rw [if_neg (by norm_num), if_neg (by norm_num), if_pos rfl, if_neg hpositive] at hhandle
  exact forM_cons_of_ok hhandle

/-- A reverse request at -1 rpm stops the motor and raises, and one at 9 rpm raises. -/
theorem turningForward_not_wholeOrNot :
    init 800 {} = .ok () started ∧
      spin [.motor { speed := 5, forward := true }] started = .ok () turningForward ∧
      ¬ WholeOrNot { speed := -1, forward := false } turningForward ∧
      ¬ WholeOrNot { speed := 9, forward := true } turningForward := by
  refine ⟨init_started, spin_turningForward, ?_, ?_⟩
  · intro hwhole
    have hstopped := (applied_or_refused_iff (by norm_num)).mp hwhole.atomic rfl
      (show (-1 : ℚ) < -negligible by linarith [negligible_lt_one])
    have hdriven : turningForward.duty .pwmMotor1 = dutyOf 5 := rfl
    have hpositive : 0 < dutyOf 5 := (tenth_pos_iff 5).mpr (by linarith [negligible_lt_one])
    exact hpositive.ne' (hdriven.symm.trans hstopped)
  · intro hwhole
    exact not_saturates (by norm_num) (hwhole.saturates (by norm_num))

end Ilumo.Control
