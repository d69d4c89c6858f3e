import Ilumo.Control.Callbacks

/-!
# The two sides of the H-bridge

The handler changes one motor channel and then the other. A stop zeroes both and a reverse request
zeroes the forward channel first, so neither ever has both channels driven. A forward request sets
its own channel before it zeroes the other, so between its two calls both are driven exactly when
the motor was running in reverse.
-/

namespace Ilumo.Control

open Script

def OneSide (duty : Duty) : Prop := duty .pwmMotor1 = 0 ∨ duty .pwmMotor2 = 0

instance (duty : Duty) : Decidable (OneSide duty) := inferInstanceAs (Decidable (_ ∨ _))

/-! ### The recorded duty cycles -/

def Recorded (this : PMWController) : Prop := this.duty ∈ this.calls

def NeverBoth (this : PMWController) : Prop := ∀ duty ∈ this.calls, OneSide duty

theorem recorded_drive (this : PMWController) (channel : Channel) (percent : ℚ) :
    Recorded (this.drive channel percent) :=
  List.mem_append_right _ (List.mem_singleton_self _)

theorem neverBoth_drive_iff {this : PMWController} {channel : Channel} {percent : ℚ} :
    NeverBoth (this.drive channel percent) ↔
      NeverBoth this ∧ OneSide (Function.update this.duty channel percent) := by
  simp only [NeverBoth, PMWController.drive, List.forall_mem_append, List.forall_mem_singleton]

/-- A forward request that is accepted and turns the motor finds the reverse channel at zero. -/
def ForwardFromRest (this : PMWController) : Request → Prop
  | .motor req =>
      req.forward → negligible < req.speed → req.speed ≤ 8 → this.duty .pwmMotor2 = 0
  | .led _ => True

theorem recorded_handle {this : PMWController} (h : Recorded this) (request : Request) :
    Recorded (final (handle request this)) := by
  cases request with
  | motor req =>
      rw [handle_motor]
      split_ifs
      all_goals first | exact h | exact recorded_drive ..
  | led req =>
      rw [handle_led]
      split_ifs
      · exact h
      · exact recorded_drive ..

theorem neverBoth_of_drive {this : PMWController} {channel : Channel} {percent : ℚ}
    (h : NeverBoth (this.drive channel percent)) : NeverBoth this :=
  (neverBoth_drive_iff.mp h).1

theorem neverBoth_of_handle {this : PMWController} {request : Request}
    (h : NeverBoth (final (handle request this))) : NeverBoth this := by
  cases request with
  | motor req =>
      rw [handle_motor] at h
      split_ifs at h
      · exact h
      · exact neverBoth_of_drive (neverBoth_of_drive h)
      · exact h
      · exact neverBoth_of_drive (neverBoth_of_drive h)
      · exact neverBoth_of_drive h
      · exact neverBoth_of_drive (neverBoth_of_drive h)
  | led req =>
      rw [handle_led] at h
      split_ifs at h
      · exact h
      · exact neverBoth_of_drive h

/-! ### The two calls of a motor request -/

section Calls

variable {this : PMWController} (hnever : NeverBoth this)

include hnever

theorem neverBoth_stop_first (percent : ℚ) :
    NeverBoth ((this.drive .pwmMotor1 0).drive .pwmMotor2 percent) := by
  rw [neverBoth_drive_iff, neverBoth_drive_iff]
  exact ⟨⟨hnever, .inl rfl⟩, .inl rfl⟩

theorem neverBoth_motor1_zero : NeverBoth (this.drive .pwmMotor1 0) :=
  neverBoth_drive_iff.mpr ⟨hnever, .inl rfl⟩

theorem neverBoth_forward_iff {percent : ℚ} (hpercent : percent ≠ 0) :
    NeverBoth ((this.drive .pwmMotor1 percent).drive .pwmMotor2 0) ↔
      this.duty .pwmMotor2 = 0 := by
  have hsecond : OneSide (Function.update (this.drive .pwmMotor1 percent).duty .pwmMotor2 0) :=
    .inr rfl
  rw [neverBoth_drive_iff, neverBoth_drive_iff, and_iff_left hsecond, and_iff_right hnever]
  exact or_iff_right hpercent

theorem neverBoth_led (hnow : OneSide this.duty) (percent : ℚ) :
    NeverBoth (this.drive .pwmLed percent) :=
  neverBoth_drive_iff.mpr ⟨hnever, hnow⟩

end Calls

theorem neverBoth_handle_iff {this : PMWController} (hrecorded : Recorded this)
    (hnever : NeverBoth this) (request : Request) :
    NeverBoth (final (handle request this)) ↔ ForwardFromRest this request := by
  cases request with
  | motor req =>
      rw [handle_motor, ForwardFromRest]
      by_cases hlimit : 8 < req.speed
      · rw [if_pos hlimit]
        exact iff_of_true hnever fun _ _ hle => absurd hlimit (not_lt.mpr hle)
      rw [if_neg hlimit]
      by_cases hstop : req.speed = 0
      · rw [if_pos hstop]
        refine iff_of_true (neverBoth_stop_first hnever 0) fun _ hpos => ?_
        exact absurd (negligible_pos.trans hpos) hstop.not_gt
      rw [if_neg hstop]
      by_cases hneg : req.speed < -negligible
      · rw [if_pos hneg, if_pos hneg]
        have hraised : ¬ negligible < req.speed := by linarith [negligible_pos]
        split
        · exact iff_of_true hnever fun _ hpos => absurd hpos hraised
        · exact iff_of_true (neverBoth_motor1_zero hnever) fun _ hpos => absurd hpos hraised
      rw [if_neg hneg, if_neg hneg]
      by_cases hforward : req.forward
      · rw [if_pos hforward, final_ok]
        by_cases hpos : negligible < req.speed
        · rw [neverBoth_forward_iff hnever ((tenth_pos_iff _).mpr hpos).ne']
          exact ⟨fun hzero _ _ _ => hzero, fun h => h hforward hpos (not_lt.mp hlimit)⟩
        · have hzero : trueDiv req.speed 10 = 0 := tenth_eq_zero (not_lt.mp hneg) (not_lt.mp hpos)
          rw [hzero]
          exact iff_of_true (neverBoth_stop_first hnever 0) fun _ h => absurd h hpos
      · rw [if_neg hforward]
        exact iff_of_true (neverBoth_stop_first hnever _) fun h => absurd h hforward
  | led req =>
      rw [handle_led]
      split
      · exact iff_of_true hnever trivial
      · exact iff_of_true (neverBoth_led hnever (hnever _ hrecorded) _) trivial

theorem neverBoth_spin_iff {this : PMWController} (hrecorded : Recorded this)
    (hnever : NeverBoth this) (requests : List Request) :
    NeverBoth (final (spin requests this)) ↔ Admits handle ForwardFromRest this requests :=
  safe_forM_iff (fun _ request h => recorded_handle h request) (fun _ _ => neverBoth_of_handle)
    (fun _ request hrecorded hnever => neverBoth_handle_iff hrecorded hnever request) hrecorded
    hnever

/-- The constructor leaves the motor at rest, with one recorded call, that of the lights. -/
theorem recorded_neverBoth_built (initialBrightness : ℤ) :
    Recorded (built initialBrightness) ∧ NeverBoth (built initialBrightness) := by
  refine ⟨recorded_drive .., ?_⟩
  intro duty hduty
  obtain rfl := List.mem_singleton.mp hduty
  exact .inl rfl

/-- **When the H-bridge is never driven from both sides.** From the constructor's state, over any
requests and after every single call, at most one motor channel is driven if and only if every
accepted forward request with a speed that is not negligible finds the reverse channel at zero. -/
theorem neverBoth_iff {initialBrightness : ℤ} {this : PMWController}
    (hinit : init initialBrightness {} = .ok () this) (requests : List Request) :
    NeverBoth (final (spin requests this)) ↔ Admits handle ForwardFromRest this requests := by
  obtain ⟨hrecorded, hnever⟩ := recorded_neverBoth_built initialBrightness
  rw [eq_built_of_init hinit]
  exact neverBoth_spin_iff hrecorded hnever requests

/-! ### Turning the motor around -/

def reverseThenForward : List Request :=
  [.motor { speed := 5, forward := false }, .motor { speed := 5, forward := true }]

theorem neverBoth_iff_reverseThenForward :
    NeverBoth (final (spin reverseThenForward started)) ↔
      Admits handle ForwardFromRest started reverseThenForward :=
  neverBoth_iff init_started reverseThenForward

/-- After the first call of the forward request both channels are driven. -/
theorem reverseThenForward_not_neverBoth :
    init 800 {} = .ok () started ∧ ¬ NeverBoth (final (spin reverseThenForward started)) := by
  refine ⟨init_started, ?_⟩
  intro hnever
  have hboth : ∃ duty ∈ (final (spin reverseThenForward started)).calls, ¬ OneSide duty := by
    decide +kernel
  obtain ⟨duty, hduty, hdriven⟩ := hboth
  exact hdriven (hnever duty hduty)

end Ilumo.Control
