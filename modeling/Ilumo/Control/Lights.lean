import Ilumo.Control.Callbacks

/-!
# The lights over a run

The constructor and the service give the lights the same duty cycle for the same brightness, but as
a fraction of one where the call takes percent, and a negative brightness makes the call raise. So
the lights follow the requested brightness only as long as it is zero.
-/

namespace Ilumo.Control

open Script

/-- The brightness that has been asked for last, of the parameter and the requests. -/
def latestBrightness (initialBrightness : ℤ) (requests : List Request) : ℤ :=
  requests.foldl (fun latest request =>
    match request with
    | .led req => req.brightness
    | .motor _ => latest) initialBrightness

/-- The duty cycle in percent for a brightness, limited to the lamps' range. -/
def percentOf (brightness : ℤ) : ℚ := 100 * ((max 0 (min brightness 1005) : ℤ) : ℚ) / 1005

/-- A motor request does not raise. -/
def MotorSucceeds (this : PMWController) : Request → Prop
  | .motor req => ∃ this', handle (.motor req) this = .ok () this'
  | .led _ => True

/-- No light request of the run raises, after every step the lights are at the latest brightness,
and neither kind of request touches the channels of the other. -/
structure LightsFollow (initialBrightness : ℤ) (this : PMWController) (requests : List Request) :
    Prop where
  accepted : ∀ pre req mid, pre ++ [.led req] <+: requests → spin pre this = .ok () mid →
    ∃ this', handle (.led req) mid = .ok () this'
  duty : ∀ pre mid, pre <+: requests → spin pre this = .ok () mid →
    mid.duty .pwmLed = percentOf (latestBrightness initialBrightness pre)
  motorKeeps : ∀ pre req mid, pre ++ [.motor req] <+: requests → spin pre this = .ok () mid →
    (final (handle (.motor req) mid)).duty .pwmLed = mid.duty .pwmLed
  ledKeeps : ∀ pre req mid, pre ++ [.led req] <+: requests → spin pre this = .ok () mid →
    (final (handle (.led req) mid)).duty .pwmMotor1 = mid.duty .pwmMotor1 ∧
      (final (handle (.led req) mid)).duty .pwmMotor2 = mid.duty .pwmMotor2

/-! ### The channels a request touches -/

theorem duty_drive_self (channel : Channel) (percent : ℚ) (this : PMWController) :
    (this.drive channel percent).duty channel = percent :=
  Function.update_self ..

theorem duty_drive_of_ne {channel other : Channel} (hne : other ≠ channel) (percent : ℚ)
    (this : PMWController) : (this.drive channel percent).duty other = this.duty other :=
  Function.update_of_ne hne ..

theorem duty_led_handle_motor (req : SetMotorSpeed) (this : PMWController) :
    (final (handle (.motor req) this)).duty .pwmLed = this.duty .pwmLed := by
  have hdrive (channel : Channel) (percent : ℚ) (this : PMWController)
      (hne : .pwmLed ≠ channel) : (this.drive channel percent).duty .pwmLed = this.duty .pwmLed :=
    duty_drive_of_ne hne percent this
  rw [handle_motor]
  split_ifs
  all_goals simp [hdrive]

theorem duty_motor_handle_led (req : SetLedBrightness) (this : PMWController) {channel : Channel}
    (hne : channel ≠ .pwmLed) :
    (final (handle (.led req) this)).duty channel = this.duty channel := by
  rw [handle_led]
  split_ifs
  · rfl
  · exact duty_drive_of_ne hne ..

/-! ### The light channel -/

theorem latestBrightness_led (initialBrightness : ℤ) (pre : List Request)
    (req : SetLedBrightness) :
    latestBrightness initialBrightness (pre ++ [.led req]) = req.brightness := by
  rw [latestBrightness, List.foldl_append]
  rfl

theorem latestBrightness_motor (initialBrightness : ℤ) (pre : List Request)
    (req : SetMotorSpeed) :
    latestBrightness initialBrightness (pre ++ [.motor req]) =
      latestBrightness initialBrightness pre := by
  rw [latestBrightness, List.foldl_append]
  rfl

/-- A fraction of the full brightness is right up to its last bit. -/
theorem abs_trueDiv_brightness_sub_le {x : ℚ} (hlit : 1 / 1005 ≤ x / 1005) :
    |trueDiv x 1005 - x / 1005| ≤ x / 1005 / 2 ^ 53 := by
  have hpos : 0 < x / 1005 := lt_of_lt_of_le (by norm_num) hlit
  have hnormal : (2 : ℚ) ^ (-1022 : ℤ) ≤ |x / 1005| := by
    calc (2 : ℚ) ^ (-1022 : ℤ) ≤ 2 ^ (-10 : ℤ) := zpow_le_zpow_right₀ (by norm_num) (by norm_num)
      _ ≤ 1 / 1005 := by norm_num
      _ ≤ |x / 1005| := hlit.trans (le_abs_self _)
  have hround := FloatingPoint.binary64.abs_round_sub_le_mul hnormal
  rw [abs_of_pos hpos] at hround
  exact hround

/-- A fraction of one is the same in percent only at zero, and rounding does not make up for it. -/
theorem fraction_eq_percentOf_iff {brightness : ℤ} (hlow : 0 ≤ brightness) :
    trueDiv (min brightness 1005 : ℤ) 1005 = percentOf brightness ↔ brightness = 0 := by
  have hclamp : max 0 (min brightness 1005) = min brightness 1005 := max_eq_right (by omega)
  rw [percentOf, hclamp]
  refine ⟨?_, ?_⟩
  · intro h
    by_contra hlit
    have hone : (1 : ℚ) ≤ (min brightness 1005 : ℤ) := by
      exact_mod_cast (show 1 ≤ min brightness 1005 by omega)
    have hfraction : (1 : ℚ) / 1005 ≤ (min brightness 1005 : ℤ) / 1005 := by gcongr
    have hround := abs_trueDiv_brightness_sub_le (x := (min brightness 1005 : ℤ)) hfraction
    rw [h, mul_div_assoc] at hround
    linarith [(abs_le.mp hround).2]
  · intro h
    rw [h]
    norm_num [trueDiv]

theorem handle_led_eq_ok {req : SetLedBrightness} {this this' : PMWController}
    (h : handle (.led req) this = .ok () this') :
    0 ≤ req.brightness ∧
      this'.duty .pwmLed = trueDiv (min req.brightness 1005 : ℤ) 1005 := by
  rw [handle_led] at h
  split_ifs at h with hneg
  · cases h
    exact ⟨not_lt.mp hneg, duty_drive_self ..⟩

/-- The constructor leaves the lights at the parameter, as a fraction of one. -/
theorem duty_led_init {initialBrightness : ℤ} {this : PMWController}
    (h : init initialBrightness {} = .ok () this) :
    this.duty .pwmLed = trueDiv initialBrightness 1005 := by
  rw [eq_built_of_init h]
  exact duty_drive_self ..

/-! ### Runs -/

variable {initialBrightness : ℤ} {this : PMWController} {requests : List Request}

/-- A run whose requests all succeed reaches a state after each prefix. -/
theorem exists_spin_of_accepted (hmotor : Admits handle MotorSucceeds this requests)
    (haccepted : ∀ pre req mid, pre ++ [.led req] <+: requests → spin pre this = .ok () mid →
      ∃ this', handle (.led req) mid = .ok () this')
    {pre : List Request} (hpre : pre <+: requests) : ∃ mid, spin pre this = .ok () mid := by
  obtain ⟨post, rfl⟩ := hpre
  apply exists_ok_of_admits (fun _ _ => id)
  intro front request back mid hsplit hfront
  cases request with
  | motor req =>
      apply hmotor front (.motor req) (back ++ post) mid _ hfront
      rw [hsplit, List.append_assoc, List.cons_append]
  | led req =>
      apply haccepted front req mid _ hfront
      exact ⟨back ++ post, by simp [hsplit]⟩

/-- While only zero brightness is asked for, the lights stay off. -/
theorem duty_led_spin (hoff : this.duty .pwmLed = 0) {pre : List Request}
    (hzero : ∀ req, .led req ∈ pre → req.brightness = 0) {mid : PMWController}
    (hrun : spin pre this = .ok () mid) :
    mid.duty .pwmLed = 0 ∧ latestBrightness 0 pre = 0 := by
  induction pre using List.reverseRecOn generalizing mid with
  | nil =>
      cases hrun
      exact ⟨hoff, rfl⟩
  | append_singleton pre request ih =>
      obtain ⟨before, hbefore, hlast⟩ := forM_append_eq_ok.mp hrun
      rw [forM_singleton] at hlast
      obtain ⟨hled, hlatest⟩ :=
        ih (fun req hreq => hzero req (List.mem_append_left _ hreq)) hbefore
      cases request with
      | motor req =>
          have hkeeps := duty_led_handle_motor req before
          rw [hlast] at hkeeps
          exact ⟨hkeeps.trans hled, (latestBrightness_motor ..).trans hlatest⟩
      | led req =>
          have hreq : req.brightness = 0 := hzero req (by simp)
          refine ⟨?_, (latestBrightness_led ..).trans hreq⟩
          rw [(handle_led_eq_ok hlast).2, hreq]
          norm_num [trueDiv]

theorem LightsFollow.initial_eq_zero (h : LightsFollow initialBrightness this requests)
    (hrange : 0 ≤ initialBrightness ∧ initialBrightness ≤ 1005)
    (hinit : init initialBrightness {} = .ok () this) : initialBrightness = 0 := by
  have hfirst := h.duty [] this List.nil_prefix rfl
  rw [duty_led_init hinit] at hfirst
  apply (fraction_eq_percentOf_iff hrange.1).mp
  rw [min_eq_left hrange.2]
  exact hfirst

/-- **When the lights follow the requested brightness.** With successful motor requests in between,
exactly when no brightness but zero is ever asked for, by the parameter or by a request. -/
theorem lightsFollow_iff (hrange : 0 ≤ initialBrightness ∧ initialBrightness ≤ 1005)
    (hinit : init initialBrightness {} = .ok () this)
    (hmotor : Admits handle MotorSucceeds this requests) :
    LightsFollow initialBrightness this requests ↔
      initialBrightness = 0 ∧ ∀ req, .led req ∈ requests → req.brightness = 0 := by
  refine ⟨?_, ?_⟩
  · intro hfollow
    refine ⟨hfollow.initial_eq_zero hrange hinit, fun req hreq => ?_⟩
    obtain ⟨pre, post, rfl⟩ := List.append_of_mem hreq
    have hprefix : pre ++ [.led req] <+: pre ++ .led req :: post := ⟨post, by simp⟩
    obtain ⟨mid, hmid⟩ := exists_spin_of_accepted hmotor hfollow.accepted
      (List.prefix_append pre _)
    obtain ⟨this', hthis'⟩ := hfollow.accepted pre req mid hprefix hmid
    have hrun : spin (pre ++ [.led req]) this = .ok () this' :=
      forM_append_eq_ok.mpr ⟨mid, hmid, (forM_singleton _ mid).trans hthis'⟩
    have hduty := hfollow.duty _ this' hprefix hrun
    obtain ⟨hlow, hled⟩ := handle_led_eq_ok hthis'
    rw [hled, latestBrightness_led] at hduty
    exact (fraction_eq_percentOf_iff hlow).mp hduty
  · intro hzero
    obtain ⟨rfl, hzero⟩ := hzero
    have hoff : this.duty .pwmLed = 0 := by
      rw [duty_led_init hinit]
      norm_num [trueDiv]
    refine ⟨?_, ?_, ?_, ?_⟩
    · intro pre req mid hpre _
      have hreq : req.brightness = 0 := hzero req (hpre.subset (by simp))
      refine ⟨mid.drive .pwmLed (trueDiv (min req.brightness 1005 : ℤ) 1005), ?_⟩
      rw [handle_led, if_neg (by omega)]
    · intro pre mid hpre hrun
      obtain ⟨hled, hlatest⟩ :=
        duty_led_spin hoff (fun req hreq => hzero req (hpre.subset hreq)) hrun
      rw [hled, hlatest]
      norm_num [percentOf]
    · intro pre req mid _ _
      exact duty_led_handle_motor req mid
    · intro pre req mid _ _
      exact ⟨duty_motor_handle_led req mid (by decide), duty_motor_handle_led req mid (by decide)⟩

/-! ### Full brightness -/

theorem motorSucceeds_of_mem {req : SetMotorSpeed} (hlow : 0 ≤ req.speed) (hhigh : req.speed ≤ 8)
    (this : PMWController) : MotorSucceeds this (.motor req) := by
  rw [MotorSucceeds, handle_motor, if_neg (not_lt.mpr hhigh)]
  split_ifs
  all_goals first
    | exact ⟨_, rfl⟩
    | linarith [negligible_pos]

/-- The motor forward at 5 rpm, then the lights at their full brightness. -/
def fullBrightness : List Request :=
  [.motor { speed := 5, forward := true }, .led { brightness := 1005 }]

theorem admits_fullBrightness : Admits handle MotorSucceeds started fullBrightness := by
  intro pre request post mid hsplit _
  have hmem : request ∈ fullBrightness := by simp [hsplit]
  simp only [fullBrightness, List.mem_cons, List.not_mem_nil, or_false] at hmem
  rcases hmem with rfl | rfl
  · exact motorSucceeds_of_mem (by norm_num) (by norm_num) mid
  · trivial

theorem lightsFollow_iff_fullBrightness :
    LightsFollow 800 started fullBrightness ↔
      (800 : ℤ) = 0 ∧ ∀ req, .led req ∈ fullBrightness → req.brightness = 0 :=
  lightsFollow_iff (by decide) init_started admits_fullBrightness

/-- The constructor leaves the lights at 0.8 percent for 800 of 1005 lumens, and a negative
brightness raises. -/
theorem fullBrightness_not_lightsFollow :
    init 800 {} = .ok () started ∧ Admits handle MotorSucceeds started fullBrightness ∧
      ¬ LightsFollow 800 started fullBrightness ∧
      handle (.led { brightness := -1 }) started = .error .valueError started := by
  refine ⟨init_started, admits_fullBrightness, ?_, handle_led ..⟩
  intro hfollow
  exact absurd (hfollow.initial_eq_zero (by norm_num) init_started) (by norm_num)

end Ilumo.Control
