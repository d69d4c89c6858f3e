import Ilumo.Lib.FloatingPoint
import Ilumo.Lib.Script
import Mathlib.Logic.Function.Basic
import Mathlib.Data.Rat.Defs

/-!
# The motor and light controller

`PMWController` drives three PWM channels: two for the two directions of the motor and one for the
lights. Its callbacks change the channels one call at a time and may raise between two calls, so
they are scripts, and the state records the duty cycles after every single call. A `float` is taken
as its exact rational, NaN and the infinities left out, and a division is rounded to the nearest
one.
-/

namespace Ilumo.Control

inductive PyError where
  | valueError
  | assertionError
  deriving DecidableEq, Repr

inductive Channel where
  | pwmMotor1
  | pwmMotor2
  | pwmLed
  deriving DecidableEq, Repr

abbrev Duty := Channel → ℚ

structure PMWController where
  duty : Duty := fun _ => 0
  running : Channel → Bool := fun _ => false
  -- the duty cycles after each call of `ChangeDutyCycle`, latest last
  calls : List Duty := []

abbrev Action := EStateM PyError PMWController

/-! ### The PWM calls -/

def PMWController.start (this : PMWController) (channel : Channel) (percent : ℚ) :
    PMWController :=
  { this with
    duty := Function.update this.duty channel percent
    running := Function.update this.running channel true }

def PMWController.drive (this : PMWController) (channel : Channel) (percent : ℚ) :
    PMWController :=
  { this with
    duty := Function.update this.duty channel percent
    calls := this.calls ++ [Function.update this.duty channel percent] }

def start (channel : Channel) (percent : ℚ) : Action Unit :=
  modify fun this => this.start channel percent

def changeDutyCycle (channel : Channel) (dutyCyclePercent : ℚ) : Action Unit :=
  if dutyCyclePercent < 0 ∨ 100 < dutyCyclePercent then throw .valueError
  else modify fun this => this.drive channel dutyCyclePercent

/-! ### The requests -/

inductive PyNumber where
  | int (n : ℤ)
  | float (x : ℚ)
  deriving DecidableEq, Repr

/-- The operator `/`, on two floats or two integers. -/
def trueDiv (x y : ℚ) : ℚ := FloatingPoint.double (x / y)

structure SetMotorSpeed where
  speed : ℚ
  forward : Bool
  deriving DecidableEq, Repr

structure SetLedBrightness where
  brightness : ℤ
  deriving DecidableEq, Repr

/-- The setter of a `float64` field asserts that it is given a `float`. -/
def SetMotorSpeed.setSpeed (req : SetMotorSpeed) : PyNumber → Action SetMotorSpeed
  | .float x => return { req with speed := x }
  | .int _ => throw .assertionError

/-! ### The node -/

/-- `__init__`, with the value of the `led_brightness` parameter. -/
def init (initialBrightness : ℤ) : Action Unit := do
  start .pwmMotor1 0
  start .pwmMotor2 0
  start .pwmLed 0
  changeDutyCycle .pwmLed (trueDiv initialBrightness 1005)

def motorControlCallback (req : SetMotorSpeed) : Action Bool := do
  -- the limit is assigned as the integer expression `8-0`
  let req ← if req.speed > 8 then req.setSpeed (.int (8 - 0)) else pure req
  if req.speed = 0 then
    changeDutyCycle .pwmMotor1 0
    changeDutyCycle .pwmMotor2 0
  else if req.forward then
    changeDutyCycle .pwmMotor1 (trueDiv req.speed 10)
    changeDutyCycle .pwmMotor2 0
  else
    changeDutyCycle .pwmMotor1 0
    changeDutyCycle .pwmMotor2 (trueDiv req.speed 10)
  return true

def ledControlCallback (req : SetLedBrightness) : Action Bool := do
  let req := if req.brightness > 1005 then { req with brightness := 1005 } else req
  changeDutyCycle .pwmLed (trueDiv req.brightness 1005)
  return true

inductive Request where
  | motor (req : SetMotorSpeed)
  | led (req : SetLedBrightness)
  deriving DecidableEq, Repr

def handle : Request → Action Unit
  | .motor req => do
      let _ ← motorControlCallback req
  | .led req => do
      let _ ← ledControlCallback req

/-- `rclpy.spin`: an exception that escapes a callback ends it. -/
def spin (requests : List Request) : Action Unit := requests.forM handle

end Ilumo.Control
