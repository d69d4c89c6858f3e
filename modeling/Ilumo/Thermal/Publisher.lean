import Ilumo.Lib.FloatingPoint
import Ilumo.Lib.Script
import Ilumo.Ros.Messages
import Ilumo.Thermal.Frame

/-!
# The thermal camera node

The node keeps three messages and fills them anew in every invocation of its callback, one field at
a time, before it publishes them. The callback is a script: what it has filled before an exception
stays filled. Every number that is divided by is recorded, whether the division is Python's, which
raises on zero, or NumPy's, which does not. NumPy computes with `float16`, so it rounds every result
to the nearest one. The colour map and the byte that a value which is no number is converted to are
the libraries' own and parameters.
-/

namespace Ilumo.Thermal

open FloatingPoint Grid

inductive PyError where
  | zeroDivisionError
  | typeError
  | valueError
  | assertionError
  deriving DecidableEq, Repr

structure FrameHeader where
  senxorTemperature : ℚ
  deriving DecidableEq, Repr

/-- What `MI48.read` returns: `(None, None)`, or a frame with the header, if there is a bridge that
provides one. -/
inductive ReadResult (nc nr : Nat) where
  | nothing
  | frame (data : SensorData nc nr) (header : Option FrameHeader)

/-- What an invocation of the callback reads: the camera, the clock and the parameter. -/
structure Invocation (nc nr : Nat) where
  result : ReadResult nc nr
  nanoseconds : Nat
  updown : Bool

structure ThermalCameraPublisher where
  lastImgTs : Nat := 0
  dataMsg : ThermalImage
  imgMsg : Image
  tempMsg : Temperature
  -- what has left on the three topics
  thermalData : List ThermalImage := []
  images : List Image := []
  temperatures : List Temperature := []
  -- what has been divided by, latest last
  divisors : List ℚ := []

/-- The constructor, with the array of the camera in place of 80 columns and 62 rows. -/
def ThermalCameraPublisher.new (nc nr : Nat) : ThermalCameraPublisher where
  dataMsg :=
    { header := { frameId := "thermal_camera" }
      height := nr
      width := nc
      step := nc * 4
      encoding := "32FC1" }
  imgMsg :=
    { header := { frameId := "thermal_camera" }
      height := nr
      width := nc
      step := nc * 3
      encoding := "bgr8" }
  tempMsg := { header := {}, temperature := 0 }

abbrev Action := EStateM PyError ThermalCameraPublisher

/-! ### The library calls -/

def ThermalCameraPublisher.note (this : ThermalCameraPublisher) (divisor : ℚ) :
    ThermalCameraPublisher :=
  { this with divisors := this.divisors ++ [divisor] }

/-- Python's division of numbers. -/
def divide (dividend divisor : ℚ) : Action ℚ := do
  modify fun this => this.note divisor
  if divisor = 0 then throw .zeroDivisionError else return dividend / divisor

variable {nc nr : Nat}

/-- NumPy's division of an array by a number; over zero an entry is no number. -/
def divideArray (dividends : Grid nr nc ℚ) (divisor : ℚ) : Action (Grid nr nc (Option ℚ)) := do
  modify fun this => this.note divisor
  return fun r c => if divisor = 0 then none else some (half (dividends r c / divisor))

/-- `out.astype('uint8')` on an entry of the range 0 to 255. -/
def toUInt8 (notANumber : UInt8) : Option ℚ → UInt8
  | some x => UInt8.ofNat x.floor.toNat
  | none => notANumber

/-- `remap` with its default arguments. -/
def remap (notANumber : UInt8) (data : Grid nr nc ℚ) : Action (Grid nr nc UInt8) := do
  let lo2 := 0
  let hi2 := 255
  match (flatten data).min?, (flatten data).max? with
  | some lo1, some hi1 =>
      let relpos ← divideArray (fun r c => half (data r c - lo1)) (half (hi1 - lo1))
      -- the sum is exact, `lo2` being zero
      let out := fun r c => (relpos r c).map fun x => lo2 + half (x * (hi2 - lo2))
      return fun r c => toUInt8 notANumber (out r c)
  | _, _ => throw .valueError

abbrev Bgr := UInt8 × UInt8 × UInt8

def bgrBytes (colour : Bgr) : List UInt8 := [colour.1, colour.2.1, colour.2.2]

def applyColorMap (colorMap : UInt8 → Bgr) (image : Grid nr nc UInt8) : Grid nr nc Bgr :=
  fun r c => colorMap (image r c)

/-- The `data` of `cv2_to_imgmsg(heatmap, encoding='bgr8')`. -/
def imgmsgData (heatmap : Grid nr nc Bgr) : List UInt8 := (flatten heatmap).flatMap bgrBytes

def timeOf (nanoseconds : Nat) : Time where
  sec := Int32.ofNat (nanoseconds / 10 ^ 9)
  nanosec := UInt32.ofNat (nanoseconds % 10 ^ 9)

/-- The setter of a stamp's seconds asserts that they are an `int32`. -/
def toMsg (nanoseconds : Nat) : Action Time :=
  if nanoseconds / 10 ^ 9 < 2 ^ 31 then return timeOf nanoseconds else throw .assertionError

/-- `header['senxor_temperature']`. -/
def senxorTemperature : Option FrameHeader → Action ℚ
  | some header => return header.senxorTemperature
  | none => throw .typeError

/-! ### The callback -/

/-- The debug messages, whose arguments are computed at every log level. -/
def logFrequency (nanoseconds : Nat) : Action Unit := do
  let _ ← divide nanoseconds (10 ^ 9)
  let this ← get
  if this.lastImgTs ≠ 0 then
    let _ ← divide (10 ^ 9) (nanoseconds - this.lastImgTs)

def fillMessages (colorMap : UInt8 → Bgr) (notANumber : UInt8) (frame : Grid nr nc ℚ)
    (header : Option FrameHeader) (nanoseconds : Nat) : Action Unit := do
  let heatmap := applyColorMap colorMap (← remap notANumber frame)
  modify fun this => { this with dataMsg := { this.dataMsg with data := flatten frame } }
  modify fun this => { this with imgMsg := { this.imgMsg with data := imgmsgData heatmap } }
  let stamp ← toMsg nanoseconds
  modify fun this => { this with
    dataMsg := { this.dataMsg with header := { this.dataMsg.header with stamp } } }
  let stamp ← toMsg nanoseconds
  modify fun this => { this with
    imgMsg := { this.imgMsg with header := { this.imgMsg.header with stamp } } }
  let temperature ← senxorTemperature header
  modify fun this => { this with tempMsg := { this.tempMsg with temperature } }
  let stamp ← toMsg nanoseconds
  modify fun this => { this with
    tempMsg := { this.tempMsg with header := { this.tempMsg.header with stamp } } }

def ThermalCameraPublisher.publish (this : ThermalCameraPublisher) : ThermalCameraPublisher :=
  { this with
    thermalData := this.thermalData ++ [this.dataMsg]
    images := this.images ++ [this.imgMsg]
    temperatures := this.temperatures ++ [this.tempMsg] }

def thermalcameraCallback (colorMap : UInt8 → Bgr) (notANumber : UInt8)
    (invocation : Invocation nc nr) : Action Unit := do
  logFrequency invocation.nanoseconds
  modify fun this => { this with lastImgTs := invocation.nanoseconds }
  match invocation.result with
  | .nothing => return
  | .frame data header =>
      let frame := thermalFrame invocation.updown data
      fillMessages colorMap notANumber frame header invocation.nanoseconds
      modify fun this => this.publish

/-- `rclpy.spin`: an exception that escapes the callback ends it. -/
def spin (colorMap : UInt8 → Bgr) (notANumber : UInt8) (invocations : List (Invocation nc nr)) :
    Action Unit :=
  invocations.forM (thermalcameraCallback colorMap notANumber)

end Ilumo.Thermal
