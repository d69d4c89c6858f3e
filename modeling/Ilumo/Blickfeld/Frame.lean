import Ilumo.Lib.Bytes
import Ilumo.Lib.Fallible
import Ilumo.Ros.Messages

/-!
# Frames as the scanner sends them

The protobuf messages of `blickfeld/protocol/data` with all that the client library reads or sets,
and the flat `frame_t` of `data.h`. A frame nests its returns in scanlines and points, or packs them
into big-endian arrays. Which scanline a point of a packed frame belongs to is computed from its id
and the scan pattern.
-/

namespace Ilumo.Blickfeld

open Bytes Fallible

/-- The 8-byte word of a `double`. -/
abbrev DoubleWord := UInt64

/-- What ends a conversion without a defined result. -/
inductive Fault where
  | readPastEnd (index : Nat)
  | writePastEnd (index : Nat)
  | nullPointer
  | divisionByZero
  | intOutOfRange
  deriving DecidableEq, Repr

structure Return where
  id? : Option UInt32 := none
  cartesian : List FloatWord := []
  range? : Option FloatWord := none
  intensity? : Option UInt32 := none
  deriving DecidableEq, Repr

structure Direction where
  azimuth? : Option FloatWord := none
  elevation? : Option FloatWord := none
  deriving DecidableEq, Repr

structure Point where
  id? : Option UInt32 := none
  returns : List Return := []
  startOffsetNs? : Option UInt64 := none
  ambientLightLevel? : Option UInt32 := none
  direction? : Option Direction := none
  channelId? : Option UInt32 := none
  deriving DecidableEq, Repr

structure Scanline where
  id? : Option UInt64 := none
  points : List Point := []
  startOffsetNs? : Option UInt64 := none
  deriving DecidableEq, Repr

/-- Every field but `length` is an array in one string of bytes. -/
structure Packed where
  length? : Option UInt32 := none
  cartesian? : Option (List UInt8) := none
  direction? : Option (List UInt8) := none
  range? : Option (List UInt8) := none
  intensity? : Option (List UInt8) := none
  ambientLightLevel? : Option (List UInt8) := none
  startOffsetNs? : Option (List UInt8) := none
  pointId? : Option (List UInt8) := none
  channelId? : Option (List UInt8) := none
  returnId? : Option (List UInt8) := none
  deriving DecidableEq, Repr

inductive FrameMode where
  | none
  | combineUpDown
  | onlyUp
  | onlyDown
  | separate
  deriving DecidableEq, Repr

/-- `config::ScanPattern`: its `pulse`, `vertical` and `frame_rate` parts, as far as they are read. -/
structure ScanPattern where
  frameMode? : Option FrameMode := none
  scanlinesUp? : Option UInt32 := none
  scanlinesDown? : Option UInt32 := none
  maximum? : Option DoubleWord := none
  deriving DecidableEq, Repr

structure Frame where
  id? : Option UInt64 := none
  startTimeNs? : Option UInt64 := none
  scanPattern? : Option ScanPattern := none
  isRampUpPhase? : Option Bool := none
  totalNumberOfPoints? : Option UInt32 := none
  totalNumberOfReturns? : Option UInt32 := none
  scanlines : List Scanline := []
  packed? : Option Packed := none
  deriving DecidableEq, Repr

def Return.range (ret : Return) : FloatWord := ret.range?.getD 0
def Return.intensity (ret : Return) : UInt32 := ret.intensity?.getD 0
def Point.id (point : Point) : UInt32 := point.id?.getD 0
def Point.ambientLightLevel (point : Point) : UInt32 := point.ambientLightLevel?.getD 0
def Scanline.id (scanline : Scanline) : UInt64 := scanline.id?.getD 0
def Packed.length (packed : Packed) : UInt32 := packed.length?.getD 0
def ScanPattern.frameMode (pattern : ScanPattern) : FrameMode :=
  pattern.frameMode?.getD .combineUpDown
def ScanPattern.scanlinesUp (pattern : ScanPattern) : UInt32 := pattern.scanlinesUp?.getD 40
def ScanPattern.scanlinesDown (pattern : ScanPattern) : UInt32 := pattern.scanlinesDown?.getD 40
def ScanPattern.maximum (pattern : ScanPattern) : DoubleWord := pattern.maximum?.getD 0
def Frame.id (frame : Frame) : UInt64 := frame.id?.getD 0
def Frame.startTimeNs (frame : Frame) : UInt64 := frame.startTimeNs?.getD 0
def Frame.scanPattern (frame : Frame) : ScanPattern := frame.scanPattern?.getD {}
def Frame.isRampUpPhase (frame : Frame) : Bool := frame.isRampUpPhase?.getD false
def Frame.totalNumberOfPoints (frame : Frame) : UInt32 := frame.totalNumberOfPoints?.getD 0
def Frame.totalNumberOfReturns (frame : Frame) : UInt32 := frame.totalNumberOfReturns?.getD 0

def Point.addReturn (point : Point) (ret : Return) : Point :=
  { point with returns := point.returns ++ [ret] }

def Scanline.addPoint (scanline : Scanline) (point : Point) : Scanline :=
  { scanline with points := scanline.points ++ [point] }

/-! ### The flat frame -/

structure PointT where
  id : UInt32 := 0
  x : FloatWord := 0
  y : FloatWord := 0
  z : FloatWord := 0
  range : FloatWord := 0
  intensity : UInt16 := 0
  ambientLightLevel : UInt16 := 0
  deriving DecidableEq, Repr

structure FrameT where
  id : UInt64 := 0
  points : List PointT := []
  frameRate : FloatWord := 0
  startTimeNs : UInt64 := 0
  deriving DecidableEq, Repr

/-! ### Arrays of packed words -/

/-- Element `i` of an array of big-endian words of `width` bytes. -/
def elementAt (width : Nat) (bytes : List UInt8) (i : Nat) : Nat :=
  beValue (slice bytes (i * width) width)

def load (width : Nat) (bytes : List UInt8) (i : Nat) : Except Fault Nat :=
  if (i + 1) * width ≤ bytes.length then .ok (elementAt width bytes i) else .error (.readPastEnd i)

theorem load_eq_ok {width : Nat} {bytes : List UInt8} {i : Nat}
    (hin : (i + 1) * width ≤ bytes.length) : load width bytes i = .ok (elementAt width bytes i) :=
  if_pos hin

/-- `be32toh` of element `i`. -/
def load32 (bytes : List UInt8) (i : Nat) : Except Fault UInt32 := UInt32.ofNat <$> load 4 bytes i

/-- `be64toh` of element `i`. -/
def load64 (bytes : List UInt8) (i : Nat) : Except Fault UInt64 := UInt64.ofNat <$> load 8 bytes i

/-- Element `i` of an array of `uint8_t`, widened to `uint32_t`. -/
def load8 (bytes : List UInt8) (i : Nat) : Except Fault UInt32 := UInt32.ofNat <$> load 1 bytes i

def at32 (bytes : List UInt8) (i : Nat) : UInt32 := UInt32.ofNat (elementAt 4 bytes i)
def at64 (bytes : List UInt8) (i : Nat) : UInt64 := UInt64.ofNat (elementAt 8 bytes i)
def at8 (bytes : List UInt8) (i : Nat) : UInt32 := UInt32.ofNat (elementAt 1 bytes i)

/-- The bytes hold at least `n` words of `width` bytes. -/
def Holds (width n : Nat) (bytes : List UInt8) : Prop := n * width ≤ bytes.length

instance (width n : Nat) (bytes : List UInt8) : Decidable (Holds width n bytes) :=
  inferInstanceAs (Decidable (_ ≤ _))

section Loads

variable {bytes : List UInt8} {n i : Nat}

theorem Holds.load {width : Nat} (h : Holds width n bytes) (hi : i < n) :
    load width bytes i = .ok (elementAt width bytes i) :=
  load_eq_ok ((Nat.mul_le_mul_right width hi).trans h)

theorem Holds.load32 (h : Holds 4 n bytes) (hi : i < n) : load32 bytes i = .ok (at32 bytes i) := by
  rw [Blickfeld.load32, h.load hi]
  rfl

theorem Holds.load64 (h : Holds 8 n bytes) (hi : i < n) : load64 bytes i = .ok (at64 bytes i) := by
  rw [Blickfeld.load64, h.load hi]
  rfl

theorem Holds.load8 (h : Holds 1 n bytes) (hi : i < n) : load8 bytes i = .ok (at8 bytes i) := by
  rw [Blickfeld.load8, h.load hi]
  rfl

end Loads

/-! ### Scanlines -/

def getTotalNumberOfScanlines (frame : Frame) : Int32 :=
  match frame.scanPattern? with
  | none => if 0 < frame.scanlines.length then Int32.ofNat frame.scanlines.length else -1
  | some pattern =>
      let up := pattern.frameMode = .onlyUp ∨ pattern.frameMode = .combineUpDown ∨
        (pattern.frameMode = .separate ∧ frame.isRampUpPhase)
      let down := pattern.frameMode = .onlyDown ∨ pattern.frameMode = .combineUpDown ∨
        (pattern.frameMode = .separate ∧ ¬frame.isRampUpPhase)
      ((if up then pattern.scanlinesUp else 0) + (if down then pattern.scanlinesDown else 0)).toInt32

/-- An unsigned division: the `int` of the scanlines is converted. -/
def numberOfPointsPerScanline (frame : Frame) : Except Fault Int32 :=
  let scanlines := (getTotalNumberOfScanlines frame).toUInt32
  if scanlines = 0 then .error .divisionByZero
  else .ok (frame.totalNumberOfPoints / scanlines).toInt32

def getScanlineIdByPointId (frame : Frame) (pointId : UInt32) : Except Fault Int32 := do
  let points := (← numberOfPointsPerScanline frame).toUInt32
  if points = 0 then .error .divisionByZero
  else if (pointId / points).toNat < 2 ^ 31 then .ok (pointId / points).toInt32
  else .error .intOutOfRange

end Ilumo.Blickfeld
