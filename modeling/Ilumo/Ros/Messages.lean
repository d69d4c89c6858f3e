import Ilumo.Ros.Time
import Mathlib.Data.Rat.Defs

/-!
# The published message types

The fields that the callbacks write or read. A `float32` of a point cloud is never computed with,
so there it is an opaque word; every other floating-point value is taken as its exact rational.
-/

namespace Ilumo

/-- The 4-byte word of a `float32`. -/
abbrev FloatWord := UInt32

structure PointField where
  name : String
  offset : UInt32
  datatype : UInt8
  count : UInt32
  deriving DecidableEq, Repr

def PointField.uint8 : UInt8 := 2

def PointField.uint32 : UInt8 := 6

def PointField.float32 : UInt8 := 7

/-- `sensor_msgs/msg/PointCloud2`, as its default constructor leaves it. -/
structure PointCloud2 where
  header : Header := {}
  height : UInt32 := 0
  width : UInt32 := 0
  fields : List PointField := []
  isBigendian : Bool := false
  pointStep : UInt32 := 0
  rowStep : UInt32 := 0
  data : List UInt8 := []
  isDense : Bool := false
  deriving DecidableEq, Repr

structure Vector3 (α : Type) where
  x : α
  y : α
  z : α
  deriving DecidableEq, Repr

def Vector3.components {α : Type} (v : Vector3 α) : List α := [v.x, v.y, v.z]

structure ImuSingle where
  stamp : Time
  angularVelocity : Vector3 ℚ
  linearAcceleration : Vector3 ℚ
  deriving DecidableEq, Repr

structure ImuBurst where
  frameId : String := ""
  burst : List ImuSingle := []
  deriving DecidableEq, Repr

/-- `sensor_msgs/msg/Imu`. The components of an averaged message are quotients, so their type is
left open. -/
structure Imu (α : Type) where
  header : Header
  angularVelocity : Vector3 α
  linearAcceleration : Vector3 α
  deriving DecidableEq, Repr

structure MagneticField where
  header : Header
  magneticField : Vector3 ℚ
  deriving DecidableEq, Repr

structure FluidPressure where
  header : Header
  fluidPressure : ℚ
  deriving DecidableEq, Repr

structure Temperature where
  header : Header
  temperature : ℚ
  deriving DecidableEq, Repr

structure RelativeHumidity where
  header : Header
  relativeHumidity : ℚ
  deriving DecidableEq, Repr

/-- `sensor_msgs/msg/Image`, as its default constructor leaves it. -/
structure Image where
  header : Header := {}
  height : Nat := 0
  width : Nat := 0
  encoding : String := ""
  step : Nat := 0
  data : List UInt8 := []
  deriving DecidableEq, Repr

/-- `ilumo_interfaces/msg/ThermalImage`. -/
structure ThermalImage where
  header : Header := {}
  height : Nat := 0
  width : Nat := 0
  encoding : String := ""
  step : Nat := 0
  data : List ℚ := []
  deriving DecidableEq, Repr

end Ilumo
