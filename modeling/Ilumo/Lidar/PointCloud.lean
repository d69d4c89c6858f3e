import Ilumo.Lib.Bytes
import Ilumo.Lidar.Protocol

/-!
# Filling a point cloud message

The field table of the message, the write of one field of one record through it, and the three
nested loops that write a frame. The message is shared: the table is built once by
`makePointCloudMessage`, and each frame resizes and overwrites the data left by the one before.
-/

namespace Ilumo.Lidar

open Bytes

/-- A trivially copyable type: its `sizeof` and the number whose little-endian bytes a value has. -/
class Pod (α : Type) where
  size : Nat
  toNat : α → Nat

instance : Pod UInt32 := ⟨4, UInt32.toNat⟩
instance : Pod UInt64 := ⟨8, UInt64.toNat⟩

def Pod.bytes {α : Type} [Pod α] (value : α) : List UInt8 := leBytes (size α) (toNat value)

@[simp] theorem Pod.size_uint32 : size UInt32 = 4 := rfl

@[simp] theorem Pod.size_uint64 : size UInt64 = 8 := rfl

@[simp] theorem Pod.length_bytes {α : Type} [Pod α] (value : α) :
    (bytes value).length = size α :=
  length_leBytes _ _

/-- `addPointCloudField<FieldT>`, with `sizeof(FieldT)` as an argument. -/
def addPointCloudField (sizeofFieldT : UInt32) (pointCloudMsg : PointCloud2) (name : String)
    (datatype : UInt8) : PointCloud2 :=
  let field : PointField := { name, count := 1, datatype, offset := pointCloudMsg.pointStep }
  { pointCloudMsg with
    fields := pointCloudMsg.fields ++ [field]
    pointStep := pointCloudMsg.pointStep + sizeofFieldT }

def fieldIndexFrom (fieldName : String) : List PointField → Nat → Int32
  | [], _ => -1
  | field :: fields, fieldIndex =>
      if field.name = fieldName then Int32.ofNat fieldIndex
      else fieldIndexFrom fieldName fields (fieldIndex + 1)

def getPointCloud2FieldIndex (pointCloudMsg : PointCloud2) (fieldName : String) : Int32 :=
  fieldIndexFrom fieldName pointCloudMsg.fields 0

/-- `fields[field_index]`, with the index converted to `uint32_t`. -/
def fieldNamed (pointCloudMsg : PointCloud2) (fieldName : String) : Option PointField :=
  pointCloudMsg.fields[(getPointCloud2FieldIndex pointCloudMsg fieldName).toUInt32.toNat]?

/-- `point_index * point_step + offset`, in `size_t` arithmetic. -/
def fieldStart (pointCloudMsg : PointCloud2) (pointIndex : Nat) (field : PointField) : Nat :=
  (pointIndex * pointCloudMsg.pointStep.toNat + field.offset.toNat) % 2 ^ 64

/-- `assignField<ValueT>`: the bytes of `value` are stored from the offset of the named field in
record `pointIndex` on, whatever size the table declares for that field. -/
def assignField {α : Type} [Pod α] (pointCloudMsg : PointCloud2) (pointIndex : Nat)
    (fieldName : String) (value : α) : Except Fault PointCloud2 :=
  match fieldNamed pointCloudMsg fieldName with
  | none => .error (.fieldOutOfRange fieldName)
  | some field =>
      let start := fieldStart pointCloudMsg pointIndex field
      if start + Pod.size α ≤ pointCloudMsg.data.length then
        .ok { pointCloudMsg with data := patch pointCloudMsg.data start (Pod.bytes value) }
      else
        .error (.writeOutOfRange start (Pod.size α))

def makePointCloudMessage (pointCloudMsg : PointCloud2) : PointCloud2 :=
  let msg := { pointCloudMsg with pointStep := 0 }
  let msg := addPointCloudField 4 msg "x" PointField.float32
  let msg := addPointCloudField 4 msg "y" PointField.float32
  let msg := addPointCloudField 4 msg "z" PointField.float32
  let msg := addPointCloudField 4 msg "intensity" PointField.uint32
  let msg := addPointCloudField 4 msg "ambient_light" PointField.uint32
  let msg := addPointCloudField 4 msg "time_offset" PointField.float32
  let msg := addPointCloudField 4 msg "point_id" PointField.uint32
  addPointCloudField 4 msg "return_id" PointField.uint32

/-! ### One frame -/

def preparePointCloud (frame : Frame) (pointCloudMsg : PointCloud2) : PointCloud2 :=
  let numberOfPoints := frame.totalNumberOfReturns
  { pointCloudMsg with
    -- the product is computed in 32 bits before it is widened to `size_t`
    data := resize pointCloudMsg.data (numberOfPoints * pointCloudMsg.pointStep).toNat
    header := { pointCloudMsg.header with stamp := stampOf frame.startTimeNs }
    isDense := false
    height := 1
    width := numberOfPoints
    rowStep := pointCloudMsg.pointStep * numberOfPoints }

/-- The eight fields of one return; `time_offset` is deduced as a `uint64_t`. -/
def assignReturn (pointCloudMsg : PointCloud2) (pointIndex : Nat) (point : Point)
    (timeOffset : UInt64) (ret : Return) : Except Fault PointCloud2 := do
  let msg ← assignField pointCloudMsg pointIndex "x" (← element ret.cartesian 0)
  let msg ← assignField msg pointIndex "y" (← element ret.cartesian 1)
  let msg ← assignField msg pointIndex "z" (← element ret.cartesian 2)
  let msg ← assignField msg pointIndex "intensity" ret.intensity
  let msg ← assignField msg pointIndex "ambient_light" point.ambientLightLevel
  let msg ← assignField msg pointIndex "time_offset" timeOffset
  let msg ← assignField msg pointIndex "point_id" point.id
  assignField msg pointIndex "return_id" ret.id

def increment (pointIndex : Nat) : Except Fault Nat :=
  if pointIndex + 1 < 2 ^ 31 then .ok (pointIndex + 1) else .error .intOverflow

def fillReturn (point : Point) (timeOffset : UInt64) (acc : PointCloud2 × Nat) (ret : Return) :
    Except Fault (PointCloud2 × Nat) := do
  let msg ← assignReturn acc.1 acc.2 point timeOffset ret
  let pointIndex ← increment acc.2
  return (msg, pointIndex)

def fillPoint (scanline : Scanline) (acc : PointCloud2 × Nat) (point : Point) :
    Except Fault (PointCloud2 × Nat) :=
  let timeOffset := scanline.startOffsetNs + point.startOffsetNs
  point.returns.foldlM (fillReturn point timeOffset) acc

def fillScanline (acc : PointCloud2 × Nat) (scanline : Scanline) :
    Except Fault (PointCloud2 × Nat) :=
  scanline.points.foldlM (fillPoint scanline) acc

def fillPointCloud (frame : Frame) (pointCloudMsg : PointCloud2) : Except Fault PointCloud2 := do
  let (msg, _) ← frame.scanlines.foldlM fillScanline (preparePointCloud frame pointCloudMsg, 0)
  return msg

end Ilumo.Lidar
