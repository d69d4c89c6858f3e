import Ilumo.Blickfeld.Frame

/-!
# The two conversions of a received frame

`convert_point_cloud` either unpacks the arrays of a packed frame into the nested structure, opening
a scanline or a point whenever the id changes, or writes either format into the flat points of a
`frame_t`. The flat frame belongs to the stream and is converted into again and again: `resize`
keeps the points that are there.
-/

namespace Ilumo.Blickfeld

open Fallible

/-! ### Into the nested structure -/

/-- The frame under construction. `scanline` and `point` are null or point to the last scanline and
its last point, which are kept apart from the scanlines before. -/
structure Cursor where
  scanlines : List Scanline
  current : Option (Scanline × Point)
  deriving DecidableEq, Repr

def Cursor.finish (cursor : Cursor) : List Scanline :=
  cursor.scanlines ++ cursor.current.toList.map fun current => current.1.addPoint current.2

/-- A new point with the data of packed return `i`. -/
def newPoint (packed : Packed) (id : UInt32) (i : Nat) : Except Fault Point := do
  let direction? ← packed.direction?.mapM fun _ => do
    -- both angles are read from the cartesian array
    let cartesian := packed.cartesian?.getD []
    let azimuth ← load32 cartesian (i * 2 + 0)
    let elevation ← load32 cartesian (i * 2 + 1)
    pure { azimuth? := some azimuth, elevation? := some elevation : Direction }
  let ambientLightLevel? ← packed.ambientLightLevel?.mapM (load32 · i)
  let startOffsetNs? ← packed.startOffsetNs?.mapM (load64 · i)
  let channelId? ← packed.channelId?.mapM (load8 · i)
  return { id? := some id, startOffsetNs?, ambientLightLevel?, direction?, channelId? }

def newReturn (packed : Packed) (i : Nat) : Except Fault Return := do
  let id? ← packed.returnId?.mapM (load8 · i)
  let cartesian? ← packed.cartesian?.mapM fun bytes => do
    let x ← load32 bytes (i * 3 + 0)
    let y ← load32 bytes (i * 3 + 1)
    let z ← load32 bytes (i * 3 + 2)
    pure [x, y, z]
  let range? ← packed.range?.mapM (load32 · i)
  let intensity? ← packed.intensity?.mapM (load32 · i)
  return { id?, cartesian := cartesian?.getD [], range?, intensity? }

/-- The scanline and the point that return `i` with this point id is added to. -/
def seekPoint (frame : Frame) (packed : Packed) (cursor : Cursor) (id : UInt32) (i : Nat) :
    Except Fault (List Scanline × Scanline × Point) := do
  let scanlineId := (← getScanlineIdByPointId frame id).toUInt32.toUInt64
  match cursor.current with
  | none => return (cursor.scanlines, { id? := some scanlineId }, ← newPoint packed id i)
  | some (scanline, point) =>
      if scanlineId ≠ scanline.id then
        let point' ← newPoint packed id i
        return (cursor.scanlines ++ [scanline.addPoint point], { id? := some scanlineId }, point')
      else if id ≠ point.id then
        return (cursor.scanlines, scanline.addPoint point, ← newPoint packed id i)
      else
        return (cursor.scanlines, scanline, point)

/-- Without point ids the one point was added before the loop. -/
def unpackReturn (frame : Frame) (packed : Packed) (cursor : Cursor) (i : Nat) :
    Except Fault Cursor := do
  let (scanlines, scanline, point) ← match packed.pointId? with
    | some pointIds => do
        let id ← load32 pointIds i
        seekPoint frame packed cursor id i
    | none => match cursor.current with
        | some (scanline, point) => pure (cursor.scanlines, scanline, point)
        | none => .error .nullPointer
  let ret ← newReturn packed i
  return ⟨scanlines, some (scanline, point.addReturn ret)⟩

def convertPointCloud (frame : Frame) : Except Fault Frame :=
  match frame.packed? with
  | none => .ok frame
  | some packed => do
      let start : Cursor := ⟨frame.scanlines, if packed.pointId?.isNone then some ({}, {}) else none⟩
      let cursor ← (List.range frame.totalNumberOfReturns.toNat).foldlM (unpackReturn frame packed)
        start
      return { frame with scanlines := cursor.finish, packed? := none }

/-! ### Into the flat points -/

/-- `std::vector<point_t>::resize`. -/
def resizePoints (points : List PointT) (n : Nat) : List PointT :=
  points.take n ++ List.replicate (n - points.length) ({ } : PointT)

def unpackPoint (packed : Packed) (i : Nat) (old : PointT) : Except Fault PointT := do
  let id? ← packed.pointId?.mapM (load32 · i)
  let cartesian? ← packed.cartesian?.mapM fun bytes => do
    let x ← load32 bytes (i * 3 + 0)
    let y ← load32 bytes (i * 3 + 1)
    let z ← load32 bytes (i * 3 + 2)
    pure (x, y, z)
  let range? ← packed.range?.mapM (load32 · i)
  let intensity? ← packed.intensity?.mapM (load32 · i)
  let ambientLightLevel? ← packed.ambientLightLevel?.mapM (load32 · i)
  let (x, y, z) := cartesian?.getD (old.x, old.y, old.z)
  return {
    id := id?.getD old.id, x, y, z, range := range?.getD old.range
    intensity := (intensity?.map UInt32.toUInt16).getD old.intensity
    ambientLightLevel := (ambientLightLevel?.map UInt32.toUInt16).getD old.ambientLightLevel }

def writePoint (points : List PointT) (i : Nat) (fill : PointT → Except Fault PointT) :
    Except Fault (List PointT) :=
  match points[i]? with
  | none => .error (.writePastEnd i)
  | some old => do return points.set i (← fill old)

def element (values : List FloatWord) (index : Nat) : Except Fault FloatWord :=
  match values[index]? with
  | some value => .ok value
  | none => .error (.readPastEnd index)

def flatPoint (point : Point) (ret : Return) : Except Fault PointT := do
  let x ← element ret.cartesian 0
  let y ← element ret.cartesian 1
  let z ← element ret.cartesian 2
  return {
    id := point.id, x, y, z, range := ret.range
    intensity := ret.intensity.toUInt16
    ambientLightLevel := point.ambientLightLevel.toUInt16 }

def flattenReturn (point : Point) (acc : List PointT × Nat) (ret : Return) :
    Except Fault (List PointT × Nat) := do
  let points ← writePoint acc.1 acc.2 fun _ => flatPoint point ret
  return (points, acc.2 + 1)

def flattenPoint (acc : List PointT × Nat) (point : Point) : Except Fault (List PointT × Nat) :=
  point.returns.foldlM (flattenReturn point) acc

def flattenScanline (acc : List PointT × Nat) (scanline : Scanline) :
    Except Fault (List PointT × Nat) :=
  scanline.points.foldlM flattenPoint acc

/-- `toFloat` is the conversion of a `double` to a `float`. -/
def convertPointCloudT (toFloat : DoubleWord → FloatWord) (frame : Frame) (out : FrameT) :
    Except Fault FrameT := do
  let points ← match frame.packed? with
    | some packed =>
        (List.range packed.length.toNat).foldlM
          (fun points i => writePoint points i (unpackPoint packed i))
          (resizePoints out.points packed.length.toNat)
    | none => do
        let (points, _) ← frame.scanlines.foldlM flattenScanline
          (resizePoints out.points frame.totalNumberOfReturns.toNat, 0)
        pure points
  return {
    id := frame.id, points, frameRate := toFloat frame.scanPattern.maximum
    startTimeNs := frame.startTimeNs }

end Ilumo.Blickfeld
