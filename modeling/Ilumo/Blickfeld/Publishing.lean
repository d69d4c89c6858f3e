import Ilumo.Blickfeld.Unpacked
import Ilumo.Lidar.Encoding

/-!
# From the packed arrays to the published message

The stream hands the node an unpacked frame, and the node's callback writes its nested returns into
the point cloud message. So a scanner that packs its frames is published record by record: the
fields of record `i` are elements `i` of the arrays, the ambient light that of the first return of
its point.
-/

namespace Ilumo.Blickfeld

open Fallible Machine Runs

/-! ### The frame as the callback reads it -/

def Return.received (ret : Return) : Lidar.Return where
  id? := ret.id?
  cartesian := ret.cartesian
  intensity? := ret.intensity?

def Point.received (point : Point) : Lidar.Point where
  id? := point.id?
  returns := point.returns.map Return.received
  startOffsetNs? := point.startOffsetNs?
  ambientLightLevel? := point.ambientLightLevel?

def Scanline.received (scanline : Scanline) : Lidar.Scanline where
  points := scanline.points.map Point.received
  startOffsetNs? := scanline.startOffsetNs?

def Frame.received (frame : Frame) : Lidar.Frame where
  startTimeNs? := frame.startTimeNs?
  totalNumberOfReturns? := frame.totalNumberOfReturns?
  scanlines := frame.scanlines.map Scanline.received

theorem nested_received (frame : Frame) : frame.received.nested =
    gather (fun scanline point ret => ⟨scanline.received, point.received, ret.received⟩)
      frame.scanlines := by
  simp only [Lidar.Frame.nested, Frame.received, Lidar.Scanline.nested, Lidar.Point.nested, gather,
    Scanline.received, Point.received, List.flatMap_map, List.map_map, Function.comp_def]

variable {frame : Frame} {packed : Packed} {pointIds cartesian : List UInt8}

/-- What a record takes from a nested return. -/
def shown (nested : Lidar.Nested) : UInt32 × UInt32 × Lidar.Return :=
  (nested.point.id, nested.point.ambientLightLevel, nested.ret)

theorem map_shown_nested {unpacked : Frame} (hids : packed.pointId? = some pointIds)
    (hframe : unpacked = { frame with
      scanlines := unpackedScanlines frame packed, packed? := none }) :
    unpacked.received.nested.map shown =
      (List.range frame.totalNumberOfReturns.toNat).map fun i =>
        (at32 pointIds i,
          (packed.ambientLightLevel?.map (at32 · (start (at32 pointIds) i))).getD 0,
          (returnAt packed i).received) := by
  rw [nested_received, hframe, map_gather]
  exact gather_unpackedScanlines
    (g := fun point ret => (point.id, point.ambientLightLevel, ret.received)) hids
    fun _ _ _ _ _ => rfl

/-- Record `i` of the message shows element `i` of the arrays. -/
structure Shows (out : PointCloud2) (packed : Packed) (pointIds cartesian : List UInt8)
    (i : Nat) : Prop where
  x : Lidar.readWord out i "x" = some (at32 cartesian (i * 3 + 0))
  y : Lidar.readWord out i "y" = some (at32 cartesian (i * 3 + 1))
  z : Lidar.readWord out i "z" = some (at32 cartesian (i * 3 + 2))
  intensity : Lidar.readWord out i "intensity" = some ((packed.intensity?.map (at32 · i)).getD 0)
  ambientLight : Lidar.readWord out i "ambient_light" =
    some ((packed.ambientLightLevel?.map (at32 · (start (at32 pointIds) i))).getD 0)
  pointId : Lidar.readWord out i "point_id" = some (at32 pointIds i)
  returnId : Lidar.readWord out i "return_id" = some ((packed.returnId?.map (at8 · i)).getD 0)

theorem shows_of_holds {out : PointCloud2} {i : Nat} {nested : Lidar.Nested}
    (hcartesian : packed.cartesian? = some cartesian) (hholds : Lidar.Holds out i nested)
    (hshown : shown nested = (at32 pointIds i,
      (packed.ambientLightLevel?.map (at32 · (start (at32 pointIds) i))).getD 0,
      (returnAt packed i).received)) : Shows out packed pointIds cartesian i := by
  simp only [shown, Prod.mk.injEq] at hshown
  obtain ⟨hid, hambient, hret⟩ := hshown
  have hcoordinates : nested.ret.cartesian = cartesianAt cartesian i := by
    rw [hret, Return.received, returnAt, hcartesian]
    rfl
  refine ⟨?_, ?_, ?_, ?_, ?_, ?_, ?_⟩
  · rw [hholds.x, hcoordinates]
    rfl
  · rw [hholds.y, hcoordinates]
    rfl
  · rw [hholds.z, hcoordinates]
    rfl
  · rw [hholds.intensity, hret]
    rfl
  · rw [hholds.ambientLight, hambient]
  · rw [hholds.pointId, hid]
  · rw [hholds.returnId, hret]
    rfl

/-- **A packed frame is published as packed.** Whatever frames the message has been through, the
callback publishes one record for each element of the arrays, in their order. -/
theorem pointcloudCallback_shows {this : Lidar.LiDARPublisher} {frameId : String}
    {history : List Lidar.Frame} {s : Lidar.LiDARPublisher × PointCloud2}
    (hhistory : Exec Lidar.CloudStep (this, Lidar.preparedPointCloudMsg frameId) history s)
    (hpacked : frame.packed? = some packed) (hids : packed.pointId? = some pointIds)
    (hcartesian : packed.cartesian? = some cartesian) (hnone : frame.scanlines = [])
    (hsized : packed.Sized frame.totalNumberOfReturns.toNat)
    (hlocates : frame.Locates pointIds frame.totalNumberOfReturns.toNat)
    (hbound : frame.totalNumberOfReturns.toNat < 2 ^ 27) :
    ∃ unpacked this' out, convertPointCloud frame = .ok unpacked ∧
      Lidar.pointcloudCallback s.1 unpacked.received s.2 = .ok (this', out) ∧
      out.width = frame.totalNumberOfReturns ∧
      out.data.length = frame.totalNumberOfReturns.toNat * 32 ∧
      ∀ i < frame.totalNumberOfReturns.toNat, Shows out packed pointIds cartesian i := by
  have hdirected : packed.Directed := fun _ => by rw [hcartesian]; rfl
  have hconvert := unpacked_frame_eq hpacked hids hnone hsized hdirected hlocates
  obtain ⟨unpacked, hframe⟩ : ∃ unpacked : Frame, unpacked =
      { frame with scanlines := unpackedScanlines frame packed, packed? := none } := ⟨_, rfl⟩
  have hshown := map_shown_nested hids hframe
  have hcount : unpacked.received.nested.length = frame.totalNumberOfReturns.toNat := by
    rw [← List.length_map (f := shown), hshown, List.length_map, List.length_range]
  have htotal : unpacked.received.totalNumberOfReturns = frame.totalNumberOfReturns := by
    rw [hframe]
    rfl
  have hthree : ∀ nested ∈ unpacked.received.nested, 3 ≤ nested.ret.cartesian.length := by
    intro nested hnested
    have hmem := List.mem_map_of_mem (f := shown) hnested
    rw [hshown] at hmem
    obtain ⟨i, -, hi⟩ := List.mem_map.mp hmem
    have hret : (returnAt packed i).received = nested.ret := congrArg (·.2.2) hi
    rw [← hret, Return.received, returnAt, hcartesian]
    exact Nat.le_refl 3
  have hprep := Lidar.prepared_of_exec hhistory
  have hsize : unpacked.received.dataSize = frame.totalNumberOfReturns.toNat * 32 := by
    rw [← htotal]
    exact Lidar.dataSize_of_lt (by rwa [htotal])
  have hfits : unpacked.received.Fits := ⟨hthree, by rw [hcount, hsize]⟩
  have hprep' : Lidar.Prepared (Lidar.filledPointCloud unpacked.received s.2) := hprep
  rw [← hframe] at hconvert
  refine ⟨unpacked, _, _, hconvert, Lidar.pointcloudCallback_eq_ok.mpr
    ⟨rfl, Lidar.fillPointCloud_eq hprep hfits⟩, htotal, ?_, fun i hi => ?_⟩
  · rw [Lidar.length_filledPointCloud hfits, hsize]
  · have hi' : i < unpacked.received.nested.length := by omega
    apply shows_of_holds hcartesian (Lidar.holds_of_records hprep' rfl hi'
      (hthree _ (List.getElem_mem hi')))
    have hat := congrArg (fun shown => shown[i]?) hshown
    simpa [List.getElem?_eq_getElem hi', hi] using hat

theorem pointcloudCallback_shows_packedFrame :
    ∃ unpacked this' out, convertPointCloud packedFrame = .ok unpacked ∧
      Lidar.pointcloudCallback .new unpacked.received (Lidar.preparedPointCloudMsg "lidar_side") =
        .ok (this', out) ∧
      out.width = packedFrame.totalNumberOfReturns ∧
      out.data.length = packedFrame.totalNumberOfReturns.toNat * 32 ∧
      ∀ i < packedFrame.totalNumberOfReturns.toNat, Shows out (packedFrame.packed?.getD {})
        [0, 0, 0, 4, 0, 0, 0, 4, 0, 0, 0, 5]
        (List.replicate 12 1 ++ List.replicate 12 2 ++ List.replicate 12 3) i :=
  pointcloudCallback_shows .nil rfl rfl rfl rfl (sized_packedFrame _ rfl) (by decide) (by decide)

end Ilumo.Blickfeld
