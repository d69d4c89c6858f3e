import Ilumo.Lidar.History

/-!
# Frames that are encoded inside the buffer

The announced count gives the buffer its size, by a 32-bit product; the nested returns give the
records that are written, and each is taken to carry three coordinates. Nothing in the callback
relates the count to the nesting, so which frames stay inside is a condition on the frame.
-/

namespace Ilumo.Lidar

open Bytes Machine

/-- The frame is encoded without an access outside the message or a return, and the sizes of the
published message are what its counts say, no product having wrapped. -/
def EncodesSafely (s : LiDARPublisher × PointCloud2) (frame : Frame) : Prop :=
  ∃ this' out, pointcloudCallback s.1 frame s.2 = .ok (this', out) ∧
    out.data.length = out.height.toNat * out.rowStep.toNat ∧
    out.rowStep.toNat = out.width.toNat * out.pointStep.toNat

/-- Every return carries three coordinates, no more returns are nested than announced, and so few
are announced that the size of their records is a 32-bit number. -/
structure Frame.Sound (frame : Frame) : Prop where
  cartesian : ∀ nested ∈ frame.nested, 3 ≤ nested.ret.cartesian.length
  announced : frame.nested.length ≤ frame.totalNumberOfReturns.toNat
  bounded : frame.totalNumberOfReturns.toNat < 2 ^ 27

theorem CloudStep.sizes {s s' : LiDARPublisher × PointCloud2} {frame : Frame}
    (hprep : Prepared s.2) (h : CloudStep s frame s') :
    s'.2.data.length = frame.dataSize ∧ s'.2.height = 1 ∧
      s'.2.rowStep = frame.totalNumberOfReturns * 32 ∧
      s'.2.width = frame.totalNumberOfReturns ∧ s'.2.pointStep = 32 := by
  obtain ⟨hfits, hout⟩ := h.out_eq hprep
  rw [hout]
  refine ⟨length_filledPointCloud hfits s.2, rfl, ?_, rfl, hprep.pointStep⟩
  change s.2.pointStep * frame.totalNumberOfReturns = _
  rw [hprep.pointStep, UInt32.mul_comm]

/-- The row holds as many records as announced exactly when the product did not wrap. -/
theorem rowStep_eq_iff (frame : Frame) :
    (frame.totalNumberOfReturns * 32).toNat = frame.totalNumberOfReturns.toNat * 32 ↔
      frame.totalNumberOfReturns.toNat < 2 ^ 27 := by
  have hsize := dataSize_eq frame
  rw [Frame.dataSize] at hsize
  rw [hsize]
  omega

theorem encodesSafely_iff_of_prepared {s : LiDARPublisher × PointCloud2} (hprep : Prepared s.2)
    {frame : Frame} : EncodesSafely s frame ↔ frame.Sound := by
  have hwidth : (32 : UInt32).toNat = 32 := rfl
  refine ⟨?_, ?_⟩
  · intro h
    obtain ⟨this', out, hcallback, -, hrow⟩ := h
    have hstep : CloudStep s frame (this', out) := hcallback
    obtain ⟨-, -, hrowStep, hout, hpointStep⟩ := hstep.sizes hprep
    rw [hrowStep, hout, hpointStep, hwidth, rowStep_eq_iff] at hrow
    obtain ⟨hcartesian, hroom⟩ := (hstep.out_eq hprep).1
    rw [dataSize_of_lt hrow] at hroom
    exact ⟨hcartesian, by omega, hrow⟩
  · intro h
    obtain ⟨hcartesian, hannounced, hbounded⟩ := h
    have hfits : frame.Fits := ⟨hcartesian, by rw [dataSize_of_lt hbounded]; omega⟩
    obtain ⟨⟨this', out⟩, hstep⟩ := exists_cloudStep hprep hfits
    obtain ⟨hdata, hheight, hrowStep, hout, hpointStep⟩ := hstep.sizes hprep
    refine ⟨this', out, hstep, ?_, ?_⟩
    · rw [hdata, hheight, hrowStep]
      exact (Nat.one_mul _).symm
    · rw [hrowStep, hout, hpointStep, hwidth, rowStep_eq_iff]
      exact hbounded

/-- **When encoding a frame is memory safe.** After any history of the message object, exactly for
the frames that nest no more returns than they announce, announce fewer than `2 ^ 27`, and give
every return its three coordinates. -/
theorem encodesSafely_iff {this : LiDARPublisher} {frameId : String} {history : List Frame}
    {s : LiDARPublisher × PointCloud2}
    (hhistory : Exec CloudStep (this, preparedPointCloudMsg frameId) history s) (frame : Frame) :
    EncodesSafely s frame ↔ frame.Sound :=
  encodesSafely_iff_of_prepared (prepared_of_exec hhistory)

theorem encodesSafely_iff_raggedFrame :
    ∃ s, Exec CloudStep (.new, preparedPointCloudMsg "lidar_side") [earlierFrame] s ∧
      (EncodesSafely s raggedFrame ↔ raggedFrame.Sound) := by
  obtain ⟨s, hhistory⟩ := exists_exec_earlierFrame
  exact ⟨s, hhistory, encodesSafely_iff hhistory raggedFrame⟩

/-- The count is absent, one return is nested. -/
def unannouncedFrame : Frame where
  scanlines := [{ points := [{ returns := [{ cartesian := [0, 0, 0] }] }] }]

/-- Nothing is nested, but the size of the announced records is `2 ^ 32`. -/
def wrappedFrame : Frame where
  totalNumberOfReturns? := some 0x8000000

/-- The first frame writes into an empty buffer, the second is published with a row of no bytes. -/
theorem not_encodesSafely_unannouncedFrame_wrappedFrame :
    ¬ EncodesSafely (.new, preparedPointCloudMsg "lidar_side") unannouncedFrame ∧
      ¬ EncodesSafely (.new, preparedPointCloudMsg "lidar_side") wrappedFrame := by
  have hprep := prepared_preparedPointCloudMsg "lidar_side"
  refine ⟨?_, ?_⟩
  · rw [encodesSafely_iff_of_prepared hprep]
    exact fun hsound => absurd hsound.announced (by decide)
  · rw [encodesSafely_iff_of_prepared hprep]
    exact fun hsound => absurd hsound.bounded (by decide)

end Ilumo.Lidar
